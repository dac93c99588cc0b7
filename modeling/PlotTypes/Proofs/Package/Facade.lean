/-
  PlotTypes.Proofs.Package.Facade — the facade of a tree against the module of its root.

  A method of the facade and a constructor are made apart from each other, for the same
  compound. They agree in name, parameters and documentation, and the call that is written
  into the method gives the constructor each of its parameters once (`Constructs`). That no
  two keywords of a call are the same, and no two methods, is what validation is for
  (`siblings_of_valid`).
  - `constructs_methodOf`: one method and the class of the same compound.
  - `facade_constructs_classes`: all methods, in the order of the classes.
-/

import PlotTypes.Package.Facade
import PlotTypes.Proofs.Package.Class
import PlotTypes.Proofs.Package.Signature
import PlotTypes.Proofs.Python.Call
import PlotTypes.Proofs.Schema.Validity

namespace PlotTypes.Package

open PlotTypes.Python PlotTypes.Schema

/-! ## The compounds of a valid root -/

/-- Below a valid root the traces can stand together, and so can the attributes of each, of which there are some. -/
theorem siblings_of_valid {children : List Node} (hv : validate (Node.root children) = .ok ()) :
    Siblings (Node.root children).children ∧
      ∀ c ∈ (Node.root children).compoundChildren, Siblings c.children ∧ c.children ≠ [] := by
  obtain ⟨-, hroot⟩ := violation?_eq_none_iff.mp (validate_ok_iff.mp hv)
  obtain ⟨hs, hbelow⟩ := hroot rfl
  refine ⟨hs, fun c hc => ?_⟩
  obtain ⟨hmem, hcompound⟩ := Node.mem_compoundChildren.mp hc
  obtain ⟨hown, hc'⟩ := violation?_eq_none_iff.mp (hbelow c hmem)
  have hnotRoot : c.isRoot = false := by
    rw [Node.children_root, List.mem_map] at hmem
    obtain ⟨d, -, rfl⟩ := hmem
    exact Node.isRoot_placed [] d
  exact ⟨(hc' hcompound).1, (ownError?_eq_none_iff.mp hown).2 hcompound hnotRoot⟩

/-! ## One method and its class -/

/-- A method that makes an object of a class: its parameters are the constructor's, can be parameters of a method, and
    are all handed on by keyword. -/
structure Constructs (registerMethod : String) (m : MethodDecl) (c : ClassDecl) : Prop where
  className : m.className = c.name
  parameters : m.parameters = c.constructor.parameters
  doc : m.doc = c.constructor.doc
  distinct : (m.parameters.map (·.name)).Nodup
  receiver : ∀ p ∈ m.parameters, p.name ≠ receiver
  identifiers : ∀ p ∈ m.parameters, isIdentifier p.name = true
  call : ∃ arguments,
    methodLines registerMethod m = [""] ++ signatureLines m.name m.parameters ++ docBlockLines m.doc ++
      (inBody ("new_trace = " ++ c.name ++ "(") :: arguments ++ [inBody ")"]) ++
        [inBody "new_trace.parent = self", inBody ("return self." ++ registerMethod ++ "(new_trace)")] ∧
      arguments.map argumentOf? = c.constructor.parameters.map fun p => some (p.name, p.name)

theorem exists_child_of_mem_parameters {n : Node} {p : Parameter} (hp : p ∈ parameters n) :
    ∃ a ∈ n.children, a.parameter = p.name := by
  have hname : p.name ∈ (parameters n).map (·.name) := List.mem_map_of_mem hp
  rw [names_parameters, List.mem_map] at hname
  exact hname

theorem constructs_methodOf {s : Settings} {n : Node} {c : ClassDecl} (hc : (classOf s n).result = .ok c)
    (hs : Siblings n.children) (hne : n.children ≠ []) : Constructs s.registerMethod (methodOf s n) c := by
  obtain ⟨ps, -, rfl⟩ := classOf_ok_iff.mp hc
  have hidentifiers : ∀ p ∈ parameters n, isIdentifier p.name = true := by
    intro p hp
    obtain ⟨a, ha, hname⟩ := exists_child_of_mem_parameters hp
    rw [← hname]
    exact (hs.identifiers a ha).2
  refine ⟨rfl, rfl, rfl, ?_, ?_, hidentifiers, ?_⟩
  · show ((parameters n).map _).Nodup
    rw [names_parameters]
    exact hs.parameters
  · intro p hp
    obtain ⟨a, ha, hname⟩ := exists_child_of_mem_parameters hp
    rw [← hname]
    exact hs.receiver a ha
  · have hparameters : parameters n ≠ [] := by
      intro h
      have := names_parameters n
      rw [h] at this
      exact hne (List.map_eq_nil_iff.mp this.symm)
    obtain ⟨arguments, hlines, hread⟩ := callLines_arguments n.className hparameters hidentifiers
    refine ⟨arguments, ?_, hread⟩
    unfold methodLines
    show _ ++ callLines n.className (parameters n) ++ _ = _
    rw [hlines]
    rfl

/-! ## The whole facade -/

theorem methodLines_infix {f : FacadeDecl} {m : MethodDecl} (hm : m ∈ f.methods) :
    methodLines f.registerMethod m <:+: f.lines := by
  unfold FacadeDecl.lines
  have hmem : methodLines f.registerMethod m ∈ f.methods.map (methodLines f.registerMethod) := List.mem_map_of_mem hm
  exact (List.infix_of_mem_flatten hmem).trans (List.suffix_append _ _).isInfix

theorem nodup_names_methodOf {s : Settings} {n : Node} (hs : Siblings n.children) :
    ((n.compoundChildren.map (methodOf s)).map (·.name)).Nodup := by
  have hp : (n.compoundChildren.map (·.parameter)).Nodup := (List.filter_sublist.map _).nodup hs.parameters
  have hnames : (n.compoundChildren.map (methodOf s)).map (·.name) =
      (n.compoundChildren.map (·.parameter)).map (s.methodPrefix ++ ·) := by
    simp only [List.map_map]
    rfl
  rw [hnames]
  exact List.Pairwise.map _ (fun _ _ hne h => hne ((String.append_right_inj _).mp h)) hp

/-- The facade of a valid tree whose root has a module, or needs none: a method for each class, in order, under names of
    their own, and an import of just these classes. -/
theorem facade_constructs_classes {s : Settings} {children : List Node} {made : Option ModuleDecl}
    (hv : validate (Node.root children) = .ok ()) (hm : (moduleOf s (Node.root children)).result = .ok made) :
    ∃ f, facadeOf s (Node.root children) = .ok f ∧
      List.Forall₂ (Constructs f.registerMethod) f.methods (classesOf made) ∧
        f.imports = [.names s.baseModule [⟨s.facadeBase, none⟩],
          .names (s.datatypesModule "") ((classesOf made).map fun c => ⟨c.name, none⟩)] ∧
            (f.methods.map (·.name)).Nodup ∧ ∀ m ∈ f.methods, methodLines f.registerMethod m <:+: f.lines := by
  obtain ⟨hs, hbelow⟩ := siblings_of_valid hv
  have hclasses := classesOf_moduleOf hm
  have hmethods : List.Forall₂ (Constructs s.registerMethod) ((Node.root children).compoundChildren.map (methodOf s))
      (classesOf made) := by
    rw [List.forall₂_map_left_iff]
    refine (forall₂_of_mem hclasses).imp ?_
    rintro n c ⟨hn, hc⟩
    exact constructs_methodOf hc (hbelow n hn).1 (hbelow n hn).2
  unfold facadeOf
  rw [if_pos (Node.isRoot_root children)]
  refine ⟨_, rfl, hmethods, ?_, nodup_names_methodOf hs, fun _ => methodLines_infix⟩
  have himported := map_eq_map_of_forall₂ (f := fun m : MethodDecl => (⟨m.className, none⟩ : ImportedName))
    (g := fun c : ClassDecl => ⟨c.name, none⟩) (fun _ _ h => by rw [h.className]) hmethods
  rw [← himported]

def twoTraces : List Node :=
  [Node.compound "bar" [Node.leaf "x" "data_array", Node.compound "line" [Node.leaf "dash_width" "number"]],
    Node.compound "pie" [Node.leaf "Labels" "string", Node.element "steps" "step" [Node.leaf "value" "any"]]]

theorem facade_constructs_classes_two :
    validate (Node.root twoTraces) = .ok () ∧
      ∃ made, (moduleOf .standard (Node.root twoTraces)).result = .ok made ∧
        ∃ f, facadeOf .standard (Node.root twoTraces) = .ok f ∧
          f.methods.map (·.parameters.map (·.name)) = [["x", "line"], ["labels", "steps"]] ∧
          List.Forall₂ (Constructs f.registerMethod) f.methods (classesOf made) ∧
            f.imports = [.names "ipyplotly.basedatatypes" [⟨"BaseFigureWidget", none⟩],
              .names "ipyplotly.datatypes.trace" ((classesOf made).map fun c => ⟨c.name, none⟩)] ∧
                (f.methods.map (·.name)).Nodup ∧ ∀ m ∈ f.methods, methodLines f.registerMethod m <:+: f.lines := by
  have hv : validate (Node.root twoTraces) = .ok () := validate_ok_iff.mpr (by decide +kernel)
  have hnames : (facadeOf .standard (Node.root twoTraces)).toOption.map (·.methods.map (·.parameters.map (·.name))) =
      some [["x", "line"], ["labels", "steps"]] := by decide +kernel
  have hmade : (moduleOf .standard (Node.root twoTraces)).result.toOption.isSome = true := by decide +kernel
  cases hm : (moduleOf .standard (Node.root twoTraces)).result with
  | error e => rw [hm] at hmade; cases hmade
  | ok made =>
    obtain ⟨f, hf, h⟩ := facade_constructs_classes hv hm
    rw [hf] at hnames
    exact ⟨hv, made, rfl, f, hf, Option.some.inj hnames, h⟩

end PlotTypes.Package
