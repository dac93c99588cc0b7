/-
  PlotTypes.Proofs.Package.Names — the class names of a package.

  The check looks at properties and parameters, and a class name is neither. So siblings
  that it accepts can have one class name, and a class name need not be one that Python
  takes. When either happens is said of the names in the schema, by how they are spelt.
  - `derived_names_apart_iff`: classes and validators of siblings have different names exactly
    when no two of the names are spelt alike. `error_x` and `errorX` are (`error_declared_twice`).
  - `class_names_usable_iff`: a class has a name that Python takes, and that nothing imported
    has, exactly when it has the shape of an identifier and the name in the schema is not spelt
    like one of five words; and no trace takes the place of the facade when none is spelt like
    it or its base. The names `none` and `number` break the first, `figure` the second
    (`none_in_figure`).

  Array elements go by a name that the check does not look at. It can be any text, so only
  for those whose name is a word is the shape of the class name read off the first letter.
-/

import PlotTypes.Proofs.Package.Location
import PlotTypes.Proofs.Python.ClassName
import PlotTypes.Proofs.Schema.Regularity

namespace PlotTypes.Package

open PlotTypes.Python PlotTypes.Schema

variable {s : Settings} {n p : Node} {text : String}

/-! ## Names in a loaded tree -/

theorem everywhere_regular_of_load (h : load text = .ok n) : Node.Everywhere Regular n := by
  obtain ⟨document, hread, hn, -⟩ := load_ok_iff.mp h
  exact everywhere_regular_of_ofJson (Json.uniqueKeys_of_read hread) hn

/-- The property of an attribute is an identifier. -/
theorem Loaded.wordText_property (h : Loaded n) (hp : p ∈ n.reached) : ∀ a ∈ p.children, WordText a.property :=
  fun a ha => wordText_of_isIdentifier ((siblings_of_mem_reached h.isCompound h.valid hp).identifiers a ha).1

/-- Compounds go by their property; array elements are asked for a word. -/
theorem Loaded.wordText_name (h : Loaded n) (hp : p ∈ n.reached) {c : Node} (hc : c ∈ p.compoundChildren)
    (hword : c.isElement = true → WordText c.name) : WordText c.name := by
  have hchild := (Node.mem_compoundChildren.mp hc).1
  cases he : c.isElement with
  | true => exact hword he
  | false =>
    rw [((h.named.reached p hp).child c hchild).here.others he]
    exact h.wordText_property hp c hchild

theorem className_of_mem (h : Node.Everywhere Regular n) (hp : p ∈ n.reached) {c : Node} (hc : c ∈ p.compoundChildren) :
    c.className = className c.name :=
  ((h.reached p hp).child c (Node.mem_compoundChildren.mp hc).1).here.className

/-! ## Names of siblings -/

structure DerivesApart (p : Node) : Prop where
  validators : (p.children.map fun a => validatorName a.property).Nodup ↔
    p.children.Pairwise fun a b => ¬SpeltAlike a.property b.property
  classes : (p.compoundChildren.map (·.className)).Nodup ↔
    p.compoundChildren.Pairwise fun a b => ¬SpeltAlike a.name b.name
  /-- The check of parameters leaves only names with underscores. -/
  underscores : p.children.Pairwise fun a b =>
    SpeltAlike a.property b.property → '_' ∈ a.property.toList ∨ '_' ∈ b.property.toList

/-- Names derived from the elements of a list differ exactly when no two elements are related. -/
theorem nodup_map_iff_pairwise {α : Type} {R : α → α → Prop} {f : α → String} {l : List α}
    (h : ∀ a ∈ l, ∀ b ∈ l, f a = f b ↔ R a b) : (l.map f).Nodup ↔ l.Pairwise fun a b => ¬R a b := by
  rw [List.Nodup, List.pairwise_map]
  exact List.Pairwise.iff_of_mem fun {a b} ha hb => not_congr (h a ha b hb)

theorem derivesApart_of_mem_reached (hn : load text = .ok n) (hp : p ∈ n.reached) : DerivesApart p := by
  have hloaded := loaded_of_load hn
  have hregular := everywhere_regular_of_load hn
  have hwords := hloaded.wordText_property hp
  refine ⟨nodup_map_iff_pairwise fun _ _ _ _ => validatorName_eq_iff, ?_, ?_⟩
  · refine nodup_map_iff_pairwise fun a ha b hb => ?_
    rw [className_of_mem hregular hp ha, className_of_mem hregular hp hb, className_eq_iff]
  · have hparameters := (siblings_of_mem_reached hloaded.isCompound hloaded.valid hp).parameters
    rw [List.Nodup, List.pairwise_map] at hparameters
    refine hparameters.imp_of_mem fun {a b} ha hb hne halike => ?_
    have hchild : ∀ c ∈ p.children, c.parameter = parameterName c.property :=
      fun c hc => ((hregular.reached p hp).child c hc).here.parameter
    rw [hchild a ha, hchild b hb] at hne
    exact underscore_mem_of_speltAlike (hwords a ha) (hwords b hb) halike hne

/-- In the tree of an accepted text, at every compound: the validators of all attributes have different class names
    exactly when no two properties are spelt alike, and so it is for the classes of the compounds among them. These are
    the classes of the module of the compound, and the validators that each class makes. -/
theorem derived_names_apart_iff (hn : load text = .ok n) :
    (∀ p ∈ n.reached, DerivesApart p) ∧
      ∀ s, ∀ e ∈ madeModules s n, e.2.classes.map (·.name) = e.1.compoundChildren.map (·.className) ∧
        e.2.classes.map (·.constructor.registrations.map (·.className)) =
          e.1.compoundChildren.map fun c => c.children.map fun a => validatorName a.property := by
  refine ⟨fun p => derivesApart_of_mem_reached hn, ?_⟩
  rintro s ⟨p, m⟩ he
  have hclasses := (moduleOf_some_iff.mp (mem_madeModules.mp he).2).2.2
  constructor
  · refine (map_eq_map_of_forall₂ (fun c d hd => ?_) hclasses).symm
    obtain ⟨ps, -, rfl⟩ := classOf_ok_iff.mp hd
    rfl
  · refine (map_eq_map_of_forall₂ (fun c d hd => ?_) hclasses).symm
    obtain ⟨ps, -, rfl⟩ := classOf_ok_iff.mp hd
    rw [constructorOf, List.map_map]
    rfl

def errorBarsText : String :=
  "\x7b\"traces\":\x7b\"bar\":\x7b\"attributes\":\x7b\"error_x\":\x7b\"a\":\x7b\"valType\":\"any\"\x7d\x7d," ++
    "\"error_y\":\x7b\"a\":\x7b\"valType\":\"any\"\x7d\x7d," ++
    "\"error_zs\":\x7b\"items\":\x7b\"error_z\":\x7b\"a\":\x7b\"valType\":\"any\"\x7d\x7d\x7d\x7d\x7d\x7d\x7d\x7d"

def errorBarsTree : Node :=
  Node.root [Node.compound "bar" [Node.compound "error_x" [Node.leaf "a" "any"],
    Node.compound "error_y" [Node.leaf "a" "any"], Node.element "error_zs" "error_z" [Node.leaf "a" "any"]]]

set_option maxRecDepth 10000 in
theorem load_errorBarsText : load errorBarsText = .ok errorBarsTree := toOption_eq_some_iff.mp (by decide +kernel)

theorem derived_names_apart_iff_errorBars :
    load errorBarsText = .ok errorBarsTree ∧
      (madeModules .standard errorBarsTree).map (·.2.classes.map (·.name)) = [["Bar"], ["ErrorX", "ErrorY", "ErrorZ"]] ∧
      (∀ p ∈ errorBarsTree.reached, DerivesApart p) ∧
      ∀ s, ∀ e ∈ madeModules s errorBarsTree, e.2.classes.map (·.name) = e.1.compoundChildren.map (·.className) ∧
        e.2.classes.map (·.constructor.registrations.map (·.className)) =
          e.1.compoundChildren.map fun c => c.children.map fun a => validatorName a.property :=
  ⟨load_errorBarsText, by decide +kernel, derived_names_apart_iff load_errorBarsText⟩

def errorTwiceText : String :=
  "\x7b\"traces\":\x7b\"bar\":\x7b\"attributes\":\x7b\"error_x\":\x7b\"a\":\x7b\"valType\":\"any\"\x7d\x7d," ++
    "\"errorX\":\x7b\"a\":\x7b\"valType\":\"any\"\x7d\x7d\x7d\x7d\x7d\x7d"

def errorTwiceTree : Node :=
  Node.root [Node.compound "bar" [Node.compound "error_x" [Node.leaf "a" "any"],
    Node.compound "errorX" [Node.leaf "a" "any"]]]

set_option maxRecDepth 10000 in
theorem load_errorTwiceText : load errorTwiceText = .ok errorTwiceTree := toOption_eq_some_iff.mp (by decide +kernel)

/-- The text is accepted and nothing fails. The module of `bar` declares a class twice, and its class has one validator
    for both properties. -/
theorem error_declared_twice :
    load errorTwiceText = .ok errorTwiceTree ∧
      generateFromText .standard errorTwiceText = .ok (generate .standard errorTwiceTree) ∧
      (generate .standard errorTwiceTree).report.failures = [] ∧
      (madeModules .standard errorTwiceTree).map (·.2.classes.map (·.name)) = [["Bar"], ["ErrorX", "ErrorX"]] ∧
      (madeModules .standard errorTwiceTree).map
          (·.2.classes.map (·.constructor.registrations.map fun r => (r.property, r.className))) =
        [[[("error_x", "ErrorXValidator"), ("errorX", "ErrorXValidator")]],
          [[("a", "AValidator")], [("a", "AValidator")]]] ∧
      ∃ p ∈ errorTwiceTree.reached, ¬(p.compoundChildren.map (·.className)).Nodup ∧
        ¬(p.children.map fun a => validatorName a.property).Nodup :=
  ⟨load_errorTwiceText, generateFromText_of_load load_errorTwiceText, by decide +kernel, by decide +kernel,
    by decide +kernel, by decide +kernel⟩

/-! ## Names that can be used -/

def boundNames (m : ModuleDecl) : List String :=
  m.imports.flatMap fun
    | .all _ => []
    | .names _ names => names.map fun i => i.localName.getD i.name

def Usable (m : ModuleDecl) (name : String) : Prop := isIdentifier name = true ∧ name ∉ boundNames m

instance (m : ModuleDecl) (name : String) : Decidable (Usable m name) := inferInstanceAs (Decidable (_ ∧ _))

/-- The words that no class name can be, with the standard settings. -/
def takenNames : List String := capitalKeywords ++ ["Number", Settings.standard.classBase]

theorem mem_boundNames_importsOf {m : ModuleDecl} {name : String} (hm : m.imports = importsOf .standard p) :
    name ∈ boundNames m ↔ name = "Number" ∨ name = Settings.standard.classBase ∨
      ∃ c ∈ p.compoundChildren, name = "v_" ++ c.name ∨ name = "d_" ++ c.name := by
  simp only [boundNames, hm, importsOf, importedAs, List.flatMap_cons, List.flatMap_nil, List.map_map, List.mem_append,
    List.map_cons, List.map_nil, List.mem_singleton, List.mem_map, Option.getD, Function.comp_def, List.not_mem_nil,
    or_false, false_or]
  constructor
  · rintro (h | h | ⟨c, hc, rfl⟩ | ⟨c, hc, rfl⟩)
    · exact .inl h
    · exact .inr (.inl h)
    · exact .inr (.inr ⟨c, hc, .inl rfl⟩)
    · exact .inr (.inr ⟨c, hc, .inr rfl⟩)
  · rintro (h | h | ⟨c, hc, rfl | rfl⟩)
    · exact .inl h
    · exact .inr (.inl h)
    · exact .inr (.inr (.inl ⟨c, hc, rfl⟩))
    · exact .inr (.inr (.inr ⟨c, hc, rfl⟩))

/-- Local names of imported modules have an underscore, and class names have none. -/
theorem className_mem_boundNames_iff {m : ModuleDecl} {x : String} (hm : m.imports = importsOf .standard p) :
    className x ∈ boundNames m ↔ ∃ w ∈ ["Number", Settings.standard.classBase], SpeltAlike x w := by
  have hfixed : ∀ w ∈ ["Number", Settings.standard.classBase], className w = w := by decide +kernel
  have halike : ∀ w ∈ ["Number", Settings.standard.classBase], className x = w ↔ SpeltAlike x w :=
    fun w hw => className_eq_iff_of_fixed (hfixed w hw)
  rw [mem_boundNames_importsOf hm]
  constructor
  · rintro (h | h | ⟨c, -, h | h⟩)
    · exact ⟨_, List.mem_cons_self, (halike _ List.mem_cons_self).mp h⟩
    · exact ⟨_, .tail _ List.mem_cons_self, (halike _ (.tail _ List.mem_cons_self)).mp h⟩
    · refine absurd ?_ (underscore_not_mem_className x)
      simp [h]
    · refine absurd ?_ (underscore_not_mem_className x)
      simp [h]
  · rintro ⟨w, hw, h⟩
    rcases List.mem_cons.mp hw with rfl | hw
    · exact .inl ((halike _ List.mem_cons_self).mpr h)
    · obtain rfl := List.mem_singleton.mp hw
      exact .inr (.inl ((halike _ (.tail _ List.mem_cons_self)).mpr h))

theorem usable_className_iff {m : ModuleDecl} {x : String} (hm : m.imports = importsOf .standard p) :
    Usable m (className x) ↔ isWord (className x).toList = true ∧ ∀ w ∈ takenNames, ¬SpeltAlike x w := by
  rw [Usable, isIdentifier_className_iff, className_mem_boundNames_iff hm, takenNames, List.forall_mem_append]
  simp only [not_exists, not_and, and_assoc]

structure UsableWhere (m : ModuleDecl) (owner : Node) (c : ClassDecl) : Prop where
  usable : Usable m c.name ↔ isWord c.name.toList = true ∧ ∀ w ∈ takenNames, ¬SpeltAlike owner.name w
  /-- Of a name that is a word, the class name has the shape of an identifier when a letter comes first. -/
  letter : (owner.isElement = true → WordText owner.name) → isWord c.name.toList = startsWithLetter owner.name

def facadeNames : List String := [Settings.standard.facadeClass, Settings.standard.facadeBase]

/-- The facade imports the classes of the traces. -/
theorem facade_imports_iff {f : FacadeDecl} (hf : facadeOf .standard n = .ok f) {P : String → Prop} :
    (∀ names, Import.names (Settings.standard.datatypesModule "") names ∈ f.imports → ∀ i ∈ names, P i.name) ↔
      ∀ t ∈ n.compoundChildren, P t.className := by
  unfold facadeOf at hf
  split at hf
  case isFalse => cases hf
  cases hf
  have hother : Settings.standard.datatypesModule "" ≠ Settings.standard.baseModule := by decide
  simp only [List.mem_cons, Import.names.injEq, hother, false_and, List.not_mem_nil, or_false, false_or, true_and,
    forall_eq, List.map_map, List.forall_mem_map, Function.comp_def, methodOf]

theorem facade_apart_iff {f : FacadeDecl} (hn : load text = .ok n) (hf : facadeOf .standard n = .ok f) :
    (∀ names, Import.names (Settings.standard.datatypesModule "") names ∈ f.imports →
        ∀ i ∈ names, i.name ≠ f.className ∧ i.name ≠ f.base) ↔
      ∀ t ∈ n.compoundChildren, ∀ w ∈ facadeNames, ¬SpeltAlike t.name w := by
  have hloaded := loaded_of_load hn
  have hregular := everywhere_regular_of_load hn
  have hself := Node.self_mem_reached n
  have hfixed : ∀ w ∈ facadeNames, className w = w := by decide +kernel
  have hnames : facadeNames = [f.className, f.base] := by
    rw [facadeOf, if_pos hloaded.isRoot] at hf
    cases hf
    rfl
  rw [facade_imports_iff hf (P := fun name => name ≠ f.className ∧ name ≠ f.base)]
  refine forall₂_congr fun t ht => ?_
  have halike : ∀ w ∈ facadeNames, t.className = w ↔ SpeltAlike t.name w := by
    intro w hw
    rw [className_of_mem hregular hself ht]
    exact className_eq_iff_of_fixed (hfixed w hw)
  have hapart : (∀ w ∈ facadeNames, t.className ≠ w) ↔ t.className ≠ f.className ∧ t.className ≠ f.base := by
    rw [hnames, List.forall_mem_cons, List.forall_mem_singleton]
  rw [← hapart]
  exact forall₂_congr fun w hw => not_congr (halike w hw)

/-- With the standard settings, for every accepted text. The name of a class can be used in its module exactly when it
    has the shape of an identifier and its node is not spelt like a taken name. The facade imports neither its own name
    nor that of its base exactly when no trace is spelt like one of them. -/
theorem class_names_usable_iff {run : Run} (hn : load text = .ok n) (hr : generateFromText .standard text = .ok run) :
    ∃ f, facadeOf .standard n = .ok f ∧
      run.report.units = (madeModules .standard n).map (unitOf .standard) ++ [⟨facadePath, f.source⟩] ∧
      (∀ e ∈ madeModules .standard n, List.Forall₂ (UsableWhere e.2) e.1.compoundChildren e.2.classes) ∧
      ((∀ names, Import.names (Settings.standard.datatypesModule "") names ∈ f.imports →
          ∀ i ∈ names, i.name ≠ f.className ∧ i.name ≠ f.base) ↔
        ∀ t ∈ n.compoundChildren, ∀ w ∈ facadeNames, ¬SpeltAlike t.name w) := by
  have hloaded := loaded_of_load hn
  have hregular := everywhere_regular_of_load hn
  rw [generateFromText, hn, Except.ok.injEq] at hr
  subst hr
  obtain ⟨f, hf, hreport⟩ := report_generate_of_isRoot .standard hloaded.isRoot
  refine ⟨f, hf, by rw [hreport], ?_, facade_apart_iff hn hf⟩
  rintro ⟨p, m⟩ he
  obtain ⟨hp, hm⟩ := mem_madeModules.mp he
  obtain ⟨-, himports, hclasses⟩ := moduleOf_some_iff.mp hm
  refine (forall₂_of_mem hclasses).imp ?_
  rintro owner c ⟨howner, hc⟩
  have hname : c.name = className owner.name := by
    obtain ⟨ps, -, rfl⟩ := classOf_ok_iff.mp hc
    exact className_of_mem hregular hp howner
  constructor
  · rw [hname]
    exact usable_className_iff himports
  · intro hword
    rw [hname]
    exact isWord_className_iff (hloaded.wordText_name hp howner hword)

theorem class_names_usable_iff_errorBars :
    load errorBarsText = .ok errorBarsTree ∧
      generateFromText .standard errorBarsText = .ok (generate .standard errorBarsTree) ∧
      (madeModules .standard errorBarsTree).map (fun e => e.2.classes.map fun c => decide (Usable e.2 c.name)) =
        [[true], [true, true, true]] ∧
      ∃ f, facadeOf .standard errorBarsTree = .ok f ∧
        (generate .standard errorBarsTree).report.units =
          (madeModules .standard errorBarsTree).map (unitOf .standard) ++ [⟨facadePath, f.source⟩] ∧
        (∀ e ∈ madeModules .standard errorBarsTree,
          List.Forall₂ (UsableWhere e.2) e.1.compoundChildren e.2.classes) ∧
        ((∀ names, Import.names (Settings.standard.datatypesModule "") names ∈ f.imports →
            ∀ i ∈ names, i.name ≠ f.className ∧ i.name ≠ f.base) ↔
          ∀ t ∈ errorBarsTree.compoundChildren, ∀ w ∈ facadeNames, ¬SpeltAlike t.name w) := by
  have hr := generateFromText_of_load (s := .standard) load_errorBarsText
  exact ⟨load_errorBarsText, hr, by decide +kernel, class_names_usable_iff load_errorBarsText hr⟩

/-- A trace spelt like the facade, with a compound spelt like a keyword and one spelt like an import. -/
def noneText : String :=
  "\x7b\"traces\":\x7b\"figure\":\x7b\"attributes\":\x7b\"none\":\x7b\"a\":\x7b\"valType\":\"any\"\x7d\x7d," ++
    "\"number\":\x7b\"a\":\x7b\"valType\":\"any\"\x7d\x7d\x7d\x7d\x7d\x7d"

def noneTree : Node :=
  Node.root [Node.compound "figure" [Node.compound "none" [Node.leaf "a" "any"],
    Node.compound "number" [Node.leaf "a" "any"]]]

set_option maxRecDepth 10000 in
theorem load_noneText : load noneText = .ok noneTree := toOption_eq_some_iff.mp (by decide +kernel)

/-- The text is accepted and nothing fails. The module of `figure` declares a class with the name of a keyword and one
    with the name of an import, and the facade imports its own name. -/
theorem none_in_figure :
    load noneText = .ok noneTree ∧ generateFromText .standard noneText = .ok (generate .standard noneTree) ∧
      (generate .standard noneTree).report.failures = [] ∧
      (∃ e ∈ madeModules .standard noneTree, unitOf .standard e ∈ (generate .standard noneTree).report.units ∧
        e.2.classes.map (·.name) = ["None", "Number"] ∧ isKeyword "None" = true ∧ "Number" ∈ boundNames e.2 ∧
        ∀ c ∈ e.2.classes, ¬Usable e.2 c.name) ∧
      ∃ f, facadeOf .standard noneTree = .ok f ∧
        Import.names (Settings.standard.datatypesModule "") [⟨f.className, none⟩] ∈ f.imports := by
  refine ⟨load_noneText, generateFromText_of_load load_noneText, by decide +kernel, ?_, ⟨_, rfl, by decide +kernel⟩⟩
  obtain ⟨e, he, hclasses⟩ : ∃ e ∈ madeModules .standard noneTree, e.2.classes.map (·.name) = ["None", "Number"] ∧
      isKeyword "None" = true ∧ "Number" ∈ boundNames e.2 ∧ ∀ c ∈ e.2.classes, ¬Usable e.2 c.name := by
    decide +kernel
  exact ⟨e, he, unitOf_mem_units he, hclasses⟩

end PlotTypes.Package
