/-
  PlotTypes.Proofs.Package.Completeness — the generated classes against the schema document.

  Nothing of a document is lost on the way to its package, and nothing is added or moved:
  the classes stand for the compound objects, one each, and what a class holds stands for
  the attribute entries of its object, in document order (`Mirrors`). The only condition is
  that every leaf has a type tag that is known; then no module fails either.
  - `mirrors_of_readFrom`: one class, and the object that its compound is read from.
  - `made_of_leavesTyped`: typed leaves are all a module needs.
  - `classes_mirror_compoundObjects`: all classes of a package.
-/

import PlotTypes.Proofs.Package.Signature
import PlotTypes.Proofs.Package.Walk
import PlotTypes.Proofs.Schema.Reading

namespace PlotTypes.Package

open PlotTypes.Python PlotTypes.Schema

/-! ## One class -/

/-- What a class holds is what its object holds, in the same order. -/
structure Mirrors (o : CompoundObject) (c : ClassDecl) : Prop where
  typeName : c.constructor.typeName = String.intercalate "." o.path
  properties : c.properties.map (·.name) = o.keys
  registrations : c.constructor.registrations.map (·.property) = o.keys
  assigned : c.constructor.assigned = o.keys.map fun key => ⟨key, parameterName key⟩
  parameters : c.constructor.parameters =
    (attributeEntries o.members).mapIdx fun i e => ⟨parameterName e.1, defaultOf e.2, i⟩
  documented : c.constructor.doc.parameters.map (·.name) = o.keys.map parameterName

theorem mirrors_of_readFrom {s : Settings} {o : CompoundObject} {n : Node} {c : ClassDecl} (h : ReadFrom o n)
    (hc : (classOf s n).result = .ok c) : Mirrors o c := by
  obtain ⟨ps, hps, rfl⟩ := classOf_ok_iff.mp hc
  have he := h.readEntries
  have hproperty : n.children.map (·.property) = o.keys :=
    (map_eq_map_of_forall₂ (fun _ _ hr => hr.property.symm) he).symm
  have hparameter : n.children.map (·.parameter) = o.keys.map parameterName := by
    rw [CompoundObject.keys, List.map_map]
    exact (map_eq_map_of_forall₂ (fun _ _ hr => hr.parameter.symm) he).symm
  refine ⟨?_, ?_, ?_, ?_, ?_, ?_⟩
  · show n.dottedPath = _
    rw [Node.dottedPath, h.path]
  · rw [← hproperty]
    symm
    refine map_eq_map_of_forall₂ ?_ hps
    intro a p hp
    exact (propertyOf_ok hp).1.symm
  · rw [← hproperty]
    show (n.children.map _).map _ = _
    rw [List.map_map]
    rfl
  · rw [assigned_constructorOf, CompoundObject.keys, List.map_map]
    exact (map_eq_map_of_forall₂ (fun _ _ hr => by simp [hr.property, hr.parameter]) he).symm
  · exact (mapIdx_eq_mapIdx_of_forall₂ (fun _ _ _ hr => by rw [hr.parameter, hr.defaultValue]) he).symm
  · rw [← hparameter]
    exact parameters_docBlock s n

/-! ## All classes -/

def typeTag? (members : Json.Members) : Option String := (members.get? "valType").bind Json.string?

def LeavesTyped (document : Json) : Prop :=
  ∀ o ∈ compoundObjects document, ∀ e ∈ attributeEntries o.members, ∀ tag ∈ typeTag? e.2,
    (Primitive.ofTag? tag).isSome = true

instance (document : Json) : Decidable (LeavesTyped document) := by
  unfold LeavesTyped
  infer_instance

theorem made_of_leavesTyped {s : Settings} {document : Json} {n : Node} (hn : ofJson document = .ok n)
    (ht : LeavesTyped document) : ∀ p ∈ n.reached, ∃ m, (moduleOf s p).result = .ok m := by
  intro p hp
  rw [exists_moduleOf_iff]
  intro c hc a ha hk
  -- only a leaf needs a tag, and every attribute comes from an entry of some compound object
  have hinner : c ∈ n.inner := List.mem_flatMap.mpr ⟨p, hp, hc⟩
  obtain ⟨o, ho, hr⟩ := exists_left_of_mem (readFrom_compoundObjects hn) c hinner
  obtain ⟨e, he, hea⟩ := exists_left_of_mem hr.readEntries a ha
  have hleaf : a.isCompound = false := by
    unfold kindOf at hk
    split at hk
    · cases hk
    · split at hk
      · cases hk
      · rename_i h
        simpa using h
  obtain ⟨tag, hv, htag⟩ := hea.leaf hleaf
  rw [htag]
  refine ht o ho e he tag ?_
  rw [typeTag?, hv]
  rfl

/-- Every class of a package mirrors one compound object of its document, and every object is mirrored. -/
theorem classes_mirror_compoundObjects (s : Settings) {text : String} {document : Json} {n : Node}
    (hd : Json.read text = .ok document) (hn : load text = .ok n) (ht : LeavesTyped document) :
    List.Forall₂ Mirrors (compoundObjects document) ((madeModules s n).flatMap (·.2.classes)) ∧
      ∃ f, facadeOf s n = .ok f ∧ (generateFromText s text).map (·.report) =
        .ok ⟨(madeModules s n).map (unitOf s) ++ [⟨facadePath, f.source⟩], []⟩ := by
  have hj : ofJson document = .ok n := by
    obtain ⟨d, hr, hj, -⟩ := load_ok_iff.mp hn
    rw [hd, Except.ok.injEq] at hr
    rw [hr, hj]
  have hmade := made_of_leavesTyped (s := s) hj ht
  constructor
  · refine (forall₂_trans (readFrom_compoundObjects hj) (classes_madeModules hmade)).imp ?_
    rintro o c ⟨m, hread, hclass⟩
    exact mirrors_of_readFrom hread hclass
  · obtain ⟨_, ns, -, -, rfl⟩ := ofJson_ok hj
    have hf := (failures_eq_nil_iff s (Node.root ns)).mpr ⟨Node.isRoot_root ns, hmade⟩
    obtain ⟨f, hfacade, hr⟩ := report_of_no_failures hf
    refine ⟨f, hfacade, ?_⟩
    rw [generateFromText, hn, ← hr]
    rfl

/-- A trace with a default, a hidden entry, a compound and an array container. -/
def barText : String :=
  "\x7b\"traces\":\x7b\"bar\":\x7b\"attributes\":\x7b\"x\":\x7b\"valType\":\"data_array\",\"dflt\":[1]\x7d," ++
    "\"_deprecated\":\x7b\x7d,\"role\":\"object\",\"line\":\x7b\"dashWidth\":\x7b\"valType\":\"number\"\x7d\x7d," ++
    "\"steps\":\x7b\"items\":\x7b\"step\":\x7b\"label\":\x7b\"valType\":\"string\",\"dflt\":\"\"\x7d\x7d\x7d\x7d\x7d\x7d\x7d\x7d"

set_option maxRecDepth 10000 in
theorem classes_mirror_compoundObjects_bar : ∃ document n,
    Json.read barText = .ok document ∧ load barText = .ok n ∧ LeavesTyped document ∧
      (compoundObjects document).map (·.path) = [["bar"], ["bar", "line"], ["bar", "step"]] ∧
        List.Forall₂ Mirrors (compoundObjects document) ((madeModules .standard n).flatMap (·.2.classes)) ∧
          ∃ f, facadeOf .standard n = .ok f ∧ (generateFromText .standard barText).map (·.report) =
            .ok ⟨(madeModules .standard n).map (unitOf .standard) ++ [⟨facadePath, f.source⟩], []⟩ := by
  have hread : ((Json.read barText).toOption.any fun document => decide (LeavesTyped document ∧
      (compoundObjects document).map (·.path) = [["bar"], ["bar", "line"], ["bar", "step"]])) = true := by
    decide +kernel
  have hload : (load barText).toOption.isSome = true := by decide +kernel
  cases hd : Json.read barText with
  | error e => rw [hd] at hread; cases hread
  | ok document =>
    cases hn : load barText with
    | error e => rw [hn] at hload; cases hload
    | ok n =>
      rw [hd] at hread
      obtain ⟨ht, hpaths⟩ := of_decide_eq_true hread
      exact ⟨document, n, rfl, rfl, ht, hpaths, classes_mirror_compoundObjects .standard hd hn ht⟩

end PlotTypes.Package
