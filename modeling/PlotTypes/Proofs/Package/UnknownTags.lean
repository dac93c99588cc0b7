/-
  PlotTypes.Proofs.Package.UnknownTags — where a run fails, and what it says there.

  Only a leaf with an unknown type tag makes a module fail, and the module that fails is that
  of the node two steps above the leaf. A step that runs along a list stops at the first
  element on which it fails (`each_error_iff`), so the error is that of the first such leaf in
  the first compound child that has one (`moduleOf_error_iff`).
  - `failures_root`: one failure for each reached node that has such a child, in pre-order.
  - `reached_of_failsModule`: in a built tree only compounds have children (`leafLike_of_built`),
    so every node that fails is reached and no leaf of a compound is passed over.
  - `unknown_tags_fail`: the two together, for whole trees.
-/

import PlotTypes.Proofs.First
import PlotTypes.Proofs.Package.Entries

namespace PlotTypes.Package

open PlotTypes.Python PlotTypes.Schema

variable {s : Settings} {n p c a owner : Node} {e : Error}

/-! ## Tags -/

def knownTags : List String :=
  ["data_array", "info_array", "string", "color", "colorscale", "subplotid", "enumerated", "flaglist", "any", "number",
    "angle", "integer", "boolean"]

theorem isSome_ofTag?_iff {tag : String} : (Primitive.ofTag? tag).isSome = true ↔ tag ∈ knownTags := by
  unfold Primitive.ofTag?
  rw [List.find?_isSome]
  simp [Primitive.all, Primitive.tags, knownTags, or_assoc]

def isUnknown (a : Node) : Bool := a.isSimple && !knownTags.contains (a.tag.getD "")

def hasUnknown (c : Node) : Bool := c.children.any isUnknown

def failsModule (p : Node) : Bool := p.compoundChildren.any hasUnknown

theorem kindOf_eq_simple_iff : kindOf a = .simple ↔ a.isSimple = true := by
  unfold kindOf Node.isSimple
  cases a.isElement with
  | true => simp
  | false => cases a.isCompound <;> simp

theorem typed_iff : Typed a ↔ isUnknown a = false := by
  unfold Typed isUnknown
  rw [kindOf_eq_simple_iff, isSome_ofTag?_iff]
  cases a.isSimple with
  | true => simp
  | false => simp

/-! ## Errors -/

/-- A step along a list fails with the error of the first element on which it fails. -/
theorem each_error_iff {α β : Type} {f : α → Logged β} {l : List α} :
    (Logged.each f l).result = .error e ↔
      ∃ a, First (fun a => ∃ e, (f a).result = .error e) l a ∧ (f a).result = .error e := by
  induction l with
  | nil => simp [Logged.each, not_first_nil]
  | cons a r ih =>
    simp only [first_cons_iff]
    unfold Logged.each
    cases h : (f a).result with
    | error e' => simp [h]
    | ok b => simp [map_error_iff, ih]

/-- Only a leaf with an unknown tag has no type. -/
theorem typeOf_error_iff :
    typeOf s owner a = .error e ↔
      isUnknown a = true ∧ e = .unknownType (a.tag.getD "") a.property owner.displayPath := by
  have htyped : isUnknown a = true ↔ ¬∃ t, typeOf s owner a = .ok t := by
    rw [exists_typeOf_iff, typed_iff, Bool.not_eq_false]
  rw [htyped]
  unfold typeOf
  split
  · simp
  · simp
  · split
    · simp
    · simp [eq_comm]

theorem propertyOf_error_iff :
    (propertyOf s owner a).result = .error e ↔
      isUnknown a = true ∧ e = .unknownType (a.tag.getD "") a.property owner.displayPath := by
  rw [← typeOf_error_iff (s := s)]
  unfold propertyOf
  split
  · rename_i e' h
    simp [h]
  · rename_i h
    simp [h]

/-- A class fails at the first leaf with an unknown tag. -/
theorem classOf_error_iff :
    (classOf s c).result = .error e ↔
      ∃ a, First (isUnknown ·) c.children a ∧ e = .unknownType (a.tag.getD "") a.property c.displayPath := by
  show (Logged.each (propertyOf s c) c.children).result.map _ = .error e ↔ _
  rw [map_error_iff, each_error_iff]
  refine exists_congr fun a => ?_
  rw [first_congr (Q := (isUnknown ·)) fun b _ => by simp [propertyOf_error_iff]]
  refine and_congr_right fun ha => ?_
  rw [propertyOf_error_iff]
  exact and_iff_right ha.holds

theorem exists_classOf_error_iff : (∃ e, (classOf s c).result = .error e) ↔ hasUnknown c = true := by
  simp only [classOf_error_iff]
  rw [hasUnknown, List.any_eq_true, ← exists_first_iff]
  constructor
  · rintro ⟨_, a, ha, -⟩
    exact ⟨a, ha⟩
  · rintro ⟨a, ha⟩
    exact ⟨_, a, ha, rfl⟩

/-- The leaf at which the module of a node fails: `a` is the first one with an unknown tag in `c`, and `c` the first
    compound child that has one. -/
structure FailsAt (n c a : Node) : Prop where
  child : First (hasUnknown ·) n.compoundChildren c
  leaf : First (isUnknown ·) c.children a

theorem moduleOf_error_iff :
    (moduleOf s n).result = .error e ↔
      ∃ c a, FailsAt n c a ∧ e = .unknownType (a.tag.getD "") a.property c.displayPath := by
  have hfirst : ∀ c, First (fun c => ∃ e, (classOf s c).result = .error e) n.compoundChildren c ↔
      First (hasUnknown ·) n.compoundChildren c := fun c => first_congr fun _ _ => exists_classOf_error_iff
  unfold moduleOf
  split
  · show (Logged.each (classOf s) n.compoundChildren).result.map _ = .error e ↔ _
    rw [map_error_iff, each_error_iff]
    simp only [hfirst]
    simp only [classOf_error_iff]
    constructor
    · rintro ⟨c, hc, a, ha, he⟩
      exact ⟨c, a, ⟨hc, ha⟩, he⟩
    · rintro ⟨c, a, ⟨hc, ha⟩, he⟩
      exact ⟨c, hc, a, ha, he⟩
  · rename_i hcompound
    have hnil := Node.compoundChildren_eq_nil (by simpa using hcompound)
    constructor
    · nofun
    · rintro ⟨c, a, ⟨hc, -⟩, -⟩
      rw [hnil] at hc
      exact absurd hc not_first_nil

theorem exists_moduleOf_error_iff : (∃ e, (moduleOf s n).result = .error e) ↔ failsModule n = true := by
  simp only [moduleOf_error_iff]
  rw [failsModule, List.any_eq_true, ← exists_first_iff]
  constructor
  · rintro ⟨_, c, a, h, -⟩
    exact ⟨c, h.child⟩
  · rintro ⟨c, hc⟩
    obtain ⟨a, ha⟩ : ∃ a, First (isUnknown ·) c.children a := exists_first_iff.mpr (List.any_eq_true.mp hc.holds)
    exact ⟨_, c, a, ⟨hc, ha⟩, rfl⟩

/-! ## Failures of a run -/

def Reported (s : Settings) (p : Node) (f : Failure) : Prop :=
  f.node = p.displayPath ∧ (moduleOf s p).result = .error f.error

theorem isSome_failure? (s : Settings) (p : Node) : (failure? s p).isSome = failsModule p := by
  rw [Bool.eq_iff_iff, ← exists_moduleOf_error_iff (s := s)]
  unfold failure?
  split
  · rename_i e h
    simp [h]
  · rename_i h
    simp [h]

theorem reported_of_failure? {f : Failure} (h : failure? s p = some f) : Reported s p f := by
  unfold failure? at h
  split at h
  · rename_i e he
    cases h
    exact ⟨rfl, he⟩
  · cases h

theorem failures_root (s : Settings) (h : n.isRoot = true) :
    List.Forall₂ (Reported s) (n.reached.filter failsModule) (generate s n).report.failures := by
  obtain ⟨f, -, hr⟩ := report_generate_of_isRoot s h
  rw [hr]
  exact forall₂_filter_filterMap (isSome_failure? s) (fun _ _ => reported_of_failure?) n.reached

theorem isSuccess_root_iff (h : n.isRoot = true) :
    (generate s n).report.isSuccess = true ↔ ∀ c ∈ n.inner, hasUnknown c = false := by
  have hfails : ∀ p, (∃ m, (moduleOf s p).result = .ok m) ↔ ∀ c ∈ p.compoundChildren, hasUnknown c = false := by
    intro p
    rw [exists_moduleOf_iff]
    simp only [typed_iff, hasUnknown, List.any_eq_false, Bool.not_eq_true]
  rw [Report.isSuccess, List.isEmpty_iff, failures_eq_nil_iff, and_iff_right h]
  simp only [hfails, Node.inner, List.mem_flatMap]
  constructor
  · rintro hp c ⟨p, hpr, hc⟩
    exact hp p hpr c hc
  · intro hc p hpr c hcp
    exact hc c ⟨p, hpr, hcp⟩

/-! ## Whole trees -/

/-- What is no compound is a leaf: it has a tag, and nothing stands below it. -/
structure LeafLike (n : Node) : Prop where
  tag : n.isCompound = false → ∃ tag, n.tag = some tag
  childless : n.isCompound = false → n.children = []

theorem leafLike_of_built (h : Node.Built n) : Node.Everywhere LeafLike n := by
  induction h with
  | leaf name tag => exact .mk _ ⟨fun _ => ⟨tag, rfl⟩, fun _ => rfl⟩ nofun
  | compound name children _ ih => exact .mk _ ⟨nofun, nofun⟩ ih
  | element container name children _ ih => exact .mk _ ⟨nofun, nofun⟩ ih
  | root children _ ih =>
    refine .mk _ ⟨nofun, nofun⟩ fun c hc => ?_
    rw [Node.children_root, List.mem_map] at hc
    obtain ⟨d, hd, rfl⟩ := hc
    refine Node.everywhere_placed (fun above m hm => ?_) (ih d hd) []
    obtain ⟨htag, hchildless⟩ := hm
    constructor
    · rw [Node.toAttribute_placed]
      exact htag
    · intro hleaf
      rw [Node.isCompound_placed] at hleaf
      rw [Node.children_placed, hchildless hleaf, List.map_nil]
  | noted n description arrayOk defaultValue _ ih => exact .mk _ ⟨ih.here.tag, ih.here.childless⟩ ih.child

theorem inner_of_leafLike (h : Node.Everywhere LeafLike n) :
    ∀ t ∈ n.children, Node.Everywhere (fun p => p.children ≠ [] → p ∈ n.inner) t :=
  Node.inner_of_childless (h.imp fun _ hm => hm.childless)

theorem reached_of_failsModule (h : Node.Everywhere LeafLike n) :
    Node.Everywhere (fun p => failsModule p = true → p ∈ n.reached) n := by
  refine .mk n (fun _ => Node.self_mem_reached n) fun t ht => (inner_of_leafLike h t ht).imp fun p hp hfails => ?_
  obtain ⟨c, hc, -⟩ := List.any_eq_true.mp hfails
  have hne : p.children ≠ [] := List.ne_nil_of_mem (Node.mem_compoundChildren.mp hc).1
  obtain ⟨q, hq, hpq⟩ := List.mem_flatMap.mp (hp hne)
  exact Node.compoundChildren_subset_reached n q hq p hpq

def LeavesKnown (c : Node) : Prop :=
  c.isCompound = true → ∀ a ∈ c.children, a.isSimple = true → ∃ tag, a.tag = some tag ∧ tag ∈ knownTags

theorem isCompound_of_isSimple (h : a.isSimple = true) : a.isCompound = false := by
  unfold Node.isSimple at h
  simp only [Bool.and_eq_true, Bool.not_eq_true'] at h
  exact h.1

theorem isUnknown_eq_false_iff (h : LeafLike a) :
    isUnknown a = false ↔ a.isSimple = true → ∃ tag, a.tag = some tag ∧ tag ∈ knownTags := by
  unfold isUnknown
  cases hs : a.isSimple with
  | false => simp
  | true =>
    obtain ⟨tag, htag⟩ := h.tag (isCompound_of_isSimple hs)
    simp [htag]

theorem hasUnknown_eq_false_iff (h : Node.Everywhere LeafLike c) : hasUnknown c = false ↔ LeavesKnown c := by
  unfold LeavesKnown
  cases hc : c.isCompound with
  | false => simp [hasUnknown, h.here.childless hc]
  | true =>
    rw [hasUnknown, List.any_eq_false]
    simp only [Bool.not_eq_true, forall_const]
    exact forall₂_congr fun a ha => isUnknown_eq_false_iff (h.child a ha).here

theorem leavesKnown_iff (h : Node.Everywhere LeafLike n) :
    (∀ t ∈ n.children, Node.Everywhere LeavesKnown t) ↔ ∀ c ∈ n.inner, hasUnknown c = false := by
  constructor
  · intro hknown c hc
    exact (hasUnknown_eq_false_iff (Node.Everywhere.inner h.child c hc)).mpr (Node.Everywhere.inner hknown c hc).here
  · intro hinner t ht
    refine ((inner_of_leafLike h t ht).and (h.child t ht).deep).imp fun c ⟨hc, hleaf⟩ => ?_
    rw [← hasUnknown_eq_false_iff hleaf]
    by_cases hnil : c.children = []
    · simp [hasUnknown, hnil]
    · exact hinner c (hc hnil)

/-- The tag in the error of a module is that of the leaf. -/
theorem moduleOf_error_iff_of_leafLike (h : Node.Everywhere LeafLike p) :
    (moduleOf s p).result = .error e ↔
      ∃ c a tag, FailsAt p c a ∧ a.tag = some tag ∧ e = .unknownType tag a.property c.displayPath := by
  rw [moduleOf_error_iff]
  constructor
  · rintro ⟨c, a, hfails, rfl⟩
    have hc := (Node.mem_compoundChildren.mp hfails.child.mem).1
    have hsimple : a.isSimple = true := (Bool.and_eq_true_iff.mp hfails.leaf.holds).1
    obtain ⟨tag, htag⟩ := ((h.child c hc).child a hfails.leaf.mem).here.tag (isCompound_of_isSimple hsimple)
    exact ⟨c, a, tag, hfails, htag, by rw [htag]; rfl⟩
  · rintro ⟨c, a, tag, hfails, htag, rfl⟩
    exact ⟨c, a, hfails, by rw [htag]; rfl⟩

/-- In a built tree the module of a node fails exactly when a compound child has a leaf with an unknown tag, and the
    error names the first such leaf. A run on a root succeeds exactly when the leaves of all compounds below it have
    tags that are known. Every node whose module fails has one failure in the report, and there are no others. -/
theorem unknown_tags_fail (hb : Node.Built n) (s : Settings) :
    Node.Everywhere (fun p => ((∃ e, (moduleOf s p).result = .error e) ↔ failsModule p = true) ∧
      ∀ e, (moduleOf s p).result = .error e ↔
        ∃ c a tag, FailsAt p c a ∧ a.tag = some tag ∧ e = .unknownType tag a.property c.displayPath) n ∧
      (n.isRoot = true →
        ((generate s n).report.isSuccess = true ↔ ∀ t ∈ n.children, Node.Everywhere LeavesKnown t) ∧
          List.Forall₂ (Reported s) (n.reached.filter failsModule) (generate s n).report.failures ∧
            Node.Everywhere (fun p => failsModule p = true → p ∈ n.reached) n) := by
  have hleaf := leafLike_of_built hb
  constructor
  · exact hleaf.deep.imp fun p hp => ⟨exists_moduleOf_error_iff, fun e => moduleOf_error_iff_of_leafLike hp⟩
  · intro hroot
    refine ⟨?_, failures_root s hroot, reached_of_failsModule hleaf⟩
    rw [isSuccess_root_iff hroot, leavesKnown_iff hleaf]

/-- Two traces: one with unknown tags in an array element, two of them, after a compound without any; and one with an
    unknown tag of its own. -/
def fnordTree : Node :=
  Node.root [Node.compound "bar" [Node.leaf "x" "data_array", Node.compound "line" [Node.leaf "width" "number"],
      Node.element "steps" "step" [Node.leaf "label" "fnord", Node.leaf "value" "mystery"]],
    Node.compound "pie" [Node.leaf "hole" "nothing"]]

theorem built_fnordTree : Node.Built fnordTree := by
  refine .root _ (List.forall_mem_cons.mpr ⟨.compound _ _ ?_, List.forall_mem_singleton.mpr (.compound _ _ ?_)⟩)
  · refine List.forall_mem_cons.mpr ⟨.leaf _ _, List.forall_mem_cons.mpr ⟨.compound _ _ ?_, ?_⟩⟩
    · exact List.forall_mem_singleton.mpr (.leaf _ _)
    · refine List.forall_mem_singleton.mpr (.element _ _ _ ?_)
      exact List.forall_mem_cons.mpr ⟨.leaf _ _, List.forall_mem_singleton.mpr (.leaf _ _)⟩
  · exact List.forall_mem_singleton.mpr (.leaf _ _)

theorem unknown_tags_fail_fnord :
    Node.Built fnordTree ∧ fnordTree.isRoot = true ∧
      (generate .standard fnordTree).report.failures =
        [⟨"<root>", .unknownType "nothing" "hole" "pie"⟩, ⟨"bar", .unknownType "fnord" "label" "bar.step"⟩] ∧
      Node.Everywhere (fun p => ((∃ e, (moduleOf .standard p).result = .error e) ↔ failsModule p = true) ∧
        ∀ e, (moduleOf .standard p).result = .error e ↔
          ∃ c a tag, FailsAt p c a ∧ a.tag = some tag ∧ e = .unknownType tag a.property c.displayPath) fnordTree ∧
        ((generate .standard fnordTree).report.isSuccess = true ↔
          ∀ t ∈ fnordTree.children, Node.Everywhere LeavesKnown t) ∧
        List.Forall₂ (Reported .standard) (fnordTree.reached.filter failsModule)
          (generate .standard fnordTree).report.failures ∧
        Node.Everywhere (fun p => failsModule p = true → p ∈ fnordTree.reached) fnordTree := by
  obtain ⟨hmodules, hreport⟩ := unknown_tags_fail built_fnordTree .standard
  exact ⟨built_fnordTree, rfl, by decide +kernel, hmodules, hreport rfl⟩

end PlotTypes.Package
