/-
  PlotTypes.Proofs.Schema.Validity — what a tree without violations is like.

  The check carries the names met so far through the children of one compound. Said without
  them, it accepts a compound exactly when its children can stand together (`Siblings`) and
  each child is accepted (`violation?_eq_none_iff`).
-/

import PlotTypes.Proofs.Schema.Tree
import PlotTypes.Schema.Validity

namespace PlotTypes.Schema

open PlotTypes.Python

structure Siblings (ns : List Node) : Prop where
  properties : (ns.map (·.property)).Nodup
  parameters : (ns.map (·.parameter)).Nodup
  receiver : ∀ c ∈ ns, c.parameter ≠ receiver
  identifiers : ∀ c ∈ ns, isIdentifier c.property = true ∧ isIdentifier c.parameter = true

/-- One guard of a check passes, and so do those after it. -/
theorem guard_eq_none_iff {c : Prop} [Decidable c] {e : Error} {rest : Option Error} :
    (if c then some e else rest) = none ↔ ¬c ∧ rest = none := by
  by_cases h : c
  · simp [h]
  · simp [h]

theorem childError?_eq_none_iff {owner n : Node} {properties parameters : List String} :
    childError? owner n properties parameters = none ↔
      n.property ∉ properties ∧ n.parameter ≠ receiver ∧ n.parameter ∉ parameters ∧
        isIdentifier n.property = true ∧ isIdentifier n.parameter = true := by
  unfold childError?
  simp only [guard_eq_none_iff, List.contains_iff_mem, beq_iff_eq, Bool.not_eq_true', Bool.not_eq_false, and_true]

theorem ownError?_eq_none_iff {n : Node} :
    ownError? n = none ↔
      (n.isCompound = false → n.tag.isSome = true) ∧ (n.isCompound = true → n.isRoot = false → n.children ≠ []) := by
  unfold ownError?
  cases n.isCompound with
  | false => cases n.tag <;> simp
  | true => cases n.isRoot <;> simp

theorem siblings_nil : Siblings [] := ⟨List.nodup_nil, List.nodup_nil, by simp, by simp⟩

/-- One child at a time: it is new beside those before it, accepted, and the rest goes on with its names taken. -/
theorem siblings_cons_iff {n : Node} {r : List Node} :
    Siblings (n :: r) ↔
      (n.parameter ≠ receiver ∧ isIdentifier n.property = true ∧ isIdentifier n.parameter = true) ∧ Siblings r ∧
        ∀ c ∈ r, c.property ≠ n.property ∧ c.parameter ≠ n.parameter := by
  constructor
  · rintro ⟨hp, hq, hr, hi⟩
    rw [List.map_cons, List.nodup_cons] at hp hq
    rw [List.forall_mem_cons] at hr hi
    refine ⟨⟨hr.1, hi.1⟩, ⟨hp.2, hq.2, hr.2, hi.2⟩, fun c hc => ⟨fun h => ?_, fun h => ?_⟩⟩
    · exact hp.1 (h ▸ List.mem_map_of_mem hc)
    · exact hq.1 (h ▸ List.mem_map_of_mem hc)
  · rintro ⟨⟨hr, hi⟩, h, hn⟩
    refine ⟨?_, ?_, List.forall_mem_cons.mpr ⟨hr, h.receiver⟩, List.forall_mem_cons.mpr ⟨hi, h.identifiers⟩⟩
    · rw [List.map_cons, List.nodup_cons]
      refine ⟨fun hm => ?_, h.properties⟩
      obtain ⟨c, hc, he⟩ := List.mem_map.mp hm
      exact (hn c hc).1 he
    · rw [List.map_cons, List.nodup_cons]
      refine ⟨fun hm => ?_, h.parameters⟩
      obtain ⟨c, hc, he⟩ := List.mem_map.mp hm
      exact (hn c hc).2 he

theorem childViolation?_eq_none_iff {owner : Node} {ns : List Node} {properties parameters : List String} :
    childViolation? owner properties parameters ns = none ↔
      Siblings ns ∧ (∀ c ∈ ns, violation? c = none) ∧ ∀ c ∈ ns, c.property ∉ properties ∧ c.parameter ∉ parameters := by
  -- the taken names grow on the way, so they stay general
  induction ns generalizing properties parameters with
  | nil => simp [childViolation?, siblings_nil]
  | cons n r ih =>
    rw [childViolation?, Option.or_eq_none_iff, Option.or_eq_none_iff, childError?_eq_none_iff, ih, siblings_cons_iff,
      List.forall_mem_cons, List.forall_mem_cons]
    simp only [List.mem_cons, not_or]
    constructor
    · rintro ⟨⟨hp, hr, hq, hi⟩, hv, hs, hvs, hn⟩
      exact ⟨⟨⟨hr, hi⟩, hs, fun c hc => ⟨(hn c hc).1.1, (hn c hc).2.1⟩⟩, ⟨hv, hvs⟩, ⟨hp, hq⟩,
        fun c hc => ⟨(hn c hc).1.2, (hn c hc).2.2⟩⟩
    · rintro ⟨⟨⟨hr, hi⟩, hs, hn⟩, ⟨hv, hvs⟩, ⟨hp, hq⟩, hf⟩
      exact ⟨⟨hp, hr, hq, hi⟩, hv, hs, hvs,
        fun c hc => ⟨⟨(hn c hc).1, (hf c hc).1⟩, (hn c hc).2, (hf c hc).2⟩⟩

/-- A tree is accepted when its top node is, its children can stand together, and each of them is accepted. -/
theorem violation?_eq_none_iff {n : Node} :
    violation? n = none ↔
      ownError? n = none ∧ (n.isCompound = true → Siblings n.children ∧ ∀ c ∈ n.children, violation? c = none) := by
  obtain ⟨a, children⟩ := n
  rw [violation?, Option.or_eq_none_iff]
  refine and_congr_right fun _ => ?_
  by_cases hc : a.isCompound = true
  · simp [hc, childViolation?_eq_none_iff]
  · simp [hc]

/-- In an accepted tree every reached node is accepted. -/
theorem valid_of_mem_reached {n : Node} (hc : n.isCompound = true) (hv : violation? n = none) :
    ∀ p ∈ n.reached, p.isCompound = true ∧ violation? p = none := by
  refine Node.forall_mem_reached ⟨hc, hv⟩ fun q _ ⟨hqc, hqv⟩ c hcc => ?_
  obtain ⟨hchild, hcompound⟩ := Node.mem_compoundChildren.mp hcc
  exact ⟨hcompound, ((violation?_eq_none_iff.mp hqv).2 hqc).2 c hchild⟩

theorem siblings_of_mem_reached {n p : Node} (hc : n.isCompound = true) (hv : violation? n = none)
    (hp : p ∈ n.reached) : Siblings p.children := by
  obtain ⟨hcompound, hvalid⟩ := valid_of_mem_reached hc hv p hp
  exact ((violation?_eq_none_iff.mp hvalid).2 hcompound).1

/-- So the property of every compound below the top node is an identifier. -/
theorem isIdentifier_of_mem_inner {n q : Node} (hc : n.isCompound = true) (hv : violation? n = none) (hq : q ∈ n.inner) :
    isIdentifier q.property = true := by
  obtain ⟨p, hp, hqp⟩ := List.mem_flatMap.mp hq
  exact ((siblings_of_mem_reached hc hv hp).identifiers q (Node.mem_compoundChildren.mp hqp).1).1

theorem validate_error_iff {n : Node} {e : Error} : validate n = .error e ↔ violation? n = some e := by
  unfold validate
  cases violation? n with
  | none => simp
  | some f => simp

theorem validate_ok_iff {n : Node} : validate n = .ok () ↔ violation? n = none := by
  unfold validate
  cases violation? n with
  | none => simp
  | some e => simp

end PlotTypes.Schema
