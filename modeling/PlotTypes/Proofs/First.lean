/-
  PlotTypes.Proofs.First — the first element of a list that has a property.

  A check that stops at the first thing it does not like says nothing of what comes after it,
  and that all before it is in order. `First` is that, without the check.
  - `first_cons_iff`, `first_append_iff`: along a list, as checks go.
  - `exists_first_iff`: there is a first one exactly when there is one.
-/

import Mathlib.Data.List.Basic

namespace PlotTypes

variable {α : Type} {P Q : α → Prop} {a b : α} {l m : List α}

def First (P : α → Prop) (l : List α) (a : α) : Prop :=
  ∃ before after, l = before ++ a :: after ∧ (∀ b ∈ before, ¬P b) ∧ P a

theorem First.mem (h : First P l a) : a ∈ l := by
  obtain ⟨before, after, rfl, -, -⟩ := h
  exact List.mem_append_right _ List.mem_cons_self

theorem First.holds (h : First P l a) : P a := by
  obtain ⟨_, _, -, -, ha⟩ := h
  exact ha

theorem first_congr (h : ∀ b ∈ l, P b ↔ Q b) : First P l a ↔ First Q l a := by
  unfold First
  refine exists_congr fun before => exists_congr fun after => and_congr_right ?_
  rintro rfl
  rw [List.forall_mem_append, List.forall_mem_cons] at h
  exact and_congr (forall₂_congr fun b hb => not_congr (h.1 b hb)) h.2.1

theorem not_first_nil : ¬First P [] a := by
  rintro ⟨before, after, h, -, -⟩
  simp at h

theorem first_cons_iff : First P (b :: l) a ↔ P b ∧ a = b ∨ ¬P b ∧ First P l a := by
  constructor
  · rintro ⟨before, after, h, hbefore, ha⟩
    cases before with
    | nil =>
      obtain ⟨rfl, rfl⟩ := List.cons.inj h
      exact .inl ⟨ha, rfl⟩
    | cons c before =>
      obtain ⟨rfl, rfl⟩ := List.cons.inj h
      rw [List.forall_mem_cons] at hbefore
      exact .inr ⟨hbefore.1, before, after, rfl, hbefore.2, ha⟩
  · rintro (⟨hb, rfl⟩ | ⟨hb, before, after, rfl, hbefore, ha⟩)
    · exact ⟨[], l, rfl, List.forall_mem_nil _, hb⟩
    · exact ⟨b :: before, after, rfl, List.forall_mem_cons.mpr ⟨hb, hbefore⟩, ha⟩

theorem first_append_iff : First P (l ++ m) a ↔ First P l a ∨ (∀ b ∈ l, ¬P b) ∧ First P m a := by
  induction l with
  | nil => simp [not_first_nil]
  | cons b r ih =>
    rw [List.cons_append, first_cons_iff, first_cons_iff, ih, List.forall_mem_cons]
    tauto

/-- There is a first one where there is one. -/
theorem exists_first_iff : (∃ a, First P l a) ↔ ∃ a ∈ l, P a := by
  induction l with
  | nil => simp [not_first_nil]
  | cons b r ih =>
    simp only [first_cons_iff, List.exists_mem_cons_iff, ← ih]
    by_cases hb : P b
    · simp [hb]
    · simp [hb]

end PlotTypes
