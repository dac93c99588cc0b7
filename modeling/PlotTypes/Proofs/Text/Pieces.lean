/-
  PlotTypes.Proofs.Text.Pieces — what lists are cut into at separators, and what is dropped at
  their end.
-/

import Mathlib.Data.List.TakeWhile
import PlotTypes.Text.Pieces

namespace PlotTypes.Text

theorem pieces_append_cons {α : Type} {p : α → Bool} {c : α} (hc : p c = true) (as bs : List α) :
    pieces p (as ++ c :: bs) = pieces p as ++ pieces p bs := by
  induction as with
  | nil => simp [pieces, hc]
  | cons a r ih =>
    rw [List.cons_append, pieces, pieces, ih]
    by_cases ha : p a = true
    · rw [if_pos ha, if_pos ha, List.cons_append]
    · rw [if_neg ha, if_neg ha]
      cases hr : pieces p r with
      | nil => exact absurd hr (pieces_ne_nil p r)
      | cons w ws => rfl

theorem pieces_eq_singleton {α : Type} {p : α → Bool} {l : List α} (h : ∀ c ∈ l, p c = false) : pieces p l = [l] := by
  induction l with
  | nil => rfl
  | cons c r ih =>
    rw [List.forall_mem_cons] at h
    rw [pieces, ih h.2, if_neg (by simp [h.1])]

theorem not_of_mem_pieces {α : Type} {p : α → Bool} {l : List α} : ∀ w ∈ pieces p l, ∀ c ∈ w, p c = false := by
  induction l with
  | nil => simp [pieces]
  | cons a r ih =>
    rw [pieces]
    by_cases ha : p a = true
    · rw [if_pos ha]
      exact List.forall_mem_cons.mpr ⟨List.forall_mem_nil _, ih⟩
    · rw [if_neg ha]
      cases hr : pieces p r with
      | nil => exact absurd hr (pieces_ne_nil p r)
      | cons w ws =>
        rw [hr, List.forall_mem_cons] at ih
        exact List.forall_mem_cons.mpr ⟨List.forall_mem_cons.mpr ⟨by simpa using ha, ih.1⟩, ih.2⟩

/-- What is dropped at the end satisfies the condition. -/
theorem exists_dropEnd_append {α : Type} (p : α → Bool) (l : List α) :
    ∃ dropped, dropEnd p l ++ dropped = l ∧ ∀ c ∈ dropped, p c = true := by
  refine ⟨(l.reverse.takeWhile p).reverse, ?_, fun c hc => List.mem_takeWhile_imp (List.mem_reverse.mp hc)⟩
  rw [dropEnd, ← List.reverse_append, List.takeWhile_append_dropWhile, List.reverse_reverse]

/-- And what is left does not end so. -/
theorem getLast?_dropEnd {α : Type} {p : α → Bool} {l : List α} {c : α} (h : (dropEnd p l).getLast? = some c) :
    p c = false := by
  have hhead := List.head?_dropWhile_not p l.reverse
  rw [dropEnd, List.getLast?_reverse] at h
  rw [h] at hhead
  exact hhead

end PlotTypes.Text
