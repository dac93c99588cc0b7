/-
  PlotTypes.Proofs.Python.Word — the words that identifiers are.

  A word is made of ASCII letters, digits and underscores (`lt_of_continuesIdentifier`), so what
  holds of its characters can be checked one by one. A word stands for itself in a string
  literal, and a reader that takes as much of a line as stands in words takes exactly the word
  that was written there (`splitWord_append`).
-/

import Mathlib.Data.List.TakeWhile
import PlotTypes.Proofs.Text.Case
import PlotTypes.Python.Source

namespace PlotTypes.Python

open PlotTypes.Text

/-! ## Characters -/

theorem lt_of_continuesIdentifier {c : Char} (h : continuesIdentifier c = true) : c.toNat < 128 := by
  have hcases : c = '_' ∨ c.isAlphanum = true := by simpa [continuesIdentifier] using h
  rcases hcases with rfl | halphanum
  · decide
  have hranges : (decide (c.val ≥ 'A'.val ∧ c.val ≤ 'Z'.val) || (c.val ≥ 'a'.val && c.val ≤ 'z'.val) ||
      (c.val ≥ '0'.val && c.val ≤ '9'.val)) = true := halphanum
  simp only [Bool.or_eq_true, Bool.and_eq_true, decide_eq_true_eq, UInt32.le_iff_toNat_le] at hranges
  rcases hranges with (⟨-, hz⟩ | ⟨-, hz⟩) | ⟨-, hz⟩
  all_goals exact Nat.lt_of_le_of_lt hz (by decide)

/-! ## Words -/

theorem continuesIdentifier_of_startsIdentifier {c : Char} (h : startsIdentifier c = true) :
    continuesIdentifier c = true := by
  simp only [startsIdentifier, Bool.or_eq_true] at h
  simp only [continuesIdentifier, Char.isAlphanum, Bool.or_eq_true]
  rcases h with h | h
  · exact Or.inl h
  · exact Or.inr (Or.inl h)

/-- An identifier is a non-empty word of one piece. -/
theorem word_of_isIdentifier {s : String} (h : isIdentifier s = true) :
    (∃ c r, s.toList = c :: r) ∧ ∀ c ∈ s.toList, continuesIdentifier c = true := by
  simp only [isIdentifier, Bool.and_eq_true] at h
  obtain ⟨hw, -⟩ := h
  cases hs : s.toList with
  | nil => rw [hs] at hw; cases hw
  | cons c r =>
    rw [hs] at hw
    simp only [isWord, Bool.and_eq_true, List.all_eq_true] at hw
    exact ⟨⟨c, r, rfl⟩, List.forall_mem_cons.mpr ⟨continuesIdentifier_of_startsIdentifier hw.1, hw.2⟩⟩

def WordText (s : String) : Prop := ∀ c ∈ s.toList, continuesIdentifier c = true

instance (s : String) : Decidable (WordText s) :=
  decidable_of_iff (s.toList.all continuesIdentifier = true) List.all_eq_true

theorem wordText_of_isIdentifier {s : String} (h : isIdentifier s = true) : WordText s := (word_of_isIdentifier h).2

/-! ## Reading words -/

def splitWord (cs : List Char) : List Char × List Char :=
  (cs.takeWhile continuesIdentifier, cs.dropWhile continuesIdentifier)

theorem splitWord_append {w : List Char} (hw : ∀ c ∈ w, continuesIdentifier c = true) {c : Char}
    (hc : continuesIdentifier c = false) (r : List Char) : splitWord (w ++ c :: r) = (w, c :: r) := by
  unfold splitWord
  rw [List.takeWhile_append_of_pos hw, List.dropWhile_append_of_pos hw]
  simp [hc]

theorem splitWord_word {w : List Char} (hw : ∀ c ∈ w, continuesIdentifier c = true) : splitWord w = (w, []) := by
  unfold splitWord
  rw [List.takeWhile_eq_self_iff.mpr hw, List.dropWhile_eq_nil_iff.mpr hw]

/-! ## Words as literals -/

theorem flatMap_escapeChar {l : List Char} (h : ∀ c ∈ l, continuesIdentifier c = true) : l.flatMap escapeChar = l := by
  induction l with
  | nil => rfl
  | cons c r ih =>
    obtain ⟨hc, hr⟩ := List.forall_mem_cons.mp h
    have hself : escapeChar c = [c] :=
      forall_ascii (P := fun c => continuesIdentifier c = true → escapeChar c = [c]) (by decide +kernel)
        (lt_of_continuesIdentifier hc) hc
    rw [List.flatMap_cons, hself, ih hr]
    rfl

/-- Nothing is escaped in a word. -/
theorem toList_stringLiteral {s : String} (h : WordText s) :
    (stringLiteral s).toList = '\'' :: (s.toList ++ ['\'']) := by
  rw [stringLiteral, String.toList_ofList, quoted, flatMap_escapeChar h]
  rfl

end PlotTypes.Python
