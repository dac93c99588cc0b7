/-
  PlotTypes.Proofs.Text.Words — the words that a piece of text is filled from.

  A line is judged by its text alone: its words are the longest runs of characters other than
  the space (`runs`), and it takes the columns of its words and one for each space
  (`lineColumns`). The scan into `words` keeps every space with the word before it, so a line
  of words says where each run and each space stands.
  - `spaced_words`, `flatMap_full_words`: what the scan gives, and that nothing is lost in it.
  - `runs_lineText`, `lineColumns_lineText`: the runs and columns of a line of words.
  - `lineColumns_le_byteLength`: no line takes more columns than bytes.
-/

import Mathlib.Algebra.Ring.Nat
import Mathlib.Data.List.Chain
import PlotTypes.Proofs.Text.Pieces
import PlotTypes.Text.Fill

namespace PlotTypes.Text

/-! ## Runs and columns -/

def runs (l : List Char) : List (List Char) := (pieces (· == ' ') l).filter (!·.isEmpty)

def lineColumns (l : List Char) : Nat := ((runs l).map columns).sum + l.count ' '

theorem runs_append_space (a b : List Char) : runs (a ++ ' ' :: b) = runs a ++ runs b := by
  rw [runs, pieces_append_cons (by rfl), List.filter_append]
  rfl

theorem runs_of_not_mem {w : List Char} (h : ' ' ∉ w) : runs w = [w].filter (!·.isEmpty) := by
  have hnone : ∀ c ∈ w, (c == ' ') = false := by
    intro c hc
    rw [beq_eq_false_iff_ne]
    rintro rfl
    exact h hc
  rw [runs, pieces_eq_singleton hnone]

/-- Spaces at the end add no word. -/
theorem runs_append_blanks (a : List Char) (n : Nat) : runs (a ++ List.replicate n ' ') = runs a := by
  induction n generalizing a with
  | zero => rw [List.replicate_zero, List.append_nil]
  | succ n ih =>
    have hblanks := ih []
    rw [List.nil_append] at hblanks
    rw [List.replicate_succ, runs_append_space, hblanks]
    simp [runs, pieces]

theorem lineColumns_append_space (a b : List Char) :
    lineColumns (a ++ ' ' :: b) = lineColumns a + 1 + lineColumns b := by
  rw [lineColumns, runs_append_space, List.map_append, List.sum_append, List.count_append, List.count_cons_self,
    lineColumns, lineColumns]
  omega

theorem lineColumns_append_blanks (a : List Char) (n : Nat) :
    lineColumns (a ++ List.replicate n ' ') = lineColumns a + n := by
  rw [lineColumns, runs_append_blanks, List.count_append, List.count_replicate_self, lineColumns]
  omega

/-- A text without spaces takes the columns of one word. -/
theorem lineColumns_of_not_mem {w : List Char} (h : ' ' ∉ w) : lineColumns w = columns w := by
  rw [lineColumns, runs_of_not_mem h, List.count_eq_zero.mpr h]
  cases w with
  | nil => rfl
  | cons c r => simp

/-! ## Words -/

def Word.full (w : Word) : List Char := w.text ++ List.replicate w.gap ' '

/-- Words that no space is lost between: none holds a space, spaces stand after each but the last, and each but the
    first holds a character. -/
structure Spaced (ws : List Word) : Prop where
  texts : ∀ w ∈ ws, ' ' ∉ w.text
  between : ws.IsChain fun v w => 0 < v.gap ∧ w.text ≠ []

theorem Spaced.within {vs ws : List Word} (h : Spaced ws) (hvs : vs <:+: ws) : Spaced vs := by
  refine ⟨fun w hw => h.texts w (hvs.subset hw), ?_⟩
  obtain ⟨before, after, rfl⟩ := hvs
  exact h.between.left_of_append.right_of_append

theorem spaced_singleton {w : Word} (h : ' ' ∉ w.text) : Spaced [w] := ⟨by simpa using h, .singleton w⟩

theorem spaced_cons_cons {v w : Word} {ws : List Word} :
    Spaced (v :: w :: ws) ↔ ' ' ∉ v.text ∧ (0 < v.gap ∧ w.text ≠ []) ∧ Spaced (w :: ws) := by
  constructor
  · intro h
    obtain ⟨hv, hws⟩ := List.forall_mem_cons.mp h.texts
    obtain ⟨hvw, hbetween⟩ := List.isChain_cons_cons.mp h.between
    exact ⟨hv, hvw, hws, hbetween⟩
  · rintro ⟨hv, hvw, hws⟩
    exact ⟨List.forall_mem_cons.mpr ⟨hv, hws.texts⟩, .cons_cons hvw hws.between⟩

/-- A word after others holds a character. -/
theorem Spaced.text_ne_nil {vs ws : List Word} {w : Word} (h : Spaced (vs ++ w :: ws)) (hvs : vs ≠ []) :
    w.text ≠ [] := by
  obtain ⟨-, -, hlast⟩ := List.isChain_append.mp h.between
  exact (hlast _ (List.getLast?_eq_some_getLast hvs) w rfl).2

/-- The first word can be any other one, if spaces stand after it where they did before. -/
theorem Spaced.change_head {v w : Word} {ws : List Word} (h : Spaced (w :: ws)) (ht : ' ' ∉ v.text)
    (hgap : w.gap ≤ v.gap) : Spaced (v :: ws) := by
  cases ws with
  | nil => exact spaced_singleton ht
  | cons x ws =>
    obtain ⟨-, ⟨hpos, hx⟩, hws⟩ := spaced_cons_cons.mp h
    exact spaced_cons_cons.mpr ⟨ht, ⟨Nat.lt_of_lt_of_le hpos hgap, hx⟩, hws⟩

theorem spaced_words (l : List Char) : Spaced (words l) := by
  fun_induction words l with
  | case1 => exact ⟨nofun, .nil⟩
  | case2 c r hc gap ws heq ih =>
    rw [heq] at ih
    exact ih.change_head (by simp) (Nat.le_succ gap)
  | case3 c r hc hfirst ih =>
    cases hws : words r with
    | nil => exact spaced_singleton (by simp)
    | cons w ws =>
      have hw : w.text ≠ [] := fun hnil => hfirst w.gap ws (by rw [hws, ← hnil])
      exact spaced_cons_cons.mpr ⟨by simp, ⟨Nat.one_pos, hw⟩, hws ▸ ih⟩
  | case4 c r hc heq ih =>
    have hne : ' ' ≠ c := fun h => hc (by simp [← h])
    exact spaced_singleton (by simpa using hne)
  | case5 c r hc w ws heq ih =>
    rw [heq] at ih
    have hne : ' ' ≠ c := fun h => hc (by simp [← h])
    have hw : ' ' ∉ w.text := ih.texts w List.mem_cons_self
    exact ih.change_head (by simpa using ⟨hne, hw⟩) (Nat.le_refl _)

/-- Words with their spaces are what was scanned. -/
theorem flatMap_full_words (l : List Char) : (words l).flatMap Word.full = l := by
  fun_induction words l with
  | case1 => rfl
  | case2 c r hc gap ws heq ih =>
    obtain rfl : c = ' ' := by simpa using hc
    rw [heq] at ih
    rw [← ih]
    rfl
  | case3 c r hc hfirst ih =>
    obtain rfl : c = ' ' := by simpa using hc
    rw [List.flatMap_cons, ih]
    rfl
  | case4 c r hc heq ih =>
    rw [heq] at ih
    rw [← ih]
    rfl
  | case5 c r hc w ws heq ih =>
    rw [heq] at ih
    rw [← ih]
    rfl

/-! ## Lines of words -/

def lastGap : List Word → Nat
  | [] => 0
  | [w] => w.gap
  | _ :: r => lastGap r

/-- A line and the spaces after it are its words with theirs. -/
theorem lineText_append_lastGap (ws : List Word) :
    lineText ws ++ List.replicate (lastGap ws) ' ' = ws.flatMap Word.full := by
  fun_induction lineText ws with
  | case1 => rfl
  | case2 w => simp [lastGap, Word.full]
  | case3 w r hr ih =>
    rw [List.flatMap_cons, ← ih, lastGap]
    · simp [Word.full]
    · exact hr

theorem lineText_cons_cons (w v : Word) (r : List Word) :
    lineText (w :: v :: r) = w.text ++ List.replicate w.gap ' ' ++ lineText (v :: r) := by
  rw [lineText]
  exact nofun

theorem lastGap_append_singleton (ws : List Word) (w : Word) : lastGap (ws ++ [w]) = w.gap := by
  induction ws with
  | nil => rfl
  | cons v ws ih =>
    cases ws with
    | nil => rfl
    | cons x ws => exact ih

theorem prefix_lineText (w : Word) (r : List Word) : w.text <+: lineText (w :: r) := by
  cases r with
  | nil => exact List.prefix_rfl
  | cons v r =>
    rw [lineText_cons_cons, List.append_assoc]
    exact List.prefix_append _ _

/-- A word and a gap that is not empty, before what follows. -/
theorem word_append_eq {w : Word} {n : Nat} (hn : w.gap = n + 1) (b : List Char) :
    w.text ++ List.replicate w.gap ' ' ++ b = w.text ++ List.replicate n ' ' ++ ' ' :: b := by
  rw [hn, List.replicate_succ']
  simp

theorem runs_word_append {w : Word} (ht : ' ' ∉ w.text) (hgap : 0 < w.gap) (b : List Char) :
    runs (w.text ++ List.replicate w.gap ' ' ++ b) = [w.text].filter (!·.isEmpty) ++ runs b := by
  obtain ⟨n, hn⟩ := Nat.exists_eq_add_one.mpr hgap
  rw [word_append_eq hn, runs_append_space, runs_append_blanks, runs_of_not_mem ht]

theorem lineColumns_word_append {w : Word} (ht : ' ' ∉ w.text) (hgap : 0 < w.gap) (b : List Char) :
    lineColumns (w.text ++ List.replicate w.gap ' ' ++ b) = w.span + lineColumns b := by
  obtain ⟨n, hn⟩ := Nat.exists_eq_add_one.mpr hgap
  rw [word_append_eq hn, lineColumns_append_space, lineColumns_append_blanks, lineColumns_of_not_mem ht, Word.span, hn]
  rfl

/-- The runs of a line are the words that hold characters. -/
theorem runs_lineText {ws : List Word} (h : Spaced ws) :
    runs (lineText ws) = (ws.map (·.text)).filter (!·.isEmpty) := by
  induction ws with
  | nil => rfl
  | cons w r ih =>
    cases r with
    | nil => exact runs_of_not_mem (h.texts w List.mem_cons_self)
    | cons v r =>
      obtain ⟨ht, ⟨hgap, -⟩, hr⟩ := spaced_cons_cons.mp h
      rw [lineText_cons_cons, runs_word_append ht hgap, ih hr, List.map_cons, ← List.filter_append]
      rfl

/-- The scan finds all runs. -/
theorem runs_eq_words (l : List Char) : runs l = ((words l).map (·.text)).filter (!·.isEmpty) := by
  have hruns := runs_append_blanks (lineText (words l)) (lastGap (words l))
  rwa [lineText_append_lastGap, flatMap_full_words, runs_lineText (spaced_words l)] at hruns

/-- A line and the spaces after it take the columns that its words span. -/
theorem lineColumns_lineText {ws : List Word} (h : Spaced ws) :
    lineColumns (lineText ws) + lastGap ws = (ws.map Word.span).sum := by
  induction ws with
  | nil => rfl
  | cons w r ih =>
    cases r with
    | nil =>
      rw [lineText, lineColumns_of_not_mem (h.texts w List.mem_cons_self)]
      simp [lastGap, Word.span]
    | cons v r =>
      obtain ⟨ht, ⟨hgap, -⟩, hr⟩ := spaced_cons_cons.mp h
      rw [lineText_cons_cons, lineColumns_word_append ht hgap, List.map_cons, List.sum_cons, ← ih hr, lastGap]
      · exact Nat.add_assoc ..
      · exact nofun

/-- A line ends in a character of its last word. -/
theorem getLast?_lineText {ws : List Word} (h : Spaced ws) : (lineText ws).getLast? ≠ some ' ' := by
  induction ws with
  | nil => nofun
  | cons w r ih =>
    cases r with
    | nil => exact fun hlast => h.texts w List.mem_cons_self (List.mem_of_getLast? hlast)
    | cons v r =>
      obtain ⟨-, ⟨-, hv⟩, hr⟩ := spaced_cons_cons.mp h
      have hne : lineText (v :: r) ≠ [] := fun hnil => hv (List.prefix_nil.mp (hnil ▸ prefix_lineText v r))
      rw [lineText_cons_cons, List.getLast?_append_of_ne_nil _ hne]
      exact ih hr

/-! ## Columns and bytes -/

theorem two_le_utf8Size {c : Char} (h : 0x80 ≤ c.toNat) : 2 ≤ c.utf8Size := by
  have hone : c.utf8Size ≠ 1 := by
    intro hsize
    have hval : c.toNat ≤ 0x7F := UInt32.le_iff_toNat_le.mp (Char.utf8Size_eq_one_iff.mp hsize)
    omega
  have hpos := c.utf8Size_pos
  omega

theorem three_le_utf8Size {c : Char} (h : 0x800 ≤ c.toNat) : 3 ≤ c.utf8Size := by
  have htwo : c.utf8Size ≠ 2 := by
    intro hsize
    have hval : c.toNat ≤ 0x7FF := UInt32.le_iff_toNat_le.mp (Char.utf8Size_eq_two_iff.mp hsize).2
    omega
  have hle : 2 ≤ c.utf8Size := two_le_utf8Size (by omega)
  omega

/-- No character of two columns is one of ASCII. -/
theorem le_toNat_of_inRanges_doubleWidth {c : Char} (h : inRanges doubleWidth c = true) : 0x80 ≤ c.toNat := by
  have hfirst : ∀ r ∈ doubleWidth, 0x80 ≤ r.1 := by decide +kernel
  obtain ⟨r, hr, hc⟩ := List.any_eq_true.mp h
  simp only [Bool.and_eq_true, decide_eq_true_eq] at hc
  exact Nat.le_trans (hfirst r hr) hc.1

theorem charColumns_le_utf8Size (c : Char) : charColumns c ≤ c.utf8Size := by
  unfold charColumns
  split
  · exact c.utf8Size_pos
  split
  · exact Nat.zero_le _
  split
  · rename_i hdouble
    exact two_le_utf8Size (le_toNat_of_inRanges_doubleWidth hdouble)
  split
  · rename_i htriple
    exact three_le_utf8Size (htriple ▸ by decide)
  · exact c.utf8Size_pos

theorem columnsFrom_le_byteLength (state : EscapeState) (l : List Char) : columnsFrom state l ≤ byteLength l := by
  induction l generalizing state with
  | nil => exact Nat.le_refl _
  | cons c r ih =>
    have hstep : (state.step c).1 ≤ c.utf8Size := by
      cases state with
      | plain =>
        show (if c == '\x1b' then (0, EscapeState.escape) else (charColumns c, .plain)).1 ≤ c.utf8Size
        split
        · exact Nat.zero_le _
        · exact charColumns_le_utf8Size c
      | escape => exact Nat.zero_le _
      | control => exact Nat.zero_le _
      | command escaped => exact Nat.zero_le _
    exact Nat.add_le_add hstep (ih _)

theorem byteLength_cons (c : Char) (r : List Char) : byteLength (c :: r) = c.utf8Size + byteLength r := rfl

theorem byteLength_append (a b : List Char) : byteLength (a ++ b) = byteLength a + byteLength b := by
  induction a with
  | nil => exact (Nat.zero_add _).symm
  | cons c r ih => rw [List.cons_append, byteLength_cons, byteLength_cons, ih, Nat.add_assoc]

theorem byteLength_replicate (n : Nat) : byteLength (List.replicate n ' ') = n := by
  induction n with
  | zero => rfl
  | succ n ih =>
    rw [List.replicate_succ, byteLength_cons, ih]
    exact Nat.add_comm 1 n

theorem sum_span_le_byteLength (ws : List Word) : (ws.map Word.span).sum ≤ byteLength (ws.flatMap Word.full) := by
  induction ws with
  | nil => exact Nat.le_refl _
  | cons w r ih =>
    rw [List.map_cons, List.sum_cons, List.flatMap_cons, byteLength_append, Word.full, byteLength_append,
      byteLength_replicate]
    exact Nat.add_le_add (Nat.add_le_add_right (columnsFrom_le_byteLength .plain w.text) w.gap) ih

/-- No line takes more columns than bytes. -/
theorem lineColumns_le_byteLength (l : List Char) : lineColumns l ≤ byteLength l := by
  have hspan := sum_span_le_byteLength (words l)
  rw [← lineColumns_lineText (spaced_words l), ← lineColumns_append_blanks, lineText_append_lastGap,
    flatMap_full_words] at hspan
  exact hspan

end PlotTypes.Text
