/-
  PlotTypes.Proofs.Python.DocWidth — how wide documentation is when it is written.

  Lines are filled up to a limit, and escaped when they are written. Escaping puts backslashes
  into the words of a line and leaves its spaces alone, so a line keeps its words but gets wider
  by what is put in: the limit was kept by the line before that.
  - `narrow_filledLines`: with their indents, the lines of a text filled from a column on keep
    to the limit, if they hold several words.
  - `paragraphLines_wrap`: what is written are these lines, escaped as a whole.
  - `runs_escapeDoc`, `lineColumns_escapeDoc`: the words and the columns of an escaped line. A
    backslash may end a terminal escape sequence, so columns are only told without these.
-/

import PlotTypes.Proofs.Python.Docstring
import PlotTypes.Proofs.Text.Limit

namespace PlotTypes.Python

open PlotTypes.Text

variable {l : List Char} {line : String}

/-! ## Escaped text -/

theorem mem_escapeDoc {c : Char} (h : c ∈ escapeDoc l) : c = '\\' ∨ c ∈ l := by
  induction l using escapeDoc_induction with
  | nil => exact .inr h
  | backslash r ih =>
    rw [escapeDoc_backslash] at h
    simp only [List.mem_cons] at h ⊢
    tauto
  | triple r ih =>
    rw [escapeDoc_triple] at h
    simp only [List.mem_cons] at h ⊢
    tauto
  | self d r hd hdouble ih =>
    rw [escapeDoc_self hd hdouble] at h
    simp only [List.mem_cons] at h ⊢
    tauto

/-- Nothing is taken away. -/
theorem sublist_escapeDoc (l : List Char) : l.Sublist (escapeDoc l) := by
  induction l using escapeDoc_induction with
  | nil => exact .slnil
  | backslash r ih =>
    rw [escapeDoc_backslash]
    exact .cons _ (.cons_cons _ ih)
  | triple r ih =>
    rw [escapeDoc_triple]
    exact .cons _ (.cons_cons _ (.cons _ (.cons_cons _ (.cons _ (.cons_cons _ ih)))))
  | self c r hc hdouble ih =>
    rw [escapeDoc_self hc hdouble]
    exact .cons_cons _ ih

/-- A space ends any row of quotes. -/
theorem escapeDoc_append_space (a b : List Char) : escapeDoc (a ++ ' ' :: b) = escapeDoc a ++ ' ' :: escapeDoc b := by
  induction a using escapeDoc_induction with
  | nil => exact escapeDoc_self (by decide) nofun
  | backslash r ih => simp only [List.cons_append, escapeDoc_backslash, ih]
  | triple r ih => simp only [List.cons_append, escapeDoc_triple, ih]
  | self c r hc hdouble ih =>
    have hapart : c = '"' → ∀ s, r ++ ' ' :: b ≠ '"' :: '"' :: s := by
      rintro hq s hs
      rcases r with _ | ⟨d, _ | ⟨e, r⟩⟩
      · cases hs
      · cases hs
      · injection hs with hd hs
        injection hs with he hs
        exact hdouble hq r (by rw [hd, he])
    rw [List.cons_append, escapeDoc_self hc hapart, escapeDoc_self hc hdouble, ih, List.cons_append]

theorem escapeDoc_blanks_append (n : Nat) (l : List Char) :
    escapeDoc (List.replicate n ' ' ++ l) = List.replicate n ' ' ++ escapeDoc l := by
  induction n with
  | zero => rfl
  | succ n ih =>
    rw [List.replicate_succ, List.cons_append, List.cons_append, ← ih]
    exact escapeDoc_append_space [] (List.replicate n ' ' ++ l)

/-- The words of an escaped line are those of the line, escaped one by one. -/
theorem runs_escapeDoc (l : List Char) : runs (escapeDoc l) = (runs l).map escapeDoc := by
  induction l using text_induction with
  | word w hw =>
    have hescaped : ' ' ∉ escapeDoc w := fun h => (mem_escapeDoc h).elim (by decide) hw
    rw [runs_of_not_mem hw, runs_of_not_mem hescaped]
    cases w with
    | nil => rfl
    | cons c r =>
      have hne : escapeDoc (c :: r) ≠ [] := fun h => by simpa [h] using sublist_escapeDoc (c :: r)
      simp [hne]
  | space a b iha ihb => rw [escapeDoc_append_space, runs_append_space, iha, ihb, runs_append_space, List.map_append]

def added (l : List Char) : Nat := (escapeDoc l).length - l.length

def EscapeFree (l : List Char) : Prop := '\\' ∉ l ∧ ¬['"', '"', '"'] <:+: l

theorem escapeDoc_of_escapeFree (h : EscapeFree l) : escapeDoc l = l := by
  induction l with
  | nil => rfl
  | cons c r ih =>
    obtain ⟨hbackslash, htriple⟩ := h
    rw [List.mem_cons, not_or] at hbackslash
    rw [List.infix_cons_iff, not_or] at htriple
    have hapart : c = '"' → ∀ s, r ≠ '"' :: '"' :: s := by
      rintro rfl s rfl
      exact htriple.1 ⟨s, rfl⟩
    rw [escapeDoc_self (Ne.symm hbackslash.1) hapart, ih ⟨hbackslash.2, htriple.2⟩]

/-- Every character that is added takes one column. -/
theorem sum_charColumns_escapeDoc (l : List Char) :
    ((escapeDoc l).map charColumns).sum + l.length = (l.map charColumns).sum + (escapeDoc l).length := by
  have hbackslash : charColumns '\\' = 1 := by decide
  induction l using escapeDoc_induction with
  | nil => rfl
  | backslash r ih =>
    simp only [escapeDoc_backslash, List.map_cons, List.sum_cons, List.length_cons, hbackslash]
    omega
  | triple r ih =>
    simp only [escapeDoc_triple, List.map_cons, List.sum_cons, List.length_cons, hbackslash]
    omega
  | self c r hc hdouble ih =>
    rw [escapeDoc_self hc hdouble]
    simp only [List.map_cons, List.sum_cons, List.length_cons]
    omega

/-- So an escaped line takes as many columns more, unless it holds terminal escape sequences. -/
theorem lineColumns_escapeDoc (h : '\x1b' ∉ l) : lineColumns (escapeDoc l) = lineColumns l + added l := by
  have hescaped : '\x1b' ∉ escapeDoc l := fun hmem => (mem_escapeDoc hmem).elim (by decide) h
  have hsum := sum_charColumns_escapeDoc l
  have hle := (sublist_escapeDoc l).length_le
  rw [lineColumns_of_no_escape hescaped, lineColumns_of_no_escape h, added]
  omega

/-! ## Paragraphs -/

def blanks (n : Nat) : String := String.ofList (List.replicate n ' ')

def filledLines (limit column : Nat) (text : String) : List String :=
  laidParagraph (blanks column) (wrap text column (limit - column))

theorem narrow_laidLine {limit : Nat} {indent : String} (h : Narrow limit (indent ++ line).toList) :
    Narrow limit (laidLine indent line).toList := by
  unfold laidLine
  split
  · exact narrow_nil limit
  · exact h

theorem narrow_filledLines (limit column : Nat) (text : String) :
    ∀ line ∈ filledLines limit column text, Narrow limit line.toList := by
  obtain ⟨first, later, hwrap, hfirst, hlater⟩ := narrow_wrap text column limit
  rw [filledLines, hwrap, laidParagraph]
  refine List.forall_mem_cons.mpr ⟨narrow_laidLine ?_, List.forall_mem_map.mpr fun line hline => narrow_laidLine ?_⟩
  · simpa [blanks] using narrow_blanks_append hfirst
  · simpa using hlater line hline

def escapedLine (line : String) : String := String.ofList (escapeDoc line.toList)

theorem docLine_blanks (column : Nat) (line : String) :
    docLine (blanks column) line = escapedLine (laidLine (blanks column) line) := by
  unfold docLine laidLine escapedLine
  simp only [allBlank_escapeDoc]
  split
  · rfl
  · rw [blanks, String.toList_append, String.toList_ofList, escapeDoc_blanks_append, ← String.ofList_append]

theorem paragraphLines_wrap (limit column : Nat) (text : String) :
    paragraphLines (blanks column) (wrap text column (limit - column)) =
      (filledLines limit column text).map escapedLine := by
  unfold filledLines
  cases wrap text column (limit - column) with
  | nil => rfl
  | cons first later =>
    have hlater : docLine "" = escapedLine ∘ laidLine "" := funext (docLine_blanks 0)
    rw [paragraphLines, laidParagraph, List.map_cons, docLine_blanks, List.map_map, hlater]

end PlotTypes.Python
