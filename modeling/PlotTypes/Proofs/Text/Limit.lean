/-
  PlotTypes.Proofs.Text.Limit — wrapped lines in their limit, indents included.

  A text that starts at a column is wrapped to the limit less the column, and its lines are then
  indented: the first where it is written, the others by the wrapping. The first line of a piece
  may hold more than those after it, and with their indents all of them keep to the limit. A
  limit below the column holds no two words, so nothing goes wrong there.
  - `lineColumns_of_no_escape`: columns told character by character.
  - `narrow_wrap`: what both kinds of wrapped lines keep to.
-/

import PlotTypes.Proofs.Text.Wrap

namespace PlotTypes.Text

variable {l : List Char} {indent limit width : Nat}

/-! ## Columns of plain text -/

/-- What holds of words, and of two texts with a space between them, holds of every text. -/
theorem text_induction {P : List Char → Prop} (word : ∀ w, ' ' ∉ w → P w)
    (space : ∀ a b, P a → P b → P (a ++ ' ' :: b)) (l : List Char) : P l := by
  by_cases h : ' ' ∈ l
  · obtain ⟨a, b, rfl⟩ := List.append_of_mem h
    exact space a b (text_induction word space a) (text_induction word space b)
  · exact word l h
termination_by l.length

theorem columns_of_no_escape (h : '\x1b' ∉ l) : columns l = (l.map charColumns).sum := by
  unfold columns
  induction l with
  | nil => rfl
  | cons c r ih =>
    rw [List.mem_cons, not_or] at h
    have hstep : EscapeState.plain.step c = (charColumns c, .plain) := if_neg (by simpa using Ne.symm h.1)
    rw [columnsFrom, hstep, ih h.2, List.map_cons, List.sum_cons]

/-- Without terminal escape sequences every character takes its own columns. -/
theorem lineColumns_of_no_escape (h : '\x1b' ∉ l) : lineColumns l = (l.map charColumns).sum := by
  induction l using text_induction with
  | word w hw => rw [lineColumns_of_not_mem hw, columns_of_no_escape h]
  | space a b iha ihb =>
    simp only [List.mem_append, List.mem_cons, not_or] at h
    have hspace : charColumns ' ' = 1 := by decide
    rw [lineColumns_append_space, iha h.1, ihb h.2.2, List.map_append, List.map_cons, List.sum_append, List.sum_cons,
      hspace, Nat.add_assoc]

/-! ## Lines in their limit -/

def Narrow (limit : Nat) (line : List Char) : Prop := 2 ≤ (runs line).length → lineColumns line ≤ limit

theorem Packed.fits {first later : Nat} {lines : List Filled} (h : Packed later first lines) (hle : later ≤ first) :
    ∀ line ∈ lines, Fits first line := by
  induction h with
  | last fits => simpa using fits
  | more fits _ _ ih =>
    refine List.forall_mem_cons.mpr ⟨fits, fun line hline htwo => ?_⟩
    exact Nat.le_trans (ih (Nat.le_refl _) line hline htwo) hle

theorem Narrow.mono {more : Nat} (h : Narrow limit l) (hle : limit ≤ more) : Narrow more l :=
  fun htwo => Nat.le_trans (h htwo) hle

theorem narrow_nil (limit : Nat) : Narrow limit [] := fun _ => Nat.zero_le limit

theorem runs_blanks_append (n : Nat) (l : List Char) : runs (List.replicate n ' ' ++ l) = runs l := by
  induction n with
  | zero => rfl
  | succ n ih =>
    rw [List.replicate_succ, List.cons_append, ← ih]
    exact runs_append_space [] (List.replicate n ' ' ++ l)

theorem lineColumns_blanks_append (n : Nat) (l : List Char) :
    lineColumns (List.replicate n ' ' ++ l) = n + lineColumns l := by
  rw [lineColumns, runs_blanks_append, List.count_append, List.count_replicate_self, lineColumns]
  omega

/-- Two words have a space between them. -/
theorem lineColumns_pos (h : 2 ≤ (runs l).length) : 0 < lineColumns l := by
  have hspace : ' ' ∈ l := by
    by_contra hnone
    rw [runs_of_not_mem hnone] at h
    have hone := List.length_filter_le (!·.isEmpty) [l]
    rw [List.length_singleton] at hone
    omega
  have hcount := List.count_pos_iff.mpr hspace
  unfold lineColumns
  omega

/-- A limit that is narrower than the indent leaves no room for two words. -/
theorem narrow_blanks_append (h : Narrow (limit - indent) l) : Narrow limit (List.replicate indent ' ' ++ l) := by
  intro htwo
  rw [runs_blanks_append] at htwo
  have hcolumns := h htwo
  have hpos := lineColumns_pos htwo
  rw [lineColumns_blanks_append]
  omega

/-- The lines of a wrapped text: the first may get its indent, the others have theirs. -/
theorem narrow_wrap (text : String) (indent limit : Nat) :
    ∃ first later, wrap text indent (limit - indent) = first :: later ∧ Narrow (limit - indent) first.toList ∧
      ∀ line ∈ later, Narrow limit line.toList := by
  obtain ⟨blocks, hpieces, hlines⟩ := exists_blocks indent (limit - indent) false (pieces (· == '\n') text.toList)
  have hfits : ∀ line ∈ blocks.flatMap Block.placed, Narrow (limit - indent) line.2.content := by
    intro line hline
    obtain ⟨b, -, hb⟩ := List.mem_flatMap.mp hline
    obtain ⟨filled, hfilled, rfl⟩ := List.mem_map.mp hb
    exact b.fills.packed.fits (Nat.sub_le _ _) filled hfilled
  have hlaid : ∀ line ∈ blocks.flatMap Block.placed, Narrow limit (laid indent line) := by
    intro line hline
    unfold laid
    split
    · exact (hfits line hline).mono (Nat.sub_le _ _)
    · exact narrow_blanks_append (hfits line hline)
  cases hplaced : blocks.flatMap Block.placed with
  | nil =>
    have hne : blocks ≠ [] := by
      rintro rfl
      exact pieces_ne_nil _ _ hpieces.symm
    obtain ⟨b, hb⟩ := List.exists_mem_of_ne_nil blocks hne
    exact absurd (List.flatMap_eq_nil_iff.mp hplaced b hb) b.placed_ne_nil
  | cons first later =>
    rw [hplaced] at hfits hlaid hlines
    refine ⟨String.ofList first.2.content, (later.map (laid indent)).map String.ofList, ?_, ?_, ?_⟩
    · rw [wrap, hlines]
      rfl
    · simpa using hfits first List.mem_cons_self
    · intro line hline
      obtain ⟨l, hl, rfl⟩ := List.mem_map.mp hline
      obtain ⟨x, hx, rfl⟩ := List.mem_map.mp hl
      simpa using hlaid x (List.mem_cons_of_mem _ hx)

end PlotTypes.Text
