/-
  PlotTypes.Proofs.Text.Wrap — what wrapped lines are.

  What wrapping promises is said without the scan and without the packing: lines and the spaces
  dropped after them make up the piece, so words come in order and none is split; a line of
  several words keeps to its limit (`Fits`); and a break is made only where the word after it
  would not have fitted (`Packed`). A piece that is short in bytes is not scanned for words, and
  is such a line all the same, because no text takes more columns than bytes.
  - `packed_pack`: what `pack` adds to a line that fits is packed.
  - `exists_block`: every piece is filled, whichever way it takes.
  - `wrap_fills`: every text is wrapped into the filled lines of its pieces, the first bare and
    the others indented.
-/

import PlotTypes.Proofs.Text.Words

namespace PlotTypes.Text

/-! ## Filled lines -/

/-- The content of a line, and the number of spaces dropped after it. -/
structure Filled where
  content : List Char
  dropped : Nat
  deriving DecidableEq, Repr

def Filled.taken (l : Filled) : List Char := l.content ++ List.replicate l.dropped ' '

def Fits (limit : Nat) (l : Filled) : Prop := 2 ≤ (runs l.content).length → lineColumns l.content ≤ limit

/-- Adding the spaces after a line and the first word of the next one would exceed the limit of the line. -/
def Exceeds (limit : Nat) (l next : Filled) : Prop :=
  ∃ w, (runs next.content).head? = some w ∧ w <+: next.content ∧ limit < lineColumns l.content + l.dropped + columns w

/-- Lines that fit and that could not take another word. The first has its own limit. -/
inductive Packed (later : Nat) : Nat → List Filled → Prop
  | last {limit : Nat} {l : Filled} (fits : Fits limit l) : Packed later limit [l]
  | more {limit : Nat} {l next : Filled} {rest : List Filled} (fits : Fits limit l) (exceeds : Exceeds limit l next)
      (packed : Packed later later (next :: rest)) : Packed later limit (l :: next :: rest)

theorem Packed.ne_nil {later limit : Nat} {lines : List Filled} (h : Packed later limit lines) : lines ≠ [] := by
  cases h with
  | last => exact List.cons_ne_nil _ _
  | more => exact List.cons_ne_nil _ _

/-- The lines of a piece: nothing is lost, no word is split, no line ends in a space, and all are packed. -/
structure Fills (first later : Nat) (piece : List Char) (lines : List Filled) : Prop where
  taken : lines.flatMap Filled.taken = piece
  words : lines.flatMap (runs ·.content) = runs piece
  ends : ∀ l ∈ lines, l.content.getLast? ≠ some ' '
  packed : Packed later first lines

/-- An empty piece is one empty line. -/
theorem Fills.eq_of_nil {first later : Nat} {lines : List Filled} (h : Fills first later [] lines) :
    lines = [⟨[], 0⟩] := by
  have hempty : ∀ l ∈ lines, l = ⟨[], 0⟩ := by
    intro l hl
    obtain ⟨content, dropped⟩ := l
    have htaken := List.flatMap_eq_nil_iff.mp h.taken _ hl
    obtain ⟨rfl, hdropped⟩ := List.append_eq_nil_iff.mp htaken
    rw [show dropped = 0 by simpa using hdropped]
  have hpacked := h.packed
  cases hpacked with
  | @last _ l => rw [hempty l List.mem_cons_self]
  | @more _ l next rest _ hexceeds _ =>
    obtain ⟨w, hw, -, -⟩ := hexceeds
    rw [hempty next (by simp)] at hw
    cases hw

/-! ## Packing -/

def lineOf (ws : List Word) : Filled := ⟨lineText ws, lastGap ws⟩

theorem taken_lineOf (ws : List Word) : (lineOf ws).taken = ws.flatMap Word.full := lineText_append_lastGap ws

variable {limit later used : Nat} {current r ws : List Word}

/-- Packing keeps all words in their order. -/
theorem pack_flatten (limit later used : Nat) (r : List Word) :
    (pack limit later used r).1 ++ (pack limit later used r).2.flatten = r := by
  induction r generalizing limit used with
  | nil => rfl
  | cons w r ih =>
    unfold pack
    split
    · simp [ih later w.span]
    · simp [ih limit (used + w.span)]

theorem fits_lineOf_singleton {w : Word} (h : Spaced [w]) (limit : Nat) : Fits limit (lineOf [w]) := by
  intro htwo
  rw [lineOf, runs_lineText h] at htwo
  have hone : (([w].map (·.text)).filter (!·.isEmpty)).length ≤ 1 := List.length_filter_le _ _
  omega

/-- A word that is added within the limit. -/
theorem fits_lineOf_append {w : Word} (h : Spaced (current ++ [w]))
    (hfits : (current.map Word.span).sum + columns w.text ≤ limit) : Fits limit (lineOf (current ++ [w])) := by
  intro _
  have hcolumns := lineColumns_lineText h
  rw [lastGap_append_singleton, List.map_append, List.sum_append, List.map_singleton, List.sum_singleton,
    Word.span] at hcolumns
  show lineColumns (lineText (current ++ [w])) ≤ limit
  omega

/-- A word that is not added. -/
theorem exceeds_lineOf {w : Word} (hcurrent : Spaced current) (hnext : Spaced (w :: r)) (hw : w.text ≠ [])
    (hlimit : limit < (current.map Word.span).sum + columns w.text) :
    Exceeds limit (lineOf current) (lineOf (w :: r)) := by
  refine ⟨w.text, ?_, prefix_lineText w r, ?_⟩
  · rw [lineOf, runs_lineText hnext, List.map_cons, List.filter_cons_of_pos (by simpa using hw)]
    rfl
  · rw [lineOf, lineColumns_lineText hcurrent]
    exact hlimit

/-- What `pack` makes of the words after a line that fits. -/
theorem packed_pack (hne : current ≠ []) (h : Spaced (current ++ r)) (hfits : Fits limit (lineOf current))
    (hused : used = (current.map Word.span).sum) :
    Packed later limit
      (((current ++ (pack limit later used r).1) :: (pack limit later used r).2).map lineOf) := by
  induction r generalizing limit used current with
  | nil =>
    simp only [pack, List.append_nil, List.map_cons, List.map_nil]
    exact .last hfits
  | cons w r ih =>
    have hword : Spaced [w] := spaced_singleton (h.texts w (by simp))
    have hadded : Spaced (current ++ [w]) := h.within ⟨[], r, by simp⟩
    unfold pack
    split
    · rename_i hlimit
      -- the word starts a line of its own, which the words after it may join
      have hrest : Spaced (w :: (pack later later w.span r).1) := by
        refine h.within ⟨current, (pack later later w.span r).2.flatten, ?_⟩
        rw [List.append_assoc, List.cons_append, pack_flatten]
      have hnext := ih (List.cons_ne_nil w []) (h.within ⟨current, [], by simp⟩) (fits_lineOf_singleton hword later)
        (show w.span = ([w].map Word.span).sum by simp)
      simp only [List.append_nil, List.map_cons]
      exact .more hfits
        (exceeds_lineOf (h.within ⟨[], w :: r, by simp⟩) hrest (h.text_ne_nil hne) (hused ▸ hlimit)) hnext
    · rename_i hlimit
      have hsum : used + w.span = ((current ++ [w]).map Word.span).sum := by simp [hused]
      have hnext := ih (by simp) (by simpa using h) (fits_lineOf_append hadded (hused ▸ Nat.le_of_not_lt hlimit)) hsum
      rwa [List.append_assoc] at hnext

theorem linesOf_flatten (first later : Nat) (ws : List Word) : (linesOf first later ws).flatten = ws := by
  cases ws with
  | nil => rfl
  | cons w r => rw [linesOf, List.flatten_cons, List.cons_append, pack_flatten]

theorem packed_linesOf {first later : Nat} (h : Spaced ws) (hne : ws ≠ []) :
    Packed later first ((linesOf first later ws).map lineOf) := by
  obtain ⟨w, r, rfl⟩ := List.exists_cons_of_ne_nil hne
  have hword : Spaced [w] := h.within ⟨[], r, rfl⟩
  exact packed_pack (List.cons_ne_nil w []) h (fits_lineOf_singleton hword first) (by simp)

/-- The words of a piece are packed into lines of the piece. -/
theorem fills_linesOf {first later : Nat} {piece : List Char} (hne : words piece ≠ []) :
    Fills first later piece ((linesOf first later (words piece)).map lineOf) := by
  have hflatten := linesOf_flatten first later (words piece)
  have hspaced : ∀ part ∈ linesOf first later (words piece), Spaced part := by
    intro part hpart
    obtain ⟨before, after, hsplit⟩ := List.append_of_mem hpart
    refine (spaced_words piece).within ⟨before.flatten, after.flatten, ?_⟩
    rw [← hflatten, hsplit]
    simp
  refine ⟨?_, ?_, ?_, packed_linesOf (spaced_words piece) hne⟩
  · calc ((linesOf first later (words piece)).map lineOf).flatMap Filled.taken
        = (linesOf first later (words piece)).flatMap (·.flatMap Word.full) := by
          rw [List.flatMap_map]
          exact List.flatMap_congr fun part _ => taken_lineOf part
      _ = (words piece).flatMap Word.full := by
          rw [← List.flatMap_assoc, List.flatMap_id', hflatten]
      _ = piece := flatMap_full_words piece
  · calc ((linesOf first later (words piece)).map lineOf).flatMap (runs ·.content)
        = (linesOf first later (words piece)).flatMap fun part => (part.map (·.text)).filter (!·.isEmpty) := by
          rw [List.flatMap_map]
          exact List.flatMap_congr fun part hpart => runs_lineText (hspaced part hpart)
      _ = ((words piece).map (·.text)).filter (!·.isEmpty) := by
          rw [← List.filter_flatMap, ← List.map_flatMap, List.flatMap_id', hflatten]
      _ = runs piece := (runs_eq_words piece).symm
  · intro l hl
    obtain ⟨part, hpart, rfl⟩ := List.mem_map.mp hl
    exact getLast?_lineText (hspaced part hpart)

/-! ## Pieces -/

theorem fills_nil (first later : Nat) : Fills first later [] [⟨[], 0⟩] :=
  ⟨rfl, rfl, by simp, .last fun _ => Nat.zero_le _⟩

/-- A piece that is short in bytes is one line without the spaces at its end. -/
theorem exists_fills_dropEnd {first : Nat} {piece : List Char} (h : byteLength piece < first) (later : Nat) :
    ∃ n, Fills first later piece [⟨dropEnd (· == ' ') piece, n⟩] := by
  obtain ⟨dropped, hpiece, hspaces⟩ := exists_dropEnd_append (· == ' ') piece
  have hblanks : dropped = List.replicate dropped.length ' ' :=
    List.eq_replicate_of_mem fun c hc => by simpa using hspaces c hc
  generalize dropped.length = n at hblanks
  subst hblanks
  have hcolumns := lineColumns_le_byteLength piece
  refine ⟨n, ⟨?_, ?_, ?_, ?_⟩⟩
  · exact (List.flatMap_singleton _ _).trans hpiece
  · rw [List.flatMap_singleton, ← runs_append_blanks _ n, hpiece]
  · simp only [List.mem_singleton, forall_eq]
    intro hlast
    cases getLast?_dropEnd hlast
  · refine .last fun _ => ?_
    rw [← hpiece, lineColumns_append_blanks, hpiece] at hcolumns
    show lineColumns (dropEnd (· == ' ') piece) ≤ first
    omega

structure Block (first later : Nat) where
  piece : List Char
  lines : List Filled
  fills : Fills first later piece lines

def Block.placed {first later : Nat} (b : Block first later) : List (List Char × Filled) := b.lines.map (b.piece, ·)

/-- A line after the first: its content after the indent, unless its piece is empty. -/
def laid (indent : Nat) (line : List Char × Filled) : List Char :=
  if line.1 = [] then line.2.content else indented indent line.2.content

def layout (indent : Nat) (started : Bool) : List (List Char × Filled) → List (List Char)
  | [] => []
  | first :: later => (if started then laid indent first else first.2.content) :: later.map (laid indent)

variable {first : Nat}

theorem layout_true (indent : Nat) (lines : List (List Char × Filled)) :
    layout indent true lines = lines.map (laid indent) := by
  cases lines with
  | nil => rfl
  | cons first later => rfl

theorem layout_append (indent : Nat) (started : Bool) {as : List (List Char × Filled)} (has : as ≠ [])
    (bs : List (List Char × Filled)) :
    layout indent started (as ++ bs) = layout indent started as ++ layout indent true bs := by
  obtain ⟨a, as, rfl⟩ := List.exists_cons_of_ne_nil has
  rw [layout_true, List.cons_append, layout, layout, List.map_append, List.cons_append]

theorem Block.placed_ne_nil (b : Block first later) : b.placed ≠ [] := fun h =>
  b.fills.packed.ne_nil (List.map_eq_nil_iff.mp h)

theorem laid_zero (line : List Char × Filled) : laid 0 line = line.2.content := by
  unfold laid
  split
  · rfl
  · rfl

/-- Every piece is filled, and written so. -/
theorem exists_block (indent width : Nat) (started : Bool) (piece : List Char) :
    ∃ b : Block width (width - indent), b.piece = piece ∧
      fillPiece indent width started piece = layout indent started b.placed := by
  unfold fillPiece
  split
  · rename_i hshort
    rw [Bool.and_eq_true, decide_eq_true_eq] at hshort
    obtain ⟨n, hfills⟩ := exists_fills_dropEnd hshort.2 (width - indent)
    refine ⟨⟨piece, _, hfills⟩, rfl, ?_⟩
    cases started with
    | false => rfl
    | true =>
      obtain rfl : indent = 0 := by simpa using hshort.1
      show _ = [laid 0 _]
      rw [laid_zero]
  · cases hwords : words piece with
    | nil =>
      have hpiece := flatMap_full_words piece
      rw [hwords] at hpiece
      obtain rfl : [] = piece := hpiece
      refine ⟨⟨[], [⟨[], 0⟩], fills_nil width (width - indent)⟩, rfl, ?_⟩
      cases started with
      | false => rfl
      | true => rfl
    | cons w r =>
      have hne : words piece ≠ [] := by rw [hwords]; exact List.cons_ne_nil w r
      have hpiece : piece ≠ [] := by rintro rfl; exact hne rfl
      refine ⟨⟨piece, _, fills_linesOf hne⟩, rfl, ?_⟩
      have hlaid : ∀ part, laid indent (piece, lineOf part) = indented indent (lineText part) := fun _ => if_neg hpiece
      have hlater : laid indent ∘ (piece, ·) ∘ lineOf = indented indent ∘ lineText := funext hlaid
      simp only [hwords, linesOf, Block.placed, List.map_cons, layout, hlaid, List.map_map, hlater]
      rfl

theorem exists_blocks (indent width : Nat) (started : Bool) (ps : List (List Char)) :
    ∃ bs : List (Block width (width - indent)), bs.map (·.piece) = ps ∧
      fillPieces indent width started ps = layout indent started (bs.flatMap Block.placed) := by
  induction ps generalizing started with
  | nil => exact ⟨[], rfl, rfl⟩
  | cons piece ps ih =>
    obtain ⟨b, rfl, hb⟩ := exists_block indent width started piece
    obtain ⟨bs, rfl, hbs⟩ := ih true
    refine ⟨b :: bs, rfl, ?_⟩
    rw [fillPieces, hb, hbs, List.flatMap_cons, layout_append indent started b.placed_ne_nil]

/-- Every text, with whatever indent and width, is wrapped into the filled lines of the pieces between its line feeds.
    The first line of a piece may hold `width` columns, the others `width` without the indent. The very first line
    stands bare, an empty piece is an empty line, and every other line stands after the indent. -/
theorem wrap_fills (text : String) (indent width : Nat) :
    ∃ blocks : List (Block width (width - indent)),
      blocks.map (·.piece) = pieces (· == '\n') text.toList ∧
        (∀ b ∈ blocks, b.piece = [] → b.lines = [⟨[], 0⟩]) ∧
        (wrap text indent width).map String.toList = layout indent false (blocks.flatMap Block.placed) := by
  obtain ⟨blocks, hpieces, hlines⟩ := exists_blocks indent width false (pieces (· == '\n') text.toList)
  refine ⟨blocks, hpieces, fun b _ hb => ?_, ?_⟩
  · have hfills := b.fills
    rw [hb] at hfills
    exact hfills.eq_of_nil
  · rw [wrap, List.map_map, ← hlines]
    exact List.map_id'' (fun _ => String.toList_ofList) _

example : wrap "one two three four five six" 4 14 = ["one two three", "    four five", "    six"] := by decide +kernel

end PlotTypes.Text
