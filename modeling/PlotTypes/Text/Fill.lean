/-
  PlotTypes.Text.Fill — filling lines with words.

  A text is cut at its line feeds and the pieces are filled one after another. Only
  the space separates words, words are never split, and a line takes every word that
  still fits. The very first line carries no indent; every later one starts with it.

  - The first line of a piece may hold `width` columns besides its indent, the others
    hold `width` with their indent.
  - Spaces between two words of one line stay as they are; those at the end of a line go.
  - A piece shorter in bytes than `width` is one line as it stands where no indent is
    due, and an empty piece is an empty line.
-/

import PlotTypes.Text.Width

namespace PlotTypes.Text

/-- A run of characters other than the space, and the number of spaces after it. -/
structure Word where
  text : List Char
  gap : Nat
  deriving DecidableEq, Repr

/-- The words of a piece. Spaces at its start follow a word without characters. -/
def words : List Char → List Word
  | [] => []
  | c :: r =>
    if c == ' ' then
      match words r with
      | ⟨[], gap⟩ :: ws => ⟨[], gap + 1⟩ :: ws
      | ws => ⟨[], 1⟩ :: ws
    else
      match words r with
      | [] => [⟨[c], 0⟩]
      | w :: ws => ⟨c :: w.text, w.gap⟩ :: ws

/-- The columns of a word and of the spaces after it. -/
def Word.span (w : Word) : Nat := columns w.text + w.gap

/-! ## Lines of words -/

/-- What joins a line that already holds `used` columns, and the lines after it. The line
    holds `limit` columns, the lines after it `later`. -/
def pack (limit later used : Nat) : List Word → List Word × List (List Word)
  | [] => ([], [])
  | w :: r =>
    if limit < used + columns w.text then
      let rest := pack later later w.span r
      ([], (w :: rest.1) :: rest.2)
    else
      let rest := pack limit later (used + w.span) r
      (w :: rest.1, rest.2)

/-- The lines of a piece. Its first word starts the first line whatever its width. -/
def linesOf (first later : Nat) : List Word → List (List Word)
  | [] => []
  | w :: r =>
    let rest := pack first later w.span r
    (w :: rest.1) :: rest.2

/-- The text of a line: its words with the spaces between them. -/
def lineText : List Word → List Char
  | [] => []
  | [w] => w.text
  | w :: r => w.text ++ List.replicate w.gap ' ' ++ lineText r

/-! ## Pieces -/

def byteLength (s : List Char) : Nat := (s.map Char.utf8Size).foldr (· + ·) 0

def indented (indent : Nat) (line : List Char) : List Char := List.replicate indent ' ' ++ line

/-- The lines of one piece; `started` tells that a line stands before them. -/
def fillPiece (indent width : Nat) (started : Bool) (piece : List Char) : List (List Char) :=
  if (!started || indent == 0) && byteLength piece < width then [dropEnd (· == ' ') piece]
  else
    match (linesOf width (width - indent) (words piece)).map lineText with
    | [] => [[]]
    | first :: later => (if started then indented indent first else first) :: later.map (indented indent)

def fillPieces (indent width : Nat) (started : Bool) : List (List Char) → List (List Char)
  | [] => []
  | piece :: r => fillPiece indent width started piece ++ fillPieces indent width true r

/-- `text` in lines of at most `width` columns where its words allow it. -/
def wrap (text : String) (indent width : Nat) : List String :=
  (fillPieces indent width false (pieces (· == '\n') text.toList)).map String.ofList

end PlotTypes.Text
