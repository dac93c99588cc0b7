/-
  PlotTypes.Text.Width — the columns that a text takes on a terminal.

  Terminal escape sequences and the characters of `zeroWidth` take none, those of
  `doubleWidth` two. A word that `Fill` puts on a line is measured by `columns`.
-/

import PlotTypes.Text.Pieces
import PlotTypes.Text.WidthTable

namespace PlotTypes.Text

/-- The printable characters of ASCII, each of one column. -/
def isPlain (c : Char) : Bool := 0x20 ≤ c.toNat && c.toNat < 0x7F

def charColumns (c : Char) : Nat :=
  if isPlain c then 1
  else if inRanges zeroWidth c then 0
  else if inRanges doubleWidth c then 2
  else if c.toNat = tripleWidth then 3
  else 1

/-- Where a scan stands: in plain text, just after an escape character, inside a control
    sequence, or inside a system command, with an escape character just read or not. -/
inductive EscapeState where
  | plain
  | escape
  | control
  | command (escaped : Bool)
  deriving DecidableEq, Repr

/-- The columns of one character, and where the scan stands after it. A control sequence
    ends with a character from `@` to `~`, a system command with a bell or an escaped
    backslash; any other escaped character is the whole sequence. -/
def EscapeState.step : EscapeState → Char → Nat × EscapeState
  | .plain, c => if c == '\x1b' then (0, .escape) else (charColumns c, .plain)
  | .escape, c => (0, if c == '[' then .control else if c == ']' then .command false else .plain)
  | .control, c => (0, if '@' ≤ c && c ≤ '~' then .plain else .control)
  | .command escaped, c =>
    (0, if c == '\x07' || (escaped && c == '\\') then .plain else .command (c == '\x1b'))

def columnsFrom (state : EscapeState) : List Char → Nat
  | [] => 0
  | c :: r => (state.step c).1 + columnsFrom (state.step c).2 r

def columns (s : List Char) : Nat := columnsFrom .plain s

end PlotTypes.Text
