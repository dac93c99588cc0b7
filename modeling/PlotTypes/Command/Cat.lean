/-
  PlotTypes.Command.Cat — the program that puts files together.

  Lines are numbered through all files, and runs of empty lines may become one. Characters
  that cannot be seen are written with carets and, from 128 on, with `M-`.
-/

import PlotTypes.Command.Program

namespace PlotTypes.Command.Cat

structure Style where
  numbers : Bool
  /-- Empty lines have no numbers. -/
  onlyFull : Bool
  squeezes : Bool
  ends : Bool
  tabs : Bool
  visible : Bool
  deriving DecidableEq, Repr

def table : OptionTable where
  program := "cat"
  short := "benstuvAET".toList
  long := [("number-nonblank", false, 'b'), ("number", false, 'n'), ("squeeze-blank", false, 's'),
    ("show-nonprinting", false, 'v'), ("show-ends", false, 'E'), ("show-tabs", false, 'T'),
    ("show-all", false, 'A')] ++ finalOptions
  inFront := false
  valueFault? _ _ := none

def styleOf (o : Options) : Style where
  numbers := o.has 'n' || o.has 'b'
  onlyFull := o.has 'b'
  squeezes := o.has 's'
  ends := o.has 'E' || o.has 'A' || o.has 'e'
  tabs := o.has 'T' || o.has 'A' || o.has 't'
  visible := o.has 'v' || o.has 'A' || o.has 'e' || o.has 't'

/-- What goes on from one character to the next. -/
structure Progress where
  line : Nat
  /-- Empty lines just before, and none where a line has begun. -/
  blanks : Option Nat
  /-- A carriage return that may belong to the line's end. -/
  pendingReturn : Bool
  deriving DecidableEq, Repr

def Progress.start : Progress := ⟨0, some 0, false⟩

def numberText (n : Nat) : Bytes :=
  let ds := Nat.toDigits 10 n
  List.replicate (6 - ds.length) ' ' ++ ds ++ ['\t']

def caret (n : Nat) : Bytes := if n == 127 then ['^', '?'] else ['^', Char.ofNat (n + 64)]

def visibleText (showsTabs : Bool) (c : Char) : Bytes :=
  let n := c.toNat
  if c == '\t' then if showsTabs then caret n else [c]
  else if n < 32 || n == 127 then caret n
  else if n < 127 then [c]
  else 'M' :: '-' :: (if n < 160 || n == 255 then caret (n - 128) else [Char.ofNat (n - 128)])

def numbered (s : Style) (p : Progress) (isEmptyLine : Bool) : Bytes × Progress :=
  if s.numbers && !(isEmptyLine && s.onlyFull) then (numberText (p.line + 1), { p with line := p.line + 1 }) else ([], p)

def lineEnd (s : Style) (p : Progress) : Bytes × Progress :=
  let blanks := match p.blanks with
    | some n => min (n + 1) 2
    | none => 0
  if blanks == 2 && s.squeezes then ([], { p with blanks := some 2 })
  else
    let (number, p) := if blanks > 0 then numbered s p true else ([], p)
    let mark : Bytes := (if p.pendingReturn && s.ends then "^M".toList else []) ++ if s.ends then ['$'] else []
    (number ++ mark ++ ['\n'], { p with blanks := some blanks, pendingReturn := false })

def character (s : Style) (p : Progress) (c : Char) : Bytes × Progress :=
  let held : Bytes := if p.pendingReturn then ['\r'] else []
  let p := { p with pendingReturn := false }
  let (number, p) := if p.blanks.isSome then numbered s p false else ([], p)
  let p := { p with blanks := none }
  if s.visible then (held ++ number ++ visibleText s.tabs c, p)
  else if c == '\t' && s.tabs then (held ++ number ++ caret 9, p)
  else if c == '\r' && s.ends then (held ++ number, { p with pendingReturn := true })
  else (held ++ number ++ [c], p)

/-- The text of a file, and what goes on to the next one; `done` is what comes before it,
    with the last character first. -/
def shown (s : Style) (p : Progress) (done : Bytes) : Bytes → Bytes × Progress
  | [] => (done.reverse, p)
  | c :: r =>
    let (text, p) := if c == '\n' then lineEnd s p else character s p c
    shown s p (text.reverse ++ done) r

structure State where
  progress : Progress
  result : Result

def file (s : Style) (g : Given) (st : State) (operand : Bytes) : State :=
  let (content, rest) := contentOf g st.result.rest operand
  let r := { st.result with rest }
  match content with
  | .ok (content, _) =>
    let (text, progress) := shown s st.progress [] content
    ⟨progress, { r with written := r.written ++ [(true, text)] }⟩
  | .error reason =>
    let message := "cat: ".toList ++ quotedName operand ++ ": ".toList ++ reason.toList ++ ['\n']
    { st with result := { r with written := r.written ++ [(false, message)], status := 1 } }

def closingFault : Bytes := ("cat: closing standard input: " ++ badDescriptor ++ "\n").toList

def run (o : Options) (g : Given) : Result :=
  let operands := if o.operands.isEmpty then [['-']] else o.operands
  let last := operands.foldl (file (styleOf o) g) ⟨.start, ⟨[], 0, g.input.pending⟩⟩
  let written := last.result.written ++ (if last.progress.pendingReturn then [(true, ['\r'])] else []) ++
    if g.input = .closed && operands.contains ['-'] then [(false, closingFault)] else []
  { last.result with written }

def program : Program := withOptions table run

end PlotTypes.Command.Cat
