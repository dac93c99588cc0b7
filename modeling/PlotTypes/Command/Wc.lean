/-
  PlotTypes.Command.Wc — the program that counts lines, words and bytes.

  A word is a run of characters with a printable one in it; every byte is a character.
  Numbers stand in columns as wide as the largest may be, or alone without one.
-/

import PlotTypes.Command.Program

namespace PlotTypes.Command.Wc

structure Counts where
  lines : Nat
  words : Nat
  bytes : Nat
  longest : Nat
  deriving DecidableEq, Repr

def Counts.zero : Counts := ⟨0, 0, 0, 0⟩

def Counts.add (a b : Counts) : Counts :=
  ⟨a.lines + b.lines, a.words + b.words, a.bytes + b.bytes, max a.longest b.longest⟩

/-- Counts of what was read, the width of the line so far, and whether a word has begun. -/
structure Progress where
  counts : Counts
  width : Nat
  inWord : Bool
  deriving DecidableEq, Repr

def Progress.endWord (p : Progress) : Progress :=
  { p with inWord := false, counts := { p.counts with words := p.counts.words + if p.inWord then 1 else 0 } }

def Progress.endLine (p : Progress) : Progress :=
  { p.endWord with width := 0, counts := { p.endWord.counts with longest := max p.counts.longest p.width } }

def count (p : Progress) (c : Char) : Progress :=
  let p := { p with counts := { p.counts with bytes := p.counts.bytes + 1 } }
  if c == '\n' then { p.endLine with counts := { p.endLine.counts with lines := p.counts.lines + 1 } }
  else if c == '\r' || c == '\x0c' then p.endLine
  else if c == '\t' then { p.endWord with width := p.width + (8 - p.width % 8) }
  else if c == ' ' then { p.endWord with width := p.width + 1 }
  else if c == '\x0b' then p.endWord
  else if isPrinted c then { p with width := p.width + 1, inWord := true }
  else p

def countsOf (s : Bytes) : Counts := (s.foldl count ⟨.zero, 0, false⟩).endLine.counts

/-- When a line for the total is written: in one of four ways. -/
def totalNames : List String := ["auto", "always", "only", "never"]

/-- The ways that a text may stand for. -/
def totalsOf (s : Bytes) : List String := totalNames.filter fun n => s.isPrefixOf n.toList

def totalFault? (s : Bytes) : Option Bytes :=
  let told (kind : String) : Option Bytes :=
    some ("wc: ".toList ++ kind.toList ++ " argument ".toList ++ quotedText s ++ " for '--total'\n".toList ++
      "Valid arguments are:\n".toList ++ totalNames.flatMap (fun n => s!"  - '{n}'\n".toList) ++ (hint "wc").toList)
  match totalsOf s with
  | [] => told "invalid"
  | [_] => none
  | _ => told "ambiguous"

def table : OptionTable where
  program := "wc"
  short := "clLmw".toList
  long := [("bytes", false, 'c'), ("chars", false, 'm'), ("lines", false, 'l'), ("words", false, 'w'),
    ("debug", false, 'd'), ("files0-from", true, 'F'), ("max-line-length", false, 'L'), ("total", true, 'T')] ++
    finalOptions
  inFront := false
  valueFault? c value := if c == 'T' then totalFault? value else none

/-- The columns that are shown. -/
def columns (o : Options) (c : Counts) : List Nat :=
  let all := !"clLmw".toList.any o.has
  (if all || o.has 'l' then [c.lines] else []) ++ (if all || o.has 'w' then [c.words] else []) ++
    (if o.has 'm' then [c.bytes] else []) ++ (if all || o.has 'c' then [c.bytes] else []) ++
    if o.has 'L' then [c.longest] else []

/-- A row with its name, if it has one. -/
def row (o : Options) (width : Nat) (c : Counts) (name : Option Bytes) : Bytes :=
  let cell (n : Nat) : Bytes :=
    let ds := Nat.toDigits 10 n
    List.replicate (width - ds.length) ' ' ++ ds
  let named := match name with
    | some s => ' ' :: (if s.contains '\n' then quotedName s else s)
    | none => []
  List.intercalate [' '] ((columns o c).map cell) ++ named ++ ['\n']

/-! ## Finding -/

/-- What was found at an operand. -/
structure Found where
  name : Option Bytes
  content : Except String (Bytes × Option Nat)
  /-- Told of a name that nothing can have. -/
  refusal : Option Bytes

/-- It is the input, by the name for it or as there is no operand. -/
def Found.isInput (f : Found) : Bool := f.name.all (· == ['-'])

/-- What names lead to, in order, and what is left of the input. -/
def findAll (g : Given) (rest : Bytes) : List (Option Bytes × Option Bytes) → List Found × Bytes
  | [] => ([], rest)
  | (name, some refusal) :: r =>
    let (found, rest) := findAll g rest r
    (⟨name, .error noSuchFile, some refusal⟩ :: found, rest)
  | (name, none) :: r =>
    let (content, rest) := contentOf g rest (name.getD ['-'])
    let (found, rest) := findAll g rest r
    (⟨name, content, none⟩ :: found, rest)

/-- What is wrong with a name in a list of names, from its place in it. -/
def refusal? (list name : Bytes) (i : Nat) : Option Bytes :=
  if name.isEmpty then
    some ("wc: ".toList ++ list ++ s!":{i + 1}: invalid zero-length file name\n".toList)
  else if name == ['-'] && list == ['-'] then
    some "wc: when reading file names from stdin, no file name of '-' allowed\n".toList
  else none

/-- What to count. -/
structure Plan where
  names : List (Option Bytes × Option Bytes)
  /-- How many there are is known from the start. -/
  isCounted : Bool
  rest : Bytes

/-- The names in a text, each one with its end but perhaps the last. -/
def namesIn (s : Bytes) : List Bytes :=
  match (Text.pieces (· == '\x00') s).reverse with
  | [] :: r => r.reverse
  | names => names.reverse

/-- The names that a file lists. -/
def planOfList (g : Given) (list : Bytes) : Except Bytes Plan :=
  let quoted := quotedName list
  match contentOf g g.input.pending list with
  | (.ok (s, length), rest) =>
    .ok ⟨(namesIn s).zipIdx.map fun (name, i) => (some name, refusal? list name i), length.isSome, rest⟩
  | (.error reason, _) =>
    if list == ['-'] || reason == isDirectory then
      .error ("wc: ".toList ++ quoted ++ ": read error: ".toList ++ reason.toList ++ ['\n'])
    else .error ("wc: cannot open ".toList ++ quotedText list ++ " for reading: ".toList ++ reason.toList ++ ['\n'])

def planOf (o : Options) (g : Given) : Except Bytes Plan :=
  match (o.chosen.filter (·.1 == 'F')).getLast?, o.operands with
  | some (_, list), [] => planOfList g list
  | some _, extra :: _ =>
    .error ("wc: extra operand ".toList ++ quotedText extra ++
      "\nfile operands cannot be combined with --files0-from\n".toList ++ (hint "wc").toList)
  | none, [] => .ok ⟨[(none, none)], true, g.input.pending⟩
  | none, operands => .ok ⟨operands.map fun name => (some name, none), true, g.input.pending⟩

/-! ## Lines -/

/-- How wide a column is: as the total of the files' lengths, or a common width where
    something has no length. -/
def widthOf (o : Options) (found : List Found) : Nat :=
  if found.length == 1 && (columns o .zero).length == 1 then 1
  else
    let lengths := found.map fun f =>
      match f.content with
      | .ok (_, length) => length
      | .error reason => if reason == isDirectory then none else some 0
    let total := (lengths.map (·.getD 0)).foldr (· + ·) 0
    max (Nat.toDigits 10 total).length (if lengths.any (·.isNone) then 7 else 1)

def lines (o : Options) (width : Nat) (f : Found) : List (Bool × Bytes) :=
  match f.refusal, f.content with
  | some refusal, _ => [(false, refusal)]
  | none, .ok (s, _) => [(true, row o width (countsOf s) f.name)]
  | none, .error reason =>
    let name := (f.name.map quotedName).getD "'standard input'".toList
    let message := "wc: ".toList ++ name ++ ": ".toList ++ reason.toList ++ ['\n']
    (false, message) :: if f.isInput || reason == isDirectory then [(true, row o width .zero f.name)] else []

def countsFound (f : Found) : Counts :=
  match f.content with
  | .ok (s, _) => countsOf s
  | .error _ => .zero

def run (o : Options) (g : Given) : Result :=
  let total := (((o.chosen.filter (·.1 == 'T')).getLast?.map (·.2)).bind fun s => (totalsOf s).head?).getD "auto"
  match planOf o g with
  | .error message => ⟨[(false, message)], 1, g.input.pending⟩
  | .ok plan =>
    let (found, rest) := findAll g plan.rest plan.names
    let width := if total == "only" || !plan.isCounted then 1 else widthOf o found
    let sum := (found.map countsFound).foldl Counts.add .zero
    let rows := (found.flatMap (lines o width)).filter fun (isOutput, _) => !isOutput || total != "only"
    let hasTotal := total == "always" || total == "only" || (total == "auto" && found.length > 1)
    let last := if hasTotal then [(true, row o width sum (if total == "only" then none else some "total".toList))] else []
    let closing := if g.input = .closed && found.any (fun f => f.isInput && f.refusal.isNone) then
        [(false, ("wc: -: " ++ badDescriptor ++ "\n").toList)]
      else []
    let written := rows ++ last ++ closing
    ⟨written, if written.all (·.1) then 0 else 1, rest⟩

def program : Program := withOptions table run

end PlotTypes.Command.Wc
