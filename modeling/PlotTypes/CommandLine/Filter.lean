/-
  PlotTypes.CommandLine.Filter — directives that choose which events are shown.

  A directive names where an event comes from, spans and a field, each of them optional,
  and how much is shown: `target[span{field}]=level`. A word alone is a level or else a
  target. The directives of a filter stand between commas, and one that cannot be read
  spoils all of them. An event is judged by the most specific directive that is about it:
  the longest target first, then one that names a field.
-/

import PlotTypes.Package.Event
import PlotTypes.Text.Blank

namespace PlotTypes.CommandLine

open PlotTypes.Package

/-- A field that a directive asks for, with the value that it asks for. -/
structure FieldPattern where
  name : String
  value : Option String
  deriving DecidableEq, Repr

structure Directive where
  target : Option String
  span : Option String
  field : Option FieldPattern
  /-- The highest verbosity that is shown. -/
  verbosity : Nat
  deriving DecidableEq, Repr

/-! ## Levels -/

def levelNames : List String := ["off", "error", "warn", "info", "debug", "trace"]

/-- The verbosity of the level of which everything is shown. -/
def everything : Nat := 5

/-- A number in decimal, with a plus sign allowed. -/
def number? (cs : List Char) : Option Nat :=
  let digits := match cs with
    | '+' :: r => r
    | cs => cs
  if digits.isEmpty || !digits.all Char.isDigit then none
  else some (digits.foldl (fun n d => 10 * n + (d.toNat - '0'.toNat)) 0)

/-- The verbosity of a level given by its number or by its name in any case. -/
def verbosity? (cs : List Char) : Option Nat :=
  match number? cs with
  | some n => if n ≤ everything then some n else none
  | none => levelNames.idxOf? (String.ofList (cs.map Char.toLower))

/-! ## Reading

A directive is taken apart where it stands without the blanks around it, but its parts are
cut from the text with them: `at_` counts the characters before what is left. -/

/-- Characters that a target or a level starts with. -/
def startsWord (c : Char) : Bool := c.isAlphanum || c.toNat > 0x7F || c == '-' || c == ':' || c == '_'

/-- The characters of `text` from one position to another. -/
def slice (text : List Char) (first last : Nat) : List Char := (text.drop first).take (last - first)

/-- After the target and the spans: the end, or a level. -/
def readLevel (text : List Char) (d : Directive) (at_ : Nat) : List Char → Option Directive
  | [] => some d
  | '=' :: _ =>
    let level := text.drop (at_ + 1)
    if level.isEmpty then some { d with verbosity := everything }
    else (verbosity? level).map fun v => { d with verbosity := v }
  | _ :: _ => none

def fieldOf (cs : List Char) : FieldPattern :=
  match Text.pieces (· == '=') cs with
  | name :: value :: _ => ⟨String.ofList name, some (String.ofList value)⟩
  | _ => ⟨String.ofList cs, none⟩

/-- After the opening brace of a field. -/
def readField (text : List Char) (d : Directive) (at_ : Nat) (rest : List Char) : Option Directive :=
  let last := at_ + (rest.takeWhile (· != '}')).length
  match rest.dropWhile (· != '}') with
  | '}' :: ']' :: r =>
    if last = at_ then none
    else readLevel text { d with field := some (fieldOf (slice text at_ last)) } (last + 2) r
  | _ => none

/-- After the opening bracket of a span. -/
def readSpan (text : List Char) (d : Directive) (at_ : Nat) (rest : List Char) : Option Directive :=
  let inName (c : Char) : Bool := c != ']' && c != '\x7b'
  let last := at_ + (rest.takeWhile inName).length
  let name := String.ofList (slice text at_ last)
  match rest.dropWhile inName with
  | ']' :: r => readLevel text { d with span := some name } (last + 1) r
  | _ :: r => readField text { d with span := if last = at_ then none else some name } (last + 1) r
  | [] => none

def readDirective (text : List Char) : Option Directive :=
  let all : Directive := ⟨none, none, none, everything⟩
  let trimmed := Text.trim Text.isBlank text
  match trimmed with
  | [] => none
  | '[' :: r => readSpan text all 1 r
  | c :: _ =>
    if !startsWord c then none
    else
      let word := trimmed.takeWhile fun c => c != '=' && c != '['
      let target := { all with target := some (String.ofList (text.take word.length)) }
      match trimmed.drop word.length with
      | [] =>
        match verbosity? text with
        | some v => some { all with verbosity := v }
        | none => some { all with target := some (String.ofList text) }
      | '[' :: r => readSpan text target (word.length + 1) r
      | r => readLevel text target word.length r

/-- The directives between commas; nothing stands for none. -/
def readFilter (text : String) : Option (List Directive) :=
  ((Text.pieces (· == ',') text.toList).filter (!·.isEmpty)).mapM readDirective

/-! ## Events -/

def FieldPattern.isIn (p : FieldPattern) (e : Event) : Bool := p.name == "message" || e.fields.any (·.1 == p.name)

/-- A directive can be about an event. Events are in no span, and the values of their
    fields are not looked at. -/
def Directive.isStatic (d : Directive) : Bool := d.span.isNone && d.field.all (·.value.isNone)

def Directive.isAbout (d : Directive) (e : Event) : Bool :=
  d.isStatic && d.target.all (·.toList.isPrefixOf e.source.toList) && d.field.all (·.isIn e)

/-- How specific a directive is, the most telling part first. -/
def Directive.rank (d : Directive) : Nat × Nat × String :=
  ((d.target.map (·.utf8ByteSize + 1)).getD 0, if d.field.isSome then 1 else 0, (d.field.map (·.name)).getD "")

def Directive.isLess (a b : Directive) : Bool :=
  let (s, m, f) := a.rank
  let (t, n, g) := b.rank
  s < t || s == t && (m < n || m == n && f < g)

/-- The most specific one; of equal ones the last. -/
def mostSpecific : List Directive → Option Directive
  | [] => none
  | d :: r =>
    match mostSpecific r with
    | some best => if best.isLess d then some d else some best
    | none => some d

def isShown (directives : List Directive) (e : Event) : Bool :=
  match mostSpecific (directives.filter (·.isAbout e)) with
  | some d => e.level.verbosity ≤ d.verbosity
  | none => false

end PlotTypes.CommandLine
