/-
  PlotTypes.Command.Pattern — patterns of texts.

  A star covers any text, a question mark one character, brackets one of a set; a
  character that was quoted stands for itself. Brackets that are not closed stand for
  themselves.
-/

import PlotTypes.Command.Script

namespace PlotTypes.Command

/-- A character of an expanded word. -/
structure Glyph where
  char : Char
  isQuoted : Bool
  deriving DecidableEq, Repr

abbrev Pattern := List Glyph

namespace Pattern

/-- The pattern in which a backslash quotes the character after it. -/
def ofGlyphs : List Glyph → Pattern
  | ⟨'\\', false⟩ :: g :: r => { g with isQuoted := true } :: ofGlyphs r
  | g :: r => g :: ofGlyphs r
  | [] => []

def isSpaceByte (c : Char) : Bool := c == ' ' || (9 ≤ c.toNat && c.toNat ≤ 13)

def isGraphic (c : Char) : Bool := 32 < c.toNat && c.toNat < 127

/-- Classes of characters by name. -/
def classes : List (String × (Char → Bool)) :=
  [("alnum", Char.isAlphanum), ("alpha", Char.isAlpha), ("blank", fun c => c == ' ' || c == '\t'),
    ("cntrl", fun c => c.toNat < 32 || c.toNat == 127), ("digit", Char.isDigit), ("graph", isGraphic),
    ("lower", Char.isLower), ("print", fun c => 32 ≤ c.toNat && c.toNat < 127),
    ("punct", fun c => isGraphic c && !c.isAlphanum), ("space", isSpaceByte), ("upper", Char.isUpper),
    ("xdigit", fun c => c.isDigit || ('a' ≤ c && c ≤ 'f') || ('A' ≤ c && c ≤ 'F'))]

def is (c : Char) (g : Glyph) : Bool := g.char == c && !g.isQuoted

/-- The class that is named after an opening bracket, and the rest. -/
def class? (p : Pattern) : Option ((Char → Bool) × Pattern) :=
  classes.findSome? fun (name, test) =>
    let written := (":" ++ name ++ ":]").toList
    if written.isPrefixOf (p.map (·.char)) then some (test, p.drop written.length) else none

/-- The set in brackets from one of its elements on: whether the character is in it, and
    what follows the closing bracket. None if there is none. -/
def elements (c : Char) (found : Bool) : Nat → Pattern → Option (Bool × Pattern)
  | 0, _ | _, [] => none
  | n + 1, g :: r =>
    let go (found : Bool) (r : Pattern) : Option (Bool × Pattern) :=
      match r with
      | ⟨']', false⟩ :: rest => some (found, rest)
      | r => elements c found n r
    match if is '[' g then class? r else none with
    | some (test, rest) => go (found || test c) rest
    | none =>
      match r with
      | ⟨'-', false⟩ :: last :: rest =>
        if is ']' last then go (found || g.char == c) r else go (found || (g.char ≤ c && c ≤ last.char)) rest
      | _ => go (found || g.char == c) r

/-- The set in brackets, from after the opening one. -/
def set? (c : Char) (p : Pattern) : Option (Bool × Pattern) :=
  match p with
  | ⟨'!', false⟩ :: r => (elements c false r.length r).map fun (found, rest) => (!found, rest)
  | r => elements c false r.length r

/-! ## Covering -/

/-- What is left of a pattern, where any star in front may have covered enough. -/
def open_ : Pattern → List Pattern
  | [] => [[]]
  | g :: r => if is '*' g then (g :: r) :: open_ r else [g :: r]

/-- What is left of a pattern after its front has covered a character. -/
def after? (c : Char) : Pattern → Option Pattern
  | [] => none
  | g :: r =>
    if is '*' g then some (g :: r)
    else if is '?' g then some r
    else
      match if is '[' g then set? c r else none with
      | some (found, rest) => if found then some rest else none
      | none => if g.char == c then some r else none

/-- All that may be left after one more character; what is left is an end of the pattern. -/
def advance (c : Char) (left : List Pattern) : List Pattern :=
  ((left.filterMap (after? c)).flatMap open_).eraseDupsBy fun a b => a.length == b.length

def isDone (left : List Pattern) : Bool := left.any (·.isEmpty)

/-- The lengths of the starts of a text that are covered, the longest one first. -/
def startLengths (left : List Pattern) (n : Nat) (done : List Nat) : Bytes → List Nat
  | [] => if isDone left then n :: done else done
  | c :: r =>
    let done := if isDone left then n :: done else done
    if left.isEmpty then done else startLengths (advance c left) (n + 1) done r

def coversFrom (left : List Pattern) : Bytes → Bool
  | [] => isDone left
  | c :: r => !left.isEmpty && coversFrom (advance c left) r

/-- The pattern covers a text. -/
def covers (p : Pattern) (s : Bytes) : Bool := coversFrom (open_ p) s

/-! ## Cutting -/

/-- The text without its start that the pattern covers: the shortest or the longest one. -/
def cutStart (p : Pattern) (longest : Bool) (s : Bytes) : Bytes :=
  let lengths := startLengths (open_ p) 0 [] s
  match if longest then lengths.head? else lengths.getLast? with
  | some n => s.drop n
  | none => s

/-- The text up to an end that the pattern covers, and is the longest such end. -/
def beforeLongest (p : Pattern) (done : Bytes) : Bytes → Option Bytes
  | [] => if p.covers [] then some done.reverse else none
  | c :: r => if p.covers (c :: r) then some done.reverse else beforeLongest p (c :: done) r

/-- The text, from its last character back, up to the shortest end that the pattern covers. -/
def beforeShortest (p : Pattern) (end_ : Bytes) : Bytes → Option Bytes
  | [] => if p.covers end_ then some [] else none
  | c :: r => if p.covers end_ then some (c :: r).reverse else beforeShortest p (c :: end_) r

/-- The text without its end that the pattern covers. -/
def cutEnd (p : Pattern) (longest : Bool) (s : Bytes) : Bytes :=
  ((if longest then beforeLongest p [] s else beforeShortest p [] s.reverse)).getD s

/-- The pattern covers other texts than its own. -/
def isTelling (p : Pattern) : Bool := p.any fun g => is '*' g || is '?' g || is '[' g

end Pattern

end PlotTypes.Command
