/-
  PlotTypes.Json.Reader — reading JSON texts.

  The reader takes values off the front of a text and stops at the first fault, which
  it names by its cause. Blanks are space, tab, carriage return and line feed. Arrays
  and objects nest at most as deep as the caller allows.
-/

import PlotTypes.Json.Numeral
import PlotTypes.Text.Fill

namespace PlotTypes.Json

open PlotTypes.Text

inductive Fault where
  | endInValue
  | endInString
  | endInArray
  | endInObject
  | expectedValue
  | expectedWord
  | expectedColon
  | expectedArrayEnd
  | expectedObjectEnd
  | keyNotString
  | invalidNumber
  | numberOutOfRange
  | controlCharacter
  | invalidEscape
  | endOfSurrogate
  | loneSurrogate
  | trailingComma
  | trailingCharacters
  | tooDeep
  deriving DecidableEq, Repr

def Fault.message : Fault → String
  | .endInValue => "EOF while parsing a value"
  | .endInString => "EOF while parsing a string"
  | .endInArray => "EOF while parsing a list"
  | .endInObject => "EOF while parsing an object"
  | .expectedValue => "expected value"
  | .expectedWord => "expected ident"
  | .expectedColon => "expected \x60:\x60"
  | .expectedArrayEnd => "expected \x60,\x60 or \x60]\x60"
  | .expectedObjectEnd => "expected \x60,\x60 or \x60\x7d\x60"
  | .keyNotString => "key must be a string"
  | .invalidNumber => "invalid number"
  | .numberOutOfRange => "number out of range"
  | .controlCharacter => "control character (\\u0000-\\u001F) found while parsing a string"
  | .invalidEscape => "invalid escape"
  | .endOfSurrogate => "unexpected end of hex escape"
  | .loneSurrogate => "lone leading surrogate in hex escape"
  | .trailingComma => "trailing comma"
  | .trailingCharacters => "trailing characters"
  | .tooDeep => "recursion limit exceeded"

abbrev Read (α : Type) := Except Fault (α × List Char)

def skipBlank (cs : List Char) : List Char :=
  cs.dropWhile fun c => c == ' ' || c == '\t' || c == '\r' || c == '\n'

/-! ## Words and numbers -/

def readWord (v : Json) : List Char → List Char → Read Json
  | [], cs => .ok (v, cs)
  | _ :: _, [] => .error .endInValue
  | w :: ws, c :: r => if w == c then readWord v ws r else .error .expectedWord

def ofNumeralFault : Numeral.Fault → Fault
  | .cut => .endInValue
  | .malformed => .invalidNumber
  | .outOfRange => .numberOutOfRange

def readNumber (cs : List Char) : Read Json :=
  match Numeral.read cs with
  | .error f => .error (ofNumeralFault f)
  | .ok (n, r) =>
    match n.value with
    | .error f => .error (ofNumeralFault f)
    | .ok v => .ok (.number v, r)

/-! ## Strings -/

/-- Where the reader stands in a string: at a character; after a backslash; with `left`
    hexadecimal digits of an escape to come, perhaps after a leading surrogate; or after
    a leading surrogate, which needs the escape of a trailing one, with its backslash
    read or not. -/
inductive StringState where
  | character
  | escape
  | hex (left value : Nat) (leading : Option Nat)
  | surrogate (leading : Nat)
  | surrogateEscape (leading : Nat)
  deriving DecidableEq, Repr

def hexDigit? (c : Char) : Option Nat :=
  if c.isDigit then some (c.toNat - '0'.toNat)
  else if 'a' ≤ c ∧ c ≤ 'f' then some (c.toNat - 'a'.toNat + 10)
  else if 'A' ≤ c ∧ c ≤ 'F' then some (c.toNat - 'A'.toNat + 10)
  else none

def escaped? (c : Char) : Option Char :=
  [('"', '"'), ('\\', '\\'), ('/', '/'), ('b', '\x08'), ('f', '\x0c'), ('n', '\n'), ('r', '\r'),
    ('t', '\t')].lookup c

def isLeading (n : Nat) : Bool := 0xD800 ≤ n && n ≤ 0xDBFF

def isTrailing (n : Nat) : Bool := 0xDC00 ≤ n && n ≤ 0xDFFF

/-- The start of four hexadecimal digits; a text with fewer than four bytes left ends in
    the string. -/
def startHex (leading : Option Nat) (rest : List Char) : Except Fault StringState :=
  if byteLength (rest.take 4) < 4 then .error .endInString else .ok (.hex 4 0 leading)

/-- A whole escape: a character, or a leading surrogate that waits for its partner. -/
def finishHex (n : Nat) : Option Nat → Except Fault (Option Char × StringState)
  | none =>
    if isTrailing n then .error .loneSurrogate
    else if isLeading n then .ok (none, .surrogate n)
    else .ok (some (Char.ofNat n), .character)
  | some leading =>
    if isTrailing n then .ok (some (Char.ofNat (0x10000 + (leading - 0xD800) * 0x400 + (n - 0xDC00))), .character)
    else .error .loneSurrogate

/-- One character of a string that does not end it, with `rest` after it: the character
    it completes, if any, and where the reader stands then. -/
def stringStep (state : StringState) (c : Char) (rest : List Char) : Except Fault (Option Char × StringState) :=
  match state with
  | .character =>
    if c == '\\' then .ok (none, .escape)
    else if c.toNat < 0x20 then .error .controlCharacter
    else .ok (some c, .character)
  | .escape =>
    if c == 'u' then (startHex none rest).map (none, ·)
    else
      match escaped? c with
      | some d => .ok (some d, .character)
      | none => .error .invalidEscape
  | .hex left value leading =>
    match hexDigit? c with
    | none => .error .invalidEscape
    | some d => if left ≤ 1 then finishHex (value * 16 + d) leading else .ok (none, .hex (left - 1) (value * 16 + d) leading)
  | .surrogate leading => if c == '\\' then .ok (none, .surrogateEscape leading) else .error .endOfSurrogate
  | .surrogateEscape leading =>
    if c == 'u' then (startHex (some leading) rest).map (none, ·) else .error .endOfSurrogate

/-- The rest of a string after `read`, last character first. -/
def readString (state : StringState) (read : List Char) : List Char → Read String
  | [] => .error .endInString
  | c :: r =>
    if state = .character ∧ c = '"' then .ok (String.ofList read.reverse, r)
    else
      match stringStep state c r with
      | .error f => .error f
      | .ok (some d, state) => readString state (d :: read) r
      | .ok (none, state) => readString state read r

/-! ## Values -/

/-- What a container expects at its next place: anything at the first one, else a comma
    with a value after it. `none` is the end of the container. -/
def nextPlace (close : Char) (atEnd expected : Fault) (first : Bool) (cs : List Char) : Except Fault (Option (List Char)) :=
  match skipBlank cs with
  | [] => .error atEnd
  | c :: r =>
    if c == close then .ok none
    else if first then .ok (some (c :: r))
    else if c != ',' then .error expected
    else
      match skipBlank r with
      | [] => .error .endInValue
      | d :: r => if d == close then .error .trailingComma else .ok (some (d :: r))

def readKey : List Char → Read String
  | '"' :: r => readString .character [] r
  | _ => .error .keyNotString

def readColon (cs : List Char) : Except Fault (List Char) :=
  match skipBlank cs with
  | [] => .error .endInObject
  | ':' :: r => .ok r
  | _ => .error .expectedColon

/-- The text after the mark that closes a container. -/
def afterClose (cs : List Char) : List Char := (skipBlank cs).drop 1

mutual

/-- The value at the start of a text. `fuel` bounds the calls, two for each character. -/
def readValue (fuel depth : Nat) (cs : List Char) : Read Json :=
  match fuel with
  | 0 => .error .tooDeep
  | fuel + 1 =>
    match skipBlank cs with
    | [] => .error .endInValue
    | c :: r =>
      if c == 'n' then readWord .null ['u', 'l', 'l'] r
      else if c == 't' then readWord (.bool true) ['r', 'u', 'e'] r
      else if c == 'f' then readWord (.bool false) ['a', 'l', 's', 'e'] r
      else if c == '-' || c.isDigit then readNumber (c :: r)
      else if c == '"' then (readString .character [] r).map fun (s, r) => (.string s, r)
      else if c == '[' then
        match depth with
        | 0 => .error .tooDeep
        | depth + 1 => readItems fuel depth [] r
      else if c == '{' then
        match depth with
        | 0 => .error .tooDeep
        | depth + 1 => readMembers fuel depth [] r
      else .error .expectedValue

/-- The rest of an array after `items`, last one first. -/
def readItems (fuel depth : Nat) (items : List Json) (cs : List Char) : Read Json :=
  match fuel with
  | 0 => .error .tooDeep
  | fuel + 1 =>
    match nextPlace ']' .endInArray .expectedArrayEnd items.isEmpty cs with
    | .error f => .error f
    | .ok none => .ok (.array items.reverse, afterClose cs)
    | .ok (some cs) =>
      match readValue fuel depth cs with
      | .error f => .error f
      | .ok (v, r) => readItems fuel depth (v :: items) r

/-- The rest of an object after `members`. -/
def readMembers (fuel depth : Nat) (members : Members) (cs : List Char) : Read Json :=
  match fuel with
  | 0 => .error .tooDeep
  | fuel + 1 =>
    match nextPlace '}' .endInObject .expectedObjectEnd members.isEmpty cs with
    | .error f => .error f
    | .ok none => .ok (.object members, afterClose cs)
    | .ok (some cs) =>
      match readKey cs with
      | .error f => .error f
      | .ok (key, r) =>
        match readColon r with
        | .error f => .error f
        | .ok r =>
          match readValue fuel depth r with
          | .error f => .error f
          | .ok (v, r) => readMembers fuel depth (members.put key v) r

end

/-- A text that holds one value with at most `depth` nested containers. -/
def readWithin (depth : Nat) (text : String) : Except Fault Json := do
  let cs := text.toList
  let (v, r) ← readValue (2 * cs.length + 2) depth cs
  if (skipBlank r).isEmpty then .ok v else .error .trailingCharacters

def deepest : Nat := 127

def read (text : String) : Except Fault Json := readWithin deepest text

end PlotTypes.Json
