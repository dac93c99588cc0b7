/-
  PlotTypes.Text.Utf8 — reading bytes as UTF-8 text.

  A lead byte fixes how many bytes follow it and the bounds of the next one; every
  further one is from 80 to BF. Where the bytes stop following this rule, the longest
  start that still does is what a fault covers.

  - `decode` answers the text, or the first fault and where it is.
  - `decodeLossy` puts U+FFFD for every fault and goes on after it.
-/

namespace PlotTypes.Text.Utf8

/-- The number of bytes after a lead byte, and the bounds of the first of them. -/
def lead (b : UInt8) : Option (Nat × UInt8 × UInt8) :=
  if b < 0x80 then some (0, 0x80, 0xBF)
  else if b < 0xC2 then none
  else if b < 0xE0 then some (1, 0x80, 0xBF)
  else if b == 0xE0 then some (2, 0xA0, 0xBF)
  else if b == 0xED then some (2, 0x80, 0x9F)
  else if b < 0xF0 then some (2, 0x80, 0xBF)
  else if b == 0xF0 then some (3, 0x90, 0xBF)
  else if b < 0xF4 then some (3, 0x80, 0xBF)
  else if b == 0xF4 then some (3, 0x80, 0x8F)
  else none

/-- What the bytes start with. `used` counts the bytes of a fault; the bytes that end
    inside a character are a fault without an end. -/
inductive Step where
  | character (code used : Nat)
  | invalid (used : Nat)
  | incomplete
  deriving DecidableEq, Repr

/-- The last `more` bytes of a character whose first `used` bytes have the value `code`. -/
def tail (code used : Nat) : Nat → UInt8 → UInt8 → List UInt8 → Step
  | 0, _, _, _ => .character code used
  | _ + 1, _, _, [] => .incomplete
  | more + 1, low, high, b :: r =>
    if low ≤ b && b ≤ high then tail (code * 64 + b.toNat % 64) (used + 1) more 0x80 0xBF r else .invalid used

/-- The value bits of a lead byte with `more` bytes after it. -/
def leadBits (b : UInt8) : Nat → Nat
  | 0 => b.toNat
  | more + 1 => b.toNat % Nat.pow 2 (5 - more)

def step (b : UInt8) (r : List UInt8) : Step :=
  match lead b with
  | none => .invalid 1
  | some (more, low, high) => tail (leadBits b more) 1 more low high r

/-- Why bytes are no text: the bytes before `index` are, and those of the fault are not. -/
inductive Fault where
  | invalid (length index : Nat)
  | incomplete (index : Nat)
  deriving DecidableEq, Repr

def Fault.message : Fault → String
  | .invalid length index => s!"invalid utf-8 sequence of {length} bytes from index {index}"
  | .incomplete index => s!"incomplete utf-8 byte sequence from index {index}"

/-- The characters of bytes, `index` bytes in; `skip` bytes belong to the last one. -/
def decodeFrom (index skip : Nat) (read : List Char) : List UInt8 → Except Fault (List Char)
  | [] => .ok read.reverse
  | b :: r =>
    match skip with
    | skip + 1 => decodeFrom (index + 1) skip read r
    | 0 =>
      match step b r with
      | .character code used => decodeFrom (index + 1) (used - 1) (Char.ofNat code :: read) r
      | .invalid used => .error (.invalid used index)
      | .incomplete => .error (.incomplete index)

def decode (bytes : List UInt8) : Except Fault String := (decodeFrom 0 0 [] bytes).map String.ofList

def decodeLossyFrom (skip : Nat) (read : List Char) : List UInt8 → List Char
  | [] => read.reverse
  | b :: r =>
    match skip with
    | skip + 1 => decodeLossyFrom skip read r
    | 0 =>
      match step b r with
      | .character code used => decodeLossyFrom (used - 1) (Char.ofNat code :: read) r
      | .invalid used => decodeLossyFrom (used - 1) ('\ufffd' :: read) r
      | .incomplete => ('\ufffd' :: read).reverse

def decodeLossy (bytes : List UInt8) : String := String.ofList (decodeLossyFrom 0 [] bytes)

def encode (s : String) : List UInt8 := s.toUTF8.toList

end PlotTypes.Text.Utf8
