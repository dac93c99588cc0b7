/-
  PlotTypes.Json.Numeral — the numbers of JSON texts.

  A numeral is read by its grammar and then evaluated. Its digits are collected into a
  64-bit significand; the first digit that does not fit and those after it in the same
  part are dropped, each dropped digit before the point raising the exponent. The
  value is the significand as a magnitude, multiplied or divided by a power of ten with
  one rounding each; it is not always the magnitude nearest to the numeral.
-/

import PlotTypes.Json.Value

namespace PlotTypes.Json

structure Numeral where
  negative : Bool
  whole : List Nat
  fraction : Option (List Nat)
  /-- The sign and the digits of the exponent. -/
  exponent : Option (Bool × List Nat)
  deriving DecidableEq, Repr

namespace Numeral

inductive Fault where
  | cut
  | malformed
  | outOfRange
  deriving DecidableEq, Repr

/-! ## Grammar -/

def digit? (c : Char) : Option Nat := if c.isDigit then some (c.toNat - '0'.toNat) else none

/-- The digits at the start of a text, and the rest of it. -/
def digits : List Char → List Nat × List Char
  | [] => ([], [])
  | c :: r =>
    match digit? c with
    | some d => let rest := digits r; (d :: rest.1, rest.2)
    | none => ([], c :: r)

/-- At least one digit. -/
def someDigits (cs : List Char) : Except Fault (List Nat × List Char) :=
  match digits cs with
  | ([], []) => .error .cut
  | ([], _ :: _) => .error .malformed
  | found => .ok found

/-- A single zero, or digits that do not start with one. -/
def readWhole (cs : List Char) : Except Fault (List Nat × List Char) := do
  match ← someDigits cs with
  | (0 :: _ :: _, _) => .error .malformed
  | found => .ok found

def readFraction : List Char → Except Fault (Option (List Nat) × List Char)
  | '.' :: r => (someDigits r).map fun (ds, r) => (some ds, r)
  | cs => .ok (none, cs)

def readSign : List Char → Bool × List Char
  | '+' :: r => (false, r)
  | '-' :: r => (true, r)
  | cs => (false, cs)

def readExponent : List Char → Except Fault (Option (Bool × List Nat) × List Char)
  | [] => .ok (none, [])
  | c :: r =>
    if c == 'e' || c == 'E' then
      let (negative, r) := readSign r
      (someDigits r).map fun (ds, r) => (some (negative, ds), r)
    else .ok (none, c :: r)

/-- The numeral at the start of a text, and the rest of it. -/
def read (cs : List Char) : Except Fault (Numeral × List Char) := do
  let (negative, cs) := match cs with
    | '-' :: r => (true, r)
    | cs => (false, cs)
  let (whole, cs) ← readWhole cs
  let (fraction, cs) ← readFraction cs
  let (exponent, cs) ← readExponent cs
  .ok (⟨negative, whole, fraction, exponent⟩, cs)

/-! ## Value -/

/-- The greatest significand. -/
def greatest : Nat := Nat.pow 2 64 - 1

/-- `sig` followed by the digits that fit, and those from the first one that does not. -/
def collect (sig : Nat) : List Nat → Nat × List Nat
  | [] => (sig, [])
  | d :: r => if sig * 10 + d ≤ greatest then collect (sig * 10 + d) r else (sig, d :: r)

def natOfDigits (ds : List Nat) : Nat := ds.foldl (fun n d => n * 10 + d) 0

def greatestExponent : Nat := Nat.pow 2 31 - 1

/-- Divides by 10^308 as long as the exponent is below -308 and the magnitude is not zero. -/
def scaleDown (f : Decimal.Binary64) (power : Nat) : Nat → Option (Decimal.Binary64 × Nat)
  | 0 => some (f, power)
  | more + 1 =>
    if power ≤ 308 || f.isZero then some (f, power)
    else do
      let divisor ← Decimal.Binary64.ofNat? (Nat.pow 10 308)
      scaleDown (← f.div? divisor) (power - 308) more

/-- The significand times `10 ^ e`; nothing when it is out of range. -/
def scaled? (sig : Nat) (e : Int) : Option Decimal.Binary64 := do
  let f ← Decimal.Binary64.ofNat? sig
  if 0 ≤ e then
    if f.isZero then some f
    else if 308 < e then none
    else f.mul? (← Decimal.Binary64.ofNat? (Nat.pow 10 e.toNat))
  else
    let (f, power) ← scaleDown f e.natAbs e.natAbs
    if f.isZero then some f else f.div? (← Decimal.Binary64.ofNat? (Nat.pow 10 power))

def real (negative : Bool) (sig : Nat) (e : Int) : Except Fault Number :=
  match scaled? sig e with
  | some f => .ok (.real negative f)
  | none => .error .outOfRange

/-- A numeral without fraction and exponent whose digits all fit. Minus zero and what is
    below -2^63 are no integers. -/
def wholeNumber (negative : Bool) (sig : Nat) : Except Fault Number :=
  if !negative then .ok (.integer sig)
  else if sig = 0 ∨ Nat.pow 2 63 < sig then real true sig 0
  else .ok (.integer (-sig))

def value (n : Numeral) : Except Fault Number :=
  let (sig, dropped) := collect 0 n.whole
  let (sig, ignored) := collect sig (n.fraction.getD [])
  let e : Int := (dropped.length : Int) - ((n.fraction.getD []).length - ignored.length : Nat)
  match n.exponent with
  | some (negative, ds) =>
    let x := natOfDigits ds
    if greatestExponent < x then
      if sig ≠ 0 ∧ !negative then .error .outOfRange else .ok (.real n.negative .zero)
    else real n.negative sig (if negative then e - x else e + x)
  | none =>
    if n.fraction.isNone ∧ dropped.isEmpty then wholeNumber n.negative sig else real n.negative sig e

end Numeral

end PlotTypes.Json
