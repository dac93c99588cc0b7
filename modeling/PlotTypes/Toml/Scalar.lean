/-
  PlotTypes.Toml.Scalar — the unquoted values of TOML: booleans, numbers and dates.

  A token is one of them as a whole or nothing. Underscores stand between digits only,
  decimal integers have no leading zero, and a date names a day that exists. Integers
  have at most 128 bits, and floats but the infinities are finite as 64-bit ones.
-/

import PlotTypes.Decimal.Binary64
import PlotTypes.Text.Pieces
import PlotTypes.Toml.Value

namespace PlotTypes.Toml.Scalar

open PlotTypes.Text

def digitValue? (c : Char) : Option Nat :=
  if c.isDigit then some (c.toNat - '0'.toNat)
  else if 'a' ≤ c ∧ c ≤ 'f' then some (c.toNat - 'a'.toNat + 10)
  else if 'A' ≤ c ∧ c ≤ 'F' then some (c.toNat - 'A'.toNat + 10)
  else none

def digitIn (base : Nat) (c : Char) : Bool :=
  match digitValue? c with
  | some d => d < base
  | none => false

/-! ## Integers -/

/-- Digits of a base with single underscores between them. -/
def digitsOf? (base : Nat) (cs : List Char) : Option (List Char) :=
  let groups := pieces (· == '_') cs
  if groups.all fun g => !g.isEmpty && g.all (digitIn base) then some groups.flatten else none

def natOf (base : Nat) (cs : List Char) : Nat :=
  cs.foldl (fun n c => n * base + (digitValue? c).getD 0) 0

def decimal? (cs : List Char) : Option Nat :=
  match digitsOf? 10 cs with
  | some ['0'] => some 0
  | some ('0' :: _) => none
  | some ds => some (natOf 10 ds)
  | none => none

def unsigned (cs : List Char) : Bool × List Char :=
  match cs with
  | '+' :: r => (false, r)
  | '-' :: r => (true, r)
  | cs => (false, cs)

def integer? (cs : List Char) : Option Int :=
  match cs with
  | '0' :: 'x' :: r => (digitsOf? 16 r).map fun ds => (natOf 16 ds : Int)
  | '0' :: 'o' :: r => (digitsOf? 8 r).map fun ds => (natOf 8 ds : Int)
  | '0' :: 'b' :: r => (digitsOf? 2 r).map fun ds => (natOf 2 ds : Int)
  | cs =>
    let (negative, r) := unsigned cs
    (decimal? r).map fun n => if negative then -(n : Int) else n

def leastInteger : Int := -Int.pow 2 127

def greatestInteger : Int := Int.pow 2 128 - 1

def isInRange (n : Int) : Bool := leastInteger ≤ n && n ≤ greatestInteger

/-! ## Floats -/

/-- The text before the first character that satisfies `p`, and the text after it if there is one. -/
def cutAt (p : Char → Bool) (cs : List Char) : List Char × Option (List Char) :=
  match cs.dropWhile (!p ·) with
  | [] => (cs, none)
  | _ :: r => (cs.takeWhile (!p ·), some r)

/-- The digits before the point, those after it, and the exponent. -/
structure Float where
  whole : List Char
  fraction : List Char
  exponent : Int

/-- A float without its sign; it has a fraction or an exponent. -/
def float? (cs : List Char) : Option Float := do
  let (number, exponent) := cutAt (fun c => c == 'e' || c == 'E') cs
  let (whole, fraction) := cutAt (· == '.') number
  if exponent.isNone && fraction.isNone then none
  else
    let _ ← decimal? whole
    let (negative, power) := unsigned (exponent.getD ['0'])
    let power ← digitsOf? 10 power
    return {
      whole := ← digitsOf? 10 whole
      fraction := ← digitsOf? 10 (fraction.getD ['0'])
      exponent := if negative then -(natOf 10 power : Int) else natOf 10 power }

/-- The decimal exponents between which it takes a look at the digits to tell whether a
    number is finite. -/
def surelyFinite : Int := 300
def surelyInfinite : Int := 320

/-- The nearest 64-bit float is finite. -/
def Float.isFinite (f : Float) : Bool :=
  let digits := (f.whole ++ f.fraction).dropWhile (· == '0')
  let power := f.exponent - f.fraction.length
  let magnitude := power + digits.length
  if digits.isEmpty || magnitude ≤ surelyFinite then true
  else if surelyInfinite ≤ magnitude then false
  else (Decimal.Binary64.ofRatio? (natOf 10 digits * Nat.pow 10 power.toNat) (Nat.pow 10 (-power).toNat)).isSome

def isFloat (cs : List Char) : Bool :=
  let r := (unsigned cs).2
  if r == ['i', 'n', 'f'] || r == ['n', 'a', 'n'] then true
  else
    match float? r with
    | some f => f.isFinite
    | none => false

/-! ## Dates and times -/

/-- A number of exactly `n` digits between two bounds. -/
def field (n low high : Nat) (cs : List Char) : Bool :=
  cs.length == n && cs.all Char.isDigit && low ≤ natOf 10 cs && natOf 10 cs ≤ high

def isLeapYear (y : Nat) : Bool := (y % 4 == 0 && y % 100 != 0) || y % 400 == 0

def daysIn (year month : Nat) : Nat :=
  if month == 2 then if isLeapYear year then 29 else 28
  else if [4, 6, 9, 11].contains month then 30
  else 31

def isDate (cs : List Char) : Bool :=
  match pieces (· == '-') cs with
  | [y, m, d] => field 4 0 9999 y && field 2 1 12 m && field 2 1 (daysIn (natOf 10 y) (natOf 10 m)) d
  | _ => false

/-- Hours and minutes, perhaps with seconds and a fraction of them. -/
def isTime (cs : List Char) : Bool :=
  match pieces (· == ':') cs with
  | [h, m] => field 2 0 23 h && field 2 0 59 m
  | [h, m, s] =>
    let (seconds, fraction) := cutAt (· == '.') s
    field 2 0 23 h && field 2 0 59 m && field 2 0 60 seconds &&
      match fraction with
      | none => true
      | some ds => !ds.isEmpty && ds.all Char.isDigit
  | _ => false

def isOffset (cs : List Char) : Bool :=
  match cs with
  | ['Z'] | ['z'] => true
  | sign :: r =>
    (sign == '+' || sign == '-') &&
      match pieces (· == ':') r with
      | [h, m] => field 2 0 23 h && field 2 0 59 m
      | _ => false
  | [] => false

/-- A time, perhaps with an offset from universal time after it. -/
def isOffsetTime (cs : List Char) : Bool :=
  let time := cs.takeWhile fun c => c.isDigit || c == ':' || c == '.'
  let offset := cs.drop time.length
  isTime time && (offset.isEmpty || isOffset offset)

def isDateTime (cs : List Char) : Bool :=
  isTime cs ||
    let date := cs.take 10
    isDate date &&
      match cs.drop 10 with
      | [] => true
      | mark :: r => (mark == 'T' || mark == 't' || mark == ' ') && isOffsetTime r

/-! ## Tokens -/

def ofToken? (cs : List Char) : Option Toml :=
  if cs == "true".toList then some (.boolean true)
  else if cs == "false".toList then some (.boolean false)
  else
    match integer? cs with
    | some n => if isInRange n then some (.integer n) else none
    | none => if isFloat cs then some .float else if isDateTime cs then some .dateTime else none

def inToken (c : Char) : Bool := c.isAlphanum || ['+', '-', '_', '.', ':'].contains c

/-- The token at the start of a text, and the rest. One space may stand between a date and a time. -/
def splitToken (cs : List Char) : List Char × List Char :=
  let token := cs.takeWhile inToken
  let rest := cs.drop token.length
  match rest with
  | ' ' :: d :: r =>
    if isDate token && d.isDigit then
      let time := (d :: r).takeWhile inToken
      (token ++ ' ' :: time, (d :: r).drop time.length)
    else (token, rest)
  | _ => (token, rest)

end PlotTypes.Toml.Scalar
