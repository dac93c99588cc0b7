/-
  PlotTypes.Decimal.Shortest — the fewest decimal digits that read back to a magnitude.

  The reals that round to `m * 2 ^ e` are an interval around it, with its ends exactly
  when `m` is even. For one digit, two digits and so on the two neighbours of the
  magnitude on that decimal grid are tried; the first grid with a neighbour in the
  interval gives the digits, the nearer of two, the even one on a tie. Seventeen
  digits always suffice.
-/

import PlotTypes.Decimal.Binary64

namespace PlotTypes.Decimal

/-- A number with its last digit at `10 ^ exponent`. -/
structure Scaled where
  digits : Nat
  exponent : Int
  deriving DecidableEq, Repr

namespace Binary64

/-- The interval that rounds to a magnitude, in quarters of its unit. -/
def quarters (b : Binary64) : Nat × Nat :=
  let below := if b.significand = Nat.pow 2 52 ∧ b.exponent ≠ leastExponent then 1 else 2
  (4 * b.significand - below, 4 * b.significand + 2)

/-- The order of `n * 10 ^ k` and `q` quarters of the unit of `b`. -/
def compareTo (b : Binary64) (n : Nat) (k : Int) (q : Nat) : Ordering :=
  compare (4 * n * Nat.pow 10 k.toNat * Nat.pow 2 (-b.exponent).toNat)
    (q * Nat.pow 2 b.exponent.toNat * Nat.pow 10 (-k).toNat)

/-- `n * 10 ^ k` reads back to `b`. -/
def readsBack (b : Binary64) (n : Nat) (k : Int) : Bool :=
  let (low, high) := b.quarters
  match b.compareTo n k low, b.compareTo n k high with
  | .gt, .lt => true
  | .lt, _ => false
  | _, .gt => false
  | _, _ => b.significand % 2 == 0

/-- The decimal exponent of the first digit. No magnitude but zero is below 10^-330. -/
def firstExponent (b : Binary64) : Int :=
  let scaled := b.significand * Nat.pow 10 330 * Nat.pow 2 b.exponent.toNat / Nat.pow 2 (-b.exponent).toNat
  ((Nat.toDigits 10 scaled).length : Int) - 331

/-- The better of the two neighbours of `b` on the grid `10 ^ k`, if one reads back. -/
def onGrid (b : Binary64) (k : Int) : Option Nat :=
  let num := b.significand * Nat.pow 2 b.exponent.toNat * Nat.pow 10 (-k).toNat
  let den := Nat.pow 2 (-b.exponent).toNat * Nat.pow 10 k.toNat
  let n := num / den
  match b.readsBack n k, b.readsBack (n + 1) k with
  | true, true => some (divNearest num den)
  | true, false => some n
  | false, true => some (n + 1)
  | false, false => none

/-- `n` without its trailing zeros, each of them moved into the exponent. -/
def trimZeros : Nat → Nat → Int → Scaled
  | 0, n, k => ⟨n, k⟩
  | fuel + 1, n, k => if n % 10 = 0 ∧ n ≠ 0 then trimZeros fuel (n / 10) (k + 1) else ⟨n, k⟩

/-- The first grid from `count` digits on that has a number reading back. -/
def shortestFrom (b : Binary64) (count : Nat) : Nat → Scaled
  | 0 => ⟨b.significand, b.exponent⟩
  | more + 1 =>
    let k := b.firstExponent - count + 1
    match b.onGrid k with
    | some n => trimZeros (count + 1) n k
    | none => shortestFrom b (count + 1) more

def shortest (b : Binary64) : Scaled := if b.isZero then ⟨0, 0⟩ else shortestFrom b 1 17

end Binary64

/-! ## Notation -/

/-- The digits of a decimal, first one first. -/
def Scaled.characters (d : Scaled) : List Char := Nat.toDigits 10 d.digits

/-- The decimal exponent of the first digit. -/
def Scaled.magnitude (d : Scaled) : Int := d.exponent + d.characters.length - 1

/-- Positional notation, with a point and at least one digit on either side of it. -/
def Scaled.positional (d : Scaled) : List Char :=
  let cs := d.characters
  let x := d.magnitude
  if x < 0 then '0' :: '.' :: List.replicate (-x - 1).toNat '0' ++ cs
  else
    let whole := x.toNat + 1
    let fraction := cs.drop whole
    cs.take whole ++ List.replicate (whole - cs.length) '0' ++ '.' :: (if fraction.isEmpty then ['0'] else fraction)

/-- One digit before the point, no point after a single digit, and a signed exponent. -/
def Scaled.scientific (d : Scaled) : List Char :=
  let x := d.magnitude
  let mantissa := match d.characters with
    | [] => []
    | [c] => [c]
    | c :: r => c :: '.' :: r
  mantissa ++ 'e' :: (if x < 0 then '-' else '+') :: Nat.toDigits 10 x.natAbs

/-- Positional for magnitudes from 10^-5 up to 10^16. -/
def Scaled.text (d : Scaled) : List Char :=
  if -5 ≤ d.magnitude ∧ d.magnitude ≤ 15 then d.positional else d.scientific

end PlotTypes.Decimal
