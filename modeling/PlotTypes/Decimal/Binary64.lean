/-
  PlotTypes.Decimal.Binary64 — the magnitudes of 64-bit binary floating point, in
  exact arithmetic.

  A magnitude is `significand * 2 ^ exponent` with a significand below 2^53; it is at
  least 2^52 unless the exponent is the least one. `ofRatio?` is rounding to the
  nearest magnitude, to the even significand on a tie; products and quotients are the
  exact ones, rounded once.
-/

namespace PlotTypes.Decimal

structure Binary64 where
  significand : Nat
  exponent : Int
  deriving DecidableEq, Repr

namespace Binary64

def leastExponent : Int := -1074

def greatestExponent : Int := 971

def zero : Binary64 := ⟨0, leastExponent⟩

def isZero (b : Binary64) : Bool := b.significand == 0

/-- The quotient rounded to the nearest number, to the even one on a tie. -/
def divNearest (num den : Nat) : Nat :=
  let q := num / den
  let twice := 2 * (num % den)
  if twice < den then q else if den < twice then q + 1 else q + q % 2

/-- The exponent that gives `num / den` a quotient of 53 binary digits. -/
def exponentFor (num den : Nat) : Int :=
  let e : Int := (num.log2 : Int) - den.log2 - 53
  let e := if Nat.pow 2 53 ≤ num * Nat.pow 2 (-e).toNat / (den * Nat.pow 2 e.toNat) then e + 1 else e
  max e leastExponent

/-- The magnitude nearest to `num / den`; nothing when it is out of range. -/
def ofRatio? (num den : Nat) : Option Binary64 :=
  if num = 0 then some zero
  else
    let e := exponentFor num den
    let s := divNearest (num * Nat.pow 2 (-e).toNat) (den * Nat.pow 2 e.toNat)
    let b : Binary64 := if s = Nat.pow 2 53 then ⟨Nat.pow 2 52, e + 1⟩ else ⟨s, e⟩
    if greatestExponent < b.exponent then none else some b

/-- The magnitude nearest to `num / den * 2 ^ e`. -/
def ofScaled? (num den : Nat) (e : Int) : Option Binary64 :=
  ofRatio? (num * Nat.pow 2 e.toNat) (den * Nat.pow 2 (-e).toNat)

def ofNat? (n : Nat) : Option Binary64 := ofRatio? n 1

def mul? (a b : Binary64) : Option Binary64 := ofScaled? (a.significand * b.significand) 1 (a.exponent + b.exponent)

def div? (a b : Binary64) : Option Binary64 :=
  if b.isZero then none else ofScaled? a.significand b.significand (a.exponent - b.exponent)

example : ofRatio? 1 1 = some ⟨2 ^ 52, -52⟩ := by decide +kernel
example : ofNat? (2 ^ 53 + 1) = some ⟨2 ^ 52, 1⟩ := by decide +kernel
example : (ofRatio? 1 10).bind (·.mul? ⟨5 * 2 ^ 50, -49⟩) = some ⟨2 ^ 52, -52⟩ := by decide +kernel

end Binary64

end PlotTypes.Decimal
