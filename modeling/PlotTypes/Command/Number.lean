/-
  PlotTypes.Command.Number — integers as commands read and write them.

  Integers have 64 bits. A leading zero means base eight, `0x` sixteen and `0b` two; what
  is too large is held at the end of the range and reported.
-/

import PlotTypes.Command.Pattern

namespace PlotTypes.Command

def maxInteger : Int := Int.pow 2 63 - 1

def minInteger : Int := -Int.pow 2 63

/-- Arithmetic goes around the end of the range. -/
def wrapped (i : Int) : Int := Int.bmod i (Nat.pow 2 64)

def digitValue? (base : Nat) (c : Char) : Option Nat :=
  let v :=
    if c.isDigit then c.toNat - '0'.toNat
    else if c.isAlpha then c.toLower.toNat - 'a'.toNat + 10
    else base
  if v < base then some v else none

/-- The value of the digits at the start of a text, and the rest. -/
def readDigits (base : Nat) (cs : Bytes) : Option (Nat × Bytes) :=
  let run := cs.takeWhile fun c => (digitValue? base c).isSome
  if run.isEmpty then none
  else some (run.foldl (fun n c => n * base + (digitValue? base c).getD 0) 0, cs.drop run.length)

/-- A natural number whose base shows at its start, and the rest. -/
def readBased (cs : Bytes) : Option (Nat × Bytes) :=
  let marked (base : Nat) (r : Bytes) : Option (Nat × Bytes) :=
    match readDigits base r with
    | some found => some found
    | none => some (0, cs.drop 1)
  match cs with
  | '0' :: 'x' :: r | '0' :: 'X' :: r => marked 16 r
  | '0' :: 'b' :: r | '0' :: 'B' :: r => marked 2 r
  | '0' :: _ => readDigits 8 cs
  | cs => readDigits 10 cs

/-- A number after blanks and a sign, and the rest. Without `base` it shows the base itself. -/
def readSigned (base : Option Nat) (cs : Bytes) : Option (Int × Bytes) :=
  let read (cs : Bytes) : Option (Nat × Bytes) :=
    match base with
    | some b => readDigits b cs
    | none => readBased cs
  match cs.dropWhile Pattern.isSpaceByte with
  | '-' :: r => (read r).map fun (n, rest) => (-(n : Int), rest)
  | '+' :: r => (read r).map fun (n, rest) => ((n : Int), rest)
  | r => (read r).map fun (n, rest) => ((n : Int), rest)

/-- A whole text as an integer in range; blanks may follow it. -/
def integer? (base : Option Nat) (cs : Bytes) : Option Int :=
  match readSigned base cs with
  | some (i, rest) =>
    if rest.all Pattern.isSpaceByte && minInteger ≤ i && i ≤ maxInteger then some i else none
  | none => if base.isNone && cs.all Pattern.isSpaceByte then some 0 else none

/-- A whole text as a number of 31 bits. -/
def countOf? (cs : Bytes) : Option Nat :=
  match integer? (some 10) cs with
  | some (.ofNat n) => if n < Nat.pow 2 31 then some n else none
  | _ => none

def integerText (i : Int) : Bytes := (toString i).toList

end PlotTypes.Command
