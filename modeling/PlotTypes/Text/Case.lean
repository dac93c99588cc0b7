/-
  PlotTypes.Text.Case — Unicode's full case mappings.

  Upper case is a function of one character; lower case also looks at the
  neighbours of a capital sigma, which is `ς` at the end of a word and `σ` elsewhere.
-/

import PlotTypes.Text.CaseTable
import PlotTypes.Text.Pieces

namespace PlotTypes.Text

def shifted? (table : List Shift) (c : Char) : Option Char :=
  (table.find? fun s => s.first ≤ c.toNat && c.toNat ≤ s.last && (c.toNat - s.first) % s.step == 0).map
    fun s => Char.ofNat ((c.toNat : Int) + s.delta).toNat

def mapped (shifts : List Shift) (expansions : List (Nat × List Nat)) (c : Char) : List Char :=
  match shifted? shifts c with
  | some d => [d]
  | none =>
    match expansions.lookup c.toNat with
    | some ds => ds.map Char.ofNat
    | none => [c]

def isAscii (c : Char) : Bool := c.toNat < 128

def upperChar (c : Char) : List Char :=
  if isAscii c then [c.toUpper] else mapped upperShifts upperExpansions c

def lowerChar (c : Char) : List Char :=
  if isAscii c then [c.toLower] else mapped lowerShifts lowerExpansions c

/-! ## Lower case of a text -/

/-- Does a cased character come next, ignored ones looked through? -/
def meetsCased (s : List Char) : Bool :=
  match s.dropWhile (inRanges caseIgnored) with
  | [] => false
  | c :: _ => inRanges caseBearing c

/-- The small sigma for a capital one that has `before`, nearest first, on its left and
    `after` on its right. -/
def smallSigma (before after : List Char) : Char :=
  if meetsCased before && !meetsCased after then 'ς' else 'σ'

def lowerFrom (before : List Char) : List Char → List Char
  | [] => []
  | c :: r => (if c == 'Σ' then [smallSigma before r] else lowerChar c) ++ lowerFrom (c :: before) r

def lower (s : List Char) : List Char := lowerFrom [] s

theorem lowerFrom_ascii (s before : List Char) (h : ∀ c ∈ s, isAscii c = true) :
    lowerFrom before s = s.map Char.toLower := by
  induction s generalizing before with
  | nil => rfl
  | cons c r ih =>
    have hc : isAscii c = true := h c (by simp)
    have hs : (c == 'Σ') = false := by
      cases e : c == 'Σ'
      · rfl
      · rw [eq_of_beq e] at hc; exact absurd hc (by decide)
    simp [lowerFrom, hs, lowerChar, hc, ih (c :: before) fun d hd => h d (by simp [hd])]

theorem lower_ascii (s : List Char) (h : ∀ c ∈ s, isAscii c = true) : lower s = s.map Char.toLower :=
  lowerFrom_ascii s [] h

end PlotTypes.Text
