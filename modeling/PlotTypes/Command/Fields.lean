/-
  PlotTypes.Command.Fields — an expanded word as fields.

  An expanded word is a row of regions. Only what came out of an unquoted expansion is
  split, at the separators of the shell; the parameters of a quoted `$@` are fields of
  their own. Blank separators count once and not at the ends, others each time.
-/

import PlotTypes.Command.Pattern

namespace PlotTypes.Command

inductive Bit where
  | glyph (g : Glyph)
  /-- A quote stood here: a field with nothing else is kept. -/
  | mark
  /-- Between two parameters. -/
  | gap
  deriving DecidableEq, Repr

inductive RegionKind where
  | fixed
  | split
  | parameters
  deriving DecidableEq, Repr

structure Region where
  kind : RegionKind
  bits : List Bit
  deriving DecidableEq, Repr

abbrev Expanded := List Region

namespace Expanded

def literal (s : Bytes) (isQuoted : Bool) : List Bit := s.map fun c => .glyph ⟨c, isQuoted⟩

def bits (e : Expanded) : List Bit := e.flatMap (·.bits)

def glyphs (bits : List Bit) : List Glyph := bits.filterMap fun
  | .glyph g => some g
  | _ => none

def text (e : Expanded) : Bytes := (glyphs e.bits).map (·.char)

end Expanded

/-! ## Splitting -/

def blankSeparators : List Char := [' ', '\t', '\n']

structure Splitting where
  /-- Complete fields, the last one first. -/
  done : List (List Bit)
  /-- The last bit first. -/
  current : List Bit
  afterBlank : Bool
  /-- How many fields may still be begun; without a limit any number. -/
  left : Option Nat
  /-- In the last field: how much of it is kept if nothing else follows. -/
  keep : Option Nat

/-- How a bit separates fields, if it does: as a blank or not. -/
def separator? (separators : List Char) : Bit → Option Bool
  | .gap => some true
  | .mark => none
  | .glyph g => if separators.contains g.char then some (blankSeparators.contains g.char) else none

/-- A bit of the last field that is allowed: separators stay in it, except those at its end. -/
def Splitting.toLast (s : Splitting) (b : Bit) (sep? : Option Bool) : Splitting :=
  let added := { s with current := b :: s.current }
  if sep? == some true then { added with keep := some (s.keep.getD s.current.length) }
  else if sep?.isSome && s.afterBlank then { added with afterBlank := false }
  else { added with keep := none, afterBlank := false }

def Splitting.separate (s : Splitting) (b : Bit) (isBlank : Bool) : Splitting :=
  let s := { s with afterBlank := isBlank }
  if isBlank && s.current.isEmpty then { s with afterBlank := false }
  else
    match s.left with
    | some 1 => { s with left := some 0, keep := some s.current.length, current := b :: s.current }
    | left => { s with left := left.map (· - 1), done := s.current.reverse :: s.done, current := [] }

/-- One more bit of a region; `one` regions do not join blanks. -/
def Splitting.step (separators : List Char) (one : Bool) (s : Splitting) (b : Bit) : Splitting :=
  let sep? := separator? separators b
  if s.left == some 0 then s.toLast b sep?
  else if s.afterBlank then
    match sep? with
    | some true => { s with current := [] }
    | some false => { s with current := [], afterBlank := false }
    | none => { s with current := [b], afterBlank := false }
  else
    match sep? with
    | some isBlank => if one then s.separate b false else s.separate b isBlank
    | none => { s with current := b :: s.current, afterBlank := false }

/-- The fields of an expanded word, at most `limit` of them. -/
def fields (separators : List Char) (limit : Option Nat) (e : Expanded) : List (List Bit) :=
  let region (acc : Splitting × Bool) (r : Region) : Splitting × Bool :=
    let (s, afterOne) := acc
    match r.kind with
    | .fixed => ({ s with current := r.bits.reverse ++ s.current }, afterOne)
    | kind =>
      let one := kind == .parameters
      let separators := if one then [] else separators
      (r.bits.foldl (Splitting.step separators (one || afterOne)) { s with afterBlank := false }, one)
  let (s, endsInOne) := e.foldl region (⟨[], [], false, limit, none⟩, false)
  let last := match s.keep with
    | some n => s.current.reverse.take n
    | none => s.current.reverse
  if endsInOne || !last.isEmpty then (last :: s.done).reverse else s.done.reverse

end PlotTypes.Command
