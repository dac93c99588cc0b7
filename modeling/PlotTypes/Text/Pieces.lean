/-
  PlotTypes.Text.Pieces — cutting a list at separators, trimming its end, and
  membership in tables of code point ranges.
-/

namespace PlotTypes.Text

/-- The pieces between the elements that satisfy `p`: one more than there are such elements. -/
def pieces (p : α → Bool) : List α → List (List α)
  | [] => [[]]
  | c :: r =>
    if p c then [] :: pieces p r
    else
      match pieces p r with
      | [] => [[c]]
      | w :: ws => (c :: w) :: ws

theorem pieces_ne_nil (p : α → Bool) (l : List α) : pieces p l ≠ [] := by
  cases l with
  | nil => simp [pieces]
  | cons c r =>
    simp only [pieces]
    split
    · simp
    · split <;> simp

/-- `l` without its longest end that satisfies `p`. -/
def dropEnd (p : α → Bool) (l : List α) : List α := (l.reverse.dropWhile p).reverse

/-- `l` without its longest start and end that satisfy `p`. -/
def trim (p : α → Bool) (l : List α) : List α := dropEnd p (l.dropWhile p)

def inRanges (ranges : List (Nat × Nat)) (c : Char) : Bool :=
  ranges.any fun (first, last) => first ≤ c.toNat && c.toNat ≤ last

end PlotTypes.Text
