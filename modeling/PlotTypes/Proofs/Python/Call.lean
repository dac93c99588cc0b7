/-
  PlotTypes.Proofs.Python.Call — reading a rendered call back.

  An argument stands on a line of its own: indentation, the keyword, an equals sign, the
  value, a comma. `argumentOf?` reads such a line without knowing how it was written. What
  makes it read the right words is that names are identifiers, which hold no blank, no
  equals sign and no comma (`callLines_arguments`).
-/

import PlotTypes.Proofs.Python.Word

namespace PlotTypes.Python

/-! ## Arguments -/

def argumentOf? (line : String) : Option (String × String) :=
  match splitWord (line.toList.dropWhile (· == ' ')) with
  | (keyword, '=' :: r) =>
    match splitWord r with
    | (value, [',']) => some (String.ofList keyword, String.ofList value)
    | _ => none
  | _ => none

theorem argumentOf?_line {keyword value : String} (hk : isIdentifier keyword = true) (hv : isIdentifier value = true) :
    argumentOf? (textIndent ++ keyword ++ "=" ++ value ++ ",") = some (keyword, value) := by
  have hline : (textIndent ++ keyword ++ "=" ++ value ++ ",").toList =
      textIndent.toList ++ (keyword.toList ++ '=' :: (value.toList ++ [','])) := by
    simp only [String.toList_append, List.append_assoc]
    rfl
  have hindent : ∀ c ∈ textIndent.toList, (c == ' ') = true := by simp [textIndent]
  obtain ⟨⟨c, r, hs⟩, hw⟩ := word_of_isIdentifier hk
  have hblank : (c == ' ') = false := by
    cases he : c == ' ' with
    | false => rfl
    | true =>
      have := hw c (by rw [hs]; exact List.mem_cons_self)
      rw [eq_of_beq he] at this
      cases this
  have hdrop : (keyword.toList ++ '=' :: (value.toList ++ [','])).dropWhile (· == ' ') =
      keyword.toList ++ '=' :: (value.toList ++ [',']) := by
    rw [hs, List.cons_append, List.dropWhile_cons, hblank]
    rfl
  unfold argumentOf?
  rw [hline, List.dropWhile_append_of_pos hindent, hdrop, splitWord_append hw (by decide)]
  simp only [splitWord_append (word_of_isIdentifier hv).2 (c := ',') (by decide), String.ofList_toList]

/-- A call with arguments: the lines between the first and the last are read back as the parameters, each given by its
    own name. -/
theorem callLines_arguments (className : String) {ps : List Parameter} (hne : ps ≠ [])
    (h : ∀ p ∈ ps, isIdentifier p.name = true) :
    ∃ arguments, callLines className ps =
        inBody ("new_trace = " ++ className ++ "(") :: arguments ++ [inBody ")"] ∧
      arguments.map argumentOf? = ps.map fun p => some (p.name, p.name) := by
  refine ⟨ps.map fun p => textIndent ++ p.name ++ "=" ++ p.name ++ ",", ?_, ?_⟩
  · unfold callLines
    rw [if_neg (by simpa using hne)]
    rfl
  · rw [List.map_map]
    refine List.map_congr_left fun p hp => ?_
    exact argumentOf?_line (h p hp) (h p hp)

end PlotTypes.Python
