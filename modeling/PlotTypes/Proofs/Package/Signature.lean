/-
  PlotTypes.Proofs.Package.Signature — what is made from the parameters of a compound.

  Parameters are paired with attributes by position in several places. The two lists have
  one length and one order, so pairing them loses nothing (`zipWith_parameters`): the
  documentation and the assignments have one entry for each attribute.
-/

import PlotTypes.Package.Class

namespace PlotTypes.Package

open PlotTypes.Python PlotTypes.Schema

theorem names_parameters (n : Node) : (parameters n).map (·.name) = n.children.map (·.parameter) := by
  unfold parameters
  refine List.ext_getElem (by simp) fun i _ _ => ?_
  simp

/-- Pairing the parameters with the attributes pairs each with its own. -/
theorem zipWith_parameters {β : Type} (n : Node) {f : Parameter → Node → β} {g : Node → β}
    (h : ∀ i a, f ⟨a.parameter, a.defaultValue, i⟩ a = g a) :
    List.zipWith f (parameters n) n.children = n.children.map g := by
  unfold parameters
  refine List.ext_getElem (by simp) fun i _ _ => ?_
  simp [h]

theorem parameters_docBlock (s : Settings) (n : Node) :
    (docBlock s n (parameters n)).parameters.map (·.name) = n.children.map (·.parameter) := by
  unfold docBlock
  rw [List.map_zipWith]
  exact zipWith_parameters n fun _ _ => rfl

theorem assigned_constructorOf (s : Settings) (n : Node) (ps : List Property) :
    (constructorOf s n ps).assigned = n.children.map fun a => ⟨a.property, a.parameter⟩ := by
  unfold constructorOf
  rw [List.zipWith_comm]
  exact zipWith_parameters n fun _ _ => rfl

end PlotTypes.Package
