/-
  PlotTypes.Proofs.Schema.Address — where the reached nodes of a tree stand, and two trees
  that differ in one place.

  An address leads down from the top node, by positions among all children. Two nodes of a
  tree can be equal, but they have different addresses.
  - `map_addressed`: the addressed nodes are the reached nodes, in their order.
  - `AlikeBut`: two trees agree in all but the children of the node at one address.
  - `AlikeBut.outline`, `AlikeBut.outlines`: one step above that node the trees still agree
    in a node and its children, two steps above also in the children's children. What looks no
    further down finds no difference there.
-/

import PlotTypes.Proofs.Pairing
import PlotTypes.Proofs.Schema.Tree

namespace PlotTypes.Schema.Node

/-! ## Addresses -/

mutual

def addressed (n : Node) : List (List Nat × Node) :=
  match n with
  | ⟨a, children⟩ => ([], ⟨a, children⟩) :: addressedFrom 0 children

def addressedFrom (i : Nat) : List Node → List (List Nat × Node)
  | [] => []
  | n :: r =>
    if n.isCompound then (addressed n).map (fun (at_, p) => (i :: at_, p)) ++ addressedFrom (i + 1) r
    else addressedFrom (i + 1) r

end

mutual

theorem map_addressed (n : Node) : n.addressed.map (·.2) = n.reached := by
  cases n with
  | mk a children => rw [addressed, reached, List.map_cons, map_addressedFrom]

theorem map_addressedFrom (i : Nat) (ns : List Node) : (addressedFrom i ns).map (·.2) = reachedAll ns := by
  cases ns with
  | nil => rfl
  | cons n r =>
    rw [addressedFrom, reachedAll]
    by_cases hc : n.isCompound = true
    · rw [if_pos hc, if_pos hc, List.map_append, List.map_map, map_addressedFrom (i + 1) r, ← map_addressed n]
      rfl
    · rw [if_neg hc, if_neg hc, map_addressedFrom (i + 1) r]

end

theorem addressedFrom_append (i : Nat) (as bs : List Node) :
    addressedFrom i (as ++ bs) = addressedFrom i as ++ addressedFrom (i + as.length) bs := by
  induction as generalizing i with
  | nil => rfl
  | cons a r ih =>
    have hlength : i + (a :: r).length = i + 1 + r.length := by
      rw [List.length_cons]
      omega
    rw [List.cons_append, addressedFrom, addressedFrom, ih, hlength]
    split
    · rw [List.append_assoc]
    · rfl

/-! ## Outlines -/

/-- Two nodes that agree in themselves and in each child itself, whatever is below the children. -/
structure SameOutline (m n : Node) : Prop where
  itself : m.toAttribute = n.toAttribute
  children : List.Forall₂ (fun c d => c.toAttribute = d.toAttribute) m.children n.children

theorem SameOutline.refl (n : Node) : SameOutline n n := ⟨rfl, List.forall₂_same.mpr fun _ _ => rfl⟩

/-- Whether a node is a compound is seen on itself. -/
theorem compoundChildren_of_attributes {R : Node → Node → Prop} (hR : ∀ c d, R c d → c.toAttribute = d.toAttribute)
    {m n : Node} (h : List.Forall₂ R m.children n.children) : List.Forall₂ R m.compoundChildren n.compoundChildren := by
  refine List.rel_filter (fun c d hcd => ?_) h
  show c.toAttribute.isCompound = true ↔ d.toAttribute.isCompound = true
  rw [hR c d hcd]

/-! ## Trees alike but for one place -/

/-- Two trees that differ at most in the children of the node at an address. -/
inductive AlikeBut : List Nat → Node → Node → Prop
  | here (a : Attribute) (below₁ below₂ : List Node) : AlikeBut [] ⟨a, below₁⟩ ⟨a, below₂⟩
  | inside (a : Attribute) (before after : List Node) {i : List Nat} {c₁ c₂ : Node} : AlikeBut i c₁ c₂ →
      AlikeBut (before.length :: i) ⟨a, before ++ c₁ :: after⟩ ⟨a, before ++ c₂ :: after⟩

namespace AlikeBut

variable {i : List Nat} {m n : Node}

theorem toAttribute_eq (h : AlikeBut i m n) : m.toAttribute = n.toAttribute := by
  cases h with
  | here => rfl
  | inside => rfl

theorem outline (h : AlikeBut i m n) (hi : i ≠ []) : SameOutline m n := by
  cases h with
  | here => exact absurd rfl hi
  | inside a before after h =>
    exact ⟨rfl, forall₂_append_cons (R := fun c d : Node => c.toAttribute = d.toAttribute) (fun _ => rfl) h.toAttribute_eq⟩

theorem outlines (h : AlikeBut i m n) (hi : 2 ≤ i.length) : List.Forall₂ SameOutline m.children n.children := by
  cases h with
  | here => cases hi
  | @inside a before after i c₁ c₂ h =>
    refine forall₂_append_cons SameOutline.refl (h.outline ?_)
    rintro rfl
    simp at hi

end AlikeBut

end PlotTypes.Schema.Node
