/-
  PlotTypes.Proofs.Schema.Placing — what placing changes in a tree, and what it leaves.

  An address leads down from a node by positions among all children, leaves too, so it names
  one place and not one of several equal nodes. Placing puts each node's path in order and
  keeps the rest of it, whatever stood there: stale paths, roots inside, leaves with children.
  - `placedAt_placed`: one node, at its own place.
  - `rel_at?_placed`: every node below, by induction on the address. What goes down with it is
    the path so far, which grows by the name of each node on the way.
  - `root_sets_paths`: below a root, and a second time.
-/

import PlotTypes.Proofs.Schema.Tree

namespace PlotTypes.Schema.Node

/-! ## Addresses -/

def at? (n : Node) : List Nat → Option Node
  | [] => some n
  | i :: below => n.children[i]?.bind fun c => c.at? below

/-- The names of the nodes on the way to an address, from below the top node on. -/
def wayTo (n : Node) : List Nat → List String
  | [] => []
  | i :: below =>
    match n.children[i]? with
    | some c => c.name :: c.wayTo below
    | none => []

theorem at?_cons (n : Node) (i : Nat) (below : List Nat) :
    n.at? (i :: below) = n.children[i]?.bind fun c => c.at? below := rfl

theorem wayTo_cons {n c : Node} {i : Nat} (h : n.children[i]? = some c) (below : List Nat) :
    n.wayTo (i :: below) = c.name :: c.wayTo below := by
  rw [wayTo, h]

/-! ## Placing -/

/-- A node before and after: it has the path now, everything else is as it was, and it has as many children. -/
structure PlacedAt (path : List String) (before after : Node) : Prop where
  path : after.path = path
  others : { after.toAttribute with path := before.path } = before.toAttribute
  children : after.children.length = before.children.length

theorem placedAt_placed (above : List String) (n : Node) : PlacedAt (above ++ [n.name]) n (placed above n) where
  path := by rw [toAttribute_placed]
  others := by rw [toAttribute_placed]
  children := by rw [children_placed, List.length_map]

/-- At every address there is a node after placing where there was one before, with its path in order. -/
theorem rel_at?_placed (address : List Nat) (above : List String) (n : Node) :
    Option.Rel (PlacedAt (above ++ n.name :: n.wayTo address)) (n.at? address) ((placed above n).at? address) := by
  induction address generalizing above n with
  | nil => exact .some (placedAt_placed above n)
  | cons i below ih =>
    rw [at?_cons, at?_cons, children_placed, List.getElem?_map]
    cases hc : n.children[i]? with
    | none => exact .none
    | some c =>
      have hpath : above ++ n.name :: n.wayTo (i :: below) = above ++ [n.name] ++ c.name :: c.wayTo below := by
        rw [wayTo_cons hc, List.append_assoc, List.singleton_append]
      rw [hpath]
      exact ih (above ++ [n.name]) c

/-! ## Roots -/

theorem rel_at?_root (children : List Node) (i : Nat) (below : List Nat) :
    Option.Rel (PlacedAt ((compound "" children).wayTo (i :: below))) ((compound "" children).at? (i :: below))
      ((root children).at? (i :: below)) := by
  rw [at?_cons, at?_cons, children_root, List.getElem?_map]
  cases hc : (compound "" children).children[i]? with
  | none =>
    have hnone : children[i]? = none := hc
    rw [hnone]
    exact .none
  | some c =>
    have hsome : children[i]? = some c := hc
    rw [hsome, wayTo_cons hc]
    exact rel_at?_placed below [] c

/-- Below a root every node has the names on the way to it for its path, whatever path it had. Nothing else of it
    changes, no node comes or goes, and another root over the same nodes changes nothing. -/
theorem root_sets_paths (children : List Node) :
    (root children).toAttribute = (compound "" children).toAttribute ∧
      (root children).children.length = children.length ∧
      (∀ i below, Option.Rel (PlacedAt ((compound "" children).wayTo (i :: below)))
        ((compound "" children).at? (i :: below)) ((root children).at? (i :: below))) ∧
      root (root children).children = root children := by
  refine ⟨rfl, ?_, rel_at?_root children, ?_⟩
  · rw [children_root, List.length_map]
  · show compound "" (placedAll [] (placedAll [] children)) = compound "" (placedAll [] children)
    rw [placedAll_placedAll]

/-- A stale path goes, a root inside counts with its empty name, and a leaf's child has its place too. -/
example :
    let stale : Node := { leaf "x" "any" with path := ["old"], children := [leaf "y" "any"] }
    ((root [compound "bar" [root [stale]]]).at? [0, 0, 0, 0]).map (·.path) = some ["bar", "", "x", "y"] := by
  decide

end PlotTypes.Schema.Node
