/-
  PlotTypes.Proofs.Schema.Tree — induction on attribute trees, and the nodes of a tree
  that are reached through compounds.

  `Node.reached` lists them in pre-order, the top node first, whether it is a compound
  or not. It is the order in which files are made. `reached_eq` is its recursion, and
  with `Node.induction` the way into every statement about a whole tree.
  - `mem_reached_iff`, `forall_mem_reached`: reached is what steps to compound children lead
    to, so what each step keeps holds at every reached node.
  - `compoundChildren_subset_reached`: the compounds below a reached node are reached.
  - `Everywhere.reached`: what holds at every node holds at every node below a reached one.
  - `inner_of_childless`: where leaves have no children, nothing with children is passed over.
  - `everywhere_placed`: placing keeps what does not speak of paths.
  - `Built.elements`: array elements are compounds in every tree that the constructors make.
-/

import Mathlib.Logic.Relation
import PlotTypes.Schema.Node

namespace PlotTypes.Schema.Node

/-! ## Induction -/

mutual

theorem inductionAt {P : Node → Prop} (step : ∀ n : Node, (∀ c ∈ n.children, P c) → P n) (n : Node) : P n :=
  match n with
  | ⟨a, children⟩ => step ⟨a, children⟩ (inductionAll step children)

theorem inductionAll {P : Node → Prop} (step : ∀ n : Node, (∀ c ∈ n.children, P c) → P n) (ns : List Node) :
    ∀ c ∈ ns, P c :=
  match ns with
  | [] => nofun
  | n :: r => List.forall_mem_cons.mpr ⟨inductionAt step n, inductionAll step r⟩

end

/-- What a node has whenever all its children have it, every node has. -/
@[elab_as_elim] theorem induction {P : Node → Prop} (n : Node)
    (step : ∀ n : Node, (∀ c ∈ n.children, P c) → P n) : P n := inductionAt step n

/-! ## Reached nodes -/

mutual

/-- A node and the compounds below it that are reached through compounds, in pre-order. -/
def reached (n : Node) : List Node :=
  match n with
  | ⟨a, children⟩ => ⟨a, children⟩ :: reachedAll children

def reachedAll : List Node → List Node
  | [] => []
  | n :: r => if n.isCompound then reached n ++ reachedAll r else reachedAll r

end

theorem reachedAll_eq (ns : List Node) : reachedAll ns = (ns.filter (·.isCompound)).flatMap reached := by
  induction ns with
  | nil => rfl
  | cons n r ih =>
    by_cases h : n.isCompound = true
    · simp [reachedAll, h, ih]
    · simp [reachedAll, h, ih]

theorem reached_eq (n : Node) : n.reached = n :: n.compoundChildren.flatMap reached := by
  obtain ⟨a, children⟩ := n
  simp only [reached, reachedAll_eq]
  rfl

theorem self_mem_reached (n : Node) : n ∈ n.reached := by
  rw [reached_eq]
  exact List.mem_cons_self

theorem mem_compoundChildren {n c : Node} : c ∈ n.compoundChildren ↔ c ∈ n.children ∧ c.isCompound = true :=
  List.mem_filter

theorem mem_reached {n p : Node} : p ∈ n.reached ↔ p = n ∨ ∃ c ∈ n.compoundChildren, p ∈ c.reached := by
  rw [reached_eq, List.mem_cons, List.mem_flatMap]

/-- The compounds below a reached node are reached. -/
theorem compoundChildren_subset_reached (n : Node) :
    ∀ p ∈ n.reached, ∀ c ∈ p.compoundChildren, c ∈ n.reached := by
  induction n using induction with
  | step n ih =>
    intro p hp c hc
    rcases mem_reached.mp hp with rfl | ⟨d, hd, hp⟩
    · exact mem_reached.mpr (Or.inr ⟨c, hc, self_mem_reached c⟩)
    · exact mem_reached.mpr (Or.inr ⟨d, hd, ih d (mem_compoundChildren.mp hd).1 p hp c hc⟩)

/-- Reached is what steps to compound children lead to. -/
theorem mem_reached_iff (n p : Node) :
    p ∈ n.reached ↔ Relation.ReflTransGen (fun q c => c ∈ q.compoundChildren) n p := by
  constructor
  · intro hp
    induction n using induction with
    | step n ih =>
      rcases mem_reached.mp hp with rfl | ⟨c, hc, hp⟩
      · exact .refl
      · exact .head hc (ih c (mem_compoundChildren.mp hc).1 hp)
  · intro h
    induction h with
    | refl => exact self_mem_reached n
    | tail _ hc ih => exact compoundChildren_subset_reached n _ ih _ hc

/-- What the top node has, and a reached node passes to its compound children, every reached node has. -/
theorem forall_mem_reached {n : Node} {P : Node → Prop} (top : P n)
    (step : ∀ q ∈ n.reached, P q → ∀ c ∈ q.compoundChildren, P c) : ∀ p ∈ n.reached, P p := by
  intro p hp
  induction (mem_reached_iff n p).mp hp with
  | refl => exact top
  | tail hq hc ih =>
    have hreached := (mem_reached_iff n _).mpr hq
    exact step _ hreached (ih hreached) _ hc

/-- The compounds that are some reached node's children, those of one node together. -/
def inner (n : Node) : List Node := n.reached.flatMap compoundChildren

theorem inner_eq (n : Node) : n.inner = n.compoundChildren ++ n.compoundChildren.flatMap inner := by
  unfold inner
  rw [reached_eq, List.flatMap_cons, List.flatMap_assoc]

theorem hasCompoundChildren_iff (n : Node) : n.hasCompoundChildren = true ↔ ∃ c, c ∈ n.compoundChildren := by
  simp only [hasCompoundChildren, List.any_eq_true, mem_compoundChildren]

theorem compoundChildren_eq_nil {n : Node} (h : n.hasCompoundChildren = false) : n.compoundChildren = [] := by
  refine List.filter_eq_nil_iff.mpr fun c hc hcc => ?_
  have := List.any_eq_false.mp h c hc
  exact this hcc

/-! ## Properties of all nodes of a tree -/

inductive Everywhere (P : Node → Prop) : Node → Prop
  | mk (n : Node) : P n → (∀ c ∈ n.children, Everywhere P c) → Everywhere P n

namespace Everywhere

variable {P : Node → Prop} {n : Node}

theorem here (h : Everywhere P n) : P n := by
  cases h with
  | mk _ h _ => exact h

theorem child (h : Everywhere P n) : ∀ c ∈ n.children, Everywhere P c := by
  cases h with
  | mk _ _ h => exact h

theorem reached (h : Everywhere P n) : ∀ p ∈ n.reached, Everywhere P p :=
  forall_mem_reached h fun _ _ hq c hc => hq.child c (mem_compoundChildren.mp hc).1

/-- What holds everywhere below each child holds everywhere below each compound. -/
theorem inner (h : ∀ t ∈ n.children, Everywhere P t) : ∀ c ∈ n.inner, Everywhere P c := by
  intro c hc
  rw [inner_eq, List.mem_append] at hc
  rcases hc with hc | hc
  · exact h c (mem_compoundChildren.mp hc).1
  · obtain ⟨t, ht, hct⟩ := List.mem_flatMap.mp hc
    obtain ⟨p, hp, hcp⟩ := List.mem_flatMap.mp hct
    exact (h t (mem_compoundChildren.mp ht).1).reached c (compoundChildren_subset_reached t p hp c hcp)

theorem imp {Q : Node → Prop} (himp : ∀ m, P m → Q m) (h : Everywhere P n) : Everywhere Q n := by
  induction h with
  | mk n hn _ ih => exact .mk n (himp n hn) ih

theorem and {Q : Node → Prop} (hp : Everywhere P n) (hq : Everywhere Q n) : Everywhere (fun m => P m ∧ Q m) n := by
  induction hp with
  | mk n hn _ ih => exact .mk n ⟨hn, hq.here⟩ fun c hc => ih c hc (hq.child c hc)

/-- What holds of the children of every node holds everywhere below the top node. -/
theorem children_iff : Everywhere (fun m => ∀ a ∈ m.children, P a) n ↔ ∀ a ∈ n.children, Everywhere P a := by
  constructor
  · intro h
    induction h with
    | mk n hn _ ih => exact fun a ha => .mk a (hn a ha) (ih a ha)
  · induction n using induction with
    | step n ih => exact fun h => .mk n (fun a ha => (h a ha).here) fun c hc => ih c hc (h c hc).child

/-- What holds everywhere below a node holds everywhere below each node below it. -/
theorem deep (h : Everywhere P n) : Everywhere (Everywhere P) n := by
  induction h with
  | mk n hn hc ih => exact .mk n (.mk n hn hc) ih

end Everywhere

/-- Where only compounds have children, every node with children below the top node is reached through compounds. -/
theorem inner_of_childless (h : Everywhere (fun m => m.isCompound = false → m.children = []) n) :
    ∀ t ∈ n.children, Everywhere (fun p => p.children ≠ [] → p ∈ n.inner) t := by
  induction n using induction with
  | step n ih =>
    intro t ht
    have hinner : t.children ≠ [] → t ∈ n.compoundChildren := by
      intro hne
      cases hc : t.isCompound with
      | false => exact absurd ((h.child t ht).here hc) hne
      | true => exact mem_compoundChildren.mpr ⟨ht, hc⟩
    refine .mk t (fun hne => ?_) fun c hc => ?_
    · rw [inner_eq]
      exact List.mem_append_left _ (hinner hne)
    · refine (ih t ht (h.child t ht) c hc).imp fun p hp hne => ?_
      rw [inner_eq]
      exact List.mem_append_right _ (List.mem_flatMap.mpr ⟨t, hinner (List.ne_nil_of_mem hc), hp hne⟩)

/-! ## Placing -/

theorem placedAll_eq_map (above : List String) (ns : List Node) : placedAll above ns = ns.map (placed above) := by
  induction ns with
  | nil => rfl
  | cons n r ih => simp only [placedAll, ih, List.map_cons]

theorem children_placed (above : List String) (n : Node) :
    (placed above n).children = n.children.map (placed (above ++ [n.name])) := by
  obtain ⟨a, children⟩ := n
  simp only [placed, placedAll_eq_map]

theorem toAttribute_placed (above : List String) (n : Node) :
    (placed above n).toAttribute = { n.toAttribute with path := above ++ [n.name] } := by
  obtain ⟨a, children⟩ := n
  simp only [placed]

@[simp] theorem isCompound_placed (above : List String) (n : Node) : (placed above n).isCompound = n.isCompound := by
  rw [toAttribute_placed]

theorem isRoot_placed (above : List String) (n : Node) : (placed above n).isRoot = false := by
  unfold isRoot
  rw [toAttribute_placed]
  simp

theorem children_root (ns : List Node) : (root ns).children = ns.map (placed []) := placedAll_eq_map [] ns

theorem isRoot_root (ns : List Node) : (root ns).isRoot = true := rfl

/-- The compounds among placed children. -/
theorem compoundChildren_of_placed {n : Node} {above : List String} {ns : List Node}
    (h : n.children = ns.map (placed above)) :
    n.compoundChildren = ns.filterMap fun c => if c.isCompound then some (placed above c) else none := by
  rw [compoundChildren, h, ← List.filterMap_eq_filter, List.filterMap_map]
  congr 1
  funext c
  simp [Option.guard]

/-- Placing keeps what holds everywhere, if a change of path and placed children keep it. -/
theorem everywhere_placed {P : Node → Prop}
    (keeps : ∀ (above : List String) (n : Node), P n → P (placed above n)) {n : Node} (h : Everywhere P n) :
    ∀ above, Everywhere P (placed above n) := by
  induction n using induction with
  | step n ih =>
    intro above
    refine .mk _ (keeps above n h.here) fun c hc => ?_
    rw [children_placed, List.mem_map] at hc
    obtain ⟨d, hd, rfl⟩ := hc
    exact ih d hd (h.child d hd) _

/-! ## Built trees -/

/-- A tree made with the constructors, with notes on any of its nodes. -/
inductive Built : Node → Prop
  | leaf (name tag : String) : Built (Node.leaf name tag)
  | compound (name : String) (children : List Node) : (∀ c ∈ children, Built c) → Built (Node.compound name children)
  | element (container name : String) (children : List Node) :
      (∀ c ∈ children, Built c) → Built (Node.element container name children)
  | root (children : List Node) : (∀ c ∈ children, Built c) → Built (Node.root children)
  | noted (n : Node) (description : Option String) (arrayOk : Bool) (defaultValue : String) :
      Built n → Built { n with description, arrayOk, defaultValue }

/-- Array elements are compounds; all others go by the name under which their owner holds them. -/
structure Named (n : Node) : Prop where
  elements : n.isElement = true → n.isCompound = true
  others : n.isElement = false → n.name = n.property

theorem Built.named {n : Node} (h : Built n) : Everywhere Named n := by
  induction h with
  | leaf name tag => exact .mk _ ⟨nofun, fun _ => rfl⟩ nofun
  | compound name children _ ih => exact .mk _ ⟨fun _ => rfl, fun _ => rfl⟩ ih
  | element container name children _ ih => exact .mk _ ⟨fun _ => rfl, nofun⟩ ih
  | root children _ ih =>
    refine .mk _ ⟨fun _ => rfl, fun _ => rfl⟩ fun c hc => ?_
    rw [children_root, List.mem_map] at hc
    obtain ⟨d, hd, rfl⟩ := hc
    refine everywhere_placed (fun above m hm => ?_) (ih d hd) []
    obtain ⟨he, ho⟩ := hm
    constructor
    · rw [toAttribute_placed]
      exact he
    · rw [toAttribute_placed]
      exact ho
  | noted n description arrayOk defaultValue _ ih => exact .mk _ ⟨ih.here.elements, ih.here.others⟩ ih.child

/-- In a built tree array elements are compounds, wherever they stand. -/
theorem Built.elements {n : Node} (h : Built n) : Everywhere (fun m => m.isElement = true → m.isCompound = true) n :=
  h.named.imp fun _ hm => hm.elements

end PlotTypes.Schema.Node
