/-
  PlotTypes.Proofs.Schema.Paths — the paths of the nodes of a tree.

  In a placed tree every child's path is its parent's and one name more (`Placed`). So a path
  tells the names of the compounds on the way down (`exists_inner_of_mem_path`), and two
  nodes can share a path only where two siblings share a name (`nodup_paths_iff`). Only
  the nodes with compound children count there: they are the ones that get a file.

  The check tells siblings apart by their properties. That is by their names, except for
  array elements, whose names it does not see (`namedApart_iff_elementsApart`).
-/

import Mathlib.Data.List.Nodup
import PlotTypes.Proofs.Schema.Validity

namespace PlotTypes.Schema.Node

def Placed (n : Node) : Prop := Everywhere (fun m => ∀ c ∈ m.children, c.path = m.path ++ [c.name]) n

theorem Placed.of_placed (n : Node) : ∀ above, Placed (placed above n) := by
  induction n using induction with
  | step n ih =>
    intro above
    have hpath : (placed above n).path = above ++ [n.name] := by
      rw [toAttribute_placed]
    refine .mk _ (fun c hc => ?_) fun c hc => ?_
    · rw [children_placed, List.mem_map] at hc
      obtain ⟨d, -, rfl⟩ := hc
      rw [hpath, toAttribute_placed]
    · rw [children_placed, List.mem_map] at hc
      obtain ⟨d, hd, rfl⟩ := hc
      exact ih d hd _

theorem Placed.of_root (children : List Node) : Placed (root children) := by
  refine .mk _ (fun c hc => ?_) fun c hc => ?_
  · rw [children_root, List.mem_map] at hc
    obtain ⟨d, -, rfl⟩ := hc
    rw [toAttribute_placed]
    rfl
  · rw [children_root, List.mem_map] at hc
    obtain ⟨d, -, rfl⟩ := hc
    exact Placed.of_placed d []

variable {n : Node}

theorem Placed.path_of_mem (h : Placed n) {p c : Node} (hp : p ∈ n.reached) (hc : c ∈ p.compoundChildren) :
    c.path = p.path ++ [c.name] :=
  (Everywhere.reached h p hp).here c (mem_compoundChildren.mp hc).1

/-- Further down, paths get longer. -/
theorem Placed.prefix_of_mem (h : Placed n) {p : Node} (hp : p ∈ n.reached) : n.path <+: p.path := by
  refine forall_mem_reached (P := fun p => n.path <+: p.path) (List.prefix_refl _) (fun q hq hway c hc => ?_) p hp
  rw [h.path_of_mem hq hc]
  exact hway.trans (List.prefix_append q.path [c.name])

/-- The names in a path are those of the compounds on the way. -/
theorem exists_inner_of_mem_path (h : Placed n) {p : Node} (hp : p ∈ n.reached) :
    ∀ name ∈ p.path, name ∈ n.path ∨ ∃ q ∈ n.inner, q.path <+: p.path ∧ q.name = name := by
  refine forall_mem_reached (P := fun p => ∀ name ∈ p.path,
    name ∈ n.path ∨ ∃ q ∈ n.inner, q.path <+: p.path ∧ q.name = name) (fun _ => Or.inl) (fun r hr ih c hc => ?_) p hp
  intro name hname
  have hpath := h.path_of_mem hr hc
  have hin : name ∈ r.path ++ [c.name] := hpath ▸ hname
  rcases List.mem_append.mp hin with hin | hin
  · rcases ih name hin with hn | ⟨q, hq, hway, hqn⟩
    · exact Or.inl hn
    · refine Or.inr ⟨q, hq, ?_, hqn⟩
      rw [hpath]
      exact hway.trans (List.prefix_append r.path [c.name])
  · exact Or.inr ⟨c, List.mem_flatMap.mpr ⟨r, hr, hc⟩, List.prefix_refl _, (List.mem_singleton.mp hin).symm⟩

theorem name_mem_path_of_mem_inner (h : Placed n) {q : Node} (hq : q ∈ n.inner) : q.name ∈ q.path := by
  obtain ⟨p, hp, hc⟩ := List.mem_flatMap.mp hq
  rw [h.path_of_mem hp hc]
  simp

/-! ## Distinct paths -/

def branches (n : Node) : List Node := n.compoundChildren.filter (·.hasCompoundChildren)

def NamedApart (n : Node) : Prop := ∀ p ∈ n.reached, (p.branches.map (·.name)).Nodup

def forks (n : Node) : List Node := n.reached.filter (·.hasCompoundChildren)

theorem forks_eq_nil {n : Node} (h : n.hasCompoundChildren = false) : n.forks = [] := by
  rw [forks, reached_eq, compoundChildren_eq_nil h, List.flatMap_nil, List.filter_cons_of_neg (by simp [h])]
  rfl

theorem forks_eq (n : Node) :
    n.forks = (if n.hasCompoundChildren then [n] else []) ++ n.branches.flatMap forks := by
  have hbranches : n.compoundChildren.flatMap forks = n.branches.flatMap forks := by
    unfold branches
    induction n.compoundChildren with
    | nil => rfl
    | cons c r ih =>
      cases hc : c.hasCompoundChildren with
      | false => rw [List.filter_cons_of_neg (by simp [hc]), List.flatMap_cons, forks_eq_nil hc, ih, List.nil_append]
      | true => rw [List.filter_cons_of_pos hc, List.flatMap_cons, List.flatMap_cons, ih]
  have hfilter : n.forks = [n].filter (·.hasCompoundChildren) ++ n.compoundChildren.flatMap forks := by
    unfold forks
    rw [reached_eq, ← List.singleton_append, List.filter_append, List.filter_flatMap]
  rw [hfilter, hbranches, List.filter_singleton, cond_eq_ite]

theorem mem_branches {n b : Node} : b ∈ n.branches ↔ b ∈ n.compoundChildren ∧ b.hasCompoundChildren = true :=
  List.mem_filter

theorem mem_children_of_mem_branches {n b : Node} (h : b ∈ n.branches) : b ∈ n.children :=
  (mem_compoundChildren.mp (mem_branches.mp h).1).1

theorem namedApart_iff (n : Node) :
    NamedApart n ↔ (n.branches.map (·.name)).Nodup ∧ ∀ b ∈ n.branches, NamedApart b := by
  constructor
  · intro h
    exact ⟨h n (self_mem_reached n), fun b hb p hp => h p (mem_reached.mpr (Or.inr ⟨b, (mem_branches.mp hb).1, hp⟩))⟩
  · rintro ⟨hn, hb⟩ p hp
    rcases mem_reached.mp hp with rfl | ⟨c, hc, hp⟩
    · exact hn
    · cases hcc : c.hasCompoundChildren with
      | true => exact hb c (mem_branches.mpr ⟨hc, hcc⟩) p hp
      | false =>
        -- below `c` there is nothing that could share a name
        rw [reached_eq, compoundChildren_eq_nil hcc, List.flatMap_nil, List.mem_singleton] at hp
        subst hp
        rw [branches, compoundChildren_eq_nil hcc]
        exact List.nodup_nil

/-- Below a branch all paths start with the branch's path. -/
theorem Placed.prefix_of_mem_forks (h : Placed n) {b p : Node} (hb : b ∈ n.branches) (hp : p ∈ b.forks) :
    n.path ++ [b.name] <+: p.path := by
  have hchild := mem_children_of_mem_branches hb
  rw [← h.here b hchild]
  exact Placed.prefix_of_mem (h.child b hchild) (List.mem_filter.mp hp).1

/-- Two branches have a path in common exactly when they have the same name. -/
theorem disjoint_forks_iff (h : Placed n) {b c : Node} (hb : b ∈ n.branches) (hc : c ∈ n.branches) :
    List.Disjoint (b.forks.map (·.path)) (c.forks.map (·.path)) ↔ b.name ≠ c.name := by
  constructor
  · intro hdisjoint hname
    have hpath : ∀ d ∈ n.branches, d.path = n.path ++ [d.name] := fun d hd =>
      h.here d (mem_children_of_mem_branches hd)
    have hmem : ∀ d ∈ n.branches, d.path ∈ d.forks.map (·.path) := fun d hd =>
      List.mem_map_of_mem (List.mem_filter.mpr ⟨self_mem_reached d, (mem_branches.mp hd).2⟩)
    have hsame : b.path = c.path := by
      rw [hpath b hb, hpath c hc, hname]
    exact hdisjoint (hmem b hb) (hsame ▸ hmem c hc)
  · intro hname path hpb hpc
    obtain ⟨p, hp, rfl⟩ := List.mem_map.mp hpb
    obtain ⟨q, hq, hqp⟩ := List.mem_map.mp hpc
    have hpre := h.prefix_of_mem_forks hb hp
    have hqre : n.path ++ [c.name] <+: p.path := hqp ▸ h.prefix_of_mem_forks hc hq
    have hlists := List.prefix_of_prefix_length_le hpre hqre (by simp)
    rw [List.prefix_append_right_inj] at hlists
    exact hname (by simpa using hlists)

/-- The paths are distinct exactly when siblings are told apart by their names. -/
theorem nodup_paths_iff (h : Placed n) : (n.forks.map (·.path)).Nodup ↔ NamedApart n := by
  induction n using induction with
  | step n ih =>
    have hbelow : ∀ b ∈ n.branches, (b.forks.map (·.path)).Nodup ↔ NamedApart b := fun b hb =>
      have hchild := mem_children_of_mem_branches hb
      ih b hchild (h.child b hchild)
    have hapart : n.branches.Pairwise (Function.onFun List.Disjoint fun b => b.forks.map (·.path)) ↔
        (n.branches.map (·.name)).Nodup := by
      rw [List.Nodup, List.pairwise_map]
      exact List.Pairwise.iff_of_mem fun hb hc => disjoint_forks_iff h hb hc
    have hown : ∀ p ∈ n.branches.flatMap forks, n.path ≠ p.path := by
      intro p hp he
      obtain ⟨b, hb, hp⟩ := List.mem_flatMap.mp hp
      have hlength := (h.prefix_of_mem_forks hb hp).length_le
      rw [← he, List.length_append, List.length_singleton] at hlength
      omega
    rw [namedApart_iff, forks_eq, List.map_append, List.nodup_append, List.map_flatMap, List.nodup_flatMap, hapart]
    constructor
    · rintro ⟨-, ⟨hnodup, hnames⟩, -⟩
      exact ⟨hnames, fun b hb => (hbelow b hb).mp (hnodup b hb)⟩
    · rintro ⟨hnames, hnodup⟩
      refine ⟨?_, ⟨fun b hb => (hbelow b hb).mpr (hnodup b hb), hnames⟩, ?_⟩
      · split
        · exact List.nodup_singleton _
        · exact List.nodup_nil
      · intro path hpath q hq
        rw [← List.map_flatMap] at hq
        obtain ⟨p, hp, rfl⟩ := List.mem_map.mp hq
        split at hpath
        · rw [List.map_singleton, List.mem_singleton] at hpath
          rw [hpath]
          exact hown p hp
        · cases hpath

/-! ## Siblings that the check tells apart -/

def ElementsApart (n : Node) : Prop :=
  ∀ p ∈ n.reached, p.branches.Pairwise fun b c => (b.isElement = true ∨ c.isElement = true) → b.name ≠ c.name

instance (n : Node) : Decidable (ElementsApart n) :=
  inferInstanceAs (Decidable (∀ p ∈ n.reached, _))

/-- In an accepted tree names can only be shared with array elements. -/
theorem namedApart_iff_elementsApart (hnamed : Everywhere Named n) (hc : n.isCompound = true) (hv : violation? n = none) :
    NamedApart n ↔ ElementsApart n := by
  refine forall₂_congr fun p hp => ?_
  have hsub : p.branches.Sublist p.children := List.filter_sublist.trans List.filter_sublist
  have hproperties : p.branches.Pairwise fun b c => b.property ≠ c.property :=
    List.pairwise_map.mp ((hsub.map _).nodup (siblings_of_mem_reached hc hv hp).properties)
  have hname : ∀ b ∈ p.branches, b.isElement = false → b.name = b.property := fun b hb =>
    ((Everywhere.reached hnamed p hp).child b (hsub.subset hb)).here.others
  rw [List.Nodup, List.pairwise_map]
  constructor
  · intro h
    refine h.imp ?_
    intro b c hbc _
    exact hbc
  · intro h
    refine (hproperties.and h).imp_of_mem fun {b c} hb hc ⟨hproperty, helements⟩ => ?_
    cases hbe : b.isElement with
    | true => exact helements (Or.inl hbe)
    | false =>
      cases hce : c.isElement with
      | true => exact helements (Or.inr hce)
      | false =>
        rw [hname b hb hbe, hname c hc hce]
        exact hproperty

end PlotTypes.Schema.Node
