/-
  PlotTypes.Proofs.Package.Entries — the report of a run as one list of entries.

  A report keeps units and failures in two lists, and forgets which came first. Before they
  are parted, a run leaves one list: an entry for each reached node that has compound
  children, in pre-order, and a closing entry for the facade.
  - `accounts_entriesOf`: which entry a node has, and that no other node has one.
  - `entriesOf_eq`: the entries of a child's subtree stand together, and are the same
    whether the walk started above the child or at it.
  - `report_accounts_for_reached`: the report is these entries and the closing one. A node
    whose module failed has its entry like the others, and the nodes below it have theirs.
-/

import PlotTypes.Proofs.Package.Walk

namespace PlotTypes.Package

open PlotTypes.Python PlotTypes.Schema

/-! ## Entries -/

inductive Entry where
  | unit (u : SourceUnit)
  | failure (f : Failure)
  deriving DecidableEq

namespace Entry

def unit? : Entry → Option SourceUnit
  | unit u => some u
  | failure _ => none

def failure? : Entry → Option Failure
  | unit _ => none
  | failure f => some f

end Entry

def Report.ofEntries (es : List Entry) : Report := ⟨es.filterMap Entry.unit?, es.filterMap Entry.failure?⟩

theorem Report.ofEntries_append (as bs : List Entry) : ofEntries (as ++ bs) = (ofEntries as).append (ofEntries bs) := by
  simp only [ofEntries, append, List.filterMap_append]

/-- `e` is the entry of a node: the file of its module, or why the module could not be made. -/
inductive Accounts (s : Settings) (n : Node) : Entry → Prop
  | unit (m : ModuleDecl) : (moduleOf s n).result = .ok (some m) → Accounts s n (.unit ⟨modulePath s n, m.source⟩)
  | failure (e : Error) : (moduleOf s n).result = .error e → Accounts s n (.failure ⟨n.displayPath, e⟩)

/-- `e` closes a run on a node: the facade of a root, or that the node is none. -/
inductive Closes (s : Settings) (n : Node) : Entry → Prop
  | facade (f : FacadeDecl) : n.isRoot = true → facadeOf s n = .ok f → Closes s n (.unit ⟨facadePath, f.source⟩)
  | notRoot : n.isRoot = false → Closes s n (.failure ⟨n.displayPath, .notRoot n.displayPath⟩)

/-! ## The entry of one node -/

def entryOf? (s : Settings) (n : Node) : Option Entry :=
  match (moduleOf s n).result with
  | .ok (some m) => some (.unit ⟨modulePath s n, m.source⟩)
  | .ok none => none
  | .error e => some (.failure ⟨n.displayPath, e⟩)

theorem accounts_of_entryOf? {s : Settings} {n : Node} {e : Entry} (h : entryOf? s n = some e) : Accounts s n e := by
  unfold entryOf? at h
  split at h
  · rename_i m hm
    cases h
    exact .unit m hm
  · cases h
  · rename_i f hf
    cases h
    exact .failure f hf

/-- The nodes without an entry are those without compound children. -/
theorem isSome_entryOf? (s : Settings) (n : Node) : (entryOf? s n).isSome = n.hasCompoundChildren := by
  cases hc : n.hasCompoundChildren with
  | false => simp only [entryOf?, moduleOf_none_iff.mpr hc, Option.isSome_none]
  | true =>
    unfold entryOf?
    split
    · rfl
    · rename_i hm
      rw [moduleOf_none_iff.mp hm] at hc
      cases hc
    · rfl

/-- Parted into units and failures, the entry of a node is its unit and its failure. -/
theorem unit?_entryOf? (s : Settings) (n : Node) : (entryOf? s n).bind Entry.unit? = (made? s n).map (unitOf s) := by
  unfold entryOf? made?
  cases (moduleOf s n).result with
  | error e => rfl
  | ok made =>
    cases made with
    | none => rfl
    | some m => rfl

theorem failure?_entryOf? (s : Settings) (n : Node) : (entryOf? s n).bind Entry.failure? = failure? s n := by
  unfold entryOf? failure?
  cases (moduleOf s n).result with
  | error e => rfl
  | ok made =>
    cases made with
    | none => rfl
    | some m => rfl

/-! ## The entries of a walk -/

def entriesOf (s : Settings) (n : Node) : List Entry := n.reached.filterMap (entryOf? s)

theorem accounts_entriesOf (s : Settings) (n : Node) :
    List.Forall₂ (Accounts s) (n.reached.filter (·.hasCompoundChildren)) (entriesOf s n) :=
  forall₂_filter_filterMap (isSome_entryOf? s) (fun _ _ => accounts_of_entryOf?) n.reached

/-- A walk leaves the entry of its node, and then what walks on the compound children leave, one after another. -/
theorem entriesOf_eq (s : Settings) (n : Node) :
    entriesOf s n = (entryOf? s n).toList ++ n.compoundChildren.flatMap (entriesOf s) := by
  unfold entriesOf
  rw [Node.reached_eq, List.filterMap_cons, List.filterMap_flatMap]
  cases entryOf? s n with
  | none => rfl
  | some e => rfl

theorem ofEntries_entriesOf (s : Settings) (n : Node) :
    .ofEntries (entriesOf s n) = (⟨(madeModules s n).map (unitOf s), n.reached.filterMap (failure? s)⟩ : Report) := by
  simp only [Report.ofEntries, entriesOf, madeModules, List.filterMap_filterMap, List.map_filterMap, unit?_entryOf?,
    failure?_entryOf?]

/-- A run leaves the entries of its walk, and one more after them. -/
theorem report_generate (s : Settings) (n : Node) :
    ∃ last, Closes s n last ∧ (generate s n).report = .ofEntries (entriesOf s n ++ [last]) := by
  cases h : n.isRoot with
  | true =>
    obtain ⟨f, hf, hr⟩ := report_generate_of_isRoot s h
    refine ⟨_, .facade f h hf, ?_⟩
    rw [hr, Report.ofEntries_append, ofEntries_entriesOf]
    simp [Report.append, Report.ofEntries, Entry.unit?, Entry.failure?]
  | false =>
    refine ⟨_, .notRoot h, ?_⟩
    rw [report_generate_of_not_isRoot s h, Report.ofEntries_append, ofEntries_entriesOf]
    simp [Report.append, Report.ofEntries, Entry.unit?, Entry.failure?]

/-- The nodes of a walk are those reached through compound children, in pre-order. Each one that has compound children
    has one entry in the report and the others have none; a child's subtree has the entries of a run on the child,
    together and in place; and one entry closes the report. -/
theorem report_accounts_for_reached (s : Settings) (n : Node) :
    (∀ p, p ∈ n.reached ↔ Relation.ReflTransGen (fun q c => c ∈ q.compoundChildren) n p) ∧
      n.reached = n :: n.compoundChildren.flatMap Node.reached ∧
        List.Forall₂ (Accounts s) (n.reached.filter (·.hasCompoundChildren)) (entriesOf s n) ∧
          entriesOf s n = (entryOf? s n).toList ++ n.compoundChildren.flatMap (entriesOf s) ∧
            ∃ last, Closes s n last ∧ (generate s n).report = .ofEntries (entriesOf s n ++ [last]) :=
  ⟨Node.mem_reached_iff n, Node.reached_eq n, accounts_entriesOf s n, entriesOf_eq s n, report_generate s n⟩

end PlotTypes.Package
