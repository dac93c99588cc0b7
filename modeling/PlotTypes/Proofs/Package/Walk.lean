/-
  PlotTypes.Proofs.Package.Walk — the report of a whole walk, read off the list of reached
  nodes.

  The walk is a recursion over the tree that joins runs. `visit_eq` turns it into one run
  for each reached node, joined in pre-order; everything a walk leaves follows from what
  one node leaves (`report_moduleRun`).
  - `report_visit`: the units are those of `madeModules`, the failures those of the nodes
    whose module failed, both in the order of the reached nodes.
  - `report_generate_of_isRoot`: at a root one more unit comes last, the facade.
  - `failures_eq_nil_iff`: nothing fails exactly when the top node is a root and every
    reached node's module is made.
  - `report_of_no_failures`, `classes_madeModules`: what is in the files then.
-/

import PlotTypes.Package.Report
import PlotTypes.Proofs.Package.Class
import PlotTypes.Proofs.Schema.Reading

namespace PlotTypes.Package

open PlotTypes.Python PlotTypes.Schema

/-! ## Loaded trees -/

theorem load_ok_iff {text : String} {n : Node} :
    load text = .ok n ↔
      ∃ document, Json.read text = .ok document ∧ ofJson document = .ok n ∧ validate n = .ok () := by
  show (ofText text >>= fun m => validate m >>= fun _ => pure m) = .ok n ↔ _
  simp only [bind_ok_iff, ofText_ok_iff]
  constructor
  · rintro ⟨m, ⟨document, hread, hm⟩, _, hvalid, hmn⟩
    cases hmn
    exact ⟨document, hread, hm, hvalid⟩
  · rintro ⟨document, hread, hn, hvalid⟩
    exact ⟨n, ⟨document, hread, hn⟩, (), hvalid, rfl⟩

theorem generateFromText_of_load {s : Settings} {text : String} {n : Node} (h : load text = .ok n) :
    generateFromText s text = .ok (generate s n) := by
  rw [generateFromText, h]

/-! ## Joined runs -/

namespace Run

def concat (rs : List Run) : Run := rs.foldr append empty

@[simp] theorem concat_cons (r : Run) (rs : List Run) : concat (r :: rs) = r.append (concat rs) := rfl

theorem empty_append (r : Run) : empty.append r = r := rfl

theorem append_assoc (a b c : Run) : (a.append b).append c = a.append (b.append c) := by
  simp only [append, Report.append, List.append_assoc]

theorem concat_append (as bs : List Run) : concat (as ++ bs) = (concat as).append (concat bs) := by
  induction as with
  | nil => exact (empty_append _).symm
  | cons a as ih => rw [List.cons_append, concat_cons, ih, concat_cons, append_assoc]

theorem report_concat (rs : List Run) :
    (concat rs).report = ⟨rs.flatMap (·.report.units), rs.flatMap (·.report.failures)⟩ := by
  induction rs with
  | nil => rfl
  | cons r rs ih =>
    show r.report.append (concat rs).report = _
    rw [ih]
    rfl

theorem events_concat (rs : List Run) : (concat rs).events = rs.flatMap (·.events) := by
  induction rs with
  | nil => rfl
  | cons r rs ih =>
    show r.events ++ (concat rs).events = _
    rw [ih, List.flatMap_cons]

end Run

/-! ## The runs of the reached nodes -/

mutual

theorem visit_eq (s : Settings) (n : Node) : visit s n = .concat (n.reached.map (moduleRun s)) := by
  cases n with
  | mk a children => rw [visit, visitAll_eq, Node.reached, List.map_cons, Run.concat_cons]

theorem visitAll_eq (s : Settings) (ns : List Node) :
    visitAll s ns = .concat ((Node.reachedAll ns).map (moduleRun s)) := by
  cases ns with
  | nil => rfl
  | cons n r =>
    rw [visitAll, Node.reachedAll]
    by_cases hc : n.isCompound = true
    · rw [if_pos hc, if_pos hc, visit_eq s n, visitAll_eq s r, List.map_append, Run.concat_append]
    · rw [if_neg hc, if_neg hc, visitAll_eq s r]

end

/-! ## What one node leaves -/

def made? (s : Settings) (n : Node) : Option (Node × ModuleDecl) :=
  match (moduleOf s n).result with
  | .ok (some m) => some (n, m)
  | _ => none

def failure? (s : Settings) (n : Node) : Option Failure :=
  match (moduleOf s n).result with
  | .error e => some ⟨n.displayPath, e⟩
  | .ok _ => none

def unitOf (s : Settings) (e : Node × ModuleDecl) : SourceUnit := ⟨modulePath s e.1, e.2.source⟩

theorem made?_eq_some {s : Settings} {n p : Node} {m : ModuleDecl} :
    made? s n = some (p, m) ↔ n = p ∧ (moduleOf s n).result = .ok (some m) := by
  unfold made?
  split
  · rename_i m' h
    simp [h]
  · rename_i h
    simp only [reduceCtorEq, false_iff, not_and]
    intro _ hm
    exact h m hm

theorem failure?_eq_none {s : Settings} {n : Node} : failure? s n = none ↔ ∃ m, (moduleOf s n).result = .ok m := by
  unfold failure?
  split
  · rename_i h
    simp [h]
  · rename_i m h
    simp [h]

/-- One node leaves its unit, or its failure, or nothing. -/
theorem report_moduleRun (s : Settings) (n : Node) :
    (moduleRun s n).report = ⟨((made? s n).map (unitOf s)).toList, (failure? s n).toList⟩ := by
  simp only [moduleRun, made?, failure?]
  cases (moduleOf s n).result with
  | error e => rfl
  | ok made =>
    cases made with
    | none => rfl
    | some m => rfl

/-! ## What a walk leaves -/

def madeModules (s : Settings) (n : Node) : List (Node × ModuleDecl) := n.reached.filterMap (made? s)

theorem mem_madeModules {s : Settings} {n p : Node} {m : ModuleDecl} :
    (p, m) ∈ madeModules s n ↔ p ∈ n.reached ∧ (moduleOf s p).result = .ok (some m) := by
  simp only [madeModules, List.mem_filterMap, made?_eq_some]
  constructor
  · rintro ⟨q, hq, rfl, hm⟩
    exact ⟨hq, hm⟩
  · rintro ⟨hp, hm⟩
    exact ⟨p, hp, rfl, hm⟩

theorem report_visit (s : Settings) (n : Node) :
    (visit s n).report = ⟨(madeModules s n).map (unitOf s), n.reached.filterMap (failure? s)⟩ := by
  rw [visit_eq, Run.report_concat, madeModules, List.map_filterMap]
  simp only [List.flatMap_map, report_moduleRun, List.filterMap_eq_flatMap_toList]

/-- At a root the facade is made after all modules. -/
theorem report_generate_of_isRoot (s : Settings) {n : Node} (h : n.isRoot = true) :
    ∃ f, facadeOf s n = .ok f ∧
      (generate s n).report =
        ⟨(madeModules s n).map (unitOf s) ++ [⟨facadePath, f.source⟩], n.reached.filterMap (failure? s)⟩ := by
  obtain ⟨f, hf⟩ : ∃ f, facadeOf s n = .ok f := by
    unfold facadeOf
    rw [if_pos h]
    exact ⟨_, rfl⟩
  refine ⟨f, hf, ?_⟩
  show (visit s n).report.append (facadeRun s n).report = _
  rw [report_visit, facadeRun, hf]
  simp [Report.append]

/-- Elsewhere the facade fails. -/
theorem report_generate_of_not_isRoot (s : Settings) {n : Node} (h : n.isRoot = false) :
    (generate s n).report =
      ⟨(madeModules s n).map (unitOf s),
        n.reached.filterMap (failure? s) ++ [⟨n.displayPath, .notRoot n.displayPath⟩]⟩ := by
  have hf : facadeOf s n = .error (.notRoot n.displayPath) := by
    unfold facadeOf
    rw [h]
    rfl
  show (visit s n).report.append (facadeRun s n).report = _
  rw [report_visit, facadeRun, hf]
  simp [Report.append]

theorem failures_eq_nil_iff (s : Settings) (n : Node) :
    (generate s n).report.failures = [] ↔
      n.isRoot = true ∧ ∀ p ∈ n.reached, ∃ m, (moduleOf s p).result = .ok m := by
  cases h : n.isRoot with
  | false => simp [report_generate_of_not_isRoot s h]
  | true =>
    obtain ⟨f, -, hr⟩ := report_generate_of_isRoot s h
    rw [hr]
    simp only [List.filterMap_eq_nil_iff, failure?_eq_none, true_and]

/-- When nothing fails, the report holds the files of the modules, and of the facade after them. -/
theorem report_of_no_failures {s : Settings} {n : Node} (h : (generate s n).report.failures = []) :
    ∃ f, facadeOf s n = .ok f ∧
      (generate s n).report = ⟨(madeModules s n).map (unitOf s) ++ [⟨facadePath, f.source⟩], []⟩ := by
  obtain ⟨f, hf, hr⟩ := report_generate_of_isRoot s ((failures_eq_nil_iff s n).mp h).1
  rw [hr] at h
  have hnone : n.reached.filterMap (failure? s) = [] := h
  exact ⟨f, hf, by rw [hr, hnone]⟩

/-- When nothing fails, every reached node that needs a module has one. -/
theorem exists_mem_madeModules {s : Settings} {n p : Node} (h : (generate s n).report.failures = [])
    (hp : p ∈ n.reached) (hc : p.hasCompoundChildren = true) : ∃ m, (p, m) ∈ madeModules s n := by
  obtain ⟨made, hm⟩ := ((failures_eq_nil_iff s n).mp h).2 p hp
  cases made with
  | none => rw [moduleOf_none_iff.mp hm] at hc; cases hc
  | some m => exact ⟨m, mem_madeModules.mpr ⟨hp, hm⟩⟩

/-- When nothing fails, the modules hold one class for each compound, in the order of `Node.inner`. -/
theorem classes_madeModules {s : Settings} {n : Node} (h : ∀ p ∈ n.reached, ∃ m, (moduleOf s p).result = .ok m) :
    List.Forall₂ (fun c d => (classOf s c).result = .ok d) n.inner ((madeModules s n).flatMap (·.2.classes)) := by
  unfold Node.inner madeModules
  generalize n.reached = ps at h
  induction ps with
  | nil => exact .nil
  | cons p r ih =>
    obtain ⟨made, hm⟩ := h p List.mem_cons_self
    have hr := ih fun q hq => h q (List.mem_cons_of_mem _ hq)
    have hp := classesOf_moduleOf hm
    rw [List.flatMap_cons]
    cases made with
    | none =>
      have hn : made? s p = none := by simp only [made?, hm]
      rw [List.filterMap_cons_none hn, Node.compoundChildren_eq_nil (moduleOf_none_iff.mp hm)]
      exact hr
    | some m =>
      have hs : made? s p = some (p, m) := made?_eq_some.mpr ⟨rfl, hm⟩
      rw [List.filterMap_cons_some hs, List.flatMap_cons]
      exact List.rel_append hp hr

/-- Every made module's file is in the report. -/
theorem unitOf_mem_units {s : Settings} {n : Node} {e : Node × ModuleDecl} (h : e ∈ madeModules s n) :
    unitOf s e ∈ (generate s n).report.units := by
  have hm : unitOf s e ∈ (madeModules s n).map (unitOf s) := List.mem_map_of_mem h
  cases hr : n.isRoot with
  | false => rw [report_generate_of_not_isRoot s hr]; exact hm
  | true =>
    obtain ⟨f, -, hg⟩ := report_generate_of_isRoot s hr
    rw [hg]
    exact List.mem_append_left _ hm

end PlotTypes.Package
