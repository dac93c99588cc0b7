/-
  PlotTypes.Proofs.Schema.FirstViolation — what the check of a tree accepts, and which of
  several violations it reports.

  The check carries two lists of names along, stops at the first violation and returns its
  error, all at once. Here the three are apart. `checks` is the order: a node itself, and then
  child by child the rules for its names and all checks below it. `Check.Fails` says when a
  check fails, with the children before a child instead of names carried along, and
  `Check.error` what is reported then, and where.
  - `Reports.append`, `Reports.cons`: parts of the check against parts of the order.
  - `reports_violation?`: the error of a tree is that of the first of its checks that fails.
  - `violation?_eq_none_iff_visited`: without the order, a tree is accepted when every node
    that is reached through compounds is acceptable by itself.
-/

import PlotTypes.Proofs.First
import PlotTypes.Proofs.Schema.Validity

namespace PlotTypes.Schema

open PlotTypes.Python

/-! ## Checks -/

/-- The rules for the names of a child, in their order. -/
inductive NameRule where
  | newProperty
  | notReceiver
  | newParameter
  | propertyIdentifier
  | parameterIdentifier
  deriving DecidableEq, Repr

def NameRule.all : List NameRule :=
  [.newProperty, .notReceiver, .newParameter, .propertyIdentifier, .parameterIdentifier]

inductive Check where
  | itself (n : Node)
  | name (rule : NameRule) (owner : Node) (before : List Node) (n : Node)

namespace Check

def Fails : Check → Prop
  | itself n => n.isCompound = false ∧ n.tag = none ∨ n.isCompound = true ∧ n.isRoot = false ∧ n.children = []
  | name .newProperty _ before n => ∃ b ∈ before, b.property = n.property
  | name .notReceiver _ _ n => n.parameter = receiver
  | name .newParameter _ before n => ∃ b ∈ before, b.parameter = n.parameter
  | name .propertyIdentifier _ _ n => isIdentifier n.property = false
  | name .parameterIdentifier _ _ n => isIdentifier n.parameter = false

/-- A repetition is reported at the owner, everything else at the node. -/
def error : Check → Error
  | itself n => .invalid n.displayPath (if n.isCompound then .empty else .untyped)
  | name .newProperty owner _ n => .invalid owner.displayPath (.repeatedProperty n.property)
  | name .notReceiver _ _ n => .invalid n.displayPath .reservedParameter
  | name .newParameter owner _ n => .invalid owner.displayPath (.repeatedParameter n.property n.parameter)
  | name .propertyIdentifier _ _ n => .invalid n.displayPath (.notIdentifier n.property)
  | name .parameterIdentifier _ _ n => .invalid n.displayPath (.notIdentifier n.parameter)

end Check

mutual

def checks (n : Node) : List Check :=
  match n with
  | ⟨a, children⟩ => .itself ⟨a, children⟩ :: if a.isCompound then childChecks ⟨a, children⟩ [] children else []

def childChecks (owner : Node) (before : List Node) : List Node → List Check
  | [] => []
  | n :: r => NameRule.all.map (.name · owner before n) ++ checks n ++ childChecks owner (before ++ [n]) r

end

theorem checks_eq (n : Node) :
    checks n = .itself n :: if n.isCompound then childChecks n [] n.children else [] := by
  cases n with
  | mk a children => rfl

/-! ## The first check that fails -/

/-- A part of the check gives the error of the first that fails among `ks`, and none if none fails. -/
def Reports (found : Option Error) (ks : List Check) : Prop :=
  ∀ e, found = some e ↔ ∃ k, First Check.Fails ks k ∧ k.error = e

theorem Reports.none_iff {found : Option Error} {ks : List Check} (h : Reports found ks) :
    found = none ↔ ∀ k ∈ ks, ¬k.Fails := by
  constructor
  · intro hnone k hk hfails
    obtain ⟨first, hfirst⟩ := exists_first_iff.mpr ⟨k, hk, hfails⟩
    have hsome := (h first.error).mpr ⟨first, hfirst, rfl⟩
    rw [hnone] at hsome
    cases hsome
  · intro hall
    cases hfound : found with
    | none => rfl
    | some e =>
      obtain ⟨k, hk, -⟩ := (h e).mp hfound
      exact absurd hk.holds (hall k hk.mem)

theorem Reports.nil : Reports none [] := by
  intro e
  simp [not_first_nil]

theorem Reports.append {first second : Option Error} {ks js : List Check} (h : Reports first ks)
    (h' : Reports second js) : Reports (first.or second) (ks ++ js) := by
  intro e
  simp only [first_append_iff]
  cases hfirst : first with
  | some e' =>
    obtain ⟨k, hk, he⟩ := (h e').mp hfirst
    have hfails : ¬∀ k ∈ ks, ¬k.Fails := fun hall => hall k hk.mem hk.holds
    rw [Option.some_or, ← hfirst, h e]
    simp only [hfails, false_and, or_false]
  | none =>
    have hnone := h.none_iff.mp hfirst
    have hno : ∀ k, ¬First Check.Fails ks k := fun k hk => hnone k hk.mem hk.holds
    rw [Option.none_or, h' e]
    simp only [hno, false_or, and_iff_right hnone]

/-- One guard stands for one check. -/
theorem Reports.cons {c : Prop} [Decidable c] {k : Check} {e : Error} {rest : Option Error} {ks : List Check}
    (hc : c ↔ k.Fails) (he : k.error = e) (h : Reports rest ks) : Reports (if c then some e else rest) (k :: ks) := by
  intro e'
  simp only [first_cons_iff]
  by_cases hfails : k.Fails
  · rw [if_pos (hc.mpr hfails)]
    simp [hfails, he]
  · rw [if_neg (hc.not.mpr hfails), h e']
    simp [hfails]

theorem reports_ownError? (n : Node) : Reports (ownError? n) [.itself n] := by
  unfold ownError?
  cases hc : n.isCompound with
  | false =>
    refine .cons ?_ ?_ .nil
    · simp [Check.Fails, hc]
    · simp [Check.error, hc]
  | true =>
    refine .cons ?_ ?_ .nil
    · simp [Check.Fails, hc, and_comm]
    · simp [Check.error, hc]

def Carries (names : List String) (before : List Node) (nameOf : Node → String) : Prop :=
  ∀ name, name ∈ names ↔ ∃ b ∈ before, nameOf b = name

theorem Carries.snoc {names : List String} {before : List Node} {nameOf : Node → String}
    (h : Carries names before nameOf) (n : Node) : Carries (nameOf n :: names) (before ++ [n]) nameOf := by
  intro name
  rw [List.mem_cons, h name]
  simp only [List.mem_append, List.mem_singleton]
  constructor
  · rintro (rfl | ⟨b, hb, rfl⟩)
    · exact ⟨n, .inr rfl, rfl⟩
    · exact ⟨b, .inl hb, rfl⟩
  · rintro ⟨b, hb | rfl, rfl⟩
    · exact .inr ⟨b, hb, rfl⟩
    · exact .inl rfl

theorem reports_childError? {owner n : Node} {properties parameters : List String} {before : List Node}
    (hp : Carries properties before (·.property)) (hq : Carries parameters before (·.parameter)) :
    Reports (childError? owner n properties parameters) (NameRule.all.map (.name · owner before n)) := by
  unfold childError?
  refine .cons ?_ rfl (.cons ?_ rfl (.cons ?_ rfl (.cons ?_ rfl (.cons ?_ rfl .nil))))
  · rw [List.contains_iff_mem]
    exact hp n.property
  · exact beq_iff_eq
  · rw [List.contains_iff_mem]
    exact hq n.parameter
  · simp [Check.Fails]
  · simp [Check.Fails]

mutual

theorem reports_violation? (n : Node) : Reports (violation? n) (checks n) := by
  cases n with
  | mk a children =>
    rw [violation?, checks_eq, ← List.singleton_append]
    refine (reports_ownError? ⟨a, children⟩).append ?_
    by_cases hc : a.isCompound = true
    · rw [if_pos hc, if_pos hc]
      have hnone : ∀ nameOf, Carries [] [] nameOf := fun nameOf name => by simp
      exact reports_childViolation? ⟨a, children⟩ (hnone _) (hnone _) children
    · rw [if_neg hc, if_neg hc]
      exact .nil

theorem reports_childViolation? (owner : Node) {properties parameters : List String} {before : List Node}
    (hp : Carries properties before (·.property)) (hq : Carries parameters before (·.parameter)) (ns : List Node) :
    Reports (childViolation? owner properties parameters ns) (childChecks owner before ns) := by
  cases ns with
  | nil => exact .nil
  | cons n r =>
    rw [childViolation?, childChecks, List.append_assoc]
    refine (reports_childError? hp hq).append (Reports.append (reports_violation? n) ?_)
    exact reports_childViolation? owner (hp.snoc n) (hq.snoc n) r

end

/-! ## Accepted trees -/

structure Acceptable (p : Node) : Prop where
  typed : p.isCompound = false → p.tag ≠ none
  inhabited : p.isCompound = true → p.isRoot = false → p.children ≠ []
  siblings : p.isCompound = true → Siblings p.children

/-- `p` is reached from `n` through compounds; it need not be one itself. -/
def Visited (n p : Node) : Prop := Relation.ReflTransGen (fun q c => q.isCompound = true ∧ c ∈ q.children) n p

theorem acceptable_iff {n : Node} :
    Acceptable n ↔ ownError? n = none ∧ (n.isCompound = true → Siblings n.children) := by
  rw [ownError?_eq_none_iff, Option.isSome_iff_ne_none]
  constructor
  · rintro ⟨htyped, hinhabited, hsiblings⟩
    exact ⟨⟨htyped, hinhabited⟩, hsiblings⟩
  · rintro ⟨⟨htyped, hinhabited⟩, hsiblings⟩
    exact ⟨htyped, hinhabited, hsiblings⟩

theorem violation?_eq_none_iff_visited {n : Node} : violation? n = none ↔ ∀ p, Visited n p → Acceptable p := by
  induction n using Node.induction with
  | step n ih =>
    rw [violation?_eq_none_iff]
    constructor
    · rintro ⟨hown, hbelow⟩ p hp
      rcases Relation.ReflTransGen.cases_head hp with rfl | ⟨c, ⟨hcompound, hc⟩, hcp⟩
      · exact acceptable_iff.mpr ⟨hown, fun h => (hbelow h).1⟩
      · exact (ih c hc).mp ((hbelow hcompound).2 c hc) p hcp
    · intro hall
      obtain ⟨hown, hsiblings⟩ := acceptable_iff.mp (hall n .refl)
      exact ⟨hown, fun h => ⟨hsiblings h, fun c hc => (ih c hc).mpr fun p hp => hall p (.head ⟨h, hc⟩ hp)⟩⟩

/-- The check accepts a tree exactly when each visited node is acceptable, and otherwise returns the error of the first
    check that fails. -/
theorem validate_reports_first_violation (n : Node) :
    (validate n = .ok () ↔ ∀ p, Visited n p → Acceptable p) ∧
      ∀ e, validate n = .error e ↔ ∃ k, First Check.Fails (checks n) k ∧ k.error = e := by
  refine ⟨?_, fun e => ?_⟩
  · rw [validate_ok_iff, violation?_eq_none_iff_visited]
  · rw [validate_error_iff]
    exact reports_violation? n e

/-- What is wrong below the first trace is found before the second one repeats its name. -/
example : validate (.root [.compound "bar" [.leaf "x-y" "any"], .compound "bar" [.leaf "x" "any"]]) =
    .error (.invalid "bar.x-y" (.notIdentifier "x-y")) := by
  rfl

end PlotTypes.Schema
