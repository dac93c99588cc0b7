/-
  PlotTypes.Proofs.Python.Running — what happens when a rendered constructor runs.

  A statement of the body stores under a key of a mapping, or sets a member. Setting a member
  that is a property of the class runs the setter of the property, and the setter of a nested
  property reads its shadow member first. `run` goes through statements in order and notes each
  run of a setter with what it finds on the instance. Whether a statement returns is left open
  (`returns`), and one that does not return ends the constructor there. Two things are behind
  this: the base classes, which are not part of the package, and the names that a statement
  looks up, `super` and the local names of validators, which a parameter of the same name hides.
  - `code_bodyLines`: besides blanks and comments, the body of a constructor is the initializer
    of the base class and the lines of its statements, in order.
  - `accessesSlot`: a getter reads the slot that the setter stores in.
  - `run_plain_append`, `run_assignments`: a part that runs no setter, and one that runs setters
    only.
  - `execute_of_twoPhase`: what a constructor that prepares before it assigns comes to.
-/

import Mathlib.Data.List.Count
import PlotTypes.Proofs.Pairing
import PlotTypes.Proofs.Python.Storing

namespace PlotTypes.Python

/-! ## Statements -/

inductive Statement where
  | entry (mapping key value : String)
  | member (name value : String)
  deriving DecidableEq, Repr

def Statement.line : Statement → String
  | entry mapping key value => inBody ("self." ++ mapping ++ "[" ++ stringLiteral key ++ "] = " ++ value)
  | member name value => inBody ("self." ++ name ++ " = " ++ value)

def Statement.value : Statement → String
  | entry _ _ value => value
  | member _ value => value

def Registration.statement (r : Registration) : Statement :=
  .entry "_validators" r.property (r.moduleAlias ++ "." ++ r.className ++ "()")

def preparation (property : String) : Statement := .member (shadowName property) "None"

def Assignment.statement (a : Assignment) : Statement := .member a.property a.parameter

def setUp (k : Constructor) : List Statement :=
  .entry "_data" "type" (stringLiteral k.typeName) :: k.registrations.map Registration.statement ++
    k.prepared.map preparation

def statements (k : Constructor) : List Statement := setUp k ++ k.assigned.map Assignment.statement

/-! ## Their lines -/

def isCode (line : String) : Bool :=
  match line.toList.dropWhile (· == ' ') with
  | [] => false
  | c :: _ => c != '#'

theorem dropWhile_inBody (s : String) : (inBody s).toList.dropWhile (· == ' ') = s.toList.dropWhile (· == ' ') := by
  rw [inBody, String.toList_append, List.dropWhile_append_of_pos blanks_bodyIndent]

theorem isCode_inBody {c : Char} {s : String} {r : List Char} (hs : s.toList = c :: r) (hblank : c ≠ ' ')
    (hcomment : c ≠ '#') : isCode (inBody s) = true := by
  rw [isCode, dropWhile_inBody, hs, List.dropWhile_cons_of_neg (by simpa using hblank)]
  simpa using hcomment

theorem isCode_line (st : Statement) : isCode st.line = true := by
  cases st with
  | entry mapping key value =>
    refine isCode_inBody (c := 's') (r := "elf.".toList ++ (mapping ++ "[" ++ stringLiteral key ++ "] = " ++ value).toList)
      ?_ (by decide) (by decide)
    simp only [String.toList_append, List.append_assoc]
    rfl
  | member name value =>
    refine isCode_inBody (c := 's') (r := "elf.".toList ++ (name ++ " = " ++ value).toList) ?_ (by decide) (by decide)
    simp only [String.toList_append, List.append_assoc]
    rfl

theorem isCode_superLine (k : Constructor) : isCode (superLine k) = true := by
  refine isCode_inBody (c := 's') (r := "uper().__init__(".toList ++ (stringLiteral k.plotName ++ ")").toList) ?_
    (by decide) (by decide)
  simp only [String.toList_append, List.append_assoc]
  rfl

theorem line_entry_type (typeName : String) :
    (Statement.entry "_data" "type" (stringLiteral typeName)).line = typeLine typeName := by
  have hliteral : (stringLiteral "type").toList = '\'' :: ("type".toList ++ ['\'']) := toList_stringLiteral (by decide)
  refine String.toList_inj.mp ?_
  simp only [Statement.line, typeLine, inBody, String.toList_append, hliteral]
  rfl

theorem line_registration (r : Registration) : r.statement.line = registrationLine r := by
  simp only [Registration.statement, Statement.line, registrationLine, String.append_assoc]
  rfl

theorem line_preparation (property : String) : (preparation property).line = preparationLine property := by
  simp only [preparation, Statement.line, preparationLine, String.append_assoc]
  rfl

theorem line_assignment (a : Assignment) : a.statement.line = assignmentLine a := rfl

theorem filter_isCode_map_line (sts : List Statement) : (sts.map Statement.line).filter isCode = sts.map Statement.line :=
  List.filter_eq_self.mpr (List.forall_mem_map.mpr fun st _ => isCode_line st)

theorem isCode_comment (s : String) : isCode (inBody ("# " ++ s)) = false := by
  rw [isCode, dropWhile_inBody, String.toList_append]
  rfl

theorem filter_isCode_heading (title : String) : (heading title).filter isCode = [] := by
  simp [heading, isCode_comment]

theorem filter_isCode_preparationLines (prepared : List String) :
    (preparationLines prepared).filter isCode = (prepared.map preparation).map Statement.line := by
  have hlines : (prepared.map preparation).map Statement.line = prepared.map preparationLine := by
    rw [List.map_map]
    exact List.map_congr_left fun p _ => line_preparation p
  have hblank : isCode "" = false := by decide
  unfold preparationLines
  by_cases hempty : prepared.isEmpty = true
  · rw [if_pos hempty, List.isEmpty_iff.mp hempty]
    rfl
  · rw [if_neg hempty, List.filter_append, List.filter_cons_of_neg (by simp [hblank]), filter_isCode_heading,
      List.nil_append, ← hlines, filter_isCode_map_line]

/-- A reader who skips blanks and comments finds these statements in this order. -/
theorem code_bodyLines (k : Constructor) :
    (bodyLines k).filter isCode = superLine k :: (statements k).map Statement.line := by
  have hblank : isCode "" = false := by decide
  have hregistrations : k.registrations.map registrationLine =
      (k.registrations.map Registration.statement).map Statement.line := by
    rw [List.map_map]
    exact List.map_congr_left fun r _ => (line_registration r).symm
  have hassignments : k.assigned.map assignmentLine = (k.assigned.map Assignment.statement).map Statement.line := by
    rw [List.map_map]
    exact List.map_congr_left fun a _ => (line_assignment a).symm
  have hsuper : [superLine k, ""].filter isCode = [superLine k] := by simp [isCode_superLine, hblank]
  have htype : [typeLine k.typeName, ""].filter isCode =
      [(Statement.entry "_data" "type" (stringLiteral k.typeName)).line] := by
    rw [← line_entry_type]
    simp [isCode_line, hblank]
  have hempty : [""].filter isCode = [] := by simp [hblank]
  rw [bodyLines, hregistrations, hassignments]
  simp only [List.filter_append, hsuper, htype, hempty, filter_isCode_heading, filter_isCode_map_line,
    filter_isCode_preparationLines, List.append_nil, statements, setUp, List.map_append, List.map_cons]
  simp

/-! ## Slots -/

inductive Slot where
  /-- A member of its own. -/
  | member (name : String)
  /-- A key of the data mapping. -/
  | entry (key : String)
  deriving DecidableEq, Repr

def slotOf (p : Property) : Slot :=
  match p.kind with
  | .nested => .member (shadowName p.name)
  | .simple | .sequence => .entry p.name

def Slot.read : Slot → String
  | member name => "self." ++ name
  | entry key => "self._data[" ++ stringLiteral key ++ "]"

/-- How the value of a property is written to its slot. A member is handed its old value, and an entry is left to the
    method that writes under the key it is given. -/
def Slot.write (property : String) : Slot → String
  | member name =>
    (member name).read ++ " = self._set_compound_prop(" ++ stringLiteral property ++ ", val, " ++ (member name).read ++ ")"
  | entry key => "self._set_prop(" ++ stringLiteral key ++ ", val)"

def slotAt? (member : String) : List Char → Option Slot
  | [] => some (.member member)
  | '[' :: '\'' :: rest => if member = "_data" then some (.entry (String.ofList (splitWord rest).1)) else none
  | _ => none

def returned? (line : String) : Option Slot :=
  (line.toList.dropPrefix? (inBody "return self.").toList).bind fun rest =>
    slotAt? (String.ofList (splitWord rest).1) (splitWord rest).2

def Store.slot? : Store → Option Slot
  | member name => some (.member name)
  | call method key => if method = "_set_prop" then some (.entry key) else none
  | entry mapping key => if mapping = "_data" then some (.entry key) else none

/-- A getter and a setter that are about one and the same slot, and that read so where names are words. -/
structure AccessesSlot (p : Property) : Prop where
  getter : getterLine p = inBody ("return " ++ (slotOf p).read)
  setter : setterLine p = inBody ((slotOf p).write p.name)
  returned : WordText p.name → returned? (getterLine p) = some (slotOf p)
  stored : WordText p.name → (storeOf? (setterLine p)).bind Store.slot? = some (slotOf p)

theorem returned?_self {line : String} {rest : List Char}
    (hline : line.toList = (inBody "return self.").toList ++ rest) :
    returned? line = slotAt? (String.ofList (splitWord rest).1) (splitWord rest).2 := by
  rw [returned?, hline, List.dropPrefix?_append_of_beq rest (by simp)]
  rfl

theorem returned?_getterLine {p : Property} (h : WordText p.name) : returned? (getterLine p) = some (slotOf p) := by
  have hentry : returned? (inBody ("return self._data[" ++ stringLiteral p.name ++ "]")) = some (.entry p.name) := by
    have hline : (inBody ("return self._data[" ++ stringLiteral p.name ++ "]")).toList =
        (inBody "return self.").toList ++ ("_data".toList ++ '[' :: ((stringLiteral p.name).toList ++ [']'])) := by
      simp only [inBody, String.toList_append, List.append_assoc]
      rfl
    have hdata : WordText "_data" := by decide
    rw [returned?_self hline, splitWord_append hdata (by decide), toList_stringLiteral_append h]
    simp [slotAt?, ofList_splitWord_literal h]
  unfold getterLine slotOf
  cases p.kind with
  | simple => exact hentry
  | sequence => exact hentry
  | nested =>
    have hline : (inBody ("return self." ++ shadowName p.name)).toList =
        (inBody "return self.").toList ++ (shadowName p.name).toList := by
      simp only [inBody, String.toList_append, List.append_assoc]
    rw [returned?_self hline, splitWord_word (wordText_shadowName h), String.ofList_toList]
    rfl

theorem accessesSlot (p : Property) : AccessesSlot p where
  getter := by
    unfold getterLine slotOf
    cases p.kind with
    | nested => simp only [Slot.read, ← String.append_assoc]; rfl
    | simple => simp only [Slot.read, ← String.append_assoc]; rfl
    | sequence => simp only [Slot.read, ← String.append_assoc]; rfl
  setter := by
    unfold setterLine slotOf
    cases p.kind with
    | nested =>
      refine String.toList_inj.mp ?_
      simp only [Slot.write, Slot.read, inBody, String.toList_append, List.append_assoc]
      rfl
    | simple => rfl
    | sequence => rfl
  returned := returned?_getterLine
  stored h := by
    rw [storeOf?_setterLine h, slotOf]
    cases p.kind with
    | nested => rfl
    | simple => rfl
    | sequence => rfl

/-! ## Runs -/

/-- What the statements of a constructor have put on an instance so far, the oldest first. -/
structure Instance where
  /-- The keys that are set, each after its mapping. -/
  entries : List (String × String)
  members : List String
  deriving DecidableEq, Repr

def Instance.fresh : Instance := ⟨[], []⟩

def Statement.apply (i : Instance) : Statement → Instance
  | entry mapping key _ => { i with entries := i.entries ++ [(mapping, key)] }
  | member name _ => { i with members := i.members ++ [name] }

def Slot.fill (i : Instance) : Slot → Instance
  | member name => { i with members := i.members ++ [name] }
  | entry key => { i with entries := i.entries ++ [("_data", key)] }

structure SetterRun where
  property : String
  argument : String
  found : Instance
  deriving DecidableEq, Repr

inductive Ending where
  /-- After the last statement. -/
  | done
  /-- A member is read that is not set. -/
  | unset (name : String)
  /-- A statement does not return. -/
  | raised
  deriving DecidableEq, Repr

structure Execution where
  runs : List SetterRun
  ending : Ending
  deriving DecidableEq, Repr

def Execution.after (r : SetterRun) (e : Execution) : Execution := { e with runs := r :: e.runs }

def setterOf? (ps : List Property) : Statement → Option Property
  | .entry _ _ _ => none
  | .member name _ => ps.find? (·.name == name)

/-- The setter of a nested property reads its slot. -/
def Readable (p : Property) (i : Instance) : Prop := p.kind = .nested → shadowName p.name ∈ i.members

instance (p : Property) (i : Instance) : Decidable (Readable p i) := inferInstanceAs (Decidable (_ → _))

def run (returns : Instance → Statement → Bool) (ps : List Property) : Instance → List Statement → Execution
  | _, [] => ⟨[], .done⟩
  | i, st :: rest =>
    match setterOf? ps st with
    | none => if returns i st then run returns ps (st.apply i) rest else ⟨[], .raised⟩
    | some p =>
      let r : SetterRun := ⟨p.name, st.value, i⟩
      if Readable p i then
        if returns i st then (run returns ps ((slotOf p).fill i) rest).after r else ⟨[r], .raised⟩
      else ⟨[r], .unset (shadowName p.name)⟩

/-- Runs the constructor of a class. The initializer of the base class is no statement of it; where that fails, the
    first statement is one that does not return. -/
def execute (returns : Instance → Statement → Bool) (c : ClassDecl) : Execution :=
  run returns c.properties .fresh (statements c.constructor)

variable {returns : Instance → Statement → Bool} {ps : List Property} {i : Instance}

theorem setterOf?_eq_none {name value : String} (h : ∀ p ∈ ps, p.name ≠ name) :
    setterOf? ps (.member name value) = none := by
  rw [setterOf?, List.find?_eq_none]
  intro p hp
  simpa using h p hp

theorem setterOf?_eq_some {p : Property} {value : String} (hnodup : (ps.map (·.name)).Nodup) (hp : p ∈ ps) :
    setterOf? ps (.member p.name value) = some p := find?_name_of_mem hnodup hp

/-- Where every call returns, no run ends because one does not. -/
theorem run_ending_ne_raised (h : ∀ i st, returns i st = true) (sts : List Statement) :
    (run returns ps i sts).ending ≠ .raised := by
  induction sts generalizing i with
  | nil => nofun
  | cons st rest ih =>
    unfold run
    split
    · rw [if_pos (h i st)]
      exact ih
    · split
      · rw [if_pos (h i st)]
        exact ih
      · nofun

/-- Statements that run no setter add to the instance, unless one of them does not return. -/
theorem run_plain_append {plain : List Statement} (h : ∀ st ∈ plain, setterOf? ps st = none) (rest : List Statement) :
    run returns ps i (plain ++ rest) = ⟨[], .raised⟩ ∨
      run returns ps i (plain ++ rest) = run returns ps (plain.foldl Statement.apply i) rest := by
  induction plain generalizing i with
  | nil => exact .inr rfl
  | cons st plain ih =>
    obtain ⟨hst, hplain⟩ := List.forall_mem_cons.mp h
    rw [List.cons_append, run, hst]
    by_cases hreturns : returns i st = true
    · simp only [if_pos hreturns]
      exact ih hplain
    · exact .inl (by simp only [if_neg hreturns])

/-! ## Setters in order -/

/-- An execution with one run of a setter for each element of a list, in order. If something does not return, these are
    the elements up to there. -/
def RunsInOrder {α : Type} (R : α → SetterRun → Prop) (l : List α) (e : Execution) : Prop :=
  ∃ ran rest, l = ran ++ rest ∧ List.Forall₂ R ran e.runs ∧ (e.ending = .done ∧ rest = [] ∨ e.ending = .raised)

variable {α β : Type} {R : α → SetterRun → Prop} {l : List α} {e : Execution}

theorem RunsInOrder.stopped (l : List α) : RunsInOrder R l ⟨[], .raised⟩ := ⟨[], l, rfl, .nil, .inr rfl⟩

theorem RunsInOrder.after {a : α} {r : SetterRun} (hr : R a r) (h : RunsInOrder R l e) :
    RunsInOrder R (a :: l) (e.after r) := by
  obtain ⟨ran, rest, rfl, hruns, hending⟩ := h
  exact ⟨a :: ran, rest, rfl, .cons hr hruns, hending⟩

theorem RunsInOrder.of_map {S : β → SetterRun → Prop} {f : β → α} {l : List β}
    (hRS : ∀ b ∈ l, ∀ r, R (f b) r → S b r) (h : RunsInOrder R (l.map f) e) : RunsInOrder S l e := by
  obtain ⟨ran, rest, hsplit, hruns, hending⟩ := h
  obtain ⟨ran, rest, rfl, rfl, rfl⟩ := List.map_eq_append_iff.mp hsplit
  refine ⟨ran, rest, rfl, ?_, ?_⟩
  · refine (forall₂_of_mem (List.forall₂_map_left_iff.mp hruns)).imp ?_
    rintro b r ⟨hb, hr⟩
    exact hRS b (List.mem_append_left _ hb) r hr
  · rwa [List.map_eq_nil_iff] at hending

/-- Where everything returns, no element is left out. -/
theorem RunsInOrder.complete (h : RunsInOrder R l e) (hending : e.ending ≠ .raised) :
    e.ending = .done ∧ List.Forall₂ R l e.runs := by
  obtain ⟨ran, rest, rfl, hruns, ⟨hdone, rfl⟩ | hraised⟩ := h
  · rw [List.append_nil]
    exact ⟨hdone, hruns⟩
  · exact absurd hraised hending

structure Ready (p : Property) (i : Instance) : Prop where
  registered : i.entries.count ("_validators", p.name) = 1
  readable : Readable p i

/-- Setters keep every property ready: they register nothing, and unset nothing. -/
theorem Ready.fill {p : Property} (h : Ready p i) (slot : Slot) : Ready p (slot.fill i) := by
  cases slot with
  | member name => exact ⟨h.registered, fun hk => List.mem_append_left _ (h.readable hk)⟩
  | entry key =>
    refine ⟨?_, h.readable⟩
    show (i.entries ++ [("_data", key)]).count ("_validators", p.name) = 1
    rw [List.count_append, h.registered, List.count_singleton]
    simp

structure RunsSetter (ps : List Property) (a : Assignment) (r : SetterRun) : Prop where
  property : r.property = a.property
  argument : r.argument = a.parameter
  ready : ∀ p ∈ ps, p.name = a.property → Ready p r.found

theorem run_assignments (hnodup : (ps.map (·.name)).Nodup) {as : List Assignment}
    (has : ∀ a ∈ as, ∃ p ∈ ps, p.name = a.property) (hready : ∀ p ∈ ps, Ready p i) :
    RunsInOrder (RunsSetter ps) as (run returns ps i (as.map Assignment.statement)) := by
  induction as generalizing i with
  | nil => exact ⟨[], [], rfl, .nil, .inl ⟨rfl, rfl⟩⟩
  | cons a as ih =>
    obtain ⟨⟨p, hp, hname⟩, has⟩ := List.forall_mem_cons.mp has
    have hsetter : setterOf? ps a.statement = some p := by
      rw [Assignment.statement, ← hname, setterOf?_eq_some hnodup hp]
    have hrun : RunsSetter ps a ⟨p.name, a.parameter, i⟩ := ⟨hname, rfl, fun q hq _ => hready q hq⟩
    rw [List.map_cons, run, hsetter]
    simp only [if_pos (hready p hp).readable]
    by_cases hreturns : returns i a.statement = true
    · rw [if_pos hreturns]
      exact (ih has fun q hq => (hready q hq).fill _).after hrun
    · rw [if_neg hreturns]
      exact ⟨[a], as, rfl, .cons hrun .nil, .inr rfl⟩

/-! ## Two phases -/

/-- A class whose constructor registers and prepares all that its setters need, and then runs them. -/
structure TwoPhase (c : ClassDecl) : Prop where
  names : (c.properties.map (·.name)).Nodup
  registered : ∀ p ∈ c.properties, (c.constructor.registrations.map (·.property)).count p.name = 1
  prepared : ∀ p ∈ c.properties, p.kind = .nested → p.name ∈ c.constructor.prepared
  assigned : ∀ a ∈ c.constructor.assigned, ∃ p ∈ c.properties, p.name = a.property
  /-- No shadow member is a property. -/
  apart : ∀ p ∈ c.properties, ∀ name ∈ c.constructor.prepared, p.name ≠ shadowName name

theorem foldl_registrations (rs : List Registration) (i : Instance) :
    (rs.map Registration.statement).foldl Statement.apply i =
      { i with entries := i.entries ++ rs.map fun r => ("_validators", r.property) } := by
  induction rs generalizing i with
  | nil => simp
  | cons r rs ih => simp [ih, Registration.statement, Statement.apply]

theorem foldl_preparations (names : List String) (i : Instance) :
    (names.map preparation).foldl Statement.apply i = { i with members := i.members ++ names.map shadowName } := by
  induction names generalizing i with
  | nil => simp
  | cons name names ih => simp [ih, preparation, Statement.apply]

/-- The instance that the first assignment finds. -/
theorem foldl_setUp (k : Constructor) :
    (setUp k).foldl Statement.apply .fresh =
      ⟨("_data", "type") :: k.registrations.map fun r => ("_validators", r.property), k.prepared.map shadowName⟩ := by
  rw [setUp, List.foldl_append, List.foldl_cons, foldl_registrations, foldl_preparations]
  rfl

variable {c : ClassDecl}

theorem TwoPhase.ready (h : TwoPhase c) :
    ∀ p ∈ c.properties, Ready p ((setUp c.constructor).foldl Statement.apply .fresh) := by
  intro p hp
  have hinj : Function.Injective fun name : String => ("_validators", name) := fun a b hab => (Prod.mk.inj hab).2
  have hcount := List.count_map_of_injective (c.constructor.registrations.map (·.property)) _ hinj p.name
  rw [h.registered p hp, List.map_map] at hcount
  rw [foldl_setUp]
  refine ⟨?_, fun hk => List.mem_map_of_mem (h.prepared p hp hk)⟩
  rw [List.count_cons_of_ne (by simp)]
  exact hcount

theorem TwoPhase.plain_setUp (h : TwoPhase c) : ∀ st ∈ setUp c.constructor, setterOf? c.properties st = none := by
  intro st hst
  rw [setUp, List.mem_append, List.mem_cons] at hst
  rcases hst with (rfl | hr) | hp
  · rfl
  · obtain ⟨r, -, rfl⟩ := List.mem_map.mp hr
    rfl
  · obtain ⟨name, hname, rfl⟩ := List.mem_map.mp hp
    exact setterOf?_eq_none fun p hp => h.apart p hp name hname

/-- Whatever returns, no setter is run before its property is ready, and setters are run as they are assigned. -/
theorem execute_of_twoPhase (h : TwoPhase c) (returns : Instance → Statement → Bool) :
    RunsInOrder (RunsSetter c.properties) c.constructor.assigned (execute returns c) := by
  rw [execute, statements]
  rcases run_plain_append h.plain_setUp (c.constructor.assigned.map Assignment.statement) with hraised | hassign
  · rw [hraised]
    exact .stopped _
  · rw [hassign]
    exact run_assignments h.names h.assigned h.ready

end PlotTypes.Python
