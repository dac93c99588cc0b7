/-
  PlotTypes.Proofs.Python.Storing — what a rendered constructor stores, read off its lines.

  Every statement after the docstring that touches the instance starts with `self.` and a word.
  What comes after the word tells what is stored: a key of a mapping, an argument of a method,
  or the member itself. `storeOf?` reads a line so, without knowing how it was written. A
  member that is a property of the class is not stored: its setter runs instead, which is one
  such line again (`through`).
  - `storeOf?_registrationLine` and the lemmas beside it: one kind of line each.
  - `storeOf?_setterLine`: what the setter of a property stores depends on its name and kind.
  - `stores_eq`: the stores of a whole constructor, in order.
-/

import Mathlib.Data.List.Nodup
import PlotTypes.Proofs.Python.Word

namespace PlotTypes.Python

/-! ## One line -/

inductive Store where
  /-- A member is set. -/
  | member (name : String)
  /-- A key of a mapping that the instance holds is set. -/
  | entry (mapping key : String)
  /-- A method is called with a key. -/
  | call (method key : String)
  deriving DecidableEq, Repr

/-- The store of a statement that goes on with `rest` after a word. -/
def storeAt? (word : String) : List Char → Option Store
  | '[' :: '\'' :: rest => some (.entry word (String.ofList (splitWord rest).1))
  | '(' :: '\'' :: rest => some (.call word (String.ofList (splitWord rest).1))
  | ' ' :: '=' :: _ => some (.member word)
  | _ => none

def storeOf? (line : String) : Option Store :=
  match splitWord (line.toList.dropWhile (· == ' ')) with
  | (['s', 'e', 'l', 'f'], '.' :: rest) =>
    let (word, rest) := splitWord rest
    storeAt? (String.ofList word) rest
  | _ => none

theorem blanks_bodyIndent : ∀ c ∈ bodyIndent.toList, (c == ' ') = true := by simp [bodyIndent]

/-- A line that starts with `self.` and a word is read by what comes after the word. -/
theorem storeOf?_self {line word : String} (hw : WordText word) {c : Char} (hc : continuesIdentifier c = false)
    {rest : List Char} (hline : line.toList = bodyIndent.toList ++ ("self.".toList ++ (word.toList ++ c :: rest))) :
    storeOf? line = storeAt? word (c :: rest) := by
  have hself : ("self.".toList ++ (word.toList ++ c :: rest)).dropWhile (· == ' ') =
      "self".toList ++ '.' :: (word.toList ++ c :: rest) := rfl
  have hword : WordText "self" := by decide
  have hsplit := splitWord_append hword (c := '.') (by decide) (word.toList ++ c :: rest)
  unfold storeOf?
  rw [hline, List.dropWhile_append_of_pos blanks_bodyIndent, hself, hsplit]
  show storeAt? (String.ofList (splitWord (word.toList ++ c :: rest)).1) (splitWord (word.toList ++ c :: rest)).2 = _
  rw [splitWord_append hw hc, String.ofList_toList]

theorem toList_stringLiteral_append {key : String} (hk : WordText key) (rest : List Char) :
    (stringLiteral key).toList ++ rest = '\'' :: (key.toList ++ '\'' :: rest) := by
  rw [toList_stringLiteral hk]
  simp

/-- A key is read back from its literal. -/
theorem ofList_splitWord_literal {key : String} (hk : WordText key) (rest : List Char) :
    String.ofList (splitWord (key.toList ++ '\'' :: rest)).1 = key := by
  rw [splitWord_append hk (by decide), String.ofList_toList]

variable {s : String}

theorem storeOf?_entry {line mapping key : String} (hm : WordText mapping) (hk : WordText key) (rest : List Char)
    (hline : line.toList =
      bodyIndent.toList ++ ("self.".toList ++ (mapping.toList ++ '[' :: ((stringLiteral key).toList ++ rest)))) :
    storeOf? line = some (.entry mapping key) := by
  rw [toList_stringLiteral_append hk] at hline
  rw [storeOf?_self hm (by decide) hline, storeAt?, ofList_splitWord_literal hk]

theorem storeOf?_call {line method key : String} (hm : WordText method) (hk : WordText key) (rest : List Char)
    (hline : line.toList =
      bodyIndent.toList ++ ("self.".toList ++ (method.toList ++ '(' :: ((stringLiteral key).toList ++ rest)))) :
    storeOf? line = some (.call method key) := by
  rw [toList_stringLiteral_append hk] at hline
  rw [storeOf?_self hm (by decide) hline, storeAt?, ofList_splitWord_literal hk]

theorem storeOf?_member {line name : String} (hn : WordText name) (rest : List Char)
    (hline : line.toList = bodyIndent.toList ++ ("self.".toList ++ (name.toList ++ ' ' :: '=' :: rest))) :
    storeOf? line = some (.member name) := by
  rw [storeOf?_self hn (by decide) hline, storeAt?]

/-! ## Kinds of lines -/

theorem wordText_shadowName (h : WordText s) : WordText (shadowName s) := by
  intro c hc
  rw [shadowName, String.toList_append, List.mem_append] at hc
  rcases hc with hc | hc
  · have hunderscore : WordText "_" := by decide
    exact hunderscore c hc
  · exact h c hc

theorem storeOf?_registrationLine {r : Registration} (h : WordText r.property) :
    storeOf? (registrationLine r) = some (.entry "_validators" r.property) := by
  refine storeOf?_entry (by decide) h
    (']' :: ' ' :: '=' :: ' ' :: (r.moduleAlias ++ "." ++ r.className ++ "()").toList) ?_
  simp only [registrationLine, inBody, String.toList_append, List.append_assoc]
  rfl

theorem storeOf?_preparationLine {property : String} (h : WordText property) :
    storeOf? (preparationLine property) = some (.member (shadowName property)) := by
  refine storeOf?_member (wordText_shadowName h) " None".toList ?_
  simp only [preparationLine, inBody, String.toList_append, List.append_assoc]
  rfl

theorem storeOf?_assignmentLine {a : Assignment} (h : WordText a.property) :
    storeOf? (assignmentLine a) = some (.member a.property) := by
  refine storeOf?_member h (' ' :: a.parameter.toList) ?_
  simp only [assignmentLine, inBody, String.toList_append, List.append_assoc]
  rfl

theorem storeOf?_typeLine (typeName : String) : storeOf? (typeLine typeName) = some (.entry "_data" "type") := by
  refine storeOf?_entry (by decide) (by decide) (']' :: ' ' :: '=' :: ' ' :: (stringLiteral typeName).toList) ?_
  have hliteral : (stringLiteral "type").toList = '\'' :: ("type".toList ++ ['\'']) := toList_stringLiteral (by decide)
  rw [hliteral]
  simp only [typeLine, inBody, String.toList_append]
  rfl

def setterStore (name : String) : PropertyKind → Store
  | .nested => .member (shadowName name)
  | .simple | .sequence => .call "_set_prop" name

theorem storeOf?_setterLine {p : Property} (h : WordText p.name) :
    storeOf? (setterLine p) = some (setterStore p.name p.kind) := by
  have hcall : storeOf? (inBody ("self._set_prop(" ++ stringLiteral p.name ++ ", val)")) =
      some (.call "_set_prop" p.name) := by
    refine storeOf?_call (by decide) h ", val)".toList ?_
    simp only [inBody, String.toList_append, List.append_assoc]
    rfl
  unfold setterLine
  cases p.kind with
  | simple => exact hcall
  | sequence => exact hcall
  | nested =>
    refine storeOf?_member (wordText_shadowName h) (" self._set_compound_prop(".toList ++
      ((stringLiteral p.name).toList ++ (", val, self.".toList ++ ((shadowName p.name).toList ++ [')'])))) ?_
    simp only [inBody, String.toList_append, List.append_assoc]
    rfl

/-! ## Whole constructors -/

/-- The initializer of the base class stores what it stores, but not in this body. -/
theorem storeOf?_superLine (k : Constructor) : storeOf? (superLine k) = none := by
  obtain ⟨rest, hline⟩ : ∃ rest, (superLine k).toList = bodyIndent.toList ++ ("super".toList ++ '(' :: rest) := by
    refine ⟨").__init__(".toList ++ ((stringLiteral k.plotName).toList ++ [')']), ?_⟩
    simp only [superLine, inBody, String.toList_append, List.append_assoc]
    rfl
  have hsuper : ("super".toList ++ '(' :: rest).dropWhile (· == ' ') = "super".toList ++ '(' :: rest := rfl
  have hword : WordText "super" := by decide
  have hsplit := splitWord_append hword (c := '(') (by decide) rest
  unfold storeOf?
  rw [hline, List.dropWhile_append_of_pos blanks_bodyIndent, hsuper, hsplit]
  rfl

theorem filterMap_map_eq_map {α β γ : Type} {f : α → β} {g : β → Option γ} {h : α → γ} {l : List α}
    (hg : ∀ a ∈ l, g (f a) = some (h a)) : (l.map f).filterMap g = l.map h := by
  induction l with
  | nil => rfl
  | cons a r ih =>
    obtain ⟨ha, hr⟩ := List.forall_mem_cons.mp hg
    rw [List.map_cons, List.filterMap_cons_some ha, ih hr, List.map_cons]

theorem stores_preparationLines {prepared : List String} (h : ∀ p ∈ prepared, WordText p) :
    (preparationLines prepared).filterMap storeOf? = prepared.map fun p => .member (shadowName p) := by
  have hheading : ("" :: heading "Init compound properties").filterMap storeOf? = [] := by decide +kernel
  unfold preparationLines
  by_cases hempty : prepared.isEmpty = true
  · rw [if_pos hempty, List.isEmpty_iff.mp hempty]
    rfl
  · rw [if_neg hempty, List.filterMap_append, hheading, List.nil_append]
    exact filterMap_map_eq_map fun p hp => storeOf?_preparationLine (h p hp)

/-- What the statements of a constructor store, in order: the type, the validators, the prepared members, and then the
    properties that it assigns. -/
theorem stores_bodyLines {k : Constructor} (hr : ∀ r ∈ k.registrations, WordText r.property)
    (hp : ∀ p ∈ k.prepared, WordText p) (ha : ∀ a ∈ k.assigned, WordText a.property) :
    (bodyLines k).filterMap storeOf? =
      [.entry "_data" "type"] ++ k.registrations.map (fun r => .entry "_validators" r.property) ++
        k.prepared.map (fun p => .member (shadowName p)) ++ k.assigned.map fun a => .member a.property := by
  have hsuper : [superLine k, ""].filterMap storeOf? = [] := by
    rw [List.filterMap_cons_none (storeOf?_superLine k)]
    decide
  have htype : [typeLine k.typeName, ""].filterMap storeOf? = [.entry "_data" "type"] := by
    rw [List.filterMap_cons_some (storeOf?_typeLine k.typeName)]
    decide
  have hdata : (heading "Initialize data dict").filterMap storeOf? = [] := by decide +kernel
  have hvalidators : (heading "Initialize validators").filterMap storeOf? = [] := by decide +kernel
  have hblank : [""].filterMap storeOf? = [] := by decide
  have hpopulate : (heading "Populate data dict with properties").filterMap storeOf? = [] := by decide +kernel
  have hregistered : (k.registrations.map registrationLine).filterMap storeOf? =
      k.registrations.map fun r => .entry "_validators" r.property :=
    filterMap_map_eq_map fun r hmem => storeOf?_registrationLine (hr r hmem)
  have hassigned : (k.assigned.map assignmentLine).filterMap storeOf? = k.assigned.map fun a => .member a.property :=
    filterMap_map_eq_map fun a hmem => storeOf?_assignmentLine (ha a hmem)
  unfold bodyLines
  simp only [List.filterMap_append, hsuper, htype, hdata, hvalidators, hblank, hpopulate, hregistered, hassigned,
    stores_preparationLines hp, List.nil_append, List.append_nil]

/-! ## Through the setters -/

/-- What a store comes to in a class with properties `ps`: a member that is a property is handed to its setter. -/
def through (ps : List Property) : Store → Option Store
  | .member name =>
    match ps.find? (·.name == name) with
    | some p => storeOf? (setterLine p)
    | none => some (.member name)
  | store => some store

def stores (c : ClassDecl) : List Store :=
  ((bodyLines c.constructor).filterMap storeOf?).filterMap (through c.properties)

theorem through_of_ne {ps : List Property} {name : String} (h : ∀ p ∈ ps, p.name ≠ name) :
    through ps (.member name) = some (.member name) := by
  have hnone : ps.find? (·.name == name) = none := by
    rw [List.find?_eq_none]
    intro p hp
    simpa using h p hp
  rw [through, hnone]

/-- Where names differ, a property is found under its name. -/
theorem find?_name_of_mem {ps : List Property} (hnodup : (ps.map (·.name)).Nodup) {p : Property} (hp : p ∈ ps) :
    ps.find? (·.name == p.name) = some p := by
  obtain ⟨q, hq⟩ : ∃ q, ps.find? (·.name == p.name) = some q := by
    rw [← Option.isSome_iff_exists, List.find?_isSome]
    exact ⟨p, hp, by simp⟩
  have hname : q.name = p.name := by simpa using List.find?_some hq
  have hmem : q ∈ ps := List.mem_of_find?_eq_some hq
  rw [hq, List.inj_on_of_nodup_map hnodup hmem hp hname]

/-- The setter that runs is that of the property. -/
theorem through_of_mem {ps : List Property} (hnodup : (ps.map (·.name)).Nodup) {p : Property} (hp : p ∈ ps)
    (hword : WordText p.name) : through ps (.member p.name) = some (setterStore p.name p.kind) := by
  rw [through, find?_name_of_mem hnodup hp]
  exact storeOf?_setterLine hword

end PlotTypes.Python
