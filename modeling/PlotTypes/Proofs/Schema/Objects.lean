/-
  PlotTypes.Proofs.Schema.Objects — the compound objects of a schema document.

  A compound object is an object whose entries are read as attributes: the `attributes` of
  a trace, an attribute object with neither `valType` nor `items`, and the one item of an
  array container. Each stands at a path of names, where a container goes by the name of
  its item. `compoundObjects` lists all of them without looking at a tree, those inside one
  object together, as the compounds of a tree come in `Node.inner`.
-/

import PlotTypes.Schema.Document

namespace PlotTypes.Schema

open PlotTypes.Python

/-! ## Attribute entries -/

def attributeEntries (members : Json.Members) : List (String × Json.Members) :=
  members.filterMap fun (key, v) => if isHidden key then none else v.members?.map (key, ·)

theorem attributeEntries_skip {key : String} {v : Json} {r : Json.Members}
    (h : isHidden key = true ∨ v.members? = none) : attributeEntries ((key, v) :: r) = attributeEntries r := by
  rcases h with h | h
  · simp [attributeEntries, h]
  · simp [attributeEntries, h]

theorem attributeEntries_keep {key : String} {inner r : Json.Members} (h : isHidden key = false) :
    attributeEntries ((key, .object inner) :: r) = (key, inner) :: attributeEntries r := by
  simp [attributeEntries, h, Json.members?]

theorem mem_attributeEntries {members inner : Json.Members} {key : String} :
    (key, inner) ∈ attributeEntries members ↔ isHidden key = false ∧ (key, Json.object inner) ∈ members := by
  simp only [attributeEntries, List.mem_filterMap, Prod.exists]
  constructor
  · rintro ⟨k, v, hm, h⟩
    split at h
    · cases h
    · rename_i hk
      cases v with
      | object m => cases h; exact ⟨by simpa using hk, hm⟩
      | _ => cases h
  · rintro ⟨hk, hm⟩
    exact ⟨key, .object inner, hm, by simp [hk, Json.members?]⟩

theorem mem_of_get? {members : Json.Members} {key : String} {v : Json} (h : members.get? key = some v) :
    (key, v) ∈ members := by
  obtain ⟨l, r, rfl, -⟩ := List.lookup_eq_some_iff.mp h
  simp

def defaultOf (members : Json.Members) : String :=
  match members.get? "valType", members.get? "dflt" with
  | some _, some v => literal v
  | _, _ => noneLiteral

/-! ## Compound objects -/

def compoundIn? (key : String) (members : Json.Members) : Option (String × Json.Members) :=
  match members.get? "valType", members.get? "items" with
  | none, none => some (key, members)
  | none, some (.object [(element, .object item)]) => some (element, item)
  | _, _ => none

theorem compoundIn?_self {members : Json.Members} (hv : members.get? "valType" = none)
    (hi : members.get? "items" = none) (key : String) : compoundIn? key members = some (key, members) := by
  simp only [compoundIn?, hv, hi]

theorem compoundIn?_item {members item : Json.Members} {name : String} (hv : members.get? "valType" = none)
    (hi : members.get? "items" = some (.object [(name, .object item)])) (key : String) :
    compoundIn? key members = some (name, item) := by
  simp only [compoundIn?, hv, hi]

structure CompoundObject where
  path : List String
  members : Json.Members

namespace CompoundObject

def keys (o : CompoundObject) : List String := (attributeEntries o.members).map (·.1)

def nested (o : CompoundObject) : List CompoundObject :=
  (attributeEntries o.members).filterMap fun (key, members) =>
    (compoundIn? key members).map fun (name, item) => ⟨o.path ++ [name], item⟩

theorem mem_nested {o : CompoundObject} {key name : String} {members item : Json.Members}
    (he : (key, members) ∈ attributeEntries o.members) (hc : compoundIn? key members = some (name, item)) :
    ⟨o.path ++ [name], item⟩ ∈ o.nested :=
  List.mem_filterMap.mpr ⟨(key, members), he, by simp only [hc, Option.map_some]⟩

/-- Objects inside are smaller. -/
theorem sizeOf_compoundIn? {key name : String} {members item : Json.Members}
    (h : compoundIn? key members = some (name, item)) : sizeOf item ≤ sizeOf members := by
  unfold compoundIn? at h
  split at h
  · cases h
    exact Nat.le_refl _
  · rename_i hi
    cases h
    have := List.sizeOf_lt_of_mem (mem_of_get? hi)
    simp only [Prod.mk.sizeOf_spec, Json.object.sizeOf_spec, List.cons.sizeOf_spec] at this
    omega
  · cases h

theorem sizeOf_nested {o p : CompoundObject} (h : p ∈ o.nested) : sizeOf p.members < sizeOf o.members := by
  simp only [nested, List.mem_filterMap, Option.map_eq_some_iff, Prod.exists] at h
  obtain ⟨key, members, hm, name, item, hc, rfl⟩ := h
  have := List.sizeOf_lt_of_mem (mem_attributeEntries.mp hm).2
  have := sizeOf_compoundIn? hc
  simp only [Prod.mk.sizeOf_spec, Json.object.sizeOf_spec] at *
  omega

/-- What an object has whenever the objects directly inside it have it, every object has. -/
@[elab_as_elim] theorem induction {P : CompoundObject → Prop} (o : CompoundObject)
    (step : ∀ o : CompoundObject, (∀ p ∈ o.nested, P p) → P o) : P o :=
  step o fun p _ => induction p step
termination_by sizeOf o.members
decreasing_by exact sizeOf_nested ‹_›

/-- All compound objects inside, those of one object together and before those inside them. -/
def inner (o : CompoundObject) : List CompoundObject :=
  o.nested ++ o.nested.attach.flatMap fun p => p.1.inner
termination_by sizeOf o.members
decreasing_by exact sizeOf_nested p.2

theorem inner_eq (o : CompoundObject) : o.inner = o.nested ++ o.nested.flatMap inner := by
  rw [inner, List.flatMap_subtype fun _ _ => rfl, List.unattach_attach]

end CompoundObject

def traceObjects (document : Json) : List CompoundObject :=
  (((document.get? "traces").bind Json.members?).getD []).filterMap fun (name, trace) =>
    ((trace.get? "attributes").bind Json.members?).map fun members => ⟨[name], members⟩

def compoundObjects (document : Json) : List CompoundObject :=
  traceObjects document ++ (traceObjects document).flatMap CompoundObject.inner

end PlotTypes.Schema
