/-
  PlotTypes.Proofs.Schema.Grammar — which schema documents are read, and what the others are
  told.

  The grammar is said without the reader. An attribute object is well formed when it is a
  leaf, the container of one well-formed item, or a compound, and all attributes inside it
  are well formed. It is faulty when none of the three fits it, whatever is inside it.
  - `attributesOf_ok_of_wellFormed`, `attributesOf_error_of_firstFault`: the reader on the
    entries of one object.
  - `wellFormed_or_firstFault`: there is no third case.
  - `ofJson_accepts_grammar`: a document is read exactly when it is well formed, and the
    error of any other one names the first place, in depth-first document order, that is
    faulty.
-/

import PlotTypes.Proofs.Schema.Reading

namespace PlotTypes.Schema

/-! ## The grammar -/

/-- The attribute objects that stand for an attribute, with all that is inside them. -/
inductive WellFormed : Json.Members → Prop
  | leaf {members : Json.Members} (tag : String) : members.get? "valType" = some (.string tag) → WellFormed members
  | container {members item : Json.Members} (name : String) : members.get? "valType" = none →
      members.get? "items" = some (.object [(name, .object item)]) →
      (∀ e ∈ attributeEntries item, WellFormed e.2) → WellFormed members
  | compound {members : Json.Members} : members.get? "valType" = none → members.get? "items" = none →
      (∀ e ∈ attributeEntries members, WellFormed e.2) → WellFormed members

def WellFormedTrace (trace : Json) : Prop :=
  ∃ members, (trace.get? "attributes").bind Json.members? = some members ∧
    ∀ e ∈ attributeEntries members, WellFormed e.2

def WellFormedDocument (document : Json) : Prop :=
  ∃ traces, (document.get? "traces").bind Json.members? = some traces ∧ ∀ e ∈ traces, WellFormedTrace e.2

/-! ## Faults -/

inductive Faulty (members : Json.Members) : ShapeFault → Prop
  | tagNotString (v : Json) : members.get? "valType" = some v → v.string? = none → Faulty members .tagNotString
  | itemsNotObject (v : Json) : members.get? "valType" = none → members.get? "items" = some v →
      v.members? = none → Faulty members .itemsNotObject
  | noItem : members.get? "valType" = none → members.get? "items" = some (.object []) → Faulty members .noItem
  | manyItems (items : Json.Members) : members.get? "valType" = none → members.get? "items" = some (.object items) →
      2 ≤ items.length → Faulty members .manyItems
  | itemNotObject (name : String) (v : Json) : members.get? "valType" = none →
      members.get? "items" = some (.object [(name, v)]) → v.members? = none → Faulty members .itemNotObject

/-- The first faulty attribute among the entries of an object and those inside them, in depth-first order, with the
    keys on the way to it. Every entry passed on the way is well formed. -/
inductive FirstFault : Json.Members → List String → ShapeFault → Prop
  | here {members inner : Json.Members} {fault : ShapeFault} (before after : List (String × Json.Members))
      (key : String) : attributeEntries members = before ++ (key, inner) :: after → (∀ e ∈ before, WellFormed e.2) →
      Faulty inner fault → FirstFault members [key] fault
  | inCompound {members inner : Json.Members} {keys : List String} {fault : ShapeFault}
      (before after : List (String × Json.Members)) (key : String) :
      attributeEntries members = before ++ (key, inner) :: after → (∀ e ∈ before, WellFormed e.2) →
      inner.get? "valType" = none → inner.get? "items" = none → FirstFault inner keys fault →
      FirstFault members (key :: keys) fault
  | inItem {members inner item : Json.Members} {keys : List String} {fault : ShapeFault}
      (before after : List (String × Json.Members)) (key name : String) :
      attributeEntries members = before ++ (key, inner) :: after → (∀ e ∈ before, WellFormed e.2) →
      inner.get? "valType" = none → inner.get? "items" = some (.object [(name, .object item)]) →
      FirstFault item keys fault → FirstFault members (key :: name :: keys) fault

inductive Rejected (document : Json) : Error → Prop
  | noTraces : (document.get? "traces").bind Json.members? = none → Rejected document (.missingSection "traces")
  | noAttributes (before after : Json.Members) (name : String) (trace : Json) :
      (document.get? "traces").bind Json.members? = some (before ++ (name, trace) :: after) →
      (∀ e ∈ before, WellFormedTrace e.2) → (trace.get? "attributes").bind Json.members? = none →
      Rejected document (.badShape name .noAttributes)
  | inTrace {members : Json.Members} {keys : List String} {fault : ShapeFault} (before after : Json.Members)
      (name : String) (trace : Json) :
      (document.get? "traces").bind Json.members? = some (before ++ (name, trace) :: after) →
      (∀ e ∈ before, WellFormedTrace e.2) → (trace.get? "attributes").bind Json.members? = some members →
      FirstFault members keys fault → Rejected document (.badShape (String.intercalate "." (name :: keys)) fault)

/-! ## One attribute -/

theorem shapeOf_error_of_faulty {members : Json.Members} {fault : ShapeFault} (h : Faulty members fault) :
    shapeOf members = .error fault := by
  unfold shapeOf
  cases h with
  | tagNotString v hv hs =>
    rw [hv]
    cases v with
    | string s => cases hs
    | _ => rfl
  | itemsNotObject v hv hi hm =>
    rw [hv, hi]
    cases v with
    | object m => cases hm
    | _ => rfl
  | noItem hv hi => rw [hv, hi]
  | manyItems items hv hi hlength =>
    rw [hv, hi]
    match items, hlength with
    | (_, v) :: _ :: _, _ => cases v <;> rfl
  | itemNotObject name v hv hi hm =>
    rw [hv, hi]
    cases v with
    | object m => cases hm
    | _ => rfl

/-- An object that is not faulty is a leaf, a container or a compound. -/
theorem shape_or_faulty (members : Json.Members) :
    (∃ tag, members.get? "valType" = some (.string tag)) ∨
      (members.get? "valType" = none ∧ ∃ name item, members.get? "items" = some (.object [(name, .object item)])) ∨
        (members.get? "valType" = none ∧ members.get? "items" = none) ∨ ∃ fault, Faulty members fault := by
  cases hv : members.get? "valType" with
  | some v =>
    cases hs : v.string? with
    | none => exact .inr (.inr (.inr ⟨_, .tagNotString v hv hs⟩))
    | some tag =>
      rw [Json.string?_eq_some.mp hs]
      exact .inl ⟨tag, rfl⟩
  | none =>
    refine .inr ?_
    cases hi : members.get? "items" with
    | none => exact .inr (.inl ⟨rfl, rfl⟩)
    | some items =>
      cases hm : items.members? with
      | none => exact .inr (.inr ⟨_, .itemsNotObject items hv hi hm⟩)
      | some entries =>
        rw [Json.members?_eq_some.mp hm] at hi ⊢
        match entries, hi with
        | [], hi => exact .inr (.inr ⟨_, .noItem hv hi⟩)
        | [(name, v)], hi =>
          cases hitem : v.members? with
          | none => exact .inr (.inr ⟨_, .itemNotObject name v hv hi hitem⟩)
          | some item =>
            rw [Json.members?_eq_some.mp hitem]
            exact .inl ⟨rfl, name, item, rfl⟩
        | _ :: _ :: _, hi => exact .inr (.inr ⟨_, .manyItems _ hv hi (by simp)⟩)

/-! ## The entries of one object -/

theorem exists_attributesOf_iff {path : String} {members : Json.Members} :
    (∃ ns, attributesOf path members = .ok ns) ↔
      ∀ e ∈ attributeEntries members, ∃ n, attributeOf (below path e.1) e.1 (.object e.2) = some (.ok n) := by
  rw [← exists_forall₂_iff]
  exact exists_congr fun ns => attributesOf_ok_iff

theorem exists_attributeOf_of_wellFormed {members : Json.Members} (h : WellFormed members) (path key : String) :
    ∃ n, attributeOf path key (.object members) = some (.ok n) := by
  induction h generalizing path key with
  | leaf tag hv =>
    rw [attributeOf, shapeOf_leaf_iff.mpr hv]
    exact ⟨_, rfl⟩
  | @container members item name hv hi _ ih =>
    obtain ⟨children, hc⟩ : ∃ ns, attributesOf (below path name) item = .ok ns :=
      exists_attributesOf_iff.mpr fun e he => ih e he _ _
    rw [attributeOf, shapeOf_container_iff.mpr ⟨hv, hi⟩]
    simp only [elementAttributesOf_eq hi, hc]
    exact ⟨_, rfl⟩
  | @compound members hv hi _ ih =>
    obtain ⟨children, hc⟩ : ∃ ns, attributesOf path members = .ok ns :=
      exists_attributesOf_iff.mpr fun e he => ih e he _ _
    rw [attributeOf, shapeOf_compound_iff.mpr ⟨hv, hi⟩]
    simp only [hc]
    exact ⟨_, rfl⟩

theorem attributesOf_ok_of_wellFormed {members : Json.Members} (h : ∀ e ∈ attributeEntries members, WellFormed e.2)
    (path : String) : ∃ ns, attributesOf path members = .ok ns :=
  exists_attributesOf_iff.mpr fun e he => exists_attributeOf_of_wellFormed (h e he) _ _

/-- The reader stops at the first entry that it cannot read. -/
theorem attributesOf_error {path key : String} {members inner : Json.Members} {e : Error}
    {before after : List (String × Json.Members)} (hentries : attributeEntries members = before ++ (key, inner) :: after)
    (hbefore : ∀ e ∈ before, WellFormed e.2)
    (herror : attributeOf (below path key) key (.object inner) = some (.error e)) :
    attributesOf path members = .error e := by
  induction members generalizing before with
  | nil =>
    have hlength := congrArg List.length hentries
    simp [attributeEntries] at hlength
  | cons entry r ih =>
    obtain ⟨k, v⟩ := entry
    rw [attributesOf]
    by_cases hk : isHidden k = true
    · rw [attributeEntries_skip (.inl hk)] at hentries
      rw [if_pos hk]
      exact ih hentries hbefore
    rw [if_neg hk]
    cases hv : v.members? with
    | none =>
      rw [attributeEntries_skip (.inr hv)] at hentries
      have hskip : attributeOf (below path k) k v = none := by
        rw [attributeOf]
        rintro m rfl
        cases hv
      rw [hskip]
      exact ih hentries hbefore
    | some m =>
      obtain rfl := Json.members?_eq_some.mp hv
      rw [attributeEntries_keep (by simpa using hk)] at hentries
      cases before with
      | nil =>
        cases hentries
        rw [herror]
      | cons b before =>
        rw [List.cons_append, List.cons.injEq] at hentries
        obtain ⟨rfl, hentries⟩ := hentries
        rw [List.forall_mem_cons] at hbefore
        obtain ⟨n, hn⟩ := exists_attributeOf_of_wellFormed hbefore.1 (below path k) k
        rw [hn, ih hentries hbefore.2]

theorem attributesOf_error_of_firstFault {members : Json.Members} {keys : List String} {fault : ShapeFault}
    (h : FirstFault members keys fault) (path : String) :
    attributesOf path members = .error (.badShape (String.intercalate "." (path :: keys)) fault) := by
  induction h generalizing path with
  | here before after key hentries hbefore hfault =>
    refine attributesOf_error hentries hbefore ?_
    rw [attributeOf, shapeOf_error_of_faulty hfault]
    rfl
  | inCompound before after key hentries hbefore hv hi _ ih =>
    refine attributesOf_error hentries hbefore ?_
    rw [attributeOf, shapeOf_compound_iff.mpr ⟨hv, hi⟩]
    simp only [ih]
    rfl
  | inItem before after key name hentries hbefore hv hi _ ih =>
    refine attributesOf_error hentries hbefore ?_
    rw [attributeOf, shapeOf_container_iff.mpr ⟨hv, hi⟩]
    simp only [elementAttributesOf_eq hi, ih]
    rfl

/-- Either all elements have a property, or there is a first one that has the other. -/
theorem forall_or_exists_first {α : Type} {P Q : α → Prop} {l : List α} (h : ∀ a ∈ l, P a ∨ Q a) :
    (∀ a ∈ l, P a) ∨ ∃ before a after, l = before ++ a :: after ∧ (∀ b ∈ before, P b) ∧ Q a := by
  induction l with
  | nil => exact .inl (List.forall_mem_nil _)
  | cons a r ih =>
    rw [List.forall_mem_cons] at h
    rcases h.1 with ha | ha
    · rcases ih h.2 with hr | ⟨before, b, after, rfl, hbefore, hb⟩
      · exact .inl (List.forall_mem_cons.mpr ⟨ha, hr⟩)
      · exact .inr ⟨a :: before, b, after, rfl, List.forall_mem_cons.mpr ⟨ha, hbefore⟩, hb⟩
    · exact .inr ⟨[], a, r, rfl, List.forall_mem_nil _, ha⟩

/-- The entries of an object are well formed, or there is a first fault among them. -/
theorem wellFormed_or_firstFault (o : CompoundObject) :
    (∀ e ∈ attributeEntries o.members, WellFormed e.2) ∨ ∃ keys fault, FirstFault o.members keys fault := by
  induction o using CompoundObject.induction with
  | step o ih =>
    have hentry : ∀ e ∈ attributeEntries o.members, WellFormed e.2 ∨ ∃ keys fault, ∀ before after,
        attributeEntries o.members = before ++ e :: after → (∀ b ∈ before, WellFormed b.2) →
          FirstFault o.members keys fault := by
      rintro ⟨key, inner⟩ he
      rcases shape_or_faulty inner with ⟨tag, hv⟩ | ⟨hv, name, item, hi⟩ | ⟨hv, hi⟩ | ⟨fault, hfault⟩
      · exact .inl (.leaf tag hv)
      · have hin := compoundIn?_item hv hi key
        rcases ih _ (CompoundObject.mem_nested he hin) with hwell | ⟨keys, fault, hfirst⟩
        · exact .inl (.container name hv hi hwell)
        · exact .inr ⟨_, fault, fun before after hl hb => .inItem before after key name hl hb hv hi hfirst⟩
      · have hin := compoundIn?_self hv hi key
        rcases ih _ (CompoundObject.mem_nested he hin) with hwell | ⟨keys, fault, hfirst⟩
        · exact .inl (.compound hv hi hwell)
        · exact .inr ⟨_, fault, fun before after hl hb => .inCompound before after key hl hb hv hi hfirst⟩
      · exact .inr ⟨_, fault, fun before after hl hb => .here before after key hl hb hfault⟩
    rcases forall_or_exists_first hentry with hwell | ⟨before, e, after, hl, hbefore, keys, fault, hfirst⟩
    · exact .inl hwell
    · exact .inr ⟨keys, fault, hfirst before after hl hbefore⟩

/-! ## Traces -/

theorem exists_traceOf_of_wellFormedTrace {trace : Json} (h : WellFormedTrace trace) (name : String) :
    ∃ n, traceOf name trace = .ok n := by
  obtain ⟨members, hm, hwell⟩ := h
  obtain ⟨children, hc⟩ := attributesOf_ok_of_wellFormed hwell name
  simp only [traceOf, hm, hc]
  exact ⟨_, rfl⟩

theorem exists_tracesOf_of_wellFormed {traces : Json.Members} (h : ∀ e ∈ traces, WellFormedTrace e.2) :
    ∃ ns, tracesOf traces = .ok ns := by
  obtain ⟨ns, hns⟩ := exists_forall₂_iff.mpr fun e he => exists_traceOf_of_wellFormedTrace (h e he) e.1
  exact ⟨ns, tracesOf_ok_iff.mpr hns⟩

theorem tracesOf_error {before after : Json.Members} {name : String} {trace : Json} {e : Error}
    (hbefore : ∀ e ∈ before, WellFormedTrace e.2) (herror : traceOf name trace = .error e) :
    tracesOf (before ++ (name, trace) :: after) = .error e := by
  induction before with
  | nil => simp only [List.nil_append, tracesOf, herror]
  | cons b before ih =>
    rw [List.forall_mem_cons] at hbefore
    obtain ⟨n, hn⟩ := exists_traceOf_of_wellFormedTrace hbefore.1 b.1
    rw [List.cons_append, tracesOf, hn, ih hbefore.2]
    rfl

/-! ## Documents -/

/-- The first trace that cannot be read decides. -/
theorem ofJson_error {document trace : Json} {before after : Json.Members} {name : String} {e : Error}
    (ht : (document.get? "traces").bind Json.members? = some (before ++ (name, trace) :: after))
    (hbefore : ∀ e ∈ before, WellFormedTrace e.2) (herror : traceOf name trace = .error e) :
    ofJson document = .error e := by
  simp only [ofJson, ht, tracesOf_error hbefore herror]
  rfl

theorem ofJson_error_of_rejected {document : Json} {e : Error} (h : Rejected document e) :
    ofJson document = .error e := by
  cases h with
  | noTraces ht => simp only [ofJson, ht]
  | noAttributes before after name trace ht hbefore hattributes =>
    refine ofJson_error ht hbefore ?_
    simp only [traceOf, hattributes]
  | inTrace before after name trace ht hbefore hattributes hfirst =>
    refine ofJson_error ht hbefore ?_
    simp only [traceOf, hattributes, attributesOf_error_of_firstFault hfirst]
    rfl

theorem exists_ofJson_of_wellFormed {document : Json} (h : WellFormedDocument document) :
    ∃ n, ofJson document = .ok n := by
  obtain ⟨traces, ht, hwell⟩ := h
  obtain ⟨ns, hns⟩ := exists_tracesOf_of_wellFormed hwell
  simp only [ofJson, ht, hns]
  exact ⟨_, rfl⟩

theorem wellFormedDocument_or_rejected (document : Json) : WellFormedDocument document ∨ ∃ e, Rejected document e := by
  cases ht : (document.get? "traces").bind Json.members? with
  | none => exact .inr ⟨_, .noTraces ht⟩
  | some traces =>
    have htrace : ∀ e ∈ traces, WellFormedTrace e.2 ∨ ∃ error, ∀ before after,
        traces = before ++ e :: after → (∀ b ∈ before, WellFormedTrace b.2) → Rejected document error := by
      rintro ⟨name, trace⟩ -
      cases hm : (trace.get? "attributes").bind Json.members? with
      | none => exact .inr ⟨_, fun before after hl hb => .noAttributes before after name trace (hl ▸ ht) hb hm⟩
      | some members =>
        rcases wellFormed_or_firstFault ⟨[name], members⟩ with hwell | ⟨keys, fault, hfirst⟩
        · exact .inl ⟨members, hm, hwell⟩
        · exact .inr ⟨_, fun before after hl hb => .inTrace before after name trace (hl ▸ ht) hb hm hfirst⟩
    rcases forall_or_exists_first htrace with hwell | ⟨before, e, after, hl, hbefore, error, hrejected⟩
    · exact .inl ⟨traces, ht, hwell⟩
    · exact .inr ⟨error, hrejected before after hl hbefore⟩

/-- A document is read exactly when it is well formed, and the error of any other one is that of the first place that
    is wrong. -/
theorem ofJson_accepts_grammar (document : Json) :
    ((∃ n, ofJson document = .ok n) ↔ WellFormedDocument document) ∧
      ∀ e, ofJson document = .error e ↔ Rejected document e := by
  refine ⟨⟨?_, exists_ofJson_of_wellFormed⟩, fun e => ⟨?_, ofJson_error_of_rejected⟩⟩
  · rintro ⟨n, hn⟩
    rcases wellFormedDocument_or_rejected document with hwell | ⟨error, hrejected⟩
    · exact hwell
    · rw [ofJson_error_of_rejected hrejected] at hn
      cases hn
  · intro he
    rcases wellFormedDocument_or_rejected document with hwell | ⟨error, hrejected⟩
    · obtain ⟨n, hn⟩ := exists_ofJson_of_wellFormed hwell
      rw [hn] at he
      cases he
    · rw [ofJson_error_of_rejected hrejected, Except.error.injEq] at he
      exact he ▸ hrejected

/-- The keys of a container and of its item are both on the way to a fault in the item. -/
example : ofJson (.object [("traces", .object [("bar", .object [("attributes", .object
    [("steps", .object [("items", .object [("step", .object [("x", .object [("valType", .null)])])])])])])])]) =
      .error (.badShape "bar.steps.step.x" .tagNotString) := by
  rfl

end PlotTypes.Schema
