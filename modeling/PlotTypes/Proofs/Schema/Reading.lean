/-
  PlotTypes.Proofs.Schema.Reading — which nodes are read from which objects.

  - `attributesOf_ok_iff`: the attributes of an object are read from its attribute entries,
    one from each, in order.
  - `ReadAs`: the three things an attribute object is read as. Nothing else opens the
    reader of one attribute.
  - `ReadFrom`: a placed compound is read from a compound object.
  - `readFrom_compoundObjects`: the compounds of a tree are read from the compound objects
    of its document, one from each, in order.
  - `belowTraces_of_ofJson`: what every attribute has by the way it is read, all nodes below the
    traces have.
  - `built_of_ofJson`: a tree that is read is one that the constructors make.
-/

import PlotTypes.Proofs.Pairing
import PlotTypes.Proofs.Schema.Objects
import PlotTypes.Proofs.Schema.Tree

namespace PlotTypes.Schema

open PlotTypes.Python

/-! ## Reading one attribute -/

theorem shapeOf_leaf_iff {members : Json.Members} {tag : String} :
    shapeOf members = .ok (.leaf tag) ↔ members.get? "valType" = some (.string tag) := by
  unfold shapeOf
  repeat' split
  all_goals simp_all

theorem shapeOf_container_iff {members item : Json.Members} {name : String} :
    shapeOf members = .ok (.container name item) ↔
      members.get? "valType" = none ∧ members.get? "items" = some (.object [(name, .object item)]) := by
  unfold shapeOf
  repeat' split
  all_goals simp_all

theorem shapeOf_compound_iff {members : Json.Members} :
    shapeOf members = .ok .compound ↔ members.get? "valType" = none ∧ members.get? "items" = none := by
  unfold shapeOf
  repeat' split
  all_goals simp_all

/-- The element of a container is the one found under `items`. -/
theorem elementAttributesOf_eq {path name : String} {members item : Json.Members}
    (h : members.get? "items" = some (.object [(name, .object item)])) :
    elementAttributesOf path members = attributesOf path item := by
  unfold Json.Members.get? at h
  induction members with
  | nil => cases h
  | cons e r ih =>
    obtain ⟨key, v⟩ := e
    rw [elementAttributesOf]
    by_cases hk : key = "items"
    · subst hk
      rw [List.lookup_cons_self] at h
      cases h
      rw [if_pos rfl, itemAttributesOf]
    · have hne : ("items" == key) = false := by simpa using Ne.symm hk
      rw [List.lookup_cons, hne] at h
      rw [if_neg hk]
      exact ih h

inductive ReadAs (path key : String) (members : Json.Members) : Node → Prop
  | leaf (tag : String) : members.get? "valType" = some (.string tag) →
      ReadAs path key members (leafOf key tag members)
  | element (name : String) (item : Json.Members) (children : List Node) : members.get? "valType" = none →
      members.get? "items" = some (.object [(name, .object item)]) → attributesOf (below path name) item = .ok children →
      ReadAs path key members
        { Node.element key name children with description := (described item).or (described members) }
  | compound (children : List Node) : members.get? "valType" = none → members.get? "items" = none →
      attributesOf path members = .ok children →
      ReadAs path key members { Node.compound key children with description := described members }

theorem readAs_of_attributeOf {path key : String} {members : Json.Members} {n : Node}
    (h : attributeOf path key (.object members) = some (.ok n)) : ReadAs path key members n := by
  rw [attributeOf] at h
  split at h
  · cases h
  · rename_i tag hs
    cases h
    exact .leaf tag (shapeOf_leaf_iff.mp hs)
  · rename_i name item hs
    obtain ⟨hv, hi⟩ := shapeOf_container_iff.mp hs
    rw [elementAttributesOf_eq hi, Option.some.injEq, map_ok_iff] at h
    obtain ⟨children, hc, rfl⟩ := h
    exact .element name item children hv hi hc
  · rename_i hs
    obtain ⟨hv, hi⟩ := shapeOf_compound_iff.mp hs
    rw [Option.some.injEq, map_ok_iff] at h
    obtain ⟨children, hc, rfl⟩ := h
    exact .compound children hv hi hc

/-- The attributes of an object are read from its attribute entries, in order. -/
theorem attributesOf_ok_iff {path : String} {members : Json.Members} {ns : List Node} :
    attributesOf path members = .ok ns ↔
      List.Forall₂ (fun e n => attributeOf (below path e.1) e.1 (.object e.2) = some (.ok n))
        (attributeEntries members) ns := by
  induction members generalizing ns with
  | nil =>
    show Except.ok [] = Except.ok ns ↔ List.Forall₂ _ [] ns
    rw [List.forall₂_nil_left_iff, Except.ok.injEq, eq_comm]
  | cons e r ih =>
    obtain ⟨key, v⟩ := e
    rw [attributesOf]
    by_cases hk : isHidden key = true
    · rw [if_pos hk, attributeEntries_skip (.inl hk), ih]
    rw [if_neg hk]
    cases v with
    | object inner =>
      rw [attributeEntries_keep (by simpa using hk), List.forall₂_cons_left_iff]
      cases ha : attributeOf (below path key) key (.object inner) with
      | none =>
        rw [attributeOf] at ha
        split at ha <;> cases ha
      | some x =>
        cases x with
        | error f => simp
        | ok n =>
          simp only [← ih, Option.some.injEq, Except.ok.injEq]
          cases hr : attributesOf path r with
          | error f => simp
          | ok rest =>
            simp only [Except.ok.injEq]
            constructor
            · rintro rfl
              exact ⟨n, rest, rfl, rfl, rfl⟩
            · rintro ⟨_, _, rfl, rfl, rfl⟩
              rfl
    | _ =>
      rw [attributeEntries_skip (.inr rfl), attributeOf]
      · exact ih
      · nofun

/-! ## One attribute and its entry -/

structure ReadEntry (e : String × Json.Members) (n : Node) : Prop where
  property : n.property = e.1
  parameter : n.parameter = parameterName e.1
  defaultValue : n.defaultValue = defaultOf e.2
  leaf : n.isCompound = false → ∃ tag, e.2.get? "valType" = some (.string tag) ∧ n.tag = some tag

theorem ReadAs.readEntry {path key : String} {members : Json.Members} {n : Node} (h : ReadAs path key members n)
    (above : List String) : ReadEntry (key, members) (Node.placed above n) := by
  have ha := Node.toAttribute_placed above n
  cases h with
  | leaf tag hv =>
    refine ⟨by rw [ha]; rfl, by rw [ha]; rfl, ?_, fun _ => ⟨tag, hv, by rw [ha]; rfl⟩⟩
    rw [ha]
    simp only [leafOf, defaultOf, hv]
    cases members.get? "dflt" <;> rfl
  | element name item children hv hi hc =>
    refine ⟨by rw [ha]; rfl, by rw [ha]; rfl, ?_, fun h => ?_⟩
    · rw [ha]
      simp only [defaultOf, hv]
      rfl
    · rw [ha] at h
      cases h
  | compound children hv hi hc =>
    refine ⟨by rw [ha]; rfl, by rw [ha]; rfl, ?_, fun h => ?_⟩
    · rw [ha]
      simp only [defaultOf, hv]
      rfl
    · rw [ha] at h
      cases h

/-! ## Compounds and their objects -/

structure ReadFrom (o : CompoundObject) (n : Node) : Prop where
  isCompound : n.isCompound = true
  path : n.path = o.path
  children : ∃ at_ ns, attributesOf at_ o.members = .ok ns ∧ n.children = ns.map (Node.placed o.path)

theorem ReadFrom.readEntries {o : CompoundObject} {n : Node} (h : ReadFrom o n) :
    List.Forall₂ ReadEntry (attributeEntries o.members) n.children := by
  obtain ⟨at_, ns, hns, hc⟩ := h.children
  rw [hc, List.forall₂_map_right_iff]
  exact (attributesOf_ok_iff.mp hns).imp fun e c hec => (readAs_of_attributeOf hec).readEntry o.path

/-- The compound read from an attribute object is read from the compound object in it. -/
theorem ReadAs.readFrom {path key : String} {members : Json.Members} {n : Node} (h : ReadAs path key members n)
    (above : List String) :
    Option.Rel ReadFrom ((compoundIn? key members).map fun (name, item) => ⟨above ++ [name], item⟩)
      (if n.isCompound then some (Node.placed above n) else none) := by
  cases h with
  | leaf tag hv =>
    have hn : compoundIn? key members = none := by simp [compoundIn?, hv]
    rw [hn]
    exact .none
  | element name item children hv hi hc =>
    rw [compoundIn?_item hv hi]
    exact .some ⟨rfl, rfl, _, children, hc, Node.children_placed above _⟩
  | compound children hv hi hc =>
    rw [compoundIn?_self hv hi]
    exact .some ⟨rfl, rfl, _, children, hc, Node.children_placed above _⟩

/-- One step down, the compounds are read from the objects. -/
theorem ReadFrom.nested {o : CompoundObject} {n : Node} (h : ReadFrom o n) :
    List.Forall₂ ReadFrom o.nested n.compoundChildren := by
  obtain ⟨at_, ns, hns, hc⟩ := h.children
  rw [Node.compoundChildren_of_placed hc]
  refine List.rel_filterMap (R := fun e c => ∃ path, ReadAs path e.1 e.2 c) ?_ ?_
  · rintro ⟨key, members⟩ c ⟨path, hr⟩
    exact hr.readFrom o.path
  · exact (attributesOf_ok_iff.mp hns).imp fun e c hec => ⟨_, readAs_of_attributeOf hec⟩

/-- All the way down. -/
theorem ReadFrom.inner {o : CompoundObject} {n : Node} (h : ReadFrom o n) : List.Forall₂ ReadFrom o.inner n.inner := by
  induction o using CompoundObject.induction generalizing n with
  | step o ih =>
    rw [CompoundObject.inner_eq, Node.inner_eq]
    exact List.rel_append h.nested (List.rel_flatMap (forall₂_of_mem h.nested) fun p c hpc => ih p hpc.1 hpc.2)

/-! ## Whole documents -/

theorem traceOf_ok {name : String} {trace : Json} {n : Node} (h : traceOf name trace = .ok n) :
    ∃ members children, (trace.get? "attributes").bind Json.members? = some members ∧
      attributesOf name members = .ok children ∧
      n = { Node.compound name children with
        description := ((trace.get? "meta").bind (·.get? "description")).bind Json.string? } := by
  unfold traceOf at h
  split at h
  · cases h
  · rename_i members hm
    obtain ⟨children, hc, rfl⟩ := map_ok_iff.mp h
    exact ⟨members, children, hm, hc, rfl⟩

theorem tracesOf_ok_iff {traces : Json.Members} {ns : List Node} :
    tracesOf traces = .ok ns ↔ List.Forall₂ (fun e n => traceOf e.1 e.2 = .ok n) traces ns := by
  induction traces generalizing ns with
  | nil => rw [tracesOf, List.forall₂_nil_left_iff, Except.ok.injEq, eq_comm]
  | cons e r ih =>
    obtain ⟨name, trace⟩ := e
    rw [tracesOf, List.forall₂_cons_left_iff]
    cases ht : traceOf name trace with
    | error e => simp
    | ok n =>
      simp only [map_ok_iff, ih]
      constructor
      · rintro ⟨rest, hr, rfl⟩
        exact ⟨n, rest, rfl, hr, rfl⟩
      · rintro ⟨_, rest, hn, hr, rfl⟩
        cases hn
        exact ⟨rest, hr, rfl⟩

theorem ofJson_ok {document : Json} {n : Node} (h : ofJson document = .ok n) :
    ∃ traces ns, (document.get? "traces").bind Json.members? = some traces ∧ tracesOf traces = .ok ns ∧
      n = Node.root ns := by
  unfold ofJson at h
  split at h
  · cases h
  · rename_i traces ht
    obtain ⟨ns, hns, rfl⟩ := map_ok_iff.mp h
    exact ⟨traces, ns, ht, hns, rfl⟩

theorem ofText_ok_iff {text : String} {n : Node} :
    ofText text = .ok n ↔ ∃ document, Json.read text = .ok document ∧ ofJson document = .ok n := by
  unfold ofText
  cases Json.read text with
  | error f => simp
  | ok document => simp

/-- The compounds directly below the root are the traces. -/
theorem readFrom_traceObjects {document : Json} {n : Node} (h : ofJson document = .ok n) :
    List.Forall₂ ReadFrom (traceObjects document) n.compoundChildren := by
  obtain ⟨traces, ns, ht, hns, rfl⟩ := ofJson_ok h
  rw [traceObjects, ht, Node.compoundChildren_of_placed (Node.children_root ns)]
  refine List.rel_filterMap ?_ (tracesOf_ok_iff.mp hns)
  rintro ⟨name, trace⟩ c hr
  obtain ⟨members, children, hm, hc, rfl⟩ := traceOf_ok hr
  simp only [hm]
  exact .some ⟨rfl, rfl, _, children, hc, Node.children_placed [] _⟩

/-- The compounds of a tree are read from the compound objects of its document, in order. -/
theorem readFrom_compoundObjects {document : Json} {n : Node} (h : ofJson document = .ok n) :
    List.Forall₂ ReadFrom (compoundObjects document) n.inner := by
  have ht := readFrom_traceObjects h
  rw [compoundObjects, Node.inner_eq]
  exact List.rel_append ht (List.rel_flatMap ht fun _ _ hr => hr.inner)

/-! ## Every node that is read -/

/-- What every single attribute has by the way it is read, all attributes read from an object have, and all below them. -/
theorem everywhere_of_attributesOf {P : Node → Prop}
    (reads : ∀ path key members a, isHidden key = false → ReadAs path key members a → P a) (o : CompoundObject) :
    ∀ path ns, attributesOf path o.members = .ok ns → ∀ c ∈ ns, Node.Everywhere P c := by
  induction o using CompoundObject.induction with
  | step o ih =>
    intro path ns hns c hc
    obtain ⟨⟨key, members⟩, he, ha⟩ := exists_left_of_mem (attributesOf_ok_iff.mp hns) c hc
    have hread := readAs_of_attributeOf ha
    refine .mk c (reads _ key members c (mem_attributeEntries.mp he).1 hread) ?_
    cases hread with
    | leaf tag hv => exact nofun
    | element name item children hv hi hr =>
      exact ih _ (CompoundObject.mem_nested he (compoundIn?_item hv hi key)) _ children hr
    | compound children hv hi hr =>
      exact ih _ (CompoundObject.mem_nested he (compoundIn?_self hv hi key)) _ children hr

/-- Each trace is a compound, placed, with the attributes that are read from its object. -/
theorem trace_of_ofJson {document : Json} {n : Node} (h : ofJson document = .ok n) : ∀ t ∈ n.children,
    ∃ name members children description, attributesOf name members = .ok children ∧
      t = Node.placed [] { Node.compound name children with description } := by
  obtain ⟨traces, ns, -, hns, rfl⟩ := ofJson_ok h
  intro t ht
  rw [Node.children_root, List.mem_map] at ht
  obtain ⟨d, hd, rfl⟩ := ht
  obtain ⟨⟨name, trace⟩, -, hread⟩ := exists_left_of_mem (tracesOf_ok_iff.mp hns) d hd
  obtain ⟨members, children, -, hchildren, rfl⟩ := traceOf_ok hread
  exact ⟨name, members, children, _, hchildren, rfl⟩

def BelowTraces (P : Node → Prop) (n : Node) : Prop := ∀ t ∈ n.children, ∀ c ∈ t.children, Node.Everywhere P c

/-- Below the traces of a document there are only attributes, and they are placed. -/
theorem belowTraces_of_ofJson {P : Node → Prop} (keeps : ∀ above a, P a → P (Node.placed above a))
    (reads : ∀ path key members a, isHidden key = false → ReadAs path key members a → P a)
    {document : Json} {n : Node} (h : ofJson document = .ok n) : BelowTraces P n := by
  intro t ht c hc
  obtain ⟨name, members, children, description, hchildren, rfl⟩ := trace_of_ofJson h t ht
  rw [Node.children_placed, List.mem_map] at hc
  obtain ⟨b, hb, rfl⟩ := hc
  exact Node.everywhere_placed keeps (everywhere_of_attributesOf reads ⟨[name], members⟩ name children hchildren b hb) _

/-! ## Built trees -/

/-- The children read from an object are made with the constructors. -/
theorem built_of_attributesOf (o : CompoundObject) :
    ∀ at_ ns, attributesOf at_ o.members = .ok ns → ∀ c ∈ ns, Node.Built c := by
  induction o using CompoundObject.induction with
  | step o ih =>
    intro at_ ns hns c hc
    obtain ⟨⟨key, members⟩, he, ha⟩ := exists_left_of_mem (attributesOf_ok_iff.mp hns) c hc
    cases readAs_of_attributeOf ha with
    | leaf tag hv => exact .noted (Node.leaf key tag) _ _ _ (.leaf key tag)
    | element name item children hv hi hr =>
      have hin := compoundIn?_item hv hi key
      exact .noted _ _ _ _ (.element key name children (ih _ (CompoundObject.mem_nested he hin) _ children hr))
    | compound children hv hi hr =>
      have hin := compoundIn?_self hv hi key
      exact .noted _ _ _ _ (.compound key children (ih _ (CompoundObject.mem_nested he hin) _ children hr))

theorem built_of_traceOf {name : String} {trace : Json} {n : Node} (h : traceOf name trace = .ok n) : Node.Built n := by
  obtain ⟨members, children, -, hc, rfl⟩ := traceOf_ok h
  exact .noted _ _ _ _ (.compound name children (built_of_attributesOf ⟨[name], members⟩ _ children hc))

/-- The tree of a document is the root above built traces. -/
theorem built_of_ofJson {document : Json} {n : Node} (h : ofJson document = .ok n) :
    ∃ ns, n = Node.root ns ∧ ∀ c ∈ ns, Node.Built c := by
  obtain ⟨traces, ns, -, hns, rfl⟩ := ofJson_ok h
  refine ⟨ns, rfl, fun c hc => ?_⟩
  obtain ⟨⟨name, trace⟩, -, ht⟩ := exists_left_of_mem (tracesOf_ok_iff.mp hns) c hc
  exact built_of_traceOf ht

end PlotTypes.Schema
