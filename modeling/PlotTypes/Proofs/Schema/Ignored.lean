/-
  PlotTypes.Proofs.Schema.Ignored — what a schema document can lose unnoticed.

  The same key means different things in the objects of a document, so what is not read is told
  for each of them. Beside the section of traces nothing is; in a trace, all but its attributes
  and its `meta`; in a leaf and in a container, all but the keys that they are read by; and where
  entries are attributes, the hidden ones, and values that are no objects unless their key
  decides what the object is or describes it. `Loses` says that a document has lost one such
  entry, at whatever depth.
  - `Dropped.get?_eq`, `Changed.get?_of_ne`: what is still found under a key.
  - `attributeOf_leaf_congr` and those beside it: one shape of attribute each.
  - `LosesAttributes.attributesOf_eq`: by induction on the way to the lost entry.
  - `ofJson_eq_of_loses`: the tree, or the error, is the same.
-/

import PlotTypes.Proofs.Schema.Reading

namespace PlotTypes.Schema

variable {members less inner inner' : Json.Members} {key : String} {v w : Json}

/-! ## One entry less -/

/-- One entry is left out, which `may` be. -/
inductive Dropped (may : String → Json → Prop) : Json.Members → Json.Members → Prop
  | mk (before after : Json.Members) (key : String) (v : Json) : may key v →
      Dropped may (before ++ (key, v) :: after) (before ++ after)

/-- The value found under a key is changed from `v` to `w`. No key repeats in a document that was read
    (`Json.uniqueKeys_of_read`), so there every value is the one found under its key. -/
inductive Changed (key : String) (v w : Json) : Json.Members → Json.Members → Prop
  | mk (before after : Json.Members) : key ∉ before.keys →
      Changed key v w (before ++ (key, v) :: after) (before ++ (key, w) :: after)

def Beside (keys : List String) (key : String) (_ : Json) : Prop := key ∉ keys

/-- An entry that is no attribute, and neither decides the shape of its object nor describes it. -/
def NoAttribute (key : String) (v : Json) : Prop :=
  isHidden key = true ∨ v.members? = none ∧ key ∉ ["valType", "items", "description"]

def leafKeys : List String := ["valType", "dflt", "arrayOk", "description"]

def containerKeys : List String := ["valType", "items", "description"]

inductive LosesAttributes : Json.Members → Json.Members → Prop
  | entry {members less : Json.Members} : Dropped NoAttribute members less → LosesAttributes members less
  | inLeaf {members less inner inner' : Json.Members} (key : String) :
      Changed key (.object inner) (.object inner') members less → inner.get? "valType" ≠ none →
      Dropped (Beside leafKeys) inner inner' → LosesAttributes members less
  | inContainer {members less inner inner' : Json.Members} (key : String) :
      Changed key (.object inner) (.object inner') members less → inner.get? "valType" = none →
      inner.get? "items" ≠ none → Dropped (Beside containerKeys) inner inner' → LosesAttributes members less
  | inItem {members less inner inner' item item' : Json.Members} (key name : String) :
      Changed key (.object inner) (.object inner') members less → inner.get? "valType" = none →
      Changed "items" (.object [(name, .object item)]) (.object [(name, .object item')]) inner inner' →
      LosesAttributes item item' → LosesAttributes members less
  | inCompound {members less inner inner' : Json.Members} (key : String) :
      Changed key (.object inner) (.object inner') members less → inner.get? "valType" = none →
      inner.get? "items" = none → LosesAttributes inner inner' → LosesAttributes members less

inductive LosesTrace : Json → Json → Prop
  | entry {members less : Json.Members} : Dropped (Beside ["attributes", "meta"]) members less →
      LosesTrace (.object members) (.object less)
  | inAttributes {members less attributes attributes' : Json.Members} :
      Changed "attributes" (.object attributes) (.object attributes') members less →
      LosesAttributes attributes attributes' → LosesTrace (.object members) (.object less)

inductive Loses : Json → Json → Prop
  | entry {members less : Json.Members} : Dropped (Beside ["traces"]) members less →
      Loses (.object members) (.object less)
  | inTrace {members less traces traces' : Json.Members} {trace trace' : Json} (name : String) :
      Changed "traces" (.object traces) (.object traces') members less → Changed name trace trace' traces traces' →
      LosesTrace trace trace' → Loses (.object members) (.object less)

/-! ## What is still found -/

theorem Dropped.get?_eq {may : String → Json → Prop} (h : Dropped may members less) (hkey : ∀ v, ¬may key v) :
    less.get? key = members.get? key := by
  obtain ⟨before, after, k, v, hmay⟩ := h
  have hne : (key == k) = false := by
    rw [beq_eq_false_iff_ne]
    rintro rfl
    exact hkey v hmay
  rw [Json.Members.get?, Json.Members.get?, List.lookup_append, List.lookup_append, List.lookup_cons, hne]

theorem Dropped.get?_of_mem {keys : List String} (h : Dropped (Beside keys) members less) :
    ∀ k ∈ keys, less.get? k = members.get? k :=
  fun _ hk => h.get?_eq fun _ hmay => hmay hk

theorem get?_append_of_not_mem {before : Json.Members} (h : key ∉ before.keys) (after : Json.Members) :
    Json.Members.get? (before ++ (key, v) :: after) key = some v := by
  have hnone : before.lookup key = none := by
    rw [List.lookup_eq_none_iff]
    intro e he
    rw [bne_iff_ne]
    rintro rfl
    exact h (List.mem_map_of_mem he)
  rw [Json.Members.get?, List.lookup_append, hnone, List.lookup_cons_self]
  rfl

theorem Changed.get?_left (h : Changed key v w members less) : members.get? key = some v := by
  obtain ⟨before, after, hkey⟩ := h
  exact get?_append_of_not_mem hkey after

theorem Changed.get?_right (h : Changed key v w members less) : less.get? key = some w := by
  obtain ⟨before, after, hkey⟩ := h
  exact get?_append_of_not_mem hkey after

theorem Changed.get?_of_ne {k : String} (h : Changed key v w members less) (hk : k ≠ key) :
    less.get? k = members.get? k := by
  obtain ⟨before, after, -⟩ := h
  have hne : (k == key) = false := beq_eq_false_iff_ne.mpr hk
  rw [Json.Members.get?, Json.Members.get?, List.lookup_append, List.lookup_append, List.lookup_cons, List.lookup_cons,
    hne]

theorem described_congr (h : less.get? "description" = members.get? "description") :
    described less = described members := by
  rw [described, described, h]

/-- An object is no description, whatever is in it. -/
theorem Changed.described_eq (h : Changed key (.object inner) (.object inner') members less) :
    described less = described members := by
  by_cases hk : key = "description"
  · subst hk
    rw [described, described, h.get?_left, h.get?_right]
    rfl
  · exact described_congr (h.get?_of_ne (Ne.symm hk))

theorem Changed.get?_eq_none {k : String} (h : Changed key v w members less) (hnone : members.get? k = none) :
    less.get? k = none := by
  by_cases hk : k = key
  · rw [hk, h.get?_left] at hnone
    cases hnone
  · rw [h.get?_of_ne hk, hnone]

theorem LosesAttributes.described_eq (h : LosesAttributes members less) : described less = described members := by
  cases h with
  | entry hdrop =>
    refine described_congr (hdrop.get?_eq fun v hmay => ?_)
    rcases hmay with hhidden | ⟨-, hkey⟩
    · exact absurd hhidden (by decide)
    · exact hkey (by simp)
  | inLeaf key hchanged => exact hchanged.described_eq
  | inContainer key hchanged => exact hchanged.described_eq
  | inItem key name hchanged => exact hchanged.described_eq
  | inCompound key hchanged => exact hchanged.described_eq

theorem Dropped.get?_eq_none {may : String → Json → Prop} {k : String} (h : Dropped may members less)
    (hnone : members.get? k = none) : less.get? k = none := by
  obtain ⟨before, after, key, v, -⟩ := h
  rw [Json.Members.get?, List.lookup_eq_none_iff] at hnone ⊢
  exact fun e he => hnone e (List.mem_append.mpr ((List.mem_append.mp he).imp_right (List.mem_cons_of_mem _)))

theorem LosesAttributes.get?_eq_none {k : String} (h : LosesAttributes members less) (hnone : members.get? k = none) :
    less.get? k = none := by
  cases h with
  | entry hdrop => exact hdrop.get?_eq_none hnone
  | inLeaf key hchanged => exact hchanged.get?_eq_none hnone
  | inContainer key hchanged => exact hchanged.get?_eq_none hnone
  | inItem key name hchanged => exact hchanged.get?_eq_none hnone
  | inCompound key hchanged => exact hchanged.get?_eq_none hnone

/-! ## One attribute -/

theorem attributeOf_leaf_congr (hleaf : inner.get? "valType" ≠ none)
    (h : ∀ k ∈ leafKeys, inner'.get? k = inner.get? k) (path key : String) :
    attributeOf path key (.object inner') = attributeOf path key (.object inner) := by
  have htag := h "valType" (by decide)
  cases hv : inner.get? "valType" with
  | none => exact absurd hv hleaf
  | some v =>
    rw [hv] at htag
    cases v with
    | string tag =>
      have hread : leafOf key tag inner' = leafOf key tag inner := by
        rw [leafOf, leafOf, h "arrayOk" (by decide), h "dflt" (by decide), described_congr (h "description" (by decide))]
      rw [attributeOf, attributeOf, shapeOf_leaf_iff.mpr htag, shapeOf_leaf_iff.mpr hv]
      simp only [hread]
    | _ => simp only [attributeOf, shapeOf, htag, hv]

theorem attributeOf_container_congr (htag : inner.get? "valType" = none) (hitems : inner.get? "items" ≠ none)
    (h : ∀ k ∈ containerKeys, inner'.get? k = inner.get? k) (path key : String) :
    attributeOf path key (.object inner') = attributeOf path key (.object inner) := by
  have hdescribed : described inner' = described inner := described_congr (h "description" (by decide))
  have hshape : shapeOf inner' = shapeOf inner := by
    rw [shapeOf, shapeOf, h "valType" (by decide), h "items" (by decide)]
  rw [attributeOf, attributeOf, hshape]
  cases hs : shapeOf inner with
  | error f => rfl
  | ok shape =>
    cases shape with
    | leaf tag =>
      rw [shapeOf_leaf_iff.mp hs] at htag
      cases htag
    | container name item =>
      obtain ⟨-, hi⟩ := shapeOf_container_iff.mp hs
      simp only [elementAttributesOf_eq hi, elementAttributesOf_eq ((h "items" (by decide)).trans hi), hdescribed]
    | compound => exact absurd (shapeOf_compound_iff.mp hs).2 hitems

theorem attributeOf_item_congr {item item' : Json.Members} {name : String} (htag : inner.get? "valType" = none)
    (hchanged : Changed "items" (.object [(name, .object item)]) (.object [(name, .object item')]) inner inner')
    (hdescribed : described item' = described item) (h : ∀ path, attributesOf path item' = attributesOf path item)
    (path key : String) : attributeOf path key (.object inner') = attributeOf path key (.object inner) := by
  have hshape := shapeOf_container_iff.mpr ⟨htag, hchanged.get?_left⟩
  have hshape' := shapeOf_container_iff.mpr ⟨hchanged.get?_eq_none htag, hchanged.get?_right⟩
  rw [attributeOf, attributeOf, hshape, hshape']
  simp only [elementAttributesOf_eq hchanged.get?_left, elementAttributesOf_eq hchanged.get?_right, h, hdescribed,
    hchanged.described_eq]

theorem attributeOf_compound_congr (htag : inner.get? "valType" = none) (htag' : inner'.get? "valType" = none)
    (hitems : inner.get? "items" = none) (hitems' : inner'.get? "items" = none)
    (hdescribed : described inner' = described inner) (h : ∀ path, attributesOf path inner' = attributesOf path inner)
    (path key : String) : attributeOf path key (.object inner') = attributeOf path key (.object inner) := by
  rw [attributeOf, attributeOf, shapeOf_compound_iff.mpr ⟨htag, hitems⟩, shapeOf_compound_iff.mpr ⟨htag', hitems'⟩]
  simp only [h, hdescribed]

/-! ## Objects of attributes -/

/-- The attributes after some entries decide what is read from there on. -/
theorem attributesOf_append_congr {path : String} {after after' : Json.Members}
    (h : attributesOf path after' = attributesOf path after) (before : Json.Members) :
    attributesOf path (before ++ after') = attributesOf path (before ++ after) := by
  induction before with
  | nil => exact h
  | cons e r ih => rw [List.cons_append, List.cons_append, attributesOf, attributesOf, ih]

theorem attributesOf_dropped (h : Dropped NoAttribute members less) (path : String) :
    attributesOf path less = attributesOf path members := by
  obtain ⟨before, after, key, v, hmay⟩ := h
  refine attributesOf_append_congr ?_ before
  rw [attributesOf]
  rcases hmay with hhidden | ⟨hv, -⟩
  · rw [if_pos hhidden]
  · have hnone : attributeOf (below path key) key v = none := by
      rw [attributeOf]
      rintro m rfl
      cases hv
    rw [hnone]
    split
    · rfl
    · rfl

theorem attributesOf_changed (hchanged : Changed key v w members less)
    (h : ∀ path, attributeOf path key w = attributeOf path key v) (path : String) :
    attributesOf path less = attributesOf path members := by
  obtain ⟨before, after, -⟩ := hchanged
  refine attributesOf_append_congr ?_ before
  rw [attributesOf, attributesOf, h]

theorem LosesAttributes.attributesOf_eq (h : LosesAttributes members less) (path : String) :
    attributesOf path less = attributesOf path members := by
  induction h generalizing path with
  | entry hdrop => exact attributesOf_dropped hdrop path
  | inLeaf key hchanged hleaf hdrop =>
    exact attributesOf_changed hchanged
      (fun at_ => attributeOf_leaf_congr hleaf hdrop.get?_of_mem at_ key) path
  | inContainer key hchanged htag hitems hdrop =>
    exact attributesOf_changed hchanged
      (fun at_ => attributeOf_container_congr htag hitems hdrop.get?_of_mem at_ key) path
  | inItem key name hchanged htag hitem hloses ih =>
    exact attributesOf_changed hchanged
      (fun at_ => attributeOf_item_congr htag hitem hloses.described_eq ih at_ key) path
  | inCompound key hchanged htag hitems hloses ih =>
    exact attributesOf_changed hchanged
      (fun at_ => attributeOf_compound_congr htag (hloses.get?_eq_none htag) hitems (hloses.get?_eq_none hitems)
        hloses.described_eq ih at_ key) path

/-! ## Documents -/

theorem get?_object (members : Json.Members) (key : String) : (Json.object members).get? key = members.get? key := rfl

theorem LosesTrace.traceOf_eq {trace trace' : Json} (h : LosesTrace trace trace') (name : String) :
    traceOf name trace' = traceOf name trace := by
  cases h with
  | entry hdrop =>
    simp only [traceOf, get?_object, hdrop.get?_of_mem "attributes" (by decide),
      hdrop.get?_of_mem "meta" (by decide)]
  | inAttributes hchanged hloses =>
    simp only [traceOf, get?_object, hchanged.get?_left, hchanged.get?_right,
      hchanged.get?_of_ne (k := "meta") (by decide), Option.bind_some, Json.members?, hloses.attributesOf_eq]

theorem tracesOf_changed {trace trace' : Json} {name : String} (hchanged : Changed name trace trace' members less)
    (h : traceOf name trace' = traceOf name trace) : tracesOf less = tracesOf members := by
  obtain ⟨before, after, -⟩ := hchanged
  induction before with
  | nil => rw [List.nil_append, List.nil_append, tracesOf, tracesOf, h]
  | cons e r ih => rw [List.cons_append, List.cons_append, tracesOf, tracesOf, ih]

/-- A document that loses an entry that is not read gives the same tree, or the same error; and so does its text. -/
theorem ofJson_eq_of_loses {document less : Json} (h : Loses document less) :
    ofJson less = ofJson document ∧
      ∀ text shorter, Json.read text = .ok document → Json.read shorter = .ok less → ofText shorter = ofText text := by
  have heq : ofJson less = ofJson document := by
    cases h with
    | entry hdrop => simp only [ofJson, get?_object, hdrop.get?_of_mem "traces" (by decide)]
    | inTrace name hchanged htrace hloses =>
      simp only [ofJson, get?_object, hchanged.get?_left, hchanged.get?_right, Option.bind_some, Json.members?,
        tracesOf_changed htrace (hloses.traceOf_eq name)]
  refine ⟨heq, fun text shorter htext hshorter => ?_⟩
  simp only [ofText, htext, hshorter, heq]

def hiddenItem : Json.Members :=
  [("_old", .object [("valType", .number (.integer 3))]), ("x", .object [("valType", .string "any")])]

def stepsDocument (item : Json.Members) : Json :=
  .object [("traces", .object [("bar", .object [("attributes", .object [("steps", .object
    [("items", .object [("step", .object item)])])])])])]

theorem ofJson_eq_of_loses_hidden :
    Loses (stepsDocument hiddenItem) (stepsDocument (hiddenItem.drop 1)) ∧
      ofJson (stepsDocument (hiddenItem.drop 1)) = ofJson (stepsDocument hiddenItem) ∧
      (∃ n, ofJson (stepsDocument hiddenItem) = .ok n) := by
  have hdrop : LosesAttributes hiddenItem (hiddenItem.drop 1) := .entry (.mk [] (hiddenItem.drop 1) "_old" _ (.inl rfl))
  have hloses : Loses (stepsDocument hiddenItem) (stepsDocument (hiddenItem.drop 1)) :=
    .inTrace "bar" (.mk [] [] (by decide)) (.mk [] [] (by decide))
      (.inAttributes (.mk [] [] (by decide))
        (.inItem "steps" "step" (.mk [] [] (by decide)) rfl (.mk [] [] (by decide)) hdrop))
  exact ⟨hloses, (ofJson_eq_of_loses hloses).1, _, rfl⟩

end PlotTypes.Schema
