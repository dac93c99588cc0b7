/-
  PlotTypes.Proofs.Schema.MetaKeys — the keys of a document that should name no attribute.

  Beside its attributes an object has entries that tell of the object: `role`, `editType`,
  `description`, `items`. What keeps them from being read as attributes is that their values
  are no objects; only `items` is known by its key, and only in an attribute. So an attribute
  does go by such a key where an object stands under it.
  - `itemless_of_ofJson`: a compound attribute has no attribute `items`.
  - `unused_iff_of_ofJson`: whether any attribute of a tree goes by a key, told from the
    compound objects of its document.
  - `metaKeys_unused_iff`: when no attribute of a text goes by a meta key.
    `objects_read_as_attributes` is a text where some do.
-/

import PlotTypes.Proofs.Schema.Regularity

namespace PlotTypes.Schema

open PlotTypes.Python

variable {n : Node} {document : Json} {key : String}

def metaKeys : List String := ["role", "editType", "description", "items"]

/-! ## Which keys attributes go by -/

theorem not_mem_keys_iff (hkey : isHidden key = false) (o : CompoundObject) :
    key ∉ o.keys ↔ ∀ inner, (key, Json.object inner) ∉ o.members := by
  simp [CompoundObject.keys, mem_attributeEntries, hkey]

theorem ReadFrom.properties {o : CompoundObject} {p : Node} (h : ReadFrom o p) : p.children.map (·.property) = o.keys :=
  (map_eq_map_of_forall₂ (fun _ _ he => he.property.symm) h.readEntries).symm

/-- Only compounds have attributes, so the compounds below the root decide what all nodes below the traces have. -/
theorem belowTraces_iff {P : Node → Prop} (h : Node.Everywhere Regular n) :
    BelowTraces P n ↔ ∀ p ∈ n.inner, ∀ a ∈ p.children, P a := by
  have hchildless := h.imp fun m hm hleaf => (hm.leaf hleaf).1
  have hinner : BelowTraces P n ↔ ∀ t ∈ n.children, Node.Everywhere (fun m => ∀ a ∈ m.children, P a) t :=
    forall₂_congr fun t _ => Node.Everywhere.children_iff.symm
  rw [hinner]
  constructor
  · intro hall p hp
    exact (Node.Everywhere.inner hall p hp).here
  · intro hcompounds t ht
    refine (Node.inner_of_childless hchildless t ht).imp fun p hp a ha => ?_
    exact hcompounds p (hp (List.ne_nil_of_mem ha)) a ha

/-- An attribute goes by a key exactly where a compound object has an object under it. -/
theorem unused_iff_of_ofJson (hregular : Node.Everywhere Regular n) (h : ofJson document = .ok n)
    (hkey : isHidden key = false) :
    BelowTraces (·.property ≠ key) n ↔
      ∀ o ∈ compoundObjects document, ∀ inner, (key, Json.object inner) ∉ o.members := by
  have hread := readFrom_compoundObjects h
  have hunused : ∀ {o p}, ReadFrom o p → ((∀ a ∈ p.children, a.property ≠ key) ↔ key ∉ o.keys) := by
    intro o p hop
    rw [← hop.properties, List.mem_map]
    simp
  simp only [belowTraces_iff hregular, ← not_mem_keys_iff hkey]
  constructor
  · intro hcompounds o ho
    obtain ⟨p, hp, hop⟩ := exists_right_of_mem hread o ho
    exact (hunused hop).mp (hcompounds p hp)
  · intro hkeys p hp
    obtain ⟨o, ho, hop⟩ := exists_left_of_mem hread p hp
    exact (hunused hop).mpr (hkeys o ho)

/-! ## Items of attribute objects -/

def Itemless (n : Node) : Prop := n.isElement = false → ∀ a ∈ n.children, a.property ≠ "items"

theorem Itemless.placed (above : List String) (n : Node) (h : Itemless n) : Itemless (Node.placed above n) := by
  intro helement a ha
  rw [Node.toAttribute_placed] at helement
  rw [Node.children_placed, List.mem_map] at ha
  obtain ⟨d, hd, rfl⟩ := ha
  rw [Node.toAttribute_placed]
  exact h helement d hd

/-- An attribute object with `items` is a container, so what is read as a compound has none. -/
theorem ReadAs.itemless {path : String} {members : Json.Members} (h : ReadAs path key members n) : Itemless n := by
  cases h with
  | leaf tag hv => exact fun _ => nofun
  | element name item children hv hi hr => exact nofun
  | compound children hv hi hr =>
    intro _ a ha hitems
    have hmem : a.property ∈ (attributeEntries members).map (·.1) := by
      rw [← properties_of_attributesOf hr]
      exact List.mem_map_of_mem ha
    obtain ⟨⟨k, inner⟩, he, hk⟩ := List.mem_map.mp hmem
    have hnone := List.lookup_eq_none_iff.mp hi _ (mem_attributeEntries.mp he).2
    rw [hitems] at hk
    simp [← hk] at hnone

theorem itemless_of_ofJson (h : ofJson document = .ok n) : BelowTraces Itemless n :=
  belowTraces_of_ofJson Itemless.placed (fun _ _ _ _ _ hread => hread.itemless) h

/-! ## Texts -/

/-- In a tree that is read no attribute has a hidden name, and no compound attribute but an array element has an
    attribute named `items`. No attribute goes by a meta key exactly when no compound object of the document has an object
    under that key. -/
theorem metaKeys_unused_iff {text : String} (h : ofText text = .ok n) :
    ∃ document, Json.read text = .ok document ∧
      BelowTraces (fun a => isHidden a.property = false) n ∧
      BelowTraces Itemless n ∧
      ∀ key ∈ metaKeys, BelowTraces (·.property ≠ key) n ↔
        ∀ o ∈ compoundObjects document, ∀ inner, (key, Json.object inner) ∉ o.members := by
  obtain ⟨document, hread, hn⟩ := ofText_ok_iff.mp h
  have hregular := everywhere_regular_of_ofJson (Json.uniqueKeys_of_read hread) hn
  have hvisible : ∀ key ∈ metaKeys, isHidden key = false := by decide
  exact ⟨document, hread, notHidden_of_ofJson hn, itemless_of_ofJson hn,
    fun key hkey => unused_iff_of_ofJson hregular hn (hvisible key hkey)⟩

/-- Entries that tell of their object as they should, in a trace, a container and an item, and a hidden one. -/
def taggedText : String :=
  "\x7b\"traces\":\x7b\"bar\":\x7b\"attributes\":\x7b\"role\":\"\",\"_x\":\x7b\x7d,\"steps\":\x7b\"items\":\x7b\"step\":" ++
    "\x7b\"editType\":\"\",\"y\":\x7b\"valType\":\"any\"\x7d\x7d\x7d\x7d\x7d\x7d\x7d\x7d"

def taggedTree : Node := Node.root [Node.compound "bar" [Node.element "steps" "step" [Node.leaf "y" "any"]]]

set_option maxRecDepth 10000 in
theorem metaKeys_unused_iff_tagged :
    ofText taggedText = .ok taggedTree ∧
      BelowTraces (fun a => isHidden a.property = false) taggedTree ∧
      BelowTraces Itemless taggedTree ∧
      ∀ key ∈ metaKeys, BelowTraces (·.property ≠ key) taggedTree := by
  have hread : ofText taggedText = .ok taggedTree := by
    have h : (ofText taggedText).toOption = some taggedTree := by decide +kernel
    exact toOption_eq_some_iff.mp h
  have hkeys : ((Json.read taggedText).toOption.any fun document =>
      (compoundObjects document).all fun o => metaKeys.all fun key => !o.keys.contains key) = true := by
    decide +kernel
  obtain ⟨document, hdocument, hhidden, hitemless, hunused⟩ := metaKeys_unused_iff hread
  refine ⟨hread, hhidden, hitemless, fun key hkey => (hunused key hkey).mpr fun o ho => ?_⟩
  have hvisible : ∀ key ∈ metaKeys, isHidden key = false := by decide
  rw [hdocument] at hkeys
  have hnone := List.all_eq_true.mp (List.all_eq_true.mp hkeys o ho) key hkey
  exact (not_mem_keys_iff (hvisible key hkey) o).mp (by simpa using hnone)

/-- An object under `role` in a trace, and one under `items` in an item. -/
def objectsText : String :=
  "\x7b\"traces\":\x7b\"bar\":\x7b\"attributes\":\x7b\"role\":\x7b\"valType\":\"any\"\x7d,\"steps\":\x7b\"items\":\x7b\"step\":" ++
    "\x7b\"items\":\x7b\"x\":\x7b\"valType\":\"any\"\x7d\x7d\x7d\x7d\x7d\x7d\x7d\x7d\x7d"

def objectsTree : Node :=
  Node.root [Node.compound "bar"
    [Node.leaf "role" "any", Node.element "steps" "step" [Node.compound "items" [Node.leaf "x" "any"]]]]

set_option maxRecDepth 10000 in
/-- Both are read as attributes. -/
theorem objects_read_as_attributes :
    ofText objectsText = .ok objectsTree ∧
      ¬BelowTraces (·.property ≠ "role") objectsTree ∧
      ¬BelowTraces (·.property ≠ "items") objectsTree ∧
      ¬BelowTraces (fun a => a.property ∉ metaKeys ∧ isHidden a.property = false) objectsTree := by
  refine ⟨?_, fun h => ?_, fun h => ?_, fun h => ?_⟩
  · have h : (ofText objectsText).toOption = some objectsTree := by decide +kernel
    exact toOption_eq_some_iff.mp h
  · exact (h _ List.mem_cons_self _ List.mem_cons_self).here rfl
  · have hitem := h _ List.mem_cons_self _ (List.mem_cons_of_mem _ List.mem_cons_self)
    exact (hitem.child _ List.mem_cons_self).here rfl
  · exact (h _ List.mem_cons_self _ List.mem_cons_self).here.1 (by decide)

end PlotTypes.Schema
