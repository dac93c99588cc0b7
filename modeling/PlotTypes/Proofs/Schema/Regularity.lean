/-
  PlotTypes.Proofs.Schema.Regularity — what every node of a read tree is like.

  The generator takes a tree as it is and checks nothing again, so a tree that is read has
  to be regular at every node: its names belong together, a leaf holds nothing, a compound
  has no default, and no two siblings share a property. The last comes from the
  document, where no object repeats a key.
  - `regular_of_attributesOf`: what is read from one object, with all below it.
  - `everywhere_regular_of_ofJson`: the whole tree, after placing.
  - `visible_of_ofJson`: below the root no attribute has a hidden name.
  - `not_excluded_of_violation?`: two of the violations that the check looks for cannot
    occur in a regular tree.
  - `regular_of_ofText`: all of it, for every text that is read.
-/

import PlotTypes.Proofs.Json.Keys
import PlotTypes.Proofs.Schema.Paths
import PlotTypes.Proofs.Schema.Reading

namespace PlotTypes.Schema

open PlotTypes.Python

structure Regular (n : Node) : Prop where
  className : n.className = Python.className n.name
  parameter : n.parameter = parameterName n.property
  property : n.isElement = false → n.property = n.name
  compound_iff : n.isCompound = true ↔ n.tag = none
  leaf : n.isCompound = false → n.children = [] ∧ n.isElement = false
  compound : n.isCompound = true → n.defaultValue = noneLiteral ∧ n.arrayOk = false
  siblings : (n.children.map (·.property)).Nodup

/-! ## Construction -/

theorem regular_leafOf (key tag : String) (members : Json.Members) : Regular (leafOf key tag members) where
  className := rfl
  parameter := rfl
  property _ := rfl
  compound_iff := by simp [leafOf, Node.leaf, Node.named]
  leaf _ := ⟨rfl, rfl⟩
  compound h := by cases h
  siblings := List.nodup_nil

theorem regular_compound (name : String) (children : List Node) (description : Option String)
    (h : (children.map (·.property)).Nodup) : Regular { Node.compound name children with description } where
  className := rfl
  parameter := rfl
  property _ := rfl
  compound_iff := ⟨fun _ => rfl, fun _ => rfl⟩
  leaf h := by cases h
  compound _ := ⟨rfl, rfl⟩
  siblings := h

theorem regular_element (container name : String) (children : List Node) (description : Option String)
    (h : (children.map (·.property)).Nodup) : Regular { Node.element container name children with description } where
  className := rfl
  parameter := rfl
  property h := by cases h
  compound_iff := ⟨fun _ => rfl, fun _ => rfl⟩
  leaf h := by cases h
  compound _ := ⟨rfl, rfl⟩
  siblings := h

/-! ## Reading -/

theorem ReadAs.property {path key : String} {members : Json.Members} {n : Node} (h : ReadAs path key members n) :
    n.property = key := by
  cases h with
  | leaf => rfl
  | element => rfl
  | compound => rfl

theorem keys_attributeEntries_sublist (members : Json.Members) :
    ((attributeEntries members).map (·.1)).Sublist members.keys := by
  induction members with
  | nil => exact .slnil
  | cons e r ih =>
    obtain ⟨key, v⟩ := e
    by_cases hk : isHidden key = true
    · rw [attributeEntries_skip (.inl hk)]
      exact ih.cons key
    cases hv : v.members? with
    | none =>
      rw [attributeEntries_skip (.inr hv)]
      exact ih.cons key
    | some inner =>
      obtain rfl := Json.members?_eq_some.mp hv
      rw [attributeEntries_keep (by simpa using hk)]
      exact ih.cons_cons key

theorem properties_of_attributesOf {path : String} {members : Json.Members} {ns : List Node}
    (h : attributesOf path members = .ok ns) : ns.map (·.property) = (attributeEntries members).map (·.1) := by
  refine (map_eq_map_of_forall₂ ?_ (attributesOf_ok_iff.mp h)).symm
  intro e n hn
  exact (readAs_of_attributeOf hn).property.symm

/-- The attributes of an object without repeated keys have different properties. -/
theorem nodup_properties_of_attributesOf {path : String} {members : Json.Members} {ns : List Node}
    (hu : (Json.object members).UniqueKeys) (h : attributesOf path members = .ok ns) :
    (ns.map (·.property)).Nodup := by
  rw [properties_of_attributesOf h]
  exact (keys_attributeEntries_sublist members).nodup hu.nodup_keys

/-- The compound object in an attribute object repeats no key either. -/
theorem uniqueKeys_of_compoundIn? {key name : String} {members item : Json.Members}
    (hu : (Json.object members).UniqueKeys) (h : compoundIn? key members = some (name, item)) :
    (Json.object item).UniqueKeys := by
  unfold compoundIn? at h
  split at h
  · cases h
    exact hu
  · rename_i hi
    cases h
    have hitems : (Json.object [(name, .object item)]).UniqueKeys := hu.of_mem _ (mem_of_get? hi)
    exact hitems.of_mem _ List.mem_cons_self
  · cases h

theorem regular_of_attributesOf (o : CompoundObject) (hu : (Json.object o.members).UniqueKeys) :
    ∀ path ns, attributesOf path o.members = .ok ns → ∀ c ∈ ns, Node.Everywhere Regular c := by
  induction o using CompoundObject.induction with
  | step o ih =>
    intro path ns hns c hc
    obtain ⟨⟨key, members⟩, he, ha⟩ := exists_left_of_mem (attributesOf_ok_iff.mp hns) c hc
    have hmembers : (Json.object members).UniqueKeys := hu.of_mem _ (mem_attributeEntries.mp he).2
    cases readAs_of_attributeOf ha with
    | leaf tag hv =>
      refine .mk _ (regular_leafOf key tag members) fun c hc => ?_
      cases hc
    | element name item children hv hi hr =>
      have hin := compoundIn?_item hv hi key
      have hitem := uniqueKeys_of_compoundIn? hmembers hin
      refine .mk _ (regular_element key name children _ (nodup_properties_of_attributesOf hitem hr)) ?_
      exact ih _ (CompoundObject.mem_nested he hin) hitem _ children hr
    | compound children hv hi hr =>
      have hin := compoundIn?_self hv hi key
      refine .mk _ (regular_compound key children _ (nodup_properties_of_attributesOf hmembers hr)) ?_
      exact ih _ (CompoundObject.mem_nested he hin) hmembers _ children hr

theorem regular_of_traceOf {name : String} {trace : Json} {n : Node} (hu : trace.UniqueKeys)
    (h : traceOf name trace = .ok n) : n.property = name ∧ Node.Everywhere Regular n := by
  obtain ⟨members, children, hm, hc, rfl⟩ := traceOf_ok h
  obtain ⟨attributes, ha, hobject⟩ := Option.bind_eq_some_iff.mp hm
  have hmembers : (Json.object members).UniqueKeys := Json.members?_eq_some.mp hobject ▸ hu.of_get? ha
  refine ⟨rfl, .mk _ (regular_compound name children _ (nodup_properties_of_attributesOf hmembers hc)) ?_⟩
  exact regular_of_attributesOf ⟨[name], members⟩ hmembers _ children hc

/-! ## Whole trees -/

theorem properties_map_placed (above : List String) (ns : List Node) :
    (ns.map (Node.placed above)).map (·.property) = ns.map (·.property) := by
  rw [List.map_map]
  refine List.map_congr_left fun c _ => ?_
  show (Node.placed above c).property = c.property
  rw [Node.toAttribute_placed]

/-- Placing a node changes nothing that a regular node has. -/
theorem Regular.placed (above : List String) (n : Node) (h : Regular n) : Regular (Node.placed above n) := by
  obtain ⟨hclass, hparameter, hproperty, htag, hleaf, hcompound, hsiblings⟩ := h
  have hchildren := Node.children_placed above n
  constructor
  all_goals try rw [Node.toAttribute_placed]
  · exact hclass
  · exact hparameter
  · exact hproperty
  · exact htag
  · intro hc
    rw [hchildren, (hleaf hc).1]
    exact ⟨rfl, (hleaf hc).2⟩
  · exact hcompound
  · rw [hchildren, properties_map_placed]
    exact hsiblings

theorem everywhere_regular_of_ofJson {document : Json} {n : Node} (hu : document.UniqueKeys)
    (h : ofJson document = .ok n) : Node.Everywhere Regular n := by
  obtain ⟨traces, ns, ht, hns, rfl⟩ := ofJson_ok h
  obtain ⟨section_, hs, hobject⟩ := Option.bind_eq_some_iff.mp ht
  have htraces : (Json.object traces).UniqueKeys := Json.members?_eq_some.mp hobject ▸ hu.of_get? hs
  have hread : List.Forall₂ (fun e n => n.property = e.1 ∧ Node.Everywhere Regular n) traces ns :=
    (forall₂_of_mem (tracesOf_ok_iff.mp hns)).imp fun e n hn => regular_of_traceOf (htraces.of_mem e hn.1) hn.2
  have hproperties : ns.map (·.property) = traces.keys := (map_eq_map_of_forall₂ (fun _ _ hn => hn.1.symm) hread).symm
  refine .mk _ (regular_compound "" (Node.placedAll [] ns) none ?_) fun c hc => ?_
  · rw [Node.placedAll_eq_map, properties_map_placed, hproperties]
    exact htraces.nodup_keys
  · rw [Node.children_root, List.mem_map] at hc
    obtain ⟨d, hd, rfl⟩ := hc
    obtain ⟨e, -, he⟩ := exists_left_of_mem hread d hd
    exact Node.everywhere_placed Regular.placed he.2 []

/-! ## Below the root -/

def Visible (n : Node) : Prop := ∀ a ∈ n.children, isHidden a.property = false

/-- A hidden key is not read, so no attribute goes by one. -/
theorem notHidden_of_ofJson {document : Json} {n : Node} (h : ofJson document = .ok n) :
    BelowTraces (fun a => isHidden a.property = false) n := by
  refine belowTraces_of_ofJson (fun above a ha => ?_) (fun path key members a hkey hread => ?_) h
  · rw [Node.toAttribute_placed]
    exact ha
  · rw [hread.property]
    exact hkey

/-- The traces of a document are no array elements, and from each of them down no attribute has a hidden name. The trace
    itself can have one. -/
theorem visible_of_ofJson {document : Json} {n : Node} (h : ofJson document = .ok n) :
    ∀ t ∈ n.children, t.isElement = false ∧ Node.Everywhere Visible t := by
  have hbelow := notHidden_of_ofJson h
  intro t ht
  refine ⟨?_, Node.Everywhere.children_iff.mpr (hbelow t ht)⟩
  obtain ⟨name, members, children, description, -, rfl⟩ := trace_of_ofJson h t ht
  rw [Node.toAttribute_placed]
  rfl

/-! ## Violations that cannot occur -/

/-- A repeated property, or a leaf without a tag. -/
def Excluded (e : Error) : Prop :=
  ∃ at_, (∃ property, e = .invalid at_ (.repeatedProperty property)) ∨ e = .invalid at_ .untyped

theorem not_excluded_of_ownError? {n : Node} {e : Error} (h : Regular n) (he : ownError? n = some e) : ¬Excluded e := by
  unfold ownError? at he
  split at he
  · rename_i hc
    have htag : n.tag ≠ none := fun ht => by simp [h.compound_iff.mpr ht] at hc
    rw [if_neg (by simpa using htag)] at he
    cases he
  · split at he
    · cases he
      simp [Excluded]
    · cases he

theorem not_excluded_of_childError? {owner n : Node} {properties parameters : List String} {e : Error}
    (h : n.property ∉ properties) (he : childError? owner n properties parameters = some e) : ¬Excluded e := by
  unfold childError? at he
  rw [if_neg (by simpa using h)] at he
  repeat' split at he
  all_goals cases he
  all_goals simp [Excluded]

theorem not_excluded_of_childViolation? {owner : Node} {ns : List Node} {properties parameters : List String} {e : Error}
    (hsiblings : (ns.map (·.property)).Nodup) (hnew : ∀ c ∈ ns, c.property ∉ properties)
    (hbelow : ∀ c ∈ ns, ∀ e, violation? c = some e → ¬Excluded e)
    (he : childViolation? owner properties parameters ns = some e) : ¬Excluded e := by
  -- the properties already seen and those to come never meet
  induction ns generalizing properties parameters with
  | nil => cases he
  | cons n r ih =>
    rw [List.map_cons, List.nodup_cons] at hsiblings
    rw [List.forall_mem_cons] at hnew hbelow
    rw [childViolation?, Option.or_eq_some_iff, Option.or_eq_some_iff] at he
    rcases he with he | ⟨-, he | ⟨-, he⟩⟩
    · exact not_excluded_of_childError? hnew.1 he
    · exact hbelow.1 e he
    · refine ih hsiblings.2 (fun c hc hmem => ?_) hbelow.2 he
      rcases List.mem_cons.mp hmem with hsame | hmem
      · exact hsiblings.1 (hsame ▸ List.mem_map_of_mem hc)
      · exact hnew.2 c hc hmem

theorem not_excluded_of_violation? {n : Node} (h : Node.Everywhere Regular n) :
    ∀ e, violation? n = some e → ¬Excluded e := by
  induction h with
  | mk n hn _ ih =>
    intro e he
    obtain ⟨a, children⟩ := n
    rw [violation?, Option.or_eq_some_iff] at he
    rcases he with he | ⟨-, he⟩
    · exact not_excluded_of_ownError? hn he
    · split at he
      · exact not_excluded_of_childViolation? hn.siblings (fun _ _ => List.not_mem_nil) ih he
      · cases he

/-! ## Texts -/

/-- A tree that is read has one root, on top, and paths that lead down from it; all its nodes are regular, and the check
    finds neither a repeated property nor a leaf without a tag in it. -/
theorem regular_of_ofText {text : String} {n : Node} (h : ofText text = .ok n) :
    (n.path = [] ∧ n.isRoot = true) ∧
      Node.Everywhere
        (fun m => ∀ c ∈ m.children, c.path = m.path ++ [c.name] ∧ c.path ≠ [] ∧ c.isRoot = false) n ∧
      Node.Everywhere Regular n ∧
      ∀ e, validate n = .error e → ¬Excluded e := by
  obtain ⟨document, hread, hn⟩ := ofText_ok_iff.mp h
  have hregular := everywhere_regular_of_ofJson (Json.uniqueKeys_of_read hread) hn
  obtain ⟨traces, ns, -, -, rfl⟩ := ofJson_ok hn
  refine ⟨⟨rfl, rfl⟩, (Node.Placed.of_root ns).imp fun m hm c hc => ?_, hregular, fun e he => ?_⟩
  · have hpath : c.path ≠ [] := by
      rw [hm c hc]
      exact List.append_ne_nil_of_right_ne_nil _ (List.cons_ne_nil _ _)
    refine ⟨hm c hc, hpath, ?_⟩
    simp [Node.isRoot, hpath]
  · exact not_excluded_of_violation? hregular e (validate_error_iff.mp he)

def stepsText : String :=
  "\x7b\"traces\":\x7b\"bar\":\x7b\"attributes\":\x7b\"x\":\x7b\"valType\":\"any\",\"dflt\":1\x7d,\"_x\":\x7b\x7d," ++
    "\"steps\":\x7b\"items\":\x7b\"step\":\x7b\"label\":\x7b\"valType\":\"string\"\x7d\x7d\x7d\x7d\x7d\x7d\x7d\x7d"

def stepsTextTree : Node :=
  Node.root [Node.compound "bar"
    [{ Node.leaf "x" "any" with defaultValue := "1" }, Node.element "steps" "step" [Node.leaf "label" "string"]]]

set_option maxRecDepth 10000 in
theorem ofText_stepsText : ofText stepsText = .ok stepsTextTree := by
  have h : (ofText stepsText).toOption = some stepsTextTree := by decide +kernel
  exact toOption_eq_some_iff.mp h

theorem regular_of_ofText_steps :
    ofText stepsText = .ok stepsTextTree ∧
      (stepsTextTree.path = [] ∧ stepsTextTree.isRoot = true) ∧
      Node.Everywhere
        (fun m => ∀ c ∈ m.children, c.path = m.path ++ [c.name] ∧ c.path ≠ [] ∧ c.isRoot = false) stepsTextTree ∧
      Node.Everywhere Regular stepsTextTree ∧
      ∀ e, validate stepsTextTree = .error e → ¬Excluded e :=
  ⟨ofText_stepsText, regular_of_ofText ofText_stepsText⟩

end PlotTypes.Schema
