/-
  PlotTypes.Proofs.Package.Construction — what the constructors of a package store.

  The names of attributes and the members that every class uses stand in one namespace, and so
  do attributes and the key of the type in the data mapping. The check reserves the receiver and
  nothing else, so a constructor can overwrite what it has just set up.
  - `stores_classOf`: the stores of a class, read off its lines, are those of its compound: the
    type, a validator for each attribute, the members of the nested ones, and all setters.
  - `construction_keeps_bookkeeping_iff`: so members and type survive exactly when no nested
    attribute is named after one of four members, and no other attribute is named `type`.
    The names `data` and `type` break it (`data_overwritten`).
-/

import PlotTypes.Proofs.Package.Location
import PlotTypes.Proofs.Package.Signature
import PlotTypes.Proofs.Python.Storing
import PlotTypes.Proofs.Schema.Regularity

namespace PlotTypes.Package

open PlotTypes.Python PlotTypes.Schema

variable {s : Settings} {n owner : Node} {c : ClassDecl} {text : String}

/-! ## Classes as they are made -/

def PropertyFor (a : Node) (p : Property) : Prop := p.name = a.property ∧ p.kind = kindOf a

/-- The properties of one kind are those of the attributes of that kind. -/
theorem names_filter_kind (kind : PropertyKind) {as : List Node} {ps : List Property}
    (h : List.Forall₂ PropertyFor as ps) :
    (ps.filter (·.kind == kind)).map (·.name) = (as.filter (kindOf · == kind)).map (·.property) := by
  induction h with
  | nil => rfl
  | @cons a p as ps hap _ ih =>
    obtain ⟨hname, hkind⟩ := hap
    by_cases hk : kindOf a = kind
    · rw [List.filter_cons_of_pos (by simp [hkind, hk]), List.filter_cons_of_pos (by simp [hk]), List.map_cons,
        List.map_cons, hname, ih]
    · rw [List.filter_cons_of_neg (by simp [hkind, hk]), List.filter_cons_of_neg (by simp [hk]), ih]

/-- No visible name is that of a shadow member. -/
theorem shadowName_ne_of_visible {name property : String} (h : isHidden name = false) : name ≠ shadowName property := by
  rintro rfl
  have hhidden : isHidden (shadowName property) = true := by
    rw [isHidden, shadowName, String.toList_append]
    rfl
  rw [hhidden] at h
  cases h

def registrationOf (s : Settings) (owner a : Node) : Registration :=
  ⟨a.property, validatorAlias s owner, validatorName a.property⟩

def assignmentOf (a : Node) : Assignment := ⟨a.property, a.parameter⟩

structure MadeFor (s : Settings) (n : Node) (c : ClassDecl) : Prop where
  properties : List.Forall₂ PropertyFor n.children c.properties
  registrations : c.constructor.registrations = n.children.map (registrationOf s n)
  prepared : c.constructor.prepared = (n.children.filter (kindOf · == .nested)).map (·.property)
  assigned : c.constructor.assigned = n.children.map assignmentOf
  typeName : c.constructor.typeName = n.dottedPath
  parameters : c.constructor.parameters.map (·.name) = n.children.map (·.parameter)

theorem madeFor_of_classOf (hc : (classOf s n).result = .ok c) : MadeFor s n c := by
  obtain ⟨ps, hps, rfl⟩ := classOf_ok_iff.mp hc
  have hread : List.Forall₂ PropertyFor n.children ps :=
    hps.imp fun a p hp => ⟨(propertyOf_ok hp).1, (propertyOf_ok hp).2.1⟩
  exact ⟨hread, rfl, names_filter_kind .nested hread, assigned_constructorOf s n ps, rfl, names_parameters n⟩

theorem MadeFor.names (h : MadeFor s n c) : c.properties.map (·.name) = n.children.map (·.property) :=
  (map_eq_map_of_forall₂ (fun _ _ hp => hp.1.symm) h.properties).symm

/-- No property is a shadow member where no attribute is hidden. -/
theorem MadeFor.name_ne_shadowName (h : MadeFor s n c) (hvisible : Visible n) {p : Property} (hp : p ∈ c.properties)
    {name : String} : p.name ≠ shadowName name := by
  obtain ⟨a, ha, hname, -⟩ := exists_left_of_mem h.properties p hp
  rw [hname]
  exact shadowName_ne_of_visible (hvisible a ha)

/-! ## The stores of a class -/

/-- What the constructor for a compound stores after the type, in order: the validators of all attributes, the members
    of the nested ones, and what all setters store. -/
def laterStores (owner : Node) : List Store :=
  owner.children.map (fun a => .entry "_validators" a.property) ++
    (owner.children.filter (kindOf · == .nested)).map (fun a => .member (shadowName a.property)) ++
    owner.children.map fun a => setterStore a.property (kindOf a)

def storesOf (owner : Node) : List Store := .entry "_data" "type" :: laterStores owner

/-- What the lines of the constructor store, before setters run. -/
theorem MadeFor.stores_bodyLines (h : MadeFor s owner c) (hwords : ∀ a ∈ owner.children, WordText a.property) :
    (bodyLines c.constructor).filterMap storeOf? =
      [.entry "_data" "type"] ++ owner.children.map (fun a => .entry "_validators" a.property) ++
        (owner.children.filter (kindOf · == .nested)).map (fun a => .member (shadowName a.property)) ++
        owner.children.map fun a => .member a.property := by
  have hregistered : ∀ r ∈ c.constructor.registrations, WordText r.property := by
    rw [h.registrations]
    exact List.forall_mem_map.mpr hwords
  have hprepared : ∀ p ∈ c.constructor.prepared, WordText p := by
    rw [h.prepared]
    exact List.forall_mem_map.mpr fun a ha => hwords a (List.mem_filter.mp ha).1
  have hassigned : ∀ a ∈ c.constructor.assigned, WordText a.property := by
    rw [h.assigned]
    exact List.forall_mem_map.mpr hwords
  rw [Python.stores_bodyLines hregistered hprepared hassigned, h.registrations, h.prepared, h.assigned, List.map_map,
    List.map_map, List.map_map]
  rfl

theorem stores_classOf (hc : (classOf s owner).result = .ok c) (hwords : ∀ a ∈ owner.children, WordText a.property)
    (hnodup : (owner.children.map (·.property)).Nodup) (hvisible : Visible owner) : stores c = storesOf owner := by
  have hmade := madeFor_of_classOf hc
  have hvalidators :
      (owner.children.map fun a => Store.entry "_validators" a.property).filterMap (through c.properties) =
        owner.children.map fun a => .entry "_validators" a.property := filterMap_map_eq_map fun a _ => rfl
  -- no shadow member is a property, so only what is assigned runs setters
  have hmembers : ((owner.children.filter (kindOf · == .nested)).map fun a =>
        Store.member (shadowName a.property)).filterMap (through c.properties) =
      (owner.children.filter (kindOf · == .nested)).map fun a => .member (shadowName a.property) :=
    filterMap_map_eq_map fun a _ => through_of_ne fun p hp => hmade.name_ne_shadowName hvisible hp
  have hsetters : (owner.children.map fun a => Store.member a.property).filterMap (through c.properties) =
      owner.children.map fun a => setterStore a.property (kindOf a) := by
    refine filterMap_map_eq_map fun a ha => ?_
    obtain ⟨p, hp, hname, hkind⟩ := exists_right_of_mem hmade.properties a ha
    have hthrough := through_of_mem (hmade.names ▸ hnodup) hp (hname ▸ hwords a ha)
    rwa [hname, hkind] at hthrough
  rw [stores, hmade.stores_bodyLines hwords, List.filterMap_append, List.filterMap_append, List.filterMap_append,
    hvalidators, hmembers, hsetters]
  rfl

/-! ## Bookkeeping -/

/-- The members that every generated class uses. -/
def bookkeeping : List String := ["_data", "_validators", "_set_prop", "_set_compound_prop"]

/-- The names whose shadow members these are. -/
def bookkeepingNames : List String := ["data", "validators", "set_prop", "set_compound_prop"]

/-- The key of the data mapping is set: directly, or by the method that stores under the key it is given. -/
def SetsData (key : String) (store : Store) : Prop := store = .entry "_data" key ∨ store = .call "_set_prop" key

structure KeepsBookkeeping (stores : List Store) : Prop where
  members : ∀ name, Store.member name ∈ stores → name ∉ bookkeeping
  type : ∀ before after, stores = before ++ .entry "_data" "type" :: after → ∀ store ∈ after, ¬SetsData "type" store

structure AvoidsBookkeeping (owner : Node) : Prop where
  nested : ∀ a ∈ owner.children, kindOf a = .nested → a.property ∉ bookkeepingNames
  others : ∀ a ∈ owner.children, kindOf a ≠ .nested → a.property ≠ "type"

theorem shadowName_mem_bookkeeping_iff {property : String} :
    shadowName property ∈ bookkeeping ↔ property ∈ bookkeepingNames := by
  have hmap : bookkeeping = bookkeepingNames.map shadowName := by decide
  have hinj : Function.Injective shadowName := fun a b h => (String.append_right_inj "_").mp h
  rw [hmap, List.mem_map_of_injective hinj]

theorem mem_laterStores {store : Store} :
    store ∈ laterStores owner ↔
      ∃ a ∈ owner.children, store = .entry "_validators" a.property ∨
        (kindOf a = .nested ∧ store = .member (shadowName a.property)) ∨ store = setterStore a.property (kindOf a) := by
  simp only [laterStores, List.mem_append, List.mem_map, List.mem_filter, beq_iff_eq]
  constructor
  · rintro ((⟨a, ha, rfl⟩ | ⟨a, ⟨ha, hk⟩, rfl⟩) | ⟨a, ha, rfl⟩)
    · exact ⟨a, ha, .inl rfl⟩
    · exact ⟨a, ha, .inr (.inl ⟨hk, rfl⟩)⟩
    · exact ⟨a, ha, .inr (.inr rfl)⟩
  · rintro ⟨a, ha, rfl | ⟨hk, rfl⟩ | rfl⟩
    · exact .inl (.inl ⟨a, ha, rfl⟩)
    · exact .inl (.inr ⟨a, ⟨ha, hk⟩, rfl⟩)
    · exact .inr ⟨a, ha, rfl⟩

/-- A setter sets the shadow member of a nested property. -/
theorem setterStore_eq_member_iff {property name : String} {kind : PropertyKind} :
    setterStore property kind = .member name ↔ kind = .nested ∧ shadowName property = name := by
  cases kind with
  | nested => simp [setterStore]
  | simple => simp [setterStore]
  | sequence => simp [setterStore]

/-- Every other setter sets a key of the data mapping. -/
theorem setsData_setterStore_iff {property key : String} {kind : PropertyKind} :
    SetsData key (setterStore property kind) ↔ kind ≠ .nested ∧ property = key := by
  cases kind with
  | nested => simp [SetsData, setterStore]
  | simple => simp [SetsData, setterStore]
  | sequence => simp [SetsData, setterStore]

theorem member_mem_storesOf_iff {name : String} :
    Store.member name ∈ storesOf owner ↔ ∃ a ∈ owner.children, kindOf a = .nested ∧ shadowName a.property = name := by
  rw [storesOf, List.mem_cons, mem_laterStores]
  constructor
  · rintro (h | ⟨a, ha, h | ⟨hk, h⟩ | h⟩)
    · cases h
    · cases h
    · exact ⟨a, ha, hk, (Store.member.inj h).symm⟩
    · exact ⟨a, ha, setterStore_eq_member_iff.mp h.symm⟩
  · rintro ⟨a, ha, hk, rfl⟩
    exact .inr ⟨a, ha, .inr (.inl ⟨hk, rfl⟩)⟩

theorem exists_setsData_laterStores_iff {key : String} :
    (∃ store ∈ laterStores owner, SetsData key store) ↔
      ∃ a ∈ owner.children, kindOf a ≠ .nested ∧ a.property = key := by
  constructor
  · rintro ⟨store, hmem, hsets⟩
    obtain ⟨a, ha, rfl | ⟨hk, rfl⟩ | rfl⟩ := mem_laterStores.mp hmem
    · simp [SetsData] at hsets
    · simp [SetsData] at hsets
    · exact ⟨a, ha, setsData_setterStore_iff.mp hsets⟩
  · rintro ⟨a, ha, h⟩
    exact ⟨_, mem_laterStores.mpr ⟨a, ha, .inr (.inr rfl)⟩, setsData_setterStore_iff.mpr h⟩

/-- The type is stored once, and first. -/
theorem eq_nil_of_storesOf_eq {before after : List Store}
    (h : storesOf owner = before ++ .entry "_data" "type" :: after) : before = [] ∧ after = laterStores owner := by
  cases before with
  | nil => exact ⟨rfl, (List.cons.inj h).2.symm⟩
  | cons store r =>
    have hmem : Store.entry "_data" "type" ∈ laterStores owner := by
      rw [(List.cons.inj h).2]
      simp
    obtain ⟨a, -, h | ⟨-, h⟩ | h⟩ := mem_laterStores.mp hmem
    · simp at h
    · cases h
    · cases hk : kindOf a with
      | nested => simp [hk, setterStore] at h
      | simple => simp [hk, setterStore] at h
      | sequence => simp [hk, setterStore] at h

theorem keepsBookkeeping_storesOf_iff : KeepsBookkeeping (storesOf owner) ↔ AvoidsBookkeeping owner := by
  constructor
  · intro h
    refine ⟨fun a ha hk hname => ?_, fun a ha hk hname => ?_⟩
    · have hmem : Store.member (shadowName a.property) ∈ storesOf owner :=
        member_mem_storesOf_iff.mpr ⟨a, ha, hk, rfl⟩
      exact h.members _ hmem (shadowName_mem_bookkeeping_iff.mpr hname)
    · obtain ⟨store, hmem, hsets⟩ := exists_setsData_laterStores_iff.mpr ⟨a, ha, hk, hname⟩
      exact h.type [] (laterStores owner) rfl store hmem hsets
  · intro h
    refine ⟨fun name hmem hname => ?_, fun before after heq store hmem hsets => ?_⟩
    · obtain ⟨a, ha, hk, rfl⟩ := member_mem_storesOf_iff.mp hmem
      exact h.nested a ha hk (shadowName_mem_bookkeeping_iff.mp hname)
    · obtain ⟨-, rfl⟩ := eq_nil_of_storesOf_eq heq
      obtain ⟨a, ha, hk, hname⟩ := exists_setsData_laterStores_iff.mp ⟨store, hmem, hsets⟩
      exact h.others a ha hk hname

/-- The constructor of every class that is made for an accepted text, with whatever settings: what it stores, and when
    it leaves alone what it needs itself. -/
theorem construction_keeps_bookkeeping_iff (hn : load text = .ok n) (s : Settings) :
    ∀ e ∈ madeModules s n, List.Forall₂ (fun owner c => stores c = storesOf owner ∧
      (KeepsBookkeeping (stores c) ↔ AvoidsBookkeeping owner)) e.1.compoundChildren e.2.classes := by
  rintro ⟨p, m⟩ he
  obtain ⟨hp, hm⟩ := mem_madeModules.mp he
  have hloaded := loaded_of_load hn
  obtain ⟨document, -, hread, -⟩ := load_ok_iff.mp hn
  refine (forall₂_of_mem (moduleOf_some_iff.mp hm).2.2).imp ?_
  rintro owner c ⟨ho, hc⟩
  have hreached : owner ∈ n.reached := Node.compoundChildren_subset_reached n p hp owner ho
  have hinner : owner ∈ n.inner := List.mem_flatMap.mpr ⟨p, hp, ho⟩
  have hsiblings := siblings_of_mem_reached hloaded.isCompound hloaded.valid hreached
  have hwords : ∀ a ∈ owner.children, WordText a.property :=
    fun a ha => wordText_of_isIdentifier (hsiblings.identifiers a ha).1
  have hvisible : Visible owner :=
    (Node.Everywhere.inner (fun t ht => (visible_of_ofJson hread t ht).2) owner hinner).here
  have hstores := stores_classOf hc hwords hsiblings.properties hvisible
  rw [hstores]
  exact ⟨rfl, keepsBookkeeping_storesOf_iff⟩

theorem construction_keeps_bookkeeping_iff_dimension :
    load dimensionsText = .ok dimensionsTree ∧
      (madeModules .standard dimensionsTree).map (·.2.classes.map stores) =
        [[[.entry "_data" "type", .entry "_validators" "dimensions", .call "_set_prop" "dimensions"]],
          [[.entry "_data" "type", .entry "_validators" "line", .member "_line", .member "_line"]],
          [[.entry "_data" "type", .entry "_validators" "width", .call "_set_prop" "width"]]] ∧
      ∀ e ∈ madeModules .standard dimensionsTree, List.Forall₂ (fun owner c => stores c = storesOf owner ∧
        (KeepsBookkeeping (stores c) ↔ AvoidsBookkeeping owner)) e.1.compoundChildren e.2.classes :=
  ⟨load_dimensionsText, by decide +kernel, construction_keeps_bookkeeping_iff load_dimensionsText .standard⟩

/-- A nested attribute named after the data mapping, with an attribute named after the key of the type. -/
def dataText : String :=
  "\x7b\"traces\":\x7b\"bar\":\x7b\"attributes\":\x7b\"data\":\x7b\"type\":" ++
    "\x7b\"valType\":\"any\"\x7d\x7d\x7d\x7d\x7d\x7d"

def dataTree : Node := Node.root [Node.compound "bar" [Node.compound "data" [Node.leaf "type" "any"]]]

set_option maxRecDepth 10000 in
theorem load_dataText : load dataText = .ok dataTree := toOption_eq_some_iff.mp (by decide +kernel)

/-- The text is accepted and nothing fails. The constructor of `Bar` sets the member of the data mapping, and that of
    `Data` sets the key of the type after it has stored the type. -/
theorem data_overwritten :
    load dataText = .ok dataTree ∧ generateFromText .standard dataText = .ok (generate .standard dataTree) ∧
      (generate .standard dataTree).report.failures = [] ∧
      (madeModules .standard dataTree).map (·.2.classes.map fun c => (c.name, stores c)) =
        [[("Bar", [.entry "_data" "type", .entry "_validators" "data", .member "_data", .member "_data"])],
          [("Data", [.entry "_data" "type", .entry "_validators" "type", .call "_set_prop" "type"])]] ∧
      ∀ e ∈ madeModules .standard dataTree, ∀ c ∈ e.2.classes, ¬KeepsBookkeeping (stores c) := by
  have hstores : ∀ e ∈ madeModules .standard dataTree, ∀ c ∈ e.2.classes,
      stores c = [.entry "_data" "type", .entry "_validators" "data", .member "_data", .member "_data"] ∨
        stores c = [.entry "_data" "type", .entry "_validators" "type", .call "_set_prop" "type"] := by
    decide +kernel
  refine ⟨load_dataText, generateFromText_of_load load_dataText, by decide +kernel, by decide +kernel, ?_⟩
  intro e he c hc hkeeps
  rcases hstores e he c hc with hbar | hdata
  · rw [hbar] at hkeeps
    exact hkeeps.members "_data" (by decide) (by decide)
  · rw [hdata] at hkeeps
    exact hkeeps.type [] _ rfl (.call "_set_prop" "type") (by decide) (.inr rfl)

end PlotTypes.Package
