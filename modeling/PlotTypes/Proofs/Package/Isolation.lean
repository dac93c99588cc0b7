/-
  PlotTypes.Proofs.Package.Isolation — how deep a module looks into the tree.

  The class of a compound is made from the compound and from each of its attributes itself:
  from an outline. The module of a node, and the facade of a root, are made from the outlines
  of the compound children. So a difference below a node is seen by the node, by its parent,
  and by nothing else outside.
  - `classOf_congr`, `moduleOf_congr`, `facadeOf_congr`: equal outlines give equal results.
  - `filter_addressedEntries`: the walks on two trees that differ in one place leave the same
    entries everywhere else, by induction on the way to that place.
  - `report_spares_others`: the reports of two such trees.
-/

import PlotTypes.Proofs.Package.Entries
import PlotTypes.Proofs.Package.Signature
import PlotTypes.Proofs.Schema.Address

namespace PlotTypes.Package

open PlotTypes.Python PlotTypes.Schema PlotTypes.Schema.Node

variable {s : Settings} {m n : Node}

/-! ## What is made from an outline -/

theorem each_congr {α β γ : Type} {f : α → Logged γ} {g : β → Logged γ} {l : List α} {k : List β}
    (h : List.Forall₂ (fun a b => f a = g b) l k) : Logged.each f l = Logged.each g k := by
  induction h with
  | nil => rfl
  | cons hab _ ih => rw [Logged.each, Logged.each, hab, ih]

theorem displayPath_congr (h : m.toAttribute = n.toAttribute) : m.displayPath = n.displayPath := by
  obtain ⟨a, below⟩ := m
  cases h
  rfl

theorem propertyOf_congr {c d : Node} (hm : m.toAttribute = n.toAttribute) (hc : c.toAttribute = d.toAttribute) :
    propertyOf s m c = propertyOf s n d := by
  obtain ⟨a, below⟩ := m
  obtain ⟨b, belowChild⟩ := c
  cases hm
  cases hc
  rfl

theorem parameters_congr (h : SameOutline m n) : parameters m = parameters n :=
  mapIdx_eq_mapIdx_of_forall₂ (fun _ _ _ hcd => by rw [hcd]) h.children

theorem docBlock_congr (h : SameOutline m n) (ps : List Parameter) : docBlock s m ps = docBlock s n ps := by
  have hdocs : List.zipWith (parameterDoc s) ps m.children = List.zipWith (parameterDoc s) ps n.children :=
    zipWith_eq_zipWith_of_forall₂ (fun p c d hcd => by rw [parameterDoc, parameterDoc, hcd]) ps h.children
  rw [docBlock, docBlock, hdocs, h.itself]

theorem constructorOf_congr (h : SameOutline m n) (ps : List Property) : constructorOf s m ps = constructorOf s n ps := by
  have hregistrations : (constructorOf s m ps).registrations = (constructorOf s n ps).registrations :=
    map_eq_map_of_forall₂ (fun c d hcd => by rw [validatorAlias, validatorAlias, hcd, h.itself]) h.children
  have hassigned : (constructorOf s m ps).assigned = (constructorOf s n ps).assigned := by
    rw [assigned_constructorOf, assigned_constructorOf]
    exact map_eq_map_of_forall₂ (fun c d hcd => by rw [hcd]) h.children
  simp only [constructorOf] at hregistrations hassigned ⊢
  rw [hregistrations, hassigned, parameters_congr h, docBlock_congr h, h.itself, dottedPath, dottedPath, h.itself]

theorem classOf_congr (h : SameOutline m n) : classOf s m = classOf s n := by
  have hproperties : Logged.each (propertyOf s m) m.children = Logged.each (propertyOf s n) n.children :=
    each_congr (h.children.imp fun _ _ hcd => propertyOf_congr h.itself hcd)
  unfold classOf
  simp only [hproperties, h.itself, constructorOf_congr h]

theorem importsOf_congr (hm : m.toAttribute = n.toAttribute)
    (h : List.Forall₂ SameOutline m.compoundChildren n.compoundChildren) : importsOf s m = importsOf s n := by
  have himported : ∀ pre, importedAs pre m.compoundChildren = importedAs pre n.compoundChildren :=
    fun pre => map_eq_map_of_forall₂ (fun c d hcd => by rw [hcd.itself]) h
  simp only [importsOf, himported, packagePath, hm]

/-- The module of a node is made from the node itself and the outlines of its children. -/
theorem moduleOf_congr (hm : m.toAttribute = n.toAttribute) (h : List.Forall₂ SameOutline m.children n.children) :
    moduleOf s m = moduleOf s n := by
  have hcompounds := compoundChildren_of_attributes (fun _ _ hcd => hcd.itself) h
  have hclasses : Logged.each (classOf s) m.compoundChildren = Logged.each (classOf s) n.compoundChildren :=
    each_congr (hcompounds.imp fun _ _ hcd => classOf_congr hcd)
  have hflags : m.children.map (·.isCompound) = n.children.map (·.isCompound) :=
    map_eq_map_of_forall₂ (fun c d hcd => by rw [hcd.itself]) h
  have hhas : m.hasCompoundChildren = n.hasCompoundChildren := by
    have hany := congrArg (·.any id) hflags
    simp only [List.any_map] at hany
    exact hany
  unfold moduleOf
  rw [hhas, hclasses, importsOf_congr hm hcompounds]

theorem facadeOf_congr (hm : m.toAttribute = n.toAttribute) (h : List.Forall₂ SameOutline m.children n.children) :
    facadeOf s m = facadeOf s n := by
  have hroot : m.isRoot = n.isRoot := by
    rw [isRoot, isRoot, hm]
  have hmethods : m.compoundChildren.map (methodOf s) = n.compoundChildren.map (methodOf s) := by
    refine map_eq_map_of_forall₂ (fun c d hcd => ?_) (compoundChildren_of_attributes (fun _ _ hcd => hcd.itself) h)
    rw [methodOf, methodOf, parameters_congr hcd, docBlock_congr hcd, hcd.itself]
  unfold facadeOf
  rw [hroot, hmethods, displayPath_congr hm]

theorem entryOf?_congr (hm : m.toAttribute = n.toAttribute) (h : List.Forall₂ SameOutline m.children n.children) :
    entryOf? s m = entryOf? s n := by
  have hpath : modulePath s m = modulePath s n := by
    rw [modulePath, modulePath, hm]
  unfold entryOf?
  rw [moduleOf_congr hm h, hpath, displayPath_congr hm]

/-! ## Entries with addresses -/

def addressedEntryOf? (s : Settings) (v : List Nat × Node) : Option (List Nat × Entry) := (entryOf? s v.2).map (v.1, ·)

def addressedEntries (s : Settings) (n : Node) : List (List Nat × Entry) := n.addressed.filterMap (addressedEntryOf? s)

theorem map_addressedEntries (s : Settings) (n : Node) : (addressedEntries s n).map (·.2) = entriesOf s n := by
  unfold addressedEntries entriesOf
  rw [← map_addressed, List.map_filterMap, List.filterMap_map]
  congr 1
  funext v
  simp only [addressedEntryOf?, Option.map_map, Function.comp_apply]
  exact Option.map_id'

/-- The entries of compounds that stand at `i` and after it, and of those below them. -/
def entriesFrom (s : Settings) (i : Nat) (ns : List Node) : List (List Nat × Entry) :=
  (addressedFrom i ns).filterMap (addressedEntryOf? s)

/-- One step further up, below position `k`. -/
def shifted (k : Nat) (e : List Nat × Entry) : List Nat × Entry := (k :: e.1, e.2)

theorem addressedEntries_eq (s : Settings) (n : Node) :
    addressedEntries s n = (addressedEntryOf? s ([], n)).toList ++ entriesFrom s 0 n.children := by
  obtain ⟨a, children⟩ := n
  rw [addressedEntries, addressed, List.filterMap_cons]
  cases addressedEntryOf? s ([], ⟨a, children⟩) with
  | none => rfl
  | some e => rfl

theorem entriesFrom_append (s : Settings) (i : Nat) (as bs : List Node) :
    entriesFrom s i (as ++ bs) = entriesFrom s i as ++ entriesFrom s (i + as.length) bs := by
  simp only [entriesFrom, addressedFrom_append, List.filterMap_append]

theorem entriesFrom_cons (s : Settings) (i : Nat) (n : Node) (r : List Node) :
    entriesFrom s i (n :: r) =
      (if n.isCompound then (addressedEntries s n).map (shifted i) else []) ++ entriesFrom s (i + 1) r := by
  unfold entriesFrom
  rw [addressedFrom]
  split
  · rw [List.filterMap_append, List.filterMap_map, addressedEntries, List.map_filterMap]
    congr 2
    funext v
    simp [addressedEntryOf?, shifted, Function.comp_def]
  · rfl

/-! ## The rest of a tree -/

/-- `j` is neither the parent of `i`, nor `i`, nor below `i`. -/
def spared (i j : List Nat) : Bool := j != i.dropLast && !i.isPrefixOf j

theorem spared_nil (j : List Nat) : spared [] j = false := by
  simp [spared, List.isPrefixOf]

/-- One step down on the way to `i`. -/
theorem spared_cons {k : Nat} {i j : List Nat} (hi : i ≠ []) : spared (k :: i) (k :: j) = spared i j := by
  unfold spared
  rw [List.dropLast_cons_of_ne_nil hi]
  rw [Bool.eq_iff_iff]
  simp [List.isPrefixOf]

/-- Of the entries below a child, those are spared that are spared seen from the child. -/
theorem filter_shifted {k : Nat} {i : List Nat} (hi : i ≠ []) (es : List (List Nat × Entry)) :
    (es.map (shifted k)).filter (spared (k :: i) ·.1) = (es.filter (spared i ·.1)).map (shifted k) := by
  rw [List.filter_map]
  congr 1
  exact List.filter_congr fun e _ => spared_cons hi

/-- Of the child itself and of what is below it, nothing is spared. -/
theorem filter_shifted_child (k : Nat) (es : List (List Nat × Entry)) :
    (es.map (shifted k)).filter (spared [k] ·.1) = [] := by
  refine List.filter_eq_nil_iff.mpr fun e he => ?_
  obtain ⟨d, -, rfl⟩ := List.mem_map.mp he
  simp [spared, shifted, List.isPrefixOf]

/-- Nor the entry of its parent. -/
theorem filter_parent (k : Nat) (n : Node) : (addressedEntryOf? s ([], n)).toList.filter (spared [k] ·.1) = [] := by
  refine List.filter_eq_nil_iff.mpr fun e he => ?_
  obtain ⟨d, -, rfl⟩ := Option.map_eq_some_iff.mp (Option.mem_toList.mp he)
  simp [spared]

/-- Walks on trees that are alike but for one place leave the same entries, in the same order, apart from that place. -/
theorem filter_addressedEntries {i : List Nat} (h : AlikeBut i m n) :
    (addressedEntries s m).filter (spared i ·.1) = (addressedEntries s n).filter (spared i ·.1) := by
  induction h with
  | here => simp only [spared_nil, List.filter_false]
  | @inside a before after i c d h ih =>
    have hcompound : c.isCompound = d.isCompound := by
      rw [h.toAttribute_eq]
    have hwhole := AlikeBut.inside a before after h
    rw [addressedEntries_eq, addressedEntries_eq, entriesFrom_append, entriesFrom_append, entriesFrom_cons,
      entriesFrom_cons, hcompound, Nat.zero_add]
    simp only [List.filter_append]
    by_cases hi : i = []
    · -- the difference is below a child of this node: both are left out
      subst hi
      rw [filter_parent, filter_parent]
      split
      · rw [filter_shifted_child, filter_shifted_child]
      · rfl
    · -- it is further down: this node does not see it, and below the child the induction goes on
      have hlength : 2 ≤ (before.length :: i).length := by
        have := List.length_pos_iff.mpr hi
        simp only [List.length_cons]
        omega
      have hown : addressedEntryOf? s ([], ⟨a, before ++ c :: after⟩) = addressedEntryOf? s ([], ⟨a, before ++ d :: after⟩) := by
        unfold addressedEntryOf?
        rw [entryOf?_congr hwhole.toAttribute_eq (hwhole.outlines hlength)]
      rw [hown]
      split
      · rw [filter_shifted hi, filter_shifted hi, ih]
      · rfl

/-! ## Two reports -/

theorem report_root (s : Settings) (children : List Node) :
    ∃ f, facadeOf s (Node.root children) = .ok f ∧ (generate s (Node.root children)).report =
      .ofEntries ((addressedEntries s (Node.root children)).map (·.2) ++ [.unit ⟨facadePath, f.source⟩]) := by
  obtain ⟨last, hclose, hr⟩ := report_generate s (Node.root children)
  rw [map_addressedEntries]
  cases hclose with
  | facade f _ hf => exact ⟨f, hf, hr⟩
  | notRoot h => rw [isRoot_root] at h; cases h

/-- The reports on two trees that differ only in the children of one node have the same entries, in the same order, for
    all nodes but that one, its parent and those below it. The facade is the same too, unless the node is a trace. -/
theorem report_spares_others (s : Settings) {i : List Nat} {children₁ children₂ : List Node}
    (h : AlikeBut i (Node.root children₁) (Node.root children₂)) (hi : i ≠ []) :
    ∃ f₁ f₂, facadeOf s (Node.root children₁) = .ok f₁ ∧ facadeOf s (Node.root children₂) = .ok f₂ ∧
      (generate s (Node.root children₁)).report = .ofEntries
        ((addressedEntries s (Node.root children₁)).map (·.2) ++ [.unit ⟨facadePath, f₁.source⟩]) ∧
      (generate s (Node.root children₂)).report = .ofEntries
        ((addressedEntries s (Node.root children₂)).map (·.2) ++ [.unit ⟨facadePath, f₂.source⟩]) ∧
      (addressedEntries s (Node.root children₁)).filter (spared i ·.1) =
        (addressedEntries s (Node.root children₂)).filter (spared i ·.1) ∧
      (i.length ≠ 1 → f₁ = f₂) := by
  obtain ⟨f₁, hf₁, hr₁⟩ := report_root s children₁
  obtain ⟨f₂, hf₂, hr₂⟩ := report_root s children₂
  refine ⟨f₁, f₂, hf₁, hf₂, hr₁, hr₂, filter_addressedEntries h, fun hlength => ?_⟩
  have hdeep : 2 ≤ i.length := by
    have := List.length_pos_iff.mpr hi
    omega
  have hf := facadeOf_congr (s := s) h.toAttribute_eq (h.outlines hdeep)
  rw [hf₁, hf₂] at hf
  exact Except.ok.inj hf

def markerTraces (below : List Node) : List Node :=
  [Node.compound "bar" [Node.leaf "x" "data_array", Node.compound "marker" below],
    Node.compound "pie" [Node.compound "font" [Node.leaf "size" "number"]]]

theorem alikeBut_markerTraces (below₁ below₂ : List Node) :
    AlikeBut [0, 1] (Node.root (markerTraces below₁)) (Node.root (markerTraces below₂)) := by
  refine .inside _ [] _ (.inside _ [_] [] ?_)
  exact .here _ _ _

def lineMarker : Node := Node.root (markerTraces [Node.compound "line" [Node.leaf "width" "number"]])

def colorMarker : Node := Node.root (markerTraces [Node.leaf "size" "colorlist"])

/-- The unknown tag fails the module of the marker's parent, and the marker has no module of its own any more. The module
    of the other trace is made as before. -/
theorem report_spares_others_marker :
    AlikeBut [0, 1] lineMarker colorMarker ∧ [0, 1] ≠ [] ∧
      (generate .standard lineMarker).report.failures = [] ∧
      (generate .standard colorMarker).report.failures.map (·.node) = ["bar"] ∧
      (addressedEntries .standard lineMarker).map (·.1) = [[], [0], [0, 1], [1]] ∧
      (addressedEntries .standard colorMarker).map (·.1) = [[], [0], [1]] ∧
      ∃ f₁ f₂, facadeOf .standard lineMarker = .ok f₁ ∧ facadeOf .standard colorMarker = .ok f₂ ∧
        (generate .standard lineMarker).report =
          .ofEntries ((addressedEntries .standard lineMarker).map (·.2) ++ [.unit ⟨facadePath, f₁.source⟩]) ∧
        (generate .standard colorMarker).report =
          .ofEntries ((addressedEntries .standard colorMarker).map (·.2) ++ [.unit ⟨facadePath, f₂.source⟩]) ∧
        (addressedEntries .standard lineMarker).filter (spared [0, 1] ·.1) =
          (addressedEntries .standard colorMarker).filter (spared [0, 1] ·.1) ∧
        ([0, 1].length ≠ 1 → f₁ = f₂) := by
  refine ⟨alikeBut_markerTraces _ _, by decide, by decide +kernel, by decide +kernel, by decide +kernel,
    by decide +kernel, ?_⟩
  exact report_spares_others .standard (alikeBut_markerTraces _ _) (by decide)

end PlotTypes.Package
