/-
  PlotTypes.Proofs.Package.Undocumented — what a run tells of attributes without a description.

  An attribute is told of where its property is made, and properties are made only for the
  classes of a module. So the module of a node tells of the attributes of its compound children
  (`events_moduleOf`), and a node has one module at most. The docstrings of constructors and of
  the facade read the same descriptions and tell nothing.
  - `events_classOf`, `events_moduleOf`: the log of what is made is that of its parts, in order.
  - `undocumented_generate`: the log of a whole run, over the reached nodes in pre-order.
-/

import PlotTypes.Proofs.Package.Walk

namespace PlotTypes.Package

open PlotTypes.Python PlotTypes.Schema

variable {s : Settings} {n p c a : Node}

/-! ## Attributes without a description -/

def lacksDescription (a : Node) : Bool := a.description = none ∨ a.description = some ""

def noDescription (c a : Node) : Event := .undocumented c.displayPath a.property

def undocumentedIn (c : Node) : List Event := (c.children.filter lacksDescription).map (noDescription c)

def isUndocumented (e : Event) : Bool := e.message == "attribute has no description"

theorem isDocumented_eq_true_iff : isDocumented a = true ↔ lacksDescription a = false := by
  unfold isDocumented lacksDescription
  cases a.description with
  | none => simp
  | some d => simp

theorem warnings_eq (c a : Node) : warnings c a = if lacksDescription a then [noDescription c a] else [] := by
  cases hl : lacksDescription a with
  | false => rw [warnings, if_pos (isDocumented_eq_true_iff.mpr hl), if_neg (by simp)]
  | true => rw [warnings, if_neg (by simp [isDocumented_eq_true_iff, hl]), if_pos rfl, noDescription]

theorem flatMap_warnings (c : Node) : c.children.flatMap (warnings c) = undocumentedIn c := by
  unfold undocumentedIn
  induction c.children with
  | nil => rfl
  | cons a r ih =>
    rw [List.flatMap_cons, ih, warnings_eq, List.filter_cons]
    split
    · rw [List.map_cons, List.singleton_append]
    · rw [List.nil_append]

theorem filter_undocumentedIn (cs : List Node) :
    (cs.flatMap undocumentedIn).filter isUndocumented = cs.flatMap undocumentedIn := by
  refine List.filter_eq_self.mpr fun e he => ?_
  obtain ⟨c, -, he⟩ := List.mem_flatMap.mp he
  obtain ⟨a, -, rfl⟩ := List.mem_map.mp he
  rfl

/-! ## What is logged on the way to a module -/

theorem events_classOf {d : ClassDecl} (h : (classOf s c).result = .ok d) : (classOf s c).events = undocumentedIn c := by
  obtain ⟨ps, hps, -⟩ := classOf_ok_iff.mp h
  have hproperty : ∀ a ∈ c.children, (propertyOf s c a).events = warnings c a := by
    intro a ha
    obtain ⟨q, -, hq⟩ := exists_right_of_mem hps a ha
    unfold propertyOf at hq ⊢
    split at hq
    · cases hq
    · rfl
  show (Logged.each (propertyOf s c) c.children).events = _
  rw [events_each ((each_ok_iff _ _ _).mpr hps), List.flatMap_congr hproperty, flatMap_warnings]

theorem events_moduleOf {made : Option ModuleDecl} (h : (moduleOf s p).result = .ok made) :
    (moduleOf s p).events = p.compoundChildren.flatMap undocumentedIn := by
  have hclasses := classesOf_moduleOf h
  unfold moduleOf
  split
  · have hclass : ∀ c ∈ p.compoundChildren, (classOf s c).events = undocumentedIn c := by
      intro c hc
      obtain ⟨d, -, hd⟩ := exists_right_of_mem hclasses c hc
      exact events_classOf hd
    show (Logged.each (classOf s) p.compoundChildren).events = _
    rw [events_each ((each_ok_iff _ _ _).mpr hclasses), List.flatMap_congr hclass]
  · rename_i hc
    rw [Node.compoundChildren_eq_nil (by simpa using hc)]
    rfl

/-- A node whose module does not fail tells of the attributes of its compound children. -/
theorem undocumented_moduleRun {made : Option ModuleDecl} (h : (moduleOf s p).result = .ok made) :
    (moduleRun s p).events.filter isUndocumented = p.compoundChildren.flatMap undocumentedIn := by
  have hevents := events_moduleOf h
  unfold moduleRun
  cases made with
  | none =>
    simp only [h, hevents]
    exact filter_undocumentedIn _
  | some m =>
    have hmade : [Event.moduleMade (modulePath s p) m.classes.length].filter isUndocumented = [] := rfl
    simp only [h, hevents]
    rw [List.filter_append, filter_undocumentedIn, hmade, List.append_nil]

/-! ## Whole runs -/

/-- The walk tells of the attributes of every compound, at the node above it. -/
theorem undocumented_visit (h : ∀ p ∈ n.reached, ∃ made, (moduleOf s p).result = .ok made) :
    (visit s n).events.filter isUndocumented = n.reached.flatMap fun p => p.compoundChildren.flatMap undocumentedIn := by
  rw [visit_eq, Run.events_concat, List.flatMap_map, List.filter_flatMap]
  refine List.flatMap_congr fun p hp => ?_
  obtain ⟨made, hmade⟩ := h p hp
  exact undocumented_moduleRun hmade

/-- A run in which nothing fails tells of every attribute without a description once, and of no others: at each reached
    node in pre-order, of the attributes of its compound children in order. It does so in the walk; the facade logs
    nothing. Each time it warns, and names the compound and the property. -/
theorem undocumented_generate (h : (generate s n).report.failures = []) :
    (generate s n).events.filter isUndocumented =
        (n.reached.flatMap fun p => p.compoundChildren.flatMap fun c =>
          (c.children.filter lacksDescription).map (noDescription c)) ∧
      (facadeRun s n).events = [] ∧
      ∀ c a, (noDescription c a).level = .warn ∧ (noDescription c a).message = "attribute has no description" ∧
        (noDescription c a).fields = [("node", .text c.displayPath), ("attribute", .text a.property)] := by
  obtain ⟨-, hmade⟩ := (failures_eq_nil_iff s n).mp h
  obtain ⟨f, hf, -⟩ := report_of_no_failures h
  have hfacade : (facadeRun s n).events = [] := by
    rw [facadeRun, hf]
  refine ⟨?_, hfacade, fun c a => ⟨rfl, rfl, rfl⟩⟩
  show (((visit s n).events ++ (facadeRun s n).events) ++ [Event.finished _ _]).filter isUndocumented = _
  have hfinished : ∀ units failures, [Event.finished units failures].filter isUndocumented = [] := fun _ _ => rfl
  rw [hfacade, List.append_nil, List.filter_append, hfinished, List.append_nil, undocumented_visit hmade]
  rfl

/-- Attributes of all kinds without a description, beside some with one, on two levels. -/
def barelyDocumented : Node :=
  Node.root [Node.compound "bar" [Node.leaf "x" "any", { Node.leaf "y" "any" with description := some "Sets y." },
    { Node.compound "line" [{ Node.leaf "width" "number" with description := some "" }] with description := some "A line." },
    Node.element "steps" "step" [Node.leaf "label" "string"]]]

theorem undocumented_generate_bar :
    (generate .standard barelyDocumented).report.failures = [] ∧
      (generate .standard barelyDocumented).events.filter isUndocumented =
        [.undocumented "bar" "x", .undocumented "bar" "steps", .undocumented "bar.line" "width",
          .undocumented "bar.step" "label"] ∧
      (facadeRun .standard barelyDocumented).events = [] := by
  have h : (generate .standard barelyDocumented).report.failures = [] := by decide +kernel
  obtain ⟨hevents, hfacade, -⟩ := undocumented_generate h
  refine ⟨h, ?_, hfacade⟩
  rw [hevents]
  decide +kernel

end PlotTypes.Package
