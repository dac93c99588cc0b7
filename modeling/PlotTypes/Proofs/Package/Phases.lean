/-
  PlotTypes.Proofs.Package.Phases — generated constructors work for attributes in any order.

  A constructor registers the validators of all attributes and prepares the shadow members of
  the nested ones before it assigns the first parameter, so no setter misses what it needs. The
  three parts are made apart: validators from the attributes, shadow members from the properties
  by kind, assignments from attributes and parameters by place. What the setters call belongs to
  the base classes and may fail, for instance where a shadow member hides what they use (see
  `PlotTypes.Proofs.Package.Construction`). A statement may also fail by itself, where a parameter
  has the name that it looks up: `super`, or the local name of the validators. The constructor then
  ends, after what ran before.
  - `MadeFor.twoPhase`: they fit together.
  - `setters_run_in_order`: so the constructor runs the setter of each attribute once, in order,
    with its own parameter, registered and prepared, and getters read what setters write.
-/

import PlotTypes.Proofs.Package.Construction
import PlotTypes.Proofs.Python.Running

namespace PlotTypes.Package

open PlotTypes.Python PlotTypes.Schema

variable {s : Settings} {n : Node} {c : ClassDecl}

/-! ## The statements of a constructor -/

def statementsOf (s : Settings) (n : Node) : List Statement :=
  .entry "_data" "type" (stringLiteral n.dottedPath) ::
    n.children.map (fun a => (registrationOf s n a).statement) ++
      (n.children.filter (kindOf · == .nested)).map (fun a => preparation a.property) ++
        n.children.map fun a => (assignmentOf a).statement

theorem MadeFor.statements (h : MadeFor s n c) : statements c.constructor = statementsOf s n := by
  rw [Python.statements, setUp, h.registrations, h.prepared, h.assigned, h.typeName, List.map_map, List.map_map,
    List.map_map]
  rfl

/-! ## Both phases -/

theorem MadeFor.twoPhase (h : MadeFor s n c) (hnodup : (n.children.map (·.property)).Nodup) (hvisible : Visible n) :
    TwoPhase c where
  names := h.names ▸ hnodup
  registered p hp := by
    obtain ⟨a, ha, hname, -⟩ := exists_left_of_mem h.properties p hp
    have hregistered : c.constructor.registrations.map (·.property) = n.children.map (·.property) := by
      rw [h.registrations, List.map_map]
      rfl
    rw [hregistered, hname]
    exact List.count_eq_one_of_mem hnodup (List.mem_map_of_mem ha)
  prepared p hp hk := by
    obtain ⟨a, ha, hname, hkind⟩ := exists_left_of_mem h.properties p hp
    rw [h.prepared, hname]
    exact List.mem_map_of_mem (List.mem_filter.mpr ⟨ha, by simp [← hkind, hk]⟩)
  assigned b hb := by
    rw [h.assigned] at hb
    obtain ⟨a, ha, rfl⟩ := List.mem_map.mp hb
    obtain ⟨p, hp, hname, -⟩ := exists_right_of_mem h.properties a ha
    exact ⟨p, hp, hname⟩
  apart _ hp _ _ := h.name_ne_shadowName hvisible hp

/-- A run of the setter of an attribute with the parameter of the attribute. Its validator has been registered, once,
    and the shadow member of a nested attribute is set. -/
structure RunsSetterOf (a : Node) (r : SetterRun) : Prop where
  property : r.property = a.property
  argument : r.argument = a.parameter
  registered : r.found.entries.count ("_validators", a.property) = 1
  prepared : kindOf a = .nested → shadowName a.property ∈ r.found.members

theorem runsSetterOf_of_runsSetter {ps : List Property} (hps : List.Forall₂ PropertyFor n.children ps) {a : Node}
    (ha : a ∈ n.children) {r : SetterRun} (hr : RunsSetter ps (assignmentOf a) r) : RunsSetterOf a r := by
  obtain ⟨p, hp, hname, hkind⟩ := exists_right_of_mem hps a ha
  have hready := hr.ready p hp hname
  refine ⟨hr.property, hr.argument, hname ▸ hready.registered, fun hk => ?_⟩
  rw [← hname]
  exact hready.readable (hkind.trans hk)

/-- For every order of attributes: besides blanks and comments the constructor consists of the initializer of the base
    class and of these statements, over one parameter for each attribute. Whatever the base classes do, and whatever
    names the parameters hide, no setter reads a shadow member that is not set, and the setters of the attributes run in
    order, each once: all of them, if everything returns. A getter reads the slot that the setter of its property
    writes. -/
theorem setters_run_in_order (hc : (classOf s n).result = .ok c) (hnodup : (n.children.map (·.property)).Nodup)
    (hvisible : Visible n) :
    (bodyLines c.constructor).filter isCode = superLine c.constructor :: (statementsOf s n).map Statement.line ∧
      statements c.constructor = statementsOf s n ∧
      c.constructor.parameters.map (·.name) = n.children.map (·.parameter) ∧
      (∀ returns, RunsInOrder RunsSetterOf n.children (execute returns c)) ∧
      (∀ returns, (∀ i st, returns i st = true) →
        (execute returns c).ending = .done ∧ List.Forall₂ RunsSetterOf n.children (execute returns c).runs) ∧
      List.Forall₂ (fun a p => PropertyFor a p ∧ AccessesSlot p) n.children c.properties := by
  have hmade := madeFor_of_classOf hc
  have hruns : ∀ returns, RunsInOrder RunsSetterOf n.children (execute returns c) := by
    intro returns
    have hassigned := execute_of_twoPhase (hmade.twoPhase hnodup hvisible) returns
    rw [hmade.assigned] at hassigned
    exact hassigned.of_map fun a ha r hr => runsSetterOf_of_runsSetter hmade.properties ha hr
  refine ⟨?_, hmade.statements, hmade.parameters, hruns, fun returns hreturns => ?_, ?_⟩
  · rw [code_bodyLines, hmade.statements]
  · exact (hruns returns).complete (run_ending_ne_raised hreturns _)
  · exact hmade.properties.imp fun a p hp => ⟨hp, accessesSlot p⟩

def markerTree : Node :=
  Node.compound "marker" [Node.compound "line" [Node.leaf "width" "number"], Node.leaf "size" "number",
    Node.element "stops" "stop" [Node.leaf "offset" "number"]]

theorem setters_run_in_order_marker :
    ∃ c, (classOf .standard markerTree).result = .ok c ∧ (markerTree.children.map (·.property)).Nodup ∧
      Visible markerTree ∧
      (bodyLines c.constructor).filter isCode =
        superLine c.constructor :: (statementsOf .standard markerTree).map Statement.line ∧
      statements c.constructor = statementsOf .standard markerTree ∧
      c.constructor.parameters.map (·.name) = ["line", "size", "stops"] ∧
      (∀ returns, RunsInOrder RunsSetterOf markerTree.children (execute returns c)) ∧
      ((execute (fun _ _ => true) c).ending = .done ∧
        List.Forall₂ RunsSetterOf markerTree.children (execute (fun _ _ => true) c).runs) ∧
      List.Forall₂ (fun a p => PropertyFor a p ∧ AccessesSlot p) markerTree.children c.properties := by
  have htyped : ∀ a ∈ markerTree.children, Typed a := by
    unfold Typed
    decide
  have hnodup : (markerTree.children.map (·.property)).Nodup := by decide
  have hvisible : Visible markerTree := by
    unfold Visible
    decide
  obtain ⟨c, hc⟩ := (exists_classOf_iff .standard markerTree).mpr htyped
  obtain ⟨hlines, hstatements, hparameters, hruns, hcomplete, hslots⟩ := setters_run_in_order hc hnodup hvisible
  exact ⟨c, hc, hnodup, hvisible, hlines, hstatements, hparameters.trans (by decide), hruns,
    hcomplete (fun _ _ => true) fun _ _ => rfl, hslots⟩

/-- The shadow member is there when the first setter runs, and so are all validators. -/
example :
    ((classOf .standard markerTree).result.toOption.map fun c =>
        (execute (fun _ _ => true) c).runs.map fun r => (r.property, r.argument, r.found.members)) =
      some [("line", "line", ["_line"]), ("size", "size", ["_line", "_line"]),
        ("stops", "stops", ["_line", "_line"])] := by
  decide +kernel

end PlotTypes.Package
