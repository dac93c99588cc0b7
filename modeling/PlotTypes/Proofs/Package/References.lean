/-
  PlotTypes.Proofs.Package.References — what generated modules import from each other and
  what they name.

  A module imports every compound child of its node by name, and a class names the classes
  of its compound's compound children with the local name of that child in front. The file
  of a child is made two steps further down the walk, by the child's own module, and only
  when the child has compound children.
  - `datatype_imports_supplied`: every compound child is imported, and nothing else with them.
    An imported child has a file if it has a compound child. One without has no module, and its
    name is imported all the same (`line_imported_without_unit`).
  - `references_resolve`: where a type names a class, the owner does have a compound child. So
    its local name is bound, its file is made, and the class is in it.
-/

import PlotTypes.Proofs.Package.Walk

namespace PlotTypes.Package

open PlotTypes.Python PlotTypes.Schema

variable {s : Settings} {n : Node}

/-! ## Imports -/

/-- With the standard settings, the sources of other imports part from those of the datatypes at the eleventh
    character. -/
theorem datatypesModule_ne {path source : String} (h : source.toList[10]? ≠ some 'd') :
    Settings.standard.datatypesModule path ≠ source := by
  rintro rfl
  simp [Settings.datatypesModule, Settings.standard] at h

theorem datatypes_mem_importsOf (s : Settings) (n : Node) :
    Import.names (s.datatypesModule n.packagePath) (importedAs s.datatypePrefix n.compoundChildren) ∈
      importsOf s n := by
  simp [importsOf]

theorem validators_mem_importsOf (s : Settings) (n : Node) :
    Import.names (s.validatorsModule n.packagePath) (importedAs s.validatorPrefix n.compoundChildren) ∈
      importsOf s n := by
  simp [importsOf]

/-- Where the names of the datatypes come from, no other names come from. -/
theorem names_eq_of_mem_importsOf {path : String} {names : List ImportedName}
    (h : Import.names (Settings.standard.datatypesModule path) names ∈ importsOf .standard n) :
    path = n.packagePath ∧ names = importedAs Settings.standard.datatypePrefix n.compoundChildren := by
  simp only [importsOf, List.mem_cons, List.not_mem_nil, or_false, Import.names.injEq, reduceCtorEq, false_or] at h
  rcases h with ⟨hs, -⟩ | ⟨hs, -⟩ | ⟨hs, -⟩ | ⟨hs, hn⟩
  · exact absurd hs (datatypesModule_ne (by decide))
  · exact absurd hs (datatypesModule_ne (by decide))
  · exact absurd hs (datatypesModule_ne (by simp [Settings.validatorsModule, Settings.standard]))
  · unfold Settings.datatypesModule at hs
    exact ⟨(String.append_right_inj _).mp hs, hn⟩

structure Supplied (s : Settings) (r : Report) (c : Node) (i : ImportedName) : Prop where
  name : i = ⟨c.name, some (s.datatypePrefix ++ c.name)⟩
  unit : c.hasCompoundChildren = true →
    ∃ m, (moduleOf s c).result = .ok (some m) ∧ ⟨modulePath s c, m.source⟩ ∈ r.units
  noModule : c.hasCompoundChildren = false → (moduleOf s c).result = .ok none

theorem supplied_importedAs {p : Node} (hf : (generate s n).report.failures = []) (hp : p ∈ n.reached) :
    List.Forall₂ (Supplied s (generate s n).report) p.compoundChildren
      (importedAs s.datatypePrefix p.compoundChildren) := by
  unfold importedAs
  rw [List.forall₂_map_right_iff, List.forall₂_same]
  intro c hc
  refine ⟨rfl, fun hcc => ?_, moduleOf_none_iff.mpr⟩
  have hreached := Node.compoundChildren_subset_reached n p hp c hc
  obtain ⟨m, hm⟩ := exists_mem_madeModules hf hreached hcc
  exact ⟨m, (mem_madeModules.mp hm).2, unitOf_mem_units hm⟩

/-- With the standard settings every module imports the compound children of its node from the datatypes module of the
    node, and imports nothing else from a datatypes module. Those that have compound children have their files in the
    report, and the others have no module. -/
theorem datatype_imports_supplied {text : String} {run : Run} (hn : load text = .ok n)
    (hr : generateFromText .standard text = .ok run) (hf : run.report.failures = []) :
    (∃ f, facadeOf .standard n = .ok f ∧
      run.report.units = (madeModules .standard n).map (unitOf .standard) ++ [⟨facadePath, f.source⟩]) ∧
      ∀ e ∈ madeModules .standard n,
        Import.names (Settings.standard.datatypesModule e.1.packagePath)
          (importedAs Settings.standard.datatypePrefix e.1.compoundChildren) ∈ e.2.imports ∧
        ∀ path names, Import.names (Settings.standard.datatypesModule path) names ∈ e.2.imports →
          path = e.1.packagePath ∧ List.Forall₂ (Supplied .standard run.report) e.1.compoundChildren names := by
  rw [generateFromText, hn, Except.ok.injEq] at hr
  subst hr
  constructor
  · obtain ⟨f, hfacade, hreport⟩ := report_of_no_failures hf
    exact ⟨f, hfacade, by rw [hreport]⟩
  · rintro ⟨p, m⟩ he
    obtain ⟨hp, hm⟩ := mem_madeModules.mp he
    have himports : m.imports = importsOf .standard p := (moduleOf_some_iff.mp hm).2.1
    refine ⟨himports ▸ datatypes_mem_importsOf .standard p, fun path names hi => ?_⟩
    rw [himports] at hi
    obtain ⟨hpath, rfl⟩ := names_eq_of_mem_importsOf hi
    exact ⟨hpath, supplied_importedAs hf hp⟩

def lineText : String :=
  "\x7b\"traces\":\x7b\"bar\":\x7b\"attributes\":\x7b\"line\":\x7b\"width\":\x7b\"valType\":\"number\"\x7d\x7d\x7d\x7d\x7d\x7d"

def lineTree : Node := Node.root [Node.compound "bar" [Node.compound "line" [Node.leaf "width" "number"]]]

set_option maxRecDepth 10000 in
theorem load_lineText : load lineText = .ok lineTree := toOption_eq_some_iff.mp (by decide +kernel)

theorem generateFromText_lineText : generateFromText .standard lineText = .ok (generate .standard lineTree) :=
  generateFromText_of_load load_lineText

theorem datatype_imports_supplied_line :
    load lineText = .ok lineTree ∧ generateFromText .standard lineText = .ok (generate .standard lineTree) ∧
      (generate .standard lineTree).report.failures = [] ∧
        (madeModules .standard lineTree).map (·.1.dottedPath) = ["", "bar"] ∧
          (∃ f, facadeOf .standard lineTree = .ok f ∧ (generate .standard lineTree).report.units =
            (madeModules .standard lineTree).map (unitOf .standard) ++ [⟨facadePath, f.source⟩]) ∧
          ∀ e ∈ madeModules .standard lineTree,
            Import.names (Settings.standard.datatypesModule e.1.packagePath)
              (importedAs Settings.standard.datatypePrefix e.1.compoundChildren) ∈ e.2.imports ∧
            ∀ path names, Import.names (Settings.standard.datatypesModule path) names ∈ e.2.imports →
              path = e.1.packagePath ∧
                List.Forall₂ (Supplied .standard (generate .standard lineTree).report) e.1.compoundChildren names := by
  have hf : (generate .standard lineTree).report.failures = [] := by decide +kernel
  refine ⟨load_lineText, generateFromText_lineText, hf, by decide +kernel, ?_⟩
  exact datatype_imports_supplied load_lineText generateFromText_lineText hf

/-- Without failures, the module of `bar` imports `line`, and `line` has no file. -/
theorem line_imported_without_unit :
    load lineText = .ok lineTree ∧ generateFromText .standard lineText = .ok (generate .standard lineTree) ∧
      (generate .standard lineTree).report.failures = [] ∧
        ∃ e ∈ madeModules .standard lineTree, e.1.compoundChildren.map (·.name) = ["line"] ∧
          Import.names (Settings.standard.datatypesModule e.1.packagePath) [⟨"line", some "d_line"⟩] ∈ e.2.imports ∧
            ∀ c ∈ e.1.compoundChildren, (generate .standard lineTree).report.unit? (modulePath .standard c) = none :=
  ⟨load_lineText, generateFromText_lineText, by decide +kernel, by decide +kernel⟩

/-! ## Qualified names -/

def Binds (m : ModuleDecl) (localName source name : String) : Prop :=
  ∃ names, Import.names source names ∈ m.imports ∧ ⟨name, some localName⟩ ∈ names

/-- The type of a property that names a class: the name in front of the dot is bound to the owner, and the owner's own
    file holds the class. -/
structure Resolves (s : Settings) (n : Node) (e : Node × ModuleDecl) (owner a : Node) (q : Property) : Prop where
  nested : q.kind = .nested → q.typeText = s.datatypePrefix ++ owner.name ++ "." ++ a.className
  sequence : q.kind = .sequence →
    q.typeText = "Tuple[" ++ (s.datatypePrefix ++ owner.name ++ "." ++ a.className) ++ ", ...]"
  bound : Binds e.2 (s.datatypePrefix ++ owner.name) (s.datatypesModule e.1.packagePath) owner.name
  defined : ∃ m : ModuleDecl, (owner, m) ∈ madeModules s n ∧
    ⟨modulePath s owner, m.source⟩ ∈ (generate s n).report.units ∧ ∃ d ∈ m.classes, d.name = a.className

/-- The class of `owner`: the name in front of its validators is bound, and every class that its types name is found. -/
structure Linked (s : Settings) (n : Node) (e : Node × ModuleDecl) (owner : Node) (c : ClassDecl) : Prop where
  name : c.name = owner.className
  validators : ∀ r ∈ c.constructor.registrations, r.moduleAlias = s.validatorPrefix ++ owner.name
  bound : Binds e.2 (s.validatorPrefix ++ owner.name) (s.validatorsModule e.1.packagePath) owner.name
  types : List.Forall₂ (fun a q => q.kind ≠ .simple → Resolves s n e owner a q) owner.children c.properties

theorem binds_of_mem {p owner : Node} {m : ModuleDecl} (hm : (moduleOf s p).result = .ok (some m))
    (ho : owner ∈ p.compoundChildren) :
    Binds m (s.validatorPrefix ++ owner.name) (s.validatorsModule p.packagePath) owner.name ∧
      Binds m (s.datatypePrefix ++ owner.name) (s.datatypesModule p.packagePath) owner.name := by
  have himports : m.imports = importsOf s p := (moduleOf_some_iff.mp hm).2.1
  have hmem : ∀ pre, ⟨owner.name, some (pre ++ owner.name)⟩ ∈ importedAs pre p.compoundChildren :=
    fun pre => List.mem_map.mpr ⟨owner, ho, rfl⟩
  constructor
  · exact ⟨_, himports ▸ validators_mem_importsOf s p, hmem s.validatorPrefix⟩
  · exact ⟨_, himports ▸ datatypes_mem_importsOf s p, hmem s.datatypePrefix⟩

/-- An attribute whose property names a class is a compound, if array elements are. -/
theorem isCompound_of_kindOf {a : Node} (he : a.isElement = true → a.isCompound = true) (hk : kindOf a ≠ .simple) :
    a.isCompound = true := by
  by_cases h : a.isElement = true
  · exact he h
  · by_contra hc
    apply hk
    unfold kindOf
    rw [if_neg h, if_neg hc]

/-- The class of a compound attribute is in the module of its owner, and the module in the report. -/
theorem defined_of_isCompound {owner a : Node} (hf : (generate s n).report.failures = []) (ho : owner ∈ n.reached)
    (ha : a ∈ owner.children) (hc : a.isCompound = true) :
    ∃ m : ModuleDecl, (owner, m) ∈ madeModules s n ∧
      ⟨modulePath s owner, m.source⟩ ∈ (generate s n).report.units ∧ ∃ d ∈ m.classes, d.name = a.className := by
  have hcc : a ∈ owner.compoundChildren := Node.mem_compoundChildren.mpr ⟨ha, hc⟩
  obtain ⟨m, hm⟩ := exists_mem_madeModules hf ho ((Node.hasCompoundChildren_iff owner).mpr ⟨a, hcc⟩)
  have hclasses := (moduleOf_some_iff.mp (mem_madeModules.mp hm).2).2.2
  obtain ⟨d, hd, hclass⟩ := exists_right_of_mem hclasses a hcc
  obtain ⟨ps, -, rfl⟩ := classOf_ok_iff.mp hclass
  exact ⟨m, hm, unitOf_mem_units hm, _, hd, rfl⟩

/-- When nothing fails, every class name in a generated module is found where the module's imports lead to. -/
theorem references_resolve (hb : Node.Built n) (hf : (generate s n).report.failures = []) :
    (∃ f, facadeOf s n = .ok f ∧
      (generate s n).report.units = (madeModules s n).map (unitOf s) ++ [⟨facadePath, f.source⟩]) ∧
      ∀ e ∈ madeModules s n, List.Forall₂ (Linked s n e) e.1.compoundChildren e.2.classes := by
  constructor
  · obtain ⟨f, hfacade, hreport⟩ := report_of_no_failures hf
    exact ⟨f, hfacade, by rw [hreport]⟩
  rintro ⟨p, m⟩ he
  obtain ⟨hp, hm⟩ := mem_madeModules.mp he
  refine (forall₂_of_mem (moduleOf_some_iff.mp hm).2.2).imp ?_
  rintro owner c ⟨ho, hc⟩
  have hreached := Node.compoundChildren_subset_reached n p hp owner ho
  obtain ⟨hvalidators, hdatatypes⟩ := binds_of_mem hm ho
  obtain ⟨ps, hps, rfl⟩ := classOf_ok_iff.mp hc
  refine ⟨rfl, ?_, hvalidators, ?_⟩
  · intro r hr
    obtain ⟨a, -, rfl⟩ := List.mem_map.mp hr
    rfl
  refine (forall₂_of_mem hps).imp ?_
  rintro a q ⟨ha, hq⟩ hk
  -- the kind was decided from `a` here; the class of `a` is made at `owner`, further down the walk
  rw [(propertyOf_ok hq).2.1] at hk
  have hcompound := isCompound_of_kindOf ((hb.elements.reached owner hreached).child a ha).here hk
  obtain ⟨hnested, hsequence⟩ := typeText_qualified hq
  exact ⟨hnested, hsequence, hdatatypes, defined_of_isCompound hf hreached ha hcompound⟩

def stepsTree : Node :=
  Node.root [Node.compound "bar" [Node.compound "line" [Node.leaf "width" "number"],
    Node.element "steps" "step" [Node.leaf "label" "string"]]]

theorem built_stepsTree : Node.Built stepsTree := by
  refine .root _ (List.forall_mem_singleton.mpr (.compound _ _ (List.forall_mem_cons.mpr ⟨?_, ?_⟩)))
  · exact .compound _ _ (List.forall_mem_singleton.mpr (.leaf _ _))
  · exact List.forall_mem_singleton.mpr (.element _ _ _ (List.forall_mem_singleton.mpr (.leaf _ _)))

theorem references_resolve_steps :
    Node.Built stepsTree ∧ (generate .standard stepsTree).report.failures = [] ∧
      (madeModules .standard stepsTree).map (·.2.classes.map (·.properties.map (·.kind))) =
        [[[.nested, .sequence]], [[.simple], [.simple]]] ∧
        (∃ f, facadeOf .standard stepsTree = .ok f ∧ (generate .standard stepsTree).report.units =
          (madeModules .standard stepsTree).map (unitOf .standard) ++ [⟨facadePath, f.source⟩]) ∧
        ∀ e ∈ madeModules .standard stepsTree,
          List.Forall₂ (Linked .standard stepsTree e) e.1.compoundChildren e.2.classes := by
  have hf : (generate .standard stepsTree).report.failures = [] := by decide +kernel
  exact ⟨built_stepsTree, hf, by decide +kernel, references_resolve built_stepsTree hf⟩

end PlotTypes.Package
