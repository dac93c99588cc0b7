/-
  PlotTypes.Proofs.Package.Location — where the files of a package stand.

  A module's file stands below `datatypes` and the section, in one directory for each name in
  the path of its node. That needs names that are file names. For compounds the check sees to
  it, since they go by their property, which is an identifier. The name of an array element is
  another than its property, and the check does not look at it.
  - `parts_modulePath_iff`: the file of a node mirrors its path exactly when all names in the
    path are file names.
  - `modulePaths_mirror_iff`: so it is for all files of a package if, and only if, the array
    elements on the way have file names; no file is outside the output directory then. One that
    is named like an absolute path is (`escape_outside`).
  - `unit_paths_nodup`: no two files stand in one place if, besides, no array element has
    the name of a sibling. With one that has, the two modules share a place
    (`step_written_twice`).
-/

import PlotTypes.Proofs.Package.Walk
import PlotTypes.Proofs.Path
import PlotTypes.Proofs.Schema.Paths
import PlotTypes.Proofs.Schema.Reading

namespace PlotTypes.Package

open PlotTypes.Python PlotTypes.Schema

variable {s : Settings} {n p : Node}

/-! ## Loaded trees -/

structure Loaded (n : Node) : Prop where
  isRoot : n.isRoot = true
  isCompound : n.isCompound = true
  path : n.path = []
  placed : n.Placed
  named : Node.Everywhere Node.Named n
  valid : violation? n = none

theorem loaded_of_load {text : String} (h : load text = .ok n) : Loaded n := by
  obtain ⟨document, -, hn, hv⟩ := load_ok_iff.mp h
  obtain ⟨ns, rfl, hbuilt⟩ := built_of_ofJson hn
  exact ⟨rfl, rfl, rfl, .of_root ns, (Node.Built.root ns hbuilt).named, validate_ok_iff.mp hv⟩

/-- All names in a path are file names if those of the array elements on the way are. -/
theorem Loaded.fileNames_iff (h : Loaded n) (hp : p ∈ n.reached) :
    (∀ name ∈ p.path, Path.isFileName name = true) ↔
      ∀ q ∈ n.inner, q.isElement = true → q.path <+: p.path → Path.isFileName q.name = true := by
  constructor
  · intro hnames q hq _ hway
    exact hnames q.name (hway.subset (Node.name_mem_path_of_mem_inner h.placed hq))
  · intro helements name hname
    rcases Node.exists_inner_of_mem_path h.placed hp name hname with hnil | ⟨q, hq, hway, rfl⟩
    · rw [h.path] at hnil
      cases hnil
    cases hqe : q.isElement with
    | true => exact helements q hq hqe hway
    | false =>
      -- a compound goes by its property, and the check has seen that
      obtain ⟨r, hr, hqr⟩ := List.mem_flatMap.mp hq
      have hnamed := ((h.named.reached r hr).child q (Node.mem_compoundChildren.mp hqr).1).here
      rw [hnamed.others hqe]
      exact Path.isFileName_of_isIdentifier (isIdentifier_of_mem_inner h.isCompound h.valid hq)

/-! ## One file -/

def mirrored (s : Settings) (n : Node) : List String := "datatypes" :: s.sectionName :: n.path ++ [moduleFile]

theorem steps_modulePath (hs : Path.isFileName s.sectionName = true)
    (hn : ∀ name ∈ n.path, Path.isFileName name = true) : (modulePath s n).steps = (mirrored s n).map .name := by
  have hfile : Path.isFileName moduleFile = true := by decide
  have htop : (Path.mk "datatypes").steps = [.name "datatypes"] := Path.steps_of_isFileName (by decide)
  rw [modulePath, Path.steps_push (Path.isAbsolute_of_isFileName hfile), Path.steps_pushAll hn,
    Path.steps_push (Path.isAbsolute_of_isFileName hs), htop, Path.steps_of_isFileName hs,
    Path.steps_of_isFileName hfile]
  simp [mirrored]

theorem parts_modulePath (hs : Path.isFileName s.sectionName = true)
    (hn : ∀ name ∈ n.path, Path.isFileName name = true) : (modulePath s n).parts = (mirrored s n).map .name :=
  Path.parts_of_steps (steps_modulePath hs hn)

/-- The file of a node mirrors its path exactly when all names in the path are file names. -/
theorem parts_modulePath_iff (hs : Path.isFileName s.sectionName = true) :
    (modulePath s n).parts = (mirrored s n).map .name ↔ ∀ name ∈ n.path, Path.isFileName name = true := by
  refine ⟨fun h name hname => ?_, parts_modulePath hs⟩
  have hmem : Path.Part.name name ∈ (modulePath s n).parts := by
    rw [h]
    exact List.mem_map_of_mem (by simp [mirrored, hname])
  exact Path.isFileName_of_mem_steps (Path.mem_steps_of_mem_parts hmem)

theorem staysBelow_modulePath (hs : Path.isFileName s.sectionName = true)
    (hn : ∀ name ∈ n.path, Path.isFileName name = true) : (modulePath s n).StaysBelow :=
  Path.staysBelow_of_steps (steps_modulePath hs hn)

theorem steps_facadePath : facadePath.steps = ["__init__.py"].map .name := Path.steps_of_isFileName (by decide)

/-! ## All files -/

/-- On the way to every module that is made, array elements have names that can be file names. -/
def ElementsNameFiles (s : Settings) (n : Node) : Prop :=
  ∀ e ∈ madeModules s n, ∀ q ∈ n.inner, q.isElement = true → q.path <+: e.1.path → Path.isFileName q.name = true

instance (s : Settings) (n : Node) : Decidable (ElementsNameFiles s n) :=
  inferInstanceAs (Decidable (∀ e ∈ madeModules s n, ∀ q ∈ n.inner, _))

theorem Loaded.elementsNameFiles_iff (h : Loaded n) :
    ElementsNameFiles s n ↔ ∀ e ∈ madeModules s n, ∀ name ∈ e.1.path, Path.isFileName name = true :=
  forall₂_congr fun _ he => (h.fileNames_iff (mem_madeModules.mp he).1).symm

/-- The files of the modules mirror the tree, and all files are below the output directory, exactly when the array
    elements on the way to a module have file names. -/
theorem modulePaths_mirror_iff {text : String} {run : Run} (hn : load text = .ok n)
    (hr : generateFromText s text = .ok run) (hs : isIdentifier s.sectionName = true) :
    (∃ f, facadeOf s n = .ok f ∧
      run.report.units = (madeModules s n).map (unitOf s) ++ [⟨facadePath, f.source⟩]) ∧
      (((∀ e ∈ madeModules s n, (modulePath s e.1).parts = (mirrored s e.1).map .name) ∧
          ∀ u ∈ run.report.units, u.path.StaysBelow) ↔
        ElementsNameFiles s n) := by
  have hloaded := loaded_of_load hn
  have hsection := Path.isFileName_of_isIdentifier hs
  rw [generateFromText, hn, Except.ok.injEq] at hr
  subst hr
  obtain ⟨f, hf, hreport⟩ := report_generate_of_isRoot s hloaded.isRoot
  refine ⟨⟨f, hf, by rw [hreport]⟩, ?_⟩
  rw [hloaded.elementsNameFiles_iff, hreport]
  constructor
  · rintro ⟨hmirror, -⟩ e he
    exact (parts_modulePath_iff hsection).mp (hmirror e he)
  · intro hnames
    refine ⟨fun e he => parts_modulePath hsection (hnames e he), fun u hu => ?_⟩
    rcases List.mem_append.mp hu with hu | hu
    · obtain ⟨e, he, rfl⟩ := List.mem_map.mp hu
      exact staysBelow_modulePath hsection (hnames e he)
    · rw [List.mem_singleton] at hu
      subst hu
      exact Path.staysBelow_of_steps steps_facadePath

def dimensionsText : String :=
  "\x7b\"traces\":\x7b\"parcoords\":\x7b\"attributes\":\x7b\"dimensions\":\x7b\"items\":\x7b\"dimension\":\x7b" ++
    "\"line\":\x7b\"width\":\x7b\"valType\":\"number\"\x7d\x7d\x7d\x7d\x7d\x7d\x7d\x7d\x7d"

def dimensionsTree : Node :=
  Node.root [Node.compound "parcoords"
    [Node.element "dimensions" "dimension" [Node.compound "line" [Node.leaf "width" "number"]]]]

set_option maxRecDepth 10000 in
theorem load_dimensionsText : load dimensionsText = .ok dimensionsTree := toOption_eq_some_iff.mp (by decide +kernel)

theorem modulePaths_mirror_iff_dimension :
    load dimensionsText = .ok dimensionsTree ∧
      generateFromText .standard dimensionsText = .ok (generate .standard dimensionsTree) ∧
      isIdentifier Settings.standard.sectionName = true ∧ ElementsNameFiles .standard dimensionsTree ∧
      (madeModules .standard dimensionsTree).map (mirrored .standard ·.1) =
        [["datatypes", "trace", "__init__.py"], ["datatypes", "trace", "parcoords", "__init__.py"],
          ["datatypes", "trace", "parcoords", "dimension", "__init__.py"]] ∧
      (∃ f, facadeOf .standard dimensionsTree = .ok f ∧ (generate .standard dimensionsTree).report.units =
        (madeModules .standard dimensionsTree).map (unitOf .standard) ++ [⟨facadePath, f.source⟩]) ∧
      (((∀ e ∈ madeModules .standard dimensionsTree,
            (modulePath .standard e.1).parts = (mirrored .standard e.1).map .name) ∧
          ∀ u ∈ (generate .standard dimensionsTree).report.units, u.path.StaysBelow) ↔
        ElementsNameFiles .standard dimensionsTree) := by
  have hr := generateFromText_of_load (s := .standard) load_dimensionsText
  refine ⟨load_dimensionsText, hr, by decide, by decide +kernel, by decide +kernel, ?_⟩
  exact modulePaths_mirror_iff load_dimensionsText hr (by decide)

/-- The item of `steps` is named like an absolute path. -/
def escapeText : String :=
  "\x7b\"traces\":\x7b\"bar\":\x7b\"attributes\":\x7b\"steps\":\x7b\"items\":\x7b\"/escape\":\x7b" ++
    "\"a\":\x7b\"b\":\x7b\"valType\":\"any\"\x7d\x7d\x7d\x7d\x7d\x7d\x7d\x7d\x7d"

def escapeTree : Node :=
  Node.root [Node.compound "bar" [Node.element "steps" "/escape" [Node.compound "a" [Node.leaf "b" "any"]]]]

set_option maxRecDepth 10000 in
theorem load_escapeText : load escapeText = .ok escapeTree := toOption_eq_some_iff.mp (by decide +kernel)

/-- The text is accepted, and the module of the item is written to that path, from whatever directory. -/
theorem escape_outside :
    load escapeText = .ok escapeTree ∧
      generateFromText .standard escapeText = .ok (generate .standard escapeTree) ∧
      isIdentifier Settings.standard.sectionName = true ∧
      ∃ e ∈ madeModules .standard escapeTree, unitOf .standard e ∈ (generate .standard escapeTree).report.units ∧
        e.1.path = ["bar", "/escape"] ∧ modulePath .standard e.1 = ⟨"/escape/__init__.py"⟩ ∧
        (modulePath .standard e.1).parts ≠ (mirrored .standard e.1).map .name ∧
        Path.isAbsolute (modulePath .standard e.1).text = true ∧
        ∀ out : Path, out.join (modulePath .standard e.1) = ⟨"/escape/__init__.py"⟩ := by
  refine ⟨load_escapeText, generateFromText_of_load load_escapeText, by decide, ?_⟩
  obtain ⟨e, he, hpath⟩ : ∃ e ∈ madeModules .standard escapeTree, e.1.path = ["bar", "/escape"] := by decide +kernel
  have hfile : modulePath .standard e.1 = ⟨"/escape/__init__.py"⟩ := by
    rw [modulePath, hpath]
    decide
  refine ⟨e, he, unitOf_mem_units he, hpath, hfile, ?_, ?_, fun out => ?_⟩
  · rw [hfile, mirrored, hpath]
    decide
  · rw [hfile]
    decide
  · rw [hfile, Path.join, Path.push, if_pos (by decide)]

/-! ## Distinct places -/

/-- The nodes of the modules are the reached nodes whose module is made. -/
theorem nodes_madeModules (s : Settings) (n : Node) :
    (madeModules s n).map (·.1) = n.reached.filter fun p => (made? s p).isSome := by
  unfold madeModules
  induction n.reached with
  | nil => rfl
  | cons p r ih =>
    cases hp : made? s p with
    | none => rw [List.filterMap_cons_none hp, ih, List.filter_cons_of_neg (by simp [hp])]
    | some e =>
      have hnode : e.1 = p := (made?_eq_some.mp hp).1.symm
      rw [List.filterMap_cons_some hp, List.map_cons, ih, List.filter_cons_of_pos (by simp [hp]), hnode]

/-- Only nodes with compound children have modules. -/
theorem hasCompoundChildren_of_made? (h : (made? s p).isSome = true) : p.hasCompoundChildren = true := by
  obtain ⟨e, he⟩ := Option.isSome_iff_exists.mp h
  by_contra hc
  have hnone : (moduleOf s p).result = .ok none := moduleOf_none_iff.mpr (by simpa using hc)
  rw [(made?_eq_some.mp he).2] at hnone
  cases hnone

theorem nodes_madeModules_sublist (s : Settings) (n : Node) : ((madeModules s n).map (·.1)).Sublist n.forks := by
  rw [nodes_madeModules]
  exact List.monotone_filter_right _ fun p hp => hasCompoundChildren_of_made? hp

/-- When nothing fails, all of them have. -/
theorem nodes_madeModules_of_no_failures (hf : (generate s n).report.failures = []) :
    (madeModules s n).map (·.1) = n.forks := by
  rw [nodes_madeModules, Node.forks]
  refine List.filter_congr fun p hp => ?_
  rw [Bool.eq_iff_iff]
  refine ⟨hasCompoundChildren_of_made?, fun hc => ?_⟩
  obtain ⟨m, hm⟩ := exists_mem_madeModules hf hp hc
  rw [made?_eq_some.mpr ⟨rfl, (mem_madeModules.mp hm).2⟩]
  rfl

/-- The places of the files of modules and of one file more. -/
theorem map_parts_units (s : Settings) (es : List (Node × ModuleDecl)) (u : SourceUnit) :
    (es.map (unitOf s) ++ [u]).map (·.path.parts) = es.map (fun e => (modulePath s e.1).parts) ++ [u.path.parts] := by
  rw [List.map_append, List.map_map]
  rfl

theorem mirrored_injective {q : Node} (h : mirrored s p = mirrored s q) : p.path = q.path := by
  simpa [mirrored] using h

theorem parts_facadePath_ne (s : Settings) (n : Node) : facadePath.parts ≠ (mirrored s n).map .name := by
  intro h
  rw [Path.parts_of_steps steps_facadePath] at h
  have hlength := congrArg List.length h
  simp [mirrored] at hlength

/-- Among files that mirror the tree and the facade, places are distinct exactly when the paths of the nodes are. -/
theorem nodup_parts_iff {es : List (Node × ModuleDecl)} (source : String)
    (hmirror : ∀ e ∈ es, (modulePath s e.1).parts = (mirrored s e.1).map .name) :
    ((es.map (unitOf s) ++ [SourceUnit.mk facadePath source]).map (·.path.parts)).Nodup ↔ (es.map (·.1.path)).Nodup := by
  have hfacade : facadePath.parts ∉ es.map fun e => (modulePath s e.1).parts := by
    intro h
    obtain ⟨e, he, hpath⟩ := List.mem_map.mp h
    rw [hmirror e he] at hpath
    exact parts_facadePath_ne s e.1 hpath.symm
  have hpaths : (es.map fun e => (modulePath s e.1).parts).Nodup ↔ (es.map (·.1.path)).Nodup := by
    rw [List.Nodup, List.Nodup, List.pairwise_map, List.pairwise_map]
    refine List.Pairwise.iff_of_mem fun {a b} ha hb => not_congr ?_
    rw [hmirror a ha, hmirror b hb]
    constructor
    · intro h
      exact mirrored_injective (List.map_injective_iff.mpr (fun _ _ => Path.Part.name.inj) h)
    · intro h
      rw [mirrored, mirrored, h]
  rw [map_parts_units, List.nodup_append_comm, List.singleton_append, List.nodup_cons, hpaths]
  exact and_iff_right hfacade

/-- With the standard settings, and file names for the array elements: no two files stand in one place if no array
    element shares its name with a sibling, where both have compound children. When nothing fails, only then. -/
theorem unit_paths_nodup {text : String} {run : Run} (hn : load text = .ok n)
    (hr : generateFromText .standard text = .ok run) (hi : ElementsNameFiles .standard n) :
    (n.ElementsApart → (run.report.units.map (·.path.parts)).Nodup) ∧
      (run.report.failures = [] → (run.report.units.map (·.path.parts)).Nodup → n.ElementsApart) := by
  have hloaded := loaded_of_load hn
  rw [generateFromText, hn, Except.ok.injEq] at hr
  subst hr
  obtain ⟨f, -, hreport⟩ := report_generate_of_isRoot .standard hloaded.isRoot
  have hmirror : ∀ e ∈ madeModules .standard n, (modulePath .standard e.1).parts = (mirrored .standard e.1).map .name :=
    fun e he => parts_modulePath (by decide) (hloaded.elementsNameFiles_iff.mp hi e he)
  have hpaths : (madeModules .standard n).map (·.1.path) = ((madeModules .standard n).map (·.1)).map (·.path) := by
    rw [List.map_map]
    rfl
  have hplaces : ((generate .standard n).report.units.map (·.path.parts)).Nodup ↔
      ((madeModules .standard n).map (·.1.path)).Nodup := by
    rw [hreport]
    exact nodup_parts_iff f.source hmirror
  have happart := Node.namedApart_iff_elementsApart hloaded.named hloaded.isCompound hloaded.valid
  rw [hplaces, hpaths, ← happart, ← Node.nodup_paths_iff hloaded.placed]
  constructor
  · exact fun h => ((nodes_madeModules_sublist .standard n).map _).nodup h
  · intro hf h
    rw [nodes_madeModules_of_no_failures hf] at h
    exact h

theorem unit_paths_nodup_dimension :
    load dimensionsText = .ok dimensionsTree ∧
      generateFromText .standard dimensionsText = .ok (generate .standard dimensionsTree) ∧
      ElementsNameFiles .standard dimensionsTree ∧ dimensionsTree.ElementsApart ∧
      (generate .standard dimensionsTree).report.failures = [] ∧
      (dimensionsTree.ElementsApart → ((generate .standard dimensionsTree).report.units.map (·.path.parts)).Nodup) ∧
      ((generate .standard dimensionsTree).report.failures = [] →
        ((generate .standard dimensionsTree).report.units.map (·.path.parts)).Nodup → dimensionsTree.ElementsApart) := by
  have hr := generateFromText_of_load (s := .standard) load_dimensionsText
  have hi : ElementsNameFiles .standard dimensionsTree := by decide +kernel
  refine ⟨load_dimensionsText, hr, hi, by decide +kernel, by decide +kernel, ?_⟩
  exact unit_paths_nodup load_dimensionsText hr hi

/-- The item of `steps` is named like its sibling `step`. -/
def stepTwiceText : String :=
  "\x7b\"traces\":\x7b\"bar\":\x7b\"attributes\":\x7b\"step\":\x7b\"a\":\x7b\"b\":\x7b\"valType\":\"any\"\x7d\x7d\x7d," ++
    "\"steps\":\x7b\"items\":\x7b\"step\":\x7b\"a\":\x7b\"b\":\x7b\"valType\":\"any\"\x7d\x7d\x7d\x7d\x7d\x7d\x7d\x7d\x7d"

def stepTwiceTree : Node :=
  Node.root [Node.compound "bar"
    [Node.compound "step" [Node.compound "a" [Node.leaf "b" "any"]],
      Node.element "steps" "step" [Node.compound "a" [Node.leaf "b" "any"]]]]

set_option maxRecDepth 10000 in
theorem load_stepTwiceText : load stepTwiceText = .ok stepTwiceTree := toOption_eq_some_iff.mp (by decide +kernel)

/-- The text is accepted and nothing fails, but the modules of both are in one place. -/
theorem step_written_twice :
    load stepTwiceText = .ok stepTwiceTree ∧
      generateFromText .standard stepTwiceText = .ok (generate .standard stepTwiceTree) ∧
      (generate .standard stepTwiceTree).report.failures = [] ∧
      (generate .standard stepTwiceTree).report.units.map (·.path.text) =
        ["datatypes/trace/__init__.py", "datatypes/trace/bar/__init__.py", "datatypes/trace/bar/step/__init__.py",
          "datatypes/trace/bar/step/__init__.py", "__init__.py"] ∧
      ¬((generate .standard stepTwiceTree).report.units.map (·.path.parts)).Nodup :=
  ⟨load_stepTwiceText, generateFromText_of_load load_stepTwiceText, by decide +kernel, by decide +kernel,
    by decide +kernel⟩

end PlotTypes.Package
