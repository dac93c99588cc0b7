/-
  PlotTypes.Proofs.Package.DocWidth — how wide the documentation in generated files is.

  The prose of a file is filled from the descriptions of attributes and from the sentences that
  tell what leaves accept; everything else in a docstring is a name or fixed. It is filled to the
  settings' line width and then escaped, so the limit is kept by the lines that were filled. A
  line that needs no escapes is written as it was filled. One with backslashes, or with three
  quotes in a row, is wider by the escapes, and may exceed the limit.
  - `prose_sublist_moduleLines`, `prose_sublist_facadeLines`: all prose is written, in order.
  - `prose_widths`: how wide each written line of prose is, in every unit of every report.
-/

import PlotTypes.Proofs.Package.Signature
import PlotTypes.Proofs.Package.Walk
import PlotTypes.Proofs.Python.DocWidth

namespace PlotTypes.Package

open PlotTypes.Python PlotTypes.Schema PlotTypes.Text

variable {s : Settings} {n owner a : Node} {u : SourceUnit} {prose : List String}

/-! ## Prose -/

def sentence? (a : Node) : Option String :=
  if kindOf a = .simple then
    (valueType? (a.tag.getD "") a.arrayOk).map fun t => "The '" ++ a.property ++ "' property accepts " ++ t.summary ++ "."
  else none

def propertyTexts (a : Node) : List String :=
  (if isDocumented a then [a.description.getD ""] else []) ++ (sentence? a).toList

def propertyProse (s : Settings) (a : Node) : List String :=
  (propertyTexts a).flatMap (filledLines s.lineWidth propertyColumn)

def parameterProse (s : Settings) (a : Node) : List String :=
  filledLines s.lineWidth parameterColumn (a.description.getD "")

def classProse (s : Settings) (owner : Node) : List String :=
  owner.children.flatMap (propertyProse s) ++ owner.children.flatMap (parameterProse s)

def moduleProse (s : Settings) (n : Node) : List String := n.compoundChildren.flatMap (classProse s)

def facadeProse (s : Settings) (n : Node) : List String :=
  n.compoundChildren.flatMap fun trace => trace.children.flatMap (parameterProse s)

inductive UnitProse (s : Settings) (n : Node) : SourceUnit → List String → Prop
  | module {p : Node} {m : ModuleDecl} (hmade : (p, m) ∈ madeModules s n) :
    UnitProse s n ⟨modulePath s p, m.source⟩ (moduleProse s p)
  | facade {f : FacadeDecl} (hmade : facadeOf s n = .ok f) : UnitProse s n ⟨facadePath, f.source⟩ (facadeProse s n)

/-! ## Where prose is written -/

theorem sentence?_eq {type : String} {summary : Option String} (h : typeOf s owner a = .ok (type, summary)) :
    sentence? a = summary.map fun words => "The '" ++ a.property ++ "' property accepts " ++ words ++ "." := by
  unfold typeOf at h
  cases hk : kindOf a with
  | sequence =>
    simp only [hk] at h
    cases h
    simp [sentence?, hk]
  | nested =>
    simp only [hk] at h
    cases h
    simp [sentence?, hk]
  | simple =>
    cases ht : valueType? (a.tag.getD "") a.arrayOk with
    | none => simp [hk, ht] at h
    | some t =>
      simp only [hk, ht] at h
      cases h
      simp [sentence?, hk, ht]

theorem doc_propertyOf {p : Property} (h : (propertyOf s owner a).result = .ok p) :
    p.doc = (propertyTexts a).map (wrap · propertyColumn (s.lineWidth - propertyColumn)) := by
  unfold propertyOf at h
  split at h
  · cases h
  · rename_i type summary ht
    cases h
    rw [propertyTexts, sentence?_eq ht, propertyDoc]
    cases summary with
    | none => by_cases hd : isDocumented a = true <;> simp [hd]
    | some words => by_cases hd : isDocumented a = true <;> simp [hd]

theorem filledLines_sublist_paragraphsLines (limit column : Nat) (texts : List String) :
    ((texts.flatMap (filledLines limit column)).map escapedLine).Sublist
      (paragraphsLines (blanks column) (texts.map (wrap · column (limit - column)))) := by
  induction texts with
  | nil => exact .slnil
  | cons text r ih =>
    rw [List.flatMap_cons, List.map_append, List.map_cons, paragraphsLines, paragraphLines_wrap]
    refine .append (.refl _) (ih.trans ?_)
    split
    · rename_i hr
      rw [List.isEmpty_iff.mp hr]
      exact .slnil
    · exact List.sublist_cons_self _ _

theorem propertyProse_sublist {p : Property} (h : (propertyOf s owner a).result = .ok p) :
    ((propertyProse s a).map escapedLine).Sublist (propertyLines p) := by
  have hdoc := filledLines_sublist_paragraphsLines s.lineWidth propertyColumn (propertyTexts a)
  rw [← doc_propertyOf h] at hdoc
  rw [propertyLines_eq]
  exact ((hdoc.trans (List.sublist_append_left _ _)).cons _).trans (List.sublist_append_right _ _)

/-- A docstring has a paragraph for each parameter. -/
theorem parameterProse_sublist (s : Settings) (n : Node) :
    ((n.children.flatMap (parameterProse s)).map escapedLine).Sublist (docBlockLines (docBlock s n (parameters n))) := by
  have hparameters : (docBlock s n (parameters n)).parameters =
      n.children.map fun a => parameterDoc s ⟨a.parameter, a.defaultValue, 0⟩ a :=
    zipWith_parameters n fun _ _ => rfl
  have hlines : ((n.children.flatMap (parameterProse s)).map escapedLine).Sublist
      ((docBlock s n (parameters n)).parameters.flatMap fun p => inBody p.name :: paragraphLines textIndent p.lines) := by
    rw [hparameters, List.flatMap_map, List.map_flatMap]
    refine sublist_flatMap_of_forall₂ (R := Eq) ?_ (List.forall₂_same.mpr fun _ _ => rfl)
    rintro a _ rfl
    have hparagraph := paragraphLines_wrap s.lineWidth parameterColumn (a.description.getD "")
    exact hparagraph ▸ List.sublist_cons_self _ _
  unfold docBlockLines
  exact hlines.trans ((List.sublist_append_right _ _).trans (List.sublist_append_left _ _))

theorem classProse_sublist {c : ClassDecl} (hc : (classOf s n).result = .ok c) :
    ((classProse s n).map escapedLine).Sublist c.lines := by
  obtain ⟨ps, hps, rfl⟩ := classOf_ok_iff.mp hc
  have hproperties : ((n.children.flatMap (propertyProse s)).map escapedLine).Sublist (ps.flatMap propertyLines) := by
    rw [List.map_flatMap]
    exact sublist_flatMap_of_forall₂ (fun _ _ h => propertyProse_sublist h) hps
  have hparameters : ((n.children.flatMap (parameterProse s)).map escapedLine).Sublist
      (constructorLines (constructorOf s n ps)) := by
    rw [constructorLines]
    exact (parameterProse_sublist s n).trans ((List.sublist_append_right _ _).trans (List.sublist_append_left _ _))
  rw [classProse, List.map_append, ClassDecl.lines]
  exact (hproperties.trans (List.sublist_append_right _ _)).append hparameters

theorem prose_sublist_moduleLines {m : ModuleDecl} (hm : (moduleOf s n).result = .ok (some m)) :
    ((moduleProse s n).map escapedLine).Sublist m.lines := by
  rw [moduleProse, List.map_flatMap, ModuleDecl.lines]
  refine List.Sublist.trans ?_ (List.sublist_append_right _ _)
  exact sublist_flatMap_of_forall₂ (fun _ _ h => classProse_sublist h) (moduleOf_some_iff.mp hm).2.2

theorem prose_sublist_facadeLines {f : FacadeDecl} (hf : facadeOf s n = .ok f) :
    ((facadeProse s n).map escapedLine).Sublist f.lines := by
  unfold facadeOf at hf
  split at hf
  · cases hf
    rw [facadeProse, List.map_flatMap, FacadeDecl.lines, List.flatMap_map]
    refine List.Sublist.trans ?_ (List.sublist_append_right _ _)
    refine sublist_flatMap_of_forall₂ (R := Eq) ?_ (List.forall₂_same.mpr fun _ _ => rfl)
    rintro trace _ rfl
    unfold methodLines
    exact (parameterProse_sublist s trace).trans ((List.sublist_append_right _ _).trans
      ((List.sublist_append_left _ _).trans (List.sublist_append_left _ _)))
  · cases hf

theorem UnitProse.written (h : UnitProse s n u prose) :
    ∃ lines, u.source = sourceText lines ∧ (prose.map escapedLine).Sublist lines := by
  cases h with
  | module hmade => exact ⟨_, rfl, prose_sublist_moduleLines (mem_madeModules.mp hmade).2⟩
  | facade hmade => exact ⟨_, rfl, prose_sublist_facadeLines hmade⟩

/-! ## Widths -/

theorem narrow_classProse (s : Settings) (owner : Node) :
    ∀ line ∈ classProse s owner, Narrow s.lineWidth line.toList := by
  refine List.forall_mem_append.mpr ⟨fun line hline => ?_, fun line hline => ?_⟩
  · obtain ⟨a, -, ha⟩ := List.mem_flatMap.mp hline
    obtain ⟨text, -, htext⟩ := List.mem_flatMap.mp ha
    exact narrow_filledLines s.lineWidth propertyColumn text line htext
  · obtain ⟨a, -, ha⟩ := List.mem_flatMap.mp hline
    exact narrow_filledLines s.lineWidth parameterColumn _ line ha

theorem UnitProse.narrow (h : UnitProse s n u prose) : ∀ line ∈ prose, Narrow s.lineWidth line.toList := by
  intro line hline
  cases h with
  | module =>
    obtain ⟨owner, -, howner⟩ := List.mem_flatMap.mp hline
    exact narrow_classProse s owner line howner
  | facade =>
    obtain ⟨trace, -, htrace⟩ := List.mem_flatMap.mp hline
    exact narrow_classProse s trace line (List.mem_append_right _ htrace)

/-- The units of a report are those that prose is told of. -/
theorem mem_units_iff : u ∈ (generate s n).report.units ↔ ∃ prose, UnitProse s n u prose := by
  have hunits : u ∈ (generate s n).report.units ↔
      (∃ e ∈ madeModules s n, unitOf s e = u) ∨ ∃ f, facadeOf s n = .ok f ∧ u = ⟨facadePath, f.source⟩ := by
    cases hroot : n.isRoot with
    | true =>
      obtain ⟨f, hf, hreport⟩ := report_generate_of_isRoot s hroot
      simp [hreport, hf]
    | false =>
      rw [report_generate_of_not_isRoot s hroot]
      simp [facadeOf, hroot]
  rw [hunits]
  constructor
  · rintro (⟨e, he, rfl⟩ | ⟨f, hf, rfl⟩)
    · exact ⟨_, .module he⟩
    · exact ⟨_, .facade hf⟩
  · rintro ⟨prose, hmade | hmade⟩
    · exact .inl ⟨_, hmade, rfl⟩
    · exact .inr ⟨_, hmade, rfl⟩

/-- How wide a line of two or more words is as it is written. -/
structure WrittenWidth (limit : Nat) (line : String) : Prop where
  /-- As it was filled, it keeps to the limit. -/
  filled : lineColumns line.toList ≤ limit
  /-- So it does as it is written, if it needs no escapes. -/
  plain : EscapeFree line.toList → lineColumns (escapedLine line).toList ≤ limit
  /-- Otherwise it takes one column more for each backslash that is added, unless one of them may be taken for a part of
      a terminal escape sequence. -/
  escaped : '\x1b' ∉ line.toList → lineColumns (escapedLine line).toList = lineColumns line.toList + added line.toList

/-- In every unit that is generated, from whatever tree and with whatever settings, all prose is written in order. A
    line of two or more words keeps to the line width as it was filled, and so it is written, if it needs no escapes.
    Otherwise it takes one column more for each backslash that is added, which may be too many. -/
theorem prose_widths (s : Settings) (n : Node) (u : SourceUnit) :
    (u ∈ (generate s n).report.units ↔ ∃ prose, UnitProse s n u prose) ∧
      ∀ prose, UnitProse s n u prose →
        (∃ lines, u.source = sourceText lines ∧ (prose.map escapedLine).Sublist lines) ∧
          ∀ line ∈ prose, 2 ≤ (runs (escapedLine line).toList).length → WrittenWidth s.lineWidth line := by
  refine ⟨mem_units_iff, fun prose hprose => ⟨hprose.written, fun line hline htwo => ?_⟩⟩
  have hwords : 2 ≤ (runs line.toList).length := by
    rwa [escapedLine, String.toList_ofList, runs_escapeDoc, List.length_map] at htwo
  have hfilled := hprose.narrow line hline hwords
  refine ⟨hfilled, fun hfree => ?_, fun hescape => ?_⟩
  · rwa [escapedLine, String.toList_ofList, escapeDoc_of_escapeFree hfree]
  · rw [escapedLine, String.toList_ofList, lineColumns_escapeDoc hescape]

def greekText : String :=
  "\x7b\"traces\":\x7b\"bar\":\x7b\"attributes\":\x7b\"x\":\x7b\"valType\":\"any\",\"description\":" ++
    "\"\\\\alpha \\\\beta \\\\gamma \\\\delta \\\\mu\"\x7d\x7d\x7d\x7d\x7d"

def greekTree : Node :=
  Node.root [Node.compound "bar"
    [{ Node.leaf "x" "any" with description := some "\\alpha \\beta \\gamma \\delta \\mu" }]]

def narrowSettings : Settings := { Settings.standard with lineWidth := 40 }

theorem exists_unitProse_greekTree :
    ∃ u, UnitProse narrowSettings greekTree u (moduleProse narrowSettings greekTree) := by
  have hnodes : (madeModules narrowSettings greekTree).map (·.1) = [greekTree] := by decide +kernel
  have hmem : greekTree ∈ (madeModules narrowSettings greekTree).map (·.1) := by rw [hnodes]; simp
  obtain ⟨⟨p, m⟩, hmade, rfl⟩ := List.mem_map.mp hmem
  exact ⟨_, .module hmade⟩

/-- The sentence on the leaf is filled into two lines. -/
theorem prose_widths_sentence :
    ∃ u, UnitProse narrowSettings greekTree u (moduleProse narrowSettings greekTree) ∧
      "        The 'x' property accepts any" ∈ moduleProse narrowSettings greekTree ∧
      2 ≤ (runs (escapedLine "        The 'x' property accepts any").toList).length ∧
      WrittenWidth narrowSettings.lineWidth "        The 'x' property accepts any" := by
  obtain ⟨u, hprose⟩ := exists_unitProse_greekTree
  have hline : "        The 'x' property accepts any" ∈ moduleProse narrowSettings greekTree := by decide +kernel
  have htwo : 2 ≤ (runs (escapedLine "        The 'x' property accepts any").toList).length := by decide +kernel
  exact ⟨u, hprose, hline, htwo, ((prose_widths narrowSettings greekTree u).2 _ hprose).2 _ hline htwo⟩

set_option maxRecDepth 10000 in
theorem load_greekText : load greekText = .ok greekTree := toOption_eq_some_iff.mp (by decide +kernel)

/-- The text is accepted and nothing fails. In the module of the traces, the line that the description of `x` fills
    takes 38 columns with its indent, and 43 as it is written, where 40 are allowed. -/
theorem greek_exceeds_width :
    load greekText = .ok greekTree ∧
      generateFromText narrowSettings greekText = .ok (generate narrowSettings greekTree) ∧
      (generate narrowSettings greekTree).report.failures = [] ∧ narrowSettings.lineWidth = 40 ∧
      ∃ u ∈ (generate narrowSettings greekTree).report.units,
        UnitProse narrowSettings greekTree u (moduleProse narrowSettings greekTree) ∧
          ∃ line ∈ moduleProse narrowSettings greekTree,
            (∃ before after, u.source = sourceText (before ++ escapedLine line :: after)) ∧
              2 ≤ (runs (escapedLine line).toList).length ∧ lineColumns line.toList = 38 ∧
                lineColumns (escapedLine line).toList = 43 := by
  obtain ⟨u, hprose⟩ := exists_unitProse_greekTree
  have hline : "        \\alpha \\beta \\gamma \\delta \\mu" ∈ moduleProse narrowSettings greekTree := by decide +kernel
  obtain ⟨lines, hsource, hwritten⟩ := hprose.written
  obtain ⟨before, after, hlines⟩ := List.append_of_mem (hwritten.subset (List.mem_map_of_mem hline))
  refine ⟨load_greekText, generateFromText_of_load load_greekText, by decide +kernel, rfl, u,
    mem_units_iff.mpr ⟨_, hprose⟩, hprose, _, hline, ⟨before, after, ?_⟩, by decide +kernel, by decide +kernel,
    by decide +kernel⟩
  rw [hsource, hlines]

end PlotTypes.Package
