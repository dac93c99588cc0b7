/-
  PlotTypes.Proofs.Package.Output — what writing a package leaves, in the report and among
  the files.

  Every unit has one outcome: it is written, or it is a failure named by its path
  (`Disposed`). Among the files, `lastAt` tells for a place which unit of a list is the
  last one written there, if any; with it `Output` says what is at every place afterwards.
  - `output_of_makesDirectories`, `output_writeUnit`: what one step leaves.
  - `Output.append`: what two lists of units leave, one after the other. A unit of the
    first list goes on naming its place, since no directory is lost.
  - `disposed_writeUnits`, `output_writeUnits`: the whole run, by induction on the units.
  - `write_accounts_for_units`: both, from the generated package on.
-/

import Mathlib.Data.List.Find
import PlotTypes.Package.Output
import PlotTypes.Proofs.Files
import PlotTypes.Proofs.Package.Entries

namespace PlotTypes.Package

open PlotTypes.Schema

variable {format : Formatter} {out : Path} {fs fs₁ fs₂ : Files}

/-! ## Outcomes -/

/-- What can become of a unit: it is written with its formatted source, or it fails under its own path. -/
inductive Disposed (format : Formatter) (u : SourceUnit) : Entry → Prop
  | written (source : String) : format u.source = .ok source → Disposed format u (.unit ⟨u.path, source⟩)
  | unformatted (e : Error) : format u.source = .error e → Disposed format u (.failure ⟨u.path.text, e⟩)
  | unwritten (source : String) (f : Files.Fault) : format u.source = .ok source →
      Disposed format u (.failure ⟨u.path.text, .io f⟩)

theorem disposed_writeUnit (format : Formatter) (out : Path) (fs : Files) (u : SourceUnit) :
    ∃ e, Disposed format u e ∧ (writeUnit format out fs u).2.report = .ofEntries [e] := by
  unfold writeUnit
  cases hf : format u.source with
  | error e => exact ⟨_, .unformatted e hf, rfl⟩
  | ok source =>
    dsimp only
    split
    · rename_i f _ _
      exact ⟨_, .unwritten source f hf, rfl⟩
    · exact ⟨_, .written source hf, rfl⟩

theorem disposed_writeUnits (format : Formatter) (out : Path) (fs : Files) (us : List SourceUnit) :
    ∃ es, List.Forall₂ (Disposed format) us es ∧ (writeUnits format out fs us).2.report = .ofEntries es := by
  induction us generalizing fs with
  | nil => exact ⟨[], .nil, rfl⟩
  | cons u r ih =>
    obtain ⟨e, he, hfirst⟩ := disposed_writeUnit format out fs u
    obtain ⟨es, hes, hrest⟩ := ih (writeUnit format out fs u).1
    refine ⟨e :: es, .cons he hes, ?_⟩
    show (writeUnit format out fs u).2.report.append (writeUnits format out (writeUnit format out fs u).1 r).2.report = _
    rw [hfirst, hrest, ← Report.ofEntries_append]
    rfl

/-! ## Places -/

def leadsTo (fs : Files) (out : Path) (u : SourceUnit) (p : Place) : Bool := (fs.locate (out.join u.path)).toOption == some p

def lastAt (fs : Files) (out : Path) (us : List SourceUnit) (p : Place) : Option SourceUnit :=
  us.reverse.find? (leadsTo fs out · p)

theorem leadsTo_iff {u : SourceUnit} {p : Place} : leadsTo fs out u p = true ↔ fs.locate (out.join u.path) = .ok p := by
  rw [leadsTo, beq_iff_eq, toOption_eq_some_iff]

theorem lastAt_some {us : List SourceUnit} {u : SourceUnit} {p : Place} (h : lastAt fs out us p = some u) :
    u ∈ us ∧ fs.locate (out.join u.path) = .ok p := by
  have hleads : leadsTo fs out u p = true := List.find?_some (p := (leadsTo fs out · p)) h
  exact ⟨List.mem_reverse.mp (List.mem_of_find?_eq_some h), leadsTo_iff.mp hleads⟩

theorem lastAt_append (fs : Files) (out : Path) (us vs : List SourceUnit) (p : Place) :
    lastAt fs out (us ++ vs) p = (lastAt fs out vs p).or (lastAt fs out us p) := by
  rw [lastAt, List.reverse_append, List.find?_append]
  rfl

/-- Units that all name places name the same ones as long as no directory is lost. -/
theorem lastAt_eq (h : fs₁.KeepsDirectories fs₂) {us : List SourceUnit}
    (hus : ∀ u ∈ us, ∃ p, fs₁.locate (out.join u.path) = .ok p) (p : Place) :
    lastAt fs₂ out us p = lastAt fs₁ out us p := by
  refine List.find?_congr fun u hu => ?_
  obtain ⟨q, hq⟩ := hus u (List.mem_reverse.mp hu)
  rw [leadsTo, leadsTo, h.locate hq, hq]

/-! ## What is written -/

/-- From `fs` to `fs'` the units `us` are written below `out`: each has a place, each place holds what was written
    there last, and elsewhere there are at most new directories. A device takes what is written and stays one. -/
structure Output (out : Path) (fs fs' : Files) (us : List SourceUnit) : Prop where
  keeps : fs.KeepsDirectories fs'
  located : ∀ u ∈ us, ∃ p, fs'.locate (out.join u.path) = .ok p
  written : ∀ p u, lastAt fs' out us p = some u →
    fs'.get? p = some (.file (Text.Utf8.encode u.source)) ∨ (fs.get? p = some .device ∧ fs'.get? p = some .device)
  untouched : ∀ p, lastAt fs' out us p = none →
    fs'.get? p = fs.get? p ∨ (fs.get? p = none ∧ fs'.get? p = some .directory)

theorem output_of_makesDirectories (h : fs.MakesDirectories fs₁) : Output out fs fs₁ [] where
  keeps := h.keepsDirectories
  located := List.forall_mem_nil _
  written p u hp := by cases hp
  untouched p _ := h.get? p

namespace Output

variable {us vs : List SourceUnit}

/-- Devices are never made. -/
theorem device (h : Output out fs fs₁ us) {p : Place} (hp : fs₁.get? p = some .device) : fs.get? p = some .device := by
  cases hl : lastAt fs₁ out us p with
  | some u =>
    rcases h.written p u hl with hfile | ⟨hdevice, -⟩
    · rw [hp] at hfile
      cases hfile
    · exact hdevice
  | none =>
    rcases h.untouched p hl with hsame | ⟨-, hdirectory⟩
    · rw [← hsame, hp]
    · rw [hp] at hdirectory
      cases hdirectory

/-- What two runs leave that follow each other. -/
theorem append (h₁ : Output out fs fs₁ us) (h₂ : Output out fs₁ fs₂ vs) : Output out fs fs₂ (us ++ vs) := by
  have hlast : ∀ p, lastAt fs₂ out (us ++ vs) p = (lastAt fs₂ out vs p).or (lastAt fs₁ out us p) := by
    intro p
    rw [lastAt_append, lastAt_eq h₂.keeps h₁.located]
  refine ⟨h₁.keeps.trans h₂.keeps, fun u hu => ?_, fun p u hp => ?_, fun p hp => ?_⟩
  · rcases List.mem_append.mp hu with hu | hu
    · obtain ⟨p, hp⟩ := h₁.located u hu
      exact ⟨p, h₂.keeps.locate hp⟩
    · exact h₂.located u hu
  · rw [hlast, Option.or_eq_some_iff] at hp
    rcases hp with hp | ⟨hnone, hp⟩
    · rcases h₂.written p u hp with hfile | ⟨hdevice, hdevice'⟩
      · exact .inl hfile
      · exact .inr ⟨h₁.device hdevice, hdevice'⟩
    · -- written in the first run, so the second one found something there and left it
      have hsome : fs₁.get? p ≠ none := by
        rcases h₁.written p u hp with hfile | ⟨-, hdevice⟩
        · simp [hfile]
        · simp [hdevice]
      rcases h₂.untouched p hnone with hsame | ⟨habsent, -⟩
      · rw [hsame]
        exact h₁.written p u hp
      · exact absurd habsent hsome
  · rw [hlast, Option.or_eq_none_iff] at hp
    rcases h₂.untouched p hp.1 with hsame | ⟨habsent, hdirectory⟩
    · rw [hsame]
      exact h₁.untouched p hp.2
    · rcases h₁.untouched p hp.2 with hsame | ⟨-, hmade⟩
      · rw [← hsame]
        exact .inr ⟨habsent, hdirectory⟩
      · rw [hmade] at habsent
        cases habsent

/-- A file that is new or has another content is at a place that something was written to, and holds what was
    written there last. -/
theorem changed (h : Output out fs fs₁ us) {p : Place} {content : List UInt8}
    (hafter : fs₁.get? p = some (.file content)) (hbefore : fs.get? p ≠ some (.file content)) :
    ∃ u ∈ us, fs₁.locate (out.join u.path) = .ok p ∧ lastAt fs₁ out us p = some u ∧
      content = Text.Utf8.encode u.source := by
  cases hl : lastAt fs₁ out us p with
  | some u =>
    obtain ⟨hu, hp⟩ := lastAt_some hl
    refine ⟨u, hu, hp, rfl, ?_⟩
    rcases h.written p u hl with hfile | ⟨-, hdevice⟩
    · rw [hafter] at hfile
      cases hfile
      rfl
    · rw [hafter] at hdevice
      cases hdevice
  | none =>
    rcases h.untouched p hl with hsame | ⟨-, hdirectory⟩
    · rw [hafter] at hsame
      exact absurd hsame.symm hbefore
    · rw [hafter] at hdirectory
      cases hdirectory

end Output

/-! ## One unit -/

/-- One file is written to the place that its path names once its directories are made. -/
theorem output_of_writes {u : SourceUnit} {p : Place} (hl : fs.locate (out.join u.path) = .ok p)
    (h : fs.Writes fs₁ p (Text.Utf8.encode u.source)) : Output out fs fs₁ [u] := by
  have hl₁ := h.keepsDirectories.locate hl
  have hlast : ∀ q, lastAt fs₁ out [u] q = if q = p then some u else none := by
    intro q
    by_cases hq : q = p
    · simp [lastAt, leadsTo, hl₁, hq, Except.toOption]
    · simp [lastAt, leadsTo, hl₁, hq, Ne.symm hq, Except.toOption]
  refine ⟨h.keepsDirectories, fun v hv => ?_, fun q v hq => ?_, fun q hq => ?_⟩
  · rw [List.mem_singleton.mp hv]
    exact ⟨p, hl₁⟩
  · rw [hlast] at hq
    split at hq
    · rename_i hqp
      cases hq
      rw [hqp]
      exact h.here
    · cases hq
  · rw [hlast] at hq
    split at hq
    · cases hq
    · rename_i hqp
      exact .inl (h.elsewhere q hqp)

/-- A unit that cannot be written leaves at most the directories on the way to it. -/
theorem output_writeFile (out : Path) (fs : Files) (u : SourceUnit) :
    Output out fs (writeFile fs (out.join u.path) u.source).2
      (bif (writeFile fs (out.join u.path) u.source).1.isOk then [u] else []) := by
  have hparents := Files.makesDirectories_makeParents fs (out.join u.path)
  unfold writeFile
  split
  · rename_i f fs' hmade
    rw [hmade] at hparents
    exact output_of_makesDirectories hparents
  · rename_i fs' hmade
    rw [hmade] at hparents
    cases hwritten : fs'.writeText (out.join u.path) u.source with
    | error f => exact output_of_makesDirectories hparents
    | ok fs'' =>
      obtain ⟨p, hl, hwrites⟩ := Files.writes_of_writeText hwritten
      exact (output_of_makesDirectories hparents).append (output_of_writes hl hwrites)

theorem output_writeUnit (format : Formatter) (out : Path) (fs : Files) (u : SourceUnit) :
    Output out fs (writeUnit format out fs u).1 (writeUnit format out fs u).2.report.units := by
  unfold writeUnit
  cases format u.source with
  | error e => exact output_of_makesDirectories (.refl fs)
  | ok source =>
    have h := output_writeFile out fs ⟨u.path, source⟩
    dsimp only at h ⊢
    split
    · rename_i hfile
      rw [hfile] at h
      exact h
    · rename_i hfile
      rw [hfile] at h
      exact h

/-! ## All units -/

theorem output_writeUnits (format : Formatter) (out : Path) (fs : Files) (us : List SourceUnit) :
    Output out fs (writeUnits format out fs us).1 (writeUnits format out fs us).2.report.units := by
  induction us generalizing fs with
  | nil => exact output_of_makesDirectories (.refl fs)
  | cons u r ih => exact (output_writeUnit format out fs u).append (ih _)

/-! ## Whole packages -/

/-- A run that is not given up has made the output directory, written the units of the package and kept its failures. -/
theorem write_ok {s : Settings} {n : Node} {run : Run} {fs' : Files} (h : write s n format out fs = (.ok run, fs')) :
    ∃ fs₁, fs.makeDirectories out = (.ok (), fs₁) ∧
      fs' = (writeUnits format out fs₁ (generate s n).report.units).1 ∧
      run.report = ⟨(writeUnits format out fs₁ (generate s n).report.units).2.report.units,
        (generate s n).report.failures ++ (writeUnits format out fs₁ (generate s n).report.units).2.report.failures⟩ := by
  unfold write at h
  split at h
  · cases h
  · rename_i fs₁ hmade
    cases h
    exact ⟨fs₁, hmade, rfl, rfl⟩

theorem output_of_write {s : Settings} {n : Node} {run : Run} {fs' : Files}
    (h : write s n format out fs = (.ok run, fs')) : Output out fs fs' run.report.units := by
  obtain ⟨fs₁, hmade, rfl, hreport⟩ := write_ok h
  have hdirectories := Files.makesDirectories_makeDirectories fs out
  rw [hmade] at hdirectories
  rw [hreport]
  exact (output_of_makesDirectories hdirectories).append (output_writeUnits format out fs₁ _)

/-- A run that is not given up writes every unit or names it as a failure, after the failures of the package, all in
    their order. What it leaves among the files is what it reports as written, each place holding what came last. -/
theorem write_accounts_for_units {s : Settings} {n : Node} {format : Formatter} {out : Path} {fs fs' : Files} {run : Run}
    (h : write s n format out fs = (.ok run, fs')) :
    (∃ es, List.Forall₂ (Disposed format) (generate s n).report.units es ∧
        run.report =
          ⟨es.filterMap Entry.unit?, (generate s n).report.failures ++ es.filterMap Entry.failure?⟩) ∧
      Output out fs fs' run.report.units ∧
      ∀ p content, fs'.get? p = some (.file content) → fs.get? p ≠ some (.file content) →
        ∃ u ∈ run.report.units, fs'.locate (out.join u.path) = .ok p ∧
          lastAt fs' out run.report.units p = some u ∧ content = Text.Utf8.encode u.source := by
  obtain ⟨fs₁, -, -, hreport⟩ := write_ok h
  obtain ⟨es, hes, hwritten⟩ := disposed_writeUnits format out fs₁ (generate s n).report.units
  refine ⟨⟨es, hes, ?_⟩, output_of_write h, fun p content => (output_of_write h).changed⟩
  rw [hreport, hwritten]
  rfl

/-- A file is in the way of the modules, and an older facade is there. -/
def occupiedFiles : Files :=
  ⟨[(["w", "out"], .directory), (["w", "out", "datatypes"], .file [1]), (["w", "out", "__init__.py"], .file [2])], ["w"]⟩

def nestedTree : Node := Node.root [Node.compound "bar" [Node.compound "marker" [Node.leaf "size" "number"]]]

theorem write_accounts_for_units_occupied : ∃ run fs',
    write .standard nestedTree unformatted ⟨"out"⟩ occupiedFiles = (.ok run, fs') ∧
      run.report.units.map (·.path.text) = ["__init__.py"] ∧
      run.report.failures.map (·.node) = ["datatypes/trace/__init__.py", "datatypes/trace/bar/__init__.py"] ∧
      fs'.get? ["w", "out", "__init__.py"] ≠ occupiedFiles.get? ["w", "out", "__init__.py"] ∧
      (∃ es, List.Forall₂ (Disposed unformatted) (generate .standard nestedTree).report.units es ∧
        run.report = ⟨es.filterMap Entry.unit?,
          (generate .standard nestedTree).report.failures ++ es.filterMap Entry.failure?⟩) ∧
      Output ⟨"out"⟩ occupiedFiles fs' run.report.units ∧
      ∀ p content, fs'.get? p = some (.file content) → occupiedFiles.get? p ≠ some (.file content) →
        ∃ u ∈ run.report.units, fs'.locate (Path.join ⟨"out"⟩ u.path) = .ok p ∧
          lastAt fs' ⟨"out"⟩ run.report.units p = some u ∧ content = Text.Utf8.encode u.source := by
  have hreport : (write .standard nestedTree unformatted ⟨"out"⟩ occupiedFiles).1.toOption.map
      (fun run => (run.report.units.map (·.path.text), run.report.failures.map (·.node))) =
        some (["__init__.py"], ["datatypes/trace/__init__.py", "datatypes/trace/bar/__init__.py"]) := by
    decide +kernel
  have hfacade : (write .standard nestedTree unformatted ⟨"out"⟩ occupiedFiles).2.get? ["w", "out", "__init__.py"] ≠
      occupiedFiles.get? ["w", "out", "__init__.py"] := by
    decide +kernel
  generalize hwrite : write .standard nestedTree unformatted ⟨"out"⟩ occupiedFiles = result at hreport hfacade
  obtain ⟨made, fs'⟩ := result
  cases made with
  | error e => cases hreport
  | ok run =>
    obtain ⟨hunits, hfailures⟩ := Prod.mk.inj (Option.some.inj hreport)
    exact ⟨run, fs', rfl, hunits, hfailures, hfacade, write_accounts_for_units hwrite⟩

/-! ## When nothing is in the way -/

/-- Every one of some units can be formatted, and then written where the ones before it are written. -/
def allWritten (format : Formatter) (out : Path) (fs : Files) : List SourceUnit → Bool
  | [] => true
  | u :: r =>
    match format u.source with
    | .error _ => false
    | .ok source =>
      (writeFile fs (out.join u.path) source).1.isOk &&
        allWritten format out (writeFile fs (out.join u.path) source).2 r

def Formatted (format : Formatter) (u written : SourceUnit) : Prop :=
  written.path = u.path ∧ format u.source = .ok written.source

/-- Then all of them are reported as written, with their formatted sources. -/
theorem writeUnits_of_allWritten {us : List SourceUnit} (h : allWritten format out fs us = true) :
    ∃ written, List.Forall₂ (Formatted format) us written ∧
      (writeUnits format out fs us).2.report = ⟨written, []⟩ := by
  induction us generalizing fs with
  | nil => exact ⟨[], .nil, rfl⟩
  | cons u r ih =>
    rw [allWritten] at h
    cases hformat : format u.source with
    | error e =>
      rw [hformat] at h
      cases h
    | ok source =>
      simp only [hformat, Bool.and_eq_true] at h
      obtain ⟨hok, hrest⟩ := h
      cases hfile : writeFile fs (out.join u.path) source with
      | mk made fs₁ =>
        rw [hfile] at hok hrest
        obtain ⟨written, hwritten, hreport⟩ := ih hrest
        cases made with
        | error f => cases hok
        | ok done =>
          have hunit : writeUnit format out fs u = (fs₁, ⟨[.written (out.join u.path)], ⟨[⟨u.path, source⟩], []⟩⟩) := by
            simp only [writeUnit, hformat, hfile]
          refine ⟨⟨u.path, source⟩ :: written, .cons ⟨rfl, hformat⟩ hwritten, ?_⟩
          simp only [writeUnits, hunit, Run.append, Report.append, hreport, List.singleton_append, List.nil_append]

/-- The report is that of the package then, but for the formatting of its sources. -/
theorem write_of_allWritten {s : Settings} {n : Node} (hmade : fs.makeDirectories out = (.ok (), fs₁))
    (hwritten : allWritten format out fs₁ (generate s n).report.units = true) :
    ∃ run fs' written, write s n format out fs = (.ok run, fs') ∧
      run.report = ⟨written, (generate s n).report.failures⟩ ∧
      List.Forall₂ (Formatted format) (generate s n).report.units written := by
  obtain ⟨written, hformatted, hunits⟩ := writeUnits_of_allWritten hwritten
  simp only [write, hmade]
  refine ⟨_, _, written, rfl, ?_, hformatted⟩
  rw [hunits, List.append_nil]

end PlotTypes.Package
