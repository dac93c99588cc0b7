/-
  PlotTypes.Proofs.CommandLine.DryRun — a dry run against the run that it stands for.

  Two command lines that ask for the same but that one is dry load the same settings and the
  same tree, and nothing is made before both are loaded. So they stop together, if they stop
  there (`runGenerate_of_stopsLoading`). Past that point the dry run prints and the other
  one writes. What a formatter does is up to the runner, which is any.
  - `runGenerate_dry`: what a dry run leaves.
  - `runGenerate_of_allWritten`: what the other one leaves, when nothing is in its way.
  - `dryRun_predicts_run`: the paths that the first prints are the paths that the second
    writes, and both end with the same status.
-/

import PlotTypes.CommandLine.Run
import PlotTypes.Proofs.Package.Output
import PlotTypes.Proofs.Schema.Regularity

namespace PlotTypes.CommandLine

open PlotTypes.Package PlotTypes.Schema

variable {runner : Command.Runner} {r : GenerateRequest} {fs fs₁ : Files} {s : Settings} {n : Node}

/-! ## One run -/

def StopsLoading (fs : Files) (r : GenerateRequest) (e : Stop) : Prop :=
  loadSettings fs r = .error e ∨ ∃ s, loadSettings fs r = .ok s ∧ loadSchema fs r.schema = .error e

theorem runGenerate_of_stopsLoading {e : Stop} (h : StopsLoading fs r e) (ds : List Directive) :
    runGenerate runner ds r fs = stopped e fs := by
  unfold runGenerate
  rcases h with hs | ⟨s, hs, hn⟩
  · rw [hs]
  · simp only [hs, hn]

theorem stopsLoading_or_loads (fs : Files) (r : GenerateRequest) :
    (∃ e, StopsLoading fs r e) ∨ ∃ s n, loadSettings fs r = .ok s ∧ loadSchema fs r.schema = .ok n := by
  cases hs : loadSettings fs r with
  | error e => exact .inl ⟨e, .inl hs⟩
  | ok s =>
    cases hn : loadSchema fs r.schema with
    | error e => exact .inl ⟨e, .inr ⟨s, hs, hn⟩⟩
    | ok n => exact .inr ⟨s, n, rfl, rfl⟩

theorem runGenerate_dry (hs : loadSettings fs r = .ok s) (hn : loadSchema fs r.schema = .ok n) (hdry : r.dryRun = true)
    (ds : List Directive) :
    runGenerate runner ds r fs = finished ds (generate s n) (targets r.out (generate s n).report) fs := by
  simp only [runGenerate, hs, hn, hdry, if_true]

theorem runGenerate_of_write_error (hs : loadSettings fs r = .ok s) (hn : loadSchema fs r.schema = .ok n)
    (hdry : r.dryRun = false) {e : Package.Error}
    (hwrite : write s n (formatterOf s fs runner) ⟨r.out⟩ fs = (.error e, fs₁)) (ds : List Directive) :
    runGenerate runner ds r fs = stopped (.output r.out e) fs₁ := by
  simp only [runGenerate, hs, hn, hdry, Bool.false_eq_true, if_false, hwrite]

theorem runGenerate_of_write_ok (hs : loadSettings fs r = .ok s) (hn : loadSchema fs r.schema = .ok n)
    (hdry : r.dryRun = false) {run : Package.Run}
    (hwrite : write s n (formatterOf s fs runner) ⟨r.out⟩ fs = (.ok run, fs₁)) (ds : List Directive) :
    runGenerate runner ds r fs = finished ds run [] fs₁ := by
  simp only [runGenerate, hs, hn, hdry, Bool.false_eq_true, if_false, hwrite]

/-- A dry run changes nothing, also when it stops. -/
theorem files_runGenerate_dry (hdry : r.dryRun = true) (ds : List Directive) (fs : Files) :
    (runGenerate runner ds r fs).files = fs := by
  rcases stopsLoading_or_loads fs r with ⟨e, he⟩ | ⟨s, n, hs, hn⟩
  · rw [runGenerate_of_stopsLoading he]
    rfl
  · rw [runGenerate_dry hs hn hdry]
    rfl

/-- When the output directory can be made and every unit be formatted and written, the units of the package are what is
    written. -/
theorem runGenerate_of_allWritten (hs : loadSettings fs r = .ok s) (hn : loadSchema fs r.schema = .ok n)
    (hdry : r.dryRun = false) (hmade : fs.makeDirectories ⟨r.out⟩ = (.ok (), fs₁))
    (hwritten : allWritten (formatterOf s fs runner) ⟨r.out⟩ fs₁ (generate s n).report.units = true)
    (ds : List Directive) :
    (runGenerate runner ds r fs).status = statusOf (generate s n).report ∧
      ∃ written, List.Forall₂ (Formatted (formatterOf s fs runner)) (generate s n).report.units written ∧
        Output ⟨r.out⟩ fs (runGenerate runner ds r fs).files written := by
  obtain ⟨run, fs', written, hwrite, hreport, hformatted⟩ := write_of_allWritten hmade hwritten
  have houtput := output_of_write hwrite
  rw [hreport] at houtput
  rw [runGenerate_of_write_ok hs hn hdry hwrite]
  refine ⟨?_, written, hformatted, houtput⟩
  show statusOf run.report = statusOf (generate s n).report
  rw [hreport]
  rfl

theorem statusOf_eq_zero_iff (report : Report) : statusOf report = 0 ↔ report.failures = [] := by
  unfold statusOf Report.isSuccess
  cases report.failures with
  | nil => simp
  | cons f r => simp

/-! ## Two runs -/

def target (out : String) (u : SourceUnit) : String := ((Path.mk out).join u.path).text

theorem targets_of_formatted {format : Formatter} {us written : List SourceUnit}
    (h : List.Forall₂ (Formatted format) us written) (out : String) : written.map (target out) = us.map (target out) := by
  refine (map_eq_map_of_forall₂ ?_ h).symm
  intro u w hw
  rw [target, target, hw.1]

/-- What a dry run and a run leave that load settings `s` and a tree `n` from `fs`. -/
structure Predicts (runner : Command.Runner) (ds : List Directive) (out : String) (s : Settings) (n : Node)
    (fs : Files) (dry real : Session) : Prop where
  /-- Between the log of the package and its failures, there is one line for each unit. -/
  printed : dry.output = lines ds (generate s n).events ++ (generate s n).report.units.map (target out) ++
    lines ds (failureEvents (generate s n).report)
  status : dry.status = 0 ↔ (generate s n).report.failures = []
  /-- When nothing is in the way, what is written is what is printed. -/
  written : ∀ fs₁, fs.makeDirectories ⟨out⟩ = (.ok (), fs₁) →
    allWritten (formatterOf s fs runner) ⟨out⟩ fs₁ (generate s n).report.units = true →
      real.status = dry.status ∧
        ∃ written, written.map (target out) = (generate s n).report.units.map (target out) ∧
          List.Forall₂ (Formatted (formatterOf s fs runner)) (generate s n).report.units written ∧
          Output ⟨out⟩ fs real.files written ∧
          ∀ p content, real.files.get? p = some (.file content) → fs.get? p ≠ some (.file content) →
            ∃ t ∈ (generate s n).report.units.map (target out), real.files.locate ⟨t⟩ = .ok p

theorem predicts_runGenerate (hs : loadSettings fs r = .ok s) (hn : loadSchema fs r.schema = .ok n)
    (ds : List Directive) :
    Predicts runner ds r.out s n fs (runGenerate runner ds { r with dryRun := true } fs)
      (runGenerate runner ds { r with dryRun := false } fs) := by
  have hdry : runGenerate runner ds { r with dryRun := true } fs =
      finished ds (generate s n) (targets r.out (generate s n).report) fs :=
    runGenerate_dry (r := { r with dryRun := true }) hs hn rfl ds
  rw [hdry]
  refine ⟨rfl, statusOf_eq_zero_iff _, fun fs₁ hmade hwritten => ?_⟩
  obtain ⟨hstatus, written, hformatted, houtput⟩ :=
    runGenerate_of_allWritten (r := { r with dryRun := false }) hs hn rfl hmade hwritten ds
  have htargets := targets_of_formatted hformatted r.out
  refine ⟨hstatus, written, htargets, hformatted, houtput, fun p content hafter hbefore => ?_⟩
  obtain ⟨u, hu, hl, -⟩ := houtput.changed hafter hbefore
  exact ⟨target r.out u, htargets ▸ List.mem_map_of_mem hu, hl⟩

/-- Two command lines that ask for the same package, one of them for a dry run, whatever runs their formatter. The dry
    one changes no file. If something cannot be loaded, both stop with the same status and message; else the dry run
    says what the other one writes. -/
theorem dryRun_predicts_run (runner : Command.Runner) {args dryArgs : List String} {verbose : Bool}
    {r : GenerateRequest} (hargs : parse args = .ok (.generate verbose { r with dryRun := false }))
    (hdry : parse dryArgs = .ok (.generate verbose { r with dryRun := true })) (filter : Option String) (fs : Files) :
    (run dryArgs filter fs runner).files = fs ∧
      (∀ e, StopsLoading fs r e →
        run dryArgs filter fs runner = stopped e fs ∧ run args filter fs runner = stopped e fs) ∧
      ∀ s n, loadSettings fs r = .ok s → loadSchema fs r.schema = .ok n →
        Predicts runner (directives verbose filter) r.out s n fs (run dryArgs filter fs runner)
          (run args filter fs runner) := by
  have hrun : run args filter fs runner =
      runGenerate runner (directives verbose filter) { r with dryRun := false } fs := by
    simp only [run, hargs]
  have hdryRun : run dryArgs filter fs runner =
      runGenerate runner (directives verbose filter) { r with dryRun := true } fs := by
    simp only [run, hdry]
  rw [hrun, hdryRun]
  refine ⟨files_runGenerate_dry rfl _ fs, fun e he => ⟨?_, ?_⟩, fun s n hs hn => predicts_runGenerate hs hn _⟩
  · exact runGenerate_of_stopsLoading (r := { r with dryRun := true }) he _
  · exact runGenerate_of_stopsLoading (r := { r with dryRun := false }) he _

/-- Drops its input and writes one line. -/
def stepsCommand : List String := ["sh", "-c", "cat > /dev/null; echo 'formatted source'"]

/-- Runs that command; there is no other program. -/
def stepsRunner : Command.Runner := fun _ program args _ =>
  if program :: args = stepsCommand then .ok ⟨.exited 0, Text.Utf8.encode "formatted source\n", []⟩
  else .error "No such file or directory (os error 2)"

def stepsArguments : List String :=
  ["generate", "--schema", "s.json", "--out", "o"] ++
    ["--format", "sh", "--format-arg", "-c", "--format-arg", "cat > /dev/null; echo 'formatted source'"]

def stepsRequest : GenerateRequest := ⟨"s.json", "o", none, some stepsCommand, false⟩

def stepsSettings : Settings := { Settings.standard with formatter := some stepsCommand }

def stepsFiles : Files := ⟨[(["w", "s.json"], .file (Text.Utf8.encode stepsText))], ["w"]⟩

set_option maxRecDepth 10000 in
theorem loadSchema_stepsFiles : loadSchema stepsFiles "s.json" = .ok stepsTextTree := by
  have h : (loadSchema stepsFiles "s.json").toOption = some stepsTextTree := by decide +kernel
  exact toOption_eq_some_iff.mp h

theorem dryRun_predicts_run_steps :
    parse stepsArguments = .ok (.generate false { stepsRequest with dryRun := false }) ∧
      parse (stepsArguments ++ ["--dry-run"]) = .ok (.generate false { stepsRequest with dryRun := true }) ∧
      loadSettings stepsFiles stepsRequest = .ok stepsSettings ∧
      loadSchema stepsFiles stepsRequest.schema = .ok stepsTextTree ∧
      (stepsFiles.makeDirectories ⟨"o"⟩).1 = .ok () ∧
      allWritten (formatterOf stepsSettings stepsFiles stepsRunner) ⟨"o"⟩ (stepsFiles.makeDirectories ⟨"o"⟩).2
        (generate stepsSettings stepsTextTree).report.units = true ∧
      (generate stepsSettings stepsTextTree).report.units.map (target "o") =
        ["o/datatypes/trace/__init__.py", "o/datatypes/trace/bar/__init__.py", "o/__init__.py"] ∧
      (run stepsArguments none stepsFiles stepsRunner).files.get? ["w", "o", "__init__.py"] =
        some (.file (Text.Utf8.encode "formatted source\n")) ∧
      (run (stepsArguments ++ ["--dry-run"]) none stepsFiles stepsRunner).files = stepsFiles ∧
      (∀ e, StopsLoading stepsFiles stepsRequest e →
        run (stepsArguments ++ ["--dry-run"]) none stepsFiles stepsRunner = stopped e stepsFiles ∧
          run stepsArguments none stepsFiles stepsRunner = stopped e stepsFiles) ∧
      ∀ s n, loadSettings stepsFiles stepsRequest = .ok s → loadSchema stepsFiles stepsRequest.schema = .ok n →
        Predicts stepsRunner (directives false none) "o" s n stepsFiles
          (run (stepsArguments ++ ["--dry-run"]) none stepsFiles stepsRunner)
          (run stepsArguments none stepsFiles stepsRunner) := by
  have hargs : parse stepsArguments = .ok (.generate false { stepsRequest with dryRun := false }) := by decide +kernel
  have hdry : parse (stepsArguments ++ ["--dry-run"]) = .ok (.generate false { stepsRequest with dryRun := true }) := by
    decide +kernel
  refine ⟨hargs, hdry, rfl, loadSchema_stepsFiles, by decide +kernel, by decide +kernel, by decide +kernel,
    by decide +kernel, ?_⟩
  exact dryRun_predicts_run stepsRunner hargs hdry none stepsFiles

end PlotTypes.CommandLine
