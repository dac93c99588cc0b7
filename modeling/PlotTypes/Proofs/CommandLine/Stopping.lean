/-
  PlotTypes.Proofs.CommandLine.Stopping — runs that end with an error, and what they leave.

  A request is given up where its first step fails (`GivesUp`): settings or schema cannot be
  loaded, or the output directory cannot be made. Nothing is written before these steps are
  done, so such a run leaves every file as it was (`Spares`). Directories can be new: making
  the output directory can stop half-way.
  - `spares_of_givesUp`, `errors_ne_nil_iff`: a run that gives up reports just that, and no
    other run reports an error.
  - `loadSchema_ok_iff`: a schema file that is loaded holds a text from which a package
    is generated. So `check`, `generate` and the generation from a text agree on schemas.
  - `stopping_spares_files`: all of it, for command lines.
-/

import PlotTypes.Proofs.CommandLine.DryRun

namespace PlotTypes.CommandLine

open PlotTypes.Package PlotTypes.Schema

variable {runner : Command.Runner} {args : List String} {request : Request} {r : GenerateRequest} {fs fs₁ : Files}
  {s : Settings} {n : Node} {e : Stop}

/-! ## Causes -/

inductive GivesUp (fs : Files) : Request → Stop → Prop
  | check (verbose : Bool) (schema : String) (e : Stop) : loadSchema fs schema = .error e →
      GivesUp fs (.check verbose schema) e
  | loading (verbose : Bool) (r : GenerateRequest) (e : Stop) : StopsLoading fs r e →
      GivesUp fs (.generate verbose r) e
  | output (verbose : Bool) (r : GenerateRequest) (s : Settings) (n : Node) (f : Files.Fault) (fs₁ : Files) :
      loadSettings fs r = .ok s → loadSchema fs r.schema = .ok n → r.dryRun = false →
      fs.makeDirectories ⟨r.out⟩ = (.error f, fs₁) → GivesUp fs (.generate verbose r) (.output r.out (.io f))

/-- The step comes before anything is made. -/
def Stop.isEarly : Stop → Bool
  | .output .. => false
  | .settings .. | .schema .. | .validity .. => true

theorem isEarly_of_loadSchema {schema : String} (h : loadSchema fs schema = .error e) : e.isEarly = true := by
  unfold loadSchema at h
  cases ht : (readTree fs ⟨schema⟩).mapError (Stop.schema schema) with
  | error f =>
    obtain ⟨cause, -, rfl⟩ := mapError_error_iff.mp ht
    rw [ht] at h
    cases h
    rfl
  | ok n =>
    rw [ht] at h
    cases hv : (validate n).mapError (Stop.validity schema) with
    | error f =>
      obtain ⟨cause, -, rfl⟩ := mapError_error_iff.mp hv
      simp only [bind, Except.bind, hv] at h
      cases h
      rfl
    | ok done =>
      simp only [bind, Except.bind, hv] at h
      cases h

/-! ## What an error leaves -/

/-- A run ended with an error: it reports that and nothing else, every file is as it was, and if directories are new
    then the output directory was being made. -/
structure Spares (fs : Files) (e : Stop) (session : Session) : Prop where
  status : session.status = 1
  reported : session = stopped e session.files
  files : ∀ p content, session.files.get? p = some (.file content) ↔ fs.get? p = some (.file content)
  directories : fs.MakesDirectories session.files
  early : e.isEarly = true → session.files = fs

theorem files_of_makesDirectories (h : fs.MakesDirectories fs₁) (p : Place) (content : List UInt8) :
    fs₁.get? p = some (.file content) ↔ fs.get? p = some (.file content) := by
  rcases h.get? p with hp | ⟨hnone, hp⟩
  · rw [hp]
  · rw [hp, hnone]
    simp

theorem spares_stopped (h : fs.MakesDirectories fs₁) (hearly : e.isEarly = true → fs₁ = fs) :
    Spares fs e (stopped e fs₁) :=
  ⟨rfl, rfl, files_of_makesDirectories h, h, hearly⟩

theorem run_check {verbose : Bool} {schema : String} (hargs : parse args = .ok (.check verbose schema))
    (filter : Option String) (fs : Files) :
    run args filter fs runner = runCheck (directives verbose filter) schema fs := by
  simp only [run, hargs]

theorem run_generate {verbose : Bool} (hargs : parse args = .ok (.generate verbose r)) (filter : Option String)
    (fs : Files) : run args filter fs runner = runGenerate runner (directives verbose filter) r fs := by
  simp only [run, hargs]

theorem spares_of_givesUp (hargs : parse args = .ok request) (filter : Option String) (h : GivesUp fs request e) :
    Spares fs e (run args filter fs runner) := by
  cases h with
  | check verbose schema e hn =>
    have hrun : run args filter fs runner = stopped e fs := by
      rw [run_check hargs]
      unfold runCheck
      rw [hn]
    rw [hrun]
    exact spares_stopped (.refl fs) fun _ => rfl
  | loading verbose r e hstops =>
    have hrun : run args filter fs runner = stopped e fs := by
      rw [run_generate hargs, runGenerate_of_stopsLoading hstops]
    rw [hrun]
    exact spares_stopped (.refl fs) fun _ => rfl
  | output verbose r s n f fs₁ hs hn hdry hmade =>
    have hwrite : write s n (formatterOf s fs runner) ⟨r.out⟩ fs = (.error (.io f), fs₁) := by simp only [write, hmade]
    have hrun : run args filter fs runner = stopped (.output r.out (.io f)) fs₁ := by
      rw [run_generate hargs, runGenerate_of_write_error hs hn hdry hwrite]
    have hdirectories := Files.makesDirectories_makeDirectories fs ⟨r.out⟩
    rw [hmade] at hdirectories
    rw [hrun]
    refine spares_stopped hdirectories fun hearly => ?_
    cases hearly

/-- A run gives up, or it reports no error. -/
theorem givesUp_or_errors_eq_nil (hargs : parse args = .ok request) (filter : Option String) (fs : Files) :
    (∃ e, GivesUp fs request e) ∨ (run args filter fs runner).errors = [] := by
  cases request with
  | help => exact .inr (by simp only [run, hargs])
  | version => exact .inr (by simp only [run, hargs])
  | check verbose schema =>
    rw [run_check hargs]
    unfold runCheck
    cases hn : loadSchema fs schema with
    | error e => exact .inl ⟨e, .check verbose schema e hn⟩
    | ok n => exact .inr rfl
  | generate verbose r =>
    rw [run_generate hargs]
    rcases stopsLoading_or_loads fs r with ⟨e, he⟩ | ⟨s, n, hs, hn⟩
    · exact .inl ⟨e, .loading verbose r e he⟩
    cases hdry : r.dryRun with
    | true =>
      rw [runGenerate_dry hs hn hdry]
      exact .inr rfl
    | false =>
      cases hmade : fs.makeDirectories ⟨r.out⟩ with
      | mk made fs₁ =>
        cases made with
        | error f => exact .inl ⟨_, .output verbose r s n f fs₁ hs hn hdry hmade⟩
        | ok done =>
          obtain ⟨done, fs₂, hwrite⟩ :
              ∃ done fs₂, write s n (formatterOf s fs runner) ⟨r.out⟩ fs = (.ok done, fs₂) := by
            simp only [write, hmade]
            exact ⟨_, _, rfl⟩
          rw [runGenerate_of_write_ok hs hn hdry hwrite]
          exact .inr rfl

theorem errors_ne_nil_iff (hargs : parse args = .ok request) (filter : Option String) (fs : Files) :
    (run args filter fs runner).errors ≠ [] ↔ ∃ e, GivesUp fs request e := by
  constructor
  · intro h
    rcases givesUp_or_errors_eq_nil hargs filter fs with hup | hnil
    · exact hup
    · exact absurd hnil h
  · rintro ⟨e, he⟩ hnil
    rw [(spares_of_givesUp hargs filter he).reported] at hnil
    cases hnil

/-! ## What a schema that can be loaded is -/

/-- A schema file is loaded exactly when it holds a text of a valid schema. -/
theorem loadSchema_ok_iff {schema : String} :
    loadSchema fs schema = .ok n ↔ ∃ text, fs.readText ⟨schema⟩ = .ok text ∧ load text = .ok n := by
  unfold loadSchema readTree readText load
  simp only [bind_ok_iff, mapError_ok_iff, pure, Except.pure]
  constructor
  · rintro ⟨m, ⟨text, hread, hm⟩, done, hvalid, hmn⟩
    cases hmn
    exact ⟨text, hread, n, hm, done, hvalid, rfl⟩
  · rintro ⟨text, hread, m, hm, done, hvalid, hmn⟩
    cases hmn
    exact ⟨n, ⟨text, hread, hm⟩, done, hvalid, rfl⟩

theorem exists_generateFromText_iff (s : Settings) (text : String) :
    (∃ x, generateFromText s text = .ok x) ↔ ∃ n, load text = .ok n := by
  unfold generateFromText
  cases load text with
  | error f => simp
  | ok n => simp

theorem status_runCheck_iff (ds : List Directive) (schema : String) (fs : Files) :
    (runCheck ds schema fs).status = 0 ↔ ∃ n, loadSchema fs schema = .ok n := by
  unfold runCheck
  cases loadSchema fs schema with
  | error e => simp [stopped]
  | ok n => simp

/-- `check` writes nothing, whether it accepts or not. -/
theorem files_runCheck (ds : List Directive) (schema : String) (fs : Files) : (runCheck ds schema fs).files = fs := by
  unfold runCheck
  split
  · rfl
  · rfl

/-- A run of `generate` got past loading: it reports no error, or one about its output directory. -/
def PastLoading (r : GenerateRequest) (session : Session) : Prop :=
  session.errors = [] ∨ ∃ cause, session.errors = (stopped (.output r.out cause) session.files).errors

theorem take_toList_append (k : Nat) (a b : String) (h : k ≤ a.toList.length) :
    (a ++ b).toList.take k = a.toList.take k := by
  rw [String.toList_append, List.take_append_of_le_length h]

theorem take_context_output (out : String) (cause : Package.Error) :
    (Stop.context (.output out cause)).toList.take 11 = "failed to w".toList := by
  have htake : ("failed to write output to " ++ out).toList.take 11 = "failed to write output to ".toList.take 11 :=
    take_toList_append 11 _ out (by decide +kernel)
  exact htake.trans (by decide +kernel)

theorem take_context_ne_of_isEarly (h : e.isEarly = true) : e.context.toList.take 11 ≠ "failed to w".toList := by
  cases e with
  | settings path f =>
    show ("failed to load config " ++ path).toList.take 11 ≠ _
    rw [take_toList_append 11 _ path (by decide +kernel)]
    decide +kernel
  | schema path f =>
    show ("failed to load schema " ++ path).toList.take 11 ≠ _
    rw [take_toList_append 11 _ path (by decide +kernel)]
    decide +kernel
  | validity path f =>
    show ("invalid schema " ++ path).toList.take 11 ≠ _
    rw [take_toList_append 11 _ path (by decide +kernel)]
    decide +kernel
  | output out f => cases h

/-- The first line of an error tells early steps from the last one. -/
theorem errors_stopped_ne (h : e.isEarly = true) (out : String) (cause : Package.Error) :
    (stopped e fs).errors ≠ (stopped (.output out cause) fs₁).errors := by
  intro herrors
  have hline : "Error: " ++ e.context = "Error: " ++ Stop.context (.output out cause) := (List.cons.inj herrors).1
  have hcontext : e.context = Stop.context (.output out cause) := (String.append_right_inj _).mp hline
  apply take_context_ne_of_isEarly h
  rw [hcontext, take_context_output]

/-- Without a configuration file, what can keep `generate` from getting past loading is the schema. -/
theorem pastLoading_iff {verbose : Bool} (hargs : parse args = .ok (.generate verbose r)) (hconfig : r.config = none)
    (filter : Option String) (fs : Files) :
    PastLoading r (run args filter fs runner) ↔ ∃ n, loadSchema fs r.schema = .ok n := by
  obtain ⟨s, hs⟩ : ∃ s, loadSettings fs r = .ok s := by
    unfold loadSettings
    rw [hconfig]
    exact ⟨_, rfl⟩
  cases hn : loadSchema fs r.schema with
  | error e =>
    have hup : GivesUp fs (.generate verbose r) e := .loading verbose r e (.inr ⟨s, hs, hn⟩)
    have hspares : Spares fs e (run args filter fs runner) := spares_of_givesUp hargs filter hup
    refine iff_of_false ?_ (by simp)
    rintro (hnil | ⟨cause, hcause⟩)
    · exact (errors_ne_nil_iff hargs filter fs).mpr ⟨e, hup⟩ hnil
    · rw [hspares.reported] at hcause
      exact errors_stopped_ne (isEarly_of_loadSchema hn) r.out cause hcause
  | ok n =>
    refine iff_of_true ?_ ⟨n, rfl⟩
    rcases givesUp_or_errors_eq_nil hargs filter fs with ⟨e, hup⟩ | hnil
    · have hspares : Spares fs e (run args filter fs runner) := spares_of_givesUp hargs filter hup
      cases hup with
      | loading verbose r e hstops =>
        rcases hstops with hfault | ⟨-, -, hfault⟩
        · rw [hs] at hfault
          cases hfault
        · rw [hn] at hfault
          cases hfault
      | output verbose r s n f fs₁ _ _ _ _ => exact .inr ⟨_, congrArg Session.errors hspares.reported⟩
    · exact .inl hnil

/-! ## Command lines -/

/-- A run that ends with an error has status 1 and spares all files, and no other run reports an error. `check` spares
    them always. It accepts a schema file exactly when `generate` without a configuration file gets past loading it,
    and exactly when a package is generated from the text of the file. -/
theorem stopping_spares_files (runner : Command.Runner) {args checkArgs generateArgs : List String}
    {request : Request} {verbose loud : Bool} {r : GenerateRequest} (hargs : parse args = .ok request)
    (hcheck : parse checkArgs = .ok (.check verbose r.schema)) (hgenerate : parse generateArgs = .ok (.generate loud r))
    (hconfig : r.config = none) (filter : Option String) (fs : Files) (s : Settings) :
    ((∀ e, GivesUp fs request e → Spares fs e (run args filter fs runner)) ∧
        ((run args filter fs runner).errors ≠ [] ↔ ∃ e, GivesUp fs request e)) ∧
      (run checkArgs filter fs runner).files = fs ∧
      ((run checkArgs filter fs runner).status = 0 ↔ PastLoading r (run generateArgs filter fs runner)) ∧
      ((run checkArgs filter fs runner).status = 0 ↔
        ∃ text x, fs.readText ⟨r.schema⟩ = .ok text ∧ generateFromText s text = .ok x) := by
  rw [run_check hcheck, status_runCheck_iff]
  refine ⟨⟨fun e => spares_of_givesUp hargs filter, errors_ne_nil_iff hargs filter fs⟩, files_runCheck _ _ fs, ?_, ?_⟩
  · exact (pastLoading_iff hgenerate hconfig filter fs).symm
  · simp only [loadSchema_ok_iff]
    constructor
    · rintro ⟨n, text, hread, hn⟩
      obtain ⟨x, hx⟩ := (exists_generateFromText_iff s text).mpr ⟨n, hn⟩
      exact ⟨text, x, hread, hx⟩
    · rintro ⟨text, x, hread, hx⟩
      obtain ⟨n, hn⟩ := (exists_generateFromText_iff s text).mp ⟨x, hx⟩
      exact ⟨n, text, hread, hn⟩

/-- Its output directory runs through a directory that can be made and ends at a file. -/
def blockedArguments : List String := ["generate", "--schema", "s.json", "--out", "new/../s.json"]

def blockedRequest : GenerateRequest := { stepsRequest with out := "new/../s.json", command := none }

theorem givesUp_blockedRequest :
    GivesUp stepsFiles (.generate false blockedRequest) (.output "new/../s.json" (.io .alreadyExists)) :=
  .output false blockedRequest .standard stepsTextTree .alreadyExists
    (stepsFiles.makeDirectories ⟨"new/../s.json"⟩).2 rfl loadSchema_stepsFiles rfl (by decide +kernel)

theorem stopping_spares_files_blocked :
    parse blockedArguments = .ok (.generate false blockedRequest) ∧
      parse ["check", "--schema", "s.json"] = .ok (.check false "s.json") ∧
      GivesUp stepsFiles (.generate false blockedRequest) (.output "new/../s.json" (.io .alreadyExists)) ∧
      (run blockedArguments none stepsFiles stepsRunner).files.get? ["w", "new"] = some .directory ∧
      ((∀ e, GivesUp stepsFiles (.generate false blockedRequest) e →
          Spares stepsFiles e (run blockedArguments none stepsFiles stepsRunner)) ∧
        ((run blockedArguments none stepsFiles stepsRunner).errors ≠ [] ↔
          ∃ e, GivesUp stepsFiles (.generate false blockedRequest) e)) ∧
      (run ["check", "--schema", "s.json"] none stepsFiles stepsRunner).files = stepsFiles ∧
      ((run ["check", "--schema", "s.json"] none stepsFiles stepsRunner).status = 0 ↔
        PastLoading blockedRequest (run blockedArguments none stepsFiles stepsRunner)) ∧
      ((run ["check", "--schema", "s.json"] none stepsFiles stepsRunner).status = 0 ↔
        ∃ text x, stepsFiles.readText ⟨"s.json"⟩ = .ok text ∧ generateFromText .standard text = .ok x) := by
  have hargs : parse blockedArguments = .ok (.generate false blockedRequest) := by decide +kernel
  have hcheck : parse ["check", "--schema", "s.json"] = .ok (.check false "s.json") := by decide +kernel
  refine ⟨hargs, hcheck, givesUp_blockedRequest, by decide +kernel, ?_⟩
  exact stopping_spares_files stepsRunner hargs hcheck hargs rfl none stepsFiles .standard

end PlotTypes.CommandLine
