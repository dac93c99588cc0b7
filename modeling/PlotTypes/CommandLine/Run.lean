/-
  PlotTypes.CommandLine.Run — the program on a file system.

  Settings are read first, then the schema; both before anything is made. `check` stops
  there. A dry run prints the files that would be written, in order, and runs no formatter.
  What a formatter does is up to a runner. The status is 2 for a command line that cannot be
  read, 1 when something failed, and 0 otherwise.
-/

import PlotTypes.CommandLine.Arguments
import PlotTypes.CommandLine.Log
import PlotTypes.Package.Formatting
import PlotTypes.Package.Input

namespace PlotTypes.CommandLine

open PlotTypes.Package PlotTypes.Schema

/-- What a run of the program leaves: its status, its lines on both outputs, and the files. -/
structure Session where
  status : Nat
  output : List String
  errors : List String
  files : Files
  deriving DecidableEq, Repr

/-- Why the program gives up: the step, and the cause. -/
inductive Stop where
  | settings (path : String) (e : Package.Error)
  | schema (path : String) (e : Package.Error)
  | validity (path : String) (e : Schema.Error)
  | output (path : String) (e : Package.Error)
  deriving DecidableEq, Repr

def Stop.context : Stop → String
  | .settings path _ => "failed to load config " ++ path
  | .schema path _ => "failed to load schema " ++ path
  | .validity path _ => "invalid schema " ++ path
  | .output path _ => "failed to write output to " ++ path

def Stop.cause : Stop → String
  | .settings _ e | .schema _ e | .output _ e => e.message
  | .validity _ e => e.message

def stopped (s : Stop) (fs : Files) : Session := ⟨1, [], ["Error: " ++ s.context, "", "Caused by:", "    " ++ s.cause], fs⟩

/-! ## Loading -/

def loadSettings (fs : Files) (r : GenerateRequest) : Except Stop Settings := do
  let s ← match r.config with
    | some path => (readSettings fs ⟨path⟩).mapError (.settings path)
    | none => .ok Settings.standard
  return match r.command with
    | some command => { s with formatter := some command }
    | none => s

def loadSchema (fs : Files) (path : String) : Except Stop Node := do
  let n ← (readTree fs ⟨path⟩).mapError (.schema path)
  (validate n).mapError (.validity path)
  return n

/-! ## Commands -/

def failureEvents (r : Report) : List Event := r.failures.map fun f => .failed f.node f.error

def statusOf (r : Report) : Nat := if r.isSuccess then 0 else 1

/-- The session of a finished run, with `printed` after its log. -/
def finished (ds : List Directive) (run : Package.Run) (printed : List String) (fs : Files) : Session :=
  ⟨statusOf run.report, lines ds run.events ++ printed ++ lines ds (failureEvents run.report), [], fs⟩

/-- The paths that a dry run prints. -/
def targets (out : String) (r : Report) : List String := r.units.map fun u => ((Path.mk out).join u.path).text

def runGenerate (runner : Command.Runner) (ds : List Directive) (r : GenerateRequest) (fs : Files) : Session :=
  match loadSettings fs r with
  | .error e => stopped e fs
  | .ok s =>
    match loadSchema fs r.schema with
    | .error e => stopped e fs
    | .ok n =>
      if r.dryRun then
        let run := Package.generate s n
        finished ds run (targets r.out run.report) fs
      else
        match Package.write s n (formatterOf s fs runner) ⟨r.out⟩ fs with
        | (.error e, fs) => stopped (.output r.out e) fs
        | (.ok run, fs) => finished ds run [] fs

def runCheck (ds : List Directive) (schema : String) (fs : Files) : Session :=
  match loadSchema fs schema with
  | .error e => stopped e fs
  | .ok n => ⟨0, lines ds [.valid ⟨schema⟩ n.children.length], [], fs⟩

def usage : List String :=
  ["Usage: plotgen [-v] generate --schema <PATH> --out <PATH> [--config <PATH>]",
    "                    [--format <PROGRAM> [--format-arg <ARG>]...] [--dry-run]",
    "       plotgen [-v] check --schema <PATH>"]

def versionLine : String := "plotgen 0.3.0"

/-- Runs the program with its arguments. What is given from outside is the log filter, and the runner that a formatter
    is run with. -/
def run (args : List String) (filter : Option String) (fs : Files) (runner : Command.Runner := Command.run) : Session :=
  match parse args with
  | .error f => ⟨2, [], ("error: " ++ f.message) :: usage, fs⟩
  | .ok .help => ⟨0, usage, [], fs⟩
  | .ok .version => ⟨0, [versionLine], [], fs⟩
  | .ok (.check verbose schema) => runCheck (directives verbose filter) schema fs
  | .ok (.generate verbose r) => runGenerate runner (directives verbose filter) r fs

end PlotTypes.CommandLine
