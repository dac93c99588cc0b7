/-
  PlotTypes.Main — the program on the real file system.

  The files that a run may read or meet are taken into a file system value, the program
  runs on it, and what it made or changed is written back.
-/

import PlotTypes.CommandLine.Run

namespace PlotTypes.Main

open PlotTypes.CommandLine

/-! ## Places -/

def placeOf (path : String) : Place :=
  ((Text.pieces (· == '/') path.toList).filter (!·.isEmpty)).map String.ofList

/-! ## Taking in -/

/-- What is at a path of the real file system. -/
def probe (path : String) : IO (Option Entry) := do
  try
    return some (.file (← IO.FS.readBinFile path).toList)
  catch
    | .inappropriateType .. => return some .directory
    | _ => return none

/-- Takes what is at a path into a file system value. -/
def takeIn (fs : Files) (path : String) : IO Files := do
  match ← probe path, (fs.makeParents ⟨path⟩).2.locate ⟨path⟩ with
  | some e, .ok place => return (fs.makeParents ⟨path⟩).2.put place e
  | _, _ => return fs

/-- A path and the paths above it, the shortest one first. -/
def ancestors (path : String) : List String :=
  let names := (Text.pieces (· == '/') path.toList).map String.ofList
  ((List.range names.length).map fun i => String.intercalate "/" (names.take (i + 1))).filter (!·.isEmpty)

/-- The files that a request reads. -/
def inputs : Request → List String
  | .generate _ r => r.schema :: r.config.toList
  | .check _ schema => [schema]
  | .help | .version => []

/-- The paths that a request may write to, with those above them. -/
def outputs (fs : Files) : Request → List String
  | .generate _ r =>
    match loadSettings fs r, loadSchema fs r.schema with
    | .ok s, .ok n => ancestors r.out ++ (targets r.out (Package.generate s n).report).flatMap ancestors
    | _, _ => []
  | _ => []

/-! ## Writing back -/

/-- The directories of a file system, those above before those below. -/
def directories (fs : Files) : List Place :=
  (fs.entries.filterMap fun (p, e) => if e = .directory then some p else none).mergeSort (·.length ≤ ·.length)

def writeBack (before after : Files) : IO Unit := do
  for place in directories after do
    if before.get? place != some .directory then IO.FS.createDirAll (Places.pathOf place)
  for (place, content) in before.changes after do
    IO.FS.writeBinFile (Places.pathOf place) ⟨content.toArray⟩

end PlotTypes.Main

open PlotTypes PlotTypes.Main in
def main (args : List String) : IO UInt32 := do
  let request := (CommandLine.parse args).toOption.getD .help
  let mut fs := Files.usual (placeOf (← IO.currentDir).toString)
  for path in inputs request do
    fs ← takeIn fs path
  for path in outputs fs request do
    fs ← takeIn fs path
  let session := CommandLine.run args (← IO.getEnv "RUST_LOG") fs Command.run
  writeBack fs session.files
  for line in session.output do
    IO.println line
  for line in session.errors do
    IO.eprintln line
  return UInt32.ofNat session.status
