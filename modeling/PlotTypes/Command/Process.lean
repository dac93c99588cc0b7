/-
  PlotTypes.Command.Process — a runner that plays the shell and a few small programs.

  A name without a slash is searched for in the directories of programs, any other is a
  path. The program starts with its input in a pipe and an empty pipe for each of its
  outputs. It ends with what it wrote and how it ended, unless it cannot start or does not
  take its input. Only programs that `PlotTypes.Command.Shell` knows do anything, and what
  they write to files is dropped: this is one runner among others.
-/

import PlotTypes.Command.Shell
import PlotTypes.Places

namespace PlotTypes.Command

/-- Why a command has no outcome. -/
inductive SpawnFault where
  | nulByte
  | notFound
  | tooManyBytes
  | notAllowed
  | notDirectory
  | nameTooLong
  /-- It ended before it had its input. -/
  | brokenPipe
  deriving DecidableEq, Repr

def SpawnFault.message : SpawnFault → String
  | .nulByte => "nul byte found in provided data"
  | .notFound => "No such file or directory (os error 2)"
  | .tooManyBytes => "Argument list too long (os error 7)"
  | .notAllowed => "Permission denied (os error 13)"
  | .notDirectory => "Not a directory (os error 20)"
  | .nameTooLong => "File name too long (os error 36)"
  | .brokenPipe => "Broken pipe (os error 32)"

/-! ## Finding the program -/

/-- Why a path is no program. -/
def faultAt (fs : Files) (path : String) : Option SpawnFault :=
  match fs.find ⟨path⟩ with
  | .ok .program => none
  | .ok _ => some .notAllowed
  | .error .notDirectory => some .notDirectory
  | .error .nameTooLong => some .nameTooLong
  | .error _ => some .notFound

/-- The first of some paths that is a program, or what kept the others from being one. -/
def firstProgram (fs : Files) (fault : SpawnFault) : List String → Except SpawnFault String
  | [] => .error fault
  | path :: r =>
    match faultAt fs path with
    | none => .ok path
    | some .notAllowed => firstProgram fs .notAllowed r
    | some .nameTooLong => .error .nameTooLong
    | some _ => firstProgram fs fault r

def locateProgram (fs : Files) (program : String) : Except SpawnFault String :=
  if program.toList.contains '/' then
    match faultAt fs program with
    | none => .ok program
    | some f => .error f
  else if program.isEmpty then .error .notFound
  else if program.utf8ByteSize > Files.maxName then .error .nameTooLong
  else firstProgram fs .notFound (Places.programDirectories.map fun d => Places.pathOf d ++ "/" ++ program)

/-- The longest argument, in bytes. -/
def maxArgument : Nat := 131071

/-! ## Running -/

/-- The number of a page's bytes, and how many pages a pipe holds. -/
def pageSize : Nat := 4096

def pipePages : Nat := 16

/-- The rest of an input still fits into the pipe after a part of it was read. -/
def fitsPipe (length unread : Nat) : Bool :=
  (length + pageSize - 1) / pageSize - (length - unread) / pageSize ≤ pipePages

/-- The variables that a program starts with. -/
def environment (fs : Files) : List (String × Variable) :=
  let searched := String.intercalate ":" (Places.programDirectories.map Places.pathOf)
  [("PATH", searched), ("HOME", "/root"), ("PWD", Places.pathOf fs.current)].map fun (name, value) =>
    (name, ⟨some (bytesOfText value), true, false⟩)

/-- The number of the process. -/
def firstProcess : Nat := 1000

def startOf (fs : Files) (input : List UInt8) : Machine where
  shell := .bare firstProcess [] [(0, ⟨0, true, false⟩), (1, ⟨1, false, true⟩), (2, ⟨2, false, true⟩)] fs.current (environment fs)
  world := ⟨#[.pipe (bytesOfOctets input) [], .pipe [] [], .pipe [] []], fs, firstProcess + 1, []⟩

/-- How deep commands may call each other before a process has no stack left. -/
def stackDepth : Nat := 20000

/-- Runs the program at a path with its name and arguments. -/
def runProgramAt (fs : Files) (path : String) (args : List String) (input : List UInt8) : Except SpawnFault Outcome :=
  let engine := Engine.within stackDepth
  let work := engine.process (engine.become (bytesOfText path) (args.map bytesOfText))
  let (ending, m) := match work (startOf fs input) with
    | .ok ending m => (ending, m)
    | .error (.killed n) m => (.killed n false, m)
    | .error _ m => (.exited m.shell.status, m)
  if fitsPipe input.length (m.world.pending 0).length then
    .ok ⟨ending, octets (m.world.pending 1), octets (m.world.pending 2)⟩
  else .error .brokenPipe

def runProgram (fs : Files) (program : String) (args : List String) (input : List UInt8) :
    Except SpawnFault Outcome := do
  if (program :: args).any (·.toList.contains '\x00') then .error .nulByte
  let path ← locateProgram fs program
  if (program :: args).any (·.utf8ByteSize > maxArgument) then .error .tooManyBytes
  runProgramAt fs path (program :: args) input

/-- Programs see the files and leave them as they are. -/
def run : Runner := fun fs program args input => (runProgram fs program args input).mapError SpawnFault.message

end PlotTypes.Command
