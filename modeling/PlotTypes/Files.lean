/-
  PlotTypes.Files — a file system as a value.

  Places are lists of names from the root. A path is walked from the working directory,
  part by part: every part before the last has to be a directory, dots included. A
  directory is made together with those above it that are missing, and a file is written
  whole. An operation that fails says why; what it had made by then stays made.
-/

import PlotTypes.Path
import PlotTypes.Text.Utf8

namespace PlotTypes

abbrev Place := List String

inductive Entry where
  | directory
  | file (content : List UInt8)
  /-- A file that can be run. -/
  | program
  /-- Reads as empty and swallows what is written to it. -/
  | device
  deriving DecidableEq, Repr

structure Files where
  entries : List (Place × Entry)
  /-- The working directory. -/
  current : Place
  deriving DecidableEq, Repr

namespace Files

inductive Fault where
  | notFound
  | alreadyExists
  | notDirectory
  | isDirectory
  | nameTooLong
  | notText
  | badName
  deriving DecidableEq, Repr

def Fault.message : Fault → String
  | .notFound => "No such file or directory (os error 2)"
  | .alreadyExists => "File exists (os error 17)"
  | .notDirectory => "Not a directory (os error 20)"
  | .isDirectory => "Is a directory (os error 21)"
  | .nameTooLong => "File name too long (os error 36)"
  | .notText => "stream did not contain valid UTF-8"
  | .badName => "file name contained an unexpected NUL byte"

/-- A file system with one empty working directory. -/
def empty (current : Place) : Files := ⟨[], current⟩

/-- The root and the working directory with all above it always exist. -/
def get? (fs : Files) (p : Place) : Option Entry :=
  if p.isPrefixOf fs.current then some .directory else fs.entries.lookup p

def put (fs : Files) (p : Place) (e : Entry) : Files :=
  { fs with entries := (p, e) :: fs.entries.filter (·.1 != p) }

/-! ## Walking -/

/-- The longest name, in bytes. -/
def maxName : Nat := 255

/-- The longest path, in bytes. -/
def maxPath : Nat := 4095

def hasNul (p : Path) : Bool := p.text.toList.contains '\x00'

/-- What is wrong with a path wherever it leads. -/
def fault? (p : Path) : Option Fault :=
  if hasNul p then some .badName
  else if p.text.isEmpty then some .notFound
  else if p.text.utf8ByteSize > maxPath then some .nameTooLong
  else none

/-- The place that one part names in a directory. -/
def next (at_ : Place) : Path.Part → Except Fault Place
  | .root => .ok []
  | .here => .ok at_
  | .up => .ok at_.dropLast
  | .name s => if s.utf8ByteSize > maxName then .error .nameTooLong else .ok (at_ ++ [s])

/-- The place of the parts of a path from `at_`, each one entered as a directory. -/
def enter (fs : Files) (at_ : Place) : List Path.Part → Except Fault Place
  | [] => .ok at_
  | s :: r =>
    match next at_ s with
    | .error f => .error f
    | .ok place =>
      match fs.get? place with
      | none => .error .notFound
      | some .directory => enter fs place r
      | some _ => .error .notDirectory

/-- The directory that a path ends in, and its last part. -/
def arrive (fs : Files) (p : Path) : Except Fault (Place × Path.Part) :=
  match fault? p with
  | some f => .error f
  | none => (enter fs fs.current p.steps.dropLast).map (·, p.steps.getLastD .here)

/-- The place that a path names, whose last name need not be there. -/
def locate (fs : Files) (p : Path) : Except Fault Place := do
  let (at_, last) ← fs.arrive p
  next at_ last

/-- What a path names. A path that can only name a directory names nothing else. -/
def find (fs : Files) (p : Path) : Except Fault Entry := do
  match fs.get? (← fs.locate p) with
  | none => .error .notFound
  | some .directory => .ok .directory
  | some e => if p.namesDirectory then .error .notDirectory else .ok e

def isDirectory (fs : Files) (p : Path) : Bool := (fs.find p).toOption == some .directory

/-! ## Operations -/

def makeDirectory (fs : Files) (p : Path) : Except Fault Files := do
  let (at_, last) ← fs.arrive p
  match last with
  | .name _ =>
    let place ← next at_ last
    if (fs.get? place).isSome then .error .alreadyExists else .ok (fs.put place .directory)
  | _ => .error .alreadyExists

/-- A directory that was to be made is there all the same. -/
def unlessDirectory (fs : Files) (p : Path) : Except Fault Files → Except Fault Unit × Files
  | .ok fs => (.ok (), fs)
  | .error f => (if fs.isDirectory p then .ok () else .error f, fs)

/-- Makes a directory, after those above it if it cannot be made without them; at most
    `depth` of them. -/
def makeWithin (fs : Files) : Nat → Path → Except Fault Unit × Files
  | 0, p => unlessDirectory fs p (fs.makeDirectory p)
  | depth + 1, p =>
    match fs.makeDirectory p, p.parent? with
    | .error .notFound, some q =>
      match if q.text.isEmpty then (.ok (), fs) else makeWithin fs depth q with
      | (.ok (), fs) => unlessDirectory fs p (fs.makeDirectory p)
      | stopped => stopped
    | made, _ => unlessDirectory fs p made

def makeDirectories (fs : Files) (p : Path) : Except Fault Unit × Files :=
  if p.text.isEmpty then (.ok (), fs) else makeWithin fs p.parts.length p

/-- Makes the directory that a file at `p` goes into. -/
def makeParents (fs : Files) (p : Path) : Except Fault Unit × Files :=
  match p.parent? with
  | some q => makeDirectories fs q
  | none => (.ok (), fs)

def readBytes (fs : Files) (p : Path) : Except Fault (List UInt8) := do
  match ← fs.find p with
  | .directory => .error .isDirectory
  | .file content => .ok content
  | .program | .device => .ok []

def readText (fs : Files) (p : Path) : Except Fault String := do
  match Text.Utf8.decode (← fs.readBytes p) with
  | .ok s => .ok s
  | .error _ => .error .notText

/-- Writes a file whole. A failure changes nothing. -/
def writeText (fs : Files) (p : Path) (s : String) : Except Fault Files := do
  let (at_, last) ← fs.arrive p
  if p.namesDirectory then .error .isDirectory
  else
    let place ← next at_ last
    match fs.get? place with
    | some .directory => .error .isDirectory
    | some .device => .ok fs
    | _ => .ok (fs.put place (.file (Text.Utf8.encode s)))

/-! ## Changes -/

def files (fs : Files) : List (Place × List UInt8) :=
  fs.entries.filterMap fun
    | (p, .file content) => some (p, content)
    | _ => none

/-- The files of `after` that are not in `before` or have another content there. -/
def changes (before after : Files) : List (Place × List UInt8) :=
  after.files.filter fun (p, content) => before.get? p != some (.file content)

end Files

end PlotTypes
