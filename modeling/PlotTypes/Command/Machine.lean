/-
  PlotTypes.Command.Machine — the state that commands run in.

  The world holds what all processes share: the streams and the files. A shell holds what
  is its own; its descriptors lead to streams. Processes run one after another, so what
  is written to a pipe waits there for its reader. A run is a state transformer that may
  stop early, and a child runs on a copy of the shell.
-/

import PlotTypes.Command.Number
import PlotTypes.Command.Outcome
import PlotTypes.Places

namespace PlotTypes.Command

def bytesOfText (s : String) : Bytes := (Text.Utf8.encode s).map fun b => Char.ofNat b.toNat

def octets (cs : Bytes) : List UInt8 := cs.map fun c => UInt8.ofNat c.toNat

def bytesOfOctets (bs : List UInt8) : Bytes := bs.map fun b => Char.ofNat b.toNat

/-- Bytes as text; an error in them is replaced. -/
def textOfBytes (cs : Bytes) : String := Text.Utf8.decodeLossy (octets cs)

def digits (n : Nat) : Bytes := Nat.toDigits 10 n

/-! ## Streams -/

inductive Stream where
  /-- What waits to be read: the front, and the back with its last byte first. -/
  | pipe (front back : Bytes)
  | device
  /-- Cannot be read. -/
  | directory
  | file (place : Place) (position : Nat) (appends : Bool)
  deriving DecidableEq, Repr

structure World where
  streams : Array Stream
  files : Files
  nextProcess : Nat
  /-- Signals for processes that are not running just now. -/
  sent : List (Nat × Nat)

def World.content (w : World) (p : Place) : List UInt8 :=
  match w.files.get? p with
  | some (.file content) => content
  | _ => []

/-- What can be read from a stream. -/
def World.pending (w : World) (id : Nat) : Bytes :=
  match w.streams[id]? with
  | some (.pipe front []) => front
  | some (.pipe front back) => front ++ back.reverse
  | some (.file place position _) => bytesOfOctets ((w.content place).drop position)
  | _ => []

/-- The world after bytes were read from a stream, which leaves `rest` of the pending ones. -/
def World.leave (w : World) (id : Nat) (rest : Bytes) : World :=
  match w.streams[id]? with
  | some (.pipe ..) => { w with streams := w.streams.set! id (.pipe rest []) }
  | some (.file place _ appends) =>
    { w with streams := w.streams.set! id (.file place ((w.content place).length - rest.length) appends) }
  | _ => w

def World.write (w : World) (id : Nat) (s : Bytes) : World :=
  match w.streams[id]? with
  | some (.pipe front back) => { w with streams := w.streams.set! id (.pipe front (s.reverse ++ back)) }
  | some (.file place position appends) =>
    let old := w.content place
    let at_ := if appends then old.length else position
    let new := old.take at_ ++ List.replicate (at_ - old.length) 0 ++ octets s ++ old.drop (at_ + s.length)
    { w with
      streams := w.streams.set! id (.file place (at_ + s.length) appends)
      files := w.files.put place (.file new) }
  | _ => w

def World.add (w : World) (s : Stream) : Nat × World := (w.streams.size, { w with streams := w.streams.push s })

/-! ## The shell -/

/-- An open stream, and what may be done with it. -/
structure Descriptor where
  stream : Nat
  reads : Bool
  writes : Bool
  deriving DecidableEq, Repr

structure Variable where
  value : Option Bytes
  isExported : Bool
  isFixed : Bool
  deriving DecidableEq, Repr

/-- Commands that are left out until a loop or a function is reached. -/
inductive Skip where
  | none
  | break_ (loops : Nat)
  | continue_ (loops : Nat)
  | return_
  deriving DecidableEq, Repr

/-- What a command gives back at its end: variables, perhaps the options. -/
structure Borrowed where
  bindings : List (String × Option Variable)
  options : Option (List Char)
  deriving DecidableEq, Repr

def Borrowed.empty : Borrowed := ⟨[], none⟩

/-- A child in the background. -/
structure Child where
  process : Nat
  ending : Ending
  /-- Nobody has seen its end yet. -/
  isNew : Bool
  deriving DecidableEq, Repr

structure Shell where
  process : Nat
  /-- The processes that wait for this one, its parent first. -/
  ancestors : List Nat
  /-- The process that `$$` names. -/
  mainProcess : Nat
  bindings : List (String × Variable)
  functions : List (String × (Nat × Script))
  aliases : List (String × Bytes)
  documents : Documents
  nextDocument : Nat
  name : Bytes
  parameters : List Bytes
  options : List Char
  status : Nat
  /-- The status of the last substituted command. -/
  innerStatus : Nat
  lastChild : Option Nat
  children : List Child
  traps : List (Nat × Bytes)
  /-- Signals that a trap waits for. -/
  caught : List Nat
  /-- The status that was there before the traps that are running. -/
  trapStatus : Option Nat
  descriptors : List (Nat × Descriptor)
  place : Place
  /-- Rights that new files do not get. -/
  mask : Nat
  line : Nat
  /-- The line that the text is read up to. -/
  textLine : Nat
  functionLine : Nat
  /-- The builtin that is running. -/
  builtin : Option Bytes
  loops : Nat
  /-- Functions that are running. -/
  calls : Nat
  inFunction : Bool
  skip : Skip
  /-- What to give back after commands that are running. -/
  locals : List Borrowed
  nextOption : Nat × Option Nat
  hashed : List Bytes

/-- A process with nothing but variables, descriptors and a working directory. -/
def Shell.bare (process : Nat) (ancestors : List Nat) (descriptors : List (Nat × Descriptor)) (place : Place)
    (bindings : List (String × Variable)) : Shell where
  process
  ancestors
  mainProcess := process
  bindings
  functions := []
  aliases := []
  documents := []
  nextDocument := 0
  name := []
  parameters := []
  options := []
  status := 0
  innerStatus := 0
  lastChild := none
  children := []
  traps := []
  caught := []
  trapStatus := none
  descriptors
  place
  mask := 18
  line := 0
  textLine := 0
  functionLine := 0
  builtin := none
  loops := 0
  calls := 0
  inFunction := false
  skip := .none
  locals := []
  nextOption := (1, none)
  hashed := []

structure Machine where
  shell : Shell
  world : World

inductive Stop where
  /-- A command could not be done; a message has been written. -/
  | fault
  /-- The shell was told to end with a status. -/
  | exit
  /-- The shell has nothing more to do. -/
  | finished
  | killed (signal : Nat)
  deriving DecidableEq, Repr

abbrev Run := EStateM Stop Machine

def shell : Run Shell := do return (← get).shell

def updateShell (f : Shell → Shell) : Run Unit := modify fun m => { m with shell := f m.shell }

def updateWorld (f : World → World) : Run Unit := modify fun m => { m with world := f m.world }

/-! ## Writing and reading -/

def Shell.descriptor? (sh : Shell) (fd : Nat) : Option Descriptor := sh.descriptors.lookup fd

def Shell.close (sh : Shell) (fd : Nat) : Shell := { sh with descriptors := sh.descriptors.filter (·.1 != fd) }

/-- Lets a descriptor lead to an open stream. -/
def Shell.point (sh : Shell) (fd : Nat) (d : Descriptor) : Shell :=
  { sh.close fd with descriptors := (fd, d) :: (sh.close fd).descriptors }

/-- The stream to read at a descriptor. -/
def source? (fd : Nat) : Run (Option Nat) := do
  return ((← shell).descriptor? fd).bind fun d => if d.reads then some d.stream else none

/-- The stream to write at a descriptor. -/
def target? (fd : Nat) : Run (Option Nat) := do
  return ((← shell).descriptor? fd).bind fun d => if d.writes then some d.stream else none

/-- Writes to a descriptor; false if it cannot be written. -/
def emit (fd : Nat) (s : Bytes) : Run Bool := do
  match ← target? fd with
  | some id =>
    updateWorld (·.write id s)
    return true
  | none => return s.isEmpty

def emitText (fd : Nat) (s : String) : Run Unit := discard (emit fd s.toList)

/-- Everything that is left to read at a descriptor, which is then read. -/
def drain (fd : Nat) : Run (Option Bytes) := do
  match ← source? fd with
  | some id =>
    let all := (← get).world.pending id
    updateWorld (·.leave id [])
    return some all
  | none => return none

/-- Writes a message with the shell's name and the line that it is about. -/
def warn (message : Bytes) : Run Unit := do
  let sh ← shell
  let builtin := match sh.builtin with
    | some name => name ++ ": ".toList
    | none => []
  discard (emit 2 (sh.name ++ ": ".toList ++ digits sh.line ++ ": ".toList ++ builtin ++ message ++ ['\n']))

def setStatus (n : Nat) : Run Unit := updateShell ({ · with status := n })

/-- Gives up a command with a message. -/
def fail (message : Bytes) : Run α := do
  setStatus 2
  warn message
  throw .fault

/-! ## Variables -/

def Shell.lookup? (sh : Shell) (name : String) : Option Variable := sh.bindings.lookup name

def Shell.value? (sh : Shell) (name : String) : Option Bytes := (sh.lookup? name).bind (·.value)

def Shell.put (sh : Shell) (name : String) (v : Variable) : Shell :=
  { sh with bindings := (name, v) :: sh.bindings.filter (·.1 != name) }

/-- Keeps a variable in the last frame. -/
def Shell.keep (sh : Shell) (name : String) : Shell :=
  match sh.locals with
  | frame :: outer =>
    { sh with locals := { frame with bindings := (name, sh.lookup? name) :: frame.bindings } :: outer }
  | [] => sh

/-- Keeps the options in the last frame. -/
def Shell.keepOptions (sh : Shell) : Shell :=
  match sh.locals with
  | frame :: outer => { sh with locals := { frame with options := some (frame.options.getD sh.options) } :: outer }
  | [] => sh

def Shell.hasOption (sh : Shell) (c : Char) : Bool := sh.options.contains c

/-- Gives a variable a value, unless it is fixed. -/
def assign (name : String) (value : Bytes) (exported : Bool) : Run Unit := do
  let sh ← shell
  let old := (sh.lookup? name).getD ⟨none, false, false⟩
  if old.isFixed then fail (name.toList ++ ": is read only".toList)
  updateShell (·.put name { old with value := some value, isExported := old.isExported || exported || sh.hasOption 'a' })
  if name == "OPTIND" then
    match countOf? value with
    | some n => updateShell ({ · with nextOption := (if n = 0 then 1 else n, none) })
    | none => fail ("Illegal number: ".toList ++ value)

/-! ## Children -/

/-- The end of a child in the background is seen when another child is waited for. -/
def seeChildren : Run Unit := updateShell fun sh =>
  { sh with children := sh.children.map ({ · with isNew := false }) }

/-- Runs a child of the shell that starts in another state; the shell is as before. -/
def child (start : Shell → Shell) (body : Run Ending) : Run Ending := fun m =>
  let process := m.world.nextProcess
  let w := { m.world with nextProcess := process + 1 }
  let sh := { m.shell with process, ancestors := m.shell.process :: m.shell.ancestors }
  match body ⟨start sh, w⟩ with
  | .ok e m' => .ok e { m with world := m'.world }
  | .error (.killed n) m' => .ok (.killed n false) { m with world := m'.world }
  | .error _ m' => .ok (.exited m'.shell.status) { m with world := m'.world }

end PlotTypes.Command
