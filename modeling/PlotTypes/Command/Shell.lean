/-
  PlotTypes.Command.Shell — running scripts.

  A command is expanded, its redirections are made, and it is a function, a builtin or a
  program. Subshells, pipelines and substitutions run children of the shell, one after
  another. Commands call each other through `Engine`, whose depth is limited: what goes
  deeper ends like a process that has no stack left.
-/

import PlotTypes.Command.Builtins
import PlotTypes.Command.Cat
import PlotTypes.Command.Echo
import PlotTypes.Command.Tr
import PlotTypes.Command.Wc

namespace PlotTypes.Command

/-- What the context of a command makes of its end. -/
structure Context where
  /-- Its status is asked for, so a failure does not end the shell. -/
  isTested : Bool
  /-- The shell ends with it. -/
  isLast : Bool
  deriving DecidableEq, Repr

def Context.plain : Context := ⟨false, false⟩

def Context.tested : Context := ⟨true, false⟩

/-- The same without the shell's end. -/
def Context.inner (c : Context) : Context := ⟨c.isTested, false⟩

inductive Task where
  | command (c : Option Script) (context : Context)
  | text (s : Bytes) (context : Context)
  /-- A shell with its arguments, in this process. -/
  | shell (args : List Bytes)

/-- Does a task and answers its status. -/
abbrev Engine := Task → Run Nat

/-! ## Ends -/

def attempt (x : Run α) : Run (Except Stop α) := fun m =>
  match x m with
  | .ok a m => .ok (.ok a) m
  | .error s m => .ok (.error s) m

/-- Does `after` in any case. -/
def ensuring (x : Run α) (after : Run Unit) : Run α := do
  let r ← attempt x
  after
  match r with
  | .ok a => return a
  | .error s => throw s

/-- Repeats a step from a status until it answers one. -/
def iterate (step : Nat → Run (Nat ⊕ Nat)) : Nat → Nat → Run Nat
  | 0, status => return status
  | n + 1, status => do
    match ← step status with
    | .inl status => iterate step n status
    | .inr status => return status

/-- More than any loop that ends goes round. -/
def manyTimes : Nat := Nat.pow 10 12

def isSkipping : Run Bool := do return (← shell).skip != .none

namespace Engine

/-- Runs the actions for signals that came. -/
def runTraps (e : Engine) : Run Unit := do
  let sh ← shell
  if sh.caught.isEmpty then return
  let status := sh.trapStatus.getD sh.status
  updateShell ({ · with trapStatus := some status, caught := [] })
  for n in sh.caught.eraseDups.mergeSort (· ≤ ·) do
    if ← isSkipping then updateShell fun sh => { sh with caught := sh.caught ++ [n] }
    else if let some action := sh.traps.lookup n then
      discard (e (.text action .plain))
      if (← shell).skip != .return_ then setStatus status
  updateShell ({ · with trapStatus := sh.trapStatus })

/-- The end of a process whose work has stopped; an action may wait for it. -/
def close (e : Engine) (r : Except Stop Nat) : Run Ending := do
  if let .error (.killed n) := r then return .killed n false
  let sh ← shell
  if let some action := sh.traps.lookup 0 then
    updateShell fun sh => { sh with
      traps := sh.traps.filter (·.1 != 0), skip := .none, trapStatus := some sh.status, builtin := none }
    match ← attempt (e (.text action .plain)) with
    | .ok _ => setStatus sh.status
    | .error (.killed n) => return .killed n false
    | .error _ => pure ()
  return .exited ((← shell).status % 256)

def process (e : Engine) (body : Run Nat) : Run Ending := do e.close (← attempt body)

/-- What a subshell keeps of the shell. -/
def forked (sh : Shell) : Shell :=
  { sh with traps := sh.traps.filter (·.2.isEmpty), caught := [], children := [], trapStatus := none, textLine := 1 }

/-- The status of a child that has ended. -/
def report (ending : Ending) : Run Nat := do
  Builtin.receiveSent
  seeChildren
  Builtin.tellEnding ending
  return ending.status

/-- Runs commands in a subshell that starts in another state. -/
def subshell (e : Engine) (start : Shell → Shell) (c : Option Script) (context : Context) : Run Ending :=
  child (fun sh => start (forked sh)) (e.process (e (.command c { context with isLast := true })))

/-- What commands write in a subshell. -/
def capture (e : Engine) : Capture := fun body => do
  if body.isNone then return []
  let (id, w) := (← get).world.add (.pipe [] [])
  updateWorld fun _ => w
  let ending ← e.subshell (·.point 1 ⟨id, false, true⟩) body .plain
  let output := (← get).world.pending id
  let status ← report ending
  updateShell ({ · with innerStatus := status })
  return output

/-! ## Redirections -/

/-- A redirection whose words are expanded. -/
inductive Action where
  | file (fd : Nat) (mode : Opening) (name : Bytes)
  | duplicate (fd source : Nat)
  | close (fd : Nat)
  | document (fd : Nat) (text : Bytes)

def descriptorOf (s : Bytes) : Run (Option Nat) :=
  match s with
  | ['-'] => return none
  | [c] => if c.isDigit then return some (c.toNat - '0'.toNat) else refused
  | _ => refused
where
  refused : Run (Option Nat) := do
    updateShell fun sh => { sh with line := sh.textLine }
    fail "Syntax error: Bad fd number".toList

def actionOf (e : Engine) : Redirect → Run Action
  | .file fd mode name => do return .file fd mode (← expandText e.capture .single name)
  | .duplicate fd source => do
    match ← descriptorOf (← expandText e.capture .single source) with
    | some n => return .duplicate fd n
    | none => return .close fd
  | .document fd number isExpanded => do
    let text := ((← shell).documents.lookup number).getD []
    return .document fd (← if isExpanded then expandText e.capture .document text else pure (unquoted text))

/-- A fault as the shell tells it. -/
def faultText (isMade : Bool) (f : Files.Fault) : String :=
  match f with
  | .notFound | .notDirectory => if isMade then "Directory nonexistent" else "No such file"
  | f => (f.message.takeWhile (· != '(')).trimAsciiEnd.toString

/-- The descriptor that a name leads to. -/
def descriptorNamed? (name : Bytes) : Option Nat :=
  match String.ofList name with
  | "/dev/stdin" => some 0
  | "/dev/stdout" => some 1
  | "/dev/stderr" => some 2
  | name => (["/dev/fd/", "/proc/self/fd/"].find? (name.startsWith ·)).bind fun d => (name.drop d.length).toNat?

def addStream (s : Stream) : Run Nat := do
  let (id, w) := (← get).world.add s
  updateWorld fun _ => w
  return id

/-- Opens what is at a path. -/
def openPath (mode : Opening) (path : Path) : Run (Except Files.Fault Descriptor) := do
  let fs ← Builtin.filesHere
  let opened (s : Stream) : Run (Except Files.Fault Descriptor) := do
    return .ok ⟨← addStream s, mode == .read || mode == .both, mode != .read⟩
  match fs.find path, fs.locate path, mode with
  | .ok .device, _, _ => opened .device
  | .ok .directory, _, .read => opened .directory
  | .ok _, .ok place, .read => opened (.file place 0 false)
  | .error f, _, .read => return .error f
  | _, .error f, _ => return .error f
  | found, .ok place, _ =>
    let isThere := found.toOption.isSome
    if mode == .write && (← shell).hasOption 'C' && isThere then return .error .alreadyExists
    let isKept := isThere && (mode == .append || mode == .both) && found.toOption != some .directory
    match if isKept then .ok fs else fs.writeText path "" with
    | .error f => return .error f
    | .ok after =>
      updateWorld fun w => { w with files := { after with current := w.files.current } }
      opened (.file place 0 (mode == .append))

/-- Opens a file by its name, which may lead to an open descriptor. A file behind one is
    opened again. -/
def openFile (mode : Opening) (name : Bytes) : Run (Except Bytes Descriptor) := do
  let sh ← shell
  let found ← match descriptorNamed? name with
    | none => openPath mode ⟨textOfBytes name⟩
    | some fd =>
      match sh.descriptor? fd with
      | none => pure (.error .notFound)
      | some d =>
        match (← get).world.streams[d.stream]? with
        | some (.file place ..) => openPath mode ⟨Places.pathOf place⟩
        | _ => pure (.ok { d with reads := mode == .read || mode == .both, writes := mode != .read })
  let isMade := mode != .read
  return found.mapError fun f =>
    (if isMade then "cannot create " else "cannot open ").toList ++ name ++ ": ".toList ++ (faultText isMade f).toList

/-- Makes a redirection; what keeps it from being made is a message. One that is undone
    later has its descriptor closed while it is made. -/
def perform (isUndone : Bool) : Action → Run (Except Bytes Unit)
  | .file fd mode name => do
    match ← openFile mode name with
    | .ok d =>
      updateShell (·.point fd d)
      return .ok ()
    | .error message => return .error message
  | .duplicate fd source => do
    if fd == source then return .ok ()
    match (← shell).descriptor? source with
    | some d =>
      updateShell (·.point fd d)
      return .ok ()
    | none =>
      if isUndone then updateShell (·.close fd)
      return .error (digits source ++ ": Bad file descriptor".toList)
  | .close fd => do
    updateShell (·.close fd)
    return .ok ()
  | .document fd text => do
    let id ← addStream (.pipe text [])
    updateShell (·.point fd ⟨id, true, false⟩)
    return .ok ()

/-- Makes redirections in order; false after the first that cannot be made, which is told. -/
def performAll (isUndone : Bool) : List Action → Run Bool
  | [] => return true
  | a :: r => do
    match ← perform isUndone a with
    | .ok () => performAll isUndone r
    | .error message =>
      warn message
      setStatus 2
      return false

/-- Does something with redirections, which are undone; none if they cannot be made. -/
def redirected (e : Engine) (rs : List Redirect) (body : Run Nat) : Run (Option Nat) := do
  let actions ← rs.mapM e.actionOf
  let before := (← shell).descriptors
  ensuring (do if ← performAll true actions then some <$> body else return none)
    (updateShell ({ · with descriptors := before }))

/-! ## Programs -/

/-- What a name leads to. -/
inductive Found where
  | function (line : Nat) (body : Script)
  | builtin (name : String)
  | program (path : Bytes)
  | missing (reason : String)

/-- Looks for a program in the directories of the search path. -/
def search (name : Bytes) : Run Found := do
  let dirs := Text.pieces (· == ':') (((← shell).value? "PATH").getD [])
  let fs ← Builtin.filesHere
  let paths := dirs.map fun d => if d.isEmpty then name else d ++ '/' :: name
  let mut reason := "not found"
  for path in paths do
    match fs.find ⟨textOfBytes path⟩ with
    | .ok .program => return .program path
    | .ok _ => reason := "Permission denied"
    | .error .nameTooLong => reason := "File name too long"
    | .error _ => pure ()
  return .missing reason

def find (name : Bytes) (withFunctions : Bool) : Run Found := do
  if name.contains '/' then return .program name
  let key := String.ofList name
  let sh ← shell
  match if withFunctions then sh.functions.lookup key else none with
  | some (line, body) => return .function line body
  | none => if Builtin.isBuiltin key then return .builtin key else search name

/-- Programs by name. The shell is another one. -/
def programs : List (String × Program) :=
  [("cat", Cat.program), ("tr", Tr.program), ("wc", Wc.program),
    ("true", fun g => ⟨[], 0, g.input.pending⟩), ("false", fun g => ⟨[], 1, g.input.pending⟩),
    ("sleep", fun g => ⟨[], 0, g.input.pending⟩),
    ("echo", Echo.program)]

def shellNames : List String := ["sh", "dash"]

def readableFile (fs : Files) (name : Bytes) : Except String (Bytes × Bool) :=
  match fs.find ⟨textOfBytes name⟩ with
  | .ok (.file content) => .ok (bytesOfOctets content, true)
  | .ok .program => .ok ([], true)
  | .ok .device => .ok ([], false)
  | .ok .directory => .error isDirectory
  | .error .notFound => .error noSuchFile
  | .error f => .error (f.message.takeWhile (· != '(')).trimAsciiEnd.toString

/-- What a program finds at the input. -/
def inputOf (m : Machine) : Input :=
  match m.shell.descriptor? 0 with
  | none => .closed
  | some d =>
    if !d.reads then .unreadable badDescriptor
    else
      match m.world.streams[d.stream]? with
      | some .directory => .unreadable isDirectory
      | some (.file place ..) => .bytes (m.world.pending d.stream) (some (m.world.content place).length)
      | _ => .bytes (m.world.pending d.stream) none

/-- What a program finds at a path. A file behind a descriptor is read from its start. -/
def contentNamed (m : Machine) (name : Bytes) : Except String (Bytes × Bool) :=
  match descriptorNamed? name with
  | some fd =>
    match m.shell.descriptor? fd with
    | some d =>
      match m.world.streams[d.stream]? with
      | some (.file place ..) => .ok (bytesOfOctets (m.world.content place), true)
      | some .directory => .error isDirectory
      | _ => .ok (m.world.pending d.stream, false)
    | none => .error noSuchFile
  | none => readableFile { m.world.files with current := m.shell.place } name

/-- A file that is also the output, where more of it would only be written behind it. -/
def isOutputToo (m : Machine) (place : Place) (position : Nat) : Bool :=
  match (m.shell.descriptor? 1).bind fun d => m.world.streams[d.stream]? with
  | some (.file other at_ appends) =>
    place == other && position < if appends then (m.world.content other).length else at_
  | _ => false

/-- What `cat` finds, which does not put a file behind itself. -/
def withoutOutput (m : Machine) (g : Given) : Given :=
  let refusal := "input file is output file"
  { g with
    input := match (m.shell.descriptor? 0).bind fun d => m.world.streams[d.stream]? with
      | some (.file place position _) => if isOutputToo m place position then .unreadable refusal else g.input
      | _ => g.input
    file := fun name =>
      match { m.world.files with current := m.shell.place : Files }.locate ⟨textOfBytes name⟩ with
      | .ok place => if isOutputToo m place 0 then .error refusal else g.file name
      | .error _ => g.file name }

/-- Runs a program in this process. Where it cannot write, it may have read its input. -/
def runProgram (name : String) (p : Program) (args : List Bytes) : Run Nat := do
  let m ← get
  let isCat := name == "cat"
  let g : Given := ⟨args, inputOf m, contentNamed m⟩
  let r := p (if isCat then withoutOutput m g else g)
  let isStopped := (← target? 1).isNone && (isCat || r.written.any fun (isOutput, s) => isOutput && !s.isEmpty)
  if !(isStopped && isCat) then
    if let some id := ← source? 0 then updateWorld (·.leave id r.rest)
    for (isOutput, s) in r.written do
      discard (emit (if isOutput then 1 else 2) s)
  if isStopped then
    let what := if isCat then "standard output" else "write error"
    emitText 2 (name ++ ": " ++ what ++ ": " ++ badDescriptor ++ "\n")
  let status := if isStopped then 1 else r.status
  setStatus status
  return status

/-- Turns this process into a program at a path. -/
def become (e : Engine) (path : Bytes) (args : List Bytes) : Run Nat := do
  let shown := args.headD path
  let refuse (reason : String) (status : Nat) : Run Nat := do
    setStatus status
    warn (shown ++ ": ".toList ++ reason.toList)
    throw .finished
  match (← Builtin.filesHere).find ⟨textOfBytes path⟩, (Path.mk (textOfBytes path)).parts.getLast? with
  | .ok .program, some (.name name) =>
    if shellNames.contains name then e (.shell args)
    else
      match programs.lookup name with
      | some p => runProgram name p (args.drop 1)
      | none => refuse "not found" 127
  | .ok _, _ => refuse "Permission denied" 126
  | .error .notFound, _ | .error .notDirectory, _ => refuse "not found" 127
  | .error f, _ => refuse (faultText false f) 127

/-- Ends this shell with a program in its place. -/
def replace (e : Engine) (path : Bytes) (args : List Bytes) : Run Nat := do
  let status ← e.become path args
  updateShell ({ · with traps := [], status })
  throw .finished

/-! ## Builtins with rules -/

/-- What a name is, in words or for the shell to read; none if it is nothing. -/
def describe (inWords : Bool) (name : Bytes) : Run (Option Bytes) := do
  let said (words : String) (short : Bytes) : Option Bytes :=
    some (if inWords then name ++ ' ' :: words.toList ++ ['\n'] else short ++ ['\n'])
  let key := String.ofList name
  let sh ← shell
  if Reserved.all.any (·.2 == key) then return said "is a shell keyword" name
  if let some value := sh.aliases.lookup key then
    return if inWords then some (name ++ " is an alias for ".toList ++ value ++ ['\n'])
      else some ("alias ".toList ++ Builtin.aliasLine key value)
  match ← find name true with
  | .function .. => return said "is a shell function" name
  | .builtin b =>
    return said (if Rules.specialBuiltins.contains b then "is a special shell builtin" else "is a shell builtin") name
  | .program path =>
    if name.contains '/' && (((← Builtin.filesHere).find ⟨textOfBytes name⟩).toOption).isNone then return none
    let tracked := if sh.hashed.contains name && !name.contains '/' then " is a tracked alias for " else " is "
    return some (if inWords then name ++ tracked.toList ++ path ++ ['\n'] else path ++ ['\n'])
  | .missing _ => return none

def type : Builtin := fun args => do
  let mut status := 0
  for name in args do
    match ← describe true name with
    | some text => discard (Builtin.print text)
    | none =>
      discard (Builtin.print (name ++ ": not found\n".toList))
      status := 127
  return status

def eval (e : Engine) (context : Context) : Builtin := fun args => do
  if args.isEmpty then return 0
  e (.text (List.intercalate [' '] args) context.inner)

/-- Runs the commands of a file in this shell. -/
def source (e : Engine) : Builtin := fun args => do
  let (_, args) ← Builtin.letters [] [] [] args
  match args with
  | [] => return 0
  | name :: _ =>
    let path ← if name.contains '/' then pure name
      else do
        match ((← shell).value? "PATH").map (Text.pieces (· == ':')) with
        | some dirs =>
          let fs ← Builtin.filesHere
          let found := (dirs.map fun d => if d.isEmpty then name else d ++ '/' :: name).find? fun p =>
            match fs.find ⟨textOfBytes p⟩ with
            | .ok (.file _) => true
            | _ => false
          match found with
          | some p => pure p
          | none => fail (name ++ ": not found".toList)
        | none => fail (name ++ ": not found".toList)
    match readableFile (← Builtin.filesHere) path with
    | .error reason =>
      if reason == isDirectory then return 0
      fail ("cannot open ".toList ++ path ++ ": No such file".toList)
    | .ok (text, _) =>
      updateShell ({ · with builtin := some path })
      let status ← e (.text text .plain)
      updateShell fun sh => { sh with skip := if sh.skip == .return_ then .none else sh.skip }
      return status

def exec (e : Engine) : Builtin := fun args => do
  match args with
  | [] => return 0
  | name :: _ =>
    let found ← if name.contains '/' then pure (Found.program name) else search name
    match found with
    | .program path => e.replace path args
    | .missing reason =>
      setStatus (if reason == "Permission denied" then 126 else 127)
      warn (name ++ ": ".toList ++ reason.toList)
      throw .finished
    | _ => return 0

/-- Programs that were found before. -/
def hash : Builtin := fun args => do
  let (given, names) ← Builtin.letters ['r'] [] [] args
  if !given.isEmpty then updateShell ({ · with hashed := [] })
  if names.isEmpty then
    for name in (← shell).hashed.eraseDups do
      if let .program path := ← search name then discard (Builtin.print (path ++ ['\n']))
    return 0
  let mut status := 0
  for name in names do
    match ← find name true with
    | .program _ => updateShell fun sh => { sh with hashed := name :: sh.hashed }
    | .missing _ =>
      warn (name ++ ": not found".toList)
      status := 1
    | _ => pure ()
  return status

/-- `command` with its options: the names are described. -/
def describeAll : Builtin := fun args => do
  let (given, names) ← Builtin.letters ['p', 'v', 'V'] [] [] args
  match names, given.getLast? with
  | name :: _, some (c, _) =>
    match ← describe (c == 'V') name with
    | some text => Builtin.print text
    | none =>
      if c == 'V' then discard (Builtin.print (name ++ ": not found\n".toList))
      return 127
  | _, _ => return 0

def builtin (e : Engine) (context : Context) (name : String) : Builtin :=
  match name with
  | "eval" => e.eval context
  | "." => e.source
  | "exec" => e.exec
  | "type" => type
  | "hash" => hash
  | "command" => describeAll
  | name => (Builtin.simpleBuiltins.lookup name).getD fun _ => return 127

/-- Runs a builtin; what it could not do ends the shell if it is a special one. -/
def callBuiltin (e : Engine) (context : Context) (name : String) (isSpecial : Bool) (args : List Bytes) : Run Nat := do
  let outer := (← shell).builtin
  updateShell ({ · with builtin := some name.toList })
  let r ← attempt (e.builtin context name args)
  updateShell ({ · with builtin := outer })
  match r with
  | .ok status => return status
  | .error .fault => if isSpecial then throw .fault else return (← shell).status
  | .error s => throw s

/-- How deep functions may call each other. -/
def maxCalls : Nat := 1000

def callFunction (e : Engine) (context : Context) (line : Nat) (body : Script) (args : List Bytes) : Run Nat := do
  let outer ← shell
  if outer.calls ≥ maxCalls then fail s!"Maximum function recursion depth ({maxCalls}) reached".toList
  updateShell ({ · with
    calls := outer.calls + 1,
    parameters := args, nextOption := (1, none), functionLine := line, loops := 0, inFunction := true })
  ensuring (e (.command (some body) context.inner)) (updateShell fun sh => { sh with
    parameters := outer.parameters, nextOption := outer.nextOption, functionLine := outer.functionLine
    calls := outer.calls, loops := outer.loops, inFunction := outer.inFunction
    skip := if sh.skip == .return_ then .none else sh.skip })

/-! ## Simple commands -/

/-- The fields of the first words that give any, and the words after them. -/
def firstFields (e : Engine) : List Word → Run (List Bytes × List Word)
  | [] => return ([], [])
  | w :: r => do
    match ← expandFields e.capture w with
    | [] => firstFields e r
    | fs => return (fs, r)

/-- What a command is: its target, whether it is a special builtin, and its fields. -/
structure Resolved where
  target : Option Found
  isSpecial : Bool
  /-- It was named by `command`. -/
  isPlain : Bool
  fields : List Bytes

/-- An assignment among the words, of which only the value is expanded. -/
def assignmentText (e : Engine) (w : Word) : Run Bytes := do
  let name := unquoted (w.takeWhile fun
    | .char c _ => c != '='
    | _ => false)
  return name ++ '=' :: (← expandText e.capture .assigned (w.drop (name.length + 1)))

def restFields (e : Engine) (areAssigned : Bool) : List Word → Run (List Bytes)
  | [] => return []
  | w :: r => do
    let here ← if areAssigned && Rules.isAssignment w then do pure [← e.assignmentText w]
      else expandFields e.capture w
    return here ++ (← restFields e areAssigned r)

/-- Goes past `command`: whatever it names is no function, and special no more. -/
def resolve (e : Engine) (fields : List Bytes) (words : List Word) (isPlain : Bool) : Nat → Run Resolved
  | 0 => return ⟨none, false, isPlain, fields⟩
  | n + 1 => do
    match fields with
    | [] => return ⟨none, false, isPlain, []⟩
    | name :: more =>
      let found ← find name !isPlain
      let isCommand := match found with
        | .builtin "command" => true
        | _ => false
      let all (areAssigned : Bool) : Run (List Bytes) := do return fields ++ (← e.restFields areAssigned words)
      if !isCommand then
        match found with
        | .builtin b =>
          return ⟨some found, !isPlain && Rules.specialBuiltins.contains b, isPlain, ← all (Builtin.isAssigning b)⟩
        | _ => return ⟨some found, false, isPlain, ← all false⟩
      else
        let (given, words) ← if more.isEmpty then e.firstFields words else pure (more, words)
        match given with
        | [] => return ⟨some found, false, isPlain, [name]⟩
        | ['-', '-'] :: r | ['-', 'p'] :: r =>
          let (given, words) ← if r.isEmpty then e.firstFields words else pure (r, words)
          if given.isEmpty then return ⟨some found, false, isPlain, [name]⟩
          e.resolve given words true n
        | ('-' :: _ :: _) :: _ => return ⟨some found, false, isPlain, name :: given ++ (← e.restFields false words)⟩
        | given => e.resolve given words true n

/-- Assigns before a command: for it alone, or for good. -/
def assignAll (e : Engine) (isLocal isExported : Bool) : List Word → Run (List Bytes)
  | [] => return []
  | w :: r => do
    let text ← e.assignmentText w
    let (name, value) := Builtin.splitAssignment text
    let key := String.ofList name
    if isLocal then
      updateShell (·.keep key)
    assign key (value.getD []) (isLocal || isExported)
    return text :: (← e.assignAll isLocal isExported r)

/-- Gives back what is in the last frame. -/
def popLocals : Run Unit := updateShell fun sh =>
  match sh.locals with
  | frame :: outer =>
    let bindings := frame.bindings.foldl (fun vs (name, old) =>
      let others := vs.filter (·.1 != name)
      match old with
      | some v => (name, v) :: others
      | none => others) sh.bindings
    { sh with bindings, locals := outer, options := frame.options.getD sh.options }
  | [] => sh

/-- The reader's state at the start of a text. -/
def readerOf (s : Bytes) : Reader :=
  ⟨[⟨s, [], false⟩], 1, [], [], .newline, [], false, .none, [], [], 0, false⟩

/-- A text with what its parameters, sums and commands stand for. -/
def expandedText (e : Engine) (s : Bytes) : Run Bytes :=
  match readWhole.run (readerOf s) with
  | .ok w _ => expandText e.capture .document w
  | .error .. => return s

/-- Shows a command that is about to run. -/
def trace (e : Engine) (id? : Option Nat) (texts : List Bytes) : Run Unit := do
  let sh ← shell
  if sh.hasOption 'x' then
    if let some id := id? then
      let lead ← e.expandedText ((sh.value? "PS4").getD [])
      updateWorld (·.write id (lead ++ List.intercalate [' '] texts ++ ['\n']))

def hasActions : Run Bool := do return (← shell).traps.any fun (_, action) => !action.isEmpty

/-- Runs a program in a child, or in place of a shell that has nothing else to do. -/
def runExternal (e : Engine) (context : Context) (path : Bytes) (args : List Bytes) : Run Nat := do
  if !path.isEmpty && !args.isEmpty then
    updateShell fun sh => { sh with hashed := (args.headD []) :: sh.hashed }
  if context.isLast && !(← hasActions) then e.replace path args
  else
    report (← child forked (e.process (e.become path args)))

def dispatch (e : Engine) (context : Context) (r : Resolved) : Run Nat := do
  match r.target, r.fields with
  | some (.function line body), _ :: args => e.callFunction context line body args
  | some (.builtin name), _ :: args => e.callBuiltin context name r.isSpecial args
  | some (.program path), fields => e.runExternal context path fields
  | some (.missing reason), name :: _ =>
    warn (name ++ ": ".toList ++ reason.toList)
    return 127
  | _, _ => return (← shell).innerStatus

/-- A program is searched for after the assignments, which may be to the search path. -/
def searchedAgain (r : Resolved) : Run Resolved := do
  match r.target, r.fields with
  | some (.program _), name :: _ | some (.missing _), name :: _ =>
    if name.contains '/' then return r else return { r with target := some (← search name) }
  | _, _ => return r

def isExec (r : Resolved) : Bool :=
  match r.target with
  | some (.builtin "exec") => true
  | _ => false

def simple (e : Engine) (context : Context) (line : Nat) (assigned words : List Word) (redirects : List Redirect) :
    Run Nat := do
  updateShell ({ · with line, innerStatus := 0 })
  let (fields, rest) ← e.firstFields words
  let r ← e.resolve fields rest false (words.length + 2)
  let isLocal := r.target.isSome && !r.isSpecial
  let frames := (← shell).locals.length
  if isLocal then updateShell fun sh => { sh with locals := .empty :: sh.locals }
  let before := (← shell).descriptors
  let keeps := isExec r
  let shown ← target? 2
  let body : Run Nat := do
    let actions ← redirects.mapM e.actionOf
    if !(← performAll true actions) then
      if r.isSpecial then throw .fault
      updateShell ({ · with descriptors := before })
      return 2
    let texts ← e.assignAll isLocal (keeps && r.fields.length > 1) assigned
    let r ← searchedAgain r
    if !(texts.isEmpty && r.fields.isEmpty) then e.trace shown (texts ++ r.fields)
    let status ← e.dispatch context r
    if !keeps then updateShell ({ · with descriptors := before })
    return status
  let done ← attempt body
  if done.toOption.isNone then updateShell ({ · with descriptors := before })
  for _ in List.range ((← shell).locals.length - frames) do
    popLocals
  match done with
  | .ok status => return status
  | .error s => throw s

/-! ## Compound commands -/

/-- What a loop does about commands to be left out: none, the next round, or its end. -/
inductive Turn where
  | go
  | again
  | leave
  deriving DecidableEq, Repr

/-- One loop less is to be left. -/
def takeSkip : Run Turn := do
  match (← shell).skip with
  | .none => return .go
  | .return_ => return .leave
  | .break_ n =>
    updateShell ({ · with skip := if n ≤ 1 then .none else .break_ (n - 1) })
    return .leave
  | .continue_ n =>
    updateShell ({ · with skip := if n ≤ 1 then .none else .continue_ (n - 1) })
    return if n ≤ 1 then .again else .leave

def inLoop (body : Run Nat) : Run Nat := do
  updateShell fun sh => { sh with loops := sh.loops + 1 }
  ensuring body (updateShell fun sh => { sh with loops := sh.loops - 1 })

def loop (e : Engine) (context : Context) (until_ : Bool) (test body : Option Script) : Run Nat :=
  inLoop (iterate (fun last => do
    let status ← e (.command test .tested)
    match ← takeSkip with
    | .leave => return .inr (if (← shell).skip == .return_ then status else last)
    | .again => return .inl last
    | .go =>
      if (status == 0) == until_ then return .inr last
      let last ← e (.command body context.inner)
      return if (← takeSkip) == .leave then .inr last else .inl last) manyTimes 0)

def eachField (e : Engine) (context : Context) (name : String) (body : Option Script) (status : Nat) :
    List Bytes → Run Nat
  | [] => return status
  | field :: r => do
    assign name field false
    let status ← e (.command body context.inner)
    if (← takeSkip) == .leave then return status
    eachField e context name body status r

def covers (e : Engine) (text : Bytes) : List Word → Run Bool
  | [] => return false
  | w :: r => do
    if (← expandPattern e.capture w).covers text then return true
    covers e text r

def clause (e : Engine) (context : Context) (text : Bytes) : List (List Word × Option Script) → Run Nat
  | [] => return 0
  | (patterns, body) :: r => do
    if ← e.covers text patterns then
      if body.isNone then return 0
      return ← e (.command body context)
    clause e context text r

def background (e : Engine) (body : Run Ending) : Run Nat := do
  let process := (← get).world.nextProcess
  let ending ← body
  Builtin.receiveSent
  updateShell fun sh => { sh with
    lastChild := some process, children := ⟨process, ending, true⟩ :: sh.children }
  let _ := e
  return 0

/-- Runs the parts of a pipeline from the first to the last. -/
def parts (e : Engine) (context : Context) (input : Option Nat) : List Script → Run (List Ending)
  | [] => return []
  | c :: r => do
    let output ← if r.isEmpty then pure none else do pure (some (← addStream (.pipe [] [])))
    let start (sh : Shell) : Shell :=
      let sh := match input with
        | some id => sh.point 0 ⟨id, true, false⟩
        | none => sh
      match output with
      | some id => sh.point 1 ⟨id, false, true⟩
      | none => sh
    let ending ← e.subshell start (some c) context
    return ending :: (← parts e context output r)

/-- Runs a command and answers whether its failure may end the shell. -/
def command (e : Engine) (context : Context) (c : Script) : Run Bool := do
  let finish (status : Nat) (mayEnd : Bool) : Run Bool := do
    setStatus status
    return mayEnd
  match c with
  | .simple line assigned words redirects => finish (← e.simple context line assigned words redirects) true
  | .not body => do
    let status ← e (.command (some body) .tested)
    finish (if ← isSkipping then status else if status == 0 then 1 else 0) false
  | .redirected line body redirects => do
    updateShell ({ · with line })
    match ← e.redirected redirects (e (.command (some body) context.inner)) with
    | some status => finish status false
    | none => finish 2 true
  | .both a b => do
    discard (e (.command (some a) context.inner))
    if ← isSkipping then return false
    finish (← e (.command (some b) context)) false
  | .ifTrue a b => do
    let status ← e (.command (some a) .tested)
    if status != 0 || (← isSkipping) then return false
    finish (← e (.command (some b) context)) false
  | .ifFalse a b => do
    let status ← e (.command (some a) .tested)
    if status == 0 || (← isSkipping) then return false
    finish (← e (.command (some b) context)) false
  | .choose test yes no => do
    let status ← e (.command test .tested)
    if ← isSkipping then return false
    if status == 0 then finish (← e (.command yes context)) false
    else if no.isSome then finish (← e (.command no context)) false
    else finish 0 false
  | .loop until_ test body => do finish (← e.loop context until_ test body) false
  | .each line name words body => do
    updateShell ({ · with line })
    let fields ← expandAll e.capture words
    finish (← inLoop (e.eachField context name body 0 fields)) false
  | .select line word clauses => do
    updateShell ({ · with line })
    let text ← expandText e.capture .single word
    finish (← e.clause context text clauses) false
  | .define line name body => do
    updateShell fun sh => { sh with functions := (name, (line, body)) :: sh.functions.filter (·.1 != name) }
    finish 0 false
  | .subshell line body redirects => do
    updateShell ({ · with line })
    let actions ← redirects.mapM e.actionOf
    let work : Run Nat := do
      if !(← performAll false actions) then throw .fault
      e (.command body { context with isLast := true })
    if context.isLast && !(← hasActions) then finish (← work) true
    else finish (← report (← child forked (e.process work))) true
  | .inBackground body redirects => do
    let actions ← redirects.mapM e.actionOf
    let work : Run Nat := do
      let id ← addStream .device
      updateShell (·.point 0 ⟨id, true, false⟩)
      if !(← performAll false actions) then throw .fault
      e (.command (some body) ⟨false, true⟩)
    finish (← e.background (child forked (e.process work))) true
  | .pipeline true cs => do
    let id ← addStream .device
    finish (← e.background do return ((← e.parts context (some id) cs).getLast?).getD (.exited 0)) true
  | .pipeline false cs => do
    let endings ← e.parts context none cs
    let statuses ← endings.mapM report
    finish (statuses.getLastD 0) true

/-! ## Tasks -/

def runCommand (e : Engine) (c : Option Script) (context : Context) : Run Nat := do
  let mayEnd ← match c with
    | none => pure false
    | some c => do
      if (← shell).hasOption 'n' then pure false
      else
        e.runTraps
        e.command context c
  e.runTraps
  let sh ← shell
  if context.isLast || (sh.hasOption 'e' && !context.isTested && mayEnd && sh.status != 0) then throw .finished
  return sh.status

def isAtEnd (r : Reader) : Bool :=
  match r.isPushed, r.last with
  | true, .eof => true
  | _, _ => false

/-- Reads and runs the commands of a text. -/
def runText (e : Engine) (context : Context) (status : Nat) : Nat → Reader → Run Nat
  | 0, _ => return status
  | n + 1, reader => do
    let sh ← shell
    let reader := { reader with aliases := sh.aliases, nextDocument := sh.nextDocument, documents := [] }
    match readCommand.run reader with
    | .error fault _ =>
      updateShell ({ · with line := fault.line })
      fail ("Syntax error: ".toList ++ fault.message.toList)
    | .ok c reader =>
      if reader.ended then return status
      updateShell fun sh => { sh with
        documents := reader.documents ++ sh.documents, nextDocument := reader.nextDocument, textLine := reader.line }
      let last ← e (.command c { context with isLast := context.isLast && isAtEnd reader })
      let status := if c.isSome then last else status
      if ← isSkipping then return status
      runText e context status n reader

/-- A new shell in this process. -/
def freshShell (sh : Shell) (name : Bytes) : Shell :=
  let own := [("PPID", digits (sh.ancestors.headD (sh.process - 1))), ("IFS", blankSeparators), ("OPTIND", ['1']), ("PS1", ['#', ' ']), ("PS2", ['>', ' ']), ("PS4", ['+', ' '])]
  let given := sh.bindings.filter fun (n, v) => v.isExported && v.value.isSome && n != "IFS" && n != "OPTIND"
  let bindings := given ++ own.map fun (n, value) => (n, ⟨some value, false, false⟩)
  { Shell.bare sh.process sh.ancestors sh.descriptors sh.place bindings with name, traps := sh.traps.filter (·.2.isEmpty) }

def runShell (e : Engine) (args : List Bytes) : Run Nat := do
  updateShell (freshShell · (args.headD []))
  let (operands?, hasScript) ← Builtin.readOptions true false args.length (args.drop 1)
  let operands := operands?.getD []
  let readInput : Run Nat := do
    updateShell (Builtin.turn · 's' true)
    e (.text ((← drain 0).getD []) .plain)
  let named (r : List Bytes) : Run Unit := do
    if let name :: parameters := r then updateShell ({ · with name, parameters })
  if hasScript then
    match operands with
    | [] => fail "-c requires an argument".toList
    | script :: r =>
      named r
      let readsOn := (← shell).hasOption 's'
      let status ← e (.text script ⟨false, !readsOn⟩)
      if readsOn then readInput else return status
  else
    match operands with
    | [] => readInput
    | file :: r =>
      if (← shell).hasOption 's' then
        updateShell ({ · with parameters := operands })
        readInput
      else
        match readableFile (← Builtin.filesHere) file with
        | .error reason =>
          let reason := if reason == noSuchFile then "No such file" else reason
          fail ("cannot open ".toList ++ file ++ ": ".toList ++ reason.toList)
        | .ok (text, _) =>
          named (file :: r)
          e (.text text .plain)

/-- The engine whose tasks go at most so deep. -/
def within : Nat → Engine
  | 0, _ => throw (.killed 11)
  | n + 1, .command c context => runCommand (within n) c context
  | n + 1, .text s context => do
    let line := (← shell).textLine
    ensuring (runText (within n) context 0 (s.length + 2) (readerOf s)) (updateShell ({ · with textLine := line }))
  | n + 1, .shell args => do
    match ← process (within n) (runShell (within n) args) with
    | .exited status => return status
    | .killed signal _ => throw (.killed signal)

end Engine

end PlotTypes.Command
