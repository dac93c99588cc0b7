/-
  PlotTypes.Command.Builtins — commands that the shell runs itself.

  Each one takes its arguments and answers its status. One that cannot go on gives up with
  a message; the shell decides what that ends.
-/

import PlotTypes.Command.Condition
import PlotTypes.Command.Expansion
import PlotTypes.Command.Grammar
import PlotTypes.Command.Printf

namespace PlotTypes.Command

abbrev Builtin := List Bytes → Run Nat

namespace Builtin

/-! ## Arguments -/

/-- A number without a sign. -/
def countOf (s : Bytes) : Run Nat :=
  match countOf? s with
  | some n => return n
  | none => fail ("Illegal number: ".toList ++ s)

/-- Letters in front of the operands; those in `valued` take what follows as their value. -/
def letters (allowed valued : List Char) (done : List (Char × Bytes)) : List Bytes → Run (List (Char × Bytes) × List Bytes)
  | [] => return (done, [])
  | ['-', '-'] :: r => return (done, r)
  | ('-' :: c :: cs) :: r => do
    let rec go (done : List (Char × Bytes)) : Bytes → Run (List (Char × Bytes) × Option Char)
      | [] => return (done, none)
      | c :: cs => do
        if valued.contains c then
          if cs.isEmpty then return (done, some c) else return (done ++ [(c, cs)], none)
        else if allowed.contains c then go (done ++ [(c, [])]) cs
        else fail ("Illegal option -".toList ++ [c])
    let (done, waiting) ← go done (c :: cs)
    match waiting, r with
    | none, r => letters allowed valued done r
    | some c, value :: r => letters allowed valued (done ++ [(c, value)]) r
    | some c, [] => fail ("No arg for -".toList ++ [c] ++ " option".toList)
  | r => return (done, r)

/-- A text in single quotes for the shell to read. -/
def singleQuotes (s : Bytes) : Bytes := '\'' :: (s.flatMap fun c => if c == '\'' then "'\"'\"'".toList else [c]) ++ ['\'']

/-- Writes the output of a builtin; its status is 1 if it cannot. -/
def print (s : Bytes) : Run Nat := do
  if ← emit 1 s then return 0
  warn (((← shell).builtin.getD []) ++ ": I/O error".toList)
  return 1

/-! ## Texts -/

def echo : Builtin := fun args => do
  let (noLine, args) := match args with
    | ['-', 'n'] :: r => (true, r)
    | args => (false, args)
  let rec go : List Bytes → Bytes × Bool
    | [] => ([], false)
    | [a] => Printf.unescaped 0 a
    | a :: r =>
      let (s, ends) := Printf.unescaped 0 a
      if ends then (s, true)
      else
        let (rest, ends) := go r
        (s ++ ' ' :: rest, ends)
  let (s, ends) := go args
  print (if noLine || ends then s else s ++ ['\n'])

def printf : Builtin := fun args => do
  let (_, args) ← letters [] [] [] args
  match args with
  | [] => fail "usage: printf format [arg ...]".toList
  | format :: args =>
    let p := Printf.printf format args
    for c in p.complaints.reverse do
      warn c
    match p.fault with
    | some message =>
      setStatus 2
      warn message
      discard (emit 1 p.out)
      throw .fault
    | none =>
      let status ← print p.out
      return if p.complaints.isEmpty then status else 1

/-! ## Places -/

/-- The files as seen from the shell's place. -/
def filesHere : Run Files := do
  let m ← get
  return { m.world.files with current := m.shell.place }

def placeText (p : Place) : Bytes := bytesOfText (Places.pathOf p)

def changePlace : Builtin := fun args => do
  let (_, args) ← letters ['L', 'P'] [] [] args
  let sh ← shell
  let goal ← match args with
    | [] => pure ((sh.value? "HOME").getD [])
    | ['-'] :: _ => pure ((sh.value? "OLDPWD").getD [])
    | dir :: _ => pure dir
  if goal.isEmpty then return ← if args.isEmpty || args == [[]] then pure 0 else print (placeText sh.place ++ ['\n'])
  let fs ← filesHere
  let begins (s : String) : Bool := s.toList.isPrefixOf goal
  let dirs := if begins "/" || goal == ['.'] || goal == ['.', '.'] || begins "./" || begins "../" then []
    else Text.pieces (· == ':') ((sh.value? "CDPATH").getD [])
  let candidates := (dirs.filter (!·.isEmpty)).map (fun d => (d ++ '/' :: goal, true)) ++ [(goal, args.head? == some ['-'])]
  match candidates.find? fun (goal, _) => fs.isDirectory ⟨textOfBytes goal⟩ with
  | some (goal, isTold) =>
    let place := ((fs.locate ⟨textOfBytes goal⟩).toOption).getD sh.place
    let old := placeText sh.place
    updateShell ({ · with place })
    assign "OLDPWD" old true
    assign "PWD" (placeText place) true
    if isTold then print (placeText place ++ ['\n']) else return 0
  | none => fail ("can't cd to ".toList ++ goal)

def printPlace : Builtin := fun args => do
  let _ ← letters ['L', 'P'] [] [] args
  print (placeText (← shell).place ++ ['\n'])

/-! ## Conditions -/

def questions (m : Machine) : Condition.Questions where
  file c name :=
    let fs := { m.world.files with current := m.shell.place }
    match fs.find ⟨textOfBytes name⟩ with
    | .error _ => false
    | .ok e =>
      match c with
      | 'f' => match e with
        | .file _ | .program => true
        | _ => false
      | 'd' => e == .directory
      | 'c' => e == .device
      | 's' => match e with
        | .file content => !content.isEmpty
        | .device => false
        | _ => true
      | 'x' => match e with
        | .directory | .program => true
        | _ => false
      | 'b' | 'p' | 'u' | 'g' | 'k' | 'h' | 'L' | 'S' => false
      | _ => true
  isNewer _ _ := false
  isSame a b :=
    let fs := { m.world.files with current := m.shell.place }
    match fs.find ⟨textOfBytes a⟩, fs.find ⟨textOfBytes b⟩ with
    | .ok _, .ok _ => (fs.locate ⟨textOfBytes a⟩).toOption == (fs.locate ⟨textOfBytes b⟩).toOption
    | _, _ => false
  terminal _ := false

def test : Builtin := fun args => do
  match Condition.evaluate (questions (← get)) args with
  | .ok b => return if b then 0 else 1
  | .error message => fail message

def bracket : Builtin := fun args => do
  -- Whatever begins with the closing bracket closes.
  if (args.getLast?.bind (·.head?)) != some ']' then fail "missing ]".toList
  test args.dropLast

/-! ## Variables -/

/-- The name and the value of an assignment, or a name alone. -/
def splitAssignment (s : Bytes) : Bytes × Option Bytes :=
  match s.dropWhile (· != '=') with
  | [] => (s, none)
  | _ :: value => (s.takeWhile (· != '='), some value)

def checkName (name : Bytes) : Run Unit :=
  if isName name then return else fail (name ++ ": bad variable name".toList)

/-- The variables with a property, as commands that set them. -/
def listVariables (word : String) (p : Variable → Bool) : Run Nat := do
  let shown := ((← shell).bindings.filter fun (_, v) => p v).mergeSort fun (a, _) (b, _) => a ≤ b
  print (shown.flatMap fun (name, v) =>
    word.toList ++ name.toList ++ (match v.value with
      | some value => '=' :: singleQuotes value
      | none => []) ++ ['\n'])

/-- Marks variables, which may get values first. -/
def mark (word : String) (p : Variable → Bool) (f : Variable → Variable) : Builtin := fun args => do
  let (given, names) ← letters ['p'] [] [] args
  if names.isEmpty || !given.isEmpty then return ← listVariables word p
  for s in names do
    let (name, value) := splitAssignment s
    let key := String.ofList name
    if value.isSome || ((← shell).lookup? key).isNone then checkName name
    if let some value := value then assign key value false
    updateShell fun sh => sh.put key (f ((sh.lookup? key).getD ⟨none, false, false⟩))
  return 0

def unset : Builtin := fun args => do
  let (given, names) ← letters ['v', 'f'] [] [] args
  for name in names do
    let key := String.ofList name
    if given.getLast?.map (·.1) == some 'f' then
      updateShell fun sh => { sh with functions := sh.functions.filter (·.1 != key) }
    else
      let name := (splitAssignment name).1
      let key := String.ofList name
      checkName name
      if (((← shell).lookup? key).map (·.isFixed)).getD false then fail (name ++ ": is read only".toList)
      updateShell fun sh => { sh with bindings := sh.bindings.filter (·.1 != key) }
  return 0

/-- Variables that a function gives back when it ends. -/
def localVariables : Builtin := fun names => do
  if (← shell).locals.isEmpty then fail "not in a function".toList
  for s in names do
    let (name, value) := splitAssignment s
    let key := String.ofList name
    if s == ['-'] then updateShell Shell.keepOptions
    else
      updateShell (·.keep key)
      match value with
      | some value =>
        checkName name
        assign key value false
      | none =>
        if ((← shell).lookup? key).isNone then
          checkName name
          updateShell (·.put key ⟨none, false, false⟩)
  return 0

/-- Names of options, with their letters. -/
def optionNames : List (String × Char) :=
  [("errexit", 'e'), ("noglob", 'f'), ("ignoreeof", 'I'), ("interactive", 'i'), ("monitor", 'm'), ("noexec", 'n'),
    ("stdin", 's'), ("xtrace", 'x'), ("verbose", 'v'), ("vi", 'V'), ("emacs", 'E'), ("noclobber", 'C'),
    ("allexport", 'a'), ("notify", 'b'), ("nounset", 'u'), ("privileged", 'p'), ("nolog", '1'), ("debug", '2')]

def turn (sh : Shell) (c : Char) (isOn : Bool) : Shell :=
  let others := sh.options.filter (· != c)
  { sh with options := if isOn then c :: others else others }

def setOption (c : Char) (isOn : Bool) : Run Unit :=
  if c == 'm' && isOn then warn "can't access tty; job control turned off".toList
  else if optionNames.any (·.2 == c) then updateShell (turn · c isOn) else fail ("Illegal option -".toList ++ [c])

/-- The options in words, or as commands that set them. -/
def listOptions (inWords : Bool) : Run Unit := do
  let sh ← shell
  let line (name : String) (isOn : Bool) : Bytes :=
    if inWords then name.toList ++ List.replicate (16 - name.length) ' ' ++ (if isOn then "on\n" else "off\n").toList
    else (if isOn then "set -o " else "set +o ").toList ++ name.toList ++ ['\n']
  let lines := optionNames.flatMap fun (name, c) => line name (sh.options.contains c)
  discard (emit 1 ((if inWords then "Current option settings\n".toList else []) ++ lines))

def setNamedOption (name : Bytes) (isOn : Bool) : Run Unit :=
  match optionNames.find? fun (n, _) => n.toList == name with
  | some (_, c) => setOption c isOn
  | none => fail ("Illegal option -o ".toList ++ name)

/-- Options before the operands. The operands, unless there are none to set; in a command
    line `c` says that a script follows. At most so many words are options. -/
def readOptions (isCommandLine : Bool) (script : Bool) : Nat → List Bytes → Run (Option (List Bytes) × Bool)
  | 0, _ | _, [] => return (none, script)
  | n + 1, arg :: r => do
    let rec go (isOn : Bool) (script : Bool) (r : List Bytes) : Bytes → Run (Bool × List Bytes)
      | [] => return (script, r)
      | 'o' :: cs => do
        match r with
        | [] => listOptions isOn; go isOn script [] cs
        | name :: r => setNamedOption name isOn; go isOn script r cs
      | c :: cs => do
        if isCommandLine && c == 'c' then go isOn true r cs
        else if isCommandLine && c == 'l' then go isOn script r cs
        else
          setOption c isOn
          go isOn script r cs
    match arg with
    | ['-'] =>
      if !isCommandLine then updateShell fun sh => turn (turn sh 'x' false) 'v' false
      return (if r.isEmpty then none else some r, script)
    | ['-', '-'] => return (some r, script)
    | '-' :: cs =>
      let (script, left) ← go true script r cs
      readOptions isCommandLine script n left
    | '+' :: cs =>
      let (script, left) ← go false script r cs
      readOptions isCommandLine script n left
    | _ => return (some (arg :: r), script)

def set : Builtin := fun args => do
  if args.isEmpty then return ← listVariables "" (·.value.isSome)
  if let (some operands, _) ← readOptions false false args.length args then
    updateShell ({ · with parameters := operands, nextOption := (1, none) })
  return 0

def shift : Builtin := fun args => do
  let n ← match args with
    | [] => pure 1
    | s :: _ => countOf s
  let sh ← shell
  if n > sh.parameters.length then fail "can't shift that many".toList
  updateShell ({ · with parameters := sh.parameters.drop n, nextOption := (1, none) })
  return 0

/-! ## Reading -/

/-- A line as `read` takes it: characters after a backslash are not split; the rest of the
    input, and whether the line had an end. -/
def readLine (isRaw : Bool) (done : List Region) : Bytes → Expanded × Bytes × Bool
  | [] => (done.reverse, [], false)
  | '\x00' :: r => readLine isRaw done r
  | '\n' :: r => (done.reverse, r, true)
  | '\\' :: r =>
    if isRaw then plain '\\' r
    else
      match r with
      | [] => (done.reverse, [], false)
      | '\n' :: r => readLine isRaw done r
      | c :: r => readLine isRaw (⟨.fixed, [.glyph ⟨c, true⟩]⟩ :: done) r
  | c :: r => plain c r
where
  plain (c : Char) (r : Bytes) : Expanded × Bytes × Bool :=
    let bit := Bit.glyph ⟨c, false⟩
    match done with
    | ⟨.split, bits⟩ :: before => readLine isRaw (⟨.split, bits ++ [bit]⟩ :: before) r
    | before => readLine isRaw (⟨.split, [bit]⟩ :: before) r

def read : Builtin := fun args => do
  let (given, names) ← letters ['r'] ['p'] [] args
  if names.isEmpty then fail "arg count".toList
  let some id ← source? 0 | do
    for name in names do
      assign (String.ofList name) [] false
    return 1
  let (line, rest, ended) := readLine (given.any (·.1 == 'r')) [] ((← get).world.pending id)
  updateWorld (·.leave id rest)
  let found := fields (← shell).separators (some names.length) line
  let values := found.map fun f => (Expanded.glyphs f).map (·.char)
  for (name, i) in names.zipIdx do
    checkName name
    assign (String.ofList name) ((values[i]?).getD []) false
  return if ended then 0 else 1

/-! ## Loops and ends -/

def leaveLoop (f : Nat → Skip) : Builtin := fun args => do
  let n ← match args with
    | [] => pure 1
    | s :: _ => countOf s
  if n = 0 then fail ("Illegal number: ".toList ++ args.headD [])
  let n := min n (← shell).loops
  if n > 0 then updateShell ({ · with skip := f n })
  return 0

def returnFrom : Builtin := fun args => do
  let status ← match args with
    | [] => pure ((← shell).trapStatus.getD (← shell).status)
    | s :: _ => countOf s
  updateShell ({ · with skip := .return_ })
  return status

def exit : Builtin := fun args => do
  match args, (← shell).trapStatus with
  | s :: _, _ => setStatus (← countOf s)
  | [], some n => setStatus n
  | [], none => pure ()
  throw .exit

/-! ## Signals -/

/-- The signal that a word names, from `least` on. -/
def signal? (least : Nat) (s : Bytes) : Option Nat :=
  if !s.isEmpty && s.all Char.isDigit then
    (readDigits 10 s).bind fun (n, _) => if n ≤ lastSignal then some n else none
  else
    let name := String.ofList (s.map Char.toUpper)
    if least = 0 && name == "EXIT" then some 0
    else ((List.range (lastSignal + 1)).drop 1).find? fun n => signalName n == name

def listTraps : Run Nat := do
  let sh ← shell
  print ((List.range (lastSignal + 1)).flatMap fun n =>
    match sh.traps.lookup n with
    | some action =>
      "trap -- ".toList ++ singleQuotes action ++ ' ' :: (if n = 0 then "EXIT" else signalName n).toList ++ ['\n']
    | none => [])

def trap : Builtin := fun args => do
  let (_, args) ← letters [] [] [] args
  let setAll (action : Option Bytes) (names : List Bytes) : Run Nat := do
    for name in names do
      match signal? 0 name with
      | none =>
        discard (emit 2 ("trap: ".toList ++ name ++ ": bad trap\n".toList))
        return 1
      | some n =>
        updateShell fun sh =>
          let others := sh.traps.filter (·.1 != n)
          { sh with traps := match action with
              | some a => (n, a) :: others
              | none => others }
    return 0
  match args with
  | [] => listTraps
  | [_] => setAll none args
  | action :: names =>
    if (signal? 0 action).isSome && action.all Char.isDigit then setAll none args
    else setAll (if action == ['-'] then none else some action) names

/-- A signal to the shell's own process. -/
def receive (n : Nat) : Run Unit := do
  if n = 0 then return
  let sh ← shell
  match if isFinalSignal n then none else sh.traps.lookup n with
  | some [] => return
  | some _ => updateShell fun sh => { sh with caught := sh.caught ++ [n] }
  | none => if isIgnoredSignal n then return else throw (Stop.killed n)

/-- Signals that came while a child was running. -/
def receiveSent : Run Unit := do
  let m ← get
  let own := m.shell.process
  updateWorld fun w => { w with sent := w.sent.filter (·.1 != own) }
  for (process, n) in m.world.sent do
    if process == own then receive n

def killUsage : String :=
  "Usage: kill [-s sigspec | -signum | -sigspec] [pid | job]... or\nkill -l [exitstatus]"

def listSignals (args : List Bytes) : Run Nat := do
  match args with
  | [] => print ((signalNames.flatMap fun s => s.toList ++ ['\n']))
  | s :: _ =>
    let n ← countOf s
    let n := if n > 128 then n - 128 else n
    if n = 0 || n > lastSignal then fail ("invalid signal number or exit status: ".toList ++ s)
    print ((signalName n).toList ++ ['\n'])

def sendTo (n : Nat) (target : Bytes) : Run Nat := do
  let sh ← shell
  if target.head? == some '%' then fail ("No such job: ".toList ++ target)
  let process ← countOf (if target.head? == some '-' then target.drop 1 else target)
  if target.head? != some '-' && process == sh.process then
    receive n
    return 0
  else if target.head? != some '-' && sh.ancestors.contains process then
    if n > 0 then updateWorld fun w => { w with sent := w.sent ++ [(process, n)] }
    return 0
  else if sh.children.any (·.process == process) then return 0
  else
    warn "No such process\n".toList
    return 1

def kill : Builtin := fun args => do
  let (signal, isList, targets) ← match args with
    | [] => fail killUsage.toList
    | ('-' :: name) :: r =>
      match signal? 1 name with
      | some n => pure (some n, false, r)
      | none =>
        let (given, rest) ← letters ['l'] ['s'] [] args
        let mut signal : Option Nat := none
        for (c, value) in given do
          if c == 's' then
            match signal? 1 value with
            | some n => signal := some n
            | none => fail ("invalid signal number or name: ".toList ++ value)
        pure (signal, given.any (·.1 == 'l'), rest)
    | args => pure (none, false, args)
  if isList then
    if signal.isSome then fail killUsage.toList
    return ← listSignals targets
  if targets.isEmpty then fail killUsage.toList
  let mut status := 0
  for target in targets do
    status := max status (← sendTo (signal.getD 15) target)
  return status

/-- Ends by most signals are told. -/
def tellEnding : Ending → Run Unit
  | .exited _ => return
  | .killed n _ => if n != 2 && n != 13 then emitText 2 (signalDescription n ++ "\n") else return

def wait : Builtin := fun args => do
  let sh ← shell
  match args with
  | [] =>
    updateShell ({ · with children := [] })
    return 0
  | args =>
    let mut status := 0
    for s in args do
      let process ← countOf s
      match sh.children.find? (·.process == process) with
      | some c =>
        if c.isNew then tellEnding c.ending
        status := c.ending.status
      | none => status := 127
    seeChildren
    return status

/-! ## Names of commands -/

def aliasLine (name : String) (value : Bytes) : Bytes := name.toList ++ '=' :: singleQuotes value ++ ['\n']

def setAliases : Builtin := fun args => do
  if args.isEmpty then
    let shown := (← shell).aliases.mergeSort fun (a, _) (b, _) => a ≤ b
    return ← print (shown.flatMap fun (name, value) => aliasLine name value)
  let mut status := 0
  for s in args do
    match splitAssignment (s.drop 1) with
    | (name, some value) =>
      let name := String.ofList (s.take 1 ++ name)
      updateShell fun sh => { sh with aliases := (name, value) :: sh.aliases.filter (·.1 != name) }
    | _ =>
      match (← shell).aliases.lookup (String.ofList s) with
      | some value => discard (print (aliasLine (String.ofList s) value))
      | none =>
        discard (emit 2 ("alias: ".toList ++ s ++ " not found\n".toList))
        status := 1
  return status

def unalias : Builtin := fun args => do
  let (given, names) ← letters ['a'] [] [] args
  if !given.isEmpty then
    updateShell ({ · with aliases := [] })
    return 0
  let mut status := 0
  for s in names do
    let name := String.ofList s
    if ((← shell).aliases.lookup name).isNone then
      discard (emit 2 ("unalias: ".toList ++ s ++ " not found\n".toList))
      status := 1
    updateShell fun sh => { sh with aliases := sh.aliases.filter (·.1 != name) }
  return status

/-! ## Options of scripts -/

/-- The word that an option is read from, and where in it. -/
structure OptionPlace where
  index : Nat
  offset : Option Nat

/-- One option: the name that the variable gets, its value, the next place; none at the end. -/
inductive OptionRead where
  | atEnd (index : Nat)
  | found (c : Char) (value : Option Bytes) (next : OptionPlace)
  | unknown (c : Char) (next : OptionPlace)
  | lacking (c : Char) (next : OptionPlace)

def optionSpec? (spec : Bytes) (c : Char) : Option Bool :=
  match spec with
  | [] => none
  | d :: ':' :: r => if d == c && d != ':' then some true else if d == ':' then optionSpec? (':' :: r) c else optionSpec? r c
  | d :: r => if d == c && d != ':' then some false else optionSpec? r c

def readOption (spec : Bytes) (words : List Bytes) (at_ : OptionPlace) : OptionRead :=
  let within : Option (Bytes × Nat) := do
    let offset ← at_.offset
    let word ← if at_.index ≤ 1 then none else words[at_.index - 2]?
    let rest := word.drop offset
    if rest.isEmpty then none else some (rest, at_.index)
  let fresh : Option (Bytes × Nat) :=
    match words[at_.index - 1]? with
    | some ('-' :: c :: cs) => some (c :: cs, at_.index + 1)
    | _ => none
  match within, fresh with
  | none, none => .atEnd at_.index
  | none, some (['-'], index) => .atEnd index
  | some (c :: rest, index), _ | none, some (c :: rest, index) =>
    let word := (words[index - 2]?).getD []
    let next : OptionPlace := ⟨index, some (word.length - rest.length)⟩
    match optionSpec? spec c with
    | none => .unknown c next
    | some false => .found c (some []) next
    | some true =>
      if !rest.isEmpty then .found c (some rest) ⟨index, none⟩
      else
        match words[index - 1]? with
        | some value => .found c (some value) ⟨index + 1, none⟩
        | none => .lacking c ⟨index, some word.length⟩
  | _, _ => .atEnd at_.index

def getOptions : Builtin := fun args => do
  match args with
  | spec :: name :: given =>
    let sh ← shell
    let words := if given.isEmpty then sh.parameters else given
    let (index, offset) := if sh.nextOption.1 > words.length + 1 then (1, none) else sh.nextOption
    let isQuiet := spec.head? == some ':'
    let clear : Run Unit := updateShell fun sh => { sh with bindings := sh.bindings.filter (·.1 != "OPTARG") }
    let (c, done, next) ← match readOption spec words ⟨index, offset⟩ with
      | .atEnd index => pure ('?', true, (⟨index, none⟩ : OptionPlace))
      | .found c value next => do
        assign "OPTARG" (value.getD []) false
        pure (c, false, next)
      | .unknown c next => do
        if isQuiet then assign "OPTARG" [c] false
        else
          discard (emit 2 ("Illegal option -".toList ++ [c, '\n']))
          clear
        pure ('?', false, next)
      | .lacking c next => do
        if isQuiet then
          assign "OPTARG" [c] false
          pure (':', false, next)
        else
          discard (emit 2 ("No arg for -".toList ++ [c] ++ " option\n".toList))
          clear
          pure ('?', false, next)
    assign "OPTIND" (digits next.index) false
    updateShell ({ · with nextOption := (next.index, next.offset) })
    checkName name
    assign (String.ofList name) [c] false
    return if done then 1 else 0
  | _ => fail "Usage: getopts optstring var [arg...]".toList

/-! ## Jobs and limits -/

def jobs : Builtin := fun args => do
  let (_, args) ← letters ['l', 'p'] [] [] args
  match args with
  | [] => return 0
  | job :: _ => fail ("No such job: ".toList ++ job)

/-- There is no job to go on with. -/
def resume : Builtin := fun args => do
  let (_, args) ← letters [] [] [] args
  match args with
  | [] => fail "No current job".toList
  | job :: _ => fail ("No such job: ".toList ++ job)

def times : Builtin := fun _ => print "0m0.000000s 0m0.000000s\n0m0.000000s 0m0.000000s\n".toList

/-- The rights that new files do not get, by class. -/
def maskText (inWords : Bool) (mask : Nat) : Bytes :=
  let rights (n : Nat) : Bytes :=
    (if n / 4 % 2 == 0 then ['r'] else []) ++ (if n / 2 % 2 == 0 then ['w'] else []) ++ if n % 2 == 0 then ['x'] else []
  if inWords then
    "u=".toList ++ rights (mask / 64) ++ ",g=".toList ++ rights (mask / 8) ++ ",o=".toList ++ rights mask
  else
    let ds := Nat.toDigits 8 mask
    List.replicate (4 - ds.length) '0' ++ ds

def umask : Builtin := fun args => do
  let (given, args) ← letters ['S'] [] [] args
  match args with
  | [] => print (maskText (!given.isEmpty) (← shell).mask ++ ['\n'])
  | s :: _ =>
    if (s.headD ' ').isDigit then
      if s.any fun c => c < '0' || '7' < c then fail ("Illegal number: ".toList ++ s)
      let mask := ((readDigits 8 s).elim 0 (·.1)) % 512
      updateShell ({ · with mask })
      return 0
    else fail ("Illegal mode: ".toList ++ s)

/-- The builtins that need nothing but their arguments. -/
def simpleBuiltins : List (String × Builtin) :=
  [(":", fun _ => return 0), ("true", fun _ => return 0), ("false", fun _ => return 1), ("echo", echo),
    ("printf", printf), ("test", test), ("[", bracket), ("cd", changePlace), ("chdir", changePlace),
    ("pwd", printPlace), ("export", mark "export " (·.isExported) ({ · with isExported := true })),
    ("readonly", mark "readonly " (·.isFixed) ({ · with isFixed := true })), ("unset", unset),
    ("local", localVariables), ("set", set), ("shift", shift), ("read", read), ("break", leaveLoop .break_),
    ("continue", leaveLoop .continue_), ("return", returnFrom), ("exit", exit), ("trap", trap), ("kill", kill),
    ("wait", wait), ("alias", setAliases), ("unalias", unalias), ("getopts", getOptions), ("umask", umask),
    ("jobs", jobs), ("fg", resume), ("bg", resume), ("times", times),
    ("ulimit", fun _ => print "unlimited\n".toList)]

/-- Builtins that the shell runs with its own rules. -/
def ruledBuiltins : List String := ["eval", ".", "exec", "command", "type", "hash"]

def isBuiltin (name : String) : Bool := ruledBuiltins.contains name || simpleBuiltins.any (·.1 == name)

/-- Builtins whose arguments may be assignments. -/
def isAssigning (name : String) : Bool := ["export", "readonly", "local", "alias"].contains name

end Builtin

end PlotTypes.Command
