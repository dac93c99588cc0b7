/-
  PlotTypes.CommandLine.Arguments — what a command line asks for.

  Options stand before or after the command, `--verbose` in both places, the others where
  they belong. A value follows its option as the next argument, after an equals sign, or
  right after a single letter; single letters may be joined. An option that takes one
  value is given once, and an empty value names no path. The first fault decides, and a
  wish for help or for the version is granted as soon as it is read.
-/

namespace PlotTypes.CommandLine

inductive Opt where
  | verbose
  | schema
  | out
  | config
  | format
  | formatArg
  | dryRun
  | help
  | version
  deriving DecidableEq, Repr

namespace Opt

def long : Opt → String
  | .verbose => "verbose"
  | .schema => "schema"
  | .out => "out"
  | .config => "config"
  | .format => "format"
  | .formatArg => "format-arg"
  | .dryRun => "dry-run"
  | .help => "help"
  | .version => "version"

def short? : Opt → Option Char
  | .verbose => some 'v'
  | .schema => some 's'
  | .out => some 'o'
  | .config => some 'c'
  | .format => some 'f'
  | .help => some 'h'
  | .version => some 'V'
  | .formatArg | .dryRun => none

def takesValue : Opt → Bool
  | .schema | .out | .config | .format | .formatArg => true
  | .verbose | .dryRun | .help | .version => false

def isPath : Opt → Bool
  | .schema | .out | .config => true
  | _ => false

/-- The next argument is the value even if it looks like an option. -/
def takesAnything (o : Opt) : Bool := o == .formatArg

def isRepeatable (o : Opt) : Bool := o == .formatArg

/-- Read at once, whatever follows. -/
def isImmediate : Opt → Bool
  | .help | .version => true
  | _ => false

end Opt

inductive Verb where
  | generate
  | check
  deriving DecidableEq, Repr

def verb? (s : String) : Option Verb :=
  if s == "generate" then some .generate else if s == "check" then some .check else none

/-- The options before the command. -/
def outerOptions : List Opt := [.verbose, .help, .version]

def Verb.options : Verb → List Opt
  | .generate => [.schema, .out, .config, .format, .formatArg, .dryRun, .verbose, .help]
  | .check => [.schema, .verbose, .help]

def Verb.required : Verb → List Opt
  | .generate => [.schema, .out]
  | .check => [.schema]

inductive UsageFault where
  | unknownOption (s : String)
  | unexpected (s : String)
  | noCommand
  | unknownCommand (s : String)
  | noValue (o : Opt)
  | valueNotTaken (o : Opt)
  | repeated (o : Opt)
  | missing (o : Opt)
  | needsFormat
  deriving DecidableEq, Repr

def UsageFault.message : UsageFault → String
  | .unknownOption s => s!"unexpected argument '{s}' found"
  | .unexpected s => s!"unexpected argument '{s}' found"
  | .noCommand => "a command is required: generate or check"
  | .unknownCommand s => s!"unrecognized command '{s}'"
  | .noValue o => s!"a value is required for '--{o.long}'"
  | .valueNotTaken o => s!"no value is taken by '--{o.long}'"
  | .repeated o => s!"the argument '--{o.long}' cannot be used multiple times"
  | .missing o => s!"the argument '--{o.long}' is required"
  | .needsFormat => "'--format-arg' needs '--format'"

/-! ## Options with their values -/

/-- The options given so far, in order, a flag with an empty value. -/
abbrev Given := List (Opt × String)

def Given.has (g : Given) (o : Opt) : Bool := g.any (·.1 == o)

def Given.values (g : Given) (o : Opt) : List String := (g.filter (·.1 == o)).map (·.2)

def Given.value? (g : Given) (o : Opt) : Option String := (g.values o).head?

def Given.add (g : Given) (o : Opt) (value : String) : Except UsageFault Given :=
  if g.has o && !o.isRepeatable then .error (.repeated o)
  else if o.isPath && value.isEmpty then .error (.noValue o)
  else .ok (g ++ [(o, value)])

/-- What an argument starts. -/
inductive Started where
  /-- Options that are complete. -/
  | done (g : Given)
  /-- The last option waits for its value. -/
  | waits (g : Given) (o : Opt)
  /-- An option that is granted at once. -/
  | granted (o : Opt)
  deriving DecidableEq, Repr

/-- An argument with two hyphens, from after them. -/
def startLong (allowed : List Opt) (g : Given) (cs : List Char) : Except UsageFault Started := do
  let name := String.ofList (cs.takeWhile (· != '='))
  let value? := match cs.dropWhile (· != '=') with
    | [] => none
    | _ :: r => some (String.ofList r)
  match allowed.find? (·.long == name), value? with
  | none, _ => .error (.unknownOption ("--" ++ name))
  | some o, some value => if o.takesValue then (g.add o value).map .done else .error (.valueNotTaken o)
  | some o, none =>
    if o.takesValue then return .waits g o
    else if o.isImmediate then return .granted o
    else return .done (← g.add o "")

/-- Joined single letters. -/
def startShort (allowed : List Opt) (g : Given) : List Char → Except UsageFault Started
  | [] => .ok (.done g)
  | c :: r =>
    match allowed.find? (·.short? == some c) with
    | none => .error (.unknownOption (String.ofList ['-', c]))
    | some o =>
      if o.takesValue then
        match r with
        | [] => .ok (.waits g o)
        | '=' :: value => (g.add o (String.ofList value)).map .done
        | value => (g.add o (String.ofList value)).map .done
      else if o.isImmediate then .ok (.granted o)
      else
        match g.add o "" with
        | .error f => .error f
        | .ok g => startShort allowed g r

def looksLikeOption (s : String) : Bool :=
  match s.toList with
  | '-' :: _ :: _ => true
  | _ => false

/-- The outcome of reading options: all of them with what follows, or one granted at once. -/
inductive Options where
  | given (g : Given) (rest : List String)
  | granted (o : Opt)
  deriving DecidableEq, Repr

/-- Reads options up to the first argument that is none, or to a double hyphen, which is
    left in place. -/
def readOptions (allowed : List Opt) (g : Given) : List String → Except UsageFault Options
  | [] => .ok (.given g [])
  | a :: r =>
    if a == "--" || !looksLikeOption a then .ok (.given g (a :: r))
    else
      let started := match a.toList with
        | '-' :: '-' :: cs => startLong allowed g cs
        | cs => startShort allowed g (cs.drop 1)
      match started with
      | .error f => .error f
      | .ok (.granted o) => .ok (.granted o)
      | .ok (.done g) => readOptions allowed g r
      | .ok (.waits g o) =>
        match r with
        | [] => .error (.noValue o)
        | value :: r =>
          if looksLikeOption value && !o.takesAnything then .error (.noValue o)
          else
            match g.add o value with
            | .error f => .error f
            | .ok g => readOptions allowed g r

/-! ## Requests -/

structure GenerateRequest where
  schema : String
  out : String
  config : Option String
  command : Option (List String)
  dryRun : Bool
  deriving DecidableEq, Repr

inductive Request where
  | help
  | version
  | generate (verbose : Bool) (r : GenerateRequest)
  | check (verbose : Bool) (schema : String)
  deriving DecidableEq, Repr

/-- The options of a command are complete. -/
def complete? (v : Verb) (g : Given) : Option UsageFault :=
  match v.required.find? (!g.has ·) with
  | some o => some (.missing o)
  | none => if g.has .formatArg && !g.has .format then some .needsFormat else none

def requestOf (v : Verb) (verbose : Bool) (g : Given) : Request :=
  let verbose := verbose || g.has .verbose
  let schema := (g.value? .schema).getD ""
  match v with
  | .check => .check verbose schema
  | .generate =>
    .generate verbose {
      schema
      out := (g.value? .out).getD ""
      config := g.value? .config
      command := (g.value? .format).map (· :: g.values .formatArg)
      dryRun := g.has .dryRun }

/-- The arguments after a command. -/
def parseVerb (v : Verb) (verbose : Bool) (args : List String) : Except UsageFault Request :=
  match readOptions v.options [] args with
  | .error f => .error f
  | .ok (.granted _) => .ok .help
  | .ok (.given g rest) =>
    match if rest == ["--"] then [] else rest with
    | a :: _ => .error (.unexpected a)
    | [] =>
      match complete? v g with
      | some f => .error f
      | none => .ok (requestOf v verbose g)

def parse (args : List String) : Except UsageFault Request :=
  match readOptions outerOptions [] args with
  | .error f => .error f
  | .ok (.granted o) => .ok (if o == .version then .version else .help)
  | .ok (.given _ []) => .error .noCommand
  | .ok (.given g (name :: r)) =>
    match verb? name with
    | some v => parseVerb v (g.has .verbose) r
    | none =>
      if name == "help" then
        match r with
        | [] => .ok .help
        | topic :: rest =>
          if (verb? topic).isNone && topic != "help" then .error (.unknownCommand topic)
          else if rest.isEmpty then .ok .help
          else .error (.unknownCommand (rest.headD ""))
      else if name == "--" then .error .noCommand
      else .error (.unknownCommand name)

end PlotTypes.CommandLine
