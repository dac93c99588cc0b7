/-
  PlotTypes.Command.Grammar — the tokens of a script as commands.

  A script is read one complete command at a time, since running one may change how the
  next is read. Lists hold commands between semicolons, ampersands and, except at the
  top, newlines. Grammar rules call each other through `Goal`; how deep they go is limited.
-/

import PlotTypes.Command.Tokens

namespace PlotTypes.Command

inductive ListKind where
  /-- One line of the script. -/
  | line
  /-- At least one command. -/
  | body
  /-- Perhaps no command. -/
  | open_
  deriving DecidableEq, Repr

inductive Goal where
  | list (kind : ListKind)
  | command
  deriving DecidableEq, Repr

/-- How a rule reads what a goal names. -/
abbrev Rules := Goal → ReadM (Option Script)

/-- A token before which a list may end. -/
def Token.endsList : Token → Bool
  | .eof | .right | .endClause => true
  | .reserved r => [.do_, .done, .elif, .else_, .esac, .fi, .then_, .end_].contains r
  | _ => false

def Token.isReserved (t : Token) (r : Reserved) : Bool :=
  match t with
  | .reserved s => s == r
  | _ => false

def Token.isRight : Token → Bool
  | .right => true
  | _ => false

namespace Rules

def inner (rules : Rules) : Inner where
  commands := rules (.list .open_)
  enclosed := do
    let inner : Inner := ⟨rules (.list .open_), rules (.list .open_)⟩
    let outer := (← get).awaited
    modify fun st => { st with awaited := [] }
    let body ← rules (.list .open_)
    if !(← readToken inner).isRight then unexpected (some .right)
    let sources := (← get).sources
    modify fun st => { st with sources := [⟨[], [], false⟩] }
    readDocuments inner
    modify fun st => { st with sources, awaited := outer }
    return body

def token (rules : Rules) : ReadM Token := readToken rules.inner

def expect (rules : Rules) (r : Reserved) : ReadM Unit := do
  if !(← rules.token).isReserved r then unexpected (some (.reserved r))

/-! ## Simple commands -/

/-- Builtins whose names no function can have. -/
def specialBuiltins : List String :=
  [".", ":", "break", "continue", "eval", "exec", "exit", "export", "local", "readonly", "return", "set", "shift",
    "times", "trap", "unset"]

def isAssignment (w : Word) : Bool :=
  let start := w.takeWhile fun
    | .char c false => c != '='
    | _ => false
  match plainText? start, w.drop start.length with
  | some name, .char '=' false :: _ => isName name
  | _, _ => false

def isQuoted (w : Word) : Bool := w.any fun
  | .quote | .char _ true => true
  | _ => false

/-- What follows the sign of a redirection. -/
def redirect (rules : Rules) (o : Opener) : ReadM Redirect := do
  if let .document .. := o then modify fun st => { st with checks := { st.checks with mark := true } }
  match ← rules.token with
  | .word w =>
    match o with
    | .file fd mode => return .file fd mode w
    | .duplicate fd => return .duplicate fd w
    | .document fd stripped =>
      let number := (← get).nextDocument
      let expanded := !isQuoted w
      modify fun st => { st with
        nextDocument := number + 1
        awaited := st.awaited ++ [⟨number, unquoted w, stripped, expanded⟩] }
      return .document fd number expanded
  | _ => unexpected none

/-- A simple command so far, each list with its last element first. -/
structure Parts where
  assigned : List Word
  words : List Word
  redirects : List Redirect

def functionName? (p : Parts) : Option Word :=
  match p.words, p.assigned, p.redirects with
  | [w], [], [] => some w
  | _, _, _ => none

def define (rules : Rules) (w : Word) : ReadM Script := do
  if !(← rules.token).isRight then unexpected (some .right)
  let name := (plainText? w).getD []
  if !isName name || specialBuiltins.contains (String.ofList name) then refuse "Bad function name"
  check true true true
  let line := (← get).line
  match ← rules .command with
  | some body => return .define line (String.ofList name) body
  | none => unexpected none

def simple (rules : Rules) : ReadM Script := do
  let line := (← get).line
  repeated (fun (p : Parts) => do
    check false false p.words.isEmpty
    match ← rules.token with
    | .word w =>
      if p.words.isEmpty && isAssignment w then return .inl { p with assigned := w :: p.assigned }
      return .inl { p with words := w :: p.words }
    | .redirect o => return .inl { p with redirects := (← rules.redirect o) :: p.redirects }
    | .left =>
      if let some w := functionName? p then return .inr (← rules.define w)
      unreadToken
      return .inr (.simple line p.assigned.reverse p.words.reverse p.redirects.reverse)
    | _ =>
      unreadToken
      return .inr (.simple line p.assigned.reverse p.words.reverse p.redirects.reverse)) manySteps ⟨[], [], []⟩

/-! ## Compound commands -/

/-- After `if` or `elif`, with what follows up to `fi`. -/
def choice (rules : Rules) : ReadM Script := do
  let branch : ReadM (Option Script × Option Script) := do
    let test ← rules (.list .body)
    rules.expect .then_
    return (test, ← rules (.list .body))
  let build (branches : List (Option Script × Option Script)) (last : Option Script) : Option Script :=
    branches.foldl (fun no (test, yes) => some (.choose test yes no)) last
  let first ← branch
  let made ← repeated (fun branches => do
    let t ← rules.token
    if t.isReserved .elif then return .inl ((← branch) :: branches)
    if t.isReserved .else_ then return .inr (build branches (← rules (.list .body)))
    unreadToken
    return .inr (build branches none)) manySteps [first]
  rules.expect .fi
  return made.getD default

def loop (rules : Rules) (until_ : Bool) : ReadM Script := do
  let test ← rules (.list .body)
  rules.expect .do_
  let body ← rules (.list .body)
  rules.expect .done
  return .loop until_ test body

/-- The words of a `for`, up to the end of the line. -/
def eachWords (rules : Rules) : ReadM (List Word) := do
  repeated (fun (words : List Word) => do
    match ← rules.token with
    | .word w => return .inl (w :: words)
    | .newline | .semi => return .inr words.reverse
    | _ => unexpected none) manySteps []

def each (rules : Rules) (line : Nat) : ReadM Script := do
  let name ← match ← rules.token with
    | .word w => pure ((plainText? w).getD [])
    | _ => pure []
  if !isName name then refuse "Bad for loop variable"
  check true true true
  let t ← rules.token
  let words ←
    if t.isReserved .in_ then rules.eachWords
    else do
      if let .semi := t then pure () else unreadToken
      pure [[.quote, .parameter "@" .value false [], .quote]]
  check true true true
  rules.expect .do_
  let body ← rules (.list .body)
  rules.expect .done
  return .each line (String.ofList name) words body

/-- The patterns of a clause from its first token. Any token may stand for a pattern, which
    is then the last word there was. -/
def patterns (rules : Rules) (first : Token) : ReadM (List Word) := do
  if let .left := first then discard rules.token
  repeated (fun (words : List Word) => do
    let words := (← get).lastWord :: words
    match ← rules.token with
    | .pipe =>
      discard rules.token
      return .inl words
    | .right => return .inr words.reverse
    | _ => unexpected (some .right)) manySteps []

def select (rules : Rules) (line : Nat) : ReadM Script := do
  let word ← match ← rules.token with
    | .word w => pure w
    | _ => unexpected (some (.word []))
  check true true true
  rules.expect .in_
  let clauses ← repeated (fun (clauses : List (List Word × Option Script)) => do
    check true true false
    let t ← rules.token
    if t.isReserved .esac then return .inr clauses.reverse
    let ps ← rules.patterns t
    let clauses := (ps, ← rules (.list .open_)) :: clauses
    check true true false
    match ← rules.token with
    | .endClause => return .inl clauses
    | t => if t.isReserved .esac then return .inr clauses.reverse else unexpected (some .endClause)) manySteps []
  return .select line word clauses

/-- Redirections after a compound command. -/
def redirects (rules : Rules) : ReadM (List Redirect) := do
  check false true true
  repeated (fun (rs : List Redirect) => do
    match ← rules.token with
    | .redirect o => return .inl ((← rules.redirect o) :: rs)
    | _ =>
      unreadToken
      return .inr rs.reverse) manySteps []

def command (rules : Rules) : ReadM Script := do
  let line := (← get).line
  let finish (c : Script) : ReadM Script := do
    match c, ← rules.redirects with
    | c, [] => return c
    -- A subshell alone in braces loses its own redirections to those of the braces.
    | .subshell line body _, rs => return .subshell line body rs
    | c, rs => return .redirected line c rs
  match ← rules.token with
  | .word _ | .redirect _ =>
    unreadToken
    rules.simple
  | .left =>
    let body ← rules (.list .body)
    if !(← rules.token).isRight then unexpected (some .right)
    finish (.subshell line body [])
  | .reserved .if_ => do finish (← rules.choice)
  | .reserved .while_ => do finish (← rules.loop false)
  | .reserved .until_ => do finish (← rules.loop true)
  | .reserved .for_ => do finish (← rules.each line)
  | .reserved .case => do finish (← rules.select line)
  | .reserved .begin =>
    let body ← rules (.list .body)
    rules.expect .end_
    finish (body.getD default)
  | _ => unexpected none

/-! ## Lists -/

def pipeline (rules : Rules) : ReadM Script := do
  let negated := (← rules.token).isReserved .not
  if negated then check false true true else unreadToken
  let parts ← repeated (fun (parts : List Script) => do
    let parts := (← rules.command) :: parts
    if let .pipe := ← rules.token then
      check true true true
      return .inl parts
    unreadToken
    return .inr parts.reverse) manySteps []
  let whole := match parts with
    | [one] => one
    | parts => .pipeline false parts
  return if negated then .not whole else whole

def andOr (rules : Rules) : ReadM Script := do
  let first ← rules.pipeline
  repeated (fun (c : Script) => do
    match ← rules.token with
    | .and =>
      check true true true
      return .inl (.ifTrue c (← rules.pipeline))
    | .or =>
      check true true true
      return .inl (.ifFalse c (← rules.pipeline))
    | _ =>
      unreadToken
      return .inr c) manySteps first

def behind : Script → Script
  | .pipeline _ parts => .pipeline true parts
  | .redirected _ body rs => .inBackground body rs
  | c => .inBackground c []

def append (c? : Option Script) (d : Script) : Option Script :=
  some (match c? with
    | some c => .both c d
    | none => d)

def list (rules : Rules) (kind : ListKind) : ReadM (Option Script) := do
  let inLines := kind != .line
  let atEnd (c : Option Script) : ReadM (Option Script) := do
    readDocuments rules.inner
    modify fun st => { st with isPushed := true, last := .eof }
    return c
  repeated (fun ((c, mayEnd) : Option Script × Bool) => do
    check inLines true true
    match ← rules.token with
    | .newline =>
      readDocuments rules.inner
      return .inr c
    | .eof =>
      if c.isNone && !inLines then modify fun st => { st with ended := true }
      return .inr (← atEnd c)
    | t =>
      unreadToken
      if mayEnd && inLines && t.endsList then return .inr c
      let d ← rules.andOr
      match ← rules.token with
      | .background => return .inl (append c (behind d), true)
      | .semi => return .inl (append c d, true)
      | .newline =>
        unreadToken
        return .inl (append c d, true)
      | .eof => return .inr (← atEnd (append c d))
      | _ =>
        if !inLines then unexpected none
        unreadToken
        return .inr (append c d)) manySteps (none, kind == .open_)

/-- The rules, going at most so deep. -/
def within : Nat → Rules
  | 0, _ => refuse "Internal limit"
  | depth + 1, .list kind => list (within depth) kind
  | depth + 1, .command => do return some (← command (within depth))

end Rules

/-- How deep commands may stand in each other. -/
def grammarDepth : Nat := 20000

/-- The whole text as one that is expanded like a document. -/
def readWhole : ReadM Word := readExpanded (Rules.within grammarDepth).inner

/-- The next complete command. -/
def readCommand : ReadM (Option Script) := do
  modify fun st => { st with isPushed := false, checks := .none, awaited := [] }
  Rules.within grammarDepth (.list .line)

end PlotTypes.Command
