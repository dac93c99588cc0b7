/-
  PlotTypes.Command.Tokens — the characters of a script as tokens.

  A backslash before a line's end joins two lines. Within a word, quotes, parameters and
  sums open frames that say what the next characters mean; the word is collected as a flat
  list and nested when it is complete. A document is read like a word that ends with its
  mark on a line of its own.
-/

import PlotTypes.Command.Script

namespace PlotTypes.Command

inductive Reserved where
  | not
  | case
  | do_
  | done
  | elif
  | else_
  | esac
  | fi
  | for_
  | if_
  | in_
  | then_
  | until_
  | while_
  | begin
  | end_
  deriving DecidableEq, Repr

def Reserved.all : List (Reserved × String) :=
  [(.not, "!"), (.case, "case"), (.do_, "do"), (.done, "done"), (.elif, "elif"), (.else_, "else"), (.esac, "esac"),
    (.fi, "fi"), (.for_, "for"), (.if_, "if"), (.in_, "in"), (.then_, "then"), (.until_, "until"),
    (.while_, "while"), (.begin, "\x7b"), (.end_, "\x7d")]

/-- A redirection without what follows its sign. -/
inductive Opener where
  | file (fd : Nat) (mode : Opening)
  | duplicate (fd : Nat)
  | document (fd : Nat) (stripped : Bool)
  deriving DecidableEq, Repr

inductive Token where
  | eof
  | newline
  | semi
  | background
  | and
  | or
  | pipe
  | left
  | right
  | endClause
  | word (w : Word)
  | redirect (r : Opener)
  | reserved (r : Reserved)
  deriving Inhabited

/-- How a message calls a token. -/
def Token.label : Token → String
  | .eof => "end of file"
  | .newline => "newline"
  | .semi => "\";\""
  | .background => "\"&\""
  | .and => "\"&&\""
  | .or => "\"||\""
  | .pipe => "\"|\""
  | .left => "\"(\""
  | .right => "\")\""
  | .endClause => "\";;\""
  | .word _ => "word"
  | .redirect _ => "redirection"
  | .reserved r => "\"" ++ (Reserved.all.lookup r).getD "" ++ "\""

/-! ## The reader -/

/-- Text to read: what stands for an alias, or the script itself. -/
structure Source where
  text : Bytes
  /-- The aliases that it stands for. -/
  aliases : List String
  /-- An alias that ends in a blank lets the next word be one too. -/
  passesOn : Bool

/-- A document that begins at the next line. -/
structure Awaited where
  number : Nat
  mark : Bytes
  stripped : Bool
  expanded : Bool
  deriving DecidableEq, Repr

/-- What the next token may be, and what is skipped before it. -/
structure Checks where
  newlines : Bool
  keywords : Bool
  aliases : Bool
  /-- The token is the mark of a document. -/
  mark : Bool
  deriving DecidableEq, Repr

def Checks.none : Checks := ⟨false, false, false, false⟩

structure Reader where
  sources : List Source
  line : Nat
  aliases : List (String × Bytes)
  /-- Aliases whose texts the last token is in. -/
  inUse : List String
  last : Token
  /-- The word that was read last. -/
  lastWord : Word
  isPushed : Bool
  checks : Checks
  awaited : List Awaited
  documents : Documents
  nextDocument : Nat
  /-- Nothing is left to read. -/
  ended : Bool

structure SyntaxFault where
  line : Nat
  message : String
  deriving DecidableEq, Repr

abbrev ReadM := EStateM SyntaxFault Reader

def refuse (message : String) : ReadM α := do throw ⟨(← get).line, message⟩

/-- More steps than any text has. -/
def manySteps : Nat := Nat.pow 10 12

/-- Repeats a step until it answers. -/
def repeated (step : σ → ReadM (σ ⊕ α)) : Nat → σ → ReadM α
  | 0, _ => refuse "Internal limit"
  | n + 1, s => do
    match ← step s with
    | .inl s => repeated step n s
    | .inr a => return a

/-! ## Characters -/

/-- The next character, the sources after it, and whether an alias that passes on has ended. -/
def takeChar : List Source → Option Char × List Source × Bool
  | [] => (none, [], false)
  | ⟨[], names, passesOn⟩ :: [] => (none, [⟨[], names, passesOn⟩], false)
  | ⟨[], names, passesOn⟩ :: r =>
    let (c, rest, passed) := takeChar r
    (c, rest, passed || (!names.isEmpty && passesOn))
  | ⟨c :: cs, names, passesOn⟩ :: r => (some c, ⟨cs, names, passesOn⟩ :: r, false)

def next : ReadM (Option Char) := modifyGet fun st =>
  let (c, rest, passed) := takeChar st.sources
  (c, { st with sources := rest, checks := { st.checks with aliases := st.checks.aliases || passed } })

def unread (c : Option Char) : ReadM Unit := modify fun st =>
  match c, st.sources with
  | some c, s :: r => { st with sources := { s with text := c :: s.text } :: r }
  | some c, [] => { st with sources := [⟨[c], [], false⟩] }
  | none, _ => st

def newLine : ReadM Unit := modify fun st => { st with line := st.line + 1 }

/-- The next character after joining lines. -/
def nextJoined : ReadM (Option Char) := do
  repeated (fun () => do
    let c ← next
    if c != some '\\' then return .inr c
    let d ← next
    if d == some '\n' then
      newLine
      return .inl ()
    unread d
    return .inr c) manySteps ()

/-! ## Words -/

inductive Mode where
  | base
  | double
  | single
  | sum
  deriving DecidableEq, Repr

inductive CharClass where
  | newline
  | ordinary
  | control
  | backslash
  | openSingle
  | openDouble
  | closeQuote
  | dollar
  | closeBrace
  | left
  | right
  | backquote
  | eof
  | special
  deriving DecidableEq, Repr

def isControlByte (c : Char) : Bool := 0x81 ≤ c.toNat && c.toNat ≤ 0x88

/-- Characters that a pattern or a path gives a meaning. -/
def isTelling (c : Char) : Bool := "!*?[=~:/-]".toList.contains c

def charClass (m : Mode) : Option Char → CharClass
  | none => .eof
  | some c =>
    if c == '\n' then .newline
    else if isControlByte c then .control
    else if m == .single then
      if c == '\'' then .closeQuote else if isTelling c || c == '\\' then .control else .ordinary
    else if c == '\\' then .backslash
    else if c == '\x60' then .backquote
    else if c == '$' then .dollar
    else if c == '}' then .closeBrace
    else
      match m with
      | .base =>
        if c == '\'' then .openSingle
        else if c == '"' then .openDouble
        else if "<>();&| \t".toList.contains c then .special
        else .ordinary
      | .double => if c == '"' then .closeQuote else if isTelling c then .control else .ordinary
      | _ => if c == '(' then .left else if c == ')' then .right else .ordinary

/-- What the characters at a place in a word mean. -/
structure Frame where
  mode : Mode
  isDouble : Bool
  /-- Open parameters, and those of them that were opened in double quotes. -/
  depth : Nat
  quotedDepth : Nat
  /-- Double quotes are open inside a parameter. -/
  innerQuote : Bool
  isParameter : Bool
  parens : Nat
  deriving DecidableEq, Repr

def Frame.start (m : Mode) (isDouble : Bool) : Frame := ⟨m, isDouble, 0, 0, false, false, 0⟩

inductive Flat where
  | char (c : Char) (escaped : Bool)
  | quote
  | openParameter (name : String) (op : Operation) (orEmpty : Bool)
  | openSum
  | close
  | output (body : Option Script)
  deriving Inhabited

/-- A word being read. -/
structure Scan where
  frame : Frame
  below : List Frame
  /-- The last one first. -/
  out : List Flat
  quoted : Bool

def Scan.put (s : Scan) (f : Flat) : Scan := { s with out := f :: s.out }

def Scan.pop (s : Scan) : Scan :=
  match s.below with
  | f :: r => { s with frame := f, below := r }
  | [] => s

/-- A piece from its opening and its inside. -/
def Flat.around (inside : Word) : Flat → Piece
  | .openParameter name op orEmpty => .parameter name op orEmpty inside
  | _ => .sum inside

/-- The pieces of a flat word; `open_` holds what is open, each with what came before it. -/
def nested (open_ : List (Flat × Word)) (done : Word) : List Flat → Word
  | [] => (open_.foldl (fun inside (f, before) => f.around inside.reverse :: before) done).reverse
  | .char c e :: r => nested open_ (.char c e :: done) r
  | .quote :: r => nested open_ (.quote :: done) r
  | .output body :: r => nested open_ (.output body :: done) r
  | .close :: r =>
    match open_ with
    | (f, before) :: up => nested up (f.around done.reverse :: before) r
    | [] => nested [] done r
  | f :: r => nested ((f, done) :: open_) [] r

/-- The operation after a parameter's name in braces, from its first character. -/
def readOperation (c : Option Char) : ReadM (Operation × Bool) := do
  let simple (c : Option Char) : Operation :=
    match c with
    | some '}' => .value
    | some '-' => .orElse
    | some '+' => .ifSet
    | some '?' => .demand
    | some '=' => .assign
    | _ => .bad
  let cut : ReadM Bool := do
    let d ← nextJoined
    if d == c then return true
    unread d
    return false
  match c with
  | some ':' => return (simple (← nextJoined), true)
  | some '%' => return (.cutEnd (← cut), false)
  | some '#' => return (.cutStart (← cut), false)
  | c => return (simple c, false)

/-- The longest run of characters with a property, after one that was read, and what ends it. -/
def readRun (p : Char → Bool) (first : Char) : ReadM (Bytes × Option Char) := do
  repeated (fun (run : Bytes) => do
    let c ← nextJoined
    match c with
    | some d => return if p d then .inl (d :: run) else .inr (run.reverse, c)
    | none => return .inr (run.reverse, c)) manySteps [first]

/-- A parameter from the first character after the dollar sign: its name, the operation. -/
def readParameter (c : Option Char) : ReadM (Bytes × Operation × Bool) := do
  if c != some '{' then
    match c with
    | some d =>
      if startsName d then
        let (name, e) ← readRun isInName d
        unread e
        return (name, .value, false)
      return ([d], .value, false)
    | none => return ([], .bad, false)
  let bad (back : Option Char) : ReadM (Bytes × Operation × Bool) := do
    unread back
    return ([], .bad, false)
  let lengthOf (name : Bytes) (e : Option Char) : ReadM (Bytes × Operation × Bool) := do
    unread e
    return (name, if e == some '}' then .length else .bad, false)
  let named (name : Bytes) (e : Option Char) : ReadM (Bytes × Operation × Bool) := do
    let (op, orEmpty) ← readOperation e
    return (name, op, orEmpty)
  let c ← nextJoined
  match c with
  | none => bad c
  | some '}' => bad c
  | some d =>
    if startsName d then
      let (name, e) ← readRun isInName d
      named name e
    else if d.isDigit then
      let (name, e) ← readRun Char.isDigit d
      named name e
    else
      let e ← nextJoined
      if d == '#' then
        match e with
        | some f =>
          if startsName f then
            let (name, e) ← readRun isInName f
            return ← lengthOf name e
          if f.isDigit then
            let (name, e) ← readRun Char.isDigit f
            return ← lengthOf name e
          let g ← nextJoined
          if f == '}' || g != some '}' then
            unread g
            named ['#'] e
          else if isSpecialName f then lengthOf [f] g
          else bad g
        | none => named ['#'] e
      else if isSpecialName d then named [d] e
      else bad e

/-- The text up to the closing backquote, with its backslashes taken away. -/
def readBackquoted (isDouble : Bool) : ReadM Bytes := do
  repeated (fun (text : Bytes) => do
    match ← nextJoined with
    | some '\x60' => return .inr text.reverse
    | some '\\' =>
      match ← next with
      | some c =>
        let isPlain := c != '\\' && c != '\x60' && c != '$' && !(isDouble && c == '"')
        if c == '\n' then newLine
        return .inl (if isPlain then c :: '\\' :: text else c :: text)
      | none => refuse "EOF in backquote substitution"
    | some c =>
      if c == '\n' then newLine
      return .inl (c :: text)
    | none => refuse "EOF in backquote substitution") manySteps []

/-- Reads commands from another text, and then goes on where it was. -/
def within (text : Bytes) (commands : ReadM (Option Script)) : ReadM (Option Script) := do
  let outer ← get
  set { outer with sources := [⟨text, [], false⟩], line := 1, awaited := [], isPushed := false }
  let body ← commands
  modify fun st => { st with
    sources := outer.sources, line := outer.line, awaited := outer.awaited, isPushed := false, last := .newline }
  return body

/-- What scanning needs from the grammar: commands up to a closing sign. -/
structure Inner where
  /-- Commands to the end of the text. -/
  commands : ReadM (Option Script)
  /-- Commands to a closing parenthesis, which is read too. -/
  enclosed : ReadM (Option Script)

/-- After a dollar sign. -/
def scanDollar (inner : Inner) (s : Scan) : ReadM Scan := do
  let c ← nextJoined
  let starts := match c with
    | some d => d == '(' || d == '{' || startsName d || isSpecialName d
    | none => false
  if (← get).checks.mark || !starts then
    unread c
    return s.put (.char '$' false)
  if c == some '(' then
    let d ← nextJoined
    if d == some '(' then
      return { s.put .openSum with frame := .start .sum true, below := s.frame :: s.below }
    unread d
    return s.put (.output (← inner.enclosed))
  let (name, op, orEmpty) ← readParameter c
  let isOpen := op != .value || orEmpty
  let mode := match op with
    | .cutStart _ | .cutEnd _ => Mode.base
    | _ => if s.frame.mode == .sum then .double else s.frame.mode
  let s := s.put (.openParameter (String.ofList name) op orEmpty)
  if !isOpen then return s.put .close
  let s :=
    if mode != s.frame.mode || s.frame.innerQuote then
      { s with frame := { Frame.start mode (mode != .base) with isParameter := true }, below := s.frame :: s.below }
    else s
  let f := s.frame
  return { s with
    frame := { f with depth := f.depth + 1, quotedDepth := if f.isDouble then f.quotedDepth + 1 else f.quotedDepth } }

/-- One character of a word: the word goes on, or has ended before the character. -/
def scanChar (inner : Inner) (isDocument : Bool) (c : Option Char) (s : Scan) : ReadM (Scan ⊕ Scan) := do
  let f := s.frame
  let d := c.getD '\x00'
  let plain := s.put (.char d false)
  let quoteMark (s : Scan) : Scan := if isDocument then s else s.put .quote
  let toggled (s : Scan) : Scan :=
    quoteMark (if s.frame.depth > 0 then { s with frame := { s.frame with innerQuote := !s.frame.innerQuote } } else s)
  match charClass f.mode c with
  | .eof => return .inr s
  | .newline => if f.mode == .base && f.depth == 0 then return .inr s else return .inl plain
  | .ordinary => return .inl plain
  | .control => return .inl (s.put (.char d (!isDocument || f.isDouble || f.depth > 0)))
  | .backslash =>
    match ← next with
    | none => return .inl (s.put (.char '\\' true))
    | some '\n' =>
      newLine
      return .inl s
    | some e =>
      let staysAfter := f.isDouble && e != '\\' && e != '\x60' && e != '$' && (e != '"' || (isDocument && f.depth == 0))
        && (e != '}' || f.depth == 0)
      let s := if staysAfter then s.put (.char '\\' true) else s
      return .inl { s.put (.char e true) with quoted := true }
  | .openSingle => return .inl (quoteMark { s with frame := { f with mode := .single } })
  | .openDouble => return .inl (toggled { s with frame := { f with mode := .double, isDouble := true } })
  | .closeQuote =>
    if isDocument && f.depth == 0 then return .inl plain
    let f := if f.quotedDepth == 0 then { f with mode := .base, isDouble := false } else f
    let s := { s with frame := f, quoted := true }
    return .inl (if d == '"' then toggled s else quoteMark s)
  | .dollar => return .inl (← scanDollar inner s)
  | .closeBrace =>
    if f.innerQuote || f.depth == 0 then return .inl plain
    let s := { s with frame := { f with depth := f.depth - 1 } }
    let s :=
      if f.depth == 1 && f.isParameter then s.pop
      else { s with frame := { s.frame with quotedDepth := f.quotedDepth - 1 } }
    return .inl (s.put .close)
  | .left => return .inl { plain with frame := { f with parens := f.parens + 1 } }
  | .right =>
    if f.parens > 0 then return .inl { plain with frame := { f with parens := f.parens - 1 } }
    let e ← nextJoined
    if e == some ')' then return .inl (s.pop.put .close)
    unread e
    return .inl plain
  | .backquote =>
    if (← get).checks.mark then return .inl { plain with quoted := true }
    let text ← readBackquoted f.isDouble
    return .inl (s.put (.output (← within text inner.commands)))
  | .special => if f.depth == 0 then return .inr s else return .inl plain

/-- The mark of a document stands alone on the line that begins with a character. It is
    read with the line's end. Tabs in front are left out where that is asked for. -/
def atMark (mark : Bytes) (stripped : Bool) (c : Option Char) : ReadM (Option Char) := do
  let c ← if stripped then
      repeated (fun c => do if c == some '\t' then return .inl (← next) else return .inr c) manySteps c
    else pure c
  let text := c.toList ++ ((← get).sources.head?.map (·.text)).getD []
  if !mark.isPrefixOf text then return c
  match text.drop mark.length with
  | [] =>
    newLine
    modify fun st => { st with sources := (st.sources.head?.map ({ · with text := [] })).toList ++ st.sources.drop 1 }
    return none
  | '\n' :: rest =>
    newLine
    modify fun st => { st with sources := (st.sources.head?.map ({ · with text := rest })).toList ++ st.sources.drop 1 }
    return none
  | _ => return c

/-- Where a document ends: at a line with its mark, or with the text. -/
inductive DocumentEnd where
  | mark (mark : Bytes) (stripped : Bool)
  | text
  deriving DecidableEq, Repr

/-- Reads a word or a document from its first character; also the character that ends it. -/
def scan (inner : Inner) (mode : Mode) (document : Option DocumentEnd) (first : Option Char) :
    ReadM (Scan × Option Char) := do
  let lineStart (c : Option Char) : ReadM (Option Char) :=
    match document with
    | some (.mark mark stripped) => atMark mark stripped c
    | _ => pure c
  let start : Scan := ⟨.start mode (mode == .double), [], [], false⟩
  let (s, c) ← repeated (fun (s, c) => do
    match ← scanChar inner document.isSome c s with
    | .inr s => return .inr (s, c)
    | .inl s =>
      if c == some '\n' then
        newLine
        return .inl (s, ← lineStart (← next))
      return .inl (s, ← next)) manySteps (start, ← lineStart first)
  if s.frame.mode == .sum then refuse "Missing '))'"
  if s.frame.mode != .base && document.isNone then refuse "Unterminated quoted string"
  if s.frame.depth != 0 then refuse "Missing '\x7d'"
  return (s, c)

/-- A redirection from its sign, with the descriptor that stands before it. -/
def readOpener (fd? : Option Nat) (sign : Char) : ReadM Opener := do
  let fd := fd?.getD (if sign == '>' then 1 else 0)
  let c ← nextJoined
  match sign, c with
  | '>', some '>' => return .file fd .append
  | '>', some '|' => return .file fd .overwrite
  | _, some '&' => return .duplicate fd
  | '<', some '<' =>
    let d ← nextJoined
    if d == some '-' then return .document fd true
    unread d
    return .document fd false
  | '<', some '>' => return .file fd .both
  | _, c =>
    unread c
    return .file fd (if sign == '>' then .write else .read)

def readWord (inner : Inner) (first : Option Char) : ReadM Token := do
  let (s, c) ← scan inner .base none first
  let fd? : Option (Option Nat) :=
    match s.out with
    | [] => some none
    | [.char d false] => if d.isDigit then some (some (d.toNat - '0'.toNat)) else none
    | _ => none
  match c, fd? with
  | some '>', some fd => return .redirect (← readOpener fd '>')
  | some '<', some fd => return .redirect (← readOpener fd '<')
  | c, _ =>
    unread c
    let w := nested [] [] s.out.reverse
    modify fun st => { st with lastWord := w }
    return .word w

/-- The documents that begin here. -/
def readDocuments (inner : Inner) : ReadM Unit := do
  let awaited := (← get).awaited
  modify fun st => { st with awaited := [] }
  for d in awaited do
    let (s, _) ← scan inner (if d.expanded then .double else .single) (some (.mark d.mark d.stripped)) (← next)
    modify fun st => { st with documents := (d.number, nested [] [] s.out.reverse) :: st.documents }

/-- A text that is expanded like a document. -/
def readExpanded (inner : Inner) : ReadM Word := do
  let (s, _) ← scan inner .double (some .text) (← next)
  return nested [] [] s.out.reverse

/-! ## Tokens -/

/-- The next token, whatever it may be there. -/
def readRaw (inner : Inner) : ReadM Token := do
  if (← get).isPushed then
    modify fun st => { st with isPushed := false }
    return (← get).last
  let second (d : Char) (two one : Token) : ReadM Token := do
    let c ← nextJoined
    if c == some d then return two
    unread c
    return one
  modify fun st => { st with inUse := st.sources.flatMap fun s => if s.text.any (· != ' ') then s.aliases else [] }
  let t ← repeated (fun () => do
    let c ← nextJoined
    match c with
    | some ' ' | some '\t' => return .inl ()
    | some '#' =>
      repeated (fun () => do
        let c ← next
        if c == some '\n' || c.isNone then
          unread c
          return .inr ()
        return .inl ()) manySteps ()
      return .inl ()
    | some '\n' =>
      newLine
      return .inr .newline
    | none => return .inr .eof
    | some '&' => return .inr (← second '&' .and .background)
    | some '|' => return .inr (← second '|' .or .pipe)
    | some ';' => return .inr (← second ';' .endClause .semi)
    | some '(' => return .inr .left
    | some ')' => return .inr .right
    | c => return .inr (← readWord inner c)) manySteps ()
  modify fun st => { st with last := t }
  return t

def keyword? (w : Word) : Option Reserved :=
  (plainText? w).bind fun cs => (Reserved.all.find? fun (_, s) => s.toList == cs).map (·.1)

/-- An alias with a name, unless its text is just being read. -/
def alias? (w : Word) : ReadM (Option (String × Bytes)) := do
  let st ← get
  return do
    let name := String.ofList (← plainText? w)
    if st.inUse.contains name then none
    else (st.aliases.lookup name).map (name, ·)

/-- The next token under the checks that were set, which are used up. -/
def readToken (inner : Inner) : ReadM Token := do
  let checks := (← get).checks
  repeated (fun () => do
    let t ← repeated (fun () => do
      match ← readRaw inner with
      | .newline =>
        if !checks.newlines then return .inr .newline
        readDocuments inner
        modify fun st => { st with checks := .none }
        return .inl ()
      | t => return .inr t) manySteps ()
    let later := (← get).checks
    modify fun st => { st with checks := .none }
    match t with
    | .word w =>
      match if checks.keywords || later.keywords then keyword? w else none with
      | some r =>
        modify fun st => { st with last := .reserved r }
        return .inr (.reserved r)
      | none =>
        let found ← if checks.aliases || later.aliases then alias? w else pure none
        match found with
        | some (name, text) =>
          modify fun st => { st with
            sources := ⟨text, name :: st.inUse, text.getLast? == some ' ' || text.getLast? == some '\t'⟩ :: st.sources }
          return .inl ()
        | none => return .inr t
    | t => return .inr t) manySteps ()

def unreadToken : ReadM Unit := modify fun st => { st with isPushed := true }

def check (newlines keywords aliases : Bool) : ReadM Unit :=
  modify fun st => { st with checks := ⟨newlines, keywords, aliases, false⟩ }

/-- A token that cannot stand here; `expected` could. -/
def unexpected (expected : Option Token) : ReadM α := do
  let found := (← get).last.label ++ " unexpected"
  match expected with
  | some t => refuse (found ++ " (expecting " ++ t.label ++ ")")
  | none => refuse found

end PlotTypes.Command
