/-
  PlotTypes.Command.Expansion — words as the texts they stand for.

  Parameters, sums and the output of commands are put in, then the word is split into
  fields, then fields that are patterns become the names of files. A word in quotes, an
  assigned one or a document is not split.
-/

import PlotTypes.Command.Fields
import PlotTypes.Command.Sum

namespace PlotTypes.Command

/-- How a word is expanded. -/
structure Manner where
  /-- In double quotes. -/
  isQuoted : Bool
  /-- To be split into fields. -/
  isFull : Bool
  /-- The word of a parameter's operation. -/
  isInner : Bool
  /-- A tilde may begin the word, or anything after a colon. -/
  tilde : Bool
  tildes : Bool
  deriving DecidableEq, Repr

namespace Manner

def full : Manner := ⟨false, true, false, true, false⟩

def assigned : Manner := ⟨false, false, false, true, true⟩

def single : Manner := ⟨false, false, false, true, false⟩

def document : Manner := ⟨true, false, false, false, false⟩

end Manner

/-- The output of commands in a child of the shell. -/
abbrev Capture := Option Script → Run Bytes

/-! ## Parameters -/

/-- The separators of fields. -/
def Shell.separators (sh : Shell) : List Char := (sh.value? "IFS").getD blankSeparators

def Shell.optionText (sh : Shell) : Bytes := "ubaCEVvxsnmiIfe".toList.filter sh.options.contains

def Shell.positional? (sh : Shell) (i : Nat) : Option Bytes :=
  if i = 0 then some sh.name else sh.parameters[i - 1]?

/-- What stands between the parameters, where they are put together. -/
def Shell.joint (sh : Shell) (m : Manner) (isEach : Bool) : List Bit :=
  let written (c : Char) : List Bit := [.glyph ⟨c, m.isQuoted⟩]
  if m.isFull && (isEach || !m.isQuoted) then
    if m.isQuoted || (sh.value? "IFS").isSome then [.gap] else written ' '
  else
    match sh.value? "IFS" with
    | none => written ' '
    | some [] => []
    | some (c :: _) => written c

/-- The value of a parameter; none for one that is not there. -/
def Shell.expanded? (sh : Shell) (m : Manner) (name : String) : Option (List Bit) :=
  let written (s : Bytes) : Option (List Bit) := some (Expanded.literal s m.isQuoted)
  match name with
  | "$" => written (digits sh.mainProcess)
  | "?" => written (digits sh.status)
  | "#" => written (digits sh.parameters.length)
  | "!" => sh.lastChild.bind fun n => written (digits n)
  | "-" => written sh.optionText
  | "@" => some ((sh.joint m true).intercalate (sh.parameters.map (Expanded.literal · m.isQuoted)))
  | "*" => some ((sh.joint m false).intercalate (sh.parameters.map (Expanded.literal · m.isQuoted)))
  | name =>
    match name.toNat? with
    | some i => (sh.positional? i).bind written
    | none => (sh.value? name).bind written

/-- How the value of a parameter is split. -/
def regionOf (sh : Shell) (m : Manner) (name : String) (bits : List Bit) : Region :=
  if !m.isQuoted then ⟨.split, bits⟩
  else if name == "@" && !sh.parameters.isEmpty then ⟨.parameters, bits⟩
  else ⟨.fixed, bits⟩

/-! ## Tildes -/

/-- The home of a user; the shell's own user has no name here. -/
def home? (sh : Shell) (user : Bytes) : Option Bytes :=
  if user.isEmpty then sh.value? "HOME" else if user == "root".toList then some "/root".toList else none

/-- The characters of a word up to the end of a user's name; none if it is quoted. -/
def userName (tildes : Bool) : Word → Option Bytes
  | .char c false :: r => if c == '/' || (tildes && c == ':') then some [] else (userName tildes r).map (c :: ·)
  | [] => some []
  | _ => none

/-! ## Words -/

/-- The end of a parameter that has no value. -/
def unsetParameter (name : String) (message : Bytes) : Run α := fail (name.toList ++ ": ".toList ++ message)

/-- How an inner word is expanded, and under which rules. -/
abbrev ExpandWith := Manner → Word → Run Expanded

def expandValue (m : Manner) (name : String) (bits? : Option (List Bit)) : Run Expanded := do
  let sh ← shell
  if bits?.isNone && sh.hasOption 'u' then unsetParameter name "parameter not set".toList
  return [regionOf sh m name (bits?.getD [])]

def expandParameter (inner : ExpandWith) (m : Manner) (name : String) (op : Operation) (orEmpty : Bool) (word : Word) :
    Run Expanded := do
  let sh ← shell
  let bits? := match sh.expanded? m name with
    | some [] => if orEmpty then none else some []
    | found => found
  match op with
  | .bad => fail "Bad substitution".toList
  | .value => expandValue m name bits?
  | .length =>
    let _ ← expandValue m name bits?
    return [regionOf sh m name (Expanded.literal (digits (bits?.getD []).length) m.isQuoted)]
  | .orElse =>
    match bits? with
    | some bits => return [regionOf sh m name bits]
    | none => inner { m with isInner := true, tilde := true } word
  | .ifSet =>
    match bits? with
    | some _ => inner { m with isInner := true, tilde := true } word
    | none => return [regionOf sh m name []]
  | .demand =>
    match bits? with
    | some bits => return [regionOf sh m name bits]
    | none =>
      let message ← inner Manner.single word
      unsetParameter name
        (if word.isEmpty then (if orEmpty then "parameter not set or null" else "parameter not set").toList
        else message.text)
  | .assign =>
    match bits? with
    | some bits => return [regionOf sh m name bits]
    | none =>
      let value := (← inner Manner.single word).text
      if !isName name.toList then fail (name.toList ++ ": bad variable name".toList)
      assign name value false
      expandValue m name ((← shell).expanded? m name)
  | .cutStart longest | .cutEnd longest =>
    let _ ← expandValue m name bits?
    let pattern := Pattern.ofGlyphs (Expanded.glyphs (← inner Manner.single word).bits)
    let value := (Expanded.glyphs (bits?.getD [])).map (·.char)
    let kept := if let .cutStart _ := op then pattern.cutStart longest value else pattern.cutEnd longest value
    return [regionOf sh m name (Expanded.literal kept m.isQuoted)]

/-- A word that is expanded from the left to the right. -/
structure Progress where
  inQuotes : Bool
  /-- A tilde here begins a user's name. -/
  atTilde : Bool
  /-- Pieces that are dealt with already. -/
  skipped : Nat
  /-- The last region first. -/
  done : List Region

def Progress.add (p : Progress) (e : Expanded) : Progress := { p with atTilde := false, done := e.reverse ++ p.done }

/-- A quote alone; the parameters in quotes are no field where there are none. -/
def expandQuote (inner : ExpandWith) (m : Manner) (p : Progress) (rest : List Piece) : Run Progress := do
  match p.inQuotes, rest with
  | false, .parameter "@" .value false [] :: .quote :: _ =>
    let e ← expandParameter inner { m with isQuoted := true } "@" .value false []
    return { p.add e with skipped := 2 }
  | _, _ => return { p.add [⟨.fixed, [.mark]⟩] with inQuotes := !p.inQuotes }

def expandChar (m : Manner) (p : Progress) (c : Char) (escaped : Bool) (rest : List Piece) : Run Progress := do
  let isQuoted := m.isQuoted || p.inQuotes
  let user? := if c == '~' && p.atTilde && !escaped && !p.inQuotes then userName m.tildes rest else none
  match user?, user?.bind (home? (← shell)) with
  | some user, some home => return { p.add [⟨.fixed, Expanded.literal home true⟩] with skipped := user.length }
  | _, _ =>
    let bit := Bit.glyph ⟨c, escaped || isQuoted⟩
    let done := match m.isInner && !isQuoted && !escaped, p.done with
      | true, ⟨.split, bits⟩ :: before => ⟨.split, bits ++ [bit]⟩ :: before
      | true, before => ⟨.split, [bit]⟩ :: before
      | false, before => ⟨.fixed, [bit]⟩ :: before
    return { p with done, atTilde := m.tildes && c == ':' && !escaped && !p.inQuotes }

def expandPiece (capture : Capture) (inner : ExpandWith) (m : Manner) (p : Progress) (rest : List Piece) :
    Piece → Run Progress
  | .quote => expandQuote inner m p rest
  | .char c escaped => expandChar m p c escaped rest
  | .parameter name op orEmpty word => do
    return p.add (← expandParameter inner { m with isQuoted := m.isQuoted || p.inQuotes } name op orEmpty word)
  | .output body => do
    let isQuoted := m.isQuoted || p.inQuotes
    let found := (← capture body).filter (· != '\x00')
    let bits := Expanded.literal (Text.dropEnd (· == '\n') found) isQuoted
    return p.add [⟨if isQuoted then .fixed else .split, bits⟩]
  | .sum word => do
    let isQuoted := m.isQuoted || p.inQuotes
    let text := (← inner Manner.document word).text
    let bits := Expanded.literal (integerText (← sumOf text)) isQuoted
    return p.add [⟨if isQuoted then .fixed else .split, bits⟩]

def expandPieces (capture : Capture) (inner : ExpandWith) (m : Manner) (p : Progress) : List Piece → Run Expanded
  | [] => return p.done.reverse
  | piece :: rest => do
    if p.skipped > 0 then expandPieces capture inner m { p with skipped := p.skipped - 1 } rest
    else expandPieces capture inner m (← expandPiece capture inner m p rest piece) rest

/-- Expands a word, whose operations go at most so deep. -/
def expandWithin (capture : Capture) : Nat → ExpandWith
  | 0, _, _ => fail "Bad substitution".toList
  | n + 1, m, w => expandPieces capture (expandWithin capture n) m ⟨false, m.tilde, 0, []⟩ w

/-- How deep operations may stand in each other. -/
def expansionDepth : Nat := 5000

def expand (capture : Capture) (m : Manner) (w : Word) : Run Expanded := expandWithin capture expansionDepth m w

/-! ## Names of files -/

/-- The names in a directory, in order. -/
def Files.namesIn (fs : Files) (p : Place) : List String :=
  ((fs.entries.filterMap fun (q, _) => if q.dropLast == p && q != [] then q.getLast? else none).eraseDups).mergeSort
    (fun a b => a ≤ b)

/-- The paths that a pattern covers, part by part, below a path that is written so far. -/
def matching (fs : Files) (place : Place) (written : Bytes) : List Pattern → List Bytes
  | [] => [written]
  | part :: r =>
    let slash : Bytes := if r.isEmpty then [] else ['/']
    if !part.isTelling then
      let name := String.ofList (part.map (·.char))
      let next := if name == "" || name == "." then place else if name == ".." then place.dropLast else place ++ [name]
      if r.isEmpty && (fs.get? next).isNone then [] else matching fs next (written ++ name.toList ++ slash) r
    else
      (Files.namesIn fs place).flatMap fun name =>
        let isHidden := name.startsWith "." && !(part.map (·.char)).head?.isEqSome '.'
        let isThere := r.isEmpty || fs.get? (place ++ [name]) == some .directory
        if part.covers (bytesOfText name) && !isHidden && isThere then
          matching fs (place ++ [name]) (written ++ bytesOfText name ++ slash) r
        else []

/-- The fields that one field stands for. -/
def withFiles (sh : Shell) (fs : Files) (field : List Bit) : List Bytes :=
  let pattern := Pattern.ofGlyphs (Expanded.glyphs field)
  let plain := (Expanded.glyphs field).map (·.char)
  if sh.hasOption 'f' || !pattern.isTelling then [plain]
  else
    let isAbsolute := plain.head? == some '/'
    match matching fs (if isAbsolute then [] else sh.place) [] (Text.pieces (Pattern.is '/') pattern) with
    | [] => [plain]
    | found => found

/-! ## What words stand for -/

def expandFields (capture : Capture) (w : Word) : Run (List Bytes) := do
  let e ← expand capture .full w
  let m ← get
  return (fields m.shell.separators none e).flatMap (withFiles m.shell m.world.files)

def expandAll (capture : Capture) (ws : List Word) : Run (List Bytes) := do
  let mut found : List Bytes := []
  for w in ws do
    found := found ++ (← expandFields capture w)
  return found

def expandText (capture : Capture) (m : Manner) (w : Word) : Run Bytes := do
  return (← expand capture m w).text

def expandPattern (capture : Capture) (w : Word) : Run Pattern := do
  return Pattern.ofGlyphs (Expanded.glyphs (← expand capture .single w).bits)

end PlotTypes.Command
