/-
  PlotTypes.Toml.Reader — reading TOML documents.

  A document is a list of lines, each with a key and its value, a table header, the
  header of a repeated table, or nothing; a comment may end any of them. A line is
  applied to the document so far, and the first one that cannot be read or applied
  makes the whole document unreadable.
-/

import PlotTypes.Toml.Scalar

namespace PlotTypes.Toml

def isSpace (c : Char) : Bool := c == ' ' || c == '\t'

def skipSpace (cs : List Char) : List Char := cs.dropWhile isSpace

/-- A control character that may not stand in a line; a tab may. -/
def isForbidden (c : Char) : Bool := (c.toNat < 0x20 && c != '\t') || c.toNat == 0x7F

/-- The text after one line break. -/
def newline? : List Char → Option (List Char)
  | '\n' :: r => some r
  | '\r' :: '\n' :: r => some r
  | _ => none

/-- The end of a line after a comment, which runs up to it. -/
def skipComment (cs : List Char) : Option (List Char) :=
  match cs with
  | '#' :: r =>
    let atEnd := r.dropWhile fun c => !isForbidden c
    if atEnd.isEmpty || (newline? atEnd).isSome then some atEnd else none
  | cs => some cs

/-! ## Strings -/

/-- Drops spaces and line breaks. -/
def skipSpaceAndBreaks : List Char → List Char
  | '\n' :: r => skipSpaceAndBreaks r
  | '\r' :: '\n' :: r => skipSpaceAndBreaks r
  | c :: r => if isSpace c then skipSpaceAndBreaks r else c :: r
  | [] => []

/-- The character of `digits` hexadecimal digits, and the rest. -/
def codePoint (digits : Nat) (cs : List Char) : Option (Char × List Char) :=
  let ds := cs.take digits
  let code := Scalar.natOf 16 ds
  if ds.length = digits ∧ ds.all (Scalar.digitIn 16) ∧ (code < 0xD800 ∨ (0xDFFF < code ∧ code < 0x110000)) then
    some (Char.ofNat code, cs.drop digits)
  else none

/-- The character of an escape, from after its backslash. -/
def readEscape : List Char → Option (Char × List Char)
  | 'x' :: r => codePoint 2 r
  | 'u' :: r => codePoint 4 r
  | 'U' :: r => codePoint 8 r
  | c :: r =>
    ([('b', '\x08'), ('t', '\t'), ('n', '\n'), ('f', '\x0c'), ('r', '\r'), ('e', '\x1b'), ('"', '"'),
      ('\\', '\\')].lookup c).map (·, r)
  | [] => none

/-- A backslash at the end of a line takes all blanks and line breaks after it away. -/
def lineContinues (cs : List Char) : Option (List Char) :=
  if (newline? (skipSpace cs)).isSome then some (skipSpaceAndBreaks (skipSpace cs)) else none

/-- The number of marks that a text starts with. -/
def runLength (mark : Char) (cs : List Char) : Nat := (cs.takeWhile (· == mark)).length

/-- The rest of a string after `read`, last character first. A basic string knows escapes;
    a multi-line one holds line breaks, and up to two marks before its last three. -/
def readText (mark : Char) (escapes multiline : Bool) (fuel : Nat) (read : List Char) (cs : List Char) : Option (String × List Char) :=
  match fuel with
  | 0 => none
  | fuel + 1 =>
    match cs with
    | [] => none
    | c :: r =>
      if c == mark then
        if !multiline then some (String.ofList read.reverse, r)
        else
          let marks := runLength mark cs
          if marks < 3 then readText mark escapes multiline fuel (c :: read) r
          else if marks ≤ 5 then
            some (String.ofList (List.replicate (marks - 3) mark ++ read).reverse, cs.drop marks)
          else none
      else if c == '\\' && escapes then
        match (if multiline then lineContinues r else none) with
        | some r => readText mark escapes multiline fuel read r
        | none =>
          match readEscape r with
          | some (d, r) => readText mark escapes multiline fuel (d :: read) r
          | none => none
      else if multiline && (newline? cs).isSome then
        if c == '\n' then readText mark escapes multiline fuel ('\n' :: read) r
        else readText mark escapes multiline fuel ('\n' :: '\r' :: read) (r.drop 1)
      else if isForbidden c then none
      else readText mark escapes multiline fuel (c :: read) r

/-- A string from its first mark on; `multiline` ones are allowed as values only. -/
def readString (allowMultiline : Bool) (cs : List Char) : Option (String × List Char) :=
  match cs with
  | [] => none
  | mark :: r =>
    let escapes := mark == '"'
    if allowMultiline && 3 ≤ runLength mark cs then
      let r := cs.drop 3
      readText mark escapes true (r.length + 1) [] ((newline? r).getD r)
    else readText mark escapes false (r.length + 1) [] r

def startsString (c : Char) : Bool := c == '"' || c == '\''

/-! ## Keys -/

def inBareKey (c : Char) : Bool := c.isAlphanum || c == '_' || c == '-'

def readSimpleKey (cs : List Char) : Option (String × List Char) :=
  match cs with
  | [] => none
  | c :: _ =>
    if startsString c then readString false cs
    else
      let key := cs.takeWhile inBareKey
      if key.isEmpty then none else some (String.ofList key, cs.drop key.length)

/-- The greatest number of keys in a dotted key. -/
def longestPath : Nat := 80

/-- The keys of a dotted key, blanks around the dots ignored, and the rest without blanks
    in front. -/
def readPath (fuel : Nat) (cs : List Char) : Option (List String × List Char) :=
  match fuel with
  | 0 => none
  | fuel + 1 => do
    let (key, r) ← readSimpleKey (skipSpace cs)
    match skipSpace r with
    | '.' :: r =>
      let (keys, r) ← readPath fuel r
      return (key :: keys, r)
    | r => return ([key], r)

def readKey (cs : List Char) : Option (List String × List Char) := do
  let (keys, r) ← readPath cs.length.succ cs
  if keys.length ≤ longestPath then return (keys, r) else none

/-- A dotted key as the path to its table and its last key. -/
def splitKey (keys : List String) : List String × String := (keys.dropLast, keys.getLast?.getD "")

/-! ## Values -/

/-- Drops blanks, line breaks and comments between the items of an array or inline table. -/
def skipFiller (fuel : Nat) (cs : List Char) : Option (List Char) :=
  match fuel with
  | 0 => none
  | fuel + 1 =>
    let cs := skipSpaceAndBreaks cs
    match cs with
    | '#' :: _ => (skipComment cs).bind (skipFiller fuel)
    | cs => some cs

def readToken (cs : List Char) : Option (Toml × List Char) :=
  let (token, rest) := Scalar.splitToken cs
  (Scalar.ofToken? token).map (·, rest)

mutual

/-- The value at the start of a text. `fuel` bounds the calls, `depth` the nesting. -/
def readValue (fuel depth : Nat) (cs : List Char) : Option (Toml × List Char) :=
  match fuel with
  | 0 => none
  | fuel + 1 =>
    match cs with
    | [] => none
    | c :: r =>
      if startsString c then (readString true cs).map fun (s, r) => (.string s, r)
      else if c == '[' then
        match depth with
        | 0 => none
        | depth + 1 => readItems fuel depth [] r
      else if c == '{' then
        match depth with
        | 0 => none
        | depth + 1 =>
          readInline fuel depth [] r
      else readToken cs

/-- The rest of an array after `items`, last one first. -/
def readItems (fuel depth : Nat) (items : List Toml) (cs : List Char) : Option (Toml × List Char) :=
  match fuel with
  | 0 => none
  | fuel + 1 => do
    match ← skipFiller cs.length.succ cs with
    | ']' :: r => return (.array items.reverse, r)
    | cs =>
      let (v, r) ← readValue fuel depth cs
      match ← skipFiller r.length.succ r with
      | ',' :: r => readItems fuel depth (v :: items) r
      | ']' :: r => return (.array (v :: items).reverse, r)
      | _ => none

/-- The rest of an inline table after `entries`, from a key or the end on. -/
def readInline (fuel depth : Nat) (entries : Entries) (cs : List Char) : Option (Toml × List Char) :=
  match fuel with
  | 0 => none
  | fuel + 1 => do
    match ← skipFiller cs.length.succ cs with
    | '}' :: r => return (.table (ofEntries entries), r)
    | cs =>
      let (keys, r) ← readKey cs
      match r with
      | '=' :: r =>
        let (v, r) ← readValue fuel depth (skipSpace r)
        let (path, key) := splitKey keys
        let entries ← entries.assign path key v .header
        match ← skipFiller r.length.succ r with
        | ',' :: r => readInline fuel depth entries r
        | '}' :: r => return (.table (ofEntries entries), r)
        | _ => none
      | _ => none

end

/-! ## Documents -/

def deepest : Nat := 80

inductive Statement where
  | nothing
  | assign (path : List String) (key : String) (v : Toml)
  | openTable (path : List String) (key : String)
  | openElement (path : List String) (key : String)

/-- The statement at the start of a line, without what follows it. -/
def readStatement (cs : List Char) : Option (Statement × List Char) :=
  match skipSpace cs with
  | [] => some (.nothing, [])
  | '[' :: '[' :: r => do
    match ← readKey r with
    | (keys, ']' :: ']' :: r) => return (.openElement (splitKey keys).1 (splitKey keys).2, r)
    | _ => none
  | '[' :: r => do
    match ← readKey r with
    | (keys, ']' :: r) => return (.openTable (splitKey keys).1 (splitKey keys).2, r)
    | _ => none
  | c :: r =>
    if c == '#' || (newline? (c :: r)).isSome then some (.nothing, c :: r)
    else do
      match ← readKey (c :: r) with
      | (keys, '=' :: r) =>
        let (v, r) ← readValue (2 * r.length + 2) deepest (skipSpace r)
        return (.assign (splitKey keys).1 (splitKey keys).2 v, r)
      | _ => none

/-- A document so far, and the path of the table that keys go to. -/
structure Draft where
  entries : Entries
  current : List String

def Draft.apply (d : Draft) : Statement → Option Draft
  | .nothing => some d
  | .assign path key v =>
    let change (o : Origin) (inner : Entries) : Option Entries := inner.assign path key v o
    (d.entries.alter .onTheWay change .header d.current).map fun es => { d with entries := es }
  | .openTable path key => (d.entries.openTable path key).map fun es => ⟨es, path ++ [key]⟩
  | .openElement path key => (d.entries.openElement path key).map fun es => ⟨es, path ++ [key]⟩

/-- Reads a document line by line. -/
def readLines (fuel : Nat) (d : Draft) (cs : List Char) : Option Draft :=
  match fuel with
  | 0 => none
  | fuel + 1 => do
    let (statement, r) ← readStatement cs
    let d ← d.apply statement
    let r ← skipComment (skipSpace r)
    if r.isEmpty then return d
    readLines fuel d (← newline? r)

def dropByteOrderMark : List Char → List Char
  | '\ufeff' :: r => r
  | cs => cs

/-- The top-level entries of a document. -/
def read (text : String) : Option (List (String × Toml)) :=
  let cs := dropByteOrderMark text.toList
  (readLines cs.length.succ ⟨[], []⟩ cs).map fun d => ofEntries d.entries

end PlotTypes.Toml
