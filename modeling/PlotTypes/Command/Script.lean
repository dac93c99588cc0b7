/-
  PlotTypes.Command.Script — commands of a script, as data.

  Texts are bytes, each byte the character with its number. A word is a list of pieces;
  what is between two quotes is quoted. A command knows the line that it starts in. The
  documents of a script stand in a table, where redirections find theirs by number.
-/

namespace PlotTypes.Command

abbrev Bytes := List Char

/-- What is asked of a parameter. -/
inductive Operation where
  | value
  /-- Something that cannot be asked. -/
  | bad
  | length
  | orElse
  | ifSet
  | demand
  | assign
  | cutStart (longest : Bool)
  | cutEnd (longest : Bool)
  deriving DecidableEq, Repr

/-- How a redirection opens its file. -/
inductive Opening where
  | read
  | write
  /-- Like `write`, also where files are not to be lost. -/
  | overwrite
  | append
  | both
  deriving DecidableEq, Repr

mutual

inductive Piece where
  /-- A character; an escaped one stands for itself wherever it is. -/
  | char (c : Char) (escaped : Bool)
  | quote
  /-- `orEmpty`: an empty parameter counts as none. -/
  | parameter (name : String) (op : Operation) (orEmpty : Bool) (word : List Piece)
  | output (body : Option Script)
  | sum (word : List Piece)

inductive Redirect where
  | file (fd : Nat) (mode : Opening) (name : List Piece)
  | duplicate (fd : Nat) (source : List Piece)
  /-- The document with a number, whose text is expanded or not. -/
  | document (fd : Nat) (number : Nat) (expanded : Bool)

inductive Script where
  | simple (line : Nat) (assigned words : List (List Piece)) (redirects : List Redirect)
  | pipeline (inBackground : Bool) (parts : List Script)
  | redirected (line : Nat) (body : Script) (redirects : List Redirect)
  | subshell (line : Nat) (body : Option Script) (redirects : List Redirect)
  | inBackground (body : Script) (redirects : List Redirect)
  | both (first second : Script)
  | ifTrue (first second : Script)
  | ifFalse (first second : Script)
  | not (body : Script)
  | choose (test yes : Option Script) (no : Option Script)
  | loop (until_ : Bool) (test body : Option Script)
  | each (line : Nat) (name : String) (words : List (List Piece)) (body : Option Script)
  | select (line : Nat) (word : List Piece) (clauses : List (List (List Piece) × Option Script))
  | define (line : Nat) (name : String) (body : Script)

end

instance : Inhabited Piece := ⟨.quote⟩

instance : Inhabited Script := ⟨.simple 1 [] [] []⟩

abbrev Word := List Piece

/-- The text of a word that is written as it is. -/
def plainText? : Word → Option Bytes
  | [] => some []
  | .char c false :: r => (plainText? r).map (c :: ·)
  | _ :: _ => none

/-- The characters of a word without its quotes; other pieces have none. -/
def unquoted : Word → Bytes
  | [] => []
  | .char c _ :: r => c :: unquoted r
  | _ :: r => unquoted r

/-- The documents of a script by number. -/
abbrev Documents := List (Nat × Word)

/-! ## Characters of names -/

def startsName (c : Char) : Bool := c.isAlpha || c == '_'

def isInName (c : Char) : Bool := c.isAlphanum || c == '_'

def isName (cs : Bytes) : Bool :=
  match cs with
  | [] => false
  | c :: r => startsName c && r.all isInName

/-- Parameters that are named by a sign. -/
def isSpecialName (c : Char) : Bool := "!#$*-?@".toList.contains c || c.isDigit

end PlotTypes.Command
