/-
  PlotTypes.Path — file paths as texts.

  `push` appends with a slash between, unless the path already ends with one; an
  absolute path replaces what it is pushed onto. Two paths name the same place when
  their `parts` agree: repeated and trailing slashes and inner dots do not count. A walk
  through a file system goes by `steps`, where the inner dots do count.
-/

import PlotTypes.Text.Pieces

namespace PlotTypes

structure Path where
  text : String
  deriving DecidableEq, Repr

namespace Path

def isAbsolute (p : String) : Bool := p.toList.head? == some '/'

def endsInSlash (p : String) : Bool := p.toList.getLast? == some '/'

def push (p : Path) (s : String) : Path :=
  if isAbsolute s then ⟨s⟩
  else if p.text.isEmpty || endsInSlash p.text then ⟨p.text ++ s⟩
  else ⟨p.text ++ "/" ++ s⟩

def pushAll (p : Path) (ss : List String) : Path := ss.foldl push p

def join (p q : Path) : Path := p.push q.text

/-! ## Parts -/

inductive Part where
  | root
  | here
  | up
  | name (s : String)
  deriving DecidableEq, Repr

/-- What a piece between slashes stands for. -/
def step? (piece : List Char) : Option Part :=
  if piece = [] then none
  else if piece = ['.'] then some .here
  else if piece = ['.', '.'] then some .up
  else some (.name (String.ofList piece))

/-- Every piece of a path that is not empty. -/
def steps (p : Path) : List Part :=
  (if isAbsolute p.text then [.root] else []) ++ (Text.pieces (· == '/') p.text.toList).filterMap step?

/-- A dot counts only where a relative path starts. -/
def parts (p : Path) : List Part :=
  match p.steps with
  | [] => []
  | first :: rest => first :: rest.filter (· != .here)

def samePlace (p q : Path) : Bool := p.parts == q.parts

def Part.text : Part → String
  | .root => "/"
  | .here => "."
  | .up => ".."
  | .name s => s

def ofParts (ps : List Part) : Path := (Path.mk "").pushAll (ps.map Part.text)

/-- The path without its last part; the root and the empty path have none. -/
def parent? (p : Path) : Option Path :=
  match p.parts with
  | [] | [.root] => none
  | ps => some (ofParts ps.dropLast)

/-- The path ends in a slash or a dot, so it can only name a directory. -/
def namesDirectory (p : Path) : Bool :=
  match (Text.pieces (· == '/') p.text.toList).getLast?.bind step? with
  | some (.name _) => false
  | _ => true

end Path

end PlotTypes
