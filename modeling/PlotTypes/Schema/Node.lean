/-
  PlotTypes.Schema.Node — the tree of plot attributes.

  A node is an attribute with the attributes inside it. A leaf carries a type tag; a
  compound carries children; an array element is a compound that stands for the items
  of its container: it has the container's property name and the element's own name. The
  root is the unnamed compound above all traces.

  A path is the list of names from below the root down to a node. `root` is what assigns
  paths, whatever they were before: `Node.placed_placed` says that a second assignment
  changes nothing.
-/

import PlotTypes.Python.Identifier
import PlotTypes.Python.Literal

namespace PlotTypes.Schema

open PlotTypes.Python

/-- What is known of a node besides its children. -/
structure Attribute where
  name : String
  /-- The name under which the owner holds it. -/
  property : String
  className : String
  parameter : String
  description : Option String
  tag : Option String
  isCompound : Bool
  isElement : Bool
  /-- A sequence of values is accepted where one value is. -/
  arrayOk : Bool
  /-- The default value, as a literal. -/
  defaultValue : String
  path : List String
  deriving DecidableEq, Repr, Inhabited

structure Node extends Attribute where
  children : List Node
  deriving Repr, Inhabited

/-! ## Equality -/

mutual

def Node.decideEq (a b : Node) : Decidable (a = b) :=
  match a, b with
  | ⟨x, xs⟩, ⟨y, ys⟩ =>
    match decEq x y, Node.decideEqAll xs ys with
    | isTrue h, isTrue hs => isTrue (by rw [h, hs])
    | isFalse h, _ => isFalse fun e => h (congrArg Node.toAttribute e)
    | _, isFalse h => isFalse fun e => h (congrArg Node.children e)

def Node.decideEqAll : (xs ys : List Node) → Decidable (xs = ys)
  | [], [] => isTrue rfl
  | [], _ :: _ => isFalse nofun
  | _ :: _, [] => isFalse nofun
  | x :: xs, y :: ys =>
    match Node.decideEq x y, Node.decideEqAll xs ys with
    | isTrue h, isTrue hs => isTrue (by rw [h, hs])
    | isFalse h, _ => isFalse fun e => h (List.cons.inj e).1
    | _, isFalse h => isFalse fun e => h (List.cons.inj e).2

end

instance : DecidableEq Node := Node.decideEq

namespace Node

/-! ## Construction -/

/-- A simple attribute without a tag; every other one is built from it. -/
def named (name : String) : Node where
  name
  property := name
  className := className name
  parameter := parameterName name
  description := none
  tag := none
  isCompound := false
  isElement := false
  arrayOk := false
  defaultValue := noneLiteral
  path := []
  children := []

def leaf (name tag : String) : Node := { named name with tag := some tag }

def compound (name : String) (children : List Node) : Node := { named name with isCompound := true, children }

def element (container name : String) (children : List Node) : Node :=
  { compound name children with
    property := container
    parameter := parameterName container
    isElement := true }

mutual

/-- The node with paths that start with `above`, its own and those below it. -/
def placed (above : List String) (n : Node) : Node :=
  match n with
  | ⟨a, children⟩ => ⟨{ a with path := above ++ [a.name] }, placedAll (above ++ [a.name]) children⟩

def placedAll (above : List String) : List Node → List Node
  | [] => []
  | n :: r => placed above n :: placedAll above r

end

def root (children : List Node) : Node := compound "" (placedAll [] children)

/-! ## Classification -/

def isSimple (n : Node) : Bool := !n.isCompound && !n.isElement

def isRoot (n : Node) : Bool := n.isCompound && n.name.isEmpty && n.path.isEmpty

def compoundChildren (n : Node) : List Node := n.children.filter (·.isCompound)

def hasCompoundChildren (n : Node) : Bool := n.children.any (·.isCompound)

/-! ## Paths as text -/

/-- The path as the end of a Python module path. -/
def packagePath (n : Node) : String := String.join (n.path.map ("." ++ ·))

def dottedPath (n : Node) : String := String.intercalate "." n.path

/-- What a node is called in messages. -/
def displayPath (n : Node) : String :=
  if n.isRoot then "<root>" else if n.path.isEmpty then n.name else n.dottedPath

/-! ## Placing -/

mutual

theorem placed_placed (above other : List String) (n : Node) : placed above (placed other n) = placed above n := by
  cases n with
  | mk a children => simp only [placed, placedAll_placedAll]

theorem placedAll_placedAll (above other : List String) (ns : List Node) :
    placedAll above (placedAll other ns) = placedAll above ns := by
  cases ns with
  | nil => rfl
  | cons n r => simp only [placedAll, placed_placed, placedAll_placedAll]

end

end Node

end PlotTypes.Schema
