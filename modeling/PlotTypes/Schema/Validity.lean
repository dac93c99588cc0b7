/-
  PlotTypes.Schema.Validity — the trees that give a usable package.

  Every leaf has a type tag, and every compound but the root has attributes. Inside one
  compound property names differ, parameter names differ and none is the receiver's, and
  both are identifiers. The check goes child by child, each one with all below it before
  the next, and reports the first violation: a repetition at the compound, every other
  one at the node itself.
-/

import PlotTypes.Schema.Node
import PlotTypes.Schema.Error

namespace PlotTypes.Schema

open PlotTypes.Python

/-- What is wrong with `n` as a child of `owner`, given the property names and the
    parameter names of the children before it. -/
def childError? (owner n : Node) (properties parameters : List String) : Option Error :=
  if properties.contains n.property then some (.invalid owner.displayPath (.repeatedProperty n.property))
  else if n.parameter == receiver then some (.invalid n.displayPath .reservedParameter)
  else if parameters.contains n.parameter then
    some (.invalid owner.displayPath (.repeatedParameter n.property n.parameter))
  else if !isIdentifier n.property then some (.invalid n.displayPath (.notIdentifier n.property))
  else if !isIdentifier n.parameter then some (.invalid n.displayPath (.notIdentifier n.parameter))
  else none

/-- What is wrong with a node itself. -/
def ownError? (n : Node) : Option Error :=
  if !n.isCompound then if n.tag.isNone then some (.invalid n.displayPath .untyped) else none
  else if n.children.isEmpty && !n.isRoot then some (.invalid n.displayPath .empty)
  else none

mutual

/-- The first violation in a tree. -/
def violation? (n : Node) : Option Error :=
  match n with
  | ⟨a, children⟩ =>
    let n : Node := ⟨a, children⟩
    (ownError? n).or (if a.isCompound then childViolation? n [] [] children else none)

def childViolation? (owner : Node) (properties parameters : List String) : List Node → Option Error
  | [] => none
  | n :: r =>
    (childError? owner n properties parameters).or <|
      (violation? n).or <|
        childViolation? owner (n.property :: properties) (n.parameter :: parameters) r

end

def validate (n : Node) : Except Error Unit :=
  match violation? n with
  | some e => .error e
  | none => .ok ()

end PlotTypes.Schema
