/-
  PlotTypes.Package.ValueType — Python types for the type tags of a schema.

  The tags are a closed set. A tag outside it has no type: there is no fallback.
-/

namespace PlotTypes.Package

inductive Primitive where
  | sequence
  | text
  | dynamic
  | number
  | integer
  | boolean
  deriving DecidableEq, Repr

namespace Primitive

def tags : Primitive → List String
  | .sequence => ["data_array", "info_array"]
  | .text => ["string", "color", "colorscale", "subplotid"]
  | .dynamic => ["enumerated", "flaglist", "any"]
  | .number => ["number", "angle"]
  | .integer => ["integer"]
  | .boolean => ["boolean"]

def all : List Primitive := [.sequence, .text, .dynamic, .number, .integer, .boolean]

def ofTag? (tag : String) : Option Primitive := all.find? (·.tags.contains tag)

def typeName : Primitive → String
  | .sequence => "List"
  | .text => "str"
  | .dynamic => "Any"
  | .number => "Number"
  | .integer => "int"
  | .boolean => "bool"

/-- One value in words. -/
def one : Primitive → String
  | .sequence => "a list"
  | .text => "a string"
  | .dynamic => "any value"
  | .number => "a number"
  | .integer => "an integer"
  | .boolean => "a boolean"

/-- Several values in words. -/
def many : Primitive → String
  | .sequence => "lists"
  | .text => "strings"
  | .dynamic => "values"
  | .number => "numbers"
  | .integer => "integers"
  | .boolean => "booleans"

end Primitive

/-- A type with what it accepts in words. -/
structure ValueType where
  type : String
  summary : String
  deriving DecidableEq, Repr

def ValueType.of (p : Primitive) (arrayOk : Bool) : ValueType :=
  if arrayOk then
    ⟨"Union[" ++ p.typeName ++ ", List[" ++ p.typeName ++ "]]", p.one ++ ", or an ordered sequence of " ++ p.many⟩
  else ⟨p.typeName, p.one⟩

def valueType? (tag : String) (arrayOk : Bool) : Option ValueType :=
  (Primitive.ofTag? tag).map (ValueType.of · arrayOk)

end PlotTypes.Package
