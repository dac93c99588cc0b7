/-
  PlotTypes.Schema.Error — why a document gives no valid attribute tree.
-/

import PlotTypes.Json.Reader

namespace PlotTypes.Schema

/-- What is wrong with the shape of a trace or an attribute. -/
inductive ShapeFault where
  | noAttributes
  | tagNotString
  | itemsNotObject
  | noItem
  | manyItems
  | itemNotObject
  deriving DecidableEq, Repr

def ShapeFault.message : ShapeFault → String
  | .noAttributes => "trace has no attributes"
  | .tagNotString => "valType is not a string"
  | .itemsNotObject => "items is not an object"
  | .noItem => "array container has no item"
  | .manyItems => "array container declares more than one item type"
  | .itemNotObject => "array item is not an object"

/-- What keeps a tree from becoming a package. -/
inductive Violation where
  | untyped
  | empty
  | repeatedProperty (property : String)
  | reservedParameter
  | repeatedParameter (property parameter : String)
  | notIdentifier (name : String)
  deriving DecidableEq, Repr

/-- The name of the instance in every generated method. -/
def receiver : String := "self"

def Violation.message : Violation → String
  | .untyped => "leaf attribute has no type tag"
  | .empty => "compound attribute has no attributes"
  | .repeatedProperty property => s!"duplicate attribute '{property}'"
  | .reservedParameter => s!"parameter name '{receiver}' is reserved"
  | .repeatedParameter property parameter => s!"attribute '{property}' maps to duplicate parameter '{parameter}'"
  | .notIdentifier name => s!"'{name}' is not a valid Python identifier"

inductive Error where
  | malformed (fault : Json.Fault)
  | missingSection (name : String)
  | badShape (path : String) (fault : ShapeFault)
  | invalid (path : String) (violation : Violation)
  deriving DecidableEq, Repr

def Error.message : Error → String
  | .malformed fault => "JSON parsing error: " ++ fault.message
  | .missingSection name => s!"missing required section '{name}'"
  | .badShape path fault => s!"invalid schema structure at '{path}': " ++ fault.message
  | .invalid path violation => s!"validation error at '{path}': " ++ violation.message

end PlotTypes.Schema
