/-
  PlotTypes.Python.Identifier — which names Python takes, and the names derived from
  an attribute's name.

  Identifiers are ASCII: a letter or an underscore, then letters, digits and
  underscores, and no keyword. A class name joins the words of a name with a capital
  each; a parameter name is in lower case with underscores for hyphens. Neither
  derivation promises an identifier: that is checked on its result.
-/

import PlotTypes.Text.Case

namespace PlotTypes.Python

open PlotTypes.Text

def keywords : List String :=
  ["False", "None", "True", "and", "as", "assert", "async", "await", "break", "class", "continue", "def", "del",
    "elif", "else", "except", "finally", "for", "from", "global", "if", "import", "in", "is", "lambda", "nonlocal",
    "not", "or", "pass", "raise", "return", "try", "while", "with", "yield"]

def isKeyword (s : String) : Bool := keywords.contains s

def startsIdentifier (c : Char) : Bool := c == '_' || c.isAlpha

def continuesIdentifier (c : Char) : Bool := c == '_' || c.isAlphanum

/-- The shape of an identifier, keywords included. -/
def isWord : List Char → Bool
  | [] => false
  | c :: r => startsIdentifier c && r.all continuesIdentifier

def isIdentifier (s : String) : Bool := isWord s.toList && !isKeyword s

/-! ## Derived names -/

def isWordBreak (c : Char) : Bool := c == '_' || c == '-'

def capitalized : List Char → List Char
  | [] => []
  | c :: r => upperChar c ++ r

/-- The words of a name, cut at underscores and hyphens, each with a capital. -/
def className (name : String) : String :=
  String.ofList ((pieces isWordBreak name.toList).flatMap capitalized)

def underscored (c : Char) : Char := if c == '-' then '_' else c

def parameterName (name : String) : String := String.ofList (lower (name.toList.map underscored))

/-- The class that checks values of a property. -/
def validatorName (property : String) : String := className property ++ "Validator"

/-- The instance member that holds the value of a nested property. -/
def shadowName (property : String) : String := "_" ++ property

end PlotTypes.Python
