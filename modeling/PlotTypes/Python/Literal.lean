/-
  PlotTypes.Python.Literal — JSON values written as Python literals.

  Strings stand between single quotes. A backslash, a single quote and a control
  character are escaped, everything else stands for itself, so a literal has no line
  break. Numbers keep their JSON text, and lists and dicts keep their order.
-/

import PlotTypes.Json.Value
import PlotTypes.Text.Blank

namespace PlotTypes.Python

open PlotTypes.Text

/-! ## Strings -/

/-- `\x` and two hexadecimal digits. -/
def hexEscape (c : Char) : List Char :=
  ['\\', 'x', Nat.digitChar (c.toNat / 16), Nat.digitChar (c.toNat % 16)]

def escapeChar (c : Char) : List Char :=
  if c == '\\' then ['\\', '\\']
  else if c == '\'' then ['\\', '\'']
  else if c == '\n' then ['\\', 'n']
  else if c == '\r' then ['\\', 'r']
  else if c == '\t' then ['\\', 't']
  else if isControl c then hexEscape c
  else [c]

def quoted (s : List Char) : List Char := '\'' :: s.flatMap escapeChar ++ ['\'']

def stringLiteral (s : String) : String := String.ofList (quoted s.toList)

/-! ## Values -/

def separator : List Char := [',', ' ']

mutual

def literalChars : Json → List Char
  | .null => "None".toList
  | .bool true => "True".toList
  | .bool false => "False".toList
  | .number n => n.text.toList
  | .string s => quoted s.toList
  | .array items => '[' :: itemChars items ++ [']']
  | .object members => '{' :: memberChars members ++ ['}']

def itemChars : List Json → List Char
  | [] => []
  | v :: r => literalChars v ++ (if r.isEmpty then [] else separator ++ itemChars r)

def memberChars : List (String × Json) → List Char
  | [] => []
  | (key, v) :: r =>
    quoted key.toList ++ ':' :: ' ' :: literalChars v ++ (if r.isEmpty then [] else separator ++ memberChars r)

end

def literal (v : Json) : String := String.ofList (literalChars v)

/-- The literal of a missing default. -/
def noneLiteral : String := "None"

end PlotTypes.Python
