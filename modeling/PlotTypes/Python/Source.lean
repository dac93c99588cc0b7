/-
  PlotTypes.Python.Source — declarations written as Python source.

  Every function gives the lines of a declaration, and a source text is its lines with
  a line feed after each. Names of properties are written as string literals where they
  are data. Documentation is escaped so that it cannot end its docstring: a backslash
  is doubled, and each quote of three in a row is escaped.
-/

import PlotTypes.Python.Declaration
import PlotTypes.Python.Identifier
import PlotTypes.Python.Literal

namespace PlotTypes.Python

open PlotTypes.Text

def header : String := "# @generated by plotgen. Do not edit."

/-- The text of source lines. -/
def sourceText (lines : List String) : String := String.join (lines.map (· ++ "\n"))

def methodIndent : String := "    "
def bodyIndent : String := "        "
def textIndent : String := "            "

def inBody (line : String) : String := bodyIndent ++ line

/-! ## Documentation -/

def escapeBackslash (c : Char) : List Char := if c == '\\' then ['\\', '\\'] else [c]

/-- Escapes the quotes of three in a row, from the left and without overlap. -/
def escapeTriple : List Char → List Char
  | '"' :: '"' :: '"' :: r => '\\' :: '"' :: '\\' :: '"' :: '\\' :: '"' :: escapeTriple r
  | c :: r => c :: escapeTriple r
  | [] => []

def escapeDoc (line : List Char) : List Char := escapeTriple (line.flatMap escapeBackslash)

/-- A line of documentation after `indent`; a blank one is empty. -/
def docLine (indent line : String) : String :=
  let escaped := escapeDoc line.toList
  if allBlank escaped then "" else indent ++ String.ofList escaped

/-- A paragraph of wrapped lines: the first one is indented here, the others already are. -/
def paragraphLines (indent : String) : List String → List String
  | [] => []
  | first :: later => docLine indent first :: later.map (docLine "")

def docDelimiter : String := inBody "\"\"\""

/-- Paragraphs with an empty line between two of them. -/
def paragraphsLines (indent : String) : List (List String) → List String
  | [] => []
  | p :: r => paragraphLines indent p ++ (if r.isEmpty then [] else "" :: paragraphsLines indent r)

def docBlockLines (doc : DocBlock) : List String :=
  [docDelimiter, inBody s!"Construct a new {doc.title} object", "", inBody "Parameters", inBody "----------"] ++
    doc.parameters.flatMap (fun p => inBody p.name :: paragraphLines textIndent p.lines) ++
    ["", inBody "Returns", inBody "-------", inBody doc.result, docDelimiter]

/-! ## Imports -/

def ImportedName.source (n : ImportedName) : String :=
  match n.localName with
  | some a => n.name ++ " as " ++ a
  | none => n.name

/-- An import of no names is not written; one plain name stands without parentheses. -/
def Import.lines : Import → List String
  | .all source => [s!"from {source} import *"]
  | .names _ [] => []
  | .names source [⟨name, none⟩] => [s!"from {source} import {name}"]
  | .names source imported =>
    [s!"from {source} import (" ++ String.intercalate ", " (imported.map (·.source)) ++ ")"]

/-! ## Callables -/

def signatureLines (name : String) (parameters : List Parameter) : List String :=
  [methodIndent ++ s!"def {name}(", inBody "self,"] ++
    parameters.map (fun p => inBody (p.name ++ "=" ++ p.defaultValue ++ ",")) ++ [methodIndent ++ "):"]

def getterLine (p : Property) : String :=
  match p.kind with
  | .nested => inBody ("return self." ++ shadowName p.name)
  | .simple | .sequence => inBody ("return self._data[" ++ stringLiteral p.name ++ "]")

def setterLine (p : Property) : String :=
  let key := stringLiteral p.name
  match p.kind with
  | .nested =>
    let shadow := shadowName p.name
    inBody (s!"self.{shadow} = self._set_compound_prop(" ++ key ++ s!", val, self.{shadow})")
  | .simple | .sequence => inBody ("self._set_prop(" ++ key ++ ", val)")

/-- A rule of dashes as long as a name is in bytes. -/
def dashes (name : String) : String := String.ofList (List.replicate name.utf8ByteSize '-')

def propertyLines (p : Property) : List String :=
  ["", methodIndent ++ "# " ++ p.name, methodIndent ++ "# " ++ dashes p.name, methodIndent ++ "@property",
    methodIndent ++ "def " ++ p.name ++ "(self) -> " ++ p.typeText ++ ":", docDelimiter] ++
    paragraphsLines bodyIndent p.doc ++
    [docDelimiter, getterLine p, "", methodIndent ++ "@" ++ p.name ++ ".setter",
      methodIndent ++ "def " ++ p.name ++ "(self, val):", setterLine p]

def registrationLine (r : Registration) : String :=
  inBody ("self._validators[" ++ stringLiteral r.property ++ "] = " ++ r.moduleAlias ++ "." ++ r.className ++ "()")

def preparationLine (property : String) : String := inBody ("self." ++ shadowName property ++ " = None")

def assignmentLine (a : Assignment) : String := inBody ("self." ++ a.property ++ " = " ++ a.parameter)

def heading (title : String) : List String :=
  [inBody ("# " ++ title), inBody ("# " ++ String.ofList (List.replicate title.length '-'))]

def preparationLines (prepared : List String) : List String :=
  if prepared.isEmpty then []
  else "" :: heading "Init compound properties" ++ prepared.map preparationLine

/-- Runs the initializer of the base class. -/
def superLine (k : Constructor) : String := inBody ("super().__init__(" ++ stringLiteral k.plotName ++ ")")

def typeLine (typeName : String) : String := inBody ("self._data['type'] = " ++ stringLiteral typeName)

/-- The lines of a constructor after its docstring. -/
def bodyLines (k : Constructor) : List String :=
  [superLine k, ""] ++ heading "Initialize data dict" ++ [typeLine k.typeName, ""] ++
    heading "Initialize validators" ++ k.registrations.map registrationLine ++
    preparationLines k.prepared ++
    [""] ++ heading "Populate data dict with properties" ++ k.assigned.map assignmentLine

def constructorLines (k : Constructor) : List String :=
  [""] ++ signatureLines "__init__" k.parameters ++ docBlockLines k.doc ++ bodyLines k

def callLines (className : String) (parameters : List Parameter) : List String :=
  if parameters.isEmpty then [inBody s!"new_trace = {className}()"]
  else
    inBody s!"new_trace = {className}(" ::
      parameters.map (fun p => textIndent ++ p.name ++ "=" ++ p.name ++ ",") ++ [inBody ")"]

def methodLines (registerMethod : String) (m : MethodDecl) : List String :=
  [""] ++ signatureLines m.name m.parameters ++ docBlockLines m.doc ++ callLines m.className m.parameters ++
    [inBody "new_trace.parent = self", inBody s!"return self.{registerMethod}(new_trace)"]

/-! ## Classes and files -/

def classHeader (name base : String) : List String := ["", "", s!"class {name}({base}):"]

def ClassDecl.lines (c : ClassDecl) : List String :=
  classHeader c.name c.base ++ c.properties.flatMap propertyLines ++ constructorLines c.constructor

def ModuleDecl.lines (m : ModuleDecl) : List String :=
  header :: m.imports.flatMap Import.lines ++ m.classes.flatMap ClassDecl.lines

def FacadeDecl.lines (f : FacadeDecl) : List String :=
  header :: f.imports.flatMap Import.lines ++ classHeader f.className f.base ++
    (if f.methods.isEmpty then [methodIndent ++ "pass"] else []) ++ f.methods.flatMap (methodLines f.registerMethod)

def ModuleDecl.source (m : ModuleDecl) : String := sourceText m.lines

def FacadeDecl.source (f : FacadeDecl) : String := sourceText f.lines

end PlotTypes.Python
