/-
  PlotTypes.Package.Class — the class of a compound, and the module of the classes of
  a node's compound children.

  Every attribute of a compound gives a property, a validator registration and an
  assignment in the constructor, in order. A simple attribute whose tag is unknown is
  an error at the first such attribute. An attribute without description is logged.
-/

import PlotTypes.Package.ValueType
import PlotTypes.Package.Event
import PlotTypes.Package.Signature

namespace PlotTypes.Package

open PlotTypes.Python PlotTypes.Schema

/-! ## Properties -/

/-- The column at which the docstring of a property starts. -/
def propertyColumn : Nat := 8

/-- An array element is a sequence although it is a compound too. -/
def kindOf (a : Node) : PropertyKind :=
  if a.isElement then .sequence else if a.isCompound then .nested else .simple

/-- The name of a class in the module of its owner, under the owner's local name. -/
def qualified (s : Settings) (owner a : Node) : String := s.datatypePrefix ++ owner.name ++ "." ++ a.className

/-- The type of a property, and what it accepts where that is told in words. -/
def typeOf (s : Settings) (owner a : Node) : Except Error (String × Option String) :=
  match kindOf a with
  | .sequence => .ok ("Tuple[" ++ qualified s owner a ++ ", ...]", none)
  | .nested => .ok (qualified s owner a, none)
  | .simple =>
    match valueType? (a.tag.getD "") a.arrayOk with
    | some t => .ok (t.type, some t.summary)
    | none => .error (.unknownType (a.tag.getD "") a.property owner.displayPath)

def isDocumented (a : Node) : Bool :=
  match a.description with
  | some d => !d.isEmpty
  | none => false

def propertyDoc (s : Settings) (a : Node) (summary : Option String) : List (List String) :=
  let fill (text : String) := Text.wrap text propertyColumn (s.lineWidth - propertyColumn)
  (if isDocumented a then [fill (a.description.getD "")] else []) ++
    (summary.map fun words => fill ("The '" ++ a.property ++ "' property accepts " ++ words ++ ".")).toList

def warnings (owner a : Node) : List Event :=
  if isDocumented a then [] else [.undocumented owner.displayPath a.property]

def propertyOf (s : Settings) (owner a : Node) : Logged Property :=
  match typeOf s owner a with
  | .error e => ⟨[], .error e⟩
  | .ok (type, summary) => ⟨warnings owner a, .ok ⟨a.property, type, kindOf a, propertyDoc s a summary⟩⟩

/-! ## Classes -/

def validatorAlias (s : Settings) (n : Node) : String := s.validatorPrefix ++ n.name

def constructorOf (s : Settings) (n : Node) (properties : List Property) : Constructor where
  parameters := parameters n
  doc := docBlock s n (parameters n)
  plotName := n.property
  typeName := n.dottedPath
  registrations := n.children.map fun a => ⟨a.property, validatorAlias s n, validatorName a.property⟩
  prepared := (properties.filter (·.kind == .nested)).map (·.name)
  assigned := List.zipWith (fun a p => ⟨a.property, p.name⟩) n.children (parameters n)

def classOf (s : Settings) (n : Node) : Logged ClassDecl :=
  (Logged.each (propertyOf s n) n.children).map fun properties =>
    ⟨n.className, s.classBase, properties, constructorOf s n properties⟩

/-! ## Modules -/

/-- Names imported under `pre` and their own name. -/
def importedAs (pre : String) (ns : List Node) : List ImportedName := ns.map fun n => ⟨n.name, some (pre ++ n.name)⟩

def importsOf (s : Settings) (n : Node) : List Import :=
  [.all "typing",
    .names "numbers" [⟨"Number", none⟩],
    .names s.baseModule [⟨s.classBase, none⟩],
    .names (s.validatorsModule n.packagePath) (importedAs s.validatorPrefix n.compoundChildren),
    .names (s.datatypesModule n.packagePath) (importedAs s.datatypePrefix n.compoundChildren)]

/-- The module of a node's compound children; none for a node without any. -/
def moduleOf (s : Settings) (n : Node) : Logged (Option ModuleDecl) :=
  if n.hasCompoundChildren then
    (Logged.each (classOf s) n.compoundChildren).map fun classes => some ⟨importsOf s n, classes⟩
  else ⟨[], .ok none⟩

end PlotTypes.Package
