/-
  PlotTypes.Python.Declaration — what a generated source file declares.

  A datatypes module holds classes; a facade is one class with a method for each trace.
  Every list keeps the order of the attributes it comes from.
-/

namespace PlotTypes.Python

structure Parameter where
  name : String
  /-- A literal. -/
  defaultValue : String
  /-- The place of the attribute among its siblings. -/
  index : Nat
  deriving DecidableEq, Repr

/-- How a property keeps its value: in the data mapping, in a shadow member of its own, or
    as a sequence of elements in the data mapping. -/
inductive PropertyKind where
  | simple
  | nested
  | sequence
  deriving DecidableEq, Repr

/-- A getter and a setter. The documentation is a list of paragraphs of wrapped lines. -/
structure Property where
  name : String
  typeText : String
  kind : PropertyKind
  doc : List (List String)
  deriving DecidableEq, Repr

structure DocParameter where
  name : String
  lines : List String
  deriving DecidableEq, Repr

/-- The docstring of a callable that makes an object. -/
structure DocBlock where
  title : String
  parameters : List DocParameter
  result : String
  deriving DecidableEq, Repr

/-- A validator made for a property. -/
structure Registration where
  property : String
  moduleAlias : String
  className : String
  deriving DecidableEq, Repr

/-- A parameter handed to the setter of a property. -/
structure Assignment where
  property : String
  parameter : String
  deriving DecidableEq, Repr

/-- Construction has two phases: the shadow members of the properties `prepared` are set to
    `None` before the first assignment, because a nested setter reads its shadow member. -/
structure Constructor where
  parameters : List Parameter
  doc : DocBlock
  plotName : String
  /-- What is stored under `type`. -/
  typeName : String
  registrations : List Registration
  prepared : List String
  assigned : List Assignment
  deriving DecidableEq, Repr

structure ClassDecl where
  name : String
  base : String
  properties : List Property
  constructor : Constructor
  deriving DecidableEq, Repr

structure ImportedName where
  name : String
  localName : Option String
  deriving DecidableEq, Repr

inductive Import where
  | all (source : String)
  | names (source : String) (names : List ImportedName)
  deriving DecidableEq, Repr

structure ModuleDecl where
  imports : List Import
  classes : List ClassDecl
  deriving DecidableEq, Repr

structure MethodDecl where
  name : String
  className : String
  parameters : List Parameter
  doc : DocBlock
  deriving DecidableEq, Repr

structure FacadeDecl where
  imports : List Import
  className : String
  base : String
  registerMethod : String
  methods : List MethodDecl
  deriving DecidableEq, Repr

end PlotTypes.Python
