/-
  PlotTypes.Settings.Basic — the names and limits that a package is generated with.
-/

namespace PlotTypes

structure Settings where
  /-- The Python package of the generated code. -/
  packageName : String
  /-- The sub-package of the datatypes and of the validators. -/
  sectionName : String
  classBase : String
  facadeBase : String
  facadeClass : String
  methodPrefix : String
  /-- The facade's method that takes a new object in. -/
  registerMethod : String
  validatorPrefix : String
  datatypePrefix : String
  /-- The widest documentation line, indentation included. -/
  lineWidth : Nat
  /-- The command that formats sources, program first. -/
  formatter : Option (List String)
  deriving DecidableEq, Repr

namespace Settings

def standard : Settings where
  packageName := "ipyplotly"
  sectionName := "trace"
  classBase := "BaseTraceType"
  facadeBase := "BaseFigureWidget"
  facadeClass := "Figure"
  methodPrefix := "add_"
  registerMethod := "_add_trace"
  validatorPrefix := "v_"
  datatypePrefix := "d_"
  lineWidth := 119
  formatter := none

/-! ## Modules of the generated package -/

/-- The module of the validators for the children of a node. -/
def validatorsModule (s : Settings) (packagePath : String) : String :=
  s.packageName ++ ".validators." ++ s.sectionName ++ packagePath

/-- The module of the datatypes for the children of a node. -/
def datatypesModule (s : Settings) (packagePath : String) : String :=
  s.packageName ++ ".datatypes." ++ s.sectionName ++ packagePath

/-- The module of the base classes. -/
def baseModule (s : Settings) : String := s.packageName ++ ".basedatatypes"

end Settings

end PlotTypes
