/-
  PlotTypes.Package.Report — generating all files of a package.

  The walk goes through the compound nodes in pre-order. A node with compound children
  gives one entry: a unit, or a failure that stops nothing else. The facade gives the
  last entry.
-/

import PlotTypes.Package.Class
import PlotTypes.Package.Facade
import PlotTypes.Python.Source
import PlotTypes.Schema.Document
import PlotTypes.Schema.Validity

namespace PlotTypes.Package

open PlotTypes.Python PlotTypes.Schema

structure SourceUnit where
  /-- Below the output directory. -/
  path : Path
  source : String
  deriving DecidableEq, Repr

structure Failure where
  /-- The node, or the path of the unit, that failed. -/
  node : String
  error : Error
  deriving DecidableEq, Repr

structure Report where
  units : List SourceUnit
  failures : List Failure
  deriving DecidableEq, Repr

namespace Report

def empty : Report := ⟨[], []⟩

def append (a b : Report) : Report := ⟨a.units ++ b.units, a.failures ++ b.failures⟩

def isSuccess (r : Report) : Bool := r.failures.isEmpty

/-- The first unit at the same place as `p`. -/
def unit? (r : Report) (p : Path) : Option SourceUnit := r.units.find? (·.path.samePlace p)

end Report

/-- A report with what was logged. -/
structure Run where
  events : List Event
  report : Report
  deriving DecidableEq, Repr

namespace Run

def empty : Run := ⟨[], .empty⟩

def append (a b : Run) : Run := ⟨a.events ++ b.events, a.report.append b.report⟩

end Run

/-! ## Entries -/

def moduleFile : String := "__init__.py"

def facadePath : Path := ⟨"__init__.py"⟩

/-- The file of the module of a node. -/
def modulePath (s : Settings) (n : Node) : Path :=
  (((Path.mk "datatypes").push s.sectionName).pushAll n.path).push moduleFile

/-- The entry of one node. -/
def moduleRun (s : Settings) (n : Node) : Run :=
  let made := moduleOf s n
  match made.result with
  | .ok none => ⟨made.events, .empty⟩
  | .ok (some m) =>
    let path := modulePath s n
    ⟨made.events ++ [.moduleMade path m.classes.length], ⟨[⟨path, m.source⟩], []⟩⟩
  | .error e => ⟨made.events ++ [.moduleFailed n.displayPath e], ⟨[], [⟨n.displayPath, e⟩]⟩⟩

mutual

/-- The entries of a node and of the compounds below it. -/
def visit (s : Settings) (n : Node) : Run :=
  match n with
  | ⟨a, children⟩ => (moduleRun s ⟨a, children⟩).append (visitAll s children)

/-- The entries of the compounds among `ns` and below them. -/
def visitAll (s : Settings) : List Node → Run
  | [] => .empty
  | n :: r => if n.isCompound then (visit s n).append (visitAll s r) else visitAll s r

end

def facadeRun (s : Settings) (n : Node) : Run :=
  match facadeOf s n with
  | .ok f => ⟨[], ⟨[⟨facadePath, f.source⟩], []⟩⟩
  | .error e => ⟨[.facadeFailed e], ⟨[], [⟨n.displayPath, e⟩]⟩⟩

/-! ## Packages -/

/-- All files of the package of a tree. -/
def generate (s : Settings) (n : Node) : Run :=
  let run := (visit s n).append (facadeRun s n)
  ⟨run.events ++ [.finished run.report.units.length run.report.failures.length], run.report⟩

/-- The tree of a schema text that gives a usable package. -/
def load (text : String) : Except Schema.Error Node := do
  let n ← Schema.ofText text
  validate n
  return n

def generateFromText (s : Settings) (text : String) : Except Error Run :=
  match load text with
  | .ok n => .ok (generate s n)
  | .error e => .error (.schema e)

end PlotTypes.Package
