/-
  PlotTypes.Package.Input — schemas and settings read from files.
-/

import PlotTypes.Package.Report
import PlotTypes.Settings.Document

namespace PlotTypes.Package

open PlotTypes.Schema

def readText (fs : Files) (p : Path) : Except Error String := (fs.readText p).mapError .io

/-- The attribute tree of a schema file, not checked for validity. -/
def readTree (fs : Files) (p : Path) : Except Error Node := do
  (Schema.ofText (← readText fs p)).mapError .schema

def generateFromFile (s : Settings) (fs : Files) (p : Path) : Except Error Run := do
  generateFromText s (← readText fs p)

def readSettings (fs : Files) (p : Path) : Except Error Settings := do
  match Settings.ofText? (← readText fs p) with
  | some s => .ok s
  | none => .error .settings

end PlotTypes.Package
