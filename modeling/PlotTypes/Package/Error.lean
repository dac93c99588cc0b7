/-
  PlotTypes.Package.Error — why a package, or a part of it, could not be made.
-/

import PlotTypes.Files
import PlotTypes.Schema.Error

namespace PlotTypes.Package

inductive Error where
  | schema (e : Schema.Error)
  | io (f : Files.Fault)
  | settings
  | unknownType (tag property owner : String)
  | notRoot (path : String)
  | format (program message : String)
  deriving DecidableEq, Repr

def unknownTag (tag : String) : String := s!"unknown plotly type '{tag}'"

def Error.message : Error → String
  | .schema e => "schema error: " ++ e.message
  | .io f => "IO error: " ++ f.message
  | .settings => "config error"
  | .unknownType tag property owner => unknownTag tag ++ s!" on attribute '{property}' of '{owner}'"
  | .notRoot path => s!"expected the root node, received node with path '{path}'"
  | .format program message => s!"formatter '{program}' failed: " ++ message

end PlotTypes.Package
