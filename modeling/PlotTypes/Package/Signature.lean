/-
  PlotTypes.Package.Signature — the parameters of a compound and their documentation.

  The constructor of a class and the facade's method for it both take them from here,
  so their signatures agree.
-/

import PlotTypes.Python.Declaration
import PlotTypes.Schema.Node
import PlotTypes.Settings.Basic
import PlotTypes.Text.Fill

namespace PlotTypes.Package

open PlotTypes.Python PlotTypes.Schema

/-- The column at which the text of a parameter starts. -/
def parameterColumn : Nat := 12

/-- One parameter for each attribute, in order. -/
def parameters (n : Node) : List Parameter :=
  n.children.mapIdx fun i a => ⟨a.parameter, a.defaultValue, i⟩

def parameterDoc (s : Settings) (p : Parameter) (a : Node) : DocParameter :=
  ⟨p.name, Text.wrap (a.description.getD "") parameterColumn (s.lineWidth - parameterColumn)⟩

/-- The docstring of what constructs `n` from `ps`. -/
def docBlock (s : Settings) (n : Node) (ps : List Parameter) : DocBlock :=
  ⟨n.className, List.zipWith (parameterDoc s) ps n.children, n.className⟩

end PlotTypes.Package
