/-
  PlotTypes.Package.Facade — the class with a method for each trace.
-/

import PlotTypes.Package.Error
import PlotTypes.Package.Signature

namespace PlotTypes.Package

open PlotTypes.Python PlotTypes.Schema

def methodOf (s : Settings) (n : Node) : MethodDecl :=
  ⟨s.methodPrefix ++ n.parameter, n.className, parameters n, docBlock s n (parameters n)⟩

/-- The facade of a tree. Only the root has one. -/
def facadeOf (s : Settings) (n : Node) : Except Error FacadeDecl :=
  if n.isRoot then
    let methods := n.compoundChildren.map (methodOf s)
    .ok {
      imports := [
        .names s.baseModule [⟨s.facadeBase, none⟩],
        .names (s.datatypesModule "") (methods.map fun m => ⟨m.className, none⟩)]
      className := s.facadeClass
      base := s.facadeBase
      registerMethod := s.registerMethod
      methods }
  else .error (.notRoot n.displayPath)

end PlotTypes.Package
