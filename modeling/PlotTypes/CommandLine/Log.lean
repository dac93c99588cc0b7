/-
  PlotTypes.CommandLine.Log — which events are shown, and how.

  A filter given from outside wins over the one that the command line asks for, unless
  it cannot be read.
-/

import PlotTypes.CommandLine.Filter

namespace PlotTypes.CommandLine

open PlotTypes.Package

/-- Shows what is told at a level and above, wherever it comes from. -/
def fromLevel (l : Level) : List Directive := [⟨none, none, none, l.verbosity⟩]

def directives (verbose : Bool) (filter : Option String) : List Directive :=
  match filter.bind readFilter with
  | some ds => ds
  | none => fromLevel (if verbose then .debug else .info)

/-- The level, the message, then each field with its value. -/
def line (e : Event) : String :=
  e.level.label ++ " " ++ e.message ++ String.join (e.fields.map fun (name, field) => " " ++ name ++ "=" ++ field.toText)

def lines (ds : List Directive) (events : List Event) : List String := (events.filter (isShown ds)).map line

end PlotTypes.CommandLine
