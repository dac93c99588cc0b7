/-
  PlotTypes.Package.Formatting — formatting sources with a program.

  The program gets a source as its input, and what it writes is the formatted source. It
  fails when there is no outcome, when it does not end well, or when its output is no text.
  What programs do is up to a runner.
-/

import PlotTypes.Command.Process
import PlotTypes.Package.Output

namespace PlotTypes.Package

open PlotTypes.Command

def trimmed (s : String) : String := String.ofList (Text.trim Text.isBlank s.toList)

/-- The formatted source in the outcome of a program, or what the program failed with. -/
def formattedOf (o : Outcome) : Except String String :=
  if o.ending = .exited 0 then (Text.Utf8.decode o.output).mapError Text.Utf8.Fault.message
  else .error ("exited with " ++ o.ending.message ++ ": " ++ trimmed (Text.Utf8.decodeLossy o.errors))

def formatWith (runner : Runner) (fs : Files) (program : String) (args : List String) : Formatter := fun source =>
  match runner fs program args (Text.Utf8.encode source) with
  | .error message => .error (.format program message)
  | .ok o => (formattedOf o).mapError (.format program)

/-- The formatter of a command, its program first; none for the empty command. -/
def Formatter.ofCommand? (fs : Files) (command : List String) (runner : Runner := Command.run) : Option Formatter :=
  match command with
  | [] => none
  | program :: args => some (formatWith runner fs program args)

/-- The formatter that the settings name, among some files. -/
def formatterOf (s : Settings) (fs : Files) (runner : Runner := Command.run) : Formatter :=
  (s.formatter.bind fun command => Formatter.ofCommand? fs command runner).getD unformatted

end PlotTypes.Package
