/-
  PlotTypes.Command.Outcome — programs seen from outside.

  A program is run by its name, with arguments and an input, among some files. What comes
  of it is all that is asked about it here: how it ended and what it wrote, or why there is
  no telling. Programs are not part of this library; a `Runner` stands for those that are
  there.
-/

import PlotTypes.Command.Signal
import PlotTypes.Files

namespace PlotTypes.Command

inductive Ending where
  | exited (status : Nat)
  /-- `dumped`: it left an image of its memory. -/
  | killed (signal : Nat) (dumped : Bool)
  deriving DecidableEq, Repr

/-- The status that stands for an ending. -/
def Ending.status : Ending → Nat
  | .exited n => n
  | .killed n _ => 128 + n

def Ending.message : Ending → String
  | .exited status => s!"exit status: {status}"
  | .killed signal dumped =>
    let named := match if signal = 0 then none else commonSignals[signal - 1]? with
      | some s => s!"signal: {signal} (SIG{s.name})"
      | none => s!"signal: {signal}"
    if dumped then named ++ " (core dumped)" else named

/-- How a process ended, and the bytes that it wrote. -/
structure Outcome where
  ending : Ending
  output : List UInt8
  errors : List UInt8
  deriving DecidableEq, Repr

/-- Runs a program: its name, its arguments and its input. Without an outcome, it says in
    words why: the program cannot start, cannot be waited for, or does not take its input. -/
abbrev Runner := Files → String → List String → List UInt8 → Except String Outcome

end PlotTypes.Command
