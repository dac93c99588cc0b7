/-
  PlotTypes.Package.Event — what is logged while a package is made, and results that
  carry their log.

  An event says what happened; its level, its message and its fields are read off it.
  `Logged.each` runs a fallible step on every element and stops at the first failure,
  keeping what was logged up to there.
-/

import PlotTypes.Package.Error

namespace PlotTypes.Package

inductive Level where
  | debug
  | info
  | warn
  | error
  deriving DecidableEq, Repr

def Level.label : Level → String
  | .debug => "DEBUG"
  | .info => "INFO"
  | .warn => "WARN"
  | .error => "ERROR"

/-- How much is shown when this level is shown too. -/
def Level.verbosity : Level → Nat
  | .debug => 4
  | .info => 3
  | .warn => 2
  | .error => 1

inductive Event where
  | undocumented (owner property : String)
  | moduleMade (path : Path) (classes : Nat)
  | moduleFailed (node : String) (error : Error)
  | facadeFailed (error : Error)
  | finished (units failures : Nat)
  | formatFailed (path : Path) (error : Error)
  | writeFailed (path : Path) (fault : Files.Fault)
  | written (path : Path)
  | failed (node : String) (error : Error)
  | valid (path : Path) (traces : Nat)
  deriving DecidableEq, Repr

namespace Event

def level : Event → Level
  | .undocumented .. | .moduleFailed .. | .facadeFailed .. | .formatFailed .. | .writeFailed .. => .warn
  | .moduleMade .. | .written .. => .debug
  | .finished .. | .valid .. => .info
  | .failed .. => .error

def message : Event → String
  | .undocumented .. => "attribute has no description"
  | .moduleMade .. => "generated module"
  | .moduleFailed .. => "module generation failed"
  | .facadeFailed .. => "facade generation failed"
  | .finished .. => "generation finished"
  | .formatFailed .. => "formatting failed"
  | .writeFailed .. => "write failed"
  | .written .. => "wrote unit"
  | .failed .. => "generation failed"
  | .valid .. => "schema is valid"

/-- The part of the program that tells of the event. -/
def source : Event → String
  | .undocumented .. => "plotgen_codegen::python::properties"
  | .moduleMade .. | .moduleFailed .. | .facadeFailed .. | .finished .. | .formatFailed .. | .writeFailed ..
  | .written .. => "plotgen_codegen::generator"
  | .failed .. | .valid .. => "plotgen"

inductive Field where
  | text (s : String)
  | count (n : Nat)
  deriving DecidableEq, Repr

def Field.toText : Field → String
  | .text s => s
  | .count n => toString n

def fields : Event → List (String × Field)
  | .undocumented owner property => [("node", .text owner), ("attribute", .text property)]
  | .moduleMade path classes => [("path", .text path.text), ("classes", .count classes)]
  | .moduleFailed node error => [("node", .text node), ("error", .text error.message)]
  | .facadeFailed error => [("error", .text error.message)]
  | .finished units failures => [("units", .count units), ("failures", .count failures)]
  | .formatFailed path error => [("path", .text path.text), ("error", .text error.message)]
  | .writeFailed path fault => [("path", .text path.text), ("error", .text fault.message)]
  | .written path => [("path", .text path.text)]
  | .failed node error => [("node", .text node), ("error", .text error.message)]
  | .valid path traces => [("path", .text path.text), ("traces", .count traces)]

end Event

/-! ## Logged results -/

structure Logged (α : Type) where
  events : List Event
  result : Except Error α

namespace Logged

def map (f : α → β) (x : Logged α) : Logged β := ⟨x.events, x.result.map f⟩

/-- The results for all elements in order, or the first failure. -/
def each (f : α → Logged β) : List α → Logged (List β)
  | [] => ⟨[], .ok []⟩
  | a :: r =>
    match (f a).result with
    | .error e => ⟨(f a).events, .error e⟩
    | .ok b =>
      let rest := each f r
      ⟨(f a).events ++ rest.events, rest.result.map (b :: ·)⟩

end Logged

end PlotTypes.Package
