/-
  PlotTypes.Package.Output — writing the files of a package.

  Every unit is formatted and written below the output directory. One that cannot be
  formatted or written becomes a failure named by its path, and the others still follow.
-/

import PlotTypes.Package.Report

namespace PlotTypes.Package

open PlotTypes.Schema

/-- A source text to its formatted text. -/
abbrev Formatter := String → Except Error String

/-- Leaves every source as it is. -/
def unformatted : Formatter := .ok

/-- Writes a file and the directories it needs. -/
def writeFile (fs : Files) (target : Path) (source : String) : Except Files.Fault Unit × Files :=
  match fs.makeParents target with
  | (.error f, fs) => (.error f, fs)
  | (.ok (), fs) =>
    match fs.writeText target source with
    | .error f => (.error f, fs)
    | .ok fs => (.ok (), fs)

/-- Formats and writes one unit. -/
def writeUnit (format : Formatter) (out : Path) (fs : Files) (u : SourceUnit) : Files × Run :=
  match format u.source with
  | .error e => (fs, ⟨[.formatFailed u.path e], ⟨[], [⟨u.path.text, e⟩]⟩⟩)
  | .ok source =>
    let target := out.join u.path
    match writeFile fs target source with
    | (.error f, fs) => (fs, ⟨[.writeFailed target f], ⟨[], [⟨u.path.text, .io f⟩]⟩⟩)
    | (.ok (), fs) => (fs, ⟨[.written target], ⟨[⟨u.path, source⟩], []⟩⟩)

def writeUnits (format : Formatter) (out : Path) (fs : Files) : List SourceUnit → Files × Run
  | [] => (fs, .empty)
  | u :: r =>
    let (fs, first) := writeUnit format out fs u
    let (fs, rest) := writeUnits format out fs r
    (fs, first.append rest)

/-- Generates a package and writes it below `out`, which is made first. The report holds
    the units that were written, and the failures of both stages. -/
def write (s : Settings) (n : Node) (format : Formatter) (out : Path) (fs : Files) : Except Error Run × Files :=
  match fs.makeDirectories out with
  | (.error f, fs) => (.error (.io f), fs)
  | (.ok (), fs) =>
    let made := generate s n
    let (fs, written) := writeUnits format out fs made.report.units
    (.ok ⟨made.events ++ written.events, ⟨written.report.units, made.report.failures ++ written.report.failures⟩⟩, fs)

end PlotTypes.Package
