import PlotTypes.Main
import PlotTypes.Proofs.Package.Completeness
import PlotTypes.Proofs.Package.Facade
import PlotTypes.Proofs.Package.References
import PlotTypes.Proofs.Package.Isolation
import PlotTypes.Proofs.Package.Location
import PlotTypes.Proofs.Schema.Grammar
import PlotTypes.Proofs.Json.Keys
import PlotTypes.Proofs.Schema.Regularity
import PlotTypes.Proofs.Files
import PlotTypes.Proofs.CommandLine.DryRun
import PlotTypes.Proofs.CommandLine.Stopping
import PlotTypes.Proofs.Package.Names
import PlotTypes.Proofs.Package.Phases
import PlotTypes.Proofs.Package.UnknownTags
import PlotTypes.Proofs.Schema.FirstViolation
import PlotTypes.Proofs.Package.DocWidth
import PlotTypes.Proofs.Python.LiteralReader
import PlotTypes.Proofs.Schema.Ignored
import PlotTypes.Proofs.Package.Undocumented
import PlotTypes.Proofs.Schema.Placing
import PlotTypes.Proofs.Schema.MetaKeys
