import DiagnosticPage.Main
import DiagnosticPage.Report.Write
import DiagnosticPage.Proofs.Bundle.NormalForm
import DiagnosticPage.Proofs.Page.EveryMessage
import DiagnosticPage.Proofs.Page.Faithful
import DiagnosticPage.Proofs.Page.Safety
import DiagnosticPage.Proofs.Page.AddedError
import DiagnosticPage.Proofs.Page.ShownPaths
import DiagnosticPage.Proofs.Page.Carets
import DiagnosticPage.Proofs.CommandLine.AllOrNothing
import DiagnosticPage.Proofs.Page.Attribution
import DiagnosticPage.Proofs.Json.Assembling
import DiagnosticPage.Proofs.Json.Levels
import DiagnosticPage.Proofs.Json.Nesting
import DiagnosticPage.Proofs.Json.Records
import DiagnosticPage.Proofs.Report.Levels
import DiagnosticPage.Proofs.Report.RoundTrip
import DiagnosticPage.Proofs.Group.OrderedMap
import DiagnosticPage.Proofs.Bundle.Blocks
import DiagnosticPage.Proofs.Message.Highlight
import DiagnosticPage.Proofs.SourcePath.Components
import DiagnosticPage.Proofs.SourcePath.Remainder
import DiagnosticPage.Proofs.SourcePath.Absolute
import DiagnosticPage.Proofs.Text.Spaced
import DiagnosticPage.Proofs.Template.Splitting
import DiagnosticPage.Proofs.Template.FirstMarker
import DiagnosticPage.Proofs.Report.Pieces
import DiagnosticPage.Proofs.Text.Entities
import DiagnosticPage.Proofs.Page.WrittenPaths
import DiagnosticPage.Proofs.CommandLine.Arguments
