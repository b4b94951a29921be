import DiagnosticReplay.Main
import DiagnosticReplay.Proofs.Formatter.Line
import DiagnosticReplay.Proofs.Formatter.Resolve
import DiagnosticReplay.Proofs.Replay.RoundTrip
import DiagnosticReplay.Proofs.Source.LineEndings
import DiagnosticReplay.Proofs.Formatter.Misses
import DiagnosticReplay.Proofs.Location.Offsets
import DiagnosticReplay.Proofs.Replay.Records
import DiagnosticReplay.Proofs.Program.Files
import DiagnosticReplay.Proofs.Replay.Acceptance
import DiagnosticReplay.Proofs.Json.Building
import DiagnosticReplay.Proofs.Json.Values
import DiagnosticReplay.Proofs.Json.Reading
import DiagnosticReplay.Proofs.Json.Fields
import DiagnosticReplay.Proofs.Record.Grammar
import DiagnosticReplay.Proofs.Replay.ArgumentOrder
import DiagnosticReplay.Proofs.Program.Composition
import DiagnosticReplay.Proofs.Text.Split
import DiagnosticReplay.Proofs.Formatter.LineFeeds
import DiagnosticReplay.Proofs.Program.Lines
import DiagnosticReplay.Proofs.Json.Rewriting
import DiagnosticReplay.Proofs.Replay.Rewriting
import DiagnosticReplay.Proofs.Location.DotComponents
import DiagnosticReplay.Proofs.Location.Collisions
import DiagnosticReplay.Proofs.Location.Cleanness
import DiagnosticReplay.Proofs.Formatter.Escaping
import DiagnosticReplay.Proofs.Formatter.Recasing
import DiagnosticReplay.Proofs.Program.ExitCode
import DiagnosticReplay.Proofs.Program.Trees
import DiagnosticReplay.Proofs.Source.LineStarts
import DiagnosticReplay.Proofs.Formatter.Influence
import DiagnosticReplay.Proofs.Formatter.DollarSigns
import DiagnosticReplay.Proofs.Source.Joining
import DiagnosticReplay.Proofs.Diagnostic.History
import DiagnosticReplay.Proofs.Replay.Sharing
import DiagnosticReplay.Proofs.Replay.NumberFields
import DiagnosticReplay.Proofs.Replay.Forms
import DiagnosticReplay.Proofs.Text.Uppercase
import DiagnosticReplay.Proofs.Message.Listing
import DiagnosticReplay.Proofs.Collection
