import DiagnosticRelay.FileTree
import DiagnosticRelay.Main
import DiagnosticRelay.Proofs.CommandLine.Explanation
import DiagnosticRelay.Proofs.CommandLine.Interleaving
import DiagnosticRelay.Proofs.CommandLine.Listing
import DiagnosticRelay.Proofs.CommandLine.Reordering
import DiagnosticRelay.Proofs.CommandLine.Unresolved
import DiagnosticRelay.Proofs.Explain.Once
import DiagnosticRelay.Proofs.Explain.Twice
import DiagnosticRelay.Proofs.Placement.Column
import DiagnosticRelay.Proofs.Placement.Correspondence
import DiagnosticRelay.Proofs.Placement.Fields
import DiagnosticRelay.Proofs.Placement.Inside
import DiagnosticRelay.Proofs.Relay.Refusal
import DiagnosticRelay.Proofs.Rendering.Caret
import DiagnosticRelay.Proofs.Rendering.Parts
import DiagnosticRelay.Proofs.Replay.Number
import DiagnosticRelay.Proofs.Replay.Writing
import DiagnosticRelay.Proofs.Settings.Section
import DiagnosticRelay.Proofs.Settings.Writing
import DiagnosticRelay.Proofs.Source.Appended
import DiagnosticRelay.Proofs.Source.LineIndex
import DiagnosticRelay.Proofs.Source.Scan
import DiagnosticRelay.Proofs.Source.Shown
