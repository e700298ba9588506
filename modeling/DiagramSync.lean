import DiagramSync.Debounce.Loop
import DiagramSync.Debounce.Trace
import DiagramSync.Diagram.Hint
import DiagramSync.Diagram.Primer
import DiagramSync.Diagram.RoundTrip
import DiagramSync.Proofs.Debounce.Exact
import DiagramSync.Proofs.Debounce.Loop
import DiagramSync.Proofs.Diagram.Accepted
import DiagramSync.Proofs.Diagram.Blocks
import DiagramSync.Proofs.Diagram.Declared
import DiagramSync.Proofs.Diagram.DefaultLabels
import DiagramSync.Proofs.Diagram.Header
import DiagramSync.Proofs.Diagram.Hints
import DiagramSync.Proofs.Diagram.Images
import DiagramSync.Proofs.Diagram.LabelsFound
import DiagramSync.Proofs.Diagram.Layout
import DiagramSync.Proofs.Diagram.LineNumbers
import DiagramSync.Proofs.Diagram.Mirrors
import DiagramSync.Proofs.Diagram.Parts
import DiagramSync.Proofs.Diagram.ReadTexts
import DiagramSync.Proofs.Diagram.Rearranged
import DiagramSync.Proofs.Diagram.Recoverable
import DiagramSync.Proofs.Diagram.Recovery
import DiagramSync.Proofs.Diagram.Relink
import DiagramSync.Proofs.Diagram.Renaming
import DiagramSync.Proofs.Diagram.Replaced
import DiagramSync.Proofs.Diagram.Rescan
import DiagramSync.Proofs.Diagram.Rewritten
import DiagramSync.Proofs.Diagram.Scanned
import DiagramSync.Proofs.Diagram.Selection
import DiagramSync.Proofs.Diagram.SketchText
import DiagramSync.Proofs.Diagram.Spread
import DiagramSync.Proofs.Diagram.Stated
import DiagramSync.Proofs.Diagram.Statements
import DiagramSync.Proofs.Diagram.Unlinked
import DiagramSync.Proofs.Diagram.Written
import DiagramSync.Proofs.Diagram.WrittenLines
import DiagramSync.Proofs.List.Keyed
import DiagramSync.Proofs.Model.Clean
import DiagramSync.Proofs.Model.Ids
import DiagramSync.Proofs.Model.Named
import DiagramSync.Proofs.Model.Sketch
import DiagramSync.Proofs.Opaque.Diagram
import DiagramSync.Proofs.Opaque.Mentions
import DiagramSync.Proofs.Opaque.Model
import DiagramSync.Proofs.Opaque.Reading
import DiagramSync.Proofs.Opaque.Script
import DiagramSync.Proofs.Opaque.Session
import DiagramSync.Proofs.Opaque.Store
import DiagramSync.Proofs.Opaque.Supplies
import DiagramSync.Proofs.Opaque.World
import DiagramSync.Proofs.Session.Action
import DiagramSync.Proofs.Session.Agreement
import DiagramSync.Proofs.Session.Alongside
import DiagramSync.Proofs.Session.Atomic
import DiagramSync.Proofs.Session.Chronicle
import DiagramSync.Proofs.Session.Closed
import DiagramSync.Proofs.Session.Coherent
import DiagramSync.Proofs.Session.Deeds
import DiagramSync.Proofs.Session.FieldNames
import DiagramSync.Proofs.Session.Following
import DiagramSync.Proofs.Session.Growth
import DiagramSync.Proofs.Session.Heard
import DiagramSync.Proofs.Session.History
import DiagramSync.Proofs.Session.InStep
import DiagramSync.Proofs.Session.Moments
import DiagramSync.Proofs.Session.Passive
import DiagramSync.Proofs.Session.Reading
import DiagramSync.Proofs.Session.Rejected
import DiagramSync.Proofs.Session.Requested
import DiagramSync.Proofs.Session.Resolved
import DiagramSync.Proofs.Session.Retyped
import DiagramSync.Proofs.Session.Scheduled
import DiagramSync.Proofs.Session.Steps
import DiagramSync.Proofs.Session.Surroundings
import DiagramSync.Proofs.Session.Telling
import DiagramSync.Proofs.Session.Timed
import DiagramSync.Proofs.Session.Unchanged
import DiagramSync.Proofs.Session.Untouched
import DiagramSync.Proofs.Store.Again
import DiagramSync.Proofs.Store.Coherent
import DiagramSync.Proofs.Store.Edits
import DiagramSync.Proofs.Store.FieldNames
import DiagramSync.Proofs.Store.Idempotent
import DiagramSync.Proofs.Store.Merge
import DiagramSync.Proofs.Store.OwnIds
import DiagramSync.Proofs.Store.Places
import DiagramSync.Proofs.Store.Reconcile
import DiagramSync.Proofs.Store.Reread
import DiagramSync.Proofs.Store.Resolved
import DiagramSync.Proofs.Store.Revalidated
import DiagramSync.Proofs.Store.Updated
import DiagramSync.Proofs.Store.Versions
import DiagramSync.Proofs.Store.WellRead
import DiagramSync.Proofs.Text.Lines
import DiagramSync.Session.Run
import DiagramSync.Settings.Logging
import DiagramSync.Validation.Records
import DiagramSync.Validation.Table
