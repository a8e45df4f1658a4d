import ModalEditor.Text.Blank
import ModalEditor.Text.Alphanumeric
import ModalEditor.Text.LetterCase
import ModalEditor.Text.ChangedRegion
import ModalEditor.Text.Splice
import ModalEditor.Key
import ModalEditor.Register
import ModalEditor.Buffer
import ModalEditor.Motion.Target
import ModalEditor.Operator
import ModalEditor.Modal.Press
import ModalEditor.History
import ModalEditor.Resync.Debounce
import ModalEditor.Resync.Cadence
import ModalEditor.Pattern.Basic
import ModalEditor.Search.Basic
import ModalEditor.Highlight.State
import ModalEditor.Settings
import ModalEditor.Session.Press
import ModalEditor.Session.View
import ModalEditor.Main
import ModalEditor.Proofs.Text.Blank
import ModalEditor.Proofs.Text.Lines
import ModalEditor.Proofs.Text.Position
import ModalEditor.Proofs.Text.LineCharacters
import ModalEditor.Proofs.Text.Difference
import ModalEditor.Proofs.Text.Coordinates
import ModalEditor.Proofs.Text.Splice
import ModalEditor.Proofs.History.Basic
import ModalEditor.Proofs.History.Restoration
import ModalEditor.Proofs.History.Tracking
import ModalEditor.Proofs.History.Timeline
import ModalEditor.Proofs.Run
import ModalEditor.Proofs.Buffer
import ModalEditor.Proofs.Motion.Target
import ModalEditor.Proofs.Motion.WordBoundary
import ModalEditor.Proofs.Motion.Words
import ModalEditor.Proofs.Motion.WordsOnLines
import ModalEditor.Proofs.Motion.WaitingWord
import ModalEditor.Proofs.Operator
import ModalEditor.Proofs.Operator.Taking
import ModalEditor.Proofs.Operator.Indentation
import ModalEditor.Proofs.Operator.Replacing
import ModalEditor.Proofs.Operator.WithinLine
import ModalEditor.Proofs.Checked.Basic
import ModalEditor.Proofs.Checked.Position
import ModalEditor.Proofs.Checked.Word
import ModalEditor.Proofs.Checked.Motion
import ModalEditor.Proofs.Checked.Operator
import ModalEditor.Proofs.Modal.Keys
import ModalEditor.Proofs.Modal.Workspace
import ModalEditor.Proofs.Modal.Coherence
import ModalEditor.Proofs.Modal.Cursor
import ModalEditor.Proofs.Modal.Outcome
import ModalEditor.Proofs.Modal.Uneventful
import ModalEditor.Proofs.Modal.Alike
import ModalEditor.Proofs.Modal.Typing
import ModalEditor.Proofs.Modal.Counts
import ModalEditor.Proofs.Modal.Moves
import ModalEditor.Proofs.Modal.Repetition
import ModalEditor.Proofs.Modal.KeptColumn
import ModalEditor.Proofs.Modal.Insertion
import ModalEditor.Proofs.Modal.Repeat
import ModalEditor.Proofs.Modal.ChangedWord
import ModalEditor.Proofs.Modal.Slots
import ModalEditor.Proofs.Modal.SlotCommands
import ModalEditor.Proofs.Modal.SlotKeys
import ModalEditor.Proofs.Modal.SlotCoherence
import ModalEditor.Proofs.Modal.OffScreen
import ModalEditor.Proofs.Modal.StrayKeys
import ModalEditor.Proofs.Modal.Selection
import ModalEditor.Proofs.Modal.Recorded
import ModalEditor.Proofs.Session.Basic
import ModalEditor.Proofs.Session.Action
import ModalEditor.Proofs.Session.Sync
import ModalEditor.Proofs.Session.Undo
import ModalEditor.Proofs.Viewport
import ModalEditor.Proofs.Text.Bytes
import ModalEditor.Proofs.Text.ChangedRegion
import ModalEditor.Proofs.Text.PointShift
import ModalEditor.Proofs.Session.Places
import ModalEditor.Proofs.Session.Modified
import ModalEditor.Proofs.Session.Matches
import ModalEditor.Proofs.Highlight.Lines
import ModalEditor.Proofs.Highlight.Tree
import ModalEditor.Proofs.Session.Standing
import ModalEditor.Proofs.Search.Tour
import ModalEditor.Proofs.Session.Typing
import ModalEditor.Proofs.Session.NextMatch
import ModalEditor.Proofs.Session.WithinLine
import ModalEditor.Proofs.Session.Tree
import ModalEditor.Proofs.Session.Settings
import ModalEditor.Proofs.Session.Alike
import ModalEditor.Proofs.Session.Isolation
import ModalEditor.Proofs.Session.Backdrop
import ModalEditor.Proofs.CommandLine
import ModalEditor.Proofs.Checked.Rope
import ModalEditor.Proofs.History.Ledger
import ModalEditor.Proofs.Text.SpliceBytes
import ModalEditor.Proofs.Highlight.Columns
import ModalEditor.Proofs.Highlight.Spans
import ModalEditor.Proofs.Key
import ModalEditor.Proofs.Search.Numbering
import ModalEditor.Proofs.Pattern.Quoting
import ModalEditor.Proofs.Pattern.Iteration
import ModalEditor.Proofs.Search.Library
import ModalEditor.Proofs.Search.Literal
import ModalEditor.Proofs.Resync.Debounce
import ModalEditor.Proofs.Resync.Cadence
import ModalEditor.Proofs.Checked.Viewport
import ModalEditor.Proofs.Checked.Conversion
