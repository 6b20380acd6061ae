import EditBox.Main
import EditBox.Editor.Operation
import EditBox.Files.Tree
import EditBox.Proofs.Text.Lines
import EditBox.Proofs.Text.Words
import EditBox.Proofs.Editor.Splice
import EditBox.Proofs.Editor.Step
import EditBox.Proofs.Editor.Invariant
import EditBox.Proofs.Editor.Run
import EditBox.Proofs.Editor.Edits
import EditBox.Proofs.Editor.Timeline
import EditBox.Proofs.Editor.Reversal
import EditBox.Proofs.Editor.Depth
import EditBox.Proofs.Editor.Gesture
import EditBox.Proofs.Editor.Unsaved
import EditBox.Proofs.Outcome
import EditBox.Proofs.Text.Lookup
import EditBox.Proofs.Layout.Wrap
import EditBox.Proofs.Layout.Steps
import EditBox.Proofs.Layout.Rows
import EditBox.Proofs.Layout.Greedy
import EditBox.Proofs.Layout.Widening
import EditBox.Proofs.Layout.Cache
import EditBox.Proofs.Layout.Geometry
import EditBox.Proofs.Layout.Widths
import EditBox.Proofs.Layout.Places
import EditBox.Proofs.Editor.Counting
import EditBox.Proofs.Box.Twin
import EditBox.Proofs.Box.Frame
import EditBox.Proofs.Box.Dispatch
import EditBox.Proofs.Box.Session
import EditBox.Proofs.Box.Reach
import EditBox.Proofs.Box.Current
import EditBox.Proofs.Box.Vertical
import EditBox.Proofs.Layout.Window
import EditBox.Proofs.Box.Queries
import EditBox.Proofs.Box.Effect
import EditBox.Proofs.Box.Reply
import EditBox.Proofs.Box.Scrolling
import EditBox.Proofs.Box.Reveal
import EditBox.Proofs.Box.Ready
import EditBox.Proofs.Box.Faultless
import EditBox.Proofs.Box.Paging
import EditBox.Proofs.Box.Clipboard
import EditBox.Proofs.Text.Breaks
import EditBox.Proofs.Text.Index
import EditBox.Proofs.Text.Pieces
import EditBox.Proofs.Text.Navigation
import EditBox.Proofs.Text.WordRuns
import EditBox.Proofs.Text.Tokens
import EditBox.Proofs.Text.WordSpans
import EditBox.Proofs.Editor.WordDeletion
import EditBox.Proofs.Editor.Characters
import EditBox.Proofs.Box.LineFeeds
import EditBox.Proofs.Layout.Columns
import EditBox.Proofs.Layout.RoundTrip
import EditBox.Proofs.Layout.Adjacent
import EditBox.Proofs.Layout.Order
import EditBox.Proofs.Frame.Rows
import EditBox.Proofs.Frame.Window
import EditBox.Proofs.Frame.HitTest
import EditBox.Proofs.Frame.Selection
import EditBox.Proofs.Frame.Settings
import EditBox.Proofs.Text.Normalization
import EditBox.Proofs.Text.LineEndings
import EditBox.Proofs.Box.Gestures
import EditBox.Proofs.Box.Dragging
import EditBox.Proofs.Box.MultiClicks
import EditBox.Proofs.Script.Numerals
import EditBox.Proofs.Script.Words
import EditBox.Proofs.Script.Forms
import EditBox.Proofs.Script.Commands
import EditBox.Proofs.Script.Reading
import EditBox.Proofs.Script.Joining
import EditBox.Proofs.Script.Clicks
import EditBox.Proofs.Frame.Blinking
import EditBox.Proofs.Text.WordSpans
