import EditBox.Blink
import EditBox.Box

/-!
# Frames

The visible part of an edit box, ready to be drawn: rows with their line numbers, rectangles behind
the selected text, and the caret. Coordinates are relative to the top left corner of the box; a row
scrolled off in part begins above it.
-/

namespace EditBox

open EditBox.Layout EditBox.Text

/-- Rectangle on screen. -/
structure Rect where
  x : Int
  y : Int
  width : Nat
  height : Nat
  deriving DecidableEq, Repr

/-- Visible row. -/
structure RowFrame where
  row : Nat
  line : Nat
  /-- Offset of its first character. -/
  startOffset : Nat
  text : List Char
  y : Int
  /-- Number of the line, counted from 1, on its first row. -/
  gutterNumber : Option Nat
  deriving DecidableEq, Repr

/-- Visible part of an edit box. -/
structure Frame where
  rows : List RowFrame
  selection : List Rect
  caret : Option Rect
  lineHeight : Nat
  contentLeft : Int
  contentTop : Int
  gutterWidth : Nat
  deriving DecidableEq, Repr

namespace Frame

open Bounded

/-- Offset of the first character of a row. -/
def rowStart (degraded : Bool) (b : Buffer) (r : Row) : Except Fault Nat :=
  if degraded then .ok r.start
  else do
    let start ← b.lineStart r.line
    return start + r.start

/-- Rectangle behind the selected characters of a row that starts at offset `start`, if there are
any. -/
def selectionRect (m : Measure) (left y : Int) (lineHeight : Nat) (selected : Nat × Nat)
    (start : Nat) (r : Row) : Except Fault (Option Rect) := do
  let stop := start + r.length
  if selected.1 < selected.2 ∧ start < selected.2 ∧ selected.1 < stop then
    let first := selected.1 - start
    let last ← sub (min selected.2 stop) start
    let count ← sub last first
    let before ← m.width (r.text.take first)
    let x ← intAdd coordinateBound left (toCoordinate before)
    let width ← m.width ((r.text.drop first).take count)
    return some ⟨x, y, width, lineHeight⟩
  else return none

/-- Frames of rows numbered from `row`, the first of them at height `y`, and the rectangles of
their selected parts. -/
def rowFrames (box : Box) (left : Int) (lineHeight row : Nat) (y : Int) :
    List Row → Except Fault (List RowFrame × List Rect)
  | [] => .ok ([], [])
  | r :: rest => do
      let start ← rowStart box.layout.degraded box.editor.buffer r
      let rect ← selectionRect box.measurer left y lineHeight box.editor.selection.range start r
      let frame : RowFrame :=
        { row := row
          line := r.line
          startOffset := start
          text := r.text
          y := y
          gutterNumber := if r.start = 0 then some (r.line + 1) else none }
      let below ← intAdd coordinateBound y (toCoordinate lineHeight)
      let (frames, rects) ← rowFrames box left lineHeight (row + 1) below rest
      return (frame :: frames, rect.toList ++ rects)

/-- Rectangle of the caret when it is shown and on one of the rows `first` to `last`. -/
def caretRect (box : Box) (shown : Bool) (pos : VisualPos) (left top : Int)
    (lineHeight first last : Nat) (hidden : Int) : Except Fault (Option Rect) := do
  if shown ∧ first ≤ pos.row ∧ pos.row ≤ last then
    let x ← intAdd coordinateBound left (toCoordinate pos.x)
    let down ← mul pixelBound (toPixel (pos.row - first)) lineHeight
    let lowered ← intAdd coordinateBound top (toCoordinate down)
    let y ← intSub coordinateBound lowered hidden
    return some ⟨x, y, box.options.caretWidth, lineHeight⟩
  else return none

/-- Frame of an edit box. The caret is part of it when the box has the focus, `caretOn` holds and
the row of the caret is visible. -/
def build (box : Box) (caretOn : Bool) : Run (Box × Frame) := do
  let (box, pos) ← box.caretVisual
  let view := box.view
  let lineHeight := max box.layout.lineHeight 1
  let left := toCoordinate (← view.contentLeft)
  let top := toCoordinate view.contentTop
  let first := view.firstVisibleRow lineHeight
  let visible := (← view.contentHeight) / lineHeight + 2
  let last := min (first + visible) (box.layout.rowCount - 1)
  let hidden := toCoordinate (view.scroll % lineHeight)
  let y ← intSub coordinateBound top hidden
  let (rows, selection) ←
    rowFrames box left lineHeight first y ((box.layout.rows.take (last + 1)).drop first)
  let caret ←
    caretRect box (box.focused && caretOn) pos left top lineHeight first last hidden
  Run.report (.frameBuilt rows.length selection.length caret.isSome)
  return (box,
    { rows := rows
      selection := selection
      caret := caret
      lineHeight := lineHeight
      contentLeft := left
      contentTop := top
      gutterWidth := view.gutter })

end Frame

end EditBox
