import EditBox.Editor
import EditBox.Layout.Position
import EditBox.Options
import EditBox.Pointer
import EditBox.View

/-!
# Edit box

An editor together with the geometry derived from it. Changes of the text, the measurer or the size
lay nothing out; the next geometry query does, through `Box.ensureLayout`. Without a measurer the
text is one row, and positions are measured with the fallback pitch.
-/

namespace EditBox

open EditBox.Layout EditBox.Text

/-- Editor, layout, view, pointer, focus, and the measurer given by the host. -/
structure Box where
  editor : Editor
  layout : LayoutCache
  view : View
  pointer : Pointer
  /-- Keyboard focus; without it keyboard commands are ignored and the caret is hidden. -/
  focused : Bool
  options : Options
  measure : Option Measure

namespace Box

/-- Focused edit box on a fresh buffer. -/
def new (buffer : Buffer) (view : View) (options : Options) : Box where
  editor := .withUndoLimit buffer options.undoLimit
  layout := .fresh
  view := view
  pointer := .idle
  focused := true
  options := options
  measure := none

/-- Edit box of a size with the geometry and behaviour of settings. -/
def ofSettings (buffer : Buffer) (s : Settings) (width height : Nat) : Box :=
  new buffer (.unscrolled width height s.layout.padding s.layout.gutterWidth) (.ofSettings s)

/-- Change the measurer and lay out anew. -/
def setMeasure (box : Box) (measure : Option Measure) : Box :=
  { box with measure := measure, layout := box.layout.invalidate }

/-- Measurer for positions. -/
def measurer (box : Box) : Measure := box.measure.getD .fallback

/-- Change the size, and lay out anew if the content width changes with it. -/
def resize (box : Box) (width height : Nat) : Except Fault Box := do
  let before ← box.view.contentWidth
  let view := { box.view with width := width, height := height }
  let after ← view.contentWidth
  return { box with
    view := view
    layout := if after = before then box.layout else box.layout.invalidate }

/-- The same box with rows that show its text. -/
def ensureLayout (box : Box) : Run Box := do
  let width ← box.view.contentWidth
  let layout ← box.layout.ensure box.editor.buffer width box.measure box.options.layout
  return { box with layout := layout }

/-- Height of a row. -/
def lineHeight (box : Box) : Run (Box × Nat) := do
  let box ← box.ensureLayout
  return (box, box.layout.lineHeight)

/-- Number of rows. -/
def rowCount (box : Box) : Run (Box × Nat) := do
  let box ← box.ensureLayout
  return (box, box.layout.rowCount)

/-- Place on screen of an offset. -/
def offsetVisual (box : Box) (offset : Nat) : Run (Box × VisualPos) := do
  let box ← box.ensureLayout
  let pos ← offsetToVisual box.layout box.editor.buffer box.measurer offset
  return (box, pos)

/-- Place on screen of the caret. -/
def caretVisual (box : Box) : Run (Box × VisualPos) := box.offsetVisual box.editor.caret

/-- Offset under a pixel of a row. -/
def rowXToOffset (box : Box) (row : Nat) (x : Int) : Run (Box × Nat) := do
  let box ← box.ensureLayout
  let offset ← visualToOffset box.layout box.editor.buffer box.measurer row x
  return (box, offset)

/-- Offset under a point of the edit box. -/
def pointToOffset (box : Box) (px py : Int) (rounding : RowRounding) : Run (Box × Nat) := do
  let box ← box.ensureLayout
  let (row, x) ←
    box.view.pointToRowX px py box.layout.lineHeight box.layout.rowCount rounding
  box.rowXToOffset row x

/-- Scroll so that the row of the caret is shown; whether the view scrolled. -/
def ensureCaretVisible (box : Box) : Run (Box × Bool) := do
  let (box, pos) ← box.caretVisual
  let view ← box.view.ensureVisible pos.y box.layout.lineHeight box.layout.rowCount
  return ({ box with view := view }, view.scroll != box.view.scroll)

/-- Bring the scroll down to what the rows allow. -/
def clampScroll (box : Box) : Run Box := do
  let box ← box.ensureLayout
  let limit ← box.view.maxScroll box.layout.rowCount box.layout.lineHeight
  return { box with view := { box.view with scroll := min box.view.scroll limit } }

end Box

end EditBox
