import EditBox.Bounded

/-!
# View

Geometry of the edit box and its vertical scrolling. Points are relative to the top left corner of
the box. The text begins after the gutter and the padding on the left and after the padding on top;
`scroll` is the height of text hidden above it.
-/

namespace EditBox

/-- How a height becomes a row number. -/
inductive RowRounding where
  /-- The row that contains the point, for clicks. -/
  | truncate
  /-- The row whose middle is nearest, for drags. -/
  | nearest
  deriving DecidableEq, Repr

/-- Size of the edit box, its margins, and how far it is scrolled. -/
structure View where
  width : Nat
  height : Nat
  padding : Nat
  gutter : Nat
  scroll : Nat
  deriving DecidableEq, Repr

namespace View

open Bounded

/-- View scrolled to the start. -/
def unscrolled (width height padding gutter : Nat) : View := ⟨width, height, padding, gutter, 0⟩

/-- Padding on two opposite sides. -/
def paddings (v : View) : Except Fault Nat := mul pixelBound v.padding 2

/-- Width left for text. -/
def contentWidth (v : View) : Except Fault Nat := do
  return v.width - v.gutter - (← v.paddings)

/-- Height left for text. -/
def contentHeight (v : View) : Except Fault Nat := do
  return v.height - (← v.paddings)

/-- Left edge of the text. -/
def contentLeft (v : View) : Except Fault Nat := add pixelBound v.gutter v.padding

/-- Top edge of the text. -/
def contentTop (v : View) : Nat := v.padding

/-- Largest useful scroll for a number of rows. -/
def maxScroll (v : View) (rows lineHeight : Nat) : Except Fault Nat := do
  let text ← mul pixelBound (toPixel rows) lineHeight
  return text - (← v.contentHeight)

/-- Row and distance from the left edge of the text of a point. The row is brought within the
existing rows. -/
def pointToRowX (v : View) (px py : Int) (lineHeight rows : Nat) (rounding : RowRounding) :
    Except Fault (Nat × Int) := do
  let left ← v.contentLeft
  let x ← intSub coordinateBound px (toCoordinate left)
  let y : Int := py - v.contentTop + v.scroll
  let height : Int := max lineHeight 1
  let row := match rounding with
    | .truncate => y / height
    | .nearest => (2 * y + height) / (2 * height)
  let row ← clamp 0 (toDistance ((rows - 1 : Nat) : Int)) row
  return (row.toNat, x)

/-- Scroll so that a row with its top at `y` is shown whole. -/
def ensureVisible (v : View) (y lineHeight rows : Nat) : Except Fault View := do
  let content ← v.contentHeight
  if y < v.scroll then return { v with scroll := y }
  else if (v.scroll : Int) + content - lineHeight < y then
    let limit ← v.maxScroll rows lineHeight
    let target ← clamp 0 limit ((y : Int) - content + lineHeight)
    return { v with scroll := target.toNat }
  else return v

/-- Scroll by notches of `notch` pixels, up for a positive `delta`. -/
def scrollWheel (v : View) (delta : Int) (notch rows lineHeight : Nat) : Except Fault View := do
  let limit ← v.maxScroll rows lineHeight
  let next ← intSub distanceBound v.scroll (delta * notch)
  let target ← clamp 0 limit next
  return { v with scroll := target.toNat }

/-- Scroll up by one content height. -/
def pageUp (v : View) : Except Fault View := do
  let content ← v.contentHeight
  return { v with scroll := v.scroll - content }

/-- Scroll down by one content height. -/
def pageDown (v : View) (rows lineHeight : Nat) : Except Fault View := do
  let limit ← v.maxScroll rows lineHeight
  let content ← v.contentHeight
  let next ← add pixelBound v.scroll content
  return { v with scroll := min next limit }

/-- First row that the view shows. -/
def firstVisibleRow (v : View) (lineHeight : Nat) : Nat := v.scroll / max lineHeight 1

end View

end EditBox
