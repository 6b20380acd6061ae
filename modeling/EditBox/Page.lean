import EditBox.Frame

/-!
# Text pages

A frame as plain text: one line for each row with the line number in the gutter, a bar, and the
text of the row without its closing line breaks.
-/

namespace EditBox

/-- Frame drawn as text. -/
structure Page where
  lines : List (List Char)
  /-- Top left corner of the caret. -/
  caret : Option (Int × Int)
  selectionRects : Nat
  deriving DecidableEq, Repr

namespace Page

/-- Width of the gutter in characters. -/
def gutterColumns : Nat := 4

/-- Line number at the right edge of the gutter. -/
def gutter (number : Option Nat) : List Char :=
  let digits := match number with
    | some n => (toString n).toList
    | none => []
  List.replicate (gutterColumns - digits.length) ' ' ++ digits

/-- Text without the line breaks at its end. -/
def trimBreaks (text : List Char) : List Char :=
  (text.reverse.dropWhile fun c ↦ c == '\n' || c == '\r').reverse

/-- Line of a row. -/
def rowLine (r : RowFrame) : List Char := gutter r.gutterNumber ++ '|' :: trimBreaks r.text

/-- Page of a frame. -/
def ofFrame (f : Frame) : Page where
  lines := f.rows.map rowLine
  caret := f.caret.map fun r ↦ (r.x, r.y)
  selectionRects := f.selection.length

/-- Lines joined by line feeds, with one at the end. -/
def output (p : Page) : List Char := List.intercalate ['\n'] p.lines ++ ['\n']

/-- Page of an edit box whose caret blinks. -/
def render (box : Box) (blink : Blink) : Run (Box × Page) := do
  let (box, frame) ← Frame.build box blink.visible
  return (box, ofFrame frame)

end Page

end EditBox
