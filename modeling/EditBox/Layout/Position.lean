import EditBox.Layout.Cache

/-!
# Positions

The same place as an offset in the text, as a line and column, and as a row with a pixel distance
from its left edge. Arguments outside the text are brought inside. Positions on screen refer to the
rows of a cache, which should show the buffer.
-/

namespace EditBox.Layout

open EditBox.Text

/-- Row, distance from its left edge, and distance of its top from the top of the text. -/
structure VisualPos where
  row : Nat
  x : Nat
  y : Nat
  deriving DecidableEq, Repr

/-- Line and column of an offset; one past the end stands for the end. -/
def offsetToLineCol (b : Buffer) (offset : Nat) : Except Fault (Nat × Nat) := do
  let offset := min offset b.length
  let line := b.lineOf offset
  let start ← b.lineStart line
  let column ← Bounded.sub offset start
  return (line, column)

/-- Offset of a line and column, the line brought down to the last and the column to the end of the
line. -/
def lineColToOffset (b : Buffer) (line col : Nat) : Except Fault Nat := do
  let line := min line (b.lineCount - 1)
  let start ← b.lineStart line
  let length ← b.lineLength line
  return start + min col length

/-- Top of a row. -/
def rowTop (c : LayoutCache) (row : Nat) : Except Fault Nat :=
  Bounded.mul Bounded.pixelBound (Bounded.toPixel row) c.lineHeight

/-- First of the rows of a line, numbered from `first`, that a column touches. A column at a break
touches two rows and is found on the earlier one. -/
def rowTouching (line col first : Nat) : List Row → Option (Nat × Row)
  | [] => none
  | r :: rest =>
      if r.line = line then
        if r.start ≤ col ∧ col ≤ r.stop then some (first, r)
        else rowTouching line col (first + 1) rest
      else none

/-- Place on screen of the caret at an offset. Without a measurer at layout time everything is on
row 0. -/
def offsetToVisual (c : LayoutCache) (b : Buffer) (m : Measure) (offset : Nat) :
    Except Fault VisualPos := do
  if c.degraded then
    let text := match c.row? 0 with
      | some r => r.text
      | none => []
    let x ← m.width (text.take (min offset b.length))
    return ⟨0, x, 0⟩
  let (line, col) ← offsetToLineCol b offset
  let found := match c.firstRowOf line with
    | some first => rowTouching line col first (c.rows.drop first)
    | none => none
  match found with
  | some (row, r) =>
      let x ← m.width (r.text.take (col - r.start))
      let y ← rowTop c row
      return ⟨row, x, y⟩
  | none =>
      let row := c.rowCount - 1
      let x ← match c.row? row with
        | some r => m.width r.text
        | none => .ok 0
      let y ← rowTop c row
      return ⟨row, x, y⟩

/-- Number of characters of `rest` to add to `taken` until the text reaches `x` pixels, all of them
when it never does. -/
def columnReaching (m : Measure) (x : Int) (taken : List Char) :
    (rest : List Char) → Except Fault Nat
  | [] => do
      let _ ← m.width taken
      return 0
  | c :: rest => do
      if x ≤ (← m.width taken) then return 0
      else
        let more ← columnReaching m x (taken ++ [c]) rest
        return more + 1

/-- Offset under a pixel of a row; a row past the last stands for the last. The first column whose
distance reaches `x` wins, and past the end of the row it is the end. -/
def visualToOffset (c : LayoutCache) (b : Buffer) (m : Measure) (row : Nat) (x : Int) :
    Except Fault Nat := do
  match c.row? (min row (c.rowCount - 1)) with
  | none => return 0
  | some r =>
      let col ← columnReaching m x [] r.text
      let base ← if c.degraded then .ok 0 else b.lineStart r.line
      return min (base + r.start + col) b.length

end EditBox.Layout
