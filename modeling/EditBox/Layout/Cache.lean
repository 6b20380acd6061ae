import EditBox.Layout.Wrap
import EditBox.Run

/-!
# Layout cache

The rows of a buffer as last laid out. They are laid out anew, never patched, when a query finds
that the cache was invalidated, the content width changed, or the buffer has another revision than
the one they were made from.
-/

namespace EditBox.Layout

open EditBox.Text

/-- Choices of a layout. -/
structure LayoutOptions where
  /-- Pixels between rows. -/
  lineSpacing : Nat
  minContentWidth : Nat
  deriving DecidableEq, Repr

/-- Rows as last laid out, and what they were laid out from. -/
structure LayoutCache where
  rows : List Row
  dirty : Bool
  builtRevision : Option Nat
  builtWidth : Nat
  /-- Laid out without a measurer, as one row. -/
  degraded : Bool
  lineHeight : Nat
  recomputes : Nat
  deriving DecidableEq, Repr

namespace LayoutCache

/-- Cache before the first layout. -/
def fresh : LayoutCache where
  rows := [⟨0, 0, []⟩]
  dirty := true
  builtRevision := none
  builtWidth := 0
  degraded := false
  lineHeight := defaultGlyphHeight
  recomputes := 0

/-- Ask for a new layout. -/
def invalidate (c : LayoutCache) : LayoutCache := { c with dirty := true }

/-- Whether the rows may differ from those of the buffer at a content width. -/
def needsRebuild (c : LayoutCache) (b : Buffer) (contentWidth : Nat) : Bool :=
  c.dirty || c.builtRevision != some b.revision || c.builtWidth != contentWidth

/-- Height of a row: glyph and spacing, at least one pixel. -/
def rowHeight (measure : Option Measure) (options : LayoutOptions) : Except Fault Nat := do
  let glyph := match measure with
    | some m => m.glyphHeight
    | none => defaultGlyphHeight
  let height ← Bounded.add Bounded.pixelBound glyph options.lineSpacing
  return max height 1

/-- Layout of a buffer made from nothing. -/
def rebuild (c : LayoutCache) (b : Buffer) (contentWidth : Nat) (measure : Option Measure)
    (options : LayoutOptions) : Except Fault LayoutCache := do
  let rows ← wrapBuffer b contentWidth measure options.minContentWidth
  let lineHeight ← rowHeight measure options
  return {
    rows := rows
    dirty := false
    builtRevision := some b.revision
    builtWidth := contentWidth
    degraded := measure.isNone
    lineHeight := lineHeight
    recomputes := c.recomputes + 1 }

/-- Cache that shows the buffer, laid out anew if needed. -/
def ensure (c : LayoutCache) (b : Buffer) (contentWidth : Nat) (measure : Option Measure)
    (options : LayoutOptions) : Run LayoutCache := do
  if c.needsRebuild b contentWidth then
    let built ← c.rebuild b contentWidth measure options
    Run.report
      (.relaid built.rows.length b.lineCount contentWidth built.degraded b.revision)
    return built
  else return c

/-- A layout just made shows the buffer it was made from. -/
theorem needsRebuild_rebuild {c built : LayoutCache} {b : Buffer} {contentWidth : Nat}
    {measure : Option Measure} {options : LayoutOptions}
    (h : c.rebuild b contentWidth measure options = .ok built) :
    built.needsRebuild b contentWidth = false := by
  obtain ⟨rows, _, h⟩ := Fault.bind_eq_ok_iff.mp h
  obtain ⟨height, _, h⟩ := Fault.bind_eq_ok_iff.mp h
  cases h
  simp [needsRebuild]

/-- A cache is kept, or replaced by a layout made from nothing. -/
theorem result_ensure (c : LayoutCache) (b : Buffer) (contentWidth : Nat)
    (measure : Option Measure) (options : LayoutOptions) :
    (c.ensure b contentWidth measure options).result =
      if c.needsRebuild b contentWidth then c.rebuild b contentWidth measure options
      else .ok c := by
  unfold ensure
  split
  · rw [Run.result_bind, Run.result_liftM]
    cases c.rebuild b contentWidth measure options with
    | error e => rfl
    | ok built => rfl
  · rfl

/-- Row by number. -/
def row? (c : LayoutCache) (row : Nat) : Option Row := c.rows[row]?

/-- Number of rows. -/
def rowCount (c : LayoutCache) : Nat := c.rows.length

/-- Height of all rows. -/
def textHeight (c : LayoutCache) : Except Fault Nat :=
  Bounded.mul Bounded.pixelBound (Bounded.toPixel c.rowCount) c.lineHeight

/-- First row of a line, if the line has been laid out. -/
def firstRowOf (c : LayoutCache) (line : Nat) : Option Nat :=
  let first := (c.rows.takeWhile (·.line < line)).length
  match c.rows[first]? with
  | some r => if r.line = line then some first else none
  | none => none

end LayoutCache

end EditBox.Layout
