import EditBox.Layout.Position
import EditBox.Proofs.Layout.Cache
import EditBox.View

/-!
# Faults of geometry

Translating positions on the rows of a cache that shows the buffer never looks up a line that the
buffer does not have. What is left to stop it is arithmetic and the measurer.
-/

namespace EditBox

open EditBox.Layout EditBox.Text

variable {measure : Option Measure}

namespace View

private theorem safe_paddings (v : View) : Safe measure v.paddings := Safe.mul _ _ _

/-- The width left for text. -/
theorem safe_contentWidth (v : View) : Safe measure v.contentWidth :=
  Safe.bind v.safe_paddings fun _ _ ↦ .ok _

/-- The height left for text. -/
theorem safe_contentHeight (v : View) : Safe measure v.contentHeight :=
  Safe.bind v.safe_paddings fun _ _ ↦ .ok _

/-- The left edge of the text. -/
theorem safe_contentLeft (v : View) : Safe measure v.contentLeft := Safe.add _ _ _

/-- The largest useful scroll. -/
theorem safe_maxScroll (v : View) (rows lineHeight : Nat) :
    Safe measure (v.maxScroll rows lineHeight) := by
  apply Safe.bind (Safe.mul _ _ _)
  intro text _
  exact Safe.bind v.safe_contentHeight fun _ _ ↦ .ok _

/-- The row and distance of a point. -/
theorem safe_pointToRowX (v : View) (px py : Int) (lineHeight rows : Nat)
    (rounding : RowRounding) : Safe measure (v.pointToRowX px py lineHeight rows rounding) := by
  apply Safe.bind v.safe_contentLeft
  intro left _
  apply Safe.bind (Safe.intSub _ _ _)
  intro x _
  exact Safe.bind (Safe.clamp _ _ _) fun row _ ↦ .ok _

/-- The scroll to a row. -/
theorem safe_ensureVisible (v : View) (y lineHeight rows : Nat) :
    Safe measure (v.ensureVisible y lineHeight rows) := by
  apply Safe.bind v.safe_contentHeight
  intro content _
  refine Safe.ite (fun _ ↦ .ok _) fun _ ↦ Safe.ite (fun _ ↦ ?_) fun _ ↦ .ok _
  apply Safe.bind (v.safe_maxScroll _ _)
  intro limit _
  exact Safe.bind (Safe.clamp _ _ _) fun target _ ↦ .ok _

/-- The scroll by the wheel. -/
theorem safe_scrollWheel (v : View) (delta : Int) (notch rows lineHeight : Nat) :
    Safe measure (v.scrollWheel delta notch rows lineHeight) := by
  apply Safe.bind (v.safe_maxScroll _ _)
  intro limit _
  apply Safe.bind (Safe.intSub _ _ _)
  intro next _
  exact Safe.bind (Safe.clamp _ _ _) fun target _ ↦ .ok _

/-- The scroll up by a page. -/
theorem safe_pageUp (v : View) : Safe measure v.pageUp :=
  Safe.bind v.safe_contentHeight fun _ _ ↦ .ok _

/-- The scroll down by a page. -/
theorem safe_pageDown (v : View) (rows lineHeight : Nat) :
    Safe measure (v.pageDown rows lineHeight) := by
  apply Safe.bind (v.safe_maxScroll _ _)
  intro limit _
  apply Safe.bind v.safe_contentHeight
  intro content _
  exact Safe.bind (Safe.add _ _ _) fun next _ ↦ .ok _

end View

namespace Layout

variable {c : LayoutCache} {b : Buffer} {m : Measure} {width : Nat} {options : LayoutOptions}

private theorem safe_offsetToLineCol (b : Buffer) (offset : Nat) :
    Safe measure (offsetToLineCol b offset) := by
  apply Safe.bind (Buffer.safe_lineStart_lineOf b _)
  intro start _
  exact Safe.bind (Safe.sub _ _) fun column _ ↦ .ok _

private theorem safe_rowTop (c : LayoutCache) (row : Nat) : Safe measure (rowTop c row) :=
  Safe.mul _ _ _

/-- The rows of a cache that shows the buffer belong to lines that it has. -/
theorem LayoutCache.Shows.line_lt (h : c.Shows b width measure options) {r : Row}
    (hr : r ∈ c.rows) : r.line < b.lineCount :=
  line_lt_of_mem_wrapBuffer h.rows r hr

section Measured

variable (hm : ∀ text, Safe measure (m.width text))
include hm

/-- The place on screen of an offset. -/
theorem safe_offsetToVisual (c : LayoutCache) (b : Buffer) (offset : Nat) :
    Safe measure (offsetToVisual c b m offset) := by
  refine Safe.ite (fun _ ↦ Safe.bind (hm _) fun x _ ↦ .ok _) fun _ ↦ ?_
  apply Safe.bind (safe_offsetToLineCol b offset)
  intro place _
  dsimp only
  split
  · apply Safe.bind (hm _)
    intro x _
    exact Safe.bind (safe_rowTop c _) fun y _ ↦ .ok _
  · split
    · apply Safe.bind (hm _)
      intro x _
      exact Safe.bind (safe_rowTop c _) fun y _ ↦ .ok _
    · apply Safe.bind (.ok 0)
      intro x _
      exact Safe.bind (safe_rowTop c _) fun y _ ↦ .ok _

private theorem safe_columnReaching (x : Int) (taken rest : List Char) :
    Safe measure (columnReaching m x taken rest) := by
  induction rest generalizing taken with
  | nil => exact Safe.bind (hm _) fun _ _ ↦ .ok 0
  | cons c rest ih =>
    refine Safe.bind (hm _) fun w _ ↦ Safe.ite (fun _ ↦ .ok 0) fun _ ↦ ?_
    exact Safe.bind (ih _) fun more _ ↦ .ok _

/-- The offset under a pixel of a row. -/
theorem safe_visualToOffset (h : c.Shows b width measure options) (row : Nat) (x : Int) :
    Safe measure (visualToOffset c b m row x) := by
  unfold visualToOffset
  split
  · exact .ok 0
  · next r hr =>
    apply Safe.bind (safe_columnReaching hm _ _ _)
    intro col _
    refine Safe.ite (fun _ ↦ .ok _) fun _ ↦ ?_
    exact Safe.bind (Buffer.safe_lineStart (h.line_lt (List.mem_of_getElem? hr))) fun base _ ↦ .ok _

end Measured

end Layout

end EditBox
