import EditBox.Frame
import EditBox.Proofs.Box.Current
import EditBox.Proofs.Layout.Adjacent
import EditBox.Proofs.Layout.Window

/-!
# Rows of a frame

What a frame is made of. `rowFrames` walks down the rows with a height that it adds to at each;
`draws_of_rowFrames` gives the height of each row at once, and `Made.draws` reads it as a multiple
of the row number from which the scroll is taken. `selectionRect_eq` says what the rectangle behind
a row is. `exists_made` finds these parts in any frame.
-/

namespace EditBox.Frame

open EditBox.Box EditBox.Layout EditBox.Text Bounded

variable {box box' : Box} {left y : Int} {lineHeight row content edge : Nat} {rows : List Row}
  {frames : List RowFrame} {rects : List Rect} {caretOn : Bool} {f : Frame} {pos : VisualPos}

/-- A row of a frame is a row of the layout, with the offset at which it begins and the number of
its line if it is the first there. It begins at a height and ends within screen coordinates. -/
structure Draws (b : Buffer) (lineHeight row : Nat) (y : Int) (r : Row) (rf : RowFrame) : Prop where
  row_eq : rf.row = row
  line_eq : rf.line = r.line
  startsAt : r.StartsAt b rf.startOffset
  text_eq : rf.text = r.text
  y_eq : rf.y = y
  gutterNumber_eq : rf.gutterNumber = r.number
  below_lt : y + lineHeight < coordinateBound

private theorem startsAt_of_rowStart {degraded : Bool} {b : Buffer} {r : Row} {start : Nat}
    (hd : degraded = true → r.line = 0) (h : rowStart degraded b r = .ok start) :
    r.StartsAt b start := by
  unfold rowStart at h
  split at h
  · next hdegraded =>
    cases h
    rw [Row.StartsAt, hd hdegraded]
    exact ⟨0, b.lineStart_zero, (Nat.zero_add _).symm⟩
  · obtain ⟨first, hfirst, h⟩ := Fault.bind_eq_ok_iff.mp h
    cases h
    exact ⟨first, hfirst, rfl⟩

/-- Each of the rows is drawn, one below the other. -/
theorem draws_of_rowFrames (hd : box.layout.degraded = true → ∀ r ∈ rows, r.line = 0)
    (hl : lineHeight < coordinateBound)
    (h : rowFrames box left lineHeight row y rows = .ok (frames, rects)) :
    frames.length = rows.length ∧ ∀ (i : Nat) (rf : RowFrame), frames[i]? = some rf →
      ∃ r, rows[i]? = some r ∧
        Draws box.editor.buffer lineHeight (row + i) (y + (i * lineHeight : Nat)) r rf := by
  induction rows generalizing row y frames rects with
  | nil =>
    cases h
    simp
  | cons r rest ih =>
    obtain ⟨start, hstart, h⟩ := Fault.bind_eq_ok_iff.mp h
    obtain ⟨rect, -, h⟩ := Fault.bind_eq_ok_iff.mp h
    obtain ⟨below, hbelow, h⟩ := Fault.bind_eq_ok_iff.mp h
    obtain ⟨⟨frames', rects'⟩, hrest, h⟩ := Fault.bind_eq_ok_iff.mp h
    cases h
    have hfirst : box.layout.degraded = true → r.line = 0 := fun hdegraded ↦
      hd hdegraded r (List.mem_cons_self ..)
    rw [toCoordinate_of_lt hl] at hbelow
    obtain ⟨⟨-, hlt⟩, rfl⟩ := intAdd_eq_ok_iff.mp hbelow
    obtain ⟨hlength, hdraws⟩ := ih (fun hdegraded r' hr' ↦
      hd hdegraded r' (List.mem_cons_of_mem _ hr')) hrest
    constructor
    · rw [List.length_cons, List.length_cons, hlength]
    · intro i rf hi
      cases i with
      | zero =>
        cases hi
        refine ⟨r, rfl, ⟨rfl, rfl, startsAt_of_rowStart hfirst hstart, rfl, ?_, rfl, ?_⟩⟩
        · simp
        · simpa using hlt
      | succ i =>
        obtain ⟨r', hr', hdraw⟩ := hdraws i rf hi
        refine ⟨r', hr', ?_⟩
        have hrow : row + 1 + i = row + (i + 1) := by omega
        have hy : y + lineHeight + (i * lineHeight : Nat) = y + ((i + 1) * lineHeight : Nat) := by
          rw [Nat.succ_mul]
          omega
        rw [hrow, hy] at hdraw
        exact hdraw

/-- A rectangle is made without the checked differences that clip the selection to its row, because
they never fall below zero. -/
theorem selectionRect_eq (m : Measure) (left y : Int) (lineHeight : Nat) (selected : Nat × Nat)
    (start : Nat) (r : Row) :
    selectionRect m left y lineHeight selected start r =
      if selected.1 < selected.2 ∧ start < selected.2 ∧ selected.1 < start + r.length then do
        let before ← m.width (r.text.take (selected.1 - start))
        let x ← intAdd coordinateBound left (toCoordinate before)
        let width ← m.width ((r.text.drop (selected.1 - start)).take
          (min selected.2 (start + r.length) - start - (selected.1 - start)))
        return some ⟨x, y, width, lineHeight⟩
      else return none := by
  rw [selectionRect]
  dsimp only
  split
  · next hmeets =>
    obtain ⟨hlt, hstart, hstop⟩ := hmeets
    rw [sub_eq_ok (by omega), Fault.ok_bind, sub_eq_ok (by omega), Fault.ok_bind]
  · rfl

/-- First row of a frame. -/
def first (box : Box) : Nat := box.view.firstVisibleRow box.layout.lineHeight

/-- Last row that a frame has room for, with `content` pixels for the text. -/
def last (box : Box) (content : Nat) : Nat :=
  min (first box + (content / box.layout.lineHeight + 2)) (box.layout.rowCount - 1)

/-- Height at which a row of the layout is drawn. -/
def rowY (box : Box) (row : Nat) : Int :=
  box.view.contentTop + (row * box.layout.lineHeight : Nat) - box.view.scroll

/-- Pixels of the first row above the window. -/
def hidden (box : Box) : Nat := box.view.scroll % box.layout.lineHeight

/-- What the frame of a laid out box is made of. -/
structure Made (box : Box) (caretOn : Bool) (f : Frame) (pos : VisualPos) (content edge : Nat) :
    Prop where
  current : box.Current
  place : offsetToVisual box.layout box.editor.buffer box.measurer box.editor.caret = .ok pos
  contentHeight : box.view.contentHeight = .ok content
  contentLeft : box.view.contentLeft = .ok edge
  lineHeight_eq : f.lineHeight = box.layout.lineHeight
  contentLeft_eq : f.contentLeft = toCoordinate edge
  rows : ∃ y, intSub coordinateBound (toCoordinate box.view.contentTop)
      (toCoordinate (hidden box)) = .ok y ∧
    rowFrames box (toCoordinate edge) box.layout.lineHeight (first box) y
      ((box.layout.rows.take (last box content + 1)).drop (first box)) = .ok (f.rows, f.selection)
  caret : caretRect box (box.focused && caretOn) pos (toCoordinate edge)
    (toCoordinate box.view.contentTop) box.layout.lineHeight (first box) (last box content)
    (toCoordinate (hidden box)) = .ok f.caret

namespace Made

variable (h : Made box caretOn f pos content edge)
include h

/-- The first row and the pixels of it above the window make up the scroll. -/
theorem first_mul_add_hidden :
    first box * box.layout.lineHeight + hidden box = box.view.scroll := by
  obtain ⟨width, hshows⟩ := h.current.exists_shows
  rw [first, View.firstVisibleRow, Nat.max_eq_left hshows.lineHeight_pos, hidden, Nat.mul_comm]
  exact Nat.div_add_mod _ _

/-- Less than a row is above the window. -/
theorem hidden_lt : hidden box < box.layout.lineHeight := by
  obtain ⟨width, hshows⟩ := h.current.exists_shows
  exact Nat.mod_lt _ hshows.lineHeight_pos

/-- There is a last row. -/
theorem last_lt : last box content < box.layout.rowCount := by
  obtain ⟨width, hshows⟩ := h.current.exists_shows
  have hpos := hshows.rowCount_pos
  rw [last]
  omega

/-- The frame has the rows from its first to its last, each at its height. -/
theorem draws (hl : f.lineHeight < coordinateBound) :
    f.rows.length = last box content + 1 - first box ∧
      ∀ (i : Nat) (rf : RowFrame), f.rows[i]? = some rf → ∃ r,
        box.layout.row? (first box + i) = some r ∧
          Draws box.editor.buffer box.layout.lineHeight (first box + i)
            (rowY box (first box + i)) r rf := by
  obtain ⟨width, hshows⟩ := h.current.exists_shows
  rw [h.lineHeight_eq] at hl
  have hscroll := h.first_mul_add_hidden
  have hlast := h.last_lt
  obtain ⟨y, hy, hrows⟩ := h.rows
  rw [toCoordinate_of_lt (View.contentTop_lt h.contentHeight),
    toCoordinate_of_lt (Nat.lt_trans h.hidden_lt hl)] at hy
  obtain ⟨-, rfl⟩ := intSub_eq_ok_iff.mp hy
  obtain ⟨hlength, hdraws⟩ := draws_of_rowFrames (fun hdegraded r hr ↦
    hshows.line_eq_zero hdegraded (List.mem_of_mem_take (List.mem_of_mem_drop hr))) hl hrows
  constructor
  · have hle : last box content + 1 ≤ box.layout.rows.length := hlast
    rw [hlength, List.length_drop, List.length_take, Nat.min_eq_left hle]
  · intro i rf hi
    obtain ⟨r, hr, hdraw⟩ := hdraws i rf hi
    rw [List.getElem?_drop, List.getElem?_take] at hr
    split at hr
    · refine ⟨r, hr, ?_⟩
      have hheight : box.view.contentTop - (hidden box : Int) + (i * box.layout.lineHeight : Nat) =
          rowY box (first box + i) := by
        rw [rowY, Nat.add_mul]
        omega
      rw [hheight] at hdraw
      exact hdraw
    · cases hr

/-- The frame has a row of each number from its first to its last. -/
theorem exists_mem_iff (hl : f.lineHeight < coordinateBound) :
    (∃ rf ∈ f.rows, rf.row = row) ↔ first box ≤ row ∧ row ≤ last box content := by
  obtain ⟨hlength, hdraws⟩ := h.draws hl
  constructor
  · rintro ⟨rf, hrf, rfl⟩
    obtain ⟨i, hi⟩ := List.mem_iff_getElem?.mp hrf
    obtain ⟨r, -, hdraw⟩ := hdraws i rf hi
    have hlt := (List.getElem?_eq_some_iff.mp hi).1
    rw [hdraw.row_eq]
    omega
  · intro hrow
    have hlt : row - first box < f.rows.length := by omega
    have hi := List.getElem?_eq_getElem hlt
    obtain ⟨r, -, hdraw⟩ := hdraws _ _ hi
    refine ⟨_, List.mem_of_getElem? hi, ?_⟩
    rw [hdraw.row_eq]
    omega

/-- Every row of the frame draws a row of the layout, at the height of that row. -/
theorem exists_draws (hl : f.lineHeight < coordinateBound) {rf : RowFrame} (hrf : rf ∈ f.rows) :
    ∃ r, box.layout.row? rf.row = some r ∧
      Draws box.editor.buffer box.layout.lineHeight rf.row (rowY box rf.row) r rf := by
  obtain ⟨i, hi⟩ := List.mem_iff_getElem?.mp hrf
  obtain ⟨r, hr, hdraw⟩ := (h.draws hl).2 i rf hi
  rw [← hdraw.row_eq] at hr hdraw
  exact ⟨r, hr, hdraw⟩

end Made

/-- A frame of a sound box is made of the rows that show its text, and the box is only laid out. -/
theorem exists_made (hs : box.Sound) (h : (build box caretOn).result = .ok (box', f)) :
    ∃ layout pos content edge, box' = box.laid layout ∧ Made box' caretOn f pos content edge := by
  rw [build, Run.result_bind] at h
  obtain ⟨⟨laidOut, pos⟩, hcaret, h⟩ := Fault.bind_eq_ok_iff.mp h
  obtain ⟨hcurrent, ⟨layout, rfl⟩, hplace⟩ := hs.of_caretVisual hcaret
  obtain ⟨width, hshows⟩ := hcurrent.exists_shows
  have hheight : max (box.laid layout).layout.lineHeight 1 = (box.laid layout).layout.lineHeight :=
    Nat.max_eq_left hshows.lineHeight_pos
  simp only [Run.result_bind, Run.result_liftM, hheight] at h
  obtain ⟨edge, hedge, h⟩ := Fault.bind_eq_ok_iff.mp h
  obtain ⟨content, hcontent, h⟩ := Fault.bind_eq_ok_iff.mp h
  obtain ⟨y, hy, h⟩ := Fault.bind_eq_ok_iff.mp h
  obtain ⟨⟨frames, selection⟩, hframes, h⟩ := Fault.bind_eq_ok_iff.mp h
  obtain ⟨caret, hrect, h⟩ := Fault.bind_eq_ok_iff.mp h
  obtain ⟨-, -, h⟩ := Fault.bind_eq_ok_iff.mp h
  cases h
  rw [← Int.natCast_emod] at hy hrect
  refine ⟨layout, pos, content, edge, rfl, hcurrent, hplace, hcontent, hedge, rfl, ?_,
    ⟨y, hy, hframes⟩, hrect⟩
  dsimp only

end EditBox.Frame
