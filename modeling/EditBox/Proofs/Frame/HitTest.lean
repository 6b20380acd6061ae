import EditBox.Proofs.Box.Reach
import EditBox.Proofs.Frame.Rows
import EditBox.Proofs.Layout.RoundTrip

/-!
# Points on a frame

A click is answered from the view and the layout, not from the frame that was drawn, so both have to
agree on where things are. `frame_agrees_with_points` says that they do: a point at the height of a
row of the frame is on that row, and a point at the left edge of the caret is at its offset.
-/

namespace EditBox

open EditBox.Box EditBox.Layout EditBox.Text Bounded

/-- A height on screen is one of a row of a frame, where rows are so high. -/
def RowFrame.Spans (rf : RowFrame) (lineHeight : Nat) (py : Int) : Prop :=
  rf.y ≤ py ∧ py < rf.y + lineHeight

/-- The points on a frame of a box are those that the box answers for, with the caret at `pos`. -/
structure Frame.Agrees (f : Frame) (box : Box) (caretOn : Bool) (pos : VisualPos) : Prop where
  /-- A point at the height of a row is on that row, at its distance from the text. -/
  pointToRowX_eq : ∀ rf ∈ f.rows, ∀ px py, rf.Spans f.lineHeight py →
    box.view.pointToRowX px py f.lineHeight box.layout.rowCount .truncate = do
      let x ← intSub coordinateBound px f.contentLeft
      return (rf.row, x)
  caret_isSome_iff : f.caret.isSome = true ↔
    box.focused = true ∧ caretOn = true ∧ ∃ rf ∈ f.rows, rf.row = pos.row
  caret_y_eq : ∀ rect, f.caret = some rect → ∀ rf ∈ f.rows, rf.row = pos.row → rect.y = rf.y
  /-- A point at the left edge of the caret is at its offset, if no two offsets of a row share a
  pixel. -/
  pointToOffset_caret : (∀ r ∈ box.layout.rows, box.measurer.Increases r.text) →
    ∀ rect, f.caret = some rect → ∀ rf ∈ f.rows, rf.row = pos.row →
      ∀ py, rf.Spans f.lineHeight py →
        (box.pointToOffset rect.x py .truncate).result = .ok (box, box.editor.caret)

namespace Frame

variable {box : Box} {caretOn shown : Bool} {f : Frame} {pos : VisualPos}
  {content edge lineHeight start stop : Nat} {left top cut : Int} {caret : Option Rect}

/-- There is a rectangle for the caret if it is shown and its row is in the frame, and it is where
the place of the caret is. -/
theorem of_caretRect
    (h : caretRect box shown pos left top lineHeight start stop cut = .ok caret) :
    (caret.isSome = true ↔ shown = true ∧ start ≤ pos.row ∧ pos.row ≤ stop) ∧
      ∀ rect, caret = some rect →
        rect.x = left + toCoordinate pos.x ∧
        rect.y = top + toCoordinate (toPixel (pos.row - start) * lineHeight : Nat) - cut := by
  unfold caretRect at h
  split at h
  · next hshown =>
    obtain ⟨x, hx, h⟩ := Fault.bind_eq_ok_iff.mp h
    obtain ⟨down, hdown, h⟩ := Fault.bind_eq_ok_iff.mp h
    obtain ⟨lowered, hlowered, h⟩ := Fault.bind_eq_ok_iff.mp h
    obtain ⟨y, hy, h⟩ := Fault.bind_eq_ok_iff.mp h
    cases h
    obtain ⟨-, rfl⟩ := mul_eq_ok_iff.mp hdown
    obtain ⟨-, rfl⟩ := intAdd_eq_ok_iff.mp hx
    obtain ⟨-, rfl⟩ := intAdd_eq_ok_iff.mp hlowered
    obtain ⟨-, rfl⟩ := intSub_eq_ok_iff.mp hy
    refine ⟨⟨fun _ ↦ hshown, fun _ ↦ rfl⟩, ?_⟩
    rintro rect ⟨⟩
    exact ⟨rfl, rfl⟩
  · next hshown =>
    cases h
    constructor
    · simp [hshown]
    · rintro rect ⟨⟩

namespace Made

variable (h : Made box caretOn f pos content edge) (hl : f.lineHeight < coordinateBound)
include h hl

private theorem pointToRowX_eq (hrows : box.layout.rowCount ≤ distanceBound) {rf : RowFrame}
    (hrf : rf ∈ f.rows) (px : Int) {py : Int} (hpy : rf.Spans f.lineHeight py) :
    box.view.pointToRowX px py f.lineHeight box.layout.rowCount .truncate = do
      let x ← intSub coordinateBound px f.contentLeft
      return (rf.row, x) := by
  obtain ⟨width, hshows⟩ := h.current.exists_shows
  obtain ⟨r, hr, hdraw⟩ := h.exists_draws hl hrf
  have hrow : rf.row < box.layout.rowCount := (List.getElem?_eq_some_iff.mp hr).1
  have hy := hdraw.y_eq
  rw [rowY] at hy
  obtain ⟨htop, hbottom⟩ := hpy
  rw [h.lineHeight_eq] at hbottom ⊢
  rw [h.contentLeft_eq]
  apply View.pointToRowX_eq h.contentLeft hshows.lineHeight_pos hrow hrows
  · omega
  · rw [Nat.succ_mul]
    omega

/-- The frame has a caret if the box has the focus, the caret is on, and its row is in the frame. -/
theorem caret_isSome_iff :
    f.caret.isSome = true ↔
      box.focused = true ∧ caretOn = true ∧ ∃ rf ∈ f.rows, rf.row = pos.row := by
  rw [(of_caretRect h.caret).1, h.exists_mem_iff hl, Bool.and_eq_true, and_assoc]

private theorem caret_y_eq {rect : Rect} (hrect : f.caret = some rect) {rf : RowFrame}
    (hrf : rf ∈ f.rows) (hrow : rf.row = pos.row) : rect.y = rf.y := by
  obtain ⟨width, hshows⟩ := h.current.exists_shows
  obtain ⟨hsome, hplace⟩ := of_caretRect h.caret
  obtain ⟨-, hy⟩ := hplace rect hrect
  obtain ⟨-, hfirst, -⟩ := hsome.mp (by rw [hrect, Option.isSome_some])
  obtain ⟨r, -, hdraw⟩ := h.exists_draws hl hrf
  have hbelow := hdraw.below_lt
  have hscroll := h.first_mul_add_hidden
  have hhidden := h.hidden_lt
  have hdown : (pos.row - first box) * box.layout.lineHeight +
      first box * box.layout.lineHeight = pos.row * box.layout.lineHeight := by
    rw [← Nat.add_mul, Nat.sub_add_cancel hfirst]
  rw [h.lineHeight_eq] at hl
  rw [hrow, rowY] at hbelow
  have hlow : (pos.row - first box) * box.layout.lineHeight < coordinateBound := by omega
  have hcount : pos.row - first box < pixelBound := by
    have hle := Nat.le_mul_of_pos_right (pos.row - first box) hshows.lineHeight_pos
    exact Nat.lt_of_le_of_lt hle (Nat.lt_trans hlow (by decide))
  rw [toPixel_of_lt hcount, toCoordinate_of_lt hlow,
    toCoordinate_of_lt (View.contentTop_lt h.contentHeight),
    toCoordinate_of_lt (Nat.lt_trans hhidden hl)] at hy
  rw [hy, hdraw.y_eq, hrow, rowY]
  omega

private theorem pointToOffset_caret (hrows : box.layout.rowCount ≤ distanceBound)
    (hcaret : box.editor.caret ≤ box.editor.buffer.length)
    (hm : ∀ r ∈ box.layout.rows, box.measurer.Increases r.text) {rect : Rect}
    (hrect : f.caret = some rect) {rf : RowFrame} (hrf : rf ∈ f.rows) (hrow : rf.row = pos.row)
    {py : Int} (hpy : rf.Spans f.lineHeight py) :
    (box.pointToOffset rect.x py .truncate).result = .ok (box, box.editor.caret) := by
  obtain ⟨width, hshows⟩ := h.current.exists_shows
  obtain ⟨hx, -⟩ := (of_caretRect h.caret).2 rect hrect
  have hdistance : intSub coordinateBound rect.x f.contentLeft = .ok (toCoordinate pos.x) := by
    rw [h.contentLeft_eq, hx]
    exact intSub_add_left (toCoordinate_mem _)
  have hpoint := h.pointToRowX_eq hl hrows hrf rect.x hpy
  rw [hdistance, hrow, h.lineHeight_eq, Fault.ok_bind] at hpoint
  have hoffset := visualToOffset_of_offsetToVisual hshows hm hcaret h.place
  rw [h.current.result_pointToOffset, hpoint]
  simp only [pure_bind, hoffset]
  rfl

/-- The points on the frame are those that the box answers for. -/
theorem agrees (hrows : box.layout.rowCount ≤ distanceBound)
    (hcaret : box.editor.caret ≤ box.editor.buffer.length) : f.Agrees box caretOn pos where
  pointToRowX_eq _ hrf px _ hpy := h.pointToRowX_eq hl hrows hrf px hpy
  caret_isSome_iff := h.caret_isSome_iff hl
  caret_y_eq _ hrect _ hrf hrow := h.caret_y_eq hl hrect hrf hrow
  pointToOffset_caret hm _ hrect _ hrf hrow _ hpy :=
    h.pointToOffset_caret hl hrows hcaret hm hrect hrf hrow hpy

end Made

end Frame

namespace Session

variable {s : Session}

/-- The points on the frame of a reachable session are those that the session answers for, unless
the rows leave the screen coordinates or cannot be counted. -/
theorem frame_agrees_with_points (hs : s.Reachable) (caretOn : Bool) :
    Safe s.box.measure (Frame.build s.box caretOn).result ∧
    ∀ box' f, (Frame.build s.box caretOn).result = .ok (box', f) →
      f.lineHeight < coordinateBound → box'.layout.rowCount ≤ distanceBound →
        (∃ layout, box' = s.box.laid layout) ∧
        ∃ pos, box'.caretVisual.result = .ok (box', pos) ∧ f.Agrees box' caretOn pos := by
  obtain ⟨heditor, hsound⟩ := hs.editor
  constructor
  · exact Frame.safe_build hsound caretOn
  · intro box' f hbuild hl hrows
    obtain ⟨layout, pos, content, edge, rfl, hmade⟩ := Frame.exists_made hsound hbuild
    refine ⟨⟨layout, rfl⟩, pos, ?_, hmade.agrees hl hrows heditor.wellFormed.within.caret_le⟩
    rw [hmade.current.result_caretVisual, hmade.place]
    rfl

/-- A caret within the second row of a line, drawn at the top of a view that is scrolled into this
row; a point below its top is at its offset. -/
theorem frame_agrees_with_points_caret :
    let box := (Box.new (.ofText "hello world foobar\nnext".toList) ⟨150, 50, 5, 30, 27⟩
      ⟨200, 500, 4, 3, 1, 530, ⟨4, 10⟩⟩).setMeasure (some (.perChar 10))
    let moved := { box with editor := box.editor.moveCaret 14 false }
    ∃ box' f, (Frame.build moved true).result = .ok (box', f) ∧
      f.caret = some ⟨65, -2, 1, 20⟩ ∧
      (box'.pointToOffset 65 10 .truncate).result = .ok (box', 14) := by
  intro box moved
  have hs : Reachable ⟨moved, []⟩ :=
    ⟨_, _, _, _, [.inr (.setMeasure (some (.perChar 10))), .inr (.edit (.moveCaret 14 false))],
      _, rfl⟩
  have hcheck : (Frame.build moved true).result.toOption.any (fun p ↦
      p.2.caret == some ⟨65, -2, 1, 20⟩ && p.2.lineHeight == 20 &&
        decide (p.1.layout.rowCount ≤ distanceBound ∧
          ∀ r ∈ p.1.layout.rows, r.text.length * 10 < coordinateBound)) = true := by
    decide +kernel
  obtain ⟨⟨box', f⟩, hbuild, hcheck⟩ := exists_of_any hcheck
  simp only [Bool.and_eq_true, beq_iff_eq, decide_eq_true_eq] at hcheck
  obtain ⟨⟨hcaret, hheight⟩, hrows, hnarrow⟩ := hcheck
  obtain ⟨⟨layout, rfl⟩, pos, -, hagrees⟩ :=
    (frame_agrees_with_points hs true).2 _ _ hbuild (by rw [hheight]; decide) hrows
  obtain ⟨-, -, rf, hrf, hrow⟩ := hagrees.caret_isSome_iff.mp (by rw [hcaret]; rfl)
  have hy : -2 = rf.y := hagrees.caret_y_eq _ hcaret rf hrf hrow
  have hspans : rf.Spans f.lineHeight 10 := by
    rw [RowFrame.Spans, ← hy, hheight]
    decide
  have hoffset := hagrees.pointToOffset_caret
    (fun r hr ↦ Measure.increases_perChar (by decide) (hnarrow r hr)) _ hcaret rf hrf hrow 10 hspans
  exact ⟨_, f, hbuild, hcaret, hoffset⟩

end Session

end EditBox
