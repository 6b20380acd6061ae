import EditBox.Command.Dispatch
import EditBox.Proofs.Box.Twin
import EditBox.Proofs.Layout.Places
import EditBox.Proofs.Layout.Window

/-!
# Boxes that are laid out

A box is `Current` when its rows are those of its text at its width, so that queries lay nothing
out. A query of a sound box leaves it current, it stays current while the caret moves and the view
scrolls, and a query of a current box is a computation on its rows.
-/

namespace EditBox

open EditBox.Layout EditBox.Text

namespace Box

variable {box box' : Box} {pos : VisualPos}

/-- The rows of a box are those of its text at its width, and a query would lay nothing out. -/
def Current (box : Box) : Prop :=
  ∃ width, box.view.contentWidth = .ok width ∧
    box.layout.needsRebuild box.editor.buffer width = false ∧
    box.layout.Shows box.editor.buffer width box.measure box.options.layout

/-- A layout of a sound box leaves it current, and changes nothing else. -/
theorem Sound.of_ensureLayout (hs : box.Sound) (h : box.ensureLayout.result = .ok box') :
    box'.Current ∧ ∃ layout, box' = box.laid layout := by
  obtain ⟨_, -, hlevel⟩ := ((Twin.refl rfl hs).ensureLayout).exists_right h
  obtain @⟨layout, n, -, width, hw, hshows⟩ := hlevel
  refine ⟨⟨width, hw, ?_, hshows⟩, layout, rfl⟩
  rw [ensureLayout, Run.result_bind, Run.result_liftM] at h
  obtain ⟨width', hw', h⟩ := Fault.bind_eq_ok_iff.mp h
  obtain rfl : width = width' := Except.ok.inj (hw.symm.trans hw')
  rw [Run.result_bind] at h
  obtain ⟨layout', hl, h⟩ := Fault.bind_eq_ok_iff.mp h
  obtain rfl : layout' = layout := congrArg Box.layout (Except.ok.inj h)
  rw [LayoutCache.result_ensure] at hl
  split at hl
  · exact LayoutCache.needsRebuild_rebuild hl
  · next hn =>
    cases hl
    exact Bool.eq_false_iff.mpr hn

/-- A query for the caret lays the box out and looks the caret up on its rows. -/
theorem ensureLayout_of_caretVisual (h : box.caretVisual.result = .ok (box', pos)) :
    box.ensureLayout.result = .ok box' ∧
      offsetToVisual box'.layout box'.editor.buffer box'.measurer box.editor.caret = .ok pos := by
  rw [caretVisual, offsetVisual, Run.result_bind] at h
  obtain ⟨laidOut, hl, h⟩ := Fault.bind_eq_ok_iff.mp h
  rw [Run.result_bind, Run.result_liftM] at h
  obtain ⟨place, hplace, h⟩ := Fault.bind_eq_ok_iff.mp h
  cases h
  exact ⟨hl, hplace⟩

/-- A query for the caret leaves a sound box current, and its answer is where the rows have the
caret. -/
theorem Sound.of_caretVisual (hs : box.Sound) (h : box.caretVisual.result = .ok (box', pos)) :
    box'.Current ∧ (∃ layout, box' = box.laid layout) ∧
      offsetToVisual box'.layout box'.editor.buffer box'.measurer box'.editor.caret = .ok pos := by
  obtain ⟨hl, hplace⟩ := ensureLayout_of_caretVisual h
  obtain ⟨hcurrent, layout, rfl⟩ := hs.of_ensureLayout hl
  exact ⟨hcurrent, ⟨layout, rfl⟩, hplace⟩

namespace Current

variable (h : box.Current)
include h

/-- The rows show the text. -/
theorem exists_shows :
    ∃ width, box.layout.Shows box.editor.buffer width box.measure box.options.layout := by
  obtain ⟨width, -, -, hshows⟩ := h
  exact ⟨width, hshows⟩

/-- A box stays current as long as its buffer stays and its view only scrolls. -/
theorem of_buffer_eq {editor : Editor} (hb : editor.buffer = box.editor.buffer) (scroll : Nat) :
    Current { box with editor := editor, view := { box.view with scroll := scroll } } := by
  obtain ⟨width, hw, hn, hshows⟩ := h
  rw [← hb] at hn hshows
  exact ⟨width, hw, hn, hshows⟩

/-- Nothing is laid out. -/
theorem result_ensureLayout : box.ensureLayout.result = .ok box := by
  obtain ⟨width, hw, hn, -⟩ := h
  rw [ensureLayout, Run.result_bind, Run.result_liftM, hw, Fault.ok_bind, Run.result_bind,
    LayoutCache.result_ensure, hn]
  rfl

/-- The rows are counted. -/
theorem result_rowCount : box.rowCount.result = .ok (box, box.layout.rowCount) := by
  rw [rowCount, Run.result_bind, h.result_ensureLayout]
  rfl

/-- An offset is looked up on the rows. -/
theorem result_offsetVisual (offset : Nat) :
    (box.offsetVisual offset).result = do
      let pos ← offsetToVisual box.layout box.editor.buffer box.measurer offset
      return (box, pos) := by
  rw [offsetVisual, Run.result_bind, h.result_ensureLayout, Fault.ok_bind, Run.result_bind,
    Run.result_liftM]
  rfl

/-- The caret is looked up on the rows. -/
theorem result_caretVisual :
    box.caretVisual.result = do
      let pos ← offsetToVisual box.layout box.editor.buffer box.measurer box.editor.caret
      return (box, pos) :=
  h.result_offsetVisual box.editor.caret

/-- A pixel is looked up on the rows. -/
theorem result_rowXToOffset (row : Nat) (x : Int) :
    (box.rowXToOffset row x).result = do
      let offset ← visualToOffset box.layout box.editor.buffer box.measurer row x
      return (box, offset) := by
  rw [rowXToOffset, Run.result_bind, h.result_ensureLayout, Fault.ok_bind, Run.result_bind,
    Run.result_liftM]
  rfl

/-- A point is looked up on the rows. -/
theorem result_pointToOffset (px py : Int) (rounding : RowRounding) :
    (box.pointToOffset px py rounding).result = do
      let (row, x) ←
        box.view.pointToRowX px py box.layout.lineHeight box.layout.rowCount rounding
      let offset ← visualToOffset box.layout box.editor.buffer box.measurer row x
      return (box, offset) := by
  rw [pointToOffset, Run.result_bind, h.result_ensureLayout, Fault.ok_bind, Run.result_bind,
    Run.result_liftM]
  simp only [h.result_rowXToOffset]

/-- The caret is looked up on the rows and the view scrolled to it; the answer is whether it
scrolled. -/
theorem result_ensureCaretVisible :
    box.ensureCaretVisible.result = do
      let pos ← offsetToVisual box.layout box.editor.buffer box.measurer box.editor.caret
      let view ← box.view.ensureVisible pos.y box.layout.lineHeight box.layout.rowCount
      return ({ box with view := view }, view.scroll != box.view.scroll) := by
  rw [ensureCaretVisible, Run.result_bind, h.result_caretVisual]
  cases offsetToVisual box.layout box.editor.buffer box.measurer box.editor.caret with
  | error f => rfl
  | ok pos =>
    simp only [Fault.ok_bind, pure_bind, Run.result_bind, Run.result_liftM]
    rfl

/-- The caret is looked up on the rows and the view scrolled to it. -/
theorem result_reveal :
    box.reveal.result = do
      let pos ← offsetToVisual box.layout box.editor.buffer box.measurer box.editor.caret
      let view ← box.view.ensureVisible pos.y box.layout.lineHeight box.layout.rowCount
      return ({ box with view := view }, true) := by
  rw [reveal, Run.result_bind, h.result_ensureCaretVisible]
  simp only [bind_assoc]
  rfl

/-- The caret can be scrolled into view if it is drawn somewhere and the height of all rows is in
bounds. -/
theorem exists_reveal
    (hpos : offsetToVisual box.layout box.editor.buffer box.measurer box.editor.caret = .ok pos)
    (hb : box.layout.rowCount * box.layout.lineHeight < Bounded.pixelBound) :
    ∃ p, box.reveal.result = .ok p := by
  obtain ⟨width, hw, -, hshows⟩ := id h
  obtain ⟨view, hview⟩ := View.exists_ensureVisible hw hb hshows.lineHeight_pos pos.y
  rw [h.result_reveal, hpos, Fault.ok_bind, hview]
  exact ⟨_, rfl⟩

/-- After the caret was scrolled into view the box is current and the caret where it was. -/
theorem of_reveal {answer : Bool} (hr : box.reveal.result = .ok (box', answer)) :
    box'.Current ∧ box'.editor = box.editor ∧ ∃ pos,
      offsetToVisual box.layout box.editor.buffer box.measurer box.editor.caret = .ok pos ∧
        box'.caretVisual.result = .ok (box', pos) := by
  rw [h.result_reveal] at hr
  obtain ⟨pos, hpos, hr⟩ := Fault.bind_eq_ok_iff.mp hr
  obtain ⟨view, hview, hr⟩ := Fault.bind_eq_ok_iff.mp hr
  cases hr
  obtain ⟨scroll, rfl⟩ := View.exists_scroll_of_ensureVisible hview
  have hcurrent : Current { box with view := { box.view with scroll := scroll } } :=
    h.of_buffer_eq rfl scroll
  refine ⟨hcurrent, rfl, pos, hpos, ?_⟩
  rw [hcurrent.result_caretVisual]
  exact Fault.bind_eq_ok_iff.mpr ⟨pos, hpos, rfl⟩

end Current

end Box

end EditBox
