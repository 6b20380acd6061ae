import EditBox.Proofs.Box.Ready

/-!
# Clicks and drags

A press counts its click. The first of a series places the caret, or with shift takes the end of the
selection along, and arms a drag there (`Placed`); any further one selects a word or a line and
disarms it. An armed drag selects from its anchor to the offset under the pointer (`Dragged`),
whatever became of the text since the press. Commands other than a press, a release and the loss of
the focus leave the pointer alone.
-/

namespace EditBox

open EditBox.Box EditBox.Layout EditBox.Text

/-- Pointer after a press: the first click arms a drag, any other disarms it. -/
def Pointer.clicked (p : Pointer) (time interval anchor : Nat) : Pointer :=
  if (p.press time interval).clickCount = 1 then (p.press time interval).beginDrag anchor
  else (p.press time interval).cancelDrag

/-- A press is counted. -/
theorem Pointer.clickCount_clicked (p : Pointer) (time interval anchor : Nat) :
    (p.clicked time interval anchor).clickCount = p.countPress time interval := by
  unfold clicked
  split <;> rfl

/-- The time of a press is kept. -/
theorem Pointer.lastClick_clicked (p : Pointer) (time interval anchor : Nat) :
    (p.clicked time interval anchor).lastClick = some time := by
  unfold clicked
  split <;> rfl

private theorem Pointer.clicked_of_first {p : Pointer} {time interval : Nat}
    (h : p.countPress time interval = 1) (anchor : Nat) :
    (p.clicked time interval anchor).pressed = true ∧
      (p.clicked time interval anchor).dragAnchor = some anchor := by
  have hcount : (p.press time interval).clickCount = 1 := h
  rw [clicked, if_pos hcount]
  exact ⟨rfl, rfl⟩

/-- Any other click disarms it. -/
theorem Pointer.isDragging_clicked (p : Pointer) (time interval anchor : Nat) :
    (p.clicked time interval anchor).isDragging = true ↔ p.countPress time interval = 1 := by
  constructor
  · intro h
    by_cases hfirst : (p.press time interval).clickCount = 1
    · exact hfirst
    · rw [clicked, if_neg hfirst] at h
      cases (Bool.and_eq_true_iff.mp h).2
  · intro h
    obtain ⟨hpressed, hanchor⟩ := clicked_of_first h anchor
    exact (isDragging_iff _).mpr ⟨hpressed, anchor, hanchor⟩

private theorem lasting_pointer (pointer : Pointer) : Lasting (·.pointer = pointer) where
  redraw h hr := hr.pointer_eq.trans h
  operate h _ := h
  refocus h _ := h

/-- Offset at which a first click anchors a drag: where it is, or with shift at the fixed end of the
gesture in progress, and without one at the caret. -/
def Editor.pressAnchor (e : Editor) (offset : Nat) (shift : Bool) : Nat :=
  if shift then e.anchor.getD e.caret else offset

private theorem Editor.moveCaret_press {e : Editor} {offset : Nat} (hcaret : e.caret ≤ e.length)
    (hoffset : offset ≤ e.length) (shift : Bool) :
    (e.moveCaret offset shift).anchor.getD offset = e.pressAnchor offset shift ∧
      (e.moveCaret offset shift).caret = offset ∧
      (e.moveCaret offset shift).selection = ⟨e.pressAnchor offset shift, offset⟩ := by
  have hkept := clampOffset_eq_self hoffset
  cases shift with
  | true => simp [moveCaret, pressAnchor, hkept, clampOffset_eq_self hcaret]
  | false => simp [moveCaret, pressAnchor, hkept, collapseToCaret, Selection.collapsed]

namespace Box

variable {box box' : Box} {x y : Int} {time offset anchor : Nat} {mods : Modifiers}
  {rounding : RowRounding}

section Points

/-- The offset under a point. -/
def Under (box : Box) (x y : Int) (rounding : RowRounding) (offset : Nat) : Prop :=
  ∃ laidOut, (box.pointToOffset x y rounding).result = .ok (laidOut, offset)

/-- A point has only one offset. -/
theorem Under.unique {offset' : Nat} (h : box.Under x y rounding offset)
    (h' : box.Under x y rounding offset') : offset' = offset := by
  obtain ⟨laidOut, h⟩ := h
  obtain ⟨laidOut', h'⟩ := h'
  rw [h] at h'
  cases h'
  rfl

/-- The box with another focus. -/
def refocused (focused : Bool) (box : Box) : Box := { box with focused := focused }

variable (focused : Bool)

private theorem result_ensureLayout_refocused (box : Box) :
    (box.refocused focused).ensureLayout.result =
      refocused focused <$> box.ensureLayout.result := by
  simp only [ensureLayout, Run.result_bind, Run.result_liftM]
  change box.view.contentWidth >>= _ = _ <$> (box.view.contentWidth >>= _)
  cases box.view.contentWidth with
  | error f => rfl
  | ok width =>
    let r := (box.layout.ensure box.editor.buffer width box.measure box.options.layout).result
    change r >>= _ = _ <$> (r >>= _)
    cases r <;> rfl

private theorem result_rowXToOffset_refocused (box : Box) (row : Nat) (x : Int) :
    ((box.refocused focused).rowXToOffset row x).result =
      Prod.map (refocused focused) id <$> (box.rowXToOffset row x).result := by
  simp only [rowXToOffset, Run.result_bind, result_ensureLayout_refocused, Run.result_liftM]
  cases box.ensureLayout.result with
  | error f => rfl
  | ok b =>
    change visualToOffset b.layout b.editor.buffer b.measurer row x >>= _ =
      _ <$> (visualToOffset b.layout b.editor.buffer b.measurer row x >>= _)
    cases visualToOffset b.layout b.editor.buffer b.measurer row x <;> rfl

private theorem result_pointToOffset_refocused (box : Box) (x y : Int) (rounding : RowRounding) :
    ((box.refocused focused).pointToOffset x y rounding).result =
      Prod.map (refocused focused) id <$> (box.pointToOffset x y rounding).result := by
  simp only [pointToOffset, Run.result_bind, result_ensureLayout_refocused, Run.result_liftM]
  cases box.ensureLayout.result with
  | error f => rfl
  | ok b =>
    change b.view.pointToRowX x y b.layout.lineHeight b.layout.rowCount rounding >>= _ =
      _ <$> (b.view.pointToRowX x y b.layout.lineHeight b.layout.rowCount rounding >>= _)
    cases b.view.pointToRowX x y b.layout.lineHeight b.layout.rowCount rounding with
    | error f => rfl
    | ok p => exact result_rowXToOffset_refocused focused b p.1 p.2

private theorem under_refocused_iff :
    (box.refocused focused).Under x y rounding offset ↔ box.Under x y rounding offset := by
  simp only [Under, result_pointToOffset_refocused]
  cases (box.pointToOffset x y rounding).result with
  | error f => simp
  | ok p => simp [Prod.ext_iff]

variable {focused}

/-- Looking up a point lays a sound box out, and finds an offset of the text. -/
theorem Sound.of_pointToOffset (hs : box.Sound) {p : Box × Nat}
    (h : (box.pointToOffset x y rounding).result = .ok p) :
    ∃ layout, p.1 = box.laid layout ∧ (box.laid layout).Sound ∧ p.2 ≤ box.editor.length := by
  rw [pointToOffset] at h
  obtain ⟨layout, hcurrent, h⟩ := hs.exists_of_layOut h
  rw [Run.result_bind] at h
  obtain ⟨⟨row, left⟩, -, h⟩ := Fault.bind_eq_ok_iff.mp h
  dsimp only at h
  rw [hcurrent.result_rowXToOffset] at h
  obtain ⟨offset, hoffset, h⟩ := Fault.bind_eq_ok_iff.mp h
  cases h
  obtain ⟨width, hshows⟩ := hcurrent.exists_shows
  obtain ⟨r, col, hon, -⟩ := onRow_of_visualToOffset hshows hoffset
  exact ⟨layout, rfl, hcurrent.sound, hon.offset_le hshows⟩

end Points

section Presses

/-- A first click at an offset placed the caret there, extending the selection if shift was held,
and armed a drag. -/
structure Placed (box : Box) (offset : Nat) (shift : Bool) (box' : Box) : Prop where
  clickCount_eq : box'.pointer.clickCount = 1
  pressed_eq : box'.pointer.pressed = true
  dragAnchor_eq : box'.pointer.dragAnchor = some (box.editor.pressAnchor offset shift)
  caret_eq : box'.editor.caret = offset
  selection_eq : box'.editor.selection = ⟨box.editor.pressAnchor offset shift, offset⟩
  buffer_eq : box'.editor.buffer = box.editor.buffer
  history_eq : box'.editor.history = box.editor.history

/-- What a press makes of a sound box: it counts the click, and moves the caret if it is a first
one. -/
theorem Sound.of_press (hs : box.Sound) (hcaret : box.editor.caret ≤ box.editor.length)
    {p : Box × Bool} (h : (box.press x y time mods).result = .ok p) :
    ∃ offset, box.Under x y .truncate offset ∧ offset ≤ box.editor.length ∧
      p.1.pointer = box.pointer.clicked time box.options.multiClickMs
        (box.editor.pressAnchor offset mods.shift) ∧
      (box.pointer.countPress time box.options.multiClickMs = 1 →
        p.1.editor = box.editor.moveCaret offset mods.shift) := by
  have hfocused : (box.refocused true).Sound :=
    hs.of_comesFrom (.inl rfl) box.view box.pointer true
  rw [press, Run.result_bind] at h
  obtain ⟨⟨laidOut, offset⟩, hpoint, h⟩ := Fault.bind_eq_ok_iff.mp h
  obtain ⟨layout, rfl, -, hoffset⟩ := hfocused.of_pointToOffset hpoint
  refine ⟨offset, (under_refocused_iff true).mp ⟨_, hpoint⟩, hoffset, ?_⟩
  rw [Run.result_bind] at h
  obtain ⟨-, -, h⟩ := Fault.bind_eq_ok_iff.mp h
  dsimp only [laid, refocused] at h
  -- A further click selects a range, whichever it is, and disarms the drag.
  have further {editor : Editor}
      (hcount : (box.pointer.press time box.options.multiClickMs).clickCount ≠ 1)
      (hr : Redrawn { box with
        editor := editor
        layout := layout
        pointer := (box.pointer.press time box.options.multiClickMs).cancelDrag
        focused := true } p.1) :
      p.1.pointer = box.pointer.clicked time box.options.multiClickMs
          (box.editor.pressAnchor offset mods.shift) ∧
        (box.pointer.countPress time box.options.multiClickMs = 1 →
          p.1.editor = box.editor.moveCaret offset mods.shift) := by
    constructor
    · rw [hr.pointer_eq, Pointer.clicked, if_neg hcount]
    · exact fun hfirst ↦ absurd hfirst hcount
  split at h
  · next hcount =>
    have hr := redrawn_reveal h
    constructor
    · rw [hr.pointer_eq, Pointer.clicked, if_pos hcount,
        (Editor.moveCaret_press hcaret hoffset mods.shift).1]
    · exact fun _ ↦ hr.editor_eq
  · next hcount =>
    rw [Run.result_bind] at h
    obtain ⟨⟨a, b⟩, -, h⟩ := Fault.bind_eq_ok_iff.mp h
    exact further (by omega) (redrawn_reveal h)
  · next hne _ =>
    rw [Run.result_bind] at h
    obtain ⟨⟨a, b⟩, -, h⟩ := Fault.bind_eq_ok_iff.mp h
    exact further hne (redrawn_reveal h)

private theorem placed_of_first {shift : Bool} (hcaret : box.editor.caret ≤ box.editor.length)
    (hoffset : offset ≤ box.editor.length)
    (hfirst : box.pointer.countPress time box.options.multiClickMs = 1)
    (hpointer : box'.pointer = box.pointer.clicked time box.options.multiClickMs
      (box.editor.pressAnchor offset shift))
    (heditor : box'.editor = box.editor.moveCaret offset shift) :
    box.Placed offset shift box' := by
  obtain ⟨-, hplaced, hselected⟩ := Editor.moveCaret_press hcaret hoffset shift
  obtain ⟨hpressed, hanchor⟩ := Pointer.clicked_of_first hfirst
    (box.editor.pressAnchor offset shift)
  constructor
  · rw [hpointer, Pointer.clickCount_clicked, hfirst]
  · rw [hpointer, hpressed]
  · rw [hpointer, hanchor]
  · rw [heditor, hplaced]
  · rw [heditor, hselected]
  · rw [heditor, box.editor.buffer_moveCaret]
  · rw [heditor, box.editor.history_moveCaret]

end Presses

section Drags

/-- A drag selected from its anchor, brought down to the length of the text, to an offset. -/
structure Dragged (box : Box) (anchor offset : Nat) (box' : Box) : Prop where
  caret_eq : box'.editor.caret = offset
  selection_eq : box'.editor.selection = ⟨min anchor box.editor.length, offset⟩
  buffer_eq : box'.editor.buffer = box.editor.buffer
  history_eq : box'.editor.history = box.editor.history
  focused_eq : box'.focused = box.focused
  pointer_eq : box'.pointer = box.pointer

private theorem Dragged.redrawn {box'' : Box} (h : box.Dragged anchor offset box')
    (hr : box'.Redrawn box'') : box.Dragged anchor offset box'' := by
  obtain ⟨hcaret, hselection, hbuffer, hhistory, hfocused, hpointer⟩ := h
  rw [← hr.editor_eq] at hcaret hselection hbuffer hhistory
  exact ⟨hcaret, hselection, hbuffer, hhistory, hr.focused_eq.trans hfocused,
    hr.pointer_eq.trans hpointer⟩

private theorem drag_of_not_isDragging (h : box.pointer.isDragging = false) (x y : Int) :
    box.drag x y = pure (box, false) := by
  unfold drag
  split
  · next anchor hpressed hanchor =>
    have harmed := box.pointer.isDragging_iff.mpr ⟨hpressed, anchor, hanchor⟩
    rw [h] at harmed
    cases harmed
  · rfl

variable (hpressed : box.pointer.pressed = true) (hanchor : box.pointer.dragAnchor = some anchor)
include hpressed hanchor

private theorem drag_of_armed (x y : Int) :
    box.drag x y = (do
      let (box, offset) ← box.pointToOffset x y .nearest
      reveal { box with editor := box.editor.selectRange anchor offset }) := by
  simp only [drag, hpressed, hanchor]

/-- What an armed drag makes of a sound box. -/
theorem Sound.of_drag (hs : box.Sound) {p : Box × Bool} (h : (box.drag x y).result = .ok p) :
    ∃ offset, box.Under x y .nearest offset ∧ box.Dragged anchor offset p.1 := by
  rw [drag_of_armed hpressed hanchor, Run.result_bind] at h
  obtain ⟨⟨laidOut, offset⟩, hpoint, h⟩ := Fault.bind_eq_ok_iff.mp h
  obtain ⟨layout, rfl, -, hoffset⟩ := hs.of_pointToOffset hpoint
  have hr := redrawn_reveal h
  have hkept : box.editor.clampOffset offset = offset := Editor.clampOffset_eq_self hoffset
  refine ⟨offset, ⟨_, hpoint⟩, ?_⟩
  constructor
  · rw [hr.editor_eq]
    exact hkept
  · rw [hr.editor_eq]
    exact congrArg _ hkept
  · rw [hr.editor_eq]
    rfl
  · rw [hr.editor_eq]
    rfl
  · exact hr.focused_eq
  · exact hr.pointer_eq

end Drags

section Drawable

variable (hd : box.Drawable) (hs : box.Sound)
include hd hs

private theorem Drawable.succeeds_under (hunder : box.Under x y rounding offset)
    {f : Box × Nat → Run (Box × Bool)}
    (hf : ∀ layout, (box.laid layout).Sound → (box.laid layout).Drawable →
      Succeeds (f (box.laid layout, offset))) :
    Succeeds (box.pointToOffset x y rounding >>= f) := by
  obtain ⟨laidOut, hpoint⟩ := hunder
  obtain ⟨layout, rfl, hlaid, -⟩ := hs.of_pointToOffset hpoint
  refine .andThen ⟨_, hpoint⟩ fun p hp ↦ ?_
  cases hpoint.symm.trans hp
  exact hf layout hlaid (hd.congr ⟨rfl, rfl, rfl, rfl⟩)

/-- An armed drag to a point with an offset is carried out. -/
theorem Drawable.succeeds_drag (hpressed : box.pointer.pressed = true)
    (hanchor : box.pointer.dragAnchor = some anchor) (hunder : box.Under x y .nearest offset) :
    Succeeds (box.drag x y) := by
  rw [drag_of_armed hpressed hanchor]
  refine hd.succeeds_under hs hunder fun layout hlaid hdrawable ↦ ?_
  apply Drawable.succeeds_reveal
  · exact hdrawable.congr ⟨rfl, rfl, rfl, rfl⟩
  · exact hlaid.of_comesFrom (.inl rfl) box.view box.pointer box.focused
  · exact box.editor.clampOffset_le offset

/-- A first click on a point with an offset is carried out. -/
theorem Drawable.succeeds_press (hunder : box.Under x y .truncate offset)
    (hfirst : box.pointer.countPress time box.options.multiClickMs = 1) :
    Succeeds (box.press x y time mods) := by
  have hfocused : (box.refocused true).Sound :=
    hs.of_comesFrom (.inl rfl) box.view box.pointer true
  refine (hd.congr ⟨rfl, rfl, rfl, rfl⟩ : (box.refocused true).Drawable).succeeds_under hfocused
    ((under_refocused_iff true).mpr hunder) fun layout hlaid hdrawable ↦ .report ?_
  dsimp only [laid, refocused]
  split
  · have hkept := box.editor.buffer_moveCaret offset mods.shift
    apply Drawable.succeeds_reveal
    · exact hdrawable.congr ⟨hkept, rfl, rfl, rfl⟩
    · exact hlaid.of_comesFrom (.inl hkept) box.view _ true
    · cases mods.shift with
      | true => exact box.editor.clampOffset_le offset
      | false => exact box.editor.clampOffset_le offset
  · next hcount => exact absurd (hfirst.symm.trans hcount) (by decide)
  · next hne _ => exact absurd hfirst hne

end Drawable

end Box

namespace Session

variable {s t : Session} {c : Command} {reply : Reply} {x y : Int} {time anchor offset : Nat}
  {mods : Modifiers}

/-- Only presses, releases and the loss of the focus touch the pointer. -/
theorem Dispatched.pointer_eq (h : s.Dispatched c t reply) (hc : c.turnsPointer = false) :
    t.box.pointer = s.box.pointer := by
  have hR := lasting_pointer s.box.pointer
  exact hR.dispatch rfl (hR.execute rfl s.clipboard hc) _ h

/-- A release and the loss of the focus end the drag. -/
theorem Dispatched.pointer_release (h : s.Dispatched c t reply)
    (hc : c = .mouseRelease ∨ c = .blur) : t.box.pointer = s.box.pointer.release := by
  have hheard : s.box.Hears c := by
    rcases hc with rfl | rfl
    · exact fun hneeds ↦ by cases hneeds
    · exact fun hneeds ↦ by cases hneeds
  obtain ⟨q, hq, hredrawn, -⟩ := exists_execute_of_dispatch hheard h
  rw [show t.box.pointer = q.1.pointer from hredrawn.pointer_eq]
  rcases hc with rfl | rfl
  · cases hq
    rfl
  · cases hq
    rfl

/-- What a press makes of the pointer and the editor. -/
theorem Dispatched.of_press (h : s.Dispatched (.mousePress x y time mods) t reply)
    (hs : s.Reachable) :
    ∃ offset, s.box.Under x y .truncate offset ∧
      t.box.pointer = s.box.pointer.clicked time s.box.options.multiClickMs
        (s.box.editor.pressAnchor offset mods.shift) ∧
      (t.box.pointer.clickCount = 1 → s.box.Placed offset mods.shift t.box) := by
  have hcaret := hs.editor.1.wellFormed.within.caret_le
  obtain ⟨q, hq, hredrawn, -⟩ := exists_execute_of_dispatch (fun hneeds ↦ by cases hneeds) h
  rw [execute, keepClipboard, Run.result_bind] at hq
  obtain ⟨p, hp, hq⟩ := Fault.bind_eq_ok_iff.mp hq
  cases hq
  obtain ⟨offset, hunder, hoffset, hpointer, hmoved⟩ := hs.editor.2.of_press hcaret hp
  have hclicked := hredrawn.pointer_eq.trans hpointer
  refine ⟨offset, hunder, hclicked, fun hcount ↦ ?_⟩
  rw [show t.box.pointer = _ from hclicked, Pointer.clickCount_clicked] at hcount
  exact placed_of_first hcaret hoffset hcount hclicked (hredrawn.editor_eq.trans (hmoved hcount))

/-- Without a drag in progress a motion of the mouse does nothing. -/
theorem result_drag_of_not_isDragging (h : s.box.pointer.isDragging = false) (x y : Int) :
    (s.box.dispatch s.clipboard (.mouseDrag x y)).result =
      .ok (s.box, s.clipboard, ⟨false, false⟩) := by
  refine result_dispatch_of_heard rfl ?_ rfl
  rw [execute, drag_of_not_isDragging h]
  rfl

section Armed

variable (hs : s.Reachable) (hpressed : s.box.pointer.pressed = true)
  (hanchor : s.box.pointer.dragAnchor = some anchor)
include hs hpressed hanchor

/-- What a motion of the mouse makes of a session with a drag in progress. -/
theorem Dispatched.of_drag (h : s.Dispatched (.mouseDrag x y) t reply) :
    ∃ offset, s.box.Under x y .nearest offset ∧ s.box.Dragged anchor offset t.box ∧
      t.clipboard = s.clipboard := by
  obtain ⟨q, hq, hredrawn, hclipboard⟩ :=
    exists_execute_of_dispatch (fun hneeds ↦ by cases hneeds) h
  rw [execute, keepClipboard, Run.result_bind] at hq
  obtain ⟨p, hp, hq⟩ := Fault.bind_eq_ok_iff.mp hq
  cases hq
  obtain ⟨offset, hunder, hdragged⟩ := hs.editor.2.of_drag hpressed hanchor hp
  exact ⟨offset, hunder, hdragged.redrawn hredrawn, hclipboard⟩

/-- A motion of the mouse to a point with an offset is carried out if the text can be drawn. -/
theorem exists_dispatched_drag (hd : s.box.Drawable) (hunder : s.box.Under x y .nearest offset) :
    ∃ t reply, s.Dispatched (.mouseDrag x y) t reply := by
  obtain ⟨p, hp⟩ := hd.succeeds_drag hs.editor.2 hpressed hanchor hunder
  obtain ⟨selected, -, hdragged⟩ := hs.editor.2.of_drag hpressed hanchor hp
  have hx : (s.box.execute s.clipboard (.mouseDrag x y)).result = .ok (p.1, s.clipboard, p.2) := by
    rw [execute, keepClipboard, Run.result_bind, hp]
    rfl
  exact ⟨⟨p.1, s.clipboard⟩, ⟨p.2, false⟩, result_dispatch_of_heard rfl hx hdragged.buffer_eq⟩

end Armed

/-- A first click on a point with an offset is carried out if the text can be drawn. -/
theorem exists_dispatched_press (hs : s.Reachable) (hd : s.box.Drawable)
    (hunder : s.box.Under x y .truncate offset)
    (hfirst : s.box.pointer.countPress time s.box.options.multiClickMs = 1) :
    ∃ t reply, s.Dispatched (.mousePress x y time mods) t reply := by
  have hcaret := hs.editor.1.wellFormed.within.caret_le
  obtain ⟨p, hp⟩ := hd.succeeds_press hs.editor.2 hunder hfirst
  obtain ⟨clicked, -, -, -, hmoved⟩ := hs.editor.2.of_press hcaret hp
  have hx : (s.box.execute s.clipboard (.mousePress x y time mods)).result =
      .ok (p.1, s.clipboard, p.2) := by
    rw [execute, keepClipboard, Run.result_bind, hp]
    rfl
  have hkept : p.1.editor.buffer = s.box.editor.buffer := by
    rw [hmoved hfirst, Editor.buffer_moveCaret]
  exact ⟨⟨p.1, s.clipboard⟩, ⟨p.2, false⟩, result_dispatch_of_heard rfl hx hkept⟩

end Session

end EditBox
