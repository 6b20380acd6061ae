import EditBox.Proofs.Box.Current
import EditBox.Proofs.Box.Reach

/-!
# Vertical motion

Up and down take the caret to the first column of the neighbouring row that is at least as far from
the left edge. `vertical_moves_one_row` says that the caret is then drawn on that row, and that on
the first or last row it stays at its distance; `not_forall_vertical_moves_one_row` that neither
holds without exception.
-/

namespace EditBox

open EditBox.Box EditBox.Layout EditBox.Text

namespace Box

variable {box laidOut : Box} {pos : VisualPos}

/-- Row at which a vertical motion from a place aims. -/
def neighbour (box : Box) (pos : VisualPos) (down : Bool) : Nat :=
  if down then min (pos.row + 1) (box.layout.rowCount - 1) else pos.row - 1

/-- Direction of a vertical motion. -/
def vertical (down : Bool) : Direction := if down then .down else .up

private theorem result_verticalTarget (hpos : box.caretVisual.result = .ok (laidOut, pos))
    (h : laidOut.Current) (down : Bool) :
    (box.verticalTarget down).result = do
      let target ← visualToOffset laidOut.layout laidOut.editor.buffer laidOut.measurer
        (laidOut.neighbour pos down) (Bounded.toCoordinate pos.x)
      return (laidOut, target) := by
  rw [verticalTarget, Run.result_bind, hpos, Fault.ok_bind, Run.result_bind, h.result_rowCount,
    Fault.ok_bind]
  exact h.result_rowXToOffset _ _

/-- The box with its caret moved. -/
def moved (box : Box) (target : Nat) (shift : Bool) : Box :=
  { box with editor := box.editor.moveCaret target shift }

/-- Moving the caret keeps the buffer. -/
theorem buffer_moved (box : Box) (target : Nat) (shift : Bool) :
    (box.moved target shift).editor.buffer = box.editor.buffer :=
  box.editor.buffer_moveCaret target shift

/-- A caret moved within the text is at its target. -/
theorem caret_moved {target : Nat} (h : target ≤ box.editor.buffer.length) (shift : Bool) :
    (box.moved target shift).editor.caret = target := by
  cases shift <;> exact Editor.clampOffset_eq_self h

/-- A box stays laid out when its caret moves. -/
theorem Current.moved (h : box.Current) (target : Nat) (shift : Bool) :
    (box.moved target shift).Current :=
  h.of_buffer_eq (box.buffer_moved target shift) box.view.scroll

private theorem result_move_vertical {target : Nat} {mods : Modifiers} {down : Bool}
    (ht : (box.verticalTarget down).result = .ok (laidOut, target)) :
    (box.move (vertical down) mods).result = (laidOut.moved target mods.shift).reveal.result := by
  have hmotion : (box.motionTarget (vertical down) mods.ctrl).result = .ok (laidOut, target) := by
    cases down <;> exact ht
  rw [move, Run.result_bind, hmotion, Fault.ok_bind, Run.result_bind]
  rfl

private theorem result_dispatch_move {moved : Box} {direction : Direction} {mods : Modifiers}
    (clipboard : Clipboard) (hf : box.focused = true) (hcurrent : moved.Current)
    (hbuffer : moved.editor.buffer = box.editor.buffer)
    (hm : (box.move direction mods).result = moved.reveal.result) :
    (box.dispatch clipboard (.move direction mods)).result =
      (fun p ↦ (p.1, clipboard, ⟨p.2, false⟩)) <$> moved.reveal.result := by
  cases hr : moved.reveal.result with
  | error f =>
    have hfocus : (Command.needsFocus (.move direction mods) && !box.focused) = false := by
      simp [hf]
    simp only [dispatch, hfocus, Bool.false_eq_true, if_false, execute, keepClipboard,
      Run.result_bind, hm, hr]
    rfl
  | ok p =>
    obtain ⟨revealed, answer⟩ := p
    obtain ⟨-, heditor, -⟩ := hcurrent.of_reveal hr
    have hkept : revealed.editor.buffer = box.editor.buffer := by rw [heditor, hbuffer]
    have hx : (box.execute clipboard (.move direction mods)).result =
        .ok (revealed, clipboard, answer) := by
      rw [execute, keepClipboard, Run.result_bind, hm, hr]
      rfl
    exact result_dispatch_of_execute hf hx hkept

/-- A box that a query for the caret made of another one, and where it has the caret: on a row, at
the distance of a column. -/
structure Places (origin box : Box) (pos : VisualPos) : Prop where
  current : box.Current
  laid : ∃ layout, box = origin.laid layout
  onRow : ∃ r col, OnRow box.layout box.editor.buffer box.editor.caret pos.row r col ∧
    box.measurer.width (r.text.take col) = .ok pos.x

end Box

namespace Session

variable {s t : Session} {box : Box} {pos : VisualPos}

/-- A query for the caret of a reachable session finds its row and distance. -/
theorem Reachable.places (hr : s.Reachable) (hpos : s.box.caretVisual.result = .ok (box, pos)) :
    s.box.Places box pos := by
  obtain ⟨heditor, hsound⟩ := hr.editor
  obtain ⟨hcurrent, ⟨layout, rfl⟩, hplace⟩ := hsound.of_caretVisual hpos
  obtain ⟨width, hshows⟩ := hcurrent.exists_shows
  exact ⟨hcurrent, ⟨layout, rfl⟩,
    onRow_of_offsetToVisual hshows heditor.wellFormed.within.caret_le hplace⟩

end Session

namespace Box.Places

variable {origin box : Box} {pos : VisualPos} (h : origin.Places box pos)
include h

private theorem measurer_eq : box.measurer = origin.measurer := by
  obtain ⟨layout, rfl⟩ := h.laid
  rfl

/-- The row of the caret is one of the rows. -/
theorem row_lt : pos.row < box.layout.rowCount := by
  obtain ⟨r, col, hon, -⟩ := h.onRow
  exact (List.getElem?_eq_some_iff.mp hon.row_eq).1

private theorem neighbour_lt (down : Bool) : box.neighbour pos down < box.layout.rowCount := by
  have := h.row_lt
  unfold neighbour
  split <;> omega

/-- The pixel of the caret stands on every row for the first column that reaches it. -/
theorem exists_offset (hm : ∀ r ∈ box.layout.rows, box.measurer.Grows r.text) {row : Nat}
    (hrow : row < box.layout.rowCount) :
    ∃ r target col, OnRow box.layout box.editor.buffer target row r col ∧
      Reaches box.measurer pos.x [] r.text col ∧
      visualToOffset box.layout box.editor.buffer box.measurer row
        (Bounded.toCoordinate pos.x) = .ok target := by
  obtain ⟨width, hshows⟩ := h.current.exists_shows
  obtain ⟨r₀, col₀, hon₀, hx⟩ := h.onRow
  have hbound := (hm r₀ (List.mem_of_getElem? hon₀.row_eq)).lt_coordinateBound hx
  have hr := List.getElem?_eq_getElem hrow
  obtain ⟨col, hcol⟩ := exists_columnReaching (hm _ (List.mem_of_getElem? hr)).exists_width pos.x
  obtain ⟨target, htarget, hon⟩ := visualToOffset_eq hshows hr hcol
  refine ⟨_, target, col, hon, reaches_of_columnReaching hcol, ?_⟩
  rw [Bounded.toCoordinate_of_lt hbound, htarget]

/-- The column that reaches the caret is not at the start of a row that the row above would have, if
the row begins its line or the caret is not at the left edge. -/
theorem start_eq_zero_or_pos {r : Row} {target row col : Nat}
    (hon : OnRow box.layout box.editor.buffer target row r col)
    (hreaches : Reaches box.measurer pos.x [] r.text col) (hm : box.measurer.Grows r.text)
    (hstart : r.start = 0 ∨ 0 < pos.x) : r.start = 0 ∨ 0 < col := by
  obtain ⟨width, hshows⟩ := h.current.exists_shows
  by_cases he : r.text = []
  · exact .inl (start_eq_zero_of_empty hshows hon.row_eq he)
  · exact hstart.imp id fun hx ↦ hreaches.pos hm.width_nil hx he

/-- A vertical motion finds the first column of the neighbouring row that reaches the distance of
the caret. -/
theorem exists_target (hpos : origin.caretVisual.result = .ok (box, pos))
    (hm : ∀ r ∈ box.layout.rows, box.measurer.Grows r.text) (down : Bool) :
    ∃ r target col, OnRow box.layout box.editor.buffer target (box.neighbour pos down) r col ∧
      Reaches box.measurer pos.x [] r.text col ∧
      (origin.verticalTarget down).result = .ok (box, target) := by
  obtain ⟨r, target, col, hon, hreaches, htarget⟩ := h.exists_offset hm (h.neighbour_lt down)
  refine ⟨r, target, col, hon, hreaches, ?_⟩
  rw [result_verticalTarget hpos h.current, htarget]
  rfl

end Box.Places

namespace Session

variable {s t : Session} {box : Box} {pos : VisualPos}

/-- The caret of a session is drawn on a row. -/
def DrawnOn (s : Session) (row : Nat) : Prop :=
  ∃ box pos, s.box.caretVisual.result = .ok (box, pos) ∧ pos.row = row

/-- On the row of the caret an offset is at the first column as far from the left edge as the
caret, so it is the caret unless the character before the caret on the row has no width. -/
def SettlesAt (box : Box) (pos : VisualPos) (offset : Nat) : Prop :=
  ∃ r col col', OnRow box.layout box.editor.buffer box.editor.caret pos.row r col ∧
    OnRow box.layout box.editor.buffer offset pos.row r col' ∧
    box.measurer.width (r.text.take col') = .ok pos.x ∧
    (∀ k < col', ∃ w, box.measurer.width (r.text.take k) = .ok w ∧ w < pos.x) ∧
    (col = 0 ∨ (∃ w, box.measurer.width (r.text.take (col - 1)) = .ok w ∧ w < pos.x) →
      offset = box.editor.caret)

/-- A reachable session with the focus has its caret at a place of a laid-out box, and the texts of
the rows grow: the measurer need not be monotone elsewhere. -/
structure DrawsAt (s : Session) (box : Box) (pos : VisualPos) : Prop where
  reachable : s.Reachable
  focused : s.box.focused = true
  caretVisual : s.box.caretVisual.result = .ok (box, pos)
  grows : ∀ r ∈ box.layout.rows, box.measurer.Grows r.text

/-- A session draws its caret at a place under a monotone measurer if a computation finds the place
and all rows within screen coordinates. -/
theorem exists_drawsAt {f : List Char → Nat} {p : Box → Bool} (hr : s.Reachable)
    (hf : s.box.focused = true) (hm : s.box.measurer = .ofWidth f)
    (hmonotone : (Measure.ofWidth f).Monotone)
    (hcheck : s.box.caretVisual.result.toOption.any (fun q ↦ q.2 == pos && p q.1 &&
      q.1.layout.rows.all fun r ↦ f r.text < Bounded.coordinateBound) = true) :
    ∃ box, s.DrawsAt box pos ∧ box.measurer = .ofWidth f ∧ p box = true := by
  obtain ⟨⟨box, place⟩, hpos, hcheck⟩ := exists_of_any hcheck
  simp only [Bool.and_eq_true, beq_iff_eq, List.all_eq_true, decide_eq_true_eq] at hcheck
  obtain ⟨⟨rfl, htest⟩, hrows⟩ := hcheck
  have hmeasurer : box.measurer = .ofWidth f := (hr.places hpos).measurer_eq.trans hm
  refine ⟨box, ⟨hr, hf, hpos, fun r hmem ↦ ?_⟩, hmeasurer, htest⟩
  rw [hmeasurer]
  apply hmonotone.grows
  rintro w ⟨⟩
  exact hrows r hmem

section Vertical

variable (h : s.DrawsAt box pos) (mods : Modifiers)
include h

/-- A vertical motion moves the caret to the first column of the neighbouring row that reaches the
distance of the caret, and scrolls it into view. -/
theorem exists_result_act_vertical (down : Bool) :
    ∃ r target col, OnRow box.layout box.editor.buffer target (box.neighbour pos down) r col ∧
      Reaches box.measurer pos.x [] r.text col ∧ target ≤ box.editor.buffer.length ∧
      (s.act (.command (.move (vertical down) mods))).result =
        (fun p ↦ (⟨p.1, s.clipboard⟩, .reply ⟨p.2, false⟩)) <$>
          (box.moved target mods.shift).reveal.result := by
  have hplaces := h.reachable.places h.caretVisual
  obtain ⟨width, hshows⟩ := hplaces.current.exists_shows
  obtain ⟨r, target, col, hon, hreaches, htarget⟩ :=
    hplaces.exists_target h.caretVisual h.grows down
  refine ⟨r, target, col, hon, hreaches, hon.offset_le hshows, ?_⟩
  have hbuffer : (box.moved target mods.shift).editor.buffer = s.box.editor.buffer := by
    obtain ⟨layout, rfl⟩ := hplaces.laid
    exact buffer_moved _ _ _
  rw [act, Run.result_bind, result_dispatch_move s.clipboard h.focused
    (hplaces.current.moved _ _) hbuffer (result_move_vertical htarget)]
  cases (box.moved target mods.shift).reveal.result <;> rfl

private theorem exists_act_vertical
    (hb : box.layout.rowCount * box.layout.lineHeight < Bounded.pixelBound)
    (down : Bool) :
    ∃ t answer, (s.act (.command (.move (vertical down) mods))).result = .ok (t, answer) := by
  have hplaces := h.reachable.places h.caretVisual
  obtain ⟨width, hshows⟩ := hplaces.current.exists_shows
  obtain ⟨r, target, col, -, -, hle, hact⟩ := exists_result_act_vertical h mods down
  have hmeasured := fun r hr ↦ (h.grows r hr).exists_width
  obtain ⟨place, hplace⟩ := exists_offsetToVisual hshows hmeasured hb hle
  have hmoved : offsetToVisual box.layout (box.moved target mods.shift).editor.buffer box.measurer
      (box.moved target mods.shift).editor.caret = .ok place := by
    rw [buffer_moved, caret_moved hle, hplace]
  obtain ⟨p, hp⟩ := (hplaces.current.moved target mods.shift).exists_reveal hmoved hb
  rw [hact, hp]
  exact ⟨_, _, rfl⟩

/-- After a vertical motion the caret is at the first column of the neighbouring row that reaches
its distance, and is drawn where the rows have that offset. -/
theorem exists_target_of_act {down : Bool} {answer : Answer}
    (ht : (s.act (.command (.move (vertical down) mods))).result = .ok (t, answer)) :
    ∃ r col place,
      OnRow box.layout box.editor.buffer t.box.editor.caret (box.neighbour pos down) r col ∧
      Reaches box.measurer pos.x [] r.text col ∧
      t.box.caretVisual.result = .ok (t.box, place) ∧
      offsetToVisual box.layout box.editor.buffer box.measurer t.box.editor.caret = .ok place := by
  have hplaces := h.reachable.places h.caretVisual
  obtain ⟨r, target, col, hon, hreaches, hle, hact⟩ := exists_result_act_vertical h mods down
  rw [hact] at ht
  cases hreveal : (box.moved target mods.shift).reveal.result with
  | error f =>
    rw [hreveal] at ht
    cases ht
  | ok p =>
    obtain ⟨revealed, dirty⟩ := p
    rw [hreveal] at ht
    cases ht
    obtain ⟨-, heditor, place, hplace, hcaret⟩ := (hplaces.current.moved _ _).of_reveal hreveal
    rw [caret_moved hle, buffer_moved] at hplace
    rw [heditor, caret_moved hle]
    exact ⟨r, col, place, hon, hreaches, hcaret, hplace⟩

/-- A vertical motion arrives on the neighbouring row, if the row begins its line or the caret is
not at the left edge. -/
theorem drawnOn_neighbour (down : Bool) {answer : Answer} {r : Row}
    (ht : (s.act (.command (.move (vertical down) mods))).result = .ok (t, answer))
    (hrow : box.layout.row? (box.neighbour pos down) = some r) (hstart : r.start = 0 ∨ 0 < pos.x) :
    t.DrawnOn (box.neighbour pos down) := by
  have hplaces := h.reachable.places h.caretVisual
  obtain ⟨width, hshows⟩ := hplaces.current.exists_shows
  obtain ⟨r', col, place, hon, hreaches, hcaret, hplace⟩ := exists_target_of_act h mods ht
  obtain rfl : r = r' := Option.some.inj (hrow.symm.trans hon.row_eq)
  have hg := h.grows r (List.mem_of_getElem? hrow)
  -- The target is not at a break where the row above would have it.
  have hfirst := hplaces.start_eq_zero_or_pos hon hreaches hg hstart
  rw [offsetToVisual_eq hshows _ hon hfirst] at hplace
  obtain ⟨x, -, hplace⟩ := Fault.bind_eq_ok_iff.mp hplace
  obtain ⟨y, -, hplace⟩ := Fault.bind_eq_ok_iff.mp hplace
  cases hplace
  exact ⟨t.box, _, hcaret, rfl⟩

private theorem settlesAt_of_neighbour_eq (down : Bool) {answer : Answer}
    (ht : (s.act (.command (.move (vertical down) mods))).result = .ok (t, answer))
    (hrow : box.neighbour pos down = pos.row) : SettlesAt box pos t.box.editor.caret := by
  obtain ⟨r, col, hon, hx⟩ := (h.reachable.places h.caretVisual).onRow
  obtain ⟨r', col', place, hon', hreaches, -, -⟩ := exists_target_of_act h mods ht
  rw [hrow] at hon'
  obtain rfl : r = r' := Option.some.inj (hon.row_eq.symm.trans hon'.row_eq)
  have hg := h.grows r (List.mem_of_getElem? hon.row_eq)
  obtain ⟨hle, hx'⟩ := hreaches.le_and_width_eq hg hon.col_le hx
  refine ⟨r, col, col', hon, hon', hx', hreaches.narrower, fun hn ↦ ?_⟩
  obtain rfl := hreaches.eq_of_narrower hle hon.col_le hg hn
  exact hon.eq hon'

/-- Up and down move the caret by one row. They have a result as long as the height of all rows is
in bounds. Down leaves the caret drawn on the next row, if there is one and it begins its line or
the caret is not at the left edge; on the last row the caret settles at its distance. Up does the
same with the row before and the first row. -/
theorem vertical_moves_one_row :
    (box.layout.rowCount * box.layout.lineHeight < Bounded.pixelBound → ∀ down, ∃ t answer,
      (s.act (.command (.move (vertical down) mods))).result = .ok (t, answer)) ∧
    (∀ t answer, (s.act (.command (.move .down mods))).result = .ok (t, answer) →
      (∀ r, box.layout.row? (pos.row + 1) = some r → r.start = 0 ∨ 0 < pos.x →
        t.DrawnOn (pos.row + 1)) ∧
      (pos.row + 1 = box.layout.rowCount → SettlesAt box pos t.box.editor.caret)) ∧
    (∀ t answer, (s.act (.command (.move .up mods))).result = .ok (t, answer) →
      (∀ r, 0 < pos.row → box.layout.row? (pos.row - 1) = some r → r.start = 0 ∨ 0 < pos.x →
        t.DrawnOn (pos.row - 1)) ∧
      (pos.row = 0 → SettlesAt box pos t.box.editor.caret)) := by
  have hdown {r : Row} (hrow : box.layout.row? (pos.row + 1) = some r) :
      box.neighbour pos true = pos.row + 1 := by
    have hlt : pos.row + 1 < box.layout.rowCount := (List.getElem?_eq_some_iff.mp hrow).1
    simp only [neighbour, if_true]
    omega
  refine ⟨exists_act_vertical h mods, fun t answer ht ↦ ⟨fun r hrow hstart ↦ ?_, fun hlast ↦ ?_⟩,
    fun t answer ht ↦ ⟨fun r _ hrow hstart ↦ ?_, fun hfirst ↦ ?_⟩⟩
  · have hnext := hdown hrow
    rw [← hnext] at hrow ⊢
    exact drawnOn_neighbour h mods true ht hrow hstart
  · apply settlesAt_of_neighbour_eq h mods true ht
    simp only [neighbour, if_true]
    omega
  · exact drawnOn_neighbour h mods false ht hrow hstart
  · apply settlesAt_of_neighbour_eq h mods false ht
    simp only [neighbour, Bool.false_eq_true, if_false]
    omega

end Vertical

/-- A caret on the first of two rows that wrap a line moves down beside the left edge. -/
theorem vertical_moves_one_row_wrapped :
    let text := "hello world foobar".toList
    let box := (Box.new (.ofText text) (.unscrolled 120 100 0 0)
      ⟨200, 500, 4, 3, 1, 530, ⟨4, 10⟩⟩).setMeasure (some (.perChar 10))
    let s : Session := ⟨{ box with editor := box.editor.moveCaret 2 false }, []⟩
    ∃ laidOut pos t answer, s.DrawsAt laidOut pos ∧ pos.row = 0 ∧
      (s.act (.command (.move .down .none))).result = .ok (t, answer) ∧ t.DrawnOn 1 := by
  intro text box s
  have hreachable : s.Reachable :=
    ⟨_, _, _, _, [.inr (.setMeasure (some (.perChar 10))), .inr (.edit (.moveCaret 2 false))], _,
      rfl⟩
  obtain ⟨laidOut, hdraws, -, hcheck⟩ :
      ∃ laidOut, s.DrawsAt laidOut ⟨0, 20, 0⟩ ∧ laidOut.measurer = .perChar 10 ∧
        decide (laidOut.layout.row? 1 = some ⟨0, 12, "foobar".toList⟩ ∧
          laidOut.layout.rowCount * laidOut.layout.lineHeight = 40) = true :=
    exists_drawsAt hreachable rfl rfl (Measure.monotone_perChar 10) (by decide +kernel)
  obtain ⟨hrow, hheight⟩ := of_decide_eq_true hcheck
  obtain ⟨hexists, hdown, -⟩ := vertical_moves_one_row hdraws .none
  obtain ⟨t, answer, ht⟩ := hexists (by rw [hheight]; decide) true
  obtain ⟨hnext, -⟩ := hdown t answer ht
  exact ⟨laidOut, _, t, answer, hdraws, rfl, ht, hnext _ hrow (.inr (by decide))⟩

/-- Not every motion moves by one row. From the left edge the caret goes down to the break of a
wrapped line, which is drawn on the row above it; and on the last row the caret goes down to the
left of a mark without width. -/
theorem not_forall_vertical_moves_one_row :
    (¬ ∀ (s t : Session) box pos mods answer, s.DrawsAt box pos → box.measurer.Monotone →
      (s.act (.command (.move .down mods))).result = .ok (t, answer) →
      pos.row + 1 < box.layout.rowCount → t.DrawnOn (pos.row + 1)) ∧
    ¬ ∀ (s t : Session) box pos mods answer, s.DrawsAt box pos → box.measurer.Monotone →
      (s.act (.command (.move .down mods))).result = .ok (t, answer) →
      pos.row + 1 = box.layout.rowCount → t.box.editor.caret = s.box.editor.caret := by
  constructor
  · intro hall
    let s : Session := ⟨(Box.new (.ofText "hello world foobar".toList) (.unscrolled 120 100 0 0)
      ⟨200, 500, 4, 3, 1, 530, ⟨4, 10⟩⟩).setMeasure (some (.perChar 10)), []⟩
    have hreachable : s.Reachable :=
      ⟨_, _, _, _, [.inr (.setMeasure (some (.perChar 10)))], _, rfl⟩
    have hmonotone := Measure.monotone_perChar 10
    obtain ⟨box, hdraws, hmeasurer, hrows⟩ :
        ∃ box, s.DrawsAt box ⟨0, 0, 0⟩ ∧ box.measurer = .perChar 10 ∧
          decide (box.layout.rowCount = 2) = true :=
      exists_drawsAt hreachable rfl rfl hmonotone (by decide +kernel)
    have hafter : ((s.act (.command (.move .down .none))).result >>= fun p ↦
        p.1.box.caretVisual.result).toOption.any (fun p ↦ p.2.row == 0) = true := by
      decide +kernel
    obtain ⟨⟨box', pos'⟩, hpos', hrow⟩ := exists_of_any hafter
    obtain ⟨⟨t, answer⟩, ht, hpos'⟩ := Fault.bind_eq_ok_iff.mp hpos'
    obtain ⟨box'', pos'', hpos'', hrow'⟩ := hall s t box _ .none answer hdraws
      (hmeasurer ▸ hmonotone) ht (by rw [of_decide_eq_true hrows]; decide)
    rw [hpos'] at hpos''
    cases hpos''
    rw [hrow'] at hrow
    cases hrow
  · intro hall
    let box := (Box.new (.ofText ['e', '\u0301']) (.unscrolled 120 100 0 0)
      ⟨200, 500, 4, 3, 1, 530, ⟨4, 10⟩⟩).setMeasure (some .proportional)
    let s : Session := ⟨{ box with editor := box.editor.moveCaret 2 false }, []⟩
    have hreachable : s.Reachable :=
      ⟨_, _, _, _, [.inr (.setMeasure (some .proportional)), .inr (.edit (.moveCaret 2 false))], _,
        rfl⟩
    obtain ⟨box, hdraws, hmeasurer, hrows⟩ :
        ∃ box, s.DrawsAt box ⟨0, 9, 0⟩ ∧ box.measurer = .proportional ∧
          decide (box.layout.rowCount = 1) = true :=
      exists_drawsAt hreachable rfl rfl Measure.monotone_proportional (by decide +kernel)
    have hafter : (s.act (.command (.move .down .none))).result.toOption.any (fun p ↦
        p.1.box.editor.caret == 1) = true := by
      decide +kernel
    obtain ⟨⟨t, answer⟩, ht, hcaret⟩ := exists_of_any hafter
    have heq := hall s t box _ .none answer hdraws (hmeasurer ▸ Measure.monotone_proportional) ht
      (of_decide_eq_true hrows).symm
    rw [heq] at hcaret
    cases hcaret

end Session

end EditBox
