import EditBox.Proofs.Box.Current

/-!
# Queries

A query lays a box out and changes nothing else of it. `Queries` says so of a run, whatever the
answer, and is closed under sequencing; what a layout depends on is the text, the width, the
options and the measurer alone, so all layouts of a box have the same rows (`Typeset.unique`).
-/

namespace EditBox.Box

open EditBox.Layout

variable {α β : Type} {box box' : Box}

/-- A box that is laid out is sound. -/
theorem Current.sound (h : box.Current) : box.Sound := by
  obtain ⟨width, -, hn, hshows⟩ := h
  simp only [LayoutCache.needsRebuild, Bool.or_eq_false_iff, bne_eq_false_iff_eq] at hn
  obtain ⟨⟨-, hr⟩, rfl⟩ := hn
  exact fun _ ↦ ⟨_, hr, Nat.le_refl _, fun _ ↦ hshows⟩

/-- The text of a box, laid out at its width from nothing, has these rows of this height. -/
structure Typeset (box : Box) (rows : List Row) (lineHeight : Nat) : Prop where
  exists_width : ∃ width, box.view.contentWidth = .ok width ∧
    wrapBuffer box.editor.buffer width box.measure box.options.layout.minContentWidth = .ok rows
  rowHeight : LayoutCache.rowHeight box.measure box.options.layout = .ok lineHeight

/-- Boxes whose texts have the same rows: the text, the width, the options and the measurer are the
same. -/
structure SameRows (box box' : Box) : Prop where
  buffer_eq : box'.editor.buffer = box.editor.buffer
  view_eq : box'.view = { box.view with scroll := box'.view.scroll }
  options_eq : box'.options = box.options
  measure_eq : box'.measure = box.measure

namespace SameRows

/-- A box has the rows that it has. -/
theorem refl (box : Box) : box.SameRows box := ⟨rfl, rfl, rfl, rfl⟩

/-- Boxes have the same rows in either order. -/
theorem symm (h : box.SameRows box') : box'.SameRows box := by
  refine ⟨h.buffer_eq.symm, ?_, h.options_eq.symm, h.measure_eq.symm⟩
  rw [h.view_eq]

/-- Boxes with the rows of a third one have the same rows. -/
theorem trans {box'' : Box} (h : box.SameRows box') (h' : box'.SameRows box'') :
    box.SameRows box'' := by
  refine ⟨h'.buffer_eq.trans h.buffer_eq, ?_, h'.options_eq.trans h.options_eq,
    h'.measure_eq.trans h.measure_eq⟩
  rw [h'.view_eq, h.view_eq]

/-- The content of boxes with the same rows is as wide. -/
theorem contentWidth_eq (h : box.SameRows box') :
    box'.view.contentWidth = box.view.contentWidth := by
  rw [h.view_eq]
  rfl

/-- The content of boxes with the same rows is as high. -/
theorem contentHeight_eq (h : box.SameRows box') :
    box'.view.contentHeight = box.view.contentHeight := by
  rw [h.view_eq]
  rfl

/-- Boxes with the same rows can be scrolled as far. -/
theorem maxScroll_eq (h : box.SameRows box') (rows lineHeight : Nat) :
    box'.view.maxScroll rows lineHeight = box.view.maxScroll rows lineHeight := by
  rw [h.view_eq]
  rfl

end SameRows

/-- The box with its view scrolled. -/
def scrolled (box : Box) (scroll : Nat) : Box :=
  { box with view := { box.view with scroll := scroll } }

/-- A scrolled box has the same rows. -/
theorem sameRows_scrolled (box : Box) (scroll : Nat) : box.SameRows (box.scrolled scroll) :=
  ⟨rfl, rfl, rfl, rfl⟩

/-- A scrolled box is still laid out. -/
theorem Current.scrolled (h : box.Current) (scroll : Nat) : (box.scrolled scroll).Current :=
  h.of_buffer_eq rfl scroll

/-- The rows of a box that is laid out. -/
theorem Current.typeset (h : box.Current) : box.Typeset box.layout.rows box.layout.lineHeight := by
  obtain ⟨width, hw, -, hshows⟩ := h
  exact ⟨⟨width, hw, hshows.rows⟩, hshows.lineHeight⟩

namespace Typeset

variable {rows rows' : List Row} {lineHeight lineHeight' : Nat}

/-- The rows depend on the text, the width, the options and the measurer alone. -/
theorem congr (h : box.Typeset rows lineHeight) (hsame : box.SameRows box') :
    box'.Typeset rows lineHeight := by
  obtain ⟨⟨width, hw, hrows⟩, hheight⟩ := h
  refine ⟨⟨width, hsame.contentWidth_eq.trans hw, ?_⟩, ?_⟩
  · rw [hsame.buffer_eq, hsame.options_eq, hsame.measure_eq, hrows]
  · rw [hsame.options_eq, hsame.measure_eq, hheight]

/-- A text has only one layout. -/
theorem unique (h : box.Typeset rows lineHeight) (h' : box.Typeset rows' lineHeight') :
    rows' = rows ∧ lineHeight' = lineHeight := by
  obtain ⟨⟨width, hw, hrows⟩, hheight⟩ := h
  obtain ⟨⟨width', hw', hrows'⟩, hheight'⟩ := h'
  rw [hw] at hw'
  cases hw'
  rw [hrows] at hrows'
  rw [hheight] at hheight'
  cases hrows'
  cases hheight'
  exact ⟨rfl, rfl⟩

/-- A row is at least one pixel high. -/
theorem lineHeight_pos (h : box.Typeset rows lineHeight) : 1 ≤ lineHeight :=
  LayoutCache.one_le_of_rowHeight h.rowHeight

end Typeset

/-- The rows of a box once it was laid out. -/
theorem Current.typeset_of_laid {layout : LayoutCache} (h : (box.laid layout).Current) :
    box.Typeset layout.rows layout.lineHeight :=
  h.typeset.congr ⟨rfl, rfl, rfl, rfl⟩

/-- A run that lays a box out and changes nothing else of it. -/
def Queries (box : Box) (r : Run (Box × α)) : Prop :=
  ∀ p, r.result = .ok p → ∃ layout, p.1 = box.laid layout ∧ (box.laid layout).Sound

namespace Queries

/-- A result that leaves the box alone. -/
theorem done (h : box.Sound) (a : α) : Queries box (pure (box, a)) := by
  rintro p ⟨⟩
  exact ⟨box.layout, rfl, h⟩

/-- What a run that begins with a query goes on from. -/
theorem exists_of_bind {r : Run (Box × α)} {f : Box × α → Run β} {b : β} (h : Queries box r)
    (hb : (r >>= f).result = .ok b) :
    ∃ layout a, (box.laid layout).Sound ∧ (f (box.laid layout, a)).result = .ok b := by
  rw [Run.result_bind] at hb
  obtain ⟨⟨laidOut, a⟩, ha, hb⟩ := Fault.bind_eq_ok_iff.mp hb
  obtain ⟨layout, rfl, hs⟩ := h _ ha
  exact ⟨layout, a, hs, hb⟩

/-- A query goes on from the box that its first part leaves. -/
theorem andThen {r : Run (Box × α)} {f : Box × α → Run (Box × β)} (h : Queries box r)
    (hf : ∀ layout a, (box.laid layout).Sound →
      Queries (box.laid layout) (f (box.laid layout, a))) : Queries box (r >>= f) := by
  intro p hp
  obtain ⟨layout, a, hs, hp⟩ := h.exists_of_bind hp
  exact hf layout a hs p hp

/-- A query may begin with a computation. -/
theorem after {x : Run β} {f : β → Run (Box × α)} (hf : ∀ a, Queries box (f a)) :
    Queries box (x >>= f) := by
  intro p hp
  rw [Run.result_bind] at hp
  obtain ⟨a, -, hp⟩ := Fault.bind_eq_ok_iff.mp hp
  exact hf a p hp

end Queries

namespace Sound

variable (h : box.Sound)
include h

/-- What a run that begins with a layout goes on from. -/
theorem exists_of_layOut {f : Box → Run β} {b : β}
    (hb : (box.ensureLayout >>= f).result = .ok b) :
    ∃ layout, (box.laid layout).Current ∧ (f (box.laid layout)).result = .ok b := by
  rw [Run.result_bind] at hb
  obtain ⟨laidOut, hl, hb⟩ := Fault.bind_eq_ok_iff.mp hb
  obtain ⟨hcurrent, layout, rfl⟩ := h.of_ensureLayout hl
  exact ⟨layout, hcurrent, hb⟩

/-- A query that begins with a layout. -/
theorem queries_layOut {f : Box → Run (Box × α)}
    (hf : ∀ layout, (box.laid layout).Sound → Queries (box.laid layout) (f (box.laid layout))) :
    Queries box (box.ensureLayout >>= f) := by
  intro p hp
  obtain ⟨layout, hcurrent, hp⟩ := h.exists_of_layOut hp
  exact hf layout hcurrent.sound p hp

/-- The number of rows is queried. -/
theorem queries_rowCount : Queries box box.rowCount :=
  h.queries_layOut fun _ hs ↦ .done hs _

/-- The place of the caret is queried. -/
theorem queries_caretVisual : Queries box box.caretVisual :=
  h.queries_layOut fun _ hs ↦ .after fun _ ↦ .done hs _

/-- The offset under a pixel of a row is queried. -/
theorem queries_rowXToOffset (row : Nat) (x : Int) : Queries box (box.rowXToOffset row x) :=
  h.queries_layOut fun _ hs ↦ .after fun _ ↦ .done hs _

/-- The offset under a point is queried. -/
theorem queries_pointToOffset (px py : Int) (rounding : RowRounding) :
    Queries box (box.pointToOffset px py rounding) :=
  h.queries_layOut fun _ hs ↦ .after fun _ ↦ hs.queries_rowXToOffset _ _

private theorem queries_verticalTarget (down : Bool) : Queries box (box.verticalTarget down) :=
  h.queries_caretVisual.andThen fun _ _ hs ↦ hs.queries_rowCount.andThen fun _ _ hs ↦
    hs.queries_rowXToOffset _ _

/-- The target of a motion is queried. -/
theorem queries_motionTarget (direction : Direction) (ctrl : Bool) :
    Queries box (box.motionTarget direction ctrl) := by
  have lookup (x : Except Fault Nat) : Queries box (do return (box, ← x) : Run (Box × Nat)) :=
    .after fun _ ↦ .done h _
  cases direction with
  | up => exact h.queries_verticalTarget false
  | down => exact h.queries_verticalTarget true
  | left =>
    cases ctrl with
    | true => exact lookup _
    | false => exact .done h _
  | right =>
    cases ctrl with
    | true => exact lookup _
    | false => exact lookup _
  | home =>
    cases ctrl with
    | true => exact .done h _
    | false => exact lookup _
  | stop =>
    cases ctrl with
    | true => exact .done h _
    | false => exact lookup _

end Sound

end EditBox.Box
