import EditBox.Proofs.Box.Scrolling
import Mathlib.Algebra.Order.BigOperators.Group.List
import Mathlib.Algebra.Order.Ring.Nat

/-!
# Boxes that answer

A box is `Ready` when it has the usual settings and its text, once laid out, stays within screen
coordinates. Then every question about its geometry has an answer, and its text is short enough to
number all lines and offsets.
-/

namespace EditBox

open EditBox.Layout EditBox.Text Bounded

variable {α β : Type}

/-- A run that has a result. -/
def Succeeds (r : Run α) : Prop := ∃ a, r.result = .ok a

namespace Succeeds

/-- A result. -/
theorem done (a : α) : Succeeds (pure a : Run α) := ⟨a, rfl⟩

/-- A sequence has a result if its parts have. -/
theorem andThen {r : Run α} {f : α → Run β} (h : Succeeds r)
    (hf : ∀ a, r.result = .ok a → Succeeds (f a)) : Succeeds (r >>= f) := by
  obtain ⟨a, ha⟩ := h
  obtain ⟨b, hb⟩ := hf a ha
  refine ⟨b, ?_⟩
  rw [Run.result_bind, ha]
  exact hb

/-- A run that begins with a computation has a result if it goes on to one. -/
theorem liftThen {x : Except Fault α} {f : α → Run β} (h : ∃ a, x = .ok a)
    (hf : ∀ a, x = .ok a → Succeeds (f a)) : Succeeds ((liftM x : Run α) >>= f) := by
  obtain ⟨a, ha⟩ := h
  exact andThen ⟨a, (Run.result_liftM x).trans ha⟩ fun a' ha' ↦
    hf a' ((Run.result_liftM x).symm.trans ha')

/-- A report has a result. -/
theorem report {e : CommandEvent} {f : Unit → Run β} (hf : Succeeds (f ())) :
    Succeeds (Box.reportCommand e >>= f) :=
  andThen ⟨(), rfl⟩ fun _ _ ↦ hf

/-- A choice has a result if both sides have. -/
theorem choose {c : Prop} [Decidable c] {x y : Run α} (hx : c → Succeeds x)
    (hy : ¬ c → Succeeds y) : Succeeds (if c then x else y) := by
  split
  · next h => exact hx h
  · next h => exact hy h

end Succeeds

namespace Box

variable {box box' origin : Box}

/-- A box with the usual settings, ten pixels for every character, and a height within screen
coordinates. -/
structure Usual (box : Box) : Prop where
  options_eq : box.options = .ofSettings {}
  measure_eq : box.measure = some (.perChar 10)
  padding_eq : box.view.padding = 8
  gutter_eq : box.view.gutter = 48
  height_lt : box.view.height < coordinateBound

/-- The text has rows, and the height of all and the width of each lie within screen coordinates. -/
def Small (box : Box) : Prop :=
  ∃ rows lineHeight, box.Typeset rows lineHeight ∧ rows.length * lineHeight < coordinateBound ∧
    ∀ r ∈ rows, ∃ w, box.measurer.width r.text = .ok w ∧ w < coordinateBound

/-- Whether the text is laid out, with the height of all rows and the width of each within screen
coordinates. -/
def lowAndNarrow (box : Box) : Bool :=
  box.ensureLayout.result.toOption.any fun b ↦
    decide (b.textHeight < coordinateBound) &&
      b.layout.rows.all fun r ↦
        (b.measurer.width r.text).toOption.any fun w ↦ decide (w < coordinateBound)

namespace Usual

variable (h : box.Usual)
include h

/-- The settings do not change with the layout, the scroll and the text. -/
theorem congr (hv : box'.view = { box.view with scroll := box'.view.scroll })
    (ho : box'.options = box.options) (hm : box'.measure = box.measure) : box'.Usual := by
  refine ⟨ho.trans h.options_eq, hm.trans h.measure_eq, ?_, ?_, ?_⟩
  · rw [hv]
    exact h.padding_eq
  · rw [hv]
    exact h.gutter_eq
  · rw [hv]
    exact h.height_lt

private theorem contentLeft_eq : box.view.contentLeft = .ok 56 := by
  rw [View.contentLeft, h.gutter_eq, h.padding_eq]
  rfl

/-- The content is 16 pixels lower than the box. -/
theorem contentHeight_eq : box.view.contentHeight = .ok (box.view.height - 16) := by
  rw [View.contentHeight, View.paddings, h.padding_eq]
  rfl

/-- Rows are 20 pixels high. -/
theorem lineHeight_eq {rows : List Row} {lineHeight : Nat} (ht : box.Typeset rows lineHeight) :
    lineHeight = 20 := by
  have hheight := ht.rowHeight
  rw [h.measure_eq, h.options_eq] at hheight
  exact (Except.ok.inj hheight).symm

private theorem monotone : box.measurer.Monotone := by
  rw [measurer, h.measure_eq]
  exact Measure.monotone_perChar 10

/-- A text whose offsets have numbers can be laid out. -/
theorem exists_typeset (hb : box.editor.buffer.length + 1 < offsetBound) :
    ∃ rows lineHeight, box.Typeset rows lineHeight := by
  have htotal : (Measure.perChar 10).Total := Measure.total_ofWidth _
  have hcount : box.editor.buffer.lineCount < offsetBound :=
    Nat.lt_of_le_of_lt box.editor.buffer.lineCount_le hb
  have hlines : 0 + box.editor.buffer.lineCount ≤ box.editor.buffer.lineCount :=
    Nat.le_of_eq (Nat.zero_add _)
  have hwidth : box.view.contentWidth = .ok (box.view.width - 48 - 16) := by
    rw [View.contentWidth, View.paddings, h.padding_eq, h.gutter_eq]
    rfl
  obtain ⟨rows, hrows⟩ := exists_wrapLines htotal
    (max (box.view.width - 48 - 16) box.options.layout.minContentWidth) hlines hcount
  refine ⟨rows, 20, ⟨_, hwidth, ?_⟩, ?_⟩
  · rw [h.measure_eq]
    exact hrows
  · rw [h.measure_eq, h.options_eq]
    rfl

/-- A text that has rows within screen coordinates has few rows with few characters each, so its
offsets have numbers. -/
theorem length_succ_lt (hs : box.Small) : box.editor.buffer.length + 1 < offsetBound := by
  obtain ⟨rows, lineHeight, ht, hheight, hwidth⟩ := hs
  obtain ⟨⟨width, -, hrows⟩, -⟩ := id ht
  rw [h.measure_eq] at hrows
  obtain ⟨hsum, hcount⟩ := sum_length_wrapBuffer hrows
  -- Rows are at least a pixel high and characters ten wide, so pixels bound the number of both.
  have hfew : rows.length < coordinateBound :=
    Nat.lt_of_le_of_lt (Nat.le_mul_of_pos_right _ ht.lineHeight_pos) hheight
  have hshort : ∀ n ∈ rows.map Row.length, n ≤ coordinateBound := by
    intro n hn
    obtain ⟨r, hr, rfl⟩ := List.mem_map.mp hn
    obtain ⟨w, hw, hlt⟩ := hwidth r hr
    rw [measurer, h.measure_eq] at hw
    obtain rfl : min (r.text.length * 10) Measure.maxPixel = w := Except.ok.inj hw
    simp only [Row.length, Measure.maxPixel, pixelBound, coordinateBound] at *
    omega
  have hsum_le := List.sum_le_card_nsmul _ _ hshort
  rw [List.length_map, Nat.nsmul_eq_mul] at hsum_le
  have hproduct : rows.length * coordinateBound ≤ coordinateBound * coordinateBound :=
    Nat.mul_le_mul_right _ (Nat.le_of_lt hfew)
  have hbound : coordinateBound * coordinateBound + coordinateBound < offsetBound := by decide
  omega

end Usual

/-- A text is small if a computation of its rows says so. -/
theorem small_of_layout (hs : box.Sound) (hlow : box.lowAndNarrow = true) : box.Small := by
  obtain ⟨laidOut, hlaid, hlow⟩ := exists_of_any hlow
  obtain ⟨hcurrent, layout, rfl⟩ := hs.of_ensureLayout hlaid
  rw [Bool.and_eq_true, List.all_eq_true] at hlow
  refine ⟨_, _, hcurrent.typeset_of_laid, of_decide_eq_true hlow.1, fun r hr ↦ ?_⟩
  obtain ⟨w, hw, hlt⟩ := exists_of_any (hlow.2 r hr)
  exact ⟨w, hw, of_decide_eq_true hlt⟩

namespace Small

variable (h : box.Small)
include h

/-- Boxes with the same rows are as small. -/
theorem congr (hsame : box.SameRows box') : box'.Small := by
  obtain ⟨rows, lineHeight, ht, hheight, hwidth⟩ := h
  refine ⟨rows, lineHeight, ht.congr hsame, hheight, ?_⟩
  rwa [measurer, hsame.measure_eq]

variable {rows : List Row} {lineHeight : Nat} (ht : box.Typeset rows lineHeight)
include ht

/-- The height of all rows lies within screen coordinates. -/
theorem height_lt : rows.length * lineHeight < coordinateBound := by
  obtain ⟨rows', lineHeight', ht', hheight, -⟩ := h
  obtain ⟨rfl, rfl⟩ := ht.unique ht'
  exact hheight

/-- The width of each row lies within screen coordinates. -/
theorem width_lt {r : Row} (hr : r ∈ rows) {w : Nat} (hw : box.measurer.width r.text = .ok w) :
    w < coordinateBound := by
  obtain ⟨rows', lineHeight', ht', -, hwidth⟩ := h
  obtain ⟨rfl, rfl⟩ := ht.unique ht'
  obtain ⟨w', hw', hlt⟩ := hwidth r hr
  obtain rfl : w' = w := Except.ok.inj (hw'.symm.trans hw)
  exact hlt

/-- The largest useful scroll of a small text is a screen coordinate. -/
theorem limit_lt (hu : box.Usual) {limit : Nat}
    (hlimit : box.view.maxScroll rows.length lineHeight = .ok limit) :
    limit < coordinateBound := by
  have hheight := h.height_lt ht
  have hbound : rows.length * lineHeight < pixelBound := Nat.lt_trans hheight (by decide)
  rw [View.maxScroll_eq hu.contentHeight_eq hbound ht.lineHeight_pos] at hlimit
  cases hlimit
  exact Nat.lt_of_le_of_lt (Nat.sub_le _ _) hheight

omit ht in
/-- The height of all rows of a small text is in bounds. -/
theorem fits : box.Fits := fun _ _ ht ↦ Nat.lt_trans (h.height_lt ht) (by decide)

end Small

/-- A sound box is laid out if its text has rows. -/
theorem Sound.succeeds_ensureLayout (hs : box.Sound) {rows : List Row} {lineHeight : Nat}
    (ht : box.Typeset rows lineHeight) : Succeeds box.ensureLayout := by
  obtain ⟨⟨width, hw, hrows⟩, hheight⟩ := ht
  obtain ⟨n, hn⟩ := LayoutCache.Sound.result_ensure hs width
  refine Succeeds.liftThen ⟨width, hw⟩ fun width' hw' ↦ ?_
  obtain rfl : width = width' := Except.ok.inj (hw.symm.trans hw')
  refine Succeeds.andThen ?_ fun layout _ ↦ .done _
  simp only [LayoutCache.rebuild, hrows, hheight, Fault.ok_bind] at hn
  exact ⟨_, hn⟩

/-- A box whose text can be drawn: it has rows, their height is in bounds, and the prefixes of each
can be measured. -/
def Drawable (box : Box) : Prop :=
  ∃ rows lineHeight, box.Typeset rows lineHeight ∧ rows.length * lineHeight < pixelBound ∧
    ∀ r ∈ rows, ∀ k, ∃ w, box.measurer.width (r.text.take k) = .ok w

namespace Drawable

variable (h : box.Drawable)
include h

/-- The height of all rows is in bounds. -/
theorem fits : box.Fits := by
  obtain ⟨rows, lineHeight, htypeset, hb, -⟩ := h
  intro rows' lineHeight' htypeset'
  obtain ⟨rfl, rfl⟩ := htypeset.unique htypeset'
  exact hb

/-- A box can be drawn if one with the same text and geometry can. -/
theorem of_text_eq (htext : box'.editor.text = box.editor.text)
    (hsame : SameRows { box with editor := box'.editor } box') : box'.Drawable := by
  obtain ⟨rows, lineHeight, ⟨⟨width, hw, hrows⟩, hheight⟩, hb, hmeasured⟩ := h
  have hwrap (w : Nat) (m : Option Measure) (n : Nat) :
      wrapBuffer box'.editor.buffer w m n = wrapBuffer box.editor.buffer w m n := by
    have hchars : box'.editor.buffer.chars = box.editor.buffer.chars := htext
    rw [← wrapBuffer_ofText, hchars, wrapBuffer_ofText]
  have hmeasure : box'.measure = box.measure := hsame.measure_eq
  have hoptions : box'.options = box.options := hsame.options_eq
  refine ⟨rows, lineHeight, ⟨⟨width, hsame.contentWidth_eq.trans hw, ?_⟩, ?_⟩, hb, ?_⟩
  · rw [hwrap, hmeasure, hoptions, hrows]
  · rw [hmeasure, hoptions, hheight]
  · rw [measurer, hmeasure]
    exact hmeasured

/-- A box can be drawn if one with the same rows can. -/
theorem congr (hsame : box.SameRows box') : box'.Drawable :=
  h.of_text_eq (congrArg Buffer.chars hsame.buffer_eq)
    ⟨rfl, hsame.view_eq, hsame.options_eq, hsame.measure_eq⟩

/-- A caret within the text is scrolled into view. -/
theorem succeeds_reveal (hs : box.Sound) (hcaret : box.editor.caret ≤ box.editor.buffer.length) :
    Succeeds box.reveal := by
  have hfits := h.fits
  obtain ⟨rows, lineHeight, htypeset, -, hmeasured⟩ := h
  rw [reveal, ensureCaretVisible, caretVisual, offsetVisual, bind_assoc, bind_assoc]
  refine (hs.succeeds_ensureLayout htypeset).andThen fun laidOut hl ↦ ?_
  obtain ⟨hcurrent, layout, rfl⟩ := hs.of_ensureLayout hl
  obtain ⟨rfl, rfl⟩ := htypeset.unique hcurrent.typeset_of_laid
  have hbound := hfits _ _ htypeset
  obtain ⟨width, hw, -, hshows⟩ := id hcurrent
  simp only [bind_assoc, pure_bind]
  refine .liftThen (exists_offsetToVisual hshows hmeasured hbound hcaret) fun pos _ ↦ ?_
  exact .liftThen (View.exists_ensureVisible hw hbound hshows.lineHeight_pos pos.y)
    fun _ _ ↦ .done _

end Drawable

/-- A small text can be drawn with the usual settings. -/
theorem Usual.drawable (hu : box.Usual) (hs : box.Small) : box.Drawable := by
  obtain ⟨rows, lineHeight, htypeset, -, -⟩ := id hs
  refine ⟨rows, lineHeight, htypeset, hs.fits _ _ htypeset, fun r hr ↦ ?_⟩
  exact (hu.monotone.grows fun _ hw ↦ hs.width_lt htypeset hr hw).exists_width

/-- A sound box with the usual settings and a small text, scrolled within screen coordinates. -/
structure Ready (box : Box) : Prop where
  sound : box.Sound
  usual : box.Usual
  small : box.Small
  scroll_lt : box.view.scroll < coordinateBound

private theorem Current.low (h : box.Current) (hu : box.Usual) (hs : box.Small) :
    box.layout.rowCount * box.layout.lineHeight < coordinateBound ∧
      ∀ r ∈ box.layout.rows, box.measurer.Grows r.text :=
  ⟨hs.height_lt h.typeset,
    fun _ hr ↦ hu.monotone.grows fun _ hw ↦ hs.width_lt h.typeset hr hw⟩

namespace Ready

variable (h : box.Ready)
include h

/-- The offsets of the text have numbers. -/
theorem length_succ_lt : box.editor.buffer.length + 1 < offsetBound :=
  h.usual.length_succ_lt h.small

/-- A box that was turned is still ready. -/
theorem turned (ho : box.Turned origin) : origin.Ready := by
  refine ⟨ho.sound, h.usual.congr ho.view_eq ho.options_eq ho.measure_eq,
    h.small.congr ho.sameRows, ?_⟩
  rcases ho.scrollsTo with hle | ⟨rows, lineHeight, limit, htypeset, hlimit, hle⟩
  · exact Nat.lt_of_le_of_lt hle h.scroll_lt
  · exact Nat.lt_of_le_of_lt hle (h.small.limit_lt htypeset h.usual hlimit)

private theorem laid {layout : LayoutCache} (hs : (box.laid layout).Sound) :
    (box.laid layout).Ready :=
  h.turned (turned_of_sound hs box.pointer box.focused)

/-- A box is still ready with another editor on the same text. -/
theorem moved {editor : Editor} (hb : editor.buffer = box.editor.buffer) :
    Ready { box with editor := editor } :=
  ⟨h.sound.of_comesFrom (.inl hb) box.view box.pointer box.focused, h.usual.congr rfl rfl rfl,
    h.small.congr ⟨hb, rfl, rfl, rfl⟩, h.scroll_lt⟩

private theorem exists_place (hcurrent : box.Current)
    (hcaret : box.editor.caret ≤ box.editor.buffer.length) :
    ∃ pos, offsetToVisual box.layout box.editor.buffer box.measurer box.editor.caret = .ok pos := by
  obtain ⟨width, hshows⟩ := hcurrent.exists_shows
  obtain ⟨hlow, hgrows⟩ := hcurrent.low h.usual h.small
  exact exists_offsetToVisual hshows (fun r hr ↦ (hgrows r hr).exists_width)
    (Nat.lt_trans hlow (by decide)) hcaret

/-- A layout has a result. -/
theorem succeeds_ensureLayout : Succeeds box.ensureLayout := by
  obtain ⟨rows, lineHeight, htypeset, -, -⟩ := h.small
  exact h.sound.succeeds_ensureLayout htypeset

/-- A run that begins with a layout has a result if it goes on to one. -/
theorem succeeds_layOut {f : Box → Run β}
    (hf : ∀ layout, (box.laid layout).Current → (box.laid layout).Ready →
      Succeeds (f (box.laid layout))) : Succeeds (box.ensureLayout >>= f) := by
  refine h.succeeds_ensureLayout.andThen fun laidOut hl ↦ ?_
  obtain ⟨hcurrent, layout, rfl⟩ := h.sound.of_ensureLayout hl
  exact hf layout hcurrent (h.laid hcurrent.sound)

/-- A run that begins with a question has a result if it goes on to one. -/
theorem succeeds_query {r : Run (Box × α)} {f : Box × α → Run β} (hr : Succeeds r)
    (hq : Queries box r)
    (hf : ∀ layout a, (box.laid layout).Ready → Succeeds (f (box.laid layout, a))) :
    Succeeds (r >>= f) := by
  refine hr.andThen fun ⟨laidOut, a⟩ ha ↦ ?_
  obtain ⟨layout, hlaid, hs⟩ := hq _ ha
  obtain rfl : laidOut = box.laid layout := hlaid
  exact hf layout a (h.laid hs)

/-- The rows are counted. -/
theorem succeeds_rowCount : Succeeds box.rowCount :=
  h.succeeds_layOut fun _ _ _ ↦ .done _

/-- A pixel of a row is an offset. -/
theorem succeeds_rowXToOffset (row : Nat) (x : Int) : Succeeds (box.rowXToOffset row x) := by
  refine h.succeeds_layOut fun layout hcurrent hready ↦ ?_
  obtain ⟨width, hshows⟩ := hcurrent.exists_shows
  obtain ⟨-, hgrows⟩ := hcurrent.low hready.usual hready.small
  have hplaced := exists_visualToOffset hshows (fun r hr ↦ (hgrows r hr).exists_width) row x
  exact .liftThen hplaced fun _ _ ↦ .done _

/-- The caret is drawn somewhere if it is within the text. -/
theorem succeeds_caretVisual (hcaret : box.editor.caret ≤ box.editor.buffer.length) :
    Succeeds box.caretVisual := by
  refine h.succeeds_layOut fun layout hcurrent hready ↦ ?_
  exact .liftThen (hready.exists_place hcurrent hcaret) fun _ _ ↦ .done _

/-- A caret within the text is scrolled into view. -/
theorem succeeds_reveal (hcaret : box.editor.caret ≤ box.editor.buffer.length) :
    Succeeds box.reveal :=
  (h.usual.drawable h.small).succeeds_reveal h.sound hcaret

/-- The offset under a point is found, unless the point is too far to the left of the text. -/
theorem succeeds_pointToOffset {px : Int} (py : Int) (rounding : RowRounding)
    (hx : -(coordinateBound : Int) ≤ px - 56) (hlt : px < coordinateBound) :
    Succeeds (box.pointToOffset px py rounding) := by
  refine h.succeeds_layOut fun layout hcurrent hready ↦ ?_
  have hrows : layout.rowCount ≤ distanceBound := by
    obtain ⟨width, hshows⟩ := hcurrent.exists_shows
    have hlt := hshows.rowCount_lt (hready.small.fits _ _ hcurrent.typeset)
    exact Nat.le_of_lt (Nat.lt_trans hlt (by decide))
  have hdistance : -(coordinateBound : Int) ≤ px - (56 : Nat) ∧ px - (56 : Nat) < coordinateBound :=
    ⟨hx, by omega⟩
  refine .liftThen ?_ fun _ _ ↦ hready.succeeds_rowXToOffset _ _
  exact View.exists_pointToRowX h.usual.contentLeft_eq (by decide) hrows hdistance

/-- A point too far to the left of the text has no offset. -/
theorem result_pointToOffset_eq_error {px : Int} (py : Int) (rounding : RowRounding)
    (hx : px - 56 < -(coordinateBound : Int)) :
    (box.pointToOffset px py rounding).result = .error .subOverflow := by
  obtain ⟨laidOut, hlaid⟩ := h.succeeds_ensureLayout
  obtain ⟨-, layout, rfl⟩ := h.sound.of_ensureLayout hlaid
  have hpoint : (box.laid layout).view.pointToRowX px py layout.lineHeight layout.rowCount
      rounding = .error .subOverflow :=
    View.pointToRowX_eq_error h.usual.contentLeft_eq (by decide) hx
  rw [pointToOffset, Run.result_bind, hlaid, Fault.ok_bind, Run.result_bind, Run.result_liftM]
  exact congrArg (· >>= _) hpoint

end Ready

end Box

end EditBox
