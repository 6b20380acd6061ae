import EditBox.Proofs.Box.Faultless
import EditBox.Proofs.Frame.Rows

/-!
# Settings that can be honoured

Pixel lengths are added and multiplied below a bound, so that a large padding, gutter, row spacing
or number of rows for a notch of the wheel can stop the first frame of a box or the first turn of
the wheel. `Settings.Honoured` says when none does, and `normalized_settings_honoured_iff` that
nothing else does, for normalized settings and any text and size. Settings of moderate size are
honoured for every short text (`moderate_settings_answer`).
-/

namespace EditBox

open EditBox.Box EditBox.Layout EditBox.Text Bounded

namespace IsCoordinate

variable {y step : Int} {n : Nat}

private theorem intAdd_zero (hy : IsCoordinate y) : intAdd coordinateBound y 0 = .ok y := by
  rw [intAdd_eq_ok_iff, Int.add_zero]
  exact ⟨hy, rfl⟩

private theorem intSub_zero (hy : IsCoordinate y) : intSub coordinateBound y 0 = .ok y := by
  rw [intSub_eq_ok_iff, Int.sub_zero]
  exact ⟨hy, rfl⟩

private theorem first_step (hy : IsCoordinate y) (hend : IsCoordinate (y + (n + 1 : Nat) * step)) :
    IsCoordinate (y + step) := by
  have hsteps : ((n + 1 : Nat) : Int) * step = n * step + step := by
    rw [Int.natCast_succ, Int.add_mul, Int.one_mul]
  rw [hsteps] at hend
  unfold IsCoordinate at *
  rcases Int.le_total 0 step with hdown | hup
  · have hrest : 0 ≤ (n : Int) * step := Int.mul_nonneg (Int.natCast_nonneg n) hdown
    omega
  · have hrest : (n : Int) * step ≤ 0 :=
      Int.mul_nonpos_of_nonneg_of_nonpos (Int.natCast_nonneg n) hup
    omega

end IsCoordinate

/-- A box on which nothing was done yet: the caret is at the start, nothing is selected, and the
view is not scrolled. -/
structure Box.Untouched (box : Box) : Prop where
  caret_eq : box.editor.caret = 0
  selection_eq : box.editor.selection.range = (0, 0)
  scroll_eq : box.view.scroll = 0

namespace Box.Untouched

variable {box : Box} (h : box.Untouched)
include h

private theorem laid (layout : LayoutCache) : (box.laid layout).Untouched :=
  ⟨h.caret_eq, h.selection_eq, h.scroll_eq⟩

private theorem first_eq_zero : Frame.first box = 0 := by
  rw [Frame.first, View.firstVisibleRow, h.scroll_eq, Nat.zero_div]

private theorem hidden_eq_zero : Frame.hidden box = 0 := by
  rw [Frame.hidden, h.scroll_eq, Nat.zero_mod]

end Box.Untouched

namespace Frame

variable {box : Box} {left y : Int} {lineHeight row content : Nat} {rows : List Row}
  {caretOn : Bool}

private theorem selectionRect_of_not_lt {m : Measure} {selected : Nat × Nat} {start : Nat} {r : Row}
    (h : ¬ selected.1 < selected.2) :
    selectionRect m left y lineHeight selected start r = .ok none := by
  rw [selectionRect_eq, if_neg fun hmeets ↦ h hmeets.1]
  rfl

/-- Rows without a selection are drawn exactly if the last of them ends within screen coordinates,
where the height of a row is read as a coordinate. -/
theorem exists_rowFrames_iff (hnone : box.editor.selection.range = (0, 0))
    (hstarts : ∀ r ∈ rows, ∃ start, rowStart box.layout.degraded box.editor.buffer r = .ok start)
    (hy : IsCoordinate y) :
    (∃ p, rowFrames box left lineHeight row y rows = .ok p) ↔
      IsCoordinate (y + rows.length * toCoordinate lineHeight) := by
  induction rows generalizing row y with
  | nil =>
    have hend : y + ([] : List Row).length * toCoordinate lineHeight = y := by simp
    rw [hend]
    exact ⟨fun _ ↦ hy, fun _ ↦ ⟨_, rfl⟩⟩
  | cons r rest ih =>
    have hrest : ∀ r ∈ rest,
        ∃ start, rowStart box.layout.degraded box.editor.buffer r = .ok start :=
      fun r' hr' ↦ hstarts r' (List.mem_cons_of_mem _ hr')
    have hend : y + toCoordinate lineHeight + rest.length * toCoordinate lineHeight =
        y + (rest.length + 1 : Nat) * toCoordinate lineHeight := by
      rw [Int.natCast_succ, Int.add_mul, Int.one_mul]
      omega
    constructor
    · rintro ⟨p, h⟩
      obtain ⟨start, -, h⟩ := Fault.bind_eq_ok_iff.mp h
      obtain ⟨rect, -, h⟩ := Fault.bind_eq_ok_iff.mp h
      obtain ⟨below, hbelow, h⟩ := Fault.bind_eq_ok_iff.mp h
      obtain ⟨q, hq, -⟩ := Fault.bind_eq_ok_iff.mp h
      -- The step below this row was made, so the rows below it start within coordinates.
      obtain ⟨hin, rfl⟩ := intAdd_eq_ok_iff.mp hbelow
      rw [List.length_cons, ← hend]
      exact (ih hrest hin).mp ⟨q, hq⟩
    · intro h
      -- The height of a row may be read as a negative coordinate; either way the first step stays
      -- between the ends.
      have hin := hy.first_step h
      rw [List.length_cons, ← hend] at h
      obtain ⟨q, hq⟩ : ∃ q, rowFrames box left lineHeight (row + 1)
          (y + toCoordinate lineHeight) rest = .ok q := (ih hrest hin).mpr h
      obtain ⟨start, hstart⟩ := hstarts r (List.mem_cons_self ..)
      have hrect : selectionRect box.measurer left y lineHeight box.editor.selection.range start r =
          .ok none := selectionRect_of_not_lt (by rw [hnone]; decide)
      rw [rowFrames, hstart, Fault.ok_bind, hrect, Fault.ok_bind,
        intAdd_eq_ok_iff.mpr ⟨hin, rfl⟩, Fault.ok_bind, hq]
      exact ⟨_, rfl⟩

private theorem exists_caretRect_start {top : Int} {last : Nat} (hleft : IsCoordinate left)
    (htop : IsCoordinate top) (shown : Bool) :
    ∃ rect, caretRect box shown ⟨0, 0, 0⟩ left top lineHeight 0 last 0 = .ok rect := by
  have hdown : mul pixelBound (toPixel (0 - 0)) lineHeight = .ok 0 := by
    simp [mul, toPixel, pixelBound]
  have hzero : toCoordinate (0 : Nat) = 0 := toCoordinate_of_lt (by decide)
  rw [caretRect]
  split
  · simp only [hzero, hleft.intAdd_zero, hdown, htop.intAdd_zero, htop.intSub_zero, Fault.ok_bind]
    exact ⟨_, rfl⟩
  · exact ⟨none, rfl⟩

private theorem exists_rowStart {c : LayoutCache} {b : Buffer} {width : Nat}
    {measure : Option Measure} {options : LayoutOptions} {r : Row}
    (h : c.Shows b width measure options) (hr : r ∈ c.rows) :
    ∃ start, rowStart c.degraded b r = .ok start := by
  obtain ⟨row, hrow⟩ := List.mem_iff_getElem?.mp hr
  obtain ⟨offset, hon, -⟩ := exists_onRow_of_row h hrow (Nat.zero_le _)
  obtain ⟨start, hstart, -⟩ := hon.exists_start
  rw [rowStart]
  split
  · exact ⟨_, rfl⟩
  · rw [hstart]
    exact ⟨_, rfl⟩

/-- The rows of the first frame are drawn exactly if the last of them ends within screen
coordinates. -/
theorem exists_visible_iff (hu : box.Untouched) (hc : box.view.contentHeight = .ok content)
    (h : box.Current) :
    (∃ p, rowFrames box left box.layout.lineHeight (first box) box.view.padding
        ((box.layout.rows.take (last box content + 1)).drop (first box)) = .ok p) ↔
      IsCoordinate (box.view.padding +
        (min (content / box.layout.lineHeight + 3) box.layout.rowCount : Nat) *
          toCoordinate box.layout.lineHeight) := by
  obtain ⟨width, hshows⟩ := h.exists_shows
  have hpos := hshows.rowCount_pos
  have hpadding : (box.view.padding : Int) < coordinateBound :=
    Int.ofNat_lt.mpr (View.contentTop_lt hc)
  have htop : IsCoordinate box.view.padding := ⟨by omega, hpadding⟩
  have hfirst := hu.first_eq_zero
  have hlength : (box.layout.rows.take (last box content + 1)).length =
      min (content / box.layout.lineHeight + 3) box.layout.rowCount := by
    rw [List.length_take, last, hfirst]
    change min (_ + 1) box.layout.rowCount = _
    omega
  rw [hfirst, List.drop_zero, ← hlength]
  exact exists_rowFrames_iff hu.selection_eq
    (fun r hr ↦ exists_rowStart hshows (List.mem_of_mem_take hr)) htop

/-- What the first frame of a box needs: the left edge of the text is a pixel length and the last
row drawn ends within screen coordinates. -/
structure HasRoom (gutter padding content rows lineHeight : Nat) : Prop where
  edge_lt : gutter + padding < pixelBound
  bottom : IsCoordinate (padding +
    (min (content / lineHeight + 3) rows : Nat) * toCoordinate lineHeight)

/-- The first frame of a box is drawn if it has room. -/
theorem succeeds_build (hs : box.Sound) (hu : box.Untouched) (hw : box.measurer.width [] = .ok 0)
    (ht : box.Typeset rows lineHeight) (hc : box.view.contentHeight = .ok content)
    (hroom : HasRoom box.view.gutter box.view.padding content rows.length lineHeight) :
    Succeeds (build box caretOn) := by
  rw [build, caretVisual, hu.caret_eq, offsetVisual, bind_assoc]
  refine (hs.succeeds_ensureLayout ht).andThen fun laidOut hlaid ↦ ?_
  obtain ⟨hcurrent, layout, rfl⟩ := hs.of_ensureLayout hlaid
  obtain ⟨rfl, rfl⟩ := ht.unique hcurrent.typeset_of_laid
  obtain ⟨width, hshows⟩ := hcurrent.exists_shows
  have hplace := offsetToVisual_zero hshows hw
  simp only [bind_assoc, pure_bind]
  refine .liftThen ⟨_, hplace⟩ fun pos hpos ↦ ?_
  cases hplace.symm.trans hpos
  refine .liftThen ⟨_, add_eq_ok hroom.edge_lt⟩ fun edge hedge ↦ ?_
  refine .liftThen ⟨_, hc⟩ fun content' hcontent ↦ ?_
  cases hc.symm.trans hcontent
  -- Nothing is scrolled, so the first row drawn is the first of all, right below the padding.
  have huntouched := hu.laid layout
  have hheight : max (box.laid layout).layout.lineHeight 1 = (box.laid layout).layout.lineHeight :=
    Nat.max_eq_left hshows.lineHeight_pos
  have hhidden : toCoordinate ((box.laid layout).view.scroll %
      ((box.laid layout).layout.lineHeight : Nat)) = 0 := by
    rw [← Int.natCast_emod]
    exact (congrArg (fun n : Nat ↦ toCoordinate n) huntouched.hidden_eq_zero).trans (by decide)
  have htop : IsCoordinate (box.laid layout).view.contentTop :=
    toCoordinate_of_lt (View.contentTop_lt hcontent) ▸ toCoordinate_mem _
  simp only [hheight, hhidden, toCoordinate_of_lt (View.contentTop_lt hcontent)]
  refine .liftThen ⟨_, htop.intSub_zero⟩ fun y hy ↦ ?_
  cases htop.intSub_zero.symm.trans hy
  refine .liftThen ((exists_visible_iff huntouched hcontent hcurrent).mpr hroom.bottom) fun p _ ↦ ?_
  have hfirst : (box.laid layout).view.firstVisibleRow (box.laid layout).layout.lineHeight = 0 :=
    huntouched.first_eq_zero
  rw [hfirst]
  refine .liftThen (exists_caretRect_start (toCoordinate_mem _) htop _) fun caret _ ↦ ?_
  exact .andThen ⟨(), rfl⟩ fun _ _ ↦ .done _

private theorem Made.hasRoom {pos : VisualPos} {f : Frame} {edge : Nat}
    (h : Made box caretOn f pos content edge) (hu : box.Untouched) :
    HasRoom box.view.gutter box.view.padding content box.layout.rowCount box.layout.lineHeight := by
  refine ⟨(add_eq_ok_iff.mp h.contentLeft).1, ?_⟩
  obtain ⟨y, hy, hrows⟩ := h.rows
  rw [hu.hidden_eq_zero, toCoordinate_of_lt (View.contentTop_lt h.contentHeight),
    toCoordinate_of_lt (show 0 < coordinateBound by decide), intSub_eq_ok_iff] at hy
  obtain ⟨-, rfl⟩ := hy
  rw [Int.natCast_zero, Int.sub_zero] at hrows
  exact (exists_visible_iff hu h.contentHeight h.current).mp ⟨_, hrows⟩

end Frame

namespace Box

variable {box : Box} {clipboard : Clipboard} {content : Nat} {delta : Int}

private theorem Current.result_wheel (h : box.Current) (delta : Int) :
    (box.wheel delta).result = do
      let notch ← mul pixelBound box.layout.lineHeight box.options.wheelLines
      let view ← box.view.scrollWheel delta notch box.layout.rowCount box.layout.lineHeight
      return ({ box with view := view }, view.scroll != box.view.scroll) := by
  rw [wheel, Run.result_bind, h.result_ensureLayout, Fault.ok_bind, Run.result_bind,
    Run.result_liftM]
  cases mul pixelBound box.layout.lineHeight box.options.wheelLines with
  | error e => rfl
  | ok notch =>
    rw [Fault.ok_bind, Fault.ok_bind, Run.result_bind, Run.result_liftM]
    rfl

private theorem Current.succeeds_dispatch_wheel_iff (h : box.Current) :
    Succeeds (box.dispatch clipboard (.wheel delta)) ↔ Succeeds (box.wheel delta) := by
  constructor
  · rintro ⟨p, hp⟩
    have hheard : ((Command.wheel delta).needsFocus && !box.focused) = false := rfl
    rw [dispatch, Run.result_ite, hheard, if_neg Bool.false_ne_true, Run.result_bind] at hp
    obtain ⟨q, hq, -⟩ := Fault.bind_eq_ok_iff.mp hp
    rw [execute, keepClipboard, Run.result_bind] at hq
    obtain ⟨turned, hturned, -⟩ := Fault.bind_eq_ok_iff.mp hq
    exact ⟨turned, hturned⟩
  · rintro ⟨⟨turned, dirty⟩, hturned⟩
    have hview := hturned
    rw [h.result_wheel] at hview
    obtain ⟨notch, -, hview⟩ := Fault.bind_eq_ok_iff.mp hview
    obtain ⟨view, -, hview⟩ := Fault.bind_eq_ok_iff.mp hview
    cases hview
    refine .choose (fun _ ↦ .report (.done _)) fun _ ↦ ?_
    refine (succeeds_keepClipboard ⟨_, hturned⟩).andThen fun q hq ↦ ?_
    rw [keepClipboard, Run.result_bind, hturned] at hq
    cases hq
    -- The text is as before, so the scroll is not brought down once more.
    have hunchanged : (box.editor.buffer.revision != box.editor.buffer.revision) = false :=
      bne_self_eq_false _
    dsimp only
    rw [hunchanged, if_neg Bool.false_ne_true]
    exact .andThen (.done _) fun _ _ ↦ .report (.done _)

/-- The wheel of a box that is not scrolled can be turned exactly if a notch of it and the height of
all rows are pixel lengths. -/
theorem Current.succeeds_wheel_iff (h : box.Current) (hscroll : box.view.scroll = 0)
    (hc : box.view.contentHeight = .ok content) (hrows : box.layout.rowCount < pixelBound)
    (hd : IsCoordinate delta) :
    Succeeds (box.wheel delta) ↔ box.layout.lineHeight * box.options.wheelLines < pixelBound ∧
      box.layout.rowCount * box.layout.lineHeight < pixelBound := by
  have htext : toPixel box.layout.rowCount * box.layout.lineHeight =
      box.layout.rowCount * box.layout.lineHeight := by rw [toPixel_of_lt hrows]
  constructor
  · rintro ⟨p, hp⟩
    rw [h.result_wheel] at hp
    obtain ⟨notch, hnotch, hp⟩ := Fault.bind_eq_ok_iff.mp hp
    obtain ⟨view, hview, -⟩ := Fault.bind_eq_ok_iff.mp hp
    obtain ⟨limit, hlimit, -⟩ := Fault.bind_eq_ok_iff.mp hview
    obtain ⟨height, hheight, -⟩ := Fault.bind_eq_ok_iff.mp hlimit
    exact ⟨(mul_eq_ok_iff.mp hnotch).1, htext ▸ (mul_eq_ok_iff.mp hheight).1⟩
  · rintro ⟨hnotch, hheight⟩
    have hlimit := View.maxScroll_eq hc hheight h.typeset.lineHeight_pos
    have hdistance : -(distanceBound : Int) ≤ box.view.scroll -
          delta * (box.layout.lineHeight * box.options.wheelLines : Nat) ∧
        box.view.scroll - delta * (box.layout.lineHeight * box.options.wheelLines : Nat) <
          distanceBound := by
      -- A turn has 32 bits with its sign and a notch 32, so the distance is within 64.
      generalize box.layout.lineHeight * box.options.wheelLines = notch at hnotch ⊢
      have hlow := Int.mul_le_mul_of_nonneg_right hd.1 (Int.natCast_nonneg notch)
      have hhigh := Int.mul_le_mul_of_nonneg_right (Int.le_of_lt hd.2) (Int.natCast_nonneg notch)
      simp only [coordinateBound, distanceBound, pixelBound, hscroll] at *
      omega
    obtain ⟨view, hview⟩ := View.exists_scrollWheel hlimit hdistance
    rw [Succeeds, h.result_wheel, mul_eq_ok hnotch, Fault.ok_bind]
    exact ⟨_, Fault.bind_eq_ok_iff.mpr ⟨view, hview, rfl⟩⟩

end Box

namespace Settings

/-- The settings hold what the widths of their fields admit. -/
structure InRange (s : Settings) : Prop where
  undoLimit_lt : s.editor.undoLimit < offsetBound
  multiClickMs_lt : s.editor.multiClickMs < offsetBound
  tabSpaces_lt : s.editor.tabSpaces < offsetBound
  padding_lt : s.layout.padding < pixelBound
  gutterWidth_lt : s.layout.gutterWidth < pixelBound
  lineSpacing_lt : s.layout.lineSpacing < pixelBound
  minContentWidth_lt : s.layout.minContentWidth < pixelBound
  blinkMs_lt : s.caret.blinkMs < offsetBound
  caretWidth_lt : s.caret.width < pixelBound
  wheelLines_lt : s.scroll.wheelLines < pixelBound

/-- Height of a row with the usual glyphs. -/
def rowHeight (s : Settings) : Nat := defaultGlyphHeight + s.layout.lineSpacing

/-- Width left for text in a box. -/
def contentWidth (s : Settings) (width : Nat) : Nat :=
  width - s.layout.gutterWidth - s.layout.padding * 2

/-- Height left for text in a box. -/
def contentHeight (s : Settings) (height : Nat) : Nat := height - s.layout.padding * 2

/-- A text of some rows can be shown in a box of a height, and its wheel be turned: the paddings,
the height of all rows and a notch are pixel lengths, and the frame has room. -/
structure Honoured (s : Settings) (height rows : Nat) : Prop where
  paddings_lt : s.layout.padding * 2 < pixelBound
  textHeight_lt : rows * s.rowHeight < pixelBound
  notch_lt : s.rowHeight * s.scroll.wheelLines < pixelBound
  room : Frame.HasRoom s.layout.gutterWidth s.layout.padding (s.contentHeight height) rows
    s.rowHeight

/-- Settings of moderate size can be honoured for a thousand characters, which have a row more at
most, in a box of any height. -/
theorem honoured_of_moderate {s : Settings} {height rows : Nat} (hrows : rows ≤ 1001)
    (hpadding : s.layout.padding < 2 ^ 30) (hgutter : s.layout.gutterWidth < 2 ^ 31)
    (hheight : s.rowHeight ≤ 2 ^ 20) (hwheel : s.scroll.wheelLines < 2 ^ 12) :
    s.Honoured height rows := by
  have htext : rows * s.rowHeight ≤ 1001 * 2 ^ 20 := Nat.mul_le_mul hrows hheight
  have hnotch : s.rowHeight * s.scroll.wheelLines ≤ 2 ^ 20 * (2 ^ 12 - 1) :=
    Nat.mul_le_mul hheight (Nat.le_sub_one_of_lt hwheel)
  have hdrawn : min (s.contentHeight height / s.rowHeight + 3) rows * s.rowHeight ≤
      rows * s.rowHeight := Nat.mul_le_mul_right _ (Nat.min_le_right _ _)
  have hlow : s.rowHeight < coordinateBound := Nat.lt_of_le_of_lt hheight (by decide)
  have hpixel : pixelBound = 2 ^ 32 := rfl
  have hcoordinate : coordinateBound = 2 ^ 31 := rfl
  refine ⟨by omega, by omega, by omega, by omega, ?_⟩
  rw [toCoordinate_of_lt hlow, ← Int.natCast_mul, IsCoordinate]
  omega

end Settings

namespace Session

variable {s : Settings} {text : List Char} {width height rowHeight : Nat}
  {clipboard : Clipboard} {rows : List Row} {caretOn : Bool} {delta : Int}

/-- Session on a new box of a size with settings and ten pixels for every character. -/
def opened (s : Settings) (text : List Char) (width height : Nat) (clipboard : Clipboard) :
    Session :=
  ⟨(Box.ofSettings (.ofText text) s width height).setMeasure (some (.perChar 10)), clipboard⟩

/-- A frame is made, and the wheel is turned after it. -/
def ShowsAndScrolls (t : Session) (caretOn : Bool) (delta : Int) : Prop :=
  ∃ box f u reply, (Frame.build t.box caretOn).result = .ok (box, f) ∧
    Dispatched ⟨box, t.clipboard⟩ (.wheel delta) u reply

private theorem sound_opened : (opened s text width height clipboard).box.Sound :=
  LayoutCache.sound_invalidate _

private theorem untouched_opened : (opened s text width height clipboard).box.Untouched :=
  ⟨rfl, rfl, rfl⟩

private theorem contentHeight_opened (hp : s.layout.padding * 2 < pixelBound) :
    (opened s text width height clipboard).box.view.contentHeight =
      .ok (s.contentHeight height) :=
  View.contentHeight_eq hp

/-- A new box can be laid out exactly if its paddings and the height of a row are pixel lengths. -/
theorem typeset_opened_iff :
    (opened s text width height clipboard).box.Typeset rows rowHeight ↔
      s.layout.padding * 2 < pixelBound ∧ s.rowHeight < pixelBound ∧ s.rowHeight = rowHeight ∧
      wrapBuffer (.ofText text) (s.contentWidth width) (some (.perChar 10))
        (max s.layout.minContentWidth 1) = .ok rows := by
  have hpositive : max s.rowHeight 1 = s.rowHeight := by
    rw [Settings.rowHeight, defaultGlyphHeight]
    omega
  constructor
  · rintro ⟨⟨content, hcontent, hrows⟩, hheight⟩
    obtain ⟨paddings, hpaddings, hcontent⟩ := Fault.bind_eq_ok_iff.mp hcontent
    obtain ⟨hp, rfl⟩ := mul_eq_ok_iff.mp hpaddings
    cases hcontent
    obtain ⟨sum, hsum, hheight⟩ := Fault.bind_eq_ok_iff.mp hheight
    obtain ⟨hlt, rfl⟩ := add_eq_ok_iff.mp hsum
    cases hheight
    exact ⟨hp, hlt, hpositive.symm, hrows⟩
  · rintro ⟨hp, hlt, rfl, hrows⟩
    refine ⟨⟨s.contentWidth width, ?_, hrows⟩, ?_⟩
    · change (mul pixelBound s.layout.padding 2 >>= fun p ↦
        .ok (width - s.layout.gutterWidth - p)) = _
      rw [mul_eq_ok hp]
      rfl
    · change (add pixelBound defaultGlyphHeight s.layout.lineSpacing >>= fun sum ↦
        .ok (max sum 1)) = _
      rw [add_eq_ok hlt, Fault.ok_bind]
      exact congrArg Except.ok hpositive

section Rows

variable (hrows : rows.length < pixelBound) (hd : IsCoordinate delta)
  (hwrap : wrapBuffer (.ofText text) (s.contentWidth width) (some (.perChar 10))
    (max s.layout.minContentWidth 1) = .ok rows)
include hrows hd hwrap

private theorem honoured_of_showsAndScrolls
    (h : (opened s text width height clipboard).ShowsAndScrolls caretOn delta) :
    s.Honoured height rows.length := by
  obtain ⟨box, f, u, reply, hbuild, hdispatched⟩ := h
  obtain ⟨layout, pos, content, edge, rfl, hmade⟩ := Frame.exists_made sound_opened hbuild
  have hcurrent := hmade.current
  obtain ⟨hp, -, hheight, hlaid⟩ := typeset_opened_iff.mp hcurrent.typeset_of_laid
  obtain rfl : layout.rows = rows := Except.ok.inj (hlaid.symm.trans hwrap)
  have hcontent : (opened s text width height clipboard).box.view.contentHeight = _ :=
    contentHeight_opened hp
  obtain rfl := Except.ok.inj (hcontent.symm.trans hmade.contentHeight)
  have hroom := hmade.hasRoom (untouched_opened.laid layout)
  obtain ⟨hnotch, htext⟩ := (hcurrent.succeeds_wheel_iff rfl hmade.contentHeight hrows hd).mp
    (hcurrent.succeeds_dispatch_wheel_iff.mp ⟨_, hdispatched⟩)
  refine ⟨hp, ?_, ?_, ?_⟩
  · rw [hheight]
    exact htext
  · rw [hheight]
    exact hnotch
  · rw [hheight]
    exact hroom

private theorem showsAndScrolls_of_honoured (h : s.Honoured height rows.length) :
    (opened s text width height clipboard).ShowsAndScrolls caretOn delta := by
  obtain ⟨hp, htext, hnotch, hroom⟩ := h
  have hpos : 0 < rows.length := by
    have hcount := (sum_length_wrapBuffer hwrap).2
    rw [Buffer.lineCount_eq] at hcount
    exact Nat.lt_of_lt_of_le (Nat.succ_pos _) hcount
  have hheight : s.rowHeight < pixelBound :=
    Nat.lt_of_le_of_lt (Nat.le_mul_of_pos_left _ hpos) htext
  have htypeset : (opened s text width height clipboard).box.Typeset rows s.rowHeight :=
    typeset_opened_iff.mpr ⟨hp, hheight, rfl, hwrap⟩
  obtain ⟨⟨box, f⟩, hbuild⟩ :
      Succeeds (Frame.build (opened s text width height clipboard).box caretOn) :=
    Frame.succeeds_build sound_opened untouched_opened rfl htypeset (contentHeight_opened hp) hroom
  obtain ⟨layout, pos, content, edge, rfl, hmade⟩ := Frame.exists_made sound_opened hbuild
  have hcurrent := hmade.current
  obtain ⟨rfl, hl⟩ := htypeset.unique hcurrent.typeset_of_laid
  have hwheel := (hcurrent.succeeds_wheel_iff rfl hmade.contentHeight hrows hd).mpr
    ⟨hl ▸ hnotch, hl ▸ htext⟩
  obtain ⟨⟨turned, clipboard', reply⟩, hdispatched⟩ :
      Succeeds (Box.dispatch _ clipboard (.wheel delta)) :=
    hcurrent.succeeds_dispatch_wheel_iff.mpr hwheel
  exact ⟨_, f, ⟨turned, clipboard'⟩, reply, hbuild, hdispatched⟩

end Rows

private theorem exists_rows (s : Settings) (width : Nat) (htext : text.length + 1 < pixelBound) :
    ∃ rows, wrapBuffer (.ofText text) (s.contentWidth width) (some (.perChar 10))
        (max s.layout.minContentWidth 1) = .ok rows ∧ rows.length ≤ text.length + 1 := by
  have htotal : (Measure.perChar 10).Total := Measure.total_ofWidth _
  have hlines : 0 + (Buffer.ofText text).lineCount ≤ (Buffer.ofText text).lineCount :=
    Nat.le_of_eq (Nat.zero_add _)
  have hcount : (Buffer.ofText text).lineCount < offsetBound :=
    Nat.lt_of_le_of_lt (Buffer.lineCount_le _) (Nat.lt_trans htext (by decide))
  obtain ⟨rows, hrows⟩ := exists_wrapLines htotal
    (max (s.contentWidth width) (max s.layout.minContentWidth 1)) hlines hcount
  have hwrap : wrapBuffer (.ofText text) (s.contentWidth width) (some (.perChar 10))
      (max s.layout.minContentWidth 1) = .ok rows := hrows
  exact ⟨rows, hwrap, length_le_of_wrapBuffer hwrap⟩

/-- Up to a thousand characters are shown in a box of any size with settings of moderate size, and
scrolled. -/
theorem moderate_settings_answer (hpadding : s.layout.padding < 2 ^ 30)
    (hgutter : s.layout.gutterWidth < 2 ^ 31) (hheight : s.rowHeight ≤ 2 ^ 20)
    (hwheel : s.scroll.wheelLines < 2 ^ 12) (htext : text.length ≤ 1000)
    (hd : IsCoordinate delta) :
    (opened s text width height clipboard).ShowsAndScrolls caretOn delta := by
  have hlength : text.length + 1 < pixelBound := by
    simp only [pixelBound]
    omega
  obtain ⟨rows, hwrap, hle⟩ := exists_rows s width hlength
  refine showsAndScrolls_of_honoured (Nat.lt_of_le_of_lt hle hlength) hd hwrap ?_
  exact Settings.honoured_of_moderate (by omega) hpadding hgutter hheight hwheel

/-- A host opens any text with normalized settings in a box of any size, with ten pixels for every
character, asks for a frame and turns the wheel. Both are done exactly if the settings can be
honoured for the rows of the text: normalization alone does not see to it. -/
theorem normalized_settings_honoured_iff (s : Settings) (width height : Nat)
    (clipboard : Clipboard) (caretOn : Bool) (htext : text.length + 1 < pixelBound)
    (hd : IsCoordinate delta) :
    ∃ rows, wrapBuffer (.ofText text) (s.normalize.contentWidth width) (some (.perChar 10))
        s.normalize.layout.minContentWidth = .ok rows ∧
      ((opened s.normalize text width height clipboard).ShowsAndScrolls caretOn delta ↔
        s.normalize.Honoured height rows.length) := by
  have hmin : max s.normalize.layout.minContentWidth 1 = s.normalize.layout.minContentWidth :=
    Nat.max_eq_left (Nat.le_max_right _ _)
  obtain ⟨rows, hwrap, hle⟩ := exists_rows s.normalize width htext
  have hcount := Nat.lt_of_le_of_lt hle htext
  refine ⟨rows, hmin ▸ hwrap, honoured_of_showsAndScrolls hcount hd hwrap,
    showsAndScrolls_of_honoured hcount hd hwrap⟩

/-- Of four rows and one notch of the wheel: the usual settings are honoured, and the largest number
of rows for a notch is not. -/
theorem normalized_settings_honoured_iff_wheel :
    (opened (Settings.normalize {}) "a\nb\nc\nd".toList 120 60 []).ShowsAndScrolls true (-1) ∧
      ¬ (opened (Settings.normalize { scroll := ⟨0xFFFF_FFFF⟩ }) "a\nb\nc\nd".toList 120 60
          []).ShowsAndScrolls true (-1) := by
  have htext : "a\nb\nc\nd".toList.length + 1 < pixelBound := by decide
  have hd : IsCoordinate (-1) := by decide
  constructor
  · obtain ⟨rows, hrows, hiff⟩ := normalized_settings_honoured_iff {} 120 60 [] true htext hd
    have hle := length_le_of_wrapBuffer hrows
    exact hiff.mpr (Settings.honoured_of_moderate (Nat.le_trans hle (by decide)) (by decide)
      (by decide) (by decide) (by decide))
  · obtain ⟨rows, -, hiff⟩ :=
      normalized_settings_honoured_iff { scroll := ⟨0xFFFF_FFFF⟩ } 120 60 [] true htext hd
    exact fun hshows ↦ absurd (hiff.mp hshows).notch_lt (by decide)

/-- Not all normalized settings are honoured: with the largest number of rows for a notch the wheel
cannot be turned. -/
theorem not_forall_normalized_settings_honoured :
    ¬ ∀ (s : Settings) text width height clipboard caretOn delta, s.InRange →
      text.length ≤ 1000 → width < coordinateBound → height < coordinateBound →
      IsCoordinate delta →
      (opened s.normalize text width height clipboard).ShowsAndScrolls caretOn delta := by
  intro hall
  have hs : Settings.InRange { scroll := ⟨0xFFFF_FFFF⟩ } := by
    constructor <;> decide
  obtain ⟨box, f, u, reply, hbuild, hdispatched⟩ := hall { scroll := ⟨0xFFFF_FFFF⟩ }
    "a\nb\nc\nd".toList 120 60 [] true (-1) hs (by decide) (by decide) (by decide) (by decide)
  have hfails : (Frame.build (opened (Settings.normalize { scroll := ⟨0xFFFF_FFFF⟩ })
      "a\nb\nc\nd".toList 120 60 []).box true).result.toOption.all (fun p ↦
        (p.1.dispatch [] (.wheel (-1))).result.toOption.isNone) = true := by
    decide +kernel
  rw [hbuild] at hfails
  have hanswers : (box.dispatch [] (.wheel (-1))).result = .ok (u.box, u.clipboard, reply) :=
    hdispatched
  simp only [Except.toOption, Option.all_some, hanswers, Option.isNone_some] at hfails
  cases hfails

end Session

end EditBox
