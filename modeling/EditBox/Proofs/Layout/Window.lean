import EditBox.View

/-!
# The window of a view

A view shows the `contentHeight` pixels of the text from its scroll on. Scrolling to a row is the
function `scrollTo` of the scroll: it brings the whole row into this window, if the window is as
high as a row, and never goes past the largest useful scroll; bringing the scroll back to that does
not take the row away again, and scrolling to the row again changes nothing.
-/

namespace EditBox.View

open Bounded

variable {v v' : View} {content rows lineHeight y : Nat}

/-- A row with its top at `y` lies whole within the `content` pixels that the view shows. -/
def Covers (v : View) (content y lineHeight : Nat) : Prop :=
  v.scroll ≤ y ∧ y + lineHeight ≤ v.scroll + content

/-- A view that has a content width has a content height. -/
theorem exists_contentHeight {width : Nat} (hw : v.contentWidth = .ok width) :
    ∃ content, v.contentHeight = .ok content := by
  obtain ⟨paddings, hp, -⟩ := Fault.bind_eq_ok_iff.mp hw
  rw [contentHeight, hp]
  exact ⟨_, rfl⟩

/-- The content height is what two paddings leave of the height. -/
theorem contentHeight_eq (hp : v.padding * 2 < pixelBound) :
    v.contentHeight = .ok (v.height - v.padding * 2) := by
  rw [contentHeight, paddings, mul_eq_ok hp]
  rfl

/-- The text of a view that has a content height begins within screen coordinates. -/
theorem contentTop_lt (hc : v.contentHeight = .ok content) : v.contentTop < coordinateBound := by
  obtain ⟨paddings, hp, -⟩ := Fault.bind_eq_ok_iff.mp hc
  have hlt := (mul_eq_ok_iff.mp hp).1
  simp only [contentTop, coordinateBound, pixelBound] at hlt ⊢
  omega

/-- The largest useful scroll is the height that the view cannot show. -/
theorem maxScroll_eq (hc : v.contentHeight = .ok content) (hb : rows * lineHeight < pixelBound)
    (hl : 1 ≤ lineHeight) : v.maxScroll rows lineHeight = .ok (rows * lineHeight - content) := by
  have hrows : rows < pixelBound := Nat.lt_of_le_of_lt (Nat.le_mul_of_pos_right _ hl) hb
  rw [maxScroll, toPixel_of_lt hrows, mul_eq_ok hb, Fault.ok_bind, hc]
  rfl

/-- Scrolling to a row changes nothing but the scroll. -/
theorem exists_scroll_of_ensureVisible (h : v.ensureVisible y lineHeight rows = .ok v') :
    ∃ scroll, v' = { v with scroll := scroll } := by
  obtain ⟨content, -, h⟩ := Fault.bind_eq_ok_iff.mp h
  split at h
  · cases h
    exact ⟨y, rfl⟩
  · split at h
    · obtain ⟨limit, -, h⟩ := Fault.bind_eq_ok_iff.mp h
      obtain ⟨target, -, h⟩ := Fault.bind_eq_ok_iff.mp h
      cases h
      exact ⟨target.toNat, rfl⟩
    · cases h
      exact ⟨v.scroll, rfl⟩

/-- A view that has a content width can scroll to any height as long as the height of all rows is in
bounds. -/
theorem exists_ensureVisible {width : Nat} (hw : v.contentWidth = .ok width)
    (hb : rows * lineHeight < pixelBound) (hl : 1 ≤ lineHeight) (y : Nat) :
    ∃ v', v.ensureVisible y lineHeight rows = .ok v' := by
  obtain ⟨content, hc⟩ := exists_contentHeight hw
  rw [ensureVisible, hc, Fault.ok_bind]
  split
  · exact ⟨_, rfl⟩
  · split
    · rw [maxScroll_eq hc hb hl, Fault.ok_bind, clamp, if_pos (Int.natCast_nonneg _)]
      exact ⟨_, rfl⟩
    · exact ⟨_, rfl⟩

/-- The scroll that shows a row with its top at `y` in a window of `content` pixels: as it was if
the row is whole in the window, else with the row at the edge that it was beyond. -/
def scrollTo (scroll content y lineHeight : Nat) : Nat :=
  if y < scroll then y
  else if scroll + content < y + lineHeight then y + lineHeight - content
  else scroll

section ScrollTo

variable {scroll : Nat}

private theorem scrollTo_of_lt (h : y < scroll) : scrollTo scroll content y lineHeight = y :=
  if_pos h

private theorem scrollTo_of_lt_add (htop : scroll ≤ y)
    (hbottom : scroll + content < y + lineHeight) :
    scrollTo scroll content y lineHeight = y + lineHeight - content := by
  rw [scrollTo, if_neg (Nat.not_lt_of_le htop), if_pos hbottom]

/-- A row that is whole in the window stays where it is. -/
theorem scrollTo_eq_self (htop : scroll ≤ y) (hbottom : y + lineHeight ≤ scroll + content) :
    scrollTo scroll content y lineHeight = scroll := by
  rw [scrollTo, if_neg (Nat.not_lt_of_le htop), if_neg (Nat.not_lt_of_le hbottom)]

/-- Afterwards the row is whole in the window if the window is as high as a row. -/
theorem scrollTo_covers (scroll y : Nat) (h : lineHeight ≤ content) :
    scrollTo scroll content y lineHeight ≤ y ∧
      y + lineHeight ≤ scrollTo scroll content y lineHeight + content := by
  unfold scrollTo
  split
  · omega
  · split <;> omega

/-- The scroll goes no further than the largest useful one. -/
theorem scrollTo_le {text : Nat} (hy : y + lineHeight ≤ text) (h : scroll ≤ text - content) :
    scrollTo scroll content y lineHeight ≤ text - content := by
  unfold scrollTo
  split
  · omega
  · split <;> omega

/-- Scrolling to the same row again changes nothing if the window is as high as a row. -/
theorem scrollTo_scrollTo (h : lineHeight ≤ content) :
    scrollTo (scrollTo scroll content y lineHeight) content y lineHeight =
      scrollTo scroll content y lineHeight := by
  obtain ⟨htop, hbottom⟩ := scrollTo_covers scroll y h
  exact scrollTo_eq_self htop hbottom

/-- In a lower window the row is always beyond an edge: scrolling to it brings it to its top and to
its bottom in turn. -/
theorem scrollTo_swings (scroll y : Nat) (h : content < lineHeight) :
    let next := scrollTo scroll content y lineHeight
    scrollTo next content y lineHeight ≠ next ∧
      scrollTo (scrollTo next content y lineHeight) content y lineHeight = next := by
  intro next
  rcases Nat.lt_or_ge y scroll with hlt | hge
  · have hnext : next = y := scrollTo_of_lt hlt
    have hdown : scrollTo y content y lineHeight = y + lineHeight - content :=
      scrollTo_of_lt_add (Nat.le_refl y) (by omega)
    rw [hnext, hdown]
    exact ⟨by omega, scrollTo_of_lt (by omega)⟩
  · have hnext : next = y + lineHeight - content := scrollTo_of_lt_add hge (by omega)
    have hup : scrollTo (y + lineHeight - content) content y lineHeight = y :=
      scrollTo_of_lt (by omega)
    rw [hnext, hup]
    exact ⟨by omega, scrollTo_of_lt_add (Nat.le_refl y) (by omega)⟩

end ScrollTo

section Reveal

variable (hc : v.contentHeight = .ok content) (hb : rows * lineHeight < pixelBound)
  (hl : 1 ≤ lineHeight) (hy : y + lineHeight ≤ rows * lineHeight)
include hc hb hl hy

/-- Scrolling to a row of the text changes the scroll and nothing else. -/
theorem ensureVisible_eq (scroll : Nat) :
    ensureVisible { v with scroll := scroll } y lineHeight rows =
      .ok { v with scroll := scrollTo scroll content y lineHeight } := by
  have hc' : contentHeight { v with scroll := scroll } = .ok content := hc
  rw [ensureVisible, hc', Fault.ok_bind, scrollTo]
  dsimp only
  split
  · rfl
  · split
    · next hup hdown =>
      -- The row ends within the text, so the target is not beyond the largest useful scroll.
      have htarget : clamp 0 ((rows * lineHeight - content : Nat) : Int)
          ((y : Int) - content + lineHeight) = .ok ((y + lineHeight - content : Nat) : Int) :=
        clamp_eq_ok_iff.mpr ⟨Int.natCast_nonneg _, by omega⟩
      rw [maxScroll_eq hc' hb hl, Fault.ok_bind, htarget, if_pos (by omega)]
      rfl
    · rw [if_neg (by omega)]
      rfl

/-- Scrolling to a row shows it whole if the view is as high as a row, and goes no further than the
largest useful scroll. -/
theorem of_ensureVisible (h : v.ensureVisible y lineHeight rows = .ok v') :
    v' = { v with scroll := v'.scroll } ∧
      (lineHeight ≤ content → v'.Covers content y lineHeight) ∧
      (v.scroll ≤ rows * lineHeight - content → v'.scroll ≤ rows * lineHeight - content) := by
  rw [ensureVisible_eq hc hb hl hy v.scroll] at h
  cases h
  exact ⟨rfl, scrollTo_covers v.scroll y, scrollTo_le hy⟩

/-- Scrolling to the same row again changes nothing if the view is as high as a row. -/
theorem ensureVisible_again (hfits : lineHeight ≤ content)
    (h : v.ensureVisible y lineHeight rows = .ok v') :
    v'.ensureVisible y lineHeight rows = .ok v' := by
  rw [ensureVisible_eq hc hb hl hy v.scroll] at h
  cases h
  rw [ensureVisible_eq hc hb hl hy, scrollTo_scrollTo hfits]

/-- In a view that is lower than a row scrolling to the same row again always changes the scroll,
and the time after that changes it back. -/
theorem exists_ensureVisible_back (hlow : content < lineHeight)
    (h : v.ensureVisible y lineHeight rows = .ok v') :
    ∃ v'', v'.ensureVisible y lineHeight rows = .ok v'' ∧ v''.scroll ≠ v'.scroll ∧
      v''.ensureVisible y lineHeight rows = .ok v' := by
  rw [ensureVisible_eq hc hb hl hy v.scroll] at h
  cases h
  obtain ⟨hne, hback⟩ := scrollTo_swings v.scroll y hlow
  refine ⟨_, ensureVisible_eq hc hb hl hy _, hne, ?_⟩
  rw [ensureVisible_eq hc hb hl hy, hback]

end Reveal

/-- A row of the text that the view shows is still shown after the scroll was brought back to the
largest useful one. -/
theorem Covers.clamp {text : Nat} (h : v.Covers content y lineHeight) (hy : y + lineHeight ≤ text) :
    Covers { v with scroll := min v.scroll (text - content) } content y lineHeight := by
  obtain ⟨htop, hbottom⟩ := h
  refine ⟨Nat.le_trans (Nat.min_le_left _ _) htop, ?_⟩
  dsimp only
  omega

/-- Turning the wheel brings the scroll within what the rows allow. -/
theorem of_scrollWheel {delta : Int} {notch : Nat}
    (h : v.scrollWheel delta notch rows lineHeight = .ok v') :
    ∃ limit, v.maxScroll rows lineHeight = .ok limit ∧ v' = { v with scroll := v'.scroll } ∧
      v'.scroll ≤ limit := by
  obtain ⟨limit, hlimit, h⟩ := Fault.bind_eq_ok_iff.mp h
  obtain ⟨next, -, h⟩ := Fault.bind_eq_ok_iff.mp h
  obtain ⟨target, htarget, h⟩ := Fault.bind_eq_ok_iff.mp h
  cases h
  have hle := (clamp_mem htarget).2
  refine ⟨limit, hlimit, rfl, ?_⟩
  dsimp only
  omega

/-- A page down brings the scroll within what the rows allow. -/
theorem of_pageDown (h : v.pageDown rows lineHeight = .ok v') :
    ∃ limit, v.maxScroll rows lineHeight = .ok limit ∧ v' = { v with scroll := v'.scroll } ∧
      v'.scroll ≤ limit := by
  obtain ⟨limit, hlimit, h⟩ := Fault.bind_eq_ok_iff.mp h
  obtain ⟨content, -, h⟩ := Fault.bind_eq_ok_iff.mp h
  obtain ⟨next, -, h⟩ := Fault.bind_eq_ok_iff.mp h
  cases h
  exact ⟨limit, hlimit, rfl, Nat.min_le_right _ _⟩

/-- Turning the wheel has a result if the rows are in bounds and the distance within 64 bits. -/
theorem exists_scrollWheel {delta : Int} {notch limit : Nat}
    (hlimit : v.maxScroll rows lineHeight = .ok limit)
    (hd : -(distanceBound : Int) ≤ v.scroll - delta * notch ∧
      v.scroll - delta * notch < distanceBound) :
    ∃ v', v.scrollWheel delta notch rows lineHeight = .ok v' := by
  rw [scrollWheel, hlimit, Fault.ok_bind, intSub, if_pos hd, Fault.ok_bind, clamp,
    if_pos (Int.natCast_nonneg _)]
  exact ⟨_, rfl⟩

/-- The scroll one content height further down or up, where `limit` is the largest useful one. -/
def pageScroll (scroll content limit : Nat) (down : Bool) : Nat :=
  if down then min (scroll + content) limit else scroll - content

/-- A page down changes the scroll and nothing else, if the rows and the end of the view are in
bounds. -/
theorem pageDown_eq {limit : Nat} (hlimit : v.maxScroll rows lineHeight = .ok limit)
    (hc : v.contentHeight = .ok content) (hb : v.scroll + content < pixelBound) :
    v.pageDown rows lineHeight =
      .ok { v with scroll := pageScroll v.scroll content limit true } := by
  rw [pageDown, hlimit, Fault.ok_bind, hc, Fault.ok_bind, add_eq_ok hb]
  rfl

/-- A page up changes the scroll and nothing else. -/
theorem pageUp_eq (hc : v.contentHeight = .ok content) (limit : Nat) :
    v.pageUp = .ok { v with scroll := pageScroll v.scroll content limit false } := by
  rw [pageUp, hc]
  rfl

/-- The row `count` rows below or above another one, or the row at that end. -/
def pageRow (rows row count : Nat) (down : Bool) : Nat :=
  if down then min (row + count) (rows - 1) else row - count

/-- The row aimed at is one of the rows. -/
theorem pageRow_lt {row : Nat} (h : row < rows) (count : Nat) (down : Bool) :
    pageRow rows row count down < rows := by
  unfold pageRow
  split <;> omega

/-- If a view shows a whole number of rows, and one row among them, then one page on it shows the
row as many rows on. Where the scroll stops short at an end of the text, so does the row. -/
theorem Covers.page {row count : Nat} (hcount : 0 < count) (hrow : row < rows)
    (hscroll : v.scroll ≤ rows * lineHeight - count * lineHeight)
    (h : v.Covers (count * lineHeight) (row * lineHeight) lineHeight) (down : Bool) :
    Covers
      { v with
        scroll := pageScroll v.scroll (count * lineHeight)
          (rows * lineHeight - count * lineHeight) down }
      (count * lineHeight) (pageRow rows row count down * lineHeight) lineHeight := by
  obtain ⟨htop, hbottom⟩ := h
  have hpage : 1 * lineHeight ≤ count * lineHeight := Nat.mul_le_mul_right _ hcount
  have hnext : (row + 1) * lineHeight ≤ rows * lineHeight := Nat.mul_le_mul_right _ hrow
  rw [Nat.add_mul] at hnext
  cases down with
  | true =>
    simp only [Covers, pageScroll, pageRow, if_true]
    rcases Nat.lt_or_ge (row + count) rows with hlt | hge
    · rw [Nat.min_eq_left (by omega : row + count ≤ rows - 1), Nat.add_mul]
      have hend : (row + count + 1) * lineHeight ≤ rows * lineHeight := Nat.mul_le_mul_right _ hlt
      rw [Nat.add_mul, Nat.add_mul] at hend
      omega
    · rw [Nat.min_eq_right (by omega : rows - 1 ≤ row + count), Nat.sub_mul]
      have hend : rows * lineHeight ≤ (row + count) * lineHeight := Nat.mul_le_mul_right _ hge
      rw [Nat.add_mul] at hend
      omega
  | false =>
    simp only [Covers, pageScroll, pageRow, Bool.false_eq_true, if_false, Nat.sub_mul]
    omega

section Points

variable {left : Nat} {px py : Int} {rounding : RowRounding}

/-- A point at the height of a row has that row, and the distance from the text that it is away. -/
theorem pointToRowX_eq {row : Nat} (hl : v.contentLeft = .ok left) (hh : 1 ≤ lineHeight)
    (hrow : row < rows) (hrows : rows ≤ distanceBound)
    (htop : (row * lineHeight : Nat) ≤ py - v.contentTop + v.scroll)
    (hbottom : py - v.contentTop + v.scroll < ((row + 1) * lineHeight : Nat)) :
    v.pointToRowX px py lineHeight rows .truncate = do
      let x ← intSub coordinateBound px (toCoordinate left)
      return (row, x) := by
  have hheight : max (lineHeight : Int) 1 = lineHeight := by omega
  have hquotient : (py - v.contentTop + v.scroll) / (lineHeight : Int) = row := by
    have hpos : (0 : Int) < lineHeight := by omega
    rw [Int.ediv_eq_iff_of_pos hpos]
    rw [Nat.succ_mul] at hbottom
    push_cast at htop hbottom
    exact ⟨htop, hbottom⟩
  have hlast : toDistance ((rows - 1 : Nat) : Int) = ((rows - 1 : Nat) : Int) :=
    toDistance_of_lt (by omega)
  have hclamp : clamp 0 ((rows - 1 : Nat) : Int) row = .ok (row : Int) :=
    clamp_eq_ok_iff.mpr ⟨Int.natCast_nonneg _, by omega⟩
  rw [pointToRowX, hl, Fault.ok_bind]
  simp only [hheight, hquotient, hlast, hclamp, Fault.ok_bind, Int.toNat_natCast]

variable (hl : v.contentLeft = .ok left) (hb : left < coordinateBound)
include hl hb

/-- A point has a row and a distance if its distance from the text is a coordinate and the rows can
be counted. -/
theorem exists_pointToRowX (hrows : rows ≤ distanceBound)
    (hx : -(coordinateBound : Int) ≤ px - left ∧ px - left < coordinateBound) :
    ∃ p, v.pointToRowX px py lineHeight rows rounding = .ok p := by
  have hlt : rows - 1 < distanceBound := by
    have hpos : 0 < distanceBound := by decide
    omega
  rw [pointToRowX, hl, Fault.ok_bind, toCoordinate_of_lt hb, intSub, if_pos hx, Fault.ok_bind]
  simp only [toDistance_of_lt hlt, clamp, if_pos (Int.natCast_nonneg (rows - 1)), Fault.ok_bind]
  exact ⟨_, rfl⟩

/-- A point too far to the left of the text has no distance. -/
theorem pointToRowX_eq_error (hx : px - left < -(coordinateBound : Int)) :
    v.pointToRowX px py lineHeight rows rounding = .error .subOverflow := by
  have hnot : ¬ (-(coordinateBound : Int) ≤ px - left ∧ px - left < coordinateBound) := by
    omega
  rw [pointToRowX, hl, Fault.ok_bind, toCoordinate_of_lt hb, intSub, if_neg hnot]
  rfl

end Points

/-- A page up scrolls towards the start. -/
theorem of_pageUp (h : v.pageUp = .ok v') :
    v' = { v with scroll := v'.scroll } ∧ v'.scroll ≤ v.scroll := by
  obtain ⟨content, -, h⟩ := Fault.bind_eq_ok_iff.mp h
  cases h
  exact ⟨rfl, Nat.sub_le _ _⟩

end EditBox.View
