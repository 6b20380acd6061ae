import EditBox.Proofs.Layout.Adjacent

/-!
# Rows in the order of the text

The rows of a layout come in the order of the offsets they hold, so what is searched among them is
found where it comes first: an offset on the first row that touches its column, a pixel at the first
column that reaches it. Later offsets are drawn on no earlier row, and later rows and pixels stand
for no earlier offset.
-/

namespace EditBox

open EditBox.Text

namespace Layout

/-- A column of a line is on the row, or at its end. -/
def Row.Touches (r : Row) (line col : Nat) : Prop := r.line = line ∧ r.start ≤ col ∧ col ≤ r.stop

/-- The row with a number is the first of the rows with a property. -/
structure LayoutCache.FirstRow (c : LayoutCache) (p : Row → Prop) (row : Nat) (r : Row) :
    Prop where
  row_eq : c.row? row = some r
  holds : p r
  least : ∀ row' < row, ∀ r', c.row? row' = some r' → ¬ p r'

variable {c : LayoutCache} {b : Buffer} {m : Measure} {measure : Option Measure}
  {options : LayoutOptions} {width line col col' offset offset' row row' : Nat}
  {text : List Char} {r r' : Row}

private theorem Row.StartsAt.eq (h : r.StartsAt b offset) (h' : r.StartsAt b offset') :
    offset = offset' := by
  obtain ⟨start, hstart, rfl⟩ := h
  obtain ⟨start', hstart', rfl⟩ := h'
  cases hstart.symm.trans hstart'
  rfl

/-- A column of a row is that many characters after the offset where the row begins. -/
theorem OnRow.exists_startsAt (h : OnRow c b offset row r col) :
    ∃ start, r.StartsAt b start ∧ offset = start + col := by
  obtain ⟨start, hstart, rfl⟩ := h.exists_start
  exact ⟨start + r.start, ⟨start, hstart, rfl⟩, rfl⟩

/-- A column that is the first to reach some distance is not after one that reaches a longer
distance. -/
theorem Reaches.le_of_le {x x' : Int} {taken : List Char} (h : Reaches m x taken text col)
    (h' : Reaches m x' taken text col') (hx : x ≤ x') : col ≤ col' := by
  apply Nat.le_of_not_lt
  intro hlt
  have hle := h.le_length
  obtain ⟨w, hw, hnarrow⟩ := h.lt_of_lt col' hlt
  obtain ⟨w', hw', hwide⟩ := h'.le_of_lt_length (by omega)
  obtain rfl : w = w' := Except.ok.inj (hw.symm.trans hw')
  omega

/-- An offset past the end of the text has the line and column of the end. -/
theorem offsetToLineCol_min (b : Buffer) (offset : Nat) :
    offsetToLineCol b (min offset b.length) = offsetToLineCol b offset := by
  rw [offsetToLineCol, offsetToLineCol, Nat.min_assoc, Nat.min_self]

private theorem offsetToVisual_min (c : LayoutCache) (b : Buffer) (m : Measure) (offset : Nat) :
    offsetToVisual c b m (min offset b.length) = offsetToVisual c b m offset := by
  rw [offsetToVisual, offsetToVisual, offsetToLineCol_min, Nat.min_assoc, Nat.min_self]

section Shows

variable (h : c.Shows b width measure options)
include h

/-- Every row of a layout begins at an offset of the text. -/
theorem LayoutCache.Shows.exists_startsAt (hr : c.row? row = some r) :
    ∃ start, r.StartsAt b start ∧ start + r.length ≤ b.length := by
  obtain ⟨offset, hon, hle⟩ := exists_onRow_of_row h hr (Nat.le_refl r.length)
  obtain ⟨start, hstart, rfl⟩ := hon.exists_startsAt
  exact ⟨start, hstart, hle⟩

private theorem LayoutCache.Shows.add_length_le (hr : c.row? row = some r)
    (hr' : c.row? row' = some r') (hlt : row < row') (hs : r.StartsAt b offset)
    (hs' : r'.StartsAt b offset') :
    offset + r.length ≤ offset' := by
  induction hlt generalizing r' offset' with
  | refl =>
    rcases (h.follows hr hr').startsAt hs hs' with ⟨-, rfl⟩ | ⟨-, rfl⟩
    · exact Nat.le_refl _
    · exact Nat.le_succ _
  | step hlt ih =>
    obtain ⟨before, hbefore⟩ := LayoutCache.exists_row_before hr'
    obtain ⟨start, hstart, -⟩ := h.exists_startsAt hbefore
    have hle := ih hbefore hstart
    rcases (h.follows hbefore hr').startsAt hstart hs' with ⟨-, rfl⟩ | ⟨-, rfl⟩
    · omega
    · omega

private theorem LayoutCache.Shows.stop_le_start (hr : c.row? row = some r)
    (hr' : c.row? row' = some r') (hlt : row < row')
    (hline : r.line = r'.line) : r.stop ≤ r'.start := by
  obtain ⟨-, ⟨start, hstart, rfl⟩, -⟩ := h.exists_startsAt hr
  obtain ⟨-, ⟨start', hstart', rfl⟩, -⟩ := h.exists_startsAt hr'
  have hle := h.add_length_le hr hr' hlt ⟨start, hstart, rfl⟩ ⟨start', hstart', rfl⟩
  rw [hline, hstart'] at hstart
  cases hstart
  rw [Row.stop]
  omega

private theorem OnRow.le_of_lt (hon : OnRow c b offset row r col)
    (hon' : OnRow c b offset' row' r' col') (hlt : row < row') : offset ≤ offset' := by
  obtain ⟨start, hstart, rfl⟩ := hon.exists_startsAt
  obtain ⟨start', hstart', rfl⟩ := hon'.exists_startsAt
  have hcol := hon.col_le
  have hle := h.add_length_le hon.row_eq hon'.row_eq hlt hstart hstart'
  omega

private theorem OnRow.firstRow (hon : OnRow c b offset row r col) (hfirst : r.start = 0 ∨ 0 < col) :
    c.FirstRow (·.Touches r.line (r.start + col)) row r := by
  have hcol := hon.col_le
  refine ⟨hon.row_eq, ⟨rfl, Nat.le_add_right _ _, Nat.add_le_add_left hcol _⟩, ?_⟩
  rintro row' hlt r' hr' ⟨hline, -, hstop⟩
  -- An earlier row of the line either does not exist or ends before the column.
  rcases hfirst with hzero | hpos
  · exact (h.start_eq_zero_iff hon.row_eq).mp hzero row' r' hlt hr' hline
  · have := h.stop_le_start hr' hon.row_eq hlt hline
    omega

/-- A later offset is drawn on no earlier row. -/
theorem row_le_of_offsetToVisual {place place' : VisualPos} (hle : offset ≤ offset')
    (hplace : offsetToVisual c b m offset = .ok place)
    (hplace' : offsetToVisual c b m offset' = .ok place') : place.row ≤ place'.row := by
  rw [← offsetToVisual_min] at hplace hplace'
  obtain ⟨r, col, hon, -⟩ := onRow_of_offsetToVisual h (Nat.min_le_right _ _) hplace
  obtain ⟨r', col', hon', -⟩ := onRow_of_offsetToVisual h (Nat.min_le_right _ _) hplace'
  apply Nat.le_of_not_lt
  intro hlt
  -- Rows the other way round leave the two offsets equal, and so their rows.
  have hge := hon'.le_of_lt h hon hlt
  have heq : min offset b.length = min offset' b.length := by omega
  rw [heq, hplace'] at hplace
  cases hplace
  exact Nat.lt_irrefl _ hlt

/-- Of two pixels of a row the one further to the right stands for no earlier offset. -/
theorem visualToOffset_le_of_le {x x' : Int} (hx : x ≤ x')
    (hoffset : visualToOffset c b m row x = .ok offset)
    (hoffset' : visualToOffset c b m row x' = .ok offset') : offset ≤ offset' := by
  obtain ⟨r, col, hon, hcol⟩ := onRow_of_visualToOffset h hoffset
  obtain ⟨r', col', hon', hcol'⟩ := onRow_of_visualToOffset h hoffset'
  cases hon.row_eq.symm.trans hon'.row_eq
  obtain ⟨start, hstart, rfl⟩ := hon.exists_startsAt
  obtain ⟨start', hstart', rfl⟩ := hon'.exists_startsAt
  obtain rfl := hstart.eq hstart'
  exact Nat.add_le_add_left (hcol.le_of_le hcol' hx) start

/-- A pixel of a later row stands for no earlier offset. -/
theorem visualToOffset_le_of_lt {x x' : Int} (hlt : row < row') (hrow : row' < c.rowCount)
    (hoffset : visualToOffset c b m row x = .ok offset)
    (hoffset' : visualToOffset c b m row' x' = .ok offset') : offset ≤ offset' := by
  obtain ⟨r, col, hon, -⟩ := onRow_of_visualToOffset h hoffset
  obtain ⟨r', col', hon', -⟩ := onRow_of_visualToOffset h hoffset'
  exact hon.le_of_lt h hon' (by omega)

end Shows

section Measured

variable (h : c.Shows b width (some m) options)
include h

private theorem exists_firstRowOf (hline : line < b.lineCount) :
    ∃ row r, c.firstRowOf line = some row ∧ c.FirstRow (·.line = line) row r := by
  obtain ⟨text, before, these, after, hblock⟩ := h.exists_block hline
  obtain ⟨r, rest, rfl⟩ := List.exists_cons_of_ne_nil hblock.rowsOf.ne_nil
  have hr : r.line = line := hblock.rowsOf.line_eq r (List.mem_cons_self ..)
  have hrow : c.row? before.length = some r := hblock.getElem?_eq (k := 0) rfl
  refine ⟨before.length, r, hblock.firstRowOf_eq, hrow, hr, fun row' hlt r' hr' heq ↦ ?_⟩
  obtain ⟨k, rfl, -⟩ := hblock.exists_getElem? hr' heq
  omega

private theorem firstRowOf_eq_none (hline : b.lineCount ≤ line) : c.firstRowOf line = none := by
  rw [LayoutCache.firstRowOf]
  split
  · next r hr =>
    have := line_lt_of_mem_wrapBuffer h.rows r (List.mem_of_getElem? hr)
    rw [if_neg (by omega)]
  · rfl

end Measured

/-- On rows made with a measurer an offset is drawn on the first row that touches its column, at the
width of what stands before it there: the search among the rows of its line always finds this row.
So later offsets are drawn on no earlier row. The rows are in the order of their lines, and the
scan for a line finds the first of its rows if the buffer has the line and nothing if not. The
measurer may be another one than that of the layout. -/
theorem offsetToVisual_firstRow {cache c : LayoutCache} {m' : Measure}
    (hcache : cache.Sound b (some m) options)
    (hc : (cache.ensure b width (some m) options).result = .ok c) (hm : m'.Total)
    (hb : c.rowCount * c.lineHeight < Bounded.pixelBound) :
    (∀ offset, ∃ line col first row r x,
      offsetToLineCol b offset = .ok (line, col) ∧
      c.firstRowOf line = some first ∧
      rowTouching line col first (c.rows.drop first) = some (row, r) ∧
      c.FirstRow (·.Touches line col) row r ∧
      m'.width (r.text.take (col - r.start)) = .ok x ∧
      offsetToVisual c b m' offset = .ok ⟨row, x, row * c.lineHeight⟩) ∧
    (∀ offset offset' place place', offset ≤ offset' →
      offsetToVisual c b m' offset = .ok place → offsetToVisual c b m' offset' = .ok place' →
      place.row ≤ place'.row) ∧
    c.rows.Pairwise (·.line ≤ ·.line) ∧
    (∀ line < b.lineCount, ∃ row r,
      c.firstRowOf line = some row ∧ c.FirstRow (·.line = line) row r) ∧
    ∀ line, b.lineCount ≤ line → c.firstRowOf line = none := by
  obtain ⟨-, hshows⟩ := hcache.of_ensure hc
  refine ⟨fun offset ↦ ?_, fun _ _ _ _ ↦ row_le_of_offsetToVisual hshows,
    (keepsLines_of_wrapBuffer hshows.rows).pairwise_line,
    fun _ ↦ exists_firstRowOf hshows, fun _ ↦ firstRowOf_eq_none hshows⟩
  obtain ⟨row, r, col, hon, hfirst⟩ := exists_onRow hshows (Nat.min_le_right offset b.length)
  obtain ⟨first, hrow, htouch⟩ := hon.exists_rowTouching hshows hfirst
  obtain ⟨x, hx⟩ := hm (r.text.take col)
  have hplace := offsetToVisual_eq hshows m' hon hfirst
  rw [hx, Fault.ok_bind, hshows.rowTop_eq hb hon.row_eq, offsetToVisual_min] at hplace
  have hcol := hon.offsetToLineCol_eq hshows
  rw [offsetToLineCol_min] at hcol
  refine ⟨r.line, r.start + col, first, row, r, x, hcol, hrow, htouch, hon.firstRow hshows hfirst,
    ?_, hplace⟩
  rw [Nat.add_sub_cancel_left, hx]

/-- The offset behind the blank at which a line breaks touches two rows and is drawn on the first
of them, and the scan passes the empty line before the last. -/
theorem offsetToVisual_firstRow_break :
    let b := Buffer.ofText "hello world foobar\n\nx".toList
    let m := Measure.perChar 10
    ∃ c r, (LayoutCache.fresh.ensure b 120 (some m) ⟨4, 10⟩).result = .ok c ∧
      c.FirstRow (·.Touches 0 12) 0 r ∧ (∃ r', c.row? 1 = some r' ∧ r'.Touches 0 12) ∧
      (∃ r', c.FirstRow (·.line = 2) 3 r') ∧ c.firstRowOf 3 = none := by
  intro b m
  have hcheck : (LayoutCache.fresh.ensure b 120 (some m) ⟨4, 10⟩).result.toOption.any (fun c ↦
      decide (c.rowCount * c.lineHeight < Bounded.pixelBound ∧
        c.row? 1 = some ⟨0, 12, "foobar".toList⟩ ∧ c.firstRowOf 2 = some 3) &&
      (offsetToVisual c b m 12).toOption.any fun place ↦ place.row == 0) = true := by
    decide +kernel
  obtain ⟨c, hc, hcheck⟩ := exists_of_any hcheck
  rw [Bool.and_eq_true, decide_eq_true_eq] at hcheck
  obtain ⟨⟨hb, hnext, hthird⟩, hcheck⟩ := hcheck
  obtain ⟨place, hplace, hcheck⟩ := exists_of_any hcheck
  have htotal : m.Total := Measure.total_ofWidth _
  obtain ⟨hdrawn, -, -, hlines, hnone⟩ :=
    offsetToVisual_firstRow LayoutCache.sound_fresh hc htotal hb
  obtain ⟨line, col, first, row, r, x, hcol, -, -, hfirst, -, hplace'⟩ := hdrawn 12
  have hcol' : offsetToLineCol b 12 = .ok (0, 12) := by decide +kernel
  cases hcol'.symm.trans hcol
  cases hplace.symm.trans hplace'
  obtain rfl : row = 0 := beq_iff_eq.mp hcheck
  obtain ⟨row, r', hrow, hfirst'⟩ := hlines 2 (by decide +kernel)
  cases hthird.symm.trans hrow
  have hend : b.lineCount ≤ 3 := by decide +kernel
  exact ⟨c, r, hc, hfirst, ⟨_, hnext, rfl, by decide, by decide⟩, ⟨r', hfirst'⟩, hnone 3 hend⟩

/-- A pixel of a row stands for the first column of the row that reaches it, or for the end of the
row if none does; a row past the last stands for the last. The offset is one of the text, and so is
the end of the row. So pixels further to the right stand for no earlier offset, and neither do
those of later rows. Nothing is asked of the measurer but that it measures every text, nor of the
layout, which may have been made without one. -/
theorem visualToOffset_reaches {cache c : LayoutCache} (hcache : cache.Sound b measure options)
    (hc : (cache.ensure b width measure options).result = .ok c) (hm : m.Total) :
    (∀ row x, ∃ r start col,
      c.row? (min row (c.rowCount - 1)) = some r ∧
      r.StartsAt b start ∧ start + r.length ≤ b.length ∧
      Reaches m x [] r.text col ∧
      visualToOffset c b m row x = .ok (start + col)) ∧
    (∀ row x x' offset offset', x ≤ x' → visualToOffset c b m row x = .ok offset →
      visualToOffset c b m row x' = .ok offset' → offset ≤ offset') ∧
    ∀ row row' x x' offset offset', row < row' → row' < c.rowCount →
      visualToOffset c b m row x = .ok offset → visualToOffset c b m row' x' = .ok offset' →
      offset ≤ offset' := by
  obtain ⟨-, hshows⟩ := hcache.of_ensure hc
  refine ⟨fun row x ↦ ?_, fun _ _ _ _ _ ↦ visualToOffset_le_of_le hshows,
    fun _ _ _ _ _ _ ↦ visualToOffset_le_of_lt hshows⟩
  obtain ⟨offset, hoffset⟩ := exists_visualToOffset hshows (fun _ _ _ ↦ hm _) row x
  obtain ⟨r, col, hon, hcol⟩ := onRow_of_visualToOffset hshows hoffset
  obtain ⟨start, hstart, rfl⟩ := hon.exists_startsAt
  obtain ⟨start', hstart', hle⟩ := hshows.exists_startsAt hon.row_eq
  obtain rfl := hstart.eq hstart'
  exact ⟨r, start, col, hon.row_eq, hstart, hle, hcol, hoffset⟩

/-- With a ligature narrower than its first letter a pixel beyond it stands for the column after the
word, and no pixel of the next row for an earlier offset. -/
theorem visualToOffset_reaches_ligating :
    let b := Buffer.ofText "fin\nx".toList
    let m := Measure.ligating
    ∃ c r start col, (LayoutCache.fresh.ensure b 100 (some m) ⟨4, 10⟩).result = .ok c ∧
      visualToOffset c b m 0 12 = .ok 3 ∧
      c.row? 1 = some r ∧ r.StartsAt b start ∧ Reaches m (-5) [] r.text col ∧
      visualToOffset c b m 1 (-5) = .ok (start + col) ∧ 3 ≤ start + col := by
  intro b m
  have hcheck : (LayoutCache.fresh.ensure b 100 (some m) ⟨4, 10⟩).result.toOption.any (fun c ↦
      decide (c.rowCount = 2) &&
      (visualToOffset c b m 0 12).toOption.any fun offset ↦ offset == 3) = true := by
    decide +kernel
  obtain ⟨c, hc, hcheck⟩ := exists_of_any hcheck
  rw [Bool.and_eq_true, decide_eq_true_eq] at hcheck
  obtain ⟨hcount, hcheck⟩ := hcheck
  obtain ⟨offset, hoffset, hcheck⟩ := exists_of_any hcheck
  obtain rfl : offset = 3 := beq_iff_eq.mp hcheck
  have htotal : m.Total := Measure.total_ofWidth _
  obtain ⟨hreaches, -, hlater⟩ := visualToOffset_reaches LayoutCache.sound_fresh hc htotal
  obtain ⟨r, start, col, hr, hstart, -, hcol, hoffset'⟩ := hreaches 1 (-5)
  rw [hcount] at hr
  have hle := hlater 0 1 12 (-5) 3 _ Nat.zero_lt_one (hcount ▸ Nat.one_lt_two) hoffset hoffset'
  exact ⟨c, r, start, col, hc, hoffset, hr, hstart, hcol, hoffset', hle⟩

end Layout

end EditBox
