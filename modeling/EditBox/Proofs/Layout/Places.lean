import EditBox.Proofs.Layout.Cache
import EditBox.Proofs.Layout.Rows
import EditBox.Proofs.Layout.Widths

/-!
# Places on rows

Where an offset of the text is on the rows that show it. `OnRow` relates an offset to a row and a
column of it; an offset at a break is on two rows. `offsetToVisual_eq` says at which of its places
an offset is drawn, and `visualToOffset_eq` that a pixel of a row is an offset on that row.
-/

namespace EditBox.Layout

open EditBox.Text

variable {c : LayoutCache} {b : Buffer} {m : Measure} {measure : Option Measure}
  {options : LayoutOptions} {width line col offset row : Nat} {text : List Char} {rows : List Row}
  {r : Row}

namespace Cuts

variable {start : Nat} (h : Cuts line start text rows)
include h

/-- The rows lie within the part of the line that they cut. -/
theorem start_le_and_stop_le : ∀ r ∈ rows, start ≤ r.start ∧ r.stop ≤ start + text.length := by
  induction h with
  | done start => simp
  | @row start piece rest rows hne h ih =>
    intro r hr
    rw [List.length_append]
    rcases List.mem_cons.mp hr with rfl | hr
    · simp only [Row.stop, Row.length]
      omega
    · have := ih r hr
      omega

/-- Every column of the part is on a row of it, and not at the start of the row unless the row is
the first. -/
theorem exists_row (hne : text ≠ []) (hle : start ≤ col) (hstop : col ≤ start + text.length) :
    ∃ (k : Nat) (r : Row), rows[k]? = some r ∧ r.start ≤ col ∧ col ≤ r.stop ∧
      (r.start = start ∨ r.start < col) := by
  induction h with
  | done start => exact absurd rfl hne
  | @row start piece rest rows hpiece h ih =>
    rw [List.length_append] at hstop
    by_cases hc : col ≤ start + piece.length
    · exact ⟨0, _, rfl, hle, hc, .inl rfl⟩
    · have hrest : rest ≠ [] := by
        rintro rfl
        rw [List.length_nil] at hstop
        omega
      obtain ⟨k, r, hk, hl, hs, hfirst⟩ := ih hrest (by omega) (by omega)
      exact ⟨k + 1, r, hk, hl, hs, by omega⟩

/-- A column of a row is found on it, unless it is at the start of a row that is not the first. -/
theorem rowTouching_eq {k : Nat} (hk : rows[k]? = some r) (hle : r.start ≤ col)
    (hstop : col ≤ r.stop) (hfirst : r.start = start ∨ r.start < col) (first : Nat)
    (after : List Row) : rowTouching line col first (rows ++ after) = some (first + k, r) := by
  induction h generalizing k first with
  | done start => simp at hk
  | @row start piece rest rows hne h ih =>
    rw [List.cons_append, rowTouching, if_pos rfl]
    cases k with
    | zero =>
      obtain rfl : ⟨line, start, piece⟩ = r := by simpa using hk
      rw [if_pos ⟨hle, hstop⟩, Nat.add_zero]
    | succ k =>
      rw [List.getElem?_cons_succ] at hk
      -- Rows after the first begin where it ends, so the column lies beyond it.
      have hpos := List.length_pos_iff.mpr hne
      have hbounds := (h.start_le_and_stop_le r (List.mem_of_getElem? hk)).1
      have hbeyond : ¬ (start ≤ col ∧ col ≤ Row.stop ⟨line, start, piece⟩) := by
        simp only [Row.stop, Row.length]
        omega
      rw [if_neg hbeyond, ih hk (by omega), Nat.add_assoc, Nat.add_comm 1 k]

end Cuts

namespace RowsOf

variable (h : RowsOf line text rows)
include h

/-- The rows of a line lie within it. -/
theorem stop_le : ∀ r ∈ rows, r.stop ≤ text.length := by
  cases h with
  | empty => simp [Row.stop, Row.length]
  | cut hne h =>
    intro r hr
    have := (h.start_le_and_stop_le r hr).2
    omega

private theorem start_eq_zero : ∀ r ∈ rows, r.text = [] → r.start = 0 := by
  cases h with
  | empty => simp
  | cut hne h => exact fun r hr he ↦ absurd he (h.text_ne_nil r hr)

/-- Every column of a line is on a row of it, and not at the start of the row unless the row begins
the line. -/
theorem exists_row (hcol : col ≤ text.length) :
    ∃ (k : Nat) (r : Row), rows[k]? = some r ∧ r.start ≤ col ∧ col ≤ r.stop ∧
      (r.start = 0 ∨ r.start < col) := by
  cases h with
  | empty => exact ⟨0, _, rfl, Nat.zero_le col, hcol, .inl rfl⟩
  | cut hne h => exact h.exists_row hne (Nat.zero_le col) (by omega)

/-- A column of a row of a line is found on it, unless it is at the start of a row that does not
begin the line. -/
theorem rowTouching_eq {k : Nat} (hk : rows[k]? = some r) (hle : r.start ≤ col)
    (hstop : col ≤ r.stop) (hfirst : r.start = 0 ∨ r.start < col) (first : Nat)
    (after : List Row) : rowTouching line col first (rows ++ after) = some (first + k, r) := by
  cases h with
  | empty =>
    obtain ⟨hlt, rfl⟩ := List.getElem?_eq_some_iff.mp hk
    obtain rfl : k = 0 := by simpa using hlt
    exact (if_pos rfl).trans (if_pos ⟨hle, hstop⟩)
  | cut hne h => exact h.rowTouching_eq hk hle hstop hfirst first after

end RowsOf

namespace Block

variable {before these after : List Row} (h : Block b line rows text before these after)
include h

/-- A row of the line is one of those that stand together. -/
theorem exists_getElem? (hr : rows[row]? = some r) (hline : r.line = line) :
    ∃ k, row = before.length + k ∧ these[k]? = some r := by
  rw [h.rows_eq] at hr
  rcases Nat.lt_or_ge row before.length with hlt | hge
  · rw [List.getElem?_append_left hlt] at hr
    have := h.line_lt r (List.mem_of_getElem? hr)
    omega
  · rw [List.getElem?_append_right hge] at hr
    rcases Nat.lt_or_ge (row - before.length) these.length with hlt | hge'
    · rw [List.getElem?_append_left hlt] at hr
      exact ⟨row - before.length, by omega, hr⟩
    · rw [List.getElem?_append_right hge'] at hr
      have := h.lt_line r (List.mem_of_getElem? hr)
      omega

/-- The rows that stand together are rows of the buffer. -/
theorem getElem?_eq {k : Nat} (hk : these[k]? = some r) :
    rows[before.length + k]? = some r := by
  have hlt := (List.getElem?_eq_some_iff.mp hk).1
  rw [h.rows_eq, List.getElem?_append_right (Nat.le_add_right _ _), Nat.add_sub_cancel_left,
    List.getElem?_append_left hlt, hk]

private theorem takeWhile_eq : rows.takeWhile (·.line < line) = before := by
  obtain ⟨r, rest, hthese⟩ := List.exists_cons_of_ne_nil h.rowsOf.ne_nil
  have hr : r.line = line := h.rowsOf.line_eq r (hthese ▸ List.mem_cons_self ..)
  rw [h.rows_eq, List.takeWhile_append_of_pos fun r hr ↦ decide_eq_true (h.line_lt r hr), hthese,
    List.cons_append, List.takeWhile_cons_of_neg (by simp [hr]), List.append_nil]

end Block

/-- An offset is at a column of a row of the cache. -/
structure OnRow (c : LayoutCache) (b : Buffer) (offset row : Nat) (r : Row) (col : Nat) :
    Prop where
  row_eq : c.row? row = some r
  col_le : col ≤ r.length
  exists_start : ∃ start, b.lineStart r.line = .ok start ∧ offset = start + r.start + col

/-- A column of a row is a single offset. -/
theorem OnRow.eq {offset' : Nat} (h : OnRow c b offset row r col)
    (h' : OnRow c b offset' row r col) : offset' = offset := by
  obtain ⟨start, hstart, rfl⟩ := h.exists_start
  obtain ⟨start', hstart', rfl⟩ := h'.exists_start
  obtain rfl : start = start' := Except.ok.inj (hstart.symm.trans hstart')
  rfl

/-- Without a measurer the only row is the text. -/
theorem LayoutCache.Shows.row?_of_none (h : c.Shows b width none options) :
    c.row? row = some r ↔ row = 0 ∧ r = ⟨0, 0, b.chars⟩ := by
  have hrows : c.rows = [⟨0, 0, b.chars⟩] := (Except.ok.inj h.rows).symm
  rw [LayoutCache.row?, hrows]
  cases row with
  | zero => simp [eq_comm]
  | succ row => simp

/-- With a measurer the rows of every line stand together. -/
theorem LayoutCache.Shows.exists_block (h : c.Shows b width (some m) options)
    (hlt : line < b.lineCount) :
    ∃ text before these after, Block b line c.rows text before these after :=
  Layout.exists_block h.rows hlt

/-- With a measurer every row stands among those of its line. -/
theorem LayoutCache.Shows.exists_block_of_row (h : c.Shows b width (some m) options)
    (hr : c.row? row = some r) :
    ∃ text before these after k, Block b r.line c.rows text before these after ∧
      row = before.length + k ∧ these[k]? = some r := by
  have hline := line_lt_of_mem_wrapBuffer h.rows r (List.mem_of_getElem? hr)
  obtain ⟨text, before, these, after, hblock⟩ := h.exists_block hline
  obtain ⟨k, hk⟩ := hblock.exists_getElem? hr rfl
  exact ⟨text, before, these, after, k, hblock, hk⟩

/-- The first of the rows of a line. -/
theorem Block.firstRowOf_eq {before these after : List Row}
    (h : Block b line c.rows text before these after) :
    c.firstRowOf line = some before.length := by
  obtain ⟨r, rest, rfl⟩ := List.exists_cons_of_ne_nil h.rowsOf.ne_nil
  have hr : r.line = line := h.rowsOf.line_eq r (List.mem_cons_self ..)
  have hfirst : c.rows[before.length]? = some r := h.getElem?_eq (k := 0) rfl
  simp only [LayoutCache.firstRowOf, h.takeWhile_eq, hfirst, hr, if_pos]

private theorem rowTop_zero (c : LayoutCache) : rowTop c 0 = .ok 0 := by
  have hzero : 0 * c.lineHeight < Bounded.pixelBound := by
    rw [Nat.zero_mul]
    decide
  exact (Bounded.mul_eq_ok hzero).trans (by rw [Nat.zero_mul])

private theorem visualToOffset_min (c : LayoutCache) (b : Buffer) (m : Measure) (row : Nat)
    (x : Int) :
    visualToOffset c b m (min row (c.rowCount - 1)) x = visualToOffset c b m row x := by
  rw [visualToOffset, visualToOffset, Nat.min_assoc, Nat.min_self]

/-- The line and column of an offset on a row. -/
theorem offsetToLineCol_eq {start : Nat} (hoffset : offset ≤ b.length)
    (hline : b.lineOf offset = line) (hstart : b.lineStart line = .ok start)
    (hle : start ≤ offset) : offsetToLineCol b offset = .ok (line, offset - start) := by
  rw [offsetToLineCol, Nat.min_eq_left hoffset, hline, hstart, Fault.ok_bind,
    Bounded.sub_eq_ok hle]
  rfl

section Shows

variable (h : c.Shows b width measure options)
include h

/-- Every column of a row is an offset of the text. -/
theorem exists_onRow_of_row (hr : c.row? row = some r) (hcol : col ≤ r.length) :
    ∃ offset, OnRow c b offset row r col ∧ offset ≤ b.length := by
  cases measure with
  | none =>
    obtain ⟨rfl, rfl⟩ := h.row?_of_none.mp hr
    exact ⟨col, ⟨hr, hcol, 0, b.lineStart_zero, by simp⟩, hcol⟩
  | some m =>
    obtain ⟨text, before, these, after, k, hblock, rfl, hk⟩ := h.exists_block_of_row hr
    obtain ⟨start, hstart, hlength, -⟩ := Buffer.exists_lineStart_of_lineText hblock.lineText
    have hstop := hblock.rowsOf.stop_le r (List.mem_of_getElem? hk)
    rw [Row.stop] at hstop
    exact ⟨_, ⟨hr, hcol, start, hstart, rfl⟩, by omega⟩

/-- An offset on a row is an offset of the text. -/
theorem OnRow.offset_le (hon : OnRow c b offset row r col) : offset ≤ b.length := by
  obtain ⟨offset', ⟨-, -, start', hstart', rfl⟩, hle⟩ :=
    exists_onRow_of_row h hon.row_eq hon.col_le
  obtain ⟨start, hstart, rfl⟩ := hon.exists_start
  rw [hstart] at hstart'
  cases hstart'
  exact hle

end Shows

/-- With a measurer the row of an offset has its line, and the column of the offset in the line. -/
theorem OnRow.offsetToLineCol_eq (h : c.Shows b width (some m) options)
    (hon : OnRow c b offset row r col) :
    offsetToLineCol b offset = .ok (r.line, r.start + col) := by
  have hoffset := hon.offset_le h
  obtain ⟨hr, hcol, start, hstart, rfl⟩ := hon
  obtain ⟨text, before, these, after, k, hblock, rfl, hk⟩ := h.exists_block_of_row hr
  obtain ⟨start', hstart', -, hlineOf⟩ := Buffer.exists_lineStart_of_lineText hblock.lineText
  obtain rfl : start = start' := Except.ok.inj (hstart.symm.trans hstart')
  have hstop := hblock.rowsOf.stop_le r (List.mem_of_getElem? hk)
  rw [Row.stop] at hstop
  have hplace : b.lineOf (start + r.start + col) = r.line :=
    (hlineOf _ hoffset).mpr ⟨by omega, by omega⟩
  have hcolumn : start + r.start + col - start = r.start + col := by omega
  rw [Layout.offsetToLineCol_eq hoffset hplace hstart (by omega), hcolumn]

/-- With a measurer the search among the rows of its line finds an offset on its row, unless it is
at the start of a row that does not begin the line. -/
theorem OnRow.exists_rowTouching (h : c.Shows b width (some m) options)
    (hon : OnRow c b offset row r col) (hfirst : r.start = 0 ∨ 0 < col) :
    ∃ first, c.firstRowOf r.line = some first ∧
      rowTouching r.line (r.start + col) first (c.rows.drop first) = some (row, r) := by
  obtain ⟨hr, hcol, -⟩ := hon
  obtain ⟨text, before, these, after, k, hblock, rfl, hk⟩ := h.exists_block_of_row hr
  have hdrop : c.rows.drop before.length = these ++ after := by
    rw [hblock.rows_eq, List.drop_left]
  refine ⟨before.length, hblock.firstRowOf_eq, ?_⟩
  rw [hdrop]
  exact hblock.rowsOf.rowTouching_eq hk (by omega) (by rw [Row.stop]; omega) (by omega) _ _

section Shows

variable (h : c.Shows b width measure options)
include h

/-- An offset on a row is drawn there, unless it is at the start of a row that does not begin its
line. -/
theorem offsetToVisual_eq (m : Measure) (hon : OnRow c b offset row r col)
    (hfirst : r.start = 0 ∨ 0 < col) :
    offsetToVisual c b m offset = do
      let x ← m.width (r.text.take col)
      let y ← rowTop c row
      return ⟨row, x, y⟩ := by
  cases measure with
  | none =>
    have hoffset := hon.offset_le h
    obtain ⟨hr, hcol, start, hstart, rfl⟩ := hon
    obtain ⟨rfl, rfl⟩ := h.row?_of_none.mp hr
    obtain rfl : 0 = start := Except.ok.inj (b.lineStart_zero.symm.trans hstart)
    have hdegraded : c.degraded = true := h.degraded
    have hoffset : min (0 + 0 + col) b.length = col := by omega
    simp only [offsetToVisual, hdegraded, if_true, hr, hoffset, rowTop_zero]
    rfl
  | some m =>
    have hdegraded : c.degraded = false := h.degraded
    obtain ⟨first, hrow, htouch⟩ := hon.exists_rowTouching h hfirst
    simp only [offsetToVisual, hdegraded, Bool.false_eq_true, if_false,
      hon.offsetToLineCol_eq h, Fault.ok_bind, hrow, htouch, Nat.add_sub_cancel_left]

/-- Every offset of the text is on a row, where it is drawn. -/
theorem exists_onRow (hoffset : offset ≤ b.length) :
    ∃ row r col, OnRow c b offset row r col ∧ (r.start = 0 ∨ 0 < col) := by
  cases measure with
  | none =>
    refine ⟨0, ⟨0, 0, b.chars⟩, offset, ⟨h.row?_of_none.mpr ⟨rfl, rfl⟩, hoffset, 0, ?_⟩, .inl rfl⟩
    exact ⟨b.lineStart_zero, by simp⟩
  | some m =>
    have hlt := b.lineOf_lt_lineCount offset
    obtain ⟨text, before, these, after, hblock⟩ := h.exists_block hlt
    obtain ⟨start, hstart, -, hlineOf⟩ := Buffer.exists_lineStart_of_lineText hblock.lineText
    obtain ⟨hle, hend⟩ := (hlineOf offset hoffset).mp rfl
    have hcol : offset - start ≤ text.length := by omega
    obtain ⟨k, r, hk, hl, hs, hfirst⟩ := hblock.rowsOf.exists_row hcol
    have hline : r.line = b.lineOf offset := hblock.rowsOf.line_eq r (List.mem_of_getElem? hk)
    rw [Row.stop] at hs
    refine ⟨before.length + k, r, offset - start - r.start, ⟨hblock.getElem?_eq hk, by omega,
      start, ?_, by omega⟩, by omega⟩
    rw [hline]
    exact hstart

private theorem exists_onRow_zero : ∃ r, OnRow c b 0 0 r 0 ∧ r.start = 0 := by
  cases measure with
  | none =>
    refine ⟨⟨0, 0, b.chars⟩, ⟨h.row?_of_none.mpr ⟨rfl, rfl⟩, Nat.zero_le _, 0, ?_⟩, rfl⟩
    exact ⟨b.lineStart_zero, rfl⟩
  | some m =>
    have hlt : 0 < b.lineCount := by
      rw [b.lineCount_eq]
      exact Nat.succ_pos _
    obtain ⟨text, before, these, after, hblock⟩ := h.exists_block hlt
    obtain rfl : before = [] :=
      List.eq_nil_iff_forall_not_mem.mpr fun r hr ↦ Nat.not_lt_zero _ (hblock.line_lt r hr)
    obtain ⟨r, rest, rfl⟩ := List.exists_cons_of_ne_nil hblock.rowsOf.ne_nil
    have hline : r.line = 0 := hblock.rowsOf.line_eq r (List.mem_cons_self ..)
    have hstart : r.start = 0 := hblock.rowsOf.keepsLine.start_eq 0 r rfl
    refine ⟨r, ⟨hblock.getElem?_eq (k := 0) rfl, Nat.zero_le _, 0, ?_, ?_⟩, hstart⟩
    · rw [hline]
      exact b.lineStart_zero
    · rw [hstart]

/-- The start of the text is drawn at the top left corner. -/
theorem offsetToVisual_zero (hm : m.width [] = .ok 0) :
    offsetToVisual c b m 0 = .ok ⟨0, 0, 0⟩ := by
  obtain ⟨r, hon, hstart⟩ := exists_onRow_zero h
  rw [offsetToVisual_eq h m hon (.inl hstart), List.take_zero, hm, Fault.ok_bind, rowTop_zero]
  rfl

/-- A row without characters begins its line. -/
theorem start_eq_zero_of_empty (hr : c.row? row = some r) (he : r.text = []) : r.start = 0 := by
  cases measure with
  | none =>
    obtain ⟨rfl, rfl⟩ := h.row?_of_none.mp hr
    rfl
  | some m =>
    obtain ⟨text, before, these, after, k, hblock, rfl, hk⟩ := h.exists_block_of_row hr
    exact hblock.rowsOf.start_eq_zero r (List.mem_of_getElem? hk) he

/-- Without a measurer every row is of the first line. -/
theorem LayoutCache.Shows.line_eq_zero (hd : c.degraded = true) (hr : r ∈ c.rows) :
    r.line = 0 := by
  cases measure with
  | none =>
    obtain ⟨row, hrow⟩ := List.mem_iff_getElem?.mp hr
    rw [(h.row?_of_none.mp hrow).2]
  | some m =>
    rw [h.degraded] at hd
    cases hd

/-- Where an offset is drawn it is on a row, at the distance of its column. -/
theorem onRow_of_offsetToVisual {place : VisualPos} (hoffset : offset ≤ b.length)
    (hplace : offsetToVisual c b m offset = .ok place) :
    ∃ r col, OnRow c b offset place.row r col ∧ m.width (r.text.take col) = .ok place.x := by
  obtain ⟨row, r, col, hon, hfirst⟩ := exists_onRow h hoffset
  rw [offsetToVisual_eq h m hon hfirst] at hplace
  obtain ⟨x, hx, hplace⟩ := Fault.bind_eq_ok_iff.mp hplace
  obtain ⟨y, -, hplace⟩ := Fault.bind_eq_ok_iff.mp hplace
  cases hplace
  exact ⟨r, col, hon, hx⟩

/-- A row is at least one pixel high. -/
theorem LayoutCache.Shows.lineHeight_pos : 1 ≤ c.lineHeight :=
  LayoutCache.one_le_of_rowHeight h.lineHeight

/-- There is a row. -/
theorem LayoutCache.Shows.rowCount_pos : 0 < c.rowCount := by
  obtain ⟨row, _, _, hon, -⟩ := exists_onRow h (Nat.zero_le b.length)
  exact Nat.zero_lt_of_lt (List.getElem?_eq_some_iff.mp hon.row_eq).1

/-- There are fewer rows than pixels. -/
theorem LayoutCache.Shows.rowCount_lt (hb : c.rowCount * c.lineHeight < Bounded.pixelBound) :
    c.rowCount < Bounded.pixelBound :=
  Nat.lt_of_le_of_lt (Nat.le_mul_of_pos_right _ h.lineHeight_pos) hb

/-- The top of a row is below all rows before it, if the height of all rows is in bounds. -/
theorem LayoutCache.Shows.rowTop_eq (hb : c.rowCount * c.lineHeight < Bounded.pixelBound)
    (hr : c.row? row = some r) : rowTop c row = .ok (row * c.lineHeight) := by
  have hlt : row < c.rowCount := (List.getElem?_eq_some_iff.mp hr).1
  have hpixel := Bounded.toPixel_of_lt (Nat.lt_trans hlt (h.rowCount_lt hb))
  have htop : row * c.lineHeight < Bounded.pixelBound :=
    Nat.lt_of_le_of_lt (Nat.mul_le_mul_right _ (Nat.le_of_lt hlt)) hb
  rw [rowTop, hpixel, Bounded.mul_eq_ok htop]

/-- An offset on a row is drawn there, at the distance of its column and the height of all rows
before it, unless it is at the start of a row that does not begin its line. -/
theorem offsetToVisual_eq_ok {x : Nat}
    (hb : c.rowCount * c.lineHeight < Bounded.pixelBound) (hon : OnRow c b offset row r col)
    (hfirst : r.start = 0 ∨ 0 < col) (hx : m.width (r.text.take col) = .ok x) :
    offsetToVisual c b m offset = .ok ⟨row, x, row * c.lineHeight⟩ := by
  rw [offsetToVisual_eq h m hon hfirst, hx, Fault.ok_bind, h.rowTop_eq hb hon.row_eq]
  rfl

/-- The top of the row where an offset is drawn is below all rows before it. -/
theorem row_lt_and_y_eq_of_offsetToVisual {place : VisualPos}
    (hb : c.rowCount * c.lineHeight < Bounded.pixelBound) (hoffset : offset ≤ b.length)
    (hplace : offsetToVisual c b m offset = .ok place) :
    place.row < c.rowCount ∧ place.y = place.row * c.lineHeight := by
  obtain ⟨row, r, col, hon, hfirst⟩ := exists_onRow h hoffset
  rw [offsetToVisual_eq h m hon hfirst, h.rowTop_eq hb hon.row_eq] at hplace
  obtain ⟨x, -, hplace⟩ := Fault.bind_eq_ok_iff.mp hplace
  cases hplace
  exact ⟨(List.getElem?_eq_some_iff.mp hon.row_eq).1, rfl⟩

/-- The row where an offset is drawn ends no lower than the last row. -/
theorem bottom_le_of_offsetToVisual {place : VisualPos}
    (hb : c.rowCount * c.lineHeight < Bounded.pixelBound) (hoffset : offset ≤ b.length)
    (hplace : offsetToVisual c b m offset = .ok place) :
    place.y + c.lineHeight ≤ c.rowCount * c.lineHeight := by
  obtain ⟨hlt, hy⟩ := row_lt_and_y_eq_of_offsetToVisual h hb hoffset hplace
  rw [hy, ← Nat.succ_mul]
  exact Nat.mul_le_mul_right _ hlt

/-- Every offset of the text is drawn somewhere if the rows can be measured and the height of all
of them is in bounds. -/
theorem exists_offsetToVisual (hm : ∀ r ∈ c.rows, ∀ k, ∃ w, m.width (r.text.take k) = .ok w)
    (hb : c.rowCount * c.lineHeight < Bounded.pixelBound) (hoffset : offset ≤ b.length) :
    ∃ place, offsetToVisual c b m offset = .ok place := by
  obtain ⟨row, r, col, hon, hfirst⟩ := exists_onRow h hoffset
  obtain ⟨x, hx⟩ := hm r (List.mem_of_getElem? hon.row_eq) col
  exact ⟨_, offsetToVisual_eq_ok h hb hon hfirst hx⟩

/-- A pixel of a row is an offset on the row, at the column that reaches it. -/
theorem visualToOffset_eq {x : Int} (hr : c.row? row = some r)
    (hcol : columnReaching m x [] r.text = .ok col) :
    ∃ offset, visualToOffset c b m row x = .ok offset ∧ OnRow c b offset row r col := by
  obtain ⟨offset, hon, hle⟩ := exists_onRow_of_row h hr (reaches_of_columnReaching hcol).le_length
  refine ⟨offset, ?_, hon⟩
  obtain ⟨-, -, start, hstart, rfl⟩ := hon
  have hlt : row < c.rowCount := (List.getElem?_eq_some_iff.mp hr).1
  rw [visualToOffset, Nat.min_eq_left (by omega), hr]
  simp only [hcol, Fault.ok_bind]
  cases measure with
  | none =>
    obtain ⟨rfl, rfl⟩ := h.row?_of_none.mp hr
    obtain rfl : 0 = start := Except.ok.inj (b.lineStart_zero.symm.trans hstart)
    have hdegraded : c.degraded = true := h.degraded
    rw [if_pos hdegraded, Nat.min_eq_left hle]
    rfl
  | some m =>
    have hdegraded : c.degraded = false := h.degraded
    rw [if_neg (by rw [hdegraded]; exact Bool.false_ne_true), hstart, Fault.ok_bind,
      Nat.min_eq_left hle]
    rfl

/-- A pixel of a row stands for an offset on the row, at the first column that reaches the pixel; a
row past the last stands for the last. -/
theorem onRow_of_visualToOffset {x : Int} (hoffset : visualToOffset c b m row x = .ok offset) :
    ∃ r col, OnRow c b offset (min row (c.rowCount - 1)) r col ∧ Reaches m x [] r.text col := by
  have hpos := h.rowCount_pos
  have hlt : min row (c.rowCount - 1) < c.rowCount := by omega
  have hrow : c.row? (min row (c.rowCount - 1)) = some _ := List.getElem?_eq_getElem hlt
  have hsearch := hoffset
  rw [visualToOffset, hrow] at hsearch
  obtain ⟨col, hcol, -⟩ := Fault.bind_eq_ok_iff.mp hsearch
  obtain ⟨offset', hoffset', hon⟩ := visualToOffset_eq h hrow hcol
  rw [visualToOffset_min, hoffset] at hoffset'
  cases hoffset'
  exact ⟨_, col, hon, reaches_of_columnReaching hcol⟩

/-- Every pixel of every row is an offset if the rows can be measured; a row past the last stands
for the last. -/
theorem exists_visualToOffset (hm : ∀ r ∈ c.rows, ∀ k, ∃ w, m.width (r.text.take k) = .ok w)
    (row : Nat) (x : Int) : ∃ offset, visualToOffset c b m row x = .ok offset := by
  have hpos := h.rowCount_pos
  have hlt : min row (c.rowCount - 1) < c.rowCount := by omega
  have hrow : c.row? (min row (c.rowCount - 1)) = some _ := List.getElem?_eq_getElem hlt
  have hprefixes := hm _ (List.mem_of_getElem? hrow)
  obtain ⟨col, hcol⟩ := exists_columnReaching hprefixes x
  obtain ⟨offset, hoffset, -⟩ := visualToOffset_eq h hrow hcol
  rw [visualToOffset_min] at hoffset
  exact ⟨offset, hoffset⟩

end Shows

end EditBox.Layout
