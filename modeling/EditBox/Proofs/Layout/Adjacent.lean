import EditBox.Proofs.Layout.Places

/-!
# Rows one after another

What one row of a layout says about the next: it goes on in the same line where the row stops, or
begins the next line after the last row of this one. `Follows` is that relation, and the rows of a
layout are a chain of it. From the chain come the offsets of the rows, and which of them carry the
number of their line: the first of each line, so that the numbers of any run of rows count up.
-/

namespace EditBox

open EditBox.Text

namespace Layout

/-- A row goes on in the line of the row before it, or begins the next line after the end of that
one. -/
inductive Follows (b : Buffer) (r r' : Row) : Prop where
  | within (hline : r'.line = r.line) (hstart : r'.start = r.stop) (hpos : 0 < r'.start)
  | next {text : List Char} (htext : b.lineText r.line = .ok text)
      (hstop : r.stop = text.length) (hline : r'.line = r.line + 1) (hstart : r'.start = 0)

variable {b : Buffer} {m : Measure} {measure : Option Measure} {options : LayoutOptions}
  {width line col row : Nat} {text : List Char} {rows : List Row} {r r' : Row}

/-- A row begins at an offset of the text. -/
def Row.StartsAt (b : Buffer) (r : Row) (offset : Nat) : Prop :=
  ∃ start, b.lineStart r.line = .ok start ∧ offset = start + r.start

/-- A row that follows another begins where that one ends, or one line feed after it in the next
line. -/
theorem Follows.startsAt {offset offset' : Nat} (h : Follows b r r')
    (hr : r.StartsAt b offset) (hr' : r'.StartsAt b offset') :
    (r'.line = r.line ∧ offset' = offset + r.length) ∨
      (r'.line = r.line + 1 ∧ offset' = offset + r.length + 1) := by
  obtain ⟨start, hstart, rfl⟩ := hr
  obtain ⟨start', hstart', rfl⟩ := hr'
  cases h with
  | within hline hstop hpos =>
    rw [hline, hstart] at hstart'
    cases hstart'
    rw [Row.stop] at hstop
    exact .inl ⟨hline, by omega⟩
  | next htext hstop hline hzero =>
    have hlt := Buffer.line_lt_of_lineStart hstart'
    obtain ⟨start'', hs, hnext, -⟩ := Buffer.next_of_lineText htext
    rw [hstart] at hs
    cases hs
    rw [hline] at hlt
    rw [hline, hnext hlt] at hstart'
    cases hstart'
    rw [Row.stop] at hstop
    exact .inr ⟨hline, by omega⟩

namespace Cuts

variable (h : Cuts line col text rows)
include h

private theorem start_of_head (hr : rows.head? = some r) : r.start = col := by
  cases h with
  | done => cases hr
  | row hne h =>
    cases hr
    rfl

private theorem stop_of_getLast (hr : rows.getLast? = some r) : r.stop = col + text.length := by
  induction h with
  | done col => cases hr
  | @row col piece rest rows hne h ih =>
    rw [List.length_append]
    cases rows with
    | nil =>
      cases h
      cases hr
      simp [Row.stop, Row.length]
    | cons next rows =>
      rw [List.getLast?_cons_cons] at hr
      have := ih hr
      omega

private theorem isChain (b : Buffer) : rows.IsChain (Follows b) := by
  induction h with
  | done col => exact .nil
  | @row col piece rest rows hne h ih =>
    refine List.isChain_cons.mpr ⟨fun next hnext ↦ ?_, ih⟩
    have hstart := h.start_of_head hnext
    have hline := h.line_eq next (List.mem_of_mem_head? hnext)
    have hpos := List.length_pos_iff.mpr hne
    exact .within hline hstart (by omega)

private theorem text_eq (hr : r ∈ rows) : r.text = (text.drop (r.start - col)).take r.length := by
  induction h with
  | done col => cases hr
  | @row col piece rest rows hne h ih =>
    rcases List.mem_cons.mp hr with rfl | hr
    · simp [Row.length]
    · have hle := (h.start_le_and_stop_le r hr).1
      have hskip : r.start - col = piece.length + (r.start - (col + piece.length)) := by omega
      rw [hskip, ← List.drop_drop, List.drop_left]
      exact ih hr

end Cuts

namespace RowsOf

variable (h : RowsOf line text rows)
include h

private theorem start_of_head (hr : rows.head? = some r) : r.start = 0 := by
  cases h with
  | empty =>
    cases hr
    rfl
  | cut hne h => exact h.start_of_head hr

private theorem stop_of_getLast (hr : rows.getLast? = some r) : r.stop = text.length := by
  cases h with
  | empty =>
    cases hr
    rfl
  | cut hne h =>
    have := h.stop_of_getLast hr
    omega

private theorem isChain (b : Buffer) : rows.IsChain (Follows b) := by
  cases h with
  | empty => exact .singleton _
  | cut hne h => exact h.isChain b

private theorem text_eq (hr : r ∈ rows) : r.text = (text.drop r.start).take r.length := by
  cases h with
  | empty =>
    rw [List.mem_singleton.mp hr]
    rfl
  | cut hne h => exact h.text_eq hr

end RowsOf

private theorem head_wrapLines {count : Nat} (h : wrapLines m width b line count = .ok rows)
    (hr : rows.head? = some r) : r.line = line ∧ r.start = 0 := by
  cases count with
  | zero =>
    cases h
    cases hr
  | succ count =>
    obtain ⟨text, -, h⟩ := Fault.bind_eq_ok_iff.mp h
    obtain ⟨these, hthese, h⟩ := Fault.bind_eq_ok_iff.mp h
    obtain ⟨more, -, h⟩ := Fault.bind_eq_ok_iff.mp h
    cases h
    have hrows := rowsOf_wrapLine hthese
    rw [List.head?_append_of_ne_nil _ hrows.ne_nil] at hr
    exact ⟨hrows.line_eq r (List.mem_of_mem_head? hr), hrows.start_of_head hr⟩

/-- The rows of a range of lines follow each other. -/
theorem isChain_wrapLines {count : Nat} (h : wrapLines m width b line count = .ok rows) :
    rows.IsChain (Follows b) := by
  induction count generalizing line rows with
  | zero =>
    cases h
    exact .nil
  | succ count ih =>
    obtain ⟨text, htext, h⟩ := Fault.bind_eq_ok_iff.mp h
    obtain ⟨these, hthese, h⟩ := Fault.bind_eq_ok_iff.mp h
    obtain ⟨more, hmore, h⟩ := Fault.bind_eq_ok_iff.mp h
    cases h
    have hrows := rowsOf_wrapLine hthese
    refine List.isChain_append.mpr ⟨hrows.isChain b, ih hmore, fun last hlast next hnext ↦ ?_⟩
    obtain ⟨hline, hstart⟩ := head_wrapLines hmore hnext
    obtain rfl : last.line = line := hrows.line_eq last (List.mem_of_mem_getLast? hlast)
    exact .next htext (hrows.stop_of_getLast hlast) hline hstart

/-- The rows of a buffer follow each other, the first of them at the start of the text. -/
theorem isChain_wrapBuffer {minWidth : Nat} (h : wrapBuffer b width measure minWidth = .ok rows) :
    rows.IsChain (Follows b) ∧ ∀ r, rows.head? = some r → r.line = 0 ∧ r.start = 0 := by
  cases measure with
  | none =>
    cases h
    refine ⟨.singleton _, fun r hr ↦ ?_⟩
    cases hr
    exact ⟨rfl, rfl⟩
  | some m => exact ⟨isChain_wrapLines h, fun r hr ↦ head_wrapLines h hr⟩

/-- Number of the line of a row, counted from 1, on the first row of the line. -/
def Row.number (r : Row) : Option Nat := if r.start = 0 then some (r.line + 1) else none

private theorem Row.number_of_eq (h : r.start = 0) : r.number = some (r.line + 1) := if_pos h

private theorem Row.number_of_ne (h : r.start ≠ 0) : r.number = none := if_neg h

/-- Of rows that follow each other, those after the first carry the numbers of the lines after that
of the first. -/
theorem exists_filterMap_number (h : (r :: rows).IsChain (Follows b)) :
    ∃ count, rows.filterMap Row.number = List.range' (r.line + 2) count := by
  induction rows generalizing r with
  | nil => exact ⟨0, rfl⟩
  | cons r' rows ih =>
    obtain ⟨hfollows, hrest⟩ := List.isChain_cons_cons.mp h
    obtain ⟨count, hcount⟩ := ih hrest
    cases hfollows with
    | within hline hstart hpos =>
      refine ⟨count, ?_⟩
      rw [List.filterMap_cons_none (Row.number_of_ne (Nat.ne_of_gt hpos)), hcount, hline]
    | next htext hstop hline hstart =>
      refine ⟨count + 1, ?_⟩
      rw [List.filterMap_cons_some (Row.number_of_eq hstart), hcount, hline, List.range'_succ]

/-- The numbers on rows that follow each other count up, without a gap and without a repetition. -/
theorem exists_filterMap_number_eq_range' (h : rows.IsChain (Follows b)) :
    ∃ first count, rows.filterMap Row.number = List.range' first count := by
  cases rows with
  | nil => exact ⟨0, 0, rfl⟩
  | cons r rows =>
    obtain ⟨count, hcount⟩ := exists_filterMap_number h
    by_cases hstart : r.start = 0
    · refine ⟨r.line + 1, count + 1, ?_⟩
      rw [List.filterMap_cons_some (Row.number_of_eq hstart), hcount, List.range'_succ]
    · refine ⟨r.line + 2, count, ?_⟩
      rw [List.filterMap_cons_none (Row.number_of_ne hstart), hcount]

/-- There is a row before any but the first. -/
theorem LayoutCache.exists_row_before {c : LayoutCache} (hr : c.row? (row + 1) = some r) :
    ∃ before, c.row? row = some before :=
  ⟨_, List.getElem?_eq_getElem (Nat.lt_of_succ_lt (List.getElem?_eq_some_iff.mp hr).1)⟩

section Shows

variable {c : LayoutCache} (h : c.Shows b width measure options)
include h

/-- The rows of a layout follow each other. -/
theorem LayoutCache.Shows.isChain : c.rows.IsChain (Follows b) := (isChain_wrapBuffer h.rows).1

/-- Each row of a layout follows the one before it. -/
theorem LayoutCache.Shows.follows (hr : c.row? row = some r) (hr' : c.row? (row + 1) = some r') :
    Follows b r r' := by
  obtain ⟨hlt, rfl⟩ := List.getElem?_eq_some_iff.mp hr'
  obtain ⟨-, rfl⟩ := List.getElem?_eq_some_iff.mp hr
  exact List.isChain_iff_getElem.mp h.isChain row hlt

private theorem LayoutCache.Shows.line_le {row' : Nat} (hr : c.row? row = some r)
    (hr' : c.row? row' = some r') (hle : row ≤ row') : r.line ≤ r'.line := by
  induction hle generalizing r' with
  | refl => rw [Option.some.inj (hr.symm.trans hr')]
  | step hle ih =>
    obtain ⟨before, hbefore⟩ := LayoutCache.exists_row_before hr'
    have hle' := ih hbefore
    cases h.follows hbefore hr' with
    | within hline => omega
    | next htext hstop hline => omega

/-- A row begins its line exactly if no row before it belongs to the line. -/
theorem LayoutCache.Shows.start_eq_zero_iff (hr : c.row? row = some r) :
    r.start = 0 ↔ ∀ row' r', row' < row → c.row? row' = some r' → r'.line ≠ r.line := by
  cases row with
  | zero =>
    have hfirst := ((isChain_wrapBuffer h.rows).2 r (List.head?_eq_getElem?.trans hr)).2
    simp [hfirst]
  | succ row =>
    obtain ⟨before, hbefore⟩ := LayoutCache.exists_row_before hr
    have hfollows := h.follows hbefore hr
    constructor
    · intro hstart row' r' hlt hr'
      cases hfollows with
      | within hline hstop hpos => omega
      | next htext hstop hline =>
        have := h.line_le hr' hbefore (Nat.le_of_lt_succ hlt)
        omega
    · intro hnone
      cases hfollows with
      | within hline =>
        exact absurd hline.symm (hnone row before (Nat.lt_succ_self row) hbefore)
      | next htext hstop hline hstart => exact hstart

/-- A row of a layout holds the characters from its offset on. -/
theorem LayoutCache.Shows.text_eq {offset : Nat} (hr : c.row? row = some r)
    (hs : r.StartsAt b offset) : r.text = (b.chars.drop offset).take r.length := by
  obtain ⟨start, hstart, rfl⟩ := hs
  cases measure with
  | none =>
    obtain ⟨rfl, rfl⟩ := h.row?_of_none.mp hr
    rw [b.lineStart_zero] at hstart
    cases hstart
    simp [Row.length]
  | some m =>
    obtain ⟨text, before, these, after, k, hblock, rfl, hk⟩ := h.exists_block_of_row hr
    have hmem := List.mem_of_getElem? hk
    have hstop := hblock.rowsOf.stop_le r hmem
    rw [Row.stop] at hstop
    calc r.text = (text.drop r.start).take r.length := hblock.rowsOf.text_eq hmem
      _ = (((b.chars.drop start).take text.length).drop r.start).take r.length := by
        rw [← Buffer.eq_take_of_lineText hblock.lineText hstart]
      _ = (b.chars.drop (start + r.start)).take r.length := by
        rw [List.drop_take, List.take_take, List.drop_drop, Nat.min_eq_left (by omega)]

end Shows

end Layout

end EditBox
