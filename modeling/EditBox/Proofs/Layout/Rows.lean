import EditBox.Proofs.Layout.Steps
import EditBox.Proofs.Layout.Wrap
import EditBox.Proofs.Text.Tokens
import Mathlib.Algebra.GroupWithZero.Nat

/-!
# Rows as cuts of lines

Whatever its measurer says, wrapping only cuts: the rows of a line are pieces of it, one after
another, and none is empty unless the line is. `Cuts` says so of part of a line, `RowsOf` of a line,
and `exists_block` finds the rows of each line among those of the buffer. The main statement is
`wrapBuffer_lossless`.
-/

namespace EditBox

/-- No text makes the measurer fault. -/
def Measure.Total (m : Measure) : Prop := ∀ text, ∃ w, m.width text = .ok w

/-- The measurer of a plain function measures every text. -/
theorem Measure.total_ofWidth (f : List Char → Nat) : (ofWidth f).Total := fun _ ↦ ⟨_, rfl⟩

namespace Layout

open EditBox.Text

variable {m : Measure} {b : Buffer} {width line col : Nat} {text : List Char} {rows : List Row}

/-- Rows that cut characters of a line, the first of them at a column, into pieces that are not
empty. -/
inductive Cuts (line : Nat) : Nat → List Char → List Row → Prop where
  | done (col : Nat) : Cuts line col [] []
  | row {col : Nat} {piece rest : List Char} {rows : List Row} (hne : piece ≠ [])
      (h : Cuts line (col + piece.length) rest rows) :
      Cuts line col (piece ++ rest) (⟨line, col, piece⟩ :: rows)

namespace Cuts

variable (h : Cuts line col text rows)
include h

/-- The rows belong to the line. -/
theorem line_eq : ∀ r ∈ rows, r.line = line := by
  induction h with
  | done col => simp
  | row hne h ih =>
    intro r hr
    rcases List.mem_cons.mp hr with rfl | hr
    · rfl
    · exact ih r hr

/-- The rows put together give the characters back. -/
theorem flatten_eq : (rows.map Row.text).flatten = text := by
  induction h with
  | done col => rfl
  | row hne h ih => rw [List.map_cons, List.flatten_cons, ih]

/-- No row is empty. -/
theorem text_ne_nil : ∀ r ∈ rows, r.text ≠ [] := by
  induction h with
  | done col => simp
  | row hne h ih =>
    intro r hr
    rcases List.mem_cons.mp hr with rfl | hr
    · exact hne
    · exact ih r hr

private theorem start_eq {i : Nat} {r : Row} (hi : rows[i]? = some r) :
    r.start = col + ((rows.take i).map Row.length).sum := by
  induction h generalizing i with
  | done col => simp at hi
  | @row col piece rest rows hne h ih =>
    cases i with
    | zero =>
      obtain rfl : ⟨line, col, piece⟩ = r := by simpa using hi
      simp
    | succ i =>
      rw [List.getElem?_cons_succ] at hi
      rw [ih hi, List.take_succ_cons, List.map_cons, List.sum_cons, Row.length, Nat.add_assoc]

private theorem length_le : rows.length ≤ text.length := by
  induction h with
  | done col => exact Nat.le_refl 0
  | row hne h ih =>
    have := List.length_pos_iff.mpr hne
    rw [List.length_cons, List.length_append]
    omega

end Cuts

/-- Rows that are taken from tokens cut their characters. -/
theorem Wraps.cuts {tokens : List (List Char)} (hne : [] ∉ tokens)
    (h : Wraps m width line col tokens rows) : Cuts line col tokens.flatten rows := by
  induction h with
  | done col => exact .done col
  | row htakes h ih =>
    rw [← htakes.flatten_eq]
    exact .row (htakes.ne_nil hne) (ih (nil_notMem_tokensFrom hne _))

/-- Wrapped tokens are cut. -/
theorem cuts_wrapTokens {tokens : List (List Char)} (hne : [] ∉ tokens)
    (h : wrapTokens m width line col tokens = .ok rows) : Cuts line col tokens.flatten rows :=
  (wraps_wrapTokens hne h).cuts hne

/-- Rows of a line: one empty row for an empty line, and otherwise a cut of the line. -/
inductive RowsOf (line : Nat) : List Char → List Row → Prop where
  | empty : RowsOf line [] [⟨line, 0, []⟩]
  | cut {text : List Char} {rows : List Row} (hne : text ≠ []) (h : Cuts line 0 text rows) :
      RowsOf line text rows

/-- A wrapped line has rows of it. -/
theorem rowsOf_wrapLine (h : wrapLine m width line text = .ok rows) : RowsOf line text rows := by
  unfold wrapLine at h
  split at h
  · next he =>
    rw [List.isEmpty_iff.mp he]
    cases h
    exact .empty
  · next he =>
    have hne : text ≠ [] := fun ht ↦ he (List.isEmpty_iff.mpr ht)
    have hcuts := cuts_wrapTokens (nil_notMem_splitTokens text) h
    rw [flatten_splitTokens] at hcuts
    exact .cut hne hcuts

namespace RowsOf

variable (h : RowsOf line text rows)
include h

/-- The rows belong to the line. -/
theorem line_eq : ∀ r ∈ rows, r.line = line := by
  cases h with
  | empty => simp
  | cut hne h => exact h.line_eq

private theorem sum_length : (rows.map Row.length).sum = text.length := by
  cases h with
  | empty => rfl
  | cut hne h =>
    rw [← h.flatten_eq, List.length_flatten, List.map_map]
    rfl

private theorem length_le : rows.length ≤ (rows.map Row.length).sum + 1 := by
  rw [h.sum_length]
  cases h with
  | empty => exact Nat.le_refl 1
  | cut hne h => exact Nat.le_succ_of_le h.length_le

/-- A line has a row. -/
theorem ne_nil : rows ≠ [] := by
  cases h with
  | empty => simp
  | cut hne h =>
    rintro rfl
    exact hne h.flatten_eq.symm

end RowsOf

/-- Among rows, those of a line: `these` stand together, after rows of earlier lines and before rows
of later ones. -/
structure Block (b : Buffer) (line : Nat) (rows : List Row) (text : List Char)
    (before these after : List Row) : Prop where
  rows_eq : rows = before ++ (these ++ after)
  lineText : b.lineText line = .ok text
  rowsOf : RowsOf line text these
  line_lt : ∀ r ∈ before, r.line < line
  lt_line : ∀ r ∈ after, line < r.line

private theorem Block.filter_eq {before these after : List Row}
    (h : Block b line rows text before these after) : rows.filter (·.line = line) = these := by
  have hbefore : before.filter (·.line = line) = [] := by
    rw [List.filter_eq_nil_iff]
    intro r hr
    have := h.line_lt r hr
    simp only [decide_eq_true_eq]
    omega
  have hafter : after.filter (·.line = line) = [] := by
    rw [List.filter_eq_nil_iff]
    intro r hr
    have := h.lt_line r hr
    simp only [decide_eq_true_eq]
    omega
  have hthese : these.filter (·.line = line) = these := by
    rw [List.filter_eq_self]
    exact fun r hr ↦ decide_eq_true (h.rowsOf.line_eq r hr)
  rw [h.rows_eq, List.filter_append, List.filter_append, hbefore, hafter, hthese, List.nil_append,
    List.append_nil]

private theorem le_line_of_mem_wrapLines {count : Nat}
    (h : wrapLines m width b line count = .ok rows) :
    ∀ r ∈ rows, line ≤ r.line := by
  induction count generalizing line rows with
  | zero =>
    cases h
    simp
  | succ count ih =>
    obtain ⟨text, -, h⟩ := Fault.bind_eq_ok_iff.mp h
    obtain ⟨first, hfirst, h⟩ := Fault.bind_eq_ok_iff.mp h
    obtain ⟨more, hmore, h⟩ := Fault.bind_eq_ok_iff.mp h
    cases h
    intro r hr
    rcases List.mem_append.mp hr with hr | hr
    · exact Nat.le_of_eq (line_of_mem_wrapLine hfirst r hr).symm
    · exact Nat.le_of_succ_le (ih hmore r hr)

private theorem exists_block_of_wrapLines {first count : Nat}
    (h : wrapLines m width b first count = .ok rows) (hle : first ≤ line)
    (hlt : line < first + count) :
    ∃ text before these after, Block b line rows text before these after := by
  induction count generalizing first rows with
  | zero => omega
  | succ count ih =>
    obtain ⟨text, htext, h⟩ := Fault.bind_eq_ok_iff.mp h
    obtain ⟨these, hthese, h⟩ := Fault.bind_eq_ok_iff.mp h
    obtain ⟨more, hmore, h⟩ := Fault.bind_eq_ok_iff.mp h
    cases h
    rcases Nat.eq_or_lt_of_le hle with rfl | hlt'
    · exact ⟨text, [], these, more, rfl, htext, rowsOf_wrapLine hthese, by simp,
        le_line_of_mem_wrapLines hmore⟩
    · obtain ⟨text', before, these', after, hblock⟩ := ih hmore hlt' (by omega)
      refine ⟨text', these ++ before, these', after, ?_, hblock.lineText, hblock.rowsOf, ?_,
        hblock.lt_line⟩
      · rw [hblock.rows_eq, List.append_assoc]
      · intro r hr
        rcases List.mem_append.mp hr with hr | hr
        · rw [line_of_mem_wrapLine hthese r hr]
          exact hlt'
        · exact hblock.line_lt r hr

/-- Among the rows of a buffer stand those of each of its lines. -/
theorem exists_block {minWidth : Nat} (h : wrapBuffer b width (some m) minWidth = .ok rows)
    (hlt : line < b.lineCount) :
    ∃ text before these after, Block b line rows text before these after :=
  exists_block_of_wrapLines h (Nat.zero_le line) (by omega)

private theorem count_le_length_wrapLines {count : Nat}
    (h : wrapLines m width b line count = .ok rows) :
    count ≤ rows.length := by
  induction count generalizing line rows with
  | zero => exact Nat.zero_le _
  | succ count ih =>
    obtain ⟨text, -, h⟩ := Fault.bind_eq_ok_iff.mp h
    obtain ⟨these, hthese, h⟩ := Fault.bind_eq_ok_iff.mp h
    obtain ⟨more, hmore, h⟩ := Fault.bind_eq_ok_iff.mp h
    cases h
    have hpos := List.length_pos_iff.mpr (rowsOf_wrapLine hthese).ne_nil
    have hle := ih hmore
    rw [List.length_append]
    omega

/-- The rows of the lines from one on hold all characters from its start on, but the line feeds. -/
theorem sum_length_wrapLines {count start : Nat}
    (h : wrapLines m width b line (count + 1) = .ok rows)
    (hcount : line + (count + 1) = b.lineCount) (hs : b.lineStart line = .ok start) :
    start + (rows.map Row.length).sum + count = b.length := by
  induction count generalizing line start rows with
  | zero =>
    obtain ⟨text, htext, h⟩ := Fault.bind_eq_ok_iff.mp h
    obtain ⟨these, hthese, h⟩ := Fault.bind_eq_ok_iff.mp h
    cases h
    obtain ⟨start', hs', -, hlast⟩ := Buffer.next_of_lineText htext
    obtain rfl : start = start' := Except.ok.inj (hs.symm.trans hs')
    have := hlast hcount
    have := (rowsOf_wrapLine hthese).sum_length
    rw [List.append_nil]
    omega
  | succ count ih =>
    obtain ⟨text, htext, h⟩ := Fault.bind_eq_ok_iff.mp h
    obtain ⟨these, hthese, h⟩ := Fault.bind_eq_ok_iff.mp h
    obtain ⟨more, hmore, h⟩ := Fault.bind_eq_ok_iff.mp h
    cases h
    obtain ⟨start', hs', hnext, -⟩ := Buffer.next_of_lineText htext
    obtain rfl : start = start' := Except.ok.inj (hs.symm.trans hs')
    have := ih hmore (by omega) (hnext (by omega))
    have := (rowsOf_wrapLine hthese).sum_length
    rw [List.map_append, List.sum_append]
    omega

/-- The rows of a buffer hold all its characters but the line feeds. -/
theorem sum_length_wrapBuffer {minWidth : Nat}
    (h : wrapBuffer b width (some m) minWidth = .ok rows) :
    (rows.map Row.length).sum + b.lineCount = b.length + 1 ∧ b.lineCount ≤ rows.length := by
  refine ⟨?_, count_le_length_wrapLines h⟩
  obtain ⟨count, hcount⟩ : ∃ count, b.lineCount = count + 1 := ⟨_, b.lineCount_eq⟩
  rw [wrapBuffer, hcount] at h
  have hsum := sum_length_wrapLines h (by omega) b.lineStart_zero
  omega

private theorem length_le_sum_of_wrapLines {count : Nat}
    (h : wrapLines m width b line count = .ok rows) :
    rows.length ≤ (rows.map Row.length).sum + count := by
  induction count generalizing line rows with
  | zero =>
    cases h
    exact Nat.le_refl _
  | succ count ih =>
    obtain ⟨text, -, h⟩ := Fault.bind_eq_ok_iff.mp h
    obtain ⟨these, hthese, h⟩ := Fault.bind_eq_ok_iff.mp h
    obtain ⟨more, hmore, h⟩ := Fault.bind_eq_ok_iff.mp h
    cases h
    have hrest := ih hmore
    have hfirst := (rowsOf_wrapLine hthese).length_le
    rw [List.length_append, List.map_append, List.sum_append]
    omega

/-- A buffer has at most one row more than characters. -/
theorem length_le_of_wrapBuffer {minWidth : Nat}
    (h : wrapBuffer b width (some m) minWidth = .ok rows) : rows.length ≤ b.length + 1 := by
  have hle := length_le_sum_of_wrapLines h
  have hsum := (sum_length_wrapBuffer h).1
  omega

private theorem pairwise_line_wrapLines {count : Nat}
    (h : wrapLines m width b line count = .ok rows) :
    rows.Pairwise (·.line ≤ ·.line) := by
  induction count generalizing line rows with
  | zero =>
    cases h
    exact .nil
  | succ count ih =>
    obtain ⟨text, -, h⟩ := Fault.bind_eq_ok_iff.mp h
    obtain ⟨first, hfirst, h⟩ := Fault.bind_eq_ok_iff.mp h
    obtain ⟨more, hmore, h⟩ := Fault.bind_eq_ok_iff.mp h
    cases h
    have hline := line_of_mem_wrapLine hfirst
    refine List.pairwise_append.mpr ⟨?_, ih hmore, fun r hr r' hr' ↦ ?_⟩
    · refine List.pairwise_iff_forall_sublist.mpr fun {r r'} hsub ↦ ?_
      rw [hline r (hsub.subset (by simp)), hline r' (hsub.subset (by simp))]
    · rw [hline r hr]
      exact Nat.le_of_succ_le (le_line_of_mem_wrapLines hmore r' hr')

section Total

variable (hm : m.Total)
include hm

private theorem exists_fittingPieces (width : Nat) (row : List Char) (pieces : List (List Char)) :
    ∃ n, fittingPieces m width row pieces = .ok n := by
  induction pieces generalizing row with
  | nil => exact ⟨0, rfl⟩
  | cons piece rest ih =>
    obtain ⟨w, hw⟩ := hm (row ++ piece)
    obtain ⟨n, hn⟩ := ih (row ++ piece)
    simp only [fittingPieces, hw, Fault.ok_bind, hn]
    split
    · exact ⟨_, rfl⟩
    · exact ⟨_, rfl⟩

private theorem exists_wrapTokens (width line col : Nat) (tokens : List (List Char)) :
    ∃ rows, wrapTokens m width line col tokens = .ok rows := by
  fun_induction wrapTokens m width line col tokens with
  | case1 => exact ⟨[], rfl⟩
  | case2 col token rest ihCut ihWhole ihPack =>
    obtain ⟨n, hn⟩ := exists_fittingPieces hm width [] (token :: rest)
    rw [hn, Fault.ok_bind]
    cases n with
    | zero =>
      obtain ⟨k, hk⟩ := exists_fittingPieces hm width [] (token.map ([·]))
      simp only [hk, Fault.ok_bind]
      by_cases hc : max 1 k < token.length
      · obtain ⟨more, hmore⟩ := ihCut k hc
        simp only [hc, if_true, hmore]
        exact ⟨_, rfl⟩
      · obtain ⟨more, hmore⟩ := ihWhole k
        simp only [hc, if_false, hmore]
        exact ⟨_, rfl⟩
    | succ n =>
      obtain ⟨more, hmore⟩ := ihPack n
      simp only [hmore]
      exact ⟨_, rfl⟩

/-- A total measurer wraps a line. -/
theorem exists_wrapLine (width line : Nat) (text : List Char) :
    ∃ rows, wrapLine m width line text = .ok rows := by
  unfold wrapLine
  split
  · exact ⟨_, rfl⟩
  · exact exists_wrapTokens hm _ _ _ _

/-- A total measurer wraps a range of lines if the next line has a number. -/
theorem exists_wrapLines (width : Nat) {count : Nat} (h : line + count ≤ b.lineCount)
    (hb : b.lineCount < Bounded.offsetBound) :
    ∃ rows, wrapLines m width b line count = .ok rows := by
  induction count generalizing line with
  | zero => exact ⟨[], rfl⟩
  | succ count ih =>
    obtain ⟨text, htext⟩ := Buffer.exists_lineText (show line < b.lineCount by omega) (by omega)
    obtain ⟨rows, hrows⟩ := exists_wrapLine hm width line text
    obtain ⟨more, hmore⟩ := ih (show line + 1 + count ≤ b.lineCount by omega)
    rw [wrapLines, htext, Fault.ok_bind, hrows, Fault.ok_bind, hmore]
    exact ⟨_, rfl⟩

end Total

/-- What rows keep of a line: put together they give it back, each starts after all rows before it,
an empty line has one empty row, and every row of another line has a character, so that there are at
most as many as characters. -/
structure KeepsLine (line : Nat) (text : List Char) (rows : List Row) : Prop where
  flatten_eq : (rows.map Row.text).flatten = text
  start_eq : ∀ i r, rows[i]? = some r → r.start = ((rows.take i).map Row.length).sum
  of_empty : text = [] → rows = [⟨line, 0, []⟩]
  one_le_length : text ≠ [] → ∀ r ∈ rows, 1 ≤ r.length
  length_le : text ≠ [] → rows.length ≤ text.length

/-- What rows keep of a buffer: they come in the order of its lines, belong to its lines and to all
of them, and keep each line. -/
structure KeepsLines (b : Buffer) (rows : List Row) : Prop where
  pairwise_line : rows.Pairwise (·.line ≤ ·.line)
  exists_mem_iff : ∀ line, (∃ r ∈ rows, r.line = line) ↔ line < b.lineCount
  keepsLine : ∀ line < b.lineCount, ∃ text, b.lineText line = .ok text ∧
    KeepsLine line text (rows.filter (·.line = line))

/-- The rows of a line keep it. -/
theorem RowsOf.keepsLine (h : RowsOf line text rows) : KeepsLine line text rows := by
  cases h with
  | empty =>
    refine ⟨rfl, fun i r hi ↦ ?_, fun _ ↦ rfl, fun h ↦ absurd rfl h, fun h ↦ absurd rfl h⟩
    obtain ⟨hlt, rfl⟩ := List.getElem?_eq_some_iff.mp hi
    obtain rfl : i = 0 := by simpa using hlt
    rfl
  | cut hne h =>
    refine ⟨h.flatten_eq, fun i r hi ↦ ?_, fun ht ↦ absurd ht hne, fun _ r hr ↦ ?_,
      fun _ ↦ h.length_le⟩
    · rw [h.start_eq hi, Nat.zero_add]
    · exact List.length_pos_iff.mpr (h.text_ne_nil r hr)

/-- The rows of a buffer keep it. -/
theorem keepsLines_of_wrapBuffer {minWidth : Nat}
    (h : wrapBuffer b width (some m) minWidth = .ok rows) : KeepsLines b rows := by
  refine ⟨pairwise_line_wrapLines h, fun line ↦ ⟨?_, fun hlt ↦ ?_⟩, fun line hlt ↦ ?_⟩
  · rintro ⟨r, hr, rfl⟩
    exact line_lt_of_mem_wrapBuffer h r hr
  · obtain ⟨text, before, these, after, hblock⟩ := exists_block h hlt
    obtain ⟨r, hr⟩ := List.exists_mem_of_ne_nil these hblock.rowsOf.ne_nil
    refine ⟨r, ?_, hblock.rowsOf.line_eq r hr⟩
    rw [hblock.rows_eq]
    exact List.mem_append_right _ (List.mem_append_left _ hr)
  · obtain ⟨text, before, these, after, hblock⟩ := exists_block h hlt
    refine ⟨text, hblock.lineText, ?_⟩
    rw [hblock.filter_eq]
    exact hblock.rowsOf.keepsLine

/-- Wrapping loses and repeats nothing, for any measurer and any widths. With a total measurer it
has a result as long as lines can be counted; whenever it has one the rows keep the lines of the
buffer; and without a measurer the one row is the whole text. -/
theorem wrapBuffer_lossless (b : Buffer) (width minWidth : Nat) :
    (∀ m : Measure, m.Total → b.lineCount < Bounded.offsetBound →
      ∃ rows, wrapBuffer b width (some m) minWidth = .ok rows) ∧
    (∀ m rows, wrapBuffer b width (some m) minWidth = .ok rows → KeepsLines b rows) ∧
    wrapBuffer b width none minWidth = .ok [⟨0, 0, b.chars⟩] := by
  refine ⟨fun m hm hb ↦ ?_, fun m rows h ↦ keepsLines_of_wrapBuffer h, rfl⟩
  exact exists_wrapLines hm _ (by omega) hb

/-- Wrapping under a measurer for which a longer text may be narrower, with an empty line and a
token that has to be cut. -/
theorem wrapBuffer_lossless_ligating :
    Measure.ligating.Total ∧ ∃ rows,
      wrapBuffer (.ofText ['o', 'f', 'f', '\n', '\n', 'f', 'i']) 20 (some .ligating) 10 = .ok rows ∧
        KeepsLines (.ofText ['o', 'f', 'f', '\n', '\n', 'f', 'i']) rows := by
  have htotal : Measure.ligating.Total := fun _ ↦ ⟨_, rfl⟩
  obtain ⟨hexists, hkeeps, -⟩ :=
    wrapBuffer_lossless (.ofText ['o', 'f', 'f', '\n', '\n', 'f', 'i']) 20 10
  obtain ⟨rows, hrows⟩ := hexists .ligating htotal (by decide)
  exact ⟨htotal, rows, hrows, hkeeps _ _ hrows⟩

end Layout

end EditBox
