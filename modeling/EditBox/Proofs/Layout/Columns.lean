import EditBox.Proofs.Layout.Order
import EditBox.Proofs.Text.Index
import Mathlib.Data.Prod.Lex

/-!
# Offsets as lines and columns

An offset of the text and its line with its column stand for each other: `lineColToOffset` undoes
`offsetToLineCol`, and the other way round on every column that a line has. Arguments outside the
text stand for the nearest place inside. The order of offsets is that of lines and then columns. The
main statement is `columns_match_offsets`.
-/

namespace EditBox.Layout

open EditBox.Text

variable {b : Buffer} {line col start stop : Nat}

private theorem exists_offsetToLineCol (b : Buffer) (offset : Nat) :
    ∃ start, b.lineStart (b.lineOf (min offset b.length)) = .ok start ∧
      start ≤ min offset b.length ∧
      offsetToLineCol b offset =
        .ok (b.lineOf (min offset b.length), min offset b.length - start) := by
  have hoffset : min offset b.length ≤ b.length := Nat.min_le_right _ _
  obtain ⟨start, stop, hl, hs, -⟩ := Buffer.exists_lineAt hoffset
  refine ⟨start, hs, hl.start_le, ?_⟩
  rw [← offsetToLineCol_min]
  exact offsetToLineCol_eq hoffset rfl hs hl.start_le

private theorem lineColToOffset_min (b : Buffer) (line col : Nat) :
    lineColToOffset b (min line (b.lineCount - 1)) col = lineColToOffset b line col := by
  rw [lineColToOffset, lineColToOffset, Nat.min_assoc, Nat.min_self]

private theorem lineLength_eq (hs : b.lineStart line = .ok start) (he : b.lineEnd line = .ok stop) :
    b.lineLength line = .ok (stop - start) := by
  have hle := (Buffer.lineOf_gt_iff hs he (Nat.le_refl b.length)).1
  rw [Buffer.lineLength, he, Fault.ok_bind, hs, Fault.ok_bind, Bounded.sub_eq_ok hle]

private theorem lineColToOffset_eq (hs : b.lineStart line = .ok start)
    (he : b.lineEnd line = .ok stop) (col : Nat) :
    lineColToOffset b line col = .ok (start + min col (stop - start)) := by
  have hline : line ≤ b.lineCount - 1 := Nat.le_sub_one_of_lt (Buffer.line_lt_of_lineStart hs)
  rw [lineColToOffset, Nat.min_eq_left hline, hs, Fault.ok_bind, lineLength_eq hs he]
  rfl

section Counted

variable (hb : b.lineCount < Bounded.offsetBound)
include hb

private theorem exists_line (hline : line < b.lineCount) :
    ∃ start stop, b.lineStart line = .ok start ∧ b.lineEnd line = .ok stop := by
  obtain ⟨start, hs⟩ := Buffer.exists_lineStart_eq_ok hline
  have hnumber : line + 1 < Bounded.offsetBound := by omega
  obtain ⟨stop, he⟩ := b.exists_lineEnd hnumber
  exact ⟨start, stop, hs, he⟩

/-- The line and column of an offset lead back to it, and those of an offset past the end to the
end. -/
theorem exists_lineColToOffset_of_offset (offset : Nat) :
    ∃ line col, offsetToLineCol b offset = .ok (line, col) ∧
      lineColToOffset b line col = .ok (min offset b.length) := by
  obtain ⟨start, hs, hle, hplace⟩ := exists_offsetToLineCol b offset
  obtain ⟨start', stop, hs', he, -, hstop⟩ :=
    ((Buffer.madeOfLines hb).lineOf_eq_iff _ (Nat.min_le_right offset b.length) _).mp rfl
  obtain rfl : start = start' := Except.ok.inj (hs.symm.trans hs')
  refine ⟨_, _, hplace, ?_⟩
  rw [lineColToOffset_eq hs he]
  exact congrArg Except.ok (by omega)

/-- A line and column stand for an offset with that line and column, where a line past the last
counts as the last and a column past the end of the line as the end. -/
theorem exists_offsetToLineCol_of_column (line col : Nat) :
    ∃ offset length, lineColToOffset b line col = .ok offset ∧
      b.lineLength (min line (b.lineCount - 1)) = .ok length ∧
      offsetToLineCol b offset = .ok (min line (b.lineCount - 1), min col length) := by
  have hline : min line (b.lineCount - 1) < b.lineCount := by
    rw [Buffer.lineCount_eq]
    omega
  obtain ⟨start, stop, hs, he⟩ := exists_line hb hline
  have hle := (Buffer.lineOf_gt_iff hs he (Nat.le_refl b.length)).1
  have hstop := Buffer.lineEnd_le he
  have hoffset : start + min col (stop - start) ≤ b.length := by omega
  have hplace : b.lineOf (start + min col (stop - start)) = min line (b.lineCount - 1) :=
    ((Buffer.madeOfLines hb).lineOf_eq_iff _ hoffset _).mpr
      ⟨start, stop, hs, he, by omega, by omega⟩
  refine ⟨start + min col (stop - start), stop - start, ?_, lineLength_eq hs he, ?_⟩
  · rw [← lineColToOffset_min, lineColToOffset_eq hs he]
  · rw [offsetToLineCol_eq hoffset hplace hs (by omega), Nat.add_sub_cancel_left]

end Counted

private theorem offsetToLineCol_mono {first second : Nat} {place place' : Nat × Nat}
    (hle : first ≤ second) (h : offsetToLineCol b first = .ok place)
    (h' : offsetToLineCol b second = .ok place') : toLex place ≤ toLex place' := by
  obtain ⟨start, hs, hstart, heq⟩ := exists_offsetToLineCol b first
  obtain ⟨start', hs', hstart', heq'⟩ := exists_offsetToLineCol b second
  obtain rfl := Except.ok.inj (h.symm.trans heq)
  obtain rfl := Except.ok.inj (h'.symm.trans heq')
  have hmin : min first b.length ≤ min second b.length := by omega
  rw [Prod.Lex.toLex_le_toLex]
  rcases Nat.lt_or_eq_of_le (Buffer.lineOf_mono hmin (b := b)) with hlt | hsame
  · exact .inl hlt
  · rw [hsame] at hs
    obtain rfl : start = start' := Except.ok.inj (hs.symm.trans hs')
    exact .inr ⟨hsame, by dsimp only; omega⟩

/-- Offsets of a text whose lines can be counted match lines and columns, in the same order. An
offset leads to a line and column that lead back to it, or to the end of the text when it lies past
it. Every column of every line leads to an offset that leads back to it; any other line and column
leads to the nearest, the line brought down first. -/
theorem columns_match_offsets (hb : b.lineCount < Bounded.offsetBound) :
    (∀ offset, ∃ line col, offsetToLineCol b offset = .ok (line, col) ∧
      lineColToOffset b line col = .ok (min offset b.length)) ∧
    (∀ line < b.lineCount, ∃ length, b.lineLength line = .ok length ∧
      ∀ col ≤ length, ∃ offset, lineColToOffset b line col = .ok offset ∧
        offsetToLineCol b offset = .ok (line, col)) ∧
    (∀ line col, ∃ offset length, lineColToOffset b line col = .ok offset ∧
      b.lineLength (min line (b.lineCount - 1)) = .ok length ∧
      offsetToLineCol b offset = .ok (min line (b.lineCount - 1), min col length)) ∧
    ∀ first second place place', first ≤ second → offsetToLineCol b first = .ok place →
      offsetToLineCol b second = .ok place' → toLex place ≤ toLex place' := by
  refine ⟨exists_lineColToOffset_of_offset hb, fun line hline ↦ ?_,
    exists_offsetToLineCol_of_column hb, fun _ _ _ _ ↦ offsetToLineCol_mono⟩
  obtain ⟨start, stop, hs, he⟩ := exists_line hb hline
  refine ⟨_, lineLength_eq hs he, fun col hcol ↦ ?_⟩
  obtain ⟨offset, length, hoffset, hlength, hplace⟩ := exists_offsetToLineCol_of_column hb line col
  rw [Nat.min_eq_left (Nat.le_sub_one_of_lt hline)] at hlength hplace
  obtain rfl := Except.ok.inj (hlength.symm.trans (lineLength_eq hs he))
  rw [Nat.min_eq_left hcol] at hplace
  exact ⟨offset, hoffset, hplace⟩

/-- Around an empty last line: an offset past the end, the end of the first line, a line and column
past the last, and the offsets before and behind a line feed. -/
theorem columns_match_offsets_empty :
    let b := Buffer.ofText ['a', 'b', '\n', '\n']
    b.lineCount < Bounded.offsetBound ∧
      (∃ line col, offsetToLineCol b 9 = .ok (line, col) ∧
        lineColToOffset b line col = .ok 4) ∧
      (∃ offset, lineColToOffset b 0 2 = .ok offset ∧ offsetToLineCol b offset = .ok (0, 2)) ∧
      (∃ offset, lineColToOffset b 7 5 = .ok offset ∧ offsetToLineCol b offset = .ok (2, 0)) ∧
      toLex (0, 2) ≤ toLex (1, 0) := by
  intro b
  have hb : b.lineCount < Bounded.offsetBound := by decide
  obtain ⟨hback, hcolumn, hnearest, hmono⟩ := columns_match_offsets hb
  refine ⟨hb, hback 9, ?_, ?_, hmono 2 3 _ _ (by decide) rfl rfl⟩
  · obtain ⟨length, hlength, hcols⟩ := hcolumn 0 (by decide)
    cases hlength
    exact hcols 2 (by decide)
  · obtain ⟨offset, length, hoffset, hlength, hplace⟩ := hnearest 7 5
    cases hlength
    exact ⟨offset, hoffset, hplace⟩

end EditBox.Layout
