import EditBox.Proofs.Outcome
import EditBox.Proofs.Text.Words

/-!
# Lookups in the text

A lookup of a line that the buffer has stops only where the number of the next line leaves its
width, and so does a motion from any offset. In a text short enough to number its lines neither
stops at all.
-/

namespace EditBox.Text

variable {measure : Option Measure} {b : Buffer} {line : Nat}

namespace Buffer

/-- The first line starts the text. -/
theorem lineStart_zero (b : Buffer) : b.lineStart 0 = .ok 0 := by
  rw [lineStart, b.lines_eq]
  rfl

/-- A line that the buffer has starts somewhere. -/
theorem exists_lineStart_eq_ok (h : line < b.lineCount) :
    ∃ start, b.lineStart line = .ok start := by
  rw [lineCount, LineIndex.lineCount] at h
  exact ⟨_, LineIndex.lineStart_eq_ok_iff.mpr (List.getElem?_eq_getElem h)⟩

/-- Only the lines that the buffer has start somewhere. -/
theorem line_lt_of_lineStart {start : Nat} (h : b.lineStart line = .ok start) :
    line < b.lineCount :=
  (List.getElem?_eq_some_iff.mp (LineIndex.lineStart_eq_ok_iff.mp h)).1

/-- The start of a line that the buffer has is found. -/
theorem safe_lineStart (h : line < b.lineCount) : Safe measure (b.lineStart line) := by
  obtain ⟨start, hs⟩ := exists_lineStart_eq_ok h
  exact .of_eq_ok hs

/-- The start of the line of an offset is found. -/
theorem safe_lineStart_lineOf (b : Buffer) (offset : Nat) :
    Safe measure (b.lineStart (b.lineOf offset)) :=
  safe_lineStart (b.lineOf_lt_lineCount offset)

/-- The end of a line is found if the next line has a number. -/
theorem safe_lineEnd (b : Buffer) (line : Nat) : Safe measure (b.lineEnd line) := by
  apply Safe.bind (Safe.add _ _ _)
  intro next _
  split
  · exact .ok _
  · exact .ok _

/-- Lines start within the text. -/
theorem le_length_of_mem_starts {s : Nat} (h : s ∈ b.lines.starts) : s ≤ b.length := by
  rw [b.lines_eq, LineIndex.mem_starts_of] at h
  rcases h with rfl | ⟨i, hi, rfl⟩
  · exact Nat.zero_le _
  · exact (List.getElem?_eq_some_iff.mp hi).1

/-- Lines end within the text. -/
theorem lineEnd_le {stop : Nat} (h : b.lineEnd line = .ok stop) : stop ≤ b.length := by
  obtain ⟨next, -, h⟩ := Fault.bind_eq_ok_iff.mp h
  split at h
  · next start hs =>
    cases h
    exact Nat.le_trans (Nat.sub_le _ _) (le_length_of_mem_starts (List.mem_of_getElem? hs))
  · cases h
    exact Nat.le_refl _

/-- A line ends at or after its start, and the offsets after its end lie on later lines. -/
theorem lineOf_gt_iff {start stop offset : Nat} (hs : b.lineStart line = .ok start)
    (he : b.lineEnd line = .ok stop) (ho : offset ≤ b.length) :
    start ≤ stop ∧ (line < b.lineOf offset ↔ stop < offset) := by
  rw [lineStart, b.lines_eq, LineIndex.lineStart_eq_ok_iff] at hs
  obtain ⟨next, hn, he⟩ := Fault.bind_eq_ok_iff.mp he
  obtain ⟨-, rfl⟩ := Bounded.add_eq_ok_iff.mp hn
  rw [b.lines_eq] at he
  cases hnext : (LineIndex.of b.chars).starts[line + 1]? with
  | some next =>
    rw [hnext] at he
    cases he
    have hlt : start < next := by
      obtain ⟨hline, rfl⟩ := List.getElem?_eq_some_iff.mp hs
      obtain ⟨hlater, rfl⟩ := List.getElem?_eq_some_iff.mp hnext
      exact List.pairwise_iff_getElem.mp (LineIndex.pairwise_starts_of b.chars) _ _ hline hlater
        (Nat.lt_succ_self line)
    rw [← Nat.succ_le_iff, ← start_le_iff hnext]
    omega
  | none =>
    rw [hnext] at he
    cases he
    have hline := b.lineOf_lt_lineCount offset
    rw [lineCount, b.lines_eq, LineIndex.lineCount] at hline
    have hcount := List.getElem?_eq_none_iff.mp hnext
    refine ⟨le_length_of_mem_starts ?_, ?_⟩
    · rw [b.lines_eq]
      exact List.mem_of_getElem? hs
    · omega

/-- A line of characters starts somewhere and ends as many characters later, within the text. -/
theorem exists_lineStart_of_lineText {text : List Char} (h : b.lineText line = .ok text) :
    ∃ start, b.lineStart line = .ok start ∧ start + text.length ≤ b.length ∧
      ∀ offset ≤ b.length,
        b.lineOf offset = line ↔ start ≤ offset ∧ offset ≤ start + text.length := by
  obtain ⟨start, hs, h⟩ := Fault.bind_eq_ok_iff.mp h
  obtain ⟨stop, he, h⟩ := Fault.bind_eq_ok_iff.mp h
  have hstop := lineEnd_le he
  rw [substring_eq_ok hstop] at h
  cases h
  have hlength : ((b.chars.drop start).take (stop - start)).length = stop - start := by
    rw [List.length_take, List.length_drop]
    have : stop ≤ b.chars.length := hstop
    omega
  have hle := (lineOf_gt_iff hs he (Nat.le_refl b.length)).1
  rw [hlength]
  refine ⟨start, hs, by omega, fun offset ho ↦ ?_⟩
  have hstart : start ≤ offset ↔ line ≤ b.lineOf offset := by
    rw [lineStart, b.lines_eq, LineIndex.lineStart_eq_ok_iff] at hs
    exact start_le_iff hs
  have hlater := (lineOf_gt_iff hs he ho).2
  omega

/-- The text of a line is what the buffer holds from the start of the line on. -/
theorem eq_take_of_lineText {text : List Char} {start : Nat} (h : b.lineText line = .ok text)
    (hs : b.lineStart line = .ok start) : text = (b.chars.drop start).take text.length := by
  rw [lineText, hs, Fault.ok_bind] at h
  obtain ⟨stop, he, h⟩ := Fault.bind_eq_ok_iff.mp h
  rw [substring_eq_ok (lineEnd_le he)] at h
  cases h
  exact List.prefix_iff_eq_take.mp (List.take_prefix _ _)

private theorem safe_substring {start stop : Nat} (h : stop ≤ b.length) :
    Safe measure (b.substring start stop) :=
  .of_eq_ok (substring_eq_ok h)

/-- The characters of a line that the buffer has are found. -/
theorem safe_lineText (h : line < b.lineCount) : Safe measure (b.lineText line) := by
  apply Safe.bind (safe_lineStart h)
  intro start _
  apply Safe.bind (safe_lineEnd b line)
  intro stop hstop
  exact safe_substring (lineEnd_le hstop)

/-- The end of a line is found if the next line has a number. -/
theorem exists_lineEnd (hb : line + 1 < Bounded.offsetBound) :
    ∃ stop, b.lineEnd line = .ok stop := by
  rw [lineEnd, LineIndex.lineEnd, Bounded.add_eq_ok hb, Fault.ok_bind]
  split
  · exact ⟨_, rfl⟩
  · exact ⟨_, rfl⟩

/-- The characters of a line are found if the next line has a number. -/
theorem exists_lineText (h : line < b.lineCount) (hb : line + 1 < Bounded.offsetBound) :
    ∃ text, b.lineText line = .ok text := by
  obtain ⟨start, hs⟩ := exists_lineStart_eq_ok h
  obtain ⟨stop, he⟩ := exists_lineEnd hb
  rw [lineText, hs, Fault.ok_bind, he, Fault.ok_bind, substring_eq_ok (lineEnd_le he)]
  exact ⟨_, rfl⟩

/-- A text has at most one line more than characters. -/
theorem lineCount_le (b : Buffer) : b.lineCount ≤ b.length + 1 := by
  rw [lineCount_eq]
  exact Nat.succ_le_succ List.count_le_length

/-- The line of an offset has a number that can be followed by another. -/
theorem lineOf_add_one_lt (hb : b.lineCount < Bounded.offsetBound) (offset : Nat) :
    b.lineOf offset + 1 < Bounded.offsetBound := by
  have := b.lineOf_lt_lineCount offset
  omega

/-- The next line starts behind the line feed that closes a line of characters, and the last line
ends with the text. -/
theorem next_of_lineText {text : List Char} (h : b.lineText line = .ok text) :
    ∃ start, b.lineStart line = .ok start ∧
      (line + 1 < b.lineCount → b.lineStart (line + 1) = .ok (start + text.length + 1)) ∧
      (line + 1 = b.lineCount → start + text.length = b.length) := by
  obtain ⟨start, hs, hle, hlineOf⟩ := exists_lineStart_of_lineText h
  have hline (offset : Nat) : start ≤ offset ↔ line ≤ b.lineOf offset := by
    rw [lineStart, b.lines_eq, LineIndex.lineStart_eq_ok_iff] at hs
    exact start_le_iff hs
  refine ⟨start, hs, fun hlt ↦ ?_, fun hlast ↦ ?_⟩
  · obtain ⟨next, hnext⟩ := exists_lineStart_eq_ok hlt
    have hentry := hnext
    rw [lineStart, LineIndex.lineStart_eq_ok_iff] at hentry
    have hbound := le_length_of_mem_starts (List.mem_of_getElem? hentry)
    rw [b.lines_eq] at hentry
    -- The end of the line is before the next start, and the offset before that start on the line.
    have hend := (hlineOf _ hle).mpr ⟨Nat.le_add_right _ _, Nat.le_refl _⟩
    have hafter : start + text.length < next := by
      rw [← Nat.not_le, start_le_iff hentry]
      omega
    have hbefore : ¬ line + 1 ≤ b.lineOf (next - 1) := by
      rw [← start_le_iff hentry]
      omega
    have hthere : b.lineOf (next - 1) = line := by
      have := (hline (next - 1)).mp (by omega)
      omega
    have hstop := ((hlineOf (next - 1) (by omega)).mp hthere).2
    have hadjacent : next = start + text.length + 1 := by omega
    rw [hnext, hadjacent]
  · have hthere : b.lineOf b.length = line := by
      have := b.lineOf_lt_lineCount b.length
      have := (hline b.length).mp (by omega)
      omega
    have hstop := ((hlineOf b.length (Nat.le_refl _)).mp hthere).2
    omega

end Buffer

namespace Motion

open Buffer

/-- The place of an offset is found. -/
theorem safe_place (b : Buffer) (offset : Nat) : Safe measure (place b offset) := by
  apply Safe.bind (safe_lineStart_lineOf b offset)
  intro start _
  exact Safe.bind (Safe.sub _ _) fun column _ ↦ .ok _

private theorem line_lt_of_place {offset : Nat} {p : Place} (h : place b offset = .ok p) :
    p.line < b.lineCount := by
  obtain ⟨start, -, h⟩ := Fault.bind_eq_ok_iff.mp h
  obtain ⟨column, -, h⟩ := Fault.bind_eq_ok_iff.mp h
  cases h
  exact b.lineOf_lt_lineCount offset

/-- The characters of the line of a place are found. -/
theorem safe_lineText_place {offset : Nat} {p : Place} (h : place b offset = .ok p) :
    Safe measure (b.lineText p.line) :=
  safe_lineText (line_lt_of_place h)

/-- One character to the right. -/
theorem safe_right (b : Buffer) (caret : Nat) : Safe measure (right b caret) :=
  Safe.bind (Safe.add _ _ _) fun _ _ ↦ .ok _

/-- One word to the left. -/
theorem safe_wordLeft (b : Buffer) (caret : Nat) : Safe measure (wordLeft b caret) := by
  refine Safe.ite (fun _ ↦ .ok _) fun _ ↦ ?_
  apply Safe.bind (safe_place b _)
  intro p hp
  refine Safe.ite (fun _ ↦ ?_) fun _ ↦ ?_
  · exact Safe.bind (Safe.sub _ _) fun previous _ ↦ safe_lineEnd b previous
  · apply Safe.bind (safe_lineText_place hp)
    intro text _
    exact Safe.ite (fun _ ↦ Safe.sub _ _) fun _ ↦ .ok _

/-- One word to the right. -/
theorem safe_wordRight (b : Buffer) (caret : Nat) : Safe measure (wordRight b caret) := by
  refine Safe.ite (fun _ ↦ .ok _) fun _ ↦ ?_
  apply Safe.bind (safe_place b caret)
  intro p hp
  exact Safe.bind (safe_lineText_place hp) fun text _ ↦ .ok _

/-- The scan over white space and a word back. -/
theorem safe_wordScanBack (b : Buffer) (caret : Nat) : Safe measure (wordScanBack b caret) := by
  apply Safe.bind (safe_place b _)
  intro p hp
  exact Safe.bind (safe_lineText_place hp) fun text _ ↦ .ok _

/-- The scan over white space and a word on. -/
theorem safe_wordScanForward (b : Buffer) (caret : Nat) :
    Safe measure (wordScanForward b caret) := by
  apply Safe.bind (safe_place b _)
  intro p hp
  exact Safe.bind (safe_lineText_place hp) fun text _ ↦ .ok _

/-- The word under an offset. -/
theorem safe_wordAt (b : Buffer) (offset : Nat) : Safe measure (wordAt b offset) := by
  apply Safe.bind (safe_place b _)
  intro p hp
  exact Safe.bind (safe_lineText_place hp) fun text _ ↦ .ok _

/-- The line under an offset. -/
theorem safe_lineAt (b : Buffer) (offset : Nat) : Safe measure (lineAt b offset) := by
  apply Safe.bind (safe_lineStart_lineOf b _)
  intro start _
  exact Safe.bind (safe_lineEnd b _) fun stop _ ↦ .ok _

/-- The start of the line of an offset is found. -/
theorem exists_lineHome (b : Buffer) (caret : Nat) : ∃ target, lineHome b caret = .ok target :=
  exists_lineStart_eq_ok (b.lineOf_lt_lineCount _)

section Numbered

variable (hb : b.length + 1 < Bounded.offsetBound)
include hb

/-- The line after that of an offset has a number. -/
theorem lineOf_succ_lt (offset : Nat) : b.lineOf offset + 1 < Bounded.offsetBound := by
  have := b.lineOf_lt_lineCount offset
  have := b.lineCount_le
  omega

/-- An offset has a place, whose column is 0 on the first line only at the start of the text, and
whose line has characters. -/
theorem exists_place {offset : Nat} (h : offset ≤ b.length) :
    ∃ p text, place b offset = .ok p ∧ b.lineText p.line = .ok text ∧
      p.line = b.lineOf offset ∧ (p.column = 0 → p.line = 0 → offset = 0) := by
  obtain ⟨start, stop, hl, hs, -⟩ := Buffer.exists_lineAt h
  obtain ⟨text, ht⟩ := exists_lineText (b.lineOf_lt_lineCount offset) (lineOf_succ_lt hb offset)
  refine ⟨_, text, place_eq hs hl.start_le, ht, rfl, fun hcolumn hline ↦ ?_⟩
  dsimp only at hcolumn hline
  rw [hline, b.lineStart_zero] at hs
  cases hs
  exact hcolumn

/-- One character to the right is found. -/
theorem exists_right {caret : Nat} (h : caret ≤ b.length) :
    ∃ target, right b caret = .ok target := by
  rw [right, Bounded.add_eq_ok (by omega)]
  exact ⟨_, rfl⟩

/-- One word to the left is found. -/
theorem exists_wordLeft (caret : Nat) : ∃ target, wordLeft b caret = .ok target := by
  obtain ⟨p, text, hp, ht, hline, hfirst⟩ := exists_place hb (Nat.min_le_right caret b.length)
  rw [wordLeft]
  split
  · exact ⟨_, rfl⟩
  · next hpos =>
    rw [hp, Fault.ok_bind]
    split
    · next hcolumn =>
      have hle : 1 ≤ p.line := by
        have := mt (hfirst hcolumn) hpos
        omega
      have hnumber := lineOf_succ_lt hb (min caret b.length)
      rw [Bounded.sub_eq_ok hle]
      exact exists_lineEnd (by omega)
    · rw [ht, Fault.ok_bind]
      dsimp only
      split
      · rw [Bounded.sub_eq_ok (by omega)]
        exact ⟨_, rfl⟩
      · exact ⟨_, rfl⟩

/-- One word to the right is found. -/
theorem exists_wordRight (caret : Nat) : ∃ target, wordRight b caret = .ok target := by
  rw [wordRight]
  split
  · exact ⟨_, rfl⟩
  · obtain ⟨p, text, hp, ht, -, -⟩ := exists_place hb (show caret ≤ b.length by omega)
    rw [hp, Fault.ok_bind, ht]
    exact ⟨_, rfl⟩

/-- The end of the line of an offset is found. -/
theorem exists_lineEnd_lineOf (caret : Nat) : ∃ target, lineEnd b caret = .ok target :=
  exists_lineEnd (lineOf_succ_lt hb _)

/-- The word under an offset is found. -/
theorem exists_wordAt (offset : Nat) : ∃ span, wordAt b offset = .ok span := by
  obtain ⟨p, text, hp, ht, -, -⟩ := exists_place hb (Nat.min_le_right offset b.length)
  rw [wordAt, hp, Fault.ok_bind, ht]
  exact ⟨_, rfl⟩

/-- The line under an offset is found. -/
theorem exists_lineAt (offset : Nat) : ∃ span, lineAt b offset = .ok span := by
  obtain ⟨start, hs⟩ := exists_lineStart_eq_ok (b.lineOf_lt_lineCount (min offset b.length))
  obtain ⟨stop, he⟩ : ∃ stop, b.lineEnd (b.lineOf (min offset b.length)) = .ok stop :=
    exists_lineEnd (lineOf_succ_lt hb _)
  rw [lineAt, hs, Fault.ok_bind, he]
  exact ⟨_, rfl⟩

end Numbered

end Motion

end EditBox.Text
