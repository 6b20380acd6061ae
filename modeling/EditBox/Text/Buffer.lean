import EditBox.Text.LineIndex

/-!
# Text buffer

A character sequence, the index of its lines, and a counter of its changes. Offsets count
characters. The operations do not correct offsets: one outside the buffer is a fault, and keeping
offsets inside is the work of `EditBox.Editor`. Every change rebuilds the index, so the index of a
buffer is always that of its text.
-/

namespace EditBox.Text

/-- Text under edit with its line index and the number of changes so far. -/
structure Buffer where
  chars : List Char
  lines : LineIndex
  revision : Nat
  /-- The index is up to date. -/
  lines_eq : lines = LineIndex.of chars := by rfl
  deriving DecidableEq, Repr

namespace Buffer

/-- Buffer that holds a text and has seen no change. -/
def ofText (text : List Char) : Buffer where
  chars := text
  lines := LineIndex.of text
  revision := 0

/-- Empty buffer. -/
def empty : Buffer := ofText []

/-- Number of characters. -/
def length (b : Buffer) : Nat := b.chars.length

/-- Whether there is no character. -/
def isEmpty (b : Buffer) : Bool := b.chars.isEmpty

/-- Replace the whole text. -/
def setText (b : Buffer) (text : List Char) : Buffer where
  chars := text
  lines := LineIndex.of text
  revision := b.revision + 1

/-- Insert `text` at `offset`; nothing happens for an empty text. -/
def insert (b : Buffer) (offset : Nat) (text : List Char) : Except Fault Buffer :=
  if offset ≤ b.length then
    if text.isEmpty then .ok b
    else .ok (b.setText (b.chars.take offset ++ text ++ b.chars.drop offset))
  else .error (.insertPastEnd offset b.length)

/-- Delete the characters of `[start, stop)`; nothing happens for an empty range. -/
def delete (b : Buffer) (start stop : Nat) : Except Fault Buffer :=
  if start ≤ stop ∧ stop ≤ b.length then
    if start = stop then .ok b
    else .ok (b.setText (b.chars.take start ++ b.chars.drop stop))
  else .error (.deleteOutOfRange start stop)

/-- Characters of `[start, stop)`, none when the range is empty or inverted. -/
def substring (b : Buffer) (start stop : Nat) : Except Fault (List Char) :=
  if stop ≤ start then .ok []
  else if stop ≤ b.length then .ok ((b.chars.drop start).take (stop - start))
  else .error (.substringOutOfRange start stop)

/-- Character at an offset. -/
def charAt? (b : Buffer) (offset : Nat) : Option Char := b.chars[offset]?

/-- The same text with its index built anew. -/
def rebuildLineIndex (b : Buffer) : Buffer where
  chars := b.chars
  lines := LineIndex.of b.chars
  revision := b.revision

/-- Number of lines. -/
def lineCount (b : Buffer) : Nat := b.lines.lineCount

/-- Line that contains an offset. -/
def lineOf (b : Buffer) (offset : Nat) : Nat := b.lines.lineOf offset

/-- Start offset of a line. -/
def lineStart (b : Buffer) (line : Nat) : Except Fault Nat := b.lines.lineStart line

/-- End offset of a line, its line feed not included. -/
def lineEnd (b : Buffer) (line : Nat) : Except Fault Nat := b.lines.lineEnd line b.length

/-- Number of characters of a line. -/
def lineLength (b : Buffer) (line : Nat) : Except Fault Nat := do
  let stop ← b.lineEnd line
  let start ← b.lineStart line
  Bounded.sub stop start

/-- Characters of a line. -/
def lineText (b : Buffer) (line : Nat) : Except Fault (List Char) := do
  let start ← b.lineStart line
  let stop ← b.lineEnd line
  b.substring start stop

/-- Buffers with the same text and revision are equal. -/
theorem ext {a b : Buffer} (hc : a.chars = b.chars) (hr : a.revision = b.revision) : a = b := by
  obtain ⟨chars, lines, revision, rfl⟩ := a
  obtain ⟨chars', lines', revision', rfl⟩ := b
  cases hc
  cases hr
  rfl

/-- Text after a replacement. -/
@[simp] theorem chars_setText (b : Buffer) (text : List Char) : (b.setText text).chars = text :=
  rfl

/-- A replacement is a change. -/
@[simp] theorem revision_setText (b : Buffer) (text : List Char) :
    (b.setText text).revision = b.revision + 1 := rfl

/-- An insertion has a result exactly at an offset within the text. -/
theorem insert_eq_ok_iff {b after : Buffer} {offset : Nat} {text : List Char} :
    b.insert offset text = .ok after ↔
      offset ≤ b.length ∧
        after = if text = [] then b
          else b.setText (b.chars.take offset ++ text ++ b.chars.drop offset) := by
  simp only [insert, List.isEmpty_iff]
  by_cases h : offset ≤ b.length
  · simp only [h, if_true, true_and]
    split <;> simp [eq_comm]
  · simp [h]

/-- Text after an insertion. -/
theorem chars_insert {b after : Buffer} {offset : Nat} {text : List Char}
    (h : b.insert offset text = .ok after) :
    after.chars = b.chars.take offset ++ text ++ b.chars.drop offset := by
  obtain ⟨_, rfl⟩ := insert_eq_ok_iff.mp h
  split
  · next h => simp [h]
  · rfl

/-- A deletion has a result exactly for an ordered range within the text. -/
theorem delete_eq_ok_iff {b after : Buffer} {start stop : Nat} :
    b.delete start stop = .ok after ↔
      (start ≤ stop ∧ stop ≤ b.length) ∧
        after = if start = stop then b
          else b.setText (b.chars.take start ++ b.chars.drop stop) := by
  rw [delete]
  by_cases h : start ≤ stop ∧ stop ≤ b.length
  · simp only [h, and_self, if_true, true_and]
    split <;> simp [eq_comm]
  · simp [h]

/-- Text after a deletion. -/
theorem chars_delete {b after : Buffer} {start stop : Nat} (h : b.delete start stop = .ok after) :
    after.chars = b.chars.take start ++ b.chars.drop stop := by
  obtain ⟨_, rfl⟩ := delete_eq_ok_iff.mp h
  split
  · next h => rw [h, List.take_append_drop]
  · rfl

/-- A range within the text reads as its characters. -/
theorem substring_eq_ok {b : Buffer} {start stop : Nat} (h : stop ≤ b.length) :
    b.substring start stop = .ok ((b.chars.drop start).take (stop - start)) := by
  rw [substring]
  split
  · next hs => rw [Nat.sub_eq_zero_of_le hs, List.take_zero]
  · rfl

/-- A buffer has one line more than line feeds. -/
theorem lineCount_eq (b : Buffer) : b.lineCount = b.chars.count '\n' + 1 := by
  rw [lineCount, b.lines_eq, LineIndex.lineCount_of]

/-- Offsets lie on existing lines. -/
theorem lineOf_lt_lineCount (b : Buffer) (offset : Nat) : b.lineOf offset < b.lineCount := by
  rw [lineOf, lineCount, b.lines_eq]
  exact LineIndex.lineOf_lt_lineCount b.chars offset

end Buffer

end EditBox.Text
