import EditBox.Editor

/-!
# Edits as splices

Every edit replaces one range of the text and leaves the caret alone behind the replacement. Here
the edits of `EditBox.Editor` are reduced to that one operation, on snapshots and on editors.
-/

namespace EditBox

namespace Text.Buffer

/-- The buffer with `text` in place of the characters of `[start, stop)`. Taking characters out and
putting characters in count as one change each. -/
def splice (b : Buffer) (start stop : Nat) (text : List Char) : Buffer :=
  let rest := if start = stop then b else b.setText (b.chars.take start ++ b.chars.drop stop)
  if text = [] then rest
  else rest.setText (rest.chars.take start ++ text ++ rest.chars.drop start)

/-- Text after a splice. -/
theorem chars_splice {b : Buffer} {start stop : Nat} (text : List Char) (h : start ≤ stop)
    (hl : stop ≤ b.length) :
    (b.splice start stop text).chars = b.chars.take start ++ text ++ b.chars.drop stop := by
  have hstart : (b.chars.take start).length = start := by
    rw [List.length_take]
    exact Nat.min_eq_left (Nat.le_trans h hl)
  by_cases he : start = stop
  · subst he
    by_cases ht : text = []
    · simp [splice, ht]
    · simp [splice, ht]
  · by_cases ht : text = []
    · simp [splice, he, ht]
    · simp only [splice, if_neg he, if_neg ht, chars_setText]
      rw [List.take_left' hstart, List.drop_left' hstart]

/-- A splice leaves the buffer alone or counts a change. -/
theorem splice_eq_or_revision_lt (b : Buffer) (start stop : Nat) (text : List Char) :
    b.splice start stop text = b ∨ b.revision < (b.splice start stop text).revision := by
  by_cases he : start = stop
  · by_cases ht : text = []
    · simp [splice, he, ht]
    · simp [splice, he, ht]
  · by_cases ht : text = []
    · simp [splice, he, ht]
    · simp only [splice, if_neg he, if_neg ht, revision_setText]
      omega

/-- A splice that takes characters out or puts characters in is counted. -/
theorem revision_lt_splice (b : Buffer) {start stop : Nat} {text : List Char}
    (h : start ≠ stop ∨ text ≠ []) : b.revision < (b.splice start stop text).revision := by
  by_cases he : start = stop
  · have ht : text ≠ [] := h.resolve_left fun hne ↦ hne he
    simp [splice, he, ht]
  · by_cases ht : text = []
    · simp [splice, he, ht]
    · simp only [splice, if_neg he, if_neg ht, revision_setText]
      omega

/-- An insertion is a splice at an empty range. -/
theorem insert_eq_splice {b : Buffer} {offset : Nat} (text : List Char) (h : offset ≤ b.length) :
    b.insert offset text = .ok (b.splice offset offset text) := by
  rw [insert_eq_ok_iff]
  refine ⟨h, ?_⟩
  simp only [splice, if_true]

/-- An insertion where characters were taken out is a splice of both. -/
theorem insert_delete_eq_splice {b : Buffer} {start stop : Nat} (text : List Char)
    (hne : start ≠ stop) (h : start ≤ stop) (hl : stop ≤ b.length) :
    (b.setText (b.chars.take start ++ b.chars.drop stop)).insert start text =
      .ok (b.splice start stop text) := by
  rw [insert_eq_ok_iff]
  refine ⟨?_, ?_⟩
  · simp only [length, chars_setText, List.length_append, List.length_take] at *
    omega
  · simp only [splice, if_neg hne]

end Text.Buffer

namespace Snapshot

/-- Number of characters. -/
def length (s : Snapshot) : Nat := s.text.length

/-- The caret and the selection lie within the text, and the selection ends at the caret. -/
structure Within (s : Snapshot) : Prop where
  caret_le : s.caret ≤ s.length
  anchor_le : s.selection.anchor ≤ s.length
  selection_caret : s.selection.caret = s.caret

/-- `text` in place of the characters of `[start, stop)`, and the caret alone behind it. -/
def splice (s : Snapshot) (start stop : Nat) (text : List Char) : Snapshot where
  text := s.text.take start ++ text ++ s.text.drop stop
  caret := start + text.length
  selection := .collapsed (start + text.length)

namespace Within

variable {s : Snapshot}

/-- The selected range lies within the text. -/
theorem range_le (h : s.Within) : s.selection.range.2 ≤ s.length := by
  have hc := h.caret_le
  rw [← h.selection_caret] at hc
  exact Nat.max_le.mpr ⟨h.anchor_le, hc⟩

/-- An empty selection lies at the caret. -/
theorem range_of_isEmpty (h : s.Within) (he : s.selection.anchor = s.selection.caret) :
    s.selection.range = (s.caret, s.caret) := by
  rw [Selection.range, he, h.selection_caret, Nat.min_self, Nat.max_self]

/-- After a splice the caret and the selection lie within the text. -/
theorem splice {start stop : Nat} (text : List Char) (h : start ≤ s.length) :
    (s.splice start stop text).Within := by
  have hlen : start + text.length ≤ (s.splice start stop text).length := by
    simp only [Snapshot.length, Snapshot.splice, List.length_append, List.length_take] at *
    omega
  exact ⟨hlen, hlen, rfl⟩

end Within

/-- A deletion makes the text shorter. -/
theorem length_splice_nil {s : Snapshot} {start stop : Nat} (h : start ≤ stop)
    (hl : stop ≤ s.length) : (s.splice start stop []).length + (stop - start) = s.length := by
  simp only [length, splice, List.append_nil, List.length_append, List.length_take,
    List.length_drop] at *
  omega

/-- Putting a text where characters were taken out is a splice of both. -/
theorem splice_nil_splice {s : Snapshot} {start stop : Nat} (text : List Char)
    (h : start ≤ s.length) :
    (s.splice start stop []).splice start start text = s.splice start stop text := by
  have hstart : (s.text.take start).length = start := by
    rw [List.length_take]
    exact Nat.min_eq_left h
  simp only [splice, List.append_nil, List.take_left' hstart, List.drop_left' hstart]

/-- The characters of a range in place of themselves leave the text as it is. -/
theorem splice_self {s : Snapshot} {start stop : Nat} (h : start ≤ stop) (hl : stop ≤ s.length) :
    s.splice start stop ((s.text.drop start).take (stop - start)) =
      ⟨s.text, stop, .collapsed stop⟩ := by
  have hrest : s.text.drop stop = (s.text.drop start).drop (stop - start) := by
    rw [List.drop_drop, Nat.add_sub_cancel' h]
  have hlength : start + ((s.text.drop start).take (stop - start)).length = stop := by
    simp only [length, List.length_take, List.length_drop] at *
    omega
  simp only [splice, hlength, hrest, List.append_assoc, List.take_append_drop]

end Snapshot

namespace Editor

open EditBox.Text

/-- The editor after a splice, with the states before and after it recorded. -/
def spliced (e : Editor) (start stop : Nat) (text : List Char) : Editor :=
  (e.begun.withBuffer (e.buffer.splice start stop text) (start + text.length)).committed

/-- The state that a splice leads to. -/
theorem snapshot_spliced {e : Editor} {start stop : Nat} (text : List Char) (h : start ≤ stop)
    (hl : stop ≤ e.length) :
    (e.spliced start stop text).snapshot = e.snapshot.splice start stop text := by
  change Snapshot.mk (e.buffer.splice start stop text).chars _ _ = _
  rw [Buffer.chars_splice text h hl]
  rfl

/-- The history after a splice. -/
theorem history_spliced {e : Editor} {start stop : Nat} (text : List Char) (h : start ≤ stop)
    (hl : stop ≤ e.length) :
    (e.spliced start stop text).history =
      (e.history.beginEdit e.snapshot).commit (e.snapshot.splice start stop text) := by
  rw [← snapshot_spliced text h hl]
  rfl

/-- The range of an insertion: the selection, or the caret when nothing is selected. -/
def insertionRange (e : Editor) : Nat × Nat :=
  if e.selectedRange.1 = e.selectedRange.2 then (e.clampOffset e.caret, e.clampOffset e.caret)
  else e.selectedRange

/-- An insertion never fails; it splices the text in. -/
theorem result_insertText (e : Editor) (text : List Char) :
    (e.insertText text).result =
      .ok (e.spliced e.insertionRange.1 e.insertionRange.2 text) := by
  have hrange : e.begun.selectedRange = e.selectedRange := rfl
  simp only [insertText, Run.result_bind, result_beginEdit, Fault.ok_bind, Run.result_liftM,
    removeSelected_eq, hrange]
  by_cases h : e.selectedRange.1 = e.selectedRange.2
  · rw [if_pos h, insertionRange, if_pos h]
    have hins := Buffer.insert_eq_splice (b := e.buffer) text (e.clampOffset_le e.caret)
    change (e.buffer.insert (e.clampOffset e.caret) text >>= _) = _
    rw [hins]
    rfl
  · rw [if_neg h, insertionRange, if_neg h]
    have hins := Buffer.insert_delete_eq_splice (b := e.buffer) text h e.selectedRange_le
      (e.clampOffset_le _)
    have hclamp := Nat.min_eq_left (Buffer.insert_eq_ok_iff.mp hins).1
    simp only [clampOffset, length, begun, Editor.text] at hclamp ⊢
    rw [hclamp, hins]
    rfl

/-- The editor after a deletion of a range, and whether there was something to delete. -/
def deleted (e : Editor) (range : Nat × Nat) : Editor × Bool :=
  if range.1 < range.2 then (e.spliced range.1 range.2 [], true) else (e, false)

/-- A deletion never fails; it splices the characters between the offsets out. -/
theorem result_deleteRange_eq_deleted (e : Editor) (a b : Nat) :
    (e.deleteRange a b).result =
      .ok (e.deleted (e.clampOffset (min a b), e.clampOffset (max a b))) := by
  have hle : e.clampOffset (min a b) ≤ e.clampOffset (max a b) := by
    simp only [clampOffset]
    omega
  rw [result_deleteRange, deleted]
  rcases Nat.lt_or_eq_of_le hle with hlt | heq
  · rw [if_neg (Nat.ne_of_lt hlt), if_pos hlt, spliced, Buffer.splice]
    simp only [if_neg (Nat.ne_of_lt hlt), if_true, List.length_nil, Nat.add_zero]
    rfl
  · rw [if_pos heq, if_neg (by dsimp only; omega)]

end Editor

end EditBox
