import EditBox.Bounded

/-!
# Line index

The offsets at which the lines of a text start: the first line at 0, every other one after a line
feed. A line is the run of characters between two line feeds, the closing one not included.
-/

namespace EditBox.Text

/-- Offsets after the line feeds of a text that itself starts at `offset`. -/
def startsAfterBreaks (offset : Nat) : List Char → List Nat
  | [] => []
  | c :: rest =>
      if c = '\n' then (offset + 1) :: startsAfterBreaks (offset + 1) rest
      else startsAfterBreaks (offset + 1) rest

/-- A line starts after each line feed and nowhere else. -/
theorem mem_startsAfterBreaks {offset s : Nat} {text : List Char} :
    s ∈ startsAfterBreaks offset text ↔ ∃ i, text[i]? = some '\n' ∧ s = offset + i + 1 := by
  induction text generalizing offset with
  | nil => simp [startsAfterBreaks]
  | cons c rest ih =>
    have shifted : s ∈ startsAfterBreaks (offset + 1) rest ↔
        ∃ i, (c :: rest)[i + 1]? = some '\n' ∧ s = offset + (i + 1) + 1 := by
      simp only [ih, List.getElem?_cons_succ, Nat.add_assoc, Nat.add_comm 1]
    unfold startsAfterBreaks
    split
    · next h =>
      rw [List.mem_cons, shifted]
      constructor
      · rintro (rfl | ⟨i, hi, rfl⟩)
        · exact ⟨0, by simp [h], rfl⟩
        · exact ⟨i + 1, hi, rfl⟩
      · rintro ⟨_ | i, hi, rfl⟩
        · exact .inl rfl
        · exact .inr ⟨i, hi, rfl⟩
    · next h =>
      rw [shifted]
      constructor
      · rintro ⟨i, hi, rfl⟩
        exact ⟨i + 1, hi, rfl⟩
      · rintro ⟨_ | i, hi, rfl⟩
        · simp [h] at hi
        · exact ⟨i, hi, rfl⟩

/-- Starts after line feeds come in strictly increasing order. -/
theorem pairwise_startsAfterBreaks (offset : Nat) (text : List Char) :
    (startsAfterBreaks offset text).Pairwise (· < ·) := by
  induction text generalizing offset with
  | nil => simp [startsAfterBreaks]
  | cons c rest ih =>
    unfold startsAfterBreaks
    split
    · rw [List.pairwise_cons]
      refine ⟨fun s hs ↦ ?_, ih (offset + 1)⟩
      obtain ⟨i, _, rfl⟩ := mem_startsAfterBreaks.mp hs
      omega
    · exact ih (offset + 1)

/-- There is one start after each line feed. -/
theorem length_startsAfterBreaks (offset : Nat) (text : List Char) :
    (startsAfterBreaks offset text).length = text.count '\n' := by
  induction text generalizing offset with
  | nil => rfl
  | cons c rest ih =>
    unfold startsAfterBreaks
    split
    · next h => rw [List.length_cons, ih, h, List.count_cons_self]
    · next h => rw [ih, List.count_cons_of_ne h]

/-- Start offsets of the lines of a text. -/
structure LineIndex where
  starts : List Nat
  deriving DecidableEq, Repr

namespace LineIndex

/-- Index of a text. -/
def of (text : List Char) : LineIndex := ⟨0 :: startsAfterBreaks 0 text⟩

/-- Number of lines. -/
def lineCount (index : LineIndex) : Nat := index.starts.length

/-- Start offset of a line; a fault when there is no such line. -/
def lineStart (index : LineIndex) (line : Nat) : Except Fault Nat :=
  match index.starts[line]? with
  | some start => .ok start
  | none => .error (.indexOutOfBounds index.starts.length line)

/-- End offset of a line in a text of `length` characters; a line past the last ends at `length`. -/
def lineEnd (index : LineIndex) (line length : Nat) : Except Fault Nat := do
  let next ← Bounded.add Bounded.offsetBound line 1
  match index.starts[next]? with
  | some start => return start - 1
  | none => return length

/-- Line that contains an offset; past the end of the text it is the last line. -/
def lineOf (index : LineIndex) (offset : Nat) : Nat :=
  (index.starts.takeWhile (· ≤ offset)).length - 1

/-- A text has one line more than line feeds. -/
theorem lineCount_of (text : List Char) : (of text).lineCount = text.count '\n' + 1 := by
  rw [lineCount, of, List.length_cons, length_startsAfterBreaks]

/-- A line has a start exactly when the text has that many lines. -/
theorem lineStart_eq_ok_iff {index : LineIndex} {line start : Nat} :
    index.lineStart line = .ok start ↔ index.starts[line]? = some start := by
  unfold lineStart
  split <;> simp_all

/-- Offsets lie on existing lines. -/
theorem lineOf_lt_lineCount (text : List Char) (offset : Nat) :
    (of text).lineOf offset < (of text).lineCount := by
  have h := (List.takeWhile_prefix (p := (· ≤ offset)) (l := (of text).starts)).length_le
  have hc := lineCount_of text
  rw [lineCount] at hc ⊢
  rw [lineOf]
  omega

end LineIndex

end EditBox.Text
