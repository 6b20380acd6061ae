/-!
# Selection

Two offsets in the order of the gesture that made them. The selected characters are those from the
smaller offset up to the larger one.
-/

namespace EditBox

/-- Unordered pair of offsets; the first is the fixed end of a gesture. -/
structure Selection where
  anchor : Nat
  caret : Nat
  deriving DecidableEq, Repr

namespace Selection

/-- Empty selection at an offset. -/
def collapsed (offset : Nat) : Selection := ⟨offset, offset⟩

/-- Whether no character is selected. -/
def isEmpty (s : Selection) : Bool := s.anchor == s.caret

/-- Smaller and larger end. -/
def range (s : Selection) : Nat × Nat := (min s.anchor s.caret, max s.anchor s.caret)

/-- Whether the character at an offset is selected. -/
def contains (s : Selection) (offset : Nat) : Bool :=
  s.range.1 ≤ offset && offset < s.range.2

/-- Both ends brought down to `length`. -/
def clamped (s : Selection) (length : Nat) : Selection := ⟨min s.anchor length, min s.caret length⟩

/-- The ends of the range are in order. -/
theorem range_le (s : Selection) : s.range.1 ≤ s.range.2 := by
  simp only [range]
  omega

/-- A selection is empty exactly when its ends coincide. -/
theorem isEmpty_iff (s : Selection) : s.isEmpty = true ↔ s.anchor = s.caret := by
  simp [isEmpty]

/-- The selection at an offset is empty. -/
theorem isEmpty_collapsed (offset : Nat) : (collapsed offset).isEmpty = true :=
  beq_self_eq_true offset

/-- A selection within the text is kept. -/
theorem clamped_eq_self {s : Selection} {length : Nat} (ha : s.anchor ≤ length)
    (hc : s.caret ≤ length) : s.clamped length = s := by
  rw [clamped, Nat.min_eq_left ha, Nat.min_eq_left hc]

end Selection

end EditBox
