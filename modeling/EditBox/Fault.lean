/-!
# Faults

The ways an operation of the edit box can stop without a result: a number leaves the width it is
kept in, a position lies outside the buffer, or a range to clamp into is inverted. A fault is a
cause; `Fault.message` gives its wording.
-/

namespace EditBox

/-- Cause of an operation that has no result. -/
inductive Fault where
  /-- A sum exceeds its width. -/
  | addOverflow
  /-- A difference leaves its width. -/
  | subOverflow
  /-- A product exceeds its width. -/
  | mulOverflow
  /-- A repeated text exceeds the address space. -/
  | capacityOverflow
  /-- A list of `length` entries has no entry `index`. -/
  | indexOutOfBounds (length index : Nat)
  /-- An insertion point past the end of a buffer of `length` characters. -/
  | insertPastEnd (offset length : Nat)
  /-- A range to delete that is inverted or leaves the buffer. -/
  | deleteOutOfRange (start stop : Nat)
  /-- A range to read that leaves the buffer. -/
  | substringOutOfRange (start stop : Nat)
  /-- A range to clamp into whose upper end lies below its lower end. -/
  | invertedClamp (low high : Int)
  deriving DecidableEq, Repr

namespace Fault

/-- Wording of a fault. -/
def message : Fault → String
  | addOverflow => "attempt to add with overflow"
  | subOverflow => "attempt to subtract with overflow"
  | mulOverflow => "attempt to multiply with overflow"
  | capacityOverflow => "capacity overflow"
  | indexOutOfBounds length index =>
      "index out of bounds: the len is " ++ toString length ++ " but the index is " ++
        toString index
  | insertPastEnd offset length =>
      "insert at " ++ toString offset ++ " past end " ++ toString length
  | deleteOutOfRange start stop =>
      "delete " ++ toString start ++ ".." ++ toString stop ++ " out of range"
  | substringOutOfRange start stop =>
      "substring " ++ toString start ++ ".." ++ toString stop ++ " out of range"
  | invertedClamp low high =>
      "min > max. min = " ++ toString low ++ ", max = " ++ toString high

/-- A sequence goes on with the result of its first part. -/
@[simp] theorem ok_bind {α β : Type} (a : α) (f : α → Except Fault β) :
    ((.ok a : Except Fault α) >>= f) = f a := rfl

/-- A sequence stops at a fault of its first part. -/
@[simp] theorem error_bind {α β : Type} (e : Fault) (f : α → Except Fault β) :
    ((.error e : Except Fault α) >>= f) = .error e := rfl

/-- A function is applied to a result. -/
@[simp] theorem map_ok {α β : Type} (f : α → β) (a : α) :
    f <$> (.ok a : Except Fault α) = .ok (f a) := rfl

/-- A sequence has a result exactly when both its parts have one. -/
theorem bind_eq_ok_iff {α β : Type} {x : Except Fault α} {f : α → Except Fault β} {b : β} :
    (x >>= f) = .ok b ↔ ∃ a, x = .ok a ∧ f a = .ok b := by
  cases x with
  | error e => simp [bind, Except.bind]
  | ok a => simp [bind, Except.bind]

end Fault

end EditBox
