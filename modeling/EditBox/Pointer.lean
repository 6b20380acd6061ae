import EditBox.Bounded

/-!
# Pointer

Counting of clicks and the state of a drag. Presses that follow each other within an interval count
up; a press after a longer pause, or one whose time lies before the last, counts as the first.
-/

namespace EditBox

/-- Clicks so far, the time of the last, and the drag in progress. -/
structure Pointer where
  clickCount : Nat
  lastClick : Option Nat
  /-- Offset at which a drag selection is anchored. -/
  dragAnchor : Option Nat
  pressed : Bool
  deriving DecidableEq, Repr

namespace Pointer

/-- Pointer before the first press. -/
def idle : Pointer := ⟨0, none, none, false⟩

/-- Largest number of clicks counted. -/
def maxClicks : Nat := 0xffff_ffff

/-- Whether a press goes on with the series of the last one: the clock has not gone back since, and
less than an interval has passed. -/
def continues (p : Pointer) (time interval : Nat) : Except Fault Bool :=
  match p.lastClick with
  | some last =>
      if last ≤ time then do
        let gap ← Bounded.sub time last
        return gap < interval
      else return false
  | none => return false

/-- The difference of the times is taken only where the clock has not gone back. -/
theorem continues_eq (p : Pointer) (time interval : Nat) :
    p.continues time interval =
      .ok (p.lastClick.any fun last ↦ decide (last ≤ time ∧ time - last < interval)) := by
  unfold continues
  cases p.lastClick with
  | none => rfl
  | some last =>
    by_cases hle : last ≤ time
    · simp only [hle, if_true, true_and, Bounded.sub_eq_ok hle, Fault.ok_bind, Option.any_some]
      rfl
    · simp only [hle, if_false, false_and, Option.any_some]
      rfl

/-- Number of the click that a press at a time makes. -/
def countPress (p : Pointer) (time interval : Nat) : Nat :=
  match h : p.continues time interval with
  | .ok true => min (p.clickCount + 1) maxClicks
  | .ok false => 1
  | .error _ => False.elim (by rw [continues_eq] at h; cases h)

/-- Register a press. -/
def press (p : Pointer) (time interval : Nat) : Pointer :=
  { p with clickCount := p.countPress time interval, lastClick := some time, pressed := true }

/-- Arm a drag. -/
def beginDrag (p : Pointer) (anchor : Nat) : Pointer := { p with dragAnchor := some anchor }

/-- Disarm the drag and keep the press. -/
def cancelDrag (p : Pointer) : Pointer := { p with dragAnchor := none }

/-- Whether motion drags a selection. -/
def isDragging (p : Pointer) : Bool := p.pressed && p.dragAnchor.isSome

/-- Register a release. -/
def release (p : Pointer) : Pointer := { p with pressed := false, dragAnchor := none }

/-- A drag needs both a press and an anchor. -/
theorem isDragging_iff (p : Pointer) :
    p.isDragging = true ↔ p.pressed = true ∧ ∃ anchor, p.dragAnchor = some anchor := by
  rw [isDragging, Bool.and_eq_true, Option.isSome_iff_exists]

/-- A release ends a drag. -/
theorem isDragging_release (p : Pointer) : p.release.isDragging = false := rfl

section Counting

variable {p : Pointer} {time interval : Nat}

private theorem countPress_of_continues {goesOn : Bool}
    (h : p.continues time interval = .ok goesOn) :
    p.countPress time interval = if goesOn then min (p.clickCount + 1) maxClicks else 1 := by
  unfold countPress
  split
  · next h' =>
    cases h.symm.trans h'
    rfl
  · next h' =>
    cases h.symm.trans h'
    rfl
  · next h' => cases h.symm.trans h'

/-- A press less than an interval after the last one makes the next click of its series. -/
theorem countPress_of_soon {last : Nat} (hlast : p.lastClick = some last) (hle : last ≤ time)
    (hlt : time - last < interval) :
    p.countPress time interval = min (p.clickCount + 1) maxClicks := by
  have h := p.continues_eq time interval
  rw [hlast, Option.any_some, decide_eq_true ⟨hle, hlt⟩] at h
  exact countPress_of_continues h

/-- Any other press makes a first click. -/
theorem countPress_of_late
    (hlate : ∀ last, p.lastClick = some last → last ≤ time → interval ≤ time - last) :
    p.countPress time interval = 1 := by
  have h := p.continues_eq time interval
  have hnever : ∀ last, p.lastClick = some last → ¬ (last ≤ time ∧ time - last < interval) := by
    intro last hlast
    have := hlate last hlast
    omega
  rw [(Option.any_eq_false _ _).mpr fun last hlast ↦ decide_eq_false (hnever last hlast)] at h
  exact countPress_of_continues h

end Counting

end Pointer

end EditBox
