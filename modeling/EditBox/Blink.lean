import EditBox.Bounded

/-!
# Caret blinking

The caret is shown and hidden in turn for an interval each, driven by the time that passes between
frames. Time beyond an interval is carried over, so the phase depends on the total time alone.
-/

namespace EditBox

/-- Phase of the blinking caret. -/
structure Blink where
  /-- Time for which the caret stays shown or hidden. -/
  interval : Nat
  /-- Time since the last change. -/
  elapsed : Nat
  visible : Bool
  deriving DecidableEq, Repr

namespace Blink

/-- Caret just shown; an interval of 0 counts as 1. -/
def start (interval : Nat) : Blink := ⟨max interval 1, 0, true⟩

/-- Let time pass; the second component says whether the caret appeared or vanished. -/
def tick (b : Blink) (time : Nat) : Except Fault (Blink × Bool) := do
  let elapsed ← Bounded.add Bounded.offsetBound b.elapsed time
  if elapsed < b.interval then return ({ b with elapsed := elapsed }, false)
  let flips := elapsed / b.interval
  let rest := elapsed % b.interval
  if flips % 2 = 1 then return ({ b with elapsed := rest, visible := !b.visible }, true)
  else return ({ b with elapsed := rest }, false)

/-- Show the caret and begin a new phase. -/
def reset (b : Blink) : Blink := { b with visible := true, elapsed := 0 }

end Blink

end EditBox
