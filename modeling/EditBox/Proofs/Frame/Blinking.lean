import EditBox.Blink
import Mathlib.Algebra.Group.Nat.Even
import Mathlib.Algebra.BigOperators.Group.List.Basic
import Mathlib.Algebra.GroupWithZero.Nat

/-!
# The phase of the blinking caret

A run of a blinking caret is what ticks and resets make of it. The total time since the caret was
begun or last reset decides all of its state: `passed_phaseAt` says so of one tick, and
`After.eq_phaseAt` of a run. `phase_follows_total_time` concludes that frames may be split and
merged in any way.
-/

namespace EditBox.Blink

variable {b b' : Blink} {interval time : Nat} {times times' : List Nat} {flipped : Bool}

/-- Caret when `time` has passed, as many intervals later as fit into it. -/
def passed (b : Blink) (time : Nat) : Blink :=
  { b with
    elapsed := (b.elapsed + time) % b.interval
    visible := b.visible == ((b.elapsed + time) / b.interval % 2 == 0) }

/-- A tick lets its time pass and tells whether the caret appeared or vanished. It has a result
exactly when the time since the last change stays below its bound. -/
theorem tick_eq_ok_iff :
    b.tick time = .ok (b', flipped) ↔
      b.elapsed + time < Bounded.offsetBound ∧ b' = b.passed time ∧
        flipped = (b'.visible != b.visible) := by
  have hpassed : b.elapsed + time < Bounded.offsetBound →
      b.tick time = .ok (b.passed time, (b.passed time).visible != b.visible) := by
    intro hrange
    rw [tick, Bounded.add_eq_ok hrange, Fault.ok_bind]
    split
    · next hshort =>
      -- The frame ends within the interval: no interval is completed.
      rw [passed, Nat.mod_eq_of_lt hshort, Nat.div_eq_of_lt hshort]
      simp [pure, Except.pure]
    · dsimp only
      split
      · next hodd =>
        rw [passed, hodd]
        cases b.visible <;> rfl
      · next heven =>
        have heven : (b.elapsed + time) / b.interval % 2 = 0 := by omega
        rw [passed, heven]
        simp [pure, Except.pure]
  constructor
  · intro h
    have hrange : b.elapsed + time < Bounded.offsetBound := by
      obtain ⟨elapsed, hsum, -⟩ := Fault.bind_eq_ok_iff.mp h
      exact (Bounded.add_eq_ok_iff.mp hsum).1
    cases (hpassed hrange).symm.trans h
    exact ⟨hrange, rfl, rfl⟩
  · rintro ⟨hrange, rfl, rfl⟩
    exact hpassed hrange

/-- Caret that was begun `total` ago. -/
def phaseAt (interval total : Nat) : Blink :=
  ⟨max interval 1, total % max interval 1, total / max interval 1 % 2 == 0⟩

/-- Time that passes adds to the total. -/
theorem passed_phaseAt (interval total time : Nat) :
    (phaseAt interval total).passed time = phaseAt interval (total + time) := by
  unfold passed phaseAt
  dsimp only
  generalize hi : max interval 1 = i
  have hpos : 0 < i := by omega
  have hdiv : (total + time) / i = (total % i + time) / i + total / i := by
    rw [← Nat.add_mul_div_left _ _ hpos]
    congr 1
    have := Nat.mod_add_div total i
    omega
  rw [Nat.mod_add_mod, hdiv]
  congr 1
  rcases Nat.mod_two_eq_zero_or_one (total / i) with hold | hold <;>
    rcases Nat.mod_two_eq_zero_or_one ((total % i + time) / i) with hnew | hnew <;>
    simp [Nat.add_mod, hold, hnew]

/-- A blinking caret after frames of these times, which have passed since it was begun or last
reset. -/
inductive After (interval : Nat) : List Nat → Blink → Prop where
  | start : After interval [] (start interval)
  | tick {times : List Nat} {b b' : Blink} {time : Nat} {flipped : Bool}
      (h : After interval times b) (ht : b.tick time = .ok (b', flipped)) :
      After interval (times ++ [time]) b'
  | reset {times : List Nat} {b : Blink} (h : After interval times b) : After interval [] b.reset

/-- The total time since the caret was begun or last reset decides its state. -/
theorem After.eq_phaseAt (h : After interval times b) : b = phaseAt interval times.sum := by
  induction h with
  | start => simp [phaseAt, Blink.start]
  | tick h ht ih =>
    obtain ⟨-, rfl, -⟩ := tick_eq_ok_iff.mp ht
    rw [ih, passed_phaseAt, List.sum_append, List.sum_singleton]
  | reset h ih =>
    rw [ih]
    simp [phaseAt, Blink.reset]

/-- Frames go on as long as the time since the last change stays below its bound at each of them. -/
theorem After.exists_append (h : After interval times b) (later : List Nat)
    (hrange : ∀ before time after, later = before ++ time :: after →
      (times ++ before).sum % max interval 1 + time < Bounded.offsetBound) :
    ∃ b', After interval (times ++ later) b' := by
  induction later generalizing times b with
  | nil => exact ⟨b, by rwa [List.append_nil]⟩
  | cons time later ih =>
    have hfirst : b.elapsed + time < Bounded.offsetBound := by
      have hfirst := hrange [] time later rfl
      rw [List.append_nil] at hfirst
      rw [h.eq_phaseAt]
      exact hfirst
    have hnext := h.tick (tick_eq_ok_iff.mpr ⟨hfirst, rfl, rfl⟩)
    obtain ⟨b', hb'⟩ := ih hnext fun before time' after hsplit ↦ by
      simpa using hrange (time :: before) time' after (by rw [hsplit, List.cons_append])
    exact ⟨b', by simpa using hb'⟩

/-- A blinking caret whose frames since it was begun or last reset took the times `times`. It is
shown exactly when an even number of intervals fits into their sum, where an interval of 0 counts as
1. Further frames are always possible while the time since the last change, which is what these
intervals leave of the sum, and the time of the frame stay below their bound; and each frame tells
whether the caret appeared or vanished. So two carets whose frames took the same time altogether
agree, however that time was split. -/
theorem phase_follows_total_time (h : After interval times b) :
    (b.visible = true ↔ Even (times.sum / max interval 1)) ∧
    b.elapsed = times.sum % max interval 1 ∧
    (∀ later : List Nat, (∀ before time after, later = before ++ time :: after →
        (times ++ before).sum % max interval 1 + time < Bounded.offsetBound) →
      ∃ b', After interval (times ++ later) b') ∧
    (∀ time b' flipped, b.tick time = .ok (b', flipped) →
      (flipped = true ↔ b'.visible ≠ b.visible)) ∧
    ∀ times' b', After interval times' b' → times'.sum = times.sum → b' = b := by
  have hb := h.eq_phaseAt
  refine ⟨?_, ?_, fun later hrange ↦ h.exists_append later hrange, ?_, ?_⟩
  · rw [hb, Nat.even_iff]
    exact beq_iff_eq
  · rw [hb]
    rfl
  · intro time b' flipped ht
    obtain ⟨-, -, rfl⟩ := tick_eq_ok_iff.mp ht
    exact bne_iff_ne
  · intro times' b' h' hsum
    rw [h'.eq_phaseAt, hsum, ← hb]

/-- Frames of 499, 1 and 1250 after a reset, at an interval of 500: three intervals are over, so the
caret is hidden, as after one frame of 1750. -/
theorem phase_follows_total_time_split :
    ∃ b, After 500 [499, 1, 1250] b ∧ b.visible = false ∧ ∀ b', After 500 [1750] b' → b' = b := by
  have hrested : After 500 [] ((start 500).reset) := .reset .start
  have h : After 500 [499, 1, 1250] ⟨500, 250, false⟩ :=
    ((hrested.tick (tick_eq_ok_iff.mpr ⟨by decide, rfl, rfl⟩)).tick
      (tick_eq_ok_iff.mpr ⟨by decide, rfl, rfl⟩)).tick (tick_eq_ok_iff.mpr ⟨by decide, rfl, rfl⟩)
  obtain ⟨hvisible, -, -, -, hmerge⟩ := phase_follows_total_time h
  refine ⟨_, h, ?_, fun b' h' ↦ hmerge [1750] b' h' rfl⟩
  rw [← Bool.not_eq_true, hvisible]
  decide

end EditBox.Blink
