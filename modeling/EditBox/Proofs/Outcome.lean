import EditBox.Measure
import EditBox.Run

/-!
# Outcomes

Two views of a computation that may stop with a fault. `Safe` says that it stops only where a
number leaves its width or the measurer of the host gives up; no position in a text is to blame.
`Alike` compares two computations: both have results, which are related, or both stop with the same
such fault. Each is closed under sequencing.
-/

namespace EditBox

/-- Whether a fault says that a number left its width. A range to clamp into is inverted only when
its upper end did. -/
def Fault.isArithmetic : Fault → Bool
  | addOverflow | subOverflow | mulOverflow | capacityOverflow | invertedClamp .. => true
  | indexOutOfBounds .. | insertPastEnd .. | deleteOutOfRange .. | substringOutOfRange .. => false

/-- A fault of arithmetic or of the measurer. -/
def Fault.Excused (measure : Option Measure) (f : Fault) : Prop :=
  f.isArithmetic = true ∨ ∃ m text, measure = some m ∧ m.width text = .error f

/-- A computation that stops with excused faults only. -/
def Safe {α : Type} (measure : Option Measure) (x : Except Fault α) : Prop :=
  ∀ f, x = .error f → f.Excused measure

/-- Computations with related results, or with the same excused fault. -/
inductive Alike {α β : Type} (measure : Option Measure) (R : α → β → Prop) :
    Except Fault α → Except Fault β → Prop where
  | ok {a : α} {b : β} (h : R a b) : Alike measure R (.ok a) (.ok b)
  | error {f : Fault} (h : f.Excused measure) : Alike measure R (.error f) (.error f)

variable {α β γ δ : Type} {measure : Option Measure}

/-- A computation whose result passes a test has a result. -/
theorem exists_of_any {x : Except Fault α} {p : α → Bool} (h : x.toOption.any p = true) :
    ∃ a, x = .ok a ∧ p a = true := by
  cases x with
  | error f => cases h
  | ok a => exact ⟨a, rfl, h⟩

namespace Safe

/-- A result is no fault. -/
theorem ok (a : α) : Safe measure (.ok a) := by
  intro f hf
  cases hf

/-- A computation that has a result is safe. -/
theorem of_eq_ok {x : Except Fault α} {a : α} (h : x = .ok a) : Safe measure x :=
  h ▸ ok a

/-- A fault of arithmetic is excused. -/
theorem error {f : Fault} (h : f.isArithmetic = true) :
    Safe measure (.error f : Except Fault α) := by
  intro f' hf
  cases hf
  exact .inl h

/-- A sequence is safe if its parts are. -/
theorem bind {x : Except Fault α} {f : α → Except Fault β} (hx : Safe measure x)
    (hf : ∀ a, x = .ok a → Safe measure (f a)) : Safe measure (x >>= f) := by
  cases x with
  | error e =>
    intro f' he
    cases he
    exact hx e rfl
  | ok a => exact hf a rfl

/-- A choice is safe if both sides are. -/
theorem ite {c : Prop} [Decidable c] {x y : Except Fault α} (hx : c → Safe measure x)
    (hy : ¬ c → Safe measure y) : Safe measure (if c then x else y) := by
  split
  · next h => exact hx h
  · next h => exact hy h

/-- Sums stay safe. -/
theorem add (bound a b : Nat) : Safe measure (Bounded.add bound a b) :=
  ite (fun _ ↦ ok _) fun _ ↦ error rfl

/-- Products stay safe. -/
theorem mul (bound a b : Nat) : Safe measure (Bounded.mul bound a b) :=
  ite (fun _ ↦ ok _) fun _ ↦ error rfl

/-- Differences stay safe. -/
theorem sub (a b : Nat) : Safe measure (Bounded.sub a b) :=
  ite (fun _ ↦ ok _) fun _ ↦ error rfl

/-- Sums of integers stay safe. -/
theorem intAdd (bound : Nat) (a b : Int) : Safe measure (Bounded.intAdd bound a b) :=
  ite (fun _ ↦ ok _) fun _ ↦ error rfl

/-- Differences of integers stay safe. -/
theorem intSub (bound : Nat) (a b : Int) : Safe measure (Bounded.intSub bound a b) :=
  ite (fun _ ↦ ok _) fun _ ↦ error rfl

/-- Bringing a number into a range stays safe. -/
theorem clamp (low high n : Int) : Safe measure (Bounded.clamp low high n) :=
  ite (fun _ ↦ ok _) fun _ ↦ error rfl

/-- The measurer for positions gives up only where the host's does. -/
theorem width (measure : Option Measure) (text : List Char) :
    Safe measure ((measure.getD .fallback).width text) := by
  cases measure with
  | none => exact mul _ _ _
  | some m =>
    intro f hf
    exact .inr ⟨m, text, rfl, hf⟩

end Safe

namespace Alike

variable {R : α → β → Prop} {S : γ → δ → Prop}

/-- A safe computation is like itself. -/
theorem refl {x : Except Fault α} (hx : Safe measure x) :
    Alike measure (fun a b ↦ b = a ∧ x = .ok a) x x := by
  cases x with
  | error f => exact .error (hx f rfl)
  | ok a => exact .ok ⟨rfl, rfl⟩

/-- A weaker relation of the results. -/
theorem mono {R' : α → β → Prop} {x : Except Fault α} {y : Except Fault β}
    (h : Alike measure R x y) (hR : ∀ a b, R a b → R' a b) : Alike measure R' x y := by
  cases h with
  | ok h => exact .ok (hR _ _ h)
  | error h => exact .error h

/-- Sequences are alike if their parts are. -/
theorem bind {x : Except Fault α} {y : Except Fault β} {f : α → Except Fault γ}
    {g : β → Except Fault δ} (h : Alike measure R x y)
    (hf : ∀ a b, R a b → Alike measure S (f a) (g b)) : Alike measure S (x >>= f) (y >>= g) := by
  cases h with
  | ok h => exact hf _ _ h
  | error h => exact .error h

/-- Runs in sequence are alike if their parts are. -/
theorem andThen {x : Run α} {y : Run β} {f : α → Run γ} {g : β → Run δ}
    (h : Alike measure R x.result y.result)
    (hf : ∀ a b, R a b → Alike measure S (f a).result (g b).result) :
    Alike measure S (x >>= f).result (y >>= g).result := by
  rw [Run.result_bind, Run.result_bind]
  exact h.bind hf

/-- Runs that begin with computations that are alike are alike if they go on so. -/
theorem liftThen {x : Except Fault α} {y : Except Fault β} {f : α → Run γ} {g : β → Run δ}
    (h : Alike measure R x y)
    (hf : ∀ a b, R a b → Alike measure S (f a).result (g b).result) :
    Alike measure S ((liftM x : Run α) >>= f).result ((liftM y : Run β) >>= g).result := by
  refine andThen ?_ hf
  rw [Run.result_liftM, Run.result_liftM]
  exact h

/-- Runs that begin with the same safe run are alike if they go on alike. -/
theorem share {x : Run α} {f : α → Run γ} {g : α → Run δ} (hx : Safe measure x.result)
    (hf : ∀ a, x.result = .ok a → Alike measure S (f a).result (g a).result) :
    Alike measure S (x >>= f).result (x >>= g).result := by
  apply (refl hx).andThen
  intro a b hab
  obtain ⟨rfl, ha⟩ := hab
  exact hf _ ha

/-- Runs that begin with the same safe computation are alike if they go on alike. -/
theorem shareLift {x : Except Fault α} {f : α → Run γ} {g : α → Run δ} (hx : Safe measure x)
    (hf : ∀ a, x = .ok a → Alike measure S (f a).result (g a).result) :
    Alike measure S ((liftM x : Run α) >>= f).result ((liftM x : Run α) >>= g).result := by
  refine share ?_ fun a ha ↦ hf a ?_
  · rw [Run.result_liftM]
    exact hx
  · rw [Run.result_liftM] at ha
    exact ha

/-- A report adds nothing that differs. -/
theorem report {e : Event} {x : Run γ} {y : Run δ} (h : Alike measure S x.result y.result) :
    Alike measure S (Run.report e >>= fun _ ↦ x).result
      (Run.report e >>= fun _ ↦ y).result := by
  rw [Run.result_bind, Run.result_bind]
  exact h

/-- Choices by the same condition are alike if both sides are. -/
theorem choose {c : Prop} [Decidable c] {x x' : Run α} {y y' : Run β}
    (h : c → Alike measure R x.result y.result)
    (h' : ¬ c → Alike measure R x'.result y'.result) :
    Alike measure R (if c then x else x').result (if c then y else y').result := by
  split
  · next hc => exact h hc
  · next hc => exact h' hc

/-- The left computation stops with an excused fault or not at all. -/
theorem safe_left {x : Except Fault α} {y : Except Fault β} (h : Alike measure R x y) :
    Safe measure x := by
  intro f hf
  cases h with
  | ok h => cases hf
  | error h =>
    cases hf
    exact h

/-- A result on the left has a related one on the right. -/
theorem exists_right {x : Except Fault α} {y : Except Fault β} {a : α}
    (h : Alike measure R x y) (hx : x = .ok a) : ∃ b, y = .ok b ∧ R a b := by
  subst hx
  cases h with
  | ok h => exact ⟨_, rfl, h⟩

end Alike

end EditBox
