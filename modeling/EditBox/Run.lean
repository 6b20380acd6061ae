import EditBox.Event
import EditBox.Fault

/-!
# Runs

An operation of the edit box either stops with a fault or gives a value together with the events it
reported, in order. `Run` is that type as a monad. `Run.result` forgets the events and commutes
with sequencing, so the value of an operation is reasoned about without its reports.
-/

namespace EditBox

/-- Outcome of an operation: a fault, or a value and the events reported on the way. -/
structure Run (α : Type) where
  outcome : Except Fault (α × List Event)

namespace Run

variable {α β γ : Type}

/-- A value without events. -/
def done (a : α) : Run α := ⟨.ok (a, [])⟩

/-- A run without a value. -/
def fail (f : Fault) : Run α := ⟨.error f⟩

/-- Sequencing; the events of the first run come first. -/
def andThen (x : Run α) (f : α → Run β) : Run β :=
  ⟨match x.outcome with
    | .error e => .error e
    | .ok (a, first) =>
        match (f a).outcome with
        | .error e => .error e
        | .ok (b, second) => .ok (b, first ++ second)⟩

instance : Monad Run where
  pure := done
  bind := andThen

/-- Report one event. -/
def report (e : Event) : Run Unit := ⟨.ok ((), [e])⟩

/-- Report events in order. -/
def reportAll (es : List Event) : Run Unit := ⟨.ok ((), es)⟩

/-- Run of a computation that reports nothing. -/
def ofExcept (x : Except Fault α) : Run α := ⟨x.map (·, [])⟩

instance : MonadLift (Except Fault) Run where
  monadLift := ofExcept

/-- Value or fault, without the events. -/
def result (x : Run α) : Except Fault α := x.outcome.map Prod.fst

/-- Events of a run that gives a value. -/
def events (x : Run α) : List Event :=
  match x.outcome with
  | .error _ => []
  | .ok (_, es) => es

/-- Runs with the same outcome are equal. -/
theorem ext {x y : Run α} (h : x.outcome = y.outcome) : x = y := by
  cases x; cases y; cases h; rfl

private theorem id_map_run (x : Run α) : id <$> x = x := by
  apply ext
  cases x with | mk o =>
  cases o with
  | error e => rfl
  | ok p => simp [Functor.map, andThen, done]

private theorem pure_bind_run (a : α) (f : α → Run β) : (pure a >>= f) = f a := by
  apply ext
  simp only [pure, bind, andThen, done]
  cases (f a).outcome <;> simp

private theorem bind_assoc_run (x : Run α) (f : α → Run β) (g : β → Run γ) :
    (x >>= f) >>= g = x >>= fun a ↦ f a >>= g := by
  apply ext
  cases x with | mk o =>
  cases o with
  | error e => rfl
  | ok p =>
    simp only [bind, andThen]
    cases (f p.1).outcome with
    | error e => rfl
    | ok q =>
      simp only
      cases (g q.1).outcome <;> simp

instance : LawfulMonad Run :=
  LawfulMonad.mk' Run id_map_run pure_bind_run bind_assoc_run

/-- A pure run gives its value. -/
@[simp] theorem result_pure (a : α) : (pure a : Run α).result = .ok a := rfl

/-- Forgetting the events commutes with sequencing. -/
@[simp] theorem result_bind (x : Run α) (f : α → Run β) :
    (x >>= f).result = x.result >>= fun a ↦ (f a).result := by
  cases x with | mk o =>
  cases o with
  | error e => rfl
  | ok p =>
    simp only [bind, andThen, result, Except.bind, Except.map]
    cases (f p.1).outcome <;> rfl

/-- The value of a choice is the value of the run chosen. -/
@[simp] theorem result_ite (c : Prop) [Decidable c] (x y : Run α) :
    (if c then x else y).result = if c then x.result else y.result := by
  split <;> rfl

/-- A report gives no value of interest. -/
@[simp] theorem result_report (e : Event) : (report e).result = .ok () := rfl

/-- A computation that reports nothing keeps its result. -/
@[simp] theorem result_ofExcept (x : Except Fault α) : (ofExcept x).result = x := by
  cases x <;> rfl

/-- A lifted computation keeps its result. -/
@[simp] theorem result_liftM (x : Except Fault α) : (liftM x : Run α).result = x :=
  result_ofExcept x

end Run

end EditBox
