import EditBox.Proofs.Editor.Step
import EditBox.Proofs.Layout.Cache

/-!
# Counted changes of the editor

Whatever an operation does to an editor, the buffer counts it: the new buffer is the old one or has
a later revision. Nothing but arithmetic stops an operation.
-/

namespace EditBox.Editor

open EditBox.Text

variable {α β : Type} {measure : Option Measure} {e : Editor}

/-- A computation that is safe and counts what it changes of the buffer. -/
structure Counts (measure : Option Measure) (e : Editor) (x : Except Fault (Editor × α)) :
    Prop where
  safe : Safe measure x
  comesFrom : ∀ p, x = .ok p → p.1.buffer.ComesFrom e.buffer

namespace Counts

/-- A computation that has a result and counts what it changes. -/
theorem of_eq_ok {x : Except Fault (Editor × α)} {p : Editor × α} (hx : x = .ok p)
    (hp : p.1.buffer.ComesFrom e.buffer) : Counts measure e x where
  safe := .of_eq_ok hx
  comesFrom := by
    intro q hq
    rw [hx] at hq
    cases hq
    exact hp

/-- A sequence counts what its second part does, if its first part is safe. -/
theorem bind {x : Except Fault β} {f : β → Except Fault (Editor × α)} (hx : Safe measure x)
    (hf : ∀ a, x = .ok a → Counts measure e (f a)) : Counts measure e (x >>= f) where
  safe := hx.bind fun a ha ↦ (hf a ha).safe
  comesFrom := by
    intro p hp
    obtain ⟨a, ha, hfa⟩ := Fault.bind_eq_ok_iff.mp hp
    exact (hf a ha).comesFrom p hfa

/-- A choice counts what it changes if both sides do. -/
theorem ite {c : Prop} [Decidable c] {x y : Except Fault (Editor × α)}
    (hx : c → Counts measure e x) (hy : ¬ c → Counts measure e y) :
    Counts measure e (if c then x else y) := by
  split
  · next h => exact hx h
  · next h => exact hy h

/-- Another answer changes nothing of the buffer. -/
theorem map {x : Except Fault (Editor × α)} (hx : Counts measure e x) (f : α → β) :
    Counts measure e ((fun p ↦ (p.1, f p.2)) <$> x) := by
  cases x with
  | error fault =>
    refine ⟨fun fault' h ↦ ?_, fun p h ↦ by cases h⟩
    cases h
    exact hx.safe fault rfl
  | ok p => exact of_eq_ok rfl (hx.comesFrom p rfl)

/-- An editor left as it is. -/
theorem unchanged {e' : Editor} (h : e'.buffer = e.buffer) (a : α) :
    Counts measure e (.ok (e', a)) :=
  of_eq_ok rfl (.inl h)

end Counts

private theorem comesFrom_spliced (e : Editor) (start stop : Nat) (text : List Char) :
    (e.spliced start stop text).buffer.ComesFrom e.buffer :=
  e.buffer.comesFrom_splice start stop text

/-- An insertion counts what it changes. -/
theorem comesFrom_insertText {e' : Editor} {text : List Char}
    (h : (e.insertText text).result = .ok e') : e'.buffer.ComesFrom e.buffer := by
  rw [result_insertText] at h
  cases h
  exact comesFrom_spliced e _ _ _

private theorem comesFrom_deleted (e : Editor) (range : Nat × Nat) :
    (e.deleted range).1.buffer.ComesFrom e.buffer := by
  unfold deleted
  split
  · exact comesFrom_spliced e _ _ _
  · exact .refl _

/-- Restoring a snapshot counts as a change. -/
theorem comesFrom_travelled (e : Editor) (step : History × Option Snapshot) :
    (e.travelled step).1.buffer.ComesFrom e.buffer := by
  obtain ⟨history, found⟩ := step
  cases found with
  | none => exact .refl _
  | some s => exact e.buffer.comesFrom_setText _

/-- Moving the caret keeps the buffer. -/
theorem buffer_moveCaret (e : Editor) (target : Nat) (shift : Bool) :
    (e.moveCaret target shift).buffer = e.buffer := by
  unfold moveCaret
  split <;> rfl

/-- Deletion of a range. -/
theorem counts_deleteRange (e : Editor) (a b : Nat) :
    Counts measure e (e.deleteRange a b).result :=
  .of_eq_ok (result_deleteRange_eq_deleted e a b) (e.comesFrom_deleted _)

/-- Deletion of the selection. -/
theorem counts_deleteSelection (e : Editor) : Counts measure e e.deleteSelection.result :=
  counts_deleteRange e _ _

/-- Deletion of a character backwards. -/
theorem counts_backspace (e : Editor) : Counts measure e e.backspace.result := by
  rw [backspace, Run.result_ite, Run.result_ite]
  refine .ite (fun _ ↦ counts_deleteSelection e) fun _ ↦ ?_
  exact .ite (fun _ ↦ .unchanged rfl false) fun _ ↦ counts_deleteRange e _ _

/-- Deletion of a character forwards. -/
theorem counts_deleteForward (e : Editor) : Counts measure e e.deleteForward.result := by
  rw [deleteForward, Run.result_ite, Run.result_ite]
  refine .ite (fun _ ↦ counts_deleteSelection e) fun _ ↦ ?_
  exact .ite (fun _ ↦ .unchanged rfl false) fun _ ↦ counts_deleteRange e _ _

/-- Deletion of a word backwards. -/
theorem counts_deleteWordBack (e : Editor) : Counts measure e e.deleteWordBack.result := by
  rw [deleteWordBack, Run.result_ite, Run.result_bind, Run.result_liftM]
  refine .ite (fun _ ↦ counts_deleteSelection e) fun _ ↦ ?_
  exact .bind (Motion.safe_wordScanBack _ _) fun target _ ↦ counts_deleteRange e _ _

/-- Deletion of a word forwards. -/
theorem counts_deleteWordForward (e : Editor) : Counts measure e e.deleteWordForward.result := by
  rw [deleteWordForward, Run.result_ite, Run.result_bind, Run.result_liftM]
  refine .ite (fun _ ↦ counts_deleteSelection e) fun _ ↦ ?_
  exact .bind (Motion.safe_wordScanForward _ _) fun target _ ↦ counts_deleteRange e _ _

/-- The selected characters are found. -/
theorem safe_selectedText (e : Editor) : Safe measure e.selectedText := by
  refine Safe.ite (fun _ ↦ ?_) fun _ ↦ .ok none
  have hl : e.clampOffset e.selection.range.2 ≤ e.buffer.length := e.clampOffset_le _
  rw [Buffer.substring_eq_ok hl]
  exact .ok _

/-- Every operation counts what it changes. -/
theorem counts_apply (e : Editor) (op : Operation) : Counts measure e (e.apply op).result := by
  cases op with
  | setText text => exact .of_eq_ok rfl (e.buffer.comesFrom_setText text)
  | insertText text =>
    rw [apply, Run.result_bind]
    have hsafe : Safe measure (e.insertText text).result := .of_eq_ok (result_insertText e text)
    exact .bind hsafe fun e' he ↦ .of_eq_ok rfl (comesFrom_insertText he)
  | deleteRange a b => exact result_answer _ ▸ (counts_deleteRange e a b).map _
  | deleteSelection => exact result_answer _ ▸ (counts_deleteSelection e).map _
  | backspace => exact result_answer _ ▸ (counts_backspace e).map _
  | deleteForward => exact result_answer _ ▸ (counts_deleteForward e).map _
  | deleteWordBack => exact result_answer _ ▸ (counts_deleteWordBack e).map _
  | deleteWordForward => exact result_answer _ ▸ (counts_deleteWordForward e).map _
  | moveCaret target shift => exact .unchanged (buffer_moveCaret e target shift) _
  | undo => exact .of_eq_ok rfl (comesFrom_travelled e _)
  | redo => exact .of_eq_ok rfl (comesFrom_travelled e _)
  | selectedText =>
    rw [apply, Run.result_bind, Run.result_liftM]
    exact .bind (safe_selectedText e) fun text _ ↦ .unchanged rfl _
  | _ => exact .of_eq_ok rfl (.inl rfl)

end EditBox.Editor
