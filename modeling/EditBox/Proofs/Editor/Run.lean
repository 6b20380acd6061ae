import EditBox.Proofs.Editor.Invariant

/-!
# Runs of operations

Conditions on the editors that a list of operations leads through, and the main statement about
them: `throughout_wellFormed`. A run of any operations from a new editor never stops with a fault as
long as characters and lines can be counted, and every editor on its way is well-formed.
-/

namespace EditBox.Editor

open EditBox.Text

/-- `P` holds of every step that a list of operations makes, starting from an editor. -/
def EveryStep (P : Editor → Operation → Editor → Prop) (e : Editor) : List Operation → Prop
  | [] => True
  | op :: ops =>
      ∀ after answer, (e.apply op).result = .ok (after, answer) →
        P e op after ∧ EveryStep P after ops

/-- `P` holds of an editor and of every editor that a list of operations leads it through. -/
def Throughout (P : Editor → Prop) (e : Editor) (ops : List Operation) : Prop :=
  P e ∧ EveryStep (fun _ _ after ↦ P after) e ops

/-- Carry out operations in order and collect their answers. -/
def answerAll (e : Editor) : List Operation → Run (Editor × List Response)
  | [] => return (e, [])
  | op :: ops => do
      let (e, answer) ← e.apply op
      let (e, answers) ← e.answerAll ops
      return (e, answer :: answers)

/-- An editor that operations make of a new one. -/
def Reachable (e : Editor) : Prop :=
  ∃ buffer limit ops, ((withUndoLimit buffer limit).applyAll ops).result = .ok e

variable {e : Editor} {op : Operation} {ops : List Operation}

/-- A run begins with its first operation. -/
theorem result_applyAll_cons (e : Editor) (op : Operation) (ops : List Operation) :
    (e.applyAll (op :: ops)).result =
      (e.apply op).result >>= fun p ↦ (p.1.applyAll ops).result := by
  rw [applyAll, Run.result_bind]

/-- A run goes on where its first part leads. -/
theorem result_applyAll_append (e : Editor) (first second : List Operation) :
    (e.applyAll (first ++ second)).result =
      (e.applyAll first).result >>= fun e' ↦ (e'.applyAll second).result := by
  induction first generalizing e with
  | nil => rfl
  | cons op first ih =>
    rw [List.cons_append, result_applyAll_cons, result_applyAll_cons]
    cases (e.apply op).result with
    | error f => rfl
    | ok p => exact ih p.1

/-- The answers of a run begin with that of its first operation. -/
theorem result_answerAll_cons (e : Editor) (op : Operation) (ops : List Operation) :
    (e.answerAll (op :: ops)).result =
      (e.apply op).result >>= fun p ↦
        (p.1.answerAll ops).result >>= fun q ↦ .ok (q.1, p.2 :: q.2) := by
  rw [answerAll, Run.result_bind]
  simp only [Run.result_bind, Run.result_pure]

/-- The answers are collected along the same run. -/
theorem map_fst_answerAll (e : Editor) (ops : List Operation) :
    Prod.fst <$> (e.answerAll ops).result = (e.applyAll ops).result := by
  induction ops generalizing e with
  | nil => rfl
  | cons op ops ih =>
    rw [result_answerAll_cons, result_applyAll_cons]
    cases (e.apply op).result with
    | error f => rfl
    | ok p =>
      rw [Fault.ok_bind, Fault.ok_bind, ← ih p.1]
      cases (p.1.answerAll ops).result <;> rfl

private theorem Throughout.tail {P : Editor → Prop} (h : Throughout P e (op :: ops))
    {after : Editor} {answer : Response} (hr : (e.apply op).result = .ok (after, answer)) :
    Throughout P after ops :=
  h.2 after answer hr

/-- A well-formed editor stays well-formed along a run. -/
theorem WellFormed.throughout (h : e.WellFormed) (ops : List Operation) :
    Throughout WellFormed e ops := by
  refine ⟨h, ?_⟩
  induction ops generalizing e with
  | nil => trivial
  | cons op ops ih =>
    intro after answer hr
    have hafter := (apply_step h.within hr).wellFormed h
    exact ⟨hafter, ih hafter⟩

/-- A well-formed editor is well-formed at the end of a run. -/
theorem WellFormed.applyAll (h : e.WellFormed) {after : Editor}
    (hr : (e.applyAll ops).result = .ok after) : after.WellFormed := by
  induction ops generalizing e with
  | nil =>
    cases hr
    exact h
  | cons op ops ih =>
    rw [result_applyAll_cons] at hr
    obtain ⟨⟨next, answer⟩, hop, hr⟩ := Fault.bind_eq_ok_iff.mp hr
    exact ih ((apply_step h.within hop).wellFormed h) hr

/-- A run has a result as long as characters and lines can be counted. -/
theorem WellFormed.exists_applyAll (h : e.WellFormed) (hc : Throughout Countable e ops) :
    ∃ after, (e.applyAll ops).result = .ok after := by
  induction ops generalizing e with
  | nil => exact ⟨e, rfl⟩
  | cons op ops ih =>
    obtain ⟨⟨next, answer⟩, hop⟩ := exists_apply_eq_ok h.within hc.1 op
    obtain ⟨after, hafter⟩ := ih ((apply_step h.within hop).wellFormed h) (hc.tail hop)
    exact ⟨after, by rw [result_applyAll_cons, hop, Fault.ok_bind, hafter]⟩

/-- Every editor that can be reached is well-formed. -/
theorem Reachable.wellFormed (h : e.Reachable) : e.WellFormed := by
  obtain ⟨buffer, limit, ops, hr⟩ := h
  exact (wellFormed_withUndoLimit buffer limit).applyAll hr

/-- No run of operations from a new editor stops with a fault as long as characters and lines can
be counted, and each editor on its way is well-formed: the caret and the selection lie within the
text and the selection ends at the caret, a running gesture is fixed at the other end, the newest
undo entry holds the text, every snapshot lies within its own text, and there is at least one undo
entry while both stacks together fit the capacity. -/
theorem throughout_wellFormed (buffer : Buffer) (limit : Nat) (ops : List Operation)
    (hc : Throughout Countable (withUndoLimit buffer limit) ops) :
    (∃ e, ((withUndoLimit buffer limit).applyAll ops).result = .ok e) ∧
      Throughout WellFormed (withUndoLimit buffer limit) ops := by
  have hstart := wellFormed_withUndoLimit buffer limit
  exact ⟨hstart.exists_applyAll hc, hstart.throughout ops⟩

/-- A replacement that is undone and redone around a shifted caret motion beyond the text. -/
theorem throughout_wellFormed_replace :
    let e := withUndoLimit (.ofText ['a', 'b']) 2
    let ops := [.selectRange 9 1, .insertText ['x'], .undo, .moveCaret 40 true, .redo]
    Throughout Countable e ops ∧ (∃ e', (e.applyAll ops).result = .ok e') ∧
      Throughout WellFormed e ops := by
  intro e ops
  have hc : Throughout Countable e ops := by
    refine ⟨⟨by decide, by decide⟩, ?_⟩
    rintro _ _ ⟨⟩
    refine ⟨⟨by decide, by decide⟩, ?_⟩
    rintro _ _ ⟨⟩
    refine ⟨⟨by decide, by decide⟩, ?_⟩
    rintro _ _ ⟨⟩
    refine ⟨⟨by decide, by decide⟩, ?_⟩
    rintro _ _ ⟨⟩
    refine ⟨⟨by decide, by decide⟩, ?_⟩
    rintro _ _ ⟨⟩
    exact ⟨⟨by decide, by decide⟩, trivial⟩
  exact ⟨hc, throughout_wellFormed _ _ _ hc⟩

end EditBox.Editor
