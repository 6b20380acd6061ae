import EditBox.Proofs.Editor.Run

/-!
# Shifted motions

A shifted motion leaves one end of the selection where it is, as long as the gesture that made the
selection goes on. A step through the history ends the gesture but brings a selection back, so the
next shifted motion begins a selection of its own at the caret. `Operation.restores` tells the two
apart along a run of operations, `FixedEnd` is what every step keeps, and
`moveCaret_shift_extends` is the main statement.
-/

namespace EditBox

namespace Snapshot

private theorem gesture_eq_of_motion {s : Snapshot} {gesture gesture' : Option Nat}
    {op : Editor.Operation} {selection : Selection}
    (h : s.motion gesture op = some (selection, gesture')) :
    selection.isEmpty = true ∨ gesture' = some selection.anchor := by
  cases op with
  | moveCaret target shift =>
    cases shift with
    | true =>
      cases h
      exact .inr rfl
    | false =>
      cases h
      exact .inl (Selection.isEmpty_collapsed _)
  | selectRange anchor caret =>
    cases h
    exact .inr rfl
  | selectAll =>
    cases h
    exact .inr rfl
  | collapseSelection =>
    cases h
    exact .inl (Selection.isEmpty_collapsed _)
  | _ => cases h

end Snapshot

namespace Editor

/-- Whether the selection was brought back from the history once an operation has been answered: a
step through the history that finds a state brings its selection back, questions and operations
that do nothing leave it as it was, and all others place a selection of their own. -/
def Operation.restores (before : Bool) : Operation → Response → Bool
  | _, .flag false => before
  | .undo, _ | .redo, _ => true
  | .selectedText, _ | .hasSelection, _ | .clampOffset _, _ | .markSaved, _ => before
  | _, _ => false

/-- Whether the selection was brought back from the history once operations have been answered, told
from whether it was before them. -/
def restoredAfter (before : Bool) (ops : List Operation) (answers : List Response) : Bool :=
  (ops.zip answers).foldl (fun restored p ↦ p.1.restores restored p.2) before

/-- The fixed end of the selection is that of the running gesture, and no gesture runs if the
selection was brought back from the history. -/
def FixedEnd (e : Editor) (restored : Bool) : Prop :=
  e.hasSelection = true → e.anchor = if restored then none else some e.selection.anchor

variable {e after : Editor} {op : Operation} {answer : Response} {restored : Bool}

private theorem fixedEnd_of_isEmpty (h : e.selection.isEmpty = true) : e.FixedEnd restored := by
  intro hsel
  rw [hasSelection, h] at hsel
  cases hsel

private theorem Operation.restores_of_answer {s : Snapshot} (h : s.answer op = some answer)
    (before : Bool) : op.restores before answer = before := by
  cases op with
  | selectedText =>
    cases h
    rfl
  | hasSelection =>
    cases h
    cases s.selection.isEmpty <;> rfl
  | clampOffset offset =>
    cases h
    rfl
  | _ => cases h

private theorem Operation.restores_of_motion {s : Snapshot} {gesture : Option Nat}
    {next : Selection × Option Nat} (h : s.motion gesture op = some next) (before : Bool) :
    op.restores before .nothing = false := by
  cases op with
  | moveCaret | selectRange | selectAll | collapseSelection => rfl
  | _ => cases h

/-- A step through the history that finds a state brings its selection back without the gesture,
and any other leaves the editor as it is. -/
theorem FixedEnd.travelled (h : e.FixedEnd restored) (step : History × Option Snapshot)
    (hnone : step.2 = none → step.1 = e.history) :
    (e.travelled step).1.FixedEnd ((e.travelled step).2 || restored) := by
  obtain ⟨history, found⟩ := step
  cases found with
  | none =>
    obtain rfl : history = e.history := hnone rfl
    exact h
  | some s => exact fun _ ↦ rfl

/-- Every step keeps the fixed end. -/
theorem Step.fixedEnd (hs : Step e op after answer) (h : e.FixedEnd restored) :
    after.FixedEnd (op.restores restored answer) := by
  cases hs with
  | load text => exact fixedEnd_of_isEmpty (Selection.isEmpty_collapsed _)
  | insert text => exact fixedEnd_of_isEmpty (Selection.isEmpty_collapsed _)
  | delete hd hlt => exact fixedEnd_of_isEmpty (Selection.isEmpty_collapsed _)
  | deleteNone hd hlt => exact h
  | @point op selection gesture hm =>
    -- Only a motion leaves a selection, and with it the gesture that made it.
    rw [Operation.restores_of_motion hm]
    rcases Snapshot.gesture_eq_of_motion hm with hempty | rfl
    · exact fixedEnd_of_isEmpty hempty
    · exact fun _ ↦ rfl
  | undo =>
    have htravelled := h.travelled (e.history.undo e.snapshot) History.undo_fst_of_none
    cases hfound : (e.travelled (e.history.undo e.snapshot)).2 <;> rwa [hfound] at htravelled
  | redo =>
    have htravelled := h.travelled (e.history.redo e.snapshot) History.redo_fst_of_none
    cases hfound : (e.travelled (e.history.redo e.snapshot)).2 <;> rwa [hfound] at htravelled
  | save => exact h
  | ask ha =>
    rw [Operation.restores_of_answer ha]
    exact h

/-- A run of operations keeps the fixed end. -/
theorem FixedEnd.answerAll (hw : e.WellFormed) (h : e.FixedEnd restored) {ops : List Operation}
    {answers : List Response} (hr : (e.answerAll ops).result = .ok (after, answers)) :
    after.FixedEnd (restoredAfter restored ops answers) := by
  induction ops generalizing e restored answers with
  | nil =>
    cases hr
    exact h
  | cons op ops ih =>
    rw [result_answerAll_cons] at hr
    obtain ⟨⟨next, answer⟩, hop, hr⟩ := Fault.bind_eq_ok_iff.mp hr
    obtain ⟨⟨last, answers⟩, hops, hr⟩ := Fault.bind_eq_ok_iff.mp hr
    cases hr
    have hstep := apply_step hw.within hop
    exact ih (hstep.wellFormed hw) (hstep.fixedEnd h) hops

/-- A shifted motion of an editor with a selection moves the caret and leaves the other end of the
selection where it is, whatever operations led to the editor, unless the selection was brought back
from the history by the last of them that placed one: then it selects from the caret on. -/
theorem moveCaret_shift_extends (buffer : Text.Buffer) (limit : Nat) (ops : List Operation)
    {answers : List Response}
    (hr : ((withUndoLimit buffer limit).answerAll ops).result = .ok (e, answers))
    (hsel : e.hasSelection = true) (target : Nat) :
    e.selection.caret = e.caret ∧
    (e.moveCaret target true).caret = min target e.length ∧
    (e.moveCaret target true).selection =
      ⟨if restoredAfter false ops answers then e.caret else e.selection.anchor,
        min target e.length⟩ := by
  have hstart := wellFormed_withUndoLimit buffer limit
  have hrun : ((withUndoLimit buffer limit).applyAll ops).result = .ok e := by
    rw [← map_fst_answerAll, hr, Fault.map_ok]
  have hafter := hstart.applyAll hrun
  have hfixed : (withUndoLimit buffer limit).FixedEnd false :=
    fixedEnd_of_isEmpty (Selection.isEmpty_collapsed 0)
  have hanchor := hfixed.answerAll hstart hr hsel
  rw [moveCaret_true hafter.within, hanchor]
  refine ⟨hafter.within.selection_caret, rfl, ?_⟩
  split <;> rfl

/-- After a step back the first shifted motion begins a selection at the caret, and the second
extends it. -/
theorem moveCaret_shift_extends_undo :
    let ops := [.selectRange 0 1, .deleteSelection, .undo, .moveCaret 2 true]
    ∃ e answers,
      ((withUndoLimit (.ofText ['a', 'b']) 200).answerAll ops).result = .ok (e, answers) ∧
      e.selection = ⟨1, 2⟩ ∧ (e.moveCaret 0 true).selection = ⟨1, 0⟩ := by
  intro ops
  obtain ⟨-, -, hextended⟩ :=
    moveCaret_shift_extends (.ofText ['a', 'b']) 200 ops rfl rfl 0
  exact ⟨_, _, rfl, rfl, hextended⟩

/-- A shifted motion does not extend every selection: one that a step back has restored comes
without the gesture that made it. -/
theorem not_forall_moveCaret_shift_extends :
    ¬ ∀ e : Editor, e.Reachable → e.hasSelection = true → ∀ target,
      (e.moveCaret target true).selection = ⟨e.selection.anchor, min target e.length⟩ := by
  intro hextends
  have hreachable := hextends _
    ⟨.ofText ['a', 'b'], 200, [.selectRange 0 1, .deleteSelection, .undo], rfl⟩ rfl 2
  revert hreachable
  decide

end Editor

end EditBox
