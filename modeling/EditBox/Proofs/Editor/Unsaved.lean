import EditBox.Proofs.Editor.Run
import Mathlib.Data.List.DropRight

/-!
# Unsaved changes

The host holds the text that it gave to the editor or took from it last. `untilSaved` cuts a list of
operations off behind the last of them that did so, and `Step.of_not_dirty` says that no other
operation changes the text without setting the flag. So a flag that is not set never hides a change:
`text_eq_of_not_dirty` is the main statement.
-/

namespace EditBox.Editor

/-- Whether the host holds the text once an operation has been carried out: it loads the text or
notes that the text was saved. -/
def Operation.saves : Operation → Bool
  | .setText _ | .markSaved => true
  | _ => false

/-- Operations up to the last that leaves the host with the text, or none without such an
operation. -/
def untilSaved (ops : List Operation) : List Operation := ops.rdropWhile fun op ↦ !op.saves

variable {e after : Editor} {op : Operation} {answer : Response} {ops : List Operation}

/-- The operations fall into those up to the last that leaves the host with the text and others that
do not. -/
theorem exists_untilSaved_append (ops : List Operation) :
    ∃ rest, ops = untilSaved ops ++ rest ∧ ∀ op ∈ rest, op.saves = false := by
  refine ⟨ops.rtakeWhile fun op ↦ !op.saves, List.rdropWhile_append_rtakeWhile.symm, ?_⟩
  intro op hop
  simpa using List.mem_rtakeWhile_imp hop

/-- A step through the history that finds a state sets the flag, and any other keeps the text. -/
theorem travelled_of_not_dirty {step : History × Option Snapshot}
    (hd : (e.travelled step).1.dirty = false) :
    e.dirty = false ∧ (e.travelled step).1.text = e.text := by
  obtain ⟨history, found⟩ := step
  cases found with
  | none => exact ⟨hd, rfl⟩
  | some s => cases hd

/-- A step after which the flag is not set began without it and kept the text, unless the host holds
the text from it. -/
theorem Step.of_not_dirty (hs : Step e op after answer) (hop : op.saves = false)
    (hd : after.dirty = false) : e.dirty = false ∧ after.text = e.text := by
  cases hs with
  | load text => cases hop
  | insert text => cases hd
  | delete hdel hlt => cases hd
  | deleteNone hdel hlt => exact ⟨hd, rfl⟩
  | point hm => exact ⟨hd, rfl⟩
  | undo => exact travelled_of_not_dirty hd
  | redo => exact travelled_of_not_dirty hd
  | save => cases hop
  | ask ha => exact ⟨hd, rfl⟩

/-- A run after which the flag is not set began without it and kept the text, if the host holds the
text from none of its operations. -/
theorem WellFormed.of_not_dirty (hw : e.WellFormed) (hops : ∀ op ∈ ops, op.saves = false)
    (hr : (e.applyAll ops).result = .ok after) (hd : after.dirty = false) :
    e.dirty = false ∧ after.text = e.text := by
  induction ops generalizing e with
  | nil =>
    cases hr
    exact ⟨hd, rfl⟩
  | cons op ops ih =>
    rw [result_applyAll_cons] at hr
    obtain ⟨⟨next, answer⟩, hop, hr⟩ := Fault.bind_eq_ok_iff.mp hr
    have hstep := apply_step hw.within hop
    -- The flag is followed backwards: what is not set at the end was not set before.
    obtain ⟨hnext, htext⟩ :=
      ih (hstep.wellFormed hw) (fun op' hmem ↦ hops op' (List.mem_cons_of_mem _ hmem)) hr
    obtain ⟨hbefore, hsame⟩ := hstep.of_not_dirty (hops op List.mem_cons_self) hnext
    exact ⟨hbefore, htext.trans hsame⟩

/-- As long as the flag is not set, the text is the one that the host holds: that of the editor as
it was made, or as the last loading or saving left it, whatever operations came in between. -/
theorem text_eq_of_not_dirty (buffer : Text.Buffer) (limit : Nat) (ops : List Operation)
    (hr : ((withUndoLimit buffer limit).applyAll ops).result = .ok e) (hd : e.dirty = false) :
    ∃ saved, ((withUndoLimit buffer limit).applyAll (untilSaved ops)).result = .ok saved ∧
      e.text = saved.text := by
  obtain ⟨rest, hsplit, hrest⟩ := exists_untilSaved_append ops
  rw [hsplit, result_applyAll_append] at hr
  obtain ⟨saved, hsaved, hr⟩ := Fault.bind_eq_ok_iff.mp hr
  have hw := (wellFormed_withUndoLimit buffer limit).applyAll hsaved
  exact ⟨saved, hsaved, (hw.of_not_dirty hrest hr hd).2⟩

/-- After an insertion that was saved, motions and steps through the history that find nothing leave
the text as it was saved. -/
theorem text_eq_of_not_dirty_insert :
    let start := withUndoLimit (.ofText ['a', 'b']) 200
    let ops := [.insertText ['x'], .markSaved, .moveCaret 9 true, .collapseSelection, .redo]
    ∃ e saved, (start.applyAll ops).result = .ok e ∧ e.dirty = false ∧
      (start.applyAll [.insertText ['x'], .markSaved]).result = .ok saved ∧
      e.text = saved.text ∧ e.text = ['x', 'a', 'b'] := by
  intro start ops
  obtain ⟨saved, hsaved, htext⟩ := text_eq_of_not_dirty (.ofText ['a', 'b']) 200 ops rfl rfl
  exact ⟨_, saved, rfl, rfl, hsaved, htext, rfl⟩

end EditBox.Editor
