import EditBox.Editor.Operation
import EditBox.Proofs.Editor.Splice
import EditBox.Proofs.Text.Words

/-!
# Steps of an editor

What an operation can do to an editor whose caret and selection lie within its text: load a text,
splice, move the selection, travel through the history, or leave the editor as it is.
`apply_step` says so for every operation, `exists_apply_eq_ok` that every operation has a result.
-/

namespace EditBox

open EditBox.Text

namespace Snapshot

/-- The selected range, or another one when nothing is selected. -/
def selectedOr (s : Snapshot) (range : Nat × Nat) : Nat × Nat :=
  if s.selection.isEmpty then range else s.selection.range

/-- Range that a deletion takes out of a state; it is empty when there is nothing to delete. -/
def deletion (s : Snapshot) : Editor.Operation → Option (Nat × Nat)
  | .deleteRange a b => some (min (min a b) s.length, min (max a b) s.length)
  | .deleteSelection => some s.selection.range
  | .backspace => some (s.selectedOr (s.caret - 1, s.caret))
  | .deleteForward => some (s.selectedOr (s.caret, min (s.caret + 1) s.length))
  | .deleteWordBack =>
      some (s.selectedOr (s.caret - wordRun (lineBefore s.text s.caret), s.caret))
  | .deleteWordForward =>
      some (s.selectedOr (s.caret, s.caret + wordRun (lineAfter s.text s.caret)))
  | _ => none

/-- Selection that a motion leads to, with the caret at its second end, and the fixed end of the
gesture that goes on from there. -/
def motion (s : Snapshot) (gesture : Option Nat) :
    Editor.Operation → Option (Selection × Option Nat)
  | .moveCaret target true =>
      some (⟨gesture.getD s.caret, min target s.length⟩, some (gesture.getD s.caret))
  | .moveCaret target false => some (.collapsed (min target s.length), none)
  | .selectRange anchor caret =>
      some (⟨min anchor s.length, min caret s.length⟩, some (min anchor s.length))
  | .selectAll => some (⟨0, s.length⟩, some 0)
  | .collapseSelection => some (.collapsed s.caret, none)
  | _ => none

/-- Answer to a question about a state. -/
def answer (s : Snapshot) : Editor.Operation → Option Editor.Response
  | .selectedText =>
      let (a, b) := s.selection.range
      some (.text (if a < b then some ((s.text.drop a).take (b - a)) else none))
  | .hasSelection => some (.flag !s.selection.isEmpty)
  | .clampOffset offset => some (.offset (min offset s.length))
  | _ => none

variable {s : Snapshot}

/-- The selected range or another one lies within the text if the other one does. -/
theorem Within.selectedOr_le (h : s.Within) {range : Nat × Nat}
    (hr : range.1 ≤ range.2 ∧ range.2 ≤ s.length) :
    (s.selectedOr range).1 ≤ (s.selectedOr range).2 ∧ (s.selectedOr range).2 ≤ s.length := by
  unfold selectedOr
  split
  · exact hr
  · exact ⟨s.selection.range_le, h.range_le⟩

/-- White space and word after the caret lie within the text. -/
theorem Within.wordRun_lineAfter_le (h : s.Within) :
    s.caret + wordRun (lineAfter s.text s.caret) ≤ s.length := by
  have hrun := wordRun_le (lineAfter s.text s.caret)
  have hline := (List.takeWhile_prefix (p := (· ≠ '\n')) (l := s.text.drop s.caret)).length_le
  have hcaret := h.caret_le
  rw [List.length_drop] at hline
  simp only [lineAfter, length] at *
  omega

/-- A deletion takes out an ordered range of the text. -/
theorem Within.deletion_le (h : s.Within) {op : Editor.Operation} {range : Nat × Nat}
    (hd : s.deletion op = some range) : range.1 ≤ range.2 ∧ range.2 ≤ s.length := by
  have hc := h.caret_le
  cases op with
  | deleteRange a b =>
    obtain rfl := Option.some.inj hd
    dsimp only
    omega
  | deleteSelection =>
    obtain rfl := Option.some.inj hd
    exact ⟨s.selection.range_le, h.range_le⟩
  | backspace =>
    obtain rfl := Option.some.inj hd
    exact h.selectedOr_le ⟨Nat.sub_le _ _, hc⟩
  | deleteForward =>
    obtain rfl := Option.some.inj hd
    exact h.selectedOr_le ⟨Nat.le_min.mpr ⟨Nat.le_succ _, hc⟩, Nat.min_le_right _ _⟩
  | deleteWordBack =>
    obtain rfl := Option.some.inj hd
    exact h.selectedOr_le ⟨Nat.sub_le _ _, hc⟩
  | deleteWordForward =>
    obtain rfl := Option.some.inj hd
    exact h.selectedOr_le ⟨Nat.le_add_right _ _, h.wordRun_lineAfter_le⟩
  | _ => cases hd

end Snapshot

namespace Editor

/-- Characters and lines can be counted in the width of an offset. -/
def Countable (e : Editor) : Prop :=
  e.length < Bounded.offsetBound ∧ e.buffer.lineCount < Bounded.offsetBound

/-- The editor with another selection, and the caret at its second end. -/
def pointed (e : Editor) (selection : Selection) (gesture : Option Nat) : Editor :=
  { e with caret := selection.caret, selection := selection, anchor := gesture }

/-- What an operation makes of an editor, and its answer. -/
inductive Step (e : Editor) : Operation → Editor → Response → Prop where
  | load (text : List Char) : Step e (.setText text) (e.loaded text) .nothing
  | insert (text : List Char) :
      Step e (.insertText text)
        (e.spliced e.selection.range.1 e.selection.range.2 text) .nothing
  | delete {op : Operation} {range : Nat × Nat} (hd : e.snapshot.deletion op = some range)
      (h : range.1 < range.2) : Step e op (e.spliced range.1 range.2 []) (.flag true)
  | deleteNone {op : Operation} {range : Nat × Nat} (hd : e.snapshot.deletion op = some range)
      (h : ¬ range.1 < range.2) : Step e op e (.flag false)
  | point {op : Operation} {selection : Selection} {gesture : Option Nat}
      (hm : e.snapshot.motion e.anchor op = some (selection, gesture)) :
      Step e op (e.pointed selection gesture) .nothing
  | undo :
      Step e .undo (e.travelled (e.history.undo e.snapshot)).1
        (.flag (e.travelled (e.history.undo e.snapshot)).2)
  | redo :
      Step e .redo (e.travelled (e.history.redo e.snapshot)).1
        (.flag (e.travelled (e.history.redo e.snapshot)).2)
  | save : Step e .markSaved e.markSaved .nothing
  | ask {op : Operation} {answer : Response} (ha : e.snapshot.answer op = some answer) :
      Step e op e answer

variable {e : Editor}

/-- An answer adds nothing to the value of a run. -/
@[simp] theorem result_answer (r : Run (Editor × Bool)) :
    (apply.answer r).result = (fun p ↦ (p.1, Response.flag p.2)) <$> r.result := by
  rw [apply.answer, Run.result_bind]
  cases r.result <;> rfl

private theorem result_deleteRange_of_le {start stop : Nat} (h : start ≤ stop)
    (hl : stop ≤ e.length) :
    (e.deleteRange start stop).result = .ok (e.deleted (start, stop)) := by
  rw [result_deleteRange_eq_deleted, Nat.min_eq_left h, Nat.max_eq_right h,
    clampOffset_eq_self (Nat.le_trans h hl), clampOffset_eq_self hl]

/-- Either nothing is selected or the selection stands for the range to delete. -/
theorem selectedOr_eq (e : Editor) (range : Nat × Nat) :
    e.snapshot.selectedOr range = if e.hasSelection then e.selection.range else range := by
  cases h : e.selection.isEmpty <;> simp [Snapshot.selectedOr, hasSelection, snapshot, h]

private theorem step_deleted {op : Operation} {range : Nat × Nat}
    (hd : e.snapshot.deletion op = some range) :
    Step e op (e.deleted range).1 (.flag (e.deleted range).2) := by
  unfold deleted
  split
  · next hlt => exact .delete hd hlt
  · next hlt => exact .deleteNone hd hlt

private theorem step_of_result_answer {op : Operation} {range : Nat × Nat} {r : Run (Editor × Bool)}
    {after : Editor} {answer : Response} (hd : e.snapshot.deletion op = some range)
    (hr : r.result = .ok (e.deleted range))
    (ha : (apply.answer r).result = .ok (after, answer)) : Step e op after answer := by
  rw [result_answer, hr, Fault.map_ok] at ha
  obtain ⟨rfl, rfl⟩ := Prod.mk.inj (Except.ok.inj ha)
  exact step_deleted hd

private theorem Step.of_result {op : Operation} {after after' : Editor} {answer answer' : Response}
    (hs : Step e op after answer) (hp : (e.apply op).result = .ok (after, answer))
    (hr : (e.apply op).result = .ok (after', answer')) : Step e op after' answer' := by
  cases hp.symm.trans hr
  exact hs

private theorem exists_result_answer {r : Run (Editor × Bool)} {p : Editor × Bool}
    (hr : r.result = .ok p) : ∃ q, (apply.answer r).result = .ok q :=
  ⟨_, (result_answer r).trans (congrArg _ hr)⟩

/-- The number of the line after that of the caret is in bounds. -/
theorem Countable.lineOf_succ_lt (hc : e.Countable) :
    e.buffer.lineOf e.caret + 1 < Bounded.offsetBound := by
  have hl := e.buffer.lineOf_lt_lineCount e.caret
  have := hc.2
  omega

section Within

variable (h : e.snapshot.Within)
include h

/-- The caret is not brought down. -/
theorem clampOffset_caret : e.clampOffset e.caret = e.caret :=
  clampOffset_eq_self h.caret_le

private theorem selectedRange_eq : e.selectedRange = e.selection.range := by
  have hle : e.selection.range.2 ≤ e.length := h.range_le
  rw [selectedRange, clampOffset_eq_self hle,
    clampOffset_eq_self (Nat.le_trans e.selection.range_le hle)]

/-- An insertion replaces the selection, which lies at the caret when it is empty. -/
theorem insertionRange_eq : e.insertionRange = e.selection.range := by
  rw [insertionRange, selectedRange_eq h, clampOffset_caret h]
  split
  · next he =>
    have hsel : e.selection.anchor = e.selection.caret := by
      simp only [Selection.range] at he
      omega
    exact (h.range_of_isEmpty hsel).symm
  · rfl

/-- Deletion of the selection. -/
theorem result_deleteSelection :
    e.deleteSelection.result = .ok (e.deleted e.selection.range) :=
  result_deleteRange_of_le e.selection.range_le h.range_le

/-- Backspace deletes the selection or the character before the caret. -/
theorem result_backspace :
    e.backspace.result = .ok (e.deleted (e.snapshot.selectedOr (e.caret - 1, e.caret))) := by
  rw [backspace, selectedOr_eq, Run.result_ite]
  split
  · exact result_deleteSelection h
  · rw [Run.result_ite, clampOffset_caret h]
    split
    · next hz => simp [hz, deleted]
    · exact result_deleteRange_of_le (Nat.sub_le _ _) h.caret_le

/-- Forward deletion deletes the selection or the character after the caret. -/
theorem result_deleteForward :
    e.deleteForward.result =
      .ok (e.deleted (e.snapshot.selectedOr (e.caret, min (e.caret + 1) e.length))) := by
  have hc : e.caret ≤ e.length := h.caret_le
  rw [deleteForward, selectedOr_eq, Run.result_ite]
  split
  · exact result_deleteSelection h
  · rw [Run.result_ite, clampOffset_caret h]
    split
    · next hz =>
      rw [Nat.min_eq_right (by omega), Nat.le_antisymm hz hc]
      simp [deleted]
    · next hz =>
      rw [Nat.min_eq_left (by omega)]
      exact result_deleteRange_of_le (Nat.le_succ _) (by omega)

/-- Backward word deletion deletes the selection or the white space and word before the caret; it
has a result when the line after that of the caret has a number. -/
theorem result_deleteWordBack :
    e.deleteWordBack.result =
      if e.hasSelection ∨ e.buffer.lineOf e.caret + 1 < Bounded.offsetBound then
        .ok (e.deleted
          (e.snapshot.selectedOr (e.caret - wordRun (lineBefore e.text e.caret), e.caret)))
      else .error .addOverflow := by
  rw [deleteWordBack, selectedOr_eq, Run.result_ite]
  by_cases hsel : e.hasSelection
  · simp only [hsel, if_true, true_or]
    exact result_deleteSelection h
  · simp only [hsel, if_false, false_or, Run.result_bind, Run.result_liftM, clampOffset_caret h,
      Motion.wordScanBack_eq (show e.caret ≤ e.buffer.length from h.caret_le), Bool.false_eq_true]
    split
    · exact result_deleteRange_of_le (Nat.sub_le _ _) h.caret_le
    · rfl

/-- Forward word deletion deletes the selection or the white space and word after the caret; it
has a result when the line after that of the caret has a number. -/
theorem result_deleteWordForward :
    e.deleteWordForward.result =
      if e.hasSelection ∨ e.buffer.lineOf e.caret + 1 < Bounded.offsetBound then
        .ok (e.deleted
          (e.snapshot.selectedOr (e.caret, e.caret + wordRun (lineAfter e.text e.caret))))
      else .error .addOverflow := by
  rw [deleteWordForward, selectedOr_eq, Run.result_ite]
  by_cases hsel : e.hasSelection
  · simp only [hsel, if_true, true_or]
    exact result_deleteSelection h
  · simp only [hsel, if_false, false_or, Run.result_bind, Run.result_liftM, clampOffset_caret h,
      Motion.wordScanForward_eq (show e.caret ≤ e.buffer.length from h.caret_le),
      Bool.false_eq_true]
    split
    · exact result_deleteRange_of_le (Nat.le_add_right _ _) h.wordRun_lineAfter_le
    · rfl

/-- The selected characters, read without a fault. -/
theorem selectedText_eq :
    e.selectedText =
      .ok (if e.selection.range.1 < e.selection.range.2 then
        some ((e.text.drop e.selection.range.1).take
          (e.selection.range.2 - e.selection.range.1))
      else none) := by
  rw [selectedText, selectedRange_eq h]
  dsimp only
  split
  · rw [Buffer.substring_eq_ok (show e.selection.range.2 ≤ e.buffer.length from h.range_le)]
    rfl
  · rfl

/-- A shifted motion selects from the fixed end of the gesture, or from the caret if none runs. -/
theorem moveCaret_true (target : Nat) :
    e.moveCaret target true =
      e.pointed ⟨e.anchor.getD e.caret, min target e.length⟩ (some (e.anchor.getD e.caret)) := by
  rw [moveCaret, if_pos rfl, clampOffset_caret h]
  rfl

private theorem step_moveCaret (target : Nat) (shift : Bool) :
    Step e (.moveCaret target shift) (e.moveCaret target shift) .nothing := by
  cases shift with
  | true =>
    rw [moveCaret_true h]
    exact .point rfl
  | false =>
    have hm : e.moveCaret target false = e.pointed (.collapsed (min target e.length)) none := rfl
    rw [hm]
    exact .point rfl

omit h in
private theorem step_selectRange (anchor caret : Nat) :
    Step e (.selectRange anchor caret) (e.selectRange anchor caret) .nothing := by
  have hm : e.selectRange anchor caret =
      e.pointed ⟨min anchor e.length, min caret e.length⟩ (some (min anchor e.length)) := rfl
  rw [hm]
  exact .point rfl

omit h in
private theorem step_selectAll : Step e .selectAll e.selectAll .nothing := by
  have hm : e.selectAll = e.pointed ⟨0, e.length⟩ (some 0) := by
    rw [selectAll, selectRange, clampOffset_eq_self (Nat.zero_le _),
      clampOffset_eq_self (Nat.le_refl _)]
    rfl
  rw [hm]
  exact .point rfl

private theorem step_collapseSelection :
    Step e .collapseSelection e.collapseSelection .nothing := by
  have hm : e.collapseSelection = e.pointed (.collapsed e.caret) none := by
    rw [collapseSelection, clampOffset_caret h]
    rfl
  rw [hm]
  exact .point rfl

private theorem result_apply_insertText (text : List Char) :
    (e.apply (.insertText text)).result =
      .ok (e.spliced e.selection.range.1 e.selection.range.2 text, .nothing) := by
  simp only [apply, Run.result_bind, result_insertText, insertionRange_eq h]
  rfl

private theorem result_apply_selectedText :
    (e.apply .selectedText).result =
      .ok (e, .text (if e.selection.range.1 < e.selection.range.2 then
        some ((e.text.drop e.selection.range.1).take
          (e.selection.range.2 - e.selection.range.1))
      else none)) := by
  simp only [apply, Run.result_bind, Run.result_liftM, selectedText_eq h]
  rfl

section Results

variable {op : Operation} {after : Editor} {answer : Response}

private theorem step_deleteWordBack
    (hr : (e.apply .deleteWordBack).result = .ok (after, answer)) :
    Step e .deleteWordBack after answer := by
  have hw := result_deleteWordBack h
  split at hw
  · exact step_of_result_answer rfl hw hr
  · rw [apply, result_answer, hw] at hr
    cases hr

private theorem step_deleteWordForward
    (hr : (e.apply .deleteWordForward).result = .ok (after, answer)) :
    Step e .deleteWordForward after answer := by
  have hw := result_deleteWordForward h
  split at hw
  · exact step_of_result_answer rfl hw hr
  · rw [apply, result_answer, hw] at hr
    cases hr

/-- Whatever an operation does to an editor is a step. -/
theorem apply_step (hr : (e.apply op).result = .ok (after, answer)) : Step e op after answer := by
  cases op with
  | setText text => exact (Step.load text).of_result rfl hr
  | insertText text => exact (Step.insert text).of_result (result_apply_insertText h text) hr
  | deleteRange a b => exact step_of_result_answer rfl (result_deleteRange_eq_deleted e a b) hr
  | deleteSelection => exact step_of_result_answer rfl (result_deleteSelection h) hr
  | backspace => exact step_of_result_answer rfl (result_backspace h) hr
  | deleteForward => exact step_of_result_answer rfl (result_deleteForward h) hr
  | deleteWordBack => exact step_deleteWordBack h hr
  | deleteWordForward => exact step_deleteWordForward h hr
  | moveCaret target shift => exact (step_moveCaret h target shift).of_result rfl hr
  | selectRange anchor caret => exact (step_selectRange anchor caret).of_result rfl hr
  | selectAll => exact step_selectAll.of_result rfl hr
  | collapseSelection => exact (step_collapseSelection h).of_result rfl hr
  | undo => exact Step.undo.of_result rfl hr
  | redo => exact Step.redo.of_result rfl hr
  | selectedText => exact (Step.ask rfl).of_result (result_apply_selectedText h) hr
  | hasSelection => exact (Step.ask rfl).of_result rfl hr
  | clampOffset offset => exact (Step.ask rfl).of_result rfl hr
  | markSaved => exact Step.save.of_result rfl hr

end Results

/-- Every operation has a result on an editor that can be counted. -/
theorem exists_apply_eq_ok (hc : e.Countable) (op : Operation) :
    ∃ p, (e.apply op).result = .ok p := by
  cases op with
  | insertText text => exact ⟨_, result_apply_insertText h text⟩
  | deleteRange a b => exact exists_result_answer (result_deleteRange_eq_deleted e a b)
  | deleteSelection => exact exists_result_answer (result_deleteSelection h)
  | backspace => exact exists_result_answer (result_backspace h)
  | deleteForward => exact exists_result_answer (result_deleteForward h)
  | deleteWordBack =>
    have hw := (result_deleteWordBack h).trans (if_pos (.inr hc.lineOf_succ_lt))
    exact exists_result_answer hw
  | deleteWordForward =>
    have hw := (result_deleteWordForward h).trans (if_pos (.inr hc.lineOf_succ_lt))
    exact exists_result_answer hw
  | selectedText => exact ⟨_, result_apply_selectedText h⟩
  | _ => exact ⟨_, rfl⟩

end Within

end Editor

end EditBox
