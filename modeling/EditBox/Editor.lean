import EditBox.History
import EditBox.Run
import EditBox.Text.Motion

/-!
# Editor

A buffer with a caret, a selection, the fixed end of a running gesture, and an undo history. Every
operation brings its offsets down to the length of the text first, so offsets that predate an edit
do no harm. An operation that changes the text records the state before and after it.
-/

namespace EditBox

open EditBox.Text

/-- State of one editable text. -/
structure Editor where
  buffer : Buffer
  caret : Nat
  selection : Selection
  /-- Fixed end of a shift or drag gesture in progress. -/
  anchor : Option Nat
  history : History
  /-- Set by a change of the text; cleared by the host once it has saved the text. -/
  dirty : Bool
  deriving DecidableEq, Repr

namespace Editor

/-- Editor on a fresh buffer with room for `undoLimit` undo entries. -/
def withUndoLimit (buffer : Buffer) (undoLimit : Nat) : Editor where
  buffer := buffer
  caret := 0
  selection := .collapsed 0
  anchor := none
  history := .start ⟨buffer.chars, 0, .collapsed 0⟩ undoLimit
  dirty := false

/-- Editor on a fresh buffer with the usual number of undo entries. -/
def ofBuffer (buffer : Buffer) : Editor := withUndoLimit buffer defaultUndoLimit

/-- Text under edit. -/
def text (e : Editor) : List Char := e.buffer.chars

/-- Number of characters. -/
def length (e : Editor) : Nat := e.buffer.length

/-- Offset brought down to the length of the text. -/
def clampOffset (e : Editor) (offset : Nat) : Nat := min offset e.length

/-- Whether a character is selected. -/
def hasSelection (e : Editor) : Bool := !e.selection.isEmpty

/-- Ordered ends of the selection within the text. -/
def selectedRange (e : Editor) : Nat × Nat :=
  (e.clampOffset e.selection.range.1, e.clampOffset e.selection.range.2)

/-- Selected characters, if there are any. -/
def selectedText (e : Editor) : Except Fault (Option (List Char)) :=
  let (a, b) := e.selectedRange
  if a < b then some <$> e.buffer.substring a b else .ok none

/-- Snapshot of the present state. -/
def snapshot (e : Editor) : Snapshot := ⟨e.text, e.caret, e.selection⟩

/-- Drop the selection and the gesture at the caret. -/
def collapseToCaret (e : Editor) : Editor :=
  { e with anchor := none, selection := .collapsed e.caret }

/-- The same editor on another buffer, with the caret alone at an offset of it. -/
def withBuffer (e : Editor) (buffer : Buffer) (caret : Nat) : Editor :=
  collapseToCaret { e with buffer := buffer, caret := caret }

/-- Report history events. -/
def reportHistory (es : List HistoryEvent) : Run Unit := Run.reportAll (es.map .history)

/-- The same editor with the state before an edit recorded. -/
def begun (e : Editor) : Editor := { e with history := e.history.beginEdit e.snapshot }

/-- Record the state before an edit. -/
def beginEdit (e : Editor) : Run Editor := do
  reportHistory (e.history.beginEditEvents e.snapshot)
  return e.begun

/-- The same editor with the state after an edit recorded. -/
def committed (e : Editor) : Editor :=
  { e with dirty := true, history := e.history.commit e.snapshot }

/-- Record the state after an edit. -/
def commitEdit (e : Editor) : Run Editor := do
  reportHistory (e.history.commitEvents e.snapshot)
  return e.committed

/-- The same editor with a text loaded by the host and no history yet. -/
def loaded (e : Editor) (text : List Char) : Editor :=
  { e.withBuffer (e.buffer.setText text) 0 with
    dirty := false
    history := e.history.reset ⟨text, 0, .collapsed 0⟩ }

/-- Replace the text by a loaded one and begin a new history. -/
def setText (e : Editor) (text : List Char) : Run Editor := do
  reportHistory History.resetEvents
  return e.loaded text

/-- Take the selected characters out, if there are any, and put the caret in their place. -/
def removeSelected (e : Editor) : Except Fault Editor := do
  let (a, b) := e.selectedRange
  if a = b then return e
  else
    let buffer ← e.buffer.delete a b
    return { e with buffer := buffer, caret := a }

/-- Insert at the caret in place of the selection. -/
def insertText (e : Editor) (text : List Char) : Run Editor := do
  let e ← e.beginEdit
  let e ← e.removeSelected
  let offset := e.clampOffset e.caret
  let buffer ← e.buffer.insert offset text
  let e := e.withBuffer buffer (offset + text.length)
  Run.report (.edit (.inserted text.length e.caret))
  e.commitEdit

/-- Delete the characters between two offsets; whether there were any. -/
def deleteRange (e : Editor) (a b : Nat) : Run (Editor × Bool) := do
  let start := e.clampOffset (min a b)
  let stop := e.clampOffset (max a b)
  if start = stop then return (e, false)
  else
    let e ← e.beginEdit
    let buffer ← e.buffer.delete start stop
    Run.report (.edit (.deleted start stop))
    let e ← (e.withBuffer buffer start).commitEdit
    return (e, true)

/-- Delete the selected characters; whether there were any. -/
def deleteSelection (e : Editor) : Run (Editor × Bool) :=
  e.deleteRange e.selection.range.1 e.selection.range.2

/-- Delete the selection, or without one the character before the caret. -/
def backspace (e : Editor) : Run (Editor × Bool) :=
  if e.hasSelection then e.deleteSelection
  else
    let caret := e.clampOffset e.caret
    if caret = 0 then pure (e, false) else e.deleteRange (caret - 1) caret

/-- Delete the selection, or without one the character after the caret. -/
def deleteForward (e : Editor) : Run (Editor × Bool) :=
  if e.hasSelection then e.deleteSelection
  else
    let caret := e.clampOffset e.caret
    if e.length ≤ caret then pure (e, false) else e.deleteRange caret (caret + 1)

/-- Delete the selection, or without one the white space and word before the caret in its line. -/
def deleteWordBack (e : Editor) : Run (Editor × Bool) := do
  if e.hasSelection then e.deleteSelection
  else
    let caret := e.clampOffset e.caret
    let target ← Motion.wordScanBack e.buffer caret
    e.deleteRange target caret

/-- Delete the selection, or without one the white space and word after the caret in its line. -/
def deleteWordForward (e : Editor) : Run (Editor × Bool) := do
  if e.hasSelection then e.deleteSelection
  else
    let caret := e.clampOffset e.caret
    let target ← Motion.wordScanForward e.buffer caret
    e.deleteRange caret target

/-- Move the caret, with `shift` extending the selection and otherwise dropping it. -/
def moveCaret (e : Editor) (target : Nat) (shift : Bool) : Editor :=
  let target := e.clampOffset target
  if shift then
    let anchor := e.anchor.getD (e.clampOffset e.caret)
    { e with anchor := some anchor, caret := target, selection := ⟨anchor, target⟩ }
  else collapseToCaret { e with caret := target }

/-- Select from `anchor` to `caret` as a gesture in that order. -/
def selectRange (e : Editor) (anchor caret : Nat) : Editor :=
  let anchor := e.clampOffset anchor
  let caret := e.clampOffset caret
  { e with anchor := some anchor, caret := caret, selection := ⟨anchor, caret⟩ }

/-- Select the whole text. -/
def selectAll (e : Editor) : Editor := e.selectRange 0 e.length

/-- Drop the selection and keep the caret. -/
def collapseSelection (e : Editor) : Editor :=
  collapseToCaret { e with caret := e.clampOffset e.caret }

/-- Take over the text, caret and selection of a snapshot. -/
def restore (e : Editor) (s : Snapshot) : Editor :=
  let buffer := e.buffer.setText s.text
  { e with
    buffer := buffer
    caret := min s.caret buffer.length
    selection := s.selection.clamped buffer.length
    anchor := none
    dirty := true }

/-- The same editor in the state found by a step through its history, if one was found. -/
def travelled (e : Editor) (step : History × Option Snapshot) : Editor × Bool :=
  let e := { e with history := step.1 }
  match step.2 with
  | some s => (e.restore s, true)
  | none => (e, false)

/-- Go back one undo entry; whether there was one. -/
def undo (e : Editor) : Run (Editor × Bool) := do
  reportHistory e.history.undoEvents
  return e.travelled (e.history.undo e.snapshot)

/-- Go forward one redo entry; whether there was one. -/
def redo (e : Editor) : Run (Editor × Bool) := do
  reportHistory (e.history.redoEvents e.snapshot)
  return e.travelled (e.history.redo e.snapshot)

/-- Note that the host has saved the text. -/
def markSaved (e : Editor) : Editor := { e with dirty := false }

/-- An offset brought down to the length lies within the text. -/
theorem clampOffset_le (e : Editor) (offset : Nat) : e.clampOffset offset ≤ e.length :=
  Nat.min_le_right _ _

/-- An offset within the text is kept. -/
theorem clampOffset_eq_self {e : Editor} {offset : Nat} (h : offset ≤ e.length) :
    e.clampOffset offset = offset :=
  Nat.min_eq_left h

/-- The ends of the selected range are in order. -/
theorem selectedRange_le (e : Editor) : e.selectedRange.1 ≤ e.selectedRange.2 := by
  have h := e.selection.range_le
  simp only [selectedRange, clampOffset]
  omega

/-- Recording the state before an edit never fails. -/
@[simp] theorem result_beginEdit (e : Editor) : e.beginEdit.result = .ok e.begun := rfl

/-- Going back never fails. -/
@[simp] theorem result_undo (e : Editor) :
    e.undo.result = .ok (e.travelled (e.history.undo e.snapshot)) := rfl

/-- Going forward never fails. -/
@[simp] theorem result_redo (e : Editor) :
    e.redo.result = .ok (e.travelled (e.history.redo e.snapshot)) := rfl

/-- Taking the selected characters out never fails. -/
theorem removeSelected_eq (e : Editor) :
    e.removeSelected =
      .ok (if e.selectedRange.1 = e.selectedRange.2 then e
        else { e with
          buffer := e.buffer.setText
            (e.text.take e.selectedRange.1 ++ e.text.drop e.selectedRange.2)
          caret := e.selectedRange.1 }) := by
  simp only [removeSelected]
  split
  · rfl
  · next h =>
    have hr := e.selectedRange_le
    have hl : e.selectedRange.2 ≤ e.buffer.length := e.clampOffset_le _
    rw [Buffer.delete_eq_ok_iff.mpr ⟨⟨hr, hl⟩, rfl⟩, if_neg h]
    rfl

/-- A deletion never fails: it does nothing, or takes the characters between the offsets out and
leaves the caret in their place. -/
theorem result_deleteRange (e : Editor) (a b : Nat) :
    (e.deleteRange a b).result =
      .ok (if e.clampOffset (min a b) = e.clampOffset (max a b) then (e, false)
        else ((e.begun.withBuffer
          (e.buffer.setText (e.text.take (e.clampOffset (min a b)) ++
            e.text.drop (e.clampOffset (max a b))))
          (e.clampOffset (min a b))).committed, true)) := by
  simp only [deleteRange]
  split
  · rfl
  · next h =>
    have hr : e.clampOffset (min a b) ≤ e.clampOffset (max a b) := by
      simp only [clampOffset]
      omega
    have hl : e.clampOffset (max a b) ≤ e.buffer.length := e.clampOffset_le _
    have hd := Buffer.delete_eq_ok_iff.mpr ⟨⟨hr, hl⟩, rfl⟩
    rw [if_neg h] at hd
    rw [Run.result_bind, result_beginEdit]
    change (((e.buffer.delete _ _ : Except Fault Buffer) : Run Buffer) >>= _).result = _
    rw [hd]
    rfl

end Editor

end EditBox
