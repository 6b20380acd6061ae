import EditBox.Proofs.Editor.Run

/-!
# Edits as splices of the text

What each edit does to the text, caret and selection of an editor that can be reached, without a
word about buffers and histories. `edits_splice` gives the range that every edit replaces: the
selection, or without one the characters that the edit names around the caret.
-/

namespace EditBox.Editor

open EditBox.Text

/-- An editor after a splice of another: `text` stands in place of `[start, stop)` with the caret
alone behind it, no gesture goes on, and the line index is that of the new text. -/
structure SplicedTo (e : Editor) (start stop : Nat) (text : List Char) (after : Editor) : Prop where
  snapshot : after.snapshot = e.snapshot.splice start stop text
  anchor : after.anchor = none
  lines : after.buffer.lines = .of after.text

/-- Outcome of a deletion of a range: its characters are taken out, or for an empty range the whole
editor is left as it is. -/
def Deletes (e : Editor) (range : Nat × Nat) (outcome : Except Fault (Editor × Bool)) : Prop :=
  if range.1 < range.2 then
    ∃ after, outcome = .ok (after, true) ∧ e.SplicedTo range.1 range.2 [] after
  else outcome = .ok (e, false)

variable {e : Editor}

private theorem splicedTo_spliced {start stop : Nat} (text : List Char) (h : start ≤ stop)
    (hl : stop ≤ e.length) : e.SplicedTo start stop text (e.spliced start stop text) where
  snapshot := snapshot_spliced text h hl
  anchor := rfl
  lines := (e.spliced start stop text).buffer.lines_eq

/-- A deletion of an ordered range of the text takes it out. -/
theorem deletes_deleted {range : Nat × Nat} {outcome : Except Fault (Editor × Bool)}
    (h : range.1 ≤ range.2 ∧ range.2 ≤ e.length) (hr : outcome = .ok (e.deleted range)) :
    e.Deletes range outcome := by
  rw [hr, deleted, Deletes]
  split
  · exact ⟨_, rfl, splicedTo_spliced [] h.1 h.2⟩
  · rfl

/-- A deletion takes the selection out if there is one, and otherwise a range of its own. -/
theorem deletes_selectedOr (h : e.snapshot.Within) {range : Nat × Nat}
    {outcome : Except Fault (Editor × Bool)} (hle : range.1 ≤ range.2 ∧ range.2 ≤ e.length)
    (hr : outcome = .ok (e.deleted (e.snapshot.selectedOr range))) :
    e.Deletes (e.snapshot.selectedOr range) outcome :=
  deletes_deleted (h.selectedOr_le hle) hr

private theorem deletes_deleteRange (e : Editor) (x y : Nat) :
    e.Deletes (min (min x y) e.length, min (max x y) e.length) (e.deleteRange x y).result := by
  refine deletes_deleted ⟨?_, Nat.min_le_right _ _⟩ (result_deleteRange_eq_deleted e x y)
  dsimp only
  omega

section Within

variable (h : e.snapshot.Within)
include h

/-- The scan of a backward word deletion begins the range that is deleted. -/
theorem deletes_deleteWordBack {start : Nat}
    (hs : Motion.wordScanBack e.buffer e.caret = .ok start) :
    e.Deletes (e.snapshot.selectedOr (start, e.caret)) e.deleteWordBack.result := by
  have hc : e.caret ≤ e.buffer.length := h.caret_le
  rw [Motion.wordScanBack_eq hc] at hs
  split at hs
  · next hline =>
    obtain rfl := Except.ok.inj hs
    exact deletes_selectedOr h ⟨Nat.sub_le _ _, h.caret_le⟩
      ((result_deleteWordBack h).trans (if_pos (.inr hline)))
  · cases hs

/-- The scan of a forward word deletion ends the range that is deleted. -/
theorem deletes_deleteWordForward {stop : Nat}
    (hs : Motion.wordScanForward e.buffer e.caret = .ok stop) :
    e.Deletes (e.snapshot.selectedOr (e.caret, stop)) e.deleteWordForward.result := by
  have hc : e.caret ≤ e.buffer.length := h.caret_le
  rw [Motion.wordScanForward_eq hc] at hs
  split at hs
  · next hline =>
    obtain rfl := Except.ok.inj hs
    exact deletes_selectedOr h ⟨Nat.le_add_right _ _, h.wordRun_lineAfter_le⟩
      ((result_deleteWordForward h).trans (if_pos (.inr hline)))
  · cases hs

private theorem exists_wordScan (hc : e.Countable) :
    (∃ start, Motion.wordScanBack e.buffer e.caret = .ok start) ∧
      ∃ stop, Motion.wordScanForward e.buffer e.caret = .ok stop := by
  have hline := hc.lineOf_succ_lt
  exact ⟨⟨_, (Motion.wordScanBack_eq h.caret_le).trans (if_pos hline)⟩,
    ⟨_, (Motion.wordScanForward_eq h.caret_le).trans (if_pos hline)⟩⟩

end Within

/-- Every edit of an editor that can be reached is the splice it stands for. An insertion replaces
the selection, which lies at the caret when it is empty. A deletion takes out the range it is given,
or the selection, or without one the character before or after the caret, or what a word scan passes
from the caret; it leaves an editor with nothing to delete exactly as it was. The word scans have a
result as long as characters and lines can be counted. -/
theorem edits_splice (h : e.Reachable) :
    (∀ text, ∃ after, (e.insertText text).result = .ok after ∧
      e.SplicedTo e.selection.range.1 e.selection.range.2 text after) ∧
    (∀ x y, e.Deletes (min (min x y) e.length, min (max x y) e.length)
      (e.deleteRange x y).result) ∧
    e.Deletes e.selection.range e.deleteSelection.result ∧
    e.Deletes (e.snapshot.selectedOr (e.caret - 1, e.caret)) e.backspace.result ∧
    e.Deletes (e.snapshot.selectedOr (e.caret, min (e.caret + 1) e.length))
      e.deleteForward.result ∧
    (∀ start, Motion.wordScanBack e.buffer e.caret = .ok start →
      e.Deletes (e.snapshot.selectedOr (start, e.caret)) e.deleteWordBack.result) ∧
    (∀ stop, Motion.wordScanForward e.buffer e.caret = .ok stop →
      e.Deletes (e.snapshot.selectedOr (e.caret, stop)) e.deleteWordForward.result) ∧
    (e.Countable → (∃ start, Motion.wordScanBack e.buffer e.caret = .ok start) ∧
      ∃ stop, Motion.wordScanForward e.buffer e.caret = .ok stop) := by
  have hw := h.wellFormed.within
  have hc : e.caret ≤ e.length := hw.caret_le
  have hsel : e.selection.range.1 ≤ e.selection.range.2 ∧ e.selection.range.2 ≤ e.length :=
    ⟨e.selection.range_le, hw.range_le⟩
  refine ⟨fun text ↦ ?_, deletes_deleteRange e, ?_, ?_, ?_, fun start ↦ deletes_deleteWordBack hw,
    fun stop ↦ deletes_deleteWordForward hw, exists_wordScan hw⟩
  · refine ⟨_, result_insertText e text, ?_⟩
    rw [insertionRange_eq hw]
    exact splicedTo_spliced text hsel.1 hsel.2
  · exact deletes_deleted hsel (result_deleteSelection hw)
  · exact deletes_selectedOr hw ⟨Nat.sub_le _ _, hc⟩ (result_backspace hw)
  · have hle : e.caret ≤ min (e.caret + 1) e.length := Nat.le_min.mpr ⟨Nat.le_succ _, hc⟩
    exact deletes_selectedOr hw ⟨hle, Nat.min_le_right _ _⟩ (result_deleteForward hw)

/-- A word deleted back to the start of its line while an undone insertion waits to be redone. -/
theorem edits_splice_wordBack :
    ∃ e after : Editor, e.Reachable ∧ e.history.redoDepth = 1 ∧
      e.snapshot = ⟨['a', '\n', 'b', ' ', '.'], 4, .collapsed 4⟩ ∧
      e.deleteWordBack.result = .ok (after, true) ∧
      after.snapshot = ⟨['a', '\n', '.'], 2, .collapsed 2⟩ := by
  have he : ((withUndoLimit (.ofText ['a', '\n', 'b', ' ', '.']) 9).applyAll
      [.insertText ['x'], .undo, .moveCaret 4 false]).result = .ok _ := rfl
  have hreach : Reachable _ := ⟨_, _, _, he⟩
  obtain ⟨-, -, -, -, -, hback, -⟩ := edits_splice hreach
  obtain ⟨after, hr, hs⟩ := hback 2 rfl
  exact ⟨_, after, hreach, rfl, rfl, hr, hs.snapshot⟩

end EditBox.Editor
