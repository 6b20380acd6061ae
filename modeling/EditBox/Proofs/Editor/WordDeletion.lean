import EditBox.Proofs.Editor.Edits
import EditBox.Proofs.Text.WordRuns

/-!
# Deletion of words

Without a selection a word deletion takes out the greedy match of white space and a word next to the
caret, on either side of it. The match lies on the line of the caret, so the lines around are left
as they are.
-/

namespace EditBox.Editor

open EditBox.Text

/-- Outcome of a deletion within the line of the caret. The range holds the characters to remove, no
line feed is among them, and whatever the outcome makes of the editor, its lines are as many as
before and all but that of the caret read as before. -/
structure DeletesOnLine (e : Editor) (range : Nat × Nat) (removed : List Char)
    (outcome : Except Fault (Editor × Bool)) : Prop where
  deletes : e.Deletes range outcome
  range_eq : (e.text.take range.2).drop range.1 = removed
  break_notMem : '\n' ∉ removed
  lines : ∀ after done, outcome = .ok (after, done) →
    after.buffer.lineCount = e.buffer.lineCount ∧
      ∀ line, line ≠ e.buffer.lineOf e.caret →
        ∀ text, after.buffer.lineText line = .ok text ↔ e.buffer.lineText line = .ok text

section CaretLine

variable {e : Editor} {start stop : Nat} (hl : LineAt e.text e.caret start stop)
include hl

private theorem Deletes.onLine (hc : e.Countable) {first last : Nat}
    {outcome : Except Fault (Editor × Bool)} (h : e.Deletes (first, last) outcome)
    (hfirst : start ≤ first) (hlast : last ≤ stop) :
    e.DeletesOnLine (first, last) ((e.text.take last).drop first) outcome := by
  refine ⟨h, rfl, hl.break_notMem hfirst hlast, fun after done hr ↦ ?_⟩
  rw [Deletes] at h
  split at h
  · obtain ⟨after', hr', hs⟩ := h
    obtain ⟨rfl, -⟩ := Prod.mk.inj (Except.ok.inj (hr.symm.trans hr'))
    -- What is left of the line stands where the whole line stood.
    have hchars : after.buffer.chars = e.text.take start ++
        ((e.text.take first).drop start ++ (e.text.take stop).drop last) ++ e.text.drop stop := by
      rw [← take_append_drop_eq e.text hfirst hlast, ← List.append_nil (e.text.take first)]
      exact congrArg Snapshot.text hs.snapshot
    have hbreak : '\n' ∉ (e.text.take first).drop start ++ (e.text.take stop).drop last := by
      rw [List.mem_append, not_or]
      exact ⟨hl.break_notMem (Nat.le_refl start) (by omega),
        hl.break_notMem (by omega) (Nat.le_refl stop)⟩
    obtain ⟨hcount, -, hlines⟩ := Buffer.lineText_of_line_replaced hc.2 hl hchars hbreak
    exact ⟨hcount, hlines⟩
  · obtain ⟨rfl, -⟩ := Prod.mk.inj (Except.ok.inj (hr.symm.trans h))
    exact ⟨rfl, fun _ _ _ ↦ Iff.rfl⟩

variable (hw : e.snapshot.Within) (hs : e.hasSelection = false) (hc : e.Countable)
include hw hs hc

private theorem exists_deleteWordForward_match :
    ∃ blanks word, GreedyMatch (lineAfter e.text e.caret) blanks word ∧
      e.DeletesOnLine (e.caret, e.caret + (blanks ++ word).length) (blanks ++ word)
        e.deleteWordForward.result := by
  obtain ⟨blanks, word, hmatch, hlength⟩ := exists_greedyMatch (lineAfter e.text e.caret)
  refine ⟨blanks, word, hmatch, ?_⟩
  have hscan : Motion.wordScanForward e.buffer e.caret =
      .ok (e.caret + (blanks ++ word).length) := by
    rw [hlength]
    exact (Motion.wordScanForward_eq hw.caret_le).trans (if_pos hc.lineOf_succ_lt)
  have hdeletes := deletes_deleteWordForward hw hscan
  rw [selectedOr_eq, hs, if_neg Bool.false_ne_true] at hdeletes
  have hstop := hmatch.begins.length_le
  have hle := hl.le_stop
  rw [hl.length_lineAfter] at hstop
  have honLine := hdeletes.onLine hl hc hl.start_le (by omega)
  rwa [drop_take_of_prefix_lineAfter hmatch.begins] at honLine

private theorem exists_deleteWordBack_match :
    ∃ blanks word, GreedyMatch (lineBefore e.text e.caret) blanks word ∧
      e.DeletesOnLine (e.caret - (blanks ++ word).length, e.caret) (blanks ++ word).reverse
        e.deleteWordBack.result := by
  obtain ⟨blanks, word, hmatch, hlength⟩ := exists_greedyMatch (lineBefore e.text e.caret)
  refine ⟨blanks, word, hmatch, ?_⟩
  have hscan : Motion.wordScanBack e.buffer e.caret =
      .ok (e.caret - (blanks ++ word).length) := by
    rw [hlength]
    exact (Motion.wordScanBack_eq hw.caret_le).trans (if_pos hc.lineOf_succ_lt)
  have hdeletes := deletes_deleteWordBack hw hscan
  rw [selectedOr_eq, hs, if_neg Bool.false_ne_true] at hdeletes
  have hstart := hmatch.begins.length_le
  have hle := hl.start_le
  rw [hl.length_lineBefore] at hstart
  have honLine := hdeletes.onLine hl hc (by omega) hl.le_stop
  have hcaret : e.caret ≤ e.text.length := hw.caret_le
  rwa [drop_take_of_prefix_lineBefore hcaret hmatch.begins] at honLine

end CaretLine

/-- Without a selection a word deletion takes out the greedy match of white space and a word next to
the caret within its line. Forward it is the match after the column of the caret, and back it is the
match before the column, read from the caret on and so the mirror image of the other. No line feed
is removed, and the other lines stay as they are. An empty match leaves the editor exactly as it
was, with what there is to redo. -/
theorem word_deletion_takes_greedy_match {e : Editor} (h : e.Reachable)
    (hs : e.hasSelection = false) (hc : e.Countable) :
    (∃ p line, Motion.place e.buffer e.caret = .ok p ∧ e.buffer.lineText p.line = .ok line ∧
      (∃ blanks word, GreedyMatch (line.drop p.column) blanks word ∧
        e.DeletesOnLine (e.caret, e.caret + (blanks ++ word).length) (blanks ++ word)
          e.deleteWordForward.result) ∧
      ∃ blanks word, GreedyMatch (line.take p.column).reverse blanks word ∧
        e.DeletesOnLine (e.caret - (blanks ++ word).length, e.caret) (blanks ++ word).reverse
          e.deleteWordBack.result) ∧
    ∀ line : List Char, ∀ col ≤ line.length,
      scanWordBack line col =
        line.length - scanWordForward line.reverse (line.length - col) := by
  have hw := h.wellFormed.within
  have hcaret : e.caret ≤ e.buffer.length := hw.caret_le
  obtain ⟨start, stop, hl, hstart, hstop⟩ := Buffer.exists_lineAt hcaret
  have hforward := exists_deleteWordForward_match hl hw hs hc
  have hback := exists_deleteWordBack_match hl hw hs hc
  have hafter : lineAfter e.text e.caret = _ := hl.lineAfter_eq_drop
  have hbefore : lineBefore e.text e.caret = _ := hl.lineBefore_eq_take
  rw [hafter] at hforward
  rw [hbefore] at hback
  have hline := Motion.lineText_eq hl hstart hstop
  rw [if_pos hc.lineOf_succ_lt] at hline
  exact ⟨⟨_, _, Motion.place_eq hstart hl.start_le, hline, hforward, hback⟩,
    fun _ _ ↦ scanWordBack_eq_reverse⟩

/-- White space and the word behind it to the end of the line, while before the caret there is
nothing to take out and an undone insertion waits to be redone. -/
theorem word_deletion_takes_greedy_match_redo :
    ∃ e : Editor, e.Reachable ∧ e.hasSelection = false ∧ e.Countable ∧
      e.snapshot = ⟨['a', '.', ' ', 'b', '\n', 'c'], 2, .collapsed 2⟩ ∧
      e.history.redoDepth = 1 ∧ e.deleteWordBack.result = .ok (e, false) ∧
      ∃ blanks word, GreedyMatch [' ', 'b'] blanks word ∧
        e.DeletesOnLine (2, 2 + (blanks ++ word).length) (blanks ++ word)
          e.deleteWordForward.result := by
  have he : ((withUndoLimit (.ofText ['a', '.', ' ', 'b', '\n', 'c']) 9).applyAll
      [.insertText ['x'], .undo, .moveCaret 2 false]).result = .ok _ := rfl
  have hreach : Reachable _ := ⟨_, _, _, he⟩
  obtain ⟨⟨p, line, hp, hline, hforward, -⟩, -⟩ :=
    word_deletion_takes_greedy_match hreach rfl ⟨by decide, by decide⟩
  obtain rfl : ⟨0, 0, 2⟩ = p := Except.ok.inj hp
  obtain rfl : ['a', '.', ' ', 'b'] = line := Except.ok.inj hline
  exact ⟨_, hreach, rfl, ⟨by decide, by decide⟩, rfl, rfl, rfl, hforward⟩

end EditBox.Editor
