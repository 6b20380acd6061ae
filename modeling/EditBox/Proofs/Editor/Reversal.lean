import EditBox.Proofs.Editor.Run

/-!
# Undoing a redo, redoing undos

Redo records the state it leads to unless that has the text and caret of the state it began from.
`undo_redo` says what an undo right after it does in either case. The other order has no such
exception: `trail_redo_of_trail_undo` says that redos lead back through the states that undos came
by, as many as there were.
-/

namespace EditBox.Editor

open EditBox.Text

variable {e e' : Editor} {s : Snapshot} {older : List Snapshot}

private theorem samePoint_snapshot_eq_false (h : e'.text ≠ e.text ∨ e'.caret ≠ e.caret) :
    e.snapshot.samePoint e'.snapshot = false := by
  rw [Bool.eq_false_iff, ne_eq, Snapshot.samePoint, Bool.and_eq_true, beq_iff_eq, beq_iff_eq]
  rintro ⟨hcaret, htext⟩
  rcases h with h | h
  · exact h htext.symm
  · exact h hcaret.symm

private theorem exists_history_redo (hr : e.redo.result = .ok (e', true)) (h : e.WellFormed) :
    e.history.redo e.snapshot = (e'.history, some e'.snapshot) := by
  rw [result_redo] at hr
  rcases hf : e.history.redo e.snapshot with ⟨history, found⟩
  rw [hf] at hr
  cases found with
  | none => cases hr
  | some s =>
    obtain ⟨hs, -⟩ := h.history.redo (s := e.snapshot) h.within hf
    obtain rfl := (Prod.mk.inj (Except.ok.inj hr)).1
    change (history, some s) = (history, some ({ e with history := history }.restore s).snapshot)
    rw [snapshot_restore _ hs]

private theorem exists_undo (hu : e.history.undos = s :: older) (ho : ∀ t ∈ older, t.Within) :
    (older = [] ∧ e.undo.result = .ok (e, false)) ∨
      ∃ t rest e', older = t :: rest ∧ e.undo.result = .ok (e', true) ∧ e'.snapshot = t := by
  rw [result_undo]
  cases older with
  | nil =>
    have hundo : e.history.undo e.snapshot = (e.history, none) := by
      simp only [History.undo, hu]
    exact .inl ⟨rfl, by rw [hundo]; rfl⟩
  | cons t rest =>
    rw [History.undo_eq_some_iff.mpr ⟨s, rest, hu, rfl⟩]
    exact .inr ⟨t, rest, _, rfl, rfl, snapshot_restore _ (ho t (List.mem_cons_self ..))⟩

/-- Undo right after a redo that changed the text or the caret restores what held before the redo.
A redo that changed neither is not recorded, and undo does what it would have done before it. -/
theorem undo_redo (h : e.Reachable) (hr : e.redo.result = .ok (e', true)) :
    (e'.text ≠ e.text ∨ e'.caret ≠ e.caret →
      ∃ e'', e'.undo.result = .ok (e'', true) ∧ e''.snapshot = e.snapshot) ∧
    (e'.text = e.text → e'.caret = e.caret →
      (e.undo.result = .ok (e, false) ∧ e'.undo.result = .ok (e', false)) ∨
      ∃ e₁ e₂, e.undo.result = .ok (e₁, true) ∧ e'.undo.result = .ok (e₂, true) ∧
        e₂.snapshot = e₁.snapshot) := by
  have hwf := h.wellFormed
  have hredo := exists_history_redo hr hwf
  obtain ⟨top, older, hu, -, -, hu'⟩ := hwf.history.redo_eq (s := e.snapshot) hredo
  have holder : ∀ t ∈ older, t.Within := fun t ht ↦
    hwf.history.undos_within t (by rw [hu]; exact List.mem_cons_of_mem _ ht)
  refine ⟨fun hne ↦ ?_, fun htext hcaret ↦ ?_⟩
  · rw [samePoint_snapshot_eq_false hne, if_neg Bool.false_ne_true] at hu'
    have hwithin : ∀ t ∈ e.snapshot :: older, t.Within := by
      intro t ht
      rcases List.mem_cons.mp ht with rfl | ht
      · exact hwf.within
      · exact holder t ht
    rcases exists_undo hu' hwithin with ⟨hnil, -⟩ | ⟨t, rest, e'', hcons, hundo, hs⟩
    · cases hnil
    · cases hcons
      exact ⟨e'', hundo, hs⟩
  · have hsame : e.snapshot.samePoint e'.snapshot = true := by
      simp only [Snapshot.samePoint, Bool.and_eq_true, beq_iff_eq]
      exact ⟨hcaret.symm, htext.symm⟩
    rw [if_pos hsame] at hu'
    rcases exists_undo hu holder with ⟨hnil, hundo⟩ | ⟨t, rest, e₁, hcons, hundo, hs⟩ <;>
    rcases exists_undo hu' holder with ⟨hnil', hundo'⟩ | ⟨t', rest', e₂, hcons', hundo', hs'⟩
    · exact .inl ⟨hundo, hundo'⟩
    · rw [hnil] at hcons'
      cases hcons'
    · rw [hnil'] at hcons
      cases hcons
    · rw [hcons] at hcons'
      cases hcons'
      exact .inr ⟨e₁, e₂, hundo, hundo', hs'.trans hs.symm⟩

/-- Undo takes back the redo of an insertion, with the selection that was made before it. -/
theorem undo_redo_insert :
    ∃ e e' e'' : Editor, e.Reachable ∧ e.redo.result = .ok (e', true) ∧
      e'.text = ['a', 'b'] ∧ e'.undo.result = .ok (e'', true) ∧ e''.snapshot = e.snapshot := by
  have he : ((withUndoLimit (.ofText ['a']) 2).applyAll
      [.moveCaret 1 false, .insertText ['b'], .undo, .selectRange 1 0]).result = .ok _ := rfl
  obtain ⟨e'', hundo, hs⟩ := (undo_redo ⟨_, _, _, he⟩ rfl).1 (.inl (by decide))
  exact ⟨_, _, e'', ⟨_, _, _, he⟩, rfl, by decide, hundo, hs⟩

/-- A selection replaced by its own text, undone, and redone with the text selected up to the caret
that the replacement left: the redo is not recorded, and no undo brings the selection back. -/
theorem not_forall_undo_redo :
    ¬ ∀ e e' : Editor, e.Reachable → 2 ≤ e.history.capacity →
      e.redo.result = .ok (e', true) →
      ∃ e'', e'.undo.result = .ok (e'', true) ∧ e''.snapshot = e.snapshot := by
  intro h
  have he : ((withUndoLimit (.ofText ['a']) 200).applyAll
      [.selectRange 1 0, .insertText ['a'], .undo, .selectRange 0 1]).result = .ok _ := rfl
  obtain ⟨e'', hundo, -⟩ := h _ _ ⟨_, _, _, he⟩ (by decide) rfl
  cases hundo

private theorem exists_redo (h : e.WellFormed) {later : List Snapshot}
    (hr : e.history.redos = s :: later) :
    ∃ e', e.redo.result = .ok (e', true) ∧ e'.snapshot = s ∧ e'.history.redos = later := by
  have hs : s.Within := h.history.redos_within s (by rw [hr]; exact List.mem_cons_self ..)
  rw [result_redo, History.redo_eq_some_iff.mpr ⟨later, hr, rfl⟩]
  refine ⟨_, rfl, snapshot_restore _ hs, ?_⟩
  change ((({ e.history with redos := later } : History).settle e.snapshot).push s).redos = later
  rw [History.redos_push, History.redos_settle]

private theorem redos_of_undo (hu : e.undo.result = .ok (e', true)) :
    e'.history.redos = e.snapshot :: e.history.redos := by
  rw [result_undo] at hu
  unfold History.undo at hu
  split at hu
  · obtain rfl := (Prod.mk.inj (Except.ok.inj hu)).1
    rfl
  · cases hu

/-- One editor comes to another by steps of one kind that each find a state; the states found are
listed in order. -/
inductive Trail (step : Editor → Run (Editor × Bool)) : Editor → List Snapshot → Editor → Prop where
  | stay (e : Editor) : Trail step e [] e
  | go {e next last : Editor} {states : List Snapshot} (h : (step e).result = .ok (next, true))
      (rest : Trail step next states last) : Trail step e (next.snapshot :: states) last

namespace Trail

variable {step : Editor → Run (Editor × Bool)} {last : Editor} {states : List Snapshot}

private theorem snoc (h : Trail step e states e') (hs : (step e').result = .ok (last, true)) :
    Trail step e (states ++ [last.snapshot]) last := by
  induction h with
  | stay e => exact .go hs (.stay last)
  | go h rest ih => exact .go h (ih hs)

private theorem wellFormed_undo (h : Trail undo e states e') (hwf : e.WellFormed) :
    e'.WellFormed := by
  induction h with
  | stay e => exact hwf
  | go h rest ih =>
    apply ih
    obtain rfl := (Prod.mk.inj (Except.ok.inj h)).1
    exact Step.undo.wellFormed hwf

/-- Redos lead back along a trail of undos, to the state and the redo entries that it began
with. -/
theorem exists_redo_of_undo (h : Trail undo e states e') (hwf : e.WellFormed) :
    ∃ e'', Trail redo e' (e.snapshot :: states).reverse.tail e'' ∧ e''.WellFormed ∧
      e''.snapshot = e.snapshot ∧ e''.history.redos = e.history.redos := by
  induction h with
  | stay e => exact ⟨e, .stay e, hwf, rfl, rfl⟩
  | @go e next last states hu rest ih =>
    have hnext : next.WellFormed := (Trail.go hu (.stay next)).wellFormed_undo hwf
    obtain ⟨back, htrail, hback, hsnap, hredos⟩ := ih hnext
    -- The redo stack is that of `next` again, so its top is the state before the first undo.
    rw [redos_of_undo hu] at hredos
    obtain ⟨e'', hr, hs, hlater⟩ := exists_redo hback hredos
    have hstates : (e.snapshot :: next.snapshot :: states).reverse.tail =
        (next.snapshot :: states).reverse.tail ++ [e''.snapshot] := by
      rw [hs, List.reverse_cons, List.tail_append_of_ne_nil (by simp)]
    refine ⟨e'', hstates ▸ htrail.snoc hr, ?_, hs, hlater⟩
    obtain rfl := (Prod.mk.inj (Except.ok.inj hr)).1
    exact Step.redo.wellFormed hback

end Trail

/-- However many undos find a state, one after the other, as many redos after them find one: they
lead back through the states in between, the last one first, to the text, caret and selection that
held before the first undo. -/
theorem trail_redo_of_trail_undo (h : e.Reachable) {states : List Snapshot}
    (hu : Trail undo e states e') :
    ∃ e'', Trail redo e' (e.snapshot :: states).reverse.tail e'' ∧
      e''.snapshot = e.snapshot := by
  obtain ⟨e'', htrail, -, hs, -⟩ := hu.exists_redo_of_undo h.wellFormed
  exact ⟨e'', htrail, hs⟩

/-- Undo of a selection replaced by its own text and of the insertion before it, after the oldest
state was evicted and the selection moved. -/
theorem trail_redo_of_trail_undo_replace :
    ∃ (e e' : Editor) (states : List Snapshot), e.Reachable ∧ Trail undo e states e' ∧
      states.map Snapshot.text = [['b', 'c', 'a'], ['b', 'a']] ∧
      ∃ e'', Trail redo e' (e.snapshot :: states).reverse.tail e'' ∧ e''.snapshot = e.snapshot := by
  have he : ((withUndoLimit (.ofText ['a']) 3).applyAll
      [.insertText ['b'], .insertText ['c'], .selectRange 3 2, .insertText ['a'],
        .selectRange 0 2]).result = .ok _ := rfl
  have hreach : Reachable _ := ⟨_, _, _, he⟩
  refine ⟨_, _, _, hreach, .go rfl (.go rfl (.stay _)), rfl, ?_⟩
  exact trail_redo_of_trail_undo hreach (.go rfl (.go rfl (.stay _)))

end EditBox.Editor
