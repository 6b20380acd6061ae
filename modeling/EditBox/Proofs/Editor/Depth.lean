import EditBox.Proofs.Editor.Invariant

/-!
# Depth of the history

An editor uses its history in a certain order and with its own states. Here a history is used in any
order and with any snapshots: edits that are begun and never committed, undos and redos from states
that it has never seen. `Fits.apply` says that each operation leaves between one entry and as many
as there is room for, and `depth_bounded_newest_kept` what undo, redo and the recording of a state
do from there.
-/

namespace EditBox.History

variable {h : History} {capacity : Nat}

/-- Operation on a history, with the state it is given. -/
inductive Operation where
  | push (s : Snapshot)
  | beginEdit (s : Snapshot)
  | commit (s : Snapshot)
  | undo (s : Snapshot)
  | redo (s : Snapshot)
  | reset (baseline : Snapshot)
  deriving DecidableEq, Repr

/-- History after an operation. -/
def apply (h : History) : Operation → History
  | .push s => h.push s
  | .beginEdit s => h.beginEdit s
  | .commit s => h.commit s
  | .undo s => (h.undo s).1
  | .redo s => (h.redo s).1
  | .reset baseline => h.reset baseline

/-- History after operations, the earliest first. -/
def applyAll (h : History) (ops : List Operation) : History := ops.foldl apply h

/-- A history has an entry for the present state, and no more entries than there is room for. -/
structure Fits (h : History) (capacity : Nat) : Prop where
  capacity_eq : h.capacity = max capacity 1
  depth_pos : 1 ≤ h.undoDepth
  depth_le : h.undoDepth ≤ h.capacity

/-- The newest undo entry has the text and caret of a snapshot. -/
def NewestIs (h : History) (s : Snapshot) : Prop :=
  ∃ top rest, h.undos = top :: rest ∧ top.text = s.text ∧ top.caret = s.caret

namespace Fits

private theorem exists_undos (hf : h.Fits capacity) : ∃ top rest, h.undos = top :: rest :=
  List.exists_cons_of_ne_nil (List.ne_nil_of_length_pos hf.depth_pos)

private theorem with_redos (hf : h.Fits capacity) (redos : List Snapshot) :
    ({ h with redos := redos } : History).Fits capacity :=
  ⟨hf.capacity_eq, hf.depth_pos, hf.depth_le⟩

/-- A new history fits, also where there is said to be no room at all. -/
theorem start (baseline : Snapshot) (capacity : Nat) : (start baseline capacity).Fits capacity :=
  ⟨rfl, Nat.le_refl 1, Nat.le_max_right capacity 1⟩

private theorem newestIs_push (hf : h.Fits capacity) (s : Snapshot) : (h.push s).NewestIs s := by
  obtain ⟨top, rest, hu⟩ := hf.exists_undos
  cases hrep : h.repeatsTop s with
  | true =>
    obtain ⟨hcaret, htext⟩ := (repeatsTop_cons_iff hu).mp hrep
    exact ⟨top, rest, (undos_push_of_repeatsTop hrep).trans hu, htext, hcaret⟩
  | false => exact ⟨s, _, undos_push hrep hf.depth_pos hf.depth_le, rfl, rfl⟩

/-- A push that finds no room makes it. -/
theorem push (hf : h.Fits capacity) (s : Snapshot) : (h.push s).Fits capacity := by
  have hpos := hf.depth_pos
  have hle := hf.depth_le
  obtain ⟨top, rest, hu, -, -⟩ := hf.newestIs_push s
  refine ⟨by rw [capacity_push, hf.capacity_eq], by simp [undoDepth, hu], ?_⟩
  rw [capacity_push]
  cases hrep : h.repeatsTop s with
  | true => rwa [undoDepth, undos_push_of_repeatsTop hrep]
  | false =>
    rw [undoDepth, undos_push hrep hpos hle, List.length_cons, List.length_take]
    omega

private theorem newestIs_settle (hf : h.Fits capacity) (s : Snapshot) :
    (h.settle s).NewestIs s := by
  obtain ⟨top, rest, hu⟩ := hf.exists_undos
  by_cases ht : top.text = s.text
  · exact ⟨s, rest, undos_settle hu ht, rfl, rfl⟩
  · rw [settle_of_text_ne hu ht]
    exact hf.newestIs_push s

/-- Settling replaces the newest entry or pushes another. -/
theorem settle (hf : h.Fits capacity) (s : Snapshot) : (h.settle s).Fits capacity := by
  obtain ⟨top, rest, hu⟩ := hf.exists_undos
  by_cases ht : top.text = s.text
  · have hdepth : (h.settle s).undoDepth = h.undoDepth := by
      rw [undoDepth, undoDepth, undos_settle hu ht, hu]
      rfl
    refine ⟨by rw [capacity_settle, hf.capacity_eq], ?_, ?_⟩
    · rw [hdepth]
      exact hf.depth_pos
    · rw [hdepth, capacity_settle]
      exact hf.depth_le
  · rw [settle_of_text_ne hu ht]
    exact hf.push s

/-- A step back leaves the entry that it finds. -/
theorem undo (hf : h.Fits capacity) (s : Snapshot) : (h.undo s).1.Fits capacity := by
  rcases hundo : h.undo s with ⟨h', _ | found⟩
  · obtain rfl : h' = h := by simpa [hundo] using undo_fst_of_none (h := h) (s := s)
    exact hf
  · obtain ⟨newest, older, hu, rfl⟩ := undo_eq_some_iff.mp hundo
    have hle := hf.depth_le
    rw [undoDepth, hu, List.length_cons] at hle
    exact ⟨hf.capacity_eq, Nat.succ_pos _, Nat.le_of_succ_le hle⟩

/-- A step forward may settle and push. -/
theorem redo (hf : h.Fits capacity) (s : Snapshot) : (h.redo s).1.Fits capacity := by
  rcases hredo : h.redo s with ⟨h', _ | found⟩
  · obtain rfl : h' = h := by simpa [hredo] using redo_fst_of_none (h := h) (s := s)
    exact hf
  · obtain ⟨later, -, rfl⟩ := redo_eq_some_iff.mp hredo
    exact ((hf.with_redos later).settle s).push found

/-- A history that begins again holds one entry. -/
theorem reset (hf : h.Fits capacity) (baseline : Snapshot) : (h.reset baseline).Fits capacity :=
  ⟨hf.capacity_eq, Nat.le_refl 1, Nat.le_trans hf.depth_pos hf.depth_le⟩

/-- Every operation leaves a history that fits. -/
theorem apply (hf : h.Fits capacity) (op : Operation) : (h.apply op).Fits capacity := by
  cases op with
  | push s => exact hf.push s
  | beginEdit s => exact (hf.settle s).with_redos []
  | commit s => exact hf.push s
  | undo s => exact hf.undo s
  | redo s => exact hf.redo s
  | reset baseline => exact hf.reset baseline

/-- So do operations in any order. -/
theorem applyAll (hf : h.Fits capacity) (ops : List Operation) :
    (h.applyAll ops).Fits capacity := by
  induction ops generalizing h with
  | nil => exact hf
  | cons op ops ih => exact ih (hf.apply op)

end Fits

/-- A step back finds a state when there is an entry below the newest one. -/
theorem isSome_undo_iff (h : History) (s : Snapshot) :
    (h.undo s).2.isSome = true ↔ 1 < h.undoDepth := by
  rw [← canUndo_iff, canUndo, decide_eq_true_iff, undoDepth]

/-- A step forward finds a state when something was undone. -/
theorem isSome_redo_iff (h : History) (s : Snapshot) :
    (h.redo s).2.isSome = true ↔ 0 < h.redoDepth := by
  rw [← canRedo_iff, canRedo, Bool.not_eq_true', List.isEmpty_eq_false_iff, redoDepth,
    List.length_pos_iff]

/-- However a history is used, it has one undo entry at least and as many as there is room for at
most. An undo finds a state exactly when there is more than one, and then one moves from the undo
entries to the redo entries; a redo finds a state exactly when there is a redo entry, and then one
is gone. The newest undo entry has the text and caret of the state that was pushed, committed or
recorded before an edit, or that a redo found, also where there was no need or no room for another
entry. -/
theorem depth_bounded_newest_kept (baseline : Snapshot) (capacity : Nat) (ops : List Operation) :
    let h := (History.start baseline capacity).applyAll ops
    1 ≤ h.undoDepth ∧ h.undoDepth ≤ max capacity 1 ∧
      ∀ s, ((h.undo s).2.isSome = true ↔ 1 < h.undoDepth) ∧
        (∀ h' found, h.undo s = (h', some found) →
          h'.undoDepth + 1 = h.undoDepth ∧ h'.redoDepth = h.redoDepth + 1) ∧
        ((h.redo s).2.isSome = true ↔ 0 < h.redoDepth) ∧
        (∀ h' found, h.redo s = (h', some found) →
          h'.redoDepth + 1 = h.redoDepth ∧ h'.NewestIs found) ∧
        (h.push s).NewestIs s ∧ (h.commit s).NewestIs s ∧ (h.beginEdit s).NewestIs s := by
  intro h
  have hf : h.Fits capacity := (Fits.start baseline capacity).applyAll ops
  have hle := hf.depth_le
  rw [hf.capacity_eq] at hle
  refine ⟨hf.depth_pos, hle, fun s ↦ ⟨isSome_undo_iff h s, ?_, isSome_redo_iff h s, ?_,
    hf.newestIs_push s, hf.newestIs_push s, hf.newestIs_settle s⟩⟩
  · intro h' found hundo
    obtain ⟨newest, older, hu, rfl⟩ := undo_eq_some_iff.mp hundo
    simp [undoDepth, redoDepth, hu]
  · intro h' found hredo
    obtain ⟨later, hr, rfl⟩ := redo_eq_some_iff.mp hredo
    refine ⟨?_, ((hf.with_redos later).settle s).newestIs_push found⟩
    simp [redoDepth, hr]

/-- A history with room for two entries: a redo from a state that it has not seen settles and
pushes, so that both entries are new, and the state found is the newest. -/
theorem depth_bounded_newest_kept_full :
    let point (c : Char) : Snapshot := ⟨[c], 1, .collapsed 1⟩
    let h := (History.start (point 'a') 2).applyAll
      [.commit (point 'b'), .commit (point 'c'), .undo (point 'd')]
    ∃ h', h.redo (point 'e') = (h', some (point 'd')) ∧ h'.undos = [point 'd', point 'e'] ∧
      h'.redoDepth + 1 = h.redoDepth ∧ h'.NewestIs (point 'd') := by
  intro point h
  have hredo : h.redo (point 'e') = ((h.redo (point 'e')).1, some (point 'd')) := by decide
  obtain ⟨-, -, huse⟩ := depth_bounded_newest_kept (point 'a') 2
    [.commit (point 'b'), .commit (point 'c'), .undo (point 'd')]
  obtain ⟨-, -, -, hstep, -⟩ := huse (point 'e')
  obtain ⟨hdepth, hnewest⟩ := hstep _ _ hredo
  exact ⟨_, hredo, by decide, hdepth, hnewest⟩

end EditBox.History
