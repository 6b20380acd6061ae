import EditBox.Proofs.Editor.Step

/-!
# What every editor satisfies

The caret and the selection lie within the text, the newest undo entry holds the text as it stands,
every snapshot of the history lies within its own text, and both stacks together fit the capacity.
`Step.wellFormed` says that every operation keeps this.
-/

namespace EditBox

namespace History

/-- A history of a text: its newest undo entry holds the text, its snapshots lie within their own
texts, and its stacks fit the capacity together. -/
structure Records (h : History) (text : List Char) : Prop where
  newest : ∃ top rest, h.undos = top :: rest ∧ top.text = text
  undos_within : ∀ s ∈ h.undos, s.Within
  redos_within : ∀ s ∈ h.redos, s.Within
  depth_pos : 1 ≤ h.undoDepth
  depth_le : h.undoDepth + h.redoDepth ≤ h.capacity

/-- Settling on a state of the newest text replaces the newest entry. -/
theorem undos_settle {h : History} {top s : Snapshot} {rest : List Snapshot}
    (hu : h.undos = top :: rest) (ht : top.text = s.text) : (h.settle s).undos = s :: rest := by
  simp only [settle, hu, if_pos ht]
  split
  · next heq => exact congrArg (· :: rest) heq
  · rfl

/-- Settling on a state of another text pushes it. -/
theorem settle_of_text_ne {h : History} {top s : Snapshot} {rest : List Snapshot}
    (hu : h.undos = top :: rest) (ht : top.text ≠ s.text) : h.settle s = h.push s := by
  simp only [settle, hu, if_neg ht]

/-- A push that repeats the newest entry keeps the entries. -/
theorem undos_push_of_repeatsTop {h : History} {s : Snapshot} (hr : h.repeatsTop s = true) :
    (h.push s).undos = h.undos := by
  rw [push, if_pos hr]

/-- Any other push puts the snapshot before as many entries as there is room for. -/
theorem undos_push {h : History} {s : Snapshot} (hr : h.repeatsTop s = false)
    (hpos : 1 ≤ h.undoDepth) (hle : h.undoDepth ≤ h.capacity) :
    (h.push s).undos = s :: h.undos.take (h.capacity - 1) := by
  rw [push, if_neg (by simp [hr])]
  simp only [undoDepth, List.length_cons] at hpos hle ⊢
  split
  · rw [List.dropLast_cons_of_ne_nil (List.ne_nil_of_length_pos hpos), List.dropLast_eq_take]
    congr 2
    omega
  · rw [List.take_of_length_le (by omega)]

/-- A snapshot repeats the newest entry when it has its text and caret. -/
theorem repeatsTop_cons_iff {h : History} {top s : Snapshot} {rest : List Snapshot}
    (hu : h.undos = top :: rest) :
    h.repeatsTop s = true ↔ top.caret = s.caret ∧ top.text = s.text := by
  simp only [repeatsTop, hu, Snapshot.samePoint, Bool.and_eq_true, beq_iff_eq]

/-- Without a state to go back to the history stays as it is. -/
theorem undo_fst_of_none {h : History} {s : Snapshot} (hn : (h.undo s).2 = none) :
    (h.undo s).1 = h := by
  unfold undo at hn ⊢
  split
  · next hu => rw [hu] at hn; cases hn
  · rfl

/-- Without a state to go forward to the history stays as it is. -/
theorem redo_fst_of_none {h : History} {s : Snapshot} (hn : (h.redo s).2 = none) :
    (h.redo s).1 = h := by
  unfold redo at hn ⊢
  split
  · rfl
  · next hu => rw [hu] at hn; cases hn

/-- A step back takes the newest undo entry away, and what it finds is the entry below. -/
theorem undo_eq_some_iff {h h' : History} {s found : Snapshot} :
    h.undo s = (h', some found) ↔
      ∃ newest older, h.undos = newest :: found :: older ∧
        h' = { h with undos := found :: older, redos := s :: h.redos } := by
  obtain ⟨undos, redos, capacity, skipped⟩ := h
  rcases undos with _ | ⟨newest, _ | ⟨next, older⟩⟩
  · simp [undo]
  · simp [undo]
  · simp only [undo, Prod.mk.injEq, Option.some.injEq]
    constructor
    · rintro ⟨rfl, rfl⟩
      exact ⟨newest, older, rfl, rfl⟩
    · rintro ⟨_, _, hu, rfl⟩
      cases hu
      exact ⟨rfl, rfl⟩

/-- A step forward takes the newest redo entry away, settles on the present state and pushes what it
found. -/
theorem redo_eq_some_iff {h h' : History} {s found : Snapshot} :
    h.redo s = (h', some found) ↔
      ∃ later, h.redos = found :: later ∧
        h' = (({ h with redos := later } : History).settle s).push found := by
  unfold redo
  split
  · next hr => simp [hr]
  · next next later hr =>
    rw [Prod.mk.injEq, Option.some.injEq, hr]
    constructor
    · rintro ⟨rfl, rfl⟩
      exact ⟨later, rfl, rfl⟩
    · rintro ⟨_, hl, rfl⟩
      cases hl
      exact ⟨rfl, rfl⟩

namespace Records

variable {h : History} {text : List Char} {s : Snapshot}

/-- A history that begins with a state of the text. -/
theorem of_undos {top : Snapshot} {rest : List Snapshot} (hu : h.undos = top :: rest)
    (ht : top.text = text) (huw : ∀ s ∈ h.undos, s.Within) (hrw : ∀ s ∈ h.redos, s.Within)
    (hd : h.undoDepth + h.redoDepth ≤ h.capacity) : h.Records text where
  newest := ⟨top, rest, hu, ht⟩
  undos_within := huw
  redos_within := hrw
  depth_pos := by rw [undoDepth, hu]; exact Nat.succ_pos _
  depth_le := hd

private theorem single (hs : s.Within) (hu : h.undos = [s]) (hr : h.redos = [])
    (hc : 1 ≤ h.capacity) : h.Records s.text := by
  refine of_undos hu rfl ?_ ?_ ?_
  · simpa [hu] using hs
  · simp [hr]
  · simpa [undoDepth, redoDepth, hu, hr] using hc

/-- Settling on a state of the text keeps a history of it. -/
theorem settle (hr : h.Records s.text) (hs : s.Within) : (h.settle s).Records s.text := by
  obtain ⟨top, rest, hu, ht⟩ := hr.newest
  have hset := undos_settle hu ht
  refine of_undos hset rfl ?_ ?_ ?_
  · intro t hm
    rw [hset] at hm
    rcases List.mem_cons.mp hm with rfl | hm
    · exact hs
    · exact hr.undos_within t (by rw [hu]; exact List.mem_cons_of_mem _ hm)
  · rw [redos_settle]
    exact hr.redos_within
  · have hd := hr.depth_le
    simp only [undoDepth, redoDepth, hu, hset, redos_settle, capacity_settle,
      List.length_cons] at hd ⊢
    exact hd

/-- Recording the state before an edit keeps a history of the text, with nothing to redo. -/
theorem beginEdit (hr : h.Records s.text) (hs : s.Within) :
    (h.beginEdit s).Records s.text := by
  have hset := hr.settle hs
  obtain ⟨top, rest, hu, ht⟩ := hset.newest
  refine of_undos (h := h.beginEdit s) hu ht hset.undos_within ?_ ?_
  · intro t hm
    cases hm
  · have hd := hset.depth_le
    simp only [undoDepth, redoDepth, History.beginEdit, List.length_nil] at hd ⊢
    omega

/-- A push with nothing to redo makes a history of the new text. -/
theorem push (hr : h.Records text) (hs : s.Within) (hno : h.redos = []) :
    (h.push s).Records s.text := by
  obtain ⟨top, rest, hu, ht⟩ := hr.newest
  have hd := hr.depth_le
  cases hrep : h.repeatsTop s with
  | true =>
    have hpush := undos_push_of_repeatsTop hrep
    refine of_undos (hpush.trans hu) ((repeatsTop_cons_iff hu).mp hrep).2 ?_ ?_ ?_
    · rw [hpush]
      exact hr.undos_within
    · rw [redos_push]
      exact hr.redos_within
    · rw [undoDepth, redoDepth, hpush, redos_push, capacity_push]
      exact hd
  | false =>
    have hpos := hr.depth_pos
    have hpush := undos_push hrep hpos (by omega)
    refine of_undos hpush rfl ?_ ?_ ?_
    · intro t hm
      rw [hpush] at hm
      rcases List.mem_cons.mp hm with rfl | hm
      · exact hs
      · exact hr.undos_within t (List.mem_of_mem_take hm)
    · rw [redos_push]
      exact hr.redos_within
    · simp only [undoDepth, redoDepth, hpush, redos_push, capacity_push, List.length_cons,
        List.length_take, hno, List.length_nil] at hd hpos ⊢
      omega

/-- A step back goes to the entry below the newest one, and the history is one of its text. -/
theorem undo {h' : History} {found : Snapshot} (hr : h.Records text) (hs : s.Within)
    (hf : h.undo s = (h', some found)) : found.Within ∧ h'.Records found.text := by
  obtain ⟨newest, older, hu, rfl⟩ := undo_eq_some_iff.mp hf
  have hmem : ∀ t ∈ found :: older, t ∈ h.undos := fun t ht ↦ by
    rw [hu]
    exact List.mem_cons_of_mem _ ht
  refine ⟨hr.undos_within _ (hmem _ (List.mem_cons_self ..)), ?_⟩
  refine of_undos rfl rfl (fun t ht ↦ hr.undos_within t (hmem t ht)) ?_ ?_
  · intro t ht
    rcases List.mem_cons.mp ht with rfl | ht
    · exact hs
    · exact hr.redos_within t ht
  · have hd := hr.depth_le
    simp only [undoDepth, redoDepth, hu, List.length_cons] at hd ⊢
    omega

/-- A step forward takes the newest redo entry. Above the older undo entries it leaves the state it
began from, and above that the state it leads to unless the two have the same text and caret. -/
theorem redo_eq {h' : History} {found : Snapshot} (hr : h.Records s.text)
    (hf : h.redo s = (h', some found)) :
    ∃ top older, h.undos = top :: older ∧ h.redos = found :: h'.redos ∧
      h'.capacity = h.capacity ∧
      h'.undos = if s.samePoint found then s :: older else found :: s :: older := by
  obtain ⟨top, older, hu, ht⟩ := hr.newest
  have hd := hr.depth_le
  obtain ⟨later, hredos, rfl⟩ := redo_eq_some_iff.mp hf
  have hpopped : ({ h with redos := later } : History).undos = top :: older := hu
  have hset := undos_settle hpopped (s := s) ht
  have hcap : (({ h with redos := later } : History).settle s).capacity = h.capacity :=
    capacity_settle _ _
  refine ⟨top, older, hu, by rw [redos_push, redos_settle, hredos], by rw [capacity_push, hcap], ?_⟩
  by_cases hsame : s.samePoint found = true
  · have hrep : (({ h with redos := later } : History).settle s).repeatsTop found = true := by
      simp only [repeatsTop, hset, hsame]
    rw [undos_push_of_repeatsTop hrep, hset, if_pos hsame]
  · have hrep : (({ h with redos := later } : History).settle s).repeatsTop found = false := by
      simp only [repeatsTop, hset, Bool.eq_false_iff.mpr hsame]
    -- The entry that was taken off the redo stack leaves room for one more undo entry.
    simp only [undoDepth, redoDepth, hu, hredos, List.length_cons] at hd
    have hpos : 1 ≤ (({ h with redos := later } : History).settle s).undoDepth := by
      rw [undoDepth, hset]
      exact Nat.succ_pos _
    have hle : (({ h with redos := later } : History).settle s).undoDepth ≤
        (({ h with redos := later } : History).settle s).capacity := by
      rw [undoDepth, hset, hcap, List.length_cons]
      omega
    have hroom : (s :: older).length ≤ h.capacity - 1 := by
      rw [List.length_cons]
      omega
    rw [undos_push hrep hpos hle, hset, hcap, if_neg hsame, List.take_of_length_le hroom]

/-- A step forward goes to the newest redo entry, and the history is one of its text. -/
theorem redo {h' : History} {found : Snapshot} (hr : h.Records s.text) (hs : s.Within)
    (hf : h.redo s = (h', some found)) : found.Within ∧ h'.Records found.text := by
  obtain ⟨top, older, hu, hredos, hcap, hu'⟩ := hr.redo_eq hf
  have hfound : found.Within := hr.redos_within _ (by rw [hredos]; exact List.mem_cons_self ..)
  have hs' : ∀ t ∈ s :: older, t.Within := by
    intro t ht
    rcases List.mem_cons.mp ht with rfl | ht
    · exact hs
    · exact hr.undos_within t (by rw [hu]; exact List.mem_cons_of_mem _ ht)
  have hrw : ∀ t ∈ h'.redos, t.Within := fun t ht ↦
    hr.redos_within t (by rw [hredos]; exact List.mem_cons_of_mem _ ht)
  have hd := hr.depth_le
  simp only [undoDepth, redoDepth, hu, hredos, List.length_cons] at hd
  refine ⟨hfound, ?_⟩
  by_cases hsame : s.samePoint found = true
  · rw [if_pos hsame] at hu'
    have htext : s.text = found.text := by
      simp only [Snapshot.samePoint, Bool.and_eq_true, beq_iff_eq] at hsame
      exact hsame.2
    refine of_undos hu' htext (by rwa [hu']) hrw ?_
    simp only [undoDepth, redoDepth, hu', hcap, List.length_cons]
    omega
  · rw [if_neg hsame] at hu'
    refine of_undos hu' rfl ?_ hrw ?_
    · intro t ht
      rw [hu'] at ht
      rcases List.mem_cons.mp ht with rfl | ht
      · exact hfound
      · exact hs' t ht
    · simp only [undoDepth, redoDepth, hu', hcap, List.length_cons]
      omega

end Records

end History

namespace Snapshot.Within

variable {s : Snapshot}

/-- A motion keeps the caret and the selection within the text, and the gesture at the fixed end
of the selection. -/
theorem motion {gesture gesture' : Option Nat} {op : Editor.Operation} {selection : Selection}
    (h : s.Within) (hg : ∀ x, gesture = some x → x = s.selection.anchor)
    (hm : s.motion gesture op = some (selection, gesture')) :
    selection.anchor ≤ s.length ∧ selection.caret ≤ s.length ∧
      ∀ x, gesture' = some x → x = selection.anchor := by
  have hfixed : gesture.getD s.caret ≤ s.length := by
    cases hx : gesture with
    | none => exact h.caret_le
    | some x => exact hg x hx ▸ h.anchor_le
  cases op with
  | moveCaret target shift =>
    cases shift with
    | true =>
      obtain ⟨rfl, rfl⟩ := Prod.mk.inj (Option.some.inj hm)
      exact ⟨hfixed, Nat.min_le_right _ _, fun x hx ↦ (Option.some.inj hx).symm⟩
    | false =>
      obtain ⟨rfl, rfl⟩ := Prod.mk.inj (Option.some.inj hm)
      exact ⟨Nat.min_le_right _ _, Nat.min_le_right _ _, fun x hx ↦ by cases hx⟩
  | selectRange anchor caret =>
    obtain ⟨rfl, rfl⟩ := Prod.mk.inj (Option.some.inj hm)
    exact ⟨Nat.min_le_right _ _, Nat.min_le_right _ _, fun x hx ↦ (Option.some.inj hx).symm⟩
  | selectAll =>
    obtain ⟨rfl, rfl⟩ := Prod.mk.inj (Option.some.inj hm)
    exact ⟨Nat.zero_le _, Nat.le_refl _, fun x hx ↦ (Option.some.inj hx).symm⟩
  | collapseSelection =>
    obtain ⟨rfl, rfl⟩ := Prod.mk.inj (Option.some.inj hm)
    exact ⟨h.caret_le, h.caret_le, fun x hx ↦ by cases hx⟩
  | _ => cases hm

end Snapshot.Within

namespace Editor

/-- The caret and the selection lie within the text and agree with each other and with a running
gesture, and the history is one of the text. -/
structure WellFormed (e : Editor) : Prop where
  within : e.snapshot.Within
  gesture : ∀ x, e.anchor = some x → x = e.selection.anchor
  history : e.history.Records e.text

variable {e : Editor}

/-- A snapshot within its own text is restored as it is. -/
theorem snapshot_restore (e : Editor) {s : Snapshot} (h : s.Within) :
    (e.restore s).snapshot = s := by
  have hc : s.caret ≤ s.text.length := h.caret_le
  have ha : s.selection.anchor ≤ s.text.length := h.anchor_le
  have hs : s.selection.caret ≤ s.text.length := h.selection_caret ▸ h.caret_le
  change Snapshot.mk s.text (min s.caret s.text.length) (s.selection.clamped s.text.length) = s
  rw [Nat.min_eq_left hc, Selection.clamped_eq_self ha hs]

/-- A new editor is well-formed. -/
theorem wellFormed_withUndoLimit (buffer : Text.Buffer) (limit : Nat) :
    (withUndoLimit buffer limit).WellFormed where
  within := ⟨Nat.zero_le _, Nat.zero_le _, rfl⟩
  gesture := fun x hx ↦ by cases hx
  history :=
    History.Records.single (s := ⟨buffer.chars, 0, .collapsed 0⟩)
      ⟨Nat.zero_le _, Nat.zero_le _, rfl⟩ rfl rfl (Nat.le_max_right limit 1)

namespace WellFormed

variable (h : e.WellFormed)
include h

/-- A history keeps room for at least one entry. -/
theorem capacity_pos : 1 ≤ e.history.capacity := by
  have hpos := h.history.depth_pos
  have hle := h.history.depth_le
  omega

/-- Loading a text keeps an editor well-formed. -/
theorem loaded (text : List Char) : (e.loaded text).WellFormed where
  within := ⟨Nat.zero_le _, Nat.zero_le _, rfl⟩
  gesture := fun x hx ↦ by cases hx
  history :=
    History.Records.single (s := ⟨text, 0, .collapsed 0⟩)
      ⟨Nat.zero_le _, Nat.zero_le _, rfl⟩ rfl rfl h.capacity_pos

/-- A splice keeps an editor well-formed. -/
theorem spliced {start stop : Nat} (text : List Char) (hle : start ≤ stop)
    (hl : stop ≤ e.length) : (e.spliced start stop text).WellFormed := by
  have hsnap := snapshot_spliced text hle hl
  have hwithin : (e.snapshot.splice start stop text).Within :=
    .splice text (Nat.le_trans hle hl)
  refine ⟨hsnap ▸ hwithin, fun x hx ↦ (by cases hx), ?_⟩
  rw [history_spliced text hle hl]
  have htext : (e.spliced start stop text).text = (e.snapshot.splice start stop text).text :=
    congrArg Snapshot.text hsnap
  rw [htext]
  exact (h.history.beginEdit (s := e.snapshot) h.within).push hwithin rfl

/-- Moving the selection within the text keeps an editor well-formed. -/
theorem pointed {op : Operation} {selection : Selection} {gesture : Option Nat}
    (hm : e.snapshot.motion e.anchor op = some (selection, gesture)) :
    (e.pointed selection gesture).WellFormed := by
  obtain ⟨ha, hc, hg⟩ := h.within.motion h.gesture hm
  exact ⟨⟨hc, ha, rfl⟩, hg, h.history⟩

private theorem travelled {step : History × Option Snapshot}
    (hnone : step.2 = none → step.1 = e.history)
    (hsome : ∀ found, step = (step.1, some found) →
      found.Within ∧ step.1.Records found.text) : (e.travelled step).1.WellFormed := by
  obtain ⟨history, found⟩ := step
  cases found with
  | none =>
    obtain rfl : history = e.history := hnone rfl
    exact h
  | some s =>
    obtain ⟨hw, hr⟩ := hsome s rfl
    refine ⟨?_, fun x hx ↦ (by cases hx), hr⟩
    change ({ e with history := history }.restore s).snapshot.Within
    rw [snapshot_restore _ hw]
    exact hw

end WellFormed

/-- Every step keeps an editor well-formed. -/
theorem Step.wellFormed {op : Operation} {after : Editor} {answer : Response}
    (hs : Step e op after answer) (h : e.WellFormed) : after.WellFormed := by
  cases hs with
  | load text => exact h.loaded text
  | insert text => exact h.spliced text e.selection.range_le h.within.range_le
  | delete hd hlt =>
    obtain ⟨hle, hl⟩ := h.within.deletion_le hd
    exact h.spliced [] hle hl
  | deleteNone => exact h
  | point hm => exact h.pointed hm
  | undo =>
    apply h.travelled History.undo_fst_of_none
    intro found hf
    exact h.history.undo h.within hf
  | redo =>
    apply h.travelled History.redo_fst_of_none
    intro found hf
    exact h.history.redo (s := e.snapshot) h.within hf
  | save => exact ⟨h.within, h.gesture, h.history⟩
  | ask => exact h

/-- A step through the history that finds a state is counted, and any other leaves the editor as it
was. -/
theorem travelled_cases (e : Editor) {step : History × Option Snapshot}
    (h : step.2 = none → step.1 = e.history) :
    if (e.travelled step).2 then
      e.buffer.revision < (e.travelled step).1.buffer.revision
    else (e.travelled step).1 = e := by
  obtain ⟨history, found⟩ := step
  cases found with
  | none =>
    obtain rfl : history = e.history := h rfl
    rfl
  | some s => exact Nat.lt_succ_self _

/-- An operation that says whether it did something changes the text if it did, in the count of the
buffer, and nothing at all if it did not. -/
theorem Step.of_flag {op : Operation} {after : Editor} {done : Bool}
    (hs : Step e op after (.flag done)) (hq : e.snapshot.answer op = none) :
    if done then e.buffer.revision < after.buffer.revision else after = e := by
  cases hs with
  | delete hd hlt => exact e.buffer.revision_lt_splice (.inl (Nat.ne_of_lt hlt))
  | deleteNone hd hlt => rfl
  | undo => exact e.travelled_cases History.undo_fst_of_none
  | redo => exact e.travelled_cases History.redo_fst_of_none
  | ask ha =>
    rw [hq] at ha
    cases ha

end Editor

end EditBox
