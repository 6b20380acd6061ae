import EditBox.Proofs.Editor.Invariant

/-!
# Characters of a text

Characters enter a text where an operation loads or inserts them; deletions, motions and the history
bring in no others. `Step.lacks` says so of every operation: a character that occurs neither in the
text nor in its history, nor in what the operation brings, occurs in neither afterwards.
-/

namespace EditBox

variable {c : Char}

namespace History

/-- A character occurs in no state that a history may restore. -/
structure Lacks (h : History) (c : Char) : Prop where
  undos : ∀ s ∈ h.undos, c ∉ s.text
  redos : ∀ s ∈ h.redos, c ∉ s.text

namespace Lacks

variable {h : History} {s : Snapshot}

/-- A push adds no other state than the one pushed. -/
theorem push (hl : h.Lacks c) (hs : c ∉ s.text) : (h.push s).Lacks c := by
  constructor
  · intro t ht
    have hmem : t = s ∨ t ∈ h.undos := by
      unfold History.push at ht
      split at ht
      · exact .inr ht
      · dsimp only at ht
        split at ht
        · exact List.mem_cons.mp (List.dropLast_subset _ ht)
        · exact List.mem_cons.mp ht
    rcases hmem with rfl | hmem
    · exact hs
    · exact hl.undos t hmem
  · rw [redos_push]
    exact hl.redos

/-- Settling adds no other state than the one settled on. -/
theorem settle (hl : h.Lacks c) (hs : c ∉ s.text) : (h.settle s).Lacks c := by
  unfold History.settle
  split
  · exact hl.push hs
  · next top rest hundos =>
    split
    · split
      · exact ⟨hl.undos, hl.redos⟩
      · constructor
        · intro t ht
          rcases List.mem_cons.mp ht with rfl | ht
          · exact hs
          · exact hl.undos t (hundos ▸ List.mem_cons_of_mem top ht)
        · exact hl.redos
    · exact hl.push hs

/-- Recording the state before an edit adds no other. -/
theorem beginEdit (hl : h.Lacks c) (hs : c ∉ s.text) : (h.beginEdit s).Lacks c where
  undos := (hl.settle hs).undos
  redos := fun _ ht ↦ by cases ht

/-- A step back restores a state of the history and records the present one. -/
theorem undo (hl : h.Lacks c) (hs : c ∉ s.text) :
    (h.undo s).1.Lacks c ∧ ∀ found, (h.undo s).2 = some found → c ∉ found.text := by
  unfold History.undo
  split
  · next top next rest hundos =>
    have hrest : ∀ t ∈ next :: rest, c ∉ t.text := fun t ht ↦
      hl.undos t (hundos ▸ List.mem_cons_of_mem top ht)
    refine ⟨⟨hrest, ?_⟩, ?_⟩
    · intro t ht
      rcases List.mem_cons.mp ht with rfl | ht
      · exact hs
      · exact hl.redos t ht
    · rintro found ⟨⟩
      exact hrest next (List.mem_cons_self ..)
  · exact ⟨hl, fun found hf ↦ by cases hf⟩

/-- A step forward restores a state of the history and records the present one. -/
theorem redo (hl : h.Lacks c) (hs : c ∉ s.text) :
    (h.redo s).1.Lacks c ∧ ∀ found, (h.redo s).2 = some found → c ∉ found.text := by
  unfold History.redo
  split
  · exact ⟨hl, fun found hf ↦ by cases hf⟩
  · next next rest hredos =>
    have hredos : ∀ t ∈ next :: rest, c ∉ t.text := hredos ▸ hl.redos
    have hnext : c ∉ next.text := hredos next (List.mem_cons_self ..)
    have hpopped : ({ h with redos := rest } : History).Lacks c :=
      ⟨hl.undos, fun t ht ↦ hredos t (List.mem_cons_of_mem _ ht)⟩
    refine ⟨(hpopped.settle hs).push hnext, ?_⟩
    rintro found ⟨⟩
    exact hnext

end Lacks

end History

namespace Editor

variable {e : Editor}

/-- A character occurs neither in the text nor in a state that the history may restore. -/
structure Lacks (e : Editor) (c : Char) : Prop where
  text : c ∉ e.text
  history : e.history.Lacks c

/-- Characters that an operation puts into the text. -/
def Operation.brought : Operation → List Char
  | .setText text => text
  | .insertText text => text
  | _ => []

/-- A new editor has the characters of its buffer. -/
theorem lacks_withUndoLimit {buffer : Text.Buffer} (h : c ∉ buffer.chars) (limit : Nat) :
    (withUndoLimit buffer limit).Lacks c := by
  refine ⟨h, ?_, ?_⟩
  · intro s hs
    rw [List.mem_singleton.mp hs]
    exact h
  · intro s hs
    cases hs

namespace Lacks

private theorem loaded {text : List Char} (ht : c ∉ text) : (e.loaded text).Lacks c := by
  refine ⟨ht, ?_, ?_⟩
  · intro s hs
    rw [List.mem_singleton.mp hs]
    exact ht
  · intro s hs
    cases hs

variable (h : e.Lacks c)
include h

private theorem spliced {start stop : Nat} {text : List Char} (ht : c ∉ text) (hle : start ≤ stop)
    (hl : stop ≤ e.length) : (e.spliced start stop text).Lacks c := by
  have hafter : c ∉ (e.snapshot.splice start stop text).text := by
    simp only [Snapshot.splice, List.mem_append, not_or]
    exact ⟨⟨fun hc ↦ h.text (List.mem_of_mem_take hc), ht⟩,
      fun hc ↦ h.text (List.mem_of_mem_drop hc)⟩
  constructor
  · have htext := congrArg Snapshot.text (snapshot_spliced text hle hl)
    exact fun hc ↦ hafter (htext ▸ hc)
  · rw [history_spliced text hle hl]
    exact (h.history.beginEdit (s := e.snapshot) h.text).push hafter

private theorem travelled {step : History × Option Snapshot}
    (hs : step.1.Lacks c ∧ ∀ found, step.2 = some found → c ∉ found.text) :
    (e.travelled step).1.Lacks c := by
  obtain ⟨history, found⟩ := step
  obtain ⟨hhistory, hfound⟩ := hs
  cases found with
  | none => exact ⟨h.text, hhistory⟩
  | some s => exact ⟨hfound s rfl, hhistory⟩

end Lacks

/-- An operation brings in no characters but those that it puts into the text. -/
theorem Step.lacks {op : Operation} {after : Editor} {answer : Response}
    (hs : Step e op after answer) (hw : e.snapshot.Within) (hop : c ∉ op.brought)
    (h : e.Lacks c) : after.Lacks c := by
  cases hs with
  | load text => exact .loaded hop
  | insert text => exact h.spliced hop e.selection.range_le hw.range_le
  | delete hd hlt =>
    obtain ⟨hle, hl⟩ := hw.deletion_le hd
    exact h.spliced (List.not_mem_nil) hle hl
  | deleteNone => exact h
  | point => exact ⟨h.text, h.history⟩
  | undo => exact h.travelled (h.history.undo (s := e.snapshot) h.text)
  | redo => exact h.travelled (h.history.redo (s := e.snapshot) h.text)
  | save => exact ⟨h.text, h.history⟩
  | ask => exact h

end Editor

end EditBox
