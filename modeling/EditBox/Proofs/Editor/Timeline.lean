import EditBox.Proofs.Editor.Run
import Mathlib.Data.List.Chain

/-!
# Timeline

A bounded zipper of states: those before the present, the present, and those that were undone. It
has no buffer, no settled entries and no skipped ones. `answerAll_agrees` says that an editor shows
the same states and gives the same answers, along every run whose insertions change the text.
-/

namespace EditBox

open EditBox.Text Editor

/-- States before and after the present one, the nearest first, and the fixed end of a gesture. -/
structure Timeline where
  past : List Snapshot
  present : Snapshot
  future : List Snapshot
  gesture : Option Nat
  deriving DecidableEq, Repr

namespace Timeline

/-- Timeline of a text before anything was done to it. -/
def start (text : List Char) : Timeline := ⟨[], ⟨text, 0, .collapsed 0⟩, [], none⟩

/-- Go on to a new state. The state left is remembered, the newest `limit - 1` of them are kept,
and what was undone is forgotten. -/
def record (limit : Nat) (t : Timeline) (s : Snapshot) : Timeline :=
  ⟨(t.present :: t.past).take (limit - 1), s, [], none⟩

/-- Splice the present text. -/
def splice (limit : Nat) (t : Timeline) (start stop : Nat) (text : List Char) : Timeline :=
  t.record limit (t.present.splice start stop text)

/-- Go back to the last state of the past. -/
def back (t : Timeline) : Timeline × Response :=
  match t.past with
  | [] => (t, .flag false)
  | s :: past => (⟨past, s, t.present :: t.future, none⟩, .flag true)

/-- Go forward to the first state of the future. -/
def forward (t : Timeline) : Timeline × Response :=
  match t.future with
  | [] => (t, .flag false)
  | s :: future => (⟨t.present :: t.past, s, future, none⟩, .flag true)

/-- Change the selection of the present state. -/
def point (t : Timeline) (selection : Selection) (gesture : Option Nat) : Timeline :=
  { t with
    present := { t.present with caret := selection.caret, selection := selection }
    gesture := gesture }

/-- Carry out an operation. -/
def step (limit : Nat) (t : Timeline) (op : Operation) : Timeline × Response :=
  match op with
  | .setText text => (start text, .nothing)
  | .insertText text =>
      (t.splice limit t.present.selection.range.1 t.present.selection.range.2 text, .nothing)
  | .undo => t.back
  | .redo => t.forward
  | .markSaved => (t, .nothing)
  | op =>
      match t.present.deletion op with
      | some (start, stop) =>
          if start < stop then (t.splice limit start stop [], .flag true) else (t, .flag false)
      | none =>
          match t.present.motion t.gesture op with
          | some (selection, gesture) => (t.point selection gesture, .nothing)
          | none => (t, (t.present.answer op).getD .nothing)

/-- Carry out operations in order and collect their answers. -/
def answerAll (limit : Nat) (t : Timeline) : List Operation → Timeline × List Response
  | [] => (t, [])
  | op :: ops =>
      let (t, answer) := t.step limit op
      let (t, answers) := t.answerAll limit ops
      (t, answer :: answers)

/-- All states, from the last of the future to the first of the past. -/
def states (t : Timeline) : List Snapshot := t.future.reverse ++ t.present :: t.past

variable {limit : Nat} {t : Timeline} {op : Operation}

private theorem step_of_deletion {range : Nat × Nat} (hd : t.present.deletion op = some range) :
    t.step limit op =
      if range.1 < range.2 then (t.splice limit range.1 range.2 [], .flag true)
      else (t, .flag false) := by
  cases op <;> cases hd <;> rfl

private theorem step_of_motion {selection : Selection} {gesture : Option Nat}
    (hm : t.present.motion t.gesture op = some (selection, gesture)) :
    t.step limit op = (t.point selection gesture, .nothing) := by
  cases op with
  | moveCaret target shift => cases shift <;> cases hm <;> rfl
  | _ => cases hm <;> rfl

private theorem step_of_answer {answer : Response} (ha : t.present.answer op = some answer) :
    t.step limit op = (t, answer) := by
  cases op <;> cases ha <;> rfl

/-- States that differ from their neighbours by their texts. -/
def Varied (states : List Snapshot) : Prop := states.IsChain fun s s' ↦ s.text ≠ s'.text

private theorem states_back (t : Timeline) : t.back.1.states = t.states := by
  unfold back
  split
  · rfl
  · next s past hp => simp [states, hp]

private theorem states_forward (t : Timeline) : t.forward.1.states = t.states := by
  unfold forward
  split
  · rfl
  · next s future hf => simp [states, hf]

private theorem varied_present_past (h : Varied t.states) : Varied (t.present :: t.past) :=
  h.right_of_append

private theorem ne_of_varied {s : Snapshot} {future : List Snapshot} (h : Varied t.states)
    (hf : t.future = s :: future) : s.text ≠ t.present.text := by
  have hsplit : t.states = future.reverse ++ s :: t.present :: t.past := by
    simp [states, hf]
  rw [hsplit] at h
  exact (List.isChain_cons_cons.mp h.right_of_append).1

private theorem varied_record {s : Snapshot} (h : Varied t.states) (hne : s.text ≠ t.present.text) :
    Varied (t.record limit s).states := by
  have hkept : Varied ((t.present :: t.past).take (limit - 1)) :=
    (varied_present_past h).take _
  apply List.IsChain.cons hkept
  intro s' hs'
  change s' ∈ ((t.present :: t.past).take (limit - 1)).head? at hs'
  rw [List.head?_take] at hs'
  split at hs'
  · cases hs'
  · cases hs'
    exact hne

private theorem varied_point {selection : Selection} {gesture : Option Nat} (h : Varied t.states) :
    Varied (t.point selection gesture).states := by
  have hmap (states : List Snapshot) :
      Varied states ↔ (states.map Snapshot.text).IsChain (· ≠ ·) := by
    rw [List.isChain_map]
    rfl
  rw [hmap] at h ⊢
  simpa [states, point] using h

end Timeline

namespace Editor

/-- An editor in the present state of a timeline: below its newest entry the undo stack is the
past, and the redo stack is the future. -/
structure Agrees (e : Editor) (t : Timeline) : Prop where
  present : e.snapshot = t.present
  past : e.history.undos.tail = t.past
  future : e.history.redos = t.future
  gesture : e.anchor = t.gesture

/-- What ties an editor to a timeline from step to step. -/
structure Follows (limit : Nat) (e : Editor) (t : Timeline) : Prop extends Agrees e t where
  wellFormed : e.WellFormed
  capacity : e.history.capacity = limit
  varied : Timeline.Varied t.states

namespace Follows

variable {limit : Nat} {e : Editor} {t : Timeline}

private theorem undos_eq (h : Follows limit e t) :
    ∃ top, e.history.undos = top :: t.past ∧ top.text = e.text := by
  obtain ⟨top, rest, hu, ht⟩ := h.wellFormed.history.newest
  have hpast := h.past
  rw [hu, List.tail_cons] at hpast
  exact ⟨top, hpast ▸ hu, ht⟩

private theorem withUndoLimit (buffer : Buffer) (limit : Nat) :
    Follows (max limit 1) (Editor.withUndoLimit buffer limit) (.start buffer.chars) where
  present := rfl
  past := rfl
  future := rfl
  gesture := rfl
  wellFormed := wellFormed_withUndoLimit buffer limit
  capacity := rfl
  varied := List.isChain_singleton _

private theorem loaded (h : Follows limit e t) (text : List Char) :
    Follows limit (e.loaded text) (.start text) where
  present := rfl
  past := rfl
  future := rfl
  gesture := rfl
  wellFormed := h.wellFormed.loaded text
  capacity := h.capacity
  varied := List.isChain_singleton _

private theorem spliced (h : Follows limit e t) {start stop : Nat} {text : List Char}
    (hle : start ≤ stop) (hl : stop ≤ e.length) (hne : (e.spliced start stop text).text ≠ e.text) :
    Follows limit (e.spliced start stop text) (t.splice limit start stop text) := by
  have hsnap := snapshot_spliced text hle hl
  have hwf := h.wellFormed.spliced text hle hl
  have htext : (e.snapshot.splice start stop text).text ≠ e.text := by
    rwa [← hsnap]
  obtain ⟨top, hu, ht⟩ := h.undos_eq
  -- Before the push the newest entry is the state before the edit, which has another text.
  have hbegun : (e.history.beginEdit e.snapshot).undos = e.snapshot :: t.past :=
    History.undos_settle hu ht
  have hrec := h.wellFormed.history.beginEdit (s := e.snapshot) h.wellFormed.within
  have hcap : (e.history.beginEdit e.snapshot).capacity = limit :=
    (History.capacity_settle _ _).trans h.capacity
  have hrep : (e.history.beginEdit e.snapshot).repeatsTop (e.snapshot.splice start stop text) =
      false := by
    rw [Bool.eq_false_iff, ne_eq, History.repeatsTop_cons_iff hbegun]
    exact fun hr ↦ htext hr.2.symm
  have hpush := History.undos_push hrep hrec.depth_pos (by have := hrec.depth_le; omega)
  have hhist := history_spliced text hle hl
  refine ⟨⟨?_, ?_, ?_, rfl⟩, hwf, ?_, ?_⟩
  · rw [hsnap, h.present]
    rfl
  · rw [hhist, History.commit, hpush, hbegun, hcap, h.present]
    rfl
  · rw [hhist, History.commit, History.redos_push]
    rfl
  · rw [hhist, History.commit, History.capacity_push, hcap]
  · refine Timeline.varied_record h.varied ?_
    rw [← h.present]
    exact htext

private theorem pointed (h : Follows limit e t) {op : Operation} {selection : Selection}
    {gesture : Option Nat} (hm : e.snapshot.motion e.anchor op = some (selection, gesture)) :
    Follows limit (e.pointed selection gesture) (t.point selection gesture) := by
  refine ⟨⟨?_, h.past, h.future, rfl⟩, h.wellFormed.pointed hm, h.capacity,
    Timeline.varied_point h.varied⟩
  rw [Timeline.point, ← h.present]
  rfl

private theorem undo (h : Follows limit e t) :
    t.back.2 = .flag (e.travelled (e.history.undo e.snapshot)).2 ∧
      Follows limit (e.travelled (e.history.undo e.snapshot)).1 t.back.1 := by
  obtain ⟨top, hu, _⟩ := h.undos_eq
  cases hp : t.past with
  | nil =>
    have hundo : e.history.undo e.snapshot = (e.history, none) := by
      rw [hp] at hu
      simp only [History.undo, hu]
    have hback : t.back = (t, .flag false) := by rw [Timeline.back, hp]
    rw [hundo, hback]
    exact ⟨rfl, h⟩
  | cons s past =>
    have hundo : e.history.undo e.snapshot =
        ({ e.history with undos := s :: past, redos := e.snapshot :: e.history.redos },
          some s) :=
      History.undo_eq_some_iff.mpr ⟨top, past, hp ▸ hu, rfl⟩
    have hback : t.back = (⟨past, s, t.present :: t.future, none⟩, .flag true) := by
      rw [Timeline.back, hp]
    have hvaried := h.varied
    rw [← Timeline.states_back, hback] at hvaried
    have hwf := Step.undo.wellFormed h.wellFormed
    obtain ⟨hwithin, _⟩ := h.wellFormed.history.undo h.wellFormed.within hundo
    rw [hundo] at hwf ⊢
    rw [hback]
    refine ⟨rfl, ⟨⟨snapshot_restore _ hwithin, rfl, ?_, rfl⟩, hwf, h.capacity, hvaried⟩⟩
    exact congr (congrArg List.cons h.present) h.future

private theorem history_redo (h : Follows limit e t) {s : Snapshot} {future : List Snapshot}
    (hf : t.future = s :: future) :
    ∃ history, e.history.redo e.snapshot = (history, some s) ∧
      history.undos = s :: e.snapshot :: t.past ∧ history.redos = future ∧
      history.capacity = limit := by
  have hredos := h.future.trans hf
  refine ⟨(({ e.history with redos := future } : History).settle e.snapshot).push s, ?_⟩
  have hredo : e.history.redo e.snapshot =
      ((({ e.history with redos := future } : History).settle e.snapshot).push s, some s) :=
    History.redo_eq_some_iff.mpr ⟨future, hredos, rfl⟩
  obtain ⟨top, older, hu, hr, hc, hu'⟩ := h.wellFormed.history.redo_eq (s := e.snapshot) hredo
  have hne : e.snapshot.samePoint s = false := by
    have hne := Timeline.ne_of_varied h.varied hf
    rw [← h.present] at hne
    simp [Snapshot.samePoint, hne.symm]
  have hpast := h.past
  rw [hu, List.tail_cons] at hpast
  rw [hne, hpast] at hu'
  exact ⟨hredo, hu', (List.cons.inj (hr.symm.trans hredos)).2, hc.trans h.capacity⟩

private theorem redo (h : Follows limit e t) :
    t.forward.2 = .flag (e.travelled (e.history.redo e.snapshot)).2 ∧
      Follows limit (e.travelled (e.history.redo e.snapshot)).1 t.forward.1 := by
  cases hf : t.future with
  | nil =>
    have hredo : e.history.redo e.snapshot = (e.history, none) := by
      simp only [History.redo, h.future.trans hf]
    have hforward : t.forward = (t, .flag false) := by rw [Timeline.forward, hf]
    rw [hredo, hforward]
    exact ⟨rfl, h⟩
  | cons s future =>
    obtain ⟨history, hredo, hu, hr, hc⟩ := h.history_redo hf
    have hforward : t.forward = (⟨t.present :: t.past, s, future, none⟩, .flag true) := by
      rw [Timeline.forward, hf]
    have hvaried := h.varied
    rw [← Timeline.states_forward, hforward] at hvaried
    have hwf := Step.redo.wellFormed h.wellFormed
    obtain ⟨hwithin, _⟩ := h.wellFormed.history.redo (s := e.snapshot) h.wellFormed.within hredo
    rw [hredo] at hwf ⊢
    rw [hforward]
    refine ⟨rfl, ⟨⟨snapshot_restore _ hwithin, ?_, hr, rfl⟩, hwf, hc, hvaried⟩⟩
    exact (congrArg List.tail hu).trans (congrArg (· :: t.past) h.present)

/-- A step of an editor is a step of its timeline, if an insertion changes the text. -/
theorem step (h : Follows limit e t) {op : Operation} {after : Editor} {answer : Response}
    (hs : Step e op after answer) (hc : ∀ text, op = .insertText text → after.text ≠ e.text) :
    (t.step limit op).2 = answer ∧ Follows limit after (t.step limit op).1 := by
  cases hs with
  | load text => exact ⟨rfl, h.loaded text⟩
  | insert text =>
    have hsplice := h.spliced e.selection.range_le h.wellFormed.within.range_le (hc text rfl)
    have hsel : e.selection = t.present.selection := congrArg Snapshot.selection h.present
    rw [hsel] at hsplice ⊢
    exact ⟨rfl, hsplice⟩
  | @delete op range hd hlt =>
    obtain ⟨hle, hl⟩ := h.wellFormed.within.deletion_le hd
    have hne : (e.spliced range.1 range.2 []).text ≠ e.text := by
      intro he
      have hlen := Snapshot.length_splice_nil hle hl
      rw [← snapshot_spliced [] hle hl] at hlen
      have := congrArg List.length he
      simp only [Snapshot.length, snapshot] at hlen
      omega
    rw [h.present] at hd
    rw [Timeline.step_of_deletion hd, if_pos hlt]
    exact ⟨rfl, h.spliced hle hl hne⟩
  | deleteNone hd hlt =>
    rw [h.present] at hd
    rw [Timeline.step_of_deletion hd, if_neg hlt]
    exact ⟨rfl, h⟩
  | point hm =>
    have hpoint := h.pointed hm
    rw [h.present, h.gesture] at hm
    rw [Timeline.step_of_motion hm]
    exact ⟨rfl, hpoint⟩
  | undo => exact h.undo
  | redo => exact h.redo
  | save =>
    have hwf := Step.save.wellFormed h.wellFormed
    exact ⟨rfl, ⟨⟨h.present, h.past, h.future, h.gesture⟩, hwf, h.capacity, h.varied⟩⟩
  | ask ha =>
    rw [h.present] at ha
    rw [Timeline.step_of_answer ha]
    exact ⟨rfl, h⟩

/-- A run of an editor is a run of its timeline, if insertions change the text. -/
theorem answerAll (h : Follows limit e t) {ops : List Operation} {after : Editor}
    {answers : List Response}
    (hc : EveryStep (fun e op after ↦ ∀ text, op = .insertText text → after.text ≠ e.text) e ops)
    (hr : (e.answerAll ops).result = .ok (after, answers)) :
    (t.answerAll limit ops).2 = answers ∧ Follows limit after (t.answerAll limit ops).1 := by
  induction ops generalizing e t answers with
  | nil =>
    cases hr
    exact ⟨rfl, h⟩
  | cons op ops ih =>
    rw [result_answerAll_cons] at hr
    obtain ⟨⟨next, answer⟩, hop, hr⟩ := Fault.bind_eq_ok_iff.mp hr
    obtain ⟨⟨last, rest⟩, hrest, hr⟩ := Fault.bind_eq_ok_iff.mp hr
    obtain ⟨rfl, rfl⟩ := Prod.mk.inj (Except.ok.inj hr)
    obtain ⟨hchange, hlater⟩ := hc next answer hop
    obtain ⟨hanswer, hnext⟩ := h.step (apply_step h.wellFormed.within hop) hchange
    obtain ⟨hanswers, hafter⟩ := ih hnext hlater hrest
    exact ⟨congr (congrArg List.cons hanswer) hanswers, hafter⟩

end Follows

/-- Every insertion of a run changes the text. -/
def InsertionsChange (e : Editor) (ops : List Operation) : Prop :=
  EveryStep (fun e op after ↦ ∀ text, op = .insertText text → after.text ≠ e.text) e ops

/-- Undo and redo are a bounded zipper. Whatever is done to a new editor, as long as insertions
change the text, it gives the answers of the timeline of its text and ends in the timeline's
present state, with the past on its undo stack and the future on its redo stack; and it does so
without a fault as long as characters and lines can be counted. -/
theorem answerAll_agrees (buffer : Buffer) (limit : Nat) (ops : List Operation)
    (hc : InsertionsChange (withUndoLimit buffer limit) ops) :
    (∀ e answers, ((withUndoLimit buffer limit).answerAll ops).result = .ok (e, answers) →
      answers = ((Timeline.start buffer.chars).answerAll (max limit 1) ops).2 ∧
        e.Agrees ((Timeline.start buffer.chars).answerAll (max limit 1) ops).1) ∧
    (Throughout Countable (withUndoLimit buffer limit) ops →
      ∃ e answers, ((withUndoLimit buffer limit).answerAll ops).result = .ok (e, answers)) := by
  have hstart := Follows.withUndoLimit buffer limit
  refine ⟨fun e answers hr ↦ ?_, fun hcount ↦ ?_⟩
  · obtain ⟨hanswers, hfollows⟩ := hstart.answerAll hc hr
    exact ⟨hanswers.symm, hfollows.toAgrees⟩
  · obtain ⟨e, he⟩ := hstart.wellFormed.exists_applyAll hcount
    rw [← map_fst_answerAll] at he
    cases hr : ((withUndoLimit buffer limit).answerAll ops).result with
    | error f =>
      rw [hr] at he
      cases he
    | ok p => exact ⟨p.1, p.2, rfl⟩

/-- A replacement that is undone, and redone after a caret motion. -/
theorem answerAll_agrees_replace :
    let e := withUndoLimit (.ofText ['a', 'b']) 3
    let ops := [.selectRange 2 1, .insertText ['x'], .undo, .moveCaret 7 true, .redo]
    InsertionsChange e ops ∧ Throughout Countable e ops ∧
      ∃ e' answers, (e.answerAll ops).result = .ok (e', answers) ∧
        answers = ((Timeline.start ['a', 'b']).answerAll 3 ops).2 ∧
        e'.Agrees ((Timeline.start ['a', 'b']).answerAll 3 ops).1 := by
  intro e ops
  have hc : InsertionsChange e ops := by
    rintro _ _ ⟨⟩
    refine ⟨fun _ h ↦ (by cases h), ?_⟩
    rintro _ _ ⟨⟩
    refine ⟨fun _ _ ↦ (by decide), ?_⟩
    rintro _ _ ⟨⟩
    refine ⟨fun _ h ↦ (by cases h), ?_⟩
    rintro _ _ ⟨⟩
    refine ⟨fun _ h ↦ (by cases h), ?_⟩
    rintro _ _ ⟨⟩
    exact ⟨fun _ h ↦ (by cases h), trivial⟩
  have hcount : Throughout Countable e ops := by
    refine ⟨⟨by decide, by decide⟩, ?_⟩
    rintro _ _ ⟨⟩
    refine ⟨⟨by decide, by decide⟩, ?_⟩
    rintro _ _ ⟨⟩
    refine ⟨⟨by decide, by decide⟩, ?_⟩
    rintro _ _ ⟨⟩
    refine ⟨⟨by decide, by decide⟩, ?_⟩
    rintro _ _ ⟨⟩
    refine ⟨⟨by decide, by decide⟩, ?_⟩
    rintro _ _ ⟨⟩
    exact ⟨⟨by decide, by decide⟩, trivial⟩
  obtain ⟨hagree, hexists⟩ := answerAll_agrees (.ofText ['a', 'b']) 3 ops hc
  obtain ⟨e', answers, hr⟩ := hexists hcount
  exact ⟨hc, hcount, e', answers, hr, hagree e' answers hr⟩

end Editor

end EditBox
