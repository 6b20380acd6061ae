import EditBox.Proofs.Box.Scrolling
import EditBox.Proofs.Editor.Characters
import EditBox.Proofs.Text.Breaks

/-!
# Line feeds

A buffer counts line feeds as line breaks and nothing else, so text from outside has to be
normalized on its way in. A paste does that, and what the keys stand for has no carriage return:
`stores_line_feeds` says that a text without carriage returns stays one as long as none is typed,
and that each line break of a paste begins a line. Typed text is inserted as it is.
-/

namespace EditBox

open EditBox.Box EditBox.Text

namespace Editor

variable {e : Editor}

/-- The text with another one in place of the selection. -/
def replaced (e : Editor) (text : List Char) : List Char :=
  (e.snapshot.splice e.selection.range.1 e.selection.range.2 text).text

private theorem replaced_nil (h : e.hasSelection = false) : e.replaced [] = e.text := by
  have hle := e.selection.range_le
  have hlt := mt e.hasSelection_iff.mpr (Bool.eq_false_iff.mp h)
  have heq : e.selection.range.1 = e.selection.range.2 := by omega
  simp [replaced, Snapshot.splice, heq, snapshot]

/-- Characters are gained as often as they occur in what is put in, and lost as often as they occur
in what it replaces. -/
theorem count_replaced (e : Editor) (text : List Char) (c : Char) :
    (e.replaced text).count c + e.selected.count c = e.text.count c + text.count c := by
  have hle := e.selection.range_le
  have hsplit : e.text = e.text.take e.selection.range.1 ++
      (e.selected ++ e.text.drop e.selection.range.2) := by
    have hrest : e.text.drop e.selection.range.2 =
        (e.text.drop e.selection.range.1).drop
          (e.selection.range.2 - e.selection.range.1) := by
      rw [List.drop_drop, Nat.add_sub_cancel' hle]
    rw [selected, hrest, List.take_append_drop, List.take_append_drop]
  have hcount := congrArg (List.count c) hsplit
  simp only [List.count_append] at hcount
  simp only [replaced, Snapshot.splice, snapshot, List.count_append]
  omega

private theorem mem_replaced_iff {c : Char} (h : c ∉ e.text) {text : List Char} :
    c ∈ e.replaced text ↔ c ∈ text := by
  have htake : c ∉ e.text.take e.selection.range.1 := fun hc ↦ h (List.mem_of_mem_take hc)
  have hdrop : c ∉ e.text.drop e.selection.range.2 := fun hc ↦ h (List.mem_of_mem_drop hc)
  simp [replaced, Snapshot.splice, snapshot, htake, hdrop]

private theorem text_of_insertText (hw : e.snapshot.Within) {text : List Char} {after : Editor}
    (h : (e.insertText text).result = .ok after) : after.text = e.replaced text := by
  rw [result_insertText, insertionRange_eq hw] at h
  cases h
  exact congrArg Snapshot.text (snapshot_spliced text e.selection.range_le hw.range_le)

end Editor

namespace Box

variable {box : Box} {clipboard : Clipboard} {c : Command} {text : List Char}

section Insertions

variable (hw : box.editor.snapshot.Within)
include hw

private theorem text_insertAtCaret {p : Box × Bool} (h : (box.insertAtCaret text).result = .ok p) :
    p.1.editor.text = box.editor.replaced text := by
  rw [insertAtCaret, Run.result_ite] at h
  split at h
  · next hnone =>
    cases h
    simp only [Bool.and_eq_true, List.isEmpty_iff, Bool.not_eq_true'] at hnone
    obtain ⟨rfl, hsel⟩ := hnone
    exact (box.editor.replaced_nil hsel).symm
  · rw [Run.result_bind] at h
    obtain ⟨after, hafter, h⟩ := Fault.bind_eq_ok_iff.mp h
    rw [Run.result_bind] at h
    obtain ⟨-, -, h⟩ := Fault.bind_eq_ok_iff.mp h
    rw [(redrawn_reveal h).editor_eq]
    exact Editor.text_of_insertText hw hafter

private theorem text_paste (hne : clipboard.isEmpty = false) {p : Box × Bool}
    (h : (box.paste clipboard).result = .ok p) :
    p.1.editor.text = box.editor.replaced (normalize clipboard) := by
  rw [paste, Run.result_ite, if_neg (by simp [hne]), Run.result_bind] at h
  obtain ⟨-, -, h⟩ := Fault.bind_eq_ok_iff.mp h
  rw [Run.result_bind] at h
  obtain ⟨after, hafter, h⟩ := Fault.bind_eq_ok_iff.mp h
  rw [(redrawn_reveal h).editor_eq]
  exact Editor.text_of_insertText hw hafter

/-- A command that asks for an insertion puts the text in place of the selection. -/
theorem text_execute (hop : box.edit clipboard c = some (.insertText text))
    {p : Box × Clipboard × Bool} (h : (box.execute clipboard c).result = .ok p) :
    p.1.editor.text = box.editor.replaced text := by
  have kept {r : Run (Box × Bool)} (hr : ∀ q, r.result = .ok q →
      q.1.editor.text = box.editor.replaced text)
      (hp : (keepClipboard clipboard r).result = .ok p) :
      p.1.editor.text = box.editor.replaced text := by
    rw [keepClipboard, Run.result_bind] at hp
    obtain ⟨q, hq, hp⟩ := Fault.bind_eq_ok_iff.mp hp
    cases hp
    exact hr q hq
  cases c with
  | insertText typed =>
    cases hop
    exact kept (fun q hq ↦ text_insertAtCaret hw hq) h
  | newline =>
    cases hop
    exact kept (fun q hq ↦ text_insertAtCaret hw hq) h
  | tab =>
    cases hop
    refine kept (fun q hq ↦ ?_) h
    rw [Run.result_bind, Run.result_liftM, tabText] at hq
    split at hq
    · exact text_insertAtCaret hw hq
    · cases hq
  | paste =>
    rw [edit] at hop
    split at hop
    · cases hop
    · next hne =>
      cases hop
      exact kept (fun q hq ↦ text_paste hw (Bool.eq_false_iff.mpr hne) hq) h
  | backspace word => cases word <;> cases hop
  | deleteForward word => cases word <;> cases hop
  | _ => cases hop

end Insertions

end Box

/-- Characters that an action puts into the text as they are: typed, inserted or loaded. -/
def Action.verbatim : Action → List Char
  | .command (.insertText text) => text
  | .edit op => op.brought
  | _ => []

private theorem Box.cr_notMem_brought {box : Box} {clipboard : Clipboard} {c : Command}
    {op : Editor.Operation} (hop : box.edit clipboard c = some op)
    (h : '\r' ∉ (Action.command c).verbatim) : '\r' ∉ op.brought := by
  cases c with
  | insertText text =>
    cases hop
    exact h
  | newline =>
    cases hop
    decide
  | tab =>
    cases hop
    simp [Editor.Operation.brought]
  | paste =>
    rw [Box.edit] at hop
    split at hop
    · cases hop
    · cases hop
      exact cr_notMem_normalize clipboard
  | backspace word => cases word <;> cases hop <;> exact List.not_mem_nil
  | deleteForward word => cases word <;> cases hop <;> exact List.not_mem_nil
  | deleteRange | cut | undo | redo =>
    cases hop
    exact List.not_mem_nil
  | _ => cases hop

namespace Session

variable {s t : Session} {c : Command} {reply : Reply}

/-- A command that asks for an insertion puts the text in place of the selection. -/
theorem Dispatched.text_eq (hd : s.Dispatched c t reply) (hs : s.Reachable)
    (hheard : s.box.Hears c) {text : List Char}
    (hop : s.box.edit s.clipboard c = some (.insertText text)) :
    t.box.editor.text = s.box.editor.replaced text := by
  obtain ⟨q, hexecute, hredrawn, -⟩ := exists_execute_of_dispatch hheard hd
  rw [show t.box.editor = q.1.editor from hredrawn.editor_eq]
  exact text_execute hs.editor.1.wellFormed.within hop hexecute

/-- A command that asks for an insertion begins a line with each line feed that it puts in, and
loses those of what it replaces. -/
theorem Dispatched.lineCount_eq (hd : s.Dispatched c t reply) (hs : s.Reachable)
    (hheard : s.box.Hears c) {text : List Char}
    (hop : s.box.edit s.clipboard c = some (.insertText text)) :
    t.box.editor.buffer.lineCount + s.box.editor.selected.count '\n' =
      s.box.editor.buffer.lineCount + text.count '\n' := by
  have htext : t.box.editor.buffer.chars = s.box.editor.replaced text := hd.text_eq hs hheard hop
  have hcount := s.box.editor.count_replaced text '\n'
  rw [Editor.text] at hcount
  rw [Buffer.lineCount_eq, Buffer.lineCount_eq, htext]
  omega

/-- An action keeps carriage returns out of the text and its history if it brings in none. -/
theorem lacks_of_act (hs : s.Reachable) {action : Action} {answer : Answer}
    (h : (s.act action).result = .ok (t, answer)) (hv : '\r' ∉ action.verbatim)
    (hl : s.box.editor.Lacks '\r') : t.box.editor.Lacks '\r' := by
  have hwithin := hs.editor.1.wellFormed.within
  rcases editor_of_act hs.editor.2 h with ⟨c, reply, rfl, hd⟩ | ⟨op, response, rfl, ha⟩ | heq
  · have hdispatches := Dispatched.dispatches hd hs
    obtain ⟨box', clipboard'⟩ := t
    cases hdispatches with
    | ignore => exact hl
    | act hheard he =>
      have htext : box'.editor.text = s.box.editor.text := congrArg Buffer.chars he.buffer_eq
      exact ⟨htext ▸ hl.text, he.history_eq ▸ hl.history⟩
    | edit hheard hop he hlimit =>
      obtain ⟨ha, -, hr⟩ := he
      have hafter := (Editor.apply_step hwithin ha).lacks hwithin (cr_notMem_brought hop hv) hl
      exact hr.editor_eq ▸ hafter
  · exact (Editor.apply_step hwithin ha).lacks hwithin hv hl
  · exact heq ▸ hl

private theorem Reachable.ask (hs : s.Reachable) {q : Query} {box : Box} {answer : Answer}
    (h : (s.box.ask q).result = .ok (box, answer)) : Reachable { s with box := box } := by
  have hact : (s.act (.ask q)).result = .ok ({ s with box := box }, answer) := by
    rw [Session.act, Run.result_bind, h]
    rfl
  exact hs.act hact

/-- A run keeps carriage returns out of the text and its history if no action brings one in. -/
theorem lacks_of_run (hs : s.Reachable) {steps : List (Query ⊕ Action)} {answers : List Answer}
    (h : (s.run steps).result = .ok (t, answers))
    (hv : ∀ action, .inr action ∈ steps → '\r' ∉ action.verbatim)
    (hl : s.box.editor.Lacks '\r') : t.box.editor.Lacks '\r' := by
  induction steps generalizing s answers with
  | nil =>
    cases h
    exact hl
  | cons step steps ih =>
    have hrest : ∀ action, .inr action ∈ steps → '\r' ∉ action.verbatim := fun action ha ↦
      hv action (List.mem_cons_of_mem step ha)
    cases step with
    | inl q =>
      rw [run, Run.result_bind] at h
      obtain ⟨⟨box, answer⟩, hask, h⟩ := Fault.bind_eq_ok_iff.mp h
      obtain ⟨layout, hlaid, -, -⟩ := hs.editor.2.of_ask hask
      exact ih (s := { s with box := box }) (hs.ask hask) h hrest (hlaid ▸ hl)
    | inr action =>
      rw [run, Run.result_bind] at h
      obtain ⟨⟨next, answer⟩, hact, h⟩ := Fault.bind_eq_ok_iff.mp h
      rw [Run.result_bind] at h
      obtain ⟨⟨last, rest⟩, hlast, h⟩ := Fault.bind_eq_ok_iff.mp h
      cases h
      have hnext := lacks_of_act hs hact (hv action (List.mem_cons_self ..)) hl
      exact ih (hs.act hact) hlast hrest hnext

/-- A text without carriage returns stays one, and so does everything that undoing and redoing may
restore, through any run that types, inserts and loads none, so its line breaks are those that the
buffer counts. Whatever the clipboard holds, a paste then adds as many lines as there are line
breaks in it, of any style, less those of what it replaces. Typed text is inserted as it is: a
carriage return in it reaches the text, and those that are breaks of their own begin no line. -/
theorem stores_line_feeds {buffer : Buffer} {view : View} {options : Options}
    {clipboard : Clipboard} {steps : List (Query ⊕ Action)} {answers : List Answer}
    (hbuffer : '\r' ∉ buffer.chars)
    (hsteps : ∀ action, .inr action ∈ steps → '\r' ∉ action.verbatim)
    (hr : ((start buffer view options clipboard).run steps).result = .ok (s, answers)) :
    s.box.editor.Lacks '\r' ∧
    s.box.editor.buffer.lineCount = (lineBreaks s.box.editor.text).length + 1 ∧
    (∀ t reply, s.Dispatched .paste t reply → s.box.focused = true → s.clipboard ≠ [] →
      t.box.editor.text = s.box.editor.replaced (normalize s.clipboard) ∧
      t.box.editor.buffer.lineCount + (lineBreaks s.box.editor.selected).length =
        s.box.editor.buffer.lineCount + (lineBreaks s.clipboard).length) ∧
    ∀ text t reply, s.Dispatched (.insertText text) t reply → s.box.focused = true →
      ('\r' ∈ t.box.editor.text ↔ '\r' ∈ text) ∧
      t.box.editor.buffer.lineCount + (lineBreaks s.box.editor.selected).length +
          (lineBreaks text).count .cr =
        s.box.editor.buffer.lineCount + (lineBreaks text).length := by
  have hs : s.Reachable := ⟨buffer, view, options, clipboard, steps, answers, hr⟩
  have hstart : (start buffer view options clipboard).Reachable :=
    ⟨buffer, view, options, clipboard, [], [], rfl⟩
  have hlacks : s.box.editor.Lacks '\r' :=
    lacks_of_run hstart hr hsteps (Editor.lacks_withUndoLimit hbuffer options.undoLimit)
  have hselected : (lineBreaks s.box.editor.selected).length =
      s.box.editor.selected.count '\n' :=
    length_lineBreaks_of_cr_notMem fun hmem ↦
      hlacks.text (List.mem_of_mem_drop (List.mem_of_mem_take hmem))
  refine ⟨hlacks, ?_, ?_, ?_⟩
  · rw [length_lineBreaks_of_cr_notMem hlacks.text]
    exact Buffer.lineCount_eq _
  · intro t reply hd hfocused hne
    have hop : s.box.edit s.clipboard .paste = some (.insertText (normalize s.clipboard)) :=
      if_neg (by simp [hne])
    have hlines := hd.lineCount_eq hs (fun _ ↦ hfocused) hop
    rw [count_normalize] at hlines
    exact ⟨hd.text_eq hs (fun _ ↦ hfocused) hop, by omega⟩
  · intro text t reply hd hfocused
    have htext := hd.text_eq hs (fun _ ↦ hfocused) rfl
    have hlines := hd.lineCount_eq hs (fun _ ↦ hfocused) rfl
    have hbreaks := length_lineBreaks text
    constructor
    · rw [htext, Editor.mem_replaced_iff hlacks.text]
    · omega

/-- A clipboard with a break of each style, pasted, undone and pasted again before two characters:
the one line becomes four. -/
theorem stores_line_feeds_paste :
    let origin := start (.ofText "ab".toList) (.unscrolled 120 100 0 0)
      ⟨200, 500, 4, 3, 1, 530, ⟨4, 10⟩⟩ "x\r\ny\rz\nw".toList
    let steps := [.inr (.command .paste), .inr (.command .undo)]
    ∃ s t answers reply, (origin.run steps).result = .ok (s, answers) ∧
      s.Dispatched .paste t reply ∧ s.box.editor.Lacks '\r' ∧
      t.box.editor.buffer.lineCount = 4 := by
  intro origin steps
  have hcheck : (origin.run steps).result.toOption.any (fun p ↦
      (p.1.box.focused && p.1.clipboard == origin.clipboard && p.1.box.editor.selected == [] &&
        p.1.box.editor.buffer.lineCount == 1) &&
        (p.1.box.dispatch p.1.clipboard .paste).result.toOption.any fun _ ↦ true) = true := by
    decide +kernel
  obtain ⟨⟨s, answers⟩, hrun, hcheck⟩ := exists_of_any hcheck
  simp only [Bool.and_eq_true, beq_iff_eq] at hcheck
  obtain ⟨⟨⟨⟨hfocused, hclipboard⟩, hselected⟩, hone⟩, hpaste⟩ := hcheck
  obtain ⟨⟨box, clipboard, reply⟩, hpaste, -⟩ := exists_of_any hpaste
  have hd : s.Dispatched .paste ⟨box, clipboard⟩ reply := hpaste
  have hsteps : ∀ action, .inr action ∈ steps → '\r' ∉ action.verbatim := by
    simp [steps, Action.verbatim]
  obtain ⟨hlacks, -, hlines, -⟩ := stores_line_feeds (by decide) hsteps hrun
  obtain ⟨-, hlines⟩ := hlines _ _ hd hfocused (by rw [hclipboard]; decide)
  rw [hclipboard, hselected, hone] at hlines
  exact ⟨s, ⟨box, clipboard⟩, answers, reply, hrun, hd, hlacks, hlines⟩

/-- Not every run of commands keeps carriage returns out: one that is typed is inserted as it is. -/
theorem not_forall_stores_line_feeds :
    ¬ ∀ (buffer : Buffer) view options clipboard (commands : List Command) s answers,
      '\r' ∉ buffer.chars →
      ((start buffer view options clipboard).run
        (commands.map fun c ↦ .inr (.command c))).result = .ok (s, answers) →
      '\r' ∉ s.box.editor.text := by
  intro hall
  let origin := start (.ofText []) (.unscrolled 120 100 0 0)
    ⟨200, 500, 4, 3, 1, 530, ⟨4, 10⟩⟩ []
  have hcheck : (origin.run [.inr (.command (.insertText "a\rb".toList))]).result.toOption.any
      (fun p ↦ p.1.box.editor.text == "a\rb".toList) = true := by
    decide +kernel
  obtain ⟨⟨s, answers⟩, hrun, htext⟩ := exists_of_any hcheck
  have htext : s.box.editor.text = "a\rb".toList := beq_iff_eq.mp htext
  have hlacks := hall _ _ _ _ [.insertText "a\rb".toList] s answers (by decide) hrun
  rw [htext] at hlacks
  exact hlacks (by decide)

end Session

end EditBox
