import EditBox.Proofs.Box.Effect

/-!
# Replies

A host draws a box again when the reply to a command says that something visible changed, and saves
the text when it says that the text did. `reply_truthful` says that it may rely on both: a clean
reply means that everything visible is as before, and a reply without a change of the text that the
text and both stacks of its history are. A command that asks for nothing (`AsksNothing`) gets a
reply of the second kind. What a command made of the box is told apart by `Dispatches`.
-/

namespace EditBox

open EditBox.Box EditBox.Text

namespace Box

variable {box box' : Box} {clipboard : Clipboard} {c : Command} {dirty : Bool}

/-- Everything visible of two boxes is the same: text, caret, selection, scroll and focus. -/
structure LooksLike (box box' : Box) : Prop where
  text_eq : box'.editor.text = box.editor.text
  caret_eq : box'.editor.caret = box.editor.caret
  selection_eq : box'.editor.selection = box.editor.selection
  scroll_eq : box'.view.scroll = box.view.scroll
  focused_eq : box'.focused = box.focused

/-- A box looks like itself. -/
theorem LooksLike.refl (box : Box) : box.LooksLike box := ⟨rfl, rfl, rfl, rfl, rfl⟩

/-- Whether a command is not ignored for want of the focus. -/
def Hears (box : Box) (c : Command) : Prop := c.needsFocus = true → box.focused = true

/-- A command is not ignored if the check of the focus lets it through. -/
theorem hears_iff : box.Hears c ↔ ¬ (c.needsFocus && !box.focused) = true := by
  cases hn : c.needsFocus <;> cases hf : box.focused <;> simp [Hears, hn, hf]

/-- Apart from the reply, a command that is not ignored does what it does focus or not, and then the
box may be redrawn. -/
theorem exists_execute_of_dispatch (hheard : box.Hears c) {p : Box × Clipboard × Reply}
    (h : (box.dispatch clipboard c).result = .ok p) :
    ∃ q, (box.execute clipboard c).result = .ok q ∧ q.1.Redrawn p.1 ∧ p.2.1 = q.2.1 := by
  rw [dispatch, Run.result_ite, if_neg (hears_iff.mp hheard), Run.result_bind] at h
  obtain ⟨⟨box', clipboard', dirty⟩, hexecute, h⟩ := Fault.bind_eq_ok_iff.mp h
  refine ⟨_, hexecute, ?_⟩
  dsimp only at h
  split at h
  · rw [Run.result_bind] at h
    obtain ⟨clamped, hclamped, h⟩ := Fault.bind_eq_ok_iff.mp h
    cases h
    exact ⟨redrawn_clampScroll hclamped, rfl⟩
  · cases h
    exact ⟨box'.redrawn box'.layout box'.view, rfl⟩

/-- The edit that a command asks for, if any, would leave the buffer alone. -/
def Ineffective (box : Box) (clipboard : Clipboard) (c : Command) : Prop :=
  ∀ op after answer, box.edit clipboard c = some op →
    (box.editor.apply op).result = .ok (after, answer) → after.buffer = box.editor.buffer

/-- Commands that ask for no change of the text as things stand: nothing pasted, no characters typed
over no characters (a tab may be set to no spaces), and the deletion of an empty range. -/
inductive AsksNothing (box : Box) (clipboard : Clipboard) (c : Command) : Prop where
  | paste (hpaste : c = .paste) (hnil : clipboard = [])
  | insert (hop : box.edit clipboard c = some (.insertText []))
      (hsel : box.editor.hasSelection = false)
  | delete {op : Editor.Operation} {range : Nat × Nat} (hop : box.edit clipboard c = some op)
      (hd : box.editor.snapshot.deletion op = some range) (hr : range.2 ≤ range.1)

/-- Only copying and cutting change the clipboard, and only while something is selected. -/
theorem clipboardAfter_eq (clipboard : Clipboard) (h : box.Hears c) :
    box.clipboardAfter clipboard c =
      if (c = .copy ∨ c = .cut) ∧ box.focused = true ∧ box.editor.hasSelection = true then
        box.editor.selected
      else clipboard := by
  cases c with
  | copy => simp [clipboardAfter, h rfl]
  | cut => simp [clipboardAfter, h rfl]
  | _ => simp [clipboardAfter]

/-- What a command made of a box and the clipboard, and the reply to it. -/
inductive Dispatches (box : Box) (clipboard : Clipboard) (c : Command) :
    Box × Clipboard × Reply → Prop where
  | ignore (h : ¬ box.Hears c) : Dispatches box clipboard c (box, clipboard, ⟨false, false⟩)
  | act {box' : Box} {dirty : Bool} (h : box.Hears c) (he : box.Effect c box' dirty) :
      Dispatches box clipboard c (box', box.clipboardAfter clipboard c, ⟨dirty, false⟩)
  /-- After an edit the scroll is brought down to what the new rows allow. -/
  | edit {op : Editor.Operation} {revealed : Box} {limit : Nat} (h : box.Hears c)
      (hop : box.edit clipboard c = some op) (he : box.Edits op revealed)
      (hlimit : revealed.view.maxScroll revealed.layout.rowCount revealed.layout.lineHeight =
        .ok limit) :
      Dispatches box clipboard c
        (revealed.scrolled (min revealed.view.scroll limit), box.clipboardAfter clipboard c,
          ⟨true, true⟩)

namespace Effect

/-- The buffer is left alone. -/
theorem buffer_eq (h : box.Effect c box' dirty) : box'.editor.buffer = box.editor.buffer := by
  cases h with
  | rest => rfl
  | point ho ha hb hh hr =>
    cases hr
    exact hb
  | selectAll => rfl
  | scroll ho he => rw [ho.editor_eq]
  | defocus => rfl
  | focus => rfl

/-- The history is left alone. -/
theorem history_eq (h : box.Effect c box' dirty) : box'.editor.history = box.editor.history := by
  cases h with
  | rest => rfl
  | point ho ha hb hh hr =>
    cases hr
    exact hh
  | selectAll => rfl
  | scroll ho he => rw [ho.editor_eq]
  | defocus => rfl
  | focus => rfl

/-- Everything visible is left alone if nothing visible is said to have changed. -/
theorem looksLike (h : box.Effect c box' dirty) (hw : box.editor.WellFormed)
    (hd : dirty = false) : box.LooksLike box' := by
  cases h with
  | rest => exact ⟨rfl, rfl, rfl, rfl, rfl⟩
  | point => cases hd
  | selectAll => cases hd
  | scroll ho he =>
    rw [bne_eq_false_iff_eq] at hd
    have heditor := ho.editor_eq
    exact ⟨by rw [heditor], by rw [heditor], by rw [heditor], hd, he⟩
  | defocus pointer =>
    -- An empty selection lies at the caret, so dropping it changes nothing.
    rw [Bool.or_eq_false_iff] at hd
    obtain ⟨hsel, hfocused⟩ := hd
    have hcaret := Editor.clampOffset_caret hw.within
    have hends := hw.within.selection_caret
    have hempty : box.editor.selection.anchor = box.editor.selection.caret :=
      box.editor.selection.isEmpty_iff.mp (by simpa [Editor.hasSelection] using hsel)
    refine ⟨rfl, hcaret, ?_, rfl, hfocused.symm⟩
    change Selection.mk (box.editor.clampOffset box.editor.caret) _ = _
    rw [hcaret]
    change box.editor.selection.caret = box.editor.caret at hends
    rw [← hends]
    cases hselection : box.editor.selection with
    | mk anchor caret =>
      rw [hselection] at hempty
      cases hempty
      rfl
  | focus =>
    exact ⟨rfl, rfl, rfl, rfl, by simpa using hd.symm⟩

end Effect

private theorem Edits.revision_lt {op : Editor.Operation} (h : box.Edits op box') :
    box.editor.buffer.revision < box'.editor.buffer.revision := by
  obtain ⟨ha, hlt, hr⟩ := h
  cases hr
  exact hlt

/-- A box whose caret was scrolled into view is laid out. -/
theorem Revealed.current (h : box.Revealed box') : box'.Current := by
  obtain ⟨hcurrent, hplace, hview⟩ := h
  obtain ⟨scroll, rfl⟩ := View.exists_scroll_of_ensureVisible hview
  exact hcurrent.of_buffer_eq rfl scroll

/-- A laid out box has its scroll brought down to what its rows allow. -/
theorem Current.of_clampScroll (h : box.Current) (hc : box.clampScroll.result = .ok box') :
    ∃ limit, box.view.maxScroll box.layout.rowCount box.layout.lineHeight = .ok limit ∧
      box' = box.scrolled (min box.view.scroll limit) := by
  rw [clampScroll, Run.result_bind, h.result_ensureLayout, Fault.ok_bind, Run.result_bind,
    Run.result_liftM] at hc
  obtain ⟨limit, hlimit, hc⟩ := Fault.bind_eq_ok_iff.mp hc
  cases hc
  exact ⟨limit, hlimit, rfl⟩

/-- A command is ignored, acts on the box, or edits the text. -/
theorem dispatches (hw : box.editor.WellFormed) (hs : box.Sound) {p : Box × Clipboard × Reply}
    (h : (box.dispatch clipboard c).result = .ok p) : box.Dispatches clipboard c p := by
  rw [dispatch, Run.result_ite] at h
  split at h
  · next hignored =>
    cases h
    exact .ignore fun hheard ↦ hears_iff.mp hheard hignored
  · next hheard =>
    have hheard := hears_iff.mpr hheard
    rw [Run.result_bind] at h
    obtain ⟨⟨box', clipboard', dirty⟩, hexecute, h⟩ := Fault.bind_eq_ok_iff.mp h
    obtain ⟨hacts, hclipboard⟩ := executes hw hs clipboard hexecute
    dsimp only at hacts hclipboard
    obtain rfl := hclipboard
    rcases hacts with ⟨rfl, op, hop, hedits⟩ | heffect
    · have hchanged : (box'.editor.buffer.revision != box.editor.buffer.revision) = true :=
        bne_iff_ne.mpr (Nat.ne_of_gt hedits.revision_lt)
      have hcurrent : box'.Current := by
        obtain ⟨-, -, hr⟩ := hedits
        exact hr.current
      simp only [hchanged, if_true, Run.result_bind] at h
      obtain ⟨box'', hclamp, h⟩ := Fault.bind_eq_ok_iff.mp h
      obtain ⟨limit, hlimit, rfl⟩ := hcurrent.of_clampScroll hclamp
      cases h
      exact .edit hheard hop hedits hlimit
    · have hkept : (box'.editor.buffer.revision != box.editor.buffer.revision) = false :=
        bne_eq_false_iff_eq.mpr (congrArg Buffer.revision heffect.buffer_eq)
      simp only [hkept, Bool.false_eq_true, if_false, pure_bind, Bool.or_false,
        Run.result_bind] at h
      cases h
      exact .act hheard heffect

section Ineffective

private theorem ineffective_paste_nil (box : Box) : box.Ineffective [] .paste := by
  rintro op after answer ⟨⟩

variable (hw : box.editor.WellFormed)
include hw

private theorem ineffective_of_insert (hop : box.edit clipboard c = some (.insertText []))
    (hsel : box.editor.hasSelection = false) : box.Ineffective clipboard c := by
  intro op after answer hop' ha
  obtain rfl := Option.some.inj (hop.symm.trans hop')
  have hempty : box.editor.selection.range.1 = box.editor.selection.range.2 := by
    have hle := box.editor.selection.range_le
    have hlt := mt box.editor.hasSelection_iff.mpr (Bool.eq_false_iff.mp hsel)
    omega
  rw [Editor.apply, Run.result_bind, Editor.result_insertText,
    Editor.insertionRange_eq hw.within] at ha
  cases ha
  change box.editor.buffer.splice _ _ [] = _
  rw [Buffer.splice, if_pos rfl, if_pos hempty]

private theorem ineffective_of_deletion {op : Editor.Operation} {range : Nat × Nat}
    (hop : box.edit clipboard c = some op) (hd : box.editor.snapshot.deletion op = some range)
    (hr : range.2 ≤ range.1) : box.Ineffective clipboard c := by
  intro op' after answer hop' ha
  obtain rfl := Option.some.inj (hop.symm.trans hop')
  cases Editor.apply_step hw.within ha with
  | load => cases hd
  | insert => cases hd
  | delete hd' hlt =>
    obtain rfl := Option.some.inj (hd.symm.trans hd')
    omega
  | deleteNone => rfl
  | point => rfl
  | undo => cases hd
  | redo => cases hd
  | save => rfl
  | ask => rfl

/-- What asks for nothing leaves the buffer alone. -/
theorem AsksNothing.ineffective (h : box.AsksNothing clipboard c) :
    box.Ineffective clipboard c := by
  cases h with
  | paste hpaste hnil =>
    subst hpaste hnil
    exact ineffective_paste_nil box
  | insert hop hsel => exact ineffective_of_insert hw hop hsel
  | delete hop hd hr => exact ineffective_of_deletion hw hop hd hr

end Ineffective

end Box

namespace Session

variable {s t : Session} {c : Command} {reply : Reply}

/-- A command leads from one session to another and gets a reply. -/
def Dispatched (s : Session) (c : Command) (t : Session) (reply : Reply) : Prop :=
  (s.box.dispatch s.clipboard c).result = .ok (t.box, t.clipboard, reply)

/-- A command to a reachable session is ignored, acts on the box, or edits the text. -/
theorem Dispatched.dispatches (h : s.Dispatched c t reply) (hs : s.Reachable) :
    s.box.Dispatches s.clipboard c (t.box, t.clipboard, reply) :=
  Box.dispatches hs.editor.1.wellFormed hs.editor.2 h

/-- The reply to a command is truthful. If it is clean, everything visible is as before. If it does
not report a change of the text, the buffer is as before with its count of changes, and so are both
stacks of the history; an ineffective edit is not reported, so it costs no redo, and whatever asks
for nothing is ineffective. If it does, the change was counted and the reply is not clean. And the
clipboard is as before unless characters were copied or cut, which then are in it. -/
theorem reply_truthful (hs : s.Reachable) (h : s.Dispatched c t reply) :
    (reply.dirty = false → s.box.LooksLike t.box) ∧
    (reply.textChanged = false → t.box.editor.buffer = s.box.editor.buffer ∧
      t.box.editor.history = s.box.editor.history) ∧
    (s.box.Ineffective s.clipboard c → reply.textChanged = false) ∧
    (s.box.AsksNothing s.clipboard c → s.box.Ineffective s.clipboard c) ∧
    (reply.textChanged = true → reply.dirty = true ∧
      s.box.editor.buffer.revision < t.box.editor.buffer.revision) ∧
    t.clipboard =
      if (c = .copy ∨ c = .cut) ∧ s.box.focused = true ∧ s.box.editor.hasSelection = true then
        s.box.editor.selected
      else s.clipboard := by
  have hwellFormed := hs.editor.1.wellFormed
  have hdispatches := h.dispatches hs
  have hnothing : s.box.AsksNothing s.clipboard c → s.box.Ineffective s.clipboard c :=
    Box.AsksNothing.ineffective hwellFormed
  obtain ⟨box', clipboard'⟩ := t
  cases hdispatches with
  | ignore hunheard =>
    have hcond : ¬ ((c = .copy ∨ c = .cut) ∧ s.box.focused = true ∧
        s.box.editor.hasSelection = true) := fun hc ↦ hunheard fun _ ↦ hc.2.1
    exact ⟨fun _ ↦ .refl s.box, fun _ ↦ ⟨rfl, rfl⟩, fun _ ↦ rfl, hnothing,
      fun hc ↦ (by cases hc), (if_neg hcond).symm⟩
  | act hheard he =>
    exact ⟨he.looksLike hwellFormed, fun _ ↦ ⟨he.buffer_eq, he.history_eq⟩, fun _ ↦ rfl,
      hnothing, fun hc ↦ (by cases hc), clipboardAfter_eq s.clipboard hheard⟩
  | edit hheard hop he hlimit =>
    refine ⟨fun hc ↦ (by cases hc), fun hc ↦ (by cases hc), fun hi ↦ ?_, hnothing,
      fun _ ↦ ⟨rfl, he.revision_lt⟩, clipboardAfter_eq s.clipboard hheard⟩
    obtain ⟨ha, hlt, -⟩ := he
    rw [hi _ _ _ hop ha] at hlt
    exact absurd hlt (Nat.lt_irrefl _)

/-- A tab of no spaces is typed after an undo. It asks for nothing, the reply is clean, and what was
undone can still be redone. -/
theorem reply_truthful_tab :
    let origin := start (.ofText []) (.unscrolled 120 100 0 0) ⟨200, 500, 0, 3, 1, 530, ⟨4, 10⟩⟩ []
    let steps := [.inr (.command (.insertText ['a'])), .inr (.command .undo)]
    ∃ s t answers, (origin.run steps).result = .ok (s, answers) ∧
      s.box.AsksNothing s.clipboard .tab ∧ s.box.Ineffective s.clipboard .tab ∧
      s.Dispatched .tab t ⟨false, false⟩ ∧ s.box.LooksLike t.box ∧
      t.box.editor.history.redoDepth = 1 := by
  intro origin steps
  have hcheck : (origin.run steps).result.toOption.any (fun p ↦
      p.1.box.editor.history.redoDepth == 1 &&
        (p.1.box.options.tabSpaces == 0 && p.1.box.editor.hasSelection == false) &&
        (p.1.box.dispatch p.1.clipboard .tab).result.toOption.any fun q ↦
          q.2.2 == ⟨false, false⟩) = true := by
    decide +kernel
  obtain ⟨⟨s, answers⟩, hrun, hcheck⟩ := exists_of_any hcheck
  simp only [Bool.and_eq_true, beq_iff_eq] at hcheck
  obtain ⟨⟨hdepth, hspaces, hsel⟩, hcheck⟩ := hcheck
  obtain ⟨⟨box, clipboard, reply⟩, hd, hreply⟩ := exists_of_any hcheck
  obtain rfl : reply = ⟨false, false⟩ := beq_iff_eq.mp hreply
  have hdispatched : s.Dispatched .tab ⟨box, clipboard⟩ ⟨false, false⟩ := hd
  have hnothing : s.box.AsksNothing s.clipboard .tab := by
    refine .insert ?_ hsel
    rw [Box.edit, hspaces]
    rfl
  obtain ⟨hclean, hkept, -, hineffective, -⟩ :=
    reply_truthful ⟨_, _, _, _, steps, answers, hrun⟩ hdispatched
  refine ⟨s, ⟨box, clipboard⟩, answers, hrun, hnothing, hineffective hnothing, hdispatched,
    hclean rfl, ?_⟩
  rw [(hkept rfl).2]
  exact hdepth

end Session

end EditBox
