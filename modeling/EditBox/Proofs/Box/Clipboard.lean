import EditBox.Proofs.Box.Faultless

/-!
# Cutting, copying and pasting

Cutting and pasting both put a text in place of a range and scroll to the caret, as `Replaces` says.
What was taken comes back by a paste: `Took` says that a paste after a cut puts the same text at the
same place as one over the selection that was copied, and `paste_restores` that this leaves the text
as it was.
-/

namespace EditBox

open EditBox.Box EditBox.Layout EditBox.Text

private theorem Editor.selected_ne_nil {e : Editor} (hw : e.WellFormed)
    (h : e.hasSelection = true) :
    e.selected ≠ [] := by
  have hlt := e.hasSelection_iff.mp h
  have hle : e.selection.range.2 ≤ e.text.length := hw.within.range_le
  apply List.ne_nil_of_length_pos
  rw [selected, List.length_take, List.length_drop]
  omega

namespace Box

variable {box box' : Box} {clipboard clipboard' : Clipboard} {c : Command} {range : Nat × Nat}
  {text : List Char}

/-- A box with a text in place of a range, not yet laid out. -/
def respliced (box : Box) (range : Nat × Nat) (text : List Char) : Box :=
  { box with editor := box.editor.spliced range.1 range.2 text }

/-- The state of a box with a text in place of a range. -/
theorem snapshot_respliced (hle : range.1 ≤ range.2) (hl : range.2 ≤ box.editor.length) :
    (box.respliced range text).editor.snapshot =
      box.editor.snapshot.splice range.1 range.2 text :=
  Editor.snapshot_spliced text hle hl

/-- A command puts a text in place of a range, scrolls to the caret, and leaves a clipboard. -/
def Replaces (box : Box) (clipboard : Clipboard) (c : Command) (range : Nat × Nat)
    (text : List Char) (clipboard' : Clipboard) : Prop :=
  (box.execute clipboard c).result = do
    let (revealed, dirty) ← (box.respliced range text).reveal.result
    return (revealed, clipboard', dirty)

private theorem result_execute_copy (hw : box.editor.WellFormed)
    (hsel : box.editor.hasSelection = true) :
    (box.execute clipboard .copy).result = .ok (box, box.editor.selected, false) := by
  rw [execute, copy, Run.result_bind, Run.result_liftM, selectedText_eq hw, if_pos hsel]
  rfl

/-- Cutting a selection takes it out and fills the clipboard with it. -/
theorem replaces_cut (hw : box.editor.WellFormed) (hsel : box.editor.hasSelection = true) :
    box.Replaces clipboard .cut box.editor.selection.range [] box.editor.selected := by
  have hlt := box.editor.hasSelection_iff.mp hsel
  have hdeleted := Editor.result_deleteSelection hw.within
  rw [Editor.deleted, if_pos hlt] at hdeleted
  rw [Replaces, execute, cut, Run.result_bind, Run.result_liftM, selectedText_eq hw, if_pos hsel,
    Fault.ok_bind]
  simp only [reportCommand, Run.result_bind, Run.result_report, hdeleted, Fault.ok_bind]
  rfl

/-- Pasting puts the clipboard, normalized, in place of the selection. -/
theorem replaces_paste (hw : box.editor.WellFormed) (hne : clipboard ≠ []) :
    box.Replaces clipboard .paste box.editor.selection.range (normalize clipboard) clipboard := by
  have hempty : clipboard.isEmpty = false := by simpa using hne
  rw [Replaces, execute, keepClipboard, Run.result_bind, paste, hempty]
  simp only [Bool.false_eq_true, if_false, reportCommand, Run.result_bind, Run.result_report,
    Editor.result_insertText, Editor.insertionRange_eq hw.within, Fault.ok_bind]
  rfl

namespace Replaces

variable (h : box.Replaces clipboard c range text clipboard') (hs : box.Sound)
  (hf : box.focused = true) (hchange : range.1 ≠ range.2 ∨ text ≠ [])

private theorem revision_lt (hchange : range.1 ≠ range.2 ∨ text ≠ []) :
    box.editor.buffer.revision < (box.respliced range text).editor.buffer.revision :=
  Buffer.revision_lt_splice _ hchange

include hs hchange in
/-- After a replacement the box is to be laid out anew. -/
theorem sound : (box.respliced range text).Sound :=
  hs.of_comesFrom (.inr (revision_lt hchange)) box.view box.pointer box.focused

include h hs hf hchange

/-- A command that replaces a range scrolls to the caret and then brings the scroll within the
rows. -/
theorem result_dispatch :
    (box.dispatch clipboard c).result = do
      let (revealed, _) ← (box.respliced range text).reveal.result
      let clamped ← revealed.clampScroll.result
      return (clamped, clipboard', ⟨true, true⟩) := by
  cases hr : (box.respliced range text).reveal.result with
  | error f =>
    have hfocus : (c.needsFocus && !box.focused) = false := by simp [hf]
    have hx : (box.execute clipboard c).result = .error f := by
      rw [h, hr]
      rfl
    simp only [dispatch, hfocus, Bool.false_eq_true, if_false, Run.result_bind, hx,
      Fault.error_bind]
  | ok p =>
    obtain ⟨revealed, dirty⟩ := p
    have hx : (box.execute clipboard c).result = .ok (revealed, clipboard', dirty) := by
      rw [h, hr]
      rfl
    obtain ⟨hrevealed, -⟩ := (sound hs hchange).revealed hr
    have hlt : box.editor.buffer.revision < revealed.editor.buffer.revision := by
      rw [hrevealed.editor_eq]
      exact revision_lt hchange
    rw [result_dispatch_of_edited hf hx hlt]
    rfl

/-- What a command that replaces a range makes of a box. -/
theorem of_dispatch {p : Box × Clipboard × Reply} (hp : (box.dispatch clipboard c).result = .ok p) :
    (box.respliced range text).SameRows p.1 ∧
      p.1.editor = (box.respliced range text).editor ∧ p.1.focused = true ∧
      p.2.1 = clipboard' := by
  rw [h.result_dispatch hs hf hchange] at hp
  obtain ⟨⟨revealed, dirty⟩, hr, hp⟩ := Fault.bind_eq_ok_iff.mp hp
  obtain ⟨clamped, hclamp, hp⟩ := Fault.bind_eq_ok_iff.mp hp
  cases hp
  obtain ⟨hrevealed, -⟩ := (sound hs hchange).revealed hr
  obtain ⟨limit, -, rfl⟩ := hrevealed.current.of_clampScroll hclamp
  have hfocused : revealed.focused = box.focused := by
    cases hrevealed
    rfl
  exact ⟨hrevealed.sameRows.trans (revealed.sameRows_scrolled _), hrevealed.editor_eq,
    hfocused.trans hf, rfl⟩

/-- A command that replaces a range of the text is carried out if the text can be drawn
afterwards. -/
theorem succeeds_dispatch (hle : range.1 ≤ range.2) (hl : range.2 ≤ box.editor.length)
    (hdraw : (box.respliced range text).Drawable) : Succeeds (box.dispatch clipboard c) := by
  have hwithin : (box.respliced range text).editor.snapshot.Within := by
    rw [snapshot_respliced hle hl]
    exact Snapshot.Within.splice text (Nat.le_trans hle hl)
  obtain ⟨⟨revealed, dirty⟩, hr⟩ := hdraw.succeeds_reveal (sound hs hchange) hwithin.caret_le
  obtain ⟨hrevealed, -⟩ := (sound hs hchange).revealed hr
  obtain ⟨clamped, hclamp⟩ :=
    hrevealed.current.succeeds_clampScroll (hdraw.fits.congr hrevealed.sameRows)
  refine ⟨(clamped, clipboard', ⟨true, true⟩), ?_⟩
  rw [h.result_dispatch hs hf hchange, hr, Fault.ok_bind]
  exact Fault.bind_eq_ok_iff.mpr ⟨clamped, hclamp, rfl⟩

end Replaces

end Box

namespace Session

variable {s t u : Session} {c : Command} {reply : Reply}

/-- The selection of a session was taken into the clipboard, cut or copied: a text put in place of
the selection that is left is in place of the one that there was. -/
structure Took (s t : Session) : Prop where
  focused : t.box.focused = true
  clipboard_eq : t.clipboard = s.box.editor.selected
  splice_eq : ∀ text,
    t.box.editor.snapshot.splice t.box.editor.selection.range.1 t.box.editor.selection.range.2
        text =
      s.box.editor.snapshot.splice s.box.editor.selection.range.1 s.box.editor.selection.range.2
        text
  sameRows : SameRows { s.box with editor := t.box.editor } t.box

section Take

variable (hs : s.Reachable) (hf : s.box.focused = true) (hsel : s.box.editor.hasSelection = true)
include hs hf hsel

private theorem result_dispatch_copy :
    s.Dispatched .copy ⟨s.box, s.box.editor.selected⟩ ⟨false, false⟩ :=
  result_dispatch_of_execute hf (result_execute_copy hs.editor.1.wellFormed hsel) rfl

private theorem Dispatched.took (hc : c = .cut ∨ c = .copy) (hd : s.Dispatched c t reply) :
    s.Took t := by
  have hw := hs.editor.1.wellFormed
  rcases hc with rfl | rfl
  · have hlt := s.box.editor.hasSelection_iff.mp hsel
    have hle : s.box.editor.selection.range.2 ≤ s.box.editor.length := hw.within.range_le
    obtain ⟨hsame, heditor, hfocused, hclipboard⟩ :=
      (replaces_cut hw hsel).of_dispatch hs.editor.2 hf (.inl (Nat.ne_of_lt hlt)) hd
    -- The caret is left alone where the selection began.
    have hsnapshot : (s.box.respliced s.box.editor.selection.range []).editor.snapshot =
        s.box.editor.snapshot.splice s.box.editor.selection.range.1
          s.box.editor.selection.range.2 [] := snapshot_respliced (Nat.le_of_lt hlt) hle
    have hstart : s.box.editor.selection.range.1 ≤ s.box.editor.snapshot.length :=
      Nat.le_trans (Nat.le_of_lt hlt) hle
    have hrange (n : Nat) : (Selection.collapsed (n + 0)).range = (n, n) := by
      simp [Selection.range, Selection.collapsed]
    refine ⟨hfocused, hclipboard, fun text ↦ ?_, ?_⟩
    · rw [heditor, hsnapshot, ← Snapshot.splice_nil_splice text hstart]
      exact congrArg (fun r : Nat × Nat ↦ Snapshot.splice _ r.1 r.2 text) (hrange _)
    · rw [heditor]
      exact hsame
  · obtain ⟨box', clipboard'⟩ := t
    cases Eq.trans (Eq.symm hd) (result_dispatch_copy hs hf hsel)
    exact ⟨hf, rfl, fun _ ↦ rfl, .refl _⟩

private theorem exists_take (hc : c = .cut ∨ c = .copy)
    (hdraw : c = .cut → (s.box.respliced s.box.editor.selection.range []).Drawable) :
    ∃ t reply, s.Dispatched c t reply := by
  have hw := hs.editor.1.wellFormed
  rcases hc with rfl | rfl
  · have hlt := s.box.editor.hasSelection_iff.mp hsel
    obtain ⟨⟨box, clipboard, reply⟩, hd⟩ := (replaces_cut hw hsel).succeeds_dispatch hs.editor.2 hf
      (.inl (Nat.ne_of_lt hlt)) (Nat.le_of_lt hlt) hw.within.range_le (hdraw rfl)
    exact ⟨⟨box, clipboard⟩, reply, hd⟩
  · exact ⟨_, _, result_dispatch_copy hs hf hsel⟩

end Take

namespace Took

variable (h : s.Took t) (hs : s.Reachable) (ht : t.Reachable)
include h hs ht

/-- What was taken in place of the selection restores the text, with the caret alone behind it. -/
theorem snapshot_eq :
    (t.box.respliced t.box.editor.selection.range s.box.editor.selected).editor.snapshot =
      ⟨s.box.editor.text, s.box.editor.selection.range.2,
        .collapsed s.box.editor.selection.range.2⟩ := by
  have hle := t.box.editor.selection.range_le
  rw [snapshot_respliced hle ht.editor.1.wellFormed.within.range_le, h.splice_eq]
  exact Snapshot.splice_self s.box.editor.selection.range_le
    hs.editor.1.wellFormed.within.range_le

/-- What was taken in place of the selection makes a box that can be drawn if the first box can. -/
theorem drawable (hdraw : s.box.Drawable) :
    (t.box.respliced t.box.editor.selection.range s.box.editor.selected).Drawable := by
  have hsame := h.sameRows
  exact hdraw.of_text_eq (congrArg Snapshot.text (h.snapshot_eq hs ht))
    ⟨rfl, hsame.view_eq, hsame.options_eq, hsame.measure_eq⟩

variable (hsel : s.box.editor.hasSelection = true) (hcr : '\r' ∉ s.box.editor.selected)
include hsel hcr

private theorem replaces_paste :
    t.box.Replaces t.clipboard .paste t.box.editor.selection.range s.box.editor.selected
      s.box.editor.selected := by
  have hne := Editor.selected_ne_nil hs.editor.1.wellFormed hsel
  have hpaste : t.box.Replaces s.box.editor.selected .paste t.box.editor.selection.range
      (normalize s.box.editor.selected) s.box.editor.selected :=
    Box.replaces_paste ht.editor.1.wellFormed hne
  rw [normalize_eq_self hcr] at hpaste
  rwa [h.clipboard_eq]

end Took

/-- A selection without carriage returns that is cut comes back by a paste, and one that is copied
is replaced by itself: the text is as it was, the clipboard holds what was selected, and the caret
is alone behind it, whichever end of the selection it was at. Both commands have a result as long as
the text, with the selection and, after a cut, without it, can be drawn. -/
theorem paste_restores (hs : s.Reachable) (hf : s.box.focused = true)
    (hsel : s.box.editor.hasSelection = true) (hcr : '\r' ∉ s.box.editor.selected)
    (hc : c = .cut ∨ c = .copy) :
    (∀ t u reply reply', s.Dispatched c t reply → t.Dispatched .paste u reply' →
      u.box.editor.text = s.box.editor.text ∧ u.clipboard = s.box.editor.selected ∧
      u.box.editor.caret = s.box.editor.selection.range.2 ∧
      u.box.editor.selection = .collapsed s.box.editor.selection.range.2) ∧
    (s.box.Drawable →
      (c = .cut → (s.box.respliced s.box.editor.selection.range []).Drawable) →
      ∃ t u reply reply', s.Dispatched c t reply ∧ t.Dispatched .paste u reply') := by
  have hne := Editor.selected_ne_nil hs.editor.1.wellFormed hsel
  constructor
  · intro t u reply reply' hd hpaste
    have htook := hd.took hs hf hsel hc
    have ht := hd.reachable hs
    obtain ⟨-, heditor, -, hclipboard⟩ := (htook.replaces_paste hs ht hsel hcr).of_dispatch
      ht.editor.2 htook.focused (.inr hne) hpaste
    have hsnapshot := htook.snapshot_eq hs ht
    rw [← heditor] at hsnapshot
    exact ⟨congrArg Snapshot.text hsnapshot, hclipboard, congrArg Snapshot.caret hsnapshot,
      congrArg Snapshot.selection hsnapshot⟩
  · intro hdraw hcut
    obtain ⟨t, reply, hd⟩ := exists_take hs hf hsel hc hcut
    have htook := hd.took hs hf hsel hc
    have ht := hd.reachable hs
    obtain ⟨⟨box, clipboard, reply'⟩, hpaste⟩ :=
      (htook.replaces_paste hs ht hsel hcr).succeeds_dispatch ht.editor.2 htook.focused (.inr hne)
        t.box.editor.selection.range_le ht.editor.1.wellFormed.within.range_le
        (htook.drawable hs ht hdraw)
    exact ⟨t, ⟨box, clipboard⟩, reply, reply', hd, hpaste⟩

/-- A word selected backwards is cut and pasted, which leaves the caret at its other end. -/
theorem paste_restores_backwards :
    let origin := usual "hello world".toList 320 200 []
    let s : Session :=
      { origin with box := { origin.box with editor := origin.box.editor.selectRange 5 0 } }
    ∃ t u reply reply', s.box.editor.caret = 0 ∧ s.Dispatched .cut t reply ∧
      t.Dispatched .paste u reply' ∧ u.box.editor.text = "hello world".toList ∧
      u.clipboard = "hello".toList ∧ u.box.editor.caret = 5 ∧
      u.box.editor.selection = .collapsed 5 := by
  intro origin s
  have hs : s.Reachable := ⟨_, _, _, _, [.inr (.setMeasure (some (.perChar 10))),
    .inr (.edit (.selectRange 5 0))], _, rfl⟩
  have hopened : origin.box.Usual := usual_box (by decide)
  have husual : s.box.Usual := hopened.congr rfl rfl rfl
  have hdraw : s.box.Drawable :=
    husual.drawable (small_of_layout hs.editor.2 (by decide +kernel))
  have hcut : (s.box.respliced (0, 5) []).Drawable := by
    have hkept : (s.box.respliced (0, 5) []).Usual := husual.congr rfl rfl rfl
    have hsound : (s.box.respliced (0, 5) []).Sound :=
      Replaces.sound hs.editor.2 (.inl (by decide))
    exact hkept.drawable (small_of_layout hsound (by decide +kernel))
  obtain ⟨hrestores, hexists⟩ :=
    paste_restores hs rfl (by decide) (by decide) (c := .cut) (.inl rfl)
  obtain ⟨t, u, reply, reply', hd, hpaste⟩ := hexists hdraw fun _ ↦ hcut
  obtain ⟨htext, hclipboard, hcaret, hselection⟩ := hrestores t u reply reply' hd hpaste
  exact ⟨t, u, reply, reply', rfl, hd, hpaste, htext, hclipboard, hcaret, hselection⟩

end Session

end EditBox
