import EditBox.Proofs.Box.Reply

/-!
# Scrolling

Commands keep the scroll within what the rows allow, and all but one of those that move the caret
show it. `commands_scroll_legally` says the first of every run of commands, and that the caret is
on screen after every edit; `shows_moved_caret` says which commands show the caret that they moved.
-/

namespace EditBox

open EditBox.Box EditBox.Layout

namespace Box

variable {box box' origin : Box} {c : Command} {dirty : Bool} {content : Nat} {pos : VisualPos}

/-- The height of all rows of the text is in bounds. -/
def Fits (box : Box) : Prop :=
  ∀ rows lineHeight, box.Typeset rows lineHeight →
    rows.length * lineHeight < Bounded.pixelBound

/-- The scroll is at most the largest useful one for the rows of the text. -/
def ScrollLegal (box : Box) : Prop :=
  ∀ rows lineHeight, box.Typeset rows lineHeight → ∃ limit,
    box.view.maxScroll rows.length lineHeight = .ok limit ∧ box.view.scroll ≤ limit

/-- The row of the caret is shown whole, if the view is as high as a row. -/
def CaretShown (box : Box) : Prop :=
  ∃ laidOut pos content, box.caretVisual.result = .ok (laidOut, pos) ∧
    box.view.contentHeight = .ok content ∧
    (laidOut.layout.lineHeight ≤ content →
      box.view.Covers content pos.y laidOut.layout.lineHeight)

/-- The height of all rows of a laid out box. -/
def textHeight (box : Box) : Nat := box.layout.rowCount * box.layout.lineHeight

/-- The height of all rows is in bounds if a computation says so. -/
theorem Sound.fits (hs : box.Sound)
    (h : box.ensureLayout.result.toOption.any
      (fun b ↦ decide (b.textHeight < Bounded.pixelBound)) = true) : box.Fits := by
  obtain ⟨laidOut, hlaid, hlt⟩ := exists_of_any h
  obtain ⟨hcurrent, layout, rfl⟩ := hs.of_ensureLayout hlaid
  intro rows lineHeight htypeset
  obtain ⟨rfl, rfl⟩ := hcurrent.typeset_of_laid.unique htypeset
  exact of_decide_eq_true hlt

/-- Boxes with the same rows fit alike. -/
theorem Fits.congr (h : box.Fits) (hsame : box.SameRows box') : box'.Fits :=
  fun rows lineHeight htypeset ↦ h rows lineHeight (htypeset.congr hsame.symm)

/-- A scroll stays legal for the same rows if it goes no further than before. -/
theorem ScrollLegal.congr (h : box.ScrollLegal) (hsame : box.SameRows box')
    (hle : box'.view.scroll ≤ box.view.scroll) : box'.ScrollLegal := by
  intro rows lineHeight htypeset
  obtain ⟨limit, hlimit, hscroll⟩ := h rows lineHeight (htypeset.congr hsame.symm)
  exact ⟨limit, (hsame.maxScroll_eq _ _).trans hlimit, Nat.le_trans hle hscroll⟩

/-- A scroll of nothing is legal. -/
theorem scrollLegal_of_eq_zero (hf : box.Fits) (h : box.view.scroll = 0) : box.ScrollLegal := by
  intro rows lineHeight htypeset
  obtain ⟨⟨width, hw, -⟩, -⟩ := id htypeset
  obtain ⟨content, hcontent⟩ := View.exists_contentHeight hw
  exact ⟨_, View.maxScroll_eq hcontent (hf _ _ htypeset) htypeset.lineHeight_pos,
    h ▸ Nat.zero_le _⟩

private theorem Turned.scrollLegal (h : box.Turned origin) (hl : box.ScrollLegal) :
    origin.ScrollLegal := by
  rcases h.scrollsTo with hle | ⟨rows, lineHeight, limit, htypeset, hlimit, hle⟩
  · exact hl.congr h.sameRows hle
  · intro rows' lineHeight' htypeset'
    obtain ⟨rfl, rfl⟩ := htypeset.unique (htypeset'.congr h.sameRows.symm)
    exact ⟨limit, (h.sameRows.maxScroll_eq _ _).trans hlimit, hle⟩

namespace Current

variable (h : box.Current) (hf : box.Fits) (hc : box.view.contentHeight = .ok content)
include h hf hc

/-- A laid out box can be scrolled as far as the view does not show. -/
theorem maxScroll_eq :
    box.view.maxScroll box.layout.rowCount box.layout.lineHeight =
      .ok (box.textHeight - content) :=
  View.maxScroll_eq hc (hf _ _ h.typeset) h.typeset.lineHeight_pos

/-- The scroll of a laid out box is legal if it goes no further than the view does not show. -/
theorem scrollLegal_iff : box.ScrollLegal ↔ box.view.scroll ≤ box.textHeight - content := by
  constructor
  · intro hl
    obtain ⟨limit, hlimit, hle⟩ := hl _ _ h.typeset
    have hmax := h.maxScroll_eq hf hc
    rw [LayoutCache.rowCount, hlimit] at hmax
    cases hmax
    exact hle
  · intro hle rows lineHeight htypeset
    obtain ⟨rfl, rfl⟩ := h.typeset.unique htypeset
    exact ⟨_, h.maxScroll_eq hf hc, hle⟩

end Current

/-- A laid out box that shows the row of the caret as far as its height goes. -/
structure ShowsCaret (box : Box) (content : Nat) (pos : VisualPos) : Prop where
  current : box.Current
  contentHeight : box.view.contentHeight = .ok content
  place : offsetToVisual box.layout box.editor.buffer box.measurer box.editor.caret = .ok pos
  bottom_le : pos.y + box.layout.lineHeight ≤ box.textHeight
  covers : box.layout.lineHeight ≤ content → box.view.Covers content pos.y box.layout.lineHeight

namespace ShowsCaret

variable (h : box.ShowsCaret content pos)
include h

private theorem caretShown : box.CaretShown := by
  refine ⟨box, pos, content, ?_, h.contentHeight, h.covers⟩
  rw [h.current.result_caretVisual, h.place]
  rfl

/-- The caret is still shown when the scroll was brought down to what the rows allow, and then the
scroll is legal. -/
theorem clamp (hf : box.Fits) {limit : Nat}
    (hlimit : box.view.maxScroll box.layout.rowCount box.layout.lineHeight = .ok limit) :
    (box.scrolled (min box.view.scroll limit)).ShowsCaret content pos ∧
      (box.scrolled (min box.view.scroll limit)).ScrollLegal := by
  rw [h.current.maxScroll_eq hf h.contentHeight] at hlimit
  cases hlimit
  have hcurrent := h.current.scrolled (min box.view.scroll (box.textHeight - content))
  have hfits := hf.congr (box.sameRows_scrolled (min box.view.scroll (box.textHeight - content)))
  exact ⟨⟨hcurrent, h.contentHeight, h.place, h.bottom_le,
    fun hle ↦ (h.covers hle).clamp h.bottom_le⟩,
    (hcurrent.scrollLegal_iff hfits h.contentHeight).mpr (Nat.min_le_right _ _)⟩

end ShowsCaret

namespace Revealed

variable (h : box.Revealed box')
include h

/-- Scrolling the caret into view keeps the editor. -/
theorem editor_eq : box'.editor = box.editor := by
  cases h
  rfl

/-- Scrolling the caret into view keeps the rows. -/
theorem sameRows : box.SameRows box' := by
  obtain ⟨-, -, hview⟩ := h
  obtain ⟨scroll, rfl⟩ := View.exists_scroll_of_ensureVisible hview
  exact ⟨rfl, rfl, rfl, rfl⟩

/-- A caret within the text is scrolled into view, and the scroll stays legal. -/
theorem showsCaret (hcaret : box.editor.caret ≤ box.editor.buffer.length) (hf : box.Fits) :
    (∃ content pos, box'.ShowsCaret content pos) ∧ (box.ScrollLegal → box'.ScrollLegal) := by
  have hcurrent := h.current
  have hsame := h.sameRows
  have hfits := hf.congr hsame
  obtain ⟨width, hw, -⟩ := id hcurrent
  obtain ⟨content, hcontent⟩ := View.exists_contentHeight hw
  cases h with
  | @intro layout pos view hlaid hplace hview =>
    obtain ⟨_, hshows⟩ := hlaid.exists_shows
    have hbound := hf _ _ hlaid.typeset_of_laid
    have hbottom := bottom_le_of_offsetToVisual hshows hbound hcaret hplace
    have hc := hsame.contentHeight_eq.symm.trans hcontent
    obtain ⟨-, hcovers, hlegal⟩ :=
      View.of_ensureVisible hc hbound hshows.lineHeight_pos hbottom hview
    refine ⟨⟨content, pos, hcurrent, hcontent, hplace, hbottom, hcovers⟩, fun hl ↦ ?_⟩
    have hle := (hlaid.scrollLegal_iff (hf.congr ⟨rfl, rfl, rfl, rfl⟩) hc).mp
      (hl.congr ⟨rfl, rfl, rfl, rfl⟩ (Nat.le_refl _))
    exact (hcurrent.scrollLegal_iff hfits hcontent).mpr (hlegal hle)

end Revealed

namespace Effect

variable (h : box.Effect c box' dirty)
include h

/-- A command that leaves the text alone keeps the rows. -/
theorem sameRows : box.SameRows box' := by
  cases h with
  | rest => exact ⟨rfl, rfl, rfl, rfl⟩
  | point ho ha hb hh hr => exact (ho.sameRows_moved hb).trans hr.sameRows
  | selectAll => exact ⟨rfl, rfl, rfl, rfl⟩
  | scroll ho => exact ho.sameRows
  | defocus => exact ⟨rfl, rfl, rfl, rfl⟩
  | focus => exact ⟨rfl, rfl, rfl, rfl⟩

variable (hcaret : box'.editor.caret ≤ box'.editor.buffer.length) (hf : box.Fits)
include hcaret hf

/-- A command that leaves the text alone keeps the scroll legal. -/
theorem scrollLegal (hl : box.ScrollLegal) : box'.ScrollLegal := by
  have hsame := h.sameRows
  cases h with
  | rest => exact hl.congr hsame (Nat.le_refl _)
  | @point c origin box' op after answer ho ha hb hh hr =>
    rw [hr.editor_eq] at hcaret
    have hmoved := ho.sameRows_moved hb
    have horigin := ho.scrollLegal hl
    have hlegal : ScrollLegal { origin with editor := after } :=
      horigin.congr (ho.sameRows.symm.trans hmoved) (Nat.le_refl _)
    exact (hr.showsCaret hcaret (hf.congr hmoved)).2 hlegal
  | selectAll => exact hl.congr hsame (Nat.le_refl _)
  | scroll ho => exact ho.scrollLegal hl
  | defocus => exact hl.congr hsame (Nat.le_refl _)
  | focus => exact hl.congr hsame (Nat.le_refl _)

/-- A command that moves the caret within the text shows it, unless it selects everything. -/
theorem caretShown (hw : box.editor.WellFormed) (hne : c ≠ .selectAll)
    (hmoves : box'.editor.caret ≠ box.editor.caret) : box'.CaretShown := by
  cases h with
  | rest => exact absurd rfl hmoves
  | point ho ha hb hh hr =>
    rw [hr.editor_eq] at hcaret
    obtain ⟨⟨content, pos, hshows⟩, -⟩ := hr.showsCaret hcaret (hf.congr (ho.sameRows_moved hb))
    exact hshows.caretShown
  | selectAll => exact absurd rfl hne
  | scroll ho => exact absurd (congrArg Editor.caret ho.editor_eq) hmoves
  | defocus => exact absurd (Editor.clampOffset_caret hw.within) hmoves
  | focus => exact absurd rfl hmoves

end Effect

/-- After an edit the caret is shown and the scroll legal, even when the scroll was brought down to
what the new rows allow. -/
theorem Edits.clamp {revealed : Box} {op : Editor.Operation} {limit : Nat}
    (h : box.Edits op revealed)
    (hcaret : revealed.editor.caret ≤ revealed.editor.buffer.length) (hf : revealed.Fits)
    (hlimit : revealed.view.maxScroll revealed.layout.rowCount revealed.layout.lineHeight =
      .ok limit) :
    (revealed.scrolled (min revealed.view.scroll limit)).CaretShown ∧
      (revealed.scrolled (min revealed.view.scroll limit)).ScrollLegal := by
  obtain ⟨-, -, hr⟩ := h
  rw [hr.editor_eq] at hcaret
  obtain ⟨⟨content, pos, hshows⟩, -⟩ := hr.showsCaret hcaret (hf.congr hr.sameRows.symm)
  obtain ⟨hclamped, hlegal⟩ := hshows.clamp hf hlimit
  exact ⟨hclamped.caretShown, hlegal⟩

/-- Apart from the text a command keeps what the rows depend on. -/
theorem Dispatches.sameRows {clipboard : Clipboard} {p : Box × Clipboard × Reply}
    (h : box.Dispatches clipboard c p) : SameRows { box with editor := p.1.editor } p.1 := by
  cases h with
  | ignore => exact .refl box
  | act hheard he =>
    have hsame := he.sameRows
    exact ⟨rfl, hsame.view_eq, hsame.options_eq, hsame.measure_eq⟩
  | @edit op revealed limit hheard hop he hlimit =>
    obtain ⟨-, -, hr⟩ := he
    have hsame := hr.sameRows.trans (revealed.sameRows_scrolled (min revealed.view.scroll limit))
    exact ⟨rfl, hsame.view_eq, hsame.options_eq, hsame.measure_eq⟩

private theorem result_dispatch_selectAll (clipboard : Clipboard) (h : box.focused = true) :
    (box.dispatch clipboard .selectAll).result =
      .ok ({ box with editor := box.editor.selectAll }, clipboard, ⟨true, false⟩) :=
  result_dispatch_of_execute h rfl rfl

end Box

namespace Session

variable {s t u : Session} {c : Command} {reply : Reply}

/-- A command leads from a reachable session to a reachable one. -/
theorem Dispatched.reachable (h : s.Dispatched c t reply) (hs : s.Reachable) : t.Reachable := by
  have hact : (s.act (.command c)).result = .ok (t, .reply reply) := by
    rw [act, Run.result_bind, h]
    rfl
  exact hs.act hact

/-- A command keeps the scroll legal, and one that changes the text leaves the caret shown. -/
theorem Dispatched.scrollLegal (h : s.Dispatched c t reply) (hs : s.Reachable) (hf : t.box.Fits)
    (hl : s.box.ScrollLegal) :
    t.box.ScrollLegal ∧ (reply.textChanged = true → t.box.CaretShown) := by
  have hcaret := (h.reachable hs).editor.1.wellFormed.within.caret_le
  have hdispatches := h.dispatches hs
  obtain ⟨box', clipboard'⟩ := t
  cases hdispatches with
  | ignore => exact ⟨hl, fun hc ↦ (by cases hc)⟩
  | act hheard he =>
    exact ⟨he.scrollLegal hcaret (hf.congr he.sameRows.symm) hl, fun hc ↦ (by cases hc)⟩
  | @edit op revealed limit hheard hop he hlimit =>
    have hfits : revealed.Fits := hf.congr (revealed.sameRows_scrolled _).symm
    obtain ⟨hshown, hlegal⟩ := he.clamp hcaret hfits hlimit
    exact ⟨hlegal, fun _ ↦ hshown⟩

/-- Commands lead from one session to another, and the height of all rows is in bounds after each of
them. -/
inductive Commands (s : Session) : Session → Prop where
  | nil : Commands s s
  | snoc {t u : Session} {c : Command} {reply : Reply} (h : Commands s t)
      (hd : t.Dispatched c u reply) (hf : u.box.Fits) : Commands s u

/-- Commands keep the scroll legal. -/
theorem Commands.scrollLegal (h : s.Commands t) (hs : s.Reachable) (hl : s.box.ScrollLegal) :
    t.Reachable ∧ t.box.ScrollLegal := by
  induction h with
  | nil => exact ⟨hs, hl⟩
  | snoc h hd hf ih =>
    obtain ⟨hreachable, hlegal⟩ := ih
    exact ⟨hd.reachable hreachable, (hd.scrollLegal hreachable hf hlegal).1⟩

/-- A host that starts unscrolled and only sends commands finds the scroll, after every command, no
further than the largest useful one for the rows of the text; and after every command that changed
the text it finds the whole row of the caret on screen, if the view is as high as a row. -/
theorem commands_scroll_legally (hs : s.Reachable) (hstart : s.box.view.scroll = 0)
    (hfits : s.box.Fits) (h : s.Commands t) (hd : t.Dispatched c u reply) (hf : u.box.Fits) :
    u.box.ScrollLegal ∧ (reply.textChanged = true → u.box.CaretShown) := by
  obtain ⟨hreachable, hlegal⟩ := h.scrollLegal hs (scrollLegal_of_eq_zero hfits hstart)
  exact hd.scrollLegal hreachable hf hlegal

/-- A page down in four rows of which two fit, and then all but the first of them deleted: the
scroll comes back to the start. -/
theorem commands_scroll_legally_delete :
    let box := (Box.new (.ofText "a\nb\nc\nd".toList) (.unscrolled 120 40 0 0)
      ⟨200, 500, 4, 3, 1, 530, ⟨4, 10⟩⟩).setMeasure (some (.perChar 10))
    let s : Session := ⟨box, []⟩
    ∃ t u, s.Commands t ∧ t.Dispatched (.deleteRange 1 7) u ⟨true, true⟩ ∧
      t.box.view.scroll = 40 ∧ u.box.ScrollLegal ∧ u.box.CaretShown := by
  intro box s
  have hs : s.Reachable := ⟨_, _, _, _, [.inr (.setMeasure (some (.perChar 10)))], _, rfl⟩
  let low (box : Box) : Bool := box.ensureLayout.result.toOption.any fun b ↦
    decide (b.textHeight < Bounded.pixelBound)
  have hcheck : (low s.box && (s.box.dispatch [] .pageDown).result.toOption.any fun p ↦
      (low p.1 && p.1.view.scroll == 40) &&
        (p.1.dispatch p.2.1 (.deleteRange 1 7)).result.toOption.any fun q ↦
          low q.1 && q.2.2 == ⟨true, true⟩) = true := by
    decide +kernel
  rw [Bool.and_eq_true] at hcheck
  obtain ⟨hlow, hcheck⟩ := hcheck
  obtain ⟨⟨first, clipboard, reply⟩, hfirst, hcheck⟩ := exists_of_any hcheck
  simp only [Bool.and_eq_true, beq_iff_eq] at hcheck
  obtain ⟨⟨hlow₁, hscroll⟩, hcheck⟩ := hcheck
  obtain ⟨⟨second, clipboard', reply'⟩, hsecond, hcheck⟩ := exists_of_any hcheck
  simp only [Bool.and_eq_true, beq_iff_eq] at hcheck
  obtain ⟨hlow₂, rfl⟩ := hcheck
  let t : Session := ⟨first, clipboard⟩
  let u : Session := ⟨second, clipboard'⟩
  have hd₁ : s.Dispatched .pageDown t reply := hfirst
  have hd₂ : t.Dispatched (.deleteRange 1 7) u ⟨true, true⟩ := hsecond
  have ht := hd₁.reachable hs
  have hcommands : s.Commands t := .snoc .nil hd₁ (ht.editor.2.fits hlow₁)
  obtain ⟨hlegal, hshown⟩ := commands_scroll_legally hs rfl (hs.editor.2.fits hlow) hcommands hd₂
    ((hd₂.reachable ht).editor.2.fits hlow₂)
  exact ⟨t, u, hcommands, hd₂, hscroll, hlegal, hshown rfl⟩

/-- A command that moves the caret ends by showing its row whole, if the view is as high as a row.
The exception is the selection of everything, which takes the caret to the end of the text and
leaves the view where it is. -/
theorem shows_moved_caret (hs : s.Reachable) (hd : s.Dispatched c t reply) (hf : t.box.Fits) :
    (c ≠ .selectAll → t.box.editor.caret ≠ s.box.editor.caret → t.box.CaretShown) ∧
    (c = .selectAll → s.box.focused = true →
      t.box = { s.box with editor := s.box.editor.selectAll }) := by
  constructor
  · intro hne hmoves
    have hcaret := (hd.reachable hs).editor.1.wellFormed.within.caret_le
    have hdispatches := hd.dispatches hs
    obtain ⟨box', clipboard'⟩ := t
    cases hdispatches with
    | ignore => exact absurd rfl hmoves
    | act hheard he =>
      exact he.caretShown hcaret (hf.congr he.sameRows.symm) hs.editor.1.wellFormed hne hmoves
    | @edit op revealed limit hheard hop he hlimit =>
      exact (he.clamp hcaret (hf.congr (revealed.sameRows_scrolled _).symm) hlimit).1
  · rintro rfl hfocused
    rw [Dispatched, result_dispatch_selectAll _ hfocused] at hd
    exact (congrArg Prod.fst (Except.ok.inj hd)).symm

/-- From the first of three rows of which two fit, the caret goes to the end of the text. -/
theorem shows_moved_caret_end :
    let box := (Box.new (.ofText "a\nb\nc".toList) (.unscrolled 120 40 0 0)
      ⟨200, 500, 4, 3, 1, 530, ⟨4, 10⟩⟩).setMeasure (some (.perChar 10))
    let s : Session := ⟨box, []⟩
    ∃ t reply, s.Dispatched (.move .stop ⟨true, false⟩) t reply ∧ t.box.editor.caret = 5 ∧
      t.box.CaretShown := by
  intro box s
  have hs : s.Reachable := ⟨_, _, _, _, [.inr (.setMeasure (some (.perChar 10)))], _, rfl⟩
  have hcheck : (s.box.dispatch [] (.move .stop ⟨true, false⟩)).result.toOption.any (fun p ↦
      p.1.editor.caret == 5 && p.1.ensureLayout.result.toOption.any fun b ↦
        decide (b.textHeight < Bounded.pixelBound)) = true := by
    decide +kernel
  obtain ⟨⟨after, clipboard, reply⟩, hafter, hcheck⟩ := exists_of_any hcheck
  rw [Bool.and_eq_true, beq_iff_eq] at hcheck
  obtain ⟨hcaret, hlow⟩ := hcheck
  let t : Session := ⟨after, clipboard⟩
  have hd : s.Dispatched (.move .stop ⟨true, false⟩) t reply := hafter
  obtain ⟨hshown, -⟩ := shows_moved_caret hs hd ((hd.reachable hs).editor.2.fits hlow)
  exact ⟨t, reply, hd, hcaret, hshown (by decide) (by rw [hcaret]; decide)⟩

/-- Not every command that moves the caret shows it: of three rows, of which two fit, the last stays
hidden when everything is selected. -/
theorem not_forall_shows_moved_caret :
    ¬ ∀ (s t : Session) c reply, s.Reachable → s.box.focused = true → s.Dispatched c t reply →
      t.box.Fits → t.box.editor.buffer = s.box.editor.buffer →
      t.box.editor.caret ≠ s.box.editor.caret → t.box.CaretShown := by
  intro hall
  let s : Session := ⟨(Box.new (.ofText "a\nb\nc".toList) (.unscrolled 120 40 0 0)
    ⟨200, 500, 4, 3, 1, 530, ⟨4, 10⟩⟩).setMeasure (some (.perChar 10)), []⟩
  let t : Session := ⟨{ s.box with editor := s.box.editor.selectAll }, []⟩
  have hs : s.Reachable := ⟨_, _, _, _, [.inr (.setMeasure (some (.perChar 10)))], _, rfl⟩
  have hd : s.Dispatched .selectAll t ⟨true, false⟩ := result_dispatch_selectAll [] rfl
  have hfits : t.box.Fits := (hd.reachable hs).editor.2.fits (by decide +kernel)
  obtain ⟨laidOut, pos, content, hpos, hcontent, hcovers⟩ :=
    hall s t .selectAll _ hs rfl hd hfits rfl (by decide)
  have hcheck : t.box.caretVisual.result.toOption.any (fun p ↦
      p.2.y == 40 && p.1.layout.lineHeight == 20) = true := by
    decide +kernel
  rw [hpos] at hcheck
  obtain ⟨htop, hheight⟩ := Bool.and_eq_true_iff.mp hcheck
  replace htop : pos.y = 40 := beq_iff_eq.mp htop
  replace hheight : laidOut.layout.lineHeight = 20 := beq_iff_eq.mp hheight
  have hview : t.box.view.contentHeight = .ok 40 := rfl
  rw [hview] at hcontent
  cases hcontent
  have hbottom := (hcovers (by omega)).2
  have hscroll : t.box.view.scroll = 0 := rfl
  omega

end Session

end EditBox
