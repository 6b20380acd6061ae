import EditBox.Proofs.Box.Scrolling

/-!
# Scrolling to the caret again

A caret that has not moved is where the view was scrolled to, so a second look for it scrolls
nothing, if the view is as high as a row. `reveal_settles` says so of views and of what a host sees,
and what happens in a view that is lower: its scroll goes to and fro.
-/

namespace EditBox

open EditBox.Layout

namespace Box

variable {box box' : Box} {content : Nat} {pos : VisualPos} {view : View}

private theorem Current.ensureCaretVisible_eq (h : box.Current) {scrolled : Bool}
    (hplace : offsetToVisual box.layout box.editor.buffer box.measurer box.editor.caret = .ok pos)
    (hview : box.view.ensureVisible pos.y box.layout.lineHeight box.layout.rowCount = .ok view)
    (hscrolled : (view.scroll != box.view.scroll) = scrolled) :
    box.ensureCaretVisible.result = .ok ({ box with view := view }, scrolled) := by
  rw [h.result_ensureCaretVisible, hplace, Fault.ok_bind, hview, ← hscrolled]
  rfl

/-- After a look for a caret within the text another one scrolls nothing if the view is as high as a
row. In a lower view it always scrolls, and the one after that scrolls back. -/
theorem Revealed.again (h : box.Revealed box')
    (hcaret : box.editor.caret ≤ box.editor.buffer.length) (hf : box.Fits)
    (hc : box.view.contentHeight = .ok content) :
    (box'.layout.lineHeight ≤ content → box'.ensureCaretVisible.result = .ok (box', false)) ∧
    (content < box'.layout.lineHeight → ∃ box'',
      box'.ensureCaretVisible.result = .ok (box'', true) ∧
      box''.ensureCaretVisible.result = .ok (box', true)) := by
  have hcurrent := h.current
  cases h with
  | @intro layout pos view hlaid hplace hview =>
    obtain ⟨_, hshows⟩ := hlaid.exists_shows
    have hbound := hf _ _ hlaid.typeset_of_laid
    have hbottom := bottom_le_of_offsetToVisual hshows hbound hcaret hplace
    constructor
    · intro hfits
      have hagain :=
        View.ensureVisible_again hc hbound hshows.lineHeight_pos hbottom hfits hview
      exact hcurrent.ensureCaretVisible_eq hplace hagain (bne_self_eq_false _)
    · intro hlow
      obtain ⟨view', hview', hne, hback⟩ :=
        View.exists_ensureVisible_back hc hbound hshows.lineHeight_pos hbottom hlow hview
      obtain ⟨scroll, rfl⟩ := View.exists_scroll_of_ensureVisible hview'
      exact ⟨_, hcurrent.ensureCaretVisible_eq hplace hview' (bne_iff_ne.mpr hne),
        (hcurrent.scrolled scroll).ensureCaretVisible_eq hplace hback (bne_iff_ne.mpr hne.symm)⟩

end Box

namespace Session

variable {s t : Session} {content : Nat} {answer : Answer}

private theorem result_act_ensureCaretVisible {box' : Box} {scrolled : Bool}
    (h : s.box.ensureCaretVisible.result = .ok (box', scrolled)) :
    (s.act .ensureCaretVisible).result = .ok ({ s with box := box' }, .flag scrolled) := by
  rw [act, Run.result_bind, h]
  rfl

/-- After a look for the caret another one scrolls nothing if the view is as high as a row. In a
lower view it always scrolls, and the one after that scrolls back. -/
theorem act_ensureCaretVisible_again (hs : s.Reachable)
    (h : (s.act .ensureCaretVisible).result = .ok (t, answer)) (hf : t.box.Fits)
    (hc : s.box.view.contentHeight = .ok content) :
    (t.box.layout.lineHeight ≤ content →
      (t.act .ensureCaretVisible).result = .ok (t, .flag false)) ∧
    (content < t.box.layout.lineHeight → ∃ u,
      (t.act .ensureCaretVisible).result = .ok (u, .flag true) ∧
      (u.act .ensureCaretVisible).result = .ok (t, .flag true)) := by
  obtain ⟨hreachable, hsound⟩ := hs.editor
  rw [act, Run.result_bind] at h
  obtain ⟨⟨box', scrolled⟩, hlook, h⟩ := Fault.bind_eq_ok_iff.mp h
  cases h
  obtain ⟨hrevealed, -⟩ := hsound.of_ensureCaretVisible hlook
  obtain ⟨hsettles, hswings⟩ := hrevealed.again hreachable.wellFormed.within.caret_le
    (hf.congr hrevealed.sameRows.symm) hc
  refine ⟨fun hfits ↦ result_act_ensureCaretVisible (hsettles hfits), fun hlow ↦ ?_⟩
  obtain ⟨box'', hswing, hreturn⟩ := hswings hlow
  exact ⟨{ s with box := box'' }, result_act_ensureCaretVisible hswing,
    result_act_ensureCaretVisible hreturn⟩

/-- Scrolling to a row has a result, and scrolling to the row again changes nothing if the view is
as high as a row: a host that looks for a caret that has not moved is told that nothing scrolled.
In a lower view the two edges take turns: every second time brings the same scroll back, and the
scroll between is another one. -/
theorem reveal_settles (v : View) (hp : v.padding * 2 < Bounded.pixelBound) :
    (∀ rows lineHeight row, 1 ≤ lineHeight → rows * lineHeight < Bounded.pixelBound → row < rows →
      ∃ v', v.ensureVisible (row * lineHeight) lineHeight rows = .ok v' ∧
        (lineHeight ≤ v.height - v.padding * 2 →
          v'.ensureVisible (row * lineHeight) lineHeight rows = .ok v') ∧
        (v.height - v.padding * 2 < lineHeight → ∃ v'',
          v'.ensureVisible (row * lineHeight) lineHeight rows = .ok v'' ∧
          v''.scroll ≠ v'.scroll ∧
          v''.ensureVisible (row * lineHeight) lineHeight rows = .ok v')) ∧
    ∀ (s t : Session) (answer : Answer), s.Reachable → s.box.view = v →
      (s.act .ensureCaretVisible).result = .ok (t, answer) → t.box.Fits →
      (t.box.layout.lineHeight ≤ v.height - v.padding * 2 →
        (t.act .ensureCaretVisible).result = .ok (t, .flag false)) ∧
      (v.height - v.padding * 2 < t.box.layout.lineHeight → ∃ u,
        (t.act .ensureCaretVisible).result = .ok (u, .flag true) ∧
        (u.act .ensureCaretVisible).result = .ok (t, .flag true)) := by
  have hc := View.contentHeight_eq hp
  constructor
  · intro rows lineHeight row hl hb hrow
    have hy : row * lineHeight + lineHeight ≤ rows * lineHeight := by
      rw [← Nat.succ_mul]
      exact Nat.mul_le_mul_right _ hrow
    have hfirst := View.ensureVisible_eq hc hb hl hy v.scroll
    exact ⟨_, hfirst, fun hfits ↦ View.ensureVisible_again hc hb hl hy hfits hfirst,
      fun hlow ↦ View.exists_ensureVisible_back hc hb hl hy hlow hfirst⟩
  · rintro s t answer hs rfl hlook hf
    exact act_ensureCaretVisible_again hs hlook hf hc

/-- From the first of three rows of which two fit, the view scrolls to the end of the text once. -/
theorem reveal_settles_end :
    let box := (Box.new (.ofText "a\nb\nc".toList) (.unscrolled 120 40 0 0)
      ⟨200, 500, 4, 3, 1, 530, ⟨4, 10⟩⟩).setMeasure (some (.perChar 10))
    let s : Session := ⟨{ box with editor := box.editor.moveCaret 5 false }, []⟩
    (∃ v', box.view.ensureVisible 40 20 3 = .ok v' ∧ v'.ensureVisible 40 20 3 = .ok v') ∧
    ∃ t, (s.act .ensureCaretVisible).result = .ok (t, .flag true) ∧ t.box.view.scroll = 20 ∧
      (t.act .ensureCaretVisible).result = .ok (t, .flag false) := by
  intro box s
  obtain ⟨hviews, hsessions⟩ := reveal_settles box.view (by decide)
  obtain ⟨v', hv', hsame, -⟩ := hviews 3 20 2 (by decide) (by decide) (by decide)
  have hs : s.Reachable :=
    ⟨_, _, _, _, [.inr (.setMeasure (some (.perChar 10))), .inr (.edit (.moveCaret 5 false))], _,
      rfl⟩
  have hcheck : s.box.ensureCaretVisible.result.toOption.any (fun p ↦
      decide (p.2 = true ∧ p.1.view.scroll = 20 ∧ p.1.layout.lineHeight = 20) &&
      p.1.ensureLayout.result.toOption.any fun b ↦
        decide (b.textHeight < Bounded.pixelBound)) = true := by
    decide +kernel
  obtain ⟨⟨box', scrolled⟩, hlook, hcheck⟩ := exists_of_any hcheck
  rw [Bool.and_eq_true, decide_eq_true_eq] at hcheck
  obtain ⟨⟨rfl, hscroll, hheight⟩, hlow⟩ := hcheck
  let t : Session := ⟨box', []⟩
  have hact : (s.act .ensureCaretVisible).result = .ok (t, .flag true) :=
    result_act_ensureCaretVisible hlook
  have hfits : t.box.Fits := (hs.act hact).editor.2.fits hlow
  obtain ⟨hsettles, -⟩ := hsessions s t _ hs rfl hact hfits
  have hhigh : t.box.layout.lineHeight ≤ 40 := Nat.le_trans (Nat.le_of_eq hheight) (by decide)
  exact ⟨⟨v', hv', hsame (by decide)⟩, t, hact, hscroll, hsettles hhigh⟩

/-- Scrolling to a row does not settle in every view: one of half the height of a row scrolls down
to the row and up again. -/
theorem not_forall_reveal_settles :
    ¬ ∀ (v v' : View) (rows lineHeight row : Nat), v.padding * 2 < Bounded.pixelBound →
      1 ≤ lineHeight → rows * lineHeight < Bounded.pixelBound → row < rows →
      v.ensureVisible (row * lineHeight) lineHeight rows = .ok v' →
      v'.ensureVisible (row * lineHeight) lineHeight rows = .ok v' := by
  intro hsettles
  have hagain := hsettles (.unscrolled 120 10 0 0) ⟨120, 10, 0, 0, 10⟩ 2 20 0 (by decide)
    (by decide) (by decide) (by decide) rfl
  have hback : View.ensureVisible ⟨120, 10, 0, 0, 10⟩ (0 * 20) 20 2 =
      .ok (.unscrolled 120 10 0 0) := rfl
  cases hback.symm.trans hagain

end Session

end EditBox
