import EditBox.Proofs.Box.Queries
import EditBox.Proofs.Box.Vertical

/-!
# Paging

A page scrolls the view by its height in pixels and takes the caret as many rows along, and each
stops by itself at the ends of the text. `View.Covers.page` says that they stop together, so that
scrolling to the caret at the end of the command has nothing left to do: `paging_scrolls_once` is
the main statement.
-/

namespace EditBox

open EditBox.Box EditBox.Layout EditBox.Text

namespace Box

variable {origin box : Box} {pos : VisualPos} {content limit : Nat}

private theorem Current.result_reveal_of_covers (h : box.Current)
    (hplace : offsetToVisual box.layout box.editor.buffer box.measurer box.editor.caret = .ok pos)
    (hcaret : box.editor.caret ≤ box.editor.buffer.length)
    (hc : box.view.contentHeight = .ok content)
    (hb : box.layout.rowCount * box.layout.lineHeight < Bounded.pixelBound)
    (hcovers : box.view.Covers content pos.y box.layout.lineHeight) :
    box.reveal.result = .ok (box, true) := by
  obtain ⟨width, hshows⟩ := h.exists_shows
  have hbottom := bottom_le_of_offsetToVisual hshows hb hcaret hplace
  obtain ⟨htop, hend⟩ := hcovers
  have hview := View.ensureVisible_eq hc hb hshows.lineHeight_pos hbottom box.view.scroll
  rw [View.scrollTo_eq_self htop hend] at hview
  rw [h.result_reveal, hplace, Fault.ok_bind, hview]
  rfl

private theorem Current.result_moveRow (h : box.Current)
    (hpos : offsetToVisual box.layout box.editor.buffer box.measurer box.editor.caret = .ok pos)
    (scroll : Nat) (row : VisualPos → Nat) :
    (do
      let (box, pos) ← (box.scrolled scroll).caretVisual
      let (box, target) ← box.rowXToOffset (row pos) (Bounded.toCoordinate pos.x)
      reveal { box with editor := box.editor.moveCaret target false } :
        Run (Box × Bool)).result =
      visualToOffset box.layout box.editor.buffer box.measurer (row pos)
          (Bounded.toCoordinate pos.x) >>=
        fun target ↦ ((box.scrolled scroll).moved target false).reveal.result := by
  have hscrolled := h.scrolled scroll
  have hpos' : (box.scrolled scroll).caretVisual.result = .ok (box.scrolled scroll, pos) := by
    rw [hscrolled.result_caretVisual]
    exact Fault.bind_eq_ok_iff.mpr ⟨pos, hpos, rfl⟩
  simp only [Run.result_bind, hpos', Fault.ok_bind, hscrolled.result_rowXToOffset]
  rw [bind_assoc]
  rfl

/-- A page scrolls the view and moves the caret to where its pixel is as many rows on as the view
is high. -/
theorem result_page (hs : origin.Sound) (hpos : origin.caretVisual.result = .ok (box, pos))
    (hc : box.view.contentHeight = .ok content)
    (hlimit : box.view.maxScroll box.layout.rowCount box.layout.lineHeight = .ok limit)
    (hb : box.view.scroll + content < Bounded.pixelBound) (down : Bool) :
    (origin.page down).result =
      visualToOffset box.layout box.editor.buffer box.measurer
          (View.pageRow box.layout.rowCount pos.row
            (max (content / max box.layout.lineHeight 1) 1) down)
          (Bounded.toCoordinate pos.x) >>=
        fun target ↦ ((box.scrolled (View.pageScroll box.view.scroll content limit down)).moved
          target false).reveal.result := by
  obtain ⟨hlaid, -⟩ := ensureLayout_of_caretVisual hpos
  obtain ⟨hcurrent, -, hplace⟩ := hs.of_caretVisual hpos
  have hc' (scroll : Nat) :
      View.contentHeight { box.view with scroll := scroll } = .ok content := hc
  have hmove := hcurrent.result_moveRow hplace
    (View.pageScroll box.view.scroll content limit down) fun pos ↦
      View.pageRow box.layout.rowCount pos.row (max (content / max box.layout.lineHeight 1) 1) down
  rw [page, Run.result_bind, hlaid, Fault.ok_bind]
  cases down with
  | true =>
    rw [if_pos rfl, Run.result_bind, Run.result_liftM, View.pageDown_eq hlimit hc hb, Fault.ok_bind,
      Run.result_bind, Run.result_liftM, hc', Fault.ok_bind]
    exact hmove
  | false =>
    rw [if_neg Bool.false_ne_true, Run.result_bind, Run.result_liftM, View.pageUp_eq hc limit,
      Fault.ok_bind, Run.result_bind, Run.result_liftM, hc', Fault.ok_bind]
    exact hmove

/-- Command that scrolls by a page. -/
def paging (down : Bool) : Command := if down then .pageDown else .pageUp

/-- A page of a box with the focus is carried out as a command, and changes nothing of the text or
the clipboard. -/
theorem result_dispatch_paging {after : Box} {dirty : Bool} (clipboard : Clipboard)
    (hf : box.focused = true) {down : Bool} (hpage : (box.page down).result = .ok (after, dirty))
    (hb : after.editor.buffer = box.editor.buffer) :
    (box.dispatch clipboard (paging down)).result = .ok (after, clipboard, ⟨dirty, false⟩) := by
  refine result_dispatch_of_execute hf ?_ hb
  have hexecute :
      box.execute clipboard (paging down) = keepClipboard clipboard (box.page down) := by
    cases down <;> rfl
  rw [hexecute, keepClipboard, Run.result_bind, hpage]
  rfl

end Box

namespace Session

variable {s : Session} {box : Box} {pos : VisualPos} {count limit : Nat}

/-- A session draws its caret at a place, its view shows `count` whole rows and that of the caret
among them, and is scrolled no further than `limit`, the largest useful scroll; the heights of view
and text are pixel lengths. -/
structure PagesBy (s : Session) (box : Box) (pos : VisualPos) (count limit : Nat) : Prop where
  drawsAt : s.DrawsAt box pos
  count_pos : 0 < count
  contentHeight : s.box.view.contentHeight = .ok (count * box.layout.lineHeight)
  contentHeight_lt : count * box.layout.lineHeight < Bounded.pixelBound
  textHeight_lt : box.layout.rowCount * box.layout.lineHeight < Bounded.pixelBound
  maxScroll : s.box.view.maxScroll box.layout.rowCount box.layout.lineHeight = .ok limit
  scroll_le : s.box.view.scroll ≤ limit
  covers : s.box.view.Covers (count * box.layout.lineHeight) pos.y box.layout.lineHeight

namespace PagesBy

variable (h : s.PagesBy box pos count limit)
include h

private theorem limit_eq :
    limit = box.layout.rowCount * box.layout.lineHeight - count * box.layout.lineHeight := by
  obtain ⟨_, hshows⟩ := (h.drawsAt.reachable.places h.drawsAt.caretVisual).current.exists_shows
  have hlimit := View.maxScroll_eq h.contentHeight h.textHeight_lt hshows.lineHeight_pos
  exact Except.ok.inj (h.maxScroll.symm.trans hlimit)

private theorem scroll_add_lt :
    s.box.view.scroll + count * box.layout.lineHeight < Bounded.pixelBound := by
  have hscroll := h.scroll_le
  have hcontent := h.contentHeight_lt
  have htext := h.textHeight_lt
  rw [h.limit_eq] at hscroll
  omega

private theorem covers_page (down : Bool) :
    (box.scrolled
      (View.pageScroll s.box.view.scroll (count * box.layout.lineHeight) limit down)).view.Covers
        (count * box.layout.lineHeight)
        (View.pageRow box.layout.rowCount pos.row count down * box.layout.lineHeight)
        box.layout.lineHeight := by
  obtain ⟨hcurrent, ⟨layout, rfl⟩, hplace⟩ :=
    h.drawsAt.reachable.editor.2.of_caretVisual h.drawsAt.caretVisual
  obtain ⟨_, hshows⟩ := hcurrent.exists_shows
  have hcaret := h.drawsAt.reachable.editor.1.wellFormed.within.caret_le
  obtain ⟨hrow, hy⟩ :=
    row_lt_and_y_eq_of_offsetToVisual hshows h.textHeight_lt hcaret hplace
  have hcovers := h.covers
  have hscroll := h.scroll_le
  rw [hy] at hcovers
  rw [h.limit_eq] at hscroll ⊢
  exact hcovers.page h.count_pos hrow hscroll down

private theorem jump_eq :
    max (count * box.layout.lineHeight / max box.layout.lineHeight 1) 1 = count := by
  obtain ⟨_, hshows⟩ := (h.drawsAt.reachable.places h.drawsAt.caretVisual).current.exists_shows
  have hheight := hshows.lineHeight_pos
  rw [Nat.max_eq_left hheight, Nat.mul_div_cancel _ hheight, Nat.max_eq_left h.count_pos]

/-- A page moves the caret to an offset on the row that is as many rows on as the view shows, and
scrolls by the height of the view and no further, if the row begins its line or the caret is not at
the left edge. -/
theorem exists_result_page (down : Bool) {r : Row}
    (hrow : box.layout.row? (View.pageRow box.layout.rowCount pos.row count down) = some r)
    (hstart : r.start = 0 ∨ 0 < pos.x) :
    ∃ after place, (s.box.page down).result = .ok (after, true) ∧
      after.editor.buffer = s.box.editor.buffer ∧
      after.view.scroll =
        View.pageScroll s.box.view.scroll (count * box.layout.lineHeight) limit down ∧
      after.caretVisual.result = .ok (after, place) ∧
      place.row = View.pageRow box.layout.rowCount pos.row count down := by
  have hplaces := h.drawsAt.reachable.places h.drawsAt.caretVisual
  obtain ⟨layout, rfl⟩ := hplaces.laid
  obtain ⟨width, hshows⟩ := hplaces.current.exists_shows
  -- The pixel of the caret is found on the row aimed at, and the offset is drawn there.
  obtain ⟨r', target, col, hon, hreaches, htarget⟩ :=
    hplaces.exists_offset h.drawsAt.grows (View.pageRow_lt hplaces.row_lt count down)
  obtain rfl : r = r' := Option.some.inj (hrow.symm.trans hon.row_eq)
  have hg := h.drawsAt.grows r (List.mem_of_getElem? hrow)
  have hfirst := hplaces.start_eq_zero_or_pos hon hreaches hg hstart
  obtain ⟨x, hx⟩ := hg.exists_width col
  have hplace := offsetToVisual_eq_ok hshows h.textHeight_lt hon hfirst hx
  -- The moved caret is where the scrolled view shows it.
  let scrolled := (s.box.laid layout).scrolled
    (View.pageScroll s.box.view.scroll (count * layout.lineHeight) limit down)
  have hafter : (scrolled.moved target false).Current := (hplaces.current.scrolled _).moved _ _
  have hle : target ≤ scrolled.editor.buffer.length := hon.offset_le hshows
  have hcaret : (scrolled.moved target false).editor.caret = target := caret_moved hle false
  rw [← hcaret] at hplace
  have hreveal := hafter.result_reveal_of_covers hplace (hcaret.trans_le hle) h.contentHeight
    h.textHeight_lt (h.covers_page down)
  have hpage := result_page h.drawsAt.reachable.editor.2 h.drawsAt.caretVisual h.contentHeight
    h.maxScroll h.scroll_add_lt down
  rw [h.jump_eq, htarget, Fault.ok_bind] at hpage
  have hfound := hafter.result_caretVisual.trans (Fault.bind_eq_ok_iff.mpr ⟨_, hplace, rfl⟩)
  exact ⟨_, _, hpage.trans hreveal, buffer_moved _ _ _, rfl, hfound, rfl⟩

/-- One page on, the caret is drawn on the row that is as many rows on as the view shows, and the
view is scrolled by its height and no further, if the row begins its line or the caret is not at the
left edge. -/
theorem exists_act_paging (down : Bool) {r : Row}
    (hrow : box.layout.row? (View.pageRow box.layout.rowCount pos.row count down) = some r)
    (hstart : r.start = 0 ∨ 0 < pos.x) :
    ∃ t answer, (s.act (.command (paging down))).result = .ok (t, answer) ∧
      t.DrawnOn (View.pageRow box.layout.rowCount pos.row count down) ∧
      t.box.view.scroll = View.pageScroll s.box.view.scroll (count * box.layout.lineHeight) limit
        down := by
  obtain ⟨after, place, hpage, hbuffer, hscroll, hcaret, hplace⟩ :=
    h.exists_result_page down hrow hstart
  refine ⟨⟨after, s.clipboard⟩, .reply ⟨true, false⟩, ?_, ⟨after, place, hcaret, hplace⟩, hscroll⟩
  rw [act, Run.result_bind,
    result_dispatch_paging s.clipboard h.drawsAt.focused hpage hbuffer]
  rfl

end PagesBy

/-- A page is not undone by the scrolling to the caret that follows it. A page down leaves the caret
drawn as many rows further down as the view shows, or on the last row, and the view scrolled by
exactly its height, or to the largest useful scroll; a page up does the same towards the start. Each
has a result. The row has to begin its line or the caret not to be at the left edge. -/
theorem paging_scrolls_once (h : s.PagesBy box pos count limit) :
    (∀ r, box.layout.row? (min (pos.row + count) (box.layout.rowCount - 1)) = some r →
      r.start = 0 ∨ 0 < pos.x →
      ∃ t answer, (s.act (.command .pageDown)).result = .ok (t, answer) ∧
        t.DrawnOn (min (pos.row + count) (box.layout.rowCount - 1)) ∧
        t.box.view.scroll = min (s.box.view.scroll + count * box.layout.lineHeight) limit) ∧
    ∀ r, box.layout.row? (pos.row - count) = some r → r.start = 0 ∨ 0 < pos.x →
      ∃ t answer, (s.act (.command .pageUp)).result = .ok (t, answer) ∧
        t.DrawnOn (pos.row - count) ∧
        t.box.view.scroll = s.box.view.scroll - count * box.layout.lineHeight :=
  ⟨fun _ hrow hstart ↦ h.exists_act_paging true hrow hstart,
    fun _ hrow hstart ↦ h.exists_act_paging false hrow hstart⟩

/-- In ten rows of which three fit, a page down from the second row scrolls by three rows, and a
page up goes to the first row and scrolls nothing. -/
theorem paging_scrolls_once_digits :
    let box := (Box.new (.ofText "0\n1\n2\n3\n4\n5\n6\n7\n8\n9".toList)
      (.unscrolled 120 60 0 0) ⟨200, 500, 4, 3, 1, 530, ⟨4, 10⟩⟩).setMeasure (some (.perChar 10))
    let s : Session := ⟨{ box with editor := box.editor.moveCaret 3 false }, []⟩
    ∃ laidOut pos, s.PagesBy laidOut pos 3 140 ∧ pos.row = 1 ∧
      (∃ t answer, (s.act (.command .pageDown)).result = .ok (t, answer) ∧ t.DrawnOn 4 ∧
        t.box.view.scroll = 60) ∧
      ∃ t answer, (s.act (.command .pageUp)).result = .ok (t, answer) ∧ t.DrawnOn 0 ∧
        t.box.view.scroll = 0 := by
  intro box s
  have hreachable : s.Reachable :=
    ⟨_, _, _, _, [.inr (.setMeasure (some (.perChar 10))), .inr (.edit (.moveCaret 3 false))], _,
      rfl⟩
  obtain ⟨laidOut, hdraws, -, hcheck⟩ :
      ∃ laidOut, s.DrawsAt laidOut ⟨1, 10, 20⟩ ∧ laidOut.measurer = .perChar 10 ∧
        decide (laidOut.layout.rowCount = 10 ∧ laidOut.layout.lineHeight = 20 ∧
          laidOut.layout.row? 4 = some ⟨4, 0, ['4']⟩ ∧
          laidOut.layout.row? 0 = some ⟨0, 0, ['0']⟩) = true :=
    exists_drawsAt hreachable rfl rfl (Measure.monotone_perChar 10) (by decide +kernel)
  obtain ⟨hrows, hheight, hfourth, hfirst⟩ := of_decide_eq_true hcheck
  have hpages : s.PagesBy laidOut ⟨1, 10, 20⟩ 3 140 :=
    { drawsAt := hdraws
      count_pos := by decide
      contentHeight := by rw [hheight]; rfl
      contentHeight_lt := by rw [hheight]; decide
      textHeight_lt := by rw [hrows, hheight]; decide
      maxScroll := by rw [hrows, hheight]; rfl
      scroll_le := Nat.zero_le 140
      covers := by rw [hheight]; exact ⟨by decide, by decide⟩ }
  obtain ⟨hdown, hup⟩ := paging_scrolls_once hpages
  simp only [hrows, hheight] at hdown hup
  exact ⟨laidOut, _, hpages, rfl, hdown _ hfourth (.inl rfl), hup _ hfirst (.inl rfl)⟩

end Session

end EditBox
