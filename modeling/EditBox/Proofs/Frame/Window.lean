import EditBox.Proofs.Box.Reach
import EditBox.Proofs.Frame.Rows

/-!
# Frames as windows

A frame shows a run of consecutive rows of the layout, each at its height, and every row that
reaches into the content height below the scroll is among them. `Window` says what a reader of the
frame alone may rely on: which characters each row shows, where the next one begins, and that the
line numbers count up. `frame_shows_window` says it of every frame of a reachable session.
-/

namespace EditBox

open EditBox.Box EditBox.Layout EditBox.Text Bounded

/-- A row of a frame shows a row of the layout of a box: its line and characters, at the height that
the scroll gives it, with the number of the line on the first of its rows. -/
structure RowFrame.Shows (rf : RowFrame) (box : Box) (r : Row) : Prop where
  row?_eq : box.layout.row? rf.row = some r
  line_eq : rf.line = r.line
  text_eq : rf.text = r.text
  y_eq : rf.y =
    box.view.contentTop + (rf.row * box.layout.lineHeight : Nat) - box.view.scroll
  chars_eq : rf.text = (box.editor.text.drop rf.startOffset).take rf.text.length
  gutterNumber_iff : ∀ n, rf.gutterNumber = some n ↔ n = rf.line + 1 ∧
    ∀ row r', row < rf.row → box.layout.row? row = some r' → r'.line ≠ rf.line

/-- A row of a frame goes on where another ends, or begins the next line one character later. -/
def RowFrame.Continues (rf rf' : RowFrame) : Prop :=
  (rf'.line = rf.line ∧ rf'.startOffset = rf.startOffset + rf.text.length) ∨
    (rf'.line = rf.line + 1 ∧ rf'.startOffset = rf.startOffset + rf.text.length + 1)

/-- A frame is a window of `content` pixels onto the rows of a box. -/
structure Frame.Window (f : Frame) (box : Box) (content : Nat) : Prop where
  lineHeight_eq : f.lineHeight = box.layout.lineHeight
  /-- The rows are consecutive. -/
  rows_eq : ∃ first, f.rows.map RowFrame.row = List.range' first f.rows.length
  /-- Every row is there of which the window has a pixel. -/
  covers : ∀ row y, row < box.layout.rowCount → row * f.lineHeight ≤ y →
    y < (row + 1) * f.lineHeight → box.view.scroll ≤ y → y < box.view.scroll + content →
    ∃ rf ∈ f.rows, rf.row = row
  shows : ∀ rf ∈ f.rows, ∃ r, rf.Shows box r
  continues : f.rows.IsChain RowFrame.Continues
  /-- No line is numbered twice and none is skipped. -/
  numbers_eq : ∃ first count,
    f.rows.filterMap RowFrame.gutterNumber = List.range' first count

namespace Frame

namespace Made

variable {box : Box} {caretOn : Bool} {f : Frame} {pos : VisualPos} {content edge : Nat}
  (h : Made box caretOn f pos content edge)
include h

private theorem mem_window {row y : Nat} (hrow : row < box.layout.rowCount)
    (htop : row * box.layout.lineHeight ≤ y) (hbottom : y < (row + 1) * box.layout.lineHeight)
    (hscroll : box.view.scroll ≤ y) (hend : y < box.view.scroll + content) :
    first box ≤ row ∧ row ≤ last box content := by
  obtain ⟨width, hshows⟩ := h.current.exists_shows
  have hpos := hshows.lineHeight_pos
  have hsum := h.first_mul_add_hidden
  have hhidden := h.hidden_lt
  constructor
  · have hlt : first box * box.layout.lineHeight < (row + 1) * box.layout.lineHeight := by omega
    exact Nat.le_of_lt_succ (Nat.lt_of_mul_lt_mul_right hlt)
  · -- The content is less than one row higher than the rows that fit whole.
    have hcontent : content < (content / box.layout.lineHeight + 1) * box.layout.lineHeight := by
      rw [Nat.mul_comm]
      exact Nat.lt_mul_div_succ content hpos
    have hsucc : (content / box.layout.lineHeight + 2) * box.layout.lineHeight =
        (content / box.layout.lineHeight + 1) * box.layout.lineHeight + box.layout.lineHeight :=
      Nat.succ_mul _ _
    have hlt : row * box.layout.lineHeight <
        (first box + (content / box.layout.lineHeight + 2)) * box.layout.lineHeight := by
      rw [Nat.add_mul]
      omega
    have hroom := Nat.lt_of_mul_lt_mul_right hlt
    rw [last, Nat.le_min]
    omega

variable (hl : f.lineHeight < coordinateBound)
include hl

private theorem map_row_eq : f.rows.map RowFrame.row = List.range' (first box) f.rows.length := by
  obtain ⟨-, hdraws⟩ := h.draws hl
  apply List.ext_getElem
  · simp
  · intro i hi hi'
    rw [List.length_map] at hi
    obtain ⟨r, -, hdraw⟩ := hdraws i f.rows[i] (List.getElem?_eq_getElem hi)
    rw [List.getElem_map, List.getElem_range', hdraw.row_eq]
    omega

private theorem continues : f.rows.IsChain RowFrame.Continues := by
  obtain ⟨width, hshows⟩ := h.current.exists_shows
  obtain ⟨-, hdraws⟩ := h.draws hl
  rw [List.isChain_iff_getElem]
  intro i hi
  obtain ⟨r, hr, hdraw⟩ := hdraws i _ (List.getElem?_eq_getElem (Nat.lt_of_succ_lt hi))
  obtain ⟨r', hr', hdraw'⟩ := hdraws (i + 1) _ (List.getElem?_eq_getElem hi)
  have hfollows := (hshows.follows hr hr').startsAt hdraw.startsAt hdraw'.startsAt
  rw [RowFrame.Continues, hdraw.line_eq, hdraw'.line_eq, hdraw.text_eq]
  exact hfollows

private theorem filterMap_gutterNumber_eq :
    f.rows.filterMap RowFrame.gutterNumber =
      ((box.layout.rows.take (last box content + 1)).drop (first box)).filterMap Row.number := by
  obtain ⟨hlength, hdraws⟩ := h.draws hl
  have hlast := h.last_lt
  have hmap : f.rows.map RowFrame.gutterNumber =
      ((box.layout.rows.take (last box content + 1)).drop (first box)).map Row.number := by
    apply List.ext_getElem
    · have hle : last box content + 1 ≤ box.layout.rows.length := hlast
      rw [List.length_map, List.length_map, hlength, List.length_drop, List.length_take,
        Nat.min_eq_left hle]
    · intro i hi hi'
      rw [List.length_map] at hi
      obtain ⟨r, hr, hdraw⟩ := hdraws i f.rows[i] (List.getElem?_eq_getElem hi)
      obtain ⟨_, rfl⟩ := List.getElem?_eq_some_iff.mp hr
      rw [List.getElem_map, List.getElem_map, List.getElem_drop, List.getElem_take,
        hdraw.gutterNumber_eq]
  have hcompact := congrArg (List.filterMap id) hmap
  rw [List.filterMap_map, List.filterMap_map] at hcompact
  exact hcompact

private theorem exists_shows {rf : RowFrame} (hrf : rf ∈ f.rows) : ∃ r, rf.Shows box r := by
  obtain ⟨width, hshows⟩ := h.current.exists_shows
  obtain ⟨r, hr, hdraw⟩ := h.exists_draws hl hrf
  refine ⟨r, hr, hdraw.line_eq, hdraw.text_eq, hdraw.y_eq, ?_, ?_⟩
  · rw [hdraw.text_eq]
    exact hshows.text_eq hr hdraw.startsAt
  · intro n
    rw [hdraw.gutterNumber_eq, hdraw.line_eq, ← hshows.start_eq_zero_iff hr, Row.number]
    split
    · next hstart => simp [hstart, eq_comm]
    · next hstart => simp [hstart]

/-- The frame is a window onto the rows of the box. -/
theorem window : f.Window box content := by
  obtain ⟨width, hshows⟩ := h.current.exists_shows
  refine ⟨h.lineHeight_eq, ⟨_, h.map_row_eq hl⟩, ?_, fun rf hrf ↦ h.exists_shows hl hrf,
    h.continues hl, ?_⟩
  · intro row y hrow htop hbottom hscroll hend
    rw [h.lineHeight_eq] at htop hbottom
    exact (h.exists_mem_iff hl).mpr (h.mem_window hrow htop hbottom hscroll hend)
  · rw [h.filterMap_gutterNumber_eq hl]
    exact exists_filterMap_number_eq_range' ((hshows.isChain.take _).drop _)

end Made

end Frame

namespace Session

variable {s : Session}

/-- The frame of a reachable session is a window onto the rows of its text. Building it makes a
layout at most and stops only where a number leaves its width or the measurer gives up. -/
theorem frame_shows_window (hs : s.Reachable) (caretOn : Bool) :
    Safe s.box.measure (Frame.build s.box caretOn).result ∧
    ∀ box' f, (Frame.build s.box caretOn).result = .ok (box', f) →
      (∃ layout, box' = s.box.laid layout) ∧ box'.LaidOut ∧
      (f.lineHeight < coordinateBound →
        ∃ content, box'.view.contentHeight = .ok content ∧ f.Window box' content) := by
  have hsound : s.box.Sound := hs.editor.2
  constructor
  · exact Frame.safe_build hsound caretOn
  · intro box' f hbuild
    obtain ⟨layout, pos, content, edge, rfl, hmade⟩ := Frame.exists_made hsound hbuild
    obtain ⟨width, hwidth, -, hshows⟩ := hmade.current
    have hlaidOut : (s.box.laid layout).LaidOut := Shows.laidOut ⟨width, hwidth, hshows⟩
    exact ⟨⟨layout, rfl⟩, hlaidOut, fun hl ↦ ⟨content, hmade.contentHeight, hmade.window hl⟩⟩

/-- A window as high as two rows, scrolled into the second of the two rows of the first line: it has
a part of that row, and the second line. -/
theorem frame_shows_window_scrolled :
    let box := (Box.new (.ofText "hello world foobar\nnext".toList) ⟨150, 50, 5, 30, 27⟩
      ⟨200, 500, 4, 3, 1, 530, ⟨4, 10⟩⟩).setMeasure (some (.perChar 10))
    ∃ box' f, (Frame.build box true).result = .ok (box', f) ∧
      f.rows.map RowFrame.y = [-2, 18] ∧
      f.rows.filterMap RowFrame.gutterNumber = [2] ∧ f.Window box' 40 := by
  intro box
  have hs : Reachable ⟨box, []⟩ :=
    ⟨_, _, _, _, [.inr (.setMeasure (some (.perChar 10)))], _, rfl⟩
  have hcheck : (Frame.build box true).result.toOption.any (fun p ↦
      p.2.rows.map RowFrame.y == [-2, 18] &&
        p.2.rows.filterMap RowFrame.gutterNumber == [2] && p.2.lineHeight == 20) = true := by
    decide +kernel
  obtain ⟨⟨box', f⟩, hbuild, hcheck⟩ := exists_of_any hcheck
  simp only [Bool.and_eq_true, beq_iff_eq] at hcheck
  obtain ⟨⟨hy, hnumbers⟩, hheight⟩ := hcheck
  obtain ⟨⟨layout, rfl⟩, -, hwindow⟩ := (frame_shows_window hs true).2 _ _ hbuild
  obtain ⟨content, hcontent, hwindow⟩ := hwindow (by rw [hheight]; decide)
  obtain rfl : content = 40 := Except.ok.inj (hcontent.symm.trans rfl)
  exact ⟨_, f, hbuild, hy, hnumbers, hwindow⟩

end Session

end EditBox
