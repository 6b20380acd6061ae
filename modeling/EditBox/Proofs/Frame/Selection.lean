import EditBox.Proofs.Box.Reach
import EditBox.Proofs.Frame.Rows

/-!
# Rectangles behind the selection

The rectangle behind a row is measured from parts of the text of the row, the place of an offset
through the lines and rows of the layout. With a measurer whose widths add up both agree:
`rectangles_agree_with_places` finds behind each row of a frame one rectangle exactly if a character
of it is selected, from the place of the first such character to the place of the end of the last.
A row that goes on with a line begins where the row above ends. Its first offset has its place up
there, so a rectangle that begins with such a row begins at the edge of the text instead.
-/

namespace EditBox

open EditBox.Box EditBox.Layout EditBox.Text Bounded

namespace RowFrame

/-- End of the offsets of the characters of a row of a frame. -/
def stopOffset (rf : RowFrame) : Nat := rf.startOffset + rf.text.length

/-- A character of a row of a frame is selected. -/
def Selected (rf : RowFrame) (s : Selection) : Prop :=
  ∃ offset, s.contains offset = true ∧ rf.startOffset ≤ offset ∧ offset < rf.stopOffset

/-- A row of a frame begins where its line does. -/
def BeginsLine (rf : RowFrame) (b : Buffer) : Prop := b.lineStart rf.line = .ok rf.startOffset

end RowFrame

/-- A rectangle of a frame is behind the selected characters of one of its rows: it begins at the
place of the first of them, unless that is up on the row above, and ends at the place of their
end. -/
structure Frame.Marks (f : Frame) (box : Box) (rf : RowFrame) (rect : Rect) : Prop where
  y_eq : rect.y = rf.y
  height_eq : rect.height = f.lineHeight
  right_eq : ∃ pos,
    (box.offsetVisual (min box.editor.selection.range.2 rf.stopOffset)).result = .ok (box, pos) ∧
      rect.x + rect.width = f.contentLeft + pos.x
  left_eq : rf.startOffset < box.editor.selection.range.1 ∨ rf.BeginsLine box.editor.buffer →
    ∃ pos, (box.offsetVisual (max box.editor.selection.range.1 rf.startOffset)).result =
        .ok (box, pos) ∧
      rect.x = f.contentLeft + pos.x
  /-- A rectangle that begins with its row begins at the edge of the text. -/
  left_eq_edge : box.editor.selection.range.1 ≤ rf.startOffset → rect.x = f.contentLeft

/-- The rectangles of a frame are those behind the selected characters of its rows, in the order of
the rows. An empty row has no characters, so nothing is said of a rectangle there. -/
structure Frame.MarksSelection (f : Frame) (box : Box) : Prop where
  rows_pairwise : f.rows.Pairwise fun rf rf' ↦ rf.row < rf'.row ∧ rf.y < rf'.y
  pairwise_y : f.selection.Pairwise (·.y < ·.y)
  exists_row : ∀ rect ∈ f.selection, ∃ rf ∈ f.rows, rect.y = rf.y
  exists_filter_eq : ∀ rf ∈ f.rows, rf.Selected box.editor.selection →
    ∃ rect, f.selection.filter (·.y = rf.y) = [rect] ∧ f.Marks box rf rect
  filter_eq_nil : ∀ rf ∈ f.rows, rf.text ≠ [] → ¬ rf.Selected box.editor.selection →
    f.selection.filter (·.y = rf.y) = []

section Heights

variable {α β : Type} {height : α → Int} {height' : β → Int} {l : List α} {make : α → Option β}

private theorem filter_eq_singleton (hl : l.Pairwise (height · < height ·)) {a : α} (ha : a ∈ l) :
    l.filter (height · = height a) = [a] := by
  induction l with
  | nil => cases ha
  | cons c rest ih =>
    obtain ⟨hlt, hrest⟩ := List.pairwise_cons.mp hl
    rcases List.mem_cons.mp ha with rfl | ha
    · have hbelow : rest.filter (height · = height a) = [] := by
        rw [List.filter_eq_nil_iff]
        intro b hb
        rw [decide_eq_true_eq]
        exact Int.ne_of_gt (hlt b hb)
      rw [List.filter_cons, if_pos (decide_eq_true rfl), hbelow]
    · have habove : ¬ decide (height c = height a) = true := by
        rw [decide_eq_true_eq]
        exact Int.ne_of_lt (hlt a ha)
      rw [List.filter_cons, if_neg habove, ih hrest ha]

private theorem filter_filterMap_eq (hmake : ∀ a b, make a = some b → height' b = height a)
    (y : Int) :
    (l.filterMap make).filter (height' · = y) = (l.filter (height · = y)).filterMap make := by
  rw [List.filter_filterMap, List.filterMap_filter]
  congr 1
  funext a
  cases hb : make a with
  | none => simp
  | some b => simp [Option.filter, hmake a b hb]

end Heights

namespace Frame

variable {box : Box} {caretOn : Bool} {f : Frame} {pos : VisualPos} {m : Measure}
  {content edge lineHeight row start : Nat} {left y : Int} {selected : Nat × Nat} {r : Row}
  {rows : List Row} {frames : List RowFrame} {rects : List Rect} {mark : Option Rect}
  {rf : RowFrame} {rect : Rect}

/-- Offsets from `start` to `stop` meet a range of selected offsets. -/
def Meets (selected : Nat × Nat) (start stop : Nat) : Prop :=
  selected.1 < selected.2 ∧ start < selected.2 ∧ selected.1 < stop

private theorem selected_iff {s : Selection} :
    rf.Selected s ↔ rf.text ≠ [] ∧ Meets s.range rf.startOffset rf.stopOffset := by
  simp only [RowFrame.Selected, Selection.contains, Bool.and_eq_true, decide_eq_true_eq, Meets,
    ← List.length_pos_iff, RowFrame.stopOffset]
  constructor
  · rintro ⟨offset, ⟨hfirst, hlast⟩, hstart, hstop⟩
    omega
  · rintro ⟨hpos, hlt, hstart, hstop⟩
    exact ⟨max s.range.1 rf.startOffset, by omega⟩

/-- With an additive measurer a rectangle has no other fault than a left edge that leaves its
width. -/
theorem eq_addOverflow_of_selectionRect {fault : Fault} (hm : m.AdditiveOn r.text)
    (h : selectionRect m left y lineHeight selected start r = .error fault) :
    fault = .addOverflow := by
  rw [selectionRect_eq] at h
  split at h
  · obtain ⟨before, width, hbefore, hwidth, -⟩ := hm.exists_width_take_add (selected.1 - start)
      (min selected.2 (start + r.length) - start - (selected.1 - start))
    rw [hbefore, Fault.ok_bind, hwidth, intAdd] at h
    split at h
    · cases h
    · cases h
      rfl
  · cases h

private theorem of_selectionRect
    (h : selectionRect m left y lineHeight selected start r = .ok mark) :
    (¬ Meets selected start (start + r.length) ∧ mark = none) ∨
      (Meets selected start (start + r.length) ∧ ∃ before width,
        m.width (r.text.take (selected.1 - start)) = .ok before ∧
        m.width ((r.text.drop (selected.1 - start)).take
          (min selected.2 (start + r.length) - start - (selected.1 - start))) = .ok width ∧
        mark = some ⟨left + toCoordinate before, y, width, lineHeight⟩) := by
  rw [selectionRect_eq] at h
  split at h
  · next hmeets =>
    obtain ⟨before, hbefore, h⟩ := Fault.bind_eq_ok_iff.mp h
    obtain ⟨x, hx, h⟩ := Fault.bind_eq_ok_iff.mp h
    obtain ⟨width, hwidth, h⟩ := Fault.bind_eq_ok_iff.mp h
    obtain ⟨-, rfl⟩ := intAdd_eq_ok_iff.mp hx
    cases h
    exact .inr ⟨hmeets, before, width, hbefore, hwidth, rfl⟩
  · next hmeets =>
    cases h
    exact .inl ⟨hmeets, rfl⟩

private theorem y_of_selectionRect
    (h : selectionRect m left y lineHeight selected start r = .ok (some rect)) :
    rect.y = y ∧ rect.height = lineHeight := by
  obtain ⟨-, hnone⟩ | ⟨-, before, width, -, -, hrect⟩ := of_selectionRect h
  · cases hnone
  · cases hrect
    exact ⟨rfl, rfl⟩

/-- With an additive measurer a rectangle reaches from the width of what stands before the selected
characters to the width of what stands before their end. -/
theorem edges_of_selectionRect (hm : m.AdditiveOn r.text)
    (h : selectionRect m left y lineHeight selected start r = .ok (some rect)) :
    ∃ v w, m.width (r.text.take (selected.1 - start)) = .ok v ∧
      m.width (r.text.take (min selected.2 (start + r.length) - start)) = .ok w ∧
      rect.x = left + v ∧ rect.x + rect.width = left + w := by
  obtain ⟨-, hnone⟩ | ⟨⟨hlt, hstart, hstop⟩, v, part, hv, hpart, hrect⟩ := of_selectionRect h
  · cases hnone
  · cases hrect
    obtain ⟨v', part', hv', hpart', hsum⟩ := hm.exists_width_take_add (selected.1 - start)
      (min selected.2 (start + r.length) - start - (selected.1 - start))
    cases hv.symm.trans hv'
    cases hpart.symm.trans hpart'
    rw [Nat.add_sub_cancel' (by omega)] at hsum
    rw [toCoordinate_of_lt (hm.lt_coordinateBound hv)]
    refine ⟨v, v + part, hv, hsum, rfl, ?_⟩
    rw [Int.natCast_add, Int.add_assoc]

/-- The rectangle behind a row of a frame, made from what the frame says of the row. -/
def markOf (box : Box) (left : Int) (lineHeight : Nat) (rf : RowFrame) :
    Except Fault (Option Rect) :=
  selectionRect box.measurer left rf.y lineHeight box.editor.selection.range rf.startOffset
    ⟨rf.line, 0, rf.text⟩

private theorem y_of_markOf (h : (markOf box left lineHeight rf).toOption.join = some rect) :
    rect.y = rf.y := by
  cases hmark : markOf box left lineHeight rf with
  | error fault =>
    rw [hmark] at h
    cases h
  | ok mark =>
    rw [hmark] at h
    obtain rfl : mark = some rect := h
    exact (y_of_selectionRect hmark).1

private theorem selection_of_rowFrames
    (h : rowFrames box left lineHeight row y rows = .ok (frames, rects)) :
    (∀ rf ∈ frames, ∃ mark, markOf box left lineHeight rf = .ok mark) ∧
      rects = frames.filterMap fun rf ↦ (markOf box left lineHeight rf).toOption.join := by
  induction rows generalizing row y frames rects with
  | nil =>
    cases h
    simp
  | cons r rest ih =>
    obtain ⟨start, -, h⟩ := Fault.bind_eq_ok_iff.mp h
    obtain ⟨mark, hmark, h⟩ := Fault.bind_eq_ok_iff.mp h
    obtain ⟨below, -, h⟩ := Fault.bind_eq_ok_iff.mp h
    obtain ⟨⟨frames', rects'⟩, hrest, h⟩ := Fault.bind_eq_ok_iff.mp h
    cases h
    obtain ⟨hmarks, rfl⟩ := ih hrest
    -- The column where the row begins in its line does not matter for the rectangle.
    have hhead (number : Option Nat) :
        markOf box left lineHeight ⟨row, r.line, start, r.text, y, number⟩ = .ok mark := hmark
    constructor
    · intro rf hrf
      rcases List.mem_cons.mp hrf with rfl | hrf
      · exact ⟨mark, hhead _⟩
      · exact hmarks rf hrf
    · rw [List.filterMap_cons, hhead]
      cases mark with
      | none => rfl
      | some rect => rfl

namespace Made

variable (h : Made box caretOn f pos content edge) (hl : f.lineHeight < coordinateBound)
include h

private theorem selection_eq :
    (∀ rf ∈ f.rows, ∃ mark, markOf box f.contentLeft f.lineHeight rf = .ok mark) ∧
      f.selection =
        f.rows.filterMap fun rf ↦ (markOf box f.contentLeft f.lineHeight rf).toOption.join := by
  obtain ⟨y, -, hrows⟩ := h.rows
  rw [h.contentLeft_eq, h.lineHeight_eq]
  exact selection_of_rowFrames hrows

include hl

private theorem rows_pairwise : f.rows.Pairwise fun rf rf' ↦ rf.row < rf'.row ∧ rf.y < rf'.y := by
  obtain ⟨width, hshows⟩ := h.current.exists_shows
  obtain ⟨-, hdraws⟩ := h.draws hl
  rw [List.pairwise_iff_getElem]
  intro i j hi hj hlt
  obtain ⟨r, -, hdraw⟩ := hdraws i _ (List.getElem?_eq_getElem hi)
  obtain ⟨r', -, hdraw'⟩ := hdraws j _ (List.getElem?_eq_getElem hj)
  have hrows : first box + i < first box + j := Nat.add_lt_add_left hlt _
  have hheights := Nat.mul_lt_mul_of_pos_right hrows hshows.lineHeight_pos
  rw [hdraw.row_eq, hdraw'.row_eq, hdraw.y_eq, hdraw'.y_eq, rowY, rowY]
  omega

/-- An offset on a row of a frame has its place at the width of what stands before it there, unless
it is at the start of a row that does not begin its line. -/
theorem result_offsetVisual (hb : box.layout.rowCount * f.lineHeight < pixelBound)
    (hrf : rf ∈ f.rows) {col x : Nat} (hcol : col ≤ rf.text.length)
    (hfirst : rf.BeginsLine box.editor.buffer ∨ 0 < col)
    (hx : box.measurer.width (rf.text.take col) = .ok x) :
    (box.offsetVisual (rf.startOffset + col)).result =
      .ok (box, ⟨rf.row, x, rf.row * f.lineHeight⟩) := by
  obtain ⟨width, hshows⟩ := h.current.exists_shows
  obtain ⟨r, hr, hdraw⟩ := h.exists_draws hl hrf
  obtain ⟨start, hstart, hoffset⟩ := hdraw.startsAt
  rw [hdraw.text_eq] at hcol hx
  rw [h.lineHeight_eq] at hb ⊢
  have hon : OnRow box.layout box.editor.buffer (rf.startOffset + col) rf.row r col :=
    ⟨hr, hcol, start, hstart, by rw [hoffset]⟩
  have hbegins : r.start = 0 ∨ 0 < col := by
    refine hfirst.imp_left fun hbegins ↦ ?_
    rw [RowFrame.BeginsLine, hdraw.line_eq, hstart] at hbegins
    have heq : start = rf.startOffset := Except.ok.inj hbegins
    omega
  rw [h.current.result_offsetVisual, offsetToVisual_eq_ok hshows hb hon hbegins hx]
  rfl

/-- The rectangle behind a row with a selected character is between the places of the ends of the
selected characters. -/
theorem marks (hb : box.layout.rowCount * f.lineHeight < pixelBound) (hrf : rf ∈ f.rows)
    (hm : box.measurer.AdditiveOn rf.text) (hselected : rf.Selected box.editor.selection)
    (hmark : markOf box f.contentLeft f.lineHeight rf = .ok (some rect)) :
    f.Marks box rf rect := by
  obtain ⟨hy, hheight⟩ := y_of_selectionRect hmark
  obtain ⟨v, w, hv, hw, hx, hend⟩ := edges_of_selectionRect hm hmark
  obtain ⟨hne, hlt, hstart, hstop⟩ := selected_iff.mp hselected
  have hpos := List.length_pos_iff.mpr hne
  rw [RowFrame.stopOffset] at hstop
  refine ⟨hy, hheight, ?_, fun hleft ↦ ?_, fun hleft ↦ ?_⟩
  · have hlast : rf.startOffset < min box.editor.selection.range.2 rf.stopOffset := by
      rw [RowFrame.stopOffset]
      omega
    have hcol : min box.editor.selection.range.2 rf.stopOffset - rf.startOffset ≤
        rf.text.length := by
      rw [RowFrame.stopOffset]
      omega
    have hplace :=
      h.result_offsetVisual hl hb hrf hcol (.inr (Nat.sub_pos_of_lt hlast)) hw
    rw [Nat.add_sub_cancel' (Nat.le_of_lt hlast)] at hplace
    exact ⟨_, hplace, hend⟩
  · have hcol : box.editor.selection.range.1 - rf.startOffset ≤ rf.text.length := by omega
    have hplace :=
      h.result_offsetVisual hl hb hrf hcol (hleft.symm.imp_right Nat.sub_pos_of_lt) hv
    have hoffset : rf.startOffset + (box.editor.selection.range.1 - rf.startOffset) =
        max box.editor.selection.range.1 rf.startOffset := by omega
    rw [hoffset] at hplace
    exact ⟨_, hplace, hx⟩
  · rw [Nat.sub_eq_zero_of_le hleft, List.take_zero, hm.width_nil] at hv
    cases hv
    rw [hx, Int.natCast_zero, Int.add_zero]

/-- The rectangles of a frame are behind the selected characters of its rows. -/
theorem marksSelection (hb : box.layout.rowCount * f.lineHeight < pixelBound)
    (hm : ∀ rf ∈ f.rows, box.measurer.AdditiveOn rf.text) : f.MarksSelection box := by
  obtain ⟨hmarks, hselection⟩ := h.selection_eq
  have hrows := h.rows_pairwise hl
  have hheights : f.rows.Pairwise (·.y < ·.y) := hrows.imp fun hlt ↦ hlt.2
  have hfilter {rf : RowFrame} (hrf : rf ∈ f.rows) {mark : Option Rect}
      (hmark : markOf box f.contentLeft f.lineHeight rf = .ok mark) :
      f.selection.filter (·.y = rf.y) = mark.toList := by
    rw [hselection, filter_filterMap_eq (fun _ _ ↦ y_of_markOf), filter_eq_singleton hheights hrf,
      List.filterMap_cons, hmark]
    cases mark with
    | none => rfl
    | some rect => rfl
  refine ⟨hrows, ?_, ?_, ?_, ?_⟩
  · rw [hselection]
    refine hheights.filterMap _ fun rf rf' hlt rect hrect rect' hrect' ↦ ?_
    rw [y_of_markOf hrect, y_of_markOf hrect']
    exact hlt
  · intro rect hrect
    rw [hselection] at hrect
    obtain ⟨rf, hrf, hmark⟩ := List.mem_filterMap.mp hrect
    exact ⟨rf, hrf, y_of_markOf hmark⟩
  · intro rf hrf hselected
    obtain ⟨mark, hmark⟩ := hmarks rf hrf
    obtain ⟨hmeets, -⟩ | ⟨-, _, _, -, -, rfl⟩ := of_selectionRect hmark
    · exact absurd (selected_iff.mp hselected).2 hmeets
    · exact ⟨_, hfilter hrf hmark, h.marks hl hb hrf (hm rf hrf) hselected hmark⟩
  · intro rf hrf hne hunselected
    obtain ⟨mark, hmark⟩ := hmarks rf hrf
    obtain ⟨-, rfl⟩ | ⟨hmeets, -⟩ := of_selectionRect hmark
    · exact hfilter hrf hmark
    · exact absurd (selected_iff.mpr ⟨hne, hmeets⟩) hunselected

end Made

end Frame

namespace Session

variable {s : Session}

/-- The rectangles of the frame of a reachable session agree with the places of the ends of the
selected characters, with a measurer that is additive on the rows of the frame, unless the rows
leave the screen coordinates or pixel lengths. Clipping the selection to a row never goes below
zero. -/
theorem rectangles_agree_with_places (hs : s.Reachable) (caretOn : Bool) :
    Safe s.box.measure (Frame.build s.box caretOn).result ∧
    (∀ left y lineHeight start r fault, s.box.measurer.AdditiveOn r.text →
      Frame.selectionRect s.box.measurer left y lineHeight s.box.editor.selection.range start r =
        .error fault → fault = .addOverflow) ∧
    ∀ box' f, (Frame.build s.box caretOn).result = .ok (box', f) →
      f.lineHeight < coordinateBound → box'.layout.rowCount * f.lineHeight < pixelBound →
      (∀ rf ∈ f.rows, s.box.measurer.AdditiveOn rf.text) →
        (∃ layout, box' = s.box.laid layout) ∧ f.MarksSelection box' := by
  have hsound : s.box.Sound := hs.editor.2
  refine ⟨Frame.safe_build hsound caretOn,
    fun _ _ _ _ _ _ hm h ↦ Frame.eq_addOverflow_of_selectionRect hm h, ?_⟩
  intro box' f hbuild hl hb hm
  obtain ⟨layout, pos, content, edge, rfl, hmade⟩ := Frame.exists_made hsound hbuild
  exact ⟨⟨layout, rfl⟩, hmade.marksSelection hl hb hm⟩

/-- A selection across the break of a line: the rectangle on the second row begins at the edge of
the text, while its first offset has its place at the end of the first row. -/
theorem rectangles_agree_with_places_break :
    let box := (Box.new (.ofText "hello world foobar".toList) ⟨160, 200, 5, 30, 0⟩
      ⟨200, 500, 4, 3, 1, 530, ⟨4, 10⟩⟩).setMeasure (some (.perChar 10))
    let selecting := { box with editor := box.editor.selectRange 8 14 }
    ∃ box' f, (Frame.build selecting true).result = .ok (box', f) ∧
      f.selection = [⟨115, 5, 40, 20⟩, ⟨35, 25, 20, 20⟩] ∧ f.MarksSelection box' ∧
      ∃ box'', (box'.offsetVisual 12).result = .ok (box'', ⟨0, 120, 0⟩) := by
  intro box selecting
  have hs : Reachable ⟨selecting, []⟩ :=
    ⟨_, _, _, _, [.inr (.setMeasure (some (.perChar 10))), .inr (.edit (.selectRange 8 14))],
      _, rfl⟩
  have hcheck : (Frame.build selecting true).result.toOption.any (fun p ↦
      p.2.selection == [⟨115, 5, 40, 20⟩, ⟨35, 25, 20, 20⟩] && p.2.lineHeight == 20 &&
        decide (p.1.layout.rowCount = 2 ∧
          ∀ rf ∈ p.2.rows, rf.text.length * 10 < coordinateBound) &&
        (p.1.offsetVisual 12).result.toOption.any fun q ↦ q.2 == ⟨0, 120, 0⟩) = true := by
    decide +kernel
  obtain ⟨⟨box', f⟩, hbuild, hcheck⟩ := exists_of_any hcheck
  simp only [Bool.and_eq_true, beq_iff_eq, decide_eq_true_eq] at hcheck
  obtain ⟨⟨⟨hselection, hheight⟩, hrows, hnarrow⟩, hplace⟩ := hcheck
  obtain ⟨⟨box'', pos⟩, hplace, hpos⟩ := exists_of_any hplace
  obtain rfl : pos = ⟨0, 120, 0⟩ := beq_iff_eq.mp hpos
  have hmarks := ((rectangles_agree_with_places hs true).2.2 _ _ hbuild
    (by rw [hheight]; decide) (by rw [hheight, hrows]; decide)
    fun rf hrf ↦ Measure.additiveOn_perChar (hnarrow rf hrf)).2
  exact ⟨box', f, hbuild, hselection, hmarks, box'', hplace⟩

end Session

end EditBox
