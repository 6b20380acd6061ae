import EditBox.Proofs.Layout.Places

/-!
# From an offset to its pixel and back

Offsets are drawn by a search through the rows of their line, and pixels are read by a search
through the prefixes of one row. Where every character makes a row wider the second search undoes
the first: `visualToOffset_offsetToVisual` says so of every offset, wherever the lines break.
-/

namespace EditBox.Layout

open EditBox.Text

variable {b : Buffer} {m : Measure} {measure : Option Measure} {options : LayoutOptions}
  {width offset : Nat}

/-- The place of an offset stands for the offset, on rows that show the text. -/
theorem visualToOffset_of_offsetToVisual {c : LayoutCache} (h : c.Shows b width measure options)
    (hm : ∀ r ∈ c.rows, m.Increases r.text) (hoffset : offset ≤ b.length) {place : VisualPos}
    (hplace : offsetToVisual c b m offset = .ok place) :
    visualToOffset c b m place.row (Bounded.toCoordinate place.x) = .ok offset := by
  obtain ⟨r, col, hon, hx⟩ := onRow_of_offsetToVisual h hoffset hplace
  have hincreases := hm r (List.mem_of_getElem? hon.row_eq)
  rw [Bounded.toCoordinate_of_lt (hincreases.lt_coordinateBound hon.col_le hx)]
  obtain ⟨col', hcol'⟩ := exists_columnReaching hincreases.exists_width place.x
  obtain rfl : col' = col :=
    (reaches_of_columnReaching hcol').eq_of_increases hincreases hon.col_le hx
  obtain ⟨offset', hoffset', hon'⟩ := visualToOffset_eq h hon.row_eq hcol'
  rw [hoffset', hon.eq hon']

/-- Every offset of a text that was laid out has a place if the height of the rows is in bounds, and
the pixel of that place is the offset again, if every character makes its row wider and the rows are
within screen coordinates. This holds with any measurer for either, and without a measurer for the
layout. -/
theorem visualToOffset_offsetToVisual {cache c : LayoutCache}
    (hcache : cache.Sound b measure options)
    (hc : (cache.ensure b width measure options).result = .ok c)
    (hm : ∀ r ∈ c.rows, m.Increases r.text) (hoffset : offset ≤ b.length) :
    (c.rowCount * c.lineHeight < Bounded.pixelBound →
      ∃ place, offsetToVisual c b m offset = .ok place) ∧
    ∀ place, offsetToVisual c b m offset = .ok place →
      visualToOffset c b m place.row (Bounded.toCoordinate place.x) = .ok offset := by
  obtain ⟨-, hshows⟩ := hcache.of_ensure hc
  constructor
  · intro hb
    exact exists_offsetToVisual hshows (fun r hr ↦ (hm r hr).exists_width) hb hoffset
  · intro place hplace
    exact visualToOffset_of_offsetToVisual hshows hm hoffset hplace

/-- The offset behind the blank at which a line breaks, drawn at the end of the first row. -/
theorem visualToOffset_offsetToVisual_break :
    let b := Buffer.ofText "hello world foobar\n\nx".toList
    let m := Measure.perChar 10
    ∃ c place, (LayoutCache.fresh.ensure b 120 (some m) ⟨4, 10⟩).result = .ok c ∧
      offsetToVisual c b m 12 = .ok place ∧ place.row = 0 ∧ place.x = 120 ∧
      visualToOffset c b m 0 120 = .ok 12 := by
  intro b m
  have hcheck : (LayoutCache.fresh.ensure b 120 (some m) ⟨4, 10⟩).result.toOption.any (fun c ↦
      decide (c.rowCount * c.lineHeight < Bounded.pixelBound ∧
        ∀ r ∈ c.rows, r.text.length * 10 < Bounded.coordinateBound) &&
      (offsetToVisual c b m 12).toOption.any fun place ↦
        place.row == 0 && place.x == 120) = true := by
    decide +kernel
  obtain ⟨c, hc, hcheck⟩ := exists_of_any hcheck
  rw [Bool.and_eq_true, decide_eq_true_eq] at hcheck
  obtain ⟨⟨hb, hnarrow⟩, hcheck⟩ := hcheck
  obtain ⟨place, hplace, hcheck⟩ := exists_of_any hcheck
  rw [Bool.and_eq_true, beq_iff_eq, beq_iff_eq] at hcheck
  obtain ⟨hrow, hx⟩ := hcheck
  have hm : ∀ r ∈ c.rows, m.Increases r.text := fun r hr ↦
    Measure.increases_perChar (by decide) (hnarrow r hr)
  obtain ⟨-, hback⟩ := visualToOffset_offsetToVisual LayoutCache.sound_fresh hc hm
    (show 12 ≤ b.length by decide)
  have hoffset := hback place hplace
  rw [hrow, hx] at hoffset
  exact ⟨c, place, hc, hplace, hrow, hx, hoffset⟩

end EditBox.Layout
