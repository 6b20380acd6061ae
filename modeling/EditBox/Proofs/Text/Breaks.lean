import EditBox.Text.LineBreak

/-!
# Counted line breaks

A normalized text has one line feed for each line break of the text it was made from, whatever the
style of the break. Without normalizing, the breaks that are lone carriage returns go uncounted.
-/

namespace EditBox.Text

/-- Each line break becomes one line feed. -/
theorem count_normalize (text : List Char) :
    (normalize text).count '\n' = (lineBreaks text).length := by
  fun_induction lineBreaks text with
  | case1 => rfl
  | case2 rest ih => simp [normalize, ih]
  | case3 rest hlf ih => simp [normalize, ih]
  | case4 rest ih => simp [normalize, ih]
  | case5 c rest hcrlf hcr hlf ih =>
    rw [normalize, List.count_cons_of_ne hlf, ih]
    · exact hcrlf
    · exact hcr

/-- The line breaks of a text are its line feeds and its lone carriage returns. -/
theorem length_lineBreaks (text : List Char) :
    (lineBreaks text).length = text.count '\n' + (lineBreaks text).count .cr := by
  fun_induction lineBreaks text with
  | case1 => rfl
  | case2 rest ih =>
    simp [ih]
    omega
  | case3 rest hlf ih =>
    simp [ih]
    omega
  | case4 rest ih =>
    simp [ih]
    omega
  | case5 c rest hcrlf hcr hlf ih => rw [ih, List.count_cons_of_ne hlf]

/-- The line breaks of a text without carriage returns are its line feeds. -/
theorem length_lineBreaks_of_cr_notMem {text : List Char} (h : '\r' ∉ text) :
    (lineBreaks text).length = text.count '\n' := by
  rw [← count_normalize, normalize_eq_self h]

/-- The breaks of a text without carriage returns are line feeds. -/
theorem eq_lf_of_mem_lineBreaks {text : List Char} (h : '\r' ∉ text) {style : LineEnding}
    (hs : style ∈ lineBreaks text) : style = .lf := by
  fun_induction lineBreaks text with
  | case1 => cases hs
  | case2 rest ih => simp at h
  | case3 rest _ ih => simp at h
  | case4 rest ih =>
    rcases List.mem_cons.mp hs with rfl | hs
    · rfl
    · exact ih (fun hr ↦ h (List.mem_cons_of_mem _ hr)) hs
  | case5 c rest _ _ _ ih => exact ih (fun hr ↦ h (List.mem_cons_of_mem _ hr)) hs

end EditBox.Text
