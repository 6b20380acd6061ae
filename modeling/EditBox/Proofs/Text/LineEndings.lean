import EditBox.Proofs.Text.Normalization

/-!
# Styles of line breaks

What the report on a text says about its line breaks, compared with the places in the text where
breaks of each style stand (`LineEnding.occurrences`). If there is only one style, putting its
characters back in place of the line feeds restores the text: `style_restores_text` is the main
statement.
-/

namespace EditBox.Text

namespace LineEnding

/-- Whether a break of a style stands at an index of a text. A carriage return and the line feed
after it are one break, and none of another style stands at either of them. -/
def standsAt (text : List Char) (i : Nat) : LineEnding → Bool
  | lf => text[i]? == some '\n' && (i == 0 || text[i - 1]? != some '\r')
  | crlf => text[i]? == some '\r' && text[i + 1]? == some '\n'
  | cr => text[i]? == some '\r' && text[i + 1]? != some '\n'

/-- Number of places in a text where a break of a style stands. -/
def occurrences (style : LineEnding) (text : List Char) : Nat :=
  (List.range text.length).countP fun i ↦ style.standsAt text i

private theorem exists_iff {p : LineEnding → Prop} : (∃ style, p style) ↔ p crlf ∨ p lf ∨ p cr := by
  constructor
  · rintro ⟨style, h⟩
    cases style <;> simp [h]
  · rintro (h | h | h) <;> exact ⟨_, h⟩

/-- Place of a style among equally frequent ones. -/
def precedence : LineEnding → Nat
  | crlf => 0
  | lf => 1
  | cr => 2

variable {style : LineEnding} {c d : Char} {rest : List Char}

private theorem standsAt_cons_cons (c d : Char) (rest : List Char) (i : Nat) (style : LineEnding) :
    style.standsAt (c :: d :: rest) (i + 2) = style.standsAt (d :: rest) (i + 1) := by
  cases style <;> simp [standsAt]

private theorem standsAt_cons (h : c = '\r' → rest.head? ≠ some '\n') (i : Nat)
    (style : LineEnding) :
    style.standsAt (c :: rest) (i + 1) = style.standsAt rest i := by
  cases style with
  | lf =>
    cases i with
    | zero =>
      cases rest with
      | nil => simp [standsAt]
      | cons d tail =>
        by_cases hd : d = '\n' <;> by_cases hc : c = '\r' <;> simp_all [standsAt]
    | succ i => simp [standsAt]
  | crlf => simp [standsAt]
  | cr => simp [standsAt]

private theorem occurrences_cons (h : c = '\r' → rest.head? ≠ some '\n') (style : LineEnding) :
    style.occurrences (c :: rest) =
      style.occurrences rest + if style.standsAt (c :: rest) 0 then 1 else 0 := by
  rw [occurrences, List.length_cons, List.range_succ_eq_map, List.countP_cons, List.countP_map]
  congr 1
  apply List.countP_congr
  intro i _
  simp only [Function.comp_apply, standsAt_cons h]

private theorem occurrences_crlf (rest : List Char) (style : LineEnding) :
    style.occurrences ('\r' :: '\n' :: rest) =
      style.occurrences rest + if style = crlf then 1 else 0 := by
  have hbehind (i : Nat) : style.standsAt ('\r' :: '\n' :: rest) (i + 2) =
      style.standsAt rest i := by
    rw [standsAt_cons_cons, standsAt_cons fun h ↦ absurd h (by decide)]
  have hfront : style.standsAt ('\r' :: '\n' :: rest) 0 = decide (style = crlf) := by
    cases style <;> rfl
  have hwithin : style.standsAt ('\r' :: '\n' :: rest) 1 = false := by
    cases style <;> rfl
  simp [occurrences, List.range_succ_eq_map, List.countP_cons, List.countP_map, Function.comp_def,
    hbehind, hfront, hwithin]

end LineEnding

section LineBreaks

variable {rest : List Char} {c : Char}

/-- A carriage return without a line feed after it is a break. -/
theorem lineBreaks_cr (h : rest.head? ≠ some '\n') :
    lineBreaks ('\r' :: rest) = .cr :: lineBreaks rest := by
  rw [lineBreaks]
  rintro tail rfl
  exact h rfl

/-- Of all other characters only the line feed is a break. -/
theorem lineBreaks_cons (h : c ≠ '\r') :
    lineBreaks (c :: rest) = (if c = '\n' then [.lf] else []) ++ lineBreaks rest := by
  split
  · next hlf =>
    subst hlf
    rw [lineBreaks]
    rfl
  · next hlf =>
    rw [lineBreaks]
    · rfl
    · rintro - rfl
      exact absurd rfl h
    · exact h
    · exact hlf

/-- The breaks that a scan finds are those that stand in the text. -/
theorem count_lineBreaks (style : LineEnding) (text : List Char) :
    (lineBreaks text).count style = style.occurrences text := by
  induction text using normalize_induction with
  | nil => rfl
  | crlf rest ih =>
    rw [lineBreaks, LineEnding.occurrences_crlf, ← ih, List.count_cons]
    cases style <;> rfl
  | cr rest h ih =>
    rw [lineBreaks_cr h, LineEnding.occurrences_cons (fun _ ↦ h), ← ih, List.count_cons]
    cases style <;> simp [LineEnding.standsAt, ← List.head?_eq_getElem?, h]
  | cons c rest h ih =>
    rw [lineBreaks_cons h, LineEnding.occurrences_cons (fun hc ↦ absurd hc h), ← ih,
      List.count_append, Nat.add_comm]
    by_cases hlf : c = '\n' <;> cases style <;> simp [LineEnding.standsAt, h, hlf]

private theorem lineBreaks_ne_nil_iff (text : List Char) :
    lineBreaks text ≠ [] ↔ '\r' ∈ text ∨ '\n' ∈ text := by
  induction text using normalize_induction with
  | nil => simp [lineBreaks]
  | crlf rest ih => simp [lineBreaks]
  | cr rest h ih => simp [lineBreaks_cr h]
  | cons c rest h ih =>
    have hcr : '\r' ≠ c := Ne.symm h
    rw [lineBreaks_cons h]
    by_cases hlf : c = '\n'
    · simp [hlf]
    · have hlf' : '\n' ≠ c := Ne.symm hlf
      rw [if_neg hlf, List.nil_append, ih]
      simp [hcr, hlf']

/-- If all breaks of a text have one style, the text comes back when its characters are put in
place of the line feeds. -/
theorem replaceAll_normalize {style : LineEnding} (text : List Char)
    (h : ∀ other ∈ lineBreaks text, other = style) :
    replaceAll LineEnding.lf.chars style.chars (normalize text) = text := by
  have hfeed (rest : List Char) : replaceAll ['\n'] style.chars ('\n' :: rest) =
      style.chars ++ replaceAll ['\n'] style.chars rest :=
    replaceAll_append (List.cons_ne_nil _ _)
  simp only [LineEnding.chars] at hfeed ⊢
  induction text using normalize_induction with
  | nil => rw [normalize, replaceAll_nil]
  | crlf rest ih =>
    rw [lineBreaks, List.forall_mem_cons] at h
    obtain ⟨rfl, hrest⟩ := h
    rw [normalize_crlf, hfeed, ih hrest]
    rfl
  | cr rest hlf ih =>
    rw [lineBreaks_cr hlf, List.forall_mem_cons] at h
    obtain ⟨rfl, hrest⟩ := h
    rw [normalize_cr hlf, hfeed, ih hrest]
    rfl
  | cons c rest hcr ih =>
    rw [lineBreaks_cons hcr, List.forall_mem_append] at h
    obtain ⟨hfront, hrest⟩ := h
    rw [normalize_cons hcr]
    by_cases hlf : c = '\n'
    · subst hlf
      obtain rfl : LineEnding.lf = style := hfront _ (by simp)
      rw [hfeed, ih hrest]
      rfl
    · rw [replaceAll_cons (by simpa [List.cons_prefix_cons] using Ne.symm hlf), ih hrest]

end LineBreaks

section Dominant

variable {styles : List LineEnding}

/-- A pair of characters is dominant if it occurs and neither of the others is more frequent, a line
feed if it is more frequent than pairs or there are none, and else the carriage return. -/
theorem dominant_cases (styles : List LineEnding) :
    (dominant styles = .crlf ∧ 0 < styles.count .crlf ∧ styles.count .lf ≤ styles.count .crlf ∧
      styles.count .cr ≤ styles.count .crlf) ∨
    (dominant styles = .lf ∧ styles.count .cr ≤ styles.count .lf ∧
      (styles.count .crlf < styles.count .lf ∨ styles.count .crlf = 0)) ∨
    (dominant styles = .cr ∧ styles.count .lf < styles.count .cr ∧
      styles.count .crlf < styles.count .cr) := by
  simp only [dominant]
  split
  · next h => exact .inl ⟨rfl, h⟩
  · split
    · exact .inr (.inl ⟨rfl, by omega, by omega⟩)
    · exact .inr (.inr ⟨rfl, by omega, by omega⟩)

/-- No style is more frequent than the dominant one. -/
theorem count_le_count_dominant (styles : List LineEnding) (style : LineEnding) :
    styles.count style ≤ styles.count (dominant styles) := by
  obtain ⟨hd, h⟩ | ⟨hd, h⟩ | ⟨hd, h⟩ := dominant_cases styles <;> rw [hd] <;>
    cases style <;> omega

private theorem dominant_mem (h : styles ≠ []) : dominant styles ∈ styles := by
  obtain ⟨style, hstyle⟩ := List.exists_mem_of_ne_nil styles h
  apply List.count_pos_iff.mp
  exact Nat.lt_of_lt_of_le (List.count_pos_iff.mpr hstyle) (count_le_count_dominant styles style)

private theorem precedence_dominant_le (h : styles ≠ []) {style : LineEnding}
    (heq : styles.count style = styles.count (dominant styles)) :
    (dominant styles).precedence ≤ style.precedence := by
  have hpos := List.count_pos_iff.mpr (dominant_mem h)
  obtain ⟨hd, h⟩ | ⟨hd, h⟩ | ⟨hd, h⟩ := dominant_cases styles <;> rw [hd] at heq hpos ⊢ <;>
    cases style <;> simp only [LineEnding.precedence] <;> omega

end Dominant

private theorem NormalizedText.mixed_of_iff (text : List Char) :
    (NormalizedText.of text).mixed = true ↔
      ∃ a b, a ≠ b ∧ a ∈ lineBreaks text ∧ b ∈ lineBreaks text := by
  simp only [NormalizedText.of, decide_eq_true_eq, LineEnding.exists_iff]
  by_cases hcrlf : .crlf ∈ lineBreaks text <;> by_cases hlf : .lf ∈ lineBreaks text <;>
    by_cases hcr : .cr ∈ lineBreaks text <;> simp [hcrlf, hlf, hcr]

/-- The report on a text says what its breaks look like. If they are not mixed, the text comes back
when the characters of the reported style are put in place of the line feeds. If there are breaks,
the reported style stands in most places, and is the first of those that do, in the order of
precedence; without a break it is the line feed. And the breaks are reported as mixed exactly when
those of two styles stand in the text. -/
theorem style_restores_text (text : List Char) :
    let report := NormalizedText.of text
    (report.mixed = false →
      replaceAll LineEnding.lf.chars report.style.chars report.text = text) ∧
    (if '\r' ∈ text ∨ '\n' ∈ text then
      0 < report.style.occurrences text ∧
      ∀ style : LineEnding, style.occurrences text ≤ report.style.occurrences text ∧
        (style.occurrences text = report.style.occurrences text →
          report.style.precedence ≤ style.precedence)
    else report.style = .lf) ∧
    (report.mixed = true ↔
      ∃ a b : LineEnding, a ≠ b ∧ 0 < a.occurrences text ∧ 0 < b.occurrences text) := by
  have hmixed := NormalizedText.mixed_of_iff text
  have hstyle : (NormalizedText.of text).style = dominant (lineBreaks text) := rfl
  simp only [← count_lineBreaks, List.count_pos_iff, ← lineBreaks_ne_nil_iff, hstyle]
  refine ⟨fun hpure ↦ ?_, ?_, hmixed⟩
  · apply replaceAll_normalize
    intro other hother
    by_cases hne : other = dominant (lineBreaks text)
    · exact hne
    · have hmem := dominant_mem (List.ne_nil_of_mem hother)
      rw [hmixed.mpr ⟨other, _, hne, hother, hmem⟩] at hpure
      cases hpure
  · split
    · next hne =>
      exact ⟨dominant_mem hne, fun style ↦
        ⟨count_le_count_dominant _ style, precedence_dominant_le hne⟩⟩
    · next hnil =>
      rw [Decidable.not_not.mp hnil]
      rfl

/-- Two pairs in a row are put back. -/
theorem style_restores_text_crlf :
    let text := "a\r\n\r\nb".toList
    (NormalizedText.of text).mixed = false ∧
      replaceAll ['\n'] ['\r', '\n'] "a\n\nb".toList = text := by
  intro text
  have hpure : (NormalizedText.of text).mixed = false := by decide +kernel
  exact ⟨hpure, (style_restores_text text).1 hpure⟩

end EditBox.Text
