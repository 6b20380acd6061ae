import EditBox.Proofs.Text.Breaks

/-!
# Normalized text

What normalizing makes of a text, said without the scan that does it: the pairs of a carriage return
and a line feed are replaced first, and the carriage returns that are left after that
(`normalize_eq_replaceAll`). Parts of a text may be normalized one by one, unless a cut goes through
such a pair; then one line feed too many comes out. `normalization_canonical` is the main statement.
-/

namespace EditBox.Text

/-- Text with each occurrence of a pattern replaced, from left to right. -/
def replaceAll (pattern replacement : List Char) : List Char → List Char
  | [] => []
  | c :: rest =>
      if pattern <+: c :: rest then
        replacement ++ replaceAll pattern replacement (rest.drop (pattern.length - 1))
      else c :: replaceAll pattern replacement rest
termination_by text => text.length
decreasing_by all_goals simp only [List.length_drop, List.length_cons]; omega

section ReplaceAll

variable {pattern replacement rest : List Char} {c : Char}

/-- Nothing occurs in an empty text. -/
theorem replaceAll_nil : replaceAll pattern replacement [] = [] := by
  rw [replaceAll]

/-- A pattern at the front is replaced, and the replacement is not looked at again. -/
theorem replaceAll_append (h : pattern ≠ []) :
    replaceAll pattern replacement (pattern ++ rest) =
      replacement ++ replaceAll pattern replacement rest := by
  cases pattern with
  | nil => exact absurd rfl h
  | cons c more => simp [replaceAll]

/-- A character at which the pattern does not occur is kept. -/
theorem replaceAll_cons (h : ¬ pattern <+: c :: rest) :
    replaceAll pattern replacement (c :: rest) = c :: replaceAll pattern replacement rest := by
  rw [replaceAll, if_neg h]

end ReplaceAll

section Normalize

variable {rest : List Char} {c : Char}

/-- A carriage return goes with the line feed after it. -/
@[simp] theorem normalize_crlf (rest : List Char) :
    normalize ('\r' :: '\n' :: rest) = '\n' :: normalize rest := by
  rw [normalize]

/-- A carriage return without a line feed after it becomes one. -/
theorem normalize_cr (h : rest.head? ≠ some '\n') :
    normalize ('\r' :: rest) = '\n' :: normalize rest := by
  rw [normalize]
  rintro tail rfl
  exact h rfl

/-- All other characters are kept. -/
theorem normalize_cons (h : c ≠ '\r') : normalize (c :: rest) = c :: normalize rest := by
  rw [normalize]
  · rintro - rfl
    exact absurd rfl h
  · exact h

/-- A text is read character by character, but for a carriage return that goes with the line feed
after it. -/
@[elab_as_elim]
theorem normalize_induction {motive : List Char → Prop} (nil : motive [])
    (crlf : ∀ rest, motive rest → motive ('\r' :: '\n' :: rest))
    (cr : ∀ rest, rest.head? ≠ some '\n' → motive rest → motive ('\r' :: rest))
    (cons : ∀ c rest, c ≠ '\r' → motive rest → motive (c :: rest)) (text : List Char) :
    motive text := by
  fun_induction normalize text with
  | case1 => exact nil
  | case2 rest ih => exact crlf rest ih
  | case3 rest h ih =>
    refine cr rest (fun hlf ↦ ?_) ih
    obtain ⟨tail, rfl⟩ := List.head?_eq_some_iff.mp hlf
    exact h tail rfl
  | case4 c rest _ h ih => exact cons c rest h ih

/-- Normalizing replaces the pairs of a carriage return and a line feed, and then the carriage
returns that are left. -/
theorem normalize_eq_replaceAll (text : List Char) :
    normalize text = replaceAll LineEnding.cr.chars LineEnding.lf.chars
      (replaceAll LineEnding.crlf.chars LineEnding.lf.chars text) := by
  simp only [LineEnding.chars]
  induction text using normalize_induction with
  | nil => rw [normalize, replaceAll_nil, replaceAll_nil]
  | crlf rest ih =>
    have hpair : replaceAll ['\r', '\n'] ['\n'] ('\r' :: '\n' :: rest) =
        '\n' :: replaceAll ['\r', '\n'] ['\n'] rest :=
      replaceAll_append (List.cons_ne_nil _ _)
    rw [normalize_crlf, hpair, replaceAll_cons (by simp), ih]
  | cr rest h ih =>
    have hlone : ¬ ['\r', '\n'] <+: '\r' :: rest := by
      intro hprefix
      obtain ⟨-, tail, rfl⟩ := List.cons_prefix_cons.mp hprefix
      exact h rfl
    have hfeed (text : List Char) :
        replaceAll ['\r'] ['\n'] ('\r' :: text) = '\n' :: replaceAll ['\r'] ['\n'] text :=
      replaceAll_append (List.cons_ne_nil _ _)
    rw [normalize_cr h, replaceAll_cons hlone, hfeed, ih]
  | cons c rest h ih =>
    have hne : ¬ ['\r', '\n'] <+: c :: rest := by simp [List.cons_prefix_cons, Ne.symm h]
    have hne' (text : List Char) : ¬ ['\r'] <+: c :: text := by
      simp [List.cons_prefix_cons, Ne.symm h]
    rw [normalize_cons h, replaceAll_cons hne, replaceAll_cons (hne' _), ih]

/-- The last character is kept, unless it is a carriage return. -/
theorem getLast?_normalize (text : List Char) :
    (normalize text).getLast? = text.getLast?.map fun c ↦ if c = '\r' then '\n' else c := by
  induction text using normalize_induction with
  | nil => rfl
  | crlf rest ih =>
    rw [normalize_crlf, List.getLast?_cons, List.getLast?_cons, List.getLast?_cons, ih]
    cases rest.getLast? <;> rfl
  | cr rest h ih =>
    rw [normalize_cr h, List.getLast?_cons, List.getLast?_cons, ih]
    cases rest.getLast? <;> rfl
  | cons c rest h ih =>
    rw [normalize_cons h, List.getLast?_cons, List.getLast?_cons, ih]
    cases rest.getLast? <;> simp [h]

/-- Whether a cut goes through a carriage return and the line feed that goes with it. -/
def CutsBreak (before after : List Char) : Prop :=
  before.getLast? = some '\r' ∧ after.head? = some '\n'

private theorem CutsBreak.cons {before after : List Char} (h : CutsBreak before after) (c : Char) :
    CutsBreak (c :: before) after :=
  ⟨by simp [List.getLast?_cons, h.1], h.2⟩

private theorem normalize_append {before after : List Char} (h : ¬ CutsBreak before after) :
    normalize (before ++ after) = normalize before ++ normalize after := by
  induction before using normalize_induction with
  | nil => rfl
  | crlf rest ih =>
    have hrest : ¬ CutsBreak rest after := fun hcut ↦ h ((hcut.cons _).cons _)
    rw [List.cons_append, List.cons_append, normalize_crlf, normalize_crlf, ih hrest]
    rfl
  | cr rest hlf ih =>
    have hrest : ¬ CutsBreak rest after := fun hcut ↦ h (hcut.cons _)
    have hlf' : (rest ++ after).head? ≠ some '\n' := by
      cases rest with
      | nil => exact fun hhead ↦ h ⟨rfl, hhead⟩
      | cons d tail => exact hlf
    rw [List.cons_append, normalize_cr hlf', normalize_cr hlf, ih hrest]
    rfl
  | cons c rest hcr ih =>
    have hrest : ¬ CutsBreak rest after := fun hcut ↦ h (hcut.cons _)
    rw [List.cons_append, normalize_cons hcr, normalize_cons hcr, ih hrest]
    rfl

/-- When a cut goes through a break, each part gets a line feed for it, and the whole text one. -/
theorem normalize_append_of_cutsBreak {before after : List Char} (h : CutsBreak before after) :
    ∃ front back, normalize before = front ++ ['\n'] ∧ normalize after = '\n' :: back ∧
      normalize (before ++ after) = front ++ '\n' :: back := by
  obtain ⟨hlast, hhead⟩ := h
  obtain ⟨front, rfl⟩ := List.getLast?_eq_some_iff.mp hlast
  obtain ⟨back, rfl⟩ := List.head?_eq_some_iff.mp hhead
  have hfront (rest : List Char) : ¬ CutsBreak front ('\r' :: rest) := by simp [CutsBreak]
  refine ⟨normalize front, normalize back, ?_, ?_, ?_⟩
  · exact normalize_append (hfront [])
  · exact normalize_cons (by decide)
  · rw [List.append_assoc, List.singleton_append, normalize_append (hfront _), normalize_crlf]

end Normalize

private theorem NormalizedText.of_of_cr_notMem {text : List Char} (h : '\r' ∉ text) :
    (NormalizedText.of text).text = text ∧ (NormalizedText.of text).style = .lf ∧
      (NormalizedText.of text).mixed = false := by
  have hcrlf : LineEnding.crlf ∉ lineBreaks text := fun hs ↦ by cases eq_lf_of_mem_lineBreaks h hs
  have hcr : LineEnding.cr ∉ lineBreaks text := fun hs ↦ by cases eq_lf_of_mem_lineBreaks h hs
  refine ⟨normalize_eq_self h, ?_, ?_⟩
  · simp [NormalizedText.of, dominant, List.count_eq_zero_of_not_mem hcrlf,
      List.count_eq_zero_of_not_mem hcr]
  · by_cases hlf : LineEnding.lf ∈ lineBreaks text <;>
      simp [NormalizedText.of, hcrlf, hcr, hlf]

/-- The normalized form of a text has no carriage returns, and is the text with the pairs of a
carriage return and a line feed replaced by line feeds and then the carriage returns that are left.
Normalizing it again changes nothing and reports line feeds only. It ends with a line feed exactly
when the text is reported to end with a break. And the parts of a text may be normalized one by
one, unless the cut goes through a break: then the line feed for it comes out twice. -/
theorem normalization_canonical (text : List Char) :
    let report := NormalizedText.of text
    let again := NormalizedText.of report.text
    '\r' ∉ report.text ∧
    report.text = replaceAll LineEnding.cr.chars LineEnding.lf.chars
      (replaceAll LineEnding.crlf.chars LineEnding.lf.chars text) ∧
    (again.text = report.text ∧ again.style = .lf ∧ again.mixed = false) ∧
    (report.text.getLast? = some '\n' ↔ report.hadTrailingNewline = true) ∧
    ∀ before after,
      let whole := NormalizedText.of (before ++ after)
      if before.getLast? = some '\r' ∧ after.head? = some '\n' then
        ∃ front back, (NormalizedText.of before).text = front ++ ['\n'] ∧
          (NormalizedText.of after).text = '\n' :: back ∧ whole.text = front ++ '\n' :: back
      else whole.text = (NormalizedText.of before).text ++ (NormalizedText.of after).text := by
  refine ⟨cr_notMem_normalize text, normalize_eq_replaceAll text,
    NormalizedText.of_of_cr_notMem (cr_notMem_normalize text), ?_, ?_⟩
  · change (normalize text).getLast? = some '\n' ↔ _
    rw [getLast?_normalize]
    simp only [NormalizedText.of, Bool.or_eq_true, beq_iff_eq]
    cases text.getLast? with
    | none => simp
    | some c => by_cases hcr : c = '\r' <;> simp [hcr]
  · intro before after
    split
    · next hcut => exact normalize_append_of_cutsBreak hcut
    · next hcut => exact normalize_append hcut

end EditBox.Text
