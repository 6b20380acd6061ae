import EditBox.Proofs.Text.Pieces
import Mathlib.Data.List.TakeWhile

/-!
# Spans of words

A double click selects the word characters around an offset. `WordSpan` says which span that is: it
holds word characters only, lies on one line, and cannot be made longer at either end. There is one
such span (`WordSpan.unique`), and it is the same for every offset in it, so `word_at_selects_run`
concludes that clicks anywhere in a word select the same span.
-/

namespace EditBox.Text

/-- The word characters `[first, last)` around an offset on the line `[start, stop)` of a text: as
many as there are before it, and as many as there are from it on. -/
structure WordSpan (text : List Char) (start stop offset first last : Nat) : Prop where
  start_le : start ≤ first
  first_le : first ≤ offset
  le_last : offset ≤ last
  le_stop : last ≤ stop
  inside : ∀ i, first ≤ i → i < last → text[i]?.map isWordChar = some true
  /-- The span begins the line or follows a character that is not part of a word. -/
  opens : start < first → text[first - 1]?.map isWordChar = some false
  /-- The span ends the line or is followed by a character that is not part of a word. -/
  closes : last < stop → text[last]?.map isWordChar = some false

namespace WordSpan

variable {text : List Char} {start stop offset other first last first' last' : Nat}

private theorem reaches (h : WordSpan text start stop offset first last)
    (h' : WordSpan text start stop offset first' last') : first ≤ first' ∧ last' ≤ last := by
  obtain ⟨-, hfirst, hlast, -, -, hopens, hcloses⟩ := h
  obtain ⟨hstart, hfirst', hlast', hstop, hinside, -, -⟩ := h'
  constructor
  · -- Otherwise the character before the span is one of the other span.
    refine Nat.not_lt.mp fun hlt ↦ ?_
    have hbefore := hopens (by omega)
    rw [hinside (first - 1) (by omega) (by omega)] at hbefore
    cases hbefore
  · refine Nat.not_lt.mp fun hlt ↦ ?_
    have hbehind := hcloses (by omega)
    rw [hinside last (by omega) hlt] at hbehind
    cases hbehind

/-- An offset has only one span. -/
theorem unique (h : WordSpan text start stop offset first last)
    (h' : WordSpan text start stop offset first' last') : first' = first ∧ last' = last := by
  have := h.reaches h'
  have := h'.reaches h
  omega

private theorem move (h : WordSpan text start stop offset first last) (hfirst : first ≤ other)
    (hlast : other ≤ last) : WordSpan text start stop other first last :=
  ⟨h.start_le, hfirst, hlast, h.le_stop, h.inside, h.opens, h.closes⟩

private theorem empty (text : List Char) : WordSpan text start start start start start where
  start_le := Nat.le_refl start
  first_le := Nat.le_refl start
  le_last := Nat.le_refl start
  le_stop := Nat.le_refl start
  inside _ hi hlt := absurd hlt (Nat.not_lt.mpr hi)
  opens hpos := absurd hpos (Nat.lt_irrefl start)
  closes hlt := absurd hlt (Nat.lt_irrefl start)

/-- Word characters between others, or at an end of the line, are the span of the offsets among
them. -/
theorem of_append {before word after : List Char} (hword : ∀ c ∈ word, isWordChar c = true)
    (hbefore : ∀ c ∈ before.getLast?, isWordChar c = false)
    (hafter : ∀ c ∈ after.head?, isWordChar c = false) (hfirst : before.length ≤ offset)
    (hlast : offset ≤ before.length + word.length) :
    WordSpan (before ++ (word ++ after)) 0 (before ++ (word ++ after)).length offset before.length
      (before.length + word.length) := by
  refine ⟨Nat.zero_le _, hfirst, hlast, ?_, fun i hi hlt ↦ ?_, fun hpos ↦ ?_, fun hlt ↦ ?_⟩
  · simp only [List.length_append]
    omega
  · have hin : i - before.length < word.length := by omega
    rw [List.getElem?_append_right hi, List.getElem?_append_left hin, List.getElem?_eq_getElem hin,
      Option.map_some, hword _ (List.getElem_mem hin)]
  · have hne := List.ne_nil_of_length_pos hpos
    have hlast := List.getLast?_eq_some_getLast hne
    rw [List.getElem?_append_left (by omega), ← List.getLast?_eq_getElem?, hlast, Option.map_some,
      hbefore _ hlast]
  · rw [List.getElem?_append_right (Nat.le_add_right _ _), Nat.add_sub_cancel_left,
      List.getElem?_append_right (Nat.le_refl _), Nat.sub_self]
    cases after with
    | nil => simp at hlt
    | cons c rest => exact congrArg some (hafter c rfl)

private theorem of_line
    (h : WordSpan ((text.take stop).drop start) 0 (stop - start) offset first last)
    (hle : start ≤ stop) :
    WordSpan text start stop (start + offset) (start + first) (start + last) := by
  have hline (i : Nat) (hi : i < stop - start) :
      ((text.take stop).drop start)[i]? = text[start + i]? := by
    rw [List.getElem?_drop, List.getElem?_take_of_lt (by omega)]
  obtain ⟨-, hfirst, hlast, hstop, hinside, hopens, hcloses⟩ := h
  refine ⟨by omega, by omega, by omega, by omega, fun i hi hlt ↦ ?_, fun hpos ↦ ?_, fun hlt ↦ ?_⟩
  · have := hinside (i - start) (by omega) (by omega)
    rwa [hline _ (by omega), Nat.add_sub_cancel' (by omega)] at this
  · have := hopens (by omega)
    rwa [hline _ (by omega), ← Nat.add_sub_assoc (by omega)] at this
  · have := hcloses (by omega)
    rwa [hline _ (by omega)] at this

end WordSpan

/-- A scan cuts some characters into the word characters that it passes and what it leaves, which
does not begin with another word character. -/
theorem exists_word_append (chars : List Char) :
    ∃ word rest, chars = word ++ rest ∧ (∀ c ∈ word, isWordChar c = true) ∧
      (∀ c ∈ rest.head?, isWordChar c = false) ∧
      (chars.dropWhile isWordChar).length = rest.length :=
  ⟨_, _, List.takeWhile_append_dropWhile.symm, fun _ hc ↦ List.mem_takeWhile_imp hc,
    fun _ hc ↦ of_mem_head?_dropWhile hc, rfl⟩

/-- A scan back cuts some characters into what it leaves and the word characters that it passes. -/
theorem exists_append_word (chars : List Char) :
    ∃ rest word, chars = rest ++ word ∧ (∀ c ∈ word, isWordChar c = true) ∧
      (∀ c ∈ rest.getLast?, isWordChar c = false) ∧
      (chars.reverse.dropWhile isWordChar).length = rest.length := by
  obtain ⟨word, rest, hcut, hword, hrest, hlength⟩ := exists_word_append chars.reverse
  refine ⟨rest.reverse, word.reverse, ?_, fun c hc ↦ hword c (List.mem_reverse.mp hc), ?_, ?_⟩
  · rw [← List.reverse_append, ← hcut, List.reverse_reverse]
  · rwa [List.getLast?_reverse]
  · rw [hlength, List.length_reverse]

/-- The scans to both sides of a column find the span of the character there, and at the end of the
line that of the last character. -/
theorem wordSpan_wordBounds (line : List Char) (col : Nat) :
    WordSpan line 0 line.length (min col (line.length - 1)) (wordBounds line col).1
      (wordBounds line col).2 := by
  unfold wordBounds
  generalize hcol : min col (line.length - 1) = pos
  split
  · next hempty =>
    rw [List.isEmpty_iff] at hempty
    subst hempty
    obtain rfl : pos = 0 := by simpa using hcol.symm
    exact .empty []
  · obtain ⟨before, left, hleft, hleftWord, hbefore, hfirst⟩ := exists_append_word (line.take pos)
    obtain ⟨right, after, hright, hrightWord, hafter, hlast⟩ := exists_word_append (line.drop pos)
    have hline : before ++ (left ++ right ++ after) = line := by
      rw [List.append_assoc, ← List.append_assoc before, ← hleft, ← hright,
        List.take_append_drop]
    have hword : ∀ c ∈ left ++ right, isWordChar c = true := fun c hc ↦
      (List.mem_append.mp hc).elim (hleftWord c) (hrightWord c)
    -- The column is where the two scans began.
    have hpos : before.length + left.length = pos := by
      rw [← List.length_append, ← hleft, List.length_take]
      omega
    have hstop : pos ≤ before.length + (left ++ right).length := by
      rw [List.length_append]
      omega
    have hspan := WordSpan.of_append hword hbefore hafter (by omega) hstop
    have hend : line.length - after.length = before.length + (left ++ right).length := by
      rw [← hline]
      simp only [List.length_append]
      omega
    rw [hline] at hspan
    dsimp only
    rwa [hfirst, hlast, hend]

/-- Offset of the character that an offset of the line `[start, stop)` stands for: at the end of the
line that of the last character, and on an empty line the start of the line. -/
def characterUnder (start stop offset : Nat) : Nat :=
  if start = stop then start else min offset (stop - 1)

namespace LineAt

variable {text : List Char} {offset start stop : Nat}

private theorem characterUnder_eq (h : LineAt text offset start stop) :
    characterUnder start stop offset = start + min (offset - start) (stop - start - 1) := by
  have := h.start_le
  have := h.le_stop
  rw [characterUnder]
  split
  · omega
  · omega

/-- The scans from the column of an offset find the span of its character. -/
theorem wordSpan (h : LineAt text offset start stop) :
    WordSpan text start stop (characterUnder start stop offset)
      (start + (wordBounds ((text.take stop).drop start) (offset - start)).1)
      (start + (wordBounds ((text.take stop).drop start) (offset - start)).2) := by
  have hlength : ((text.take stop).drop start).length = stop - start := by
    rw [List.length_drop, List.length_take, Nat.min_eq_left h.stop_le]
  have hspan := wordSpan_wordBounds ((text.take stop).drop start) (offset - start)
  rw [hlength] at hspan
  rw [h.characterUnder_eq]
  exact hspan.of_line (Nat.le_trans h.start_le h.le_stop)

end LineAt

namespace Motion

variable {b : Buffer} {offset other start stop first last : Nat}

/-- The word under an offset is what the scans from its column find, if the next line has a
number. -/
theorem wordAt_eq (h : LineAt b.chars offset start stop)
    (hs : b.lineStart (b.lineOf offset) = .ok start)
    (he : b.lineEnd (b.lineOf offset) =
      if b.lineOf offset + 1 < Bounded.offsetBound then .ok stop else .error .addOverflow) :
    wordAt b offset =
      if b.lineOf offset + 1 < Bounded.offsetBound then
        .ok (start + (wordBounds ((b.chars.take stop).drop start) (offset - start)).1,
          start + (wordBounds ((b.chars.take stop).drop start) (offset - start)).2)
      else .error .addOverflow := by
  have hle : offset ≤ b.length := Nat.le_trans h.le_stop h.stop_le
  rw [wordAt, Nat.min_eq_left hle, place_eq hs h.start_le, Fault.ok_bind, lineText_eq h hs he]
  split
  · rfl
  · rfl

private theorem wordAt_min (b : Buffer) (offset : Nat) :
    wordAt b (min offset b.length) = wordAt b offset := by
  rw [wordAt, wordAt, Nat.min_eq_left (Nat.min_le_right offset b.length)]

/-- An offset has a word exactly when the line after its own has a number, and then it is the span
of the character that the offset stands for, on the line of the offset. -/
theorem exists_line_wordAt_iff (h : offset ≤ b.length) :
    ∃ start stop, LineAt b.chars offset start stop ∧
      ∀ other, start ≤ other → other ≤ stop → ∀ first last,
        wordAt b other = .ok (first, last) ↔
          b.lineOf offset + 1 < Bounded.offsetBound ∧
            WordSpan b.chars start stop (characterUnder start stop other) first last := by
  obtain ⟨start, stop, hl, hs, he⟩ := Buffer.exists_lineAt h
  refine ⟨start, stop, hl, fun other hstart hstop first last ↦ ?_⟩
  have hother := hl.move hstart hstop
  -- The other offset is on the same line, so the same look-ups answer for it.
  have hline : b.lineOf other = b.lineOf offset := by
    rw [b.lineOf_eq_count, b.lineOf_eq_count, hl.count_take, hother.count_take]
  rw [← hline] at hs he ⊢
  rw [wordAt_eq hother hs he]
  split
  · next hnumber =>
    rw [Except.ok.injEq, Prod.mk.injEq]
    constructor
    · rintro ⟨rfl, rfl⟩
      exact ⟨hnumber, hother.wordSpan⟩
    · rintro ⟨-, hspan⟩
      exact (hspan.unique hother.wordSpan)
  · next hnumber => simp [hnumber]

/-- The word under an offset, which past the end of the text counts as its end, lies on the line of
the offset. It consists of word characters, it cannot be made longer on that line, and it is around
the character that the offset stands for. There is such a word whenever the line after that of the
offset has a number. And from anywhere in the word the same word is found. -/
theorem word_at_selects_run (b : Buffer) (offset : Nat) :
    ∃ start stop, LineAt b.chars (min offset b.length) start stop ∧
      (b.lineOf (min offset b.length) + 1 < Bounded.offsetBound ↔
        ∃ first last, wordAt b offset = .ok (first, last)) ∧
      ∀ first last, wordAt b offset = .ok (first, last) →
        WordSpan b.chars start stop (characterUnder start stop (min offset b.length)) first last ∧
        ∀ other, first ≤ other → other < last → wordAt b other = .ok (first, last) := by
  obtain ⟨start, stop, hl, hword⟩ := exists_line_wordAt_iff (Nat.min_le_right offset b.length)
  have hoffset := hword _ hl.start_le hl.le_stop
  rw [wordAt_min] at hoffset
  refine ⟨start, stop, hl, ?_, fun first last h ↦ ?_⟩
  · constructor
    · exact fun hnumber ↦ ⟨_, _, (hoffset _ _).mpr ⟨hnumber, hl.wordSpan⟩⟩
    · rintro ⟨first, last, h⟩
      exact ((hoffset first last).mp h).1
  · obtain ⟨hnumber, hspan⟩ := (hoffset first last).mp h
    refine ⟨hspan, fun other hfirst hlast ↦ ?_⟩
    have hstart := hspan.start_le
    have hstop := hspan.le_stop
    -- A character is under the offset before it.
    have hunder : characterUnder start stop other = other := by
      rw [characterUnder, if_neg (by omega)]
      omega
    refine (hword other (by omega) (by omega) first last).mpr ⟨hnumber, ?_⟩
    rw [hunder]
    exact hspan.move hfirst (Nat.le_of_lt hlast)

/-- A click on the mark behind a word selects the word, as does a click in it; a click at the end of
the line selects the last word of the line. -/
theorem word_at_selects_run_mark :
    let b := Buffer.ofText "x\na_1: éb\n\n".toList
    wordAt b 5 = .ok (2, 5) ∧ wordAt b 3 = .ok (2, 5) ∧
      wordAt b 9 = .ok (7, 9) ∧ wordAt b 7 = .ok (7, 9) := by
  intro b
  obtain ⟨start, stop, -, -, hmark⟩ := word_at_selects_run b 5
  obtain ⟨start', stop', -, -, hend⟩ := word_at_selects_run b 9
  have hfive : wordAt b 5 = .ok (2, 5) := by decide +kernel
  have hnine : wordAt b 9 = .ok (7, 9) := by decide +kernel
  exact ⟨hfive, (hmark 2 5 hfive).2 3 (by decide) (by decide), hnine,
    (hend 7 9 hnine).2 7 (by decide) (by decide)⟩

end Motion

end EditBox.Text
