import EditBox.Proofs.Text.Pieces
import Mathlib.Data.List.TakeWhile

/-!
# Greedy matches of white space and a word

A scan passes white space and then word characters. `exists_greedyMatch` says that it passes the
greedy match: as much white space as there is, and no other match reaches further. No character is
both white space and part of a word, so white space that a match leaves out is not made up for by a
longer word. The scan to the left is the mirror image of the scan to the right.
-/

namespace EditBox.Text

open Unicode

/-- Code points of the white space characters. -/
def spaceCodes : List Nat :=
  List.range' 0x0009 5 ++ [0x0020, 0x0085, 0x00A0, 0x1680] ++ List.range' 0x2000 11 ++
    [0x2028, 0x2029, 0x202F, 0x205F, 0x3000]

private theorem mem_spaceCodes {n : Nat} (h : whiteSpace.contains n = true) : n ∈ spaceCodes := by
  simp only [RangeSet.contains, RangeSet.rank, whiteSpace, List.size_toArray, List.length_cons,
    List.length_nil, Nat.zero_add, Nat.reduceAdd, RangeSet.bisect, Nat.zero_lt_succ, ↓reduceIte,
    Nat.reduceDiv, Array.getD_eq_getD_getElem?, Nat.reduceLT, getElem?_pos, List.getElem_toArray,
    List.getElem_cons_succ, List.getElem_cons_zero, Option.getD_some, Nat.lt_add_one, Nat.lt_irrefl,
    Nat.div_self, beq_iff_eq] at h
  simp only [spaceCodes, List.mem_append, List.mem_range'_1, List.mem_cons, List.not_mem_nil]
  -- One case for each place among the bounds at which the bisection can end.
  repeat' split at h
  all_goals omega

private theorem isWordChar_of_isSpace {c : Char} (h : isSpace c = true) : isWordChar c = false := by
  have hcodes : ∀ n ∈ spaceCodes, isWordChar (Char.ofNat n) = false := by decide +kernel
  have hc := hcodes c.toNat (mem_spaceCodes h)
  rwa [Char.ofNat_toNat] at hc

/-- Some characters begin with white space and word characters after it. Both may be missing. -/
structure Matches (chars blanks word : List Char) : Prop where
  begins : blanks ++ word <+: chars
  blank : ∀ c ∈ blanks, isSpace c = true
  wordChar : ∀ c ∈ word, isWordChar c = true

/-- The greedy match takes all the white space, and no match reaches further. -/
structure GreedyMatch (chars blanks word : List Char) : Prop extends Matches chars blanks word where
  most_blanks : ∀ blanks' word', Matches chars blanks' word' → blanks'.length ≤ blanks.length
  longest : ∀ blanks' word', Matches chars blanks' word' →
    (blanks' ++ word').length ≤ (blanks ++ word).length

private theorem length_le_length_takeWhile {p : Char → Bool} {run chars : List Char}
    (h : run <+: chars) (hp : ∀ c ∈ run, p c = true) :
    run.length ≤ (chars.takeWhile p).length := by
  obtain ⟨rest, rfl⟩ := h
  rw [List.takeWhile_append_of_pos hp, List.length_append]
  exact Nat.le_add_right _ _

private theorem wordRun_cons_of_isSpace {c : Char} (h : isSpace c = true) (rest : List Char) :
    wordRun (c :: rest) = wordRun rest + 1 := by
  rw [wordRun, wordRun, List.takeWhile_cons_of_pos h, List.dropWhile_cons_of_pos h,
    List.length_cons]
  omega

private theorem wordRun_cons_of_not_isSpace {c : Char} (h : isSpace c = false) (rest : List Char) :
    wordRun (c :: rest) = ((c :: rest).takeWhile isWordChar).length := by
  have hc : ¬ isSpace c = true := Bool.eq_false_iff.mp h
  rw [wordRun, List.takeWhile_cons_of_neg hc, List.dropWhile_cons_of_neg hc, List.length_nil,
    Nat.zero_add]

/-- No match reaches beyond the run. -/
theorem Matches.length_le_wordRun {chars blanks word : List Char}
    (h : Matches chars blanks word) : (blanks ++ word).length ≤ wordRun chars := by
  induction blanks generalizing chars with
  | nil =>
    have hword := h.wordChar
    have hbegins := h.begins
    rw [List.nil_append] at hbegins ⊢
    cases word with
    | nil => exact Nat.zero_le _
    | cons c word =>
      -- A word character is not white space, so the run begins with the word.
      obtain ⟨rest, rfl⟩ := hbegins
      have hc : isSpace c = false := by
        have := hword c List.mem_cons_self
        refine Bool.eq_false_iff.mpr fun hspace ↦ ?_
        rw [isWordChar_of_isSpace hspace] at this
        cases this
      rw [List.cons_append, wordRun_cons_of_not_isSpace hc]
      exact length_le_length_takeWhile (List.prefix_append _ _) hword
  | cons c blanks ih =>
    obtain ⟨rest, rfl⟩ := h.begins
    have hc : isSpace c = true := h.blank c List.mem_cons_self
    have hrest : Matches (blanks ++ word ++ rest) blanks word :=
      ⟨List.prefix_append _ _, fun d hd ↦ h.blank d (List.mem_cons_of_mem c hd), h.wordChar⟩
    rw [List.cons_append, List.cons_append, wordRun_cons_of_isSpace hc, List.length_cons]
    exact Nat.succ_le_succ (ih hrest)

/-- The run is the greedy match. -/
theorem exists_greedyMatch (chars : List Char) :
    ∃ blanks word, GreedyMatch chars blanks word ∧ (blanks ++ word).length = wordRun chars := by
  have hlength : (chars.takeWhile isSpace ++
      (chars.dropWhile isSpace).takeWhile isWordChar).length = wordRun chars :=
    List.length_append
  refine ⟨_, _, ⟨⟨?_, ?_, ?_⟩, fun blanks word h ↦ ?_, fun blanks word h ↦ ?_⟩, hlength⟩
  · conv => rhs; rw [← List.takeWhile_append_dropWhile (p := isSpace) (l := chars)]
    exact (List.prefix_append_right_inj _).mpr (List.takeWhile_prefix _)
  · exact fun c hc ↦ List.mem_takeWhile_imp hc
  · exact fun c hc ↦ List.mem_takeWhile_imp hc
  · exact length_le_length_takeWhile ((List.prefix_append _ _).trans h.begins) h.blank
  · rw [hlength]
    exact h.length_le_wordRun

/-- A scan to the left is a scan to the right through the reversed line. -/
theorem scanWordBack_eq_reverse {line : List Char} {col : Nat} (h : col ≤ line.length) :
    scanWordBack line col =
      line.length - scanWordForward line.reverse (line.length - col) := by
  have hback := scanWordBack_add_wordRun h
  have hcol : line.length - col ≤ line.reverse.length := by
    rw [List.length_reverse]
    exact Nat.sub_le _ _
  have hrest : line.length - (line.length - col) = col := Nat.sub_sub_self h
  rw [scanWordForward_eq hcol, List.drop_reverse, hrest]
  omega

/-- What begins the rest of the line after an offset is found behind the offset. -/
theorem drop_take_of_prefix_lineAfter {text run : List Char} {offset : Nat}
    (h : run <+: lineAfter text offset) : (text.take (offset + run.length)).drop offset = run := by
  have hrest : run <+: text.drop offset := h.trans (List.takeWhile_prefix _)
  rw [← List.take_drop]
  exact (List.prefix_iff_eq_take.mp hrest).symm

/-- What begins the line before an offset, read back from the offset, is found before the offset. -/
theorem drop_take_of_prefix_lineBefore {text run : List Char} {offset : Nat}
    (ho : offset ≤ text.length) (h : run <+: lineBefore text offset) :
    (text.take offset).drop (offset - run.length) = run.reverse := by
  have hrest : run <+: (text.take offset).reverse := h.trans (List.takeWhile_prefix _)
  have hsuffix : run.reverse <:+ text.take offset := by
    rwa [← List.reverse_prefix, List.reverse_reverse]
  have heq := List.suffix_iff_eq_drop.mp hsuffix
  rw [List.length_reverse, List.length_take, Nat.min_eq_left ho] at heq
  exact heq.symm

end EditBox.Text
