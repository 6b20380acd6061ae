import EditBox.Proofs.Text.Lookup

/-!
# Lines as pieces of the text

The lines of a buffer are the pieces into which its line feeds cut the text. `lineOf_eq_count` finds
the line of an offset by the line feeds before it, `lineTexts_splitOn` says that lookups of lines
read the pieces, and `lineText_of_line_replaced` that a change within one line leaves the texts of
all others as they are.
-/

namespace EditBox.Text

/-- As many of the starts after line feeds lie up to an offset as there are line feeds before it. -/
theorem length_takeWhile_startsAfterBreaks (first offset : Nat) (text : List Char) :
    ((startsAfterBreaks first text).takeWhile (· ≤ first + offset)).length =
      (text.take offset).count '\n' := by
  induction text generalizing first offset with
  | nil => simp [startsAfterBreaks]
  | cons c rest ih =>
    cases offset with
    | zero =>
      -- Every start lies behind a line feed, so none is as early as the text itself.
      have hnone : ∀ s ∈ startsAfterBreaks first (c :: rest), ¬ s ≤ first := by
        intro s hs
        obtain ⟨i, -, rfl⟩ := mem_startsAfterBreaks.mp hs
        omega
      cases hstarts : startsAfterBreaks first (c :: rest) with
      | nil => rfl
      | cons s starts =>
        have hs : ¬ s ≤ first + 0 := hnone s (by rw [hstarts]; exact List.mem_cons_self)
        rw [List.takeWhile_cons, if_neg (mt of_decide_eq_true hs)]
        rfl
    | succ offset =>
      have htail := ih (first + 1) offset
      have hshift : first + 1 + offset = first + (offset + 1) := by omega
      rw [hshift] at htail
      rw [List.take_succ_cons]
      by_cases hc : c = '\n'
      · subst hc
        have hfirst : first + 1 ≤ first + (offset + 1) := by omega
        simp only [startsAfterBreaks, if_true, List.takeWhile_cons, hfirst, decide_true,
          List.length_cons, htail, List.count_cons_self]
      · rw [startsAfterBreaks, if_neg hc, htail, List.count_cons_of_ne hc]

private theorem length_splitOn (c : Char) (text : List Char) :
    (text.splitOn c).length = text.count c + 1 := by
  induction text with
  | nil => rfl
  | cons d rest ih =>
    rw [List.splitOn_cons_eq_if_modifyHead]
    by_cases hd : d = c
    · rw [if_pos (beq_iff_eq.mpr hd), List.length_cons, ih, hd, List.count_cons_self]
    · rw [if_neg (mt beq_iff_eq.mp hd), List.length_modifyHead, ih, List.count_cons_of_ne hd]

private theorem getElem?_append_cons_of_ne {α : Type} {earlier later : List α} {x y : α} {i : Nat}
    (h : i ≠ earlier.length) : (earlier ++ x :: later)[i]? = (earlier ++ y :: later)[i]? := by
  rcases Nat.lt_or_gt_of_ne h with hlt | hgt
  · rw [List.getElem?_append_left hlt, List.getElem?_append_left hlt]
  · obtain ⟨k, rfl⟩ := Nat.exists_eq_add_of_lt hgt
    have hk : earlier.length + k + 1 - earlier.length = k + 1 := by omega
    rw [List.getElem?_append_right (by omega), List.getElem?_append_right (by omega), hk,
      List.getElem?_cons_succ, List.getElem?_cons_succ]

/-- The end of some characters at which a line can begin. -/
def EndsLine (text : List Char) : Prop := text = [] ∨ ∃ rest, text = rest ++ ['\n']

/-- The beginning of some characters at which a line can end. -/
def BeginsAfterLine (text : List Char) : Prop := text = [] ∨ ∃ rest, text = '\n' :: rest

/-- Whatever a line between fixed characters holds, it is a piece of its own, and the other pieces
are the same. -/
theorem exists_splitOn_line {before after : List Char} (hb : EndsLine before)
    (ha : BeginsAfterLine after) :
    ∃ earlier later, earlier.length = before.count '\n' ∧
      ∀ line, '\n' ∉ line →
        (before ++ line ++ after).splitOn '\n' = earlier ++ line :: later := by
  obtain ⟨later, hlater⟩ : ∃ later, ∀ line, '\n' ∉ line →
      (line ++ after).splitOn '\n' = line :: later := by
    rcases ha with rfl | ⟨rest, rfl⟩
    · refine ⟨[], fun line hline ↦ ?_⟩
      rw [List.append_nil, List.splitOn_eq_singleton hline]
    · exact ⟨rest.splitOn '\n', fun line hline ↦
        List.splitOn_append_cons_self_of_not_mem hline rest⟩
  rcases hb with rfl | ⟨rest, rfl⟩
  · exact ⟨[], later, rfl, hlater⟩
  · refine ⟨rest.splitOn '\n', later, ?_, fun line hline ↦ ?_⟩
    · rw [length_splitOn, List.count_append, List.count_singleton_self]
    · rw [List.append_assoc, List.append_assoc, List.singleton_append,
        List.splitOn_append_cons_self, hlater line hline]

namespace LineAt

variable {text : List Char} {offset start stop : Nat}

private theorem endsLine (h : LineAt text offset start stop) : EndsLine (text.take start) := by
  cases start with
  | zero => exact .inl List.take_zero
  | succ i =>
    refine .inr ⟨text.take i, ?_⟩
    rw [List.take_add_one, h.opens i rfl]
    rfl

private theorem beginsAfterLine (h : LineAt text offset start stop) :
    BeginsAfterLine (text.drop stop) := by
  by_cases hlt : stop < text.length
  · have hc := h.closes hlt
    rw [List.getElem?_eq_getElem hlt] at hc
    refine .inr ⟨text.drop (stop + 1), ?_⟩
    rw [List.drop_eq_getElem_cons hlt, Option.some.inj hc]
  · exact .inl (List.drop_of_length_le (Nat.not_lt.mp hlt))

/-- No part of a line holds a line feed. -/
theorem break_notMem (h : LineAt text offset start stop) {a b : Nat} (ha : start ≤ a)
    (hb : b ≤ stop) : '\n' ∉ (text.take b).drop a :=
  fun hmem ↦ h.ne_break_of_mem ha hb hmem rfl

private theorem eq_append (h : LineAt text offset start stop) :
    text = text.take start ++ (text.take stop).drop start ++ text.drop stop := by
  rw [← take_eq_append text (Nat.le_trans h.start_le h.le_stop), List.take_append_drop]

/-- The line feeds before an offset are those before its line. -/
theorem count_take (h : LineAt text offset start stop) :
    (text.take offset).count '\n' = (text.take start).count '\n' := by
  have hnone := List.count_eq_zero.mpr (h.break_notMem (Nat.le_refl start) h.le_stop)
  rw [take_eq_append text h.start_le, List.count_append, hnone, Nat.add_zero]

end LineAt

/-- Texts of the lines of a buffer, in order: a lookup of a line reads its text, put together with
line feeds between them they give the text of the buffer back, and none holds a line feed. -/
structure LineTexts (b : Buffer) (texts : List (List Char)) : Prop where
  length_eq : texts.length = b.lineCount
  lineText : ∀ line text, texts[line]? = some text → b.lineText line = .ok text
  joined : ['\n'].intercalate texts = b.chars
  break_notMem : ∀ text ∈ texts, '\n' ∉ text

namespace Buffer

variable {b : Buffer} {line offset : Nat}

/-- The line of an offset is the number of line feeds before it. -/
theorem lineOf_eq_count (b : Buffer) (offset : Nat) :
    b.lineOf offset = (b.chars.take offset).count '\n' := by
  have h := length_takeWhile_startsAfterBreaks 0 offset b.chars
  rw [Nat.zero_add] at h
  rw [lineOf, b.lines_eq, LineIndex.lineOf, LineIndex.of, List.takeWhile_cons,
    if_pos (decide_eq_true (Nat.zero_le offset)), List.length_cons, h, Nat.add_sub_cancel]

/-- Later offsets lie on the same line or a later one. -/
theorem lineOf_mono {first second : Nat} (h : first ≤ second) :
    b.lineOf first ≤ b.lineOf second := by
  rw [lineOf_eq_count, lineOf_eq_count]
  exact (List.take_prefix_take_left h).sublist.count_le _

/-- Offsets from the end of the text on lie on the last line. -/
theorem lineOf_of_length_le (h : b.length ≤ offset) : b.lineOf offset + 1 = b.lineCount := by
  rw [lineOf_eq_count, lineCount_eq, List.take_of_length_le h]

/-- A line ends before the line feed behind which the next one starts. -/
theorem lineEnd_of_next {next : Nat} (hb : line + 1 < Bounded.offsetBound)
    (h : b.lineStart (line + 1) = .ok next) :
    ∃ stop, next = stop + 1 ∧ b.lineEnd line = .ok stop ∧ b.charAt? stop = some '\n' := by
  rw [lineStart, LineIndex.lineStart_eq_ok_iff] at h
  have hentry := h
  rw [b.lines_eq] at hentry
  rcases LineIndex.mem_starts_of.mp (List.mem_of_getElem? hentry) with rfl | ⟨stop, hc, rfl⟩
  · -- Only the first line starts at the start of the text.
    have hfirst : line + 1 ≤ b.lineOf 0 := (start_le_iff hentry).mp (Nat.le_refl 0)
    rw [lineOf_eq_count, List.take_zero, List.count_nil] at hfirst
    omega
  · refine ⟨stop, rfl, ?_, hc⟩
    rw [lineEnd, LineIndex.lineEnd, Bounded.add_eq_ok hb, Fault.ok_bind, h]
    rfl

private theorem break_notMem_of_lineText {text : List Char} (h : b.lineText line = .ok text) :
    '\n' ∉ text := by
  obtain ⟨start, hs, hle, hline⟩ := exists_lineStart_of_lineText h
  have htext := eq_take_of_lineText h hs
  intro hmem
  obtain ⟨i, hi⟩ := List.mem_iff_getElem?.mp hmem
  have hlt := (List.getElem?_eq_some_iff.mp hi).1
  -- A line feed in the line would put the offsets around it on different lines.
  have hbreak : b.chars[start + i]? = some '\n' := by
    rw [htext, List.getElem?_take_of_lt hlt, List.getElem?_drop] at hi
    exact hi
  have hbefore := (hline (start + i) (by omega)).mpr (by omega)
  have hafter := (hline (start + i + 1) (by omega)).mpr (by omega)
  rw [lineOf_eq_count] at hbefore hafter
  rw [List.take_add_one, hbreak, List.count_append, hbefore] at hafter
  simp at hafter

/-- From the start of a line on, the text is that of the line, and then, unless the line is the
last, a line feed and the lines after it. -/
theorem drop_of_lineText {text : List Char} {start : Nat} (h : b.lineText line = .ok text)
    (hs : b.lineStart line = .ok start) :
    (line + 1 = b.lineCount → b.chars.drop start = text) ∧
      ∀ next, b.lineStart (line + 1) = .ok next →
        b.chars.drop start = text ++ '\n' :: b.chars.drop next := by
  have htext := eq_take_of_lineText h hs
  obtain ⟨start', hs', hnext, hlast⟩ := next_of_lineText h
  obtain rfl : start = start' := Except.ok.inj (hs.symm.trans hs')
  constructor
  · intro hline
    have hlength : start + text.length = b.chars.length := hlast hline
    rw [htext, List.take_of_length_le]
    rw [List.length_drop]
    omega
  · intro next hn
    have hstart := hnext (line_lt_of_lineStart hn)
    obtain rfl : next = start + text.length + 1 := Except.ok.inj (hn.symm.trans hstart)
    -- The next line starts behind a line feed, which closes this one.
    rw [lineStart, b.lines_eq, LineIndex.lineStart_eq_ok_iff] at hn
    have hbreak : b.chars[start + text.length]? = some '\n' := by
      rcases LineIndex.mem_starts_of.mp (List.mem_of_getElem? hn) with h0 | ⟨i, hi, he⟩
      · omega
      · obtain rfl : i = start + text.length := by omega
        exact hi
    obtain ⟨hlt, hc⟩ := List.getElem?_eq_some_iff.mp hbreak
    calc b.chars.drop start
        = (b.chars.drop start).take text.length ++ (b.chars.drop start).drop text.length :=
          (List.take_append_drop _ _).symm
      _ = text ++ b.chars.drop (start + text.length) := by rw [← htext, List.drop_drop]
      _ = text ++ '\n' :: b.chars.drop (start + text.length + 1) := by
          rw [List.drop_eq_getElem_cons hlt, hc]

private theorem exists_texts_from {count start : Nat} (hb : b.lineCount < Bounded.offsetBound)
    (hcount : line + (count + 1) = b.lineCount) (hs : b.lineStart line = .ok start) :
    ∃ texts : List (List Char), texts.length = count + 1 ∧
      (∀ i text, texts[i]? = some text → b.lineText (line + i) = .ok text) ∧
      ['\n'].intercalate texts = b.chars.drop start := by
  obtain ⟨text, htext⟩ := exists_lineText (show line < b.lineCount by omega) (by omega)
  obtain ⟨hlast, hnext⟩ := drop_of_lineText htext hs
  induction count generalizing line start text with
  | zero =>
    refine ⟨[text], rfl, fun i text' hi ↦ ?_, ?_⟩
    · obtain ⟨hlt, rfl⟩ := List.getElem?_eq_some_iff.mp hi
      obtain rfl : i = 0 := by simpa using hlt
      exact htext
    · rw [List.intercalate_singleton, hlast hcount]
  | succ count ih =>
    obtain ⟨next, hn⟩ := exists_lineStart_eq_ok (show line + 1 < b.lineCount by omega)
    obtain ⟨text', htext'⟩ := exists_lineText (show line + 1 < b.lineCount by omega) (by omega)
    obtain ⟨hlast', hnext'⟩ := drop_of_lineText htext' hn
    obtain ⟨texts, hlength, htexts, hjoined⟩ := ih (by omega) hn text' htext' hlast' hnext'
    have hne : texts ≠ [] := by
      rintro rfl
      cases hlength
    refine ⟨text :: texts, by rw [List.length_cons, hlength], fun i text' hi ↦ ?_, ?_⟩
    · cases i with
      | zero =>
        obtain rfl : text = text' := by simpa using hi
        exact htext
      | succ i =>
        rw [List.getElem?_cons_succ] at hi
        rw [← htexts i text' hi, Nat.add_assoc, Nat.add_comm 1 i]
    · rw [List.intercalate_cons_of_ne_nil hne, hjoined, hnext next hn, List.append_assoc,
        List.singleton_append]

/-- The pieces between the line feeds are the texts of the lines, as long as lines can be
counted. -/
theorem lineTexts_splitOn (hb : b.lineCount < Bounded.offsetBound) :
    LineTexts b (b.chars.splitOn '\n') := by
  have hcount : 0 + (b.chars.count '\n' + 1) = b.lineCount := by
    rw [lineCount_eq, Nat.zero_add]
  obtain ⟨texts, hlength, htexts, hjoined⟩ := exists_texts_from hb hcount b.lineStart_zero
  have hnone : ∀ text ∈ texts, '\n' ∉ text := by
    intro text hmem
    obtain ⟨i, hi⟩ := List.mem_iff_getElem?.mp hmem
    exact break_notMem_of_lineText (htexts i text hi)
  have hne : texts ≠ [] := by
    rintro rfl
    cases hlength
  rw [List.drop_zero] at hjoined
  -- Pieces without line feeds are found again once they are put together.
  rw [← hjoined, List.splitOn_intercalate '\n' hnone hne]
  refine ⟨by omega, fun line text hi ↦ ?_, hjoined, hnone⟩
  rw [← htexts line text hi, Nat.zero_add]

/-- A lookup of a line reads the piece with its number, as long as lines can be counted. -/
theorem lineText_eq_ok_iff (hb : b.lineCount < Bounded.offsetBound) {text : List Char} :
    b.lineText line = .ok text ↔ (b.chars.splitOn '\n')[line]? = some text := by
  have htexts := lineTexts_splitOn hb
  constructor
  · intro h
    obtain ⟨start, hs, -⟩ := Fault.bind_eq_ok_iff.mp h
    have hlt := line_lt_of_lineStart hs
    rw [← htexts.length_eq] at hlt
    have hpiece := List.getElem?_eq_getElem hlt
    obtain rfl := Except.ok.inj (h.symm.trans (htexts.lineText _ _ hpiece))
    exact hpiece
  · exact htexts.lineText line text

/-- Where one line of a text is replaced by another, the number of lines stays as it is, the line
reads as its replacement, and every other line reads as before. -/
theorem lineText_of_line_replaced {after : Buffer} {start stop : Nat} {text : List Char}
    (hb : b.lineCount < Bounded.offsetBound) (hl : LineAt b.chars offset start stop)
    (hafter : after.chars = b.chars.take start ++ text ++ b.chars.drop stop)
    (htext : '\n' ∉ text) :
    after.lineCount = b.lineCount ∧ after.lineText (b.lineOf offset) = .ok text ∧
      ∀ line, line ≠ b.lineOf offset →
        ∀ other, after.lineText line = .ok other ↔ b.lineText line = .ok other := by
  have hold := hl.break_notMem (Nat.le_refl start) (Nat.le_refl stop)
  obtain ⟨earlier, later, hearlier, hsplit⟩ :=
    exists_splitOn_line hl.endsLine hl.beginsAfterLine
  have hpieces : b.chars.splitOn '\n' =
      earlier ++ (b.chars.take stop).drop start :: later := by
    conv => lhs; rw [hl.eq_append]
    exact hsplit _ hold
  have hpieces' : after.chars.splitOn '\n' = earlier ++ text :: later := by
    rw [hafter]
    exact hsplit _ htext
  have hcount : after.lineCount = b.lineCount := by
    rw [lineCount_eq, lineCount_eq, ← length_splitOn, ← length_splitOn, hpieces, hpieces',
      List.length_append, List.length_append, List.length_cons, List.length_cons]
  have hline : earlier.length = b.lineOf offset := by
    rw [hearlier, ← hl.count_take, lineOf_eq_count]
  have hb' : after.lineCount < Bounded.offsetBound := by rwa [hcount]
  refine ⟨hcount, ?_, fun line hne other ↦ ?_⟩
  · rw [lineText_eq_ok_iff hb', hpieces', ← hline, List.getElem?_append_right (Nat.le_refl _),
      Nat.sub_self, List.getElem?_cons_zero]
  · rw [lineText_eq_ok_iff hb', lineText_eq_ok_iff hb, hpieces, hpieces']
    rw [← hline] at hne
    rw [getElem?_append_cons_of_ne hne]

end Buffer

end EditBox.Text
