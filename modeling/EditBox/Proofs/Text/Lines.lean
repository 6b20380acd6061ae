import EditBox.Text.Buffer

/-!
# Lines around an offset

The line that holds an offset, read off the characters alone: from the offset back to the nearest
line feed and forward to the next one. `Buffer.exists_lineAt` ties it to the line index, which
finds exactly that line.
-/

namespace EditBox.Text

/-- Characters between an offset and the line feed before it, nearest first. -/
def lineBefore (text : List Char) (offset : Nat) : List Char :=
  (text.take offset).reverse.takeWhile (· ≠ '\n')

/-- Characters between an offset and the line feed after it. -/
def lineAfter (text : List Char) (offset : Nat) : List Char :=
  (text.drop offset).takeWhile (· ≠ '\n')

/-- What comes before an offset is what comes before an earlier one, and what lies between them. -/
theorem take_eq_append (text : List Char) {first last : Nat} (h : first ≤ last) :
    text.take last = text.take first ++ (text.take last).drop first := by
  have htake : (text.take last).take first = text.take first := by
    rw [List.take_take, Nat.min_eq_left h]
  rw [← htake, List.take_append_drop]

private theorem drop_eq_append (text : List Char) {first last : Nat} (h : first ≤ last) :
    text.drop first = (text.take last).drop first ++ text.drop last := by
  have hdrop : text.drop last = (text.drop first).drop (last - first) := by
    rw [List.drop_drop, Nat.add_sub_cancel' h]
  rw [List.drop_take, hdrop, List.take_append_drop]

/-- A part taken out of a range leaves what lies around it in the range, and what lies around the
range. -/
theorem take_append_drop_eq (text : List Char) {start first last stop : Nat}
    (hfirst : start ≤ first) (hlast : last ≤ stop) :
    text.take first ++ text.drop last =
      text.take start ++ ((text.take first).drop start ++ (text.take stop).drop last) ++
        text.drop stop := by
  have hbefore := take_eq_append text hfirst
  have hafter := drop_eq_append text hlast
  conv => lhs; rw [hbefore, hafter]
  simp only [List.append_assoc]

/-- The line of a text that holds `offset` is `[start, stop)`. -/
structure LineAt (text : List Char) (offset start stop : Nat) : Prop where
  start_le : start ≤ offset
  le_stop : offset ≤ stop
  stop_le : stop ≤ text.length
  /-- The line begins the text or follows a line feed. -/
  opens : ∀ i, start = i + 1 → text[i]? = some '\n'
  /-- The line ends the text or is closed by a line feed. -/
  closes : stop < text.length → text[stop]? = some '\n'
  inside : ∀ i, start ≤ i → i < stop → text[i]? ≠ some '\n'

namespace LineAt

variable {text : List Char} {offset start stop : Nat}

/-- A line is the line of each offset from its start to its end. -/
theorem move {other : Nat} (h : LineAt text offset start stop) (hstart : start ≤ other)
    (hstop : other ≤ stop) : LineAt text other start stop :=
  ⟨hstart, hstop, h.stop_le, h.opens, h.closes, h.inside⟩

/-- No character of a part of the line is a line feed. -/
theorem ne_break_of_mem (h : LineAt text offset start stop) {a b : Nat} (ha : start ≤ a)
    (hb : b ≤ stop) {c : Char} (hc : c ∈ (text.take b).drop a) : c ≠ '\n' := by
  obtain ⟨i, hi⟩ := List.mem_iff_getElem?.mp hc
  rw [List.getElem?_drop, List.getElem?_take] at hi
  split at hi
  · next hlt =>
    rintro rfl
    exact h.inside (a + i) (by omega) (by omega) hi
  · simp at hi

/-- Before the offset the line is what lies between its start and the offset. -/
theorem lineBefore_eq (h : LineAt text offset start stop) :
    lineBefore text offset = ((text.take offset).drop start).reverse := by
  have split := take_eq_append text h.start_le
  have tail : (text.take start).reverse.takeWhile (· ≠ '\n') = [] := by
    cases start with
    | zero => simp
    | succ i => simp [List.take_add_one, h.opens i rfl]
  have here : ∀ c ∈ ((text.take offset).drop start).reverse, decide (c ≠ '\n') = true := by
    intro c hc
    exact decide_eq_true
      (h.ne_break_of_mem (Nat.le_refl start) h.le_stop (List.mem_reverse.mp hc))
  rw [lineBefore, split, List.reverse_append, List.takeWhile_append_of_pos here, tail,
    List.append_nil, ← split]

/-- After the offset the line is what lies between the offset and its end. -/
theorem lineAfter_eq (h : LineAt text offset start stop) :
    lineAfter text offset = (text.take stop).drop offset := by
  have split := drop_eq_append text h.le_stop
  have tail : (text.drop stop).takeWhile (· ≠ '\n') = [] := by
    by_cases hlt : stop < text.length
    · have hc := h.closes hlt
      rw [List.getElem?_eq_getElem hlt] at hc
      rw [List.drop_eq_getElem_cons hlt, Option.some.inj hc]
      simp
    · rw [List.drop_of_length_le (Nat.not_lt.mp hlt)]
      rfl
  have here : ∀ c ∈ (text.take stop).drop offset, decide (c ≠ '\n') = true := by
    intro c hc
    exact decide_eq_true (h.ne_break_of_mem h.start_le (Nat.le_refl stop) hc)
  rw [lineAfter, split, List.takeWhile_append_of_pos here, tail, List.append_nil]

/-- As many characters lie before an offset on its line as from the start of the line to it. -/
theorem length_lineBefore (h : LineAt text offset start stop) :
    (lineBefore text offset).length = offset - start := by
  have := h.le_stop
  have := h.stop_le
  rw [h.lineBefore_eq, List.length_reverse, List.length_drop, List.length_take]
  omega

/-- As many characters lie after an offset on its line as from it to the end of the line. -/
theorem length_lineAfter (h : LineAt text offset start stop) :
    (lineAfter text offset).length = stop - offset := by
  have := h.stop_le
  rw [h.lineAfter_eq, List.length_drop, List.length_take]
  omega

/-- The characters after an offset are those of its line from its column on. -/
theorem lineAfter_eq_drop (h : LineAt text offset start stop) :
    lineAfter text offset = ((text.take stop).drop start).drop (offset - start) := by
  rw [h.lineAfter_eq, List.drop_drop, Nat.add_sub_cancel' h.start_le]

/-- The characters before an offset are those of its line up to its column, in reverse. -/
theorem lineBefore_eq_take (h : LineAt text offset start stop) :
    lineBefore text offset = (((text.take stop).drop start).take (offset - start)).reverse := by
  rw [h.lineBefore_eq, List.take_drop, List.take_take, Nat.add_sub_cancel' h.start_le,
    Nat.min_eq_left h.le_stop]

end LineAt

namespace LineIndex

/-- Starts of the lines: the start of the text, and every offset after a line feed. -/
theorem mem_starts_of {text : List Char} {s : Nat} :
    s ∈ (of text).starts ↔ s = 0 ∨ ∃ i, text[i]? = some '\n' ∧ s = i + 1 := by
  rw [of, List.mem_cons, mem_startsAfterBreaks]
  simp only [Nat.zero_add]

/-- Lines start in strictly increasing order. -/
theorem pairwise_starts_of (text : List Char) : (of text).starts.Pairwise (· < ·) := by
  rw [of, List.pairwise_cons]
  refine ⟨fun s hs ↦ ?_, pairwise_startsAfterBreaks 0 text⟩
  obtain ⟨i, _, rfl⟩ := mem_startsAfterBreaks.mp hs
  omega

private theorem le_iff_lt_length_takeWhile {starts : List Nat} (hp : starts.Pairwise (· < ·))
    {bound i s : Nat} (hi : starts[i]? = some s) :
    s ≤ bound ↔ i < (starts.takeWhile (· ≤ bound)).length := by
  induction starts generalizing i with
  | nil => simp at hi
  | cons first rest ih =>
    obtain ⟨hfirst, hrest⟩ := List.pairwise_cons.mp hp
    by_cases hb : first ≤ bound
    · simp only [List.takeWhile_cons, hb, decide_true, if_true, List.length_cons]
      cases i with
      | zero =>
        obtain rfl : first = s := by simpa using hi
        simp [hb]
      | succ i =>
        rw [ih hrest (by simpa using hi)]
        omega
    · simp only [List.takeWhile_cons, hb, decide_false, Bool.false_eq_true, if_false]
      cases i with
      | zero =>
        obtain rfl : first = s := by simpa using hi
        simp [hb]
      | succ i =>
        have := hfirst s (List.mem_of_getElem? (by simpa using hi))
        simp only [List.length_nil, Nat.not_lt_zero, iff_false]
        omega

private theorem le_of_getElem?_le {starts : List Nat} (hp : starts.Pairwise (· < ·)) {i j s t : Nat}
    (hi : starts[i]? = some s) (hj : starts[j]? = some t) (hij : i ≤ j) : s ≤ t := by
  rcases Nat.lt_or_eq_of_le hij with hlt | rfl
  · obtain ⟨hli, rfl⟩ := List.getElem?_eq_some_iff.mp hi
    obtain ⟨hlj, rfl⟩ := List.getElem?_eq_some_iff.mp hj
    exact Nat.le_of_lt (List.pairwise_iff_getElem.mp hp i j hli hlj hlt)
  · rw [hi] at hj
    exact Nat.le_of_eq (Option.some.inj hj)

end LineIndex

namespace Buffer

open LineIndex

variable {b : Buffer} {offset : Nat}

/-- Lines up to the one of an offset start up to the offset, and later lines after it. -/
theorem start_le_iff {i s : Nat} (hi : (of b.chars).starts[i]? = some s) :
    s ≤ offset ↔ i ≤ b.lineOf offset := by
  have hp := pairwise_starts_of b.chars
  have hpos : 0 < ((of b.chars).starts.takeWhile (· ≤ offset)).length :=
    (le_iff_lt_length_takeWhile hp (i := 0) (s := 0) rfl).mp (Nat.zero_le offset)
  rw [le_iff_lt_length_takeWhile hp hi, lineOf, b.lines_eq, LineIndex.lineOf]
  omega

private theorem exists_lineStart (b : Buffer) (offset : Nat) :
    ∃ start, (of b.chars).starts[b.lineOf offset]? = some start ∧ start ≤ offset ∧
      ∀ i, b.chars[i]? = some '\n' → i < offset → i + 1 ≤ start := by
  have hlt : b.lineOf offset < (of b.chars).starts.length := by
    have h := b.lineOf_lt_lineCount offset
    rwa [lineCount, b.lines_eq, LineIndex.lineCount] at h
  have hstart := List.getElem?_eq_getElem hlt
  refine ⟨_, hstart, (start_le_iff hstart).mpr (Nat.le_refl _), fun i hi hio ↦ ?_⟩
  obtain ⟨j, hj⟩ := List.mem_iff_getElem?.mp (mem_starts_of.mpr (.inr ⟨i, hi, rfl⟩))
  exact le_of_getElem?_le (pairwise_starts_of b.chars) hj hstart
    (start_le_iff hj |>.mp hio)

private theorem next_lineStart {next : Nat}
    (h : (of b.chars).starts[b.lineOf offset + 1]? = some next) :
    ∃ i, next = i + 1 ∧ offset ≤ i ∧ b.chars[i]? = some '\n' ∧
      ∀ j, b.chars[j]? = some '\n' → offset ≤ j → i ≤ j := by
  have hlt : ¬ next ≤ offset := fun hle ↦ by
    have := (start_le_iff h).mp hle
    omega
  rcases mem_starts_of.mp (List.mem_of_getElem? h) with rfl | ⟨i, hi, rfl⟩
  · omega
  · refine ⟨i, rfl, by omega, hi, fun j hj hoj ↦ ?_⟩
    obtain ⟨k, hk⟩ := List.mem_iff_getElem?.mp (mem_starts_of.mpr (.inr ⟨j, hj, rfl⟩))
    have hline : ¬ k ≤ b.lineOf offset := fun hle ↦ by
      have := (start_le_iff hk).mpr hle
      omega
    have := le_of_getElem?_le (pairwise_starts_of b.chars) h hk (by omega)
    omega

private theorem no_next_lineStart (h : (of b.chars).starts[b.lineOf offset + 1]? = none) {j : Nat}
    (hj : b.chars[j]? = some '\n') : j < offset := by
  obtain ⟨k, hk⟩ := List.mem_iff_getElem?.mp (mem_starts_of.mpr (.inr ⟨j, hj, rfl⟩))
  have hlt : k < (of b.chars).starts.length := (List.getElem?_eq_some_iff.mp hk).1
  have hlen := List.getElem?_eq_none_iff.mp h
  exact (start_le_iff hk).mpr (by omega)

/-- The line index finds the line around an offset: where it starts, and where it ends unless the
number of the next line is out of bounds. -/
theorem exists_lineAt (h : offset ≤ b.length) :
    ∃ start stop, LineAt b.chars offset start stop ∧
      b.lineStart (b.lineOf offset) = .ok start ∧
      b.lineEnd (b.lineOf offset) =
        if b.lineOf offset + 1 < Bounded.offsetBound then .ok stop else .error .addOverflow := by
  obtain ⟨start, hstart, hle, hbefore⟩ := b.exists_lineStart offset
  have opens : ∀ i, start = i + 1 → b.chars[i]? = some '\n' := by
    rintro i rfl
    rcases mem_starts_of.mp (List.mem_of_getElem? hstart) with h0 | ⟨k, hk, he⟩
    · omega
    · obtain rfl : i = k := by omega
      exact hk
  have found : b.lineStart (b.lineOf offset) = .ok start := by
    rw [lineStart, b.lines_eq]
    exact lineStart_eq_ok_iff.mpr hstart
  cases hnext : (of b.chars).starts[b.lineOf offset + 1]? with
  | none =>
    refine ⟨start, b.length, ⟨hle, h, Nat.le_refl _, opens, fun hlt ↦ ?_, fun i hs hi hc ↦ ?_⟩,
      found, ?_⟩
    · exact absurd hlt (Nat.lt_irrefl _)
    · have := hbefore i hc (no_next_lineStart hnext hc)
      omega
    · rw [lineEnd, b.lines_eq, LineIndex.lineEnd, Bounded.add]
      split
      · rw [Fault.ok_bind, hnext]
        rfl
      · rfl
  | some next =>
    obtain ⟨stop, rfl, hos, hc, hfirst⟩ := next_lineStart hnext
    have hlt : stop < b.chars.length := (List.getElem?_eq_some_iff.mp hc).1
    refine ⟨start, stop, ⟨hle, hos, Nat.le_of_lt hlt, opens, fun _ ↦ hc, fun i hs hi hci ↦ ?_⟩,
      found, ?_⟩
    · rcases Nat.lt_or_ge i offset with hio | hio
      · have := hbefore i hci hio
        omega
      · have := hfirst i hci hio
        omega
    · rw [lineEnd, b.lines_eq, LineIndex.lineEnd, Bounded.add]
      split
      · rw [Fault.ok_bind, hnext]
        rfl
      · rfl

end Buffer

end EditBox.Text
