import EditBox.Proofs.Text.Lines
import EditBox.Text.Motion

/-!
# White space and words around an offset

Word deletion takes out white space and then a word, within the line of the caret. Here the scans
that find its range are read off the characters before and after the caret.
-/

namespace EditBox.Text

/-- What follows a scan does not have the property that the scan passes. -/
theorem of_mem_head?_dropWhile {p : Char → Bool} {chars : List Char} {c : Char}
    (hc : c ∈ (chars.dropWhile p).head?) : p c = false := by
  have hstop := List.head?_dropWhile_not p chars
  rwa [Option.mem_def.mp hc] at hstop

/-- Length of the white space, and the word after it, at the beginning of some characters. -/
def wordRun (chars : List Char) : Nat :=
  (chars.takeWhile isSpace).length + ((chars.dropWhile isSpace).takeWhile isWordChar).length

/-- What the scans leave of some characters is all but the white space and the word. -/
theorem length_dropWhile_add_wordRun (chars : List Char) :
    ((chars.dropWhile isSpace).dropWhile isWordChar).length + wordRun chars = chars.length := by
  have hs := congrArg List.length (List.takeWhile_append_dropWhile (p := isSpace) (l := chars))
  have hw := congrArg List.length
    (List.takeWhile_append_dropWhile (p := isWordChar) (l := chars.dropWhile isSpace))
  rw [List.length_append] at hs hw
  rw [wordRun]
  omega

/-- White space and word are part of the characters. -/
theorem wordRun_le (chars : List Char) : wordRun chars ≤ chars.length := by
  have := length_dropWhile_add_wordRun chars
  omega

/-- A leftward scan passes the white space and the word before a column. -/
theorem scanWordBack_add_wordRun {line : List Char} {col : Nat} (h : col ≤ line.length) :
    scanWordBack line col + wordRun (line.take col).reverse = col := by
  have := length_dropWhile_add_wordRun (line.take col).reverse
  rw [List.length_reverse, List.length_take, Nat.min_eq_left h] at this
  rw [scanWordBack]
  exact this

/-- A rightward scan passes the white space and the word after a column. -/
theorem scanWordForward_eq {line : List Char} {col : Nat} (h : col ≤ line.length) :
    scanWordForward line col = col + wordRun (line.drop col) := by
  have := length_dropWhile_add_wordRun (line.drop col)
  rw [List.length_drop] at this
  rw [scanWordForward]
  omega

namespace Motion

variable {b : Buffer} {caret start stop : Nat}

/-- The place of an offset is its column in its line. -/
theorem place_eq (hs : b.lineStart (b.lineOf caret) = .ok start) (hle : start ≤ caret) :
    place b caret = .ok ⟨b.lineOf caret, start, caret - start⟩ := by
  rw [place, hs, Fault.ok_bind, Bounded.sub_eq_ok hle]
  rfl

/-- The line of an offset reads as its characters when the next line has a number. -/
theorem lineText_eq (h : LineAt b.chars caret start stop)
    (hs : b.lineStart (b.lineOf caret) = .ok start)
    (he : b.lineEnd (b.lineOf caret) =
      if b.lineOf caret + 1 < Bounded.offsetBound then .ok stop else .error .addOverflow) :
    b.lineText (b.lineOf caret) =
      if b.lineOf caret + 1 < Bounded.offsetBound then .ok ((b.chars.take stop).drop start)
      else .error .addOverflow := by
  rw [Buffer.lineText, hs, Fault.ok_bind, he]
  split
  · rw [Fault.ok_bind, Buffer.substring_eq_ok h.stop_le, List.drop_take]
  · rfl

private theorem column_le (h : LineAt b.chars caret start stop) :
    caret - start ≤ ((b.chars.take stop).drop start).length := by
  rw [List.length_drop, List.length_take]
  have := h.le_stop
  have := h.stop_le
  omega

/-- A scan back from an offset has a result when the next line has a number, and then passes the
white space and the word before the offset. -/
theorem wordScanBack_eq (h : caret ≤ b.length) :
    wordScanBack b caret =
      if b.lineOf caret + 1 < Bounded.offsetBound then
        .ok (caret - wordRun (lineBefore b.chars caret))
      else .error .addOverflow := by
  obtain ⟨start, stop, hl, hs, he⟩ := Buffer.exists_lineAt h
  rw [wordScanBack, Nat.min_eq_left h, place_eq hs hl.start_le, Fault.ok_bind,
    lineText_eq hl hs he]
  split
  · have hscan := scanWordBack_add_wordRun (column_le hl)
    rw [← hl.lineBefore_eq_take] at hscan
    have hstart := hl.start_le
    rw [Fault.ok_bind]
    exact congrArg Except.ok (by dsimp only; omega)
  · rfl

/-- A scan on from an offset has a result when the next line has a number, and then passes the
white space and the word after the offset. -/
theorem wordScanForward_eq (h : caret ≤ b.length) :
    wordScanForward b caret =
      if b.lineOf caret + 1 < Bounded.offsetBound then
        .ok (caret + wordRun (lineAfter b.chars caret))
      else .error .addOverflow := by
  obtain ⟨start, stop, hl, hs, he⟩ := Buffer.exists_lineAt h
  rw [wordScanForward, Nat.min_eq_left h, place_eq hs hl.start_le, Fault.ok_bind,
    lineText_eq hl hs he]
  split
  · have hscan := scanWordForward_eq (column_le hl)
    rw [← hl.lineAfter_eq_drop] at hscan
    have hstart := hl.start_le
    rw [Fault.ok_bind]
    exact congrArg Except.ok (by dsimp only; omega)
  · rfl

end Motion

end EditBox.Text
