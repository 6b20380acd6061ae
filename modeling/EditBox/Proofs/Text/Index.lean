import EditBox.Proofs.Text.Pieces

/-!
# The line index along edits

A buffer is edited at offsets, takes over other texts, and goes back to copies of its own. `Edits`
says what each of these operations makes of a sequence of characters, and when it is in range;
`apply_of_edits` that a buffer follows. The main statement is `indexed_of_editsAll`: after any run
of operations in range the buffer holds the characters it should, and its index describes them.
-/

namespace EditBox.Text

/-- Operation on a text and on the copies that are made of it. -/
inductive Buffer.Operation where
  | insert (offset : Nat) (text : List Char)
  | delete (start stop : Nat)
  | setText (text : List Char)
  /-- Make a copy of the text. -/
  | snapshot
  /-- Go back to a copy; they are numbered from the first that was made. -/
  | restore (index : Nat)
  deriving DecidableEq, Repr

/-- A text in some form, and the copies made of it so far. -/
structure Draft (α : Type) where
  current : α
  copies : List (List Char)

namespace Draft

open Buffer (Operation)

/-- Carry out an operation on a buffer. -/
def apply (d : Draft Buffer) : Operation → Except Fault (Draft Buffer)
  | .insert offset text => return { d with current := ← d.current.insert offset text }
  | .delete start stop => return { d with current := ← d.current.delete start stop }
  | .setText text => return { d with current := d.current.setText text }
  | .snapshot => return { d with copies := d.copies ++ [d.current.chars] }
  | .restore index =>
      match d.copies[index]? with
      | some text => return { d with current := d.current.setText text }
      | none => .error (.indexOutOfBounds d.copies.length index)

/-- Carry out operations in order. -/
def applyAll (d : Draft Buffer) : List Operation → Except Fault (Draft Buffer)
  | [] => return d
  | op :: ops => do
      let d ← d.apply op
      d.applyAll ops

/-- What an operation that is in range makes of a sequence of characters. -/
inductive Edits : Draft (List Char) → Operation → Draft (List Char) → Prop where
  | insert {d : Draft (List Char)} {offset : Nat} (text : List Char)
      (h : offset ≤ d.current.length) :
      Edits d (.insert offset text)
        { d with current := d.current.take offset ++ text ++ d.current.drop offset }
  | delete {d : Draft (List Char)} {start stop : Nat} (hle : start ≤ stop)
      (h : stop ≤ d.current.length) :
      Edits d (.delete start stop)
        { d with current := d.current.take start ++ d.current.drop stop }
  | setText (d : Draft (List Char)) (text : List Char) :
      Edits d (.setText text) { d with current := text }
  | snapshot (d : Draft (List Char)) :
      Edits d .snapshot { d with copies := d.copies ++ [d.current] }
  | restore {d : Draft (List Char)} {index : Nat} {text : List Char}
      (h : d.copies[index]? = some text) : Edits d (.restore index) { d with current := text }

/-- What a run of operations, each of them in range when its turn comes, makes of a sequence of
characters. -/
inductive EditsAll : Draft (List Char) → List Operation → Draft (List Char) → Prop where
  | nil (d : Draft (List Char)) : EditsAll d [] d
  | cons {d next last : Draft (List Char)} {op : Operation} {ops : List Operation}
      (h : Edits d op next) (hs : EditsAll next ops last) : EditsAll d (op :: ops) last

variable {b : Buffer} {copies : List (List Char)} {after : Draft (List Char)}

/-- A buffer follows an operation in range. -/
theorem apply_of_edits {op : Operation} (h : Edits ⟨b.chars, copies⟩ op after) :
    ∃ b', (⟨b, copies⟩ : Draft Buffer).apply op = .ok ⟨b', after.copies⟩ ∧
      b'.chars = after.current := by
  cases h with
  | @insert offset text h =>
    have hr : b.insert offset text = .ok _ := Buffer.insert_eq_ok_iff.mpr ⟨h, rfl⟩
    exact ⟨_, by rw [apply, hr]; rfl, Buffer.chars_insert hr⟩
  | @delete start stop hle h =>
    have hr : b.delete start stop = .ok _ := Buffer.delete_eq_ok_iff.mpr ⟨⟨hle, h⟩, rfl⟩
    exact ⟨_, by rw [apply, hr]; rfl, Buffer.chars_delete hr⟩
  | setText text => exact ⟨b.setText text, rfl, rfl⟩
  | snapshot => exact ⟨b, rfl, rfl⟩
  | @restore index text h =>
    have hcopy : copies[index]? = some text := h
    exact ⟨b.setText text, by simp only [apply, hcopy]; rfl, rfl⟩

/-- A buffer follows a run of operations in range. -/
theorem applyAll_of_editsAll {ops : List Operation} (h : EditsAll ⟨b.chars, copies⟩ ops after) :
    ∃ b', (⟨b, copies⟩ : Draft Buffer).applyAll ops = .ok ⟨b', after.copies⟩ ∧
      b'.chars = after.current := by
  induction ops generalizing b copies with
  | nil =>
    cases h
    exact ⟨b, rfl, rfl⟩
  | cons op ops ih =>
    cases h with
    | @cons _ next _ _ _ h hs =>
      obtain ⟨b', hr, hchars⟩ := apply_of_edits h
      have hs' : EditsAll ⟨b'.chars, next.copies⟩ ops after := by
        rw [hchars]
        exact hs
      obtain ⟨b'', hrs, hchars'⟩ := ih hs'
      exact ⟨b'', by rw [applyAll, hr, Fault.ok_bind, hrs], hchars'⟩

end Draft

private theorem startsAfterBreaks_eq (first : Nat) (text : List Char) :
    startsAfterBreaks first text =
      ((List.range text.length).filter fun i ↦ text[i]? = some '\n').map (first + · + 1) := by
  induction text generalizing first with
  | nil => rfl
  | cons c rest ih =>
    have hshift : (fun i ↦ first + i + 1) ∘ Nat.succ = fun i ↦ first + 1 + i + 1 := by
      funext i
      simp only [Function.comp_apply]
      omega
    have hrest : ((List.map Nat.succ (List.range rest.length)).filter
        fun i ↦ (c :: rest)[i]? = some '\n').map (first + · + 1) =
          startsAfterBreaks (first + 1) rest := by
      rw [List.filter_map, List.map_map, hshift, ih]
      rfl
    rw [List.length_cons, List.range_succ_eq_map, List.filter_cons]
    by_cases hc : c = '\n'
    · subst hc
      rw [if_pos (by simp), List.map_cons, hrest, startsAfterBreaks, if_pos rfl, Nat.add_zero]
    · rw [if_neg (by simpa using hc), hrest, startsAfterBreaks, if_neg hc]

/-- The index of a buffer describes its text: lines start at the start of the text and behind each
of its line feeds, in strictly increasing order, and offsets behind the text count as offsets of the
last line. -/
structure Indexed (b : Buffer) : Prop where
  starts_eq : b.lines.starts =
    0 :: ((List.range b.length).filter fun i ↦ b.charAt? i = some '\n').map (· + 1)
  pairwise_starts : b.lines.starts.Pairwise (· < ·)
  lineOf_past : ∀ offset, b.length < offset → b.lineOf offset + 1 = b.lineCount

/-- The lines of a buffer make up its text: their texts, put together with line feeds, give it back,
each offset of the text lies between the ends of exactly one line, the one found for it, and exactly
one line feed stands between a line and the next. -/
structure MadeOfLines (b : Buffer) : Prop where
  exists_texts : ∃ texts, LineTexts b texts
  lineOf_eq_iff : ∀ offset ≤ b.length, ∀ line, b.lineOf offset = line ↔
    ∃ start stop, b.lineStart line = .ok start ∧ b.lineEnd line = .ok stop ∧
      start ≤ offset ∧ offset ≤ stop
  separated : ∀ line, line + 1 < b.lineCount →
    ∃ stop, b.lineEnd line = .ok stop ∧ b.charAt? stop = some '\n' ∧
      b.lineStart (line + 1) = .ok (stop + 1)

namespace Buffer

/-- Every index describes the text it was made for. -/
theorem indexed (b : Buffer) : Indexed b where
  starts_eq := by
    rw [b.lines_eq, LineIndex.of, startsAfterBreaks_eq]
    simp only [Nat.zero_add]
    rfl
  pairwise_starts := by
    rw [b.lines_eq]
    exact LineIndex.pairwise_starts_of b.chars
  lineOf_past := fun _ h ↦ lineOf_of_length_le (Nat.le_of_lt h)

/-- Lines that can be counted make up the text. -/
theorem madeOfLines {b : Buffer} (hb : b.lineCount < Bounded.offsetBound) : MadeOfLines b where
  exists_texts := ⟨_, lineTexts_splitOn hb⟩
  lineOf_eq_iff := by
    intro offset ho line
    constructor
    · rintro rfl
      obtain ⟨start, stop, hl, hs, he⟩ := exists_lineAt ho
      rw [if_pos (lineOf_add_one_lt hb offset)] at he
      exact ⟨start, stop, hs, he, hl.start_le, hl.le_stop⟩
    · rintro ⟨start, stop, hs, he, hstart, hstop⟩
      have hle : line ≤ b.lineOf offset := by
        rw [lineStart, b.lines_eq, LineIndex.lineStart_eq_ok_iff] at hs
        exact (start_le_iff hs).mp hstart
      have hge := (lineOf_gt_iff hs he ho).2
      omega
  separated := by
    intro line hline
    obtain ⟨next, hn⟩ := exists_lineStart_eq_ok hline
    obtain ⟨stop, rfl, he, hc⟩ := lineEnd_of_next (by omega) hn
    exact ⟨stop, he, hc, hn⟩

end Buffer

/-- A run of operations in range never faults and leaves the buffer with the characters they make.
The index then describes them, and as long as lines can be counted the lines make up the text. -/
theorem indexed_of_editsAll {text : List Char} {ops : List Buffer.Operation}
    {last : Draft (List Char)} (h : Draft.EditsAll ⟨text, []⟩ ops last) :
    ∃ b, (⟨.ofText text, []⟩ : Draft Buffer).applyAll ops = .ok ⟨b, last.copies⟩ ∧
      b.chars = last.current ∧ Indexed b ∧
      (b.lineCount < Bounded.offsetBound → MadeOfLines b) := by
  obtain ⟨b, hr, hchars⟩ := Draft.applyAll_of_editsAll (b := Buffer.ofText text) h
  exact ⟨b, hr, hchars, b.indexed, Buffer.madeOfLines⟩

/-- A copy is brought back after two edits, and a line feed is put at the end of it. -/
theorem indexed_of_editsAll_restore :
    let ops : List Buffer.Operation :=
      [.snapshot, .insert 1 ['\n', 'c'], .delete 0 3, .restore 0, .insert 3 ['\n']]
    let last : Draft (List Char) := ⟨['a', '\n', 'b', '\n'], [['a', '\n', 'b']]⟩
    Draft.EditsAll ⟨['a', '\n', 'b'], []⟩ ops last ∧
      ∃ b, (⟨.ofText ['a', '\n', 'b'], []⟩ : Draft Buffer).applyAll ops = .ok ⟨b, last.copies⟩ ∧
        b.chars = last.current ∧ b.lines.starts = [0, 2, 4] ∧ Indexed b ∧ MadeOfLines b := by
  intro ops last
  have h : Draft.EditsAll ⟨['a', '\n', 'b'], []⟩ ops last :=
    .cons (.snapshot _) <| .cons (.insert _ (by decide)) <|
      .cons (.delete (by decide) (by decide)) <| .cons (.restore rfl) <|
      .cons (.insert _ (by decide)) <| .nil _
  obtain ⟨b, hr, hchars, hindexed, hlines⟩ := indexed_of_editsAll h
  have hcount : b.lineCount < Bounded.offsetBound := by
    rw [Buffer.lineCount_eq, hchars]
    decide
  have hstarts : b.lines.starts = [0, 2, 4] := by
    rw [b.lines_eq, hchars]
    rfl
  exact ⟨h, b, hr, hchars, hstarts, hindexed, hlines hcount⟩

end EditBox.Text
