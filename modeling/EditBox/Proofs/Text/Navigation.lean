import EditBox.Proofs.Text.Pieces
import Mathlib.Logic.Function.Iterate

/-!
# Motion by words

A motion by words never stays where it is before it has reached the end of the text, and it crosses
one line feed at a time: from the edge of a line it passes the line feed and nothing else, and from
anywhere else it stays on the line. The main statement is `word_motion_progresses`.
-/

namespace EditBox.Text

namespace LineAt

variable {text : List Char} {offset start stop : Nat}

private theorem eq_stop_iff (h : LineAt text offset start stop) (hlt : offset < text.length) :
    stop = offset ↔ text[offset]? = some '\n' := by
  constructor
  · rintro rfl
    exact h.closes hlt
  · intro hc
    rcases Nat.lt_or_eq_of_le h.le_stop with hinside | heq
    · exact absurd hc (h.inside offset h.start_le hinside)
    · exact heq.symm

private theorem eq_start_iff (h : LineAt text offset start stop) (hpos : 0 < offset) :
    start = offset ↔ text[offset - 1]? = some '\n' := by
  constructor
  · rintro rfl
    exact h.opens (start - 1) (by omega)
  · intro hc
    rcases Nat.lt_or_eq_of_le h.start_le with hinside | heq
    · have := h.le_stop
      exact absurd hc (h.inside (offset - 1) (by omega) (by omega))
    · exact heq

end LineAt

/-- From one offset to another a motion passes just a line feed if it starts at the edge of a line,
and no line feed if it starts elsewhere. -/
def Crosses (b : Buffer) (start stop : Nat) (atEdge : Prop) : Prop :=
  ∃ passed, b.substring start stop = .ok passed ∧
    (atEdge → passed = ['\n']) ∧ (¬ atEdge → '\n' ∉ passed)

private theorem crosses_succ {b : Buffer} {offset : Nat} {atEdge : Prop} (h : offset < b.length)
    (hedge : atEdge ↔ b.chars[offset]? = some '\n') : Crosses b offset (offset + 1) atEdge := by
  have hlt : offset < b.chars.length := h
  refine ⟨[b.chars[offset]], ?_, fun hat ↦ ?_, fun hat ↦ ?_⟩
  · have hone : offset + 1 - offset = 1 := Nat.add_sub_cancel_left offset 1
    rw [Buffer.substring_eq_ok (show offset + 1 ≤ b.length from h), hone,
      List.drop_eq_getElem_cons hlt]
    rfl
  · rw [hedge, List.getElem?_eq_getElem hlt] at hat
    rw [Option.some.inj hat]
  · rw [hedge, List.getElem?_eq_getElem hlt] at hat
    intro hmem
    rw [← List.mem_singleton.mp hmem] at hat
    exact hat rfl

private theorem LineAt.crosses {b : Buffer} {offset start stop first last : Nat} {atEdge : Prop}
    (h : LineAt b.chars offset start stop) (hfirst : start ≤ first) (hlast : last ≤ stop)
    (hedge : ¬ atEdge) : Crosses b first last atEdge := by
  refine ⟨_, Buffer.substring_eq_ok (Nat.le_trans hlast h.stop_le), fun hat ↦ absurd hat hedge,
    fun _ ↦ ?_⟩
  rw [← List.drop_take]
  exact h.break_notMem hfirst hlast

namespace Motion

variable {b : Buffer} {caret : Nat}

/-- A motion to the right goes where the scan does, and by one character where the scan does not
move. -/
theorem wordRight_eq (h : caret < b.length) :
    wordRight b caret =
      (fun target ↦ if target = caret then caret + 1 else target) <$> wordScanForward b caret := by
  rw [wordRight, if_neg (Nat.not_le.mpr h), wordScanForward, Nat.min_eq_left (Nat.le_of_lt h)]
  cases place b caret with
  | error e => rfl
  | ok p =>
    simp only [Fault.ok_bind]
    cases b.lineText p.line with
    | error e => rfl
    | ok text => rfl

/-- A motion to the left within a line goes where the scan does, and by one character where the scan
does not move. -/
theorem wordLeft_eq {p : Place} (hpos : 0 < caret) (h : caret ≤ b.length)
    (hp : place b caret = .ok p) (hcolumn : p.column ≠ 0) :
    wordLeft b caret =
      (fun target ↦ if target = caret then caret - 1 else target) <$> wordScanBack b caret := by
  have hone : Bounded.sub caret 1 = .ok (caret - 1) := Bounded.sub_eq_ok hpos
  simp only [wordLeft, wordScanBack, Nat.min_eq_left h, Nat.ne_of_gt hpos, if_false, hp,
    Fault.ok_bind, hcolumn]
  cases b.lineText p.line with
  | error e => rfl
  | ok text =>
    change (if p.start + scanWordBack text p.column = caret then Bounded.sub caret 1
      else .ok (p.start + scanWordBack text p.column)) = .ok (if _ then _ else _)
    rw [hone]
    split <;> rfl

section Counted

variable (hb : b.lineCount < Bounded.offsetBound)
include hb

private theorem lineEnd_eq_self_iff (h : caret < b.length) :
    lineEnd b caret = .ok caret ↔ b.chars[caret]? = some '\n' := by
  obtain ⟨start, stop, hl, -, he⟩ := Buffer.exists_lineAt (Nat.le_of_lt h)
  rw [if_pos (Buffer.lineOf_add_one_lt hb caret)] at he
  rw [lineEnd, Nat.min_eq_left (Nat.le_of_lt h), he, Except.ok.injEq, hl.eq_stop_iff h]

omit hb in
private theorem lineHome_eq_self_iff (hpos : 0 < caret) (h : caret ≤ b.length) :
    lineHome b caret = .ok caret ↔ b.chars[caret - 1]? = some '\n' := by
  obtain ⟨start, stop, hl, hs, -⟩ := Buffer.exists_lineAt h
  rw [lineHome, Nat.min_eq_left h, hs, Except.ok.injEq, hl.eq_start_iff hpos]

/-- From the start of a line other than the first a motion to the left goes to the end of the line
before, by one character. -/
theorem wordLeft_of_lineStart (hpos : 0 < caret) (h : caret ≤ b.length)
    (hs : b.lineStart (b.lineOf caret) = .ok caret) : wordLeft b caret = .ok (caret - 1) := by
  have hp := place_eq hs (Nat.le_refl caret)
  -- Only the first line has no line before it, and it starts at the start of the text.
  obtain ⟨previous, hprevious⟩ : ∃ previous, b.lineOf caret = previous + 1 := by
    refine Nat.exists_eq_add_one.mpr (Nat.pos_of_ne_zero fun hfirst ↦ ?_)
    rw [hfirst, b.lineStart_zero] at hs
    cases hs
    omega
  have hnumber := Buffer.lineOf_add_one_lt hb caret
  rw [hprevious] at hs hp hnumber
  obtain ⟨stop, rfl, he, -⟩ := Buffer.lineEnd_of_next (by omega) hs
  have hsub : Bounded.sub (previous + 1) 1 = .ok previous := Bounded.sub_eq_ok (by omega)
  rw [wordLeft, Nat.min_eq_left h, if_neg (by omega), hp, Fault.ok_bind, if_pos (Nat.sub_self _)]
  dsimp only
  rw [hsub, Fault.ok_bind, he, Nat.add_sub_cancel]

/-- A motion to the right advances. At the end of a line it passes the line feed alone, and
elsewhere it stays on the line. -/
theorem exists_wordRight_step (h : caret < b.length) :
    ∃ target, wordRight b caret = .ok target ∧ caret < target ∧ target ≤ b.length ∧
      Crosses b caret target (lineEnd b caret = .ok caret) := by
  have hedge := lineEnd_eq_self_iff hb h
  obtain ⟨start, stop, hl, -, -⟩ := Buffer.exists_lineAt (Nat.le_of_lt h)
  have hrun := wordRun_le (lineAfter b.chars caret)
  have hstop : stop ≤ b.length := hl.stop_le
  rw [hl.length_lineAfter] at hrun
  have hnumber := Buffer.lineOf_add_one_lt hb caret
  rw [wordRight_eq h, wordScanForward_eq (Nat.le_of_lt h), if_pos hnumber, Fault.map_ok]
  refine ⟨_, rfl, ?_⟩
  by_cases hzero : wordRun (lineAfter b.chars caret) = 0
  · rw [hzero, Nat.add_zero, if_pos rfl]
    exact ⟨Nat.lt_succ_self caret, h, crosses_succ h hedge⟩
  · -- The scan moved, so characters of the line follow and the caret is not at its end.
    have hinside : ¬ lineEnd b caret = .ok caret := by
      rw [hedge, ← hl.eq_stop_iff h]
      omega
    rw [if_neg (by omega)]
    exact ⟨by omega, by omega, hl.crosses hl.start_le (by omega) hinside⟩

/-- A motion to the left goes back. At the start of a line it passes the line feed before it alone,
and elsewhere it stays on the line. -/
theorem exists_wordLeft_step (hpos : 0 < caret) (h : caret ≤ b.length) :
    ∃ target, wordLeft b caret = .ok target ∧ target < caret ∧
      Crosses b target caret (lineHome b caret = .ok caret) := by
  have hedge := lineHome_eq_self_iff hpos h
  have hone : caret - 1 + 1 = caret := Nat.sub_add_cancel hpos
  have hsingle : Crosses b (caret - 1) caret (lineHome b caret = .ok caret) := by
    have hlt : caret - 1 < b.length := by omega
    have := crosses_succ hlt hedge
    rwa [hone] at this
  obtain ⟨start, stop, hl, hs, -⟩ := Buffer.exists_lineAt h
  have hle := hl.start_le
  have hp := place_eq hs hle
  by_cases hcolumn : caret - start = 0
  · obtain rfl : start = caret := by omega
    exact ⟨start - 1, wordLeft_of_lineStart hb hpos h hs, by omega, hsingle⟩
  · have hrun := wordRun_le (lineBefore b.chars caret)
    rw [hl.length_lineBefore] at hrun
    have hnumber := Buffer.lineOf_add_one_lt hb caret
    rw [wordLeft_eq hpos h hp hcolumn, wordScanBack_eq h, if_pos hnumber, Fault.map_ok]
    refine ⟨_, rfl, ?_⟩
    by_cases hzero : wordRun (lineBefore b.chars caret) = 0
    · rw [hzero, Nat.sub_zero, if_pos rfl]
      exact ⟨by omega, hsingle⟩
    · have hinside : ¬ lineHome b caret = .ok caret := by
        rw [hedge, ← hl.eq_start_iff hpos]
        omega
      rw [if_neg (by omega)]
      exact ⟨by omega, hl.crosses (by omega) hl.le_stop hinside⟩

end Counted

/-- A motion that comes nearer to a place with every step reaches it in as many steps as it is away,
and stays there. -/
theorem iterate_reaches (distance : Nat → Nat) {step : Nat → Except Fault Nat} {bound goal : Nat}
    (hgoal : step goal = .ok goal)
    (hstep : ∀ place ≤ bound, place ≠ goal →
      ∃ next ≤ bound, step place = .ok next ∧ distance next < distance place)
    {n place : Nat} (hle : place ≤ bound) (hn : distance place ≤ n) :
    (· >>= step)^[n] (.ok place) = .ok goal := by
  have hstays (k : Nat) : (· >>= step)^[k] (.ok goal) = .ok goal :=
    Function.iterate_fixed (by rw [Fault.ok_bind, hgoal]) k
  induction n generalizing place with
  | zero =>
    rcases eq_or_ne place goal with rfl | hplace
    · exact hstays 0
    · obtain ⟨next, -, -, hlt⟩ := hstep place hle hplace
      omega
  | succ n ih =>
    rcases eq_or_ne place goal with rfl | hplace
    · exact hstays (n + 1)
    · obtain ⟨next, hnext, hr, hlt⟩ := hstep place hle hplace
      rw [Function.iterate_succ_apply, Fault.ok_bind, hr]
      exact ih hnext (by omega)

/-- Motion by words makes progress wherever lines can be counted. To the right it goes on as long as
the end is not reached, and to the left as long as the start is not. Each motion has a result and
passes a line feed only from the edge of a line, and then nothing else. Repeated as many times as
there are characters, it arrives. -/
theorem word_motion_progresses (hb : b.lineCount < Bounded.offsetBound)
    (hc : caret ≤ b.length) :
    (caret < b.length → ∃ target, wordRight b caret = .ok target ∧
      caret < target ∧ target ≤ b.length ∧
      Crosses b caret target (lineEnd b caret = .ok caret)) ∧
    (0 < caret → ∃ target, wordLeft b caret = .ok target ∧ target < caret ∧
      Crosses b target caret (lineHome b caret = .ok caret)) ∧
    (∀ n, b.length - caret ≤ n → (· >>= wordRight b)^[n] (.ok caret) = .ok b.length) ∧
    (∀ n, caret ≤ n → (· >>= wordLeft b)^[n] (.ok caret) = .ok 0) := by
  refine ⟨exists_wordRight_step hb, fun hpos ↦ exists_wordLeft_step hb hpos hc, fun n hn ↦ ?_,
    fun n hn ↦ ?_⟩
  · have hend : wordRight b b.length = .ok b.length := by
      rw [wordRight, if_pos (Nat.le_refl _)]
      rfl
    refine iterate_reaches (b.length - ·) hend (fun place hle hne ↦ ?_) hc hn
    obtain ⟨target, hr, hlt, htarget, -⟩ :=
      exists_wordRight_step hb (Nat.lt_of_le_of_ne hle hne)
    exact ⟨target, htarget, hr, by omega⟩
  · have hstart : wordLeft b 0 = .ok 0 := by
      rw [wordLeft, Nat.zero_min, if_pos rfl]
      rfl
    refine iterate_reaches id hstart (fun place hle hne ↦ ?_) hc hn
    obtain ⟨target, hr, hlt, -⟩ :=
      exists_wordLeft_step hb (Nat.pos_of_ne_zero hne) hle
    exact ⟨target, by omega, hr, hlt⟩

/-- From between two marks, where a scan does not move, and from both edges of an empty line. -/
theorem word_motion_progresses_empty :
    let b := Buffer.ofText ['a', '.', '.', '\n', '\n', 'b']
    b.lineCount < Bounded.offsetBound ∧ 2 ≤ b.length ∧ 4 ≤ b.length ∧
      (∃ target, wordRight b 2 = .ok target ∧ 2 < target ∧ target ≤ b.length ∧
        Crosses b 2 target (lineEnd b 2 = .ok 2)) ∧
      (∃ target, wordRight b 4 = .ok target ∧ 4 < target ∧ target ≤ b.length ∧
        Crosses b 4 target (lineEnd b 4 = .ok 4)) ∧
      (∃ target, wordLeft b 4 = .ok target ∧ target < 4 ∧
        Crosses b target 4 (lineHome b 4 = .ok 4)) ∧
      (· >>= wordLeft b)^[4] (.ok 4) = .ok 0 := by
  intro b
  have hb : b.lineCount < Bounded.offsetBound := by decide
  obtain ⟨hmarks, -, -, -⟩ := word_motion_progresses hb (show 2 ≤ b.length by decide)
  obtain ⟨hright, hleft, -, hstart⟩ := word_motion_progresses hb (show 4 ≤ b.length by decide)
  exact ⟨hb, by decide, by decide, hmarks (by decide), hright (by decide), hleft (by decide),
    hstart 4 (Nat.le_refl 4)⟩

end Motion

end EditBox.Text
