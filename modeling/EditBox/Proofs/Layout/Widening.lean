import EditBox.Proofs.Layout.Greedy

/-!
# Wider rows

Under a measurer for which no text is wider than one that contains it, a larger width never needs
more rows. The two layouts break a line at different columns, so they are compared from any two
columns: the row that begins no further left ends no further left (`Takes.length_le`), whether
either is made of whole tokens or of part of one. Along the rows, those of the larger width stay
ahead (`Wraps.covered_le`).
-/

namespace EditBox

/-- No text measures more than one that contains it, and every text can be measured. -/
def Measure.MonotoneOnInfixes (m : Measure) : Prop :=
  ∀ u v, u <:+: v → ∃ a b, m.width u = .ok a ∧ m.width v = .ok b ∧ a ≤ b

namespace Measure.MonotoneOnInfixes

variable {m : Measure} {width width' : Nat} {u v : List Char} (hm : m.MonotoneOnInfixes)
include hm

/-- Every text can be measured. -/
theorem total : m.Total := by
  intro text
  obtain ⟨a, -, ha, -⟩ := hm text text (List.infix_rfl)
  exact ⟨a, ha⟩

private theorem fits_of_infix (hv : m.Fits width v) (hu : u <:+: v) (hw : width ≤ width') :
    m.Fits width' u := by
  obtain ⟨w, hwidth, hle⟩ := hv
  obtain ⟨a, b, ha, hb, hab⟩ := hm u v hu
  obtain rfl : w = b := Except.ok.inj (hwidth.symm.trans hb)
  exact ⟨a, ha, by omega⟩

private theorem not_infix_of_exceeds (hv : m.Fits width v) (hu : m.Exceeds width u) : ¬ u <:+: v :=
  fun h ↦ hu.not_fits (hm.fits_of_infix hv h (Nat.le_refl width))

end Measure.MonotoneOnInfixes

/-- With the same advance for every character, more characters are no narrower. -/
theorem Measure.monotoneOnInfixes_perChar (advance : Nat) :
    (Measure.perChar advance).MonotoneOnInfixes := by
  intro u v huv
  refine ⟨_, _, rfl, rfl, ?_⟩
  have hadvance : u.length * advance ≤ v.length * advance :=
    Nat.mul_le_mul_right advance huv.length_le
  change min (u.length * advance) maxPixel ≤ min (v.length * advance) maxPixel
  omega

namespace Layout

open EditBox.Text

variable {m : Measure} {b : Buffer} {width width' line line' col col' n : Nat}
  {text part left piece piece' : List Char} {tokens taken rest : List (List Char)}
  {rows rows' : List Row}

namespace Takes

private theorem length_flatten_le (hm : m.MonotoneOnInfixes)
    (h : Takes m width (taken ++ rest) piece)
    (hfits : m.Fits width taken.flatten) : taken.flatten.length ≤ piece.length := by
  generalize htokens : taken ++ rest = tokens at h
  cases h with
  | @whole taken' rest' _ _ hnext =>
    rcases List.append_eq_append_iff.mp htokens with ⟨more, rfl, -⟩ | ⟨more, rfl, rfl⟩
    · rw [List.flatten_append, List.length_append]
      exact Nat.le_add_right _ _
    · cases more with
      | nil => simp
      | cons token more =>
        -- The row could have held the next token.
        refine absurd ?_ (hm.not_infix_of_exceeds hfits (hnext token rfl))
        rw [List.flatten_append, List.flatten_cons, ← List.append_assoc]
        exact (List.prefix_append _ _).isInfix
  | @part _ left rest' _ hwide =>
    cases taken with
    | nil => exact Nat.zero_le _
    | cons token taken =>
      obtain ⟨rfl, -⟩ := List.cons.inj htokens
      refine absurd ?_ (hm.not_infix_of_exceeds hfits hwide)
      exact (List.prefix_append _ _).isInfix

private theorem length_part_le (hm : m.MonotoneOnInfixes)
    (h : Takes m width ((part ++ left) :: rest) piece) (hfits : m.Fits width part) :
    part.length ≤ piece.length := by
  generalize htokens : (part ++ left) :: rest = tokens at h
  cases h with
  | @whole taken rest' hne =>
    obtain ⟨token, taken, rfl⟩ := List.exists_cons_of_ne_nil hne
    obtain ⟨rfl, -⟩ := List.cons.inj htokens
    rw [List.flatten_cons, List.append_assoc, List.length_append]
    exact Nat.le_add_right _ _
  | @part _ left' rest' _ _ hlong =>
    obtain ⟨htoken, -⟩ := List.cons.inj htokens
    rcases List.append_eq_append_iff.mp htoken with ⟨more, rfl, -⟩ | ⟨more, rfl, rfl⟩
    · rw [List.length_append]
      exact Nat.le_add_right _ _
    · cases more with
      | nil => simp
      | cons c more =>
        exfalso
        rcases hlong with ⟨hover, -⟩ | ⟨-, c', hc, hexceeds⟩
        · exact hm.not_infix_of_exceeds hfits hover (List.prefix_append _ _).isInfix
        · -- The row could have held the next character.
          cases hc
          have hsplit : piece ++ c :: more = piece ++ [c] ++ more := List.append_cons ..
          refine hm.not_infix_of_exceeds hfits hexceeds ?_
          rw [hsplit]
          exact (List.prefix_append _ _).isInfix

/-- A row that begins no further left than another, and may be wider, ends no further left. -/
theorem length_le (hm : m.MonotoneOnInfixes) (hw : width ≤ width') (hne : [] ∉ tokens)
    (h : Takes m width tokens piece) (h' : Takes m width' (tokensFrom n tokens) piece') :
    piece.length ≤ n + piece'.length := by
  by_cases hn : piece.length ≤ n
  · omega
  replace hn := Nat.not_le.mp hn
  cases h with
  | @whole taken rest _ hfits =>
    rw [tokensFrom_append_of_lt hn] at h'
    have hrest : (tokensFrom n taken).flatten = taken.flatten.drop n := flatten_tokensFrom n taken
    have hleft := hm.fits_of_infix hfits (List.drop_suffix n _).isInfix hw
    rw [← hrest] at hleft
    have hle := h'.length_flatten_le hm hleft
    rw [hrest, List.length_drop] at hle
    omega
  | @part _ left rest _ _ hlong =>
    rcases hlong with ⟨-, c, rfl⟩ | ⟨hfits, -⟩
    · have hpos := List.length_pos_iff.mpr (h'.ne_nil (nil_notMem_tokensFrom hne n))
      rw [List.length_singleton]
      omega
    · have hlt : n < (piece ++ left).length := by
        rw [List.length_append]
        omega
      rw [tokensFrom_cons_of_lt hlt, List.drop_append_of_le_length (Nat.le_of_lt hn)] at h'
      have hleft := hm.fits_of_infix hfits (List.drop_suffix n _).isInfix hw
      have hle := h'.length_part_le hm hleft
      rw [List.length_drop] at hle
      omega

end Takes

/-- Number of characters on the first rows. -/
def covered (rows : List Row) (count : Nat) : Nat := ((rows.take count).map Row.length).sum

/-- The first row adds its characters. -/
theorem covered_cons (r : Row) (rows : List Row) (count : Nat) :
    covered (r :: rows) (count + 1) = r.length + covered rows count := by
  simp [covered]

namespace Cuts

variable (h : Cuts line col text rows)
include h

private theorem covered_le_length (count : Nat) : covered rows count ≤ text.length := by
  induction h generalizing count with
  | done col => simp [covered]
  | row hne h ih =>
    cases count with
    | zero => simp [covered]
    | succ count =>
      rw [covered_cons, List.length_append]
      exact Nat.add_le_add_left (ih count) _

private theorem covered_eq_length_iff (count : Nat) :
    covered rows count = text.length ↔ rows.length ≤ count := by
  induction h generalizing count with
  | done col => simp [covered]
  | @row col piece rest rows hne h ih =>
    cases count with
    | zero =>
      have hpos := List.length_pos_iff.mpr hne
      simp [covered]
      omega
    | succ count =>
      rw [covered_cons, List.length_append, Row.length, Nat.add_left_cancel_iff, ih,
        List.length_cons, Nat.add_le_add_iff_right]

end Cuts

/-- Rows of a larger width that begin no further left stay ahead. -/
theorem Wraps.covered_le (hm : m.MonotoneOnInfixes) (hw : width ≤ width') (hne : [] ∉ tokens)
    (h : Wraps m width line col tokens rows)
    (h' : Wraps m width' line' col' (tokensFrom n tokens) rows') (count : Nat) :
    covered rows count ≤ n + covered rows' count := by
  induction h generalizing n col' rows' count with
  | done col => simp [covered]
  | @row col tokens piece rows htakes h ih =>
    cases count with
    | zero => simp [covered]
    | succ count =>
      generalize hleft : tokensFrom n tokens = left at h'
      cases h' with
      | done =>
        have hall := ((Wraps.row htakes h).cuts hne).covered_le_length (count + 1)
        have hpassed := length_le_of_tokensFrom_eq_nil hleft
        omega
      | @row _ _ piece' rows' htakes' h' =>
        subst hleft
        have hstep := htakes.length_le hm hw hne htakes'
        obtain ⟨ahead, hahead⟩ := Nat.exists_eq_add_of_le hstep
        rw [tokensFrom_tokensFrom, hahead, ← tokensFrom_tokensFrom] at h'
        have hrest := ih (nil_notMem_tokensFrom hne _) h' count
        rw [covered_cons, covered_cons]
        change piece.length + covered rows count ≤ n + (piece'.length + covered rows' count)
        omega

section Widening

variable (hm : m.MonotoneOnInfixes) (hw : width ≤ width')
include hm hw

private theorem covered_le_of_wrapLine (h : wrapLine m width line text = .ok rows)
    (h' : wrapLine m width' line text = .ok rows') (count : Nat) :
    covered rows count ≤ covered rows' count := by
  by_cases hne : text = []
  · subst hne
    rw [wrapLine_nil] at h h'
    cases h
    cases h'
    exact Nat.le_refl _
  · have hnil := nil_notMem_splitTokens text
    have hwraps' := wraps_wrapLine hne h'
    rw [← tokensFrom_zero hnil] at hwraps'
    have hle := (wraps_wrapLine hne h).covered_le hm hw hnil hwraps' count
    omega

/-- A line has no more rows at a larger width. -/
theorem length_le_of_wrapLine (h : wrapLine m width line text = .ok rows)
    (h' : wrapLine m width' line text = .ok rows') : rows'.length ≤ rows.length := by
  have hahead := covered_le_of_wrapLine hm hw h h' rows.length
  cases rowsOf_wrapLine h with
  | empty =>
    rw [wrapLine_nil] at h'
    cases h'
    exact Nat.le_refl _
  | cut hne hcuts =>
    cases rowsOf_wrapLine h' with
    | empty => exact absurd rfl hne
    | cut _ hcuts' =>
      have hall := (hcuts.covered_eq_length_iff rows.length).mpr (Nat.le_refl _)
      have hmost := hcuts'.covered_le_length rows.length
      exact (hcuts'.covered_eq_length_iff rows.length).mp (by omega)

/-- A range of lines has no more rows at a larger width. -/
theorem length_le_of_wrapLines {count : Nat} (h : wrapLines m width b line count = .ok rows)
    (h' : wrapLines m width' b line count = .ok rows') : rows'.length ≤ rows.length := by
  induction count generalizing line rows rows' with
  | zero =>
    cases h
    cases h'
    exact Nat.le_refl _
  | succ count ih =>
    obtain ⟨text, htext, h⟩ := Fault.bind_eq_ok_iff.mp h
    obtain ⟨these, hthese, h⟩ := Fault.bind_eq_ok_iff.mp h
    obtain ⟨more, hmore, h⟩ := Fault.bind_eq_ok_iff.mp h
    cases h
    obtain ⟨text', htext', h'⟩ := Fault.bind_eq_ok_iff.mp h'
    obtain ⟨these', hthese', h'⟩ := Fault.bind_eq_ok_iff.mp h'
    obtain ⟨more', hmore', h'⟩ := Fault.bind_eq_ok_iff.mp h'
    cases h'
    obtain rfl : text = text' := Except.ok.inj (htext.symm.trans htext')
    have hfirst := length_le_of_wrapLine hm hw hthese hthese'
    have hrest := ih hmore hmore'
    rw [List.length_append, List.length_append]
    omega

/-- Widening never adds rows: with a measurer for which no text is wider than one that contains it,
any number of rows of a line covers at least as many characters at a larger width, so that the line
has no more rows, and no buffer has more rows at a larger content width. -/
theorem widening_adds_no_rows :
    (∀ line text, ∃ rows rows', wrapLine m width line text = .ok rows ∧
      wrapLine m width' line text = .ok rows' ∧
      (∀ count, covered rows count ≤ covered rows' count) ∧ rows'.length ≤ rows.length) ∧
    ∀ (b : Buffer) (minWidth : Nat), b.lineCount < Bounded.offsetBound →
      ∃ rows rows', wrapBuffer b width (some m) minWidth = .ok rows ∧
        wrapBuffer b width' (some m) minWidth = .ok rows' ∧ rows'.length ≤ rows.length := by
  constructor
  · intro line text
    obtain ⟨rows, hrows⟩ := exists_wrapLine hm.total width line text
    obtain ⟨rows', hrows'⟩ := exists_wrapLine hm.total width' line text
    exact ⟨rows, rows', hrows, hrows', covered_le_of_wrapLine hm hw hrows hrows',
      length_le_of_wrapLine hm hw hrows hrows'⟩
  · intro b minWidth hb
    have hlines : 0 + b.lineCount ≤ b.lineCount := by omega
    obtain ⟨rows, hrows⟩ := exists_wrapLines hm.total (max width minWidth) hlines hb
    obtain ⟨rows', hrows'⟩ := exists_wrapLines hm.total (max width' minWidth) hlines hb
    have hmax : max width minWidth ≤ max width' minWidth := by omega
    exact ⟨rows, rows', hrows, hrows', length_le_of_wrapLines hm hmax hrows hrows'⟩

end Widening

/-- Widening a box of two words, the second of which has to be cut at the smaller width. -/
theorem widening_adds_no_rows_words :
    (Measure.perChar 10).MonotoneOnInfixes ∧ 30 ≤ 60 ∧
      (∃ rows rows',
        wrapLine (.perChar 10) 30 0 ['o', 'n', ' ', 't', 'h', 'r', 'e', 'e'] = .ok rows ∧
        wrapLine (.perChar 10) 60 0 ['o', 'n', ' ', 't', 'h', 'r', 'e', 'e'] = .ok rows' ∧
        (∀ count, covered rows count ≤ covered rows' count) ∧ rows'.length ≤ rows.length) ∧
      ∃ rows rows',
        wrapBuffer (.ofText ['t', 'h', 'r', 'e', 'e', '\n', 'a']) 30 (some (.perChar 10)) 10
          = .ok rows ∧
        wrapBuffer (.ofText ['t', 'h', 'r', 'e', 'e', '\n', 'a']) 60 (some (.perChar 10)) 10
          = .ok rows' ∧ rows'.length ≤ rows.length := by
  have hm := Measure.monotoneOnInfixes_perChar 10
  have hw : 30 ≤ 60 := by decide
  obtain ⟨hlines, hbuffers⟩ := widening_adds_no_rows hm hw
  exact ⟨hm, hw, hlines 0 _,
    hbuffers (.ofText ['t', 'h', 'r', 'e', 'e', '\n', 'a']) 10 (by decide)⟩

end Layout

end EditBox
