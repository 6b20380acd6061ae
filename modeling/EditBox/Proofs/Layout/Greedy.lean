import EditBox.Proofs.Layout.Rows
import EditBox.Proofs.Layout.Steps

/-!
# Greedy rows

How much a row holds, for any measurer. `rows_fit` bounds it from above: a row fits, or is a single
character that does not. `breaks_are_needed` bounds it from below: a row ends only where what comes
next would not fit on it, a token if the row ends behind a token and a character if it ends within
one that fits on no row. So a token that fits on a row is never cut.
-/

namespace EditBox.Layout

open EditBox.Text

variable {m : Measure} {b : Buffer} {width line col : Nat} {text piece piece' token : List Char}
  {tokens before after : List (List Char)} {rows : List Row} {r r' : Row}

/-- A line that is not empty is taken row by row from its tokens. -/
theorem wraps_wrapLine (hne : text ≠ []) (h : wrapLine m width line text = .ok rows) :
    Wraps m width line 0 (splitTokens text) rows := by
  have he : text.isEmpty = false := by simpa using hne
  rw [wrapLine, he, if_neg Bool.false_ne_true] at h
  exact wraps_wrapTokens (nil_notMem_splitTokens text) h

/-- An empty line has one empty row. -/
theorem wrapLine_nil (m : Measure) (width line : Nat) :
    wrapLine m width line [] = .ok [⟨line, 0, []⟩] := rfl

private theorem exists_wrapLine_of_mem {count : Nat} (h : wrapLines m width b line count = .ok rows)
    (hr : r ∈ rows) : ∃ text these, b.lineText r.line = .ok text ∧
      wrapLine m width r.line text = .ok these ∧ r ∈ these := by
  induction count generalizing line rows with
  | zero =>
    cases h
    cases hr
  | succ count ih =>
    obtain ⟨text, htext, h⟩ := Fault.bind_eq_ok_iff.mp h
    obtain ⟨these, hthese, h⟩ := Fault.bind_eq_ok_iff.mp h
    obtain ⟨more, hmore, h⟩ := Fault.bind_eq_ok_iff.mp h
    cases h
    rcases List.mem_append.mp hr with hr | hr
    · obtain rfl := line_of_mem_wrapLine hthese r hr
      exact ⟨text, these, htext, hthese, hr⟩
    · exact ih hmore hr

/-- Every row that is taken fits, or is a single character that does not. -/
theorem Wraps.fits_or_overwide (h : Wraps m width line col tokens rows) :
    ∀ r ∈ rows, m.Fits width r.text ∨ m.Overwide width r.text := by
  induction h with
  | done col => simp
  | row htakes h ih =>
    intro r hr
    rcases List.mem_cons.mp hr with rfl | hr
    · exact htakes.fits_or_overwide
    · exact ih r hr

/-- Every row of a line fits, is a single character that does not, or is the row of an empty
line. -/
theorem fits_or_overwide_of_wrapLine (h : wrapLine m width line text = .ok rows) (hr : r ∈ rows) :
    m.Fits width r.text ∨ m.Overwide width r.text ∨ text = [] ∧ r.text = [] := by
  by_cases hne : text = []
  · subst hne
    rw [wrapLine_nil] at h
    cases h
    rw [List.mem_singleton.mp hr]
    exact .inr (.inr ⟨rfl, rfl⟩)
  · rcases (wraps_wrapLine hne h).fits_or_overwide r hr with hfits | hover
    · exact .inl hfits
    · exact .inr (.inl hover)

/-- Every row fits, for any total measurer: a row of a line measures no more than the width or is a
single character that measures more, but for the empty row of an empty line, which is not measured.
So it is with the rows of a buffer and the larger of its content width and the least width. -/
theorem rows_fit (hm : m.Total) :
    (∀ width line text, ∃ rows, wrapLine m width line text = .ok rows ∧ ∀ r ∈ rows,
      m.Fits width r.text ∨ m.Overwide width r.text ∨ text = [] ∧ r.text = []) ∧
    ∀ (b : Buffer) (width minWidth : Nat), b.lineCount < Bounded.offsetBound →
      ∃ rows, wrapBuffer b width (some m) minWidth = .ok rows ∧ ∀ r ∈ rows,
        m.Fits (max width minWidth) r.text ∨ m.Overwide (max width minWidth) r.text ∨
          b.lineText r.line = .ok [] ∧ r.text = [] := by
  constructor
  · intro width line text
    obtain ⟨rows, hrows⟩ := exists_wrapLine hm width line text
    exact ⟨rows, hrows, fun r hr ↦ fits_or_overwide_of_wrapLine hrows hr⟩
  · intro b width minWidth hb
    obtain ⟨rows, hrows⟩ := exists_wrapLines hm (max width minWidth)
      (show 0 + b.lineCount ≤ b.lineCount by omega) hb
    refine ⟨rows, hrows, fun r hr ↦ ?_⟩
    obtain ⟨text, these, htext, hthese, hr⟩ := exists_wrapLine_of_mem hrows hr
    rcases fits_or_overwide_of_wrapLine hthese hr with hfits | hover | ⟨rfl, hempty⟩
    · exact .inl hfits
    · exact .inr (.inl hover)
    · exact .inr (.inr ⟨htext, hempty⟩)

/-- Rows under a measurer for which a longer text may be narrower: the token `offi` fits although
`off` does not, and the first character of the other token is wider than the width. -/
theorem rows_fit_ligating :
    Measure.ligating.Total ∧
      (∃ rows, wrapLine .ligating 26 0 ['o', 'f', 'f', 'i'] = .ok rows ∧ ∀ r ∈ rows,
        Measure.ligating.Fits 26 r.text ∨ Measure.ligating.Overwide 26 r.text ∨
          ['o', 'f', 'f', 'i'] = [] ∧ r.text = []) ∧
      ∃ rows,
        wrapBuffer (.ofText ['o', 'f', '\n', '\n', 'f', 'i']) 0 (some .ligating) 7 = .ok rows ∧
        ∀ r ∈ rows, Measure.ligating.Fits 7 r.text ∨ Measure.ligating.Overwide 7 r.text ∨
          (Buffer.ofText ['o', 'f', '\n', '\n', 'f', 'i']).lineText r.line = .ok [] ∧
            r.text = [] := by
  have htotal : Measure.ligating.Total := Measure.total_ofWidth _
  obtain ⟨hlines, hbuffers⟩ := rows_fit htotal
  exact ⟨htotal, hlines 26 0 _, hbuffers (.ofText ['o', 'f', '\n', '\n', 'f', 'i']) 0 7 (by decide)⟩

/-- A row ends only where what comes next would not fit on it. The next row goes on there, at the
start of a token or within one. Behind a token, what comes next is the whole next token. Within a
token, the row holds nothing else, the rest of the token does not fit on a row, and what comes next
is a character. -/
structure BreaksLate (m : Measure) (width : Nat) (tokens : List (List Char)) (r r' : Row) :
    Prop where
  start_eq : r'.start = r.stop
  exists_token : ∃ before token after, tokens = before ++ token :: after ∧
    before.flatten.length ≤ r'.start ∧ r'.start < before.flatten.length + token.length
  behind : ∀ before token after, tokens = before ++ token :: after →
    before.flatten.length = r'.start → m.Exceeds width (r.text ++ token)
  within : ∀ before token after, tokens = before ++ token :: after →
    before.flatten.length < r'.start → r'.start < before.flatten.length + token.length →
      (before.flatten.length ≤ r.start ∧ r.stop ≤ before.flatten.length + token.length) ∧
      m.Exceeds width (token.drop (r.start - before.flatten.length)) ∧
      ∃ c ∈ r'.text.head?, m.Exceeds width (r.text ++ [c])

private theorem Takes.exists_token (hne : [] ∉ tokens)
    (h : Takes m width (tokensFrom col tokens) piece) :
    ∃ before token after, tokens = before ++ token :: after ∧ before.flatten.length ≤ col ∧
      col < before.flatten.length + token.length := by
  cases hleft : tokensFrom col tokens with
  | nil =>
    obtain ⟨rest, hrest⟩ := h.exists_append
    rw [hleft, List.flatten_nil] at hrest
    exact absurd (List.append_eq_nil_iff.mp hrest.symm).1 (h.ne_nil (nil_notMem_tokensFrom hne col))
  | cons left rest =>
    obtain ⟨before, token, htokens, hle, hdrop⟩ := exists_token_of_tokensFrom hleft
    have hpos : left ≠ [] := fun hnil ↦
      nil_notMem_tokensFrom hne col (hleft ▸ hnil ▸ List.mem_cons_self ..)
    rw [hdrop, ← List.length_pos_iff, List.length_drop] at hpos
    exact ⟨before, token, rest, htokens, hle, by omega⟩

private theorem not_within_of_append {taken rest : List (List Char)}
    (hne : [] ∉ before ++ token :: after) (htaken : taken ≠ [])
    (htokens : tokensFrom col (before ++ token :: after) = taken ++ rest)
    (hlt : before.flatten.length < col + taken.flatten.length) :
    before.flatten.length + token.length ≤ col + taken.flatten.length := by
  refine Nat.le_of_not_lt fun hwithin ↦ ?_
  have hrest : [] ∉ rest := fun hr ↦
    nil_notMem_tokensFrom hne col (htokens ▸ List.mem_append_right taken hr)
  -- The tokens left behind the row begin with a rest of the token and with a whole token.
  have hleft : rest = token.drop (col + taken.flatten.length - before.flatten.length) :: after := by
    rw [← tokensFrom_append_cons (Nat.le_of_lt hlt) hwithin, ← tokensFrom_tokensFrom, htokens,
      tokensFrom_append hrest]
  obtain ⟨first, taken, rfl⟩ := List.exists_cons_of_ne_nil htaken
  obtain ⟨before', first', hsplit, -, -⟩ := exists_token_of_tokensFrom htokens
  have hsplit' : before ++ token :: after = before' ++ first' :: taken ++
      token.drop (col + (first :: taken).flatten.length - before.flatten.length) :: after := by
    rw [hsplit, hleft, List.append_assoc, List.cons_append]
    rfl
  obtain ⟨-, htoken⟩ := append_cons_inj hsplit'
  have hlength := congrArg List.length htoken
  rw [List.length_drop] at hlength
  omega

section Breaks

variable (hne : [] ∉ before ++ token :: after)
  (h : Takes m width (tokensFrom col (before ++ token :: after)) piece)
  (hnarrow : ¬ m.Overwide width piece)
include hne h hnarrow

/-- Where a row ends behind a token, the next token would not fit on it. -/
theorem exceeds_of_behind (hstart : before.flatten.length = col + piece.length) :
    m.Exceeds width (piece ++ token) := by
  have htoken : 0 < token.length := by
    rw [List.length_pos_iff]
    rintro rfl
    exact hne (by simp)
  have hnext : tokensFrom (col + piece.length) (before ++ token :: after) = token :: after := by
    rw [tokensFrom_append_cons (Nat.le_of_eq hstart) (by omega), hstart, Nat.sub_self,
      List.drop_zero]
  generalize htokens : tokensFrom col (before ++ token :: after) = left at h
  cases h with
  | @whole taken rest htaken _ hexceeds =>
    have hrest : [] ∉ rest := fun hr ↦
      nil_notMem_tokensFrom hne col (htokens ▸ List.mem_append_right taken hr)
    rw [← tokensFrom_tokensFrom, htokens, tokensFrom_append hrest] at hnext
    exact hexceeds token (hnext ▸ rfl)
  | @part _ left rest hpiece _ hlong =>
    -- Part of a token was taken, so the row ends within that token and not behind it.
    obtain ⟨-, c, hc, -⟩ := hlong.resolve_left hnarrow
    have hleft := List.length_pos_of_mem (List.mem_of_mem_head? hc)
    have hpos := List.length_pos_iff.mpr hpiece
    obtain ⟨hle, -⟩ := eq_drop_of_tokensFrom htokens (Nat.le_add_right col piece.length)
      (by rw [List.length_append]; omega) (Nat.le_of_eq hstart) (by omega)
    omega

/-- Where a row ends within a token, it holds nothing else, the rest of the token does not fit on a
row, and the next character would not fit on this one. -/
theorem exceeds_of_within (hlt : before.flatten.length < col + piece.length)
    (hgt : col + piece.length < before.flatten.length + token.length) :
    before.flatten.length ≤ col ∧
      m.Exceeds width (token.drop (col - before.flatten.length)) ∧
      ∃ c ∈ (tokensFrom (col + piece.length) (before ++ token :: after)).flatten.head?,
        m.Exceeds width (piece ++ [c]) := by
  rw [← tokensFrom_tokensFrom]
  generalize htokens : tokensFrom col (before ++ token :: after) = left at h
  cases h with
  | whole htaken =>
    have := not_within_of_append hne htaken htokens hlt
    omega
  | @part _ left rest _ hwide hlong =>
    obtain ⟨-, c, hc, hexceeds⟩ := hlong.resolve_left hnarrow
    have hleft := List.length_pos_of_mem (List.mem_of_mem_head? hc)
    obtain ⟨hle, hdrop⟩ := eq_drop_of_tokensFrom htokens (Nat.le_add_right col piece.length)
      (by rw [List.length_append]; omega) (Nat.le_of_lt hlt) hgt
    refine ⟨hle, hdrop ▸ hwide, c, ?_, hexceeds⟩
    rw [flatten_tokensFrom, List.flatten_cons, List.append_assoc, List.drop_left]
    exact List.mem_head?_append_of_mem_head? hc

end Breaks

/-- A row that reaches into a token that fits holds the rest of it. -/
theorem covers_of_fits (hne : [] ∉ before ++ token :: after)
    (h : Takes m width (tokensFrom col (before ++ token :: after)) piece)
    (htoken : m.Fits width token) (hle : col ≤ before.flatten.length)
    (hlt : before.flatten.length < col + piece.length) :
    before.flatten.length + token.length ≤ col + piece.length := by
  generalize htokens : tokensFrom col (before ++ token :: after) = left at h
  cases h with
  | whole htaken => exact not_within_of_append hne htaken htokens hlt
  | @part _ left rest _ hwide =>
    refine Nat.le_of_not_lt fun hwithin ↦ ?_
    -- The token is the one that did not fit, although it does.
    obtain ⟨hstart, hdrop⟩ := eq_drop_of_tokensFrom htokens hle
      (by rw [List.length_append]; omega) (Nat.le_refl _) (by omega)
    rw [Nat.sub_eq_zero_of_le hle, List.drop_zero] at hdrop
    rw [hdrop] at hwide
    exact hwide.not_fits htoken

namespace Wraps

variable (hne : [] ∉ tokens) (h : Wraps m width line col (tokensFrom col tokens) rows)
include hne h

/-- Every row that is no character wider than the width ends where what comes next would not fit. -/
theorem isChain_breaksLate :
    rows.IsChain fun r r' ↦ ¬ m.Overwide width r.text → BreaksLate m width tokens r r' := by
  generalize htokens : tokensFrom col tokens = left at h
  induction h with
  | done col => exact .nil
  | @row col left piece rows htakes h ih =>
    subst htokens
    rw [tokensFrom_tokensFrom] at h
    refine List.isChain_cons.mpr ⟨fun r' hr' hnarrow ↦ ?_, ih (tokensFrom_tokensFrom _ _ _).symm⟩
    obtain ⟨hstart, htakes'⟩ := h.takes_of_head hr'
    refine ⟨hstart, hstart ▸ htakes'.exists_token hne, ?_, ?_⟩
    · rintro before token after rfl hend
      exact exceeds_of_behind hne htakes hnarrow (hend.trans hstart)
    · rintro before token after rfl hlt hgt
      rw [hstart] at hlt hgt
      obtain ⟨hle, hwide, c, hc, hexceeds⟩ := exceeds_of_within hne htakes hnarrow hlt hgt
      rw [← htakes'.head?_eq (nil_notMem_tokensFrom hne _)] at hc
      exact ⟨⟨hle, Nat.le_of_lt hgt⟩, hwide, c, hc, hexceeds⟩

private theorem exists_covers (htokens : tokens = before ++ token :: after)
    (htoken : m.Fits width token) (hle : col ≤ before.flatten.length) :
    ∃ r ∈ rows, r.start ≤ before.flatten.length ∧
      before.flatten.length + token.length ≤ r.stop := by
  generalize hleft : tokensFrom col tokens = left at h
  induction h with
  | done col =>
    have hlength := length_le_of_tokensFrom_eq_nil hleft
    have htoken : 0 < token.length := by
      rw [List.length_pos_iff]
      rintro rfl
      exact hne (by simp [htokens])
    rw [htokens, List.flatten_append, List.flatten_cons, List.length_append,
      List.length_append] at hlength
    omega
  | @row col left piece rows htakes h ih =>
    subst hleft
    by_cases hlt : before.flatten.length < col + piece.length
    · subst htokens
      have hcovers := covers_of_fits hne htakes htoken hle hlt
      exact ⟨_, List.mem_cons_self .., hle, hcovers⟩
    · obtain ⟨r, hr, hcovers⟩ := ih (Nat.not_lt.mp hlt) (tokensFrom_tokensFrom _ _ _).symm
      exact ⟨r, List.mem_cons_of_mem _ hr, hcovers⟩

end Wraps

/-- Rows break late, for any total measurer: a row of a line that is no single character wider than
the width ends only where what comes next would not fit on it, and a token that fits on a row is
never cut. -/
theorem breaks_are_needed (hm : m.Total) (width line : Nat) (text : List Char) :
    ∃ rows, wrapLine m width line text = .ok rows ∧
      (rows.IsChain fun r r' ↦
        ¬ m.Overwide width r.text → BreaksLate m width (splitTokens text) r r') ∧
      ∀ before token after, splitTokens text = before ++ token :: after → m.Fits width token →
        ∃ r ∈ rows, r.start ≤ before.flatten.length ∧
          before.flatten.length + token.length ≤ r.stop := by
  obtain ⟨rows, hrows⟩ := exists_wrapLine hm width line text
  refine ⟨rows, hrows, ?_⟩
  by_cases hne : text = []
  · subst hne
    rw [wrapLine_nil] at hrows
    cases hrows
    refine ⟨.singleton _, fun before token after h ↦ ?_⟩
    simp [splitTokens] at h
  · have hnil := nil_notMem_splitTokens text
    have hwraps := wraps_wrapLine hne hrows
    rw [← tokensFrom_zero hnil] at hwraps
    exact ⟨hwraps.isChain_breaksLate hnil, fun before token after htokens htoken ↦
      hwraps.exists_covers hnil htokens htoken (Nat.zero_le _)⟩

/-- Breaks under a measurer for which a longer text may be narrower: the first token fits on a row
and the last has to be cut. -/
theorem breaks_are_needed_ligating :
    Measure.ligating.Total ∧
      ∃ rows, wrapLine .ligating 26 0 ['o', 'f', 'f', 'i', ' ', 'a', 'b', 'c', 'd'] = .ok rows ∧
        (rows.IsChain fun r r' ↦ ¬ Measure.ligating.Overwide 26 r.text →
          BreaksLate .ligating 26
            (splitTokens ['o', 'f', 'f', 'i', ' ', 'a', 'b', 'c', 'd']) r r') ∧
        ∀ before token after,
          splitTokens ['o', 'f', 'f', 'i', ' ', 'a', 'b', 'c', 'd'] = before ++ token :: after →
            Measure.ligating.Fits 26 token → ∃ r ∈ rows, r.start ≤ before.flatten.length ∧
              before.flatten.length + token.length ≤ r.stop := by
  have htotal : Measure.ligating.Total := Measure.total_ofWidth _
  exact ⟨htotal, breaks_are_needed htotal 26 0 _⟩

end EditBox.Layout
