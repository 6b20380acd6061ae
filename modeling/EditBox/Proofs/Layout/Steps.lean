import EditBox.Layout.Wrap

/-!
# Wrapping row by row

What wrapping does for one row, said once. `Takes` relates the tokens that are left to the text of
the next row: whole tokens as long as they fit, or part of one token that does not fit on a row of
its own. What is left afterwards depends on the number of characters taken alone, `tokensFrom`, so
that rows of different widths can be compared. `Wraps` strings the rows together, and
`wraps_wrapTokens` finds them in any result of wrapping.
-/

namespace EditBox

namespace Measure

/-- A text measures no more than a width. -/
def Fits (m : Measure) (width : Nat) (text : List Char) : Prop :=
  ∃ w, m.width text = .ok w ∧ w ≤ width

/-- A text measures more than a width. -/
def Exceeds (m : Measure) (width : Nat) (text : List Char) : Prop :=
  ∃ w, m.width text = .ok w ∧ width < w

/-- A text is a single character that measures more than a width. -/
def Overwide (m : Measure) (width : Nat) (text : List Char) : Prop :=
  m.Exceeds width text ∧ ∃ c, text = [c]

/-- A text that measures more than a width does not fit it. -/
theorem Exceeds.not_fits {m : Measure} {width : Nat} {text : List Char}
    (h : m.Exceeds width text) : ¬ m.Fits width text := by
  rintro ⟨w, hw, hle⟩
  obtain ⟨w', hw', hlt⟩ := h
  obtain rfl : w = w' := Except.ok.inj (hw.symm.trans hw')
  omega

end Measure

namespace Text

/-- What is left of tokens after their first `n` characters. -/
def tokensFrom : (n : Nat) → List (List Char) → List (List Char)
  | _, [] => []
  | n, token :: rest =>
      if n < token.length then token.drop n :: rest else tokensFrom (n - token.length) rest

variable {tokens before after taken rest : List (List Char)} {token left : List Char} {n : Nat}

/-- A token of which characters are left stays in front. -/
theorem tokensFrom_cons_of_lt (h : n < token.length) :
    tokensFrom n (token :: rest) = token.drop n :: rest :=
  if_pos h

/-- A token all of whose characters are passed is gone. -/
theorem tokensFrom_cons_of_le (h : token.length ≤ n) :
    tokensFrom n (token :: rest) = tokensFrom (n - token.length) rest :=
  if_neg (Nat.not_lt.mpr h)

/-- Nothing is gone after no characters. -/
theorem tokensFrom_zero (hne : [] ∉ tokens) : tokensFrom 0 tokens = tokens := by
  cases tokens with
  | nil => rfl
  | cons token rest =>
    have hpos : 0 < token.length := by
      rw [List.length_pos_iff]
      rintro rfl
      exact hne (List.mem_cons_self ..)
    rw [tokensFrom_cons_of_lt hpos, List.drop_zero]

private theorem tokensFrom_append_add (taken rest : List (List Char)) (n : Nat) :
    tokensFrom (taken.flatten.length + n) (taken ++ rest) = tokensFrom n rest := by
  induction taken with
  | nil => simp
  | cons token taken ih =>
    have hlength : (token :: taken).flatten.length + n =
        token.length + (taken.flatten.length + n) := by
      simp [Nat.add_assoc]
    rw [hlength, List.cons_append, tokensFrom_cons_of_le (Nat.le_add_right _ _),
      Nat.add_sub_cancel_left, ih]

/-- After the characters of whole tokens the tokens behind them are left. -/
theorem tokensFrom_append (hne : [] ∉ rest) :
    tokensFrom taken.flatten.length (taken ++ rest) = rest := by
  rw [← Nat.add_zero taken.flatten.length, tokensFrom_append_add, tokensFrom_zero hne]

/-- Within whole tokens the tokens behind them are all left. -/
theorem tokensFrom_append_of_lt (h : n < taken.flatten.length) :
    tokensFrom n (taken ++ rest) = tokensFrom n taken ++ rest := by
  induction taken generalizing n with
  | nil => simp at h
  | cons token taken ih =>
    by_cases hn : n < token.length
    · rw [List.cons_append, tokensFrom_cons_of_lt hn, tokensFrom_cons_of_lt hn, List.cons_append]
    · have hle := Nat.not_lt.mp hn
      rw [List.flatten_cons, List.length_append] at h
      rw [List.cons_append, tokensFrom_cons_of_le hle, tokensFrom_cons_of_le hle]
      exact ih (by omega)

/-- Characters passed one after another are passed at once. -/
theorem tokensFrom_tokensFrom (j k : Nat) (tokens : List (List Char)) :
    tokensFrom k (tokensFrom j tokens) = tokensFrom (j + k) tokens := by
  induction tokens generalizing j with
  | nil => rfl
  | cons token rest ih =>
    by_cases hj : j < token.length
    · rw [tokensFrom_cons_of_lt hj]
      by_cases hk : j + k < token.length
      · have hlt : k < (token.drop j).length := by
          rw [List.length_drop]
          omega
        rw [tokensFrom_cons_of_lt hk, tokensFrom_cons_of_lt hlt, List.drop_drop]
      · have hle : (token.drop j).length ≤ k := by
          rw [List.length_drop]
          omega
        have hsame : k - (token.drop j).length = j + k - token.length := by
          rw [List.length_drop]
          omega
        rw [tokensFrom_cons_of_le (Nat.not_lt.mp hk), tokensFrom_cons_of_le hle, hsame]
    · have hle : token.length ≤ j + k := by omega
      have hsame : j - token.length + k = j + k - token.length := by omega
      rw [tokensFrom_cons_of_le (Nat.not_lt.mp hj), ih, tokensFrom_cons_of_le hle, hsame]

/-- The characters that are left are those behind the ones passed. -/
theorem flatten_tokensFrom (n : Nat) (tokens : List (List Char)) :
    (tokensFrom n tokens).flatten = tokens.flatten.drop n := by
  induction tokens generalizing n with
  | nil => simp [tokensFrom]
  | cons token rest ih =>
    by_cases hn : n < token.length
    · rw [tokensFrom_cons_of_lt hn, List.flatten_cons, List.flatten_cons,
        List.drop_append_of_le_length (Nat.le_of_lt hn)]
    · rw [tokensFrom_cons_of_le (Nat.not_lt.mp hn), ih, List.flatten_cons, List.drop_append,
        List.drop_of_length_le (Nat.not_lt.mp hn), List.nil_append]

/-- No tokens are left when all characters are passed. -/
theorem length_le_of_tokensFrom_eq_nil (h : tokensFrom n tokens = []) :
    tokens.flatten.length ≤ n := by
  rw [← List.drop_eq_nil_iff, ← flatten_tokensFrom, h]
  rfl

/-- No token that is left is empty. -/
theorem nil_notMem_tokensFrom (hne : [] ∉ tokens) (n : Nat) : [] ∉ tokensFrom n tokens := by
  induction tokens generalizing n with
  | nil => exact hne
  | cons token rest ih =>
    have hrest : [] ∉ rest := fun h ↦ hne (List.mem_cons_of_mem _ h)
    by_cases hn : n < token.length
    · have hleft : token.drop n ≠ [] := by
        rw [Ne, List.drop_eq_nil_iff]
        omega
      rw [tokensFrom_cons_of_lt hn, List.mem_cons, not_or]
      exact ⟨hleft.symm, hrest⟩
    · rw [tokensFrom_cons_of_le (Nat.not_lt.mp hn)]
      exact ih hrest _

/-- From within a token the rest of it is left, and the tokens behind it. -/
theorem tokensFrom_append_cons (hle : before.flatten.length ≤ n)
    (hlt : n < before.flatten.length + token.length) :
    tokensFrom n (before ++ token :: after) = token.drop (n - before.flatten.length) :: after := by
  obtain ⟨k, rfl⟩ := Nat.exists_eq_add_of_le hle
  rw [tokensFrom_append_add, Nat.add_sub_cancel_left, tokensFrom_cons_of_lt (by omega)]

/-- The first token that is left is the rest of a token that is reached. -/
theorem exists_token_of_tokensFrom (h : tokensFrom n tokens = left :: rest) :
    ∃ before token, tokens = before ++ token :: rest ∧ before.flatten.length ≤ n ∧
      left = token.drop (n - before.flatten.length) := by
  induction tokens generalizing n with
  | nil => cases h
  | cons token tokens ih =>
    by_cases hn : n < token.length
    · rw [tokensFrom_cons_of_lt hn] at h
      cases h
      exact ⟨[], token, rfl, Nat.zero_le n, rfl⟩
    · rw [tokensFrom_cons_of_le (Nat.not_lt.mp hn)] at h
      obtain ⟨before, token', rfl, hle, hleft⟩ := ih h
      have hlength : (token :: before).flatten.length = token.length + before.flatten.length := by
        rw [List.flatten_cons, List.length_append]
      refine ⟨token :: before, token', rfl, by omega, ?_⟩
      rw [hleft, hlength, Nat.sub_sub]

/-- Tokens are told apart by the tokens behind them. -/
theorem append_cons_inj {before before' : List (List Char)} {token token' : List Char}
    (h : before ++ token :: after = before' ++ token' :: after) :
    before = before' ∧ token = token' := by
  rw [List.append_cons before, List.append_cons before'] at h
  exact List.append_singleton_inj.mp (List.append_cancel_right h)

/-- Where a token is reached that holds a position, what is left of it begins what is left. -/
theorem eq_drop_of_tokensFrom {col : Nat}
    (h : tokensFrom col (before ++ token :: after) = left :: rest) (hcol : col ≤ n)
    (hleft : n < col + left.length) (hbefore : before.flatten.length ≤ n)
    (hafter : n < before.flatten.length + token.length) :
    before.flatten.length ≤ col ∧ left = token.drop (col - before.flatten.length) := by
  obtain ⟨before', token', htokens, hle, hdrop⟩ := exists_token_of_tokensFrom h
  have hlength := congrArg List.length hdrop
  rw [List.length_drop] at hlength
  -- Both tokens hold the position, and so the same tokens stand behind them.
  have hsame : token.drop (n - before.flatten.length) :: after =
      token'.drop (n - before'.flatten.length) :: rest := by
    rw [← tokensFrom_append_cons hbefore hafter, htokens]
    exact tokensFrom_append_cons (by omega) (by omega)
  obtain ⟨-, rfl⟩ := List.cons.inj hsame
  obtain ⟨rfl, rfl⟩ := append_cons_inj htokens
  exact ⟨hle, hdrop⟩

end Text

namespace Layout

open EditBox.Text

variable {m : Measure} {width line col n : Nat} {row piece : List Char}
  {tokens pieces : List (List Char)} {rows : List Row}

/-- How many pieces fit behind a text: with them it fits, and with one more it does not. -/
structure FitsUpTo (m : Measure) (width : Nat) (row : List Char) (pieces : List (List Char))
    (n : Nat) : Prop where
  le_length : n ≤ pieces.length
  fits : 0 < n → m.Fits width (row ++ (pieces.take n).flatten)
  exceeds : n < pieces.length → m.Exceeds width (row ++ (pieces.take (n + 1)).flatten)

private theorem fitsUpTo_of_fittingPieces (h : fittingPieces m width row pieces = .ok n) :
    FitsUpTo m width row pieces n := by
  induction pieces generalizing row n with
  | nil =>
    cases h
    exact ⟨Nat.le_refl 0, by simp, by simp⟩
  | cons piece rest ih =>
    obtain ⟨w, hw, h⟩ := Fault.bind_eq_ok_iff.mp h
    have hshift (k : Nat) : row ++ ((piece :: rest).take (k + 1)).flatten =
        row ++ piece ++ (rest.take k).flatten := by
      simp
    split at h
    · next hle =>
      obtain ⟨more, hmore, h⟩ := Fault.bind_eq_ok_iff.mp h
      cases h
      obtain ⟨hlength, hfits, hexceeds⟩ := ih hmore
      refine ⟨Nat.succ_le_succ hlength, fun _ ↦ ?_, fun hlt ↦ ?_⟩
      · rw [hshift]
        cases more with
        | zero => exact ⟨w, by simpa using hw, hle⟩
        | succ more => exact hfits (Nat.succ_pos _)
      · rw [hshift]
        exact hexceeds (Nat.lt_of_succ_lt_succ hlt)
    · next hgt =>
      cases h
      exact ⟨Nat.zero_le _, by simp, fun _ ↦ ⟨w, by simpa using hw, Nat.not_le.mp hgt⟩⟩

/-- What one row takes of the tokens that are left. -/
inductive Takes (m : Measure) (width : Nat) : List (List Char) → List Char → Prop where
  /-- Whole tokens that fit together and would not with the next. -/
  | whole {taken rest : List (List Char)} (hne : taken ≠ []) (hfits : m.Fits width taken.flatten)
      (hnext : ∀ token ∈ rest.head?, m.Exceeds width (taken.flatten ++ token)) :
      Takes m width (taken ++ rest) taken.flatten
  /-- Characters of a token too wide for a row: those that fit and would not with the next, or a
  single one if not even that fits. -/
  | part {piece left : List Char} {rest : List (List Char)} (hne : piece ≠ [])
      (hwide : m.Exceeds width (piece ++ left))
      (hlong : m.Overwide width piece ∨
        m.Fits width piece ∧ ∃ c ∈ left.head?, m.Exceeds width (piece ++ [c])) :
      Takes m width ((piece ++ left) :: rest) piece

/-- A token too wide for a row is cut after the characters of it that fit, or after the first. -/
theorem takes_part {token : List Char} {k : Nat} (htoken : token ≠ [])
    (hwide : m.Exceeds width token) (hk : FitsUpTo m width [] (token.map ([·])) k)
    (rest : List (List Char)) :
    Takes m width (token :: rest) (token.take (max 1 k)) := by
  obtain ⟨hle, hfits, hexceeds⟩ := hk
  have hpieces (j : Nat) : ((token.map ([·])).take j).flatten = token.take j := by
    rw [← List.map_take, ← List.flatMap_def, List.flatMap_singleton']
  simp only [List.nil_append, List.length_map, hpieces] at hle hfits hexceeds
  have hpos := List.length_pos_iff.mpr htoken
  -- The whole token does not fit, so the count stops short of it.
  have hlt : k < token.length := by
    refine Nat.lt_of_le_of_ne hle fun heq ↦ hwide.not_fits ?_
    have hwhole := hfits (by omega)
    rw [heq, List.take_length] at hwhole
    exact hwhole
  have hne : token.take (max 1 k) ≠ [] := by
    rw [← List.length_pos_iff, List.length_take]
    omega
  have hlong : m.Overwide width (token.take (max 1 k)) ∨ m.Fits width (token.take (max 1 k)) ∧
      ∃ c ∈ (token.drop (max 1 k)).head?, m.Exceeds width (token.take (max 1 k) ++ [c]) := by
    cases k with
    | zero =>
      obtain ⟨c, left, rfl⟩ := List.exists_cons_of_ne_nil htoken
      exact .inl ⟨hexceeds hpos, c, rfl⟩
    | succ k =>
      rw [Nat.max_eq_right (Nat.le_add_left 1 k)]
      refine .inr ⟨hfits (Nat.succ_pos k), token[k + 1], ?_, ?_⟩
      · rw [List.drop_eq_getElem_cons hlt]
        rfl
      · rw [List.take_append_getElem hlt]
        exact hexceeds hlt
  have hsplit : token.take (max 1 k) ++ token.drop (max 1 k) = token := List.take_append_drop _ _
  rw [← hsplit] at hwide
  have htakes : Takes m width ((token.take (max 1 k) ++ token.drop (max 1 k)) :: rest)
      (token.take (max 1 k)) := .part hne hwide hlong
  rw [hsplit] at htakes
  exact htakes

private theorem takes_whole {n : Nat} (htokens : tokens ≠ [])
    (hn : FitsUpTo m width [] tokens (n + 1)) :
    Takes m width tokens (tokens.take (n + 1)).flatten := by
  obtain ⟨-, hfits, hexceeds⟩ := hn
  have htaken : tokens.take (n + 1) ≠ [] := by simpa using htokens
  have htakes : Takes m width (tokens.take (n + 1) ++ tokens.drop (n + 1))
      (tokens.take (n + 1)).flatten := by
    refine .whole htaken (by simpa using hfits (Nat.succ_pos n)) fun next hnext ↦ ?_
    rw [List.head?_drop] at hnext
    obtain ⟨hlt, rfl⟩ := List.getElem?_eq_some_iff.mp hnext
    have hwide := hexceeds hlt
    rw [← List.take_append_getElem hlt, List.flatten_concat, List.nil_append] at hwide
    exact hwide
  rw [List.take_append_drop] at htakes
  exact htakes

/-- The first row of wrapped tokens is taken from them, and the other rows are those of what is
left. -/
theorem exists_takes_of_wrapTokens (hne : [] ∉ tokens) (htokens : tokens ≠ [])
    (h : wrapTokens m width line col tokens = .ok rows) :
    ∃ piece more, Takes m width tokens piece ∧ rows = ⟨line, col, piece⟩ :: more ∧
      wrapTokens m width line (col + piece.length) (tokensFrom piece.length tokens) = .ok more := by
  obtain ⟨token, rest, rfl⟩ := List.exists_cons_of_ne_nil htokens
  have htoken : token ≠ [] := fun ht ↦ hne (ht ▸ List.mem_cons_self ..)
  have hrest : [] ∉ rest := fun hr ↦ hne (List.mem_cons_of_mem _ hr)
  rw [wrapTokens] at h
  obtain ⟨n, hn, h⟩ := Fault.bind_eq_ok_iff.mp h
  have hfit := fitsUpTo_of_fittingPieces hn
  cases n with
  | zero =>
    obtain ⟨k, hk, h⟩ := Fault.bind_eq_ok_iff.mp h
    have hwide : m.Exceeds width token := by simpa using hfit.exceeds (Nat.succ_pos _)
    have htakes := takes_part htoken hwide (fitsUpTo_of_fittingPieces hk) rest
    by_cases hc : max 1 k < token.length
    · simp only [hc, if_true] at h
      obtain ⟨more, hmore, h⟩ := Fault.bind_eq_ok_iff.mp h
      cases h
      refine ⟨_, more, htakes, rfl, ?_⟩
      rw [List.length_take, Nat.min_eq_left (Nat.le_of_lt hc), tokensFrom_cons_of_lt hc]
      simpa [Row.stop, Row.length, Nat.min_eq_left (Nat.le_of_lt hc)] using hmore
    · simp only [hc, if_false] at h
      obtain ⟨more, hmore, h⟩ := Fault.bind_eq_ok_iff.mp h
      cases h
      refine ⟨_, more, htakes, rfl, ?_⟩
      rw [List.take_of_length_le (Nat.not_lt.mp hc)] at hmore ⊢
      rw [tokensFrom_cons_of_le (Nat.le_refl _), Nat.sub_self, tokensFrom_zero hrest]
      exact hmore
  | succ n =>
    obtain ⟨more, hmore, h⟩ := Fault.bind_eq_ok_iff.mp h
    cases h
    have hdrop : [] ∉ (token :: rest).drop (n + 1) := fun hmem ↦ hne (List.mem_of_mem_drop hmem)
    have hleft : tokensFrom ((token :: rest).take (n + 1)).flatten.length
        ((token :: rest).take (n + 1) ++ (token :: rest).drop (n + 1)) =
          (token :: rest).drop (n + 1) := tokensFrom_append hdrop
    rw [List.take_append_drop] at hleft
    refine ⟨_, more, takes_whole htokens hfit, rfl, ?_⟩
    rw [hleft]
    exact hmore

/-- Rows that are taken from tokens one after another until none are left. -/
inductive Wraps (m : Measure) (width line : Nat) : Nat → List (List Char) → List Row → Prop where
  | done (col : Nat) : Wraps m width line col [] []
  | row {col : Nat} {tokens : List (List Char)} {piece : List Char} {rows : List Row}
      (htakes : Takes m width tokens piece)
      (h : Wraps m width line (col + piece.length) (tokensFrom piece.length tokens) rows) :
      Wraps m width line col tokens (⟨line, col, piece⟩ :: rows)

/-- Wrapped tokens are taken row by row. -/
theorem wraps_wrapTokens (hne : [] ∉ tokens)
    (h : wrapTokens m width line col tokens = .ok rows) : Wraps m width line col tokens rows := by
  induction rows generalizing col tokens with
  | nil =>
    by_cases htokens : tokens = []
    · rw [htokens]
      exact .done col
    · obtain ⟨piece, more, -, hrows, -⟩ := exists_takes_of_wrapTokens hne htokens h
      cases hrows
  | cons r rows ih =>
    have htokens : tokens ≠ [] := by
      rintro rfl
      rw [wrapTokens] at h
      cases h
    obtain ⟨piece, more, htakes, hrows, hmore⟩ := exists_takes_of_wrapTokens hne htokens h
    cases hrows
    exact .row htakes (ih (nil_notMem_tokensFrom hne _) hmore)

namespace Takes

variable (h : Takes m width tokens piece)
include h

/-- A row takes a character. -/
theorem ne_nil (hne : [] ∉ tokens) : piece ≠ [] := by
  cases h with
  | @whole taken rest htaken =>
    obtain ⟨token, taken, rfl⟩ := List.exists_cons_of_ne_nil htaken
    have htoken : token ≠ [] := fun ht ↦ hne (by simp [ht])
    exact List.append_ne_nil_of_left_ne_nil htoken _
  | part hpiece => exact hpiece

/-- A row takes the first characters that are left. -/
theorem exists_append : ∃ rest, tokens.flatten = piece ++ rest := by
  cases h with
  | @whole taken rest => exact ⟨rest.flatten, List.flatten_append⟩
  | @part piece left rest => exact ⟨left ++ rest.flatten, by simp⟩

/-- A row begins with the first character that is left. -/
theorem head?_eq (hne : [] ∉ tokens) : piece.head? = tokens.flatten.head? := by
  obtain ⟨rest, hrest⟩ := h.exists_append
  obtain ⟨c, piece, rfl⟩ := List.exists_cons_of_ne_nil (h.ne_nil hne)
  rw [hrest]
  rfl

/-- The characters that are left are those taken and those left behind them. -/
theorem flatten_eq : piece ++ (tokensFrom piece.length tokens).flatten = tokens.flatten := by
  obtain ⟨rest, hrest⟩ := h.exists_append
  rw [flatten_tokensFrom, hrest, List.drop_left]

/-- What a row takes fits, or is a single character that does not. -/
theorem fits_or_overwide : m.Fits width piece ∨ m.Overwide width piece := by
  cases h with
  | whole _ hfits => exact .inl hfits
  | part _ _ hlong =>
    rcases hlong with hover | ⟨hfits, -⟩
    · exact .inr hover
    · exact .inl hfits

end Takes

/-- The first row is taken from the tokens. -/
theorem Wraps.takes_of_head {r : Row} (h : Wraps m width line col tokens rows)
    (hr : r ∈ rows.head?) : r.start = col ∧ Takes m width tokens r.text := by
  cases h with
  | done => cases hr
  | row htakes h =>
    cases hr
    exact ⟨rfl, htakes⟩

end Layout

end EditBox
