import EditBox.Layout.Position

/-!
# Widths of prefixes

What is asked of a measurer where a pixel stands for a column: that the prefixes of a text do not
get narrower and lie within screen coordinates. The column found for a pixel is then the first whose
prefix reaches it, as `Reaches` says. Where a part of a row is measured by itself, it is asked that
widths add up.
-/

namespace EditBox

/-- The empty text measures nothing, and no text measures more than the text with another character
at its end. -/
structure Measure.Monotone (m : Measure) : Prop where
  width_nil : m.width [] = .ok 0
  width_append : ∀ text c, ∃ v w, m.width text = .ok v ∧ m.width (text ++ [c]) = .ok w ∧ v ≤ w

/-- The prefixes of a text can be measured, from nothing on, none is wider than a longer one, and
all are within screen coordinates. -/
structure Measure.Grows (m : Measure) (text : List Char) : Prop where
  width_nil : m.width [] = .ok 0
  exists_width : ∀ k, ∃ w, m.width (text.take k) = .ok w
  le_of_le : ∀ {j k v w}, j ≤ k → m.width (text.take j) = .ok v → m.width (text.take k) = .ok w →
    v ≤ w
  lt_bound : ∀ {w}, m.width text = .ok w → w < Bounded.coordinateBound

/-- The prefixes of a text can be measured, each is narrower than the next, and all are within
screen coordinates. -/
structure Measure.Increases (m : Measure) (text : List Char) : Prop where
  exists_width : ∀ k, ∃ w, m.width (text.take k) = .ok w
  lt_succ : ∀ {k v w}, k < text.length → m.width (text.take k) = .ok v →
    m.width (text.take (k + 1)) = .ok w → v < w
  lt_bound : ∀ {w}, m.width text = .ok w → w < Bounded.coordinateBound

/-- The parts of a text can be measured, two of them side by side are as wide as both together, and
all are within screen coordinates. -/
structure Measure.AdditiveOn (m : Measure) (text : List Char) : Prop where
  width_append : ∀ u v, u ++ v <:+: text →
    ∃ x y, m.width u = .ok x ∧ m.width v = .ok y ∧ m.width (u ++ v) = .ok (x + y)
  lt_bound : ∀ {w}, m.width text = .ok w → w < Bounded.coordinateBound

namespace Measure

variable {m : Measure} {text : List Char}

/-- Under a monotone measurer the prefixes of a text grow, if the text is within screen
coordinates. -/
theorem Monotone.grows (h : m.Monotone)
    (hb : ∀ w, m.width text = .ok w → w < Bounded.coordinateBound) : m.Grows text where
  width_nil := h.width_nil
  exists_width k := by
    obtain ⟨v, -, hv, -⟩ := h.width_append (text.take k) ' '
    exact ⟨v, hv⟩
  le_of_le := by
    intro j k v w hjk hv hw
    induction hjk generalizing w with
    | refl => exact Nat.le_of_eq (Except.ok.inj (hv.symm.trans hw))
    | @step k hjk ih =>
      rcases Nat.lt_or_ge k text.length with hlt | hge
      · obtain ⟨u, w', hu, hw', hle⟩ := h.width_append (text.take k) text[k]
        rw [List.take_append_getElem hlt, hw] at hw'
        cases hw'
        exact Nat.le_trans (ih hu) hle
      · rw [List.take_of_length_le (by omega), ← List.take_of_length_le hge] at hw
        exact ih hw
  lt_bound := fun {w} hw ↦ hb w hw

/-- The width of a prefix lies within screen coordinates. -/
theorem Grows.lt_coordinateBound (h : m.Grows text) {k w : Nat}
    (hw : m.width (text.take k) = .ok w) : w < Bounded.coordinateBound := by
  obtain ⟨v, hv⟩ := h.exists_width (max k text.length)
  have hle := h.le_of_le (Nat.le_max_left k text.length) hw hv
  rw [List.take_of_length_le (Nat.le_max_right _ _)] at hv
  have := h.lt_bound hv
  omega

/-- Of two prefixes the shorter one is narrower. -/
theorem Increases.lt_of_lt (h : m.Increases text) {j k v w : Nat} (hjk : j < k)
    (hk : k ≤ text.length) (hv : m.width (text.take j) = .ok v)
    (hw : m.width (text.take k) = .ok w) : v < w := by
  induction hjk generalizing w with
  | refl => exact h.lt_succ hk hv hw
  | @step k hjk ih =>
    obtain ⟨u, hu⟩ := h.exists_width k
    have hvu := ih (by omega) hu
    have huw := h.lt_succ (by omega) hu hw
    omega

/-- The width of a prefix lies within screen coordinates. -/
theorem Increases.lt_coordinateBound (h : m.Increases text) {k w : Nat} (hk : k ≤ text.length)
    (hw : m.width (text.take k) = .ok w) : w < Bounded.coordinateBound := by
  by_cases hlt : k < text.length
  · obtain ⟨v, hv⟩ := h.exists_width text.length
    have hwv := h.lt_of_lt hlt (Nat.le_refl _) hw hv
    rw [List.take_length] at hv
    have := h.lt_bound hv
    omega
  · rw [List.take_of_length_le (by omega)] at hw
    exact h.lt_bound hw

namespace AdditiveOn

variable (h : m.AdditiveOn text)
include h

/-- The empty text measures nothing. -/
theorem width_nil : m.width [] = .ok 0 := by
  obtain ⟨x, y, hx, hy, hsum⟩ := h.width_append [] [] (List.nil_infix)
  obtain rfl : x = y := Except.ok.inj (hx.symm.trans hy)
  have hdouble : x + x = x := Except.ok.inj (hsum.symm.trans hx)
  obtain rfl : x = 0 := by omega
  exact hx

/-- A part of the text is as wide as the prefixes up to its end and up to its start differ. -/
theorem exists_width_take_add (i k : Nat) :
    ∃ v w, m.width (text.take i) = .ok v ∧ m.width ((text.drop i).take k) = .ok w ∧
      m.width (text.take (i + k)) = .ok (v + w) := by
  rw [List.take_add]
  apply h.width_append
  rw [← List.take_add]
  exact (List.take_prefix _ _).isInfix

/-- The width of a prefix lies within screen coordinates. -/
theorem lt_coordinateBound {k w : Nat} (hw : m.width (text.take k) = .ok w) :
    w < Bounded.coordinateBound := by
  obtain ⟨v, rest, hv, -, hall⟩ := h.exists_width_take_add k text.length
  rw [List.take_of_length_le (Nat.le_add_left _ _)] at hall
  obtain rfl : w = v := Except.ok.inj (hw.symm.trans hv)
  exact Nat.lt_of_le_of_lt (Nat.le_add_right _ _) (h.lt_bound hall)

end AdditiveOn

/-- The same advance for every character adds up, as long as the width is not cut off. -/
theorem width_perChar {advance : Nat} (hb : text.length * advance < Bounded.coordinateBound) :
    (perChar advance).width text = .ok (text.length * advance) := by
  have hmax : text.length * advance ≤ maxPixel := by
    simp only [Bounded.coordinateBound, maxPixel, Bounded.pixelBound] at hb ⊢
    omega
  simp only [perChar, ofWidth, Nat.min_eq_left hmax]

/-- The same advance for every character is additive on texts within screen coordinates. -/
theorem additiveOn_perChar {advance : Nat}
    (hb : text.length * advance < Bounded.coordinateBound) :
    (perChar advance).AdditiveOn text where
  width_append u v huv := by
    have hlength : (u ++ v).length * advance ≤ text.length * advance :=
      Nat.mul_le_mul_right advance huv.length_le
    have hsum := width_perChar (Nat.lt_of_le_of_lt hlength hb)
    rw [List.length_append, Nat.add_mul] at hlength hsum
    exact ⟨_, _, width_perChar (by omega), width_perChar (by omega), hsum⟩
  lt_bound hw := by
    rw [width_perChar hb] at hw
    cases hw
    exact hb

/-- The same advance of some pixels for every character makes longer texts wider. -/
theorem increases_perChar {advance : Nat} (hpos : 0 < advance)
    (hb : text.length * advance < Bounded.coordinateBound) : (perChar advance).Increases text := by
  have hwidth (k : Nat) : (perChar advance).width (text.take k) =
      .ok (min k text.length * advance) := by
    have hle : min k text.length * advance ≤ text.length * advance :=
      Nat.mul_le_mul_right advance (Nat.min_le_right _ _)
    rw [← List.length_take] at hle ⊢
    exact width_perChar (Nat.lt_of_le_of_lt hle hb)
  constructor
  · intro k
    exact ⟨_, hwidth k⟩
  · intro k v w hk hv hw
    rw [hwidth, Except.ok.injEq, Nat.min_eq_left (Nat.le_of_lt hk)] at hv
    rw [hwidth, Except.ok.injEq, Nat.min_eq_left hk, Nat.succ_mul] at hw
    omega
  · intro w hw
    rw [← List.take_length (l := text), hwidth, Except.ok.injEq, Nat.min_self] at hw
    omega

/-- The same advance for every character is monotone. -/
theorem monotone_perChar (advance : Nat) : (perChar advance).Monotone where
  width_nil := by simp [perChar, ofWidth]
  width_append text c := by
    refine ⟨_, _, rfl, rfl, ?_⟩
    have hle : text.length * advance ≤ (text ++ [c]).length * advance := by
      rw [List.length_append]
      exact Nat.mul_le_mul_right advance (Nat.le_add_right _ _)
    dsimp only
    omega

/-- A sum over a text grows by the last character. -/
theorem sumOver_append (f : Char → Nat) (text : List Char) (c : Char) :
    sumOver f (text ++ [c]) = sumOver f text + f c := by
  induction text with
  | nil => simp [sumOver]
  | cons d text ih =>
    rw [List.cons_append, sumOver, sumOver, ih, Nat.add_assoc]

/-- A proportional font is monotone. -/
theorem monotone_proportional : proportional.Monotone where
  width_nil := rfl
  width_append text c :=
    ⟨_, _, rfl, rfl, sumOver_append proportionalAdvance text c ▸ Nat.le_add_right _ _⟩

end Measure

namespace Layout

variable {m : Measure} {text : List Char} {col : Nat}

/-- The first column of a text that reaches a distance, or its end. -/
structure Reaches (m : Measure) (x : Int) (taken rest : List Char) (col : Nat) : Prop where
  le_length : col ≤ rest.length
  lt_of_lt : ∀ k < col, ∃ w : Nat, m.width (taken ++ rest.take k) = .ok w ∧ w < x
  le_of_lt_length : col < rest.length →
    ∃ w : Nat, m.width (taken ++ rest.take col) = .ok w ∧ x ≤ w

/-- The column that is searched is the first that reaches the distance. -/
theorem reaches_of_columnReaching {x : Int} {taken rest : List Char}
    (h : columnReaching m x taken rest = .ok col) : Reaches m x taken rest col := by
  induction rest generalizing taken col with
  | nil =>
    obtain ⟨w, -, h⟩ := Fault.bind_eq_ok_iff.mp h
    cases h
    exact ⟨Nat.le_refl 0, by simp, by simp⟩
  | cons ch rest ih =>
    obtain ⟨w, hw, h⟩ := Fault.bind_eq_ok_iff.mp h
    split at h
    · next hx =>
      cases h
      refine ⟨Nat.zero_le _, by simp, fun _ ↦ ⟨w, ?_, hx⟩⟩
      rw [List.take_zero, List.append_nil, hw]
    · next hx =>
      obtain ⟨more, hmore, h⟩ := Fault.bind_eq_ok_iff.mp h
      cases h
      obtain ⟨hle, hlt, hreach⟩ := ih hmore
      have hshift (k : Nat) : taken ++ (ch :: rest).take (k + 1) =
          taken ++ [ch] ++ rest.take k := by
        rw [List.take_succ_cons, List.append_assoc, List.singleton_append]
      refine ⟨Nat.succ_le_succ hle, fun k hk ↦ ?_, fun hmore ↦ ?_⟩
      · cases k with
        | zero =>
          rw [List.take_zero, List.append_nil]
          exact ⟨w, hw, by omega⟩
        | succ k =>
          rw [hshift]
          exact hlt k (by omega)
      · rw [hshift]
        exact hreach (Nat.lt_of_succ_lt_succ hmore)

namespace Reaches

variable {x : Nat} {col' : Nat}

/-- Prefixes up to an earlier column are narrower than the distance. -/
theorem narrower (h : Reaches m x [] text col) :
    ∀ k < col, ∃ w, m.width (text.take k) = .ok w ∧ w < x := by
  intro k hk
  obtain ⟨w, hw, hlt⟩ := h.lt_of_lt k hk
  exact ⟨w, hw, by omega⟩

/-- A column beyond the left edge is not the first of a text with characters. -/
theorem pos (h : Reaches m x [] text col) (hm : m.width [] = .ok 0) (hx : 0 < x)
    (hne : text ≠ []) : 0 < col := by
  rcases Nat.eq_zero_or_pos col with rfl | hpos
  · obtain ⟨w, hw, hle⟩ := h.le_of_lt_length (List.length_pos_iff.mpr hne)
    obtain rfl : 0 = w := Except.ok.inj (hm.symm.trans hw)
    omega
  · exact hpos

/-- The first column that reaches the distance of some column is no later and at that distance. -/
theorem le_and_width_eq (h : Reaches m x [] text col') (hg : m.Grows text)
    (hcol : col ≤ text.length) (hw : m.width (text.take col) = .ok x) :
    col' ≤ col ∧ m.width (text.take col') = .ok x := by
  have hle : col' ≤ col := by
    apply Nat.le_of_not_lt
    intro hlt
    obtain ⟨w, hw', hlt'⟩ := h.lt_of_lt col hlt
    obtain rfl : x = w := Except.ok.inj (hw.symm.trans hw')
    omega
  refine ⟨hle, ?_⟩
  rcases Nat.eq_or_lt_of_le hle with rfl | hlt
  · exact hw
  · obtain ⟨w, hw', hge⟩ := h.le_of_lt_length (by omega)
    have := hg.le_of_le hle hw' hw
    obtain rfl : w = x := by omega
    exact hw'

/-- That column is the same unless the character before it has no width. -/
theorem eq_of_narrower (h : Reaches m x [] text col') (hle : col' ≤ col) (hcol : col ≤ text.length)
    (hg : m.Grows text) (hn : col = 0 ∨ ∃ w, m.width (text.take (col - 1)) = .ok w ∧ w < x) :
    col' = col := by
  rcases hn with rfl | ⟨w, hw, hlt⟩
  · exact Nat.le_zero.mp hle
  · rcases Nat.eq_or_lt_of_le hle with heq | hless
    · exact heq
    · obtain ⟨w', hw', hge⟩ := h.le_of_lt_length (by omega)
      have := hg.le_of_le (by omega : col' ≤ col - 1) hw' hw
      omega

/-- Where longer prefixes are wider, the first column that reaches the distance of some column is
that column. -/
theorem eq_of_increases (h : Reaches m x [] text col') (hm : m.Increases text)
    (hcol : col ≤ text.length) (hw : m.width (text.take col) = .ok x) : col' = col := by
  rcases Nat.lt_trichotomy col' col with hlt | heq | hgt
  · obtain ⟨w, hw', hge⟩ := h.le_of_lt_length (by omega)
    have := hm.lt_of_lt hlt hcol hw' hw
    omega
  · exact heq
  · obtain ⟨w, hw', hlt⟩ := h.lt_of_lt col hgt
    obtain rfl : x = w := Except.ok.inj (hw.symm.trans hw')
    omega

end Reaches

/-- A column is found behind characters that were passed if every text from these on can be
measured. -/
theorem exists_columnReaching_append (x : Int) {taken rest : List Char}
    (hm : ∀ k, ∃ w, m.width (taken ++ rest.take k) = .ok w) :
    ∃ col, columnReaching m x taken rest = .ok col := by
  induction rest generalizing taken with
  | nil =>
    obtain ⟨w, hw⟩ := hm 0
    rw [List.take_zero, List.append_nil] at hw
    rw [columnReaching, hw]
    exact ⟨0, rfl⟩
  | cons ch rest ih =>
    obtain ⟨w, hw⟩ := hm 0
    rw [List.take_zero, List.append_nil] at hw
    have hlater : ∀ k, ∃ w, m.width (taken ++ [ch] ++ rest.take k) = .ok w := by
      intro k
      rw [List.append_assoc, List.singleton_append, ← List.take_succ_cons]
      exact hm (k + 1)
    obtain ⟨col, hcol⟩ := ih hlater
    rw [columnReaching, hw, Fault.ok_bind, hcol]
    split
    · exact ⟨0, rfl⟩
    · exact ⟨col + 1, rfl⟩

/-- A column is found if all prefixes can be measured. -/
theorem exists_columnReaching (hm : ∀ k, ∃ w, m.width (text.take k) = .ok w) (x : Int) :
    ∃ col, columnReaching m x [] text = .ok col :=
  exists_columnReaching_append x hm

end Layout

end EditBox
