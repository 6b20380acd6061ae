import EditBox.Bounded
import EditBox.Script.Number
import Mathlib.Data.Nat.Digits.Lemmas
import Mathlib.Tactic.Ring

/-!
# Written numbers

How a number is written in decimal, said without the reader: `Numeral`, with a sign in front
`WritesNatural` and `WritesInteger`. `natural?_eq_some_iff` and `integer?_eq_some_iff` say that the
readers take exactly the words that write a number within their bounds.
-/

namespace EditBox.Script

variable {bound d n value : Nat} {k : Int} {c : Char} {word : List Char}

/-- A word writes a number in decimal: digits, the most significant one first, and at least one of
them. There may be zeros in front. -/
def Numeral (n : Nat) (word : List Char) : Prop :=
  ∃ digits : List Nat, digits ≠ [] ∧ (∀ d ∈ digits, d < 10) ∧ word = digits.map Nat.digitChar ∧
    n = Nat.ofDigits 10 digits.reverse

/-- A word writes a natural number, which may have a plus sign. -/
inductive WritesNatural (n : Nat) : List Char → Prop where
  | unsigned {word : List Char} (h : Numeral n word) : WritesNatural n word
  | plus {word : List Char} (h : Numeral n word) : WritesNatural n ('+' :: word)

/-- A word writes an integer, which may have a sign. -/
inductive WritesInteger : Int → List Char → Prop where
  | unsigned {n : Nat} {word : List Char} (h : Numeral n word) : WritesInteger n word
  | plus {n : Nat} {word : List Char} (h : Numeral n word) : WritesInteger n ('+' :: word)
  | minus {n : Nat} {word : List Char} (h : Numeral n word) : WritesInteger (-n) ('-' :: word)

/-- The characters with a digit value are the ten digits. -/
theorem digitValue?_eq_some_iff : digitValue? c = some d ↔ d < 10 ∧ c = d.digitChar := by
  constructor
  · intro h
    unfold digitValue? at h
    split at h
    · next hc =>
      rw [Char.le_def, Char.le_def, UInt32.le_iff_toNat_le, UInt32.le_iff_toNat_le] at hc
      change 48 ≤ c.toNat ∧ c.toNat ≤ 57 at hc
      have hd : c.toNat - 48 = d := Option.some.inj h
      refine ⟨by omega, Char.toNat_inj.mp ?_⟩
      rw [Nat.toNat_digitChar_of_lt_ten (by omega)]
      omega
    · cases h
  · rintro ⟨hd, rfl⟩
    have hall : ∀ d < 10, digitValue? d.digitChar = some d := by decide
    exact hall d hd

/-- Digits are read after a value by appending each of them to it. -/
theorem digitsFrom?_eq_some_iff :
    digitsFrom? value word = some n ↔
      ∃ digits : List Nat, (∀ d ∈ digits, d < 10) ∧ word = digits.map Nat.digitChar ∧
        n = Nat.ofDigits 10 digits.reverse + 10 ^ digits.length * value := by
  induction word generalizing value with
  | nil =>
    rw [digitsFrom?, Option.some.injEq]
    constructor
    · rintro rfl
      exact ⟨[], by simp, rfl, by simp⟩
    · rintro ⟨digits, -, hword, rfl⟩
      obtain rfl := List.map_eq_nil_iff.mp hword.symm
      simp
  | cons c word ih =>
    rw [digitsFrom?, Option.bind_eq_bind, Option.bind_eq_some_iff]
    simp only [digitValue?_eq_some_iff, ih]
    constructor
    · rintro ⟨d, ⟨hd, rfl⟩, digits, hdigits, rfl, rfl⟩
      refine ⟨d :: digits, by simpa using ⟨hd, hdigits⟩, rfl, ?_⟩
      simp only [List.reverse_cons, Nat.ofDigits_append, Nat.ofDigits_singleton,
        List.length_reverse, List.length_cons]
      ring
    · rintro ⟨digits, hdigits, hword, rfl⟩
      obtain ⟨d, digits, rfl, rfl, rfl⟩ := List.map_eq_cons_iff.mp hword.symm
      rw [List.forall_mem_cons] at hdigits
      refine ⟨d, ⟨hdigits.1, rfl⟩, digits, hdigits.2, rfl, ?_⟩
      simp only [List.reverse_cons, Nat.ofDigits_append, Nat.ofDigits_singleton,
        List.length_reverse, List.length_cons]
      ring

/-- The words with a value are the ones that write it. -/
theorem magnitude?_eq_some_iff : magnitude? word = some n ↔ Numeral n word := by
  cases word with
  | nil =>
    simp only [magnitude?, reduceCtorEq, false_iff]
    rintro ⟨digits, hne, -, hword, -⟩
    exact hne (List.map_eq_nil_iff.mp hword.symm)
  | cons c word =>
    rw [magnitude?, digitsFrom?_eq_some_iff]
    · constructor
      · rintro ⟨digits, hdigits, hword, rfl⟩
        refine ⟨digits, ?_, hdigits, hword, by simp⟩
        rintro rfl
        cases hword
      · rintro ⟨digits, -, hdigits, hword, rfl⟩
        exact ⟨digits, hdigits, hword, by simp⟩
    · simp

private theorem Numeral.exists_eq_cons (h : Numeral n word) :
    ∃ d < 10, ∃ rest, word = Nat.digitChar d :: rest := by
  obtain ⟨digits, hne, hdigits, rfl, -⟩ := h
  obtain ⟨d, digits, rfl⟩ := List.exists_cons_of_ne_nil hne
  exact ⟨d, hdigits d List.mem_cons_self, digits.map Nat.digitChar, rfl⟩

private theorem Numeral.ne_sign (h : Numeral n (c :: word)) : c ≠ '+' ∧ c ≠ '-' := by
  obtain ⟨d, hd, rest, hword⟩ := h.exists_eq_cons
  cases hword
  have hall : ∀ d < 10, Nat.digitChar d ≠ '+' ∧ Nat.digitChar d ≠ '-' := by decide
  exact hall d hd

/-- The words read as a natural number are the ones that write it, if it lies below the bound. -/
theorem natural?_eq_some_iff : natural? bound word = some n ↔ WritesNatural n word ∧ n < bound := by
  constructor
  · intro h
    unfold natural? at h
    split at h
    all_goals
      obtain ⟨m, hm, h⟩ := Option.bind_eq_some_iff.mp h
      obtain ⟨hn, h⟩ := Option.ite_none_right_eq_some.mp h
      obtain rfl := Option.some.inj h
      rw [magnitude?_eq_some_iff] at hm
    · exact ⟨.plus hm, hn⟩
    · exact ⟨.unsigned hm, hn⟩
  · rintro ⟨hwrites, hn⟩
    cases hwrites with
    | unsigned h =>
      unfold natural?
      split
      · exact absurd rfl h.ne_sign.1
      · exact Option.bind_eq_some_iff.mpr ⟨n, magnitude?_eq_some_iff.mpr h, if_pos hn⟩
    | plus h => exact Option.bind_eq_some_iff.mpr ⟨n, magnitude?_eq_some_iff.mpr h, if_pos hn⟩

/-- The words read as an integer are the ones that write it, if it lies within the bounds. -/
theorem integer?_eq_some_iff :
    integer? bound word = some k ↔ WritesInteger k word ∧ -(bound : Int) ≤ k ∧ k < bound := by
  constructor
  · intro h
    unfold integer? at h
    split at h
    all_goals
      obtain ⟨_, hread, h⟩ := Option.bind_eq_some_iff.mp h
      obtain ⟨n, hn, rfl⟩ := Option.map_eq_some_iff.mp hread
      obtain ⟨hk, h⟩ := Option.ite_none_right_eq_some.mp h
      obtain rfl := Option.some.inj h
      rw [magnitude?_eq_some_iff] at hn
    · exact ⟨.plus hn, hk⟩
    · exact ⟨.minus hn, hk⟩
    · exact ⟨.unsigned hn, hk⟩
  · rintro ⟨hwrites, hk⟩
    cases hwrites with
    | unsigned h =>
      unfold integer?
      split
      · exact absurd rfl h.ne_sign.1
      · exact absurd rfl h.ne_sign.2
      · rw [magnitude?_eq_some_iff.mpr h]
        exact if_pos hk
    | plus h =>
      rw [integer?, magnitude?_eq_some_iff.mpr h]
      exact if_pos hk
    | minus h =>
      rw [integer?, magnitude?_eq_some_iff.mpr h]
      exact if_pos hk

end EditBox.Script
