import EditBox.Text.Word
import Mathlib.Data.List.SplitBy

/-!
# Tokens

The tokens of a line are its maximal runs of word characters and of other characters. `Runs` says so
by four properties and without the splitter; `runs_iff_eq_splitTokens` that the tokens have them and
no other list of strings does.
-/

namespace EditBox.Text

variable {line token next : List Char} {tokens : List (List Char)} {word : Bool}

/-- Characters of one class: all make up words, or all do not. -/
def OfClass (word : Bool) (token : List Char) : Prop := ∀ c ∈ token, isWordChar c = word

/-- Consecutive tokens are of opposite classes. -/
def Opposite (token next : List Char) : Prop := ∃ word, OfClass word token ∧ OfClass (!word) next

/-- A decomposition of a line into runs that cannot be made longer. -/
structure Runs (line : List Char) (tokens : List (List Char)) : Prop where
  joined : tokens.flatten = line
  nonempty : [] ∉ tokens
  uniform : ∀ token ∈ tokens, ∃ word, OfClass word token
  alternating : tokens.IsChain Opposite

private theorem isChain_iff_exists_ofClass :
    token.IsChain (fun a b ↦ (isWordChar a == isWordChar b) = true) ↔
      ∃ word, OfClass word token := by
  constructor
  · intro h
    induction token with
    | nil => exact ⟨true, by simp [OfClass]⟩
    | cons c rest ih =>
      obtain ⟨hfirst, hrest⟩ := List.isChain_cons.mp h
      obtain ⟨word, hword⟩ := ih hrest
      refine ⟨isWordChar c, fun d hd ↦ ?_⟩
      rcases List.mem_cons.mp hd with rfl | hd
      · rfl
      · -- The rest is of the class of its first character, which is that of the character before.
        obtain ⟨e, rest, rfl⟩ := List.exists_cons_of_ne_nil (List.ne_nil_of_mem hd)
        rw [hword d hd, ← hword e List.mem_cons_self, eq_comm]
        exact beq_iff_eq.mp (hfirst e rfl)
  · rintro ⟨word, hword⟩
    refine (List.pairwise_of_forall_mem_list fun a ha b hb ↦ ?_).isChain
    rw [hword a ha, hword b hb]
    exact BEq.rfl

private theorem OfClass.class_eq {word' : Bool} (h : OfClass word token) (h' : OfClass word' token)
    (hne : token ≠ []) : word = word' := by
  obtain ⟨c, rest, rfl⟩ := List.exists_cons_of_ne_nil hne
  rw [← h c List.mem_cons_self, h' c List.mem_cons_self]

/-- Tokens of one class each are of opposite classes when the characters at which they meet are. -/
theorem meet_iff_opposite (htoken : ∃ word, OfClass word token) (hnext : ∃ word, OfClass word next)
    (hne : token ≠ []) (hne' : next ≠ []) :
    (∃ ha hb, (isWordChar (token.getLast ha) == isWordChar (next.head hb)) = false) ↔
      Opposite token next := by
  obtain ⟨word, hword⟩ := htoken
  obtain ⟨word', hword'⟩ := hnext
  have hlast := hword _ (List.getLast_mem hne)
  have hhead := hword' _ (List.head_mem hne')
  constructor
  · rintro ⟨_, _, hdiffer⟩
    refine ⟨word, hword, ?_⟩
    rw [hlast, hhead, beq_eq_false_iff_ne] at hdiffer
    rwa [Bool.eq_not_of_ne hdiffer, Bool.not_not]
  · rintro ⟨kind, hkind, hkind'⟩
    obtain rfl := hkind.class_eq hword hne
    obtain rfl := hkind'.class_eq hword' hne'
    refine ⟨hne, hne', ?_⟩
    rw [hlast, hhead]
    cases kind <;> rfl

/-- The tokens of a line put together give the line back. -/
theorem flatten_splitTokens (line : List Char) : (splitTokens line).flatten = line :=
  List.flatten_splitBy _ line

/-- No token is empty. -/
theorem nil_notMem_splitTokens (line : List Char) : [] ∉ splitTokens line :=
  List.nil_notMem_splitBy _ line

private theorem exists_ofClass_of_mem_splitTokens (h : token ∈ splitTokens line) :
    ∃ word, OfClass word token :=
  isChain_iff_exists_ofClass.mp (List.isChain_of_mem_splitBy h)

/-- The tokens are runs that cannot be made longer. -/
theorem runs_splitTokens (line : List Char) : Runs line (splitTokens line) where
  joined := flatten_splitTokens line
  nonempty := nil_notMem_splitTokens line
  uniform _ h := exists_ofClass_of_mem_splitTokens h
  alternating := by
    refine (List.isChain_getLast_head_splitBy _ line).imp_of_mem_imp fun token next ht hn h ↦ ?_
    have hne := List.ne_nil_of_mem_splitBy ht
    have hne' := List.ne_nil_of_mem_splitBy hn
    exact (meet_iff_opposite (exists_ofClass_of_mem_splitTokens ht)
      (exists_ofClass_of_mem_splitTokens hn) hne hne').mp h

/-- Runs that cannot be made longer are the tokens of what they give put together. -/
theorem Runs.eq_splitTokens (h : Runs line tokens) : tokens = splitTokens line := by
  obtain ⟨rfl, hnonempty, huniform, halternating⟩ := h
  refine (List.splitBy_flatten hnonempty (fun token ht ↦ ?_) ?_).symm
  · exact isChain_iff_exists_ofClass.mpr (huniform token ht)
  · refine halternating.imp_of_mem_imp fun token next ht hn h ↦ ?_
    have hne : token ≠ [] := fun hnil ↦ hnonempty (hnil ▸ ht)
    have hne' : next ≠ [] := fun hnil ↦ hnonempty (hnil ▸ hn)
    exact (meet_iff_opposite (huniform token ht) (huniform next hn) hne hne').mpr h

/-- Put together, the tokens of a line give the line back; none is empty, each is of one class, and
consecutive ones are of opposite classes. No other list of strings has these properties. -/
theorem runs_iff_eq_splitTokens (line : List Char) (tokens : List (List Char)) :
    Runs line tokens ↔ tokens = splitTokens line := by
  constructor
  · exact Runs.eq_splitTokens
  · rintro rfl
    exact runs_splitTokens line

/-- Letters of any script make up words, and separators of any kind in a row are one run. -/
example :
    splitTokens "añb, c".toList = ["añb".toList, ", ".toList, ['c']] := by
  decide +kernel

end EditBox.Text
