import EditBox.Proofs.Text.Words
import EditBox.Script
import Mathlib.Data.List.SplitBy
import Mathlib.Data.List.TakeWhile

/-!
# Lines of words

How the words of a script line are laid out, said without the reader: `Spaced` puts white space
around words, `WordLine` adds a comment, and `TypeLine` is a line that types. `Spaced.words_eq`,
`wordLine_iff` and `typedText?_eq_some_iff` say that the reader finds exactly what is laid out so.
Each line is a line of words in one way, so all that matters of a line are its words.
-/

namespace EditBox.Script

open EditBox.Text

variable {gap word rest line text typed : List Char} {ws : List (List Char)}

/-- A line of words with white space between them, and possibly before the first one and after the
last one. -/
inductive Spaced : List (List Char) → List Char → Prop where
  | blank {gap : List Char} (hgap : ∀ c ∈ gap, isSpace c = true) : Spaced [] gap
  | word {gap word rest : List Char} {ws : List (List Char)}
      (hgap : ∀ c ∈ gap, isSpace c = true) (hne : word ≠ []) (hword : ∀ c ∈ word, isSpace c = false)
      (hend : ∀ c ∈ rest.head?, isSpace c = true) (h : Spaced ws rest) :
      Spaced (word :: ws) (gap ++ (word ++ rest))

/-- A line of words, with a comment after them or without. -/
inductive WordLine (ws : List (List Char)) : List Char → Prop where
  | intro {body comment : List Char} (hbody : '#' ∉ body) (hcomment : ∀ c ∈ comment.head?, c = '#')
      (h : Spaced ws body) : WordLine ws (body ++ comment)

/-- A line that types a text. -/
inductive TypeLine (typed : List Char) : List Char → Prop where
  | intro {gap : List Char} (hgap : ∀ c ∈ gap, isSpace c = true) :
      TypeLine typed (gap ++ ("type ".toList ++ typed))

private theorem filter_splitBy_of_spaces (hgap : ∀ c ∈ gap, isSpace c = true) :
    (gap.splitBy fun a b ↦ isSpace a == isSpace b).filter (fun run ↦ !run.all isSpace) = [] := by
  rw [List.filter_eq_nil_iff]
  intro run hrun
  have hmem : ∀ c ∈ run, c ∈ gap := fun c hc ↦ by
    rw [← List.flatten_splitBy (fun a b ↦ isSpace a == isSpace b) gap]
    exact List.mem_flatten.mpr ⟨run, hrun, hc⟩
  simpa using fun c hc ↦ hgap c (hmem c hc)

private theorem words_of_spaces (hgap : ∀ c ∈ gap, isSpace c = true) : words gap = [] :=
  filter_splitBy_of_spaces hgap

/-- White space in front of words is passed over. -/
theorem words_spaces_append (hgap : ∀ c ∈ gap, isSpace c = true) (line : List Char) :
    words (gap ++ line) = words line := by
  -- White space in front of another character is a run of its own, but it merges with a run of
  -- white space that follows. So both sides are compared with the line behind all white space.
  have hpass : ∀ spaces : List Char, (∀ c ∈ spaces, isSpace c = true) →
      words (spaces ++ line.dropWhile isSpace) = words (line.dropWhile isSpace) := by
    intro spaces hspaces
    rw [words, List.splitBy_append, List.filter_append, filter_splitBy_of_spaces hspaces]
    · rfl
    · intro c hc d hd
      rw [hspaces c (List.mem_of_mem_getLast? hc), of_mem_head?_dropWhile hd]
      rfl
  have hfront : ∀ c ∈ line.takeWhile isSpace, isSpace c = true :=
    fun c hc ↦ List.mem_takeWhile_imp hc
  have hline := hpass _ hfront
  rw [List.takeWhile_append_dropWhile] at hline
  have hboth := hpass (gap ++ line.takeWhile isSpace) fun c hc ↦
    (List.mem_append.mp hc).elim (hgap c) (hfront c)
  rw [List.append_assoc, List.takeWhile_append_dropWhile] at hboth
  rw [hboth, hline]

/-- A word is found before what follows it. -/
theorem words_word_append (hne : word ≠ []) (hword : ∀ c ∈ word, isSpace c = false)
    (hend : ∀ c ∈ rest.head?, isSpace c = true) : words (word ++ rest) = word :: words rest := by
  have hrun : (word.splitBy fun a b ↦ isSpace a == isSpace b) = [word] := by
    apply List.splitBy_of_isChain hne
    refine (List.pairwise_of_forall_mem_list fun a ha b hb ↦ ?_).isChain
    rw [hword a ha, hword b hb]
    rfl
  have hletter : (!word.all isSpace) = true := by
    obtain ⟨c, letters, rfl⟩ := List.exists_cons_of_ne_nil hne
    simp [hword c List.mem_cons_self]
  rw [words, List.splitBy_append, List.filter_append, hrun, List.filter_singleton, hletter]
  · rfl
  · intro c hc d hd
    rw [hword c (List.mem_of_mem_getLast? hc), hend d hd]
    rfl

/-- The words of a line are the ones that it is laid out with. -/
theorem Spaced.words_eq (h : Spaced ws line) : words line = ws := by
  induction h with
  | blank hgap => exact words_of_spaces hgap
  | word hgap hne hword hend h ih =>
    rw [words_spaces_append hgap, words_word_append hne hword hend, ih]

private theorem spaced_words (line : List Char) : Spaced (words line) line := by
  induction hlength : line.length using Nat.strong_induction_on generalizing line with
  | _ n ih =>
    -- Cut the line into white space, a word and the rest.
    have hgap : ∀ c ∈ line.takeWhile isSpace, isSpace c = true :=
      fun c hc ↦ List.mem_takeWhile_imp hc
    have hfirst : ∀ c ∈ (line.dropWhile isSpace).head?, isSpace c = false :=
      fun c hc ↦ of_mem_head?_dropWhile hc
    have hcut := List.takeWhile_append_dropWhile (p := isSpace) (l := line)
    generalize line.takeWhile isSpace = gap at hgap hcut
    generalize line.dropWhile isSpace = letters at hfirst hcut
    subst hcut
    rw [words_spaces_append hgap]
    cases letters with
    | nil => simpa [words] using Spaced.blank hgap
    | cons c letters =>
      have hne : (c :: letters).takeWhile (!isSpace ·) ≠ [] := by
        rw [List.takeWhile_cons_of_pos (by simpa using hfirst c rfl)]
        exact List.cons_ne_nil _ _
      have hword : ∀ d ∈ (c :: letters).takeWhile (!isSpace ·), isSpace d = false :=
        fun d hd ↦ by simpa using List.mem_takeWhile_imp hd
      have hend : ∀ d ∈ ((c :: letters).dropWhile (!isSpace ·)).head?, isSpace d = true :=
        fun d hd ↦ by simpa using of_mem_head?_dropWhile hd
      have hcut := List.takeWhile_append_dropWhile (p := (!isSpace ·)) (l := c :: letters)
      generalize (c :: letters).takeWhile (!isSpace ·) = word at hne hword hcut
      generalize (c :: letters).dropWhile (!isSpace ·) = rest at hend hcut
      rw [← hcut, words_word_append hne hword hend]
      refine .word hgap hne hword hend (ih rest.length ?_ rest rfl)
      have hpos := List.length_pos_iff.mpr hne
      rw [← hcut] at hlength
      simp only [List.length_append] at hlength
      omega

private theorem withoutComment_append {body comment : List Char} (hbody : '#' ∉ body)
    (hcomment : ∀ c ∈ comment.head?, c = '#') : withoutComment (body ++ comment) = body := by
  have hkept : ∀ c ∈ body, (c != '#') = true := by
    rintro c hc
    rw [bne_iff_ne]
    rintro rfl
    exact hbody hc
  rw [withoutComment, List.takeWhile_append_of_pos hkept]
  cases comment with
  | nil => exact List.append_nil body
  | cons c comment =>
    obtain rfl := hcomment c rfl
    exact List.append_nil body

private theorem exists_eq_withoutComment_append (text : List Char) :
    ∃ comment, text = withoutComment text ++ comment ∧ '#' ∉ withoutComment text ∧
      ∀ c ∈ comment.head?, c = '#' := by
  refine ⟨text.dropWhile (· != '#'), List.takeWhile_append_dropWhile.symm, ?_, ?_⟩
  · intro hmem
    simpa using List.mem_takeWhile_imp hmem
  · intro c hc
    simpa using of_mem_head?_dropWhile hc

/-- The words read from a line are the ones that it is laid out with before its comment. -/
theorem wordLine_iff : WordLine ws text ↔ words (withoutComment text) = ws := by
  constructor
  · rintro ⟨hbody, hcomment, h⟩
    rw [withoutComment_append hbody hcomment, h.words_eq]
  · rintro rfl
    obtain ⟨comment, htext, hbody, hcomment⟩ := exists_eq_withoutComment_append text
    have hline := WordLine.intro hbody hcomment (spaced_words (withoutComment text))
    rwa [← htext] at hline

/-- The typed text is what is laid out after the word and one space. -/
theorem typedText?_eq_some_iff : typedText? text = some typed ↔ TypeLine typed text := by
  constructor
  · intro h
    unfold typedText? at h
    split at h
    · next hdrop =>
      cases h
      have hgap : ∀ c ∈ text.takeWhile isSpace, isSpace c = true :=
        fun c hc ↦ List.mem_takeWhile_imp hc
      have hline : TypeLine typed (text.takeWhile isSpace ++ ("type ".toList ++ typed)) :=
        .intro hgap
      rwa [show "type ".toList ++ typed = text.dropWhile isSpace from hdrop.symm,
        List.takeWhile_append_dropWhile] at hline
    · cases h
  · rintro ⟨hgap⟩
    have hfirst : isSpace 't' = false := by decide
    have hdrop : ("type ".toList ++ typed).dropWhile isSpace =
        't' :: 'y' :: 'p' :: 'e' :: ' ' :: typed :=
      List.dropWhile_cons_of_neg (a := 't') (by simp [hfirst])
    rw [typedText?, List.dropWhile_append_of_pos hgap, hdrop]
    rfl

/-- A line types nothing exactly when no text is laid out so in it. -/
theorem typedText?_eq_none_iff : typedText? text = none ↔ ∀ typed, ¬TypeLine typed text := by
  simp only [← typedText?_eq_some_iff]
  exact Option.eq_none_iff_forall_ne_some

/-- A line that types has the word `type` in front. -/
theorem TypeLine.head?_words (h : TypeLine typed text) :
    (words (withoutComment text)).head? = some "type".toList := by
  obtain @⟨gap, hgap⟩ := h
  have hsign : isSpace '#' = false := by decide
  have hgap' : ∀ c ∈ gap, (c != '#') = true := by
    intro c hc
    rw [bne_iff_ne]
    rintro rfl
    simpa [hsign] using hgap _ hc
  have hword : ∀ c ∈ "type ".toList, (c != '#') = true := by simp
  have hletters : "type".toList.all (!isSpace ·) = true := by decide
  rw [withoutComment, List.takeWhile_append_of_pos hgap', List.takeWhile_append_of_pos hword,
    words_spaces_append hgap]
  change (words ("type".toList ++ ' ' :: typed.takeWhile (· != '#'))).head? = _
  rw [words_word_append (by decide) (by simpa using hletters)]
  · rfl
  · rintro c ⟨⟩
    decide

end EditBox.Script
