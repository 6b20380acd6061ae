import EditBox.Proofs.Script.Reading

/-!
# Scripts put together from lines

Lines that are joined by line feeds are the lines of the script, except that a carriage return at
the end of a line and an empty last line are lost (`lines_append`, `lines_of_notMem`). Neither
matters to what a line holds (`Entry.On.of_append_return`), unless a typed text ends in a carriage
return. `parse_joined` concludes that a script of documented lines asks for what its lines say.
-/

namespace EditBox.Script

open EditBox.Text

variable {line text : List Char} {texts : List (List Char)} {ws : List (List Char)} {entry : Entry}
  {entries : List Entry} {writes : Form → List (List Char) → Prop}

/-! ### Lines of a joined text -/

private theorem lines_go_append (h : '\n' ∉ text) (reversed rest : List Char) :
    ∃ line, lines.go reversed (text ++ '\n' :: rest) = line :: lines.go [] rest ∧
      (line = reversed.reverse ++ text ∨ line ++ ['\r'] = reversed.reverse ++ text) := by
  induction text generalizing reversed with
  | nil =>
    rw [List.nil_append, List.append_nil]
    by_cases hreturn : ∃ before, reversed = '\r' :: before
    · obtain ⟨before, rfl⟩ := hreturn
      exact ⟨before.reverse, rfl, .inr List.reverse_cons.symm⟩
    · refine ⟨reversed.reverse, ?_, .inl rfl⟩
      rw [lines.go]
      exact fun before hbefore ↦ hreturn ⟨before, hbefore⟩
  | cons c text ih =>
    rw [List.mem_cons, not_or] at h
    obtain ⟨line, hgo, hline⟩ := ih h.2 (c :: reversed)
    refine ⟨line, ?_, by simpa using hline⟩
    rw [List.cons_append, lines.go]
    · exact hgo
    · exact fun hc ↦ h.1 hc.symm

/-- A line feed ends a line, together with a carriage return in front of it. -/
theorem lines_append (h : '\n' ∉ text) (rest : List Char) :
    ∃ line, lines (text ++ '\n' :: rest) = line :: lines rest ∧
      (line = text ∨ line ++ ['\r'] = text) :=
  lines_go_append h [] rest

private theorem lines_go_of_notMem (h : '\n' ∉ text) (reversed : List Char) :
    lines.go reversed text =
      if reversed.reverse ++ text = [] then [] else [reversed.reverse ++ text] := by
  induction text generalizing reversed with
  | nil => simp [lines.go]
  | cons c text ih =>
    rw [List.mem_cons, not_or] at h
    rw [lines.go, ih h.2]
    · simp
    · exact fun hc ↦ h.1 hc.symm

/-- A text without line feeds is one line, unless it is empty. -/
theorem lines_of_notMem (h : '\n' ∉ text) : lines text = if text = [] then [] else [text] :=
  lines_go_of_notMem h []

/-! ### Carriage returns -/

private theorem Spaced.append_space {c : Char} (h : Spaced ws line) (hc : isSpace c = true) :
    Spaced ws (line ++ [c]) := by
  induction h with
  | blank hgap =>
    refine .blank fun d hd ↦ ?_
    rcases List.mem_append.mp hd with hd | hd
    · exact hgap d hd
    · rwa [List.mem_singleton.mp hd]
  | @word gap word rest ws hgap hne hword hend h ih =>
    rw [List.append_assoc, List.append_assoc]
    refine .word hgap hne hword (fun d hd ↦ ?_) ih
    cases rest with
    | nil => rwa [← Option.some.inj hd]
    | cons e rest => exact hend d hd

private theorem WordLine.append_space {c : Char} (h : WordLine ws line) (hc : isSpace c = true) :
    WordLine ws (line ++ [c]) := by
  obtain @⟨body, comment, hbody, hcomment, h⟩ := h
  rw [List.append_assoc]
  cases comment with
  | nil =>
    have hsign : '#' ≠ c := by
      rintro rfl
      exact absurd hc (by decide)
    have hline := WordLine.intro (by simp [hbody, hsign]) hcomment (h.append_space hc)
    rwa [List.append_nil] at hline
  | cons d comment => exact .intro hbody hcomment h

private theorem WordLine.of_append_space {c : Char} (h : WordLine ws (line ++ [c]))
    (hc : isSpace c = true) : WordLine ws line := by
  have hline : WordLine (words (withoutComment line)) line := wordLine_iff.mpr rfl
  have hwords := wordLine_iff.mp (hline.append_space hc)
  rwa [← hwords, wordLine_iff.mp h] at hline

/-- A carriage return at the end of a line is no part of what the line holds, except at the end of a
text that is typed. -/
theorem Entry.On.of_append_return (h : entry.On writes (line ++ ['\r']))
    (htyped : ∀ typed, entry = .typed typed → typed.getLast? ≠ some '\r') :
    entry.On writes line := by
  generalize hreturn : line ++ ['\r'] = text at h
  cases h with
  | blank hline =>
    subst hreturn
    exact .blank (hline.of_append_space (by decide))
  | command hform hline =>
    subst hreturn
    exact .command hform (hline.of_append_space (by decide))
  | @typed typed text hline =>
    obtain @⟨gap, hgap⟩ := hline
    have hlast : (gap ++ ("type ".toList ++ typed)).getLast? = some '\r' := by
      rw [← hreturn, List.getLast?_concat]
    rw [← List.append_assoc, List.getLast?_append] at hlast
    have hne := htyped typed rfl
    cases hend : typed.getLast? with
    | none =>
      rw [hend, Option.none_or, List.getLast?_append] at hlast
      cases hlast
    | some c =>
      rw [hend] at hlast hne
      exact absurd hlast hne

private theorem Entry.On.eq_blank (h : entry.On writes []) : entry = .blank := by
  generalize hnil : ([] : List Char) = text at h
  cases h with
  | blank => rfl
  | typed hline =>
    subst hnil
    cases typedText?_eq_some_iff.mpr hline
  | command _ hline =>
    subst hnil
    cases wordLine_iff.mp hline

/-! ### Lines that are joined -/

private theorem exists_entries_of_joined (h : List.Forall₂ (Entry.On writes) entries texts)
    (hbreaks : ∀ text ∈ texts, '\n' ∉ text)
    (htyped : ∀ typed, .typed typed ∈ entries → typed.getLast? ≠ some '\r') :
    ∃ kept, List.Forall₂ (Entry.On writes) kept (lines (['\n'].intercalate texts)) ∧
      ∀ clock, commandsOf clock kept = commandsOf clock entries := by
  induction h with
  | nil => exact ⟨[], .nil, fun _ ↦ rfl⟩
  | @cons entry text entries texts hentry hrest ih =>
    rw [List.forall_mem_cons] at hbreaks
    obtain ⟨kept, hkept, hcommands⟩ := ih hbreaks.2 fun typed hmem ↦ htyped typed (.tail _ hmem)
    cases hrest with
    | nil =>
      rw [List.intercalate_singleton, lines_of_notMem hbreaks.1]
      by_cases hnil : text = []
      · subst hnil
        rw [hentry.eq_blank]
        exact ⟨[], .nil, fun _ ↦ rfl⟩
      · rw [if_neg hnil]
        exact ⟨[entry], .cons hentry .nil, fun _ ↦ rfl⟩
    | cons =>
      rw [List.intercalate_cons_cons, List.append_assoc, List.singleton_append]
      obtain ⟨line, hlines, hline⟩ := lines_append hbreaks.1 (['\n'].intercalate _)
      rw [hlines]
      refine ⟨entry :: kept, .cons ?_ hkept, fun clock ↦ ?_⟩
      · rcases hline with rfl | rfl
        · exact hentry
        · exact hentry.of_append_return fun typed heq ↦ htyped typed (heq ▸ List.mem_cons_self)
      · rw [commandsOf, commandsOf, hcommands]

/-- What writes an entry is read as it. -/
theorem Entry.On.readFrom (h : entry.On Form.Written text) : entry.On Form.ReadFrom text := by
  cases h with
  | blank hline => exact .blank hline
  | typed hline => exact .typed hline
  | command hform hline => exact .command (.written hform) hline

private theorem length_commandsOf (clock : Nat) (entries : List Entry) :
    (commandsOf clock entries).length = entries.countP (· ≠ .blank) := by
  induction entries generalizing clock with
  | nil => rfl
  | cons entry entries ih =>
    rw [commandsOf, List.length_append, ih, List.countP_cons, Nat.add_comm]
    cases entry <;> rfl

/-- Documented lines are joined to a script. Each is blank, with a comment or without; or it types a
text, which stays as it is; or it writes a form of a command, between white space and possibly in
front of a comment. No line has a line feed, no typed text ends in a carriage return, and the time
of every click fits. Then the script asks for one command for each line that is not blank, in the
order of the lines: the one that its entry stands for, where a click without a time comes a second
after the latest click of the lines before it. -/
theorem parse_joined (h : List.Forall₂ (Entry.On Form.Written) entries texts)
    (hbreaks : ∀ text ∈ texts, '\n' ∉ text)
    (htyped : ∀ typed, .typed typed ∈ entries → typed.getLast? ≠ some '\r')
    (htime : ∀ c ∈ commandsOf 0 entries, c.OnTime) :
    parse (['\n'].intercalate texts) = .ok (.ok (commandsOf 0 entries)) ∧
      (commandsOf 0 entries).length = entries.countP (· ≠ .blank) ∧
      ∀ before entry after, entries = before ++ entry :: after → entry ≠ .blank →
        (commandsOf 0 entries)[before.countP (· ≠ .blank)]? =
          entry.command? (clockAfter 0 (commandsOf 0 before)) := by
  refine ⟨?_, length_commandsOf 0 entries, ?_⟩
  · obtain ⟨kept, hkept, hcommands⟩ := exists_entries_of_joined h hbreaks htyped
    have hread : ReadAs 0 kept (lines (['\n'].intercalate texts)) :=
      ⟨hkept.imp fun _ _ hentry ↦ hentry.readFrom, by rwa [hcommands]⟩
    rw [parse, hread.parseLines_eq, hcommands]
  · rintro before entry after rfl hentry
    rw [commandsOf_append, ← length_commandsOf 0 before, List.getElem?_append_right le_rfl,
      Nat.sub_self, commandsOf]
    cases entry with
    | blank => exact absurd rfl hentry
    | typed => rfl
    | command => rfl

/-- A comment, a typed text with a sign of a comment, a key with a repeated modifier, and three
clicks, of which only the second one has a time and ends its line with a carriage return. The last
line is blank. -/
theorem parse_joined_clicks :
    parse (['\n'].intercalate ["# type x".toList, " type  a # b ".toList,
        "shift+ctrl+shift+left# up".toList, "\tclick 3 -4 # untimed".toList,
        "shift+click +5 6 2500\r".toList, "click 1  2".toList, []]) =
      .ok (.ok [.insertText " a # b ".toList, .move .left ⟨true, true⟩,
        .mousePress 3 (-4) 1000 .none, .mousePress 5 6 2500 ⟨false, true⟩,
        .mousePress 1 2 3500 .none]) := by
  have hpoint (n : Int) (word : String) (h : coordinate? word.toList = some n) :
      WritesCoordinate n word.toList := coordinate?_eq_some_iff.mp h
  have htime : WritesOffset 2500 "2500".toList := offset?_eq_some_iff.mp (by decide)
  have hcomment : Entry.blank.On Form.Written "# type x".toList :=
    .blank (wordLine_iff.mpr (by decide +kernel))
  have htyped : (Entry.typed " a # b ".toList).On Form.Written " type  a # b ".toList :=
    .typed (typedText?_eq_some_iff.mp (by decide))
  have hkey : (Entry.command (.chord [.shift, .ctrl, .shift] (.motion .left))).On Form.Written
      "shift+ctrl+shift+left# up".toList :=
    .command (.chord fun _ ↦ ⟨_, rfl⟩) (wordLine_iff.mpr (by decide +kernel))
  have hfirst : (Entry.command (.click false 3 (-4) none)).On Form.Written
      "\tclick 3 -4 # untimed".toList :=
    .command (.click (hpoint 3 "3" (by decide)) (hpoint (-4) "-4" (by decide)))
      (wordLine_iff.mpr (by decide +kernel))
  have hsecond : (Entry.command (.click true 5 6 (some 2500))).On Form.Written
      "shift+click +5 6 2500\r".toList :=
    .command (.clickAt (hpoint 5 "+5" (by decide)) (hpoint 6 "6" (by decide)) htime)
      (wordLine_iff.mpr (by decide +kernel))
  have hthird : (Entry.command (.click false 1 2 none)).On Form.Written "click 1  2".toList :=
    .command (.click (hpoint 1 "1" (by decide)) (hpoint 2 "2" (by decide)))
      (wordLine_iff.mpr (by decide +kernel))
  have hblank : Entry.blank.On Form.Written [] := .blank (wordLine_iff.mpr rfl)
  have h := List.Forall₂.cons hcomment <| .cons htyped <| .cons hkey <| .cons hfirst <|
    .cons hsecond <| .cons hthird <| .cons hblank .nil
  refine (parse_joined h ?_ ?_ ?_).1
  · decide +kernel
  · intro typed hmem
    obtain rfl : typed = " a # b ".toList := by simpa using hmem
    decide
  · decide +kernel

end EditBox.Script
