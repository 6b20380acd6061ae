import EditBox.Proofs.Script.Commands

/-!
# Reading a script

A script is read line by line. A line is an `Entry`: a form of a command, a text to type, or
nothing. `ReadAs` says that lines are read as entries one after another, each click without a time a
second after the click before it, which is the one thing that a line passes on to the lines after
it. `parseLines_append` goes past lines that are read. A line that is not read as anything ends the
reading with an error (`parse_of_unreadable`), and a click whose time does not fit ends it with a
fault (`parse_of_tooLate`). `parse_outcome` concludes what becomes of any script, and
`accepted_lines_hold_forms` what stands on a line that is read.
-/

namespace EditBox.Script

/-- Time of the latest press, after one at `clock` and then some commands. -/
def clockAfter (clock : Nat) (commands : List Command) : Nat :=
  commands.foldl (fun clock c ↦ c.pressTime?.getD clock) clock

/-- Commands may follow each other. -/
theorem clockAfter_append (clock : Nat) (first later : List Command) :
    clockAfter clock (first ++ later) = clockAfter (clockAfter clock first) later :=
  List.foldl_append

/-- What a line of a script holds. -/
inductive Entry where
  /-- A line without words, which may have a comment. -/
  | blank
  | typed (text : List Char)
  | command (form : Form)
  deriving DecidableEq, Repr

/-- What an entry asks for after a click at `clock`. -/
def Entry.command? (clock : Nat) : Entry → Option Command
  | blank => none
  | typed text => some (.insertText text)
  | command form => some (form.command clock)

/-- A line holds an entry, where `writes` says which words are a form. -/
inductive Entry.On (writes : Form → List (List Char) → Prop) : Entry → List Char → Prop where
  | blank {text : List Char} (h : WordLine [] text) : On writes .blank text
  | typed {typed text : List Char} (h : TypeLine typed text) : On writes (.typed typed) text
  | command {form : Form} {head text : List Char} {args : List (List Char)}
      (hform : writes form (head :: args)) (h : WordLine (head :: args) text) :
      On writes (.command form) text

/-- What entries ask for in their order, after a click at `clock`. -/
def commandsOf (clock : Nat) : List Entry → List Command
  | [] => []
  | entry :: entries =>
      let first := (entry.command? clock).toList
      first ++ commandsOf (clockAfter clock first) entries

/-- Lines are read as entries after a click at `clock`, and the time of every click fits. -/
structure ReadAs (clock : Nat) (entries : List Entry) (texts : List (List Char)) : Prop where
  holds : List.Forall₂ (Entry.On Form.ReadFrom) entries texts
  onTime : ∀ c ∈ commandsOf clock entries, c.OnTime

/-- A line is a click without a time, and the time it would get does not fit. -/
def TooLate (clock : Nat) (text : List Char) : Prop :=
  Bounded.offsetBound ≤ clock + clickSpacing ∧
    ∃ shift x y, (Entry.command (.click shift x y none)).On Form.ReadFrom text

variable {clock line : Nat} {text : List Char} {texts before rest : List (List Char)}
  {entry : Entry} {entries later : List Entry} {c : Command} {commands : List Command}

/-- What entries ask for comes in their order, and those that come later go on from the latest
click. -/
theorem commandsOf_append (clock : Nat) (first later : List Entry) :
    commandsOf clock (first ++ later) =
      commandsOf clock first ++ commandsOf (clockAfter clock (commandsOf clock first)) later := by
  induction first generalizing clock with
  | nil => rfl
  | cons entry first ih =>
    rw [List.cons_append, commandsOf, ih, commandsOf, clockAfter_append, List.append_assoc]

/-! ### Commands in front -/

/-- What a script is read as, with some commands in front. -/
def prepended (first : List Command) (read : Except Fault (Except ScriptError (List Command))) :
    Except Fault (Except ScriptError (List Command)) :=
  Except.map (first ++ ·) <$> read

private theorem prepended_nil (read : Except Fault (Except ScriptError (List Command))) :
    prepended [] read = read := by
  rcases read with _ | _ | _ <;> rfl

private theorem prepended_append (first more : List Command)
    (read : Except Fault (Except ScriptError (List Command))) :
    prepended (first ++ more) read = prepended first (prepended more read) := by
  rcases read with _ | _ | _
  · rfl
  · rfl
  · simp [prepended, Except.map]

private theorem prepended_eq_ok_iff {first : List Command}
    {read : Except Fault (Except ScriptError (List Command))} :
    prepended first read = .ok (.ok commands) ↔
      ∃ later, read = .ok (.ok later) ∧ commands = first ++ later := by
  rcases read with _ | _ | later <;> simp [prepended, Except.map, eq_comm]

/-! ### One line -/

private theorem Form.ReadFrom.not_refused {form : Form} {head : List Char} {args : List (List Char)}
    {reason : Reason} (h : form.ReadFrom (head :: args)) (clock : Nat) :
    Script.command clock head args ≠ .ok (.error reason) := by
  intro hrefused
  by_cases htime : (form.command clock).OnTime
  · cases hrefused.symm.trans (h.command_eq htime)
  · cases hrefused.symm.trans (h.command_eq_error htime)

private theorem Form.ReadFrom.head_ne_type {form : Form} {head : List Char}
    {args : List (List Char)} (h : form.ReadFrom (head :: args)) : head ≠ "type".toList := by
  rintro rfl
  cases args with
  | nil => exact h.not_refused 0 rfl
  | cons arg args => exact h.not_refused 0 rfl

private theorem WordLine.typedText?_eq_none {ws : List (List Char)} (h : WordLine ws text)
    (hfirst : ws.head? ≠ some "type".toList) : typedText? text = none := by
  rw [typedText?_eq_none_iff]
  intro typed htyped
  have hhead := htyped.head?_words
  rw [wordLine_iff.mp h] at hhead
  exact hfirst hhead

private theorem Form.ReadFrom.typedText?_eq_none {form : Form} {head : List Char}
    {args : List (List Char)} (h : form.ReadFrom (head :: args))
    (hline : WordLine (head :: args) text) :
    typedText? text = none :=
  hline.typedText?_eq_none fun hfirst ↦ h.head_ne_type (Option.some.inj hfirst)

/-- A line with words that types nothing is read as its command. -/
theorem parseLines_of_words {head : List Char} {args : List (List Char)}
    (htyped : typedText? text = none) (hline : WordLine (head :: args) text) :
    parseLines clock line (text :: rest) = (do
      match ← command clock head args with
      | .error reason => return .error ⟨line, reason⟩
      | .ok (c, clock) => prepended [c] (parseLines clock (line + 1) rest)) := by
  rw [parseLines, htyped]
  dsimp only
  rw [wordLine_iff.mp hline]
  rfl

private theorem parseLines_of_refused {head : List Char} {args : List (List Char)} {reason : Reason}
    (htyped : typedText? text = none) (hline : WordLine (head :: args) text)
    (hrefused : command clock head args = .ok (.error reason)) :
    parseLines clock line (text :: rest) = .ok (.error ⟨line, reason⟩) := by
  rw [parseLines_of_words htyped hline, hrefused]
  rfl

private theorem entry_or_refused (text : List Char) :
    (∃ entry : Entry, entry.On Form.ReadFrom text) ∨
      ∃ reason, ∀ clock line rest,
        parseLines clock line (text :: rest) = .ok (.error ⟨line, reason⟩) := by
  cases htyped : typedText? text with
  | some typed => exact .inl ⟨_, .typed (typedText?_eq_some_iff.mp htyped)⟩
  | none =>
    cases hwords : words (withoutComment text) with
    | nil => exact .inl ⟨_, .blank (wordLine_iff.mpr hwords)⟩
    | cons head args =>
      rcases readFrom_or_refused head args with ⟨form, hform⟩ | ⟨reason, hrefused⟩
      · exact .inl ⟨_, .command hform (wordLine_iff.mpr hwords)⟩
      · exact .inr ⟨reason, fun clock line rest ↦
          parseLines_of_refused htyped (wordLine_iff.mpr hwords) (hrefused clock)⟩

/-! ### Lines after one another -/

private theorem parseLines_cons (h : entry.On Form.ReadFrom text)
    (htime : ∀ c ∈ (entry.command? clock).toList, c.OnTime) :
    parseLines clock line (text :: rest) =
      prepended (entry.command? clock).toList
        (parseLines (clockAfter clock (entry.command? clock).toList) (line + 1) rest) := by
  cases h with
  | blank hline =>
    rw [parseLines, hline.typedText?_eq_none nofun, Entry.command?, Option.toList_none,
      prepended_nil]
    dsimp only
    rw [wordLine_iff.mp hline]
    rfl
  | typed hline =>
    rw [parseLines, typedText?_eq_some_iff.mpr hline]
    rfl
  | command hform hline =>
    rw [parseLines_of_words (hform.typedText?_eq_none hline) hline,
      hform.command_eq (htime _ List.mem_cons_self)]
    rfl

private theorem parseLines_of_tooLate (h : TooLate clock text) :
    parseLines clock line (text :: rest) = .error .addOverflow := by
  obtain ⟨hlate, shift, x, y, hentry⟩ := h
  cases hentry with
  | command hform hline =>
    have htime : ¬((Form.click shift x y none).command clock).OnTime := fun htime ↦ by
      have := htime _ rfl
      rw [Option.getD_none] at this
      omega
    rw [parseLines_of_words (hform.typedText?_eq_none hline) hline,
      hform.command_eq_error htime]
    rfl

private theorem onTime_or_tooLate (h : entry.On Form.ReadFrom text) (clock : Nat) :
    (∀ c ∈ (entry.command? clock).toList, c.OnTime) ∨ TooLate clock text := by
  cases h with
  | blank => exact .inl fun c hc ↦ nomatch hc
  | typed =>
    refine .inl fun c hc ↦ ?_
    cases List.mem_singleton.mp hc
    exact fun time htime ↦ nomatch htime
  | @command form head text args hform hline =>
    by_cases htime : (form.command clock).OnTime
    · exact .inl fun c hc ↦ List.mem_singleton.mp hc ▸ htime
    · obtain ⟨hlate, shift, x, y, -, -, rfl, -⟩ := hform.eq_click_of_not_onTime htime
      exact .inr ⟨hlate, shift, x, y, .command hform hline⟩

/-- The reading of lines goes past lines that are read. -/
theorem parseLines_append (h : ReadAs clock entries before) (line : Nat)
    (rest : List (List Char)) :
    parseLines clock line (before ++ rest) =
      prepended (commandsOf clock entries)
        (parseLines (clockAfter clock (commandsOf clock entries)) (line + before.length) rest) := by
  obtain ⟨hholds, htime⟩ := h
  induction hholds generalizing clock line with
  | nil => exact (prepended_nil _).symm
  | @cons entry text entries before hentry _ ih =>
    rw [commandsOf, List.forall_mem_append] at htime
    rw [List.cons_append, parseLines_cons hentry htime.1, ih _ htime.2, ← prepended_append,
      commandsOf, ← clockAfter_append, List.length_cons, Nat.add_right_comm, Nat.add_assoc]

/-- Lines are all read, or the reading stops at one that is no entry or a click that would be too
late. -/
theorem reading_cases (clock : Nat) (texts : List (List Char)) :
    (∃ entries, ReadAs clock entries texts) ∨
      ∃ before text rest entries, texts = before ++ text :: rest ∧ ReadAs clock entries before ∧
        ((∀ entry : Entry, ¬entry.On Form.ReadFrom text) ∨
          TooLate (clockAfter clock (commandsOf clock entries)) text) := by
  induction texts generalizing clock with
  | nil => exact .inl ⟨[], .nil, fun c hc ↦ nomatch hc⟩
  | cons text texts ih =>
    by_cases hentry : ∃ entry : Entry, entry.On Form.ReadFrom text
    · obtain ⟨entry, hentry⟩ := hentry
      rcases onTime_or_tooLate hentry clock with htime | hlate
      · have hcons {entries : List Entry} {texts : List (List Char)}
            (h : ReadAs (clockAfter clock (entry.command? clock).toList) entries texts) :
            ReadAs clock (entry :: entries) (text :: texts) :=
          ⟨.cons hentry h.holds, List.forall_mem_append.mpr ⟨htime, h.onTime⟩⟩
        rcases ih (clockAfter clock (entry.command? clock).toList) with
          ⟨entries, h⟩ | ⟨before, text', rest, entries, rfl, h, hstop⟩
        · exact .inl ⟨entry :: entries, hcons h⟩
        · refine .inr ⟨text :: before, text', rest, entry :: entries, rfl, hcons h, ?_⟩
          rwa [commandsOf, clockAfter_append]
      · exact .inr ⟨[], text, texts, [], rfl, ⟨.nil, fun c hc ↦ nomatch hc⟩, .inr hlate⟩
    · exact .inr ⟨[], text, texts, [], rfl, ⟨.nil, fun c hc ↦ nomatch hc⟩,
        .inl fun entry h ↦ hentry ⟨entry, h⟩⟩

/-- Lines that are read have the commands of their entries. -/
theorem ReadAs.parseLines_eq (h : ReadAs clock entries texts) (line : Nat) :
    parseLines clock line texts = .ok (.ok (commandsOf clock entries)) := by
  have happend := parseLines_append h line []
  rw [List.append_nil] at happend
  rw [happend, parseLines]
  exact congrArg (Except.ok ∘ Except.ok) (List.append_nil _)

variable {src : List Char}

/-- The first line that holds no entry is an error, and the reading goes no further. -/
theorem parse_of_unreadable (hlines : lines src = before ++ text :: rest)
    (h : ReadAs 0 entries before) (hentry : ∀ entry : Entry, ¬entry.On Form.ReadFrom text) :
    ∃ reason, parse src = .ok (.error ⟨before.length + 1, reason⟩) := by
  rcases entry_or_refused text with ⟨entry, h⟩ | ⟨reason, hreason⟩
  · exact absurd h (hentry entry)
  · refine ⟨reason, ?_⟩
    rw [parse, hlines, parseLines_append h, hreason, Nat.add_comm 1]
    rfl

/-- A click that would be too late is a fault, if the lines before it are read. -/
theorem parse_of_tooLate (hlines : lines src = before ++ text :: rest) (h : ReadAs 0 entries before)
    (hlate : TooLate (clockAfter 0 (commandsOf 0 entries)) text) :
    parse src = .error .addOverflow := by
  rw [parse, hlines, parseLines_append h, parseLines_of_tooLate hlate]
  rfl

/-- What can become of a script, and what its lines say then. -/
inductive ParsesTo (src : List Char) : Except Fault (Except ScriptError (List Command)) → Prop where
  | read {entries : List Entry} (h : ReadAs 0 entries (lines src)) :
      ParsesTo src (.ok (.ok (commandsOf 0 entries)))
  | unreadable {before rest : List (List Char)} {text : List Char} {entries : List Entry}
      {reason : Reason} (hlines : lines src = before ++ text :: rest) (h : ReadAs 0 entries before)
      (hentry : ∀ entry : Entry, ¬entry.On Form.ReadFrom text) :
      ParsesTo src (.ok (.error ⟨before.length + 1, reason⟩))
  | tooLate {before rest : List (List Char)} {text : List Char} {entries : List Entry}
      (hlines : lines src = before ++ text :: rest) (h : ReadAs 0 entries before)
      (hlate : TooLate (clockAfter 0 (commandsOf 0 entries)) text) :
      ParsesTo src (.error .addOverflow)

/-- A script is read, or it has a first line that is an error or a fault. -/
theorem parsesTo (src : List Char) : ParsesTo src (parse src) := by
  rcases reading_cases 0 (lines src) with
    ⟨entries, h⟩ | ⟨before, text, rest, entries, hlines, h, hentry | hlate⟩
  · rw [parse, h.parseLines_eq]
    exact .read h
  · obtain ⟨reason, hreason⟩ := parse_of_unreadable hlines h hentry
    rw [hreason]
    exact .unreadable hlines h hentry
  · rw [parse_of_tooLate hlines h hlate]
    exact .tooLate hlines h hlate

/-- What becomes of a script. It has commands exactly when all its lines are read as entries, and
they are those of the entries. There is an error in a line exactly when that line, counted from 1
with the lines that are blank or have only a comment, is the first one that holds no entry. And the
one way in which a script has neither is a click without a time, after lines that are read, whose
time would not fit: that is a fault. -/
theorem parse_outcome (src : List Char) :
    (∀ commands, parse src = .ok (.ok commands) ↔
      ∃ entries, ReadAs 0 entries (lines src) ∧ commandsOf 0 entries = commands) ∧
    (∀ line, (∃ reason, parse src = .ok (.error ⟨line, reason⟩)) ↔
      ∃ before text rest entries, lines src = before ++ text :: rest ∧ line = before.length + 1 ∧
        ReadAs 0 entries before ∧ ∀ entry : Entry, ¬entry.On Form.ReadFrom text) ∧
    (∀ fault, parse src = .error fault ↔ fault = .addOverflow ∧
      ∃ before text rest entries, lines src = before ++ text :: rest ∧ ReadAs 0 entries before ∧
        TooLate (clockAfter 0 (commandsOf 0 entries)) text) := by
  have hcases := parsesTo src
  refine ⟨fun commands ↦ ⟨fun h ↦ ?_, ?_⟩, fun line ↦ ⟨?_, ?_⟩, fun fault ↦ ⟨fun h ↦ ?_, ?_⟩⟩
  · rw [h] at hcases
    cases hcases with
    | read hread => exact ⟨_, hread, rfl⟩
  · rintro ⟨entries, hread, rfl⟩
    exact hread.parseLines_eq 1
  · rintro ⟨reason, h⟩
    rw [h] at hcases
    cases hcases with
    | unreadable hlines hread hentry => exact ⟨_, _, _, _, hlines, rfl, hread, hentry⟩
  · rintro ⟨before, text, rest, entries, hlines, rfl, hread, hentry⟩
    exact parse_of_unreadable hlines hread hentry
  · rw [h] at hcases
    cases hcases with
    | tooLate hlines hread hlate => exact ⟨rfl, _, _, _, _, hlines, hread, hlate⟩
  · rintro ⟨rfl, before, text, rest, entries, hlines, hread, hlate⟩
    exact parse_of_tooLate hlines hread hlate

/-- There is a script that has neither commands nor an error: a click without a time after one at
the latest time there is. -/
theorem not_forall_parse_answers : ¬∀ src, ∃ result, parse src = .ok result := by
  intro h
  obtain ⟨result, hresult⟩ := h "click 0 0 18446744073709551615\nclick 0 0".toList
  have hfault : parse "click 0 0 18446744073709551615\nclick 0 0".toList = .error .addOverflow := by
    decide +kernel
  cases hresult.symm.trans hfault

/-- Lines that are read are read as some entries. -/
theorem exists_readAs (h : parseLines clock line texts = .ok (.ok commands)) :
    ∃ entries, ReadAs clock entries texts ∧ commandsOf clock entries = commands := by
  rcases reading_cases clock texts with
    ⟨entries, hread⟩ | ⟨before, text, rest, entries, rfl, hread, hentry | hlate⟩
  · cases (hread.parseLines_eq line).symm.trans h
    exact ⟨entries, hread, rfl⟩
  · rw [parseLines_append hread] at h
    rcases entry_or_refused text with ⟨entry, h'⟩ | ⟨reason, hreason⟩
    · exact absurd h' (hentry entry)
    · rw [hreason] at h
      cases h
  · rw [parseLines_append hread, parseLines_of_tooLate hlate] at h
    cases h

/-- What the first lines and the others are read as. -/
theorem ReadAs.exists_of_append (h : ReadAs clock entries (before ++ rest)) :
    ∃ first later, entries = first ++ later ∧ ReadAs clock first before ∧
      List.Forall₂ (Entry.On Form.ReadFrom) later rest := by
  obtain ⟨hholds, htime⟩ := h
  rw [← List.take_append_drop before.length entries, commandsOf_append,
    List.forall_mem_append] at htime
  exact ⟨_, _, (List.take_append_drop ..).symm,
    ⟨List.forall₂_take_append _ _ _ hholds, htime.1⟩, List.forall₂_drop_append _ _ _ hholds⟩

/-! ### A line with words -/

variable {head : List Char} {args : List (List Char)} {first : List Command} {word : String}

/-- A line with words that types nothing holds a form with these words. -/
theorem Entry.On.exists_form {writes : Form → List (List Char) → Prop} (h : entry.On writes text)
    (huntyped : ∀ typed, ¬TypeLine typed text) (hline : WordLine (head :: args) text) :
    ∃ form, entry = .command form ∧ writes form (head :: args) := by
  cases h with
  | blank hblank => cases (wordLine_iff.mp hblank).symm.trans (wordLine_iff.mp hline)
  | typed htyped => exact absurd htyped (huntyped _)
  | command hform hwords =>
    cases (wordLine_iff.mp hwords).symm.trans (wordLine_iff.mp hline)
    exact ⟨_, rfl, hform⟩

private theorem exists_form_of_parseLines (huntyped : ∀ typed, ¬TypeLine typed text)
    (hline : WordLine (head :: args) text) (h : parseLines clock line [text] = .ok (.ok commands)) :
    ∃ form : Form, commands = [form.command clock] ∧ form.ReadFrom (head :: args) := by
  obtain ⟨entries, hread, rfl⟩ := exists_readAs h
  obtain ⟨entry, entries, hentry, hrest, rfl⟩ := List.forall₂_cons_right_iff.mp hread.holds
  obtain ⟨form, rfl, hform⟩ := hentry.exists_form huntyped hline
  cases hrest
  exact ⟨form, rfl, hform⟩

private theorem parseLines_of_miscount (huntyped : ∀ typed, ¬TypeLine typed text)
    (hline : WordLine (head :: args) text)
    (hhead : ∀ c word, Command.word? c = some word → head ≠ word.toList)
    (hargs : args.length ∉ arities head) :
    parseLines clock line (text :: rest) = .ok (.error ⟨line, miscount head args.length⟩) :=
  parseLines_of_refused (typedText?_eq_none_iff.mpr huntyped) hline
    (command_of_miscount hhead hargs)

private theorem parseLines_of_word (hword : c.word? = some word)
    (hline : WordLine (word.toList :: args) text) :
    parseLines clock line (text :: rest) = prepended [c] (parseLines clock (line + 1) rest) := by
  have hentry : (Entry.command (.plain c)).On Form.ReadFrom text :=
    .command (.surplus hword args) hline
  have htime : ∀ d ∈ ((Entry.command (.plain c)).command? clock).toList, d.OnTime := by
    intro d hd time hpress
    cases List.mem_singleton.mp hd
    cases (pressTime?_of_word hword).symm.trans hpress
  have hclock : clockAfter clock ((Entry.command (.plain c)).command? clock).toList = clock := by
    change c.pressTime?.getD clock = clock
    rw [pressTime?_of_word hword]
    rfl
  rw [parseLines_cons hentry htime, hclock]
  rfl

private theorem Form.ReadFrom.written_or_surplus {form : Form} (h : form.ReadFrom (head :: args)) :
    form.Written (head :: args) ∧ args.length ∈ arities head ∨
      args ≠ [] ∧ ∃ c word, Command.word? c = some word ∧ head = word.toList ∧ form = .plain c := by
  cases h with
  | written h => exact .inl ⟨h, h.length_mem_arities⟩
  | surplus hword args =>
    by_cases hargs : args = []
    · subst hargs
      have hwritten := Form.Written.plain hword
      exact .inl ⟨hwritten, hwritten.length_mem_arities⟩
    · exact .inr ⟨hargs, _, _, hword, rfl, rfl⟩

/-- Some lines of a script are read, and a line comes after them that has words but types nothing.

If that line is read as well, then it holds a form of a command, written with as many arguments as
its first word takes; or it begins with the word of a command that takes none, and is read as if
that word stood alone. Too few or too many arguments of any other command are an error in that line,
which says how many were expected. But what follows the word of a command that takes no arguments is
not looked at: the line always asks for that command. -/
theorem accepted_lines_hold_forms (hlines : lines src = before ++ text :: rest)
    (hbefore : parseLines 0 1 before = .ok (.ok first)) (huntyped : ∀ typed, ¬TypeLine typed text)
    (hline : WordLine (head :: args) text) :
    (∀ commands, parseLines 0 1 (before ++ [text]) = .ok (.ok commands) →
      ∃ form : Form, commands = first ++ [form.command (clockAfter 0 first)] ∧
        (form.Written (head :: args) ∧ args.length ∈ arities head ∨
          args ≠ [] ∧ ∃ c word, Command.word? c = some word ∧ head = word.toList ∧
            form = .plain c)) ∧
    ((∀ c word, Command.word? c = some word → head ≠ word.toList) → args.length ∉ arities head →
      parse src = .ok (.error ⟨before.length + 1, miscount head args.length⟩)) ∧
    ∀ c word, Command.word? c = some word → head = word.toList →
      parse src =
        prepended (first ++ [c]) (parseLines (clockAfter 0 first) (before.length + 2) rest) := by
  obtain ⟨entries, hread, rfl⟩ := exists_readAs hbefore
  have hparse : parse src = prepended (commandsOf 0 entries)
      (parseLines (clockAfter 0 (commandsOf 0 entries)) (before.length + 1) (text :: rest)) := by
    rw [parse, hlines, parseLines_append hread, Nat.add_comm 1]
  rw [parseLines_append hread, hparse]
  refine ⟨fun commands h ↦ ?_, fun hhead hargs ↦ ?_, ?_⟩
  · obtain ⟨more, hmore, rfl⟩ := prepended_eq_ok_iff.mp h
    obtain ⟨form, rfl, hform⟩ := exists_form_of_parseLines huntyped hline hmore
    exact ⟨form, rfl, hform.written_or_surplus⟩
  · rw [parseLines_of_miscount huntyped hline hhead hargs]
    rfl
  · rintro c word hword rfl
    rw [parseLines_of_word hword hline, prepended_append]

/-- The line `click 1` comes after a line with too many words, which is read all the same, and is an
error because a click takes two or three arguments. -/
theorem accepted_lines_hold_forms_click :
    parseLines 0 1 ["newline 5".toList] = .ok (.ok [.newline]) ∧
      WordLine ["click".toList, ['1']] "click 1".toList ∧
      parse "newline 5\nclick 1".toList = .ok (.error ⟨2, .clickArguments 1⟩) := by
  have hlines : lines "newline 5\nclick 1".toList =
      ["newline 5".toList] ++ "click 1".toList :: [] := by
    decide +kernel
  have hbefore : parseLines 0 1 ["newline 5".toList] = .ok (.ok [.newline]) := by decide +kernel
  have huntyped : ∀ typed, ¬TypeLine typed "click 1".toList :=
    typedText?_eq_none_iff.mp (by decide)
  have hline : WordLine ["click".toList, ['1']] "click 1".toList :=
    wordLine_iff.mpr (by decide +kernel)
  have hhead : ∀ c word, Command.word? c = some word → "click".toList ≠ word.toList := by
    intro c word hword hclick
    have harities := arities_word hword
    rw [← hclick] at harities
    cases harities
  exact ⟨hbefore, hline,
    (accepted_lines_hold_forms hlines hbefore huntyped hline).2.1 hhead (by decide)⟩

/-- A line may be read though it has an argument that its command does not take. -/
theorem not_forall_arguments_counted :
    ¬∀ src before text rest head args commands, lines src = before ++ text :: rest →
      (∀ typed, ¬TypeLine typed text) → WordLine (head :: args) text →
      parse src = .ok (.ok commands) → args.length ∈ arities head := by
  intro h
  have hlines : lines "newline 5".toList = [] ++ "newline 5".toList :: [] := by decide +kernel
  have huntyped : ∀ typed, ¬TypeLine typed "newline 5".toList :=
    typedText?_eq_none_iff.mp (by decide)
  have hline : WordLine ["newline".toList, ['5']] "newline 5".toList :=
    wordLine_iff.mpr (by decide +kernel)
  have hparse : parse "newline 5".toList = .ok (.ok [.newline]) := by decide +kernel
  exact absurd (h _ _ _ _ _ _ _ hlines huntyped hline hparse) (by decide)

end EditBox.Script
