import EditBox.Proofs.Script.Forms

/-!
# Commands of a line

What the reader makes of the words of a line. It takes the words of every form
(`Form.ReadFrom.command_eq`) and refuses all others (`readFrom_or_refused`), except that it does not
look at what follows a word of its own (`Form.ReadFrom.surplus`). All of this is by cases on the
first word (`head_cases`). `command_of_miscount` is the refusal of too few or too many arguments.
-/

namespace EditBox.Script

/-- Words that the reader takes for a form: those that write it, and a word of its own with any
words after it. -/
inductive Form.ReadFrom : Form → List (List Char) → Prop where
  | written {form : Form} {ws : List (List Char)} (h : form.Written ws) : ReadFrom form ws
  | surplus {c : Command} {word : String} (h : c.word? = some word) (args : List (List Char)) :
      ReadFrom (.plain c) (word.toList :: args)

variable {clock : Nat} {head x y : List Char} {args ws : List (List Char)} {c : Command}
  {form : Form} {shift : Bool} {α : Type} {read : List Char → Option α}

private theorem command_word {word : String} (h : c.word? = some word) (args : List (List Char)) :
    command clock word.toList args = .ok (.ok (c, clock)) := by
  unfold command
  rw [String.ofList_toList, plainCommands_lookup_iff.mpr h]
  rfl

private theorem command_deleteRange (clock : Nat) (args : List (List Char)) :
    command clock "delete-range".toList args =
      .ok (((pair offset? args).map fun (a, b) ↦ .deleteRange a b).map (·, clock)) := rfl

private theorem command_wheel (clock : Nat) (args : List (List Char)) :
    command clock "wheel".toList args =
      .ok (((single coordinate? args).map .wheel).map (·, clock)) := rfl

private theorem command_drag (clock : Nat) (args : List (List Char)) :
    command clock "drag".toList args =
      .ok (((pair coordinate? args).map fun (x, y) ↦ .mouseDrag x y).map (·, clock)) := rfl

/-- A press at a point and a time that were read. -/
def pressAt (shift : Bool) (place : Except Reason (Int × Int × Nat)) :
    Except Reason (Command × Nat) :=
  place.map fun (x, y, time) ↦ (.mousePress x y time ⟨false, shift⟩, time)

private theorem command_click (clock : Nat) (shift : Bool) (args : List (List Char)) :
    command clock (clickHead shift) args = pressAt shift <$> clickPlace clock args := by
  cases shift <;> rfl

/-- Numbers of arguments that the commands of a word take. A key takes none. -/
def arities (head : List Char) : List Nat :=
  if head = "wheel".toList then [1]
  else if head = "drag".toList ∨ head = "delete-range".toList then [2]
  else if head = "click".toList ∨ head = "shift+click".toList then [2, 3]
  else [0]

/-- Why a line is refused whose first word does not take as many arguments as were found. -/
def miscount (head : List Char) (found : Nat) : Reason :=
  if head = "wheel".toList then .argumentCount 1 found
  else if head = "drag".toList ∨ head = "delete-range".toList then .argumentCount 2 found
  else if head = "click".toList ∨ head = "shift+click".toList then .clickArguments found
  else .chordArguments head

/-- What the first word of a line can be: a word of its own, a word that takes numbers, the word of
a click, or a key, which takes no arguments. -/
inductive Head : List Char → Prop where
  | plain {c : Command} {word : String} (h : c.word? = some word) : Head word.toList
  | deleteRange : Head "delete-range".toList
  | wheel : Head "wheel".toList
  | drag : Head "drag".toList
  | click (shift : Bool) : Head (clickHead shift)
  | key {head : List Char} (harities : arities head = [0])
      (hmiscount : ∀ found, miscount head found = .chordArguments head)
      (h : ∀ clock args, command clock head args =
        .ok ((if args.isEmpty then chord head else .error (.chordArguments head)).map (·, clock))) :
      Head head

/-- Every word is one of these. -/
theorem head_cases (head : List Char) : Head head := by
  cases hlookup : plainCommands.lookup (String.ofList head) with
  | some c =>
    have hhead := Head.plain (plainCommands_lookup_iff.mp hlookup)
    rwa [String.toList_ofList] at hhead
  | none =>
    by_cases hrange : head = "delete-range".toList
    · exact hrange ▸ .deleteRange
    by_cases hwheel : head = "wheel".toList
    · exact hwheel ▸ .wheel
    by_cases hdrag : head = "drag".toList
    · exact hdrag ▸ .drag
    by_cases hclick : head = "click".toList
    · exact hclick ▸ .click false
    by_cases hshift : head = "shift+click".toList
    · exact hshift ▸ .click true
    refine .key ?_ (fun found ↦ ?_) fun clock args ↦ ?_
    · simp only [arities, hwheel, hdrag, hrange, hclick, hshift, or_self, if_false]
    · simp only [miscount, hwheel, hdrag, hrange, hclick, hshift, or_self, if_false]
    have heq {word : String} (h : String.ofList head = word) : head = word.toList := by
      rw [← h, String.toList_ofList]
    unfold command
    rw [hlookup]
    dsimp only
    split
    · next h => exact absurd (heq h) hrange
    · next h => exact absurd (heq h) hwheel
    · next h => exact absurd (heq h) hdrag
    · next h => exact absurd (heq h) hclick
    · next h => exact absurd (heq h) hshift
    · split <;> rfl

private theorem chord_word {word : String} (h : c.word? = some word) :
    chord word.toList = .error (.unknownCommand word.toList) := by
  cases c with
  | insertText | deleteRange | backspace | deleteForward | move | mousePress | mouseDrag
  | wheel => cases h
  | _ =>
    cases h
    rfl

private theorem command_of_chord (h : chord head = .ok c) (clock : Nat) :
    command clock head [] = .ok (.ok (c, clock)) := by
  cases head_cases head with
  | plain hword =>
    rw [chord_word hword] at h
    cases h
  | deleteRange => cases h
  | wheel => cases h
  | drag => cases h
  | click shift => cases shift <;> cases h
  | key _ _ hcommand =>
    rw [hcommand, h]
    rfl

private theorem clickPlace_pair {px py : Int} (hx : coordinate? x = some px)
    (hy : coordinate? y = some py) : clickPlace clock [x, y] = (do
      let time ← Bounded.add Bounded.offsetBound clock clickSpacing
      return .ok (px, py, time)) := by
  rw [clickPlace, pair_eq_ok_iff.mpr ⟨x, y, rfl, hx, hy⟩]

private theorem clickPlace_triple {px py : Int} {t : List Char} {time : Nat}
    (hx : coordinate? x = some px) (hy : coordinate? y = some py) (ht : offset? t = some time) :
    clickPlace clock [x, y, t] = .ok (.ok (px, py, time)) := by
  rw [clickPlace, pair_eq_ok_iff.mpr ⟨x, y, rfl, hx, hy⟩, single_eq_ok_iff.mpr ⟨t, rfl, ht⟩]
  rfl

/-- A command that takes no arguments is no press. -/
theorem pressTime?_of_word {word : String} (h : c.word? = some word) : c.pressTime? = none := by
  cases c with
  | mousePress => cases h
  | _ => rfl

private theorem pressTime?_key (mods : Modifiers) (key : Key) :
    (key.command mods).pressTime? = none := by
  cases key <;> rfl

/-- The reader takes the words of a form for what it asks for, and goes on at the time of its
click. -/
theorem Form.ReadFrom.command_eq (h : form.ReadFrom (head :: args))
    (htime : (form.command clock).OnTime) :
    Script.command clock head args =
      .ok (.ok (form.command clock, (form.command clock).pressTime?.getD clock)) := by
  cases h with
  | surplus hword args =>
    rw [Form.command, pressTime?_of_word hword]
    exact command_word hword args
  | written h =>
    cases h with
    | plain hword =>
      rw [Form.command, pressTime?_of_word hword]
      exact command_word hword []
    | deleteRange ha hb =>
      rw [← offset?_eq_some_iff] at ha hb
      rw [command_deleteRange, pair_eq_ok_iff.mpr ⟨_, _, rfl, ha, hb⟩]
      rfl
    | wheel ha =>
      rw [← coordinate?_eq_some_iff] at ha
      rw [command_wheel, single_eq_ok_iff.mpr ⟨_, rfl, ha⟩]
      rfl
    | drag hx hy =>
      rw [← coordinate?_eq_some_iff] at hx hy
      rw [command_drag, pair_eq_ok_iff.mpr ⟨_, _, rfl, hx, hy⟩]
      rfl
    | click hx hy =>
      rw [← coordinate?_eq_some_iff] at hx hy
      rw [command_click, clickPlace_pair hx hy, Bounded.add_eq_ok (htime _ rfl)]
      rfl
    | clickAt hx hy ht =>
      rw [← coordinate?_eq_some_iff] at hx hy
      rw [← offset?_eq_some_iff] at ht
      rw [command_click, clickPlace_triple hx hy ht]
      rfl
    | chord hshift =>
      rw [Form.command, pressTime?_key]
      exact command_of_chord (chord_chordWord hshift) clock

/-- Only a click without a time can be too late. -/
theorem Form.ReadFrom.eq_click_of_not_onTime (h : form.ReadFrom ws)
    (htime : ¬(form.command clock).OnTime) :
    Bounded.offsetBound ≤ clock + clickSpacing ∧
      ∃ shift px py x y, form = .click shift px py none ∧ ws = [clickHead shift, x, y] ∧
        WritesCoordinate px x ∧ WritesCoordinate py y := by
  obtain ⟨time, hpress, hlate⟩ : ∃ time, (form.command clock).pressTime? = some time ∧
      Bounded.offsetBound ≤ time := by simpa [Command.OnTime] using htime
  cases h with
  | surplus hword =>
    rw [Form.command, pressTime?_of_word hword] at hpress
    cases hpress
  | written h =>
    cases h with
    | plain hword =>
      rw [Form.command, pressTime?_of_word hword] at hpress
      cases hpress
    | deleteRange => cases hpress
    | wheel => cases hpress
    | drag => cases hpress
    | click hx hy =>
      cases hpress
      exact ⟨hlate, _, _, _, _, _, rfl, rfl, hx, hy⟩
    | clickAt hx hy ht =>
      cases hpress
      exact absurd ht.2 (by simpa using hlate)
    | chord =>
      rw [Form.command, pressTime?_key] at hpress
      cases hpress

/-- A click without a time that is too late is a fault. -/
theorem Form.ReadFrom.command_eq_error (h : form.ReadFrom (head :: args))
    (htime : ¬(form.command clock).OnTime) :
    Script.command clock head args = .error .addOverflow := by
  obtain ⟨hlate, shift, px, py, x, y, rfl, hws, hx, hy⟩ := h.eq_click_of_not_onTime htime
  cases hws
  rw [← coordinate?_eq_some_iff] at hx hy
  rw [command_click, clickPlace_pair hx hy, Bounded.add, if_neg (by omega)]
  rfl

/-- A word of its own takes no arguments. -/
theorem arities_word {word : String} (h : c.word? = some word) : arities word.toList = [0] := by
  cases c with
  | insertText | deleteRange | backspace | deleteForward | move | mousePress | mouseDrag
  | wheel => cases h
  | _ =>
    cases h
    rfl

private theorem arities_of_chord (h : chord head = .ok c) : arities head = [0] := by
  cases head_cases head with
  | plain hword => exact arities_word hword
  | deleteRange => cases h
  | wheel => cases h
  | drag => cases h
  | click shift => cases shift <;> cases h
  | key harities => exact harities

private theorem arities_clickHead (shift : Bool) : arities (clickHead shift) = [2, 3] := by
  cases shift <;> rfl

/-- A form is written with as many arguments as its first word takes. -/
theorem Form.Written.length_mem_arities (h : form.Written (head :: args)) :
    args.length ∈ arities head := by
  cases h with
  | plain hword =>
    rw [arities_word hword]
    exact List.mem_singleton_self 0
  | deleteRange => exact List.mem_singleton_self 2
  | wheel => exact List.mem_singleton_self 1
  | drag => exact List.mem_singleton_self 2
  | click =>
    rw [arities_clickHead]
    exact List.mem_cons_self
  | clickAt =>
    rw [arities_clickHead]
    exact List.mem_cons_of_mem 2 (List.mem_singleton_self 3)
  | chord hshift =>
    rw [arities_of_chord (chord_chordWord hshift)]
    exact List.mem_singleton_self 0

private theorem clickHead_injective : Function.Injective clickHead := by
  intro a b h
  cases a <;> cases b
  · rfl
  · cases h
  · cases h
  · rfl

/-- A click with a point and no more is read as a click without a time. -/
theorem Form.ReadFrom.of_clickHead (h : form.ReadFrom [clickHead shift, x, y]) :
    ∃ px py, WritesCoordinate px x ∧ WritesCoordinate py y ∧ form = .click shift px py none := by
  generalize hws : [clickHead shift, x, y] = ws at h
  cases h with
  | surplus hword =>
    have harities := arities_word hword
    rw [← (List.cons.inj hws).1, arities_clickHead] at harities
    cases harities
  | written h =>
    cases h with
    | plain | wheel | clickAt | chord => simp at hws
    | deleteRange | drag =>
      have hhead := (List.cons.inj hws).1
      cases shift <;> cases hhead
    | click hx hy =>
      obtain ⟨hhead, hargs⟩ := List.cons.inj hws
      cases hargs
      obtain rfl := clickHead_injective hhead
      exact ⟨_, _, hx, hy, rfl⟩

private theorem single_of_length_ne (h : args.length ≠ 1) :
    single read args = .error (.argumentCount 1 args.length) := by
  unfold single
  split
  · exact absurd rfl h
  · rfl

private theorem pair_of_length_ne (h : args.length ≠ 2) :
    pair read args = .error (.argumentCount 2 args.length) := by
  unfold pair
  split
  · exact absurd rfl h
  · rfl

private theorem clickPlace_of_length_ne (h₂ : args.length ≠ 2) (h₃ : args.length ≠ 3) :
    clickPlace clock args = .ok (.error (.clickArguments args.length)) := by
  unfold clickPlace
  split
  · exact absurd rfl h₂
  · exact absurd rfl h₃
  · rfl

/-- A word that takes arguments, or that is a key, is refused with fewer or more words after it than
it takes. -/
theorem command_of_miscount (h : ∀ c word, Command.word? c = some word → head ≠ word.toList)
    (hargs : args.length ∉ arities head) :
    command clock head args = .ok (.error (miscount head args.length)) := by
  cases head_cases head with
  | plain hword => exact absurd rfl (h _ _ hword)
  | deleteRange =>
    rw [command_deleteRange, pair_of_length_ne (by simpa [arities] using hargs)]
    rfl
  | wheel =>
    rw [command_wheel, single_of_length_ne (by simpa [arities] using hargs)]
    rfl
  | drag =>
    rw [command_drag, pair_of_length_ne (by simpa [arities] using hargs)]
    rfl
  | click shift =>
    have hmiscount : miscount (clickHead shift) args.length = .clickArguments args.length := by
      cases shift <;> rfl
    rw [arities_clickHead, List.mem_cons, List.mem_singleton, not_or] at hargs
    rw [command_click, clickPlace_of_length_ne hargs.1 hargs.2, hmiscount]
    rfl
  | key harities hmiscount hcommand =>
    have hne : args.isEmpty = false := by
      rw [harities] at hargs
      simpa using hargs
    rw [hcommand, hne, hmiscount]
    rfl

/-- The reader refuses a line of these words, whatever the time of the latest click is. -/
def Refused (head : List Char) (args : List (List Char)) : Prop :=
  ∃ reason, ∀ clock, command clock head args = .ok (.error reason)

private theorem readFrom_or_refused_of_map {made : Except Reason α} {f : α → Command}
    (hcommand : ∀ clock, command clock head args = .ok ((made.map f).map (·, clock)))
    (hmade : ∀ a, made = .ok a → ∃ form : Form, form.ReadFrom (head :: args)) :
    (∃ form : Form, form.ReadFrom (head :: args)) ∨ Refused head args := by
  cases made with
  | error reason => exact .inr ⟨reason, hcommand⟩
  | ok a => exact .inl (hmade a rfl)

/-- The point and the time of a click are read from the words of a form, or the words are refused.
-/
theorem click_readFrom_or_refused (shift : Bool) (args : List (List Char)) :
    (∃ form : Form, form.ReadFrom (clickHead shift :: args)) ∨ Refused (clickHead shift) args := by
  have hrefused {reason : Reason} (h : ∀ clock, clickPlace clock args = .ok (.error reason)) :
      Refused (clickHead shift) args :=
    ⟨reason, fun clock ↦ by
      rw [command_click, h clock]
      rfl⟩
  by_cases h₂ : args.length = 2
  · obtain ⟨x, y, rfl⟩ := List.length_eq_two.mp h₂
    cases hpoint : pair coordinate? [x, y] with
    | error reason => exact .inr (hrefused fun clock ↦ by rw [clickPlace, hpoint])
    | ok point =>
      obtain ⟨x, y, hargs, hx, hy⟩ := pair_eq_ok_iff.mp hpoint
      rw [coordinate?_eq_some_iff] at hx hy
      rw [hargs]
      exact .inl ⟨_, .written (.click hx hy)⟩
  by_cases h₃ : args.length = 3
  · obtain ⟨x, y, t, rfl⟩ := List.length_eq_three.mp h₃
    cases hpoint : pair coordinate? [x, y] with
    | error reason =>
      have hplace (clock : Nat) : clickPlace clock [x, y, t] = .ok (.error reason) := by
        rw [clickPlace, hpoint]
        rfl
      exact .inr (hrefused hplace)
    | ok point =>
      cases htime : single offset? [t] with
      | error reason =>
        have hplace (clock : Nat) : clickPlace clock [x, y, t] = .ok (.error reason) := by
          rw [clickPlace, hpoint, htime]
          rfl
        exact .inr (hrefused hplace)
      | ok time =>
        obtain ⟨x', y', hargs, hx, hy⟩ := pair_eq_ok_iff.mp hpoint
        obtain ⟨t', htargs, ht⟩ := single_eq_ok_iff.mp htime
        cases hargs
        cases htargs
        rw [coordinate?_eq_some_iff] at hx hy
        rw [offset?_eq_some_iff] at ht
        exact .inl ⟨_, .written (.clickAt hx hy ht)⟩
  exact .inr (hrefused fun clock ↦ clickPlace_of_length_ne h₂ h₃)

/-- The words of a line are those of a form, or they are refused. -/
theorem readFrom_or_refused (head : List Char) (args : List (List Char)) :
    (∃ form : Form, form.ReadFrom (head :: args)) ∨ Refused head args := by
  cases head_cases head with
  | plain hword => exact .inl ⟨_, .surplus hword args⟩
  | deleteRange =>
    refine readFrom_or_refused_of_map (command_deleteRange · args) fun range hrange ↦ ?_
    obtain ⟨a, b, rfl, ha, hb⟩ := pair_eq_ok_iff.mp hrange
    rw [offset?_eq_some_iff] at ha hb
    exact ⟨_, .written (.deleteRange ha hb)⟩
  | wheel =>
    refine readFrom_or_refused_of_map (command_wheel · args) fun delta hdelta ↦ ?_
    obtain ⟨a, rfl, ha⟩ := single_eq_ok_iff.mp hdelta
    rw [coordinate?_eq_some_iff] at ha
    exact ⟨_, .written (.wheel ha)⟩
  | drag =>
    refine readFrom_or_refused_of_map (command_drag · args) fun point hpoint ↦ ?_
    obtain ⟨x, y, rfl, hx, hy⟩ := pair_eq_ok_iff.mp hpoint
    rw [coordinate?_eq_some_iff] at hx hy
    exact ⟨_, .written (.drag hx hy)⟩
  | click shift => exact click_readFrom_or_refused shift args
  | key _ _ hcommand =>
    cases args with
    | cons arg args => exact .inr ⟨.chordArguments head, fun clock ↦ hcommand clock (arg :: args)⟩
    | nil =>
      cases hchord : chord head with
      | error reason =>
        refine .inr ⟨reason, fun clock ↦ ?_⟩
        rw [hcommand, hchord]
        rfl
      | ok c =>
        obtain ⟨held, key, rfl, hshift, -⟩ := chord_eq_ok_iff.mp hchord
        exact .inl ⟨_, .written (.chord hshift)⟩

end EditBox.Script
