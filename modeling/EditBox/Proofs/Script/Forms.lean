import EditBox.Proofs.Script.Numerals
import EditBox.Proofs.Script.Words

/-!
# Forms of a command

The documented ways of writing a command as words: a word of its own, a word with numbers, a click
with a time or without, and a key with modifiers. `Form` is a command as it is written,
`Form.Written` gives its words and `Form.command` what it asks for. The reader's tables, keys and
numbers are exactly those of the forms (`plainCommands_lookup_iff`, `chord_eq_ok_iff`,
`pair_eq_ok_iff`).
-/

namespace EditBox

/-- Word of a command that takes no arguments. -/
def Command.word? : Command → Option String
  | newline => some "newline"
  | tab => some "tab"
  | selectAll => some "select-all"
  | copy => some "copy"
  | cut => some "cut"
  | paste => some "paste"
  | undo => some "undo"
  | redo => some "redo"
  | mouseRelease => some "release"
  | pageUp => some "pageup"
  | pageDown => some "pagedown"
  | escape => some "escape"
  | blur => some "blur"
  | focus => some "focus"
  | _ => none

/-- Time of a press. -/
def Command.pressTime? : Command → Option Nat
  | mousePress _ _ time _ => some time
  | _ => none

/-- The time of a press stays below its bound. -/
def Command.OnTime (c : Command) : Prop :=
  ∀ time, c.pressTime? = some time → time < Bounded.offsetBound

instance (c : Command) : Decidable c.OnTime :=
  inferInstanceAs (Decidable (∀ time ∈ c.pressTime?, time < Bounded.offsetBound))

/-- Word of the key that moves in a direction. -/
def Direction.word : Direction → String
  | left => "left"
  | right => "right"
  | up => "up"
  | down => "down"
  | home => "home"
  | stop => "end"

namespace Script

/-- Modifier key in front of another key. -/
inductive Modifier where
  | ctrl | shift
  deriving DecidableEq, Repr

/-- How a modifier is written in front of a key. -/
def Modifier.word : Modifier → List Char
  | ctrl => "ctrl+".toList
  | shift => "shift+".toList

/-- Modifiers and those that are held besides, in whatever order and however often. -/
def holding (mods : Modifiers) (held : List Modifier) : Modifiers :=
  ⟨mods.ctrl || decide (.ctrl ∈ held), mods.shift || decide (.shift ∈ held)⟩

/-- Key of the keyboard. -/
inductive Key where
  | motion (direction : Direction)
  | backspace
  | delete
  deriving DecidableEq, Repr

/-- Word of a key. -/
def Key.word : Key → String
  | motion direction => direction.word
  | backspace => "backspace"
  | delete => "delete"

/-- What a key asks for. -/
def Key.command (mods : Modifiers) : Key → Command
  | motion direction => .move direction mods
  | backspace => .backspace mods.ctrl
  | delete => .deleteForward mods.ctrl

/-- Command as it is written in a script. -/
inductive Form where
  | plain (c : Command)
  | deleteRange (start stop : Nat)
  | wheel (delta : Int)
  | drag (x y : Int)
  | click (shift : Bool) (x y : Int) (time : Option Nat)
  | chord (held : List Modifier) (key : Key)
  deriving DecidableEq, Repr

/-- What a form asks for after a click at `clock`. A click without a time comes a second later. -/
def Form.command (clock : Nat) : Form → Command
  | plain c => c
  | deleteRange start stop => .deleteRange start stop
  | wheel delta => .wheel delta
  | drag x y => .mouseDrag x y
  | click shift x y time => .mousePress x y (time.getD (clock + clickSpacing)) ⟨false, shift⟩
  | chord held key => key.command (holding .none held)

/-- A word writes an offset or a time. -/
def WritesOffset (n : Nat) (word : List Char) : Prop :=
  WritesNatural n word ∧ n < Bounded.offsetBound

/-- A word writes a coordinate or a number of notches. -/
def WritesCoordinate (n : Int) (word : List Char) : Prop :=
  WritesInteger n word ∧ -(Bounded.coordinateBound : Int) ≤ n ∧ n < Bounded.coordinateBound

/-- Word that begins a click. -/
def clickHead (shift : Bool) : List Char := if shift then "shift+click".toList else "click".toList

/-- Word of a key with modifiers. -/
def chordWord (held : List Modifier) (key : Key) : List Char :=
  held.flatMap Modifier.word ++ key.word.toList

/-- Words that write a form. -/
inductive Form.Written : Form → List (List Char) → Prop where
  | plain {c : Command} {word : String} (h : c.word? = some word) :
      Written (.plain c) [word.toList]
  | deleteRange {start stop : Nat} {a b : List Char} (ha : WritesOffset start a)
      (hb : WritesOffset stop b) : Written (.deleteRange start stop) ["delete-range".toList, a, b]
  | wheel {delta : Int} {a : List Char} (ha : WritesCoordinate delta a) :
      Written (.wheel delta) ["wheel".toList, a]
  | drag {px py : Int} {x y : List Char} (hx : WritesCoordinate px x)
      (hy : WritesCoordinate py y) : Written (.drag px py) ["drag".toList, x, y]
  | click {shift : Bool} {px py : Int} {x y : List Char} (hx : WritesCoordinate px x)
      (hy : WritesCoordinate py y) : Written (.click shift px py none) [clickHead shift, x, y]
  | clickAt {shift : Bool} {px py : Int} {time : Nat} {x y t : List Char}
      (hx : WritesCoordinate px x) (hy : WritesCoordinate py y) (ht : WritesOffset time t) :
      Written (.click shift px py (some time)) [clickHead shift, x, y, t]
  | chord {held : List Modifier} {key : Key}
      (h : .shift ∈ held → ∃ direction, key = .motion direction) :
      Written (.chord held key) [chordWord held key]

variable {word : List Char} {args : List (List Char)} {c : Command}

/-! ### Tables -/

/-- The table of words of their own is complete and exact. -/
theorem plainCommands_lookup_iff {word : String} :
    plainCommands.lookup word = some c ↔ c.word? = some word := by
  constructor
  · intro h
    have hall : ∀ p ∈ plainCommands, p.2.word? = some p.1 := by decide
    obtain ⟨before, after, hsplit, -⟩ := List.lookup_eq_some_iff.mp h
    exact hall (word, c) (by simp [hsplit])
  · intro h
    cases c with
    | insertText | deleteRange | backspace | deleteForward | move | mousePress | mouseDrag
    | wheel => cases h
    | _ =>
      cases h
      rfl

/-- The table of motion keys is complete and exact. -/
theorem motionKeys_lookup_iff {word : String} {direction : Direction} :
    motionKeys.lookup word = some direction ↔ direction.word = word := by
  constructor
  · intro h
    have hall : ∀ p ∈ motionKeys, p.2.word = p.1 := by decide
    obtain ⟨before, after, hsplit, -⟩ := List.lookup_eq_some_iff.mp h
    exact hall (word, direction) (by simp [hsplit])
  · rintro rfl
    cases direction <;> rfl

/-! ### Keys with modifiers -/

private theorem chordKey_word (mods : Modifiers) (key : Key) :
    chordKey mods key.word.toList = (mods, key.word.toList) := by
  cases key with
  | motion direction => cases direction <;> rfl
  | backspace => rfl
  | delete => rfl

private theorem chordKey_append (mods : Modifiers) (held : List Modifier) (key : List Char) :
    chordKey mods (held.flatMap Modifier.word ++ key) = chordKey (holding mods held) key := by
  induction held generalizing mods with
  | nil => simp [holding]
  | cons modifier held ih =>
    rw [List.flatMap_cons, List.append_assoc]
    cases modifier with
    | ctrl =>
      change chordKey { mods with ctrl := true } (held.flatMap Modifier.word ++ key) = _
      rw [ih]
      simp [holding]
    | shift =>
      change chordKey { mods with shift := true } (held.flatMap Modifier.word ++ key) = _
      rw [ih]
      simp [holding]

private theorem exists_chordKey_eq (mods : Modifiers) (word : List Char) :
    ∃ held key, word = held.flatMap Modifier.word ++ key ∧
      chordKey mods word = (holding mods held, key) := by
  fun_induction chordKey mods word with
  | case1 mods key ih =>
    obtain ⟨held, key, rfl, hkey⟩ := ih
    exact ⟨.ctrl :: held, key, rfl, by simpa [holding] using hkey⟩
  | case2 mods key ih =>
    obtain ⟨held, key, rfl, hkey⟩ := ih
    exact ⟨.shift :: held, key, rfl, by simpa [holding] using hkey⟩
  | case3 mods key => exact ⟨[], key, rfl, by simp [holding]⟩

/-- A motion is read with any modifiers, and a deletion without shift. -/
theorem chord_chordWord {held : List Modifier} {key : Key}
    (hshift : .shift ∈ held → ∃ direction, key = .motion direction) :
    chord (chordWord held key) = .ok (key.command (holding .none held)) := by
  have hmods (hkey : ∀ direction, key ≠ .motion direction) :
      (!(holding .none held).shift) = true := by
    have hfree : Modifier.shift ∉ held := by
      intro hmem
      obtain ⟨direction, hmotion⟩ := hshift hmem
      exact hkey direction hmotion
    simp [holding, hfree, Modifiers.none]
  unfold chord
  rw [chordWord, chordKey_append, chordKey_word]
  dsimp only
  cases key with
  | motion direction =>
    rw [Key.word, String.ofList_toList, motionKeys_lookup_iff.mpr rfl]
    rfl
  | backspace =>
    rw [show motionKeys.lookup (String.ofList Key.backspace.word.toList) = none from rfl]
    exact if_pos ⟨rfl, hmods fun _ ↦ nofun⟩
  | delete =>
    rw [show motionKeys.lookup (String.ofList Key.delete.word.toList) = none from rfl]
    exact (if_neg fun h ↦ nomatch h.1).trans (if_pos ⟨rfl, hmods fun _ ↦ nofun⟩)

/-- The words of keys with modifiers are the ones that write a motion with any modifiers, or a
deletion without shift. -/
theorem chord_eq_ok_iff :
    chord word = .ok c ↔ ∃ held key, word = chordWord held key ∧
      (.shift ∈ held → ∃ direction, key = .motion direction) ∧
      c = key.command (holding .none held) := by
  constructor
  · intro h
    obtain ⟨held, key, rfl, hkey⟩ := exists_chordKey_eq .none word
    have hfree (hmods : (!(holding .none held).shift) = true) : Modifier.shift ∉ held := by
      simpa [holding, Modifiers.none] using hmods
    unfold chord at h
    rw [hkey] at h
    dsimp only at h
    split at h
    · next direction hlookup =>
      cases h
      refine ⟨held, .motion direction, ?_, fun _ ↦ ⟨direction, rfl⟩, rfl⟩
      rw [chordWord, Key.word, motionKeys_lookup_iff.mp hlookup, String.toList_ofList]
    · split at h
      · next hback =>
        cases h
        obtain ⟨rfl, hmods⟩ := hback
        exact ⟨held, .backspace, rfl, fun hmem ↦ absurd hmem (hfree hmods), rfl⟩
      · split at h
        · next hdelete =>
          cases h
          obtain ⟨rfl, hmods⟩ := hdelete
          exact ⟨held, .delete, rfl, fun hmem ↦ absurd hmem (hfree hmods), rfl⟩
        · cases h
  · rintro ⟨held, key, rfl, hshift, rfl⟩
    exact chord_chordWord hshift

/-! ### Numbers -/

/-- The words read as an offset are the ones that write it. -/
theorem offset?_eq_some_iff {n : Nat} : offset? word = some n ↔ WritesOffset n word :=
  natural?_eq_some_iff

/-- The words read as a coordinate are the ones that write it. -/
theorem coordinate?_eq_some_iff {n : Int} : coordinate? word = some n ↔ WritesCoordinate n word :=
  integer?_eq_some_iff

variable {α : Type} {read : List Char → Option α}

/-- A word has a number exactly when it is read as one. -/
theorem number_eq_ok_iff {a : α} : number read word = .ok a ↔ read word = some a := by
  unfold number
  cases read word <;> simp

/-- One number is read from one word. -/
theorem single_eq_ok_iff {a : α} :
    single read args = .ok a ↔ ∃ x, args = [x] ∧ read x = some a := by
  unfold single
  split
  · simp [number_eq_ok_iff]
  · next hargs =>
    simp only [reduceCtorEq, false_iff]
    rintro ⟨x, rfl, -⟩
    exact hargs x rfl

/-- Two numbers are read from two words. -/
theorem pair_eq_ok_iff {a b : α} :
    pair read args = .ok (a, b) ↔ ∃ x y, args = [x, y] ∧ read x = some a ∧ read y = some b := by
  constructor
  · intro h
    unfold pair at h
    split at h
    · next x y =>
      cases hx : number read x with
      | error reason =>
        rw [hx] at h
        cases h
      | ok a' =>
        cases hy : number read y with
        | error reason =>
          rw [hx, hy] at h
          cases h
        | ok b' =>
          rw [hx, hy] at h
          cases h
          exact ⟨x, y, rfl, number_eq_ok_iff.mp hx, number_eq_ok_iff.mp hy⟩
    · cases h
  · rintro ⟨x, y, rfl, hx, hy⟩
    rw [pair, number_eq_ok_iff.mpr hx, number_eq_ok_iff.mpr hy]
    rfl

end Script

end EditBox
