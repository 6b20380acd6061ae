import EditBox.Bounded
import EditBox.Command
import EditBox.Script.Number
import EditBox.Text.Word

/-!
# Input scripts

A script drives an edit box with one command on each line:

    type hello world
    shift+ctrl+left
    click 40 10
    click 40 10 150     # time in milliseconds
    drag 90 30
    release
    wheel -1

Blank lines and comments are skipped. What follows `type ` is inserted as it stands, comment signs
included. A click without a time comes one second after the click before it, so that such clicks
never count as a double click.
-/

namespace EditBox.Script

open EditBox.Text

/-- Milliseconds between clicks without a time. -/
def clickSpacing : Nat := 1000

/-- Why a line is no command. -/
inductive Reason where
  | invalidNumber (word : List Char)
  | argumentCount (expected found : Nat)
  | clickArguments (found : Nat)
  | chordArguments (chord : List Char)
  | unknownCommand (chord : List Char)
  deriving DecidableEq, Repr

/-- Wording of a reason. -/
def Reason.message : Reason → String
  | invalidNumber word => "invalid number \x60" ++ String.ofList word ++ "\x60"
  | argumentCount expected found =>
      "expected " ++ toString expected ++ " numeric arguments, got " ++ toString found
  | clickArguments found => "click takes 2 or 3 arguments, got " ++ toString found
  | chordArguments chord => "\x60" ++ String.ofList chord ++ "\x60 takes no arguments"
  | unknownCommand chord => "unknown command \x60" ++ String.ofList chord ++ "\x60"

/-- First line of a script that is no command, counted from 1. -/
structure ScriptError where
  line : Nat
  reason : Reason
  deriving DecidableEq, Repr

/-- Wording of an error. -/
def ScriptError.message (e : ScriptError) : String :=
  "script line " ++ toString e.line ++ ": " ++ e.reason.message

/-- Lines of a script. A line feed ends a line, together with a carriage return before it; an
unfinished last line counts, an empty one does not. -/
def lines (src : List Char) : List (List Char) :=
  go [] src
where
  /-- Lines of a text that continues the characters of `reversed`, latest first. -/
  go (reversed : List Char) : List Char → List (List Char)
    | [] => if reversed.isEmpty then [] else [reversed.reverse]
    | '\n' :: rest =>
        let line := match reversed with
          | '\r' :: before => before
          | _ => reversed
        line.reverse :: go [] rest
    | c :: rest => go (c :: reversed) rest

/-- Words of a line: its maximal runs without white space. -/
def words (line : List Char) : List (List Char) :=
  (line.splitBy fun a b ↦ isSpace a == isSpace b).filter fun run ↦ !run.all isSpace

/-- Line up to its comment. -/
def withoutComment (line : List Char) : List Char := line.takeWhile (· != '#')

/-- Text that a line types, if it is a `type` line. -/
def typedText? (line : List Char) : Option (List Char) :=
  match line.dropWhile isSpace with
  | 't' :: 'y' :: 'p' :: 'e' :: ' ' :: text => some text
  | _ => none

/-- Commands that are a word of their own. -/
def plainCommands : List (String × Command) :=
  [("newline", .newline), ("tab", .tab), ("select-all", .selectAll), ("copy", .copy),
    ("cut", .cut), ("paste", .paste), ("undo", .undo), ("redo", .redo),
    ("release", .mouseRelease), ("pageup", .pageUp), ("pagedown", .pageDown),
    ("escape", .escape), ("blur", .blur), ("focus", .focus)]

/-- Keys that move the caret. -/
def motionKeys : List (String × Direction) :=
  [("left", .left), ("right", .right), ("up", .up), ("down", .down), ("home", .home),
    ("end", .stop)]

/-- Modifiers in front of a key, added to `mods`, and the key. -/
def chordKey (mods : Modifiers) : List Char → Modifiers × List Char
  | 'c' :: 't' :: 'r' :: 'l' :: '+' :: key => chordKey { mods with ctrl := true } key
  | 's' :: 'h' :: 'i' :: 'f' :: 't' :: '+' :: key => chordKey { mods with shift := true } key
  | key => (mods, key)

/-- Command of a key with modifiers in any order. -/
def chord (word : List Char) : Except Reason Command :=
  let (mods, key) := chordKey .none word
  match motionKeys.lookup (String.ofList key) with
  | some direction => .ok (.move direction mods)
  | none =>
      if key = "backspace".toList ∧ !mods.shift then .ok (.backspace mods.ctrl)
      else if key = "delete".toList ∧ !mods.shift then .ok (.deleteForward mods.ctrl)
      else .error (.unknownCommand word)

/-- Number of one word. -/
def number {α : Type} (read : List Char → Option α) (word : List Char) : Except Reason α :=
  match read word with
  | some n => .ok n
  | none => .error (.invalidNumber word)

/-- Number of a command that takes one. -/
def single {α : Type} (read : List Char → Option α) : List (List Char) → Except Reason α
  | [word] => number read word
  | args => .error (.argumentCount 1 args.length)

/-- Numbers of a command that takes two. -/
def pair {α : Type} (read : List Char → Option α) : List (List Char) → Except Reason (α × α)
  | [first, second] => do
      let a ← number read first
      let b ← number read second
      return (a, b)
  | args => .error (.argumentCount 2 args.length)

/-- Coordinate of a point, or number of notches. -/
def coordinate? : List Char → Option Int := integer? Bounded.coordinateBound

/-- Offset in the text, or time. -/
def offset? : List Char → Option Nat := natural? Bounded.offsetBound

/-- Point and time of a click, whose time without one is a second after `clock`. -/
def clickPlace (clock : Nat) : List (List Char) → Except Fault (Except Reason (Int × Int × Nat))
  | [x, y] =>
      match pair coordinate? [x, y] with
      | .error reason => .ok (.error reason)
      | .ok (x, y) => do
          let time ← Bounded.add Bounded.offsetBound clock clickSpacing
          return .ok (x, y, time)
  | [x, y, t] => .ok do
      let (x, y) ← pair coordinate? [x, y]
      let time ← single offset? [t]
      return (x, y, time)
  | args => .ok (.error (.clickArguments args.length))

/-- Command of a line that starts with `head`, and the time of the latest click. -/
def command (clock : Nat) (head : List Char) (args : List (List Char)) :
    Except Fault (Except Reason (Command × Nat)) :=
  let timeless (c : Except Reason Command) : Except Fault (Except Reason (Command × Nat)) :=
    .ok (c.map (·, clock))
  let click (mods : Modifiers) : Except Fault (Except Reason (Command × Nat)) := do
    let place ← clickPlace clock args
    return place.map fun (x, y, time) ↦ (.mousePress x y time mods, time)
  match plainCommands.lookup (String.ofList head) with
  | some c => timeless (.ok c)
  | none =>
      match String.ofList head with
      | "delete-range" => timeless ((pair offset? args).map fun (a, b) ↦ .deleteRange a b)
      | "wheel" => timeless ((single coordinate? args).map .wheel)
      | "drag" => timeless ((pair coordinate? args).map fun (x, y) ↦ .mouseDrag x y)
      | "click" => click .none
      | "shift+click" => click { ctrl := false, shift := true }
      | _ =>
          if args.isEmpty then timeless (chord head)
          else timeless (.error (.chordArguments head))

/-- Commands of lines numbered from `line`, after a click at `clock`. -/
def parseLines (clock line : Nat) :
    List (List Char) → Except Fault (Except ScriptError (List Command))
  | [] => .ok (.ok [])
  | text :: rest =>
      match typedText? text with
      | some typed => do
          let more ← parseLines clock (line + 1) rest
          return more.map (.insertText typed :: ·)
      | none =>
          match words (withoutComment text) with
          | [] => parseLines clock (line + 1) rest
          | head :: args => do
              match ← command clock head args with
              | .error reason => return .error ⟨line, reason⟩
              | .ok (c, clock) =>
                  let more ← parseLines clock (line + 1) rest
                  return more.map (c :: ·)

/-- Commands of a script. -/
def parse (src : List Char) : Except Fault (Except ScriptError (List Command)) :=
  parseLines 0 1 (lines src)

end EditBox.Script
