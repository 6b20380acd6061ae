/-!
# Commands

What a host asks of an edit box, decoded from its own input events.
-/

namespace EditBox

/-- Direction in which the caret moves. -/
inductive Direction where
  | left | right | up | down | home | stop
  deriving DecidableEq, Repr

/-- Name of a direction in reports. -/
def Direction.name : Direction → String
  | left => "Left"
  | right => "Right"
  | up => "Up"
  | down => "Down"
  | home => "Home"
  | stop => "End"

/-- Modifier keys held down. -/
structure Modifiers where
  ctrl : Bool
  shift : Bool
  deriving DecidableEq, Repr

/-- No modifier key. -/
def Modifiers.none : Modifiers := ⟨false, false⟩

/-- Request of the host. Points are relative to the top left corner of the edit box. -/
inductive Command where
  /-- Insert at the caret in place of the selection. -/
  | insertText (text : List Char)
  | newline
  /-- Insert the spaces of one tab. -/
  | tab
  | deleteRange (start stop : Nat)
  | backspace (word : Bool)
  | deleteForward (word : Bool)
  | move (direction : Direction) (mods : Modifiers)
  | selectAll
  | copy
  | cut
  | paste
  | undo
  | redo
  | mousePress (x y : Int) (time : Nat) (mods : Modifiers)
  | mouseDrag (x y : Int)
  | mouseRelease
  /-- Turn the wheel; a positive number of notches scrolls towards the start. -/
  | wheel (delta : Int)
  | pageUp
  | pageDown
  /-- Drop the selection and the focus. -/
  | escape
  /-- The host took the focus away: as `escape`, and a drag ends. -/
  | blur
  | focus
  deriving DecidableEq, Repr

namespace Command

/-- Name of a command. -/
def name : Command → String
  | insertText _ => "insert_text"
  | newline => "newline"
  | tab => "tab"
  | deleteRange .. => "delete_range"
  | backspace _ => "backspace"
  | deleteForward _ => "delete_forward"
  | move .. => "move"
  | selectAll => "select_all"
  | copy => "copy"
  | cut => "cut"
  | paste => "paste"
  | undo => "undo"
  | redo => "redo"
  | mousePress .. => "mouse_press"
  | mouseDrag .. => "mouse_drag"
  | mouseRelease => "mouse_release"
  | wheel _ => "wheel"
  | pageUp => "page_up"
  | pageDown => "page_down"
  | escape => "escape"
  | blur => "blur"
  | focus => "focus"

/-- Whether a command is ignored without keyboard focus. -/
def needsFocus : Command → Bool
  | mousePress .. | mouseDrag .. | mouseRelease | wheel _ | focus | blur => false
  | _ => true

end Command

end EditBox
