import EditBox.Box
import EditBox.Command
import EditBox.Text.LineBreak

/-!
# Carrying out commands

`dispatch` applies a command to an edit box and the host's clipboard. Offsets are brought inside
the text by the editor, so a stale one does no harm. A command that moves the caret ends by
scrolling it into view, and a command that changes the text ends by bringing the scroll within the
new rows.
-/

namespace EditBox

open EditBox.Text

/-- Text of the clipboard, empty when there is none. -/
abbrev Clipboard := List Char

/-- What a command did. -/
structure Reply where
  /-- Something visible changed: text, caret, selection, scroll or focus. -/
  dirty : Bool
  /-- The buffer was written. -/
  textChanged : Bool
  deriving DecidableEq, Repr

namespace Box

/-- Report a command event. -/
def reportCommand (e : CommandEvent) : Run Unit := Run.report (.command e)

/-- Scroll the caret into view after a command that affected it. -/
def reveal (box : Box) : Run (Box × Bool) := do
  let (box, _) ← box.ensureCaretVisible
  return (box, true)

/-- Insert at the caret; nothing happens for an empty text without a selection to replace. -/
def insertAtCaret (box : Box) (text : List Char) : Run (Box × Bool) := do
  if text.isEmpty && !box.editor.hasSelection then return (box, false)
  let editor ← box.editor.insertText text
  reportCommand (.inserted text.length editor.caret)
  reveal { box with editor := editor }

/-- Spaces of one tab. -/
def tabText (box : Box) : Except Fault (List Char) :=
  if box.options.tabSpaces < Bounded.distanceBound then
    .ok (List.replicate box.options.tabSpaces ' ')
  else .error .capacityOverflow

/-- Delete a range. -/
def deleteRange (box : Box) (start stop : Nat) : Run (Box × Bool) := do
  let (editor, changed) ← box.editor.deleteRange start stop
  let box := { box with editor := editor }
  if changed then
    reportCommand (.rangeDeleted start stop)
    box.reveal
  else return (box, false)

/-- Delete backwards, a character or a word. -/
def backspace (box : Box) (word : Bool) : Run (Box × Bool) := do
  let (editor, changed) ←
    if word then box.editor.deleteWordBack else box.editor.backspace
  reportCommand (.deletion "backspace" word changed)
  let box := { box with editor := editor }
  if changed then box.reveal else return (box, false)

/-- Delete forwards, a character or a word. -/
def deleteForward (box : Box) (word : Bool) : Run (Box × Bool) := do
  let (editor, changed) ←
    if word then box.editor.deleteWordForward else box.editor.deleteForward
  reportCommand (.deletion "delete_forward" word changed)
  let box := { box with editor := editor }
  if changed then box.reveal else return (box, false)

/-- Offset at the same pixel distance on the next row down or up; on the last or first row, on that
row itself. -/
def verticalTarget (box : Box) (down : Bool) : Run (Box × Nat) := do
  let (box, pos) ← box.caretVisual
  let (box, rows) ← box.rowCount
  let row := if down then min (pos.row + 1) (rows - 1) else pos.row - 1
  box.rowXToOffset row (Bounded.toCoordinate pos.x)

/-- Offset to which a motion takes the caret. -/
def motionTarget (box : Box) (direction : Direction) (ctrl : Bool) : Run (Box × Nat) := do
  let buffer := box.editor.buffer
  let caret := box.editor.caret
  match direction, ctrl with
  | .left, false => return (box, Motion.left caret)
  | .left, true => return (box, ← Motion.wordLeft buffer caret)
  | .right, false => return (box, ← Motion.right buffer caret)
  | .right, true => return (box, ← Motion.wordRight buffer caret)
  | .home, false => return (box, ← Motion.lineHome buffer caret)
  | .home, true => return (box, Motion.bufferHome)
  | .stop, false => return (box, ← Motion.lineEnd buffer caret)
  | .stop, true => return (box, Motion.bufferEnd buffer)
  | .up, _ => box.verticalTarget false
  | .down, _ => box.verticalTarget true

/-- Move the caret. -/
def move (box : Box) (direction : Direction) (mods : Modifiers) : Run (Box × Bool) := do
  let caret := box.editor.caret
  let (box, target) ← box.motionTarget direction mods.ctrl
  reportCommand (.moved direction.name caret target mods.shift)
  reveal { box with editor := box.editor.moveCaret target mods.shift }

/-- Copy the selection. -/
def copy (box : Box) (clipboard : Clipboard) : Run (Box × Clipboard × Bool) := do
  match ← box.editor.selectedText with
  | some text =>
      reportCommand (.clipboard "copy" text.length)
      return (box, text, false)
  | none => return (box, clipboard, false)

/-- Copy and delete the selection. -/
def cut (box : Box) (clipboard : Clipboard) : Run (Box × Clipboard × Bool) := do
  match ← box.editor.selectedText with
  | some text =>
      reportCommand (.clipboard "cut" text.length)
      let (editor, _) ← box.editor.deleteSelection
      let (box, dirty) ← reveal { box with editor := editor }
      return (box, text, dirty)
  | none => return (box, clipboard, false)

/-- Insert the clipboard with its line breaks normalized. -/
def paste (box : Box) (clipboard : Clipboard) : Run (Box × Bool) := do
  if clipboard.isEmpty then return (box, false)
  let text := normalize clipboard
  reportCommand (.clipboard "paste" text.length)
  let editor ← box.editor.insertText text
  reveal { box with editor := editor }

/-- Undo. -/
def undo (box : Box) : Run (Box × Bool) := do
  let (editor, found) ← box.editor.undo
  let box := { box with editor := editor }
  if found then
    reportCommand (.undone editor.history.undoDepth)
    box.reveal
  else return (box, false)

/-- Redo. -/
def redo (box : Box) : Run (Box × Bool) := do
  let (editor, found) ← box.editor.redo
  let box := { box with editor := editor }
  if found then
    reportCommand (.redone editor.history.redoDepth)
    box.reveal
  else return (box, false)

/-- Press the mouse. The first click places the caret and arms a drag anchored there, or with shift
extends the selection; the second selects the word under the pointer, and any further one the
line. -/
def press (box : Box) (x y : Int) (time : Nat) (mods : Modifiers) : Run (Box × Bool) := do
  let (box, offset) ← pointToOffset { box with focused := true } x y .truncate
  let pointer := box.pointer.press time box.options.multiClickMs
  reportCommand (.pressed offset pointer.clickCount)
  match pointer.clickCount with
  | 1 =>
      let editor := box.editor.moveCaret offset mods.shift
      let anchor := editor.anchor.getD offset
      reveal { box with editor := editor, pointer := pointer.beginDrag anchor }
  | 2 =>
      let (a, b) ← Motion.wordAt box.editor.buffer offset
      reveal { box with editor := box.editor.selectRange a b, pointer := pointer.cancelDrag }
  | _ =>
      let (a, b) ← Motion.lineAt box.editor.buffer offset
      reveal { box with editor := box.editor.selectRange a b, pointer := pointer.cancelDrag }

/-- Move the mouse; with a drag armed, select from its anchor to the nearest row. -/
def drag (box : Box) (x y : Int) : Run (Box × Bool) := do
  match box.pointer.pressed, box.pointer.dragAnchor with
  | true, some anchor =>
      let (box, offset) ← box.pointToOffset x y .nearest
      reveal { box with editor := box.editor.selectRange anchor offset }
  | _, _ => return (box, false)

/-- Turn the wheel; whether the view scrolled. -/
def wheel (box : Box) (delta : Int) : Run (Box × Bool) := do
  let box ← box.ensureLayout
  let notch ← Bounded.mul Bounded.pixelBound box.layout.lineHeight box.options.wheelLines
  let view ← box.view.scrollWheel delta notch box.layout.rowCount box.layout.lineHeight
  return ({ box with view := view }, view.scroll != box.view.scroll)

/-- Scroll by one content height and move the caret by as many rows. -/
def page (box : Box) (down : Bool) : Run (Box × Bool) := do
  let box ← box.ensureLayout
  let lineHeight := box.layout.lineHeight
  let rows := box.layout.rowCount
  let view ← if down then box.view.pageDown rows lineHeight else box.view.pageUp
  let content ← view.contentHeight
  let jump := max (content / max lineHeight 1) 1
  let (box, pos) ← caretVisual { box with view := view }
  let row := if down then min (pos.row + jump) (rows - 1) else pos.row - jump
  let (box, target) ← box.rowXToOffset row (Bounded.toCoordinate pos.x)
  reveal { box with editor := box.editor.moveCaret target false }

/-- Drop the selection and the focus; whether there was either. -/
def defocus (box : Box) (endDrag : Bool) : Box × Bool :=
  ({ box with
      editor := box.editor.collapseSelection
      pointer := if endDrag then box.pointer.release else box.pointer
      focused := false },
    box.editor.hasSelection || box.focused)

/-- Carry out a command that does not write the clipboard. -/
def keepClipboard (clipboard : Clipboard) (r : Run (Box × Bool)) :
    Run (Box × Clipboard × Bool) := do
  let (box, dirty) ← r
  return (box, clipboard, dirty)

/-- Carry out a command, focus or not; the last component says whether something visible changed. -/
def execute (box : Box) (clipboard : Clipboard) : Command → Run (Box × Clipboard × Bool)
  | .insertText text => keepClipboard clipboard (box.insertAtCaret text)
  | .newline => keepClipboard clipboard (box.insertAtCaret ['\n'])
  | .tab => keepClipboard clipboard do
      let text ← box.tabText
      box.insertAtCaret text
  | .deleteRange start stop => keepClipboard clipboard (box.deleteRange start stop)
  | .backspace word => keepClipboard clipboard (box.backspace word)
  | .deleteForward word => keepClipboard clipboard (box.deleteForward word)
  | .move direction mods => keepClipboard clipboard (box.move direction mods)
  | .selectAll => return ({ box with editor := box.editor.selectAll }, clipboard, true)
  | .copy => box.copy clipboard
  | .cut => box.cut clipboard
  | .paste => keepClipboard clipboard (box.paste clipboard)
  | .undo => keepClipboard clipboard box.undo
  | .redo => keepClipboard clipboard box.redo
  | .mousePress x y time mods => keepClipboard clipboard (box.press x y time mods)
  | .mouseDrag x y => keepClipboard clipboard (box.drag x y)
  | .mouseRelease => return ({ box with pointer := box.pointer.release }, clipboard, false)
  | .wheel delta => keepClipboard clipboard (box.wheel delta)
  | .pageUp => keepClipboard clipboard (box.page false)
  | .pageDown => keepClipboard clipboard (box.page true)
  | .escape => return ((box.defocus false).1, clipboard, (box.defocus false).2)
  | .blur => return ((box.defocus true).1, clipboard, (box.defocus true).2)
  | .focus => return ({ box with focused := true }, clipboard, !box.focused)

/-- Apply a command. Keyboard commands are ignored without focus. -/
def dispatch (box : Box) (clipboard : Clipboard) (command : Command) :
    Run (Box × Clipboard × Reply) := do
  if command.needsFocus && !box.focused then
    reportCommand (.ignored command.name)
    return (box, clipboard, ⟨false, false⟩)
  let revision := box.editor.buffer.revision
  let (box, clipboard, dirty) ← box.execute clipboard command
  let textChanged := box.editor.buffer.revision != revision
  let box ← if textChanged then box.clampScroll else pure box
  let reply : Reply := ⟨dirty || textChanged, textChanged⟩
  reportCommand (.finished command.name reply.dirty textChanged box.editor.caret)
  return (box, clipboard, reply)

end Box

end EditBox
