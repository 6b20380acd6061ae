import EditBox.Editor

/-!
# Editor operations

The operations of an editor as data, with one function that carries any of them out. A history of
an editor is a list of operations.
-/

namespace EditBox.Editor

/-- Operation on an editor. -/
inductive Operation where
  | setText (text : List Char)
  | insertText (text : List Char)
  | deleteRange (a b : Nat)
  | deleteSelection
  | backspace
  | deleteForward
  | deleteWordBack
  | deleteWordForward
  | moveCaret (target : Nat) (shift : Bool)
  | selectRange (anchor caret : Nat)
  | selectAll
  | collapseSelection
  | undo
  | redo
  | selectedText
  | hasSelection
  | clampOffset (offset : Nat)
  | markSaved
  deriving DecidableEq, Repr

/-- Answer of an operation. -/
inductive Response where
  | nothing
  | flag (b : Bool)
  | text (t : Option (List Char))
  | offset (n : Nat)
  deriving DecidableEq, Repr

/-- Carry out an operation. -/
def apply (e : Editor) : Operation → Run (Editor × Response)
  | .setText text => return (← e.setText text, .nothing)
  | .insertText text => return (← e.insertText text, .nothing)
  | .deleteRange a b => answer (e.deleteRange a b)
  | .deleteSelection => answer e.deleteSelection
  | .backspace => answer e.backspace
  | .deleteForward => answer e.deleteForward
  | .deleteWordBack => answer e.deleteWordBack
  | .deleteWordForward => answer e.deleteWordForward
  | .moveCaret target shift => return (e.moveCaret target shift, .nothing)
  | .selectRange anchor caret => return (e.selectRange anchor caret, .nothing)
  | .selectAll => return (e.selectAll, .nothing)
  | .collapseSelection => return (e.collapseSelection, .nothing)
  | .undo => answer e.undo
  | .redo => answer e.redo
  | .selectedText => return (e, .text (← e.selectedText))
  | .hasSelection => return (e, .flag e.hasSelection)
  | .clampOffset offset => return (e, .offset (e.clampOffset offset))
  | .markSaved => return (e.markSaved, .nothing)
where
  /-- Answer of an operation that says whether it did something. -/
  answer (r : Run (Editor × Bool)) : Run (Editor × Response) := do
    let (e, done) ← r
    return (e, .flag done)

/-- Carry out operations in order. -/
def applyAll (e : Editor) : List Operation → Run Editor
  | [] => return e
  | op :: ops => do
      let (e, _) ← e.apply op
      e.applyAll ops

end EditBox.Editor
