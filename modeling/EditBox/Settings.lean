import EditBox.Event
import EditBox.History

/-!
# Settings

The choices a settings file can make, with their defaults. A limit of zero undo entries or a least
content width of zero cannot be honoured; `Settings.normalize` raises them to one and
`Settings.normalizeEvents` says which it raised.
-/

namespace EditBox

/-- Settings of editing. -/
structure EditorSettings where
  undoLimit : Nat := defaultUndoLimit
  /-- Longest time between presses that count as a double or triple click. -/
  multiClickMs : Nat := 400
  tabSpaces : Nat := 4
  deriving DecidableEq, Repr

/-- Settings of the geometry, in pixels. -/
structure LayoutSettings where
  padding : Nat := 8
  gutterWidth : Nat := 48
  lineSpacing : Nat := 4
  minContentWidth : Nat := 10
  deriving DecidableEq, Repr

/-- Settings of the caret. -/
structure CaretSettings where
  blinkMs : Nat := 530
  width : Nat := 2
  deriving DecidableEq, Repr

/-- Settings of scrolling. -/
structure ScrollSettings where
  /-- Rows for each notch of the wheel. -/
  wheelLines : Nat := 3
  deriving DecidableEq, Repr

/-- All settings. -/
structure Settings where
  editor : EditorSettings := {}
  layout : LayoutSettings := {}
  caret : CaretSettings := {}
  scroll : ScrollSettings := {}
  deriving DecidableEq, Repr

namespace Settings

/-- Settings with the zeros raised that cannot be honoured. -/
def normalize (s : Settings) : Settings :=
  { s with
    editor := { s.editor with undoLimit := max s.editor.undoLimit 1 }
    layout := { s.layout with minContentWidth := max s.layout.minContentWidth 1 } }

/-- Which settings `normalize` raises. -/
def normalizeEvents (s : Settings) : List SettingsEvent :=
  (if s.editor.undoLimit = 0 then [.undoLimitRaised 0 1] else []) ++
    if s.layout.minContentWidth = 0 then [.minContentWidthRaised 0 1] else []

end Settings

end EditBox
