import EditBox.Layout.Cache
import EditBox.Settings

/-!
# Options

What an edit box takes from the settings for its behaviour; the rest of them shapes its view.
-/

namespace EditBox

open EditBox.Layout

/-- Behaviour of an edit box. -/
structure Options where
  undoLimit : Nat
  multiClickMs : Nat
  tabSpaces : Nat
  wheelLines : Nat
  caretWidth : Nat
  blinkMs : Nat
  layout : LayoutOptions
  deriving DecidableEq, Repr

/-- Options of settings, which need not be normalized. -/
def Options.ofSettings (s : Settings) : Options where
  undoLimit := max s.editor.undoLimit 1
  multiClickMs := s.editor.multiClickMs
  tabSpaces := s.editor.tabSpaces
  wheelLines := s.scroll.wheelLines
  caretWidth := s.caret.width
  blinkMs := s.caret.blinkMs
  layout := ⟨s.layout.lineSpacing, max s.layout.minContentWidth 1⟩

end EditBox
