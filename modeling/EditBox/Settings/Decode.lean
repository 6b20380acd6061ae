import EditBox.Bounded
import EditBox.Settings
import EditBox.Toml.Document

/-!
# Settings in a document

A settings document has a section for each group of settings, and a section has a number for each
setting of its group. A section may also list its numbers in order, in brackets. Whatever is
missing takes its default, and keys that are not known are passed over.
-/

namespace EditBox.Settings

open EditBox.Toml

/-- Numbers of a section. -/
inductive Section where
  /-- With a key for each. -/
  | keyed (entries : Entries)
  /-- In the order of the settings. -/
  | listed (items : List Value)

namespace Section

/-- Section of a value. A moment in time is a section without known keys. -/
def ofValue? : Value → Option Section
  | .table _ entries => some (.keyed entries)
  | .array items => some (.listed items)
  | .tables items => some (.listed (items.map (.table .headed)))
  | .moment _ => some (.keyed [])
  | _ => none

/-- Whether what a section holds beside the keys `known` can be passed over. -/
def othersReadable (known : List String) : Section → Bool
  | keyed entries =>
      allEntriesRepresentable (entries.filter fun (k, _) ↦ !known.contains (String.ofList k))
  | listed _ => true

/-- Value of a setting, by its key or its place. -/
def find? (s : Section) (place : Nat) (key : String) : Option Value :=
  match s with
  | keyed entries => entries.lookup key.toList
  | listed items => items[place]?

/-- Number of a setting below `bound`, the default when it is missing. -/
def number? (s : Section) (bound place : Nat) (key : String) (default : Nat) : Option Nat :=
  match s.find? place key with
  | none => some default
  | some (.integer n) => if 0 ≤ n ∧ n < bound then some n.toNat else none
  | some _ => none

end Section

open Bounded

/-- Settings of editing. -/
def decodeEditor? (s : Section) : Option EditorSettings := do
  let d : EditorSettings := {}
  let undoLimit ← s.number? offsetBound 0 "undo_limit" d.undoLimit
  let multiClickMs ← s.number? offsetBound 1 "multi_click_ms" d.multiClickMs
  let tabSpaces ← s.number? offsetBound 2 "tab_spaces" d.tabSpaces
  if s.othersReadable ["undo_limit", "multi_click_ms", "tab_spaces"] then
    some ⟨undoLimit, multiClickMs, tabSpaces⟩
  else none

/-- Settings of the geometry. -/
def decodeLayout? (s : Section) : Option LayoutSettings := do
  let d : LayoutSettings := {}
  let padding ← s.number? pixelBound 0 "padding" d.padding
  let gutterWidth ← s.number? pixelBound 1 "gutter_width" d.gutterWidth
  let lineSpacing ← s.number? pixelBound 2 "line_spacing" d.lineSpacing
  let minContentWidth ← s.number? pixelBound 3 "min_content_width" d.minContentWidth
  if s.othersReadable ["padding", "gutter_width", "line_spacing", "min_content_width"] then
    some ⟨padding, gutterWidth, lineSpacing, minContentWidth⟩
  else none

/-- Settings of the caret. -/
def decodeCaret? (s : Section) : Option CaretSettings := do
  let d : CaretSettings := {}
  let blinkMs ← s.number? offsetBound 0 "blink_ms" d.blinkMs
  let width ← s.number? pixelBound 1 "width" d.width
  if s.othersReadable ["blink_ms", "width"] then some ⟨blinkMs, width⟩ else none

/-- Settings of scrolling. -/
def decodeScroll? (s : Section) : Option ScrollSettings := do
  let d : ScrollSettings := {}
  let wheelLines ← s.number? pixelBound 0 "wheel_lines" d.wheelLines
  if s.othersReadable ["wheel_lines"] then some ⟨wheelLines⟩ else none

/-- Group of settings in the section with a key, the default when it is missing. -/
def group? {α : Type} (root : Entries) (key : String) (decode : Section → Option α) (default : α) :
    Option α :=
  match root.lookup key.toList with
  | none => some default
  | some v => Section.ofValue? v >>= decode

/-- Settings of a document. -/
def decode? (root : Entries) : Option Settings := do
  let d : Settings := {}
  let editor ← group? root "editor" decodeEditor? d.editor
  let layout ← group? root "layout" decodeLayout? d.layout
  let caret ← group? root "caret" decodeCaret? d.caret
  let scroll ← group? root "scroll" decodeScroll? d.scroll
  if (Section.keyed root).othersReadable ["editor", "layout", "caret", "scroll"] then
    some ⟨editor, layout, caret, scroll⟩
  else none

/-- Settings of a text. -/
def parse? (src : List Char) : Option Settings := Document.parse? src >>= decode?

end EditBox.Settings
