import EditBox.Bounded
import EditBox.Cell

/-!
# Text measurers

A measurer gives the width of any text in pixels and the height of its glyphs. Layout knows nothing
else about fonts. A measurer is total when no text makes it fault; `Measure.ofWidth` makes one of
any function.
-/

namespace EditBox

/-- Pixel widths of texts and the height of a glyph. -/
structure Measure where
  width : List Char → Except Fault Nat
  glyphHeight : Nat

/-- Glyph height of a measurer that does not say otherwise. -/
def defaultGlyphHeight : Nat := 16

namespace Measure

/-- Measurer of a plain function, with the usual glyph height. -/
def ofWidth (f : List Char → Nat) : Measure := ⟨fun text ↦ .ok (f text), defaultGlyphHeight⟩

/-- Fixed pitch by cells: a wide character counts twice, a combining mark not at all. -/
def cells (cellWidth glyphHeight : Nat) : Measure :=
  ⟨fun text ↦ Bounded.mul Bounded.pixelBound (Bounded.toPixel (Cell.width text)) cellWidth,
    glyphHeight⟩

/-- Fixed pitch of eight pixels, for layouts that have no measurer of their own. -/
def fallback : Measure := cells 8 defaultGlyphHeight

/-- Largest pixel length. -/
def maxPixel : Nat := Bounded.pixelBound - 1

/-- The same advance for every character. A measurer of the host: unlike `cells` it never faults,
and gives the largest pixel length for a text that is longer. -/
def perChar (advance : Nat) : Measure := ofWidth fun text ↦ min (text.length * advance) maxPixel

/-- Sum of the numbers that a function gives for the characters of a text. -/
def sumOver (f : Char → Nat) : List Char → Nat
  | [] => 0
  | c :: rest => f c + sumOver f rest

/-- The same advance for every byte of the text in UTF-8, up to the largest pixel length. -/
def perByte (advance : Nat) : Measure :=
  ofWidth fun text ↦ min (sumOver Char.utf8Size text * advance) maxPixel

/-- Advance of a character in a proportional font. -/
def proportionalAdvance (c : Char) : Nat :=
  if c ∈ ['i', 'l', '.', ',', ' '] then 4
  else if c ∈ ['m', 'w', 'M', 'W'] then 15
  else if 0x0300 ≤ c.toNat ∧ c.toNat ≤ 0x036F then 0
  else 9

/-- Proportional font without kerning. -/
def proportional : Measure := ofWidth (sumOver proportionalAdvance)

/-- Number of pairs `fi` in a text. -/
def ligatures : List Char → Nat
  | 'f' :: 'i' :: rest => ligatures rest + 1
  | _ :: rest => ligatures rest
  | [] => 0

/-- Font with a ligature narrower than its first letter, so that a longer prefix of a text may be
narrower than a shorter one. -/
def ligating : Measure := ofWidth fun text ↦ 10 * text.length - 14 * ligatures text

end Measure

end EditBox
