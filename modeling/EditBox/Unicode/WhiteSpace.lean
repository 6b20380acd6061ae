import EditBox.Unicode.RangeSet

/-!
# White space

Code points with the `White_Space` property, as bounds of their ranges.
-/

namespace EditBox.Unicode

/-- The twenty-five white space characters. -/
def whiteSpace : RangeSet := ⟨#[
  0x0009, 0x000E, 0x0020, 0x0021, 0x0085, 0x0086, 0x00A0, 0x00A1, 0x1680, 0x1681, 0x2000, 0x200B,
  0x2028, 0x202A, 0x202F, 0x2030, 0x205F, 0x2060, 0x3000, 0x3001]⟩

end EditBox.Unicode
