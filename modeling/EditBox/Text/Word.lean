import EditBox.Unicode.Alphanumeric
import EditBox.Unicode.WhiteSpace

/-!
# Words

Which characters make up words, how a line splits into runs of word and other characters, and the
scans that word navigation and word selection rest on. A scan works on one line, a list of
characters, and a column in it; a column past the end counts as the end.
-/

namespace EditBox.Text

open EditBox.Unicode

/-- Letters, numbers and the underscore make up words. -/
def isWordChar (c : Char) : Bool :=
  if c.toNat < 128 then c.isAlphanum || c == '_' else alphanumeric.contains c.toNat

/-- White space of every script. -/
def isSpace (c : Char) : Bool := whiteSpace.contains c.toNat

/-- Maximal runs of word characters and of other characters, in order. -/
def splitTokens (line : List Char) : List (List Char) :=
  line.splitBy fun a b ↦ isWordChar a == isWordChar b

/-- Column reached leftwards from `col` past white space and then past word characters. -/
def scanWordBack (line : List Char) (col : Nat) : Nat :=
  (((line.take col).reverse.dropWhile isSpace).dropWhile isWordChar).length

/-- Column reached rightwards from `col` past white space and then past word characters. -/
def scanWordForward (line : List Char) (col : Nat) : Nat :=
  line.length - (((line.drop col).dropWhile isSpace).dropWhile isWordChar).length

/-- Word characters around `col`, as start and end column. A column at or past the end of a line
stands for its last character; an empty line has an empty span. -/
def wordBounds (line : List Char) (col : Nat) : Nat × Nat :=
  if line.isEmpty then (0, 0)
  else
    let pos := min col (line.length - 1)
    (((line.take pos).reverse.dropWhile isWordChar).length,
      line.length - ((line.drop pos).dropWhile isWordChar).length)

end EditBox.Text
