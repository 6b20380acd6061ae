import EditBox.Text.Buffer
import EditBox.Text.Word

/-!
# Caret motion in the text

Where the caret goes from an offset by characters, words, lines, or to the ends of the buffer, and
which span a double or triple click selects. Nothing here changes the buffer. Motion between the
rows on screen needs their layout and is found in `EditBox.Command`.
-/

namespace EditBox.Text.Motion

/-- One character to the left, at the start of the buffer nowhere. -/
def left (caret : Nat) : Nat := caret - 1

/-- One character to the right, at most to the end of the buffer. -/
def right (b : Buffer) (caret : Nat) : Except Fault Nat := do
  let next ← Bounded.add Bounded.offsetBound caret 1
  return min next b.length

/-- Where an offset lies: its line, the start of that line, and the column in it. -/
structure Place where
  line : Nat
  start : Nat
  column : Nat
  deriving DecidableEq, Repr

/-- Place of an offset within the buffer. -/
def place (b : Buffer) (offset : Nat) : Except Fault Place := do
  let line := b.lineOf offset
  let start ← b.lineStart line
  let column ← Bounded.sub offset start
  return ⟨line, start, column⟩

/-- Previous word boundary: past white space and then past a word. At the start of a line it is the
end of the line before; where the scan does not move, one character to the left. -/
def wordLeft (b : Buffer) (caret : Nat) : Except Fault Nat := do
  let caret := min caret b.length
  if caret = 0 then return 0
  let p ← place b caret
  if p.column = 0 then
    let previous ← Bounded.sub p.line 1
    b.lineEnd previous
  else
    let target := p.start + scanWordBack (← b.lineText p.line) p.column
    if target = caret then Bounded.sub caret 1 else return target

/-- Next word boundary: past white space and then past a word. Where the scan does not move, as at
the end of a line, one character to the right. -/
def wordRight (b : Buffer) (caret : Nat) : Except Fault Nat := do
  if b.length ≤ caret then return b.length
  let p ← place b caret
  let target := p.start + scanWordForward (← b.lineText p.line) p.column
  return if target = caret then caret + 1 else target

/-- Start of the white space and word before an offset, within its line. -/
def wordScanBack (b : Buffer) (caret : Nat) : Except Fault Nat := do
  let p ← place b (min caret b.length)
  return p.start + scanWordBack (← b.lineText p.line) p.column

/-- End of the white space and word after an offset, within its line. -/
def wordScanForward (b : Buffer) (caret : Nat) : Except Fault Nat := do
  let p ← place b (min caret b.length)
  return p.start + scanWordForward (← b.lineText p.line) p.column

/-- Start of the line that holds an offset. -/
def lineHome (b : Buffer) (caret : Nat) : Except Fault Nat :=
  b.lineStart (b.lineOf (min caret b.length))

/-- End of the line that holds an offset, before its line feed. -/
def lineEnd (b : Buffer) (caret : Nat) : Except Fault Nat :=
  b.lineEnd (b.lineOf (min caret b.length))

/-- Start of the buffer. -/
def bufferHome : Nat := 0

/-- End of the buffer. -/
def bufferEnd (b : Buffer) : Nat := b.length

/-- Word under an offset; on an empty line the empty span at its start. -/
def wordAt (b : Buffer) (offset : Nat) : Except Fault (Nat × Nat) := do
  let p ← place b (min offset b.length)
  let (first, last) := wordBounds (← b.lineText p.line) p.column
  return (p.start + first, p.start + last)

/-- Line under an offset, its line feed not included. -/
def lineAt (b : Buffer) (offset : Nat) : Except Fault (Nat × Nat) := do
  let line := b.lineOf (min offset b.length)
  let start ← b.lineStart line
  let stop ← b.lineEnd line
  return (start, stop)

end EditBox.Text.Motion
