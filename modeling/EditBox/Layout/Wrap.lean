import EditBox.Measure
import EditBox.Text.Buffer
import EditBox.Text.Word

/-!
# Wrapping

Lines are broken greedily into rows. A line is split into word and separator tokens, and tokens go
onto a row while the row measures no more than the width. A token too wide for a row of its own is
cut after the longest run of its characters that grows to fit, at least one character. Separators
are kept, so the rows of a line put together give the line back.
-/

namespace EditBox.Layout

open EditBox.Text

/-- One visual row: the line it belongs to, its first column in that line, and its text. -/
structure Row where
  line : Nat
  start : Nat
  text : List Char
  deriving DecidableEq, Repr

namespace Row

/-- Number of characters. -/
def length (r : Row) : Nat := r.text.length

/-- Column after the last character. -/
def stop (r : Row) : Nat := r.start + r.length

end Row

/-- Number of leading pieces that fit on a row which already holds `row`: pieces are added one by
one until the row measures more than `width`. -/
def fittingPieces (m : Measure) (width : Nat) (row : List Char) :
    List (List Char) → Except Fault Nat
  | [] => .ok 0
  | piece :: rest => do
      let extended := row ++ piece
      if (← m.width extended) ≤ width then
        let more ← fittingPieces m width extended rest
        return more + 1
      else return 0

/-- Characters and tokens still to be laid out. -/
def remaining : List (List Char) → Nat
  | [] => 0
  | token :: rest => token.length + 1 + remaining rest

private theorem remaining_drop_le (ts : List (List Char)) (n : Nat) :
    remaining (ts.drop n) ≤ remaining ts := by
  induction ts generalizing n with
  | nil => simp
  | cons t ts ih =>
    cases n with
    | zero => simp
    | succ n => exact Nat.le_trans (ih n) (Nat.le_add_left ..)

private theorem remaining_drop_lt (t : List Char) (ts : List (List Char)) (n : Nat) :
    remaining ((t :: ts).drop (n + 1)) < remaining (t :: ts) := by
  have := remaining_drop_le ts n
  simp only [List.drop_succ_cons, remaining]
  omega

/-- Rows of the tokens of a line from column `col` on. A token that does not fit on an empty row is
cut after as many characters as fit, at least one. -/
def wrapTokens (m : Measure) (width line col : Nat) (tokens : List (List Char)) :
    Except Fault (List Row) :=
  match tokens with
  | [] => .ok []
  | token :: rest => do
      match ← fittingPieces m width [] (token :: rest) with
      | 0 =>
          let cut := max 1 (← fittingPieces m width [] (token.map ([·])))
          let row : Row := ⟨line, col, token.take cut⟩
          if cut < token.length then
            let rows ← wrapTokens m width line row.stop (token.drop cut :: rest)
            return row :: rows
          else
            let rows ← wrapTokens m width line row.stop rest
            return row :: rows
      | more + 1 =>
          let row : Row := ⟨line, col, ((token :: rest).take (more + 1)).flatten⟩
          let rows ← wrapTokens m width line row.stop ((token :: rest).drop (more + 1))
          return row :: rows
termination_by remaining tokens
decreasing_by
  · simp [remaining]; omega
  · simp [remaining]
  · exact remaining_drop_lt token rest more

/-- Rows of one line; an empty line has one empty row. -/
def wrapLine (m : Measure) (width line : Nat) (text : List Char) : Except Fault (List Row) :=
  if text.isEmpty then .ok [⟨line, 0, []⟩] else wrapTokens m width line 0 (splitTokens text)

/-- Rows of `count` lines from `line` on. -/
def wrapLines (m : Measure) (width : Nat) (b : Buffer) (line : Nat) :
    (count : Nat) → Except Fault (List Row)
  | 0 => .ok []
  | count + 1 => do
      let text ← b.lineText line
      let rows ← wrapLine m width line text
      let more ← wrapLines m width b (line + 1) count
      return rows ++ more

/-- Rows of a buffer, wrapped to the content width or the least width, whichever is larger.
Without a measurer the whole text is one row. -/
def wrapBuffer (b : Buffer) (contentWidth : Nat) (measure : Option Measure) (minWidth : Nat) :
    Except Fault (List Row) :=
  match measure with
  | none => .ok [⟨0, 0, b.chars⟩]
  | some m => wrapLines m (max contentWidth minWidth) b 0 b.lineCount

end EditBox.Layout
