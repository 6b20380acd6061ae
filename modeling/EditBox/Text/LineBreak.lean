/-!
# Line breaks

Text enters the buffer with line feeds as its only line breaks. `normalize` turns each carriage
return, with the line feed that follows it if there is one, into a line feed; `NormalizedText.of`
adds which style of break the input used most.
-/

namespace EditBox.Text

/-- Style of a line break. -/
inductive LineEnding where
  | lf | crlf | cr
  deriving DecidableEq, Repr

/-- Characters of a line break. -/
def LineEnding.chars : LineEnding → List Char
  | lf => ['\n']
  | crlf => ['\r', '\n']
  | cr => ['\r']

/-- The same text with line feeds as its only line breaks. -/
def normalize : List Char → List Char
  | [] => []
  | '\r' :: '\n' :: rest => '\n' :: normalize rest
  | '\r' :: rest => '\n' :: normalize rest
  | c :: rest => c :: normalize rest

/-- No carriage return is left. -/
theorem cr_notMem_normalize (text : List Char) : '\r' ∉ normalize text := by
  fun_induction normalize text with
  | case1 => simp
  | case2 rest ih => simp [ih]
  | case3 rest _ ih => simp [ih]
  | case4 c rest _ hc ih => simp [ih, Ne.symm hc]

/-- A text without carriage returns is kept. -/
theorem normalize_eq_self {text : List Char} (h : '\r' ∉ text) : normalize text = text := by
  fun_induction normalize text with
  | case1 => rfl
  | case2 rest ih => simp at h
  | case3 rest _ ih => simp at h
  | case4 c rest _ _ ih => rw [ih fun hr ↦ h (List.mem_cons_of_mem c hr)]

/-- Styles of the line breaks of a text, in order; a carriage return and the line feed after it
are one break. -/
def lineBreaks : List Char → List LineEnding
  | [] => []
  | '\r' :: '\n' :: rest => .crlf :: lineBreaks rest
  | '\r' :: rest => .cr :: lineBreaks rest
  | '\n' :: rest => .lf :: lineBreaks rest
  | _ :: rest => lineBreaks rest

/-- Most frequent of some styles; of equally frequent ones `crlf` comes first, then `lf`. -/
def dominant (styles : List LineEnding) : LineEnding :=
  let crlf := styles.count .crlf
  let lf := styles.count .lf
  let cr := styles.count .cr
  if 0 < crlf ∧ lf ≤ crlf ∧ cr ≤ crlf then .crlf
  else if cr ≤ lf then .lf
  else .cr

/-- Text as it enters the buffer, and what its line breaks looked like before. -/
structure NormalizedText where
  text : List Char
  /-- Style that was most frequent. -/
  style : LineEnding
  hadTrailingNewline : Bool
  /-- More than one style was present. -/
  mixed : Bool
  deriving DecidableEq, Repr

/-- Normalized text of an input. -/
def NormalizedText.of (input : List Char) : NormalizedText :=
  let styles := lineBreaks input
  { text := normalize input
    style := dominant styles
    hadTrailingNewline := input.getLast? == some '\n' || input.getLast? == some '\r'
    mixed := 1 < ([LineEnding.crlf, .lf, .cr].filter (styles.contains ·)).length }

end EditBox.Text
