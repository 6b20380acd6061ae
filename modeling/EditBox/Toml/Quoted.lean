import EditBox.Toml.Number

/-!
# Quoted text

Text between double quotes with escapes, or between single quotes without. Three quotes open a text
that runs over several lines; it ends at the next three, which one or two more quotes of the text
may precede. Control characters other than tabs and the line breaks of such a text are refused.
-/

namespace EditBox.Toml

/-- Characters that may stand in a line. -/
def isTextChar (c : Char) : Bool := c == '\t' || (0x20 ≤ c.toNat && c.toNat != 0x7F)

/-- Escapes of one letter. -/
def letterEscape? : Char → Option Char
  | 'b' => some '\x08'
  | 't' => some '\t'
  | 'n' => some '\n'
  | 'f' => some '\x0c'
  | 'r' => some '\r'
  | 'e' => some '\x1b'
  | '"' => some '"'
  | '\\' => some '\\'
  | _ => none

/-- Value of hexadecimal digits. -/
def hex? (digits : List Char) : Option Nat :=
  digits.foldlM (fun value c ↦ (digit? 16 c).map (16 * value + ·)) 0

/-- Character with a hexadecimal code point. -/
def hexChar? (digits : List Char) : Option Char := do
  let n ← hex? digits
  if n.isValidChar then some (Char.ofNat n) else none

/-- Number of hexadecimal digits after an escape letter. -/
def hexDigits : Char → Nat
  | 'x' => 2
  | 'u' => 4
  | 'U' => 8
  | _ => 0

/-- Character of an escape, from the letter after the backslash on, and the length of the escape
beyond that letter. -/
def escape? (letter : Char) (rest : List Char) : Option (Char × Nat) :=
  match hexDigits letter with
  | 0 => (letterEscape? letter).map (·, 0)
  | count =>
      if count ≤ rest.length then (hexChar? (rest.take count)).map (·, count) else none

/-- Put a character in front of a text that was read. -/
def prependChar (c : Char) (r : Option (List Char × List Char)) :
    Option (List Char × List Char) :=
  r.map fun (text, rest) ↦ (c :: text, rest)

/-- Text up to a double quote, and what follows the quote. The first `skip` characters belong to an
escape already read. -/
def basicText (skip : Nat) : List Char → Option (List Char × List Char)
  | [] => none
  | c :: rest =>
      if 0 < skip then basicText (skip - 1) rest
      else if c = '"' then some ([], rest)
      else if c = '\\' then
        match rest with
        | [] => none
        | letter :: after =>
            match escape? letter after with
            | some (d, count) => prependChar d (basicText (count + 1) rest)
            | none => none
      else if isTextChar c then prependChar c (basicText 0 rest)
      else none

/-- Text up to a single quote, and what follows the quote. -/
def literalText : List Char → Option (List Char × List Char)
  | [] => none
  | c :: rest =>
      if c = '\'' then some ([], rest)
      else if isTextChar c then prependChar c (literalText rest)
      else none

/-- End of a text over several lines: its last quotes and what follows the closing three. -/
def closing? (quote : Char) (cs : List Char) : Option (List Char × List Char) :=
  let count := min 5 (cs.takeWhile (· == quote)).length
  if 3 ≤ count then some (List.replicate (count - 3) quote, cs.drop count) else none

/-- Whether only blanks stand before the next line break. -/
def endsLine (cs : List Char) : Bool :=
  match cs.dropWhile fun c ↦ c == ' ' || c == '\t' with
  | '\n' :: _ | '\r' :: '\n' :: _ => true
  | _ => false

/-- Text over several lines up to three double quotes. The first `skip` characters belong to an
escape already read, and with `folding` white space is skipped after a backslash at the end of a
line. -/
def basicLines (skip : Nat) (folding : Bool) : List Char → Option (List Char × List Char)
  | [] => none
  | c :: rest =>
      if 0 < skip then basicLines (skip - 1) folding rest
      else if folding && (c == ' ' || c == '\t' || c == '\n') then basicLines 0 true rest
      else if c = '\r' then
        if rest.head? = some '\n' then
          if folding then basicLines 0 true rest else prependChar c (basicLines 0 false rest)
        else none
      else
        match closing? '"' (c :: rest) with
        | some found => some found
        | none =>
            if c = '\\' then
              if endsLine rest then basicLines 0 true rest
              else
                match rest with
                | [] => none
                | letter :: after =>
                    match escape? letter after with
                    | some (d, count) => prependChar d (basicLines (count + 1) false rest)
                    | none => none
            else if c = '\n' || isTextChar c then prependChar c (basicLines 0 false rest)
            else none

/-- Text over several lines up to three single quotes. -/
def literalLines : List Char → Option (List Char × List Char)
  | [] => none
  | c :: rest =>
      if c = '\r' then
        if rest.head? = some '\n' then prependChar c (literalLines rest) else none
      else
        match closing? '\'' (c :: rest) with
        | some found => some found
        | none =>
            if c = '\n' || isTextChar c then prependChar c (literalLines rest) else none

/-- Text without a line break at its start. -/
def dropFirstBreak : List Char → List Char
  | '\n' :: rest => rest
  | '\r' :: '\n' :: rest => rest
  | cs => cs

/-- Quoted text in one line. -/
def quotedLine? : List Char → Option (List Char × List Char)
  | '"' :: rest => basicText 0 rest
  | '\'' :: rest => literalText rest
  | _ => none

/-- Quoted text in one line or several. -/
def quoted? : List Char → Option (List Char × List Char)
  | '"' :: '"' :: '"' :: rest => basicLines 0 false (dropFirstBreak rest)
  | '\'' :: '\'' :: '\'' :: rest => literalLines (dropFirstBreak rest)
  | cs => quotedLine? cs

end EditBox.Toml
