import EditBox.Toml.Moment
import EditBox.Toml.Quoted
import EditBox.Toml.Table

/-!
# Documents

A document is a list of statements, one to a line: headers of tables and entries of the table last
opened. `Document.parse?` gives the table of the whole document, or nothing when the text is no
document or contradicts itself.
-/

namespace EditBox.Toml

/-- Header or entry. A path is a dotted key up to its last part. -/
inductive Statement where
  | header (path : List Key) (key : Key)
  | elementHeader (path : List Key) (key : Key)
  | entry (path : List Key) (key : Key) (value : Value)

/-- Greatest number of brackets and braces around a value. -/
def maxDepth : Nat := 80

/-- Blanks within a line. -/
def isBlank (c : Char) : Bool := c == ' ' || c == '\t'

/-- Text after blanks. -/
def skipBlanks (cs : List Char) : List Char := cs.dropWhile isBlank

/-- Text after blanks, line breaks and comments. -/
def skipLines? (inComment : Bool) : List Char → Option (List Char)
  | [] => some []
  | '\n' :: rest => skipLines? false rest
  | '\r' :: '\n' :: rest => skipLines? false rest
  | c :: rest =>
      if inComment then if isTextChar c then skipLines? true rest else none
      else if isBlank c then skipLines? false rest
      else if c = '#' then skipLines? true rest
      else some (c :: rest)

/-- Text after the end of a line, before which only blanks and a comment may stand. -/
def endOfLine? (inComment : Bool) : List Char → Option (List Char)
  | [] => some []
  | '\n' :: rest => some rest
  | '\r' :: '\n' :: rest => some rest
  | c :: rest =>
      if inComment then if isTextChar c then endOfLine? true rest else none
      else if isBlank c then endOfLine? false rest
      else if c = '#' then endOfLine? true rest
      else none

/-- Characters of keys without quotes. -/
def isBareKeyChar (c : Char) : Bool := c.isAlphanum || c == '_' || c == '-'

/-- One part of a key. -/
def keyPart? (cs : List Char) : Option (Key × List Char) :=
  match quotedLine? cs with
  | some found => some found
  | none =>
      let bare := cs.takeWhile isBareKeyChar
      if bare.isEmpty then none else some (bare, cs.drop bare.length)

/-- Greatest number of parts of a dotted key. -/
def maxParts : Nat := 80

/-- Path and last part of a dotted key of at most `parts` parts, with the text after it. -/
def dottedKey? : (parts : Nat) → List Char → Option (List Key × Key × List Char)
  | 0, _ => none
  | parts + 1, cs => do
      let (part, rest) ← keyPart? (skipBlanks cs)
      match skipBlanks rest with
      | '.' :: rest => do
          let (path, key, rest) ← dottedKey? parts rest
          return (part :: path, key, rest)
      | rest => return ([], part, rest)

/-- Dotted key. -/
def key? (cs : List Char) : Option (List Key × Key × List Char) := dottedKey? maxParts cs

/-- Characters of words without quotes. -/
def isWordChar (c : Char) : Bool := !("=,[]\x7b\x7d \t#\r\n".toList.contains c)

/-- Whether a word goes on after blanks. -/
def wordContinues (cs : List Char) : Bool :=
  match skipBlanks cs with
  | c :: _ => isWordChar c && c != '.' && c != '"' && c != '\''
  | [] => false

/-- Word at the start of a text, and what follows it. A word may hold blanks, as a date and a time
do. -/
def splitWord : List Char → List Char × List Char
  | [] => ([], [])
  | c :: rest =>
      if isWordChar c || (isBlank c && wordContinues rest) then
        let (word, rest) := splitWord rest
        (c :: word, rest)
      else ([], c :: rest)

/-- Value of a word without quotes. -/
def wordValue? (word : List Char) : Option Value :=
  if word = "true".toList then some (.boolean true)
  else if word = "false".toList then some (.boolean false)
  else
    match integer? word with
    | some n => some (.integer n)
    | none =>
        match decimal? word with
        | some d => some (.decimal (some d))
        | none =>
            if isSpecialDecimal word then some (.decimal none)
            else if isMoment word then some (.moment word)
            else if resemblesInteger word then some .malformed
            else none

/-- Value without brackets: quoted text or a word. -/
def scalar? (cs : List Char) : Option (Value × List Char) :=
  match cs with
  | '"' :: _ | '\'' :: _ => (quoted? cs).map fun (text, rest) ↦ (.text text, rest)
  | _ =>
      let (word, rest) := splitWord cs
      (wordValue? word).map (·, rest)

/-- Items of an array up to its closing bracket, at most `count` of them. -/
def arrayItems? (item : List Char → Option (Value × List Char)) :
    (count : Nat) → List Char → Option (List Value × List Char)
  | 0, _ => none
  | count + 1, cs => do
      match ← skipLines? false cs with
      | ']' :: rest => return ([], rest)
      | cs =>
          let (v, rest) ← item cs
          match ← skipLines? false rest with
          | ',' :: rest => do
              let (items, rest) ← arrayItems? item count rest
              return (v :: items, rest)
          | ']' :: rest => return ([v], rest)
          | _ => none

/-- Key, equals sign and value, with the text after them; `skip?` passes over what may stand on
either side of the sign. -/
def assignment? (skip? : List Char → Option (List Char))
    (item : List Char → Option (Value × List Char)) (cs : List Char) :
    Option (List Key × Key × Value × List Char) := do
  let (path, key, rest) ← key? cs
  match ← skip? rest with
  | '=' :: rest => do
      let (v, rest) ← item (← skip? rest)
      return (path, key, v, rest)
  | _ => none

/-- Entries of a table in braces up to the closing one, added to `entries`; at most `count` of
them. -/
def inlineEntries? (item : List Char → Option (Value × List Char)) (entries : Entries) :
    (count : Nat) → List Char → Option (Entries × List Char)
  | 0, _ => none
  | count + 1, cs => do
      match ← skipLines? false cs with
      | '}' :: rest => return (entries, rest)
      | cs =>
          let (path, key, v, rest) ← assignment? (skipLines? false) item cs
          let entries ← entries.assign? key v path
          match ← skipLines? false rest with
          | ',' :: rest => inlineEntries? item entries count rest
          | '}' :: rest => return (entries, rest)
          | _ => none

/-- Value with at most `depth` brackets and braces around its parts. -/
def value? : (depth : Nat) → List Char → Option (Value × List Char)
  | 0, cs =>
      match cs with
      | '[' :: _ | '\x7b' :: _ => none
      | _ => scalar? cs
  | depth + 1, cs =>
      match cs with
      | '[' :: rest =>
          (arrayItems? (value? depth) (rest.length + 1) rest).map fun (items, rest) ↦
            (.array items, rest)
      | '\x7b' :: rest =>
          (inlineEntries? (value? depth) [] (rest.length + 1) rest).map fun (entries, rest) ↦
            (.table .braced entries, rest)
      | _ => scalar? cs

/-- Statement at the start of a line, with the text after it. -/
def statement? (cs : List Char) : Option (Statement × List Char) :=
  match cs with
  | '[' :: '[' :: rest => do
      let (path, key, rest) ← key? rest
      match rest with
      | ']' :: ']' :: rest => return (.elementHeader path key, rest)
      | _ => none
  | '[' :: rest => do
      let (path, key, rest) ← key? rest
      match rest with
      | ']' :: rest => return (.header path key, rest)
      | _ => none
  | cs => do
      let (path, key, v, rest) ← assignment? (some ∘ skipBlanks) (value? maxDepth) cs
      return (.entry path key v, rest)

/-- Statements of a text, at most `count` of them. -/
def statements? : (count : Nat) → List Char → Option (List Statement)
  | 0, _ => none
  | count + 1, cs => do
      match ← skipLines? false cs with
      | [] => return []
      | cs => do
          let (s, rest) ← statement? cs
          let rest ← endOfLine? false rest
          let more ← statements? count rest
          return s :: more

/-- Document under construction: all entries, and the path of the table last opened. -/
structure Document where
  root : Entries
  current : List Key

namespace Document

/-- Document without statements. -/
def empty : Document := ⟨[], []⟩

/-- Document with one more statement. -/
def extend? (d : Document) : Statement → Option Document
  | .header path key => do
      let root ← d.root.change? (Entries.openTable? key) path
      return ⟨root, path ++ [key]⟩
  | .elementHeader path key => do
      let root ← d.root.change? (Entries.openElement? key) path
      return ⟨root, path ++ [key]⟩
  | .entry path key value => do
      let root ← d.root.change? (Entries.assign? key value path) d.current
      return { d with root := root }

/-- Text without a byte order mark at its start. -/
def dropMark : List Char → List Char
  | '\uFEFF' :: rest => rest
  | cs => cs

/-- Entries of the document that a text is. -/
def parse? (src : List Char) : Option Entries := do
  let src := dropMark src
  let statements ← statements? (src.length + 1) src
  let d ← statements.foldlM extend? empty
  return d.root

end Document

end EditBox.Toml
