import EditBox.Toml.Value

/-!
# Numbers

Integers are decimal with an optional sign and without leading zeros, or hexadecimal, octal or
binary without sign. Decimals have a fraction, an exponent or both, or are the words for infinity
and for no number. A single underscore may stand between two digits.

Some words begin like an integer and are none, such as `0x` and `1_a`. They are told from other
words because a document may hold them where nobody reads them.
-/

namespace EditBox.Toml

/-- Value of a digit in a base up to 16. -/
def digit? (base : Nat) (c : Char) : Option Nat :=
  let value :=
    if '0' ≤ c ∧ c ≤ '9' then c.toNat - '0'.toNat
    else if 'a' ≤ c ∧ c ≤ 'f' then c.toNat - 'a'.toNat + 10
    else if 'A' ≤ c ∧ c ≤ 'F' then c.toNat - 'A'.toNat + 10
    else base
  if value < base then some value else none

/-- Value of digits that continue `value`; an underscore needs a digit on both sides. -/
def groupedFrom? (base value : Nat) (afterDigit : Bool) : List Char → Option Nat
  | [] => if afterDigit then some value else none
  | '_' :: rest => if afterDigit then groupedFrom? base value false rest else none
  | c :: rest => do
      let d ← digit? base c
      groupedFrom? base (base * value + d) true rest

/-- Value of a number without sign. -/
def grouped? (base : Nat) (digits : List Char) : Option Nat := groupedFrom? base 0 false digits

/-- Value of a decimal number without sign and without leading zeros. -/
def unpadded? : List Char → Option Nat
  | ['0'] => some 0
  | '0' :: _ => none
  | digits => grouped? 10 digits

/-- Sign of a number and what follows it; `true` for a minus. -/
def splitSign : List Char → Option Bool × List Char
  | '+' :: rest => (some false, rest)
  | '-' :: rest => (some true, rest)
  | cs => (none, cs)

/-- Integer. -/
def integer? (word : List Char) : Option Int :=
  match word with
  | '0' :: 'x' :: digits => (grouped? 16 digits).map Int.ofNat
  | '0' :: 'o' :: digits => (grouped? 8 digits).map Int.ofNat
  | '0' :: 'b' :: digits => (grouped? 2 digits).map Int.ofNat
  | _ =>
      let (sign, digits) := splitSign word
      (unpadded? digits).map fun n ↦ if sign = some true then -Int.ofNat n else Int.ofNat n

/-- Whether every underscore stands between two digits, be they hexadecimal. -/
def underscoresFit (previous : Char) : List Char → Bool
  | [] => previous != '_'
  | c :: rest =>
      (if c = '_' then (digit? 16 previous).isSome
        else previous != '_' || (digit? 16 c).isSome) && underscoresFit c rest

/-- Whether a word begins like an integer: the mark of a base without digits, or decimal digits and
an underscore, with nothing after them that makes it a decimal or a moment. -/
def resemblesInteger (word : List Char) : Bool :=
  let body := (splitSign word).2
  let rest := body.dropWhile Char.isDigit
  word == "0x".toList || word == "0o".toList || word == "0b".toList ||
    (body.head?.any (fun c ↦ '1' ≤ c && c ≤ '9') && rest.head? == some '_' &&
      underscoresFit '0' rest && rest.all fun c ↦ c != '.' && c != 'e' && c != 'E' && c != ' ')

/-- Exponent, zero when there is none. -/
def exponent? : List Char → Option Int
  | [] => some 0
  | _ :: rest =>
      let (sign, digits) := splitSign rest
      (grouped? 10 digits).map fun n ↦ if sign = some true then -Int.ofNat n else Int.ofNat n

/-- Number with a fraction, an exponent or both, its sign left out. -/
def decimal? (word : List Char) : Option Decimal := do
  let body := (splitSign word).2
  let whole := body.takeWhile fun c ↦ c != '.' && c != 'e' && c != 'E'
  let rest := body.drop whole.length
  let n ← unpadded? whole
  match rest with
  | [] => none
  | '.' :: rest =>
      let fraction := rest.takeWhile fun c ↦ c != 'e' && c != 'E'
      let f ← grouped? 10 fraction
      let e ← exponent? (rest.drop fraction.length)
      let places := (fraction.filter (· != '_')).length
      return ⟨n * Nat.pow 10 places + f, e - places⟩
  | rest =>
      let e ← exponent? rest
      return ⟨n, e⟩

/-- Words for infinity and for no number. -/
def isSpecialDecimal (word : List Char) : Bool :=
  let body := (splitSign word).2
  body == "inf".toList || body == "nan".toList

end EditBox.Toml
