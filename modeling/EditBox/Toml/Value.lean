/-!
# Configuration values

Values of a TOML document. Numbers keep their exact value, whatever its size, and moments in time
keep their text. A table remembers how it came about, since that decides whether it may be extended
later in the document.
-/

namespace EditBox.Toml

/-- Key of a table entry, quotes and escapes resolved. -/
abbrev Key := List Char

/-- Decimal number `mantissa * 10 ^ exponent`, its sign left out. -/
structure Decimal where
  mantissa : Nat
  exponent : Int
  deriving DecidableEq, Repr

/-- How a table came about. -/
inductive TableKind where
  /-- By a header of its own. -/
  | headed
  /-- In braces, whole. -/
  | braced
  /-- In passing, by the header of a table below it. -/
  | implied
  /-- By a dotted key. -/
  | dotted
  deriving DecidableEq, Repr

/-- Value of a document. -/
inductive Value where
  | text (s : List Char)
  | integer (n : Int)
  /-- Number with a fraction or exponent; `none` stands for infinity or no number at all. -/
  | decimal (d : Option Decimal)
  | boolean (b : Bool)
  | moment (s : List Char)
  /-- Word that begins like an integer but is none; it does no harm where nobody reads it. -/
  | malformed
  /-- Values in brackets. -/
  | array (items : List Value)
  /-- Tables with the same double-bracketed header, in order; each is a list of entries. -/
  | tables (items : List (List (Key × Value)))
  | table (kind : TableKind) (entries : List (Key × Value))
  deriving Repr

/-- Least magnitude that a double-precision number cannot approach: half a unit beyond the largest
of them. -/
def doubleLimit : Nat := Nat.pow 2 1024 - Nat.pow 2 970

/-- Whether the nearest double-precision number is infinite. -/
def Decimal.exceedsDouble (d : Decimal) : Bool :=
  let magnitude : Int := (Nat.toDigits 10 d.mantissa).length + d.exponent
  if d.mantissa = 0 ∨ magnitude < 300 then false
  else if 320 < magnitude then true
  else if 0 ≤ d.exponent then doubleLimit ≤ d.mantissa * Nat.pow 10 d.exponent.toNat
  else doubleLimit * Nat.pow 10 (-d.exponent).toNat ≤ d.mantissa

/-- Whether an integer fits 128 bits, with or without sign. -/
def isRepresentableInteger (n : Int) : Bool := -Int.pow 2 127 ≤ n && n < Int.pow 2 128

mutual

/-- Whether every number in a value can be read: it is well formed and small enough. -/
def Value.isRepresentable : Value → Bool
  | .integer n => isRepresentableInteger n
  | .decimal (some d) => !d.exceedsDouble
  | .malformed => false
  | .array items => allRepresentable items
  | .tables items => allTablesRepresentable items
  | .table _ entries => allEntriesRepresentable entries
  | _ => true

/-- `Value.isRepresentable` for all values of a list. -/
def allRepresentable : List Value → Bool
  | [] => true
  | v :: rest => v.isRepresentable && allRepresentable rest

/-- `Value.isRepresentable` for all values of a list of tables. -/
def allTablesRepresentable : List (List (Key × Value)) → Bool
  | [] => true
  | entries :: rest => allEntriesRepresentable entries && allTablesRepresentable rest

/-- `Value.isRepresentable` for all values of a table. -/
def allEntriesRepresentable : List (Key × Value) → Bool
  | [] => true
  | (_, v) :: rest => v.isRepresentable && allEntriesRepresentable rest

end

end EditBox.Toml
