/-!
# Numbers in scripts

Decimal numbers of a script: an optional sign, then at least one digit, nothing else. A minus sign
is taken only where negative numbers are, and the value must fit the range asked for.
-/

namespace EditBox.Script

/-- Value of a decimal digit. -/
def digitValue? (c : Char) : Option Nat :=
  if '0' ≤ c ∧ c ≤ '9' then some (c.toNat - '0'.toNat) else none

/-- Value of digits read after `value`; there may be none left. -/
def digitsFrom? (value : Nat) : List Char → Option Nat
  | [] => some value
  | c :: rest => do
      let d ← digitValue? c
      digitsFrom? (10 * value + d) rest

/-- Value of a number without sign, which has at least one digit. -/
def magnitude? : List Char → Option Nat
  | [] => none
  | digits => digitsFrom? 0 digits

/-- Natural number below `bound`, with an optional plus sign. -/
def natural? (bound : Nat) (word : List Char) : Option Nat := do
  let n ← match word with
    | '+' :: digits => magnitude? digits
    | digits => magnitude? digits
  if n < bound then some n else none

/-- Integer within `[-bound, bound)`, with an optional sign. -/
def integer? (bound : Nat) (word : List Char) : Option Int := do
  let n ← match word with
    | '+' :: digits => (magnitude? digits).map Int.ofNat
    | '-' :: digits => (magnitude? digits).map fun n ↦ -Int.ofNat n
    | digits => (magnitude? digits).map Int.ofNat
  if -bound ≤ n ∧ n < bound then some n else none

end EditBox.Script
