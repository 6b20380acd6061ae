import EditBox.Toml.Number

/-!
# Moments in time

A date, a time of day, or both joined by the letter `T` or a blank, the last perhaps with an offset
from universal time. Seconds may be left out, and a fraction of a second may have any number of
digits. Every part must exist in the calendar; a leap second is allowed anywhere.
-/

namespace EditBox.Toml

/-- Value of exactly `count` digits at the start, and what follows. -/
def fixedDigits? (count : Nat) (cs : List Char) : Option (Nat × List Char) :=
  let digits := cs.take count
  if digits.length = count ∧ digits.all Char.isDigit then
    (grouped? 10 digits).map (·, cs.drop count)
  else none

/-- What follows one given character. -/
def skipChar? (c : Char) : List Char → Option (List Char)
  | d :: rest => if d = c then some rest else none
  | [] => none

/-- Number of days of a month. -/
def daysInMonth (year month : Nat) : Nat :=
  if month = 2 then
    if year % 4 = 0 ∧ (year % 100 ≠ 0 ∨ year % 400 = 0) then 29 else 28
  else if month = 4 ∨ month = 6 ∨ month = 9 ∨ month = 11 then 30
  else 31

/-- What follows a date. -/
def skipDate? (cs : List Char) : Option (List Char) := do
  let (year, cs) ← fixedDigits? 4 cs
  let cs ← skipChar? '-' cs
  let (month, cs) ← fixedDigits? 2 cs
  let cs ← skipChar? '-' cs
  let (day, cs) ← fixedDigits? 2 cs
  if 1 ≤ month ∧ month ≤ 12 ∧ 1 ≤ day ∧ day ≤ daysInMonth year month then some cs else none

/-- What follows the fraction of a second, if there is one. -/
def skipFraction? : List Char → Option (List Char)
  | '.' :: rest =>
      let digits := rest.takeWhile Char.isDigit
      if digits.isEmpty then none else some (rest.drop digits.length)
  | cs => some cs

/-- What follows a time of day. -/
def skipTime? (cs : List Char) : Option (List Char) := do
  let (hour, cs) ← fixedDigits? 2 cs
  let cs ← skipChar? ':' cs
  let (minute, cs) ← fixedDigits? 2 cs
  if 23 < hour ∨ 59 < minute then none
  else
    match cs with
    | ':' :: rest => do
        let (second, cs) ← fixedDigits? 2 rest
        if 60 < second then none else skipFraction? cs
    | _ => some cs

/-- What follows an offset from universal time, if there is one. -/
def skipOffset? : List Char → Option (List Char)
  | [] => some []
  | c :: rest =>
      if c = 'Z' ∨ c = 'z' then some rest
      else if c = '+' ∨ c = '-' then do
        let (hour, cs) ← fixedDigits? 2 rest
        let cs ← skipChar? ':' cs
        let (minute, cs) ← fixedDigits? 2 cs
        if 23 < hour ∨ 59 < minute then none else some cs
      else none

/-- Whether a text is a moment. -/
def isMoment (cs : List Char) : Bool :=
  match skipDate? cs with
  | some [] => true
  | some (c :: rest) =>
      (c == 'T' || c == 't' || c == ' ') && (skipTime? rest >>= skipOffset?) == some []
  | none => skipTime? cs == some []

end EditBox.Toml
