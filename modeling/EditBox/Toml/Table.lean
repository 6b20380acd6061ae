import EditBox.Toml.Value

/-!
# Tables under construction

How headers and entries extend the tables of a document. Every key is defined once. A header may
give a table its entries after tables below it were mentioned, but not after it had a header of its
own or was made by a dotted key; a dotted key extends only tables that dotted keys made.
-/

namespace EditBox.Toml

/-- Entries of a table, in the order of their definition. -/
abbrev Entries := List (Key × Value)

namespace Entries

/-- The same entries with another value for a key. -/
def replace (entries : Entries) (key : Key) (value : Value) : Entries :=
  entries.map fun (k, v) ↦ if k = key then (k, value) else (k, v)

/-- Add an entry for a new key. -/
def add? (entries : Entries) (key : Key) (value : Value) : Option Entries :=
  match entries.lookup key with
  | some _ => none
  | none => some (entries ++ [(key, value)])

/-- Add an entry for a dotted key: `path` leads to the table, and `key` is the last part. -/
def assign? (key : Key) (value : Value) : (path : List Key) → Entries → Option Entries
  | [], entries => entries.add? key value
  | k :: path, entries =>
      match entries.lookup k with
      | none => do
          let inner ← assign? key value path []
          return entries ++ [(k, .table .dotted inner)]
      | some (.table kind inner) =>
          if kind = .headed ∨ kind = .braced ∨ (path.isEmpty ∧ kind ≠ .dotted) then none
          else do
            let inner ← assign? key value path inner
            return entries.replace k (.table kind inner)
      | some (.tables items) =>
          match items.getLast?, path.isEmpty with
          | some inner, false => do
              let inner ← assign? key value path inner
              return entries.replace k (.tables (items.dropLast ++ [inner]))
          | _, _ => none
      | some _ => none

/-- Change the table that a header path leads to, the last one of those with the same header.
Tables that are missing on the way are made. -/
def change? (f : Entries → Option Entries) : (path : List Key) → Entries → Option Entries
  | [], entries => f entries
  | k :: path, entries =>
      match entries.lookup k with
      | none => do
          let inner ← change? f path []
          return entries ++ [(k, .table .implied inner)]
      | some (.table kind inner) =>
          if kind = .braced then none
          else do
            let inner ← change? f path inner
            return entries.replace k (.table kind inner)
      | some (.tables items) =>
          match items.getLast? with
          | some inner => do
              let inner ← change? f path inner
              return entries.replace k (.tables (items.dropLast ++ [inner]))
          | none => none
      | some _ => none

/-- Open the table of a header. -/
def openTable? (key : Key) (entries : Entries) : Option Entries :=
  match entries.lookup key with
  | none => some (entries ++ [(key, .table .headed [])])
  | some (.table .implied inner) => some (entries.replace key (.table .headed inner))
  | some _ => none

/-- Open one more table of a double-bracketed header. -/
def openElement? (key : Key) (entries : Entries) : Option Entries :=
  match entries.lookup key with
  | none => some (entries ++ [(key, .tables [[]])])
  | some (.tables items) => some (entries.replace key (.tables (items ++ [[]])))
  | some _ => none

end Entries

end EditBox.Toml
