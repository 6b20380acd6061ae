import EditBox.Bounded

/-!
# Command line

The arguments of the program: options that take a value, in the next argument or after an equals
sign, the version option, and one path. After a double hyphen every argument is a path. An option
may be given once, and a value that begins with a hyphen only after an equals sign.
-/

namespace EditBox.Program

/-- Values of the command line. -/
structure Arguments where
  /-- File to load. -/
  path : Option String := none
  /-- Settings file, which is looked for when it is not given. -/
  config : Option String := none
  width : Option Nat := none
  height : Option Nat := none
  cellWidth : Option Nat := none
  /-- Script to replay. -/
  script : Option String := none
  /-- Directory of the log file. -/
  logDir : Option String := none
  deriving DecidableEq, Repr

/-- What a command line asks for. -/
inductive Request where
  | run (args : Arguments)
  | version
  /-- The arguments cannot be understood. -/
  | misuse
  deriving DecidableEq, Repr

namespace Arguments

/-- Value of a digit string after `value`. -/
def digits? (value : Nat) : List Char → Option Nat
  | [] => some value
  | c :: rest => if c.isDigit then digits? (10 * value + (c.toNat - '0'.toNat)) rest else none

/-- Pixel length, with an optional plus sign. -/
def pixels? (word : String) : Option Nat := do
  let n ← match word.toList with
    | [] => none
    | ['+'] => none
    | ['-'] => none
    | '+' :: digits => digits? 0 digits
    | '-' :: digits => (digits? 0 digits).bind fun n ↦ if n = 0 then some 0 else none
    | digits => digits? 0 digits
  if n < Bounded.pixelBound then some n else none

/-- Path of a file. -/
def path? (word : String) : Option String := if word = "" then none else some word

/-- Set a value that has not been set. -/
def once {α : Type} (present : Option α) (value : Option α) : Option (Option α) :=
  match present with
  | some _ => none
  | none => value.map some

/-- Set the value of an option. -/
def set? (args : Arguments) (option value : String) : Option Arguments :=
  match option with
  | "config" => (once args.config (path? value)).map fun v ↦ { args with config := v }
  | "width" => (once args.width (pixels? value)).map fun v ↦ { args with width := v }
  | "height" => (once args.height (pixels? value)).map fun v ↦ { args with height := v }
  | "cell-width" => (once args.cellWidth (pixels? value)).map fun v ↦ { args with cellWidth := v }
  | "script" => (once args.script (path? value)).map fun v ↦ { args with script := v }
  | "log-dir" => (once args.logDir (path? value)).map fun v ↦ { args with logDir := v }
  | _ => none

/-- Set the path to load. -/
def setPath? (args : Arguments) (value : String) : Option Arguments :=
  (once args.path (path? value)).map fun v ↦ { args with path := v }

/-- Whether an argument is written like an option. -/
def looksLikeOption (word : String) : Bool :=
  match word.toList with
  | '-' :: _ :: _ => true
  | _ => false

/-- Name of a long option, and its value if there is an equals sign. -/
def splitOption (word : List Char) : String × Option String :=
  let name := word.takeWhile (· != '=')
  (String.ofList name,
    match word.drop name.length with
    | '=' :: value => some (String.ofList value)
    | _ => none)

/-- Request of the arguments after a double hyphen. -/
def parsePaths (args : Arguments) : List String → Request
  | [] => .run args
  | word :: rest =>
      match args.setPath? word with
      | some args => parsePaths args rest
      | none => .misuse

/-- Request of the arguments that follow `args`. -/
def parse (args : Arguments) : List String → Request
  | [] => .run args
  | word :: rest =>
      match word.toList with
      | ['-', '-'] => parsePaths args rest
      | '-' :: '-' :: long =>
          match splitOption long with
          | ("version", none) => .version
          | (option, some value) =>
              match args.set? option value with
              | some args => parse args rest
              | none => .misuse
          | (option, none) =>
              match rest with
              | [] => .misuse
              | value :: rest =>
                  if looksLikeOption value then .misuse
                  else
                    match args.set? option value with
                    | some args => parse args rest
                    | none => .misuse
      | '-' :: 'V' :: _ => .version
      | '-' :: _ :: _ => .misuse
      | _ =>
          match args.setPath? word with
          | some args => parse args rest
          | none => .misuse

end Arguments

end EditBox.Program
