/-!
# Files

What the program needs of a file system: reading text, asking whether a path exists, and making the
log file. `Files m` gives these as actions of a monad, so that the program runs alike on a real
file system and on a `FileTree` held in memory.
-/

namespace EditBox

/-- Why a file gives no text. -/
inductive ReadError where
  | notFound
  | isDirectory
  /-- A file stands where the path needs a directory. -/
  | notDirectory
  /-- The path, or a name in it, is longer than files can be called. -/
  | nameTooLong
  /-- The path holds a NUL. -/
  | invalidPath
  /-- The bytes are no text. -/
  | invalidText
  deriving DecidableEq, Repr

/-- Wording of a read error. -/
def ReadError.message : ReadError → String
  | notFound => "No such file or directory (os error 2)"
  | isDirectory => "Is a directory (os error 21)"
  | notDirectory => "Not a directory (os error 20)"
  | nameTooLong => "File name too long (os error 36)"
  | invalidPath => "file name contained an unexpected NUL byte"
  | invalidText => "stream did not contain valid UTF-8"

/-- File system actions. -/
structure Files (m : Type → Type) where
  /-- Text of a file. -/
  readText : String → m (Except ReadError (List Char))
  /-- Whether a path leads to a file or directory. -/
  pathExists : String → m Bool
  /-- Begin an empty log file in a directory, which is made if missing; whether that worked. -/
  beginLog : (directory name : String) → m Bool

end EditBox
