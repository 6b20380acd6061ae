import EditBox.Program.Replay

/-!
# Command line program

Runs the program on the files of the machine.
-/

open EditBox EditBox.Program

/-- Cause of a failed read. -/
def readErrorOf : IO.Error → ReadError
  | .noFileOrDirectory .. => .notFound
  | .inappropriateType .. => .notDirectory
  | .invalidArgument .. => .nameTooLong
  | _ => .isDirectory

/-- File system actions on the files of the machine. -/
def machineFiles : Files IO where
  readText path := do
    if path.contains '\x00' then return .error .invalidPath
    try
      let bytes ← IO.FS.readBinFile path
      match String.fromUTF8? bytes with
      | some text => return .ok text.toList
      | none => return .error .invalidText
    catch e => return .error (readErrorOf e)
  pathExists path := do
    try
      let _ ← IO.FS.Handle.mk path .read
      return true
    catch _ => return false
  beginLog directory name := do
    try
      IO.FS.createDirAll directory
      IO.FS.writeBinFile (directory ++ "/" ++ name) .empty
      return true
    catch _ => return false

/-- Configuration directory of the user, if one is known. -/
def configurationHome : IO (Option String) := do
  let chosen := ((← IO.getEnv "XDG_CONFIG_HOME").getD "")
  if chosen.startsWith "/" then return some chosen
  let home := ((← IO.getEnv "HOME").getD "")
  return if home = "" then none else some (home ++ "/.config")

/-- Run the program with the arguments of the command line. -/
def main (words : List String) : IO UInt32 := do
  let home ← configurationHome
  let outcome ← run machineFiles home words
  (← IO.getStdout).putStr outcome.output
  (← IO.getStderr).putStr outcome.errors
  return outcome.status.code.toUInt32
