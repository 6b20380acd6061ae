import EditBox.Command.Dispatch
import EditBox.Page
import EditBox.Program.Arguments
import EditBox.Script
import EditBox.Settings.Load

/-!
# The program

Loads a file into an edit box, replays an input script against it, and shows the resulting frame
with the caret, the selection and the depth of the history. Files are reached through `Files`, so
the program is a function of a file tree.
-/

namespace EditBox.Program

open EditBox.Layout EditBox.Text

/-- Name and version of the program. -/
def versionText : String := "eclipse-edit 0.0.1\n"

/-- Name of the log file. -/
def logName : String := "eclipse-edit.log"

/-- How a run of the program ended. -/
inductive ExitStatus where
  | success
  /-- The script could not be read or understood. -/
  | failure
  /-- The arguments could not be understood. -/
  | misuse
  /-- An operation stopped with a fault. -/
  | fault
  deriving DecidableEq, Repr

/-- Exit code of a status. -/
def ExitStatus.code : ExitStatus → Nat
  | success => 0
  | failure => 1
  | misuse => 2
  | fault => 101

/-- Exit status of the program and what it printed. -/
structure Outcome where
  status : ExitStatus
  output : String
  errors : String
  deriving DecidableEq, Repr

/-- Outcome without output. -/
def Outcome.silent (status : ExitStatus) : Outcome := ⟨status, "", ""⟩

/-- Why the program gives up on a script. -/
inductive ScriptFailure where
  | unreadable (path : String) (cause : ReadError)
  | rejected (e : Script.ScriptError)
  deriving DecidableEq, Repr

/-- Wording of a failure. -/
def ScriptFailure.message : ScriptFailure → String
  | unreadable path cause =>
      "Error: reading script " ++ path ++ "\n\nCaused by:\n    " ++ cause.message ++ "\n"
  | rejected e => "Error: " ++ e.message ++ "\n"

/-- Apply commands in order; a command that changes something visible shows the caret again. -/
def replay (box : Box) (clipboard : Clipboard) (blink : Blink) : List Command → Run (Box × Blink)
  | [] => return (box, blink)
  | c :: rest => do
      let (box, clipboard, reply) ← box.dispatch clipboard c
      replay box clipboard (if reply.dirty then blink.reset else blink) rest

/-- Final frame and state of an edit box as text. -/
def report (box : Box) (blink : Blink) : Run String := do
  let (box, page) ← Page.render box blink
  let editor := box.editor
  let (line, col) ← offsetToLineCol editor.buffer editor.caret
  let (a, b) := editor.selection.range
  let selection :=
    if a < b then "selection: " ++ toString a ++ ".." ++ toString b ++ "\n" else ""
  return String.ofList page.output ++
    "caret: " ++ toString editor.caret ++ " (line " ++ toString (line + 1) ++ ", col " ++
      toString (col + 1) ++ ")\n" ++
    selection ++
    "undo: " ++ toString editor.history.undoDepth ++ " redo: " ++
      toString editor.history.redoDepth ++ "\n"

/-- Output of a script, or of no script, on an edit box. -/
def play (box : Box) (script : Option (List Char)) :
    Except Fault (Except Script.ScriptError String) := do
  let blink := Blink.start box.options.blinkMs
  match script with
  | none => return .ok (← (report box blink).result)
  | some src =>
      match ← Script.parse src with
      | .error e => return .error e
      | .ok commands =>
          let (box, blink) ← (replay box [] blink commands).result
          return .ok (← (report box blink).result)

/-- Outcome of a script, or of no script, on an edit box. -/
def Outcome.ofPlay (box : Box) (script : Option (List Char)) : Outcome :=
  match play box script with
  | .error _ => .silent .fault
  | .ok (.error e) => ⟨.failure, "", (ScriptFailure.rejected e).message⟩
  | .ok (.ok output) => ⟨.success, output, ""⟩

variable {m : Type → Type} [Monad m]

/-- Buffer of a file, empty when it cannot be read. -/
def loadBuffer (files : Files m) : Option String → m Buffer
  | none => return .empty
  | some path => do
      match ← files.readText path with
      | .ok text => return .ofText (normalize text)
      | .error _ => return .empty

/-- Run the program with understood arguments; `home` is the user's configuration directory. -/
def runArguments (files : Files m) (home : Option String) (args : Arguments) : m Outcome := do
  if !(← files.beginLog (args.logDir.getD ".") logName) then return .silent .fault
  let settingsPath ← match args.config with
    | some path => pure path
    | none => Settings.discover files home
  let (loaded, _) ← Settings.load files settingsPath
  let buffer ← loadBuffer files args.path
  let measure := Measure.cells (max (args.cellWidth.getD 8) 1) defaultGlyphHeight
  let box := (Box.ofSettings buffer loaded.settings (args.width.getD 640)
    (args.height.getD 480)).setMeasure (some measure)
  match args.script with
  | none => return .ofPlay box none
  | some path =>
      match ← files.readText path with
      | .error cause => return ⟨.failure, "", (ScriptFailure.unreadable path cause).message⟩
      | .ok src => return .ofPlay box (some src)

/-- Run the program. -/
def run (files : Files m) (home : Option String) (words : List String) : m Outcome :=
  match Arguments.parse {} words with
  | .version => return ⟨.success, versionText, ""⟩
  | .misuse => return .silent .misuse
  | .run args => runArguments files home args

end EditBox.Program
