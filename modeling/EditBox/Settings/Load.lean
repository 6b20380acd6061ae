import EditBox.Files
import EditBox.Settings.Decode

/-!
# Loading settings

The settings file is looked for in the working directory and then in the user's configuration
directory. Loading never fails: a file that is missing, unreadable or malformed leaves the
defaults, and a report says which it was.
-/

namespace EditBox.Settings

/-- Name of the settings file. -/
def fileName : String := "eclipse-edit.toml"

/-- Why a file gives no settings. -/
inductive LoadError where
  | unreadable (path : String) (cause : ReadError)
  | malformed (path : String)
  deriving DecidableEq, Repr

/-- Wording of an error, without that of its cause. -/
def LoadError.message : LoadError → String
  | unreadable path _ => "failed to read config " ++ path ++ ": "
  | malformed path => "failed to parse config " ++ path ++ ": "

/-- Loaded settings, and the file they came from with its text if there was one. -/
structure Loaded where
  text : Option (List Char)
  source : Option String
  settings : Settings
  deriving DecidableEq, Repr

/-- Settings of a text; `path` is for the error alone. -/
def ofText (text : List Char) (path : String) : Except LoadError Settings :=
  match parse? text with
  | some s => .ok s
  | none => .error (.malformed path)

variable {m : Type → Type} [Monad m]

/-- Text and settings of a file. -/
def ofFile (files : Files m) (path : String) : m (Except LoadError (List Char × Settings)) := do
  match ← files.readText path with
  | .ok text => return (ofText text path).map (text, ·)
  | .error cause => return .error (.unreadable path cause)

/-- Path of the settings file: in the working directory if it is there, or else below the user's
configuration directory `home` if there is one. -/
def discover (files : Files m) (home : Option String) : m String := do
  if ← files.pathExists fileName then return fileName
  match home with
  | some directory => return directory ++ "/eclipse-edit/" ++ fileName
  | none => return fileName

/-- Settings as read, before normalization, with what is reported of the reading. -/
def Loaded.ofRead (path : String) :
    Except LoadError (List Char × Settings) → Loaded × SettingsEvent
  | .ok (text, s) => (⟨some text, some path, s⟩, .loaded)
  | .error (.unreadable _ .notFound) => (⟨none, none, {}⟩, .missing)
  | .error _ => (⟨none, none, {}⟩, .unusable)

/-- Normalized settings of a file, with the events reported. -/
def load (files : Files m) (path : String) : m (Loaded × List SettingsEvent) := do
  let (loaded, event) := Loaded.ofRead path (← ofFile files path)
  return ({ loaded with settings := loaded.settings.normalize },
    event :: loaded.settings.normalizeEvents)

end EditBox.Settings
