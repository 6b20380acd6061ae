import EditBox.Files

/-!
# File trees

A file system in memory: files and directories by their path from the working directory. Paths are
walked part by part; `.` and an empty part stand for the directory itself and `..` for the one
above. The directories above the working directory have the plain paths `..`, `../..` and so on;
nothing is known to be in them. A plain path from the root of the machine has `/` as its first
part.
-/

namespace EditBox

/-- File with its bytes, or directory. -/
inductive Entry where
  | file (bytes : ByteArray)
  | directory

/-- Files and directories by the parts of their path. -/
structure FileTree where
  entries : List (List String × Entry)

namespace FileTree

/-- Tree without files in the working directory. Of the machine only the null device and a few
directories are known. -/
def empty : FileTree :=
  ⟨(["/", "dev", "null"], .file .empty) ::
    ["dev", "etc", "home", "tmp", "usr", "var"].map fun name ↦ (["/", name], .directory)⟩

/-- Whether a plain path is that of the working directory, of one above it or of the root of the
machine. -/
def isRoot (path : List String) : Bool := path == ["/"] || path.all (· == "..")

/-- Plain path of the directory above one. -/
def parent (path : List String) : List String :=
  if path = ["/"] then path else if isRoot path then ".." :: path else path.dropLast

/-- Entry at a plain path. -/
def entry? (t : FileTree) (path : List String) : Option Entry :=
  if isRoot path then some .directory else t.entries.lookup path

/-- Put an entry in the place of what was at a path. -/
def put (t : FileTree) (path : List String) (e : Entry) : FileTree :=
  ⟨(path, e) :: t.entries.filter fun (p, _) ↦ p != path⟩

/-- Greatest number of bytes in the name of a file. -/
def maxNameSize : Nat := 255

/-- Greatest number of bytes in a path. -/
def maxPathSize : Nat := 4095

/-- Directory reached from `here` along the parts of a path, with those made that are missing.
Nothing is reached through a file, and nothing has a name that is too long. -/
def makeDirectory? (t : FileTree) (here : List String) :
    List String → Option (FileTree × List String)
  | [] => some (t, here)
  | part :: rest =>
      if part = "" ∨ part = "." then t.makeDirectory? here rest
      else if part = ".." then t.makeDirectory? (parent here) rest
      else if maxNameSize < part.utf8ByteSize then none
      else
        let next := here ++ [part]
        match t.entry? next with
        | some (.file _) => none
        | some .directory => t.makeDirectory? next rest
        | none => (t.put next .directory).makeDirectory? next rest

/-- Parts of a path. -/
def parts (path : String) : List String := path.splitOn "/"

/-- Add an entry, with the directories above it. -/
def insert (t : FileTree) (path : String) (e : Entry) : FileTree :=
  let plain := parts path
  match t.makeDirectory? [] plain.dropLast with
  | some (t, here) => t.put (here ++ plain.getLast?.toList) e
  | none => t

/-- Plain path of the directory where a path starts: the root of the machine or the working
directory. -/
def start (path : String) : List String := if path.startsWith "/" then ["/"] else []

/-- Plain path of the entry reached from `here` along the parts of a path. -/
def walk (t : FileTree) (here : List String) : List String → Except ReadError (List String)
  | [] => .ok here
  | part :: rest =>
      match t.entry? here with
      | none => .error .notFound
      | some (.file _) => .error .notDirectory
      | some .directory =>
          if part = "" ∨ part = "." then t.walk here rest
          else if part = ".." then t.walk (parent here) rest
          else if maxNameSize < part.utf8ByteSize then .error .nameTooLong
          else
            let next := here ++ [part]
            if (t.entry? next).isSome then t.walk next rest else .error .notFound

/-- Plain path of an entry. -/
def resolve (t : FileTree) (path : String) : Except ReadError (List String) :=
  if path.contains '\x00' then .error .invalidPath
  else if path = "" then .error .notFound
  else if maxPathSize < path.utf8ByteSize then .error .nameTooLong
  else t.walk (start path) (parts path)

/-- Text of the file at a path. -/
def readText (t : FileTree) (path : String) : Except ReadError (List Char) := do
  let plain ← t.resolve path
  match t.entry? plain with
  | none => .error .notFound
  | some .directory => .error .isDirectory
  | some (.file bytes) =>
      match String.fromUTF8? bytes with
      | some text => .ok text.toList
      | none => .error .invalidText

/-- Whether a path leads to an entry. -/
def pathExists (t : FileTree) (path : String) : Bool :=
  match t.resolve path with
  | .ok _ => true
  | .error _ => false

/-- Path of a name in a directory. -/
def join (directory name : String) : String :=
  if directory.endsWith "/" then directory ++ name else directory ++ "/" ++ name

/-- Begin an empty log file in a directory; whether that worked. -/
def beginLog (t : FileTree) (directory name : String) : FileTree × Bool :=
  if maxPathSize < (join directory name).utf8ByteSize then (t, false)
  else
    match t.makeDirectory? (start directory) (parts directory) with
    | none => (t, false)
    | some (made, here) =>
        let path := here ++ [name]
        match made.entry? path with
        | some .directory => (made, false)
        | _ => (made.put path (.file .empty), true)

/-- Paths of the files below the working directory with a name, in order. -/
def filesNamed (t : FileTree) (name : String) : List String :=
  let found := t.entries.filterMap fun (path, e) ↦
    match e with
    | .file _ =>
        if path.getLast? = some name ∧ path.head? ≠ some ".." ∧ path.head? ≠ some "/" then
          some ("/".intercalate path)
        else none
    | .directory => none
  found.mergeSort fun a b ↦ decide (a ≤ b)

/-- File system actions on a tree. -/
def files : Files (StateM FileTree) where
  readText path := return (← get).readText path
  pathExists path := return (← get).pathExists path
  beginLog directory name := modifyGet fun t ↦
    let (t, made) := t.beginLog directory name
    (made, t)

end FileTree

end EditBox
