/-!
# Files

The files that the program can reach, by their paths, and reading and writing them. Paths are
relative to the working directory; a path is known by its parts.
-/

namespace RowBindings.Command

/-- What stands at a path. -/
inductive Entry
  /-- A file with its text, or with bytes that are no text. -/
  | file (text : Option String)
  | directory
  deriving DecidableEq, Repr

/-- The parts of a path. An absolute path starts with the root. -/
abbrev Path := List String

namespace Path

/-- The first part of an absolute path. -/
def root : String := "/"

/-- The part that leads up. -/
def up : String := ".."

/-- The parts of a path as it is written: what stands between the slashes, without parts that stay
where they are. -/
def ofText (text : String) : Path :=
  let parts := (text.splitOn "/").filter fun p => !p.isEmpty && p != "."
  if text.toList.head? = some '/' then root :: parts else parts

/-- A path as it is written. -/
def text : Path → String
  | [] => "."
  | first :: rest =>
    if first = root then root ++ "/".intercalate rest else "/".intercalate (first :: rest)

/-- The path one part further. -/
def next (path : Path) (part : String) : Path :=
  if part = up then
    if path.all (· == up) then path ++ [up] else if path = [root] then path else path.dropLast
  else if part = root then [root]
  else path ++ [part]

/-- The paths on the way to a path, itself included. -/
def stages (path : Path) : List Path :=
  (List.range (path.length + 1)).map path.take

/-- Whether a path as it is written can only be one of a directory. -/
def isOfDirectory (text : String) : Bool :=
  text.toList.getLast? = some '/'

end Path

/-- Files and directories by their paths. -/
structure Directory where
  entries : List (Path × Entry) := []

/-- Why a file cannot be read or written. -/
inductive FileError
  | missing
  | isDirectory
  /-- A file stands where the path needs a directory. -/
  | notDirectory
  /-- The bytes are no text. -/
  | notText
  deriving DecidableEq, Repr

/-- What is said about the error. -/
def FileError.message : FileError → String
  | missing => "No such file or directory (os error 2)"
  | isDirectory => "Is a directory (os error 21)"
  | notDirectory => "Not a directory (os error 20)"
  | notText => "stream did not contain valid UTF-8"

namespace Directory

/-- What stands at a path. Directories stand where paths of files lead through, at the root, and
above the working directory. -/
def entry (d : Directory) (path : Path) : Option Entry :=
  match d.entries.lookup path with
  | some e => some e
  | none =>
    if path.all (· == Path.up) || path == [Path.root]
        || d.entries.any (fun e => path.isPrefixOf e.1) then
      some .directory
    else none

/-- Goes from a path along further parts. There has to be a directory before each of them. -/
def walk (d : Directory) (path : Path) : List String → Except FileError Path
  | [] => .ok path
  | part :: rest =>
    match d.entry path with
    | some .directory => d.walk (path.next part) rest
    | some (.file _) => .error .notDirectory
    | none => .error .missing

/-- Follows a path as it is written; nothing has to stand at its end. -/
def follow (d : Directory) (text : String) : Except FileError Path :=
  if text.isEmpty then .error .missing else d.walk [] (Path.ofText text)

/-- Looks up a path as it is written. -/
def find (d : Directory) (text : String) : Except FileError Entry := do
  match d.entry (← d.follow text) with
  | some (.file content) =>
    if Path.isOfDirectory text then throw .notDirectory else return .file content
  | some .directory => return .directory
  | none => throw .missing

/-- Whether something stands at a path. -/
def has (d : Directory) (text : String) : Bool :=
  match d.find text with
  | .ok _ => true
  | .error _ => false

/-- The text of the file at a path. -/
def read (d : Directory) (text : String) : Except FileError String := do
  match ← d.find text with
  | .directory => throw .isDirectory
  | .file (some content) => return content
  | .file none => throw .notText

/-- The files after one has been written; what was in it before is gone. Its directory has to be
there. -/
def write (d : Directory) (text content : String) : Except FileError Directory := do
  let path ← d.follow text
  let written : Directory :=
    { entries := (path, .file (some content)) :: d.entries.filter (·.1 != path) }
  match d.entry path with
  | some .directory => throw .isDirectory
  | some (.file _) => if Path.isOfDirectory text then throw .notDirectory else return written
  | none => if Path.isOfDirectory text then throw .isDirectory else return written

/-- The files that are new or have another text, with that text. -/
def changes (before after : Directory) : List (Path × String) :=
  after.entries.filterMap fun (path, e) =>
    match e with
    | .file (some content) =>
      if before.entries.lookup path = some e then none else some (path, content)
    | _ => none

end Directory

end RowBindings.Command
