import Lindenmayer.Error

/-!
# File trees

The files and directories below one directory, and what reading a path in it gives. A path is
followed name by name, and the first name that cannot be followed decides on the error.
-/

namespace Lindenmayer

/-- What a name stands for. -/
inductive Entry where
  /-- A file with its content. -/
  | file (content : ByteArray)
  /-- A directory. -/
  | directory

/-- Entries by the names on the way to them, the latest first. -/
structure FileTree where
  /-- The entries. -/
  entries : List (List String × Entry)

namespace FileTree

/-- No entries but the directory itself. -/
def empty : FileTree := ⟨[]⟩

/-- The names in a path. -/
def names (path : String) : List String :=
  path.splitOn "/"

/-- Adds an entry, or replaces the one of its path. -/
def add (t : FileTree) (path : String) (entry : Entry) : FileTree :=
  ⟨((names path).filter (· ≠ ""), entry) :: t.entries⟩

/-- The entry behind some names. A directory needs no entry of its own if there is one inside it. -/
def entry? (t : FileTree) (path : List String) : Option Entry :=
  match t.entries.lookup path with
  | some entry => some entry
  | none => if t.entries.any fun e ↦ path.isPrefixOf e.1 then some .directory else none

/-- Follows names from an entry, to which the names in `here` lead. -/
def follow (t : FileTree) (here : List String) : Entry → List String → Except FileError ByteArray
  | .file content, [] => .ok content
  | .directory, [] => .error .isADirectory
  | .file _, _ :: _ => .error .notADirectory
  | .directory, name :: rest =>
    if name = "" || name = "." then t.follow here .directory rest
    else if name = ".." then t.follow here.dropLast .directory rest
    else if 255 < name.utf8ByteSize then .error .nameTooLong
    else match t.entry? (here ++ [name]) with
      | none => .error .notFound
      | some entry => t.follow (here ++ [name]) entry rest

/-- The content of the file with the given path. -/
def read (t : FileTree) (path : String) : Except FileError ByteArray :=
  if path.toList.contains '\x00' then .error (.other "file name contained an unexpected NUL byte")
  else if 4095 < path.utf8ByteSize then .error .nameTooLong
  else t.follow [] .directory (names path)

end FileTree

end Lindenmayer
