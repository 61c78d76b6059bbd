import CursorScope.Path
import CursorScope.Text.Quoted

/-!
# Files

Files are kept by the paths that lead to them from the working directory. The directories are
those on these paths, and those around the working directory. `Files.read` follows a path
component by component: two dots lead to the directory around, and every other component is looked
up in the directory that has been reached.
-/

namespace CursorScope

/-- Why there is no text at a path. -/
inductive FileError where
  | missing
  | directory
  | belowFile
  | tooLong
  | nulCharacter
  deriving DecidableEq, Repr

/-- The text of a file error at a path. -/
def FileError.message (path : String) : FileError → String
  | missing => "[Errno 2] No such file or directory: " ++ Text.quoted path
  | directory => "[Errno 21] Is a directory: " ++ Text.quoted path
  | belowFile => "[Errno 20] Not a directory: " ++ Text.quoted path
  | tooLong => "[Errno 36] File name too long: " ++ Text.quoted path
  | nulCharacter => "embedded null byte"

/-- Files by their paths, with their texts. -/
abbrev Files := List (String × String)

namespace Files

/-- What a place holds. -/
inductive Entry where
  | file (text : String)
  | directory
  deriving DecidableEq, Repr

/-- What is at the place that names lead to from the working directory. -/
def entry? (files : Files) (names : List String) : Option Entry :=
  match files.find? fun (path, _) => Path.components path == names with
  | some (_, text) => some (.file text)
  | none =>
      if names.isEmpty || files.any fun (path, _) => names.isPrefixOf (Path.components path) then
        some .directory
      else none

/-- A place: below the working directory, or around it, where nothing but directories is known. -/
inductive Place where
  | inside (names : List String)
  | outside
  deriving DecidableEq, Repr

/-- What is at a place. -/
def entryAt? (files : Files) : Place → Option Entry
  | .inside names => files.entry? names
  | .outside => some .directory

/-- The greatest number of bytes in a component. -/
def nameLimit : Nat := 255

/-- The greatest number of bytes in a path. -/
def pathLimit : Nat := 4095

/-- The place of a component in the directory at a place. -/
def Place.step : Place → String → Except FileError Place
  | .inside names, ".." => .ok (if names.isEmpty then .outside else .inside names.dropLast)
  | .outside, ".." => .ok .outside
  | place, name =>
      if nameLimit < name.utf8ByteSize then .error .tooLong
      else
        match place with
        | .inside names => .ok (.inside (names ++ [name]))
        | .outside => .error .missing

/-- What components lead to from a place. -/
def follow (files : Files) (place : Place) : List String → Except FileError Entry
  | [] =>
      match files.entryAt? place with
      | some entry => .ok entry
      | none => .error .missing
  | name :: rest =>
      match files.entryAt? place with
      | none => .error .missing
      | some (.file _) => .error .belowFile
      | some .directory => do files.follow (← place.step name) rest

/-- The text of the file at a path. -/
def read (files : Files) (path : String) : Except FileError String := do
  if path.toList.contains (Char.ofNat 0) then .error .nulCharacter
  if pathLimit < (Path.normalize path).utf8ByteSize then .error .tooLong
  let start := if (Path.root path).isEmpty then Place.inside [] else .outside
  match ← files.follow start (Path.components path) with
  | .file text => return text
  | .directory => .error .directory

end Files

end CursorScope
