import CursorScope.Text.Blank

/-!
# Paths

A path is a text of components between slashes. Empty components and single dots do not count.
The suffix of a path is the part of its last component from the last dot on, unless that dot
opens or closes the component.
-/

namespace CursorScope.Path

/-- The components of a path, without empty ones and single dots. -/
def components (path : String) : List String :=
  ((path.toList.splitOn '/').map .ofList).filter fun part => part != "" && part != "."

/-- The slashes that a normal path begins with: exactly two are kept, any other number above zero
counts as one. -/
def root (path : String) : String :=
  match (path.toList.takeWhile (· == '/')).length with
  | 0 => ""
  | 2 => "//"
  | _ => "/"

/-- The path with single slashes and without single dots; a path without components is a dot. -/
def normalize (path : String) : String :=
  let text := root path ++ String.intercalate "/" (components path)
  if text.isEmpty then "." else text

/-- The suffix of one component, its last dot included. -/
def componentSuffix (name : List Char) : List Char :=
  let ending := (name.reverse.takeWhile (· != '.')).reverse
  if ending.length + 1 < name.length && !ending.isEmpty then '.' :: ending else []

/-- The suffix of the last component of a path. -/
def suffix (path : String) : String :=
  .ofList (componentSuffix ((components path).getLast?.getD "").toList)

end CursorScope.Path
