import CursorScope.Tree.Rows

/-!
# Tables of nodes as text

A table of nodes is written with a line for every row. A line has ten columns between tabulators:
type, flags, field, number of the parent, then byte, row and column of the start and of the end.
The flags add one for a named node and two for a missing one. In the type and the field, a
backslash leads `n`, `t` or another backslash for the newline, the tabulator and itself.
-/

namespace CursorScope

namespace Row

/-- The text of a column with its escapes resolved. -/
def unescape : List Char → List Char
  | '\\' :: 'n' :: rest => '\n' :: unescape rest
  | '\\' :: 't' :: rest => '\t' :: unescape rest
  | '\\' :: '\\' :: rest => '\\' :: unescape rest
  | c :: rest => c :: unescape rest
  | [] => []

/-- The row of the columns of a line. The parent of the root may be written as a dash. -/
def ofColumns? : List (List Char) → Option Row
  | type :: flags :: field :: parent :: numbers => do
      let flags ← (String.ofList flags).toNat?
      let parent ← if parent = ['-'] then some 0 else (String.ofList parent).toNat?
      match ← numbers.mapM fun column => (String.ofList column).toNat? with
      | [startByte, startRow, startColumn, endByte, endRow, endColumn] =>
          return {
            type := .ofList (unescape type)
            named := flags % 2 == 1
            missing := flags / 2 % 2 == 1
            field := if field.isEmpty then none else some (.ofList (unescape field))
            parent, startByte, endByte
            startPoint := ⟨startRow, startColumn⟩
            endPoint := ⟨endRow, endColumn⟩ }
      | _ => none
  | _ => none

/-- The row of a line. -/
def ofLine? (line : String) : Option Row := ofColumns? (line.toList.splitOn '\t')

end Row

/-- The tree of the lines of a table. -/
def Node.ofTable? (lines : List String) : Option Node := do
  Node.ofRows? (← lines.mapM Row.ofLine?)

end CursorScope
