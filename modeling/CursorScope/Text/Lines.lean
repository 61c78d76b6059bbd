import CursorScope.Text.Blank

/-!
# Lines of a text

A text is split into lines after every newline and nowhere else, and each line keeps its newline.
So the lines of a text joined are the text again (`join_splitLines`), and row numbers agree with
those of a syntax tree. The ending of a line is its longest run of final carriage returns and
newlines, and its width counts the characters before the ending.
-/

namespace CursorScope.Text

/-- The lines of a list of characters, each with the newline that ends it. -/
def lines : List Char → List (List Char)
  | [] => []
  | c :: rest =>
      if c = '\n' then ['\n'] :: lines rest
      else match lines rest with
        | [] => [[c]]
        | line :: following => (c :: line) :: following

/-- The lines of a text, each with the newline that ends it. -/
def splitLines (text : String) : List String :=
  (lines text.toList).map .ofList

/-- The characters that may stand in the ending of a line. -/
def isLineEnding (c : Char) : Bool := c == '\r' || c == '\n'

/-- The line without its ending. -/
def bareLine (line : String) : String :=
  .ofList (dropEndWhile isLineEnding line.toList)

/-- The number of characters of a line before its ending. -/
def lineWidth (line : String) : Nat := (bareLine line).length

/-- The pieces of a text between its newlines. An empty text has none. -/
def newlinePieces (text : String) : List String :=
  if text.isEmpty then [] else (text.toList.splitOn '\n').map .ofList

/-- The characters with every carriage return, alone or before a newline, replaced by one
newline. -/
def unifyNewlines : List Char → List Char
  | '\r' :: '\n' :: rest => '\n' :: unifyNewlines rest
  | c :: rest => (if c = '\r' then '\n' else c) :: unifyNewlines rest
  | [] => []

theorem flatten_lines (cs : List Char) : (lines cs).flatten = cs := by
  induction cs with
  | nil => rfl
  | cons c rest ih =>
      rw [lines]
      split
      · rename_i h
        simp [h, ih]
      · split
        · rename_i h
          rw [h] at ih
          simp [← ih]
        · rename_i line following h
          rw [h] at ih
          simp [← ih]

/-- The lines of a text joined are the text. -/
theorem join_splitLines (text : String) :
    ((splitLines text).map String.toList).flatten = text.toList := by
  rw [splitLines, List.map_map]
  have h : String.toList ∘ String.ofList = id := funext fun _ => String.toList_ofList
  rw [h, List.map_id, flatten_lines]

theorem toList_bareLine (line : String) :
    (bareLine line).toList = dropEndWhile isLineEnding line.toList :=
  String.toList_ofList

end CursorScope.Text
