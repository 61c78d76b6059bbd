import CursorScope.Range
import CursorScope.Text.Lines

/-!
# Cutting text out of lines

`cut lines range` is the text between the two positions of a range. A position past the end of
its line stands at the end of that line, and one past the last line at the end of the text.
-/

namespace CursorScope.Text

/-- The characters of a line from `first` up to and without `last`. -/
def slice (line : String) (first last : Nat) : String :=
  .ofList ((line.toList.drop first).take (last - first))

/-- The characters of a line from `first` on. -/
def sliceFrom (line : String) (first : Nat) : String :=
  .ofList (line.toList.drop first)

/-- The characters of a line up to and without `last`. -/
def sliceTo (line : String) (last : Nat) : String :=
  .ofList (line.toList.take last)

/-- The text of the lines that lies in the range. -/
def cut (lines : List String) (range : Range) : String :=
  match lines[range.start.line]? with
  | none => ""
  | some first =>
      if range.start.line = range.stop.line then
        slice first range.start.character range.stop.character
      else
        let between := (lines.drop (range.start.line + 1)).take
          (range.stop.line - (range.start.line + 1))
        let last := match lines[range.stop.line]? with
          | none => ""
          | some line => sliceTo line range.stop.character
        sliceFrom first range.start.character ++ String.join between ++ last

@[simp] theorem toList_slice (line : String) (first last : Nat) :
    (slice line first last).toList = (line.toList.drop first).take (last - first) :=
  String.toList_ofList

@[simp] theorem toList_sliceFrom (line : String) (first : Nat) :
    (sliceFrom line first).toList = line.toList.drop first :=
  String.toList_ofList

@[simp] theorem toList_sliceTo (line : String) (last : Nat) :
    (sliceTo line last).toList = line.toList.take last :=
  String.toList_ofList

/-- An empty range holds no text. -/
theorem cut_cursor (lines : List String) (p : Position) : cut lines (.cursor p) = "" := by
  rw [cut]
  cases lines[(Range.cursor p).start.line]? with
  | none => rfl
  | some first => simp [Range.cursor, slice]

end CursorScope.Text
