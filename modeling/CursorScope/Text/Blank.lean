import CursorScope.Text.CodeRanges

/-!
# Blank characters and words

A blank is a character that separates words. Every blank of the core library is one, and so are
the four separator controls, the next-line control and the space separators of Unicode. The words
of a text are its maximal stretches without blanks. `collapse` joins them by single spaces, and
`trim` removes the blanks at both ends.
-/

namespace CursorScope.Text

/-- The code point ranges of the blank characters, both ends included. -/
def blankRanges : List (Nat × Nat) :=
  [(0x9, 0xD), (0x1C, 0x20), (0x85, 0x85), (0xA0, 0xA0), (0x1680, 0x1680), (0x2000, 0x200A),
    (0x2028, 0x2029), (0x202F, 0x202F), (0x205F, 0x205F), (0x3000, 0x3000)]

/-- The characters that separate words. -/
def isBlank (c : Char) : Bool := inRanges blankRanges c

theorem isBlank_space : isBlank ' ' = true := by decide

/-- The words of a text: the non-empty pieces that remain when it is split at its blanks. -/
def words (cs : List Char) : List (List Char) :=
  (cs.splitOnP isBlank).filter (!·.isEmpty)

/-- The words of a text, joined by single spaces. -/
def collapse (text : String) : String :=
  .ofList (List.intercalate [' '] (words text.toList))

/-- The list without its longest ending of elements that satisfy `p`. -/
def dropEndWhile {α : Type} (p : α → Bool) (xs : List α) : List α :=
  (xs.reverse.dropWhile p).reverse

/-- The text without the blanks at its end. -/
def trimEnd (text : String) : String :=
  .ofList (dropEndWhile isBlank text.toList)

/-- The text without the blanks at its start and at its end. -/
def trim (text : String) : String :=
  .ofList (dropEndWhile isBlank (text.toList.dropWhile isBlank))

/-- The text without the copies of `c` at its start and at its end. -/
def trimChar (c : Char) (text : String) : String :=
  .ofList (dropEndWhile (· == c) (text.toList.dropWhile (· == c)))

@[simp] theorem toList_collapse (text : String) :
    (collapse text).toList = List.intercalate [' '] (words text.toList) :=
  String.toList_ofList

/-- Cutting an ending off leaves a beginning of the list. -/
theorem dropEndWhile_append {α : Type} (p : α → Bool) (xs : List α) :
    dropEndWhile p xs ++ (xs.reverse.takeWhile p).reverse = xs := by
  rw [dropEndWhile, ← List.reverse_append, List.takeWhile_append_dropWhile, List.reverse_reverse]

end CursorScope.Text
