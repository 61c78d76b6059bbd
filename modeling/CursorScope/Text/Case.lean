import CursorScope.Text.CaseTable
import CursorScope.Text.CodeRanges

/-!
# Upper and lower case texts

A text changes case character by character. A character may become several, and the capital sigma
becomes the final small sigma at the end of a word: after a letter with case and before none, with
marks and other characters that have no bearing on case passed over on both sides.
-/

namespace CursorScope.Text

/-- The form of one character under runs of case pairs and a table of expansions. -/
def caseForm (runs : List CaseRun) (expansions : List (Nat × List Nat)) (c : Char) : List Char :=
  match expansions.lookup c.toNat with
  | some codes => codes.map Char.ofNat
  | none =>
      match runs.find? (·.holds c.toNat) with
      | some run => [Char.ofNat (c.toNat + run.shift).toNat]
      | none => [c]

/-- The upper case form of a character. -/
def upperForm (c : Char) : List Char := caseForm upperRuns upperExpansions c

/-- The lower case form of a character that stands alone. -/
def lowerForm (c : Char) : List Char := caseForm lowerRuns lowerExpansions c

/-- The text in upper case. -/
def toUpper (text : String) : String :=
  .ofList (text.toList.flatMap upperForm)

/-- The first character that bears on case has case. -/
def meetsCased (cs : List Char) : Bool :=
  match cs.dropWhile (inRanges caseIgnorableRanges) with
  | [] => false
  | c :: _ => inRanges casedRanges c

/-- The capital letter sigma. -/
def capitalSigma : Char := Char.ofNat 0x3A3

/-- The small letter sigma that ends a word. -/
def finalSigma : Char := Char.ofNat 0x3C2

/-- The lower case form of the characters `cs` that follow the reversed characters `before`. -/
def lowerAfter (before : List Char) : List Char → List Char
  | [] => []
  | c :: rest =>
      (if c = capitalSigma && meetsCased before && !meetsCased rest then [finalSigma]
        else lowerForm c) ++ lowerAfter (c :: before) rest

/-- The text in lower case. -/
def toLower (text : String) : String :=
  .ofList (lowerAfter [] text.toList)

end CursorScope.Text
