import CursorScope.Text.Blank
import CursorScope.Text.DecimalDigit

/-!
# Integers in texts

An integer is written with decimal digits of any script, after an optional sign and between
optional blanks. One underscore may stand between two digits. A text with more digits than
`digitLimit` is not read.
-/

namespace CursorScope.Text

/-- The greatest number of digits of an integer that is read. -/
def digitLimit : Nat := 4300

/-- The blanks that may surround an integer: all but the four separator controls. -/
def isNumberPadding (c : Char) : Bool :=
  isBlank c && !(0x1C ≤ c.toNat && c.toNat ≤ 0x1F)

/-- The values of digits that stand alone or with single underscores between them. -/
def digitValues? : List Char → Option (List Nat)
  | [] => none
  | [c] => (digitValue? c).map ([·])
  | c :: '_' :: rest => do
      let value ← digitValue? c
      return value :: (← digitValues? rest)
  | c :: rest => do
      let value ← digitValue? c
      return value :: (← digitValues? rest)

/-- The number that decimal digits denote, the most significant first. -/
def ofDigitValues (values : List Nat) : Nat :=
  values.foldl (fun number value => 10 * number + value) 0

/-- The natural number written by decimal digits. -/
def readNatural? (cs : List Char) : Option Nat := do
  let values ← digitValues? cs
  if values.length ≤ digitLimit then return ofDigitValues values else none

/-- The integer written by an optional sign and decimal digits. -/
def readSigned? : List Char → Option Int
  | '+' :: rest => (readNatural? rest).map Int.ofNat
  | '-' :: rest => (readNatural? rest).map fun n => -Int.ofNat n
  | cs => (readNatural? cs).map Int.ofNat

/-- The integer that a text denotes. -/
def readInteger? (text : String) : Option Int :=
  readSigned? (dropEndWhile isNumberPadding (text.toList.dropWhile isNumberPadding))

end CursorScope.Text
