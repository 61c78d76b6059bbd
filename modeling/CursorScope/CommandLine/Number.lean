import CursorScope.Range
import CursorScope.Text.Integer

/-!
# Numbers on the command line

A plain number is a sequence of decimal digits of the Latin script without a superfluous zero in
front, after an optional minus sign. A word denotes the plain number that is left when, in this
order, blanks around it, a plus sign, zeros in front, a fraction of zeros, and single underscores
are taken away. A minus sign in front is set aside before the zeros, and put back at the end; one
behind zeros comes to the front when they are taken away. A plain number that is too long is told
from a word that is no number.
-/

namespace CursorScope

/-- Why a word is not the number that an option needs. -/
inductive NumberProblem where
  | notAnInteger
  | tooLong
  | negative
  deriving DecidableEq, Repr

/-- The text of a problem with a number. -/
def NumberProblem.message : NumberProblem → String
  | notAnInteger => "Input should be a valid integer, unable to parse string as an integer"
  | tooLong => "Unable to parse input string as an integer, exceeded maximum size"
  | negative => RangeError.negativeText

namespace Number

/-- The greatest length of a plain number, its sign included. -/
def lengthLimit : Nat := 4300

/-- A word without a plus sign in front. The sign stays before another sign. -/
def withoutPlus : List Char → List Char
  | '+' :: '-' :: rest => '+' :: '-' :: rest
  | '+' :: rest => rest
  | word => word

/-- A zero, or an underscore among zeros. -/
def isPadding (c : Char) : Bool := c == '0' || c == '_'

/-- A word without zeros in front and the underscores among them. The last of these characters
stays at the end of the word and before a point. -/
def withoutZeros (word : List Char) : List Char :=
  if word.head? = some '0' then
    let padding := word.takeWhile isPadding
    let rest := word.drop padding.length
    if rest.head?.all (· == '.') then word.drop (padding.length - 1) else rest
  else word

/-- A word without its fraction, if that is a point and at least one zero. -/
def withoutFraction (word : List Char) : List Char :=
  let whole := word.takeWhile (· != '.')
  match word.drop whole.length with
  | _ :: fraction => if !fraction.isEmpty && fraction.all (· == '0') then whole else word
  | [] => word

/-- A word without its underscores, if each of them stands between two other characters. -/
def withoutSeparators (word : List Char) : List Char :=
  let pieces := word.splitOn '_'
  if pieces.all (!·.isEmpty) then pieces.flatten else word

/-- What is left of a word behind its sign. -/
def unsigned (word : List Char) : List Char :=
  withoutSeparators (withoutFraction (withoutZeros word))

/-- The plain number in a word without blanks around it. -/
def plain (word : List Char) : List Char :=
  match withoutPlus word with
  | '-' :: rest => '-' :: unsigned rest
  | rest => unsigned rest

/-- The number of a sequence of digits with no superfluous zero in front, if there is room for the
digits that the word begins with. -/
def readMagnitude (room : Nat) (word : List Char) : Except NumberProblem Nat :=
  let digits := word.takeWhile Char.isDigit
  if digits.head? = some '0' ∧ word ≠ ['0'] then .error .notAnInteger
  else if room < digits.length then .error .tooLong
  else if digits = [] ∨ digits ≠ word then .error .notAnInteger
  else .ok (Text.ofDigitValues (digits.map (·.toNat - 0x30)))

/-- The integer of a plain number. -/
def readPlain : List Char → Except NumberProblem Int
  | '-' :: word => (readMagnitude (lengthLimit - 1) word).map fun n => -Int.ofNat n
  | word => (readMagnitude lengthLimit word).map Int.ofNat

/-- The integer that a word denotes. -/
def readInteger (text : String) : Except NumberProblem Int :=
  readPlain <| plain <|
    Text.dropEndWhile Text.isNumberPadding (text.toList.dropWhile Text.isNumberPadding)

/-- The natural number that a word denotes. -/
def readNatural (text : String) : Except NumberProblem Nat := do
  let n ← readInteger text
  if n < 0 then .error .negative else .ok n.toNat

/-- Digits and nothing else remain of what can be read. -/
theorem all_isDigit_of_readMagnitude {room n : Nat} {word : List Char}
    (h : readMagnitude room word = .ok n) : word.all Char.isDigit = true := by
  simp only [readMagnitude] at h
  split at h
  · cases h
  split at h
  · cases h
  split at h
  · cases h
  · rename_i hword
    rw [not_or, ne_eq, Decidable.not_not] at hword
    rw [← hword.2]
    exact List.all_takeWhile

/-- A natural number is an integer that is not negative. -/
theorem readNatural_eq_ok {text : String} {n : Nat} :
    readNatural text = .ok n ↔ readInteger text = .ok (n : Int) := by
  unfold readNatural
  cases readInteger text with
  | error e => simp [bind, Except.bind]
  | ok m =>
      simp only [bind, Except.bind, Except.ok.injEq]
      split
      · simp only [reduceCtorEq, false_iff]
        omega
      · simp only [Except.ok.injEq]
        omega

end Number

end CursorScope
