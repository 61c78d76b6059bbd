import CursorScope.Text.Lines
import CursorScope.Text.Quoted

/-!
# Code points

A text as it is given is a list of code points. Each of them is a character or a surrogate, which
stands for no character and has no encoding. `Text.encode` gives the characters of a text, or else
tells of the first surrogates in it.
-/

namespace CursorScope

/-- A code point: a character, or one of the 2048 surrogates, which count up from U+D800. -/
inductive CodePoint where
  | char (c : Char)
  | surrogate (index : Fin 2048)
  deriving DecidableEq, Repr

/-- A code point that stands for no character. -/
def CodePoint.isSurrogate : CodePoint → Bool
  | char _ => false
  | surrogate _ => true

/-- Why a text has no encoding: its first surrogate, the place of it, and the number of surrogates
that stand there in a row. -/
structure EncodingError where
  index : Fin 2048
  position : Nat
  count : Nat
  deriving DecidableEq, Repr

/-- The text of an encoding error. -/
def EncodingError.message (e : EncodingError) : String :=
  let problem :=
    if e.count = 1 then
      "character '\\u" ++ .ofList (Text.hexDigits 4 (0xD800 + e.index)) ++
        s!"' in position {e.position}"
    else s!"characters in position {e.position}-{e.position + e.count - 1}"
  "'utf-8' codec can't encode " ++ problem ++ ": surrogates not allowed"

namespace Text

/-- The characters of code points, the first of which stands at a position. -/
def encodeFrom (position : Nat) : List CodePoint → Except EncodingError (List Char)
  | [] => .ok []
  | .char c :: rest => (c :: ·) <$> encodeFrom (position + 1) rest
  | .surrogate index :: rest =>
      .error ⟨index, position, (rest.takeWhile (·.isSurrogate)).length + 1⟩

/-- The text of characters that code points make up. -/
def encode (points : List CodePoint) : Except EncodingError String :=
  .ofList <$> encodeFrom 0 points

/-- The code points of a text of characters. -/
def codePoints (text : String) : List CodePoint := text.toList.map .char

/-- The lines of a list of code points, each with the newline that ends it. -/
def codePointLines : List CodePoint → List (List CodePoint)
  | [] => []
  | point :: rest =>
      if point = .char '\n' then [point] :: codePointLines rest
      else match codePointLines rest with
        | [] => [[point]]
        | line :: following => (point :: line) :: following

end Text

end CursorScope
