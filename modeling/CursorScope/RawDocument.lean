import CursorScope.Document
import CursorScope.Text.CodePoint
import CursorScope.Tree.Parse

/-!
# Raw documents

A raw document is a document as it is given, with code points in place of characters. Its text goes
to a parser, and its lines are searched for the nodes of a tree. Both of them have to be encoded
first.
-/

namespace CursorScope

/-- A document as it is given: its text, the lines of it, and the place that it comes from, empty
when there is none. -/
structure RawDocument where
  content : List CodePoint
  lines : List (List CodePoint)
  uri : String
  deriving DecidableEq

namespace RawDocument

/-- The raw document of a text that comes from `uri`. -/
def ofText (content : List CodePoint) (uri : String) : RawDocument :=
  ⟨content, Text.codePointLines content, uri⟩

/-- The document of a raw document, if all lines have an encoding. -/
def encoded (doc : RawDocument) : Except EncodingError Document := do
  return ⟨← doc.lines.mapM Text.encode, doc.uri⟩

/-- The answer for a raw document, given the answer of the parser to its encoded text. A text
without an encoding never gets to the parser, which is as if the parser complained of it. -/
def answer (doc : RawDocument) (answer : ParserAnswer) : ParserAnswer :=
  match Text.encode doc.content with
  | .error e => .complaint e.message
  | .ok _ => answer

end RawDocument

end CursorScope
