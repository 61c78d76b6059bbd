import CursorScope.Text.Cut

/-!
# Documents

A document is a text by its lines, together with the place it comes from. Its lines are made of
characters, so they have an encoding. A text that may hold surrogates is a `RawDocument`, which has
a document only if it holds none. `Document.clamp` moves a range that points past the document back
onto it: a character past the width of its line goes to that width, and a line past the end goes to
the end of the document.
-/

namespace CursorScope

/-- A text by its lines, and the place it comes from, empty when there is none. -/
structure Document where
  lines : List String
  uri : String
  deriving DecidableEq

namespace Document

/-- The document of a text that comes from `uri`. -/
def ofText (text uri : String) : Document := ⟨Text.splitLines text, uri⟩

theorem uri_ofText (text uri : String) : (ofText text uri).uri = uri := rfl

/-- The name under which a document that comes from `uri` is spoken of in messages. -/
def nameOf (uri : String) : String := if uri.isEmpty then "<buffer>" else uri

/-- The position after the last character of a document, the ending of its last line left out. -/
def endPosition (doc : Document) : Position :=
  match doc.lines.getLast? with
  | none => ⟨0, 0⟩
  | some last => ⟨doc.lines.length - 1, Text.lineWidth last⟩

/-- The position itself where the document has it, and else the last one before it. -/
def clampPosition (doc : Document) (p : Position) : Position :=
  match doc.lines[p.line]? with
  | none => doc.endPosition
  | some line => ⟨p.line, min p.character (Text.lineWidth line)⟩

/-- The range with both ends moved onto the document. -/
def clamp (doc : Document) (range : Range) : Range :=
  .upTo (doc.clampPosition range.start) (doc.clampPosition range.stop)

/-- The text of a document that lies in a range. -/
def cut (doc : Document) (range : Range) : String := Text.cut doc.lines range

theorem clampPosition_eq {doc : Document} {p : Position} {line : String}
    (h : doc.lines[p.line]? = some line) :
    doc.clampPosition p = ⟨p.line, min p.character (Text.lineWidth line)⟩ := by
  rw [clampPosition, h]

theorem clampPosition_eq_endPosition {doc : Document} {p : Position}
    (h : doc.lines[p.line]? = none) : doc.clampPosition p = doc.endPosition := by
  rw [clampPosition, h]

end Document

end CursorScope
