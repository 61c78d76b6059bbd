import CursorScope.Document
import CursorScope.Text.Columns
import CursorScope.Tree.Basic

/-!
# Nodes in a document

Where a node of a syntax tree lies in a document, and the text it covers there. A byte column
becomes the number of characters that lie wholly before it, and a row past the document has no
characters. The conversion keeps the order of points (`positionAt_mono`), so only a node that ends
before it starts has no range.
-/

namespace CursorScope

/-- The position of a point of a syntax tree. -/
def Document.positionAt (doc : Document) (point : Point) : Position :=
  match doc.lines[point.row]? with
  | none => ⟨point.row, 0⟩
  | some line => ⟨point.row, Text.charactersWithin line.toList point.column⟩

@[simp] theorem Document.line_positionAt (doc : Document) (point : Point) :
    (doc.positionAt point).line = point.row := by
  rw [positionAt]
  split <;> rfl

theorem Document.positionAt_eq {doc : Document} {point : Point} {line : String}
    (h : doc.lines[point.row]? = some line) :
    doc.positionAt point = ⟨point.row, Text.charactersWithin line.toList point.column⟩ := by
  rw [positionAt, h]

theorem Document.positionAt_of_none {doc : Document} {point : Point}
    (h : doc.lines[point.row]? = none) : doc.positionAt point = ⟨point.row, 0⟩ := by
  rw [positionAt, h]

/-- A later point has no earlier position. -/
theorem Document.positionAt_mono (doc : Document) {p q : Point} (h : p ≤ q) :
    doc.positionAt p ≤ doc.positionAt q := by
  rw [Position.le_def, line_positionAt, line_positionAt]
  rcases h with hrow | ⟨hrow, hcolumn⟩
  · exact .inl hrow
  · refine .inr ⟨hrow, ?_⟩
    rw [positionAt, positionAt, hrow]
    cases doc.lines[q.row]? with
    | none => exact Nat.le_refl 0
    | some line => exact Text.charactersWithin_mono _ hcolumn

namespace Node

/-- The range of a node in a document, which exists unless the node ends before it starts. -/
def range (node : Node) (doc : Document) : Except RangeError Range :=
  Range.between (doc.positionAt node.startPoint) (doc.positionAt node.endPoint)

/-- The text that a node covers. -/
def text (node : Node) (doc : Document) : Except RangeError String := do
  return doc.cut (← node.range doc)

/-- The text of a node from its start to the start of another node. -/
def textBefore (node other : Node) (doc : Document) : Except RangeError String := do
  let start := (← node.range doc).start
  let stop := (← other.range doc).start
  return doc.cut (.upTo start stop)

/-- The text of the first child under a field, empty when there is none. -/
def fieldText (node : Node) (field : String) (doc : Document) : Except RangeError String :=
  match node.child? field with
  | none => .ok ""
  | some child => child.text doc

theorem range_eq_ok {node : Node} (doc : Document) (h : node.startPoint ≤ node.endPoint) :
    node.range doc = .ok ⟨doc.positionAt node.startPoint, doc.positionAt node.endPoint,
      doc.positionAt_mono h⟩ :=
  Range.between_eq_ok _

end Node

end CursorScope
