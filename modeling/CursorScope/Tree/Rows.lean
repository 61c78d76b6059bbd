import CursorScope.Tree.Basic

/-!
# Tables of nodes

A syntax tree can be given as a table with a row for every node, each node before its children.
A row names its parent by the number of the parent's row. `Node.ofRows?` builds the tree; the
number of a row becomes the label of its node.
-/

namespace CursorScope

/-- A node without the nodes below it, and the number of the row of its parent. -/
structure Row where
  type : String
  named : Bool
  missing : Bool
  field : Option String
  parent : Nat
  startByte : Nat
  endByte : Nat
  startPoint : Point
  endPoint : Point

namespace Row

/-- The node of a row, with its label and its children. -/
def toNode (row : Row) (label : Nat) (children : List Node) : Node :=
  ⟨label, row.type, row.named, row.missing, row.field, row.startByte, row.endByte, row.startPoint,
    row.endPoint, children⟩

/-- The node of a numbered row joins the children of its parent. Slot `i` of `waiting` holds the
children of row `i` that have been met. -/
def place (numbered : Row × Nat) (waiting : Array (List Node)) : Array (List Node) :=
  let (row, label) := numbered
  let node := row.toNode label (waiting[label]?.getD [])
  waiting.modify row.parent (node :: ·)

end Row

/-- The tree of a table of rows, whose first row is the root. The rows are placed from the last
to the first, so every node is complete before it joins its parent. -/
def Node.ofRows? : List Row → Option Node
  | [] => none
  | root :: rest =>
      let slots := Array.replicate (rest.length + 1) []
      let waiting := (rest.zipIdx 1).foldr Row.place slots
      some (root.toNode 0 (waiting[0]?.getD []))

end CursorScope
