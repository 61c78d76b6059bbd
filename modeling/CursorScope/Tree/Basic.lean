/-!
# Syntax trees

A syntax tree is a rose tree of nodes. A node knows its type, whether it is named or stands for
missing text, the field under which its parent holds it, and the stretch of the text it covers,
both in bytes and in points. Nothing relates these numbers: a node may cover text that its parent
does not, and may even end before it starts. The label of a node is its place in the preorder of
the tree, by which reports refer to it.
-/

namespace CursorScope

/-- A place in a text as a syntax tree counts it: a zero-based row, and a column in bytes. -/
structure Point where
  row : Nat
  column : Nat
  deriving DecidableEq, Repr, Inhabited

namespace Point

/-- Points are compared by row, and on one row by column. -/
instance : LE Point :=
  ⟨fun p q => p.row < q.row ∨ p.row = q.row ∧ p.column ≤ q.column⟩

theorem le_def {p q : Point} :
    p ≤ q ↔ p.row < q.row ∨ p.row = q.row ∧ p.column ≤ q.column := Iff.rfl

instance (p q : Point) : Decidable (p ≤ q) := decidable_of_iff _ le_def.symm

theorem le_refl (p : Point) : p ≤ p := .inr ⟨rfl, Nat.le_refl _⟩

theorem le_trans {p q r : Point} (hpq : p ≤ q) (hqr : q ≤ r) : p ≤ r := by
  rw [le_def] at *
  omega

end Point

/-- A node of a syntax tree with the nodes below it. -/
structure Node where
  label : Nat
  type : String
  named : Bool
  missing : Bool
  field : Option String
  startByte : Nat
  endByte : Nat
  startPoint : Point
  endPoint : Point
  children : List Node
  deriving Inhabited

/-- A syntax tree, and whether an error was met anywhere in it. -/
structure Tree where
  root : Node
  hasError : Bool

namespace Node

/-- The named children of a node, in order. -/
def namedChildren (node : Node) : List Node := node.children.filter (·.named)

/-- The first child that a node holds under a field. -/
def child? (node : Node) (field : String) : Option Node :=
  node.children.find? (·.field == some field)

/-- All children that a node holds under a field, in order. -/
def childrenAt (node : Node) (field : String) : List Node :=
  node.children.filter (·.field == some field)

/-- The number of bytes between the start and the end of a node, negative when it ends before it
starts. -/
def byteSpan (node : Node) : Int := (node.endByte : Int) - node.startByte

/-- A child has fewer nodes below it than its parent. -/
theorem sizeOf_lt_of_mem_children {node child : Node} (h : child ∈ node.children) :
    sizeOf child < sizeOf node := by
  cases node
  have hlist := List.sizeOf_lt_of_mem h
  simp only [mk.sizeOf_spec] at hlist ⊢
  omega

theorem mem_children_of_mem_namedChildren {node child : Node} (h : child ∈ node.namedChildren) :
    child ∈ node.children :=
  (List.mem_filter.1 h).1

theorem mem_children_of_child? {node child : Node} {field : String}
    (h : node.child? field = some child) : child ∈ node.children :=
  List.mem_of_find?_eq_some h

end Node

/-- A node at its place in a tree: the node and the nodes above it, its parent first. -/
structure Site where
  node : Node
  above : List Node
  deriving Inhabited

namespace Site

/-- The site of a node that nothing is above. -/
def ofRoot (root : Node) : Site := ⟨root, []⟩

/-- The node right above a site. -/
def parent? (site : Site) : Option Node := site.above.head?

/-- The site of a child of the node at a site. -/
def below (site : Site) (child : Node) : Site := ⟨child, site.node :: site.above⟩

/-- The sites of the children of the node at a site. -/
def children (site : Site) : List Site := site.node.children.map site.below

end Site

mutual

/-- The sites of a node and of all nodes below it, every node before its children. -/
def Node.sites (above : List Node) : Node → List Site
  | node@⟨_, _, _, _, _, _, _, _, _, children⟩ =>
      ⟨node, above⟩ :: Node.sitesOfAll (node :: above) children

/-- The sites of a list of siblings and of all nodes below them. -/
def Node.sitesOfAll (above : List Node) : List Node → List Site
  | [] => []
  | child :: rest => child.sites above ++ Node.sitesOfAll above rest

end

theorem Node.sites_eq (above : List Node) (node : Node) :
    node.sites above = ⟨node, above⟩ :: Node.sitesOfAll (node :: above) node.children := by
  cases node
  rw [Node.sites]

/-- The sites of all nodes of a tree, in the order of their labels. -/
def Tree.sites (tree : Tree) : List Site := tree.root.sites []

end CursorScope
