import CursorScope.Proofs.Alike
import CursorScope.Tree.Parse
import Mathlib.Order.Monotone.Basic

/-!
# Trees with moved byte offsets

`Tree.moveBytes move` is a tree with the same points whose byte offsets went through `move`. If
`move` keeps the order of offsets strictly, the tree is refused exactly when the first one is
(`ParserAnswer.tree?_moveBytes`). Nothing else but the choice among several enclosing children
reads byte offsets, and `Node.alike_moveBytes` relates the nodes by whatever their points are.
-/

namespace CursorScope

namespace Node

mutual

/-- The node with the byte offsets of it and of all nodes below it moved. -/
def moveBytes (move : Nat → Nat) : Node → Node
  | ⟨label, type, named, missing, field, startByte, endByte, startPoint, endPoint, children⟩ =>
      ⟨label, type, named, missing, field, move startByte, move endByte, startPoint, endPoint,
        moveBytesOfAll move children⟩

/-- The nodes of a list with all their byte offsets moved. -/
def moveBytesOfAll (move : Nat → Nat) : List Node → List Node
  | [] => []
  | node :: rest => node.moveBytes move :: moveBytesOfAll move rest

end

variable (move : Nat → Nat)

theorem moveBytesOfAll_eq_map (nodes : List Node) :
    moveBytesOfAll move nodes = nodes.map (moveBytes move) := by
  induction nodes with
  | nil => rfl
  | cons node rest ih => rw [moveBytesOfAll, ih, List.map_cons]

theorem moveBytes_eq (node : Node) : node.moveBytes move =
    { node with
      startByte := move node.startByte
      endByte := move node.endByte
      children := node.children.map (moveBytes move) } := by
  cases node
  rw [moveBytes, moveBytesOfAll_eq_map]

@[simp] theorem type_moveBytes (node : Node) : (node.moveBytes move).type = node.type := by
  rw [moveBytes_eq]

@[simp] theorem named_moveBytes (node : Node) : (node.moveBytes move).named = node.named := by
  rw [moveBytes_eq]

@[simp] theorem missing_moveBytes (node : Node) :
    (node.moveBytes move).missing = node.missing := by
  rw [moveBytes_eq]

@[simp] theorem startByte_moveBytes (node : Node) :
    (node.moveBytes move).startByte = move node.startByte := by
  rw [moveBytes_eq]

@[simp] theorem endByte_moveBytes (node : Node) :
    (node.moveBytes move).endByte = move node.endByte := by
  rw [moveBytes_eq]

@[simp] theorem startPoint_moveBytes (node : Node) :
    (node.moveBytes move).startPoint = node.startPoint := by
  rw [moveBytes_eq]

@[simp] theorem endPoint_moveBytes (node : Node) :
    (node.moveBytes move).endPoint = node.endPoint := by
  rw [moveBytes_eq]

@[simp] theorem children_moveBytes (node : Node) :
    (node.moveBytes move).children = node.children.map (moveBytes move) := by
  rw [moveBytes_eq]

/-- What holds of all nodes of a tree in spite of moved bytes holds of all nodes of the tree with
moved bytes. -/
theorem All.moveBytes {p q : Node → Prop} {node : Node}
    (hpq : ∀ node, p node → q (node.moveBytes move)) (h : node.All p) :
    (node.moveBytes move).All q := by
  induction h with
  | @intro node here below ih =>
      refine .intro (hpq node here) fun child hchild => ?_
      rw [children_moveBytes] at hchild
      obtain ⟨original, horiginal, rfl⟩ := List.mem_map.1 hchild
      exact ih original horiginal

theorem Ordered.moveBytes {root : Node} (h : root.Ordered) : (root.moveBytes move).Ordered :=
  All.moveBytes move (fun node hnode => by simpa using hnode) h

/-- A tree is like the one with moved bytes. -/
theorem alike_moveBytes {same : Node → Node → Prop} {p : Node → Prop}
    (hsame : ∀ node, p node → same node (node.moveBytes move)) {node : Node} (h : node.All p) :
    node.Alike same (node.moveBytes move) := by
  induction h with
  | @intro node here below ih =>
      refine .intro (type_moveBytes move node).symm (named_moveBytes move node).symm ?_
        (hsame node here) ?_
      · rw [moveBytes_eq]
      · rw [children_moveBytes]
        exact List.forall₂_map_right_iff.2 (List.forall₂_same.2 ih)

/-! ## The start of a tree -/

theorem namedChildren_moveBytes (node : Node) :
    (node.moveBytes move).namedChildren = node.namedChildren.map (moveBytes move) := by
  rw [namedChildren, namedChildren, children_moveBytes, List.filter_map]
  exact congrArg (List.map _) (List.filter_congr fun child _ => named_moveBytes move child)

theorem firstConstruct?_moveBytes (root : Node) :
    (root.moveBytes move).firstConstruct? = root.firstConstruct?.map (moveBytes move) := by
  rw [firstConstruct?, firstConstruct?, namedChildren_moveBytes, List.find?_map]
  congr 2
  refine funext fun node => ?_
  rw [Function.comp_apply, type_moveBytes]

variable {move} (hmove : StrictMono move)

include hmove

theorem endsBefore_moveBytes (byte : Nat) (node : Node) :
    (node.moveBytes move).endsBefore (move byte) = node.endsBefore byte := by
  have hempty : (move node.startByte != move node.endByte) =
      (node.startByte != node.endByte) := by
    rw [Bool.eq_iff_iff, bne_iff_ne, bne_iff_ne]
    exact hmove.injective.ne_iff
  unfold endsBefore
  rw [startByte_moveBytes, endByte_moveBytes, hempty, decide_eq_decide.2 hmove.lt_iff_lt,
    decide_eq_decide.2 hmove.le_iff_le]

/-- Moving bytes moves the way to a byte. -/
theorem pathAmong_moveBytes (byte : Nat) {nodes : List Node}
    (h : ∀ node ∈ nodes,
      (node.moveBytes move).pathTo (move byte) = (node.pathTo byte).map (moveBytes move)) :
    pathAmong (move byte) (nodes.map (moveBytes move)) =
      (pathAmong byte nodes).map (moveBytes move) := by
  induction nodes with
  | nil => rfl
  | cons node rest ih =>
      obtain ⟨hnode, hrest⟩ := List.forall_mem_cons.1 h
      rw [List.map_cons, pathAmong, pathAmong, endsBefore_moveBytes hmove, startByte_moveBytes,
        if_congr hmove.lt_iff_lt rfl rfl, hnode, ih hrest]
      split
      · rfl
      · split
        · rfl
        · rfl

theorem pathTo_moveBytes (byte : Nat) (node : Node) :
    (node.moveBytes move).pathTo (move byte) = (node.pathTo byte).map (moveBytes move) := by
  induction node using inductionOnChildren with
  | step node ih =>
      rw [pathTo_eq, pathTo_eq, children_moveBytes]
      exact pathAmong_moveBytes hmove byte ih

theorem opensWithError_moveBytes (root : Node) :
    (root.moveBytes move).opensWithError = root.opensWithError := by
  unfold opensWithError
  rw [firstConstruct?_moveBytes]
  cases root.firstConstruct? with
  | none => rfl
  | some first =>
      rw [Option.map_some]
      dsimp only
      rw [startByte_moveBytes, pathTo_moveBytes hmove, List.any_map]
      congr 1
      refine funext fun node => ?_
      rw [Function.comp_apply, isFaulty, isFaulty, type_moveBytes, missing_moveBytes]

end Node

/-- The tree with all its byte offsets moved. -/
def Tree.moveBytes (move : Nat → Nat) (tree : Tree) : Tree :=
  ⟨tree.root.moveBytes move, tree.hasError⟩

/-- A tree with moved bytes is usable exactly when the tree is. -/
theorem ParserAnswer.tree?_moveBytes {move : Nat → Nat} (hmove : StrictMono move) (tree : Tree) :
    (parsed (tree.moveBytes move)).tree? = (parsed tree).tree?.map (·.moveBytes move) := by
  simp only [tree?, Tree.moveBytes, Node.type_moveBytes, Node.opensWithError_moveBytes hmove]
  split
  · rfl
  · rfl

end CursorScope
