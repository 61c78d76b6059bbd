import CursorScope.Tree.Basic

/-!
# Handles of nodes

An arena keeps the nodes that reports refer to, in the order in which they were added. A handle is
the place of a node in it, and a negative handle counts from the end. Handles stay valid when
nodes are added (`resolve?_addAll`).
-/

namespace CursorScope

/-- The nodes that handles refer to. -/
structure Arena where
  nodes : List Node

namespace Arena

/-- The arena without nodes. -/
def empty : Arena := ⟨[]⟩

/-- The number of nodes of an arena. -/
def size (arena : Arena) : Nat := arena.nodes.length

/-- The arena with more nodes at its end. -/
def addAll (arena : Arena) (nodes : List Node) : Arena := ⟨arena.nodes ++ nodes⟩

/-- The arena with one more node, whose handle is the former size. -/
def add (arena : Arena) (node : Node) : Arena := arena.addAll [node]

/-- The node of a handle. -/
def resolve? (arena : Arena) (handle : Int) : Option Node :=
  let place := if handle < 0 then handle + arena.size else handle
  if place < 0 then none else arena.nodes[place.toNat]?

theorem addAll_addAll (arena : Arena) (nodes others : List Node) :
    (arena.addAll nodes).addAll others = arena.addAll (nodes ++ others) :=
  congrArg mk (List.append_assoc ..)

theorem resolve?_natCast (arena : Arena) (handle : Nat) :
    arena.resolve? handle = arena.nodes[handle]? := by
  have h : ¬ (handle : Int) < 0 := by omega
  simp [resolve?, h]

/-- A handle refers to the same node after more nodes were added. -/
theorem resolve?_addAll {arena : Arena} {handle : Nat} (nodes : List Node)
    (h : handle < arena.size) : (arena.addAll nodes).resolve? handle = arena.resolve? handle := by
  rw [resolve?_natCast, resolve?_natCast]
  exact List.getElem?_append_left h

/-- The handles of added nodes count up from the size that the arena had before. -/
theorem resolve?_addAll_size_add (arena : Arena) (nodes : List Node) (i : Nat) :
    (arena.addAll nodes).resolve? (arena.size + i : Nat) = nodes[i]? := by
  rw [resolve?_natCast]
  show (arena.nodes ++ nodes)[arena.nodes.length + i]? = nodes[i]?
  rw [List.getElem?_append_right (Nat.le_add_right _ _), Nat.add_sub_cancel_left]

end Arena

end CursorScope
