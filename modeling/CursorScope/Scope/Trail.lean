import CursorScope.Tree.Location

/-!
# The trail of nodes around a target

The trail of a target starts at the root of a tree and goes on from each node to the child whose
range contains the target, as long as there is one. Of several such children the one that spans
the fewest bytes is followed, and of equals the first. The ranges of all children are looked at,
so the trail breaks off at a node with a child that ends before it starts.
-/

namespace CursorScope

/-- The first of the nodes that span the fewest bytes. -/
def narrowest? : List Node → Option Node
  | [] => none
  | node :: rest =>
      match narrowest? rest with
      | none => some node
      | some other => if other.byteSpan < node.byteSpan then some other else some node

theorem mem_of_narrowest? {nodes : List Node} {node : Node} (h : narrowest? nodes = some node) :
    node ∈ nodes := by
  induction nodes generalizing node with
  | nil => cases h
  | cons first rest ih =>
      rw [narrowest?] at h
      split at h
      · cases h
        exact List.mem_cons_self
      · rename_i other hother
        split at h
        · cases h
          exact List.mem_cons_of_mem _ (ih hother)
        · cases h
          exact List.mem_cons_self

namespace Node

/-- The nodes whose ranges contain the target, if all nodes have a range. -/
def enclosing (target : Range) (doc : Document) : List Node → Except RangeError (List Node)
  | [] => .ok []
  | node :: rest => do
      let range ← node.range doc
      let others ← enclosing target doc rest
      return if range.contains target then node :: others else others

/-- The child of a node that a trail goes on to. -/
def enclosingChild? (node : Node) (target : Range) (doc : Document) :
    Except RangeError (Option Node) :=
  narrowest? <$> enclosing target doc node.children

theorem mem_of_mem_enclosing {target : Range} {doc : Document} {nodes found : List Node}
    (h : enclosing target doc nodes = .ok found) {node : Node} (hnode : node ∈ found) :
    node ∈ nodes := by
  induction nodes generalizing found with
  | nil =>
      cases h
      exact hnode
  | cons first rest ih =>
      simp only [enclosing, bind, Except.bind] at h
      split at h
      · cases h
      · split at h
        · cases h
        · rename_i range _ others hothers
          cases h
          split at hnode
          · rcases List.mem_cons.1 hnode with rfl | hnode
            · exact List.mem_cons_self
            · exact List.mem_cons_of_mem _ (ih hothers hnode)
          · exact List.mem_cons_of_mem _ (ih hothers hnode)

theorem mem_children_of_enclosingChild? {node child : Node} {target : Range} {doc : Document}
    (h : node.enclosingChild? target doc = .ok (some child)) : child ∈ node.children := by
  unfold enclosingChild? at h
  cases hfound : enclosing target doc node.children with
  | error e =>
      rw [hfound] at h
      cases h
  | ok found =>
      rw [hfound] at h
      exact mem_of_mem_enclosing hfound (mem_of_narrowest? (Except.ok.inj h))

end Node

/-- The sites on the way to a target, the outermost first, and the failure that broke it off. -/
structure Trail where
  sites : List Site
  failure : Option RangeError

/-- The trail of a target from a site on. -/
def Site.trail (site : Site) (target : Range) (doc : Document) : Trail :=
  match _h : site.node.enclosingChild? target doc with
  | .error failure => ⟨[site], some failure⟩
  | .ok none => ⟨[site], none⟩
  | .ok (some child) =>
      let rest := (site.below child).trail target doc
      ⟨site :: rest.sites, rest.failure⟩
termination_by sizeOf site.node
decreasing_by
  exact Node.sizeOf_lt_of_mem_children (Node.mem_children_of_enclosingChild? _h)

namespace Site

variable {site : Site} {target : Range} {doc : Document}

/-- A trail ends at a node without a child that encloses the target. -/
theorem trail_of_none (h : site.node.enclosingChild? target doc = .ok none) :
    site.trail target doc = ⟨[site], none⟩ := by
  rw [trail]
  split <;> simp_all

/-- A trail breaks off at a node with a child without a range. -/
theorem trail_of_error {failure : RangeError}
    (h : site.node.enclosingChild? target doc = .error failure) :
    site.trail target doc = ⟨[site], some failure⟩ := by
  rw [trail]
  split <;> simp_all

/-- A trail goes on to the child that encloses the target. -/
theorem trail_of_some {child : Node}
    (h : site.node.enclosingChild? target doc = .ok (some child)) :
    site.trail target doc =
      ⟨site :: ((site.below child).trail target doc).sites,
        ((site.below child).trail target doc).failure⟩ := by
  rw [trail]
  split <;> simp_all

end Site

end CursorScope
