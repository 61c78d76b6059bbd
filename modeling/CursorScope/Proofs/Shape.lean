import CursorScope.Tree.Basic
import Mathlib.Data.List.Chain

/-!
# Shapes of syntax trees

What may be asked of the points of a tree. `Node.All p` says `p` of a node and of all nodes below
it. A tree is `Ordered` when no node ends before it starts, `Nested` when moreover every child
lies inside its parent, and `Separated` when of neighbouring siblings the first ends before the
second starts. `Node.all_iff_sites` reads `All` as a statement about the sites of a tree.
-/

namespace CursorScope

namespace Node

/-- What holds of a node when it holds of all its children holds of every node. -/
theorem inductionOnChildren {motive : Node → Prop}
    (step : ∀ node, (∀ child ∈ node.children, motive child) → motive node) (node : Node) :
    motive node :=
  step node fun child _ => inductionOnChildren step child
termination_by sizeOf node
decreasing_by exact sizeOf_lt_of_mem_children ‹_›

/-- The node and all nodes below it satisfy `p`. -/
inductive All (p : Node → Prop) : Node → Prop where
  | intro {node : Node} (here : p node) (below : ∀ child ∈ node.children, All p child) :
      All p node

namespace All

variable {p q : Node → Prop} {node : Node}

theorem here (h : node.All p) : p node := by
  cases h with
  | intro here _ => exact here

theorem child (h : node.All p) {child : Node} (hchild : child ∈ node.children) : child.All p := by
  cases h with
  | intro _ below => exact below child hchild

theorem mono (h : node.All p) (hpq : ∀ node, p node → q node) : node.All q := by
  induction h with
  | intro here _ ih => exact .intro (hpq _ here) ih

end All

/-- No node of the tree ends before it starts. -/
def Ordered (root : Node) : Prop := root.All fun node => node.startPoint ≤ node.endPoint

/-- A node lies inside another one. -/
def Inside (inner outer : Node) : Prop :=
  outer.startPoint ≤ inner.startPoint ∧ inner.endPoint ≤ outer.endPoint

/-- No node of the tree ends before it starts, and every child lies inside its parent. -/
def Nested (root : Node) : Prop :=
  root.All fun node => node.startPoint ≤ node.endPoint ∧ ∀ child ∈ node.children, child.Inside node

/-- Of neighbouring siblings anywhere in the tree, the first ends before the second starts. -/
def Separated (root : Node) : Prop :=
  root.All fun node => node.children.IsChain fun first second => first.endPoint ≤ second.startPoint

instance (inner outer : Node) : Decidable (inner.Inside outer) :=
  inferInstanceAs (Decidable (_ ∧ _))

theorem Ordered.child {node child : Node} (h : node.Ordered) (hchild : child ∈ node.children) :
    child.Ordered := All.child h hchild

theorem Nested.child {node child : Node} (h : node.Nested) (hchild : child ∈ node.children) :
    child.Nested := All.child h hchild

theorem Separated.child {node child : Node} (h : node.Separated) (hchild : child ∈ node.children) :
    child.Separated := All.child h hchild

theorem Nested.ordered {root : Node} (h : root.Nested) : root.Ordered := h.mono fun _ h => h.1

theorem Inside.refl (node : Node) : node.Inside node := ⟨Point.le_refl _, Point.le_refl _⟩

theorem Inside.trans {inner middle outer : Node} (h : inner.Inside middle)
    (h' : middle.Inside outer) : inner.Inside outer :=
  ⟨Point.le_trans h'.1 h.1, Point.le_trans h.2 h'.2⟩

/-! ## The sites of a tree -/

theorem sitesOfAll_eq_flatMap (above nodes : List Node) :
    sitesOfAll above nodes = nodes.flatMap (·.sites above) := by
  induction nodes with
  | nil => rfl
  | cons node rest ih => rw [sitesOfAll, ih, List.flatMap_cons]

/-- A site of a tree is that of its root, or a site below one of the children of the root. -/
theorem mem_sites_iff {above : List Node} {node : Node} {site : Site} :
    site ∈ node.sites above ↔
      site = ⟨node, above⟩ ∨ ∃ child ∈ node.children, site ∈ child.sites (node :: above) := by
  rw [sites_eq, sitesOfAll_eq_flatMap, List.mem_cons, List.mem_flatMap]

theorem mem_sites_self (above : List Node) (node : Node) : ⟨node, above⟩ ∈ node.sites above :=
  mem_sites_iff.2 (.inl rfl)

theorem mem_sites_of_child {above : List Node} {node child : Node} {site : Site}
    (hchild : child ∈ node.children) (h : site ∈ child.sites (node :: above)) :
    site ∈ node.sites above :=
  mem_sites_iff.2 (.inr ⟨child, hchild, h⟩)

variable {p : Node → Prop} {above : List Node} {node : Node} {site : Site}

/-- What holds of a tree as a whole holds of the tree below each of its sites. -/
theorem All.of_mem_sites (h : node.All p) (hsite : site ∈ node.sites above) : site.node.All p := by
  induction h generalizing above with
  | @intro node here below ih =>
      rcases mem_sites_iff.1 hsite with rfl | ⟨child, hchild, hsite⟩
      · exact .intro here below
      · exact ih child hchild hsite

/-- What holds of a tree as a whole holds of the trees above each of its sites. -/
theorem All.of_mem_above (h : node.All p) (habove : ∀ other ∈ above, other.All p)
    (hsite : site ∈ node.sites above) : ∀ other ∈ site.above, other.All p := by
  induction h generalizing above with
  | @intro node here below ih =>
      rcases mem_sites_iff.1 hsite with rfl | ⟨child, hchild, hsite⟩
      · exact habove
      · exact ih child hchild (List.forall_mem_cons.2 ⟨.intro here below, habove⟩) hsite

/-- `All p` says `p` of the node at every site of the tree. -/
theorem all_iff_sites (above : List Node) :
    node.All p ↔ ∀ site ∈ node.sites above, p site.node := by
  constructor
  · intro h site hsite
    exact (h.of_mem_sites hsite).here
  · intro h
    induction node using inductionOnChildren generalizing above with
    | step node ih =>
        refine .intro (h _ (mem_sites_self above node)) fun child hchild => ?_
        exact ih child hchild _ fun site hsite => h site (mem_sites_of_child hchild hsite)

theorem All.and {q : Node → Prop} (hp : node.All p) (hq : node.All q) :
    node.All fun node => p node ∧ q node := by
  induction hp with
  | intro here _ ih =>
      exact .intro ⟨here, hq.here⟩ fun child hchild => ih child hchild (hq.child hchild)

/-- Each site of a nested tree lies inside the root of the tree. -/
theorem Nested.inside_of_mem_sites (h : node.Nested) (hsite : site ∈ node.sites above) :
    site.node.Inside node := by
  induction h generalizing above with
  | @intro node here below ih =>
      rcases mem_sites_iff.1 hsite with rfl | ⟨child, hchild, hsite⟩
      · exact .refl _
      · exact (ih child hchild hsite).trans (here.2 child hchild)

/-- Of two siblings anywhere in a list of separated ones, the first ends before the second
starts. -/
theorem pairwise_of_isChain {nodes : List Node}
    (hnodes : ∀ node ∈ nodes, node.startPoint ≤ node.endPoint)
    (h : nodes.IsChain fun first second => first.endPoint ≤ second.startPoint) :
    nodes.Pairwise fun first second => first.endPoint ≤ second.startPoint := by
  induction nodes with
  | nil => exact .nil
  | cons first rest ih =>
      have hrest := ih (fun node hnode => hnodes node (List.mem_cons_of_mem _ hnode))
        (List.isChain_of_isChain_cons h)
      refine List.pairwise_cons.2 ⟨fun other hother => ?_, hrest⟩
      cases rest with
      | nil => cases hother
      | cons second rest =>
          have hsecond : first.endPoint ≤ second.startPoint := (List.isChain_cons_cons.1 h).1
          rcases List.mem_cons.1 hother with rfl | hother
          · exact hsecond
          · have hlater := (List.pairwise_cons.1 hrest).1 other hother
            have hlength := hnodes second (by simp)
            exact Point.le_trans hsecond (Point.le_trans hlength hlater)

end Node

end CursorScope
