import CursorScope.Proofs.Extent
import CursorScope.Scope.Trail

/-!
# The descent to a target

`Descent doc target site sites` says which sites the way from `site` to `target` leads over.
`trail_eq_iff_descent` shows that a trail without a failure is exactly such a way, and an ordered
tree has no other trails (`Ordered.descent_trail`). In a nested tree each site of a descent lies
inside the sites before it (`Descent.pairwise_extent_contains`). In a nested tree with separated
siblings the descent misses no site whose extent holds the target (`Descent.mem_of_holds`).
-/

namespace CursorScope

/-- `Descent doc target site sites` says that the way from `site` to `target` leads over `sites`:
from each to the enclosing child that a trail goes on to, down to a site without one. -/
inductive Descent (doc : Document) (target : Range) : Site → List Site → Prop where
  | stop {site : Site} (hnone : site.node.enclosingChild? target doc = .ok none) :
      Descent doc target site [site]
  | step {site : Site} {child : Node} {sites : List Site}
      (hchild : site.node.enclosingChild? target doc = .ok (some child))
      (rest : Descent doc target (site.below child) sites) :
      Descent doc target site (site :: sites)

variable {doc : Document} {target : Range}

theorem Descent.trail_eq {site : Site} {sites : List Site} (h : Descent doc target site sites) :
    site.trail target doc = ⟨sites, none⟩ := by
  induction h with
  | stop hnone => exact Site.trail_of_none hnone
  | step hchild _ ih => rw [Site.trail_of_some hchild, ih]

theorem descent_of_trail_eq {site : Site} {sites : List Site}
    (h : site.trail target doc = ⟨sites, none⟩) : Descent doc target site sites := by
  obtain ⟨node, above⟩ := site
  -- The nodes above a site play no part in where its trail goes, so the induction is on the node.
  induction node using Node.inductionOnChildren generalizing above sites with
  | step node ih =>
      cases hnext : node.enclosingChild? target doc with
      | error failure =>
          rw [Site.trail_of_error hnext] at h
          cases h
      | ok next =>
          cases next with
          | none =>
              rw [Site.trail_of_none hnext] at h
              cases h
              exact .stop hnext
          | some child =>
              rw [Site.trail_of_some hnext, Trail.mk.injEq] at h
              obtain ⟨rfl, hfailure⟩ := h
              have hmem := Node.mem_children_of_enclosingChild? hnext
              refine .step hnext (ih child hmem _ ?_)
              rw [← hfailure]
              rfl

/-- A trail without a failure is a descent, and a descent is a trail without a failure. -/
theorem trail_eq_iff_descent {site : Site} {sites : List Site} :
    site.trail target doc = ⟨sites, none⟩ ↔ Descent doc target site sites :=
  ⟨descent_of_trail_eq, Descent.trail_eq⟩

/-- A descent is determined by its start and its target. -/
theorem Descent.unique {site : Site} {sites others : List Site}
    (h : Descent doc target site sites) (hothers : Descent doc target site others) :
    sites = others :=
  congrArg Trail.sites (h.trail_eq.symm.trans hothers.trail_eq)

namespace Node

/-- Nodes that do not end before they start all have ranges, so the enclosing ones among them are
those whose extents contain the target. -/
theorem enclosing_eq_filter {nodes : List Node}
    (h : ∀ node ∈ nodes, node.startPoint ≤ node.endPoint) :
    enclosing target doc nodes =
      .ok (nodes.filter fun node => (node.extent doc).contains target) := by
  induction nodes with
  | nil => rfl
  | cons node rest ih =>
      obtain ⟨hnode, hrest⟩ := List.forall_mem_cons.1 h
      rw [enclosing, range_eq_ok_extent doc hnode, ih hrest, List.filter_cons]
      rfl

theorem Ordered.enclosingChild?_eq {node : Node} (h : node.Ordered) :
    node.enclosingChild? target doc =
      .ok (narrowest? (node.children.filter fun child => (child.extent doc).contains target)) := by
  rw [enclosingChild?, enclosing_eq_filter fun child hchild => (h.child hchild).here]
  rfl

/-- The child that a descent goes on to contains the target. -/
theorem Ordered.contains_of_enclosingChild? {node child : Node} (h : node.Ordered)
    (hchild : node.enclosingChild? target doc = .ok (some child)) :
    (child.extent doc).contains target := by
  rw [h.enclosingChild?_eq] at hchild
  have hmem := mem_of_narrowest? (Except.ok.inj hchild)
  simpa using (List.mem_filter.1 hmem).2

/-- Of separated children, the one that holds the target is the only one that encloses it. -/
theorem Nested.enclosingChild?_of_holds {node child : Node} (h : node.Nested)
    (hseparated : node.Separated) (hchild : child ∈ node.children)
    (hholds : (child.extent doc).Holds target) :
    node.enclosingChild? target doc = .ok (some child) := by
  have hordered (other : Node) (hother : other ∈ node.children) :
      other.startPoint ≤ other.endPoint := (h.child hother).ordered.here
  have hpairwise := pairwise_of_isChain hordered hseparated.here
  rw [h.ordered.enclosingChild?_eq,
    filter_contains_eq_singleton doc hordered hpairwise hchild hholds]
  rfl

/-- Of separated children, at most one contains a target that is not empty. -/
theorem Ordered.length_filter_contains_le_one {node : Node} (h : node.Ordered) (doc : Document)
    (hseparated : node.Separated) (htarget : target.isEmpty = false) :
    (node.children.filter fun child => (child.extent doc).contains target).length ≤ 1 := by
  have hordered (child : Node) (hchild : child ∈ node.children) :
      child.startPoint ≤ child.endPoint := (h.child hchild).here
  cases hfound : node.children.filter fun child => (child.extent doc).contains target with
  | nil => exact Nat.zero_le 1
  | cons child rest =>
      have hmem := List.mem_filter.1 (hfound ▸ List.mem_cons_self)
      have hholds := Range.Holds.of_contains hmem.2 htarget
      rw [← hfound, filter_contains_eq_singleton doc hordered
        (pairwise_of_isChain hordered hseparated.here) hmem.1 hholds]
      exact Nat.le_refl 1

/-- Every trail in an ordered tree is a descent. -/
theorem Ordered.descent_trail {node : Node} (h : node.Ordered) (above : List Node) :
    Descent doc target ⟨node, above⟩ (Site.trail ⟨node, above⟩ target doc).sites := by
  induction h generalizing above with
  | @intro node here below ih =>
      have hnext : node.enclosingChild? target doc = .ok (narrowest? _) :=
        Ordered.enclosingChild?_eq (.intro here below)
      cases hfound : narrowest? (node.children.filter fun c => (c.extent doc).contains target) with
      | none =>
          rw [hfound] at hnext
          rw [Site.trail_of_none hnext]
          exact .stop hnext
      | some child =>
          rw [hfound] at hnext
          rw [Site.trail_of_some hnext]
          exact .step hnext (ih child (mem_children_of_enclosingChild? hnext) _)

end Node

namespace Descent

variable {site : Site} {sites : List Site}

/-- A descent leads over sites of the tree. -/
theorem mem_sites (h : Descent doc target site sites) :
    ∀ other ∈ sites, other ∈ site.node.sites site.above := by
  induction h with
  | stop =>
      intro other hother
      rw [List.mem_singleton.1 hother]
      exact Node.mem_sites_self _ _
  | step hchild _ ih =>
      intro other hother
      rcases List.mem_cons.1 hother with rfl | hother
      · exact Node.mem_sites_self _ _
      · have hmem := Node.mem_children_of_enclosingChild? hchild
        exact Node.mem_sites_of_child hmem (ih other hother)

/-- The sites of a descent after the first one have more nodes above them than the first one. -/
theorem depth_le (h : Descent doc target site sites) :
    ∀ other ∈ sites, site.above.length ≤ other.above.length := by
  induction h with
  | stop =>
      intro other hother
      rw [List.mem_singleton.1 hother]
  | step _ _ ih =>
      intro other hother
      rcases List.mem_cons.1 hother with rfl | hother
      · exact Nat.le_refl _
      · exact Nat.le_of_succ_le (ih other hother)

/-- Each site of a descent is deeper in the tree than the sites before it. -/
theorem pairwise_depth_lt (h : Descent doc target site sites) :
    sites.Pairwise fun outer inner => outer.above.length < inner.above.length := by
  induction h with
  | stop => exact List.pairwise_singleton _ _
  | step _ rest ih =>
      exact List.pairwise_cons.2 ⟨fun other hother => rest.depth_le other hother, ih⟩

/-- All sites of a descent but the first contain the target. -/
theorem contains_target (h : Descent doc target site sites) (hordered : site.node.Ordered) :
    ∀ other ∈ sites, other = site ∨ (other.node.extent doc).contains target := by
  induction h with
  | stop => exact fun other hother => .inl (List.mem_singleton.1 hother)
  | @step site child sites hchild _ ih =>
      intro other hother
      rcases List.mem_cons.1 hother with rfl | hother
      · exact .inl rfl
      · have hmem := Node.mem_children_of_enclosingChild? hchild
        refine .inr ?_
        rcases ih (hordered.child hmem) other hother with rfl | hcontains
        · exact hordered.contains_of_enclosingChild? hchild
        · exact hcontains

/-- In a nested tree each site of a descent lies inside the sites before it. -/
theorem pairwise_extent_contains (h : Descent doc target site sites)
    (hnested : site.node.Nested) :
    sites.Pairwise fun outer inner => (outer.node.extent doc).contains (inner.node.extent doc) := by
  induction h with
  | stop => exact List.pairwise_singleton _ _
  | step hchild rest ih =>
      have hmem := Node.mem_children_of_enclosingChild? hchild
      refine List.pairwise_cons.2 ⟨fun other hother => ?_, ih (hnested.child hmem)⟩
      exact hnested.extent_contains doc (Node.mem_sites_of_child hmem (rest.mem_sites other hother))

/-- In a nested tree with separated siblings a descent leads over every site whose extent holds
the target. -/
theorem mem_of_holds (h : Descent doc target site sites) (hnested : site.node.Nested)
    (hseparated : site.node.Separated) {other : Site}
    (hother : other ∈ site.node.sites site.above) (hholds : (other.node.extent doc).Holds target) :
    other ∈ sites := by
  induction h with
  | @stop site hnone =>
      rcases Node.mem_sites_iff.1 hother with rfl | ⟨child, hchild, hbelow⟩
      · exact List.mem_singleton_self _
      · -- The child above the site holds the target too, and the descent would have entered it.
        have hcontains := (hnested.child hchild).extent_contains doc hbelow
        rw [hnested.enclosingChild?_of_holds hseparated hchild (hholds.of_contained hcontains)]
          at hnone
        cases hnone
  | @step site entered sites hentered _ ih =>
      rcases Node.mem_sites_iff.1 hother with rfl | ⟨child, hchild, hbelow⟩
      · exact List.mem_cons_self
      · have hcontains := (hnested.child hchild).extent_contains doc hbelow
        rw [hnested.enclosingChild?_of_holds hseparated hchild (hholds.of_contained hcontains)]
          at hentered
        cases hentered
        exact List.mem_cons_of_mem _ (ih (hnested.child hchild) (hseparated.child hchild) hbelow)

end Descent

end CursorScope
