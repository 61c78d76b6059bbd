import CursorScope.Proofs.Shape
import CursorScope.Tree.Location

/-!
# The extents of nodes

`Node.extent` is the range of a node that does not end before it starts. Because positions keep
the order of points, a node inside another one has its extent inside the other extent. A range
`Holds` a target when it contains it and neither merely touches it: then no range that stops before
the one or starts after it contains the target (`Holds.not_contains_before`,
`Holds.not_contains_after`).
-/

namespace CursorScope

namespace Range

/-- A range contains a target and reaches past its start and before its stop, so that the two do
not merely touch. -/
def Holds (range target : Range) : Prop :=
  range.contains target ∧ range.start < target.stop ∧ target.start < range.stop

variable {range target other : Range}

/-- A range holds every target in it that is not empty. -/
theorem Holds.of_contains (h : range.contains target) (htarget : target.isEmpty = false) :
    range.Holds target := by
  have hne : target.start ≠ target.stop := by simpa [isEmpty] using htarget
  have hlt : target.start < target.stop :=
    Position.not_le.1 fun hle => hne (Position.le_antisymm target.start_le_stop hle)
  obtain ⟨hstart, hstop⟩ := contains_iff.1 h
  refine ⟨h, ?_, ?_⟩
  · rw [Position.le_def, Position.lt_def] at *
    omega
  · rw [Position.le_def, Position.lt_def] at *
    omega

/-- A range holds every target that lies strictly between its ends. -/
theorem Holds.of_strictly_inside (hstart : range.start < target.start)
    (hstop : target.stop < range.stop) : range.Holds target := by
  have hle := target.start_le_stop
  rw [Position.le_def, Position.lt_def] at *
  refine ⟨contains_iff.2 ⟨?_, ?_⟩, ?_, ?_⟩
  · rw [Position.le_def]
    omega
  · rw [Position.le_def]
    omega
  · rw [Position.lt_def]
    omega
  · rw [Position.lt_def]
    omega

/-- A range around one that holds a target holds the target. -/
theorem Holds.of_contained (h : range.Holds target) (hother : other.contains range) :
    other.Holds target := by
  obtain ⟨hstart, hstop⟩ := contains_iff.1 hother
  obtain ⟨hcontains, hbefore, hafter⟩ := h
  refine ⟨contains_trans hother hcontains, ?_, ?_⟩
  · rw [Position.le_def, Position.lt_def] at *
    omega
  · rw [Position.le_def, Position.lt_def] at *
    omega

/-- A range that stops before another one starts contains nothing that the other one holds. -/
theorem Holds.not_contains_before (h : range.Holds target) (hother : other.stop ≤ range.start) :
    ¬ other.contains target := by
  intro hcontains
  have hstop := (contains_iff.1 hcontains).2
  have hbefore := h.2.1
  rw [Position.le_def, Position.lt_def] at *
  omega

/-- A range that starts after another one stops contains nothing that the other one holds. -/
theorem Holds.not_contains_after (h : range.Holds target) (hother : range.stop ≤ other.start) :
    ¬ other.contains target := by
  intro hcontains
  have hstart := (contains_iff.1 hcontains).1
  have hafter := h.2.2
  rw [Position.le_def, Position.lt_def] at *
  omega

theorem contains_antisymm (h : range.contains other) (h' : other.contains range) :
    range = other := by
  rw [contains_iff] at h h'
  cases range
  cases other
  simp only [mk.injEq]
  exact ⟨Position.le_antisymm h.1 h'.1, Position.le_antisymm h'.2 h.2⟩

end Range

namespace Node

/-- The range of a node, with the end moved to the start if it is before it. -/
def extent (node : Node) (doc : Document) : Range :=
  .upTo (doc.positionAt node.startPoint) (doc.positionAt node.endPoint)

variable (doc : Document) {node inner outer : Node}

theorem stop_extent (h : node.startPoint ≤ node.endPoint) :
    (node.extent doc).stop = doc.positionAt node.endPoint :=
  Range.stop_upTo (doc.positionAt_mono h)

/-- A node that does not end before it starts has its extent as range. -/
theorem range_eq_ok_extent (h : node.startPoint ≤ node.endPoint) :
    node.range doc = .ok (node.extent doc) := by
  rw [range_eq_ok doc h]
  simp only [extent, Range.upTo, Position.max_eq_right (doc.positionAt_mono h)]

theorem eq_extent_of_range {range : Range} (h : node.startPoint ≤ node.endPoint)
    (hrange : node.range doc = .ok range) : range = node.extent doc := by
  rw [range_eq_ok_extent doc h] at hrange
  exact (Except.ok.inj hrange).symm

/-- A node inside another one has its extent inside the other extent. -/
theorem extent_contains (houter : outer.startPoint ≤ outer.endPoint)
    (hinner : inner.startPoint ≤ inner.endPoint) (h : inner.Inside outer) :
    (outer.extent doc).contains (inner.extent doc) := by
  rw [Range.contains_iff, stop_extent doc houter, stop_extent doc hinner]
  exact ⟨doc.positionAt_mono h.1, doc.positionAt_mono h.2⟩

/-- The extent of the root of a nested tree contains that of each node of the tree. -/
theorem Nested.extent_contains {above : List Node} {site : Site} (h : node.Nested)
    (hsite : site ∈ node.sites above) : (node.extent doc).contains (site.node.extent doc) :=
  Node.extent_contains doc h.here.1 (h.of_mem_sites hsite).here.1 (h.inside_of_mem_sites hsite)

/-- Of separated siblings, a sibling of one that holds a target does not contain the target. -/
theorem filter_contains_eq_singleton {nodes : List Node} {target : Range}
    (hordered : ∀ node ∈ nodes, node.startPoint ≤ node.endPoint)
    (hpairwise : nodes.Pairwise fun first second => first.endPoint ≤ second.startPoint)
    (hnode : node ∈ nodes) (hholds : (node.extent doc).Holds target) :
    nodes.filter (fun node => (node.extent doc).contains target) = [node] := by
  induction nodes with
  | nil => cases hnode
  | cons first rest ih =>
      obtain ⟨hfirst, hrest⟩ := List.forall_mem_cons.1 hordered
      obtain ⟨hlater, hpairwise⟩ := List.pairwise_cons.1 hpairwise
      rcases List.mem_cons.1 hnode with rfl | hnode
      · -- Later siblings start after the target does, because the target starts before the stop.
        rw [List.filter_cons, if_pos hholds.1]
        have hnone : rest.filter (fun node => (node.extent doc).contains target) = [] := by
          refine List.filter_eq_nil_iff.2 fun other hother => hholds.not_contains_after ?_
          rw [stop_extent doc hfirst]
          exact doc.positionAt_mono (hlater other hother)
        rw [hnone]
      · have hbefore : ¬ (first.extent doc).contains target := by
          refine hholds.not_contains_before ?_
          rw [stop_extent doc hfirst]
          exact doc.positionAt_mono (hlater node hnode)
        rw [List.filter_cons, if_neg hbefore]
        exact ih hrest hpairwise hnode

end Node

end CursorScope
