import CursorScope.Proofs.Runs
import CursorScope.Proofs.Shift

/-!
# Moved nodes

A copy of a tree may stand elsewhere in another document: `k` rows and some bytes further on, with
the rows of the tree shared by both documents. A copied node has the same text
(`MovedBy.reading`), and the descent to a target goes over copied sites
(`Descent.exists_moved`). So the scopes that are reported are the same up to a shift
(`Language.reports_moved`), and so are those of them that stay in a chain
(`innermostOfRanges_moved`).
-/

namespace CursorScope

variable {k bytes : Int} {first last : Nat} {doc otherDoc : Document}

/-- A node on the rows `first` through `last`, and one that stands `k` rows and `bytes` bytes
further on. -/
structure Node.MovedBy (k bytes : Int) (first last : Nat) (node other : Node) : Prop where
  ordered : node.startPoint ≤ node.endPoint
  first_le : first ≤ node.startPoint.row
  le_last : node.endPoint.row ≤ last
  startRow : (other.startPoint.row : Int) = node.startPoint.row + k
  startColumn : other.startPoint.column = node.startPoint.column
  endRow : (other.endPoint.row : Int) = node.endPoint.row + k
  endColumn : other.endPoint.column = node.endPoint.column
  startByte : (other.startByte : Int) = node.startByte + bytes
  endByte : (other.endByte : Int) = node.endByte + bytes

instance (node other : Node) : Decidable (node.MovedBy k bytes first last other) :=
  decidable_of_iff (node.startPoint ≤ node.endPoint ∧ first ≤ node.startPoint.row ∧
      node.endPoint.row ≤ last ∧ (other.startPoint.row : Int) = node.startPoint.row + k ∧
      other.startPoint.column = node.startPoint.column ∧
      (other.endPoint.row : Int) = node.endPoint.row + k ∧
      other.endPoint.column = node.endPoint.column ∧
      (other.startByte : Int) = node.startByte + bytes ∧
      (other.endByte : Int) = node.endByte + bytes)
    ⟨fun ⟨a, b, c, d, e, f, g, h, i⟩ => ⟨a, b, c, d, e, f, g, h, i⟩,
      fun ⟨a, b, c, d, e, f, g, h, i⟩ => ⟨a, b, c, d, e, f, g, h, i⟩⟩

namespace Node.MovedBy

variable {node other : Node}

theorem startRow_le_endRow (h : node.MovedBy k bytes first last other) :
    node.startPoint.row ≤ node.endPoint.row := by
  have hle := h.ordered
  rw [Point.le_def] at hle
  omega

theorem startRow_le_last (h : node.MovedBy k bytes first last other) :
    node.startPoint.row ≤ last := Nat.le_trans h.startRow_le_endRow h.le_last

theorem ordered_other (h : node.MovedBy k bytes first last other) :
    other.startPoint ≤ other.endPoint := by
  have hle := h.ordered
  have hstart := h.startRow
  have hend := h.endRow
  rw [Point.le_def] at hle ⊢
  rw [h.startColumn, h.endColumn]
  omega

theorem byteSpan_eq (h : node.MovedBy k bytes first last other) :
    other.byteSpan = node.byteSpan := by
  have hstart := h.startByte
  have hend := h.endByte
  unfold Node.byteSpan
  omega

theorem extent_liesOn (h : node.MovedBy k bytes first last other) (doc : Document) :
    (node.extent doc).LiesOn first last :=
  doc.liesOn_upTo h.first_le h.startRow_le_last h.le_last

theorem positionAt_start (h : node.MovedBy k bytes first last other)
    (hrows : SharesRows k first last doc otherDoc) :
    (doc.positionAt node.startPoint).ShiftedBy k (otherDoc.positionAt other.startPoint) :=
  hrows.positionAt h.first_le h.startRow_le_last h.startRow h.startColumn

theorem extent_shifted (h : node.MovedBy k bytes first last other)
    (hrows : SharesRows k first last doc otherDoc) :
    (node.extent doc).ShiftedBy k (other.extent otherDoc) :=
  .upTo (h.positionAt_start hrows) (hrows.positionAt
    (Nat.le_trans h.first_le h.startRow_le_endRow) h.le_last h.endRow h.endColumn)

/-- Moved nodes have the same texts. -/
theorem reading (hrows : SharesRows k first last doc otherDoc) :
    Reading (MovedBy k bytes first last) Eq doc otherDoc where
  congruence := .eq
  text := by
    intro node other h
    unfold Node.text
    rw [range_eq_ok_extent doc h.ordered, range_eq_ok_extent otherDoc h.ordered_other]
    exact .ok (hrows.cut_eq (h.extent_shifted hrows) (h.extent_liesOn doc)).symm
  textBefore := by
    intro node other next otherNext h hnext
    unfold Node.textBefore
    rw [range_eq_ok_extent doc h.ordered, range_eq_ok_extent otherDoc h.ordered_other,
      range_eq_ok_extent doc hnext.ordered, range_eq_ok_extent otherDoc hnext.ordered_other]
    have hshifted := Range.ShiftedBy.upTo (h.positionAt_start hrows) (hnext.positionAt_start hrows)
    have hlies := doc.liesOn_upTo h.first_le h.startRow_le_last hnext.startRow_le_last
    exact .ok (hrows.cut_eq hshifted hlies).symm

end Node.MovedBy

/-! ## Descents -/

/-- The narrowest of moved nodes is moved, because moving keeps the numbers of bytes. -/
theorem narrowest?_moved {nodes others : List Node}
    (h : List.Forall₂ (Node.Alike (Node.MovedBy k bytes first last)) nodes others) :
    Option.Rel (Node.Alike (Node.MovedBy k bytes first last)) (narrowest? nodes)
      (narrowest? others) := by
  induction h with
  | nil => exact .none
  | @cons node other nodes others halike _ ih =>
      rw [narrowest?, narrowest?]
      rcases ih.cases with ⟨hnone, hother⟩ | ⟨found, otherFound, hsome, hother, hfound⟩
      · rw [hnone, hother]
        exact .some halike
      · rw [hsome, hother]
        simp only [halike.related.byteSpan_eq, hfound.related.byteSpan_eq]
        split
        · exact .some hfound
        · exact .some halike

variable {target otherTarget : Range}

/-- Moved nodes have moved children around a moved target. -/
theorem enclosingChild?_moved (hrows : SharesRows k first last doc otherDoc)
    (htarget : target.ShiftedBy k otherTarget) {node other : Node}
    (h : node.Alike (Node.MovedBy k bytes first last) other) (hordered : node.Ordered)
    (hother : other.Ordered) :
    Agree (Option.Rel (Node.Alike (Node.MovedBy k bytes first last)))
      (node.enclosingChild? target doc) (other.enclosingChild? otherTarget otherDoc) := by
  rw [hordered.enclosingChild?_eq, hother.enclosingChild?_eq]
  refine .ok (narrowest?_moved (List.rel_filter (fun child otherChild hchild => ?_) h.children))
  show (child.extent doc).contains target = true ↔
    (otherChild.extent otherDoc).contains otherTarget = true
  rw [(hchild.related.extent_shifted hrows).contains_eq htarget]

/-- A descent to a target goes over moved sites where the target and the first site are moved. -/
theorem Descent.exists_moved (hrows : SharesRows k first last doc otherDoc)
    (htarget : target.ShiftedBy k otherTarget) {site other : Site} {sites : List Site}
    (h : Descent doc target site sites)
    (hsite : Site.Alike (Node.MovedBy k bytes first last) site other)
    (hordered : site.node.Ordered) (hother : other.node.Ordered) :
    ∃ others, Descent otherDoc otherTarget other others ∧
      List.Forall₂ (Site.Alike (Node.MovedBy k bytes first last)) sites others :=
  h.exists_alike (fun halike hp hq => enclosingChild?_moved hrows htarget halike hp hq)
    hsite hordered hother

/-! ## Scopes -/

/-- A scope and one that differs from it only by a range `k` lines further down. -/
structure Scope.ShiftedBy (k : Int) (scope other : Scope) : Prop where
  handle : other.handle = scope.handle
  kind : other.kind = scope.kind
  signature : other.signature = scope.signature
  name : other.name = scope.name
  standsAlone : other.standsAlone = scope.standsAlone
  range : scope.range.ShiftedBy k other.range

/-- A scope on the rows `first` through `last`, and one that is shifted by `k` lines. -/
structure Scope.MovedBy (k : Int) (first last : Nat) (scope other : Scope) : Prop where
  shifted : scope.ShiftedBy k other
  rows : scope.range.LiesOn first last

/-- Moving keeps everything of a scope but its range. -/
theorem Scope.movedBy_iff_alike {scope other : Scope} :
    scope.MovedBy k first last other ↔
      Scope.Alike Eq (fun range otherRange => range.ShiftedBy k otherRange ∧
        range.LiesOn first last) scope other := by
  constructor
  · rintro ⟨h, hrows⟩
    exact ⟨h.handle, h.kind, h.signature, h.name.symm, h.standsAlone, h.range, hrows⟩
  · rintro ⟨hhandle, hkind, hsignature, hname, halone, hrange, hrows⟩
    exact ⟨⟨hhandle, hkind, hsignature, hname.symm, halone, hrange⟩, hrows⟩

/-- The scopes that are reported for moved sites are shifted. -/
theorem Language.reports_moved (language : Language) (hrows : SharesRows k first last doc otherDoc)
    {sites others : List Site}
    (h : List.Forall₂ (Site.Alike (Node.MovedBy k bytes first last)) sites others) (handle : Nat) :
    List.Forall₂ (Scope.MovedBy k first last)
      ((language.classifier.reports doc handle sites).map (·.2))
      ((language.classifier.reports otherDoc handle others).map (·.2)) := by
  have hreading : Reading (Node.MovedBy k bytes first last) Eq doc otherDoc :=
    Node.MovedBy.reading hrows
  refine (language.reports_alike hreading (fun hnode => ?_) h handle).imp
    fun _ _ => Scope.movedBy_iff_alike.2
  exact ⟨hnode.extent_shifted hrows, hnode.extent_liesOn doc⟩

/-- Runs of one range are the same among shifted scopes. -/
theorem innermostOfRanges_moved {scopes others : List Scope}
    (h : List.Forall₂ (Scope.MovedBy k first last) scopes others) :
    List.Forall₂ (Scope.MovedBy k first last) (innermostOfRanges scopes)
      (innermostOfRanges others) := by
  have halike := h.imp fun _ _ => Scope.movedBy_iff_alike.1
  refine (innermostOfRanges_alike (fun hrange hother => ?_) halike).imp
    fun _ _ => Scope.movedBy_iff_alike.2
  exact hrange.1.eq_iff hother.1

end CursorScope
