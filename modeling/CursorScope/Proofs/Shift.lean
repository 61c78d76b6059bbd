import CursorScope.Proofs.Extent
import CursorScope.Proofs.Layout

/-!
# Shifted ranges

Two documents share rows when the rows `first` through `last` of one are the rows `k` further down
in the other, with the same line endings. On shared rows positions, texts and clamped targets do
not depend on where the rows stand: they are the same up to a shift by `k` lines
(`SharesRows.positionAt`, `SharesRows.cut_eq`, `SharesRows.clamp`). The same holds of the lines
that an excerpt shows (`LineSpan.ShiftedBy.ofRange`, `LineSpan.ShiftedBy.window`).
-/

namespace CursorScope

/-! ## Positions and ranges -/

/-- A position and one on the line `k` further down, at the same character. -/
structure Position.ShiftedBy (k : Int) (p q : Position) : Prop where
  line : (q.line : Int) = p.line + k
  character : q.character = p.character

/-- A range and one that starts and stops `k` lines further down. -/
structure Range.ShiftedBy (k : Int) (range other : Range) : Prop where
  start : range.start.ShiftedBy k other.start
  stop : range.stop.ShiftedBy k other.stop

variable {k : Int}

namespace Position.ShiftedBy

variable {p q p' q' : Position}

theorem le_iff (hp : p.ShiftedBy k p') (hq : q.ShiftedBy k q') : p ≤ q ↔ p' ≤ q' := by
  have hpline := hp.line
  have hqline := hq.line
  rw [Position.le_def, Position.le_def, hp.character, hq.character]
  omega

theorem eq_iff (hp : p.ShiftedBy k p') (hq : q.ShiftedBy k q') : p = q ↔ p' = q' := by
  have hpline := hp.line
  have hqline := hq.line
  have hpcharacter := hp.character
  have hqcharacter := hq.character
  cases p
  cases q
  cases p'
  cases q'
  simp only [Position.mk.injEq] at *
  omega

theorem max (hp : p.ShiftedBy k p') (hq : q.ShiftedBy k q') :
    (max p q).ShiftedBy k (max p' q') := by
  show (if p ≤ q then q else p).ShiftedBy k (if p' ≤ q' then q' else p')
  rw [if_congr (hp.le_iff hq) rfl rfl]
  split
  · exact hq
  · exact hp

end Position.ShiftedBy

namespace Range.ShiftedBy

variable {outer inner outer' inner' : Range}

theorem contains_eq (h : outer.ShiftedBy k outer') (h' : inner.ShiftedBy k inner') :
    outer.contains inner = outer'.contains inner' := by
  unfold Range.contains
  rw [decide_eq_decide.2 (h.start.le_iff h'.start), decide_eq_decide.2 (h'.stop.le_iff h.stop)]

theorem eq_iff (h : outer.ShiftedBy k outer') (h' : inner.ShiftedBy k inner') :
    outer = inner ↔ outer' = inner' := by
  have hstart := h.start.eq_iff h'.start
  have hstop := h.stop.eq_iff h'.stop
  cases outer
  cases inner
  cases outer'
  cases inner'
  simp only [Range.mk.injEq] at *
  rw [hstart, hstop]

theorem upTo {p q p' q' : Position} (hp : p.ShiftedBy k p') (hq : q.ShiftedBy k q') :
    (Range.upTo p q).ShiftedBy k (Range.upTo p' q') := ⟨hp, hp.max hq⟩

end Range.ShiftedBy

/-- A range lies on the rows `first` through `last`. -/
structure Range.LiesOn (first last : Nat) (range : Range) : Prop where
  first_le : first ≤ range.start.line
  le_last : range.stop.line ≤ last

theorem Range.LiesOn.upTo {first last : Nat} {p q : Position} (hfirst : first ≤ p.line)
    (hp : p.line ≤ last) (hq : q.line ≤ last) : (Range.upTo p q).LiesOn first last := by
  refine ⟨hfirst, ?_⟩
  show (if p ≤ q then q else p).line ≤ last
  split
  · exact hq
  · exact hp

/-- A range between points on some rows lies on these rows. -/
theorem Document.liesOn_upTo (doc : Document) {first last : Nat} {p q : Point}
    (hfirst : first ≤ p.row) (hp : p.row ≤ last) (hq : q.row ≤ last) :
    (Range.upTo (doc.positionAt p) (doc.positionAt q)).LiesOn first last := by
  refine .upTo ?_ ?_ ?_
  · rwa [line_positionAt]
  · rwa [line_positionAt]
  · rwa [line_positionAt]

/-! ## Shared rows -/

/-- Slices of two lists are the same when they agree place by place. -/
theorem take_drop_eq_of_getElem? {lines others : List String} {i j count : Nat}
    (h : ∀ n, n < count → others[j + n]? = lines[i + n]?) :
    (others.drop j).take count = (lines.drop i).take count := by
  refine List.ext_getElem? fun n => ?_
  by_cases hn : n < count
  · rw [List.getElem?_take_of_lt hn, List.getElem?_take_of_lt hn, List.getElem?_drop,
      List.getElem?_drop, h n hn]
  · have hle : count ≤ n := Nat.le_of_not_lt hn
    rw [List.getElem?_take_eq_none hle, List.getElem?_take_eq_none hle]

/-- The rows `first` through `last` of a document are the rows `k` further down in another one. -/
structure SharesRows (k : Int) (first last : Nat) (doc otherDoc : Document) : Prop where
  last_lt : last < doc.lines.length
  line : ∀ row otherRow : Nat, first ≤ row → row ≤ last → (otherRow : Int) = row + k →
    otherDoc.lines[otherRow]? = doc.lines[row]?

namespace SharesRows

variable {first last : Nat} {doc otherDoc : Document}

theorem lt_length (h : SharesRows k first last doc otherDoc) {row otherRow : Nat}
    (hfirst : first ≤ row) (hlast : row ≤ last) (hrow : (otherRow : Int) = row + k) :
    otherRow < otherDoc.lines.length := by
  have hlt : row < doc.lines.length := Nat.lt_of_le_of_lt hlast h.last_lt
  have hline := h.line row otherRow hfirst hlast hrow
  rw [List.getElem?_eq_getElem hlt] at hline
  exact (List.getElem?_eq_some_iff.1 hline).1

/-- The lines between two shared rows are the same. -/
theorem take_drop_eq (h : SharesRows k first last doc otherDoc) {row otherRow count : Nat}
    (hfirst : first ≤ row) (hlast : row + count ≤ last + 1) (hrow : (otherRow : Int) = row + k) :
    (otherDoc.lines.drop otherRow).take count = (doc.lines.drop row).take count := by
  refine take_drop_eq_of_getElem? fun n hn => ?_
  exact h.line (row + n) (otherRow + n) (by omega) (by omega) (by omega)

/-- A range on shared rows holds the same text in both documents. -/
theorem cut_eq (h : SharesRows k first last doc otherDoc) {range other : Range}
    (hrange : range.ShiftedBy k other) (hrows : range.LiesOn first last) :
    otherDoc.cut other = doc.cut range := by
  have hstart := hrange.start.line
  have hstop := hrange.stop.line
  have hfirst := hrows.first_le
  have hlast := hrows.le_last
  have hle := range.line_start_le_stop
  unfold Document.cut Text.cut
  rw [h.line range.start.line other.start.line hfirst (by omega) hstart,
    h.line range.stop.line other.stop.line (by omega) hlast hstop,
    hrange.start.character, hrange.stop.character]
  cases doc.lines[range.start.line]? with
  | none => rfl
  | some line =>
      by_cases hone : range.start.line = range.stop.line
      · have hother : other.start.line = other.stop.line := by omega
        simp only [hone, hother, ↓reduceIte]
      · have hother : ¬ other.start.line = other.stop.line := by omega
        have hcount : other.stop.line - (other.start.line + 1) =
            range.stop.line - (range.start.line + 1) := by omega
        have hbetween : (otherDoc.lines.drop (other.start.line + 1)).take
            (range.stop.line - (range.start.line + 1)) =
            (doc.lines.drop (range.start.line + 1)).take
              (range.stop.line - (range.start.line + 1)) :=
          h.take_drop_eq (by omega) (by omega) (by omega)
        simp only [hone, hother, ↓reduceIte, hcount, hbetween]

/-- A point on a shared row has the same position in both documents. -/
theorem positionAt (h : SharesRows k first last doc otherDoc) {p q : Point} (hfirst : first ≤ p.row)
    (hlast : p.row ≤ last) (hrow : (q.row : Int) = p.row + k) (hcolumn : q.column = p.column) :
    (doc.positionAt p).ShiftedBy k (otherDoc.positionAt q) := by
  unfold Document.positionAt
  rw [h.line p.row q.row hfirst hlast hrow, hcolumn]
  cases doc.lines[p.row]? with
  | none => exact ⟨hrow, rfl⟩
  | some line => exact ⟨hrow, rfl⟩

theorem clampPosition (h : SharesRows k first last doc otherDoc) {p q : Position}
    (hp : p.ShiftedBy k q) (hfirst : first ≤ p.line) (hlast : p.line ≤ last) :
    (doc.clampPosition p).ShiftedBy k (otherDoc.clampPosition q) := by
  have hlt : p.line < doc.lines.length := Nat.lt_of_le_of_lt hlast h.last_lt
  have hline := List.getElem?_eq_getElem hlt
  have hother := (h.line p.line q.line hfirst hlast hp.line).trans hline
  rw [Document.clampPosition_eq hline, Document.clampPosition_eq hother, hp.character]
  exact ⟨hp.line, rfl⟩

/-- A target on shared rows is clamped to the same place in both documents. -/
theorem clamp (h : SharesRows k first last doc otherDoc) {target other : Range}
    (htarget : target.ShiftedBy k other) (hrows : target.LiesOn first last) :
    (doc.clamp target).ShiftedBy k (otherDoc.clamp other) := by
  have hle := target.line_start_le_stop
  have hfirst := hrows.first_le
  have hlast := hrows.le_last
  exact .upTo (h.clampPosition htarget.start hfirst (by omega))
    (h.clampPosition htarget.stop (by omega) hlast)

end SharesRows

/-! ## Lines of excerpts -/

/-- The lines of a span and the lines `k` further down. -/
structure LineSpan.ShiftedBy (k : Int) (span other : LineSpan) : Prop where
  first : (other.first : Int) = span.first + k
  last : (other.last : Int) = span.last + k

namespace LineSpan.ShiftedBy

variable {span other : LineSpan} {target otherTarget : Range}

theorem count_eq (h : span.ShiftedBy k other) : other.count = span.count := by
  have hfirst := h.first
  have hlast := h.last
  unfold LineSpan.count
  omega

/-- The lines of a range that stops in its document do not depend on the length of the document. -/
theorem ofRange {range otherRange : Range} {total otherTotal : Nat}
    (h : range.ShiftedBy k otherRange) (hstop : range.stop.line < total)
    (hotherStop : otherRange.stop.line < otherTotal) :
    (LineSpan.ofRange range total).ShiftedBy k (LineSpan.ofRange otherRange otherTotal) := by
  have hfirst := h.start.line
  have hlast := h.stop.line
  refine ⟨hfirst, ?_⟩
  unfold LineSpan.ofRange
  dsimp only
  by_cases hblank : range.stop.character = 0 ∧ range.start.line < range.stop.line
  · have hotherBlank : otherRange.stop.character = 0 ∧
        otherRange.start.line < otherRange.stop.line := by
      rw [h.stop.character]
      omega
    rw [if_pos hblank, if_pos hotherBlank]
    omega
  · have hotherBlank : ¬ (otherRange.stop.character = 0 ∧
        otherRange.start.line < otherRange.stop.line) := by
      rw [h.stop.character]
      omega
    rw [if_neg hblank, if_neg hotherBlank]
    omega

/-- The middle of a window moves with its span and its target, also where it is rounded down. -/
theorem window (h : span.ShiftedBy k other) (htarget : target.ShiftedBy k otherTarget) (size : Nat)
    (hsize : 1 ≤ size) (hspan : span.first ≤ span.last) :
    (span.window target size).ShiftedBy k (other.window otherTarget size) := by
  have hfirst := h.first
  have hlast := h.last
  have hmiddle : (((otherTarget.start.line + otherTarget.stop.line) / 2 : Nat) : Int) =
      ((target.start.line + target.stop.line) / 2 : Nat) + k := by
    have hstart := htarget.start.line
    have hstop := htarget.stop.line
    omega
  have hwindow : ((other.window otherTarget size).first : Int) =
      (span.window target size).first + k := by
    unfold LineSpan.window
    dsimp only
    generalize (target.start.line + target.stop.line) / 2 = middle at hmiddle ⊢
    generalize (otherTarget.start.line + otherTarget.stop.line) / 2 = otherMiddle at hmiddle ⊢
    have hcentre : ((min (max otherMiddle other.first) other.last : Nat) : Int) =
        (min (max middle span.first) span.last : Nat) + k := by
      omega
    -- Cutting off at zero changes nothing: the window starts in its span in any case.
    generalize min (max middle span.first) span.last = centre at hcentre ⊢
    generalize min (max otherMiddle other.first) other.last = otherCentre at hcentre ⊢
    generalize (size - 1) / 2 = half
    omega
  refine ⟨hwindow, ?_⟩
  show (((other.window otherTarget size).first + size - 1 : Nat) : Int) =
    (((span.window target size).first + size - 1 : Nat) : Int) + k
  omega

end LineSpan.ShiftedBy

/-- The code of shared rows is the same in both documents. -/
theorem SharesRows.codeOf {first last : Nat} {doc otherDoc : Document}
    (h : SharesRows k first last doc otherDoc) {shown otherShown : LineSpan}
    (hshown : shown.ShiftedBy k otherShown) (hfirst : first ≤ shown.first)
    (hle : shown.first ≤ shown.last) (hlast : shown.last ≤ last) :
    ∃ code codeRange otherRange, doc.codeOf shown = .ok (code, codeRange) ∧
      otherDoc.codeOf otherShown = .ok (code, otherRange) ∧ codeRange.ShiftedBy k otherRange := by
  have hfirstLine := hshown.first
  have hlastLine := hshown.last
  have hlt : shown.last < doc.lines.length := Nat.lt_of_le_of_lt hlast h.last_lt
  have hotherLt := h.lt_length (by omega) hlast hlastLine
  have hline : otherDoc.lines[otherShown.last] = doc.lines[shown.last] := by
    have hsame := h.line shown.last otherShown.last (by omega) hlast hlastLine
    rw [List.getElem?_eq_getElem hlt, List.getElem?_eq_getElem hotherLt] at hsame
    exact Option.some.inj hsame
  have hcount : otherShown.last - otherShown.first = shown.last - shown.first := by omega
  have hend : shown.first + (shown.last - shown.first) ≤ last + 1 := by omega
  have hwhole := h.take_drop_eq hfirst hend hfirstLine
  have hother := Document.codeOf_eq_ok hotherLt
  rw [hcount, hwhole, hline] at hother
  exact ⟨_, _, _, Document.codeOf_eq_ok hlt, hother, .upTo ⟨hfirstLine, rfl⟩ ⟨hlastLine, rfl⟩⟩

end CursorScope
