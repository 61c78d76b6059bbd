import CursorScope.Proofs.Code
import CursorScope.Proofs.Extent
import CursorScope.Proofs.Returns

/-!
# Documents with carriage returns

`Document.WithReturns` relates a document to the one whose lines all end with a carriage return
before their newline. Widths, positions and clamped targets are the same in both
(`WithReturns.positionAt`, `WithReturns.clamp`), and texts are the same up to carriage returns
(`WithReturns.cut`, `WithReturns.codeOf`), as long as no place is past the width of its line.
-/

namespace CursorScope

namespace Text

/-! ## Lines -/

/-- A carriage return before the newline of a line belongs to the ending of the line. -/
theorem exists_ending_withReturns {line : String} (h : '\n' ∉ (bareLine line).toList) :
    ∃ ending, (∀ c ∈ ending, isLineEnding c = true) ∧
      (withReturns line).toList = (bareLine line).toList ++ ending := by
  obtain ⟨ending, hending, hline⟩ := exists_ending line
  refine ⟨returned ending, fun c hc => ?_, ?_⟩
  · obtain ⟨d, hd, hc⟩ := List.mem_flatMap.1 hc
    split at hc
    · rcases List.mem_cons.1 hc with rfl | hc
      · rfl
      · rw [List.mem_singleton.1 hc]
        rfl
    · rw [List.mem_singleton.1 hc]
      exact hending d hd
  · rw [toList_withReturns, hline, returned_append, returned_of_not_mem h]

theorem bareLine_withReturns {line : String} (h : '\n' ∉ (bareLine line).toList) :
    bareLine (withReturns line) = bareLine line := by
  obtain ⟨ending, hending, hline⟩ := exists_ending_withReturns h
  refine String.ext ?_
  rw [toList_bareLine, hline, dropEndWhile_append_of_all hending, toList_bareLine,
    dropEndWhile_eq_rdropWhile, dropEndWhile_eq_rdropWhile, List.rdropWhile_idempotent]

theorem lineWidth_withReturns {line : String} (h : '\n' ∉ (bareLine line).toList) :
    lineWidth (withReturns line) = lineWidth line := by
  rw [lineWidth, lineWidth, bareLine_withReturns h]

variable {line : String} {n : Nat}

/-- Up to its width a line has no newline. -/
theorem take_eq_take_bareLine (hn : n ≤ lineWidth line) :
    line.toList.take n = (bareLine line).toList.take n := by
  obtain ⟨ending, -, hline⟩ := exists_ending line
  rw [lineWidth, ← String.length_toList] at hn
  rw [hline, List.take_append_of_le_length hn]

theorem drop_withReturns (h : '\n' ∉ (bareLine line).toList) (hn : n ≤ lineWidth line) :
    (withReturns line).toList.drop n = returned (line.toList.drop n) := by
  obtain ⟨ending, -, hline⟩ := exists_ending line
  have hbare : '\n' ∉ (bareLine line).toList.drop n := fun hmem => h (List.mem_of_mem_drop hmem)
  rw [lineWidth, ← String.length_toList] at hn
  rw [toList_withReturns, hline, returned_append, returned_of_not_mem h,
    List.drop_append_of_le_length hn, List.drop_append_of_le_length hn, returned_append,
    returned_of_not_mem hbare]

theorem sliceFrom_withReturns (h : '\n' ∉ (bareLine line).toList) (hn : n ≤ lineWidth line) :
    sliceFrom (withReturns line) n = withReturns (sliceFrom line n) := by
  refine String.ext ?_
  rw [toList_sliceFrom, drop_withReturns h hn, toList_withReturns, toList_sliceFrom]

theorem sliceTo_withReturns (h : '\n' ∉ (bareLine line).toList) (hn : n ≤ lineWidth line) :
    sliceTo (withReturns line) n = withReturns (sliceTo line n) := by
  have hbare : '\n' ∉ (bareLine line).toList.take n := fun hmem => h (List.mem_of_mem_take hmem)
  have hwidth : n ≤ lineWidth (withReturns line) := by rwa [lineWidth_withReturns h]
  refine String.ext ?_
  rw [toList_sliceTo, take_eq_take_bareLine hwidth, bareLine_withReturns h, toList_withReturns,
    toList_sliceTo, take_eq_take_bareLine hn, returned_of_not_mem hbare]

/-- A slice is a part of the beginning of its line. -/
theorem slice_eq (line : String) (first last : Nat) :
    slice line first last = sliceFrom (sliceTo line last) first := by
  rw [slice, sliceFrom, toList_sliceTo, List.drop_take]

theorem slice_withReturns {first last : Nat} (h : '\n' ∉ (bareLine line).toList)
    (hlast : last ≤ lineWidth line) :
    slice (withReturns line) first last = withReturns (slice line first last) := by
  have hbare : '\n' ∉ (sliceTo line last).toList := by
    rw [toList_sliceTo, take_eq_take_bareLine hlast]
    exact fun hmem => h (List.mem_of_mem_take hmem)
  have hslice : '\n' ∉ (sliceTo line last).toList.drop first :=
    fun hmem => hbare (List.mem_of_mem_drop hmem)
  refine String.ext ?_
  rw [slice_eq, slice_eq, sliceTo_withReturns h hlast, toList_sliceFrom, toList_withReturns,
    returned_of_not_mem hbare, toList_withReturns, toList_sliceFrom, returned_of_not_mem hslice]

theorem join_withReturns (lines : List String) :
    String.join (lines.map withReturns) = withReturns (String.join lines) := by
  refine String.ext ?_
  rw [toList_withReturns, String.toList_join, String.toList_join, List.flatMap_def,
    List.flatMap_def, returned_flatten, List.map_map, List.map_map]
  congr 2
  exact funext fun line => toList_withReturns line

/-! ## Columns in bytes -/

/-- The number of bytes of the characters in UTF-8. -/
def byteCount : List Char → Nat
  | [] => 0
  | c :: rest => c.utf8Size + byteCount rest

/-- The number of bytes of a line before its ending. -/
def byteWidth (line : String) : Nat := byteCount (bareLine line).toList

/-- Whatever stands behind the first characters has no part in the bytes of these. -/
theorem charactersWithin_append {cs : List Char} {bytes : Nat} (h : bytes ≤ byteCount cs)
    (ds : List Char) : charactersWithin (cs ++ ds) bytes = charactersWithin cs bytes := by
  induction cs generalizing bytes with
  | nil =>
      cases ds with
      | nil => rfl
      | cons d ds =>
          have hzero : bytes = 0 := Nat.le_zero.1 h
          have hsize := Char.utf8Size_pos d
          rw [hzero]
          show (if d.utf8Size ≤ 0 then charactersWithin ds (0 - d.utf8Size) + 1 else 0) = 0
          exact if_neg (by omega)
  | cons c rest ih =>
      rw [byteCount] at h
      rw [List.cons_append, charactersWithin, charactersWithin, ih (by omega)]

theorem charactersWithin_bareLine {bytes : Nat} (h : bytes ≤ byteWidth line) :
    charactersWithin line.toList bytes = charactersWithin (bareLine line).toList bytes := by
  obtain ⟨ending, -, hline⟩ := exists_ending line
  rw [hline, charactersWithin_append h]

theorem charactersWithin_le_lineWidth {bytes : Nat} (h : bytes ≤ byteWidth line) :
    charactersWithin line.toList bytes ≤ lineWidth line := by
  rw [charactersWithin_bareLine h, lineWidth, ← String.length_toList]
  exact charactersWithin_le_length _ bytes

theorem charactersWithin_withReturns {bytes : Nat} (h : '\n' ∉ (bareLine line).toList)
    (hbytes : bytes ≤ byteWidth line) :
    charactersWithin (withReturns line).toList bytes = charactersWithin line.toList bytes := by
  have hother : bytes ≤ byteWidth (withReturns line) := by
    rwa [byteWidth, bareLine_withReturns h]
  rw [charactersWithin_bareLine hother, charactersWithin_bareLine hbytes, bareLine_withReturns h]

end Text

/-! ## Documents -/

namespace Document

/-- The position is not past the width of its line. -/
def InWidth (doc : Document) (p : Position) : Prop :=
  ∀ line ∈ doc.lines[p.line]?, p.character ≤ Text.lineWidth line

/-- The point is not past the width of its line, which is counted in bytes. -/
def InByteWidth (doc : Document) (point : Point) : Prop :=
  ∀ line ∈ doc.lines[point.row]?, point.column ≤ Text.byteWidth line

instance (doc : Document) (point : Point) : Decidable (doc.InByteWidth point) :=
  inferInstanceAs (Decidable (∀ line ∈ doc.lines[point.row]?, _))

/-- The second document has the lines of the first with a carriage return before each newline. -/
structure WithReturns (doc otherDoc : Document) : Prop where
  lines : otherDoc.lines = doc.lines.map Text.withReturns
  newline : ∀ line ∈ doc.lines, '\n' ∉ (Text.bareLine line).toList

/-- The document of a text with carriage returns has the lines of the text with carriage
returns. -/
theorem withReturns_ofText (text uri : String) :
    (ofText text uri).WithReturns (ofText (Text.withReturns text) uri) := by
  refine ⟨?_, fun line hline => ?_⟩
  · rw [ofText, ofText, Text.splitLines, Text.splitLines, Text.toList_withReturns,
      Text.lines_returned, List.map_map, List.map_map]
    refine List.map_congr_left fun line _ => ?_
    rw [Function.comp_apply, Function.comp_apply, Text.withReturns, String.toList_ofList]
  · rw [Text.toList_bareLine]
    exact (lineList_ofText text uri).newline_not_mem_bare (List.mem_map_of_mem hline)

variable {doc otherDoc : Document}

theorem inWidth_positionAt {point : Point} (h : doc.InByteWidth point) :
    doc.InWidth (doc.positionAt point) := by
  intro line hline
  rw [line_positionAt] at hline
  have hline : doc.lines[point.row]? = some line := hline
  rw [positionAt_eq hline]
  exact Text.charactersWithin_le_lineWidth (h line hline)

theorem InWidth.stop_upTo {p q : Position} (hp : doc.InWidth p) (hq : doc.InWidth q) :
    doc.InWidth (Range.upTo p q).stop := by
  show doc.InWidth (if p ≤ q then q else p)
  split
  · exact hq
  · exact hp

namespace WithReturns

variable (h : doc.WithReturns otherDoc)

include h

theorem length_eq : otherDoc.lines.length = doc.lines.length := by
  rw [h.lines, List.length_map]

theorem line_cases (row : Nat) :
    (doc.lines[row]? = none ∧ otherDoc.lines[row]? = none) ∨
      ∃ line, doc.lines[row]? = some line ∧ otherDoc.lines[row]? = some (Text.withReturns line) ∧
        '\n' ∉ (Text.bareLine line).toList := by
  rw [h.lines, List.getElem?_map]
  cases hline : doc.lines[row]? with
  | none => exact .inl ⟨rfl, rfl⟩
  | some line => exact .inr ⟨line, rfl, rfl, h.newline line (List.mem_of_getElem? hline)⟩

theorem positionAt {point : Point} (hpoint : doc.InByteWidth point) :
    otherDoc.positionAt point = doc.positionAt point := by
  rcases h.line_cases point.row with ⟨hnone, hother⟩ | ⟨line, hline, hother, hbare⟩
  · rw [Document.positionAt_of_none hother, Document.positionAt_of_none hnone]
  · rw [Document.positionAt_eq hother, Document.positionAt_eq hline,
      Text.charactersWithin_withReturns hbare (hpoint line hline)]

theorem endPosition : otherDoc.endPosition = doc.endPosition := by
  unfold Document.endPosition
  rw [h.lines, List.getLast?_map, List.length_map]
  cases hlast : doc.lines.getLast? with
  | none => rfl
  | some last =>
      have hbare := h.newline last (List.mem_of_getLast? hlast)
      show Position.mk _ (Text.lineWidth (Text.withReturns last)) = _
      rw [Text.lineWidth_withReturns hbare]

theorem clampPosition (p : Position) : otherDoc.clampPosition p = doc.clampPosition p := by
  unfold Document.clampPosition
  rcases h.line_cases p.line with ⟨hnone, hother⟩ | ⟨line, hline, hother, hbare⟩
  · rw [hnone, hother]
    exact h.endPosition
  · rw [hline, hother]
    dsimp only
    rw [Text.lineWidth_withReturns hbare]

theorem clamp (target : Range) : otherDoc.clamp target = doc.clamp target := by
  rw [Document.clamp, Document.clamp, h.clampPosition, h.clampPosition]

/-- Text up to a place that is not past the width of its line. -/
theorem upTo {first count character : Nat}
    (hwidth : ∀ line ∈ (doc.lines.drop first)[count]?, character ≤ Text.lineWidth line) :
    Text.upTo (otherDoc.lines.drop first) count character =
      Text.withReturns (Text.upTo (doc.lines.drop first) count character) := by
  have hjoin : String.join ((otherDoc.lines.drop first).take count) =
      Text.withReturns (String.join ((doc.lines.drop first).take count)) := by
    rw [h.lines, ← List.map_drop, ← List.map_take, Text.join_withReturns]
  rw [List.getElem?_drop] at hwidth
  unfold Text.upTo
  rw [hjoin, Text.withReturns_append, List.getElem?_drop, List.getElem?_drop]
  rcases h.line_cases (first + count) with ⟨hnone, hother⟩ | ⟨line, hline, hother, hbare⟩
  · rw [hnone, hother]
    rfl
  · rw [hline, hother]
    dsimp only
    rw [Text.sliceTo_withReturns hbare (hwidth line hline)]

/-- The text in a range is the same up to carriage returns. -/
theorem cut {range : Range} (hstart : doc.InWidth range.start) (hstop : doc.InWidth range.stop) :
    otherDoc.cut range = Text.withReturns (doc.cut range) := by
  unfold Document.cut
  by_cases hrow : range.start.line < doc.lines.length
  · have hother : range.start.line < otherDoc.lines.length := by rwa [h.length_eq]
    have hline : doc.lines[range.start.line]? = some doc.lines[range.start.line] :=
      List.getElem?_eq_getElem hrow
    have hbare := h.newline doc.lines[range.start.line] (List.getElem_mem hrow)
    have hsame : otherDoc.lines[range.start.line] =
        Text.withReturns doc.lines[range.start.line] := by
      simp only [h.lines, List.getElem_map]
    by_cases hone : range.start.line = range.stop.line
    · have hlast : range.stop.character ≤ Text.lineWidth doc.lines[range.start.line] := by
        refine hstop _ ?_
        rw [← hone]
        exact hline
      rw [Text.cut_eq_slice hrow hone, Text.cut_eq_slice hother hone, hsame,
        Text.slice_withReturns hbare hlast]
    · have hlt : range.start.line < range.stop.line :=
        Nat.lt_of_le_of_ne range.line_start_le_stop hone
      have hwidth : ∀ line ∈ (doc.lines.drop (range.start.line + 1))[range.stop.line -
          (range.start.line + 1)]?, range.stop.character ≤ Text.lineWidth line := by
        rw [List.getElem?_drop, Nat.add_sub_cancel' hlt]
        exact hstop
      rw [Text.cut_eq_append hrow hlt, Text.cut_eq_append hother hlt, hsame,
        Text.sliceFrom_withReturns hbare (hstart _ hline), h.upTo hwidth,
        Text.withReturns_append]
  · have hpast := Nat.not_lt.1 hrow
    rw [Text.cut_eq_empty hpast, Text.cut_eq_empty (by rwa [h.length_eq])]
    rfl

/-- The texts between two positions differ by carriage returns. -/
theorem returnsAdded_cut {p q : Position} (hp : doc.InWidth p) (hq : doc.InWidth q) :
    Text.ReturnsAdded (doc.cut (.upTo p q)) (otherDoc.cut (.upTo p q)) := by
  rw [h.cut hp (hp.stop_upTo hq)]
  exact Text.returnsAdded_withReturns _

/-- The code of lines is the same up to carriage returns, and it has the same range. -/
theorem codeOf (shown : LineSpan) :
    otherDoc.codeOf shown =
      (doc.codeOf shown).map fun found => (Text.withReturns found.1, found.2) := by
  unfold Document.codeOf
  rcases h.line_cases shown.last with ⟨hnone, hother⟩ | ⟨line, hline, hother, hbare⟩
  · rw [hnone, hother]
    rfl
  · rw [hline, hother]
    dsimp only
    rw [h.lines, ← List.map_drop, ← List.map_take, Text.join_withReturns,
      Text.bareLine_withReturns hbare, Text.lineWidth_withReturns hbare]
    show _ = Except.ok (Text.withReturns (_ ++ Text.bareLine line), _)
    rw [Text.withReturns_append, Text.withReturns_of_not_mem hbare]

end WithReturns

end Document

end CursorScope
