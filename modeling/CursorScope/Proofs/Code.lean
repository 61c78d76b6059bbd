import CursorScope.Proofs.Cut
import CursorScope.Proofs.Layout

/-!
# The code of shown lines

`Document.codeOf` gives whole lines of a document, the last one without its ending. Their code is
the text in its range (`cut_eq_of_codeOf`). Where the lines of the document end with one newline
each, the code falls into as many pieces as its range has lines, unless it is one blank line
(`length_newlinePieces_of_codeOf`). The text in any other range lies in the lines that the range
shows (`cut_infix_wholeText`), and without its ending in their code (`dropEndWhile_cut_infix`).
-/

namespace CursorScope

namespace Document

variable {doc : Document} {shown : LineSpan} {code : String} {range other : Range}

/-- The code of lines is that of lines up to one that the document has. -/
theorem codeOf_eq_ok_iff :
    doc.codeOf shown = .ok (code, range) ↔ ∃ line, doc.lines[shown.last]? = some line ∧
      code = String.join ((doc.lines.drop shown.first).take (shown.last - shown.first)) ++
        Text.bareLine line ∧
      range = .upTo ⟨shown.first, 0⟩ ⟨shown.last, Text.lineWidth line⟩ := by
  unfold codeOf
  cases doc.lines[shown.last]? with
  | none => simp
  | some line => simp [eq_comm]

/-- Lines have no code exactly when the last of them is past the end of the document. -/
theorem codeOf_eq_error_iff :
    (∃ missing, doc.codeOf shown = .error missing) ↔ doc.lines.length ≤ shown.last := by
  unfold codeOf
  cases hline : doc.lines[shown.last]? with
  | none => simpa using List.getElem?_eq_none_iff.1 hline
  | some line => simpa using (List.getElem?_eq_some_iff.1 hline).1

/-- The range of code runs from the start of its first line to the width of its last line. -/
theorem range_of_codeOf (h : doc.codeOf shown = .ok (code, range))
    (hspan : shown.first ≤ shown.last) :
    ∃ line, doc.lines[shown.last]? = some line ∧ range.start = ⟨shown.first, 0⟩ ∧
      range.stop = ⟨shown.last, Text.lineWidth line⟩ := by
  obtain ⟨line, hline, -, rfl⟩ := codeOf_eq_ok_iff.1 h
  refine ⟨line, hline, rfl, Range.stop_upTo ?_⟩
  rcases Nat.lt_or_eq_of_le hspan with hlt | heq
  · exact .inl hlt
  · exact .inr ⟨heq, Nat.zero_le _⟩

/-- The code of lines is the text in its range. -/
theorem cut_eq_of_codeOf (h : doc.codeOf shown = .ok (code, range))
    (hspan : shown.first ≤ shown.last) : doc.cut range = code := by
  obtain ⟨line, hline, hstart, hstop⟩ := range_of_codeOf h hspan
  obtain ⟨_, hsame, rfl, -⟩ := codeOf_eq_ok_iff.1 h
  cases hline.symm.trans hsame
  have hlast : shown.last < doc.lines.length := (List.getElem?_eq_some_iff.1 hline).1
  have hfirst : shown.first < doc.lines.length := Nat.lt_of_le_of_lt hspan hlast
  have hrange : range.start.line < doc.lines.length := by rw [hstart]; exact hfirst
  unfold cut
  rcases Nat.eq_or_lt_of_le hspan with hone | hlt
  · have hsingle : doc.lines[shown.first]? = some line := by rw [hone, hline]
    have hrows : range.start.line = range.stop.line := by rw [hstart, hstop, hone]
    obtain ⟨_, rfl⟩ := List.getElem?_eq_some_iff.1 hsingle
    have hnone : shown.last - shown.first = 0 := by omega
    rw [Text.cut_eq_slice hrange hrows]
    simp only [hstart, hstop, Text.slice_lineWidth]
    rw [hnone, List.take_zero, String.join_nil, String.empty_append]
  · have hrows : range.start.line < range.stop.line := by rw [hstart, hstop]; exact hlt
    have hlater : (doc.lines.drop (shown.first + 1))[shown.last - (shown.first + 1)]? =
        some line := by
      rw [List.getElem?_drop, Nat.add_sub_cancel' hlt, hline]
    have hcount : shown.last - shown.first = shown.last - (shown.first + 1) + 1 := by omega
    rw [Text.cut_eq_append hrange hrows]
    simp only [hstart, hstop, Text.sliceFrom_zero, Text.upTo_lineWidth hlater]
    rw [hcount, List.drop_eq_getElem_cons hfirst, List.take_succ_cons, String.join_cons,
      String.append_assoc]

/-! ## The number of lines of code -/

/-- The lines of the document of a text are lines as texts have them. -/
theorem lineList_ofText (text uri : String) :
    Text.LineList ((ofText text uri).lines.map String.toList) := by
  have hlines : (ofText text uri).lines.map String.toList = Text.lines text.toList := by
    rw [ofText, Text.splitLines, List.map_map]
    exact List.map_id'' (fun _ => String.toList_ofList) _
  rw [hlines]
  exact Text.lineList_lines text.toList

/-- The document of a text that is not empty has lines. -/
theorem lines_ofText_ne_nil {text : String} (h : text ≠ "") (uri : String) :
    (ofText text uri).lines ≠ [] := by
  intro hnil
  have hjoin := Text.join_splitLines text
  rw [show Text.splitLines text = [] from hnil, List.map_nil, List.flatten_nil] at hjoin
  exact h (String.toList_eq_nil_iff.1 hjoin.symm)

/-- The code of lines holds one newline less than there are lines. -/
theorem count_newline_of_codeOf (hlines : Text.LineList (doc.lines.map String.toList))
    (h : doc.codeOf shown = .ok (code, range)) :
    code.toList.count '\n' = shown.last - shown.first := by
  obtain ⟨line, hline, rfl, -⟩ := codeOf_eq_ok_iff.1 h
  have hlast : shown.last < doc.lines.length := (List.getElem?_eq_some_iff.1 hline).1
  have hbare : '\n' ∉ (Text.bareLine line).toList := by
    rw [Text.toList_bareLine]
    exact hlines.newline_not_mem_bare (List.mem_map_of_mem (List.mem_of_getElem? hline))
  have hwhole : (((doc.lines.map String.toList).drop shown.first).take
      (shown.last - shown.first)).flatten.count '\n' = shown.last - shown.first := by
    by_cases hspan : shown.first ≤ shown.last
    · refine (hlines.drop shown.first).count_newline_take ?_
      rw [List.length_drop, List.length_map]
      omega
    · rw [Nat.sub_eq_zero_of_le (by omega)]
      rfl
  rw [String.toList_append, String.toList_join, List.count_append, List.count_eq_zero.2 hbare,
    List.flatMap_def, List.map_take, List.map_drop, hwhole, Nat.add_zero]

/-- Code is empty exactly when its range is: when it is one blank line. -/
theorem code_eq_empty_iff (hlines : Text.LineList (doc.lines.map String.toList))
    (h : doc.codeOf shown = .ok (code, range)) (hspan : shown.first ≤ shown.last) :
    code = "" ↔ range.isEmpty = true := by
  have hcount := count_newline_of_codeOf hlines h
  obtain ⟨line, hline, hstart, hstop⟩ := range_of_codeOf h hspan
  obtain ⟨_, hsame, hcode, -⟩ := codeOf_eq_ok_iff.1 h
  cases hline.symm.trans hsame
  have hempty : range.isEmpty = true ↔ shown.first = shown.last ∧ Text.lineWidth line = 0 := by
    unfold Range.isEmpty
    rw [hstart, hstop, beq_iff_eq, Position.mk.injEq, eq_comm (a := 0)]
  rw [hempty, Text.lineWidth, String.length_eq_zero_iff]
  constructor
  · intro hnone
    rw [hnone] at hcode hcount
    have hzero : shown.last - shown.first = 0 := hcount.symm
    exact ⟨by omega, (String.append_eq_empty_iff.1 hcode.symm).2⟩
  · rintro ⟨hone, hbare⟩
    rw [hcode, hbare, hone, Nat.sub_self]
    rfl

/-- Code falls into as many pieces as its range has lines, unless it is one blank line. -/
theorem length_newlinePieces_of_codeOf (hlines : Text.LineList (doc.lines.map String.toList))
    (h : doc.codeOf shown = .ok (code, range)) (hspan : shown.first ≤ shown.last) :
    (Text.newlinePieces code).length = if range.isEmpty then 0 else range.lineCount := by
  have hempty := code_eq_empty_iff hlines h hspan
  split
  · rename_i hrange
    rw [hempty.2 hrange]
    rfl
  · rename_i hrange
    obtain ⟨line, -, hstart, hstop⟩ := range_of_codeOf h hspan
    rw [Text.length_newlinePieces (fun hcode => hrange (hempty.1 hcode)),
      count_newline_of_codeOf hlines h, Range.lineCount, hstart, hstop]

/-! ## The text of whole lines -/

/-- The text of lines with all their endings. -/
def wholeText (doc : Document) (span : LineSpan) : String :=
  String.join ((doc.lines.drop span.first).take span.count)

/-- The text of shown lines is their code and the ending of the last line. -/
theorem wholeText_of_codeOf (h : doc.codeOf shown = .ok (code, range))
    (hspan : shown.first ≤ shown.last) :
    ∃ ending, (∀ c ∈ ending, Text.isLineEnding c = true) ∧
      (doc.wholeText shown).toList = code.toList ++ ending := by
  obtain ⟨line, hline, rfl, -⟩ := codeOf_eq_ok_iff.1 h
  obtain ⟨ending, hending, hbare⟩ := Text.exists_ending line
  have hlast : (doc.lines.drop shown.first)[shown.last - shown.first]? = some line := by
    rw [List.getElem?_drop, Nat.add_sub_cancel' hspan, hline]
  refine ⟨ending, hending, ?_⟩
  rw [wholeText, LineSpan.count, List.take_add_one, hlast, String.toList_join,
    List.flatMap_append, String.toList_append, String.toList_join, List.append_assoc, ← hbare]
  simp

/-- What the range holds of the lines after its first is a beginning of those that it shows. -/
theorem upTo_isPrefix_ofRange (lines : List String) (hlt : range.start.line < range.stop.line) :
    (Text.upTo (lines.drop (range.start.line + 1)) (range.stop.line - (range.start.line + 1))
      range.stop.character).toList <+:
    (String.join ((lines.drop (range.start.line + 1)).take
      ((LineSpan.ofRange range lines.length).last - range.start.line))).toList := by
  by_cases hblank : range.stop.character = 0
  · have hcount : (lines.drop (range.start.line + 1)).take
        ((LineSpan.ofRange range lines.length).last - range.start.line) =
        (lines.drop (range.start.line + 1)).take (range.stop.line - (range.start.line + 1)) := by
      rw [LineSpan.last_ofRange_of_zero hblank hlt, List.take_eq_take_iff, List.length_drop]
      omega
    rw [hcount, hblank, Text.upTo_zero]
  · have hcount : (lines.drop (range.start.line + 1)).take
        ((LineSpan.ofRange range lines.length).last - range.start.line) =
        (lines.drop (range.start.line + 1)).take
          (range.stop.line - (range.start.line + 1) + 1) := by
      rw [LineSpan.last_ofRange_of_not_zero (fun hboth => hblank hboth.1),
        List.take_eq_take_iff, List.length_drop]
      omega
    rw [hcount]
    exact Text.upTo_isPrefix _ _ _

/-- The text in a range lies in the lines that the range shows. -/
theorem cut_infix_wholeText (h : range.start.line < doc.lines.length) :
    (doc.cut range).toList <:+: (doc.wholeText (.ofRange range doc.lines.length)).toList := by
  have hwhole : doc.wholeText (.ofRange range doc.lines.length) = doc.lines[range.start.line] ++
      String.join ((doc.lines.drop (range.start.line + 1)).take
        ((LineSpan.ofRange range doc.lines.length).last - range.start.line)) := by
    rw [wholeText, LineSpan.count, LineSpan.first_ofRange, List.drop_eq_getElem_cons h,
      List.take_succ_cons, String.join_cons]
  rw [hwhole, String.toList_append]
  by_cases hone : range.start.line = range.stop.line
  · unfold cut
    rw [Text.cut_eq_slice h hone, Text.toList_slice]
    refine List.IsInfix.trans ?_ (List.prefix_append _ _).isInfix
    exact (List.take_prefix _ _).isInfix.trans (List.drop_suffix _ _).isInfix
  · have hlt : range.start.line < range.stop.line :=
      Nat.lt_of_le_of_ne range.line_start_le_stop hone
    unfold cut
    rw [Text.cut_eq_append h hlt, String.toList_append, Text.toList_sliceFrom]
    obtain ⟨before, hbefore⟩ :=
      List.drop_suffix range.start.character doc.lines[range.start.line].toList
    obtain ⟨after, hafter⟩ := upTo_isPrefix_ofRange doc.lines hlt
    refine ⟨before, after, ?_⟩
    rw [← List.append_assoc, hbefore, List.append_assoc, hafter]

/-- The text in a range lies in the code of the lines that the range shows, but for an ending of
the text. -/
theorem dropEndWhile_cut_infix
    (h : doc.codeOf (.ofRange range doc.lines.length) = .ok (code, other)) :
    Text.dropEndWhile Text.isLineEnding (doc.cut range).toList <:+: code.toList := by
  have hspan := LineSpan.first_le_last_ofRange range doc.lines.length
  obtain ⟨line, hline, -⟩ := codeOf_eq_ok_iff.1 h
  have hstart : range.start.line < doc.lines.length :=
    Nat.lt_of_le_of_lt hspan (List.getElem?_eq_some_iff.1 hline).1
  obtain ⟨ending, hending, hwhole⟩ := wholeText_of_codeOf h hspan
  have hinfix := cut_infix_wholeText hstart
  rw [hwhole] at hinfix
  exact Text.dropEndWhile_infix hinfix hending

end Document

namespace Context

variable {context : Context} {doc : Document} {target : Range} {budget : Budget} {e : Excerpt}

/-- An excerpt of a document with lines shows the lines of its layout. -/
theorem codeOf_of_excerpt (hdoc : doc.lines ≠ []) (h : context.excerpt doc target budget = .ok e) :
    doc.codeOf (context.layout doc target budget).shown = .ok (e.code, e.codeRange) ∧
      (context.layout doc target budget).shown.first ≤
        (context.layout doc target budget).shown.last := by
  obtain ⟨code, codeRange, hcode, rfl⟩ := (excerpt_eq_ok_iff hdoc).1 h
  have hwithin := Layout.shown_within (.ofScopes context.scopes doc) target doc.lines.length budget
  exact ⟨hcode, hwithin.first_le_last⟩

end Context

end CursorScope
