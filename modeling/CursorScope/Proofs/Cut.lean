import CursorScope.Proofs.Lines

/-!
# Equations for cut text

What `Text.cut` gives for a range past the lines (`cut_eq_empty`), on one line (`cut_eq_slice`) and
over several lines (`cut_eq_append`). Over several lines the text is the end of the first one, and
then `upTo`, the text of the later lines up to a place in one of them. The text of a range is what
leads from the text up to its start to the text up to its stop (`upTo_append_cut`), so the texts of
two ranges that meet are the text of both together (`cut_append_cut`).
-/

namespace CursorScope.Text

/-- A line up to its width is the line without its ending. -/
theorem sliceTo_lineWidth (line : String) : sliceTo line (lineWidth line) = bareLine line := by
  refine String.ext ?_
  rw [toList_sliceTo, toList_bareLine, lineWidth, ← String.length_toList, toList_bareLine]
  exact (List.prefix_iff_eq_take.1 (isPrefix_dropEndWhile _ _)).symm

theorem slice_lineWidth (line : String) : slice line 0 (lineWidth line) = bareLine line := by
  rw [slice, List.drop_zero, Nat.sub_zero]
  exact sliceTo_lineWidth line

theorem sliceFrom_zero (line : String) : sliceFrom line 0 = line := String.ofList_toList

/-- A line is cut in two at each of its characters. -/
theorem sliceTo_append_sliceFrom (line : String) (n : Nat) :
    sliceTo line n ++ sliceFrom line n = line := by
  refine String.ext ?_
  rw [String.toList_append, toList_sliceTo, toList_sliceFrom, List.take_append_drop]

/-- One more line of a text is put behind the first ones. -/
theorem join_take_succ {lines : List String} {n : Nat} (h : n < lines.length) :
    String.join (lines.take (n + 1)) = String.join (lines.take n) ++ lines[n] := by
  rw [List.take_succ_eq_append_getElem h, String.join_append, String.join_cons, String.join_nil,
    String.append_empty]

/-- The text from the start of some lines up to a character of the line after the first `count` of
them. -/
def upTo (lines : List String) (count character : Nat) : String :=
  String.join (lines.take count) ++ match lines[count]? with
    | none => ""
    | some line => sliceTo line character

theorem upTo_zero (lines : List String) (count : Nat) :
    upTo lines count 0 = String.join (lines.take count) := by
  unfold upTo
  cases lines[count]? with
  | none => exact String.append_empty
  | some line => simp [sliceTo]

theorem upTo_lineWidth {lines : List String} {count : Nat} {line : String}
    (h : lines[count]? = some line) :
    upTo lines count (lineWidth line) = String.join (lines.take count) ++ bareLine line := by
  rw [upTo, h]
  dsimp only
  rw [sliceTo_lineWidth]

/-- The text up to a place in a line is a beginning of the lines through that one. -/
theorem upTo_isPrefix (lines : List String) (count character : Nat) :
    (upTo lines count character).toList <+: (String.join (lines.take (count + 1))).toList := by
  unfold upTo
  rw [List.take_add_one, String.toList_append, String.toList_join, String.toList_join,
    List.flatMap_append]
  refine (List.prefix_append_right_inj _).2 ?_
  cases lines[count]? with
  | none => exact List.nil_prefix
  | some line => simpa using List.take_prefix character line.toList

variable {lines : List String} {range : Range}

/-- There is no text past the last line. -/
theorem cut_eq_empty (h : lines.length ≤ range.start.line) : cut lines range = "" := by
  rw [cut, List.getElem?_eq_none h]

theorem cut_eq_slice (h : range.start.line < lines.length)
    (hone : range.start.line = range.stop.line) :
    cut lines range =
      slice lines[range.start.line] range.start.character range.stop.character := by
  rw [cut, List.getElem?_eq_getElem h]
  exact if_pos hone

theorem cut_eq_append (h : range.start.line < lines.length)
    (hlt : range.start.line < range.stop.line) :
    cut lines range = sliceFrom lines[range.start.line] range.start.character ++
      upTo (lines.drop (range.start.line + 1)) (range.stop.line - (range.start.line + 1))
        range.stop.character := by
  have hstop : (lines.drop (range.start.line + 1))[range.stop.line - (range.start.line + 1)]? =
      lines[range.stop.line]? := by
    rw [List.getElem?_drop, Nat.add_sub_cancel' hlt]
  rw [cut, List.getElem?_eq_getElem h]
  dsimp only
  rw [if_neg (Nat.ne_of_lt hlt), upTo, hstop]
  exact String.append_assoc

/-! ## Before a range and in it -/

/-- The text up to a place past the last line is all of the text. -/
theorem upTo_of_length_le {count : Nat} (h : lines.length ≤ count) (character : Nat) :
    upTo lines count character = String.join lines := by
  rw [upTo, List.getElem?_eq_none h, List.take_of_length_le h]
  exact String.append_empty

/-- The text up to a place is that of some first lines and that of the other ones up to the
place. -/
theorem join_take_append_upTo (lines : List String) (count more character : Nat) :
    String.join (lines.take count) ++ upTo (lines.drop count) more character =
      upTo lines (count + more) character := by
  unfold upTo
  rw [List.getElem?_drop, List.take_add, ← String.append_assoc, String.join_append]

theorem upTo_of_lt {count : Nat} (h : count < lines.length) (character : Nat) :
    upTo lines count character =
      String.join (lines.take count) ++ sliceTo lines[count] character := by
  rw [upTo, List.getElem?_eq_getElem h]

/-- The text up to the start of a range and the text in the range are the text up to its stop. -/
theorem upTo_append_cut (lines : List String) (range : Range) :
    upTo lines range.start.line range.start.character ++ cut lines range =
      upTo lines range.stop.line range.stop.character := by
  have hrows := range.line_start_le_stop
  by_cases hpast : lines.length ≤ range.start.line
  · rw [cut_eq_empty hpast, upTo_of_length_le hpast, String.append_empty,
      upTo_of_length_le (Nat.le_trans hpast hrows)]
  · have hstart := Nat.not_le.1 hpast
    rw [upTo_of_lt hstart, String.append_assoc]
    by_cases hone : range.start.line = range.stop.line
    · have hcharacters : range.start.character ≤ range.stop.character := by
        have hle := range.start_le_stop
        rw [Position.le_def] at hle
        omega
      have hslices : sliceTo lines[range.start.line] range.start.character ++
          slice lines[range.start.line] range.start.character range.stop.character =
            sliceTo lines[range.start.line] range.stop.character := by
        refine String.ext ?_
        rw [String.toList_append, toList_sliceTo, toList_slice, toList_sliceTo, ← List.take_add,
          Nat.add_sub_cancel' hcharacters]
      rw [cut_eq_slice hstart hone, hslices, ← upTo_of_lt hstart, hone]
    · have hlt := Nat.lt_of_le_of_ne hrows hone
      rw [cut_eq_append hstart hlt]
      conv => lhs; arg 2; rw [← String.append_assoc, sliceTo_append_sliceFrom]
      rw [← String.append_assoc, ← join_take_succ hstart, join_take_append_upTo,
        Nat.add_sub_cancel' hlt]

/-- The text from one position to a second one and the text from there to a third one are the text
from the first to the third, wherever the positions are. -/
theorem cut_append_cut (lines : List String) {a b c : Position} (hab : a ≤ b) (hbc : b ≤ c) :
    cut lines ⟨a, b, hab⟩ ++ cut lines ⟨b, c, hbc⟩ =
      cut lines ⟨a, c, Position.le_trans hab hbc⟩ := by
  have hfirst := upTo_append_cut lines ⟨a, b, hab⟩
  have hsecond := upTo_append_cut lines ⟨b, c, hbc⟩
  have hwhole := upTo_append_cut lines ⟨a, c, Position.le_trans hab hbc⟩
  rw [← hfirst, ← hwhole, String.append_assoc] at hsecond
  exact (String.append_right_inj _).1 hsecond

/-- The seam is past the width of a line in one text and past the last line in the other. -/
theorem cut_append_cut_pastEnds :
    let lines := splitLines "é=1\r\n\nb"
    let first : Position := ⟨0, 1⟩
    let pastWidth : Position := ⟨0, 9⟩
    let pastLines : Position := ⟨4, 2⟩
    let last : Position := ⟨7, 0⟩
    first ≤ pastWidth ∧ pastWidth ≤ pastLines ∧ pastLines ≤ last ∧
    cut lines ⟨first, pastWidth, by decide⟩ ++ cut lines ⟨pastWidth, pastLines, by decide⟩ =
      "=1\r\n\nb" ∧
    cut lines ⟨first, pastLines, by decide⟩ ++ cut lines ⟨pastLines, last, by decide⟩ =
      "=1\r\n\nb" := by
  intro lines first pastWidth pastLines last
  have hwidth : first ≤ pastWidth := by decide
  have hlines : pastWidth ≤ pastLines := by decide
  have hlast : pastLines ≤ last := by decide
  have hpast : cut lines ⟨first, pastLines, by decide⟩ = "=1\r\n\nb" := by decide
  have hwhole : cut lines ⟨first, last, by decide⟩ = "=1\r\n\nb" := by decide
  refine ⟨hwidth, hlines, hlast, ?_, ?_⟩
  · rw [← hpast]
    exact cut_append_cut lines hwidth hlines
  · rw [← hwhole]
    exact cut_append_cut lines (Position.le_trans hwidth hlines) hlast

end CursorScope.Text
