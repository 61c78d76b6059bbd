import CursorScope.Proofs.Code
import CursorScope.Tree.Location

/-!
# Points of a text

`Point.after bytes` is the point that a syntax tree gives to the place behind some bytes: it counts
the newlines and the bytes behind the last of them. What a document has before a point
(`Document.textBefore`) is a matter of the text before the point only: at the point behind the bytes
of a text it is that text, whatever follows (`Document.textBefore_after`), and at any earlier point
all documents that start with the text have the same before it (`Document.textBefore_eq_of_le`) and
count it as the same position (`Document.positionAt_eq_of_le`). The text between two points leads
from what is before the one to what is before the other (`Document.textBefore_append_cut`).
-/

namespace CursorScope

/-! ## Bytes -/

namespace Text

/-- The bytes of characters in UTF-8. -/
def bytes (cs : List Char) : List UInt8 := cs.flatMap String.utf8EncodeChar

/-- The byte of a newline. -/
def newlineByte : UInt8 := 10

/-- Only a newline has the byte of a newline: the other characters of one byte have other bytes, and
those of several bytes none below 128. -/
theorem eq_newline_of_mem_utf8EncodeChar {c : Char} (h : newlineByte ∈ String.utf8EncodeChar c) :
    c = '\n' := by
  have hbyte {n : Nat} (hn : newlineByte = UInt8.ofNat n) : n % 256 = 10 := by
    have hnat := congrArg UInt8.toNat hn
    rw [UInt8.toNat_ofNat'] at hnat
    exact hnat.symm
  unfold String.utf8EncodeChar at h
  extract_lets code at h
  split at h
  · have hcode := hbyte (List.mem_singleton.1 h)
    have hval : c.val.toNat = 10 := by
      show code = 10
      omega
    exact Char.ext (UInt32.toNat_inj.1 hval)
  · split at h
    · simp only [List.mem_cons, List.not_mem_nil, or_false] at h
      rcases h with h | h <;> have hcode := hbyte h <;> omega
    · split at h
      · simp only [List.mem_cons, List.not_mem_nil, or_false] at h
        rcases h with h | h | h <;> have hcode := hbyte h <;> omega
      · simp only [List.mem_cons, List.not_mem_nil, or_false] at h
        rcases h with h | h | h | h <;> have hcode := hbyte h <;> omega

theorem bytes_cons (c : Char) (cs : List Char) :
    bytes (c :: cs) = String.utf8EncodeChar c ++ bytes cs := List.flatMap_cons

theorem bytes_append (cs ds : List Char) : bytes (cs ++ ds) = bytes cs ++ bytes ds :=
  List.flatMap_append

/-- The bytes of a text are those of its characters. -/
theorem data_toByteArray (text : String) : text.toByteArray.data.toList = bytes text.toList := by
  conv => lhs; rw [← String.ofList_toList (s := text), String.toByteArray_ofList]
  show ((bytes text.toList).toByteArray).data.toList = bytes text.toList
  rw [List.data_toByteArray]

end Text

/-! ## Points -/

namespace Point

/-- The point behind some bytes: as many rows down as there are newlines, and as many columns on as
there are bytes behind the last newline. -/
def after (bytes : List UInt8) : Point :=
  ⟨bytes.count Text.newlineByte, (bytes.rtakeWhile (· != Text.newlineByte)).length⟩

/-- A point is on the first row exactly when no newline is before it, and all bytes are then on that
row. -/
theorem row_after_eq_zero_iff (bytes : List UInt8) :
    (after bytes).row = 0 ↔ ∀ byte ∈ bytes, (byte != Text.newlineByte) = true := by
  show bytes.count Text.newlineByte = 0 ↔ _
  rw [List.count_eq_zero]
  constructor
  · intro hfree byte hbyte
    exact bne_iff_ne.2 fun heq => hfree (heq ▸ hbyte)
  · intro hall hmem
    exact absurd rfl (bne_iff_ne.1 (hall _ hmem))

/-- The column of a point is counted back from it to the last newline. -/
theorem column_after (bytes : List UInt8) :
    (after bytes).column = (bytes.reverse.takeWhile (· != Text.newlineByte)).length :=
  List.length_reverse

/-- The rows of two texts add up, and the columns of the first one count as long as the second one
has a single row. -/
theorem after_append (xs ys : List UInt8) :
    after (xs ++ ys) = ⟨(after xs).row + (after ys).row,
      (if (after ys).row = 0 then (after xs).column else 0) + (after ys).column⟩ := by
  have hcolumn : (after (xs ++ ys)).column =
      (if (after ys).row = 0 then (after xs).column else 0) + (after ys).column := by
    rw [column_after, column_after, column_after, List.reverse_append, List.takeWhile_append]
    by_cases hrow : (after ys).row = 0
    · have hall : ys.reverse.takeWhile (· != Text.newlineByte) = ys.reverse :=
        List.takeWhile_eq_self_iff.2 fun byte hbyte =>
          (row_after_eq_zero_iff ys).1 hrow byte (List.mem_reverse.1 hbyte)
      rw [if_pos (by rw [hall]), if_pos hrow, List.length_append, hall, Nat.add_comm]
    · have hnot : (ys.reverse.takeWhile (· != Text.newlineByte)).length ≠ ys.reverse.length := by
        intro hlength
        have hall := (List.takeWhile_prefix _).eq_of_length hlength
        refine hrow ((row_after_eq_zero_iff ys).2 fun byte hbyte => ?_)
        exact List.takeWhile_eq_self_iff.1 hall byte (List.mem_reverse.2 hbyte)
      rw [if_neg hnot, if_neg hrow, Nat.zero_add]
  rw [← hcolumn]
  show Point.mk _ _ = Point.mk _ _
  rw [List.count_append]
  rfl

/-- A newline in front moves a point down by a row. -/
theorem after_bytes_newline (cs : List Char) :
    after (Text.bytes ('\n' :: cs)) =
      ⟨(after (Text.bytes cs)).row + 1, (after (Text.bytes cs)).column⟩ := by
  have hnewline : after (String.utf8EncodeChar '\n') = ⟨1, 0⟩ := rfl
  rw [Text.bytes_cons, after_append, hnewline, ite_self, Nat.zero_add, Nat.add_comm]

/-- Any other character in front moves a point on, unless it is on a later row. -/
theorem after_bytes_cons {c : Char} (hc : c ≠ '\n') (cs : List Char) :
    after (Text.bytes (c :: cs)) = ⟨(after (Text.bytes cs)).row,
      (if (after (Text.bytes cs)).row = 0 then c.utf8Size else 0) +
        (after (Text.bytes cs)).column⟩ := by
  have hfree : ∀ byte ∈ String.utf8EncodeChar c, (byte != Text.newlineByte) = true :=
    fun byte hbyte => bne_iff_ne.2 fun heq =>
      hc (Text.eq_newline_of_mem_utf8EncodeChar (heq ▸ hbyte))
  have hrow : (after (String.utf8EncodeChar c)).row = 0 := (row_after_eq_zero_iff _).2 hfree
  have hcolumn : (after (String.utf8EncodeChar c)).column = c.utf8Size := by
    show (List.rtakeWhile _ _).length = c.utf8Size
    rw [List.rtakeWhile_eq_self_iff.2 hfree, String.length_utf8EncodeChar]
  rw [Text.bytes_cons, after_append, hrow, hcolumn, Nat.zero_add]

end Point

/-! ## What lines have before a point -/

namespace Text

theorem charactersWithin_zero (cs : List Char) : charactersWithin cs 0 = 0 := by
  cases cs with
  | nil => rfl
  | cons c rest => exact if_neg (Nat.not_le.2 c.utf8Size_pos)

/-- The number of characters that a line has before a point on it. -/
def characterAt (rows : List (List Char)) (p : Point) : Nat :=
  charactersWithin (rows.getD p.row []) p.column

/-- The characters of some lines before a point. -/
def before (rows : List (List Char)) (p : Point) : List Char :=
  (rows.take p.row).flatten ++ (rows.getD p.row []).take (characterAt rows p)

/-- The lines with a character in front of the first one. -/
def push (c : Char) (rows : List (List Char)) : List (List Char) :=
  (c :: rows.headD []) :: rows.tail

theorem lines_newline (cs : List Char) : lines ('\n' :: cs) = ['\n'] :: lines cs := by
  rw [lines, if_pos rfl]

theorem lines_cons {c : Char} (hc : c ≠ '\n') (cs : List Char) :
    lines (c :: cs) = push c (lines cs) := by
  rw [lines, if_neg hc]
  cases lines cs <;> rfl

variable {rows others : List (List Char)} {p : Point}

/-- A line in front moves what is read a row down. -/
theorem before_cons (line : List Char) (rows : List (List Char)) (row column : Nat) :
    before (line :: rows) ⟨row + 1, column⟩ = line ++ before rows ⟨row, column⟩ := by
  show (line ++ (rows.take row).flatten) ++ _ = line ++ ((rows.take row).flatten ++ _)
  rw [List.append_assoc]
  rfl

theorem getD_push_succ (c : Char) (rows : List (List Char)) (row : Nat) :
    (push c rows).getD (row + 1) [] = rows.getD (row + 1) [] := by
  cases rows with
  | nil => rfl
  | cons line rest => rfl

theorem flatten_take_push_succ (c : Char) (rows : List (List Char)) (row : Nat) :
    ((push c rows).take (row + 1)).flatten = c :: (rows.take (row + 1)).flatten := by
  cases rows with
  | nil => simp [push]
  | cons line rest => rfl

theorem getD_push_zero (c : Char) (rows : List (List Char)) :
    (push c rows).getD 0 [] = c :: rows.getD 0 [] := by
  cases rows with
  | nil => rfl
  | cons line rest => rfl

/-- The point behind a character that is put in front of some lines, as far as it stands on the
first one. -/
def pushed (c : Char) (p : Point) : Point :=
  ⟨p.row, (if p.row = 0 then c.utf8Size else 0) + p.column⟩

theorem characterAt_push (c : Char) (rows : List (List Char)) (p : Point) :
    characterAt (push c rows) (pushed c p) =
      (if p.row = 0 then 1 else 0) + characterAt rows p := by
  obtain ⟨row, column⟩ := p
  unfold characterAt pushed
  cases row with
  | zero =>
      show charactersWithin ((push c rows).getD 0 []) (c.utf8Size + column) = _
      rw [getD_push_zero, charactersWithin, if_pos (Nat.le_add_right _ _), Nat.add_sub_cancel_left,
        Nat.add_comm]
      rfl
  | succ row =>
      show charactersWithin ((push c rows).getD (row + 1) []) (0 + column) = 0 + _
      rw [getD_push_succ, Nat.zero_add, Nat.zero_add]

theorem before_push (c : Char) (rows : List (List Char)) (p : Point) :
    before (push c rows) (pushed c p) = c :: before rows p := by
  have hcharacter := characterAt_push c rows p
  obtain ⟨row, column⟩ := p
  unfold before
  rw [hcharacter]
  cases row with
  | zero =>
      show [] ++ ((push c rows).getD 0 []).take (1 + _) = c :: ([] ++ _)
      rw [getD_push_zero, Nat.add_comm 1, List.take_succ_cons]
      rfl
  | succ row =>
      show ((push c rows).take (row + 1)).flatten ++
        ((push c rows).getD (row + 1) []).take (0 + _) = c :: (_ ++ _)
      rw [getD_push_succ, flatten_take_push_succ, Nat.zero_add]
      rfl

/-- A point inside the first character has nothing before it. -/
theorem before_push_start {c : Char} (rows : List (List Char)) {column : Nat}
    (h : column < c.utf8Size) :
    characterAt (push c rows) ⟨0, column⟩ = 0 ∧ before (push c rows) ⟨0, column⟩ = [] := by
  have hcharacter : characterAt (push c rows) ⟨0, column⟩ = 0 := if_neg (Nat.not_le.2 h)
  refine ⟨hcharacter, ?_⟩
  unfold before
  rw [hcharacter]
  rfl

/-- Behind the bytes of a text its lines have all of the text before them. -/
theorem before_after (cs : List Char) : before (lines cs) (.after (bytes cs)) = cs := by
  induction cs with
  | nil => rfl
  | cons c rest ih =>
      by_cases hc : c = '\n'
      · subst hc
        rw [lines_newline, Point.after_bytes_newline, before_cons, ih]
        rfl
      · rw [lines_cons hc, Point.after_bytes_cons hc]
        show before (push c (lines rest)) (pushed c (.after (bytes rest))) = c :: rest
        rw [before_push, ih]

/-- Two lists of lines have the same before a point. -/
structure SameBefore (rows others : List (List Char)) (p : Point) : Prop where
  characterAt : characterAt rows p = characterAt others p
  before : before rows p = before others p

namespace SameBefore

theorem start (rows others : List (List Char)) : SameBefore rows others ⟨0, 0⟩ := by
  have hnone (rows : List (List Char)) :
      Text.characterAt rows ⟨0, 0⟩ = 0 ∧ Text.before rows ⟨0, 0⟩ = [] := by
    have hcharacter : Text.characterAt rows ⟨0, 0⟩ = 0 := charactersWithin_zero _
    refine ⟨hcharacter, ?_⟩
    unfold Text.before
    rw [hcharacter]
    rfl
  exact ⟨by rw [(hnone rows).1, (hnone others).1], by rw [(hnone rows).2, (hnone others).2]⟩

theorem cons {row column : Nat} (h : SameBefore rows others ⟨row, column⟩) (line : List Char) :
    SameBefore (line :: rows) (line :: others) ⟨row + 1, column⟩ :=
  ⟨h.characterAt, by rw [before_cons, before_cons, h.before]⟩

theorem push (h : SameBefore rows others p) (c : Char) :
    SameBefore (push c rows) (push c others) (pushed c p) :=
  ⟨by rw [characterAt_push, characterAt_push, h.characterAt],
    by rw [before_push, before_push, h.before]⟩

end SameBefore

/-- What a text has before a point in it does not depend on what follows the text. -/
theorem sameBefore_append {cs : List Char} (h : p ≤ Point.after (bytes cs)) (rest : List Char) :
    SameBefore (lines (cs ++ rest)) (lines cs) p := by
  induction cs generalizing p with
  | nil =>
      obtain ⟨row, column⟩ := p
      have hstart : (⟨row, column⟩ : Point) ≤ ⟨0, 0⟩ := h
      rw [Point.le_def] at hstart
      dsimp only at hstart
      obtain ⟨rfl, rfl⟩ : row = 0 ∧ column = 0 := by omega
      exact .start _ _
  | cons c cs ih =>
      obtain ⟨row, column⟩ := p
      rw [Point.le_def] at h
      by_cases hc : c = '\n'
      · subst hc
        rw [Point.after_bytes_newline] at h
        dsimp only at h
        rw [List.cons_append, lines_newline, lines_newline]
        cases row with
        | zero => exact ⟨rfl, rfl⟩
        | succ row =>
            refine (ih ?_).cons ['\n']
            rw [Point.le_def]
            dsimp only
            omega
      · rw [Point.after_bytes_cons hc] at h
        dsimp only at h
        rw [List.cons_append, lines_cons hc, lines_cons hc]
        by_cases hinside : row = 0 ∧ column < c.utf8Size
        · obtain ⟨rfl, hcolumn⟩ := hinside
          obtain ⟨hcharacter, hbefore⟩ := before_push_start (lines (cs ++ rest)) hcolumn
          obtain ⟨hother, hotherBefore⟩ := before_push_start (lines cs) hcolumn
          exact ⟨hcharacter.trans hother.symm, hbefore.trans hotherBefore.symm⟩
        · -- The point stands behind the character that is in front, or on a later row.
          have hpushed : (⟨row, column⟩ : Point) =
              pushed c ⟨row, column - if row = 0 then c.utf8Size else 0⟩ := by
            unfold pushed
            rw [Point.mk.injEq]
            refine ⟨rfl, ?_⟩
            dsimp only
            split <;> omega
          rw [hpushed]
          refine (ih ?_).push c
          rw [Point.le_def]
          dsimp only
          split at h <;> split <;> omega

end Text

/-! ## What documents have before a point -/

namespace Document

variable {p : Point}

/-- The text of a document before a point. -/
def textBefore (doc : Document) (p : Point) : String :=
  Text.upTo doc.lines p.row (doc.positionAt p).character

/-- The text between two points leads from what is before the one to what is before the other. -/
theorem textBefore_append_cut (doc : Document) {p q : Point} {range : Range}
    (hstart : range.start = doc.positionAt p) (hstop : range.stop = doc.positionAt q) :
    doc.textBefore p ++ doc.cut range = doc.textBefore q := by
  have hcut := Text.upTo_append_cut doc.lines range
  rw [hstart, hstop, line_positionAt, line_positionAt] at hcut
  exact hcut

theorem lines_ofText (text uri : String) :
    (ofText text uri).lines = (Text.lines text.toList).map .ofList := rfl

theorem positionAt_ofText (text uri : String) (p : Point) :
    (ofText text uri).positionAt p = ⟨p.row, Text.characterAt (Text.lines text.toList) p⟩ := by
  unfold positionAt Text.characterAt
  rw [lines_ofText, List.getElem?_map, List.getD_eq_getElem?_getD]
  cases (Text.lines text.toList)[p.row]? with
  | none => rfl
  | some row =>
      show Position.mk _ (Text.charactersWithin (String.ofList row).toList _) = _
      rw [String.toList_ofList]
      rfl

/-- What the document of a text has before a point is what the lines of the text have before it. -/
theorem toList_textBefore_ofText (text uri : String) (p : Point) :
    ((ofText text uri).textBefore p).toList = Text.before (Text.lines text.toList) p := by
  have hwhole (rows : List (List Char)) :
      (String.join (rows.map String.ofList)).toList = rows.flatten := by
    rw [String.toList_join, List.flatMap_map, List.flatMap_def]
    congr 1
    exact List.map_id'' (fun _ => String.toList_ofList) _
  unfold textBefore Text.upTo Text.before
  rw [positionAt_ofText, lines_ofText, List.getElem?_map, List.getD_eq_getElem?_getD,
    ← List.map_take, String.toList_append, hwhole]
  cases (Text.lines text.toList)[p.row]? with
  | none =>
      rw [Option.getD_none, List.take_nil]
      rfl
  | some row =>
      show _ ++ (Text.sliceTo (String.ofList row) _).toList = _
      rw [Text.toList_sliceTo, String.toList_ofList]
      rfl

variable {shared : String}

/-- Behind the bytes of a text a document that starts with it has the text before it. -/
theorem textBefore_after (shared rest uri : String) :
    (ofText (shared ++ rest) uri).textBefore (.after (Text.bytes shared.toList)) = shared := by
  refine String.ext ?_
  have hbefore := Text.sameBefore_append (Point.le_refl (.after (Text.bytes shared.toList)))
    rest.toList
  rw [toList_textBefore_ofText, String.toList_append, hbefore.before, Text.before_after]

/-- A point in a text is at the same position in all documents that start with the text. -/
theorem positionAt_eq_of_le (h : p ≤ Point.after (Text.bytes shared.toList))
    (rest otherRest uri otherUri : String) :
    (ofText (shared ++ rest) uri).positionAt p =
      (ofText (shared ++ otherRest) otherUri).positionAt p := by
  rw [positionAt_ofText, positionAt_ofText, String.toList_append, String.toList_append,
    (Text.sameBefore_append h rest.toList).characterAt,
    (Text.sameBefore_append h otherRest.toList).characterAt]

/-- Before a point in a text all documents that start with the text have the same. -/
theorem textBefore_eq_of_le (h : p ≤ Point.after (Text.bytes shared.toList))
    (rest otherRest uri otherUri : String) :
    (ofText (shared ++ rest) uri).textBefore p =
      (ofText (shared ++ otherRest) otherUri).textBefore p := by
  refine String.ext ?_
  rw [toList_textBefore_ofText, toList_textBefore_ofText, String.toList_append,
    String.toList_append, (Text.sameBefore_append h rest.toList).before,
    (Text.sameBefore_append h otherRest.toList).before]

end Document

end CursorScope
