import CursorScope.Proofs.Points

/-!
# Texts of nodes as slices of bytes

A node whose points are those of two byte offsets of a text covers the bytes between the offsets,
and what it has before another node are the bytes up to the offset where that one starts
(`Node.text_slice`). The offsets stand on borders of characters, anywhere from the start of the text
to its very end.
-/

namespace CursorScope

/-- The point of a byte offset of a text. -/
def Point.ofOffset (text : String) (offset : String.Pos.Raw) : Point :=
  .after (text.toByteArray.data.toList.take offset.byteIdx)

namespace Text

/-- Two borders of characters, one not after the other, split a text in three. -/
theorem exists_split {text : String} {a b : String.Pos.Raw} (ha : a.IsValid text)
    (hb : b.IsValid text) (hab : a.byteIdx ≤ b.byteIdx) :
    ∃ x y z, text = x ++ y ++ z ∧ a.byteIdx = x.utf8ByteSize ∧
      b.byteIdx = (x ++ y).utf8ByteSize := by
  obtain ⟨x, rest, htext, rfl⟩ := String.Pos.Raw.isValid_iff_exists_append.1 ha
  obtain ⟨w, z, hother, rfl⟩ := String.Pos.Raw.isValid_iff_exists_append.1 hb
  replace hab : x.utf8ByteSize ≤ w.utf8ByteSize := hab
  have hlists : x.toList ++ rest.toList = w.toList ++ z.toList := by
    rw [← String.toList_append, ← String.toList_append, ← htext, hother]
  rcases List.append_eq_append_iff.1 hlists with ⟨cs, hw, -⟩ | ⟨cs, hx, -⟩
  · have hsplit : w = x ++ String.ofList cs := by
      refine String.ext ?_
      rw [hw, String.toList_append, String.toList_ofList]
    exact ⟨x, String.ofList cs, z, by rw [hother, hsplit], rfl, by rw [← hsplit]; rfl⟩
  · -- The first offset is not after the second one, so nothing is between them.
    have hsplit : x = w ++ String.ofList cs := by
      refine String.ext ?_
      rw [hx, String.toList_append, String.toList_ofList]
    have hnone : String.ofList cs = "" := by
      rw [hsplit, String.utf8ByteSize_append] at hab
      exact String.utf8ByteSize_eq_zero_iff.1 (by omega)
    rw [hnone, String.append_empty] at hsplit
    exact ⟨w, "", z, by rw [hother, String.append_empty], by rw [hsplit]; rfl,
      by rw [String.append_empty]; rfl⟩

variable (x y z : String)

theorem length_bytes : (bytes x.toList).length = x.utf8ByteSize := by
  rw [← data_toByteArray, Array.length_toList, ← String.size_toByteArray]
  rfl

theorem extract_between :
    (x ++ y ++ z).toByteArray.extract x.utf8ByteSize (x ++ y).utf8ByteSize = y.toByteArray := by
  rw [String.toByteArray_append, ← String.size_toByteArray (s := x ++ y),
    ByteArray.extract_append_size_left, String.toByteArray_append]
  refine ByteArray.extract_append_eq_right String.size_toByteArray.symm ByteArray.size_append

/-- The point of a border of characters is the one behind the bytes of the text before it. -/
theorem ofOffset_eq {offset : String.Pos.Raw} (h : offset.byteIdx = x.utf8ByteSize) :
    Point.ofOffset (x ++ y) offset = .after (bytes x.toList) := by
  rw [Point.ofOffset, data_toByteArray, String.toList_append, bytes_append, h, ← length_bytes,
    List.take_left]

end Text

/-- The point behind a text is not after the one behind a longer text. -/
theorem Text.after_le_append (x y : String) :
    Point.after (bytes x.toList) ≤ .after (bytes (x ++ y).toList) := by
  rw [String.toList_append, bytes_append, Point.after_append, Point.le_def]
  dsimp only
  split <;> omega

namespace Document

/-- The text between the points at the ends of a piece of a text is the piece. -/
theorem cut_between (x y z uri : String) {range : Range}
    (hstart : range.start =
      (ofText (x ++ y ++ z) uri).positionAt (.after (Text.bytes x.toList)))
    (hstop : range.stop =
      (ofText (x ++ y ++ z) uri).positionAt (.after (Text.bytes (x ++ y).toList))) :
    (ofText (x ++ y ++ z) uri).cut range = y := by
  have hcut := textBefore_append_cut _ hstart hstop
  have hbefore : (ofText (x ++ y ++ z) uri).textBefore (.after (Text.bytes x.toList)) = x := by
    rw [String.append_assoc]
    exact textBefore_after x (y ++ z) uri
  rw [hbefore, textBefore_after (x ++ y) z uri] at hcut
  exact String.append_right_inj x |>.1 hcut

end Document

namespace Node

variable {content : String} {node : Node} {a b : String.Pos.Raw}

/-- A node whose points are those of two offsets has the bytes between them as text. -/
theorem text_eq_slice (uri : String) (ha : a.IsValid content) (hb : b.IsValid content)
    (hab : a.byteIdx ≤ b.byteIdx) (hstart : node.startPoint = .ofOffset content a)
    (hend : node.endPoint = .ofOffset content b) :
    node.startPoint ≤ node.endPoint ∧ ∃ text, node.text (.ofText content uri) = .ok text ∧
      text.toByteArray = content.toByteArray.extract a.byteIdx b.byteIdx := by
  obtain ⟨x, y, z, rfl, hx, hy⟩ := Text.exists_split ha hb hab
  rw [String.append_assoc, Text.ofOffset_eq x (y ++ z) hx] at hstart
  rw [Text.ofOffset_eq (x ++ y) z hy] at hend
  have hle : node.startPoint ≤ node.endPoint := by
    rw [hstart, hend]
    exact Text.after_le_append x y
  refine ⟨hle, y, ?_, ?_⟩
  · unfold Node.text
    rw [range_eq_ok _ hle]
    exact congrArg Except.ok (Document.cut_between x y z uri (by rw [← hstart]) (by rw [← hend]))
  · rw [hx, hy, Text.extract_between]

/-- What a node that starts at an offset has before one that starts at a later offset are the bytes
between the offsets. -/
theorem textBefore_eq_slice {child : Node} (uri : String) (ha : a.IsValid content)
    (hb : b.IsValid content) (hab : a.byteIdx ≤ b.byteIdx)
    (hstart : node.startPoint = .ofOffset content a)
    (hchild : child.startPoint = .ofOffset content b) (hnode : node.startPoint ≤ node.endPoint)
    (hordered : child.startPoint ≤ child.endPoint) :
    ∃ text, node.textBefore child (.ofText content uri) = .ok text ∧
      text.toByteArray = content.toByteArray.extract a.byteIdx b.byteIdx := by
  obtain ⟨x, y, z, rfl, hx, hy⟩ := Text.exists_split ha hb hab
  rw [String.append_assoc, Text.ofOffset_eq x (y ++ z) hx] at hstart
  rw [Text.ofOffset_eq (x ++ y) z hy] at hchild
  have hle : node.startPoint ≤ child.startPoint := by
    rw [hstart, hchild]
    exact Text.after_le_append x y
  refine ⟨y, ?_, ?_⟩
  · unfold Node.textBefore
    rw [range_eq_ok _ hnode, range_eq_ok _ hordered]
    refine congrArg Except.ok (Document.cut_between x y z uri ?_ ?_)
    · rw [← hstart]
      rfl
    · rw [← hchild]
      exact Range.stop_upTo (Document.positionAt_mono _ hle)
  · rw [hx, hy, Text.extract_between]

/-- A node whose points are those of two offsets has as text the bytes between them, and before a
node that starts at an offset between them the bytes up to that offset. The other node may end
anywhere but before it starts. -/
theorem text_slice (content uri : String) (ha : a.IsValid content) (hb : b.IsValid content)
    (hab : a.byteIdx ≤ b.byteIdx) (hstart : node.startPoint = .ofOffset content a)
    (hend : node.endPoint = .ofOffset content b) :
    (∃ text, node.text (.ofText content uri) = .ok text ∧
      text.toByteArray = content.toByteArray.extract a.byteIdx b.byteIdx) ∧
    ∀ (child : Node) (m : String.Pos.Raw), m.IsValid content → a.byteIdx ≤ m.byteIdx →
      m.byteIdx ≤ b.byteIdx → child.startPoint = .ofOffset content m →
      child.startPoint ≤ child.endPoint →
      ∃ text, node.textBefore child (.ofText content uri) = .ok text ∧
        text.toByteArray = content.toByteArray.extract a.byteIdx m.byteIdx := by
  obtain ⟨hnode, htext⟩ := text_eq_slice uri ha hb hab hstart hend
  exact ⟨htext, fun child m hm ham _ hchild hordered =>
    textBefore_eq_slice uri ha hm ham hstart hchild hnode hordered⟩

end Node

/-- A node that starts on a line with a two-byte character and ends behind the last newline of its
text, with a child behind a four-byte character on the second line. -/
def acrossLines : Node :=
  ⟨0, "block", true, false, none, 2, 10, ⟨0, 2⟩, ⟨2, 0⟩,
    [⟨1, "identifier", true, false, none, 8, 9, ⟨1, 4⟩, ⟨1, 5⟩, []⟩]⟩

/-- The text of that node, and what it has before its child. -/
theorem text_slice_acrossLines :
    let content := "é\r\n😀x\n"
    let child : Node := ⟨1, "identifier", true, false, none, 8, 9, ⟨1, 4⟩, ⟨1, 5⟩, []⟩
    (⟨2⟩ : String.Pos.Raw).IsValid content ∧ (⟨10⟩ : String.Pos.Raw).IsValid content ∧
    acrossLines.startPoint = .ofOffset content ⟨2⟩ ∧
    acrossLines.endPoint = .ofOffset content ⟨10⟩ ∧ child ∈ acrossLines.children ∧
    (⟨8⟩ : String.Pos.Raw).IsValid content ∧ child.startPoint = .ofOffset content ⟨8⟩ ∧
    child.startPoint ≤ child.endPoint ∧
    acrossLines.text (.ofText content "") = .ok "\r\n😀x\n" ∧
    acrossLines.textBefore child (.ofText content "") = .ok "\r\n😀" := by
  intro content child
  have hfirst : (⟨2⟩ : String.Pos.Raw).IsValid content :=
    String.Pos.Raw.isValid_iff_exists_append.2 ⟨"é", "\r\n😀x\n", by decide, rfl⟩
  have hlast : (⟨10⟩ : String.Pos.Raw).IsValid content :=
    String.Pos.Raw.isValid_iff_exists_append.2 ⟨content, "", by decide, rfl⟩
  have hmiddle : (⟨8⟩ : String.Pos.Raw).IsValid content :=
    String.Pos.Raw.isValid_iff_exists_append.2 ⟨"é\r\n😀", "x\n", by decide, rfl⟩
  have hstart : acrossLines.startPoint = .ofOffset content ⟨2⟩ := by decide
  have hend : acrossLines.endPoint = .ofOffset content ⟨10⟩ := by decide
  have hchild : child.startPoint = .ofOffset content ⟨8⟩ := by decide
  obtain ⟨⟨text, htext, hbytes⟩, hheader⟩ :=
    Node.text_slice content "" hfirst hlast (by decide) hstart hend
  obtain ⟨header, hheader, hheaderBytes⟩ :=
    hheader child ⟨8⟩ hmiddle (by decide) (by decide) hchild (by decide)
  have hslice : text = "\r\n😀x\n" :=
    String.toByteArray_inj.1 (hbytes.trans (Text.extract_between "é" "\r\n😀x\n" ""))
  have hheaderSlice : header = "\r\n😀" :=
    String.toByteArray_inj.1 (hheaderBytes.trans (Text.extract_between "é" "\r\n😀" "x\n"))
  rw [hslice] at htext
  rw [hheaderSlice] at hheader
  exact ⟨hfirst, hlast, hstart, hend, List.mem_singleton_self _, hmiddle, hchild, by decide, htext,
    hheader⟩

/-- A child that ends before it starts has no range, so that nothing is before it. -/
theorem text_slice_fails_reversedChild :
    let content := "ab"
    let child : Node := ⟨1, "identifier", true, false, none, 1, 0, ⟨0, 1⟩, ⟨0, 0⟩, []⟩
    let node : Node := ⟨0, "module", true, false, none, 0, 2, ⟨0, 0⟩, ⟨0, 2⟩, [child]⟩
    (⟨0⟩ : String.Pos.Raw).IsValid content ∧ (⟨2⟩ : String.Pos.Raw).IsValid content ∧
    (⟨1⟩ : String.Pos.Raw).IsValid content ∧ node.startPoint = .ofOffset content ⟨0⟩ ∧
    node.endPoint = .ofOffset content ⟨2⟩ ∧ child ∈ node.children ∧
    child.startPoint = .ofOffset content ⟨1⟩ ∧
    ¬ ∃ text, node.textBefore child (.ofText content "") = .ok text ∧
      text.toByteArray = content.toByteArray.extract 0 1 := by
  intro content child node
  have hvalid (x y : String) (h : content = x ++ y) : x.rawEndPos.IsValid content :=
    String.Pos.Raw.isValid_iff_exists_append.2 ⟨x, y, h, rfl⟩
  have hfails : node.textBefore child (.ofText content "") =
      .error (.reversed ⟨0, 1⟩ ⟨0, 0⟩) := by decide
  refine ⟨hvalid "" "ab" (by decide), hvalid "ab" "" (by decide), hvalid "a" "b" (by decide),
    by decide, by decide, List.mem_singleton_self _, by decide, ?_⟩
  rintro ⟨text, htext, -⟩
  rw [hfails] at htext
  cases htext

end CursorScope
