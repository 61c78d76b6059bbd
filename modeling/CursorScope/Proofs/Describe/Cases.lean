import CursorScope.Language.Classifier
import CursorScope.Proofs.Slices

/-!
# Case labels

A case label is told by its text through its colon, the first child of that type. Where the points
of the label and of the colon are those of byte offsets (`Node.Spans`), that text is the stretch of
bytes from the start of the label through the colon (`Node.HasHeader.headerThroughColon_slice`), a
beginning of the text of the label. So what follows the colon does not matter, neither in the text
nor in the tree. All of this is put together in `Classifier.classify_case`.
-/

namespace CursorScope

/-! ## Stretches of bytes -/

/-- A node covers the bytes of a text between two borders of characters. -/
structure Node.Spans (node : Node) (content : String) (first last : String.Pos.Raw) : Prop where
  first_valid : first.IsValid content
  last_valid : last.IsValid content
  first_le_last : first.byteIdx ≤ last.byteIdx
  startPoint_eq : node.startPoint = .ofOffset content first
  endPoint_eq : node.endPoint = .ofOffset content last

/-- A node covers the middle one of three parts of a text. -/
theorem Node.Spans.of_append {node : Node} {content : String} (x y z : String)
    (hcontent : content = x ++ y ++ z) (hstart : node.startPoint = .ofOffset content x.rawEndPos)
    (hend : node.endPoint = .ofOffset content (x ++ y).rawEndPos) :
    node.Spans content x.rawEndPos (x ++ y).rawEndPos where
  first_valid := by
    rw [hcontent, String.append_assoc]
    exact String.Pos.Raw.isValid_iff_exists_append.2 ⟨x, y ++ z, rfl, rfl⟩
  last_valid := by
    rw [hcontent]
    exact String.Pos.Raw.isValid_iff_exists_append.2 ⟨x ++ y, z, rfl, rfl⟩
  first_le_last := by
    rw [String.byteIdx_rawEndPos, String.byteIdx_rawEndPos, String.utf8ByteSize_append]
    exact Nat.le_add_right _ _
  startPoint_eq := hstart
  endPoint_eq := hend

namespace Node.Spans

variable {node : Node} {content : String} {a b : String.Pos.Raw} (h : node.Spans content a b)

include h

theorem text_eq_slice (uri : String) :
    node.startPoint ≤ node.endPoint ∧ ∃ text, node.text (.ofText content uri) = .ok text ∧
      text.toByteArray = content.toByteArray.extract a.byteIdx b.byteIdx :=
  Node.text_eq_slice uri h.first_valid h.last_valid h.first_le_last h.startPoint_eq h.endPoint_eq

/-- The bytes that a node covers are those of its text. -/
theorem extract_eq {uri text : String} (htext : node.text (.ofText content uri) = .ok text) :
    content.toByteArray.extract a.byteIdx b.byteIdx = text.toByteArray := by
  obtain ⟨-, _, hslice, hbytes⟩ := h.text_eq_slice uri
  rw [htext] at hslice
  cases hslice
  exact hbytes.symm

end Node.Spans

namespace Text

/-- The bytes up to a border of characters begin with those up to an earlier border. -/
theorem isPrefix_of_extract {content short long : String} {first : Nat} {d b : String.Pos.Raw}
    (hd : d.IsValid content) (hb : b.IsValid content) (hfirst : first ≤ d.byteIdx)
    (hdb : d.byteIdx ≤ b.byteIdx)
    (hshort : short.toByteArray = content.toByteArray.extract first d.byteIdx)
    (hlong : long.toByteArray = content.toByteArray.extract first b.byteIdx) :
    short.toList <+: long.toList := by
  obtain ⟨x, y, z, rfl, hx, hy⟩ := exists_split hd hb hdb
  have hrest : long = short ++ y := by
    refine String.toByteArray_inj.1 ?_
    rw [String.toByteArray_append, hlong, hshort, ← extract_between x y z, ← hx, ← hy]
    exact ByteArray.extract_eq_extract_append_extract _ hfirst hdb
  rw [hrest, String.toList_append]
  exact List.prefix_append _ _

/-- Texts with the same first bytes have the same bytes between any two places among them. -/
theorem extract_eq_of_extract_zero {content other : String} {count : Nat}
    (h : other.toByteArray.extract 0 count = content.toByteArray.extract 0 count) (first : Nat)
    {last : Nat} (hlast : last ≤ count) :
    other.toByteArray.extract first last = content.toByteArray.extract first last := by
  have hpart (text : String) : text.toByteArray.extract first last =
      (text.toByteArray.extract 0 count).extract first last := by
    rw [ByteArray.extract_extract, Nat.zero_add, Nat.zero_add, Nat.min_eq_left hlast]
  rw [hpart, h, ← hpart]

end Text

/-! ## Headers of case labels -/

namespace Node

variable {content : String} {label colon : Node} {a c d : String.Pos.Raw}

/-- A label starts at the first of three offsets, and its colon, the first child of that type,
covers the bytes between the other two. -/
structure HasHeader (label : Node) (content : String) (a c d : String.Pos.Raw) : Prop where
  spans : ∃ b, label.Spans content a b
  exists_colon : ∃ colon, label.children.find? (·.type == ":") = some colon ∧
    colon.Spans content c d
  start_le_colon : a.byteIdx ≤ c.byteIdx

theorem headerThroughColon_of_colon (hcolon : label.children.find? (·.type == ":") = some colon)
    {doc : Document} {before : String} (hbefore : label.textBefore colon doc = .ok before) :
    label.headerThroughColon doc = .ok (before ++ ":") := by
  unfold headerThroughColon
  rw [hcolon]
  dsimp only
  rw [hbefore]
  rfl

/-- The header of a label without a colon is all of its text. -/
theorem headerThroughColon_of_none (hcolon : label.children.find? (·.type == ":") = none)
    (doc : Document) : label.headerThroughColon doc = label.text doc := by
  unfold headerThroughColon
  rw [hcolon]

/-- The header of a label are the bytes from its start through its colon. -/
theorem HasHeader.headerThroughColon_slice (h : label.HasHeader content a c d)
    (hsign : content.toByteArray.extract c.byteIdx d.byteIdx = ":".toByteArray) (uri : String) :
    ∃ header, label.headerThroughColon (.ofText content uri) = .ok header ∧
      header.toByteArray = content.toByteArray.extract a.byteIdx d.byteIdx := by
  obtain ⟨b, hlabel⟩ := h.spans
  obtain ⟨colon, hcolon, hspan⟩ := h.exists_colon
  obtain ⟨before, hbefore, hslice⟩ := textBefore_eq_slice uri hlabel.first_valid hspan.first_valid
    h.start_le_colon hlabel.startPoint_eq hspan.startPoint_eq (hlabel.text_eq_slice uri).1
    (hspan.text_eq_slice uri).1
  refine ⟨before ++ ":", headerThroughColon_of_colon hcolon hbefore, ?_⟩
  rw [String.toByteArray_append, hslice, ← hsign]
  exact (ByteArray.extract_eq_extract_append_extract _ h.start_le_colon hspan.first_le_last).symm

/-- Two labels have the same header in two texts that are the same through the colon. -/
theorem HasHeader.headerThroughColon_eq {other : Node} {otherContent header uri : String}
    (h : label.HasHeader content a c d) (hother : other.HasHeader otherContent a c d)
    (hbytes : otherContent.toByteArray.extract 0 d.byteIdx =
      content.toByteArray.extract 0 d.byteIdx)
    (hsign : content.toByteArray.extract c.byteIdx d.byteIdx = ":".toByteArray)
    (hheader : label.headerThroughColon (.ofText content uri) = .ok header) (otherUri : String) :
    other.headerThroughColon (.ofText otherContent otherUri) = .ok header := by
  have hpart (first : Nat) :=
    Text.extract_eq_of_extract_zero hbytes first (Nat.le_refl d.byteIdx)
  obtain ⟨_, hslice, hthrough⟩ := h.headerThroughColon_slice hsign uri
  obtain ⟨otherHeader, hotherSlice, hotherThrough⟩ :=
    hother.headerThroughColon_slice ((hpart _).trans hsign) otherUri
  rw [hheader] at hslice
  cases hslice
  have heq : otherHeader = header := String.toByteArray_inj.1 <| by
    rw [hotherThrough, hthrough, hpart]
  rw [hotherSlice, heq]

end Node

/-! ## Classification of case labels -/

/-- A signature of a keyword alone is written as the words of the keyword. -/
theorem Signature.render_keyword (keyword : String) :
    ({ keyword } : Signature).render = Text.collapse keyword := by
  have hhead : ({ keyword } : Signature).head = keyword := by
    by_cases h : keyword = ""
    · rw [h]
      rfl
    · simp [Signature.head, h]
  simp [Signature.render, Signature.raw, hhead]

namespace Classifier

variable {classifier : Classifier} {site : Site}

theorem classify_of_headerThroughColon (hkind : classifier.kindOf site.node.type = .switchCase)
    {doc : Document} {header : String} (h : site.node.headerThroughColon doc = .ok header) :
    classifier.classify site doc = .ok (some ⟨.switchCase, Text.collapse header, "switch"⟩) := by
  unfold classify
  rw [hkind]
  show some <$> describeCase site.node doc >>= _ = _
  unfold describeCase
  rw [h, ← Signature.render_keyword]
  rfl

/-- A case label without a colon is classified by all of its text on one line. One with a colon is
classified by its text through the colon, which is a beginning of all of it, and so are all labels
of its type that start and have their colons at the same offsets, in all texts with the same bytes
through the colon. -/
theorem classify_case (classifier : Classifier) (content uri : String) {site : Site}
    {a b : String.Pos.Raw} (hkind : classifier.kindOf site.node.type = .switchCase)
    (hlabel : site.node.Spans content a b) :
    let doc : Document := .ofText content uri
    (site.node.children.find? (·.type == ":") = none →
      ∃ text, site.node.text doc = .ok text ∧
        text.toByteArray = content.toByteArray.extract a.byteIdx b.byteIdx ∧
        site.node.headerThroughColon doc = .ok text ∧
        classifier.classify site doc =
          .ok (some ⟨.switchCase, Text.collapse text, "switch"⟩)) ∧
    ∀ colon c d, site.node.children.find? (·.type == ":") = some colon →
      colon.Spans content c d → a.byteIdx ≤ c.byteIdx → d.byteIdx ≤ b.byteIdx →
      colon.text doc = .ok ":" →
      ∃ header text, site.node.headerThroughColon doc = .ok header ∧
        site.node.text doc = .ok text ∧ header.toList <+: text.toList ∧
        header.toByteArray = content.toByteArray.extract a.byteIdx d.byteIdx ∧
        classifier.classify site doc =
          .ok (some ⟨.switchCase, Text.collapse header, "switch"⟩) ∧
        ∀ (otherContent otherUri : String) (other : Site),
          otherContent.toByteArray.extract 0 d.byteIdx = content.toByteArray.extract 0 d.byteIdx →
          other.node.type = site.node.type → other.node.HasHeader otherContent a c d →
          classifier.classify other (.ofText otherContent otherUri) =
            .ok (some ⟨.switchCase, Text.collapse header, "switch"⟩) := by
  intro doc
  obtain ⟨-, text, htext, hslice⟩ := hlabel.text_eq_slice uri
  refine ⟨fun hnone => ?_, fun colon c d hcolon hspan hac hdb hsign => ?_⟩
  · have hheader : site.node.headerThroughColon doc = .ok text := by
      rw [Node.headerThroughColon_of_none hnone, htext]
    exact ⟨text, htext, hslice, hheader, classify_of_headerThroughColon hkind hheader⟩
  · have hbytes := hspan.extract_eq hsign
    have hhas : site.node.HasHeader content a c d := ⟨⟨b, hlabel⟩, ⟨colon, hcolon, hspan⟩, hac⟩
    obtain ⟨header, hheader, hthrough⟩ := hhas.headerThroughColon_slice hbytes uri
    have had := Nat.le_trans hac hspan.first_le_last
    have hbegins : header.toList <+: text.toList :=
      Text.isPrefix_of_extract hspan.last_valid hlabel.last_valid had hdb hthrough hslice
    refine ⟨header, text, hheader, htext, hbegins, hthrough,
      classify_of_headerThroughColon hkind hheader, ?_⟩
    intro otherContent otherUri other hsame htype hother
    have hotherHeader := hhas.headerThroughColon_eq hother hsame hbytes hheader otherUri
    exact classify_of_headerThroughColon (htype ▸ hkind) hotherHeader

end Classifier

/-- The label `case é,`, `2:` over two lines, with a statement behind its colon. -/
def labelOverLines (statement : Node) : Site :=
  .ofRoot ⟨0, "expression_case", true, false, none, 2, statement.endByte, ⟨1, 0⟩,
    statement.endPoint,
    [⟨1, "case", false, false, none, 2, 6, ⟨1, 0⟩, ⟨1, 4⟩, []⟩,
      ⟨2, "expression_list", true, false, some "value", 7, 13, ⟨1, 5⟩, ⟨2, 2⟩, []⟩,
      ⟨3, ":", false, false, none, 13, 14, ⟨2, 2⟩, ⟨2, 3⟩, []⟩, statement]⟩

/-- Another statement on another line behind the colon leaves the label as it is told, and a label
that still lacks its colon is told by all of its text. -/
theorem classify_case_labelOverLines :
    let content := "\x7b\ncase é,\n\t2: f()\n\x7d"
    let otherContent := "\x7b\ncase é,\n\t2:\n\tg(x)\n\x7d"
    let site := labelOverLines
      ⟨4, "expression_statement", true, false, none, 15, 18, ⟨2, 4⟩, ⟨2, 7⟩, []⟩
    let other := labelOverLines
      ⟨4, "expression_statement", true, false, none, 16, 20, ⟨3, 1⟩, ⟨3, 5⟩, []⟩
    let colon : Node := ⟨3, ":", false, false, none, 13, 14, ⟨2, 2⟩, ⟨2, 3⟩, []⟩
    let unfinished : Site :=
      .ofRoot ⟨0, "default_case", true, false, none, 0, 7, ⟨0, 0⟩, ⟨0, 7⟩, []⟩
    let classifier := Language.go.classifier
    (classifier.kindOf site.node.type = .switchCase ∧ site.node.Spans content ⟨2⟩ ⟨18⟩ ∧
      site.node.children.find? (·.type == ":") = some colon ∧ colon.Spans content ⟨13⟩ ⟨14⟩ ∧
      colon.text (.ofText content "") = .ok ":" ∧
      classifier.classify site (.ofText content "") =
        .ok (some ⟨.switchCase, "case é, 2:", "switch"⟩)) ∧
    (otherContent.toByteArray.extract 0 14 = content.toByteArray.extract 0 14 ∧
      other.node.HasHeader otherContent ⟨2⟩ ⟨13⟩ ⟨14⟩ ∧
      classifier.classify other (.ofText otherContent "") =
        .ok (some ⟨.switchCase, "case é, 2:", "switch"⟩)) ∧
    unfinished.node.Spans "default" ⟨0⟩ ⟨7⟩ ∧
    classifier.classify unfinished (.ofText "default" "") =
      .ok (some ⟨.switchCase, "default", "switch"⟩) := by
  intro content otherContent site other colon unfinished classifier
  have hlabel : site.node.Spans content ⟨2⟩ ⟨18⟩ :=
    .of_append "\x7b\n" "case é,\n\t2: f()" "\n\x7d" (by decide) (by decide) (by decide)
  have hcolon : colon.Spans content ⟨13⟩ ⟨14⟩ :=
    .of_append "\x7b\ncase é,\n\t2" ":" " f()\n\x7d" (by decide) (by decide) (by decide)
  have hother : other.node.HasHeader otherContent ⟨2⟩ ⟨13⟩ ⟨14⟩ :=
    ⟨⟨⟨20⟩, .of_append "\x7b\n" "case é,\n\t2:\n\tg(x)" "\n\x7d" (by decide) (by decide)
      (by decide)⟩,
    ⟨colon, rfl, .of_append "\x7b\ncase é,\n\t2" ":" "\n\tg(x)\n\x7d" (by decide) (by decide)
      (by decide)⟩,
    by decide⟩
  have hunfinished : unfinished.node.Spans "default" ⟨0⟩ ⟨7⟩ :=
    .of_append "" "default" "" (by decide) (by decide) (by decide)
  have hsign : colon.text (.ofText content "") = .ok ":" := by decide
  have hsame : otherContent.toByteArray.extract 0 14 = content.toByteArray.extract 0 14 := by
    decide
  obtain ⟨-, hthrough⟩ := Classifier.classify_case classifier content "" rfl hlabel
  obtain ⟨header, -, hheader, -, -, -, hclassify, hothers⟩ :=
    hthrough colon ⟨13⟩ ⟨14⟩ rfl hcolon (by decide) (by decide) hsign
  have hline : site.node.headerThroughColon (.ofText content "") = .ok "case é,\n\t2:" := by decide
  rw [hline] at hheader
  cases hheader
  obtain ⟨hnone, -⟩ := Classifier.classify_case classifier "default" "" rfl hunfinished
  obtain ⟨text, htext, -, -, hwhole⟩ := hnone rfl
  have hdefault : unfinished.node.text (.ofText "default" "") = .ok "default" := by decide
  rw [hdefault] at htext
  cases htext
  have hotherClassify := hothers otherContent "" other hsame rfl hother
  exact ⟨⟨rfl, hlabel, rfl, hcolon, hsign, hclassify⟩, ⟨hsame, hother, hotherClassify⟩,
    hunfinished, hwhole⟩

end CursorScope
