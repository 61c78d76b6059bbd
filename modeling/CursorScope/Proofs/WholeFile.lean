import CursorScope.Proofs.Code
import CursorScope.Proofs.Focus

/-!
# Excerpts of whole files

Where no scope stands alone, an excerpt is about the whole file. With room for all of its lines the
excerpt shows the file from its start to the end of its last line, unless this line is empty: then
the file is a range that stops at the very start of a line, which is none of the lines that a range
shows (`LineSpan.ofRange_file_of_endsEmpty`). `Context.excerpt_showsFile_iff` says exactly when an
excerpt shows all of a file, and what it shows otherwise.
-/

namespace CursorScope

/-- The ending of a line, which is what stands in it past its width. -/
def Text.lineEnding (line : String) : String := sliceFrom line (lineWidth line)

theorem Text.bareLine_append_lineEnding (line : String) :
    bareLine line ++ lineEnding line = line := by
  rw [← sliceTo_lineWidth]
  exact sliceTo_append_sliceFrom line (lineWidth line)

namespace Document

/-- The document of the first lines of a document. -/
def firstLines (doc : Document) (count : Nat) : Document :=
  { doc with lines := doc.lines.take count }

/-- The last line of a document is not its only one and has no characters before its ending. -/
def EndsEmpty (doc : Document) : Prop :=
  1 < doc.lines.length ∧ doc.endPosition.character = 0

variable {doc : Document}

theorem firstLines_length (doc : Document) : doc.firstLines doc.lines.length = doc := by
  rw [firstLines, List.take_length]

theorem line_endPosition (doc : Document) : doc.endPosition.line = doc.lines.length - 1 := by
  unfold endPosition
  cases hlast : doc.lines.getLast? with
  | none => rw [List.getLast?_eq_none_iff.1 hlast, List.length_nil]
  | some last => rfl

theorem getLast?_firstLines {last : Nat} (h : last < doc.lines.length) :
    (doc.firstLines (last + 1)).lines.getLast? = some doc.lines[last] := by
  rw [firstLines, List.take_succ_eq_append_getElem h]
  exact List.getLast?_concat

theorem endPosition_firstLines {last : Nat} (h : last < doc.lines.length) :
    (doc.firstLines (last + 1)).endPosition = ⟨last, Text.lineWidth doc.lines[last]⟩ := by
  have hlength : (doc.firstLines (last + 1)).lines.length = last + 1 :=
    List.length_take_of_le h
  rw [endPosition, getLast?_firstLines h, hlength]
  rfl

/-- The lines of the document of a text put together are the text. -/
theorem join_lines_ofText (text uri : String) : String.join (ofText text uri).lines = text := by
  refine String.ext ?_
  rw [String.toList_join, List.flatMap_def]
  exact Text.join_splitLines text

/-- The range of a whole file stops at its end. -/
theorem stop_upTo_endPosition (doc : Document) :
    (Range.upTo ⟨0, 0⟩ doc.endPosition).stop = doc.endPosition := by
  refine Range.stop_upTo ?_
  rw [Position.le_def]
  rcases Nat.eq_zero_or_pos doc.endPosition.line with hzero | hpositive
  · exact .inr ⟨hzero.symm, Nat.zero_le _⟩
  · exact .inl hpositive

end Document

namespace LineSpan

variable {doc : Document}

/-- An empty last line is not one of the lines of a whole file. -/
theorem ofRange_file_of_endsEmpty (h : doc.EndsEmpty) :
    ofRange (.upTo ⟨0, 0⟩ doc.endPosition) doc.lines.length = ⟨0, doc.lines.length - 2⟩ := by
  obtain ⟨hmany, hempty⟩ := h
  have hstop := doc.stop_upTo_endPosition
  have hline := doc.line_endPosition
  have hlater : 0 < doc.endPosition.line := by omega
  have hlast : (ofRange (.upTo ⟨0, 0⟩ doc.endPosition) doc.lines.length).last =
      max 0 (min (doc.lines.length - 1 - 1) (doc.lines.length - 1)) := by
    rw [last_ofRange_of_zero (by rw [hstop, hempty]) (by rw [hstop]; exact hlater), hstop, hline]
    rfl
  exact congrArg (LineSpan.mk 0) (hlast.trans (by omega))

/-- A last line that is not empty, or the only one, is one of the lines of a whole file. -/
theorem ofRange_file_of_not_endsEmpty (h : ¬ doc.EndsEmpty) :
    ofRange (.upTo ⟨0, 0⟩ doc.endPosition) doc.lines.length = ⟨0, doc.lines.length - 1⟩ := by
  have hstop := doc.stop_upTo_endPosition
  have hline := doc.line_endPosition
  have hends : ¬ (doc.endPosition.character = 0 ∧ 0 < doc.endPosition.line) :=
    fun hboth => h ⟨by omega, hboth.1⟩
  have hlast : (ofRange (.upTo ⟨0, 0⟩ doc.endPosition) doc.lines.length).last =
      max 0 (min (doc.lines.length - 1) (doc.lines.length - 1)) := by
    rw [last_ofRange_of_not_zero (by rw [hstop]; exact hends), hstop, hline]
    rfl
  exact congrArg (LineSpan.mk 0) (hlast.trans (by omega))

end LineSpan

/-- The excerpt shows a document from its start to the end of its last line: all of its text but the
ending of this line. -/
structure Excerpt.ShowsFile (e : Excerpt) (doc : Document) : Prop where
  code : ∃ last, doc.lines.getLast? = some last ∧
    e.code ++ Text.lineEnding last = String.join doc.lines
  start : e.codeRange.start = ⟨0, 0⟩
  stop : e.codeRange.stop = doc.endPosition

namespace Context

variable {context : Context} {doc : Document} {target : Range} {budget : Budget} {e : Excerpt}

/-- An excerpt whose shown lines are the first ones of a document shows the document of these
lines. -/
theorem showsFile_of_excerpt {last : Nat} (hlast : last < doc.lines.length)
    (hshown : (context.layout doc target budget).shown = ⟨0, last⟩)
    (h : context.excerpt doc target budget = .ok e) : e.ShowsFile (doc.firstLines (last + 1)) := by
  obtain ⟨hcode, hspan⟩ := codeOf_of_excerpt (List.ne_nil_of_length_pos (by omega)) h
  rw [hshown] at hcode hspan
  obtain ⟨line, hline, hstart, hstop⟩ := Document.range_of_codeOf hcode hspan
  obtain ⟨_, hsame, htext, -⟩ := Document.codeOf_eq_ok_iff.1 hcode
  rw [List.getElem?_eq_getElem hlast] at hline hsame
  cases hline
  cases hsame
  refine ⟨⟨_, Document.getLast?_firstLines hlast, ?_⟩, hstart, ?_⟩
  · rw [htext, String.append_assoc, Text.bareLine_append_lineEnding]
    exact (Text.join_take_succ hlast).symm
  · rw [Document.endPosition_firstLines hlast]
    exact hstop

/-- Where no scope stands alone and there is room for all lines, an excerpt shows the lines of the
whole file. -/
theorem exists_showsFile (target : Range) (hdoc : doc.lines ≠ [])
    (hnone : ∀ scope ∈ context.scopes, scope.standsAlone = false)
    (hroom : doc.lines.length ≤ budget.lines) {last : Nat} (hlast : last < doc.lines.length)
    (hlines : LineSpan.ofRange (.upTo ⟨0, 0⟩ doc.endPosition) doc.lines.length = ⟨0, last⟩) :
    ∃ e, context.excerpt doc target budget = .ok e ∧ e.truncated = false ∧
      e.ShowsFile (doc.firstLines (last + 1)) := by
  have hstarts : doc.lines ≠ [] → ∀ scope ∈ context.scopes, scope.standsAlone = true →
      scope.range.start.line < doc.lines.length :=
    fun _ scope hscope halone => absurd halone (Bool.eq_false_iff.1 (hnone scope hscope))
  obtain ⟨e, he, -⟩ := excerpt_ok target budget hstarts
  have hfits : (LineSpan.ofRange (.upTo ⟨0, 0⟩ doc.endPosition) doc.lines.length).count ≤
      budget.lines := by
    rw [hlines]
    exact Nat.le_trans hlast hroom
  have hlayout := layout_eq (.file hnone : FocusOf context.scopes doc _) target budget
  refine ⟨e, he, ?_, showsFile_of_excerpt hlast ?_ he⟩
  · obtain ⟨_, _, -, rfl⟩ := (excerpt_eq_ok_iff hdoc).1 he
    show (context.layout doc target budget).truncated = false
    rw [hlayout]
    exact Layout.truncated_eq_false_iff.2 hfits
  · rw [hlayout, Layout.ofFocus_of_le target hfits]
    exact hlines

/-- The excerpt of a text without scopes that stand alone, with room for all lines of the text, is
not truncated. It shows the whole text exactly if the last line is the only one or not empty, and
else the text without its last line. -/
theorem excerpt_showsFile_iff (context : Context) {text : String} (uri : String) (htext : text ≠ "")
    (target : Range) {maxLines : Int}
    (hnone : ∀ scope ∈ context.scopes, scope.standsAlone = false)
    (hroom : (Document.ofText text uri).lines.length ≤ maxLines) :
    let doc := Document.ofText text uri
    String.join doc.lines = text ∧
    ∃ e, context.excerpt doc target (.ofInt maxLines) = .ok e ∧ e.truncated = false ∧
      (e.ShowsFile doc ↔ ¬ doc.EndsEmpty) ∧
      (doc.EndsEmpty → e.ShowsFile (doc.firstLines (doc.lines.length - 1))) := by
  have hdoc := Document.lines_ofText_ne_nil htext uri
  have hjoin := Document.join_lines_ofText text uri
  have hbudget : (Document.ofText text uri).lines.length ≤ (Budget.ofInt maxLines).lines := by
    show _ ≤ max 1 maxLines.toNat
    omega
  generalize Document.ofText text uri = doc at *
  have hpositive : 0 < doc.lines.length := List.length_pos_iff.2 hdoc
  refine ⟨hjoin, ?_⟩
  by_cases hends : doc.EndsEmpty
  · have hmany := hends.1
    obtain ⟨e, he, hwhole, hshows⟩ := exists_showsFile target hdoc hnone hbudget (by omega)
      (LineSpan.ofRange_file_of_endsEmpty hends)
    have hcount : doc.lines.length - 2 + 1 = doc.lines.length - 1 := by omega
    rw [hcount] at hshows
    refine ⟨e, he, hwhole, ⟨fun hall => ?_, fun hnot => absurd hends hnot⟩, fun _ => hshows⟩
    -- An excerpt cannot end on two lines.
    have hstop := congrArg Position.line (hshows.stop.symm.trans hall.stop)
    rw [Document.line_endPosition, Document.line_endPosition] at hstop
    have hlength : (doc.firstLines (doc.lines.length - 1)).lines.length = doc.lines.length - 1 :=
      List.length_take_of_le (Nat.sub_le _ _)
    omega
  · obtain ⟨e, he, hwhole, hshows⟩ := exists_showsFile target hdoc hnone hbudget (by omega)
      (LineSpan.ofRange_file_of_not_endsEmpty hends)
    rw [Nat.sub_add_cancel hpositive, Document.firstLines_length] at hshows
    exact ⟨e, he, hwhole, ⟨fun _ => hends, fun _ => hshows⟩, fun h => absurd h hends⟩

end Context

/-- A variable that is bound over two lines, as the scope around a target in it. -/
def listBinding : Scope :=
  ⟨0, .variableDecl, "x", "x", false, ⟨⟨0, 0⟩, ⟨1, 4⟩, by decide⟩⟩

/-- The excerpt of a file whose only scope is a variable shows the file. -/
theorem excerpt_showsFile_iff_listBinding :
    let text := "x = [\r\n  1]\r\n"
    let doc : Document := .ofText text ""
    let context : Context := ⟨[listBinding], [], []⟩
    text ≠ "" ∧ (∀ scope ∈ context.scopes, scope.standsAlone = false) ∧
    (doc.lines.length : Int) ≤ 2 ∧ ¬ doc.EndsEmpty ∧
    ∃ e, context.excerpt doc (.cursor ⟨1, 2⟩) (.ofInt 2) = .ok e ∧ e.truncated = false ∧
      e.ShowsFile doc := by
  intro text doc context
  have htext : text ≠ "" := by decide
  have hnone : ∀ scope ∈ context.scopes, scope.standsAlone = false := by decide
  have hroom : (doc.lines.length : Int) ≤ 2 := by decide
  have hends : ¬ doc.EndsEmpty := fun h => absurd h.2 (by decide)
  obtain ⟨-, e, he, hwhole, hshows, -⟩ :=
    context.excerpt_showsFile_iff "" htext (.cursor ⟨1, 2⟩) hnone hroom
  exact ⟨htext, hnone, hroom, hends, e, he, hwhole, hshows.2 hends⟩

/-- The excerpt of a file of two lines, the second of which is empty, does not show the file: it has
the first line alone. -/
theorem excerpt_showsFile_fails_emptyLine :
    let doc : Document := .ofText "a\n\n" ""
    let e : Excerpt := ⟨.empty, [], "a", ⟨⟨0, 0⟩, ⟨0, 1⟩, by decide⟩, .cursor ⟨0, 0⟩, false⟩
    doc.lines ≠ [] ∧ (∀ scope ∈ Context.empty.scopes, scope.standsAlone = false) ∧
    (doc.lines.length : Int) ≤ 2 ∧
    Context.empty.excerpt doc (.cursor ⟨0, 0⟩) (.ofInt 2) = .ok e ∧ ¬ e.ShowsFile doc := by
  intro doc e
  refine ⟨by decide, by decide, by decide, rfl, fun hshows => ?_⟩
  have hstop : (⟨0, 1⟩ : Position) = doc.endPosition := hshows.stop
  exact absurd hstop (by decide)

end CursorScope
