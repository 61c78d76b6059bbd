import CursorScope.Proofs.Code
import CursorScope.Proofs.Focus

/-!
# Excerpts and their documents

When an excerpt fails, and how its code and its range go together. The focus may be any range, past
the end of the document or past the width of a line, and the document any list of lines.
`Context.excerpt_faithful` says that an excerpt fails exactly when its focus is a scope that starts
past the last line, and that its code is otherwise the text in its range, whole lines of the focus.
-/

namespace CursorScope

namespace Layout

/-- Some shown line is past the end of a document exactly when the focus starts past it. -/
theorem total_le_last_shown_iff (focus : Focus) (target : Range) (total : Nat) (budget : Budget) :
    total ≤ (ofFocus focus target total budget).shown.last ↔ total ≤ focus.range.start.line := by
  have hwithin := shown_within focus target total budget
  have hfirst := hwithin.first_le
  have hlast := hwithin.last_le
  have hspan := hwithin.first_le_last
  rw [LineSpan.first_ofRange] at hfirst
  constructor
  · intro hpast
    by_contra hstart
    have hbody := LineSpan.last_ofRange_lt (Nat.not_le.1 hstart)
    omega
  · intro hstart
    omega

end Layout

/-- A focus that starts past the end of a document with lines is a scope. -/
theorem FocusOf.scope_ne_none {scopes : List Scope} {doc : Document} {focus : Focus}
    (h : FocusOf scopes doc focus) (hdoc : doc.lines ≠ [])
    (hstart : doc.lines.length ≤ focus.range.start.line) : focus.scope ≠ none := by
  cases h with
  | scope hscopes halone hinner => exact Option.some_ne_none _
  | file hnone =>
      have hempty : doc.lines.length ≤ 0 := hstart
      exact absurd (List.length_eq_zero_iff.1 (Nat.le_zero.1 hempty)) hdoc

/-- The excerpt shows whole lines of the document that belong to its focus, and the whole text of a
scope unless it is truncated. -/
structure Excerpt.Faithful (e : Excerpt) (doc : Document) (focus : Focus) : Prop where
  start_character : e.codeRange.start.character = 0
  stop_line : e.codeRange.stop.line < doc.lines.length
  stop_character : ∀ line, doc.lines[e.codeRange.stop.line]? = some line →
    e.codeRange.stop.character = Text.lineWidth line
  first_le : focus.range.start.line ≤ e.codeRange.start.line
  le_last : e.codeRange.stop.line ≤ focus.range.stop.line
  text : e.truncated = false → ∀ scope, focus.scope = some scope →
    Text.dropEndWhile Text.isLineEnding (doc.cut scope.range).toList <:+: e.code.toList

namespace Context

variable {context : Context} {doc : Document} {target : Range} {budget : Budget} {e : Excerpt}
  {focus : Focus}

/-- An excerpt of a document with lines fails exactly when its focus starts past the last line. -/
theorem excerpt_eq_error_iff_focus (hdoc : doc.lines ≠ [])
    (hfocus : FocusOf context.scopes doc focus) :
    (∃ missing, context.excerpt doc target budget = .error missing) ↔
      doc.lines.length ≤ focus.range.start.line := by
  rw [excerpt_eq_error_iff hdoc, Document.codeOf_eq_error_iff, layout_eq hfocus]
  exact Layout.total_le_last_shown_iff focus target doc.lines.length budget

/-- The excerpt of a document without lines has no code. -/
theorem code_of_excerpt_nil (hdoc : doc.lines = [])
    (h : context.excerpt doc target budget = .ok e) :
    e.code = "" ∧ e.codeRange = .cursor ⟨0, 0⟩ := by
  rw [excerpt_of_nil context target budget hdoc] at h
  cases h
  exact ⟨rfl, rfl⟩

/-- The code of an excerpt is the text of its document in its range. -/
theorem cut_codeRange (h : context.excerpt doc target budget = .ok e) :
    doc.cut e.codeRange = e.code := by
  by_cases hdoc : doc.lines = []
  · obtain ⟨hcode, hrange⟩ := code_of_excerpt_nil hdoc h
    rw [hcode, hrange]
    exact Text.cut_cursor doc.lines ⟨0, 0⟩
  · obtain ⟨hcode, hspan⟩ := codeOf_of_excerpt hdoc h
    exact Document.cut_eq_of_codeOf hcode hspan

/-- An excerpt that is not truncated shows all lines of its focus. -/
theorem shown_of_not_truncated (hdoc : doc.lines ≠ [])
    (hfocus : FocusOf context.scopes doc focus) (h : context.excerpt doc target budget = .ok e)
    (hwhole : e.truncated = false) :
    (context.layout doc target budget).shown = .ofRange focus.range doc.lines.length := by
  obtain ⟨code, codeRange, -, rfl⟩ := (excerpt_eq_ok_iff hdoc).1 h
  have hlayout : (context.layout doc target budget).truncated = false := hwhole
  rw [layout_eq hfocus] at hlayout ⊢
  rw [Layout.ofFocus_of_le target (Layout.truncated_eq_false_iff.1 hlayout)]

theorem faithful_of_excerpt (hdoc : doc.lines ≠ []) (hfocus : FocusOf context.scopes doc focus)
    (h : context.excerpt doc target budget = .ok e) : e.Faithful doc focus := by
  obtain ⟨hcode, hspan⟩ := codeOf_of_excerpt hdoc h
  obtain ⟨line, hline, hstart, hstop⟩ := Document.range_of_codeOf hcode hspan
  have hwithin : (context.layout doc target budget).shown.Within
      (.ofRange focus.range doc.lines.length) := by
    rw [layout_eq hfocus]
    exact Layout.shown_within focus target doc.lines.length budget
  have hfirst := hwithin.first_le
  have hlast := Nat.le_trans hwithin.last_le (LineSpan.last_ofRange_le focus.range _)
  rw [LineSpan.first_ofRange] at hfirst
  refine ⟨by rw [hstart], ?_, fun other hother => ?_, ?_, ?_, fun hwhole scope hscope => ?_⟩
  · rw [hstop]
    exact (List.getElem?_eq_some_iff.1 hline).1
  · rw [hstop] at hother ⊢
    cases hline.symm.trans hother
    rfl
  · rw [hstart]
    exact hfirst
  · rw [hstop]
    exact hlast
  · rw [shown_of_not_truncated hdoc hfocus h hwhole, (hfocus.of_scope hscope).1] at hcode
    exact Document.dropEndWhile_cut_infix hcode

/-- An excerpt fails exactly when its focus is a scope that starts past the last line. In every
other case its code is the text in its range, and the range is one of whole lines of the document
that belong to the focus. -/
theorem excerpt_faithful (context : Context) (doc : Document) (target : Range) (maxLines : Int)
    (hfocus : FocusOf context.scopes doc focus) :
    ((∃ missing, context.excerpt doc target (.ofInt maxLines) = .error missing) ↔
      doc.lines ≠ [] ∧ focus.scope ≠ none ∧ doc.lines.length ≤ focus.range.start.line) ∧
    ∀ e, context.excerpt doc target (.ofInt maxLines) = .ok e →
      doc.cut e.codeRange = e.code ∧ (doc.lines = [] → e.code = "") ∧
      (doc.lines ≠ [] → e.Faithful doc focus) := by
  refine ⟨⟨?_, ?_⟩, fun e h => ⟨cut_codeRange h, fun hdoc => (code_of_excerpt_nil hdoc h).1,
    fun hdoc => faithful_of_excerpt hdoc hfocus h⟩⟩
  · rintro ⟨missing, herror⟩
    by_cases hdoc : doc.lines = []
    · unfold excerpt at herror
      rw [if_pos (by simp [hdoc])] at herror
      cases herror
    · have hstart := (excerpt_eq_error_iff_focus hdoc hfocus).1 ⟨missing, herror⟩
      exact ⟨hdoc, hfocus.scope_ne_none hdoc hstart, hstart⟩
  · rintro ⟨hdoc, -, hstart⟩
    exact (excerpt_eq_error_iff_focus hdoc hfocus).2 hstart

end Context

/-- A function whose range stops between the carriage return and the newline of its last line. -/
def functionToReturn : Scope :=
  ⟨0, .functionDecl, "def f()", "f", true, ⟨⟨0, 0⟩, ⟨1, 9⟩, by decide⟩⟩

/-- The excerpt of a function in a document whose lines end with a carriage return and a newline
holds the text of the function without the carriage return that it ends with. In a document that is
too short for the function there is no line to end the excerpt with. -/
theorem excerpt_faithful_functionToReturn :
    let doc : Document := .ofText "def f():\r\n    pass\r\nf()\r\n" ""
    let context : Context := ⟨[functionToReturn], [], []⟩
    let focus : Focus := ⟨some functionToReturn, [], functionToReturn.range⟩
    let e : Excerpt :=
      ⟨context, [], "def f():\r\n    pass", ⟨⟨0, 0⟩, ⟨1, 8⟩, by decide⟩, .cursor ⟨1, 4⟩, false⟩
    let later : Scope := { functionToReturn with range := ⟨⟨3, 0⟩, ⟨4, 9⟩, by decide⟩ }
    FocusOf [functionToReturn] doc focus ∧ doc.lines ≠ [] ∧
    context.excerpt doc (.cursor ⟨1, 4⟩) (.ofInt 5) = .ok e ∧
    doc.cut e.codeRange = e.code ∧ e.Faithful doc focus ∧
    FocusOf [later] doc ⟨some later, [], later.range⟩ ∧
    doc.lines.length ≤ later.range.start.line ∧
    ∃ missing, (Context.mk [later] [] []).excerpt doc (.cursor ⟨1, 4⟩) (.ofInt 5) =
      .error missing := by
  intro doc context focus e later
  have hfocus : FocusOf [functionToReturn] doc focus := .singleton rfl
  have hdoc : doc.lines ≠ [] := by decide
  have he : context.excerpt doc (.cursor ⟨1, 4⟩) (.ofInt 5) = .ok e := by decide +kernel
  obtain ⟨-, hok⟩ := context.excerpt_faithful doc (.cursor ⟨1, 4⟩) 5 hfocus
  obtain ⟨hcut, -, hfaithful⟩ := hok e he
  have hlater : FocusOf [later] doc ⟨some later, [], later.range⟩ := .singleton rfl
  have hpast : doc.lines.length ≤ later.range.start.line := by decide
  obtain ⟨herror, -⟩ := Context.excerpt_faithful ⟨[later], [], []⟩ doc (.cursor ⟨1, 4⟩) 5 hlater
  exact ⟨hfocus, hdoc, he, hcut, hfaithful hdoc, hlater, hpast,
    herror.2 ⟨hdoc, Option.some_ne_none later, hpast⟩⟩

end CursorScope
