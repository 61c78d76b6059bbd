import CursorScope.Proofs.Fidelity
import Mathlib.Order.Interval.Finset.Nat

/-!
# Excerpts and their budgets

How many lines an excerpt has. A focus has the lines of the document that its range reaches
(`Focus.bodyLines`). If they fit, they are all shown, with as many of the nearest signatures around
the focus as the budget leaves room for (`Excerpt.ShowsAll`); of more lines just as many are shown
as the budget has, below the signature of the focus alone (`Excerpt.ShowsWindow`).
`Context.excerpt_fits_budget` says that every excerpt of a text does the one or the other, and
counts its lines by its signatures and by the lines of its code.
-/

namespace CursorScope

/-! ## The lines of a focus -/

/-- A range reaches the lines from the one where it starts to the one where it stops. The last one
does not count when the range stops at the very start of it, unless the range starts there too. -/
def Range.Reaches (range : Range) (line : Nat) : Prop :=
  range.start.line ≤ line ∧ line ≤ range.stop.line ∧
    (line = range.stop.line → range.stop.character = 0 → line = range.start.line)

instance (range : Range) (line : Nat) : Decidable (range.Reaches line) :=
  inferInstanceAs (Decidable (_ ∧ _))

/-- The lines of a document that the range of a focus reaches. -/
def Focus.bodyLines (focus : Focus) (doc : Document) : Finset Nat :=
  (Finset.range doc.lines.length).filter (focus.range.Reaches ·)

namespace LineSpan

/-- The lines of a range that starts in a document are those that it reaches. -/
theorem mem_ofRange_iff {range : Range} {total : Nat} (h : range.start.line < total) {line : Nat} :
    (ofRange range total).first ≤ line ∧ line ≤ (ofRange range total).last ↔
      line < total ∧ range.Reaches line := by
  have hstop := range.line_start_le_stop
  unfold Range.Reaches
  rw [first_ofRange]
  by_cases hzero : range.stop.character = 0 ∧ range.start.line < range.stop.line
  · rw [last_ofRange_of_zero hzero.1 hzero.2]
    omega
  · rw [last_ofRange_of_not_zero hzero]
    omega

/-- A window is as long as it is asked to be. -/
theorem count_window (span : LineSpan) (target : Range) {size : Nat} (hsize : 1 ≤ size) :
    (span.window target size).count = size := by
  have hlast : (span.window target size).last = (span.window target size).first + size - 1 := rfl
  unfold count
  omega

end LineSpan

namespace Focus

variable {focus : Focus} {doc : Document}

theorem bodyLines_eq_Icc (h : focus.range.start.line < doc.lines.length) :
    focus.bodyLines doc = Finset.Icc (LineSpan.ofRange focus.range doc.lines.length).first
      (LineSpan.ofRange focus.range doc.lines.length).last := by
  ext line
  rw [bodyLines, Finset.mem_filter, Finset.mem_range, Finset.mem_Icc, LineSpan.mem_ofRange_iff h]

theorem card_bodyLines (h : focus.range.start.line < doc.lines.length) :
    (focus.bodyLines doc).card = (LineSpan.ofRange focus.range doc.lines.length).count := by
  have hspan := LineSpan.first_le_last_ofRange focus.range doc.lines.length
  rw [bodyLines_eq_Icc h, Nat.card_Icc, LineSpan.count]
  omega

end Focus

/-! ## What is shown of a focus -/

/-- A breadcrumb tells of a scope: it has its signature, its name and its range. -/
structure Breadcrumb.TellsOf (crumb : Breadcrumb) (scope : Scope) : Prop where
  signature : crumb.signature = scope.signature
  name : crumb.name = scope.name
  range : crumb.range = scope.range

/-- The breadcrumbs of scopes tell of them, in their order. -/
theorem Scope.toBreadcrumb_tellOf (scopes : List Scope) :
    List.Forall₂ Breadcrumb.TellsOf (scopes.map (·.toBreadcrumb)) scopes := by
  induction scopes with
  | nil => exact .nil
  | cons scope rest ih => exact .cons ⟨rfl, rfl, rfl⟩ ih

namespace Excerpt

/-- The code of an excerpt is the text of its document from the start of a line to the end of one,
but for the ending of that line. -/
structure ShowsLines (e : Excerpt) (doc : Document) : Prop where
  code : e.code = doc.cut e.codeRange
  start_character : e.codeRange.start.character = 0
  stop_character : ∀ line, doc.lines[e.codeRange.stop.line]? = some line →
    e.codeRange.stop.character = Text.lineWidth line

/-- The excerpt shows the lines and keeps the scopes that a layout says. -/
structure LaidOut (e : Excerpt) (layout : Layout) : Prop where
  start_line : e.codeRange.start.line = layout.shown.first
  stop_line : e.codeRange.stop.line = layout.shown.last
  breadcrumbs : e.breadcrumbs = layout.kept.map (·.toBreadcrumb)
  truncated : e.truncated = layout.truncated

/-- The excerpt shows all lines of its focus, and tells of as many of the nearest scopes around it
as fit into `size` lines with them. -/
structure ShowsAll (e : Excerpt) (doc : Document) (focus : Focus) (size : Nat) : Prop
    extends e.ShowsLines doc where
  truncated : e.truncated = false
  breadcrumbs : List.Forall₂ Breadcrumb.TellsOf e.breadcrumbs
    (focus.enclosing.rtake (min focus.enclosing.length (size - (focus.bodyLines doc).card)))
  lines : Finset.Icc e.codeRange.start.line e.codeRange.stop.line = focus.bodyLines doc
  lineCount_le : e.lineCount ≤ size

/-- The excerpt shows `size` lines of its focus, below the signature of the focus unless this is a
whole file. -/
structure ShowsWindow (e : Excerpt) (doc : Document) (focus : Focus) (size : Nat) : Prop
    extends e.ShowsLines doc where
  truncated : e.truncated = true
  breadcrumbs : List.Forall₂ Breadcrumb.TellsOf e.breadcrumbs focus.scope.toList
  lines : Finset.Icc e.codeRange.start.line e.codeRange.stop.line ⊆ focus.bodyLines doc
  codeLines : e.codeRange.start.line + size = e.codeRange.stop.line + 1
  lineCount_le : e.lineCount ≤ size + 1
  lineCount_le_of_file : focus.scope = none → e.lineCount ≤ size

end Excerpt

namespace Context

variable {context : Context} {doc : Document} {target : Range} {budget : Budget} {e : Excerpt}

/-- The lines of an excerpt are its signatures and the lines of its code, none if this is blank. -/
theorem lineCount_of_excerpt (hlines : Text.LineList (doc.lines.map String.toList))
    (hdoc : doc.lines ≠ []) (h : context.excerpt doc target budget = .ok e) :
    e.lineCount = e.breadcrumbs.length +
      (if e.codeRange.isEmpty then 0 else e.codeRange.lineCount) := by
  obtain ⟨hcode, hspan⟩ := codeOf_of_excerpt hdoc h
  unfold Excerpt.lineCount Excerpt.lines
  rw [List.length_append, List.length_map,
    Document.length_newlinePieces_of_codeOf hlines hcode hspan]

theorem lineCount_le_of_excerpt (hlines : Text.LineList (doc.lines.map String.toList))
    (hdoc : doc.lines ≠ []) (h : context.excerpt doc target budget = .ok e) :
    e.lineCount ≤ e.breadcrumbs.length + e.codeRange.lineCount := by
  rw [lineCount_of_excerpt hlines hdoc h]
  split
  · exact Nat.add_le_add_left (Nat.zero_le _) _
  · exact Nat.le_refl _

variable {focus : Focus}

/-- The code of an excerpt is made of whole lines. -/
theorem showsLines_of_excerpt (hdoc : doc.lines ≠ []) (hfocus : FocusOf context.scopes doc focus)
    (h : context.excerpt doc target budget = .ok e) : e.ShowsLines doc := by
  have hfaithful := faithful_of_excerpt hdoc hfocus h
  exact ⟨(cut_codeRange h).symm, hfaithful.start_character, hfaithful.stop_character⟩

/-- The focus of an excerpt starts in its document. -/
theorem line_start_lt_of_excerpt (hdoc : doc.lines ≠ []) (hfocus : FocusOf context.scopes doc focus)
    (h : context.excerpt doc target budget = .ok e) :
    focus.range.start.line < doc.lines.length := by
  by_contra hpast
  obtain ⟨missing, hmissing⟩ :=
    (excerpt_eq_error_iff_focus hdoc hfocus).2 (Nat.not_lt.1 hpast)
  cases h.symm.trans hmissing

/-- An excerpt of a document with lines is laid out as its focus is. -/
theorem laidOut_of_excerpt (hdoc : doc.lines ≠ []) (hfocus : FocusOf context.scopes doc focus)
    (h : context.excerpt doc target budget = .ok e) :
    e.LaidOut (.ofFocus focus target doc.lines.length budget) := by
  rw [← layout_eq hfocus]
  obtain ⟨hcode, hspan⟩ := codeOf_of_excerpt hdoc h
  obtain ⟨line, -, hstart, hstop⟩ := Document.range_of_codeOf hcode hspan
  obtain ⟨code, codeRange, -, rfl⟩ := (excerpt_eq_ok_iff hdoc).1 h
  exact ⟨congrArg Position.line hstart, congrArg Position.line hstop, rfl, rfl⟩

theorem showsAll_of_excerpt (hlines : Text.LineList (doc.lines.map String.toList))
    (hdoc : doc.lines ≠ []) (hfocus : FocusOf context.scopes doc focus)
    (h : context.excerpt doc target budget = .ok e)
    (hfits : (focus.bodyLines doc).card ≤ budget.lines) :
    e.ShowsAll doc focus budget.lines := by
  have hstarts := line_start_lt_of_excerpt hdoc hfocus h
  have hcard := Focus.card_bodyLines hstarts
  have hlaid := laidOut_of_excerpt hdoc hfocus h
  rw [Layout.ofFocus_of_le target (hcard ▸ hfits), ← hcard] at hlaid
  obtain ⟨hfirst, hlast, hkept, hwhole⟩ := hlaid
  have hcount : e.codeRange.lineCount = (focus.bodyLines doc).card := by
    rw [hcard, Range.lineCount, LineSpan.count, hfirst, hlast]
  refine ⟨showsLines_of_excerpt hdoc hfocus h, hwhole, ?_, ?_, ?_⟩
  · -- Room for more scopes than there are leaves all of them.
    have hdropped : focus.enclosing.length -
        min focus.enclosing.length (budget.lines - (focus.bodyLines doc).card) =
        focus.enclosing.length - (budget.lines - (focus.bodyLines doc).card) := by omega
    rw [hkept, List.rtake, hdropped]
    exact Scope.toBreadcrumb_tellOf _
  · rw [Focus.bodyLines_eq_Icc hstarts, hfirst, hlast]
  · refine Nat.le_trans (lineCount_le_of_excerpt hlines hdoc h) ?_
    rw [hkept, hcount, List.length_map, List.length_drop]
    omega

theorem showsWindow_of_excerpt (hlines : Text.LineList (doc.lines.map String.toList))
    (hdoc : doc.lines ≠ []) (hfocus : FocusOf context.scopes doc focus)
    (h : context.excerpt doc target budget = .ok e)
    (hlong : budget.lines < (focus.bodyLines doc).card) :
    e.ShowsWindow doc focus budget.lines := by
  have hstarts := line_start_lt_of_excerpt hdoc hfocus h
  have hlaid := laidOut_of_excerpt hdoc hfocus h
  have hwithin := Layout.shown_within focus target doc.lines.length budget
  rw [Layout.ofFocus_of_lt target (Focus.card_bodyLines hstarts ▸ hlong)] at hlaid hwithin
  obtain ⟨hfirst, hlast, hkept, htruncated⟩ := hlaid
  have hsize : e.codeRange.start.line + budget.lines = e.codeRange.stop.line + 1 := by
    have hspan := hwithin.first_le_last
    have hwindow := LineSpan.count_window (.ofRange focus.range doc.lines.length) target
      budget.one_le_lines
    rw [LineSpan.count] at hwindow
    rw [hfirst, hlast]
    dsimp only at hspan ⊢
    omega
  have hle := lineCount_le_of_excerpt hlines hdoc h
  have hcount : e.codeRange.lineCount = budget.lines := by
    have hone := budget.one_le_lines
    rw [Range.lineCount]
    omega
  rw [hkept, hcount, List.length_map] at hle
  dsimp only at hle
  refine ⟨showsLines_of_excerpt hdoc hfocus h, htruncated, ?_, ?_, hsize, ?_, fun hfile => ?_⟩
  · rw [hkept]
    exact Scope.toBreadcrumb_tellOf _
  · rw [Focus.bodyLines_eq_Icc hstarts, hfirst, hlast]
    exact Finset.Icc_subset_Icc hwithin.first_le hwithin.last_le
  · have hscope : focus.scope.toList.length ≤ 1 := Option.length_toList_le
    omega
  · simpa [hfile] using hle

end Context

/-- A method in two nested classes, as the scopes around a target in it. -/
def methodInClasses : List Scope :=
  [⟨0, .typeDecl, "class A", "A", true, ⟨⟨0, 0⟩, ⟨3, 20⟩, by decide⟩⟩,
    ⟨1, .typeDecl, "class B", "B", true, ⟨⟨1, 4⟩, ⟨3, 20⟩, by decide⟩⟩,
    ⟨2, .functionDecl, "def f(self)", "f", true, ⟨⟨2, 8⟩, ⟨3, 20⟩, by decide⟩⟩,
    ⟨3, .call, "function call g", "function call", false, ⟨⟨3, 19⟩, ⟨3, 20⟩, by decide⟩⟩]

end CursorScope
