import CursorScope.Proofs.Fidelity
import CursorScope.Proofs.Fitting
import CursorScope.Proofs.Visible

/-!
# Windows around a target

Of a focus that is longer than the budget an excerpt shows a window. `LineSpan.Centred` says where
the window lies: among the lines of the focus, around the middle line of the target, over all lines
of a shorter target and inside a longer one. `Context.excerpt_centred` says so of every window, and
that it is the window whose lines the excerpt shows.
-/

namespace CursorScope

/-- The line halfway between the first and the last line of a range, rounded down. -/
def Range.middleLine (range : Range) : Nat := (range.start.line + range.stop.line) / 2

namespace LineSpan

/-- The line of a span that is nearest to a line. -/
def nearest (span : LineSpan) (line : Nat) : Nat := min (max line span.first) span.last

/-- All lines that a range touches are lines of a span. -/
def HasLinesOf (span : LineSpan) (range : Range) : Prop :=
  span.first ≤ range.start.line ∧ range.stop.line ≤ span.last

/-- The shown lines are `size` lines of a span around the middle line of a target. They have all
lines of a target in the span that has no more lines, and are lines of a target in the span that
has more. -/
structure Centred (shown span : LineSpan) (target : Range) (size : Nat) : Prop where
  within : shown.Within span
  count : shown.count = size
  first_le_middle : shown.first ≤ span.nearest target.middleLine
  middle_le_last : span.nearest target.middleLine ≤ shown.last
  covers : span.HasLinesOf target → target.lineCount ≤ size → shown.HasLinesOf target
  inside : span.HasLinesOf target → size < target.lineCount →
    target.start.line ≤ shown.first ∧ shown.last ≤ target.stop.line

variable {span : LineSpan} {size : Nat}

/-- A window starts half its size above the line of its span that is nearest to the middle of the
target, as far as it then lies in its span. -/
theorem first_window (span : LineSpan) (target : Range) (size : Nat) :
    (span.window target size).first = max span.first
      (min (span.nearest target.middleLine - (size - 1) / 2) (span.last + 1 - size)) := rfl

theorem last_window (span : LineSpan) (target : Range) (size : Nat) :
    (span.window target size).last = (span.window target size).first + size - 1 := rfl

/-- A line of a span is in the window around it, wherever the window is cut off by the ends of the
span. -/
theorem nearest_mem_window (target : Range) (hspan : span.first ≤ span.last) (hsize : 1 ≤ size) :
    (span.window target size).first ≤ span.nearest target.middleLine ∧
      span.nearest target.middleLine ≤ (span.window target size).last := by
  have hfirst : span.first ≤ span.nearest target.middleLine :=
    Nat.le_min.2 ⟨Nat.le_max_right _ _, hspan⟩
  have hlast : span.nearest target.middleLine ≤ span.last := Nat.min_le_right _ _
  rw [last_window, first_window]
  generalize span.nearest target.middleLine = centre at *
  omega

/-- A window around a target that has more lines, all of them in the span, is not cut off by the
ends of the span and lies inside the target. -/
theorem window_inside {target : Range} (hlines : span.HasLinesOf target)
    (hsize : 1 ≤ size) (hlong : size < target.lineCount) :
    target.start.line ≤ (span.window target size).first ∧
      (span.window target size).last ≤ target.stop.line := by
  obtain ⟨hstart, hstop⟩ := hlines
  have hrows := target.line_start_le_stop
  unfold Range.lineCount at hlong
  -- Half of the window is less than the lines of the target on either side of its middle line.
  have habove : target.start.line ≤ target.middleLine - (size - 1) / 2 := by
    unfold Range.middleLine
    omega
  have hbelow : target.middleLine - (size - 1) / 2 + (size - 1) ≤ target.stop.line := by
    unfold Range.middleLine
    omega
  have hnearest : span.nearest target.middleLine = target.middleLine := by
    unfold nearest
    omega
  rw [last_window, first_window, hnearest]
  generalize target.middleLine - (size - 1) / 2 = above at *
  omega

/-- Every window that is shorter than its span is centred. -/
theorem centred_window (target : Range) (hspan : span.first ≤ span.last) (hsize : 1 ≤ size)
    (hlong : size < span.count) : (span.window target size).Centred span target size := by
  obtain ⟨hfirst, hlast⟩ := nearest_mem_window target hspan hsize
  refine ⟨window_within target hspan hsize (Nat.le_of_lt hlong), count_window span target hsize,
    hfirst, hlast, fun hlines hfits => ?_, fun hlines => window_inside hlines hsize⟩
  obtain ⟨hstart, hstop⟩ := hlines
  obtain ⟨hcovers, hreaches⟩ := window_covers hspan hfits
  rw [Nat.max_eq_left hstart] at hcovers
  rw [Nat.min_eq_left hstop] at hreaches
  exact ⟨hcovers, hreaches⟩

end LineSpan

namespace Context

variable {context : Context} {doc : Document} {focus : Focus}

/-- A focus that is longer than a budget starts in its document, so that its excerpt does not
fail. -/
theorem excerpt_ok_of_lt (target : Range) {budget : Budget}
    (hfocus : FocusOf context.scopes doc focus)
    (hlong : budget.lines < (LineSpan.ofRange focus.range doc.lines.length).count) :
    doc.lines ≠ [] ∧ ∃ e, context.excerpt doc target budget = .ok e := by
  have hstart : focus.range.start.line < doc.lines.length := by
    have hpositive := budget.one_le_lines
    unfold LineSpan.count LineSpan.ofRange at hlong
    dsimp only at hlong
    omega
  have hdoc : doc.lines ≠ [] := List.length_pos_iff.1 (Nat.zero_lt_of_lt hstart)
  refine ⟨hdoc, ?_⟩
  cases h : context.excerpt doc target budget with
  | ok e => exact ⟨e, rfl⟩
  | error missing =>
      have hpast := (excerpt_eq_error_iff_focus hdoc hfocus).1 ⟨missing, h⟩
      exact absurd hstart (Nat.not_lt.2 hpast)

/-- The window of a span around a target is centred in the span, and where the span is that of a
focus which is longer than the budget, the excerpt shows the lines of the window. -/
theorem excerpt_centred {span : LineSpan} (target : Range) {size : Nat}
    (hspan : span.first ≤ span.last) (hsize : 1 ≤ size) (hlong : size < span.count) :
    (span.window target size).Centred span target size ∧
    ∀ (context : Context) (doc : Document) (focus : Focus) (maxLines : Int),
      FocusOf context.scopes doc focus → LineSpan.ofRange focus.range doc.lines.length = span →
      max 1 maxLines = size →
      ∃ e, context.excerpt doc target (.ofInt maxLines) = .ok e ∧ e.truncated = true ∧
        e.codeRange.start = ⟨(span.window target size).first, 0⟩ ∧
        e.codeRange.stop.line = (span.window target size).last := by
  refine ⟨LineSpan.centred_window target hspan hsize hlong, ?_⟩
  intro context doc focus maxLines hfocus hbody hbudget
  have hlines : (Budget.ofInt maxLines).lines = size := by
    show max 1 maxLines.toNat = size
    omega
  have hcut : (Budget.ofInt maxLines).lines <
      (LineSpan.ofRange focus.range doc.lines.length).count := by
    rw [hlines, hbody]
    exact hlong
  obtain ⟨hdoc, e, he⟩ := excerpt_ok_of_lt target hfocus hcut
  obtain ⟨hcode, hshown⟩ := codeOf_of_excerpt hdoc he
  obtain ⟨line, -, hstart, hstop⟩ := Document.range_of_codeOf hcode hshown
  obtain ⟨code, codeRange, -, rfl⟩ := (excerpt_eq_ok_iff hdoc).1 he
  rw [layout_eq hfocus, Layout.ofFocus_of_lt target hcut, hbody, hlines] at hstart hstop
  refine ⟨_, he, ?_, hstart, ?_⟩
  · rw [layout_eq hfocus, Layout.ofFocus_of_lt target hcut]
  · rw [hstop]

end Context

/-- A function of sixteen lines, as the scope around a target in it. -/
def longFunction : Scope :=
  ⟨0, .functionDecl, "def f()", "f", true, ⟨⟨2, 0⟩, ⟨17, 6⟩, by decide⟩⟩

/-- The excerpt of a function of sixteen lines around a selection of six of them, for a budget of
four lines. -/
theorem excerpt_centred_longFunction :
    let doc : Document := ⟨List.replicate 20 "    pass\n", ""⟩
    let context : Context := ⟨[longFunction], [], []⟩
    let target : Range := ⟨⟨4, 0⟩, ⟨9, 0⟩, by decide⟩
    let span : LineSpan := ⟨2, 17⟩
    span.first ≤ span.last ∧ 1 ≤ 4 ∧ 4 < span.count ∧
    FocusOf context.scopes doc ⟨some longFunction, [], longFunction.range⟩ ∧
    LineSpan.ofRange longFunction.range doc.lines.length = span ∧
    span.HasLinesOf target ∧ 4 < target.lineCount ∧
    ∃ e, context.excerpt doc target (.ofInt 4) = .ok e ∧ e.truncated = true ∧
      e.codeRange.start = ⟨5, 0⟩ ∧ e.codeRange.stop.line = 8 := by
  intro doc context target span
  have hlong : 4 < span.count := by decide
  have hfocus : FocusOf context.scopes doc ⟨some longFunction, [], longFunction.range⟩ :=
    .singleton rfl
  have hbody : LineSpan.ofRange longFunction.range doc.lines.length = span := by decide
  obtain ⟨-, hshows⟩ :=
    Context.excerpt_centred target (show span.first ≤ span.last by decide) (by decide) hlong
  obtain ⟨e, he, htruncated, hstart, hstop⟩ := hshows context doc _ 4 hfocus hbody rfl
  have hwindow : span.window target 4 = ⟨5, 8⟩ := by decide
  rw [hwindow] at hstart hstop
  exact ⟨by decide, by decide, hlong, hfocus, hbody, ⟨by decide, by decide⟩, by decide, e, he,
    htruncated, hstart, hstop⟩

end CursorScope
