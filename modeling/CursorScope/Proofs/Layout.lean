import CursorScope.Excerpt

/-!
# The lines that an excerpt shows

A focus is shown as a whole if it fits (`Layout.ofFocus_of_le`), and else through a window
(`Layout.ofFocus_of_lt`). The window lies within the lines of the focus (`Layout.shown_within`), and
the lines of a focus that starts in a document lie in the document. So an excerpt fails on no
document whose scopes that stand alone start in it (`Context.excerpt_ok`).
-/

namespace CursorScope

namespace Document

variable {doc : Document}

/-- A clamped position is on a line of the document. -/
theorem line_clampPosition_lt (h : doc.lines ≠ []) (p : Position) :
    (doc.clampPosition p).line < doc.lines.length := by
  have hpos : 0 < doc.lines.length := List.length_pos_iff.2 h
  cases hline : doc.lines[p.line]? with
  | some line =>
      rw [clampPosition_eq hline]
      exact (List.getElem?_eq_some_iff.1 hline).1
  | none =>
      rw [clampPosition_eq_endPosition hline, endPosition, List.getLast?_eq_some_getLast h]
      show doc.lines.length - 1 < doc.lines.length
      omega

/-- A clamped range stops on a line of the document. -/
theorem line_stop_clamp_lt (h : doc.lines ≠ []) (target : Range) :
    (doc.clamp target).stop.line < doc.lines.length := by
  have hstart := line_clampPosition_lt h target.start
  have hstop := line_clampPosition_lt h target.stop
  show (if doc.clampPosition target.start ≤ doc.clampPosition target.stop then
    doc.clampPosition target.stop else doc.clampPosition target.start).line < doc.lines.length
  split
  · exact hstop
  · exact hstart

/-- A range that contains a clamped one starts in the document. -/
theorem line_start_lt_of_contains_clamp (h : doc.lines ≠ []) {range target : Range}
    (hcontains : range.contains (doc.clamp target) = true) :
    range.start.line < doc.lines.length := by
  have hstart := Position.line_le (Range.contains_iff.1 hcontains).1
  exact Nat.lt_of_le_of_lt hstart (line_clampPosition_lt h target.start)

/-- The code of lines that a document has. -/
theorem codeOf_eq_ok {shown : LineSpan} (h : shown.last < doc.lines.length) :
    doc.codeOf shown =
      .ok (String.join ((doc.lines.drop shown.first).take (shown.last - shown.first)) ++
          Text.bareLine doc.lines[shown.last],
        .upTo ⟨shown.first, 0⟩ ⟨shown.last, Text.lineWidth doc.lines[shown.last]⟩) := by
  rw [codeOf, List.getElem?_eq_getElem h]

end Document

namespace LineSpan

/-- Lines that are at least one and lie in a span. -/
structure Within (lines span : LineSpan) : Prop where
  first_le : span.first ≤ lines.first
  first_le_last : lines.first ≤ lines.last
  last_le : lines.last ≤ span.last

theorem first_ofRange (range : Range) (total : Nat) :
    (ofRange range total).first = range.start.line := rfl

theorem first_le_last_ofRange (range : Range) (total : Nat) :
    (ofRange range total).first ≤ (ofRange range total).last := Nat.le_max_left _ _

/-- The lines of a range that stops at the start of a later line than it starts on end above this
line. -/
theorem last_ofRange_of_zero {range : Range} (hstop : range.stop.character = 0)
    (hlater : range.start.line < range.stop.line) (total : Nat) :
    (ofRange range total).last =
      max range.start.line (min (range.stop.line - 1) (total - 1)) := by
  unfold ofRange
  dsimp only
  rw [if_pos ⟨hstop, hlater⟩]

/-- The lines of any other range end with the one that it stops on. -/
theorem last_ofRange_of_not_zero {range : Range}
    (h : ¬ (range.stop.character = 0 ∧ range.start.line < range.stop.line)) (total : Nat) :
    (ofRange range total).last = max range.start.line (min range.stop.line (total - 1)) := by
  unfold ofRange
  dsimp only
  rw [if_neg h]

/-- The lines of a range do not reach past its end. -/
theorem last_ofRange_le (range : Range) (total : Nat) :
    (ofRange range total).last ≤ range.stop.line := by
  refine Nat.max_le.2 ⟨range.line_start_le_stop, Nat.le_trans (Nat.min_le_left _ _) ?_⟩
  split
  · exact Nat.sub_le _ _
  · exact Nat.le_refl _

/-- The lines of a range that starts in a document end in it. -/
theorem last_ofRange_lt {range : Range} {total : Nat} (h : range.start.line < total) :
    (ofRange range total).last < total := by
  refine Nat.max_lt.2 ⟨h, ?_⟩
  show min _ (total - 1) < total
  omega

/-- A window that is not longer than its span lies in it. -/
theorem window_within {span : LineSpan} (target : Range) {size : Nat}
    (hspan : span.first ≤ span.last) (hsize : 1 ≤ size) (hcount : size ≤ span.count) :
    (span.window target size).Within span := by
  unfold count at hcount
  have hfirst : span.first ≤ (span.window target size).first := Nat.le_max_left _ _
  have hlast : (span.window target size).last = (span.window target size).first + size - 1 := rfl
  have hle : (span.window target size).first ≤ span.last + 1 - size := by
    refine Nat.max_le.2 ⟨?_, Nat.min_le_right _ _⟩
    omega
  exact ⟨hfirst, by omega, by omega⟩

end LineSpan

namespace Layout

variable {focus : Focus} {total : Nat} {budget : Budget}

/-- A focus that fits is shown as a whole, and the outermost scopes around it are dropped. -/
theorem ofFocus_of_le (target : Range)
    (h : (LineSpan.ofRange focus.range total).count ≤ budget.lines) :
    ofFocus focus target total budget =
      { body := .ofRange focus.range total
        shown := .ofRange focus.range total
        kept := focus.enclosing.drop (focus.enclosing.length -
          (budget.lines - (LineSpan.ofRange focus.range total).count))
        dropped := focus.enclosing.length -
          (budget.lines - (LineSpan.ofRange focus.range total).count)
        truncated := false } :=
  if_pos h

/-- Of a focus that does not fit a window is shown, and only its own scope is kept. -/
theorem ofFocus_of_lt (target : Range)
    (h : budget.lines < (LineSpan.ofRange focus.range total).count) :
    ofFocus focus target total budget =
      { body := .ofRange focus.range total
        shown := (LineSpan.ofRange focus.range total).window target budget.lines
        kept := focus.scope.toList
        dropped := focus.enclosing.length
        truncated := true } :=
  if_neg (Nat.not_le.2 h)

/-- A layout is truncated exactly when its focus does not fit. -/
theorem truncated_iff {target : Range} :
    (ofFocus focus target total budget).truncated = true ↔
      budget.lines < (LineSpan.ofRange focus.range total).count := by
  by_cases hfits : (LineSpan.ofRange focus.range total).count ≤ budget.lines
  · rw [ofFocus_of_le target hfits]
    simpa using hfits
  · rw [ofFocus_of_lt target (Nat.not_le.1 hfits)]
    simpa using hfits

theorem truncated_eq_false_iff {target : Range} :
    (ofFocus focus target total budget).truncated = false ↔
      (LineSpan.ofRange focus.range total).count ≤ budget.lines := by
  rw [← Bool.not_eq_true, truncated_iff, Nat.not_lt]

/-- The lines that are shown lie in those of the focus. -/
theorem shown_within (focus : Focus) (target : Range) (total : Nat) (budget : Budget) :
    (ofFocus focus target total budget).shown.Within (.ofRange focus.range total) := by
  have hfocus := LineSpan.first_le_last_ofRange focus.range total
  by_cases hfits : (LineSpan.ofRange focus.range total).count ≤ budget.lines
  · rw [ofFocus_of_le target hfits]
    exact ⟨Nat.le_refl _, hfocus, Nat.le_refl _⟩
  · have hlong := Nat.not_le.1 hfits
    rw [ofFocus_of_lt target hlong]
    exact LineSpan.window_within target hfocus budget.one_le_lines (Nat.le_of_lt hlong)

end Layout

/-- The focus among scopes of which those that stand alone start in the document starts in it. -/
theorem Focus.line_start_ofScopes_lt {scopes : List Scope} {doc : Document} (hdoc : doc.lines ≠ [])
    (h : ∀ scope ∈ scopes, scope.standsAlone = true → scope.range.start.line < doc.lines.length) :
    (ofScopes scopes doc).range.start.line < doc.lines.length := by
  unfold ofScopes
  cases hfocus : innermost? scopes with
  | none => exact List.length_pos_iff.2 hdoc
  | some found =>
      obtain ⟨enclosing, focus⟩ := found
      obtain ⟨halone, inner, hscopes, -⟩ := innermost?_eq_some hfocus
      exact h focus (by simp [hscopes]) halone

namespace Context

variable {context : Context} {doc : Document} {target : Range} {budget : Budget}

/-- The excerpt of a document without lines is empty, whatever the budget is. -/
theorem excerpt_of_nil (context : Context) (target : Range) (budget : Budget)
    (hdoc : doc.lines = []) :
    context.excerpt doc target budget =
      .ok ⟨context, [], "", .cursor ⟨0, 0⟩, target, false⟩ :=
  if_pos (List.isEmpty_iff.2 hdoc)

theorem excerpt_eq_ok {code : String} {codeRange : Range} (hdoc : doc.lines ≠ [])
    (h : doc.codeOf (context.layout doc target budget).shown = .ok (code, codeRange)) :
    context.excerpt doc target budget =
      .ok ⟨context, (context.layout doc target budget).kept.map (·.toBreadcrumb), code, codeRange,
        target, (context.layout doc target budget).truncated⟩ := by
  have hlines : doc.lines.isEmpty = false := by simpa using hdoc
  unfold excerpt
  rw [hlines]
  simp only [Bool.false_eq_true, ↓reduceIte, h]
  rfl

theorem excerpt_eq_error {missing : MissingLine} (hdoc : doc.lines ≠ [])
    (h : doc.codeOf (context.layout doc target budget).shown = .error missing) :
    context.excerpt doc target budget = .error missing := by
  have hlines : doc.lines.isEmpty = false := by simpa using hdoc
  unfold excerpt
  rw [hlines]
  simp only [Bool.false_eq_true, ↓reduceIte, h]
  rfl

/-- The excerpt of a document with lines is the code of the lines that its layout shows. -/
theorem excerpt_eq_ok_iff {e : Excerpt} (hdoc : doc.lines ≠ []) :
    context.excerpt doc target budget = .ok e ↔
      ∃ code codeRange,
        doc.codeOf (context.layout doc target budget).shown = .ok (code, codeRange) ∧
        e = ⟨context, (context.layout doc target budget).kept.map (·.toBreadcrumb), code,
          codeRange, target, (context.layout doc target budget).truncated⟩ := by
  constructor
  · intro h
    cases hcode : doc.codeOf (context.layout doc target budget).shown with
    | error missing => rw [excerpt_eq_error hdoc hcode] at h; cases h
    | ok found =>
        rw [excerpt_eq_ok hdoc hcode] at h
        exact ⟨found.1, found.2, rfl, (Except.ok.inj h).symm⟩
  · rintro ⟨code, codeRange, hcode, rfl⟩
    exact excerpt_eq_ok hdoc hcode

/-- There is no excerpt exactly when the lines that its layout shows have no code. -/
theorem excerpt_eq_error_iff (hdoc : doc.lines ≠ []) :
    (∃ missing, context.excerpt doc target budget = .error missing) ↔
      ∃ missing, doc.codeOf (context.layout doc target budget).shown = .error missing := by
  constructor
  · rintro ⟨missing, h⟩
    cases hcode : doc.codeOf (context.layout doc target budget).shown with
    | error missing => exact ⟨missing, rfl⟩
    | ok found => rw [excerpt_eq_ok hdoc hcode] at h; cases h
  · rintro ⟨missing, hcode⟩
    exact ⟨missing, excerpt_eq_error hdoc hcode⟩

/-- An excerpt is about the target that it was asked for. -/
theorem target_of_excerpt {e : Excerpt} (h : context.excerpt doc target budget = .ok e) :
    e.target = target := by
  by_cases hdoc : doc.lines = []
  · rw [excerpt_of_nil context target budget hdoc] at h
    cases h
    rfl
  · obtain ⟨code, codeRange, -, rfl⟩ := (excerpt_eq_ok_iff hdoc).1 h
    rfl

/-- A document has an excerpt when the scopes that stand alone start in it. Unless the document is
empty, the excerpt shows lines of it. -/
theorem excerpt_ok (target : Range) (budget : Budget)
    (h : doc.lines ≠ [] → ∀ scope ∈ context.scopes, scope.standsAlone = true →
      scope.range.start.line < doc.lines.length) :
    ∃ excerpt, context.excerpt doc target budget = .ok excerpt ∧
      (doc.lines ≠ [] → ∃ shown : LineSpan, shown.first ≤ shown.last ∧
        shown.last < doc.lines.length ∧
        doc.codeOf shown = .ok (excerpt.code, excerpt.codeRange)) := by
  by_cases hdoc : doc.lines = []
  · exact ⟨_, excerpt_of_nil context target budget hdoc, fun hne => absurd hdoc hne⟩
  · -- The focus starts in the document, so its lines and the window in them end in it.
    have hstart := Focus.line_start_ofScopes_lt hdoc (h hdoc)
    have hbody := LineSpan.last_ofRange_lt hstart
    have hwithin : (context.layout doc target budget).shown.Within _ :=
      Layout.shown_within (.ofScopes context.scopes doc) target doc.lines.length budget
    have hlast := Nat.lt_of_le_of_lt hwithin.last_le hbody
    have hcode := Document.codeOf_eq_ok hlast
    exact ⟨_, excerpt_eq_ok hdoc hcode, fun _ => ⟨_, hwithin.first_le_last, hlast, hcode⟩⟩

end Context

end CursorScope
