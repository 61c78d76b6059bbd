import CursorScope.Proofs.Window

/-!
# Excerpts for larger budgets

A larger budget never shows less. Of two windows around one target the larger one has all lines of
the smaller one (`LineSpan.window_within_window`), and a window lies in its span, so the shown lines
only grow with the budget (`Layout.shown_within_shown`). `Context.excerpt_extends` says so of
excerpts: of their code, and of their signatures where the whole focus is shown.
-/

namespace CursorScope

namespace LineSpan

/-- A window lies in every larger window of the same span around the same target, wherever the two
are cut off by the ends of the span. -/
theorem window_within_window (span : LineSpan) (target : Range) {size larger : Nat}
    (hsize : 1 ≤ size) (hle : size ≤ larger) :
    (span.window target size).Within (span.window target larger) := by
  -- The larger window starts further up by no more lines than it has more.
  have habove : (size - 1) / 2 ≤ (larger - 1) / 2 := Nat.div_le_div_right (by omega)
  have hbelow : (larger - 1) / 2 ≤ (size - 1) / 2 + (larger - size) := by omega
  have hfirst : (span.window target larger).first ≤ (span.window target size).first ∧
      (span.window target size).first ≤ (span.window target larger).first + (larger - size) := by
    rw [first_window, first_window]
    generalize span.nearest target.middleLine = centre
    have hstart : centre - (larger - 1) / 2 ≤ centre - (size - 1) / 2 ∧
        centre - (size - 1) / 2 ≤ centre - (larger - 1) / 2 + (larger - size) := by omega
    generalize centre - (size - 1) / 2 = start, centre - (larger - 1) / 2 = largerStart at *
    omega
  have hlast : (span.window target size).first ≤ (span.window target size).last := by
    rw [last_window]
    omega
  refine ⟨hfirst.1, hlast, ?_⟩
  rw [last_window, last_window]
  omega

end LineSpan

namespace Layout

variable {focus : Focus} {target : Range} {total : Nat} {budget larger : Budget}

/-- The lines that are shown for a budget are shown for every larger one. -/
theorem shown_within_shown (focus : Focus) (target : Range) (total : Nat)
    (hle : budget.lines ≤ larger.lines) :
    (ofFocus focus target total budget).shown.Within
      (ofFocus focus target total larger).shown := by
  by_cases hfits : (LineSpan.ofRange focus.range total).count ≤ larger.lines
  · -- All lines of the focus are shown for the larger budget.
    rw [ofFocus_of_le target hfits]
    exact shown_within focus target total budget
  · have hlong := Nat.not_le.1 hfits
    rw [ofFocus_of_lt target hlong, ofFocus_of_lt target (Nat.lt_of_le_of_lt hle hlong)]
    exact LineSpan.window_within_window _ target budget.one_le_lines hle

/-- What is cut off for a budget is cut off for every smaller one. -/
theorem truncated_of_truncated (hle : budget.lines ≤ larger.lines)
    (h : (ofFocus focus target total larger).truncated = true) :
    (ofFocus focus target total budget).truncated = true :=
  truncated_iff.2 (Nat.lt_of_le_of_lt hle (truncated_iff.1 h))

/-- Of two layouts that are not truncated, the one for the larger budget keeps the scopes that the
other one keeps, and perhaps some more around them. -/
theorem kept_isSuffix (hle : budget.lines ≤ larger.lines)
    (h : (ofFocus focus target total budget).truncated = false) :
    (ofFocus focus target total budget).kept <:+ (ofFocus focus target total larger).kept := by
  have hfits := truncated_eq_false_iff.1 h
  rw [ofFocus_of_le target hfits, ofFocus_of_le target (Nat.le_trans hfits hle)]
  exact List.drop_suffix_drop_left _ (by omega)

end Layout

/-- The code of lines has the code of every stretch of these lines in its range. -/
theorem Document.range_contains_of_within {doc : Document} {inner outer : LineSpan}
    {code otherCode : String} {range other : Range} (hwithin : inner.Within outer)
    (hinner : doc.codeOf inner = .ok (code, range))
    (houter : doc.codeOf outer = .ok (otherCode, other)) : other.contains range := by
  obtain ⟨line, hline, hstart, hstop⟩ := range_of_codeOf hinner hwithin.first_le_last
  obtain ⟨otherLine, hother, hotherStart, hotherStop⟩ := range_of_codeOf houter
    (Nat.le_trans hwithin.first_le (Nat.le_trans hwithin.first_le_last hwithin.last_le))
  rw [Range.contains_iff, hstart, hstop, hotherStart, hotherStop]
  refine ⟨?_, ?_⟩
  · rcases Nat.lt_or_eq_of_le hwithin.first_le with hlt | heq
    · exact .inl hlt
    · exact .inr ⟨heq, Nat.le_refl 0⟩
  · rcases Nat.lt_or_eq_of_le hwithin.last_le with hlt | heq
    · exact .inl hlt
    · -- Stretches that end on the same line end at its width.
      rw [heq, hother] at hline
      cases hline
      exact .inr ⟨heq, Nat.le_refl _⟩

/-- One excerpt shows no less than another one: its code reaches as far on either side, it is
truncated only if the other one is, and where neither is, it has the signatures of the other one,
perhaps below some more. -/
structure Excerpt.Extends (larger e : Excerpt) : Prop where
  codeRange : larger.codeRange.contains e.codeRange
  truncated : larger.truncated = true → e.truncated = true
  breadcrumbs : larger.truncated = false → e.truncated = false →
    e.breadcrumbs <:+ larger.breadcrumbs

namespace Context

/-- The excerpt for a budget is extended by the excerpt for every larger budget, which exists where
the one for the smaller budget does. -/
theorem excerpt_extends (context : Context) (doc : Document) (target : Range) {m n : Int}
    (hle : m ≤ n) {e : Excerpt} (h : context.excerpt doc target (.ofInt m) = .ok e) :
    ∃ larger, context.excerpt doc target (.ofInt n) = .ok larger ∧ larger.Extends e := by
  have hbudget : (Budget.ofInt m).lines ≤ (Budget.ofInt n).lines := by
    show max 1 m.toNat ≤ max 1 n.toNat
    omega
  by_cases hdoc : doc.lines = []
  · -- The excerpt of a document without lines does not depend on the budget.
    have hsame : context.excerpt doc target (.ofInt n) = .ok e := by
      rw [← h, excerpt_of_nil _ _ _ hdoc, excerpt_of_nil _ _ _ hdoc]
    exact ⟨e, hsame, Range.contains_refl _, id, fun _ _ => List.suffix_refl _⟩
  · obtain ⟨code, range, hcode, rfl⟩ := (excerpt_eq_ok_iff hdoc).1 h
    have hfocus := Focus.ofScopes_focusOf context.scopes doc
    cases hlarger : context.excerpt doc target (.ofInt n) with
    | error missing =>
        have hpast := (excerpt_eq_error_iff_focus hdoc hfocus).1 ⟨missing, hlarger⟩
        obtain ⟨_, herror⟩ := (excerpt_eq_error_iff_focus hdoc hfocus).2 hpast
        rw [h] at herror
        cases herror
    | ok larger =>
        obtain ⟨largerCode, largerRange, hlargerCode, rfl⟩ := (excerpt_eq_ok_iff hdoc).1 hlarger
        have hwithin : (context.layout doc target (.ofInt m)).shown.Within
            (context.layout doc target (.ofInt n)).shown :=
          Layout.shown_within_shown _ target _ hbudget
        refine ⟨_, rfl, Document.range_contains_of_within hwithin hcode hlargerCode,
          Layout.truncated_of_truncated hbudget, fun _ hwhole => ?_⟩
        exact (Layout.kept_isSuffix hbudget hwhole).map _

end Context

/-- The excerpt of a method for a budget with room for the signature of one of its two classes is
extended by the excerpt for a budget with room for both. -/
theorem excerpt_extends_methodInClasses :
    let doc : Document := ⟨["class A:\n", "    class B:\n", "        def f(self):\n",
      "            return g\n"], ""⟩
    let context : Context := ⟨methodInClasses, [], []⟩
    let target : Range := .cursor ⟨3, 20⟩
    let e : Excerpt := ⟨context, [⟨"class B", "B", methodInClasses[1].range⟩],
      "        def f(self):\n            return g", ⟨⟨2, 0⟩, ⟨3, 20⟩, by decide⟩, target, false⟩
    (3 : Int) ≤ 4 ∧ context.excerpt doc target (.ofInt 3) = .ok e ∧
    ∃ larger, context.excerpt doc target (.ofInt 4) = .ok larger ∧ larger.Extends e := by
  intro doc context target e
  have hle : (3 : Int) ≤ 4 := by decide
  have h : context.excerpt doc target (.ofInt 3) = .ok e := rfl
  exact ⟨hle, h, context.excerpt_extends doc target hle h⟩

end CursorScope
