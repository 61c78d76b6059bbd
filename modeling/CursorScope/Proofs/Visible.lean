import CursorScope.Proofs.Code
import CursorScope.Proofs.Focus
import CursorScope.Proofs.Safety

/-!
# The target in an excerpt

An excerpt shows the lines of its target if these are not more than its budget has.
`Finder.extract_shows_target` says so for all targets but one kind: a scope that stops at the very
start of a line does not show that line, and a target that stops at the same place loses its last
line (`Scope.StopsAt`).
-/

namespace CursorScope

namespace LineSpan

/-- A window has all lines of its span that a target touches, if the target has no more lines than
the window. -/
theorem window_covers {span : LineSpan} {target : Range} {size : Nat}
    (hspan : span.first ≤ span.last) (htarget : target.lineCount ≤ size) :
    (span.window target size).first ≤ max target.start.line span.first ∧
      min target.stop.line span.last ≤ (span.window target size).last := by
  have hrows := target.line_start_le_stop
  unfold Range.lineCount at htarget
  -- Half of the window is enough for the lines of the target on either side of its middle line.
  have hhalf : (size - 1) / 2 ≤ size - 1 := Nat.div_le_self _ 2
  have habove : (target.start.line + target.stop.line) / 2 - (size - 1) / 2 ≤
      target.start.line := by omega
  have hbelow : target.stop.line ≤ (target.start.line + target.stop.line) / 2 +
      (size - 1 - (size - 1) / 2) := by omega
  unfold window
  dsimp only
  generalize (target.start.line + target.stop.line) / 2 = middle at *
  generalize (size - 1) / 2 = half at *
  have hcentre : min middle span.last ≤ min (max middle span.first) span.last ∧
      min (max middle span.first) span.last ≤ max middle span.first := by omega
  generalize min (max middle span.first) span.last = centre at *
  constructor
  · omega
  · have hfirst : min (centre - half) (span.last + 1 - size) ≤
        max span.first (min (centre - half) (span.last + 1 - size)) := Nat.le_max_right _ _
    generalize max span.first _ = first at *
    omega

end LineSpan

/-- The scope stops at the start of a line, which is not the one that it starts on, and the target
stops there too. -/
structure Scope.StopsAt (scope : Scope) (target : Range) : Prop where
  character : scope.range.stop.character = 0
  later : scope.range.start.line < scope.range.stop.line
  target : target.stop = scope.range.stop

/-- The excerpt shows the lines of its target, the last one only if the scope does not stop at its
start together with the target. -/
structure Excerpt.ShowsTarget (e : Excerpt) (scope : Scope) : Prop where
  lines : ∀ line, e.target.start.line ≤ line → line ≤ e.target.stop.line →
    ¬ (scope.StopsAt e.target ∧ line = e.target.stop.line) →
    e.codeRange.start.line ≤ line ∧ line ≤ e.codeRange.stop.line
  stop : scope.StopsAt e.target → e.codeRange.stop.line + 1 = e.target.stop.line

namespace LineSpan

variable {scope : Scope} {target : Range} {total : Nat}

/-- The lines of a scope reach to the end of a target in it. -/
theorem stop_le_last_ofRange (hcontains : scope.range.contains target = true)
    (htotal : target.stop.line < total) (h : ¬ scope.StopsAt target) :
    target.stop.line ≤ (ofRange scope.range total).last := by
  obtain ⟨-, hstop⟩ := Range.contains_iff.1 hcontains
  rw [Position.le_def] at hstop
  refine Nat.le_trans ?_ (Nat.le_max_right _ _)
  refine Nat.le_min.2 ⟨?_, by omega⟩
  split
  · rename_i hblank
    by_contra hline
    have hsame : target.stop.line = scope.range.stop.line := by omega
    have hcharacter : target.stop.character = scope.range.stop.character := by omega
    exact h ⟨hblank.1, hblank.2, Position.le_antisymm (.inr (by omega)) (.inr (by omega))⟩
  · omega

/-- The lines of a scope that stops at the start of a line end above it. -/
theorem last_ofRange_of_stopsAt (htotal : target.stop.line < total) (h : scope.StopsAt target) :
    (ofRange scope.range total).last + 1 = target.stop.line := by
  have hlater := h.later
  rw [last_ofRange_of_zero h.character h.later, h.target]
  rw [h.target] at htotal
  omega

end LineSpan

/-- The shown lines of a focus have all of its lines that a target touches, if the target has no
more lines than the budget. -/
theorem Layout.shown_covers (focus : Focus) {target : Range} (total : Nat) {budget : Budget}
    (htarget : target.lineCount ≤ budget.lines) :
    (ofFocus focus target total budget).shown.first ≤
        max target.start.line (LineSpan.ofRange focus.range total).first ∧
      min target.stop.line (LineSpan.ofRange focus.range total).last ≤
        (ofFocus focus target total budget).shown.last := by
  by_cases hfits : (LineSpan.ofRange focus.range total).count ≤ budget.lines
  · rw [ofFocus_of_le target hfits]
    exact ⟨Nat.le_max_right _ _, Nat.min_le_right _ _⟩
  · have hlong := Nat.not_le.1 hfits
    rw [ofFocus_of_lt target hlong]
    exact LineSpan.window_covers (LineSpan.first_le_last_ofRange _ _) htarget

namespace Context

variable {context : Context} {doc : Document} {target : Range} {budget : Budget} {e : Excerpt}

/-- An excerpt around a scope with the target in it shows the target. -/
theorem showsTarget_of_excerpt {focus : Focus} {scope : Scope} (hdoc : doc.lines ≠ [])
    (hfocus : FocusOf context.scopes doc focus) (hscope : focus.scope = some scope)
    (hcontains : scope.range.contains target = true) (htotal : target.stop.line < doc.lines.length)
    (hfits : target.lineCount ≤ budget.lines) (h : context.excerpt doc target budget = .ok e) :
    e.ShowsTarget scope := by
  obtain ⟨hcode, hspan⟩ := codeOf_of_excerpt hdoc h
  obtain ⟨line, -, hstart, hstop⟩ := Document.range_of_codeOf hcode hspan
  obtain ⟨code, codeRange, -, rfl⟩ := (excerpt_eq_ok_iff hdoc).1 h
  have hwithin := Layout.shown_within focus target doc.lines.length budget
  obtain ⟨hfirst, hlast⟩ := Layout.shown_covers focus doc.lines.length hfits
  have hbody := hwithin.last_le
  have habove := Position.line_le (Range.contains_iff.1 hcontains).1
  rw [layout_eq hfocus] at hstart hstop
  rw [LineSpan.first_ofRange] at hfirst
  rw [(hfocus.of_scope hscope).1] at hfirst hlast hbody
  generalize (Layout.ofFocus focus target doc.lines.length budget).shown = shown at *
  refine ⟨fun row hrow hrowStop hexcept => ?_, fun hstops => ?_⟩
  · have hle : row ≤ target.stop.line := hrowStop
    have hge : target.start.line ≤ row := hrow
    show codeRange.start.line ≤ row ∧ row ≤ codeRange.stop.line
    rw [hstart, hstop]
    show shown.first ≤ row ∧ row ≤ shown.last
    by_cases hstops : scope.StopsAt target
    · have hlines := LineSpan.last_ofRange_of_stopsAt htotal hstops
      have hne : row ≠ target.stop.line := fun hsame => hexcept ⟨hstops, hsame⟩
      exact ⟨by omega, by omega⟩
    · have hlines := LineSpan.stop_le_last_ofRange hcontains htotal hstops
      exact ⟨by omega, by omega⟩
  · have hlines := LineSpan.last_ofRange_of_stopsAt htotal hstops
    show codeRange.stop.line + 1 = target.stop.line
    rw [hstop]
    show shown.last + 1 = target.stop.line
    omega

end Context

namespace Finder

/-- An excerpt shows the lines of its clamped target, if these are not more than the budget has and
some scope around the target stands alone. Only where this scope stops at the start of a later line
than it starts on, and the target stops at the same place, the excerpt ends on the line above. -/
theorem extract_shows_target (finder : Finder) {doc : Document} (hdoc : doc.lines ≠ [])
    {answer : ParserAnswer} {tree : Tree} (htree : answer.tree? = .ok tree)
    (hordered : tree.root.Ordered)
    (hroot : (finder.language.classifier.kindOf tree.root.type).isCodeRange = false)
    (target : Range) (maxLines : Option Int)
    (hfits : (doc.clamp target).lineCount ≤ (finder.budgetFor maxLines).lines) :
    ∃ context e, (finder.collectContext doc answer target).value = .ok context ∧
      (finder.extract doc answer target maxLines).value = .ok e ∧
      e.target = doc.clamp target ∧
      ∀ focus scope, FocusOf context.scopes doc focus → focus.scope = some scope →
        e.ShowsTarget scope := by
  have hanswer {other : Tree} (hother : answer = .parsed other) : other = tree :=
    ParserAnswer.parsed.inj (hother.symm.trans (ParserAnswer.eq_parsed_of_tree? htree))
  obtain ⟨context, hcontext, hcontains⟩ := finder.collectContext_contains target doc
    (fun other hother => hanswer hother ▸ hordered) (fun other hother => hanswer hother ▸ hroot)
  obtain ⟨e, he, hextract⟩ := finder.extract_of_contains target maxLines hcontext hcontains
  have htarget : e.target = doc.clamp target := Context.target_of_excerpt he
  refine ⟨context, e, hcontext, hextract, htarget, fun focus scope hfocus hscope => ?_⟩
  obtain ⟨-, hmem, halone⟩ := hfocus.of_scope hscope
  exact Context.showsTarget_of_excerpt hdoc hfocus hscope (hcontains scope hmem halone)
    (doc.line_stop_clamp_lt hdoc target) hfits he

end Finder

/-- A module whose function stops at the start of the line below it. -/
def functionToNextLine : Tree :=
  ⟨⟨0, "module", true, false, none, 0, 19, ⟨0, 0⟩, ⟨3, 0⟩,
    [⟨1, "function_definition", true, false, none, 0, 18, ⟨0, 0⟩, ⟨2, 0⟩,
      [⟨2, "identifier", true, false, some "name", 4, 5, ⟨0, 4⟩, ⟨0, 5⟩, []⟩,
        ⟨3, "parameters", true, false, some "parameters", 5, 7, ⟨0, 5⟩, ⟨0, 7⟩, []⟩]⟩]⟩, false⟩

/-- The function of that module, as the scope around a target in it. -/
def nextLineScope : Scope :=
  ⟨0, .functionDecl, "def f()", "f", true, ⟨⟨0, 0⟩, ⟨2, 0⟩, by decide⟩⟩

/-- The excerpt around a selection in the function. -/
theorem extract_shows_target_functionToNextLine :
    let finder : Finder := ⟨.python, .default⟩
    let doc : Document := .ofText "def f():\n    g(1)\n\n" ""
    let answer : ParserAnswer := .parsed functionToNextLine
    let target : Range := ⟨⟨0, 4⟩, ⟨1, 40⟩, by decide⟩
    doc.lines ≠ [] ∧ answer.tree? = .ok functionToNextLine ∧ functionToNextLine.root.Ordered ∧
    (finder.language.classifier.kindOf functionToNextLine.root.type).isCodeRange = false ∧
    (doc.clamp target).lineCount ≤ (finder.budgetFor (some 2)).lines ∧
    ∃ e, (finder.extract doc answer target (some 2)).value = .ok e ∧
      e.ShowsTarget nextLineScope ∧ ¬ nextLineScope.StopsAt e.target := by
  intro finder doc answer target
  have hdoc : doc.lines ≠ [] := by decide
  have htree : answer.tree? = .ok functionToNextLine :=
    ParserAnswer.tree?_parsed (by decide) (by decide)
  have hordered : functionToNextLine.root.Ordered := (Node.all_iff_sites []).2 (by decide)
  have hroot : (finder.language.classifier.kindOf functionToNextLine.root.type).isCodeRange =
      false := by decide
  have hfits : (doc.clamp target).lineCount ≤ (finder.budgetFor (some 2)).lines := by decide
  have hway : Descent doc (doc.clamp target) (.ofRoot functionToNextLine.root) [_, _] :=
    .step rfl (.stop rfl)
  obtain ⟨found, -, hfound⟩ := finder.collectContext_of_descent target htree hordered hway
  obtain ⟨context, e, hcontext, he, htarget, hshows⟩ :=
    finder.extract_shows_target hdoc htree hordered hroot target (some 2) hfits
  have hscopes : context.scopes = [nextLineScope] := by
    cases hfound.symm.trans hcontext
    show innermostOfRanges _ = [nextLineScope]
    decide
  have hfocus : FocusOf context.scopes doc ⟨some nextLineScope, [], nextLineScope.range⟩ := by
    rw [hscopes]
    exact .singleton rfl
  refine ⟨hdoc, htree, hordered, hroot, hfits, e, he, hshows _ _ hfocus rfl, fun hstops => ?_⟩
  · have hstop := hstops.target
    rw [htarget] at hstop
    revert hstop
    decide

/-- The excerpt around a cursor at the start of the line below, where the function stops, does not
have the line of the cursor. -/
theorem extract_shows_target_fails_functionToNextLine :
    let finder : Finder := ⟨.python, .default⟩
    let doc : Document := .ofText "def f():\n    g(1)\n\n" ""
    let answer : ParserAnswer := .parsed functionToNextLine
    let target : Range := .cursor ⟨2, 0⟩
    doc.lines ≠ [] ∧ answer.tree? = .ok functionToNextLine ∧ functionToNextLine.root.Nested ∧
    functionToNextLine.root.Separated ∧
    finder.language.classifier.kindOf functionToNextLine.root.type = .unrecognized ∧
    (doc.clamp target).lineCount ≤ (finder.budgetFor none).lines ∧
    ∃ context e, (finder.collectContext doc answer target).value = .ok context ∧
      (finder.extract doc answer target none).value = .ok e ∧
      (∃ scope ∈ context.scopes, scope.standsAlone = true) ∧
      ¬ ∀ line, e.target.start.line ≤ line → line ≤ e.target.stop.line →
        e.codeRange.start.line ≤ line ∧ line ≤ e.codeRange.stop.line := by
  intro finder doc answer target
  have hdoc : doc.lines ≠ [] := by decide
  have htree : answer.tree? = .ok functionToNextLine :=
    ParserAnswer.tree?_parsed (by decide) (by decide)
  have hnested : functionToNextLine.root.Nested := (Node.all_iff_sites []).2 (by decide)
  have hfits : (doc.clamp target).lineCount ≤ (finder.budgetFor none).lines := by decide
  have hway : Descent doc (doc.clamp target) (.ofRoot functionToNextLine.root) [_, _] :=
    .step rfl (.stop rfl)
  obtain ⟨found, -, hcontext⟩ := finder.collectContext_of_descent target htree hnested.ordered hway
  generalize hscopes : innermostOfRanges _ = scopes at hcontext
  have hscope : scopes = [nextLineScope] := by
    rw [← hscopes]
    decide
  subst hscope
  have hcontains : nextLineScope.range.contains (doc.clamp target) = true := by decide
  have hall (scope : Scope) (hscope : scope ∈ [nextLineScope]) (_ : scope.standsAlone = true) :
      scope.range.contains (doc.clamp target) = true := by
    rw [List.mem_singleton.1 hscope]
    exact hcontains
  obtain ⟨e, he, hextract⟩ := finder.extract_of_contains target none hcontext hall
  have htarget : e.target = doc.clamp target := Context.target_of_excerpt he
  have hshows : e.ShowsTarget nextLineScope :=
    Context.showsTarget_of_excerpt hdoc (.singleton rfl) rfl hcontains
      (doc.line_stop_clamp_lt hdoc target) hfits he
  have hstop := hshows.stop ⟨rfl, by decide, by rw [htarget]; decide⟩
  refine ⟨hdoc, htree, hnested, (Node.all_iff_sites []).2 (by decide), by decide, hfits, _, e,
    hcontext, hextract, ⟨nextLineScope, List.mem_singleton_self _, rfl⟩, fun hall => ?_⟩
  have hlast := (hall e.target.stop.line e.target.line_start_le_stop (Nat.le_refl _)).2
  omega

end CursorScope
