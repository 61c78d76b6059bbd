import CursorScope.Budget
import CursorScope.Context

/-!
# Excerpts

An excerpt shows the innermost scope around a target that stands alone, or the whole file when
there is none, with the signatures of the scopes around it as breadcrumbs. It is fitted to a line
budget: breadcrumbs are dropped, the outermost first, until the rest fits. A scope that is longer
than the budget is cut to a window around the target and keeps only its own signature.
-/

namespace CursorScope

/-- Lines of a document from `first` through `last`. -/
structure LineSpan where
  first : Nat
  last : Nat
  deriving DecidableEq, Repr

namespace LineSpan

/-- The number of lines of a span. -/
def count (span : LineSpan) : Nat := span.last - span.first + 1

/-- The lines that a range shows in a document of `total` lines. The line at whose very start the
range stops is not shown, unless the range starts on it. -/
def ofRange (range : Range) (total : Nat) : LineSpan :=
  let last :=
    if range.stop.character = 0 ∧ range.start.line < range.stop.line then range.stop.line - 1
    else range.stop.line
  ⟨range.start.line, max range.start.line (min last (total - 1))⟩

/-- The `size` lines of a span around the middle line of a target, as far as the ends of the span
let them. -/
def window (span : LineSpan) (target : Range) (size : Nat) : LineSpan :=
  let middle := (target.start.line + target.stop.line) / 2
  let centre := min (max middle span.first) span.last
  let first := max span.first (min (centre - (size - 1) / 2) (span.last + 1 - size))
  ⟨first, first + size - 1⟩

end LineSpan

/-- What an excerpt is about: a scope, with the scopes around it, or a whole file. -/
structure Focus where
  scope : Option Scope
  enclosing : List Scope
  range : Range

namespace Focus

/-- The last scope that stands alone, after the scopes before it. -/
def innermost? : List Scope → Option (List Scope × Scope)
  | [] => none
  | scope :: rest =>
      match innermost? rest with
      | some (enclosing, focus) => some (scope :: enclosing, focus)
      | none => if scope.standsAlone then some ([], scope) else none

/-- There is no innermost scope exactly when no scope stands alone. -/
theorem innermost?_eq_none_iff {scopes : List Scope} :
    innermost? scopes = none ↔ ∀ scope ∈ scopes, scope.standsAlone = false := by
  induction scopes with
  | nil => simp [innermost?]
  | cons scope rest ih =>
      rw [innermost?]
      cases h : innermost? rest with
      | none =>
          have hrest := ih.1 h
          cases halone : scope.standsAlone <;> simp_all
      | some found =>
          have hrest : ¬ ∀ other ∈ rest, other.standsAlone = false := by
            rw [← ih, h]
            simp
          simp_all

/-- The innermost scope stands alone, the scopes before it are those around it, and no scope after
it stands alone. -/
theorem innermost?_eq_some {scopes enclosing : List Scope} {focus : Scope}
    (h : innermost? scopes = some (enclosing, focus)) :
    focus.standsAlone = true ∧ ∃ inner, scopes = enclosing ++ focus :: inner ∧
      ∀ scope ∈ inner, scope.standsAlone = false := by
  induction scopes generalizing enclosing focus with
  | nil => cases h
  | cons scope rest ih =>
      rw [innermost?] at h
      split at h
      · rename_i around found hfound
        cases h
        obtain ⟨halone, inner, hrest, hinner⟩ := ih hfound
        exact ⟨halone, inner, by rw [hrest, List.cons_append], hinner⟩
      · rename_i hnone
        split at h
        · rename_i halone
          cases h
          exact ⟨halone, rest, rfl, innermost?_eq_none_iff.1 hnone⟩
        · cases h

/-- The focus among scopes of a document. -/
def ofScopes (scopes : List Scope) (doc : Document) : Focus :=
  match innermost? scopes with
  | some (enclosing, scope) => ⟨some scope, enclosing, scope.range⟩
  | none => ⟨none, [], .upTo ⟨0, 0⟩ doc.endPosition⟩

end Focus

/-- How a focus is fitted to a budget: the lines of the focus, those that are shown, the scopes
whose signatures are kept, and the number of those dropped. -/
structure Layout where
  body : LineSpan
  shown : LineSpan
  kept : List Scope
  dropped : Nat
  truncated : Bool

namespace Layout

/-- The layout of a focus around a target in a document of `total` lines. -/
def ofFocus (focus : Focus) (target : Range) (total : Nat) (budget : Budget) : Layout :=
  let body := LineSpan.ofRange focus.range total
  let around := focus.enclosing
  if body.count ≤ budget.lines then
    let dropped := around.length - (budget.lines - body.count)
    ⟨body, body, around.drop dropped, dropped, false⟩
  else
    ⟨body, body.window target budget.lines, focus.scope.toList, around.length, true⟩

/-- The record of a layout, written when something is left out. -/
def report (layout : Layout) (budget : Budget) : Logged Unit := do
  if layout.dropped ≠ 0 ∨ layout.truncated then
    let span (lines : LineSpan) : String := s!"{lines.first}-{lines.last}"
    .write .debug (s!"Budget of {budget.lines} lines: dropped {layout.dropped} " ++
      "enclosing signature(s), focus " ++ span layout.shown ++ " of " ++ span layout.body)

end Layout

/-- The signature of a scope that an excerpt keeps. -/
structure Breadcrumb where
  signature : String
  name : String
  range : Range
  deriving DecidableEq

/-- The breadcrumb of a scope. -/
def Scope.toBreadcrumb (scope : Scope) : Breadcrumb := ⟨scope.signature, scope.name, scope.range⟩

/-- The code around a target, with the signatures of the scopes around the code. -/
structure Excerpt where
  context : Context
  breadcrumbs : List Breadcrumb
  code : String
  codeRange : Range
  target : Range
  truncated : Bool
  deriving DecidableEq

namespace Excerpt

/-- The lines of an excerpt: the signatures, then the code. -/
def lines (e : Excerpt) : List String :=
  e.breadcrumbs.map (·.signature) ++ Text.newlinePieces e.code

/-- The number of lines of an excerpt. -/
def lineCount (e : Excerpt) : Nat := e.lines.length

/-- The text of an excerpt. -/
def render (e : Excerpt) : String := "\n".intercalate e.lines

end Excerpt

/-- The document has no line to end an excerpt with, because the focus starts past its end. -/
structure MissingLine where
  line : Nat
  deriving DecidableEq, Repr

/-- The code of shown lines and its range: whole lines, the last one without its ending. -/
def Document.codeOf (doc : Document) (shown : LineSpan) : Except MissingLine (String × Range) :=
  match doc.lines[shown.last]? with
  | none => .error ⟨shown.last⟩
  | some line =>
      let whole := (doc.lines.drop shown.first).take (shown.last - shown.first)
      .ok (String.join whole ++ Text.bareLine line,
        .upTo ⟨shown.first, 0⟩ ⟨shown.last, Text.lineWidth line⟩)

namespace Context

/-- The layout of the focus of a context around a target in a document. -/
def layout (context : Context) (doc : Document) (target : Range) (budget : Budget) : Layout :=
  .ofFocus (.ofScopes context.scopes doc) target doc.lines.length budget

/-- The excerpt of a document around a target, fitted to a budget. A document without lines has an
empty one. -/
def excerpt (context : Context) (doc : Document) (target : Range) (budget : Budget) :
    Except MissingLine Excerpt :=
  if doc.lines.isEmpty then .ok ⟨context, [], "", .cursor ⟨0, 0⟩, target, false⟩
  else do
    let layout := context.layout doc target budget
    let (code, codeRange) ← doc.codeOf layout.shown
    return ⟨context, layout.kept.map (·.toBreadcrumb), code, codeRange, target, layout.truncated⟩

/-- The excerpt, with a record of what is left out of it. The record is written even if the excerpt
fails. -/
def reportedExcerpt (context : Context) (doc : Document) (target : Range) (budget : Budget) :
    Logged (Except MissingLine Excerpt) := do
  unless doc.lines.isEmpty do
    (context.layout doc target budget).report budget
  return context.excerpt doc target budget

@[simp] theorem value_reportedExcerpt (context : Context) (doc : Document) (target : Range)
    (budget : Budget) :
    (context.reportedExcerpt doc target budget).value = context.excerpt doc target budget := by
  unfold reportedExcerpt
  split <;> rfl

end Context

end CursorScope
