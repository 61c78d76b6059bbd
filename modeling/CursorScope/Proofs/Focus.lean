import CursorScope.Excerpt

/-!
# What an excerpt is about

`FocusOf scopes doc focus` says which focus an excerpt of a document has among some scopes: the
last scope that stands alone, with the scopes before it around it, or else the whole file.
`Focus.ofScopes` computes a focus (`Focus.ofScopes_focusOf`), and there is no other (`FocusOf.eq`).
-/

namespace CursorScope

/-- `FocusOf scopes doc focus` says that `focus` is the last of the scopes that stands alone, after
the scopes before it, or the whole file when no scope stands alone. -/
inductive FocusOf (scopes : List Scope) (doc : Document) : Focus → Prop where
  | scope {enclosing inner : List Scope} {scope : Scope}
      (hscopes : scopes = enclosing ++ scope :: inner) (halone : scope.standsAlone = true)
      (hinner : ∀ other ∈ inner, other.standsAlone = false) :
      FocusOf scopes doc ⟨some scope, enclosing, scope.range⟩
  | file (hnone : ∀ scope ∈ scopes, scope.standsAlone = false) :
      FocusOf scopes doc ⟨none, [], .upTo ⟨0, 0⟩ doc.endPosition⟩

namespace Focus

/-- The innermost scope is found behind any scopes around it. -/
theorem innermost?_append {enclosing inner : List Scope} {scope : Scope}
    (halone : scope.standsAlone = true) (hinner : ∀ other ∈ inner, other.standsAlone = false) :
    innermost? (enclosing ++ scope :: inner) = some (enclosing, scope) := by
  induction enclosing with
  | nil =>
      rw [List.nil_append, innermost?, innermost?_eq_none_iff.2 hinner]
      exact if_pos halone
  | cons first rest ih => rw [List.cons_append, innermost?, ih]

end Focus

variable {scopes : List Scope} {doc : Document} {focus : Focus}

theorem Focus.ofScopes_focusOf (scopes : List Scope) (doc : Document) :
    FocusOf scopes doc (ofScopes scopes doc) := by
  unfold ofScopes
  cases hfound : innermost? scopes with
  | none => exact .file (innermost?_eq_none_iff.1 hfound)
  | some found =>
      obtain ⟨enclosing, scope⟩ := found
      obtain ⟨halone, inner, hscopes, hinner⟩ := innermost?_eq_some hfound
      exact .scope hscopes halone hinner

/-- A scope that stands alone is the focus among itself. -/
theorem FocusOf.singleton {scope : Scope} (halone : scope.standsAlone = true) :
    FocusOf [scope] doc ⟨some scope, [], scope.range⟩ :=
  .scope rfl halone fun _ hother => by cases hother

theorem FocusOf.eq (h : FocusOf scopes doc focus) : focus = .ofScopes scopes doc := by
  unfold Focus.ofScopes
  cases h with
  | scope hscopes halone hinner => rw [hscopes, Focus.innermost?_append halone hinner]
  | file hnone => rw [Focus.innermost?_eq_none_iff.2 hnone]

/-- A focus that is a scope stands alone, and it is one of the scopes. -/
theorem FocusOf.of_scope {scope : Scope} (h : FocusOf scopes doc focus)
    (hscope : focus.scope = some scope) :
    focus.range = scope.range ∧ scope ∈ scopes ∧ scope.standsAlone = true := by
  cases h with
  | scope hscopes halone hinner =>
      cases hscope
      exact ⟨rfl, by simp [hscopes], halone⟩
  | file hnone => cases hscope

/-- The layout of a context is that of its focus. -/
theorem Context.layout_eq {context : Context} (hfocus : FocusOf context.scopes doc focus)
    (target : Range) (budget : Budget) :
    context.layout doc target budget = .ofFocus focus target doc.lines.length budget := by
  rw [layout, hfocus.eq]

end CursorScope
