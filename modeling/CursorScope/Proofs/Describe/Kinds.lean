import CursorScope.Describe.Classification

/-!
# Kinds of classified nodes

A table of kinds gives no node type a kind that it does not hold, and a classified node has the
kind that the table gives to its type.
-/

namespace CursorScope

/-- The kinds of nodes whose code is shown when they are the innermost such nodes around a
target. -/
def Kind.isCodeRange (kind : Kind) : Bool := kind.isScope && kind.standsAlone

namespace Classifier

/-- A kind that a table gives to a node type stands there with the type. -/
theorem mem_of_kindIn {table : List (String × Kind)} {type : String} {kind : Kind}
    (h : kindIn table type = kind) (hkind : kind ≠ .unrecognized) : (type, kind) ∈ table := by
  unfold kindIn at h
  cases hlookup : table.lookup type with
  | none =>
      rw [hlookup] at h
      exact absurd h.symm hkind
  | some found =>
      rw [hlookup] at h
      obtain ⟨before, after, htable, -⟩ := List.lookup_eq_some_iff.1 hlookup
      rw [htable, ← h]
      exact List.mem_append_right before List.mem_cons_self

variable {classifier : Classifier} {site : Site} {doc : Document} {classification : Classification}

/-- A classified node has the kind of its type, which is one of a scope. -/
theorem kind_of_classify (h : classifier.classify site doc = .ok (some classification)) :
    classification.kind = classifier.kindOf site.node.type ∧
      classification.kind.isScope = true := by
  unfold classify at h
  extract_lets kind at h
  cases hdescribe : classifier.describe kind site doc with
  | error failure =>
      rw [hdescribe] at h
      cases h
  | ok answer =>
      rw [hdescribe] at h
      cases answer with
      | none => cases h
      | some description =>
          cases h
          refine ⟨rfl, ?_⟩
          show kind.isScope = true
          clear_value kind
          cases kind with
          | importDecl | includeDecl | unrecognized => cases hdescribe
          | _ => rfl

/-- Nodes of no scope kind are not recognized, whatever the rules say. -/
theorem classify_of_not_isScope (doc : Document)
    (h : (classifier.kindOf site.node.type).isScope = false) :
    classifier.classify site doc = .ok none := by
  unfold classify
  extract_lets kind
  replace h : kind.isScope = false := h
  clear_value kind
  cases kind with
  | importDecl | includeDecl | unrecognized => rfl
  | _ => cases h

/-- A classified node that stands alone is of a type with a kind whose code is shown. -/
theorem isCodeRange_of_classify (h : classifier.classify site doc = .ok (some classification))
    (halone : classification.standsAlone = true) :
    (classifier.kindOf site.node.type).isCodeRange = true := by
  obtain ⟨hkind, hscope⟩ := kind_of_classify h
  unfold Kind.isCodeRange
  rw [← hkind, hscope]
  exact halone

end Classifier

end CursorScope
