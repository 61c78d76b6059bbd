import CursorScope.Scope.Chain
import CursorScope.Scope.Imports

/-!
# The context of a target

The scopes that enclose a target, together with the imports and includes of its file.
-/

namespace CursorScope

/-- The scopes around a target, outermost first, and the statements at the scope of the file. -/
structure Context where
  scopes : List Scope
  includes : List String
  imports : List String
  deriving DecidableEq

namespace Context

/-- The context of a text without a tree. -/
def empty : Context := ⟨[], [], []⟩

/-- Nothing is known around the target. -/
def isEmpty (context : Context) : Bool :=
  context.scopes.isEmpty && context.includes.isEmpty && context.imports.isEmpty

end Context

/-- The context of a target in a document with a tree. A target past the document is moved back
onto it. -/
def Classifier.contextAt (classifier : Classifier) (tree : Tree) (doc : Document)
    (target : Range) : Except RangeError Context := do
  let scopes ← (classifier.chain tree.root (doc.clamp target) doc .empty).2
  let found ← classifier.imports tree.root doc
  return ⟨scopes, found.includes, found.imports⟩

end CursorScope
