import CursorScope.Describe.Basic

/-!
# Imports of a file

The import and include statements at file scope, in the order of the document. Statement
containers are searched. Scopes below the root are not entered, and neither are the statements
themselves.
-/

namespace CursorScope

mutual

/-- The import and include statements that are found from a node on. -/
def Node.statements (kindOf : String → Kind) : Node → List Node
  | node@⟨_, type, _, _, _, _, _, _, _, children⟩ =>
      match kindOf type with
      | .importDecl | .includeDecl => [node]
      | .unrecognized => Node.statementsOfAll kindOf children
      | _ => []

/-- The import and include statements that are found from each of some siblings on. -/
def Node.statementsOfAll (kindOf : String → Kind) : List Node → List Node
  | [] => []
  | node :: rest => node.statements kindOf ++ Node.statementsOfAll kindOf rest

end

theorem Node.statements_eq (kindOf : String → Kind) (node : Node) :
    node.statements kindOf =
      match kindOf node.type with
      | .importDecl | .includeDecl => [node]
      | .unrecognized => Node.statementsOfAll kindOf node.children
      | _ => [] := by
  cases node
  rw [Node.statements]

/-- The import and include statements of a tree. The root is entered even if it is a scope. -/
def Node.fileStatements (root : Node) (kindOf : String → Kind) : List Node :=
  match kindOf root.type with
  | .importDecl | .includeDecl => [root]
  | _ => Node.statementsOfAll kindOf root.children

/-- The texts of the import and the include statements of a file. -/
structure Imports where
  imports : List String
  includes : List String
  deriving DecidableEq

/-- The text of a statement on one line. -/
def Node.statementText (node : Node) (doc : Document) : Except RangeError String :=
  Text.collapse <$> node.text doc

/-- The import and include statements of a tree, each on one line. -/
def Classifier.imports (classifier : Classifier) (root : Node) (doc : Document) :
    Except RangeError Imports := do
  let statements ← (root.fileStatements classifier.kindOf).mapM fun node => do
    return (classifier.kindOf node.type, ← node.statementText doc)
  let ofKind (kind : Kind) := (statements.filter (·.1 == kind)).map (·.2)
  return ⟨ofKind .importDecl, ofKind .includeDecl⟩

end CursorScope
