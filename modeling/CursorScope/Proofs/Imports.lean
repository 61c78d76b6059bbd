import CursorScope.Proofs.Alike
import CursorScope.Scope.Imports

/-!
# Imports of alike trees

Alike trees have alike import and include statements, so their imports are the same
(`Reading.imports`).
-/

namespace CursorScope

variable {same : Node → Node → Prop} {alike : String → String → Prop} {doc otherDoc : Document}
  {root otherRoot : Node}

theorem Node.statementsOfAll_eq_flatMap (kindOf : String → Kind) (nodes : List Node) :
    statementsOfAll kindOf nodes = nodes.flatMap (statements kindOf) := by
  induction nodes with
  | nil => rfl
  | cons node rest ih => rw [statementsOfAll, ih, List.flatMap_cons]

theorem Node.Alike.statements (h : root.Alike same otherRoot) (kindOf : String → Kind) :
    List.Forall₂ (Node.Alike same) (root.statements kindOf) (otherRoot.statements kindOf) := by
  induction root using Node.inductionOnChildren generalizing otherRoot with
  | step node ih =>
      rw [Node.statements_eq, Node.statements_eq, h.type_eq]
      split
      · exact .cons h .nil
      · exact .cons h .nil
      · rw [Node.statementsOfAll_eq_flatMap, Node.statementsOfAll_eq_flatMap]
        have hchildren := (List.forall₂_and_left _ _).2 ⟨ih, h.children⟩
        exact List.rel_flatMap hchildren fun child otherChild hchild => hchild.1 hchild.2
      · exact .nil

theorem Node.Alike.fileStatements (h : root.Alike same otherRoot) (kindOf : String → Kind) :
    List.Forall₂ (Node.Alike same) (root.fileStatements kindOf)
      (otherRoot.fileStatements kindOf) := by
  unfold Node.fileStatements
  rw [h.type_eq, Node.statementsOfAll_eq_flatMap, Node.statementsOfAll_eq_flatMap]
  split
  · exact .cons h .nil
  · exact .cons h .nil
  · exact List.rel_flatMap h.children fun _ _ halike => halike.statements kindOf

/-- Alike trees have the same imports and includes. -/
theorem Reading.imports (h : Reading same alike doc otherDoc) (classifier : Classifier)
    (hroot : root.Alike same otherRoot) :
    Agree Eq (classifier.imports root doc) (classifier.imports otherRoot otherDoc) := by
  have htext (node other : Node) (hnode : node.Alike same other) :
      Agree Eq (do return (classifier.kindOf node.type, ← node.statementText doc))
        (do return (classifier.kindOf other.type, ← other.statementText otherDoc)) := by
    rw [hnode.type_eq]
    refine ((h.text hnode.related).map fun _ _ => h.congruence.collapse_eq).bind
      fun text otherText heq => ?_
    exact .ok (congrArg (Prod.mk _) heq)
  refine (Agree.mapM (hroot.fileStatements classifier.kindOf) htext).bind
    fun statements otherStatements heq => ?_
  rw [List.forall₂_eq_eq_eq] at heq
  rw [heq]
  exact .ok rfl

end CursorScope
