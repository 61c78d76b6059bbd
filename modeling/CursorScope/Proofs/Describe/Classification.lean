import CursorScope.Language.Classifier
import CursorScope.Proofs.Describe.CNodes
import CursorScope.Proofs.Describe.GoNodes
import CursorScope.Proofs.Describe.PythonNodes

/-!
# Alike classifications

A classifier `Respects` alike nodes when its rules describe alike sites alike. Then it classifies
alike sites alike (`Classifier.Respects.classify`), and in particular does not fail. The
classifiers of all languages respect alike nodes (`Language.respects`).
-/

namespace CursorScope

/-- The rules of a classifier do not fail in two documents, and describe alike sites alike. -/
structure Classifier.Respects (classifier : Classifier) (same : Node → Node → Prop)
    (alike : String → String → Prop) (doc otherDoc : Document) : Prop where
  describeType : ∀ {site other}, Site.Alike same site other → DescribedAlike alike
    (classifier.describeType site doc) (classifier.describeType other otherDoc)
  describeFunction : ∀ {site other}, Site.Alike same site other → DescribedAlike alike
    (classifier.describeFunction site doc) (classifier.describeFunction other otherDoc)
  describeVariable : ∀ {site other}, Site.Alike same site other → DescribedAlike alike
    (classifier.describeVariable site doc) (classifier.describeVariable other otherDoc)
  describeClosure : ∀ {node other}, Node.Alike same node other → Agree (Description.Alike alike)
    (classifier.describeClosure node doc) (classifier.describeClosure other otherDoc)

/-- Two classifications of one kind, with the same signature and alike names. -/
structure Classification.Alike (alike : String → String → Prop) (c other : Classification) :
    Prop where
  kind : c.kind = other.kind
  signature : c.signature = other.signature
  name : alike c.name other.name

variable {same : Node → Node → Prop} {alike : String → String → Prop} {doc otherDoc : Document}
  {site other : Site} {node otherNode : Node} {classifier : Classifier}

/-- Classifications with alike names are equal when alike texts are. -/
theorem Classification.Alike.eq {c other : Classification} (h : Classification.Alike Eq c other) :
    c = other := by
  obtain ⟨hkind, hsignature, hname⟩ := h
  cases c
  cases other
  rw [Classification.mk.injEq]
  exact ⟨hkind, hsignature, hname⟩

/-! ## Calls and case labels -/

theorem Node.Alike.withoutParentheses (h : node.Alike same otherNode) :
    node.withoutParentheses.Alike same otherNode.withoutParentheses := by
  induction node using Node.inductionOnChildren generalizing otherNode with
  | step node ih =>
      have hlength := h.namedChildren.length_eq
      by_cases hlooksThrough :
          node.type = "parenthesized_expression" ∧ node.namedChildren.length = 1
      · obtain ⟨htype, hone⟩ := hlooksThrough
        obtain ⟨inner, hinner⟩ := List.length_eq_one_iff.1 hone
        obtain ⟨otherInner, hotherInner⟩ := List.length_eq_one_iff.1 (hlength ▸ hone)
        have halike := h.namedChildren
        rw [hinner, hotherInner, List.forall₂_cons] at halike
        rw [Node.withoutParentheses_of_singleton htype hinner,
          Node.withoutParentheses_of_singleton (h.type_eq ▸ htype) hotherInner]
        exact ih inner (Node.mem_children_of_mem_namedChildren (by simp [hinner])) halike.1
      · -- Both nodes stay as they are, because their types and numbers of children agree.
        have hkept : node.type ≠ "parenthesized_expression" ∨ node.namedChildren.length ≠ 1 :=
          Decidable.not_and_iff_or_not.1 hlooksThrough
        rw [Node.withoutParentheses_of_ne hkept, Node.withoutParentheses_of_ne]
        · exact h
        · rwa [← h.type_eq, ← hlength]

section Call

variable (h : Reading same alike doc otherDoc)

include h

theorem Classifier.Respects.calleeName (hrespects : classifier.Respects same alike doc otherDoc)
    (hnode : node.Alike same otherNode) :
    Agree alike (classifier.calleeName node doc) (classifier.calleeName otherNode otherDoc) := by
  unfold Classifier.calleeName
  rw [hnode.type_eq]
  split
  · refine (hrespects.describeClosure hnode).bind fun description otherDescription hd => ?_
    exact .ok hd.keyword
  · refine (h.text hnode.related).bind fun text otherText htext => ?_
    exact .ok (h.congruence.of_eq (congrArg shortened (h.congruence.collapse_eq htext)))

theorem Classifier.Respects.describeCall (hrespects : classifier.Respects same alike doc otherDoc)
    (hnode : node.Alike same otherNode) :
    Agree (Description.Alike alike) (classifier.describeCall node doc)
      (classifier.describeCall otherNode otherDoc) := by
  unfold Classifier.describeCall Node.callee?
  extract_lets describe
  have hdescribe {name otherName : String} (hname : alike name otherName) :
      Agree (Description.Alike alike) (describe name) (describe otherName) :=
    .ok ⟨h.congruence.refl _, h.congruence.refl _, hname, h.congruence.refl _, h.congruence.refl _,
      h.congruence.refl _⟩
  rcases hnode.child?_cases "function" with
    ⟨hnone, hother⟩ | ⟨callee, otherCallee, hsome, hother, hcallee⟩
  · rw [hnone, hother]
    exact hdescribe (h.congruence.refl "")
  · rw [hsome, hother]
    exact (hrespects.calleeName h hcallee.withoutParentheses).bind fun _ _ => hdescribe

theorem headerThroughColon_alike (hnode : node.Alike same otherNode) :
    Agree alike (node.headerThroughColon doc) (otherNode.headerThroughColon otherDoc) := by
  have hcolon : Option.Rel (Node.Alike same) (node.children.find? (·.type == ":"))
      (otherNode.children.find? (·.type == ":")) :=
    Node.Alike.find? hnode.children fun hchild => by rw [hchild.type_eq]
  unfold Node.headerThroughColon
  rcases hcolon.cases with ⟨hnone, hother⟩ | ⟨colon, otherColon, hsome, hother, halike⟩
  · rw [hnone, hother]
    exact h.text hnode.related
  · rw [hsome, hother]
    refine (h.textBefore hnode.related halike.related).bind fun text otherText htext => ?_
    exact .ok (h.congruence.append htext (h.congruence.refl ":"))

theorem describeCase_alike (hnode : node.Alike same otherNode) :
    Agree (Description.Alike alike) (describeCase node doc) (describeCase otherNode otherDoc) := by
  refine (headerThroughColon_alike h hnode).bind fun keyword otherKeyword hkeyword => ?_
  exact .ok ⟨h.congruence.refl _, hkeyword, h.congruence.refl _, h.congruence.refl _,
    h.congruence.refl _, h.congruence.refl _⟩

/-! ## Classification -/

theorem Classifier.Respects.describe (hrespects : classifier.Respects same alike doc otherDoc)
    (kind : Kind) (hsite : Site.Alike same site other) :
    DescribedAlike alike (classifier.describe kind site doc)
      (classifier.describe kind other otherDoc) := by
  cases kind with
  | typeDecl => exact hrespects.describeType hsite
  | functionDecl => exact hrespects.describeFunction hsite
  | variableDecl => exact hrespects.describeVariable hsite
  | closure => exact (hrespects.describeClosure hsite.node).map fun _ _ => .some
  | call => exact (hrespects.describeCall h hsite.node).map fun _ _ => .some
  | switchCase => exact (describeCase_alike h hsite.node).map fun _ _ => .some
  | importDecl | includeDecl | unrecognized => exact .ok .none

/-- A classifier that respects alike nodes classifies alike sites alike. -/
theorem Classifier.Respects.classify (hrespects : classifier.Respects same alike doc otherDoc)
    (hsite : Site.Alike same site other) :
    Agree (Option.Rel (Classification.Alike alike)) (classifier.classify site doc)
      (classifier.classify other otherDoc) := by
  unfold Classifier.classify
  rw [hsite.node.type_eq]
  refine (hrespects.describe h _ hsite).bind fun description otherDescription hdescription => ?_
  rcases hdescription.cases with ⟨rfl, rfl⟩ | ⟨d, otherD, rfl, rfl, hd⟩
  · exact .ok .none
  · exact .ok (.some ⟨rfl, hd.render_eq h.congruence, hd.shortName⟩)

/-- The classifiers of all languages respect alike nodes. -/
theorem Language.respects (language : Language) :
    language.classifier.Respects same alike doc otherDoc := by
  cases language with
  | c =>
      exact ⟨CNodes.describeType_alike h, CNodes.describeFunction_alike h,
        CNodes.describeVariable_alike h, fun _ => .ok ⟨h.congruence.refl _, h.congruence.refl _,
          h.congruence.refl _, h.congruence.refl _, h.congruence.refl _, h.congruence.refl _⟩⟩
  | go =>
      exact ⟨GoNodes.describeType_alike h, GoNodes.describeFunction_alike h,
        GoNodes.describeVariable_alike h, GoNodes.describeClosure_alike h⟩
  | python =>
      exact ⟨PythonNodes.describeType_alike h, PythonNodes.describeFunction_alike h,
        PythonNodes.describeVariable_alike h, PythonNodes.describeClosure_alike h⟩

end Call

end CursorScope
