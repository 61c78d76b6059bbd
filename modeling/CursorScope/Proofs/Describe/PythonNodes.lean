import CursorScope.Describe.PythonNodes
import CursorScope.Proofs.Alike

/-!
# Alike nodes of Python

The rules of Python describe alike sites alike. A rule looks no further up than at the node above
a site, and there only for decorators.
-/

namespace CursorScope.PythonNodes

variable {same : Node → Node → Prop} {alike : String → String → Prop} {doc otherDoc : Document}
  {site other : Site}

/-- A site below plain nodes only has no decorators. -/
theorem decorators_of_isPlain (h : ∀ node ∈ site.above, node.IsPlain) : decorators site = [] := by
  unfold decorators Site.parent?
  cases habove : site.above with
  | nil => rfl
  | cons parent rest =>
      have hparent : parent.IsPlain := h parent (by rw [habove]; exact List.mem_cons_self)
      exact if_neg hparent.1

theorem decorators_alike (h : Site.Alike same site other) :
    List.Forall₂ (Node.Alike same) (decorators site) (decorators other) := by
  obtain ⟨node, above⟩ := site
  obtain ⟨otherNode, otherAbove⟩ := other
  cases h.above with
  | plain hnodes hothers =>
      rw [decorators_of_isPlain hnodes, decorators_of_isPlain hothers]
      exact .nil
  | @cons parent otherParent _ _ halike _ =>
      show List.Forall₂ (Node.Alike same)
        (if parent.type = "decorated_definition" then
          parent.children.filter (·.type == "decorator") else [])
        (if otherParent.type = "decorated_definition" then
          otherParent.children.filter (·.type == "decorator") else [])
      rw [halike.type_eq]
      split
      · exact halike.filter_type (· == "decorator")
      · exact .nil

variable (h : Reading same alike doc otherDoc)

include h

theorem describeType_alike (hsite : Site.Alike same site other) :
    DescribedAlike alike (describeType site doc) (describeType other otherDoc) := by
  refine (h.fieldText hsite.node "name").bind fun name otherName hname => ?_
  -- What follows the supertypes is the same with and without superclasses.
  extract_lets describe otherDescribe
  have hdescribe {supertypes otherSupertypes : String}
      (hsupertypes : alike supertypes otherSupertypes) :
      DescribedAlike alike (describe supertypes) (otherDescribe otherSupertypes) := by
    refine (h.textsOf (decorators_alike hsite)).bind fun texts otherTexts htexts => ?_
    refine (h.fieldText hsite.node "type_parameters").bind fun detail otherDetail hdetail => ?_
    exact .ok (.some ⟨h.congruence.intercalate " " htexts, h.congruence.refl _, hname, hdetail,
      hsupertypes, hname⟩)
  rcases hsite.node.child?_cases "superclasses" with
    ⟨hnone, hother⟩ | ⟨arguments, otherArguments, hsome, hother, halike⟩
  · rw [hnone, hother]
    exact hdescribe (h.congruence.refl "")
  · rw [hsome, hother]
    refine (h.supertypeList (Node.Alike.filter halike.namedChildren fun h => ?_)).bind
      fun _ _ hsupertypes => hdescribe hsupertypes
    rw [h.type_eq]

theorem describeFunction_alike (hsite : Site.Alike same site other) :
    DescribedAlike alike (describeFunction site doc) (describeFunction other otherDoc) := by
  have hasync : site.node.children.any (·.type == "async") =
      other.node.children.any (·.type == "async") :=
    Node.Alike.any_eq hsite.node.children fun h => by rw [h.type_eq]
  refine (h.fieldText hsite.node "name").bind fun name otherName hname => ?_
  refine (h.textsOf (decorators_alike hsite)).bind fun decoration otherDecoration hdecoration => ?_
  refine (h.fieldText hsite.node "type_parameters").bind fun typeParameters _ htypeParameters => ?_
  refine (h.fieldText hsite.node "parameters").bind fun parameters _ hparameters => ?_
  refine (h.fieldText hsite.node "return_type").bind fun result otherResult hresult => ?_
  refine .ok (.some ⟨?_, h.congruence.refl _, hname, ?_, h.congruence.refl _, hname⟩)
  · refine h.congruence.intercalate " " (List.rel_append hdecoration ?_)
    rw [hasync]
    exact List.forall₂_same.2 fun word _ => h.congruence.refl word
  · refine h.congruence.append (h.congruence.append htypeParameters hparameters) ?_
    refine h.congruence.ite_isEmpty hresult (h.congruence.refl "") ?_
    exact h.congruence.append (h.congruence.refl " -> ") hresult

theorem describeVariable_alike (hsite : Site.Alike same site other) :
    DescribedAlike alike (describeVariable site doc) (describeVariable other otherDoc) := by
  refine (h.fieldText hsite.node "left").bind fun left otherLeft hleft => ?_
  have hname : alike (Text.collapse left) (Text.collapse otherLeft) :=
    h.congruence.of_eq (h.congruence.collapse_eq hleft)
  refine (h.fieldText hsite.node "type").bind fun annotation otherAnnotation hannotation => ?_
  have hdetail : alike (if annotation.isEmpty then "" else ": " ++ annotation)
      (if otherAnnotation.isEmpty then "" else ": " ++ otherAnnotation) :=
    h.congruence.ite_isEmpty hannotation (h.congruence.refl "")
      (h.congruence.append (h.congruence.refl ": ") hannotation)
  exact .ok (.some ⟨h.congruence.refl _, h.congruence.refl _, hname, hdetail, h.congruence.refl _,
    hname⟩)

theorem describeClosure_alike {node otherNode : Node} (hnode : node.Alike same otherNode) :
    Agree (Description.Alike alike) (describeClosure node doc)
      (describeClosure otherNode otherDoc) := by
  refine (h.fieldText hnode "parameters").bind fun parameters otherParameters hparameters => ?_
  exact .ok ⟨h.congruence.refl _, h.congruence.refl _, hparameters, h.congruence.refl _,
    h.congruence.refl _, h.congruence.refl _⟩

end CursorScope.PythonNodes
