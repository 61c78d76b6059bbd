import CursorScope.Describe.CNodes
import CursorScope.Proofs.Alike

/-!
# Alike nodes of C

The rules of C describe alike sites alike. They look at no node above a site. Alike declarators
look through alike wrappers down to alike names (`Declarator.ofNode_alike`).
-/

namespace CursorScope.CNodes

variable {same : Node → Node → Prop} {alike : String → String → Prop} {doc otherDoc : Document}
  {site other : Site} {node otherNode : Node}

/-! ## Declarators -/

theorem innerDeclarator?_alike (h : node.Alike same otherNode) :
    Option.Rel (Node.Alike same) (innerDeclarator? node) (innerDeclarator? otherNode) := by
  unfold innerDeclarator?
  rcases h.child?_cases "declarator" with
    ⟨hnone, hother⟩ | ⟨inner, otherInner, hsome, hother, halike⟩
  · rw [hnone, hother]
    exact Node.Alike.find? h.namedChildren fun hchild => by rw [hchild.type_eq]
  · rw [hsome, hother]
    exact .some halike

/-- Two declarators of alike names with as many pointers and alike parameters. -/
structure Declarator.Alike (same : Node → Node → Prop) (d other : Declarator) : Prop where
  identifier : d.identifier.Alike same other.identifier
  pointers : d.pointers = other.pointers
  parameters : Option.Rel (Node.Alike same) d.parameters other.parameters

namespace Declarator

/-- A declarator that is no wrapper declares itself, and a wrapper what the declarator in it
does. -/
theorem inside_eq (pointers : Nat) (parameters : Option Node) (node : Node) :
    inside pointers parameters node =
      let pointers := if node.type = "pointer_declarator" then pointers + 1 else pointers
      let opensParameters := node.type = "function_declarator" ∧ parameters.isNone
      if opensParameters ∨ wrapperTypes.contains node.type then
        let parameters := if opensParameters then node.child? "parameters" else parameters
        match innerDeclarator? node with
        | none => ⟨node, pointers, parameters⟩
        | some inner => inside pointers parameters inner
      else ⟨node, pointers, parameters⟩ := by
  rw [inside]
  congr 1
  cases innerDeclarator? node <;> rfl

theorem inside_alike (h : node.Alike same otherNode) (pointers : Nat)
    {parameters otherParameters : Option Node}
    (hparameters : Option.Rel (Node.Alike same) parameters otherParameters) :
    Declarator.Alike same (inside pointers parameters node)
      (inside pointers otherParameters otherNode) := by
  induction node using Node.inductionOnChildren
    generalizing otherNode pointers parameters otherParameters with
  | step node ih =>
      have hisNone : parameters.isNone = otherParameters.isNone := by
        cases hparameters <;> rfl
      -- Alike nodes take the same branches: these depend on types and on what was found before.
      rw [inside_eq, inside_eq, h.type_eq, hisNone]
      extract_lets count opens opened otherOpened
      have hopened : Option.Rel (Node.Alike same) opened otherOpened := by
        show Option.Rel (Node.Alike same)
          (if opens then node.child? "parameters" else parameters)
          (if opens then otherNode.child? "parameters" else otherParameters)
        split
        · exact h.child? "parameters"
        · exact hparameters
      split
      · rcases (innerDeclarator?_alike h).cases with
          ⟨hnone, hother⟩ | ⟨inner, otherInner, hsome, hother, halike⟩
        · rw [hnone, hother]
          exact ⟨h, rfl, hopened⟩
        · rw [hsome, hother]
          exact ih inner (mem_children_of_innerDeclarator? hsome) halike count hopened
      · exact ⟨h, rfl, hparameters⟩

theorem ofNode_alike (h : node.Alike same otherNode) :
    Declarator.Alike same (ofNode node) (ofNode otherNode) := inside_alike h 0 .none

theorem Alike.stars_eq {d other : Declarator} (h : Declarator.Alike same d other) :
    d.stars = other.stars := by
  rw [stars, stars, h.pointers]

theorem Alike.parameterText {d other : Declarator} (hd : Declarator.Alike same d other)
    (h : Reading same alike doc otherDoc) :
    Agree alike (d.parameterText doc) (other.parameterText otherDoc) := by
  unfold Declarator.parameterText
  rcases hd.parameters.cases with ⟨hnone, hother⟩ | ⟨_, _, hsome, hother, halike⟩
  · rw [hnone, hother]
    exact .ok (h.congruence.refl "")
  · rw [hsome, hother]
    exact h.text halike.related

end Declarator

theorem declarators_alike (h : node.Alike same otherNode) :
    List.Forall₂ (Declarator.Alike same) (declarators node) (declarators otherNode) :=
  List.rel_map (fun _ _ halike => Declarator.ofNode_alike halike) (h.childrenAt "declarator")

/-! ## Descriptions -/

variable (h : Reading same alike doc otherDoc)

include h

theorem modifiers_alike (hnode : node.Alike same otherNode) :
    Agree alike (modifiers node doc) (modifiers otherNode otherDoc) := by
  refine (h.textsOf (hnode.filter_type modifierTypes.contains)).bind fun texts others htexts => ?_
  exact .ok (h.congruence.intercalate " " htexts)

theorem declaredNames_alike {ds others : List Declarator}
    (hds : List.Forall₂ (Declarator.Alike same) ds others) :
    Agree alike (declaredNames ds doc) (declaredNames others otherDoc) := by
  have hidentifiers := List.rel_map (fun _ _ hd => Declarator.Alike.identifier hd) hds
  refine (h.textsOf hidentifiers).bind fun texts otherTexts htexts => ?_
  exact .ok (h.congruence.intercalate ", " htexts)

theorem describeTypedef_alike (hnode : node.Alike same otherNode) :
    Agree (Description.Alike alike) (describeTypedef node doc)
      (describeTypedef otherNode otherDoc) := by
  refine (declaredNames_alike h (declarators_alike hnode)).bind fun name otherName hname => ?_
  extract_lets describe otherDescribe
  have hdescribe {keyword otherKeyword : String} (hkeyword : alike keyword otherKeyword) :
      Agree (Description.Alike alike) (describe keyword) (otherDescribe otherKeyword) :=
    .ok ⟨h.congruence.refl _, hkeyword, hname, h.congruence.refl _, h.congruence.refl _, hname⟩
  rcases hnode.child?_cases "type" with
    ⟨hnone, hother⟩ | ⟨underlying, otherUnderlying, hsome, hother, halike⟩
  · rw [hnone, hother]
    exact hdescribe (h.congruence.refl "typedef")
  · have hbody : (underlying.child? "body").isSome = (otherUnderlying.child? "body").isSome := by
      rw [← Option.not_isNone, ← Option.not_isNone, halike.isNone_child?_eq]
    rw [hsome, hother]
    simp only [hbody, halike.type_eq]
    split
    · exact hdescribe (h.congruence.refl _)
    · refine (h.text halike.related).bind fun text otherText htext => ?_
      exact hdescribe (h.congruence.append (h.congruence.refl "typedef ") htext)

theorem describeType_alike (hsite : Site.Alike same site other) :
    DescribedAlike alike (describeType site doc) (describeType other otherDoc) := by
  unfold describeType
  extract_lets node keyword otherNode otherKeyword
  have hnode : node.Alike same otherNode := hsite.node
  have hkeyword : alike keyword otherKeyword :=
    h.congruence.of_eq (congrArg specifierWord hnode.type_eq)
  rw [hnode.type_eq, hnode.isNone_child?_eq]
  split
  · exact (describeTypedef_alike h hnode).map fun _ _ => .some
  · split
    · exact .ok .none
    · refine (h.fieldText hnode "name").bind fun name otherName hname => ?_
      have hshort := h.congruence.ite_isEmpty hname hkeyword hname
      exact .ok (.some ⟨h.congruence.refl _, hkeyword, hname, h.congruence.refl _,
        h.congruence.refl _, hshort⟩)

theorem describeFunction_alike (hsite : Site.Alike same site other) :
    DescribedAlike alike (describeFunction site doc) (describeFunction other otherDoc) := by
  unfold describeFunction
  extract_lets node otherNode
  have hnode : node.Alike same otherNode := hsite.node
  rcases hnode.child?_cases "declarator" with
    ⟨hnone, hother⟩ | ⟨child, otherChild, hsome, hother, halike⟩
  · rw [hnone, hother]
    exact .ok .none
  · rw [hsome, hother]
    have hd := Declarator.ofNode_alike halike
    refine (h.text hd.identifier.related).bind fun name otherName hname => ?_
    refine (modifiers_alike h hnode).bind fun words otherWords hwords => ?_
    refine (h.fieldText hnode "type").bind fun type otherType htype => ?_
    have hkeyword := h.congruence.append htype (h.congruence.of_eq hd.stars_eq)
    refine (hd.parameterText h).bind fun detail otherDetail hdetail => ?_
    exact .ok (.some ⟨hwords, hkeyword, hname, hdetail, h.congruence.refl _, hname⟩)

theorem describeVariable_alike (hsite : Site.Alike same site other) :
    DescribedAlike alike (describeVariable site doc) (describeVariable other otherDoc) := by
  unfold describeVariable
  extract_lets node otherNode
  have hnode : node.Alike same otherNode := hsite.node
  have hds := declarators_alike hnode
  generalize declarators node = ds, declarators otherNode = others at hds
  cases hds with
  | nil => exact .ok .none
  | @cons d otherDeclarator rest otherRest hd hrest =>
      refine (declaredNames_alike h (.cons hd hrest)).bind fun name otherName hname => ?_
      extract_lets stars describe otherStars otherDescribe
      have hstars : stars = otherStars := by
        cases hrest with
        | nil => exact hd.stars_eq
        | cons => rfl
      have hdescribe {detail otherDetail : String} (hdetail : alike detail otherDetail) :
          DescribedAlike alike (describe detail) (otherDescribe otherDetail) := by
        refine (modifiers_alike h hnode).bind fun words otherWords hwords => ?_
        refine (h.fieldText hnode "type").bind fun type otherType htype => ?_
        have hkeyword := h.congruence.append htype (h.congruence.of_eq hstars)
        exact .ok (.some ⟨hwords, hkeyword, hname, hdetail, h.congruence.refl _, hname⟩)
      -- Only a single declarator shows its parameters.
      cases hrest with
      | nil => exact (hd.parameterText h).bind fun _ _ => hdescribe
      | cons => exact hdescribe (h.congruence.refl "")

end CursorScope.CNodes
