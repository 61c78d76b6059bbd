import CursorScope.Describe.GoNodes
import CursorScope.Proofs.Alike
import CursorScope.Proofs.Describe.Kinds

/-!
# Alike nodes of Go

The rules of Go describe alike sites alike. Whether a spec is one of a group is decided by the
nearest declaration above it, so plain nodes above a site do not matter. The types by which specs
and keywords are looked up are always found in their tables (`keysFound`).
-/

namespace CursorScope.GoNodes

variable {same : Node → Node → Prop} {alike : String → String → Prop} {doc otherDoc : Document}
  {site other : Site} {node otherNode : Node}

/-! ## Specs and their declarations -/

theorem specs_alike (h : node.Alike same otherNode) :
    List.Forall₂ (Node.Alike same) (specs node) (specs otherNode) := by
  have haccepted {child otherChild : Node} (halike : child.Alike same otherChild) :
      (specTypes node.type).contains child.type =
        (specTypes otherNode.type).contains otherChild.type := by
    rw [h.type_eq, halike.type_eq]
  refine List.rel_flatMap h.namedChildren fun child otherChild halike => ?_
  show List.Forall₂ (Node.Alike same)
    (if (specTypes node.type).contains child.type then [child]
      else if isSpecList child.type then
        child.namedChildren.filter fun spec => (specTypes node.type).contains spec.type
      else [])
    (if (specTypes otherNode.type).contains otherChild.type then [otherChild]
      else if isSpecList otherChild.type then
        otherChild.namedChildren.filter fun spec => (specTypes otherNode.type).contains spec.type
      else [])
  rw [haccepted halike, halike.type_eq]
  split
  · exact .cons halike .nil
  · split
    · rw [h.type_eq]
      exact Node.Alike.filter halike.namedChildren fun hspec => by rw [hspec.type_eq]
    · exact .nil

/-- Below alike nodes the nearest declarations are alike, and below plain nodes there are none. -/
theorem owner?_alike (h : Site.Alike same site other) :
    Option.Rel (Node.Alike same) (owner? site) (owner? other) := by
  have hnone {nodes : List Node} (hnodes : ∀ node ∈ nodes, node.IsPlain) :
      nodes.find? (isDeclaration ·.type) = none :=
    List.find?_eq_none.2 fun node hnode => by simp [(hnodes node hnode).2]
  have habove := h.above
  unfold owner?
  generalize site.above = above, other.above = otherAbove at habove ⊢
  -- The search goes up through alike nodes, and stops at the latest where only plain ones follow.
  induction habove with
  | plain hnodes hothers =>
      rw [hnone hnodes, hnone hothers]
      exact .none
  | @cons node otherNode _ _ halike _ ih =>
      rw [List.find?_cons, List.find?_cons, halike.type_eq]
      cases isDeclaration otherNode.type with
      | true => exact .some halike
      | false => exact ih

theorem isGrouped_eq (h : Site.Alike same site other) : isGrouped site = isGrouped other := by
  unfold isGrouped
  rcases (owner?_alike h).cases with ⟨hnone, hother⟩ | ⟨node, otherNode, hsome, hother, halike⟩
  · rw [hnone, hother]
  · rw [hsome, hother]
    simp only [(specs_alike halike).length_eq]

/-- Alike sites are described by alike specs. -/
theorem describedSpec?_alike (h : Site.Alike same site other) :
    Option.Rel (Node.Alike same) (describedSpec? site) (describedSpec? other) := by
  unfold describedSpec?
  rw [h.node.type_eq, isGrouped_eq h]
  split
  · -- A declaration is described by its only spec, and alike declarations have as many specs.
    have hspecs := specs_alike h.node
    generalize specs site.node = nodes, specs other.node = others at hspecs
    cases hspecs with
    | nil => exact .none
    | cons halike hrest =>
        cases hrest with
        | nil => exact .some halike
        | cons => exact .none
  · split
    · exact .some h.node
    · exact .none

theorem embeddedTypes_alike (h : node.Alike same otherNode) :
    List.Forall₂ (Node.Alike same) (embeddedTypes node) (embeddedTypes otherNode) := by
  have hlists : List.Forall₂ (Node.Alike same)
      (node.namedChildren.filter (·.type == "field_declaration_list"))
      (otherNode.namedChildren.filter (·.type == "field_declaration_list")) :=
    Node.Alike.filter h.namedChildren fun hlist => by rw [hlist.type_eq]
  refine List.rel_flatMap hlists fun list otherList hlist => ?_
  refine List.rel_filterMap (fun field otherField hfield => ?_) hlist.namedChildren
  show Option.Rel (Node.Alike same)
    (if field.type = "field_declaration" ∧ (field.child? "name").isNone then field.child? "type"
      else none)
    (if otherField.type = "field_declaration" ∧ (otherField.child? "name").isNone then
      otherField.child? "type" else none)
  rw [hfield.type_eq, hfield.isNone_child?_eq]
  split
  · exact hfield.child? "type"
  · exact .none

/-! ## Keys -/

/-- The node types that have a keyword of their own in a description of variables or constants. -/
def keywordTypes : List String := ["var_spec", "const_spec"]

/-- The node types by which the description of a site looks up specs and a keyword are known: the
owner of a spec is a declaration, and so is a node that is described by one of its specs. -/
structure KeysFound (site : Site) : Prop where
  owner : ∀ declaration, owner? site = some declaration → isDeclaration declaration.type = true
  keyword : Classifier.kindIn kinds site.node.type = .variableDecl →
    site.node.type ≠ "short_var_declaration" →
    ∀ spec, describedSpec? site = some spec → spec.type ∈ keywordTypes

/-- The specs of a declaration are of the types that it accepts. -/
theorem type_mem_of_mem_specs {declaration spec : Node} (h : spec ∈ specs declaration) :
    spec.type ∈ specTypes declaration.type := by
  obtain ⟨child, -, hspec⟩ := List.mem_flatMap.1 h
  split at hspec
  · rename_i haccepted
    rw [List.mem_singleton.1 hspec]
    exact List.contains_iff_mem.1 haccepted
  · split at hspec
    · exact List.contains_iff_mem.1 (List.mem_filter.1 hspec).2
    · cases hspec

/-- A node of variables or constants is a declaration or has a keyword. -/
theorem type_of_variableDecl {type : String} (h : Classifier.kindIn kinds type = .variableDecl)
    (hshort : type ≠ "short_var_declaration") :
    type = "var_declaration" ∨ type = "const_declaration" ∨ type ∈ keywordTypes := by
  have hmem := Classifier.mem_of_kindIn h (by decide)
  simp only [kinds, List.mem_cons, Prod.mk.injEq, reduceCtorEq, and_false, and_true, false_or,
    or_false, List.not_mem_nil] at hmem
  rcases hmem with rfl | rfl | rfl | rfl | rfl
  · exact .inl rfl
  · exact .inr (.inr (by decide))
  · exact .inr (.inl rfl)
  · exact .inr (.inr (by decide))
  · exact absurd rfl hshort

/-- The specs that declarations of variables and constants accept have keywords. -/
theorem specTypes_subset_keywordTypes {type : String}
    (h : Classifier.kindIn kinds type = .variableDecl) (hshort : type ≠ "short_var_declaration")
    (hdeclaration : isDeclaration type = true) :
    specTypes type ⊆ keywordTypes := by
  rcases type_of_variableDecl h hshort with rfl | rfl | htype
  · decide
  · decide
  · simp only [keywordTypes, List.mem_cons, List.not_mem_nil, or_false] at htype
    rcases htype with rfl | rfl
    · exact absurd hdeclaration (by decide)
    · exact absurd hdeclaration (by decide)

theorem isDeclaration_of_owner? {site : Site} {declaration : Node}
    (h : owner? site = some declaration) : isDeclaration declaration.type = true :=
  List.find?_some (p := fun node : Node => isDeclaration node.type) h

theorem keysFound (site : Site) : KeysFound site := by
  refine ⟨fun declaration => isDeclaration_of_owner?, fun hkind hshort spec hspec => ?_⟩
  unfold describedSpec? at hspec
  split at hspec
  · rename_i hdeclaration
    split at hspec
    · rename_i only hspecs
      cases hspec
      refine specTypes_subset_keywordTypes hkind hshort hdeclaration (type_mem_of_mem_specs ?_)
      rw [hspecs]
      exact List.mem_singleton_self spec
    · cases hspec
  · rename_i hdeclaration
    split at hspec
    · cases hspec
      rcases type_of_variableDecl hkind hshort with htype | htype | htype
      · exact absurd (by rw [htype]; rfl) hdeclaration
      · exact absurd (by rw [htype]; rfl) hdeclaration
      · exact htype
    · cases hspec

/-! ## Descriptions -/

variable (h : Reading same alike doc otherDoc)

include h

theorem resultDetail_alike (hnode : node.Alike same otherNode) :
    Agree alike (resultDetail node doc) (resultDetail otherNode otherDoc) := by
  refine (h.fieldText hnode "type_parameters").bind fun _ _ htypeParameters => ?_
  refine (h.fieldText hnode "parameters").bind fun _ _ hparameters => ?_
  refine (h.fieldText hnode "result").bind fun _ _ hresult => ?_
  refine .ok (h.congruence.append (h.congruence.append htypeParameters hparameters) ?_)
  exact h.congruence.ite_isEmpty hresult (h.congruence.refl "")
    (h.congruence.append (h.congruence.refl " ") hresult)

theorem typeLabel_alike (hnode : node.Alike same otherNode) :
    Agree alike (typeLabel node doc) (typeLabel otherNode otherDoc) := by
  unfold typeLabel
  rw [hnode.type_eq]
  split
  · exact .ok (h.congruence.refl "struct")
  · exact .ok (h.congruence.refl "interface")
  · exact h.text hnode.related

theorem describeTypeSpec_alike (hspec : node.Alike same otherNode) :
    Agree (Description.Alike alike) (describeTypeSpec node doc)
      (describeTypeSpec otherNode otherDoc) := by
  refine (h.fieldText hspec "name").bind fun name otherName hname => ?_
  refine (h.fieldText hspec "type_parameters").bind fun parameters _ hparameters => ?_
  rw [hspec.type_eq]
  split
  · refine (h.fieldText hspec "type").bind fun type otherType htype => ?_
    have hdetail :=
      h.congruence.append (h.congruence.append hparameters (h.congruence.refl " = ")) htype
    exact .ok ⟨h.congruence.refl _, h.congruence.refl _, hname, hdetail, h.congruence.refl _, hname⟩
  · rcases hspec.child?_cases "type" with
      ⟨hnone, hother⟩ | ⟨type, otherType, hsome, hother, htype⟩
    · rw [hnone, hother]
      exact .ok ⟨h.congruence.refl _, h.congruence.refl _, hname, hparameters, h.congruence.refl _,
        hname⟩
    · rw [hsome, hother]
      refine (typeLabel_alike h htype).bind fun label otherLabel hlabel => ?_
      extract_lets detail describe otherDetail otherDescribe
      have hdetail : alike detail otherDetail :=
        h.congruence.append (h.congruence.append hparameters (h.congruence.refl " ")) hlabel
      have hdescribe {supertypes otherSupertypes : String}
          (hsupertypes : alike supertypes otherSupertypes) :
          Agree (Description.Alike alike) (describe supertypes) (otherDescribe otherSupertypes) :=
        .ok ⟨h.congruence.refl _, h.congruence.refl _, hname, hdetail, hsupertypes, hname⟩
      rw [htype.type_eq]
      split
      · exact (h.supertypeList (embeddedTypes_alike htype)).bind fun _ _ => hdescribe
      · exact hdescribe (h.congruence.refl "")

theorem describeType_alike (hsite : Site.Alike same site other) :
    DescribedAlike alike (describeType site doc) (describeType other otherDoc) := by
  unfold describeType
  rcases (describedSpec?_alike hsite).cases with
    ⟨hnone, hother⟩ | ⟨spec, otherSpec, hsome, hother, hspec⟩
  · rw [hnone, hother]
    exact .ok .none
  · rw [hsome, hother]
    exact (describeTypeSpec_alike h hspec).map fun _ _ => .some

theorem describeFunction_alike (hsite : Site.Alike same site other) :
    DescribedAlike alike (describeFunction site doc) (describeFunction other otherDoc) := by
  refine (h.fieldText hsite.node "name").bind fun name otherName hname => ?_
  refine (h.fieldText hsite.node "receiver").bind fun receiver otherReceiver hreceiver => ?_
  have hkeyword : alike (if receiver.isEmpty then "func" else "func " ++ receiver)
      (if otherReceiver.isEmpty then "func" else "func " ++ otherReceiver) :=
    h.congruence.ite_isEmpty hreceiver (h.congruence.refl "func")
      (h.congruence.append (h.congruence.refl "func ") hreceiver)
  refine (resultDetail_alike h hsite.node).bind fun detail otherDetail hdetail => ?_
  exact .ok (.some ⟨h.congruence.refl _, hkeyword, hname, hdetail, h.congruence.refl _, hname⟩)

theorem describeValueSpec_alike (hspec : node.Alike same otherNode) :
    Agree (Description.Alike alike) (describeValueSpec node doc)
      (describeValueSpec otherNode otherDoc) := by
  refine (h.textsOf (hspec.childrenAt "name")).bind fun names otherNames hnames => ?_
  have hname := h.congruence.intercalate ", " hnames
  refine (h.fieldText hspec "type").bind fun type otherType htype => ?_
  have hdetail : alike (if type.isEmpty then "" else " " ++ type)
      (if otherType.isEmpty then "" else " " ++ otherType) :=
    h.congruence.ite_isEmpty htype (h.congruence.refl "")
      (h.congruence.append (h.congruence.refl " ") htype)
  have hkeyword := h.congruence.of_eq (congrArg specKeyword hspec.type_eq)
  exact .ok ⟨h.congruence.refl _, hkeyword, hname, hdetail, h.congruence.refl _, hname⟩

theorem describeVariable_alike (hsite : Site.Alike same site other) :
    DescribedAlike alike (describeVariable site doc) (describeVariable other otherDoc) := by
  unfold describeVariable
  rw [hsite.node.type_eq]
  split
  · refine (h.fieldText hsite.node "left").bind fun left otherLeft hleft => ?_
    have hname := h.congruence.of_eq (h.congruence.collapse_eq hleft)
    exact .ok (.some ⟨h.congruence.refl _, h.congruence.refl _, hname, h.congruence.refl _,
      h.congruence.refl _, hname⟩)
  · rcases (describedSpec?_alike hsite).cases with
      ⟨hnone, hother⟩ | ⟨spec, otherSpec, hsome, hother, hspec⟩
    · rw [hnone, hother]
      exact .ok .none
    · rw [hsome, hother]
      exact (describeValueSpec_alike h hspec).map fun _ _ => .some

theorem describeClosure_alike (hnode : node.Alike same otherNode) :
    Agree (Description.Alike alike) (describeClosure node doc)
      (describeClosure otherNode otherDoc) := by
  refine (resultDetail_alike h hnode).bind fun detail otherDetail hdetail => ?_
  exact .ok ⟨h.congruence.refl _, h.congruence.refl _, h.congruence.refl _, hdetail,
    h.congruence.refl _, h.congruence.refl _⟩

end CursorScope.GoNodes
