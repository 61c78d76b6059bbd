import CursorScope.Describe.GoNodes
import CursorScope.Proofs.Agree
import CursorScope.Proofs.Shape

/-!
# Trees that look alike to a classifier

`Node.Alike same` relates trees of one shape whose nodes have the same types, flags and fields and
are related by `same` one by one. `Site.Alike same` adds the nodes above, as far as classifiers
look at them. All that a classifier looks up in alike trees is alike again. A `Reading` makes
`same` a relation of nodes whose texts in two documents are alike.
-/

namespace CursorScope

/-! ## Alike nodes -/

/-- Two trees of one shape, with the same types, flags and fields, whose nodes are related by
`same`. -/
inductive Node.Alike (same : Node → Node → Prop) : Node → Node → Prop where
  | intro {node other : Node} (htype : node.type = other.type) (hnamed : node.named = other.named)
      (hfield : node.field = other.field) (hsame : same node other)
      (hchildren : List.Forall₂ (Alike same) node.children other.children) :
      Alike same node other

namespace Node.Alike

variable {same : Node → Node → Prop} {node other : Node}

theorem type_eq (h : Alike same node other) : node.type = other.type := by
  cases h with
  | intro htype => exact htype

theorem named_eq (h : Alike same node other) : node.named = other.named := by
  cases h with
  | intro _ hnamed => exact hnamed

theorem field_eq (h : Alike same node other) : node.field = other.field := by
  cases h with
  | intro _ _ hfield => exact hfield

theorem related (h : Alike same node other) : same node other := by
  cases h with
  | intro _ _ _ hsame => exact hsame

theorem children (h : Alike same node other) :
    List.Forall₂ (Alike same) node.children other.children := by
  cases h with
  | intro _ _ _ _ hchildren => exact hchildren

/-- A tree whose nodes are all related to themselves is like itself. -/
theorem refl_of_all {p : Node → Prop} (hp : ∀ node, p node → same node node) (h : node.All p) :
    Alike same node node := by
  induction h with
  | intro here _ ih =>
      exact .intro rfl rfl rfl (hp _ here) (List.forall₂_same.2 ih)

/-- A choice of nodes by type, flag or field chooses alike nodes from alike ones. -/
theorem filter {nodes others : List Node} (h : List.Forall₂ (Alike same) nodes others)
    {p : Node → Bool} (hp : ∀ {node other}, Alike same node other → p node = p other) :
    List.Forall₂ (Alike same) (nodes.filter p) (others.filter p) := by
  refine List.rel_filter (fun node other halike => ?_) h
  show p node ↔ p other
  rw [hp halike]

theorem find? {nodes others : List Node} (h : List.Forall₂ (Alike same) nodes others)
    {p : Node → Bool} (hp : ∀ {node other}, Alike same node other → p node = p other) :
    Option.Rel (Alike same) (nodes.find? p) (others.find? p) := by
  induction h with
  | nil => exact .none
  | @cons node other _ _ halike _ ih =>
      rw [List.find?_cons, List.find?_cons, hp halike]
      cases p other with
      | true => exact .some halike
      | false => exact ih

theorem any_eq {nodes others : List Node} (h : List.Forall₂ (Alike same) nodes others)
    {p : Node → Bool} (hp : ∀ {node other}, Alike same node other → p node = p other) :
    nodes.any p = others.any p := by
  induction h with
  | nil => rfl
  | cons halike _ ih => rw [List.any_cons, List.any_cons, hp halike, ih]

theorem filter_type (h : Alike same node other) (p : String → Bool) :
    List.Forall₂ (Alike same) (node.children.filter fun child => p child.type)
      (other.children.filter fun child => p child.type) :=
  filter h.children fun halike => by rw [halike.type_eq]

theorem namedChildren (h : Alike same node other) :
    List.Forall₂ (Alike same) node.namedChildren other.namedChildren :=
  filter h.children named_eq

theorem child? (h : Alike same node other) (field : String) :
    Option.Rel (Alike same) (node.child? field) (other.child? field) :=
  find? h.children fun halike => by rw [halike.field_eq]

theorem childrenAt (h : Alike same node other) (field : String) :
    List.Forall₂ (Alike same) (node.childrenAt field) (other.childrenAt field) :=
  filter h.children fun halike => by rw [halike.field_eq]

/-- Alike nodes both hold no node under a field, or both hold nodes there that are alike. -/
theorem child?_cases (h : Alike same node other) (field : String) :
    (node.child? field = none ∧ other.child? field = none) ∨
      ∃ child otherChild, node.child? field = some child ∧
        other.child? field = some otherChild ∧ child.Alike same otherChild :=
  (h.child? field).cases

/-- Alike nodes hold nodes under the same fields. -/
theorem isNone_child?_eq (h : Alike same node other) (field : String) :
    (node.child? field).isNone = (other.child? field).isNone := by
  rcases h.child?_cases field with ⟨hnone, hother⟩ | ⟨_, _, hsome, hother, _⟩
  · rw [hnone, hother]
  · rw [hsome, hother]
    rfl

end Node.Alike

/-! ## Alike sites -/

/-- A node of a type that no description looks for above the node that it describes. -/
def Node.IsPlain (node : Node) : Prop :=
  node.type ≠ "decorated_definition" ∧ GoNodes.isDeclaration node.type = false

/-- Nodes above two sites, the nearest first: alike nodes, and above them only plain ones. -/
inductive AboveAlike (same : Node → Node → Prop) : List Node → List Node → Prop where
  | plain {nodes others : List Node} (hnodes : ∀ node ∈ nodes, node.IsPlain)
      (hothers : ∀ other ∈ others, other.IsPlain) : AboveAlike same nodes others
  | cons {node other : Node} {nodes others : List Node} (halike : node.Alike same other)
      (rest : AboveAlike same nodes others) : AboveAlike same (node :: nodes) (other :: others)

/-- Two sites with alike nodes, below nodes that are alike as far as descriptions look at them. -/
structure Site.Alike (same : Node → Node → Prop) (site other : Site) : Prop where
  node : site.node.Alike same other.node
  above : AboveAlike same site.above other.above

namespace Site.Alike

variable {same : Node → Node → Prop} {site other : Site}

theorem below (h : Site.Alike same site other) {child otherChild : Node}
    (hchild : child.Alike same otherChild) :
    Site.Alike same (site.below child) (other.below otherChild) :=
  ⟨hchild, .cons h.node h.above⟩

end Site.Alike

/-! ## Alike texts -/

/-- Nodes that are related by `same` have alike texts in two documents. -/
structure Reading (same : Node → Node → Prop) (alike : String → String → Prop)
    (doc otherDoc : Document) : Prop where
  congruence : Text.Congruence alike
  text : ∀ {node other}, same node other → Agree alike (node.text doc) (other.text otherDoc)
  textBefore : ∀ {node other next otherNext}, same node other → same next otherNext →
    Agree alike (node.textBefore next doc) (other.textBefore otherNext otherDoc)

namespace Reading

variable {same : Node → Node → Prop} {alike : String → String → Prop} {doc otherDoc : Document}

theorem fieldText (h : Reading same alike doc otherDoc) {node other : Node}
    (hnode : node.Alike same other) (field : String) :
    Agree alike (node.fieldText field doc) (other.fieldText field otherDoc) := by
  rw [Node.fieldText, Node.fieldText]
  rcases hnode.child?_cases field with ⟨hnone, hother⟩ | ⟨child, otherChild, hsome, hother, halike⟩
  · rw [hnone, hother]
    exact .ok (h.congruence.refl "")
  · rw [hsome, hother]
    exact h.text halike.related

theorem textsOf (h : Reading same alike doc otherDoc) {nodes others : List Node}
    (hnodes : List.Forall₂ (Node.Alike same) nodes others) :
    Agree (List.Forall₂ alike) (textsOf nodes doc) (textsOf others otherDoc) :=
  .mapM hnodes fun _ _ halike => h.text halike.related

theorem supertypeList (h : Reading same alike doc otherDoc) {nodes others : List Node}
    (hnodes : List.Forall₂ (Node.Alike same) nodes others) :
    Agree alike (supertypeList nodes doc) (supertypeList others otherDoc) := by
  refine (h.textsOf hnodes).bind fun texts otherTexts htexts => ?_
  refine .ok (h.congruence.intercalate ", " ?_)
  refine List.rel_map (fun _ _ htext => ?_) htexts
  exact h.congruence.trimChar ',' (by decide) (h.congruence.trim htext)

end Reading

/-! ## Alike descriptions -/

/-- Two descriptions with alike texts. -/
structure Description.Alike (alike : String → String → Prop) (d other : Description) : Prop where
  modifiers : alike d.signature.modifiers other.signature.modifiers
  keyword : alike d.signature.keyword other.signature.keyword
  name : alike d.signature.name other.signature.name
  detail : alike d.signature.detail other.signature.detail
  supertypes : alike d.signature.supertypes other.signature.supertypes
  shortName : alike d.name other.name

/-- Two rules describe alike: both decline, or both give alike descriptions. -/
abbrev DescribedAlike (alike : String → String → Prop)
    (x y : Except RangeError (Option Description)) : Prop :=
  Agree (Option.Rel (Description.Alike alike)) x y

variable {alike : String → String → Prop}

/-- Alike descriptions have the same signature on one line. -/
theorem Description.Alike.render_eq {d other : Description} (h : Description.Alike alike d other)
    (hcongruence : Text.Congruence alike) : d.signature.render = other.signature.render := by
  have hparts : List.Forall₂ alike
      [d.signature.modifiers, d.signature.keyword, d.signature.name]
      [other.signature.modifiers, other.signature.keyword, other.signature.name] :=
    .cons h.modifiers (.cons h.keyword (.cons h.name .nil))
  have hhead : alike d.signature.head other.signature.head := by
    refine hcongruence.intercalate " " (List.rel_filter (fun part otherPart hpart => ?_) hparts)
    show (!part.isEmpty) = true ↔ (!otherPart.isEmpty) = true
    rw [hcongruence.isEmpty_eq hpart]
  have htext := hcongruence.append hhead h.detail
  refine hcongruence.collapse_eq ?_
  rw [Signature.raw, Signature.raw, hcongruence.isEmpty_eq h.supertypes]
  split
  · exact htext
  · exact hcongruence.append (hcongruence.append htext (hcongruence.refl ": ")) h.supertypes

end CursorScope
