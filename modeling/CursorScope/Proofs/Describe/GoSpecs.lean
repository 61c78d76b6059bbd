import CursorScope.Proofs.Safety

/-!
# Specs of Go are told once

A declaration of types, variables or constants and its specs (`specSites`) share the work of telling
of the specs: either the declaration is described, or the specs are. The declaration decides by the
number of specs below it, and a spec by the number of specs of the nearest declaration above it.
Both count for the same declaration, however deep it lies in closures of other ones
(`owner?_of_mem_specSites`), so the decisions fit together for every number of specs. What is told
of a spec is read from the spec alone (`classifySpec`), so it is the same in every group
(`specs_told_once`).
-/

namespace CursorScope

variable {doc otherDoc : Document} {node other : Node} {nodes others : List Node}

/-! ## Same texts -/

/-- Two nodes of one shape that cover the same texts in two documents, and so do the nodes below
them. -/
def Node.SameTexts (doc otherDoc : Document) (node other : Node) : Prop :=
  node.Alike (fun a b => a.text doc = b.text otherDoc) other

theorem Node.SameTexts.fieldText_eq (h : node.SameTexts doc otherDoc other) (field : String) :
    node.fieldText field doc = other.fieldText field otherDoc := by
  rw [fieldText, fieldText]
  rcases h.child?_cases field with ⟨hnone, hother⟩ | ⟨child, otherChild, hsome, hother, halike⟩
  · rw [hnone, hother]
  · rw [hsome, hother]
    exact halike.related

theorem textsOf_eq_of_sameTexts (h : List.Forall₂ (Node.SameTexts doc otherDoc) nodes others) :
    textsOf nodes doc = textsOf others otherDoc := by
  unfold textsOf
  induction h with
  | nil => rfl
  | cons hsame _ ih =>
      rw [List.mapM_cons, List.mapM_cons, ih, hsame.related]

namespace GoNodes

variable {site declaration spec : Site} {type specType : String}

/-! ## Types of specs -/

/-- A node of this type is described by a spec, if at all. -/
def ReadsSpec (type : String) : Prop :=
  Classifier.kindIn kinds type = .typeDecl ∨
    Classifier.kindIn kinds type = .variableDecl ∧ type ≠ "short_var_declaration"

instance (type : String) : Decidable (ReadsSpec type) := inferInstanceAs (Decidable (_ ∨ _))

/-- How the type of a spec goes with the type of its declaration. -/
structure GoesWith (specType type : String) : Prop where
  kind_eq : Classifier.kindIn kinds specType = Classifier.kindIn kinds type
  readsSpec : ReadsSpec specType ∧ ReadsSpec type
  isDeclaration : isDeclaration specType = false
  isSpecList : isSpecList specType = false ∧ isSpecList type = false

theorem goesWith_of_mem_specTypes (h : specType ∈ specTypes type) : GoesWith specType type := by
  unfold specTypes at h
  split at h
  · rcases List.mem_pair.1 h with rfl | rfl
    · exact ⟨by decide, by decide, by decide, by decide⟩
    · exact ⟨by decide, by decide, by decide, by decide⟩
  · rw [List.mem_singleton.1 h]
    exact ⟨by decide, by decide, by decide, by decide⟩
  · rw [List.mem_singleton.1 h]
    exact ⟨by decide, by decide, by decide, by decide⟩
  · cases h

theorem exists_goesWith (h : isDeclaration type = true) : ∃ specType, GoesWith specType type := by
  unfold isDeclaration at h
  cases htypes : specTypes type with
  | nil => simp [htypes] at h
  | cons specType _ => exact ⟨specType, goesWith_of_mem_specTypes (by simp [htypes])⟩

theorem readsSpec_of_isDeclaration (h : isDeclaration type = true) : ReadsSpec type := by
  obtain ⟨_, hgoes⟩ := exists_goesWith h
  exact hgoes.readsSpec.2

/-! ## Specs at their places -/

/-- The named children of a site that are of some types. -/
def childrenOf (types : List String) (site : Site) : List Site :=
  (site.node.namedChildren.filter fun child => types.contains child.type).map site.below

/-- The named lists of specs right below a site. -/
def specLists (site : Site) : List Site :=
  (site.node.namedChildren.filter fun child => isSpecList child.type).map site.below

/-- The specs of a declaration at their places: its named children of an accepted type, and those
of its named lists of specs. -/
def specSites (declaration : Site) : List Site :=
  let accepted := specTypes declaration.node.type
  childrenOf accepted declaration ++ (specLists declaration).flatMap (childrenOf accepted)

/-- A spec stands right below its declaration, or below a list of specs there. -/
theorem cases_of_mem_specSites (h : spec ∈ specSites declaration) :
    spec.node.type ∈ specTypes declaration.node.type ∧
      (spec.above = declaration.node :: declaration.above ∨
        ∃ list, isSpecList list.type = true ∧
          spec.above = list :: declaration.node :: declaration.above) := by
  have hchild {site : Site} (hspec : spec ∈ childrenOf (specTypes declaration.node.type) site) :
      spec.node.type ∈ specTypes declaration.node.type ∧ spec.above = site.node :: site.above := by
    obtain ⟨child, hchild, rfl⟩ := List.mem_map.1 hspec
    exact ⟨List.contains_iff_mem.1 (List.mem_filter.1 hchild).2, rfl⟩
  rcases List.mem_append.1 h with hspec | hspec
  · obtain ⟨htype, habove⟩ := hchild hspec
    exact ⟨htype, .inl habove⟩
  · obtain ⟨list, hlist, hspec⟩ := List.mem_flatMap.1 hspec
    obtain ⟨node, hnode, rfl⟩ := List.mem_map.1 hlist
    obtain ⟨htype, habove⟩ := hchild hspec
    exact ⟨htype, .inr ⟨node, (List.mem_filter.1 hnode).2, habove⟩⟩

theorem mem_sites_of_mem_specSites (h : spec ∈ specSites declaration) :
    spec ∈ declaration.node.sites declaration.above := by
  have hbelow {types : List String} {site other : Site} (hmem : other ∈ childrenOf types site) :
      other ∈ site.node.sites site.above := by
    obtain ⟨child, hchild, rfl⟩ := List.mem_map.1 hmem
    exact Node.mem_sites_of_child (List.mem_of_mem_filter (List.mem_of_mem_filter hchild))
      (Node.mem_sites_self _ child)
  rcases List.mem_append.1 h with hspec | hspec
  · exact hbelow hspec
  · obtain ⟨list, hlist, hspec⟩ := List.mem_flatMap.1 hspec
    obtain ⟨node, hnode, rfl⟩ := List.mem_map.1 hlist
    exact Node.mem_sites_of_child (List.mem_of_mem_filter (List.mem_of_mem_filter hnode))
      (hbelow hspec)

/-- A list of nodes holds its specs and those in its lists of specs, because no spec is a list. -/
theorem flatMap_perm_append {accepted : Node → Bool}
    (h : ∀ node, accepted node = true → isSpecList node.type = false) (nodes : List Node) :
    (nodes.flatMap fun child =>
        if accepted child then [child]
        else if isSpecList child.type then child.namedChildren.filter accepted
        else []).Perm
      (nodes.filter accepted ++ (nodes.filter fun child => isSpecList child.type).flatMap
        fun list => list.namedChildren.filter accepted) := by
  induction nodes with
  | nil => exact .nil
  | cons child rest ih =>
      rw [List.flatMap_cons, List.filter_cons, List.filter_cons]
      cases haccepted : accepted child with
      | true =>
          rw [h child haccepted]
          exact ih.cons child
      | false =>
          cases isSpecList child.type with
          | true => exact (ih.append_left _).trans (List.perm_append_comm_assoc _ _ _)
          | false => exact ih

/-- The specs that are counted are the nodes at the sites of specs, up to their order. -/
theorem specs_perm (declaration : Site) :
    (specs declaration.node).Perm ((specSites declaration).map (·.node)) := by
  have hsites : (specSites declaration).map (·.node) =
      declaration.node.namedChildren.filter
          (fun child => (specTypes declaration.node.type).contains child.type) ++
        (declaration.node.namedChildren.filter fun child => isSpecList child.type).flatMap
          fun list => list.namedChildren.filter
            fun child => (specTypes declaration.node.type).contains child.type := by
    simp [specSites, childrenOf, specLists, List.map_flatMap, List.flatMap_map, Site.below,
      Function.comp_def]
  rw [hsites]
  refine flatMap_perm_append (fun node haccepted => ?_) _
  exact (goesWith_of_mem_specTypes (List.contains_iff_mem.1 haccepted)).isSpecList.1

theorem length_specs (declaration : Site) :
    (specs declaration.node).length = (specSites declaration).length := by
  rw [(specs_perm declaration).length_eq, List.length_map]

/-! ## Who tells of a spec -/

/-- The nearest declaration above a spec is its own. -/
theorem owner?_of_mem_specSites (hdeclaration : isDeclaration declaration.node.type = true)
    (h : spec ∈ specSites declaration) : owner? spec = some declaration.node := by
  obtain ⟨-, habove | ⟨list, hlist, habove⟩⟩ := cases_of_mem_specSites h
  · rw [owner?, habove, List.find?_cons, hdeclaration]
  · -- A list of specs declares nothing, so the search goes on to the declaration above it.
    have hnot : isDeclaration list.type = false := by
      refine Bool.eq_false_iff.2 fun hlistDeclares => ?_
      obtain ⟨_, hgoes⟩ := exists_goesWith hlistDeclares
      exact Bool.false_ne_true (hgoes.isSpecList.2.symm.trans hlist)
    rw [owner?, habove, List.find?_cons, hnot, List.find?_cons, hdeclaration]

/-- A spec describes itself when it is one of several. -/
theorem describedSpec?_of_mem_specSites (hdeclaration : isDeclaration declaration.node.type = true)
    (h : spec ∈ specSites declaration) :
    describedSpec? spec = if 1 < (specSites declaration).length then some spec.node else none := by
  have htype := (goesWith_of_mem_specTypes (cases_of_mem_specSites h).1).isDeclaration
  have hgrouped : isGrouped spec = decide (1 < (specSites declaration).length) := by
    rw [isGrouped, owner?_of_mem_specSites hdeclaration h, ← length_specs]
  rw [describedSpec?, htype, hgrouped]
  simp only [Bool.false_eq_true, ↓reduceIte, decide_eq_true_eq]

/-- A declaration is described by its only spec. -/
theorem describedSpec?_declaration (hdeclaration : isDeclaration declaration.node.type = true) :
    describedSpec? declaration =
      match specSites declaration with
      | [spec] => some spec.node
      | _ => none := by
  have hperm := specs_perm declaration
  rw [describedSpec?, if_pos hdeclaration]
  match hsites : specSites declaration with
  | [] =>
      rw [hsites] at hperm
      rw [List.perm_nil.1 hperm]
  | [spec] =>
      rw [hsites] at hperm
      rw [List.perm_singleton.1 hperm]
  | spec :: next :: rest =>
      have hlength := length_specs declaration
      rw [hsites] at hlength
      split
      · next heq => simp [heq] at hlength
      · rfl

/-! ## What is told of a spec -/

/-- The description of a spec, which does not depend on its place. -/
def describeSpec (spec : Node) (doc : Document) : Except RangeError Description :=
  if Classifier.kindIn kinds spec.type = .typeDecl then describeTypeSpec spec doc
  else describeValueSpec spec doc

/-- The classification that a spec brings to the node that is described by it. -/
def classifySpec (spec : Node) (doc : Document) : Except RangeError Classification :=
  .ofDescription (Classifier.kindIn kinds spec.type) <$> describeSpec spec doc

/-- A node of such a type is described by its spec under the rule for its kind. -/
theorem describe_of_readsSpec (doc : Document) (hreads : ReadsSpec site.node.type) :
    classifier.describe (Classifier.kindIn kinds site.node.type) site doc =
      match describedSpec? site with
      | none => .ok none
      | some spec => some <$>
          if Classifier.kindIn kinds site.node.type = .typeDecl then describeTypeSpec spec doc
          else describeValueSpec spec doc := by
  rcases hreads with hkind | ⟨hkind, hshort⟩
  · simp only [hkind, ↓reduceIte]
    rfl
  · simp only [hkind, reduceCtorEq, ↓reduceIte]
    exact if_neg hshort

theorem classify_of_describedSpec?_eq_none (doc : Document) (hreads : ReadsSpec site.node.type)
    (h : describedSpec? site = none) : classifier.classify site doc = .ok none := by
  show classifier.describe (Classifier.kindIn kinds site.node.type) site doc >>= _ = _
  rw [describe_of_readsSpec doc hreads, h]
  rfl

theorem classify_of_describedSpec?_eq_some (doc : Document) (hreads : ReadsSpec site.node.type)
    (hkind : Classifier.kindIn kinds node.type = Classifier.kindIn kinds site.node.type)
    (h : describedSpec? site = some node) :
    classifier.classify site doc = some <$> classifySpec node doc := by
  show classifier.describe (Classifier.kindIn kinds site.node.type) site doc >>= _ = _
  rw [describe_of_readsSpec doc hreads, h, classifySpec, hkind]
  dsimp only
  rw [← hkind, ← describeSpec, hkind]
  cases describeSpec node doc <;> rfl

theorem classifySpec_ok (doc : Document) (h : node.Ordered) :
    ∃ c, classifySpec node doc = .ok c := by
  have hreading := Node.SameOrdered.reading doc
  have hdescribe : ∃ description, describeSpec node doc = .ok description := by
    unfold describeSpec
    split
    · exact (describeTypeSpec_alike hreading h.alike).exists_ok
    · exact (describeValueSpec_alike hreading h.alike).exists_ok
  obtain ⟨description, hdescription⟩ := hdescribe
  rw [classifySpec, hdescription]
  exact ⟨_, rfl⟩

theorem typeLabel_eq (h : node.SameTexts doc otherDoc other) :
    typeLabel node doc = typeLabel other otherDoc := by
  rw [typeLabel, typeLabel, h.type_eq, h.related]

theorem describeTypeSpec_eq (h : node.SameTexts doc otherDoc other) :
    describeTypeSpec node doc = describeTypeSpec other otherDoc := by
  unfold describeTypeSpec
  rw [h.fieldText_eq, h.fieldText_eq, h.fieldText_eq, h.type_eq]
  rcases h.child?_cases "type" with ⟨hnone, hother⟩ | ⟨type, otherType, hsome, hother, htype⟩
  · rw [hnone, hother]
  · have hsupertypes : supertypeList (embeddedTypes type) doc =
        supertypeList (embeddedTypes otherType) otherDoc := by
      unfold supertypeList
      rw [textsOf_eq_of_sameTexts (embeddedTypes_alike htype)]
    simp only [hsome, hother, typeLabel_eq htype, htype.type_eq, hsupertypes]

theorem describeValueSpec_eq (h : node.SameTexts doc otherDoc other) :
    describeValueSpec node doc = describeValueSpec other otherDoc := by
  unfold describeValueSpec
  rw [textsOf_eq_of_sameTexts (h.childrenAt "name"), h.fieldText_eq, h.type_eq]

theorem classifySpec_eq (h : node.SameTexts doc otherDoc other) :
    classifySpec node doc = classifySpec other otherDoc := by
  unfold classifySpec describeSpec
  rw [h.type_eq, describeTypeSpec_eq h, describeValueSpec_eq h]

/-! ## Each spec is told once -/

/-- The node at a site is described: it is not declined, and nothing keeps its description from
being read where no node ends before it starts. -/
structure IsDescribed (doc : Document) (site : Site) : Prop where
  ne_none : classifier.classify site doc ≠ .ok none
  recognized : site.node.Ordered → ∃ c, classifier.classify site doc = .ok (some c)

/-- The site that is described by a spec: that of its declaration when there is no other spec, and
else its own. -/
def teller (declaration spec : Site) : Site :=
  if (specSites declaration).length = 1 then declaration else spec

theorem classify_teller (doc : Document) (hdeclaration : isDeclaration declaration.node.type = true)
    (h : spec ∈ specSites declaration) :
    classifier.classify (teller declaration spec) doc = some <$> classifySpec spec.node doc := by
  have hgoes := goesWith_of_mem_specTypes (cases_of_mem_specSites h).1
  unfold teller
  split
  · next hone =>
      obtain ⟨only, honly⟩ := List.length_eq_one_iff.1 hone
      have heq : spec = only := List.mem_singleton.1 (honly ▸ h)
      refine classify_of_describedSpec?_eq_some doc hgoes.readsSpec.2 hgoes.kind_eq ?_
      rw [describedSpec?_declaration hdeclaration, honly, heq]
  · next hone =>
      have hpos := List.length_pos_of_mem h
      refine classify_of_describedSpec?_eq_some doc hgoes.readsSpec.1 rfl ?_
      rw [describedSpec?_of_mem_specSites hdeclaration h, if_pos (by omega)]

theorem isDescribed_teller (doc : Document)
    (hdeclaration : isDeclaration declaration.node.type = true)
    (h : spec ∈ specSites declaration) : IsDescribed doc (teller declaration spec) := by
  have hclassify := classify_teller doc hdeclaration h
  refine ⟨?_, fun hordered => ?_⟩
  · rw [hclassify]
    cases classifySpec spec.node doc <;> simp
  · have hspec : spec.node.Ordered := by
      unfold teller at hordered
      split at hordered
      · exact Node.All.of_mem_sites hordered (mem_sites_of_mem_specSites h)
      · exact hordered
    obtain ⟨c, hc⟩ := classifySpec_ok doc hspec
    exact ⟨c, by rw [hclassify, hc]; rfl⟩

/-- An only spec is told by its declaration and not by itself, several specs are told by themselves
and not by their declaration, and a declaration without specs is not described. What is told of a
spec is the same in all declarations, wherever they stand and however many specs they hold. -/
theorem specs_told_once (doc : Document) {declaration : Site}
    (hdeclaration : isDeclaration declaration.node.type = true) :
    (∀ spec, specSites declaration = [spec] →
      IsDescribed doc declaration ∧ classifier.classify spec doc = .ok none) ∧
    (1 < (specSites declaration).length →
      classifier.classify declaration doc = .ok none ∧
      ∀ spec ∈ specSites declaration, IsDescribed doc spec) ∧
    (specSites declaration = [] → classifier.classify declaration doc = .ok none) ∧
    ∀ spec ∈ specSites declaration, ∀ other : Site, isDeclaration other.node.type = true →
      ∀ otherSpec ∈ specSites other, ∀ otherDoc,
        spec.node.SameTexts doc otherDoc otherSpec.node →
        classifier.classify (teller declaration spec) doc =
          classifier.classify (teller other otherSpec) otherDoc := by
  have hreads := readsSpec_of_isDeclaration hdeclaration
  have hdeclined := describedSpec?_declaration hdeclaration
  refine ⟨fun spec honly => ?_, fun hseveral => ⟨?_, fun spec hspec => ?_⟩, fun hnone => ?_, ?_⟩
  · have hspec : spec ∈ specSites declaration := honly ▸ List.mem_singleton_self spec
    have hone : (specSites declaration).length = 1 := by rw [honly]; rfl
    have htold := isDescribed_teller doc hdeclaration hspec
    rw [teller, if_pos hone] at htold
    have hgoes := goesWith_of_mem_specTypes (cases_of_mem_specSites hspec).1
    refine ⟨htold, classify_of_describedSpec?_eq_none doc hgoes.readsSpec.1 ?_⟩
    rw [describedSpec?_of_mem_specSites hdeclaration hspec, if_neg (by omega)]
  · refine classify_of_describedSpec?_eq_none doc hreads (hdeclined.trans ?_)
    split
    · next heq => simp [heq] at hseveral
    · rfl
  · have htold := isDescribed_teller doc hdeclaration hspec
    rwa [teller, if_neg (by omega)] at htold
  · exact classify_of_describedSpec?_eq_none doc hreads (hdeclined.trans (by rw [hnone]))
  · intro spec hspec other hother otherSpec hotherSpec otherDoc hsame
    rw [classify_teller doc hdeclaration hspec, classify_teller otherDoc hother hotherSpec,
      classifySpec_eq hsame]

/-- A spec of one variable of type `int`, with a name of one letter. -/
def intSpec (label row column byte : Nat) : Node :=
  ⟨label, "var_spec", true, false, none, byte, byte + 5, ⟨row, column⟩, ⟨row, column + 5⟩,
    [⟨label + 1, "identifier", true, false, some "name", byte, byte + 1, ⟨row, column⟩,
        ⟨row, column + 1⟩, []⟩,
      ⟨label + 2, "type_identifier", true, false, some "type", byte + 2, byte + 5,
        ⟨row, column + 2⟩, ⟨row, column + 5⟩, []⟩]⟩

/-- A group of two specs, the first with a closure that declares a variable. -/
def groupWithClosure : Node :=
  ⟨0, "var_declaration", true, false, none, 0, 40, ⟨0, 0⟩, ⟨3, 1⟩,
    [⟨1, "var_spec_list", true, false, none, 4, 40, ⟨0, 4⟩, ⟨3, 1⟩,
      [⟨2, "var_spec", true, false, none, 7, 31, ⟨1, 1⟩, ⟨1, 25⟩,
          [⟨3, "identifier", true, false, some "name", 7, 8, ⟨1, 1⟩, ⟨1, 2⟩, []⟩,
            ⟨4, "func_literal", true, false, some "value", 11, 31, ⟨1, 5⟩, ⟨1, 25⟩,
              [⟨5, "block", true, false, some "body", 18, 31, ⟨1, 12⟩, ⟨1, 25⟩,
                [⟨6, "var_declaration", true, false, none, 20, 29, ⟨1, 14⟩, ⟨1, 23⟩,
                  [intSpec 7 1 18 24]⟩]⟩]⟩]⟩,
        ⟨10, "var_spec", true, false, none, 33, 38, ⟨2, 1⟩, ⟨2, 6⟩,
          [⟨11, "identifier", true, false, some "name", 33, 34, ⟨2, 1⟩, ⟨2, 2⟩, []⟩]⟩]⟩]⟩

/-- A group of two variables. -/
def groupOfInts : Node :=
  ⟨0, "var_declaration", true, false, none, 0, 21, ⟨0, 0⟩, ⟨3, 1⟩,
    [⟨1, "var_spec_list", true, false, none, 4, 21, ⟨0, 4⟩, ⟨3, 1⟩,
      [intSpec 2 1 1 7, intSpec 5 2 1 14]⟩]⟩

/-- The only variable of a closure is told by its declaration, though the closure stands in a group,
and in another document it is told of in the same words in a group of two. -/
theorem specs_told_once_groupWithClosure :
    let doc : Document := .ofText "var (\n\tf = func() { var x int }\n\tg = 1\n)\n" ""
    let otherDoc : Document := .ofText "var (\n\tx int\n\ty int\n)\n" ""
    let outer : Site := .ofRoot groupWithClosure
    let inner : Site := (groupWithClosure.sites [])[6]!
    let other : Site := .ofRoot groupOfInts
    let empty : Site :=
      .ofRoot ⟨0, "const_declaration", true, false, none, 0, 8, ⟨0, 0⟩, ⟨0, 8⟩, []⟩
    classifier.classify empty doc = .ok none ∧
    classifier.classify outer doc = .ok none ∧
    (specSites outer).map (·.node.label) = [2, 10] ∧
    (∀ spec ∈ specSites outer, IsDescribed doc spec) ∧
    IsDescribed doc inner ∧
    ∃ spec first second, specSites inner = [spec] ∧ specSites other = [first, second] ∧
      classifier.classify spec doc = .ok none ∧
      classifier.classify inner doc = classifier.classify first otherDoc ∧
      classifier.classify first otherDoc = .ok (some ⟨.variableDecl, "var x int", "x"⟩) := by
  intro doc otherDoc outer inner other empty
  obtain ⟨-, -, hempty, -⟩ := specs_told_once doc (by decide : isDeclaration empty.node.type = true)
  obtain ⟨-, houter, -, -⟩ := specs_told_once doc (by decide : isDeclaration outer.node.type = true)
  obtain ⟨hinner, -, -, hsame⟩ :=
    specs_told_once doc (by decide : isDeclaration inner.node.type = true)
  obtain ⟨hdeclined, hdescribed⟩ := houter (by decide)
  let spec : Site := inner.below (intSpec 7 1 18 24)
  let list : Site := other.below groupOfInts.children.head!
  let first : Site := list.below (intSpec 2 1 1 7)
  have hspecs : specSites inner = [spec] := rfl
  have hfirst : specSites other = [first, list.below (intSpec 5 2 1 14)] := rfl
  obtain ⟨htold, hnot⟩ := hinner spec hspecs
  have htexts : spec.node.SameTexts doc otherDoc first.node :=
    .intro rfl rfl rfl (by decide +kernel)
      (.cons (.intro rfl rfl rfl (by decide +kernel) .nil)
        (.cons (.intro rfl rfl rfl (by decide +kernel) .nil) .nil))
  have hequal := hsame spec (by simp [hspecs]) other (by decide) first (by simp [hfirst]) otherDoc
    htexts
  exact ⟨hempty rfl, hdeclined, by decide, hdescribed, htold, spec, first, _, hspecs, hfirst, hnot,
    hequal, by decide +kernel⟩

end GoNodes

end CursorScope
