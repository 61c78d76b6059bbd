import CursorScope.Language.Classifier
import CursorScope.Proofs.Describe.CNodes
import CursorScope.Proofs.Points

/-!
# Headers of functions and classes

What is told of a function, a class or a closure is told of its header: two documents that share
the text before a body, and two nodes that have the same children but for what is in the body,
give the same classification, or fail in the same way (`Language.classify_eq_of_sameHeader`). The
rules look for no child under the field of a body, and pick children by type only where a body is
not of that type: the modifiers of a C function are children of certain types, so there a body must
be of none of them (`classify_eq_fails_bodyAsModifier`).
-/

namespace CursorScope

/-! ## Nodes in a shared text -/

/-- Two nodes over the same stretch of a text, which starts and ends in it. -/
structure Node.SameIn (shared : String) (node other : Node) : Prop where
  startPoint_eq : node.startPoint = other.startPoint
  endPoint_eq : node.endPoint = other.endPoint
  start_le : node.startPoint ≤ .after (Text.bytes shared.toList)
  end_le : node.endPoint ≤ .after (Text.bytes shared.toList)

/-- Documents that start with one text have the same between two points of it. -/
theorem Document.cut_eq_of_le {shared : String} {p q : Point}
    (hp : p ≤ Point.after (Text.bytes shared.toList))
    (hq : q ≤ Point.after (Text.bytes shared.toList)) (rest otherRest uri otherUri : String)
    {range other : Range} (hstart : range.start = (ofText (shared ++ rest) uri).positionAt p)
    (hstop : range.stop = (ofText (shared ++ rest) uri).positionAt q)
    (hotherStart : other.start = (ofText (shared ++ otherRest) otherUri).positionAt p)
    (hotherStop : other.stop = (ofText (shared ++ otherRest) otherUri).positionAt q) :
    (ofText (shared ++ rest) uri).cut range =
      (ofText (shared ++ otherRest) otherUri).cut other := by
  have hcut := textBefore_append_cut _ hstart hstop
  rw [textBefore_eq_of_le hp rest otherRest uri otherUri,
    textBefore_eq_of_le hq rest otherRest uri otherUri,
    ← textBefore_append_cut _ hotherStart hotherStop] at hcut
  exact (String.append_right_inj _).1 hcut

/-- A stretch of a shared text is read the same in all documents that start with it, and one that
ends before it starts fails the same. -/
theorem Node.SameIn.text_eq {shared : String} {node other : Node} (h : node.SameIn shared other)
    (rest otherRest uri otherUri : String) :
    node.text (.ofText (shared ++ rest) uri) =
      other.text (.ofText (shared ++ otherRest) otherUri) := by
  have hstart := Document.positionAt_eq_of_le h.start_le rest otherRest uri otherUri
  have hstop := Document.positionAt_eq_of_le h.end_le rest otherRest uri otherUri
  unfold Node.text Node.range
  rw [← h.startPoint_eq, ← h.endPoint_eq]
  by_cases hle : (Document.ofText (shared ++ rest) uri).positionAt node.startPoint ≤
      (Document.ofText (shared ++ rest) uri).positionAt node.endPoint
  · rw [Range.between_eq_ok hle, Range.between_eq_ok (by rwa [hstart, hstop] at hle)]
    exact congrArg Except.ok (Document.cut_eq_of_le h.start_le h.end_le rest otherRest uri otherUri
      rfl rfl rfl rfl)
  · rw [Range.between_eq_error hle, Range.between_eq_error (by rwa [hstart, hstop] at hle), hstart,
      hstop]
    rfl

/-! ## The same texts -/

/-- Related nodes have the same text in two documents, or fail to have one in the same way. -/
def SameTexts (same : Node → Node → Prop) (doc otherDoc : Document) : Prop :=
  ∀ {node other}, same node other → node.text doc = other.text otherDoc

namespace SameTexts

variable {same : Node → Node → Prop} {doc otherDoc : Document} (h : SameTexts same doc otherDoc)

include h

theorem fieldText_eq {node other : Node} {field : String}
    (hchild : Option.Rel (Node.Alike same) (node.child? field) (other.child? field)) :
    node.fieldText field doc = other.fieldText field otherDoc := by
  unfold Node.fieldText
  rcases hchild.cases with ⟨hnone, hother⟩ | ⟨child, otherChild, hsome, hother, halike⟩
  · rw [hnone, hother]
  · rw [hsome, hother]
    exact h halike.related

theorem textsOf_eq {nodes others : List Node}
    (hnodes : List.Forall₂ (Node.Alike same) nodes others) :
    textsOf nodes doc = textsOf others otherDoc := by
  unfold textsOf
  induction hnodes with
  | nil => rfl
  | cons halike _ ih => rw [List.mapM_cons, List.mapM_cons, h halike.related, ih]

theorem supertypeList_eq {nodes others : List Node}
    (hnodes : List.Forall₂ (Node.Alike same) nodes others) :
    supertypeList nodes doc = supertypeList others otherDoc := by
  rw [supertypeList, supertypeList, h.textsOf_eq hnodes]

theorem parameterText_eq {d other : CNodes.Declarator} (hd : d.Alike same other) :
    d.parameterText doc = other.parameterText otherDoc := by
  unfold CNodes.Declarator.parameterText
  rcases hd.parameters.cases with ⟨hnone, hother⟩ | ⟨_, _, hsome, hother, halike⟩
  · rw [hnone, hother]
  · rw [hsome, hother]
    exact h halike.related

end SameTexts

/-! ## The same header -/

/-- Children of two nodes with the same header: alike ones, or two bodies of one type, whatever is
in them and wherever they are. A body is of none of the types by which modifiers are found. -/
inductive Node.HeaderChild (modifierTypes : List String) (same : Node → Node → Prop) :
    Node → Node → Prop where
  | alike {child other : Node} (h : child.Alike same other) :
      HeaderChild modifierTypes same child other
  | body {child other : Node} (htype : child.type = other.type) (hfield : child.field = some "body")
      (hotherField : other.field = some "body") (hmodifier : child.type ∉ modifierTypes) :
      HeaderChild modifierTypes same child other

/-- Two nodes of one type with the same children, but for their bodies. -/
structure Node.SameHeader (modifierTypes : List String) (same : Node → Node → Prop)
    (node other : Node) : Prop where
  type_eq : node.type = other.type
  children : List.Forall₂ (HeaderChild modifierTypes same) node.children other.children

variable {types : List String} {same : Node → Node → Prop} {node other : Node}

namespace Node.HeaderChild

theorem type_eq (h : node.HeaderChild types same other) : node.type = other.type := by
  cases h with
  | alike h => exact h.type_eq
  | body htype => exact htype

variable {nodes others : List Node} (h : List.Forall₂ (HeaderChild types same) nodes others)

include h

/-- Under any field but that of a body there are alike children. -/
theorem find?_field {field : String} (hfield : field ≠ "body") :
    Option.Rel (Alike same) (nodes.find? (·.field == some field))
      (others.find? (·.field == some field)) := by
  induction h with
  | nil => exact .none
  | cons hchild _ ih =>
      rw [List.find?_cons, List.find?_cons]
      cases hchild with
      | alike halike =>
          rw [halike.field_eq]
          split
          · exact .some halike
          · exact ih
      | body _ hbody hotherBody =>
          have hpassed : (some "body" == some field) = false :=
            beq_eq_false_iff_ne.2 fun heq => hfield (Option.some.inj heq).symm
          rw [hbody, hotherBody, hpassed]
          exact ih

/-- Whether there is a child of a type does not depend on what is in it. -/
theorem any_type_eq (p : String → Bool) :
    (nodes.any fun child => p child.type) = others.any fun child => p child.type := by
  induction h with
  | nil => rfl
  | cons hchild _ ih => rw [List.any_cons, List.any_cons, hchild.type_eq, ih]

/-- The modifiers are alike, because no body is one of them. -/
theorem filter_types :
    List.Forall₂ (Alike same) (nodes.filter fun child => types.contains child.type)
      (others.filter fun child => types.contains child.type) := by
  induction h with
  | nil => exact .nil
  | cons hchild _ ih =>
      rw [List.filter_cons, List.filter_cons, ← hchild.type_eq]
      cases hchild with
      | alike halike =>
          split
          · exact .cons halike ih
          · exact ih
      | body _ _ _ hmodifier =>
          have hpassed : types.contains _ = false :=
            Bool.eq_false_iff.2 fun hcontains => hmodifier (List.contains_iff_mem.1 hcontains)
          rw [hpassed]
          exact ih

end Node.HeaderChild

theorem Node.SameHeader.child? (h : node.SameHeader types same other) (field : String)
    (hfield : field ≠ "body") :
    Option.Rel (Alike same) (node.child? field) (other.child? field) :=
  HeaderChild.find?_field h.children hfield

/-! ## Descriptions by the header -/

/-- The types of the nodes with a header and a body. -/
def Language.headerTypes : Language → List String
  | .c => ["function_definition"]
  | .go => ["function_declaration", "method_declaration", "func_literal"]
  | .python => ["function_definition", "class_definition", "lambda"]

/-- The types by which a language finds the modifiers among the children of a node. -/
def Language.modifierTypes : Language → List String
  | .c => CNodes.modifierTypes
  | .go | .python => []

/-- Two sites of nodes with the same header, with the same decorators where a language has any. -/
structure Site.SameHeader (language : Language) (same : Node → Node → Prop) (site other : Site) :
    Prop where
  node : site.node.SameHeader language.modifierTypes same other.node
  decorators : language = .python →
    List.Forall₂ (Node.Alike same) (PythonNodes.decorators site) (PythonNodes.decorators other)

namespace SameTexts

variable {doc otherDoc : Document} {site otherSite : Site} (h : SameTexts same doc otherDoc)

include h

theorem headerText_eq (hnode : node.SameHeader types same other) (field : String)
    (hfield : field ≠ "body") : node.fieldText field doc = other.fieldText field otherDoc :=
  h.fieldText_eq (hnode.child? field hfield)

theorem pythonClass_eq (hsite : site.SameHeader .python same otherSite) :
    PythonNodes.describeType site doc = PythonNodes.describeType otherSite otherDoc := by
  unfold PythonNodes.describeType
  extract_lets node otherNode
  rw [h.headerText_eq hsite.node "name" (by decide)]
  congr 1
  funext name
  rw [h.textsOf_eq (hsite.decorators rfl), h.headerText_eq hsite.node "type_parameters" (by decide)]
  rcases (hsite.node.child? "superclasses" (by decide)).cases with
    ⟨hnone, hother⟩ | ⟨arguments, otherArguments, hsome, hother, halike⟩
  · rw [hnone, hother]
  · rw [hsome, hother]
    dsimp only
    rw [h.supertypeList_eq (Node.Alike.filter halike.namedChildren fun h => by rw [h.type_eq])]

theorem pythonFunction_eq (hsite : site.SameHeader .python same otherSite) :
    PythonNodes.describeFunction site doc = PythonNodes.describeFunction otherSite otherDoc := by
  unfold PythonNodes.describeFunction
  dsimp only
  rw [h.headerText_eq hsite.node "name" (by decide), h.textsOf_eq (hsite.decorators rfl),
    Node.HeaderChild.any_type_eq hsite.node.children (· == "async"),
    h.headerText_eq hsite.node "type_parameters" (by decide),
    h.headerText_eq hsite.node "parameters" (by decide),
    h.headerText_eq hsite.node "return_type" (by decide)]

theorem pythonLambda_eq (hnode : node.SameHeader types same other) :
    PythonNodes.describeClosure node doc = PythonNodes.describeClosure other otherDoc := by
  unfold PythonNodes.describeClosure
  rw [h.headerText_eq hnode "parameters" (by decide)]

theorem resultDetail_eq (hnode : node.SameHeader types same other) :
    GoNodes.resultDetail node doc = GoNodes.resultDetail other otherDoc := by
  unfold GoNodes.resultDetail
  rw [h.headerText_eq hnode "type_parameters" (by decide),
    h.headerText_eq hnode "parameters" (by decide), h.headerText_eq hnode "result" (by decide)]

theorem goFunction_eq (hnode : site.node.SameHeader types same otherSite.node) :
    GoNodes.describeFunction site doc = GoNodes.describeFunction otherSite otherDoc := by
  unfold GoNodes.describeFunction
  rw [h.headerText_eq hnode "name" (by decide), h.headerText_eq hnode "receiver" (by decide),
    h.resultDetail_eq hnode]

theorem goClosure_eq (hnode : node.SameHeader types same other) :
    GoNodes.describeClosure node doc = GoNodes.describeClosure other otherDoc := by
  unfold GoNodes.describeClosure
  rw [h.resultDetail_eq hnode]

theorem cFunction_eq (hnode : site.node.SameHeader CNodes.modifierTypes same otherSite.node) :
    CNodes.describeFunction site doc = CNodes.describeFunction otherSite otherDoc := by
  unfold CNodes.describeFunction CNodes.modifiers
  extract_lets node otherNode
  rcases (hnode.child? "declarator" (by decide)).cases with
    ⟨hnone, hother⟩ | ⟨child, otherChild, hsome, hother, halike⟩
  · rw [hnone, hother]
  · have hd := CNodes.Declarator.ofNode_alike halike
    rw [hsome, hother, h.headerText_eq hnode "type" (by decide),
      h.textsOf_eq (Node.HeaderChild.filter_types hnode.children)]
    dsimp only
    rw [h hd.identifier.related, hd.stars_eq, h.parameterText_eq hd]

end SameTexts

/-- Nodes with the same header are classified the same, or fail the same, in two documents that
start with the same text, when all that is in their headers lies in that text. -/
theorem Language.classify_eq_of_sameHeader (language : Language)
    (shared rest otherRest uri otherUri : String) {site other : Site}
    (htype : site.node.type ∈ language.headerTypes)
    (h : site.SameHeader language (Node.SameIn shared) other) :
    language.classifier.classify site (.ofText (shared ++ rest) uri) =
      language.classifier.classify other (.ofText (shared ++ otherRest) otherUri) := by
  have htexts : SameTexts (Node.SameIn shared) (.ofText (shared ++ rest) uri)
      (.ofText (shared ++ otherRest) otherUri) :=
    fun hsame => hsame.text_eq rest otherRest uri otherUri
  have hdescribe : language.classifier.describe (language.classifier.kindOf site.node.type) site
        (.ofText (shared ++ rest) uri) =
      language.classifier.describe (language.classifier.kindOf site.node.type) other
        (.ofText (shared ++ otherRest) otherUri) := by
    cases language with
    | c =>
        rw [List.mem_singleton.1 htype]
        exact htexts.cFunction_eq h.node
    | go =>
        simp only [headerTypes, List.mem_cons, List.not_mem_nil, or_false] at htype
        rcases htype with heq | heq | heq <;> rw [heq]
        · exact htexts.goFunction_eq h.node
        · exact htexts.goFunction_eq h.node
        · exact congrArg (some <$> ·) (htexts.goClosure_eq h.node)
    | python =>
        simp only [headerTypes, List.mem_cons, List.not_mem_nil, or_false] at htype
        rcases htype with heq | heq | heq <;> rw [heq]
        · exact htexts.pythonFunction_eq h
        · exact htexts.pythonClass_eq h
        · exact congrArg (some <$> ·) (htexts.pythonLambda_eq h.node)
  unfold Classifier.classify
  dsimp only
  rw [hdescribe, h.node.type_eq]

/-! ## Two headers -/

/-- A node without children over a stretch of a line. -/
def Node.leaf (type : String) (field : Option String) (row first last : Nat) : Node :=
  ⟨0, type, true, false, field, 0, 0, ⟨row, first⟩, ⟨row, last⟩, []⟩

/-- A stretch of a line of a text is like itself. -/
theorem Node.alike_leaf {shared : String} (type : String) (field : Option String)
    {row first last : Nat} (hfirst : (⟨row, first⟩ : Point) ≤ .after (Text.bytes shared.toList))
    (hlast : (⟨row, last⟩ : Point) ≤ .after (Text.bytes shared.toList)) :
    (leaf type field row first last).Alike (SameIn shared) (leaf type field row first last) :=
  .intro rfl rfl rfl ⟨rfl, rfl, hfirst, hlast⟩ .nil

/-- The tree of `@d`, `async def f(x):` and a body. -/
def asyncFunction (body : Node) : Site :=
  let decorator := .leaf "decorator" none 0 0 2
  let function : Node := ⟨2, "function_definition", true, false, some "definition", 0, 0, ⟨1, 0⟩,
    body.endPoint, [.leaf "async" none 1 0 5, .leaf "identifier" (some "name") 1 10 11,
      .leaf "parameters" (some "parameters") 1 11 14, body]⟩
  ⟨function, [⟨0, "decorated_definition", true, false, none, 0, 0, ⟨0, 0⟩, body.endPoint,
    [decorator, function]⟩]⟩

/-- While `pass` becomes `return g(x)` below `@d` and `async def f(x):`, what is told of the
function stays. -/
theorem classify_eq_asyncFunction :
    let shared := "@d\nasync def f(x):\n    "
    let site := asyncFunction (.leaf "block" (some "body") 2 4 8)
    let other := asyncFunction ⟨7, "block", true, false, some "body", 0, 0, ⟨2, 4⟩, ⟨3, 6⟩,
      [.leaf "identifier" none 3 4 5]⟩
    site.node.type ∈ Language.python.headerTypes ∧
    site.SameHeader .python (Node.SameIn shared) other ∧
    PythonNodes.classifier.classify site (.ofText (shared ++ "pass\n") "") =
      .ok (some ⟨.functionDecl, "@d async def f(x)", "f"⟩) ∧
    PythonNodes.classifier.classify other (.ofText (shared ++ "return g(\n    x)\n") "") =
      .ok (some ⟨.functionDecl, "@d async def f(x)", "f"⟩) := by
  intro shared site other
  have hmem : site.node.type ∈ Language.python.headerTypes := by decide
  have hsame : site.SameHeader .python (Node.SameIn shared) other := by
    refine ⟨⟨rfl, ?_⟩, fun _ => .cons (Node.alike_leaf _ _ (by decide) (by decide)) .nil⟩
    refine .cons (.alike (Node.alike_leaf _ _ (by decide) (by decide))) ?_
    refine .cons (.alike (Node.alike_leaf _ _ (by decide) (by decide))) ?_
    refine .cons (.alike (Node.alike_leaf _ _ (by decide) (by decide))) ?_
    exact .cons (.body rfl rfl rfl (by decide)) .nil
  have hclassify : PythonNodes.classifier.classify site (.ofText (shared ++ "pass\n") "") =
      .ok (some ⟨.functionDecl, "@d async def f(x)", "f"⟩) := by decide
  refine ⟨hmem, hsame, hclassify, ?_⟩
  rw [← hclassify]
  exact (Language.classify_eq_of_sameHeader .python shared _ _ _ _ hmem hsame).symm

/-- The tree of `int f()` and a qualifier as its body. -/
def qualifiedFunction (last : Nat) : Site :=
  ⟨⟨0, "function_definition", true, false, none, 0, 0, ⟨0, 0⟩, ⟨0, last⟩,
    [.leaf "primitive_type" (some "type") 0 0 3,
      ⟨2, "function_declarator", true, false, some "declarator", 0, 0, ⟨0, 4⟩, ⟨0, 7⟩,
        [.leaf "identifier" (some "declarator") 0 4 5,
          .leaf "parameter_list" (some "parameters") 0 5 7]⟩,
      .leaf "type_qualifier" (some "body") 0 8 last]⟩, []⟩

/-- A body that is a qualifier is told as a modifier, so that typing in it changes what is told. -/
theorem classify_eq_fails_bodyAsModifier :
    let shared := "int f() "
    let site := qualifiedFunction 9
    let other := qualifiedFunction 10
    site.node.type ∈ Language.c.headerTypes ∧
    site.node.SameHeader [] (Node.SameIn shared) other.node ∧
    (site.node.child? "body").map (·.startPoint) = some (.after (Text.bytes shared.toList)) ∧
    (other.node.child? "body").map (·.startPoint) = some (.after (Text.bytes shared.toList)) ∧
    CNodes.classifier.classify site (.ofText (shared ++ "a") "") ≠
      CNodes.classifier.classify other (.ofText (shared ++ "ab") "") := by
  intro shared site other
  refine ⟨by decide, ⟨rfl, ?_⟩, by decide, by decide, ?_⟩
  · refine .cons (.alike (Node.alike_leaf _ _ (by decide) (by decide))) (.cons (.alike ?_) ?_)
    · refine .intro rfl rfl rfl ⟨rfl, rfl, by decide, by decide⟩ ?_
      refine .cons (Node.alike_leaf _ _ (by decide) (by decide)) ?_
      exact .cons (Node.alike_leaf _ _ (by decide) (by decide)) .nil
    · exact .cons (.body rfl rfl rfl (by decide)) .nil
  · have hsite : CNodes.classifier.classify site (.ofText (shared ++ "a") "") =
        .ok (some ⟨.functionDecl, "a int f()", "f"⟩) := by decide +kernel
    have hother : CNodes.classifier.classify other (.ofText (shared ++ "ab") "") =
        .ok (some ⟨.functionDecl, "ab int f()", "f"⟩) := by decide +kernel
    rw [hsite, hother]
    decide

end CursorScope
