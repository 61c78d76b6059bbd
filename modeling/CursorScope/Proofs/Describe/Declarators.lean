import CursorScope.Proofs.Describe.Kinds
import CursorScope.Proofs.Headers

/-!
# What C declarators declare

Declarators are inside one another, and a declarator declares the core inside it, to which all
paths inward lead (`existsUnique_declares`). The walk of `Declarator.ofNode` counts the
pointers on its way and gets to the core, but for one case: it stops at a second function declarator
inside one that lists parameters, and then the name that is told is a piece of a declarator.
`Declarator.ofNode_declares_iff` says exactly this. It rests on `Declarator.inside_cases`, the step
of the walk.
-/

namespace CursorScope.CNodes

/-- A node of a type that wraps other declarators. -/
def Wraps (node : Node) : Prop :=
  node.type = "function_declarator" ∨ wrapperTypes.contains node.type

instance (node : Node) : Decidable (Wraps node) := inferInstanceAs (Decidable (_ ∨ _))

/-- A node that no path inward goes on from: one that wraps no declarators, or a wrapper without
a declarator inside. -/
def IsCore (node : Node) : Prop := Wraps node → innerDeclarator? node = none

instance (node : Node) : Decidable (IsCore node) := inferInstanceAs (Decidable (_ → _))

/-- A path from a declarator into the ones inside it, with the declarators that come before the
last one. -/
inductive InwardPath : Node → List Node → Node → Prop where
  | refl (node : Node) : InwardPath node [] node
  | step {node inner last : Node} {around : List Node} (hwraps : Wraps node)
      (hinner : innerDeclarator? node = some inner) (hrest : InwardPath inner around last) :
      InwardPath node (node :: around) last

/-- What a declarator declares is the core inside it. -/
def Declares (node core : Node) : Prop := (∃ around, InwardPath node around core) ∧ IsCore core

/-- A function declarator with a list of parameters. -/
def ListsParameters (node : Node) : Prop :=
  node.type = "function_declarator" ∧ (node.child? "parameters").isSome

/-- A function declarator, with a declarator in it, is inside one that lists parameters. -/
def RepeatsParameters (node : Node) : Prop :=
  ∃ around second, InwardPath node around second ∧ second.type = "function_declarator" ∧
    ¬ IsCore second ∧ ∃ first ∈ around, ListsParameters first

/-- The number of pointers among declarators. -/
def pointerCount (nodes : List Node) : Nat := nodes.countP (·.type = "pointer_declarator")

variable {node inner core other last : Node} {around : List Node}

/-! ## Paths and cores -/

theorem not_isCore_of_wraps (hwraps : Wraps node) (hinner : innerDeclarator? node = some inner) :
    ¬ IsCore node := by
  intro hcore
  rw [hcore hwraps] at hinner
  cases hinner

/-- No declarator on a path before its end is a core. -/
theorem InwardPath.not_isCore (h : InwardPath node around last) :
    ∀ outer ∈ around, ¬ IsCore outer := by
  induction h with
  | refl => exact List.forall_mem_nil _
  | step hwraps hinner _ ih =>
      exact List.forall_mem_cons.2 ⟨not_isCore_of_wraps hwraps hinner, ih⟩

theorem exists_declares (node : Node) : ∃ core, Declares node core := by
  induction node using Node.inductionOnChildren with
  | step node ih =>
      by_cases hcore : IsCore node
      · exact ⟨node, ⟨[], .refl node⟩, hcore⟩
      · obtain ⟨hwraps, hsome⟩ := Classical.not_imp.1 hcore
        obtain ⟨inner, hinner⟩ := Option.ne_none_iff_exists'.1 hsome
        obtain ⟨core, ⟨around, hpath⟩, hcore⟩ := ih inner (mem_children_of_innerDeclarator? hinner)
        exact ⟨core, ⟨node :: around, .step hwraps hinner hpath⟩, hcore⟩

theorem Declares.unique (h : Declares node core) (hother : Declares node other) :
    core = other := by
  obtain ⟨⟨around, hpath⟩, hcore⟩ := h
  obtain ⟨⟨others, hpathOther⟩, hcoreOther⟩ := hother
  induction hpath generalizing others with
  | refl =>
      cases hpathOther with
      | refl => rfl
      | step hwraps hinner _ => exact absurd hcore (not_isCore_of_wraps hwraps hinner)
  | step hwraps hinner _ ih =>
      cases hpathOther with
      | refl => exact absurd hcoreOther (not_isCore_of_wraps hwraps hinner)
      | step _ hinnerOther hrestOther =>
          rw [hinner] at hinnerOther
          cases hinnerOther
          exact ih hcore _ hrestOther

/-- A declarator declares one thing. -/
theorem existsUnique_declares (node : Node) : ∃! core, Declares node core := by
  obtain ⟨core, hcore⟩ := exists_declares node
  exact ⟨core, hcore, fun _ hother => hother.unique hcore⟩

/-! ## The walk through declarators -/

namespace Declarator

variable {parameters : Option Node}

/-- The parameters that a walk has found when it goes on from a node. -/
def found (parameters : Option Node) (node : Node) : Option Node :=
  if node.type = "function_declarator" ∧ parameters.isNone then node.child? "parameters"
  else parameters

theorem isSome_found_iff :
    (found parameters node).isSome ↔ parameters.isSome ∨ ListsParameters node := by
  unfold found ListsParameters
  cases parameters with
  | some _ => simp
  | none => by_cases h : node.type = "function_declarator" <;> simp [h]

/-- A walk goes on from a wrapper to the declarator in it. It stops at a core, and at a function
declarator when it has found parameters before. -/
theorem inside_cases (pointers : Nat) (parameters : Option Node) (node : Node) :
    (∃ inner, Wraps node ∧ innerDeclarator? node = some inner ∧
      ¬ (node.type = "function_declarator" ∧ parameters.isSome) ∧
      inside pointers parameters node =
        inside (pointers + pointerCount [node]) (found parameters node) inner) ∨
    (IsCore node ∨ node.type = "function_declarator" ∧ parameters.isSome) ∧
      (inside pointers parameters node).identifier = node ∧
      (inside pointers parameters node).pointers = pointers + pointerCount [node] := by
  have hcount : (if node.type = "pointer_declarator" then pointers + 1 else pointers) =
      pointers + pointerCount [node] := by
    by_cases h : node.type = "pointer_declarator" <;> simp [pointerCount, h]
  rw [inside_eq, hcount]
  dsimp only
  split
  · rename_i hpasses
    have hwraps : Wraps node := hpasses.imp_left And.left
    cases hinner : innerDeclarator? node with
    | none => exact .inr ⟨.inl fun _ => hinner, rfl, rfl⟩
    | some inner =>
        refine .inl ⟨inner, hwraps, rfl, ?_, rfl⟩
        rintro ⟨htype, hsome⟩
        rcases hpasses with ⟨-, hnone⟩ | hwrapper
        · rw [Option.isNone_iff_eq_none.1 hnone] at hsome
          cases hsome
        · rw [htype] at hwrapper
          exact absurd hwrapper (by decide)
  · rename_i hstops
    obtain ⟨hopens, hwrapper⟩ := not_or.1 hstops
    refine .inr ⟨?_, rfl, rfl⟩
    by_cases htype : node.type = "function_declarator"
    · refine .inr ⟨htype, Option.isSome_iff_ne_none.2 fun hnone => hopens ⟨htype, ?_⟩⟩
      rw [hnone]
      rfl
    · exact .inl fun hwraps => absurd hwraps (not_or.2 ⟨htype, hwrapper⟩)

/-- A walk takes a path inward, counts the pointers on it and ends at a core, or at a function
declarator when it has found parameters before. -/
theorem identifier_inside (pointers : Nat) (parameters : Option Node) (node : Node) :
    ∃ around identifier, (inside pointers parameters node).identifier = identifier ∧
      InwardPath node around identifier ∧
      (inside pointers parameters node).pointers =
        pointers + pointerCount (around ++ [identifier]) ∧
      (IsCore identifier ∨ identifier.type = "function_declarator" ∧
        (parameters.isSome ∨ ∃ first ∈ around, ListsParameters first)) := by
  induction node using Node.inductionOnChildren generalizing pointers parameters with
  | step node ih =>
      rcases inside_cases pointers parameters node with
        ⟨inner, hwraps, hinner, -, heq⟩ | ⟨hend, hidentifier, hpointers⟩
      · obtain ⟨around, identifier, hidentifier, hpath, hpointers, hend⟩ :=
          ih inner (mem_children_of_innerDeclarator? hinner) (pointers + pointerCount [node])
            (found parameters node)
        rw [heq]
        refine ⟨node :: around, identifier, hidentifier, .step hwraps hinner hpath, ?_, ?_⟩
        · rw [hpointers, Nat.add_assoc]
          exact congrArg (pointers + ·) List.countP_append.symm
        · refine hend.imp_right fun ⟨htype, hfound⟩ => ⟨htype, ?_⟩
          rcases hfound with hfound | ⟨first, hfirst, hlists⟩
          · exact (isSome_found_iff.1 hfound).imp_right fun hlists =>
              ⟨node, List.mem_cons_self, hlists⟩
          · exact .inr ⟨first, List.mem_cons_of_mem _ hfirst, hlists⟩
      · exact ⟨[], node, hidentifier, .refl node, hpointers, hend.imp_right fun ⟨htype, hsome⟩ =>
          ⟨htype, .inl hsome⟩⟩

/-- A walk that has found parameters goes no further than the next function declarator. -/
theorem identifier_mem_of_path {second : Node} (hpath : InwardPath node around second)
    (hsecond : second.type = "function_declarator") (pointers : Nat) (parameters : Option Node)
    (hfound : parameters.isSome ∨ ∃ first ∈ around, ListsParameters first) :
    (inside pointers parameters node).identifier ∈ around ++ [second] := by
  induction hpath generalizing pointers parameters with
  | refl node =>
      have hsome : parameters.isSome := hfound.resolve_right fun ⟨_, hnil, _⟩ => by cases hnil
      rcases inside_cases pointers parameters node with ⟨_, -, -, hgoes, -⟩ | ⟨-, heq, -⟩
      · exact absurd ⟨hsecond, hsome⟩ hgoes
      · exact List.mem_singleton.2 heq
  | @step node inner last around _ hinner _ ih =>
      rcases inside_cases pointers parameters node with ⟨other, -, hother, -, heq⟩ | ⟨-, heq, -⟩
      · rw [hinner] at hother
        cases hother
        rw [heq]
        refine List.mem_cons_of_mem _ (ih hsecond _ _ ?_)
        rcases hfound with hsome | ⟨first, hfirst, hlists⟩
        · exact .inl (isSome_found_iff.2 (.inl hsome))
        · rcases List.mem_cons.1 hfirst with rfl | hfirst
          · exact .inl (isSome_found_iff.2 (.inr hlists))
          · exact .inr ⟨first, hfirst, hlists⟩
      · rw [heq]
        exact List.mem_cons_self

/-- The walk into a node ends at what the node declares, unless parameters are repeated. -/
theorem isCore_identifier_iff (node : Node) :
    IsCore (ofNode node).identifier ↔ ¬ RepeatsParameters node := by
  constructor
  · rintro hcore ⟨around, second, hpath, hsecond, hnot, hfirst⟩
    have hmem : (ofNode node).identifier ∈ around ++ [second] :=
      identifier_mem_of_path hpath hsecond 0 none (.inr hfirst)
    rcases List.mem_append.1 hmem with hmem | hmem
    · exact hpath.not_isCore _ hmem hcore
    · rw [List.mem_singleton.1 hmem] at hcore
      exact hnot hcore
  · intro hrepeats
    obtain ⟨around, identifier, heq, hpath, -, hend⟩ := identifier_inside 0 none node
    rw [show (ofNode node).identifier = identifier from heq]
    by_contra hnot
    rcases hend with hcore | ⟨htype, hnone | hfirst⟩
    · exact hnot hcore
    · cases hnone
    · exact hrepeats ⟨around, identifier, hpath, htype, hnot, hfirst⟩

instance (node : Node) : Decidable (RepeatsParameters node) :=
  decidable_of_iff _ (Iff.trans (not_congr (isCore_identifier_iff node)) not_not)

end Declarator

/-! ## The names that are told -/

/-- The node types of what is named by the declarators in it. -/
def declaringTypes : List String := ["function_definition", "declaration", "type_definition"]

/-- The declarators by which a node is named. A function has one. -/
def namingDeclarators (node : Node) : List Node :=
  if node.type = "function_definition" then (node.child? "declarator").toList
  else node.childrenAt "declarator"

/-- The nodes at which the walks into the declarators of a node end. -/
def identifiers (node : Node) : List Node :=
  (namingDeclarators node).map fun declarator => (Declarator.ofNode declarator).identifier

/-- A name puts together the texts of the identifiers of a node. -/
def NamedByIdentifiers (node : Node) (doc : Document) (name : String) : Prop :=
  ∃ texts, textsOf (identifiers node) doc = .ok texts ∧ name = ", ".intercalate texts

variable {site : Site} {doc : Document}

theorem identifiers_of_ne (h : node.type ≠ "function_definition") :
    identifiers node = (declarators node).map (·.identifier) := by
  rw [identifiers, namingDeclarators, if_neg h, declarators, List.map_map]
  rfl

theorem namedByIdentifiers_of_declaredNames {name : String}
    (htype : node.type ≠ "function_definition")
    (h : declaredNames (declarators node) doc = .ok name) : NamedByIdentifiers node doc name := by
  obtain ⟨texts, htexts, hname⟩ := Except.bind_eq_ok_iff.1 h
  rw [← identifiers_of_ne htype] at htexts
  exact ⟨texts, htexts, (Except.ok.inj hname).symm⟩

theorem namedByIdentifiers_of_describeTypedef {d : Description}
    (htype : node.type = "type_definition") (h : describeTypedef node doc = .ok d) :
    NamedByIdentifiers node doc d.name := by
  obtain ⟨name, hname, h⟩ := Except.bind_eq_ok_iff.1 h
  extract_lets describe at h
  -- The keyword is read in three ways, and none of them changes the name.
  have hdescribe {keyword : String} (h : describe keyword = .ok d) :
      NamedByIdentifiers node doc d.name := by
    cases h
    exact namedByIdentifiers_of_declaredNames (by rw [htype]; decide) hname
  split at h
  · exact hdescribe h
  · split at h
    · exact hdescribe h
    · obtain ⟨_, -, h⟩ := Except.bind_eq_ok_iff.1 h
      exact hdescribe h

theorem namedByIdentifiers_of_describeVariable {d : Description}
    (htype : site.node.type = "declaration")
    (h : describeVariable site doc = .ok (some d)) : NamedByIdentifiers site.node doc d.name := by
  unfold describeVariable at h
  extract_lets node at h
  split at h
  · cases h
  · obtain ⟨name, hname, h⟩ := Except.bind_eq_ok_iff.1 h
    extract_lets stars describe at h
    have hdescribe {detail : String} (h : describe detail = .ok (some d)) :
        NamedByIdentifiers site.node doc d.name := by
      obtain ⟨_, -, h⟩ := Except.bind_eq_ok_iff.1 h
      obtain ⟨_, -, h⟩ := Except.bind_eq_ok_iff.1 h
      cases h
      exact namedByIdentifiers_of_declaredNames (by rw [htype]; decide) hname
    split at h
    · obtain ⟨_, -, h⟩ := Except.bind_eq_ok_iff.1 h
      exact hdescribe h
    · exact hdescribe h

theorem namedByIdentifiers_of_describeFunction {d : Description}
    (htype : site.node.type = "function_definition")
    (h : describeFunction site doc = .ok (some d)) : NamedByIdentifiers site.node doc d.name := by
  unfold describeFunction at h
  dsimp only at h
  split at h
  · cases h
  · rename_i child hchild
    obtain ⟨name, hname, h⟩ := Except.bind_eq_ok_iff.1 h
    obtain ⟨_, -, h⟩ := Except.bind_eq_ok_iff.1 h
    obtain ⟨_, -, h⟩ := Except.bind_eq_ok_iff.1 h
    obtain ⟨_, -, h⟩ := Except.bind_eq_ok_iff.1 h
    cases h
    refine ⟨[name], ?_, rfl⟩
    rw [identifiers, namingDeclarators, if_pos htype, hchild]
    show [(Declarator.ofNode child).identifier].mapM (·.text doc) = _
    rw [List.mapM_cons, hname]
    rfl

/-- The name that is told of a function, a declaration or a type definition puts together the texts
at which the walks into its declarators end. -/
theorem namedByIdentifiers_of_classify {c : Classification}
    (htype : site.node.type ∈ declaringTypes)
    (h : classifier.classify site doc = .ok (some c)) :
    NamedByIdentifiers site.node doc c.name := by
  obtain ⟨answer, hdescribe, hanswer⟩ := Except.bind_eq_ok_iff.1 h
  obtain ⟨d, rfl, rfl⟩ := Option.map_eq_some_iff.1 (Except.ok.inj hanswer)
  simp only [declaringTypes, List.mem_cons, List.not_mem_nil, or_false] at htype
  rcases htype with htype | htype | htype <;> rw [htype] at hdescribe
  · exact namedByIdentifiers_of_describeFunction htype hdescribe
  · exact namedByIdentifiers_of_describeVariable htype hdescribe
  · replace hdescribe : describeType site doc = .ok (some d) := hdescribe
    rw [describeType, if_pos htype] at hdescribe
    rw [map_eq_pure_bind] at hdescribe
    obtain ⟨_, htypedef, hsome⟩ := Except.bind_eq_ok_iff.1 hdescribe
    cases hsome
    exact namedByIdentifiers_of_describeTypedef htype htypedef

/-- The walk into a declarator takes a path inward and counts the pointers on it. It ends at the one
thing that the declarator declares, unless parameters are repeated: then it ends at a function
declarator on the way. The names of functions, declarations and type definitions are told by such
ends. -/
theorem Declarator.ofNode_declares_iff (node : Node) (site : Site) (doc : Document) :
    let d := ofNode node
    (∃! core, Declares node core) ∧
    (∃ around, InwardPath node around d.identifier ∧
      d.pointers = pointerCount (around ++ [d.identifier])) ∧
    (Declares node d.identifier ↔ ¬ RepeatsParameters node) ∧
    (RepeatsParameters node → d.identifier.type = "function_declarator") ∧
    ∀ c, site.node.type ∈ declaringTypes → classifier.classify site doc = .ok (some c) →
      NamedByIdentifiers site.node doc c.name ∧
      ((∀ declarator ∈ namingDeclarators site.node, ¬ RepeatsParameters declarator) →
        List.Forall₂ Declares (namingDeclarators site.node) (identifiers site.node)) := by
  have hdeclares (node : Node) :
      Declares node (ofNode node).identifier ↔ ¬ RepeatsParameters node := by
    obtain ⟨around, _, rfl, hpath, -⟩ := identifier_inside 0 none node
    rw [← isCore_identifier_iff node]
    exact ⟨And.right, fun hcore => ⟨⟨around, hpath⟩, hcore⟩⟩
  obtain ⟨around, _, rfl, hpath, hpointers, hend⟩ := identifier_inside 0 none node
  rw [Nat.zero_add] at hpointers
  refine ⟨existsUnique_declares node, ⟨around, hpath, hpointers⟩, hdeclares node,
    fun hrepeats => ?_, fun c htype h => ?_⟩
  · rcases hend with hcore | ⟨htype, -⟩
    · exact absurd hrepeats ((isCore_identifier_iff node).1 hcore)
    · exact htype
  · refine ⟨namedByIdentifiers_of_classify htype h, fun hnone => ?_⟩
    rw [identifiers, List.forall₂_map_right_iff, List.forall₂_same]
    exact fun declarator hmem => (hdeclares declarator).2 (hnone declarator hmem)

/-- A node over a stretch of the first line, and the nodes below it. -/
def branch (type : String) (field : Option String) (first last : Nat) (children : List Node) :
    Node :=
  { Node.leaf type field 0 first last with children }

/-- The tree of `char *(*t[2])(int)`. -/
def functionTable : Site :=
  let array := branch "array_declarator" (some "declarator") 8 12
    [.leaf "identifier" (some "declarator") 0 8 9, .leaf "number_literal" (some "size") 0 10 11]
  let function := branch "function_declarator" (some "declarator") 6 18
    [branch "parenthesized_declarator" (some "declarator") 6 13
      [branch "pointer_declarator" none 7 12 [array]],
    .leaf "parameter_list" (some "parameters") 0 13 18]
  .ofRoot (branch "declaration" none 0 18
    [.leaf "primitive_type" (some "type") 0 0 4,
    branch "pointer_declarator" (some "declarator") 5 18 [function]])

/-- A table of pointers to functions that return pointers is told by its name, with two stars. -/
theorem ofNode_declares_iff_functionTable :
    let doc : Document := .ofText "char *(*t[2])(int)" ""
    let node := functionTable.node
    node.type ∈ declaringTypes ∧
    classifier.classify functionTable doc = .ok (some ⟨.variableDecl, "char** t(int)", "t"⟩) ∧
    (∀ declarator ∈ namingDeclarators node, ¬ RepeatsParameters declarator) ∧
    (namingDeclarators node).map (fun d => (Declarator.ofNode d).pointers) = [2] ∧
    List.Forall₂ Declares (namingDeclarators node) (identifiers node) ∧
    textsOf (identifiers node) doc = .ok ["t"] := by
  intro doc node
  have htype : node.type ∈ declaringTypes := by decide
  have hclassify : classifier.classify functionTable doc =
      .ok (some ⟨.variableDecl, "char** t(int)", "t"⟩) := by decide +kernel
  have hnone : ∀ declarator ∈ namingDeclarators node, ¬ RepeatsParameters declarator := by
    decide +kernel
  obtain ⟨-, -, -, -, hnamed⟩ := Declarator.ofNode_declares_iff node functionTable doc
  exact ⟨htype, hclassify, hnone, by decide +kernel, (hnamed _ htype hclassify).2 hnone,
    by decide +kernel⟩

/-- The tree of `typedef int (*f(int a))(int b)`. -/
def functionTypedef : Site :=
  let inner := branch "function_declarator" (some "declarator") 14 22
    [.leaf "type_identifier" (some "declarator") 0 14 15,
    .leaf "parameter_list" (some "parameters") 0 15 22]
  .ofRoot (branch "type_definition" none 0 30
    [.leaf "primitive_type" (some "type") 0 8 11,
    branch "function_declarator" (some "declarator") 12 30
      [branch "parenthesized_declarator" (some "declarator") 12 23
        [branch "pointer_declarator" none 13 22 [inner]],
      .leaf "parameter_list" (some "parameters") 0 23 30]])

/-- A type of functions that return pointers to functions is not told by what it declares: the name
that is told has parameters in it. -/
theorem ofNode_declares_fails_functionTypedef :
    let doc : Document := .ofText "typedef int (*f(int a))(int b)" ""
    let name : Node := .leaf "type_identifier" (some "declarator") 0 14 15
    (∃ declarator, namingDeclarators functionTypedef.node = [declarator] ∧
      Declares declarator name ∧ ¬ Declares declarator (Declarator.ofNode declarator).identifier) ∧
    name.text doc = .ok "f" ∧
    classifier.classify functionTypedef doc =
      .ok (some ⟨.typeDecl, "typedef int f(int a)", "f(int a)"⟩) := by
  intro doc name
  have hname : name.text doc = .ok "f" := by decide
  have htold : classifier.classify functionTypedef doc =
      .ok (some ⟨.typeDecl, "typedef int f(int a)", "f(int a)"⟩) := by decide +kernel
  refine ⟨⟨_, rfl, ⟨?_, by decide⟩, fun h => absurd h.2 (by decide +kernel)⟩, hname, htold⟩
  -- Through the outer function declarator, the parentheses, the pointer and the inner one.
  exact ⟨_, .step (.inl rfl) rfl (.step (.inr (by decide)) rfl (.step (.inr (by decide)) rfl
    (.step (.inl rfl) rfl (.refl name))))⟩

end CursorScope.CNodes
