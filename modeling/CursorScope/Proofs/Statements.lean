import CursorScope.Proofs.Safety
import Mathlib.Algebra.Ring.Nat

/-!
# Statements that a search reaches

Which import and include statements are found, without the recursion that finds them. A site is
reached when every node above it is entered: statements are not entered, and scopes only at the
root. The statements of a file are the reached ones among all sites of its tree, in preorder
(`Site.statements_eq_filter`). A search with a stack of pending sites finds what its pending sites
hold, after what it has found before (`Classifier.scan_eq`), so it ends with the same imports
(`Classifier.imports_reached`).
-/

namespace CursorScope

/-- The kinds of the statements that are told as imports or includes. -/
def Kind.isStatement : Kind → Bool
  | importDecl | includeDecl => true
  | _ => false

/-! ## Reached sites -/

namespace Site

/-- The children of a site are searched unless it is a statement, or a scope below the root. -/
def isEntered (kindOf : String → Kind) (site : Site) : Bool :=
  let kind := kindOf site.node.type
  !kind.isStatement && !(kind.isScope && !site.above.isEmpty)

end Site

/-- All of the nodes above a site, its parent first, are entered. -/
def allEntered (kindOf : String → Kind) : List Node → Bool
  | [] => true
  | node :: above => Site.isEntered kindOf ⟨node, above⟩ && allEntered kindOf above

namespace Site

/-- A search from the root comes down to a site. -/
def isReached (kindOf : String → Kind) (site : Site) : Bool := allEntered kindOf site.above

/-- The import and include statements that are found from a site on. -/
def statements (kindOf : String → Kind) (site : Site) : List Node :=
  if site.above.isEmpty then site.node.fileStatements kindOf else site.node.statements kindOf

end Site

/-- The sites of a kind that a search from the root reaches, in preorder. -/
def Classifier.reached (classifier : Classifier) (kind : Kind) (root : Node) : List Site :=
  (root.sites []).filter fun site =>
    site.isReached classifier.kindOf && classifier.kindOf site.node.type == kind

/-! ## Statements from a site on -/

variable {kindOf : String → Kind}

/-- The search from a site on: a statement is told, and what is entered is searched child by
child. -/
theorem Site.statements_eq (kindOf : String → Kind) (site : Site) :
    site.statements kindOf =
      if (kindOf site.node.type).isStatement then [site.node]
      else if site.isEntered kindOf then site.children.flatMap (·.statements kindOf)
      else [] := by
  have hchildren : site.children.flatMap (·.statements kindOf) =
      Node.statementsOfAll kindOf site.node.children := by
    rw [Node.statementsOfAll_eq_flatMap, children, List.flatMap_map]
    rfl
  rw [hchildren, statements, isEntered, Node.fileStatements, Node.statements_eq]
  cases kindOf site.node.type <;> cases site.above <;> rfl

/-- Below a site that is not entered, no site is reached. -/
theorem allEntered_of_mem_sites {node : Node} {above : List Node} {site : Site}
    (hsite : site ∈ node.sites above) (h : site.isReached kindOf = true) :
    allEntered kindOf above = true := by
  induction node using Node.inductionOnChildren generalizing above with
  | step node ih =>
      rcases Node.mem_sites_iff.1 hsite with rfl | ⟨child, hchild, hsite⟩
      · exact h
      · have hentered := ih child hchild hsite
        rw [allEntered, Bool.and_eq_true] at hentered
        exact hentered.2

/-- A site that is told as an import or include when it is reached. -/
def Site.isTold (kindOf : String → Kind) (site : Site) : Bool :=
  site.isReached kindOf && (kindOf site.node.type).isStatement

/-- What is found from a reached site on are the statements that are reached below it, in
preorder. -/
theorem Site.statements_eq_filter {node : Node} {above : List Node}
    (h : allEntered kindOf above = true) :
    statements kindOf ⟨node, above⟩ =
      ((node.sites above).filter (isTold kindOf)).map (·.node) := by
  induction node using Node.inductionOnChildren generalizing above with
  | step node ih =>
      rw [statements_eq, Node.sites_eq, Node.sitesOfAll_eq_flatMap, List.filter_cons]
      have hhere : isTold kindOf ⟨node, above⟩ = (kindOf node.type).isStatement := by
        simp only [isTold, isReached, h, Bool.true_and]
      rw [hhere]
      cases hentered : isEntered kindOf ⟨node, above⟩ with
      | false =>
          have hbelow : (node.children.flatMap (·.sites (node :: above))).filter (isTold kindOf) =
              [] := by
            refine List.filter_eq_nil_iff.2 fun site hsite htold => ?_
            obtain ⟨child, -, hsite⟩ := List.mem_flatMap.1 hsite
            have hreached := (Bool.and_eq_true_iff.1 htold).1
            have hall := allEntered_of_mem_sites hsite hreached
            rw [allEntered, hentered] at hall
            cases hall
          rw [hbelow]
          cases (kindOf node.type).isStatement <;> rfl
      | true =>
          have hnot : (kindOf node.type).isStatement = false := by
            rw [isEntered, Bool.and_eq_true, Bool.not_eq_true'] at hentered
            exact hentered.1
          have hall : allEntered kindOf (node :: above) = true := by
            rw [allEntered, hentered, h]
            rfl
          rw [hnot, if_neg Bool.false_ne_true, if_neg Bool.false_ne_true, if_pos rfl,
            List.filter_flatMap, List.map_flatMap, children, List.flatMap_map]
          exact List.flatMap_congr fun child hchild => ih child hchild hall

/-! ## Texts of statements -/

namespace Imports

/-- Nothing is found. -/
def none : Imports := ⟨[], []⟩

/-- The text of one statement is found. -/
def ofText (kind : Kind) (text : String) : Imports :=
  ⟨if kind == .importDecl then [text] else [], if kind == .includeDecl then [text] else []⟩

/-- What one search finds, and then the next one. -/
def followedBy (first next : Imports) : Imports :=
  ⟨first.imports ++ next.imports, first.includes ++ next.includes⟩

theorem followedBy_none (found : Imports) : found.followedBy none = found := by
  simp only [followedBy, none, List.append_nil]

theorem followedBy_assoc (first next last : Imports) :
    (first.followedBy next).followedBy last = first.followedBy (next.followedBy last) := by
  simp only [followedBy, List.append_assoc]

end Imports

namespace Classifier

variable (classifier : Classifier) (doc : Document)

/-- The texts of statements on one line each, imports and includes apart. -/
def importsAmong : List Node → Except RangeError Imports
  | [] => .ok .none
  | node :: rest => do
      let text ← node.statementText doc
      let others ← importsAmong rest
      return (Imports.ofText (classifier.kindOf node.type) text).followedBy others

theorem imports_eq_importsAmong (root : Node) :
    classifier.imports root doc =
      classifier.importsAmong doc (root.fileStatements classifier.kindOf) := by
  unfold imports
  generalize root.fileStatements classifier.kindOf = nodes
  induction nodes with
  | nil => rfl
  | cons node rest ih =>
      rw [importsAmong, ← ih, List.mapM_cons]
      cases node.statementText doc with
      | error failure => rfl
      | ok text =>
          cases rest.mapM fun node => do
              return (classifier.kindOf node.type, ← node.statementText doc) with
          | error failure => rfl
          | ok texts =>
              show Except.ok (Imports.mk _ _) = Except.ok (Imports.mk _ _)
              simp only [List.filter_cons]
              cases classifier.kindOf node.type <;> rfl

/-- The imports and the includes among statements are the texts of the nodes of these kinds. -/
theorem mapM_of_importsAmong {nodes : List Node} {found : Imports}
    (h : classifier.importsAmong doc nodes = .ok found) :
    (nodes.filter (classifier.kindOf ·.type == .importDecl)).mapM (·.statementText doc) =
        .ok found.imports ∧
      (nodes.filter (classifier.kindOf ·.type == .includeDecl)).mapM (·.statementText doc) =
        .ok found.includes := by
  induction nodes generalizing found with
  | nil =>
      cases h
      exact ⟨rfl, rfl⟩
  | cons node rest ih =>
      obtain ⟨text, htext, h⟩ := Except.bind_eq_ok_iff.1 h
      obtain ⟨others, hothers, h⟩ := Except.bind_eq_ok_iff.1 h
      obtain ⟨himports, hincludes⟩ := ih hothers
      cases h
      rw [List.filter_cons, List.filter_cons]
      cases classifier.kindOf node.type with
      | importDecl =>
          refine ⟨?_, hincludes⟩
          rw [if_pos (beq_self_eq_true _), List.mapM_cons, htext, himports]
          rfl
      | includeDecl =>
          refine ⟨himports, ?_⟩
          rw [if_pos (beq_self_eq_true _), List.mapM_cons, htext, hincludes]
          rfl
      | _ => exact ⟨himports, hincludes⟩

end Classifier

/-! ## A search with a stack -/

/-- The children of a node have fewer nodes together than the node. -/
theorem Node.sum_sizeOf_children_lt (node : Node) :
    (node.children.map sizeOf).sum < sizeOf node := by
  have hle (nodes : List Node) : (nodes.map sizeOf).sum ≤ sizeOf nodes := by
    induction nodes with
    | nil => exact Nat.zero_le _
    | cons node rest ih =>
        rw [List.map_cons, List.sum_cons, List.cons.sizeOf_spec]
        omega
  cases node with
  | mk label type named missing field startByte endByte startPoint endPoint children =>
      have hchildren : (children.map sizeOf).sum ≤ sizeOf children := hle children
      rw [mk.sizeOf_spec]
      dsimp only
      omega

namespace Classifier

variable (classifier : Classifier) (doc : Document)

/-- A search with a stack of pending sites, its top first, that has found some texts already. A
statement is told and not entered, a scope is entered only at the root, and the children of an
entered site come before all sites that were pending. -/
def scan : List Site → Imports → Except RangeError Imports
  | [], found => .ok found
  | site :: pending, found =>
      let kind := classifier.kindOf site.node.type
      if kind.isStatement then do
        let text ← site.node.statementText doc
        scan pending (found.followedBy (.ofText kind text))
      else if kind.isScope && !site.above.isEmpty then scan pending found
      else scan (site.children ++ pending) found
termination_by pending => (pending.map (sizeOf ·.node)).sum
decreasing_by
  all_goals
    have hchildren := site.node.sum_sizeOf_children_lt
    simp only [List.map_append, List.sum_append, List.map_cons, List.sum_cons, Site.children,
      List.map_map]
  · omega
  · omega
  · exact Nat.add_lt_add_right hchildren _

/-- What a search finds at its pending sites follows what it has found before. -/
theorem scan_eq (pending : List Site) (found : Imports) :
    classifier.scan doc pending found =
      found.followedBy <$>
        classifier.importsAmong doc (pending.flatMap (·.statements classifier.kindOf)) := by
  fun_induction classifier.scan doc pending found with
  | case1 found => exact congrArg Except.ok found.followedBy_none.symm
  | case2 site pending found kind hkind ih =>
      rw [List.flatMap_cons, Site.statements_eq, if_pos hkind, List.singleton_append, importsAmong]
      cases site.node.statementText doc with
      | error failure => rfl
      | ok text =>
          refine (ih text).trans ?_
          dsimp only [bind, Except.bind]
          cases classifier.importsAmong doc (pending.flatMap (·.statements classifier.kindOf)) with
          | error failure => rfl
          | ok others => exact congrArg Except.ok (Imports.followedBy_assoc ..)
  | case3 site pending found kind hkind hskipped ih =>
      have hentered : ¬ site.isEntered classifier.kindOf := by
        rw [Site.isEntered, Bool.and_eq_true, Bool.not_eq_true', Bool.not_eq_true']
        exact fun h => Bool.false_ne_true (h.2.symm.trans hskipped)
      rw [ih, List.flatMap_cons, Site.statements_eq, if_neg hkind, if_neg hentered,
        List.nil_append]
  | case4 site pending found kind hkind hkept ih =>
      have hentered : site.isEntered classifier.kindOf := by
        rw [Site.isEntered, Bool.and_eq_true, Bool.not_eq_true', Bool.not_eq_true']
        exact ⟨Bool.eq_false_iff.2 hkind, Bool.eq_false_iff.2 hkept⟩
      rw [ih, List.flatMap_cons, Site.statements_eq, if_neg hkind, if_pos hentered,
        List.flatMap_append]

/-- The reached sites of a kind of statements are those of the statements of the file that have this
kind. -/
theorem map_node_reached {kind : Kind} (hkind : kind.isStatement = true) (root : Node) :
    (classifier.reached kind root).map (·.node) =
      (root.fileStatements classifier.kindOf).filter (classifier.kindOf ·.type == kind) := by
  have hstatements : root.fileStatements classifier.kindOf =
      ((root.sites []).filter (Site.isTold classifier.kindOf)).map (·.node) :=
    @Site.statements_eq_filter classifier.kindOf root [] rfl
  rw [hstatements, List.filter_map, List.filter_filter, reached]
  congr 1
  refine List.filter_congr fun site _ => ?_
  rw [Bool.eq_iff_iff]
  simp only [Function.comp, Site.isTold, Bool.and_eq_true, beq_iff_eq]
  constructor
  · rintro ⟨hreached, rfl⟩
    exact ⟨rfl, hreached, hkind⟩
  · rintro ⟨rfl, hreached, -⟩
    exact ⟨hreached, rfl⟩

/-- In an ordered tree a search from any node finds the texts of the reached imports, and those of
the reached includes, each on one line and in preorder. A search with a stack ends with the same
texts. -/
theorem imports_reached {root : Node} (hordered : root.Ordered) :
    ∃ found, classifier.imports root doc = .ok found ∧
      classifier.scan doc [.ofRoot root] .none = .ok found ∧
      (classifier.reached .importDecl root).mapM (·.node.statementText doc) = .ok found.imports ∧
      (classifier.reached .includeDecl root).mapM (·.node.statementText doc) =
        .ok found.includes := by
  obtain ⟨found, hfound⟩ :=
    ((Node.SameOrdered.reading doc).imports classifier hordered.alike).exists_ok
  have hamong := (classifier.imports_eq_importsAmong doc root).symm.trans hfound
  obtain ⟨himports, hincludes⟩ := classifier.mapM_of_importsAmong doc hamong
  have htexts {kind : Kind} (hkind : kind.isStatement = true) :
      (classifier.reached kind root).mapM (·.node.statementText doc) =
        ((root.fileStatements classifier.kindOf).filter (classifier.kindOf ·.type == kind)).mapM
          (·.statementText doc) := by
    rw [← classifier.map_node_reached hkind root, List.mapM_map]
    rfl
  refine ⟨found, hfound, ?_, (htexts rfl).trans himports, (htexts rfl).trans hincludes⟩
  rw [scan_eq, List.flatMap_singleton]
  show _ <$> classifier.importsAmong doc (root.fileStatements classifier.kindOf) = _
  rw [hamong]
  rfl

end Classifier

/-- A function of Python with an import, another one under a condition, and a third one in an inner
function. -/
def functionWithImports : Node :=
  ⟨0, "function_definition", true, false, none, 0, 85, ⟨0, 0⟩, ⟨5, 16⟩,
    [⟨1, "block", true, false, some "body", 13, 85, ⟨1, 4⟩, ⟨5, 16⟩,
      [⟨2, "import_statement", true, false, none, 13, 22, ⟨1, 4⟩, ⟨1, 13⟩, []⟩,
        ⟨3, "if_statement", true, false, none, 27, 49, ⟨2, 4⟩, ⟨3, 16⟩,
          [⟨4, "block", true, false, some "consequence", 41, 49, ⟨3, 8⟩, ⟨3, 16⟩,
            [⟨5, "import_statement", true, false, none, 41, 49, ⟨3, 8⟩, ⟨3, 16⟩, []⟩]⟩]⟩,
        ⟨6, "function_definition", true, false, none, 54, 79, ⟨4, 4⟩, ⟨5, 16⟩,
          [⟨7, "block", true, false, some "body", 71, 79, ⟨5, 8⟩, ⟨5, 16⟩,
            [⟨8, "import_statement", true, false, none, 71, 79, ⟨5, 8⟩, ⟨5, 16⟩, []⟩]⟩]⟩]⟩]⟩

/-- A search from the outer function finds its own imports and none of the inner function. -/
theorem imports_reached_functionWithImports :
    let doc : Document := .ofText ("def f():\n    import  a\n    if x:\n        import b\n" ++
      "    def g():\n        import c") ""
    let classifier := PythonNodes.classifier
    functionWithImports.Ordered ∧
    (classifier.reached .importDecl functionWithImports).map (·.node.label) = [2, 5] ∧
    classifier.reached .includeDecl functionWithImports = [] ∧
    ∃ found, classifier.imports functionWithImports doc = .ok found ∧
      classifier.scan doc [.ofRoot functionWithImports] .none = .ok found ∧
      found = ⟨["import a", "import b"], []⟩ := by
  intro doc classifier
  have hordered : functionWithImports.Ordered := (Node.all_iff_sites []).2 (by decide)
  have hnone : classifier.reached .includeDecl functionWithImports = [] := by
    rw [← List.map_eq_nil_iff, classifier.map_node_reached rfl]
    decide
  have htexts : (classifier.reached .importDecl functionWithImports).mapM
      (·.node.statementText doc) = .ok ["import a", "import b"] := by decide +kernel
  obtain ⟨found, hfound, hscan, himports, hincludes⟩ := classifier.imports_reached doc hordered
  rw [hnone] at hincludes
  have hsame : found = ⟨["import a", "import b"], []⟩ := by
    cases found
    cases hincludes
    cases htexts.symm.trans himports
    rfl
  exact ⟨hordered, by decide, hnone, found, hfound, hscan, hsame⟩

end CursorScope
