import CursorScope.Finder
import CursorScope.Proofs.Chain
import CursorScope.Proofs.Describe.Classification
import CursorScope.Proofs.Describe.Kinds
import CursorScope.Proofs.Imports
import CursorScope.Proofs.Layout

/-!
# Finders do not fail on ordered trees

In a tree where no node ends before it starts, every node that is read has a range, so neither the
classifier of a language (`Language.classify_ok`) nor the search for imports
(`Language.imports_ok`) fails, wherever the nodes lie. Only the last line that is shown could be
missing: a scope other than the root contains the clamped target, so it starts in the document, and
`Finder.extract_ok` needs to know of the root only that its code is not shown.
-/

namespace CursorScope

/-! ## Ordered trees are like themselves -/

/-- A node is the same as itself where it does not end before it starts. -/
def Node.SameOrdered (node other : Node) : Prop := node = other ∧ node.startPoint ≤ node.endPoint

variable {root : Node} {doc : Document}

theorem Node.SameOrdered.reading (doc : Document) : Reading SameOrdered Eq doc doc where
  congruence := .eq
  text := by
    rintro node _ ⟨rfl, hnode⟩
    unfold Node.text
    rw [range_eq_ok doc hnode]
    exact .ok rfl
  textBefore := by
    rintro node _ next _ ⟨rfl, hnode⟩ ⟨rfl, hnext⟩
    unfold Node.textBefore
    rw [range_eq_ok doc hnode, range_eq_ok doc hnext]
    exact .ok rfl

theorem Node.Ordered.alike (h : root.Ordered) : root.Alike SameOrdered root :=
  .refl_of_all (fun _ hnode => ⟨rfl, hnode⟩) h

theorem Node.Ordered.aboveAlike {nodes : List Node} (h : ∀ node ∈ nodes, node.Ordered) :
    AboveAlike SameOrdered nodes nodes := by
  induction nodes with
  | nil => exact .plain (by simp) (by simp)
  | cons node rest ih =>
      obtain ⟨hnode, hrest⟩ := List.forall_mem_cons.1 h
      exact .cons hnode.alike (ih hrest)

theorem Node.Ordered.site_alike (h : root.Ordered) {site : Site} (hsite : site ∈ root.sites []) :
    Site.Alike SameOrdered site site where
  node := Ordered.alike (h.of_mem_sites hsite)
  above := Ordered.aboveAlike (h.of_mem_above (by simp) hsite)

/-! ## What is read of an ordered tree -/

variable (language : Language)

/-- The classifier of a language does not fail in an ordered tree. -/
theorem Language.classify_ok (doc : Document) (h : root.Ordered) {site : Site}
    (hsite : site ∈ root.sites []) :
    ∃ answer, language.classifier.classify site doc = .ok answer := by
  have hreading := Node.SameOrdered.reading doc
  exact ((language.respects hreading).classify hreading (h.site_alike hsite)).exists_ok

theorem Language.imports_ok (doc : Document) (h : root.Ordered) :
    ∃ found, language.classifier.imports root doc = .ok found :=
  ((Node.SameOrdered.reading doc).imports language.classifier h.alike).exists_ok

/-- The chain of an ordered tree consists of the scopes that are reported for the sites of the
descent to the target. -/
theorem Language.chain_eq (doc : Document) (h : root.Ordered) (target : Range) (arena : Arena) :
    ∃ sites, Descent doc target (.ofRoot root) sites ∧
      (language.classifier.chain root target doc arena).2 =
        .ok (innermostOfRanges ((language.classifier.reports doc arena.size sites).map (·.2))) := by
  rcases language.classifier.chain_cases doc h target arena with
    ⟨site, hsite, failure, hfailure, -⟩ | ⟨sites, hdescent, hchain⟩
  · obtain ⟨answer, hanswer⟩ := language.classify_ok doc h hsite
    rw [hanswer] at hfailure
    cases hfailure
  · exact ⟨sites, hdescent, by rw [hchain]⟩

/-- Every scope of a chain that stands alone contains the target, unless it is that of the root. -/
theorem Language.contains_of_mem_chain {target : Range} {arena : Arena} {scopes : List Scope}
    (h : root.Ordered) (hroot : (language.classifier.kindOf root.type).isCodeRange = false)
    (hchain : (language.classifier.chain root target doc arena).2 = .ok scopes) {scope : Scope}
    (hscope : scope ∈ scopes) (halone : scope.standsAlone = true) :
    scope.range.contains target := by
  obtain ⟨sites, hdescent, hreports⟩ := language.chain_eq doc h target arena
  rw [hreports] at hchain
  cases hchain
  obtain ⟨report, hreport, rfl⟩ := List.mem_map.1 ((innermostOfRanges_sublist _).subset hscope)
  obtain ⟨classification, hclassify, htells⟩ := reports_of_mem_reports hreport
  have hsite := (language.classifier.reports_sublist _ _ _).subset (List.mem_map_of_mem hreport)
  rcases hdescent.contains_target h _ hsite with hfirst | hcontains
  · -- The root is the only site that need not contain the target, and it does not stand alone.
    have halone : classification.kind.standsAlone = true := by
      rw [Kind.standsAlone_iff, ← htells.kind]
      exact htells.standsAlone.1 halone
    have hkind := Classifier.isCodeRange_of_classify hclassify halone
    rw [hfirst] at hkind
    exact absurd (hroot.symm.trans hkind) Bool.false_ne_true
  · rwa [range_eq_extent_of_mem_reports hreport]

/-- An ordered tree has a context around every target. -/
theorem Language.contextAt_ok {tree : Tree} (h : tree.root.Ordered) (doc : Document)
    (target : Range) :
    ∃ scopes, ∃ found : Imports,
      (language.classifier.chain tree.root (doc.clamp target) doc .empty).2 = .ok scopes ∧
      language.classifier.contextAt tree doc target =
        .ok ⟨scopes, found.includes, found.imports⟩ := by
  obtain ⟨sites, -, hchain⟩ := language.chain_eq doc h (doc.clamp target) .empty
  obtain ⟨found, hfound⟩ := language.imports_ok doc h
  refine ⟨_, found, hchain, ?_⟩
  unfold Classifier.contextAt
  rw [hchain, hfound]
  rfl

/-! ## What a finder computes -/

/-- A tree without an error at its root or at its start is usable. -/
theorem ParserAnswer.tree?_parsed {tree : Tree} (hroot : tree.root.type ≠ Node.errorType)
    (hstart : tree.root.opensWithError = false) : (ParserAnswer.parsed tree).tree? = .ok tree := by
  simp only [tree?, hroot, hstart, Bool.false_eq_true, or_self, ↓reduceIte]

/-- A usable tree is the one that the parser gave. -/
theorem ParserAnswer.eq_parsed_of_tree? {answer : ParserAnswer} {tree : Tree}
    (h : answer.tree? = .ok tree) : answer = .parsed tree := by
  cases answer with
  | parsed given =>
      simp only [tree?] at h
      split at h
      · cases h
      · rw [Except.ok.inj h]
  | nothing => cases h
  | complaint reason => cases h

namespace Finder

variable (finder : Finder) (answer : ParserAnswer) (target : Range)

theorem value_contextIn (tree : Tree) (doc : Document) :
    (finder.contextIn tree doc target).value =
      finder.language.classifier.contextAt tree doc target := by
  unfold contextIn
  cases finder.language.classifier.contextAt tree doc target <;> rfl

theorem value_collectContext (doc : Document) :
    (finder.collectContext doc answer target).value =
      match answer.tree? with
      | .error _ => .ok .empty
      | .ok tree => finder.language.classifier.contextAt tree doc target := by
  unfold collectContext
  rw [Logged.value_bind, Language.value_parse]
  cases answer.tree? with
  | error failure => rfl
  | ok tree => exact finder.value_contextIn target tree doc

/-- The budget of a request, or else that of the finder. -/
def budgetFor (maxLines : Option Int) : Budget :=
  match maxLines with
  | none => finder.budget
  | some n => .ofInt n

theorem value_requestedBudget (maxLines : Option Int) :
    (finder.requestedBudget maxLines).value = finder.budgetFor maxLines := by
  cases maxLines with
  | none => rfl
  | some n => exact Budget.value_requested n

theorem value_excerptIn (context : Context) (doc : Document) (budget : Budget) :
    (excerptIn context doc target budget).value =
      (context.excerpt doc target budget).mapError .missingLine := by
  unfold excerptIn
  rw [Logged.value_bind, Context.value_reportedExcerpt]
  cases context.excerpt doc target budget <;> rfl

theorem value_extract (doc : Document) (maxLines : Option Int) {context : Context}
    (h : (finder.collectContext doc answer target).value = .ok context) :
    (finder.extract doc answer target maxLines).value =
      (context.excerpt doc (doc.clamp target) (finder.budgetFor maxLines)).mapError
        .missingLine := by
  unfold extract
  rw [Logged.value_bind, Logged.value_bind, h, value_requestedBudget]
  exact value_excerptIn _ context doc _

/-- An excerpt of a finder is made from a context that the finder collects. -/
theorem exists_context_of_extract {doc : Document} {maxLines : Option Int} {e : Excerpt}
    (h : (finder.extract doc answer target maxLines).value = .ok e) :
    ∃ context, (finder.collectContext doc answer target).value = .ok context ∧
      context.excerpt doc (doc.clamp target) (finder.budgetFor maxLines) = .ok e := by
  cases hcontext : (finder.collectContext doc answer target).value with
  | error failure =>
      cases maxLines <;> simp [extract, hcontext] at h
  | ok context =>
      rw [value_extract finder answer target doc maxLines hcontext] at h
      cases hexcerpt : context.excerpt doc (doc.clamp target) (finder.budgetFor maxLines) with
      | error failure =>
          rw [hexcerpt] at h
          cases h
      | ok other =>
          rw [hexcerpt] at h
          cases h
          exact ⟨context, rfl, hexcerpt⟩

/-- The context that is collected with a usable ordered tree has the scopes that are reported on the
descent to the clamped target. -/
theorem collectContext_of_descent {doc : Document} {answer : ParserAnswer} {tree : Tree}
    (htree : answer.tree? = .ok tree) (hordered : tree.root.Ordered) {sites : List Site}
    (hdescent : Descent doc (doc.clamp target) (.ofRoot tree.root) sites) :
    ∃ found : Imports, finder.language.classifier.imports tree.root doc = .ok found ∧
      (finder.collectContext doc answer target).value =
        .ok ⟨innermostOfRanges ((finder.language.classifier.reports doc 0 sites).map (·.2)),
          found.includes, found.imports⟩ := by
  obtain ⟨others, hothers, hchain⟩ :=
    finder.language.chain_eq doc hordered (doc.clamp target) .empty
  have hsites : others = sites := hothers.unique hdescent
  obtain ⟨found, hfound⟩ := finder.language.imports_ok doc hordered
  refine ⟨found, hfound, ?_⟩
  rw [value_collectContext, htree]
  dsimp only
  unfold Classifier.contextAt
  rw [hchain, hfound, hsites]
  rfl

/-- In a context that is collected with an ordered tree, or without a tree, every scope that stands
alone contains the clamped target. -/
theorem collectContext_contains (doc : Document) {answer : ParserAnswer}
    (hordered : ∀ tree, answer = .parsed tree → tree.root.Ordered)
    (hroot : ∀ tree, answer = .parsed tree →
      (finder.language.classifier.kindOf tree.root.type).isCodeRange = false) :
    ∃ context, (finder.collectContext doc answer target).value = .ok context ∧
      ∀ scope ∈ context.scopes, scope.standsAlone = true →
        scope.range.contains (doc.clamp target) = true := by
  rw [value_collectContext]
  cases htree : answer.tree? with
  | error failure => exact ⟨.empty, rfl, fun scope hscope => by cases hscope⟩
  | ok tree =>
      have hanswer := ParserAnswer.eq_parsed_of_tree? htree
      have htarget := hordered tree hanswer
      obtain ⟨scopes, found, hchain, hcontext⟩ :=
        finder.language.contextAt_ok htarget doc target
      exact ⟨_, hcontext, fun scope hscope halone =>
        finder.language.contains_of_mem_chain htarget (hroot tree hanswer) hchain hscope halone⟩

/-- A context that is collected with an ordered tree, or without a tree, has only scopes that start
in the document, as far as they stand alone. -/
theorem collectContext_ok (doc : Document) {answer : ParserAnswer}
    (hordered : ∀ tree, answer = .parsed tree → tree.root.Ordered)
    (hroot : ∀ tree, answer = .parsed tree →
      (finder.language.classifier.kindOf tree.root.type).isCodeRange = false) :
    ∃ context, (finder.collectContext doc answer target).value = .ok context ∧
      (doc.lines ≠ [] → ∀ scope ∈ context.scopes, scope.standsAlone = true →
        scope.range.start.line < doc.lines.length) := by
  obtain ⟨context, hcontext, hcontains⟩ := finder.collectContext_contains target doc hordered hroot
  -- The clamped target is in the document, and a scope starts no later than the target.
  refine ⟨context, hcontext, fun hdoc scope hscope halone => ?_⟩
  exact doc.line_start_lt_of_contains_clamp hdoc (hcontains scope hscope halone)

/-- A context whose scopes that stand alone contain the clamped target gives an excerpt. -/
theorem extract_of_contains {doc : Document} {answer : ParserAnswer} {context : Context}
    (maxLines : Option Int)
    (hcontext : (finder.collectContext doc answer target).value = .ok context)
    (hcontains : ∀ scope ∈ context.scopes, scope.standsAlone = true →
      scope.range.contains (doc.clamp target) = true) :
    ∃ e, context.excerpt doc (doc.clamp target) (finder.budgetFor maxLines) = .ok e ∧
      (finder.extract doc answer target maxLines).value = .ok e := by
  obtain ⟨e, he, -⟩ := Context.excerpt_ok (doc.clamp target) (finder.budgetFor maxLines)
    fun hdoc scope hscope halone =>
      doc.line_start_lt_of_contains_clamp hdoc (hcontains scope hscope halone)
  refine ⟨e, he, ?_⟩
  rw [value_extract finder answer target doc maxLines hcontext, he]
  rfl

/-- On every document, empty or not, with every target and budget, a finder collects a context and
makes an excerpt, if the parser gives no tree or an ordered one whose root is not of a kind whose
code is shown. The shown lines are lines of the document. -/
theorem extract_ok (doc : Document) (maxLines : Option Int) {answer : ParserAnswer}
    (hordered : ∀ tree, answer = .parsed tree → tree.root.Ordered)
    (hroot : ∀ tree, answer = .parsed tree →
      (finder.language.classifier.kindOf tree.root.type).isCodeRange = false) :
    ∃ context excerpt,
      (finder.collectContext doc answer target).value = .ok context ∧
      (finder.extract doc answer target maxLines).value = .ok excerpt ∧
      (doc.lines ≠ [] → ∃ shown : LineSpan, shown.first ≤ shown.last ∧
        shown.last < doc.lines.length ∧
        doc.codeOf shown = .ok (excerpt.code, excerpt.codeRange)) := by
  obtain ⟨context, hcontext, hstarts⟩ := finder.collectContext_ok target doc hordered hroot
  obtain ⟨excerpt, hexcerpt, hshown⟩ :=
    Context.excerpt_ok (doc.clamp target) (finder.budgetFor maxLines) hstarts
  refine ⟨context, excerpt, hcontext, ?_, hshown⟩
  rw [value_extract finder answer target doc maxLines hcontext, hexcerpt]
  rfl

end Finder

/-- A function of Go that reaches past the end of its file, with a name that lies outside it. -/
def strayFunction : Node :=
  ⟨0, "source_file", true, false, none, 0, 12, ⟨0, 0⟩, ⟨1, 0⟩,
    [⟨1, "function_declaration", true, false, none, 0, 40, ⟨0, 0⟩, ⟨9, 3⟩,
      [⟨2, "identifier", true, false, some "name", 50, 54, ⟨12, 1⟩, ⟨12, 5⟩, []⟩]⟩]⟩

end CursorScope
