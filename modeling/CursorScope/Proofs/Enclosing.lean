import CursorScope.Describe.PythonNodes
import CursorScope.Proofs.Chain

/-!
# The scopes that enclose a target

What a chain says about a tree. In a nested tree its ranges strictly contain one another, whatever
the siblings do (`Classifier.chain_strictly_nested`). Where the siblings are separated too, the
chain of a target that is not empty has exactly the ranges of the recognized nodes around the
target, each with the deepest of its nodes, and the chain of a cursor has the range of every
recognized node that the cursor is strictly inside of (`Classifier.chain_complete`). Both hold for
any classifier, as long as it does not fail at a node of the tree.
-/

namespace CursorScope

variable {classifier : Classifier} {doc : Document} {target : Range} {root : Node}

/-- The classifier fails at a node of the tree. -/
def Classifier.FailsIn (classifier : Classifier) (doc : Document) (root : Node)
    (failure : RangeError) : Prop :=
  ∃ site ∈ root.sites [], classifier.classify site doc = .error failure

/-- In a nested tree each scope that is reported on a descent contains the later ones. -/
theorem Descent.enclosing_reports {site : Site} {sites : List Site}
    (h : Descent doc target site sites) (hnested : site.node.Nested) (first : Nat) :
    Enclosing ((classifier.reports doc first sites).map (·.2)) := by
  have hsites :=
    (h.pairwise_extent_contains hnested).sublist (classifier.reports_sublist doc first sites)
  refine List.pairwise_map.2 ((List.pairwise_map.1 hsites).imp_of_mem ?_)
  intro outer inner houter hinner hcontains
  rw [range_eq_extent_of_mem_reports houter, range_eq_extent_of_mem_reports hinner]
  exact hcontains

/-- In a nested tree each range of a chain strictly contains the later ones, and the scope of any
node but the root contains the target. -/
theorem Classifier.chain_strictly_nested (classifier : Classifier) (doc : Document)
    (hnested : root.Nested) (target : Range) (arena : Arena) :
    (∃ failure, classifier.FailsIn doc root failure ∧
      (classifier.chain root target doc arena).2 = .error failure) ∨
    ∃ scopes, (classifier.chain root target doc arena).2 = .ok scopes ∧
      scopes.Pairwise (fun outer inner => outer.range.strictlyContains inner.range) ∧
      ∀ scope ∈ scopes,
        (classifier.chain root target doc arena).1.resolve? scope.handle ≠ some root →
          scope.range.contains target := by
  rcases classifier.chain_cases doc hnested.ordered target arena with
    ⟨site, hsite, failure, hclassify, hfailure⟩ | ⟨sites, hdescent, hchain⟩
  · exact .inl ⟨failure, ⟨site, hsite, hclassify⟩, hfailure⟩
  · rw [hchain]
    refine .inr ⟨_, rfl, pairwise_innermostOfRanges (hdescent.enclosing_reports hnested _), ?_⟩
    intro scope hscope hroot
    obtain ⟨report, hreport, rfl⟩ :=
      List.mem_map.1 ((innermostOfRanges_sublist _).subset hscope)
    have hsite := (classifier.reports_sublist _ _ _).subset (List.mem_map_of_mem hreport)
    rw [range_eq_extent_of_mem_reports hreport]
    -- The descent enters only children that contain the target, so the root alone need not.
    rcases hdescent.contains_target hnested.ordered _ hsite with hfirst | hcontains
    · rw [resolve?_of_mem_reports hreport, hfirst] at hroot
      exact absurd rfl hroot
    · exact hcontains

/-- A call with two calls in it that overlap, the second one with an empty name at its start. -/
def overlappingCalls : Node :=
  ⟨0, "module", true, false, none, 0, 9, ⟨0, 0⟩, ⟨1, 0⟩,
    [⟨1, "call", true, false, none, 0, 8, ⟨0, 0⟩, ⟨0, 8⟩,
      [⟨2, "identifier", true, false, some "function", 0, 1, ⟨0, 0⟩, ⟨0, 1⟩, []⟩,
        ⟨3, "call", true, false, none, 2, 6, ⟨0, 2⟩, ⟨0, 6⟩, []⟩,
        ⟨4, "call", true, false, none, 4, 7, ⟨0, 4⟩, ⟨0, 7⟩,
          [⟨5, "identifier", true, true, some "function", 4, 4, ⟨0, 4⟩, ⟨0, 4⟩, []⟩]⟩]⟩]⟩

/-- The chain of a cursor where two calls overlap has the narrower one, inside the call around
both. -/
theorem chain_strictly_nested_overlappingCalls :
    let doc : Document := .ofText "f(g(1)))\n" ""
    let target : Range := .cursor ⟨0, 5⟩
    let found := PythonNodes.classifier.chain overlappingCalls target doc .empty
    let scopes : List Scope :=
      [⟨0, .call, "function call f", "function call", false, ⟨⟨0, 0⟩, ⟨0, 8⟩, by decide⟩⟩,
        ⟨1, .call, "function call", "function call", false, ⟨⟨0, 4⟩, ⟨0, 7⟩, by decide⟩⟩]
    overlappingCalls.Nested ∧ found.2 = .ok scopes ∧
    scopes.Pairwise (fun outer inner => outer.range.strictlyContains inner.range) ∧
    ∀ scope ∈ scopes, found.1.resolve? scope.handle ≠ some overlappingCalls →
      scope.range.contains target := by
  intro doc target found scopes
  have hnested : overlappingCalls.Nested := (Node.all_iff_sites []).2 (by decide)
  have hfound : found.2 = .ok scopes := by decide +kernel
  rcases PythonNodes.classifier.chain_strictly_nested doc hnested target .empty with
    ⟨failure, -, hfailure⟩ | ⟨others, hothers, hstrictly, hcontains⟩
  · cases hfound.symm.trans hfailure
  · cases hfound.symm.trans hothers
    exact ⟨hnested, hfound, hstrictly, hcontains⟩

section Reports

variable {sites : List Site} {first : Nat} {report : Site × Scope}

theorem Descent.mem_sites_of_mem_reports (h : Descent doc target (.ofRoot root) sites)
    (hreport : report ∈ classifier.reports doc first sites) : report.1 ∈ root.sites [] :=
  h.mem_sites _ ((classifier.reports_sublist doc first sites).subset (List.mem_map_of_mem hreport))

theorem Descent.range_of_mem_reports (h : Descent doc target (.ofRoot root) sites)
    (hnested : root.Nested) (hreport : report ∈ classifier.reports doc first sites) :
    report.1.node.range doc = .ok report.2.range := by
  rw [range_eq_extent_of_mem_reports hreport]
  exact Node.range_eq_ok_extent doc
    (hnested.of_mem_sites (h.mem_sites_of_mem_reports hreport)).here.1

/-- Each report of a descent describes the site that it is about. -/
theorem Descent.describes_of_mem_reports (h : Descent doc target (.ofRoot root) sites)
    (hnested : root.Nested) (hreport : report ∈ classifier.reports doc first sites) :
    report.2.Describes classifier doc report.1 := by
  obtain ⟨classification, hclassify, hreports⟩ := reports_of_mem_reports hreport
  refine hreports.describes hclassify ?_
  rw [← range_eq_extent_of_mem_reports hreport]
  exact h.range_of_mem_reports hnested hreport

/-- Each report of a descent to a target in the root contains the target. -/
theorem Descent.contains_of_mem_reports (h : Descent doc target (.ofRoot root) sites)
    (hnested : root.Nested) {bounds : Range} (hbounds : root.range doc = .ok bounds)
    (htarget : bounds.contains target)
    (hreport : report ∈ classifier.reports doc first sites) : report.2.range.contains target := by
  have hsite := (classifier.reports_sublist _ _ _).subset (List.mem_map_of_mem hreport)
  rw [range_eq_extent_of_mem_reports hreport]
  rcases h.contains_target hnested.ordered _ hsite with hroot | hcontains
  · rw [hroot]
    show (root.extent doc).contains target
    rwa [← Node.eq_extent_of_range doc hnested.here.1 hbounds]
  · exact hcontains

end Reports

/-- The reports of a descent in a nested tree with separated siblings include a scope for every
recognized site whose range holds the target. -/
theorem Descent.exists_report {sites : List Site} (h : Descent doc target (.ofRoot root) sites)
    (hnested : root.Nested) (hseparated : root.Separated) (first : Nat) {site : Site}
    {range : Range} (hsite : site ∈ root.sites [])
    (hrecognized : classifier.Recognizes doc site range) (hholds : range.Holds target) :
    ∃ scope, (site, scope) ∈ classifier.reports doc first sites ∧ scope.range = range := by
  obtain ⟨⟨classification, hclassify⟩, hrange⟩ := hrecognized
  have hextent := Node.eq_extent_of_range doc (hnested.of_mem_sites hsite).here.1 hrange
  have hmem := h.mem_of_holds hnested hseparated hsite (hextent ▸ hholds)
  obtain ⟨scope, hscope⟩ := exists_mem_reports first hmem hclassify
  exact ⟨scope, hscope, (range_eq_extent_of_mem_reports hscope).trans hextent.symm⟩

/-- A scope of a chain describes the deepest of the recognized sites on the descent that have its
range. -/
theorem deepest_of_mem_chain {sites : List Site} {first : Nat} {scope : Scope}
    (h : Descent doc target (.ofRoot root) sites) (hnested : root.Nested)
    (hscope : scope ∈ innermostOfRanges ((classifier.reports doc first sites).map (·.2))) :
    ∃ site, (site, scope) ∈ classifier.reports doc first sites ∧
      ∀ report ∈ classifier.reports doc first sites, report.2.range = scope.range →
        report.1 = site ∨ report.1.above.length < site.above.length := by
  obtain ⟨before, after, hsplit, hafter⟩ :=
    mem_innermostOfRanges (h.enclosing_reports hnested first) hscope
  obtain ⟨reportsBefore, reportsFrom, hreports, -, hfrom⟩ := List.map_eq_append_iff.1 hsplit
  obtain ⟨⟨site, _⟩, reportsAfter, rfl, rfl, hmap⟩ := List.map_eq_cons_iff.1 hfrom
  refine ⟨site, by simp [hreports], fun report hreport hrange => ?_⟩
  -- Reports come in the order of the descent, so an earlier one is higher up in the tree.
  have hdepth := h.pairwise_depth_lt.sublist (classifier.reports_sublist doc first sites)
  rw [hreports] at hreport
  rw [hreports, List.pairwise_map, List.pairwise_append] at hdepth
  rcases List.mem_append.1 hreport with hbefore | hreport
  · exact .inr (hdepth.2.2 report hbefore _ List.mem_cons_self)
  · rcases List.mem_cons.1 hreport with rfl | hlater
    · exact .inl rfl
    · refine absurd hrange.symm (hafter report.2 ?_)
      rw [← hmap]
      exact List.mem_map_of_mem hlater

/-- What a complete chain says about the recognized nodes of a tree that contain a target. -/
structure CompleteChain (classifier : Classifier) (doc : Document) (root : Node) (target : Range)
    (arena : Arena) (scopes : List Scope) : Prop where
  /-- The scopes come from the outside in, and no range comes twice. -/
  nested : scopes.Pairwise fun outer inner => outer.range.strictlyContains inner.range
  /-- The ranges are those of all recognized nodes that contain the target. -/
  mem_ranges_iff : ∀ range, range ∈ scopes.map (·.range) ↔
    range.contains target ∧ ∃ site ∈ root.sites [], classifier.Recognizes doc site range
  /-- Each scope describes the deepest of the recognized nodes that have its range. -/
  deepest : ∀ scope ∈ scopes, ∃ site ∈ root.sites [],
    arena.resolve? scope.handle = some site.node ∧ scope.Describes classifier doc site ∧
    ∀ other ∈ root.sites [], classifier.Recognizes doc other scope.range →
      other = site ∨ other.above.length < site.above.length

/-- In a nested tree with separated siblings, the chain of a target in the root is complete if the
target is not empty, and otherwise has the range of every recognized node that the target is
strictly inside of. -/
theorem Classifier.chain_complete (classifier : Classifier) (doc : Document)
    (hnested : root.Nested) (hseparated : root.Separated) {target bounds : Range}
    (hbounds : root.range doc = .ok bounds) (htarget : bounds.contains target) (arena : Arena) :
    (∃ failure, classifier.FailsIn doc root failure ∧
      (classifier.chain root target doc arena).2 = .error failure) ∨
    ∃ scopes, (classifier.chain root target doc arena).2 = .ok scopes ∧
      (target.isEmpty = false → CompleteChain classifier doc root target
        (classifier.chain root target doc arena).1 scopes) ∧
      (target.isEmpty = true → ∀ site ∈ root.sites [], ∀ range,
        classifier.Recognizes doc site range → range.start < target.start →
          target.stop < range.stop → range ∈ scopes.map (·.range)) := by
  rcases classifier.chain_cases doc hnested.ordered target arena with
    ⟨site, hsite, failure, hclassify, hfailure⟩ | ⟨sites, hdescent, hchain⟩
  · exact .inl ⟨failure, ⟨site, hsite, hclassify⟩, hfailure⟩
  · rw [hchain]
    -- The descent misses no recognized site that holds the target, and no range gets lost later.
    have hfound {site : Site} {range : Range} (hsite : site ∈ root.sites [])
        (hrecognized : classifier.Recognizes doc site range) (hholds : range.Holds target) :
        range ∈ (innermostOfRanges ((classifier.reports doc arena.size sites).map (·.2))).map
          (·.range) := by
      obtain ⟨scope, hscope, hrange⟩ :=
        hdescent.exists_report hnested hseparated arena.size hsite hrecognized hholds
      obtain ⟨kept, hkept, hsame⟩ := exists_mem_innermostOfRanges (List.mem_map_of_mem hscope)
      exact List.mem_map.2 ⟨kept, hkept, hsame.trans hrange⟩
    refine .inr ⟨_, rfl, fun hempty => ⟨?_, fun range => ⟨?_, ?_⟩, fun scope hscope => ?_⟩, ?_⟩
    · exact pairwise_innermostOfRanges (hdescent.enclosing_reports hnested _)
    · intro hrange
      obtain ⟨scope, hscope, rfl⟩ := List.mem_map.1 hrange
      obtain ⟨report, hreport, rfl⟩ :=
        List.mem_map.1 ((innermostOfRanges_sublist _).subset hscope)
      obtain ⟨classification, hclassify, -⟩ := reports_of_mem_reports hreport
      have hrecognizes : classifier.Recognizes doc report.1 report.2.range :=
        ⟨⟨classification, hclassify⟩, hdescent.range_of_mem_reports hnested hreport⟩
      exact ⟨hdescent.contains_of_mem_reports hnested hbounds htarget hreport, report.1,
        hdescent.mem_sites_of_mem_reports hreport, hrecognizes⟩
    · rintro ⟨hcontains, site, hsite, hrecognized⟩
      exact hfound hsite hrecognized (.of_contains hcontains hempty)
    · obtain ⟨site, hreport, hdeepest⟩ := deepest_of_mem_chain hdescent hnested hscope
      refine ⟨site, hdescent.mem_sites_of_mem_reports hreport, resolve?_of_mem_reports hreport,
        hdescent.describes_of_mem_reports hnested hreport, fun other hother hrecognized => ?_⟩
      -- Another site of this range holds the target as well, so the descent leads over it too.
      have hcontains := hdescent.contains_of_mem_reports hnested hbounds htarget hreport
      obtain ⟨found, hmem, hrange⟩ := hdescent.exists_report hnested hseparated arena.size hother
        hrecognized (.of_contains hcontains hempty)
      exact hdeepest _ hmem hrange
    · intro _ site hsite range hrecognized hstart hstop
      exact hfound hsite hrecognized (.of_strictly_inside hstart hstop)

/-- A module with a function whose only statement is a call. -/
def callInFunction : Node :=
  ⟨0, "module", true, false, none, 0, 18, ⟨0, 0⟩, ⟨2, 0⟩,
    [⟨1, "function_definition", true, false, none, 0, 17, ⟨0, 0⟩, ⟨1, 8⟩,
      [⟨2, "identifier", true, false, some "name", 4, 5, ⟨0, 4⟩, ⟨0, 5⟩, []⟩,
        ⟨3, "block", true, false, some "body", 13, 17, ⟨1, 4⟩, ⟨1, 8⟩,
          [⟨4, "call", true, false, none, 13, 17, ⟨1, 4⟩, ⟨1, 8⟩,
            [⟨5, "identifier", true, false, some "function", 13, 14, ⟨1, 4⟩, ⟨1, 5⟩, []⟩]⟩]⟩]⟩]⟩

/-- The chain of the argument of a call in the body of a function has the function and the call. -/
theorem chain_complete_callInFunction :
    let doc : Document := .ofText "def f():\n    g(1)\n" ""
    let target : Range := ⟨⟨1, 6⟩, ⟨1, 7⟩, by decide⟩
    let found := PythonNodes.classifier.chain callInFunction target doc .empty
    let scopes : List Scope :=
      [⟨0, .functionDecl, "def f", "f", true, ⟨⟨0, 0⟩, ⟨1, 8⟩, by decide⟩⟩,
        ⟨1, .call, "function call g", "function call", false, ⟨⟨1, 4⟩, ⟨1, 8⟩, by decide⟩⟩]
    callInFunction.Nested ∧ callInFunction.Separated ∧
    callInFunction.range doc = .ok ⟨⟨0, 0⟩, ⟨2, 0⟩, by decide⟩ ∧ target.isEmpty = false ∧
    found.2 = .ok scopes ∧
    CompleteChain PythonNodes.classifier doc callInFunction target found.1 scopes := by
  intro doc target found scopes
  have hnested : callInFunction.Nested := (Node.all_iff_sites []).2 (by decide)
  have hseparated : callInFunction.Separated := (Node.all_iff_sites []).2 (by decide)
  have hbounds : callInFunction.range doc = .ok ⟨⟨0, 0⟩, ⟨2, 0⟩, by decide⟩ := by decide
  have hfound : found.2 = .ok scopes := by decide +kernel
  refine ⟨hnested, hseparated, hbounds, rfl, hfound, ?_⟩
  rcases PythonNodes.classifier.chain_complete doc hnested hseparated hbounds
    (by decide : Range.contains _ target) .empty with
    ⟨failure, -, hfailure⟩ | ⟨others, hothers, hcomplete, -⟩
  · cases hfound.symm.trans hfailure
  · cases hfound.symm.trans hothers
    exact hcomplete rfl

end CursorScope
