import CursorScope.Proofs.TargetPath

/-!
# Searches that share an arena

What handles are worth when several searches add their nodes to one arena. A search only adds nodes
(`Search.exists_addAll`), so what a handle refers to stays the same after any searches
(`Arena.resolve?_after`). A search that finds a chain adds the recognized nodes on the path to its
target, and each handle of the chain leads to the node that its scope describes, then and after all
later searches (`Search.handles_valid`). None of this asks that the nodes of a tree have ranges.
-/

namespace CursorScope

/-- A search for the chain of a target. -/
structure Search where
  classifier : Classifier
  root : Node
  target : Range
  doc : Document

/-- The arena after a search that adds its nodes to an arena, and the chain that it finds. -/
def Search.run (search : Search) (arena : Arena) : Arena × Except RangeError (List Scope) :=
  search.classifier.chain search.root search.target search.doc arena

/-- The arena after searches that share it, one after the other. -/
def Arena.after (arena : Arena) : List Search → Arena
  | [] => arena
  | search :: rest => (search.run arena).1.after rest

/-! ## Arenas only grow -/

theorem Search.exists_addAll (search : Search) (arena : Arena) :
    ∃ nodes, (search.run arena).1 = arena.addAll nodes := ⟨_, rfl⟩

theorem Arena.exists_addAll_after (arena : Arena) (searches : List Search) :
    ∃ nodes, arena.after searches = arena.addAll nodes := by
  induction searches generalizing arena with
  | nil => exact ⟨[], congrArg Arena.mk (List.append_nil _).symm⟩
  | cons search rest ih =>
      obtain ⟨nodes, hnodes⟩ := search.exists_addAll arena
      obtain ⟨others, hothers⟩ := ih (search.run arena).1
      exact ⟨nodes ++ others, by rw [after, hothers, hnodes, addAll_addAll]⟩

/-- A handle refers to the same node after any searches. -/
theorem Arena.resolve?_after {arena : Arena} {handle : Nat} (searches : List Search)
    (h : handle < arena.size) :
    (arena.after searches).resolve? handle = arena.resolve? handle := by
  obtain ⟨nodes, hnodes⟩ := arena.exists_addAll_after searches
  rw [hnodes, resolve?_addAll nodes h]

/-- A handle that leads to a node leads there after any searches. -/
theorem Arena.resolve?_after_of_some {arena : Arena} {handle : Nat} {node : Node}
    (searches : List Search) (h : arena.resolve? handle = some node) :
    (arena.after searches).resolve? handle = some node := by
  have hlt : handle < arena.size := by
    rw [resolve?_natCast] at h
    exact (List.getElem?_eq_some_iff.1 h).1
  rw [resolve?_after searches hlt, h]

/-! ## Handles of a walk -/

variable {classifier : Classifier} {doc : Document} {target : Range}

/-- A classifier recognizes the node at a site. -/
def Classifier.recognizesAt (classifier : Classifier) (doc : Document) (site : Site) : Bool :=
  match classifier.classify site doc with
  | .ok (some _) => true
  | _ => false

/-- An entry tells of the node at a site what its scope reports. -/
def Entry.TellsOf (entry : Entry) (classifier : Classifier) (doc : Document) (site : Site) : Prop :=
  classifier.classify site doc = .ok (some entry.classification) ∧
    site.node.range doc = .ok entry.range

namespace Walk

/-- A walk that does not break off gives a handle to each recognized node, and has an entry for
each. -/
theorem ofSites_of_failure_eq_none {sites : List Site}
    (h : (ofSites classifier doc sites).failure = none) :
    (ofSites classifier doc sites).nodes =
        (sites.filter (classifier.recognizesAt doc)).map (·.node) ∧
      List.Forall₂ (fun entry site => entry.TellsOf classifier doc site)
        (ofSites classifier doc sites).entries (sites.filter (classifier.recognizesAt doc)) := by
  induction sites with
  | nil => exact ⟨rfl, .nil⟩
  | cons site rest ih =>
      rw [ofSites] at h ⊢
      rw [List.filter_cons]
      cases hclassify : classifier.classify site doc with
      | error failure =>
          rw [hclassify] at h
          cases h
      | ok answer =>
          rw [hclassify] at h
          cases answer with
          | none =>
              have hnot : classifier.recognizesAt doc site = false := by
                rw [Classifier.recognizesAt, hclassify]
              rw [hnot]
              exact ih h
          | some classification =>
              have hrecognized : classifier.recognizesAt doc site = true := by
                rw [Classifier.recognizesAt, hclassify]
              cases hrange : site.node.range doc with
              | error failure =>
                  rw [hrange] at h
                  cases h
              | ok range =>
                  rw [hrange] at h
                  obtain ⟨hnodes, hentries⟩ := ih h
                  rw [if_pos hrecognized]
                  exact ⟨congrArg (List.cons site.node) hnodes, .cons ⟨hclassify, hrange⟩ hentries⟩

/-- The handles of a walk count up. -/
theorem pairwise_handle_scopes (walk : Walk) (first : Nat) :
    (walk.scopes first).Pairwise fun scope next => scope.handle < next.handle := by
  have hhandles : (walk.scopes first).map (·.handle) =
      List.range' first walk.entries.length := by
    rw [scopes, List.map_map, ← List.zipIdx_map_snd]
    rfl
  rw [← List.pairwise_map, hhandles]
  exact List.pairwise_lt_range' 1

/-- Each scope of a walk describes a site, whose place gives it its handle. -/
theorem exists_getElem?_of_mem_scopes {walk : Walk} {sites : List Site}
    (h : List.Forall₂ (fun entry site => entry.TellsOf classifier doc site) walk.entries sites)
    {first : Nat} {scope : Scope} (hscope : scope ∈ walk.scopes first) :
    ∃ i site, sites[i]? = some site ∧ scope.handle = first + i ∧
      scope.Describes classifier doc site := by
  unfold scopes at hscope
  generalize walk.entries = entries at h hscope
  induction h generalizing first with
  | nil => cases hscope
  | @cons entry site _ _ htells _ ih =>
      rw [List.zipIdx_cons, List.map_cons] at hscope
      rcases List.mem_cons.1 hscope with rfl | hscope
      · exact ⟨0, site, rfl, rfl, (entry.toScope_reports first).describes htells.1 htells.2⟩
      · obtain ⟨i, other, hother, hhandle, hdescribes⟩ := ih hscope
        refine ⟨i + 1, other, hother, ?_, hdescribes⟩
        rw [hhandle]
        omega

end Walk

/-! ## Handles of a chain -/

/-- A chain that is found comes from a walk along a descent. -/
theorem Classifier.exists_descent_of_chain {root : Node} {arena : Arena} {scopes : List Scope}
    (h : (classifier.chain root target doc arena).2 = .ok scopes) :
    ∃ sites, Descent doc target (.ofRoot root) sites ∧
      (Walk.ofSites classifier doc sites).failure = none ∧
      (classifier.chain root target doc arena).1 =
        arena.addAll (Walk.ofSites classifier doc sites).nodes ∧
      scopes = innermostOfRanges ((Walk.ofSites classifier doc sites).scopes arena.size) := by
  cases htrail : (Site.ofRoot root).trail target doc with
  | mk sites broken =>
      simp only [chain, Walk.along, htrail] at h ⊢
      cases hfailure : (Walk.ofSites classifier doc sites).failure with
      | some failure =>
          rw [hfailure] at h
          cases h
      | none =>
          rw [hfailure] at h
          cases broken with
          | some failure => cases h
          | none =>
              cases h
              exact ⟨sites, trail_eq_iff_descent.1 htrail, hfailure, rfl, rfl⟩

/-- What can be relied on when a search has found a chain with an arena, on a path over `sites`. -/
structure Search.ValidHandles (search : Search) (arena : Arena) (scopes : List Scope)
    (sites : List Site) : Prop where
  /-- The sites are those on the path to the target. -/
  path_iff : ∀ others, TargetPath search.doc search.target (.ofRoot search.root) others ↔
    others = sites
  /-- The arena has one more node for each recognized node on the path, in the order of the path. -/
  run_eq : (search.run arena).1 = arena.addAll
    ((sites.filter (search.classifier.recognizesAt search.doc)).map (·.node))
  /-- Handles increase along the chain. -/
  increasing : scopes.Pairwise fun scope next => scope.handle < next.handle
  /-- Handles are new. -/
  size_le : ∀ scope ∈ scopes, arena.size ≤ scope.handle
  /-- A handle leads to the node that its scope describes, whatever searches follow. -/
  resolves : ∀ scope ∈ scopes, ∃ site ∈ sites,
    scope.Describes search.classifier search.doc site ∧
    ∀ later, ((search.run arena).1.after later).resolve? scope.handle = some site.node

theorem Search.exists_validHandles (search : Search) {arena : Arena} {scopes : List Scope}
    (h : (search.run arena).2 = .ok scopes) : ∃ sites, search.ValidHandles arena scopes sites := by
  obtain ⟨sites, hdescent, hfailure, harena, rfl⟩ :=
    Classifier.exists_descent_of_chain h
  obtain ⟨hnodes, hentries⟩ := Walk.ofSites_of_failure_eq_none hfailure
  have hrun : (search.run arena).1 = arena.addAll
      ((sites.filter (search.classifier.recognizesAt search.doc)).map (·.node)) := by
    rw [← hnodes]
    exact harena
  have hsublist := innermostOfRanges_sublist
    ((Walk.ofSites search.classifier search.doc sites).scopes arena.size)
  have hpath := hdescent.targetPath
  refine ⟨sites, fun others => ⟨fun hothers => hothers.unique hpath, ?_⟩, hrun, ?_, ?_, ?_⟩
  · rintro rfl
    exact hpath
  · exact (Walk.pairwise_handle_scopes _ _).sublist hsublist
  · intro scope hscope
    obtain ⟨i, -, -, hhandle, -⟩ :=
      Walk.exists_getElem?_of_mem_scopes hentries (hsublist.subset hscope)
    omega
  · intro scope hscope
    obtain ⟨i, site, hsite, hhandle, hdescribes⟩ :=
      Walk.exists_getElem?_of_mem_scopes hentries (hsublist.subset hscope)
    refine ⟨site, List.mem_of_mem_filter (List.mem_of_getElem? hsite), hdescribes, fun later => ?_⟩
    refine Arena.resolve?_after_of_some later ?_
    rw [hrun, hhandle, Arena.resolve?_addAll_size_add, List.getElem?_map, hsite]
    rfl

/-- Of searches that share an arena, each only adds nodes, even one that fails, so earlier handles
keep their nodes. A search that finds a chain adds the recognized nodes on its path, and the handles
of the chain are new, increase, and lead to the nodes that the scopes describe, then and after all
later searches. -/
theorem Search.handles_valid (arena : Arena) (earlier : List Search) (search : Search) :
    let before := arena.after earlier
    (∃ added, (search.run before).1 = before.addAll added) ∧
    (∀ (handle : Nat) node, before.resolve? handle = some node →
      ∀ later, ((search.run before).1.after later).resolve? handle = some node) ∧
    ∀ scopes, (search.run before).2 = .ok scopes →
      ∃ sites, search.ValidHandles before scopes sites := by
  intro before
  refine ⟨search.exists_addAll before, fun handle node hnode later => ?_, fun scopes h => ?_⟩
  · exact Arena.resolve?_after_of_some (search :: later) hnode
  · exact search.exists_validHandles h

/-- A call with an argument that ends before it starts, in a module. -/
def callOfReversed : Node :=
  ⟨0, "module", true, false, none, 0, 22, ⟨0, 0⟩, ⟨1, 0⟩,
    [⟨1, "call", true, false, none, 0, 21, ⟨0, 0⟩, ⟨0, 21⟩,
      [⟨2, "argument_list", true, false, none, 9, 3, ⟨0, 9⟩, ⟨0, 3⟩, []⟩]⟩]⟩

/-- A search that fails on its path leaves the call that it has met in the arena, between the nodes
of a search before and a search after it. The chain of the last one leaves out the outer lambda,
which has the fifth place in the arena. -/
theorem Search.handles_valid_after_failure :
    let doc : Document := .ofText "lambda x: lambda y: 1\n" ""
    let search : Search := ⟨PythonNodes.classifier, backwardLambdas, .cursor ⟨0, 20⟩, doc⟩
    let failing : Search := ⟨PythonNodes.classifier, callOfReversed, .cursor ⟨0, 20⟩, doc⟩
    let before := Arena.empty.after [search, failing]
    let scopes : List Scope :=
      [⟨5, .closure, "lambda x", "closure", true, ⟨⟨0, 0⟩, ⟨0, 21⟩, by decide⟩⟩,
        ⟨6, .closure, "lambda y", "closure", true, ⟨⟨0, 10⟩, ⟨0, 21⟩, by decide⟩⟩]
    before.nodes.map (·.label) = [2, 4, 6, 1] ∧
    (failing.run .empty).2 = .error (.reversed ⟨0, 9⟩ ⟨0, 3⟩) ∧
    (∀ later, (((search.run before).1.after later).resolve? (3 : Nat)).map (·.label) = some 1) ∧
    (search.run before).2 = .ok scopes ∧
    (search.run before).1.nodes.map (·.label) = [2, 4, 6, 1, 2, 4, 6] ∧
    ∃ sites, search.ValidHandles before scopes sites := by
  intro doc search failing before scopes
  have hscopes : (search.run before).2 = .ok scopes := by decide +kernel
  have hcall : (before.resolve? (3 : Nat)).map (·.label) = some 1 := by decide +kernel
  obtain ⟨call, hfound, hlabel⟩ := Option.map_eq_some_iff.1 hcall
  obtain ⟨-, hkept, hvalid⟩ := Search.handles_valid .empty [search, failing] search
  refine ⟨by decide +kernel, by decide +kernel, fun later => ?_, hscopes, by decide +kernel,
    hvalid scopes hscopes⟩
  rw [hkept 3 call hfound later, Option.map_some, hlabel]

end CursorScope
