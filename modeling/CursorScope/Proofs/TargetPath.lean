import CursorScope.Proofs.Safety
import Mathlib.Data.List.SplitBy

/-!
# The path to a target

What the chain of scopes is, without the loop that finds it. The path to a target
(`TargetPath`) goes from each node to the first of the narrowest children whose ranges contain the
target, and in an ordered tree it is the way of the descent (`Node.Ordered.targetPath_iff`). The
chain reports the recognized nodes of the path, runs of one range reduced to their last entry
(`Classifier.chain_refines_path`).
-/

namespace CursorScope

/-! ## The path -/

/-- The range of a node contains a target. -/
def Node.Encloses (node : Node) (target : Range) (doc : Document) : Prop :=
  ∃ range, node.range doc = .ok range ∧ range.contains target

instance (node : Node) (target : Range) (doc : Document) : Decidable (node.Encloses target doc) :=
  match h : node.range doc with
  | .error _ => .isFalse fun ⟨_, hrange, _⟩ => by
      rw [h] at hrange
      cases hrange
  | .ok range => decidable_of_iff (range.contains target)
      ⟨fun hcontains => ⟨range, h, hcontains⟩, fun ⟨_, hrange, hcontains⟩ => by
        rw [h] at hrange
        cases hrange
        exact hcontains⟩

/-- Of the nodes with a property in a list, the first of those that span the fewest bytes. -/
def FirstNarrowest (p : Node → Prop) (nodes : List Node) (node : Node) : Prop :=
  ∃ before after, nodes = before ++ node :: after ∧ p node ∧
    (∀ other ∈ before, p other → node.byteSpan < other.byteSpan) ∧
    ∀ other ∈ after, p other → node.byteSpan ≤ other.byteSpan

/-- The path to a target goes on from each node to the first of the narrowest children that enclose
the target, and ends where no child does. -/
inductive TargetPath (doc : Document) (target : Range) : Site → List Site → Prop where
  | stop {site : Site} (hnone : ∀ child ∈ site.node.children, ¬ child.Encloses target doc) :
      TargetPath doc target site [site]
  | step {site : Site} {child : Node} {sites : List Site}
      (hchild : FirstNarrowest (·.Encloses target doc) site.node.children child)
      (rest : TargetPath doc target (site.below child) sites) :
      TargetPath doc target site (site :: sites)

/-! ## Narrowest nodes -/

theorem narrowest?_eq_none_iff {nodes : List Node} : narrowest? nodes = none ↔ nodes = [] := by
  cases nodes with
  | nil => exact iff_of_true rfl rfl
  | cons node rest =>
      refine iff_of_false (fun hnone => ?_) (List.cons_ne_nil node rest)
      rw [narrowest?] at hnone
      split at hnone
      · cases hnone
      · split at hnone <;> cases hnone

/-- A node that is narrower than those before it, and none of those after it is narrower than it,
is the narrowest. -/
theorem narrowest?_append_cons {before after : List Node} {node : Node}
    (hbefore : ∀ other ∈ before, node.byteSpan < other.byteSpan)
    (hafter : ∀ other ∈ after, node.byteSpan ≤ other.byteSpan) :
    narrowest? (before ++ node :: after) = some node := by
  induction before with
  | nil =>
      rw [List.nil_append, narrowest?]
      cases hrest : narrowest? after with
      | none => rfl
      | some other => exact if_neg (Int.not_lt.2 (hafter other (mem_of_narrowest? hrest)))
  | cons first rest ih =>
      obtain ⟨hfirst, hrest⟩ := List.forall_mem_cons.1 hbefore
      rw [List.cons_append, narrowest?, ih hrest]
      exact if_pos hfirst

theorem exists_append_of_narrowest? {nodes : List Node} {node : Node}
    (h : narrowest? nodes = some node) :
    ∃ before after, nodes = before ++ node :: after ∧
      (∀ other ∈ before, node.byteSpan < other.byteSpan) ∧
      ∀ other ∈ after, node.byteSpan ≤ other.byteSpan := by
  induction nodes generalizing node with
  | nil => cases h
  | cons first rest ih =>
      rw [narrowest?] at h
      cases hrest : narrowest? rest with
      | none =>
          rw [hrest] at h
          cases h
          rw [narrowest?_eq_none_iff.1 hrest]
          exact ⟨[], [], rfl, List.forall_mem_nil _, List.forall_mem_nil _⟩
      | some other =>
          rw [hrest] at h
          obtain ⟨before, after, rfl, hbefore, hafter⟩ := ih hrest
          replace h : (if other.byteSpan < first.byteSpan then some other else some first) =
            some node := h
          split at h
          · rename_i hlt
            cases h
            exact ⟨first :: before, after, rfl, List.forall_mem_cons.2 ⟨hlt, hbefore⟩, hafter⟩
          · rename_i hge
            cases h
            -- The first node is no wider than the narrowest of the rest, so than none of them.
            have hle := Int.not_lt.1 hge
            refine ⟨[], _, rfl, List.forall_mem_nil _, fun wider hwider => ?_⟩
            rcases List.mem_append.1 hwider with hwider | hwider
            · exact Int.le_trans hle (Int.le_of_lt (hbefore wider hwider))
            · rcases List.mem_cons.1 hwider with rfl | hwider
              · exact hle
              · exact Int.le_trans hle (hafter wider hwider)

/-- The narrowest of the nodes with a property is the first narrowest of them in the list. -/
theorem narrowest?_filter_eq_some_iff {p : Node → Prop} [DecidablePred p] {nodes : List Node}
    {node : Node} :
    narrowest? (nodes.filter p) = some node ↔ FirstNarrowest p nodes node := by
  constructor
  · intro h
    obtain ⟨kept, later, hfilter, hkept, hlater⟩ := exists_append_of_narrowest? h
    obtain ⟨first, rest, rfl, rfl, hrest⟩ := List.filter_eq_append_iff.1 hfilter
    obtain ⟨skipped, after, rfl, hskipped, hnode, rfl⟩ := List.filter_eq_cons_iff.1 hrest
    refine ⟨first ++ skipped, after, (List.append_assoc ..).symm, of_decide_eq_true hnode, ?_, ?_⟩
    · intro other hother hp
      rcases List.mem_append.1 hother with hother | hother
      · exact hkept other (List.mem_filter.2 ⟨hother, decide_eq_true hp⟩)
      · exact absurd (decide_eq_true hp) (hskipped other hother)
    · intro other hother hp
      exact hlater other (List.mem_filter.2 ⟨hother, decide_eq_true hp⟩)
  · rintro ⟨before, after, rfl, hp, hbefore, hafter⟩
    have hnode : decide (p node) = true := decide_eq_true hp
    rw [List.filter_append, List.filter_cons, if_pos hnode]
    refine narrowest?_append_cons (fun other hother => ?_) fun other hother => ?_
    · obtain ⟨hmem, hother⟩ := List.mem_filter.1 hother
      exact hbefore other hmem (of_decide_eq_true hother)
    · obtain ⟨hmem, hother⟩ := List.mem_filter.1 hother
      exact hafter other hmem (of_decide_eq_true hother)

/-! ## The path of a descent -/

variable {doc : Document} {target : Range}

/-- When the enclosing nodes among some are found, they are those that enclose the target. -/
theorem Node.eq_filter_of_enclosing {nodes found : List Node}
    (h : enclosing target doc nodes = .ok found) :
    found = nodes.filter (·.Encloses target doc) := by
  induction nodes generalizing found with
  | nil =>
      cases h
      rfl
  | cons node rest ih =>
      obtain ⟨range, hrange, h⟩ := Except.bind_eq_ok_iff.1 h
      obtain ⟨others, hothers, h⟩ := Except.bind_eq_ok_iff.1 h
      have hencloses : node.Encloses target doc ↔ range.contains target := by
        simp only [Encloses, hrange, Except.ok.injEq, exists_eq_left']
      cases h
      simp only [List.filter_cons, hencloses, Bool.decide_eq_true, ih hothers]

/-- A trail goes on to the narrowest of the children that enclose the target. -/
theorem Node.next_eq_of_enclosingChild? {node : Node} {next : Option Node}
    (h : node.enclosingChild? target doc = .ok next) :
    next = narrowest? (node.children.filter (·.Encloses target doc)) := by
  rw [enclosingChild?, map_eq_pure_bind] at h
  obtain ⟨found, hfound, h⟩ := Except.bind_eq_ok_iff.1 h
  cases h
  rw [eq_filter_of_enclosing hfound]

/-- A descent leads over the path to the target. -/
theorem Descent.targetPath {site : Site} {sites : List Site} (h : Descent doc target site sites) :
    TargetPath doc target site sites := by
  induction h with
  | stop hnone =>
      have hnext := narrowest?_eq_none_iff.1 (Node.next_eq_of_enclosingChild? hnone).symm
      refine .stop fun child hchild hencloses => ?_
      exact List.filter_eq_nil_iff.1 hnext child hchild (decide_eq_true hencloses)
  | step hchild _ ih =>
      have hnext := (Node.next_eq_of_enclosingChild? hchild).symm
      exact .step (narrowest?_filter_eq_some_iff.1 hnext) ih

/-- A first narrowest node is one of the nodes with the property. -/
theorem FirstNarrowest.mem {p : Node → Prop} {nodes : List Node} {node : Node}
    (h : FirstNarrowest p nodes node) : node ∈ nodes ∧ p node := by
  obtain ⟨before, after, rfl, hp, -⟩ := h
  exact ⟨List.mem_append_right before List.mem_cons_self, hp⟩

theorem TargetPath.unique {site : Site} {sites others : List Site}
    (h : TargetPath doc target site sites) (hothers : TargetPath doc target site others) :
    sites = others := by
  induction h generalizing others with
  | stop hnone =>
      cases hothers with
      | stop => rfl
      | step hchild => exact absurd hchild.mem.2 (hnone _ hchild.mem.1)
  | step hchild _ ih =>
      cases hothers with
      | stop hnone => exact absurd hchild.mem.2 (hnone _ hchild.mem.1)
      | step hother hrest =>
          have hsame := (narrowest?_filter_eq_some_iff.2 hchild).symm.trans
            (narrowest?_filter_eq_some_iff.2 hother)
          cases hsame
          rw [ih hrest]

/-- In an ordered tree, where every descent comes to an end, the path to a target is the way of the
descent to it. -/
theorem Node.Ordered.targetPath_iff {site : Site} (h : site.node.Ordered) {sites : List Site} :
    TargetPath doc target site sites ↔ Descent doc target site sites := by
  refine ⟨fun hpath => ?_, Descent.targetPath⟩
  have hdescent : Descent doc target site (site.trail target doc).sites :=
    h.descent_trail site.above
  rwa [hpath.unique hdescent.targetPath]

/-! ## The entries of a path -/

/-- The entry of the node at a site, and nothing when it is not recognized. -/
def Classifier.entry? (classifier : Classifier) (doc : Document) (site : Site) :
    Except RangeError (Option Entry) := do
  match ← classifier.classify site doc with
  | none => return none
  | some classification => return some ⟨classification, ← site.node.range doc⟩

/-- The entries of the recognized nodes among sites, in order. -/
def Classifier.entriesOn (classifier : Classifier) (doc : Document) (sites : List Site) :
    Except RangeError (List Entry) :=
  sites.filterMapM (classifier.entry? doc)

/-- Two entries have one range. -/
def Entry.sameRange (entry other : Entry) : Bool := entry.range == other.range

/-- The last entry of each run of neighbouring entries with one range. -/
def lastOfRuns (entries : List Entry) : List Entry :=
  (entries.splitBy Entry.sameRange).filterMap List.getLast?

variable {classifier : Classifier}

/-- A walk has the entries of its sites, or breaks off with the first failure among them. -/
theorem Classifier.entriesOn_eq (classifier : Classifier) (doc : Document) (sites : List Site) :
    classifier.entriesOn doc sites =
      match (Walk.ofSites classifier doc sites).failure with
      | none => .ok (Walk.ofSites classifier doc sites).entries
      | some failure => .error failure := by
  induction sites with
  | nil => rfl
  | cons site rest ih =>
      rw [entriesOn, List.filterMapM_cons, Walk.ofSites]
      unfold entry?
      cases hclassify : classifier.classify site doc with
      | error failure => rfl
      | ok answer =>
          cases answer with
          | none => exact ih
          | some classification =>
              cases hrange : site.node.range doc with
              | error failure => rfl
              | ok range =>
                  show (return _ :: (← classifier.entriesOn doc rest)) = _
                  rw [ih]
                  dsimp only
                  cases (Walk.ofSites classifier doc rest).failure <;> rfl

/-- The classifier of a language describes all sites of an ordered tree. -/
theorem Language.entriesOn_ok (language : Language) (doc : Document) {root : Node}
    (hordered : root.Ordered) {sites : List Site} (hsites : ∀ site ∈ sites, site ∈ root.sites []) :
    ∃ entries, language.classifier.entriesOn doc sites = .ok entries := by
  have hhere (site : Site) (hsite : site ∈ sites) : site.node.startPoint ≤ site.node.endPoint :=
    (hordered.of_mem_sites (hsites site hsite)).here
  rcases Walk.ofSites_cases hhere with ⟨site, hsite, failure, hfailure, -⟩ | ⟨hnone, -⟩
  · obtain ⟨answer, hanswer⟩ := language.classify_ok doc hordered (hsites site hsite)
    rw [hanswer] at hfailure
    cases hfailure
  · rw [Classifier.entriesOn_eq, hnone]
    exact ⟨_, rfl⟩

/-- The scopes of a walk report its entries. -/
theorem Walk.scopes_report (walk : Walk) (first : Nat) :
    List.Forall₂ Scope.Reports (walk.scopes first) walk.entries := by
  unfold Walk.scopes
  generalize walk.entries = entries
  induction entries generalizing first with
  | nil => exact .nil
  | cons entry rest ih => exact .cons (entry.toScope_reports first) (ih (first + 1))

/-! ## Runs of entries -/

/-- A first element that goes with the second one joins the first run. -/
theorem splitBy_cons_of_true {α : Type} {r : α → α → Bool} {a b : α} (rest : List α)
    (h : r a b = true) :
    ∃ run runs, run ≠ [] ∧ (b :: rest).splitBy r = run :: runs ∧
      (a :: b :: rest).splitBy r = (a :: run) :: runs := by
  obtain ⟨hflatten, hnil, hchain, hbreaks⟩ :=
    List.splitBy_eq_iff.1 (rfl : (b :: rest).splitBy r = _)
  cases hruns : (b :: rest).splitBy r with
  | nil => exact absurd (List.splitBy_eq_nil.1 hruns) (List.cons_ne_nil b rest)
  | cons run runs =>
      rw [hruns] at hflatten hnil hchain hbreaks
      have hrun : run ≠ [] := fun heq => hnil (heq ▸ List.mem_cons_self)
      obtain ⟨first, later, rfl⟩ := List.exists_cons_of_ne_nil hrun
      obtain ⟨rfl, -⟩ := List.cons.inj hflatten
      refine ⟨b :: later, runs, hrun, rfl, List.splitBy_eq_iff.2 ⟨?_, ?_, ?_, ?_⟩⟩
      · rw [hflatten]
        rfl
      · exact fun hmem => hnil (.tail _ ((List.mem_cons.1 hmem).resolve_left nofun))
      · obtain ⟨hrun, hruns⟩ := List.forall_mem_cons.1 hchain
        exact List.forall_mem_cons.2 ⟨List.isChain_cons_cons.2 ⟨h, hrun⟩, hruns⟩
      · -- The first run keeps its last element, so it breaks off where it did before.
        cases runs with
        | nil => exact List.isChain_singleton _
        | cons next runs =>
            obtain ⟨⟨_, hnext, hbreak⟩, hrest⟩ := List.isChain_cons_cons.1 hbreaks
            refine List.isChain_cons_cons.2 ⟨⟨List.cons_ne_nil a _, hnext, ?_⟩, hrest⟩
            rwa [List.getLast_cons hrun]

/-- An entry with the range of the next one is not the last of its run. -/
theorem lastOfRuns_cons_of_eq {entry next : Entry} (rest : List Entry)
    (h : entry.range = next.range) :
    lastOfRuns (entry :: next :: rest) = lastOfRuns (next :: rest) := by
  have hsame : entry.sameRange next = true := beq_iff_eq.2 h
  obtain ⟨run, runs, hrun, hrest, hall⟩ := splitBy_cons_of_true rest hsame
  obtain ⟨first, later, rfl⟩ := List.exists_cons_of_ne_nil hrun
  rw [lastOfRuns, lastOfRuns, hrest, hall, List.filterMap_cons, List.filterMap_cons,
    List.getLast?_cons_cons]

/-- An entry with another range than the next one is a run of its own. -/
theorem lastOfRuns_cons_of_ne {entry next : Entry} (rest : List Entry)
    (h : entry.range ≠ next.range) :
    lastOfRuns (entry :: next :: rest) = entry :: lastOfRuns (next :: rest) := by
  have hdiffers : entry.sameRange next = false := beq_eq_false_iff_ne.2 h
  have hsplit : (entry :: next :: rest).splitBy Entry.sameRange =
      [entry] :: (next :: rest).splitBy Entry.sameRange :=
    List.splitBy_append_cons (l := [entry]) rest fun last hlast => by
      rwa [← Option.some.inj hlast]
  rw [lastOfRuns, hsplit]
  rfl

/-- The rule for neighbouring scopes of a chain keeps those that report last entries of runs. -/
theorem innermostOfRanges_report {scopes : List Scope} {entries : List Entry}
    (h : List.Forall₂ Scope.Reports scopes entries) :
    List.Forall₂ Scope.Reports (innermostOfRanges scopes) (lastOfRuns entries) := by
  induction h with
  | nil => exact .nil
  | @cons scope entry scopes entries hreports hrest ih =>
      cases hrest with
      | nil => exact .cons hreports .nil
      | @cons next nextEntry scopes entries hnext hrest =>
          rw [innermostOfRanges, hreports.range, hnext.range]
          split
          · next hsame =>
              rw [lastOfRuns_cons_of_eq _ hsame]
              exact ih
          · next hdiffers =>
              rw [lastOfRuns_cons_of_ne _ hdiffers]
              exact .cons hreports ih

/-! ## The chain of a path -/

/-- A chain is what the walk over the sites of its trail has found. -/
theorem Classifier.chain_of_trail (classifier : Classifier) {root : Node} {sites : List Site}
    (htrail : (Site.ofRoot root).trail target doc = ⟨sites, none⟩) (arena : Arena) :
    (classifier.chain root target doc arena).2 =
      match (Walk.ofSites classifier doc sites).failure with
      | none => .ok (innermostOfRanges ((Walk.ofSites classifier doc sites).scopes arena.size))
      | some failure => .error failure := by
  simp only [chain, Walk.along, htrail]
  cases hfailure : (Walk.ofSites classifier doc sites).failure <;> rfl

/-- The chain of an ordered tree reports the entries of the path to the target, the last one of each
run of equal ranges. It fails as the first node on the path does that cannot be described, and no
node fails the classifier of a language. -/
theorem Classifier.chain_refines_path (classifier : Classifier) (doc : Document) {root : Node}
    (hordered : root.Ordered) (target : Range) (arena : Arena) :
    ∃ sites, TargetPath doc target (.ofRoot root) sites ∧
      (∀ others, TargetPath doc target (.ofRoot root) others → others = sites) ∧
      AgreeOrFail (List.Forall₂ Scope.Reports) (classifier.chain root target doc arena).2
        (lastOfRuns <$> classifier.entriesOn doc sites) ∧
      ∀ language : Language, classifier = language.classifier →
        ∃ entries, classifier.entriesOn doc sites = .ok entries := by
  obtain ⟨sites, hdescent⟩ : ∃ sites, Descent doc target (.ofRoot root) sites :=
    ⟨_, hordered.descent_trail []⟩
  have hpath {others : List Site} := @Node.Ordered.targetPath_iff doc target (.ofRoot root)
    hordered others
  refine ⟨sites, hpath.2 hdescent, fun others hothers => ?_, ?_, ?_⟩
  · exact (hpath.1 hothers).unique hdescent
  · rw [classifier.chain_of_trail hdescent.trail_eq, entriesOn_eq]
    generalize Walk.ofSites classifier doc sites = walk
    cases walk.failure with
    | none => exact .ok (innermostOfRanges_report (walk.scopes_report arena.size))
    | some failure => exact .fail failure
  · rintro language rfl
    exact language.entriesOn_ok doc hordered hdescent.mem_sites

/-- The tree of `lambda x: lambda y: 1` with two more nodes in it, which end at an earlier byte than
they start. Below the first of these is a list that is not recognized, and below that a node of the
same range. -/
def backwardLambdas : Node :=
  let inner : Node := ⟨6, "lambda", true, false, none, 10, 21, ⟨0, 10⟩, ⟨0, 21⟩,
    [⟨7, "lambda_parameters", true, false, some "parameters", 17, 18, ⟨0, 17⟩, ⟨0, 18⟩, []⟩]⟩
  let outer : Node := ⟨4, "lambda", true, false, none, 0, 21, ⟨0, 0⟩, ⟨0, 21⟩,
    [⟨5, "lambda_parameters", true, false, some "parameters", 7, 8, ⟨0, 7⟩, ⟨0, 8⟩, []⟩, inner]⟩
  let listed : Node := ⟨3, "expression_list", true, false, none, 0, 21, ⟨0, 7⟩, ⟨0, 21⟩, [outer]⟩
  ⟨0, "module", true, false, none, 0, 22, ⟨0, 0⟩, ⟨1, 0⟩,
    [⟨1, "lambda", true, false, none, 0, 21, ⟨0, 0⟩, ⟨0, 21⟩, []⟩,
      ⟨2, "lambda", true, false, none, 22, 3, ⟨0, 0⟩, ⟨0, 21⟩, [listed]⟩,
      ⟨8, "lambda", true, false, none, 22, 3, ⟨0, 0⟩, ⟨0, 21⟩, []⟩]⟩

/-- The path follows the first of the two nodes, and the chain has the node of its range below it in
its place. -/
theorem chain_refines_path_backwardLambdas :
    let doc : Document := .ofText "lambda x: lambda y: 1\n" ""
    let target : Range := .cursor ⟨0, 20⟩
    let outerRange : Range := ⟨⟨0, 0⟩, ⟨0, 21⟩, by decide⟩
    let innerRange : Range := ⟨⟨0, 10⟩, ⟨0, 21⟩, by decide⟩
    let outer : Entry := ⟨⟨.closure, "lambda x", "closure"⟩, outerRange⟩
    let inner : Entry := ⟨⟨.closure, "lambda y", "closure"⟩, innerRange⟩
    let scopes : List Scope :=
      [⟨1, .closure, "lambda x", "closure", true, outerRange⟩,
        ⟨2, .closure, "lambda y", "closure", true, innerRange⟩]
    backwardLambdas.Ordered ∧
    (PythonNodes.classifier.chain backwardLambdas target doc .empty).2 = .ok scopes ∧
    ∃ sites, TargetPath doc target (.ofRoot backwardLambdas) sites ∧
      sites.map (·.node.label) = [0, 2, 3, 4, 6] ∧
      PythonNodes.classifier.entriesOn doc sites =
        .ok [⟨⟨.closure, "lambda", "closure"⟩, outerRange⟩, outer, inner] ∧
      lastOfRuns <$> PythonNodes.classifier.entriesOn doc sites = .ok [outer, inner] ∧
      List.Forall₂ Scope.Reports scopes [outer, inner] := by
  intro doc target outerRange innerRange outer inner scopes
  have hordered : backwardLambdas.Ordered := (Node.all_iff_sites []).2 (by decide)
  have hchain : (PythonNodes.classifier.chain backwardLambdas target doc .empty).2 = .ok scopes :=
    by decide +kernel
  obtain ⟨sites, hpath, hunique, hagree, -⟩ :=
    PythonNodes.classifier.chain_refines_path doc hordered target .empty
  obtain ⟨others, hothers, hlabels, hentries, hlast⟩ : ∃ others,
      Descent doc target (.ofRoot backwardLambdas) others ∧
      others.map (·.node.label) = [0, 2, 3, 4, 6] ∧
      PythonNodes.classifier.entriesOn doc others =
        .ok [⟨⟨.closure, "lambda", "closure"⟩, outerRange⟩, outer, inner] ∧
      lastOfRuns <$> PythonNodes.classifier.entriesOn doc others = .ok [outer, inner] :=
    ⟨_, .step rfl (.step rfl (.step rfl (.step rfl (.stop rfl)))), by decide,
      by decide +kernel, by decide +kernel⟩
  obtain rfl := hunique others ((Node.Ordered.targetPath_iff hordered).2 hothers)
  rw [hchain, hlast] at hagree
  cases hagree with
  | ok hreports => exact ⟨hordered, hchain, others, hpath, hlabels, hentries, hlast, hreports⟩

end CursorScope
