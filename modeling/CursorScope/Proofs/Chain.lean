import CursorScope.Proofs.Descent
import CursorScope.Scope.Chain

/-!
# From a descent to a chain of scopes

What a chain makes of the sites of a descent. `Classifier.reports` pairs each recognized site with
the scope that is reported for it, and `chain_cases` says that in an ordered tree a chain consists
of these scopes, runs of one range reduced to their last, unless the classifier fails at a node.
The reduction keeps every range (`exists_mem_innermostOfRanges`), keeps the last scope of a range
(`mem_innermostOfRanges`), and leaves ranges that strictly contain one another
(`pairwise_innermostOfRanges`).
-/

namespace CursorScope

/-! ## Runs of scopes with one range -/

theorem innermostOfRanges_sublist (scopes : List Scope) :
    (innermostOfRanges scopes).Sublist scopes := by
  fun_induction innermostOfRanges scopes with
  | case1 => exact .slnil
  | case2 => exact List.Sublist.refl _
  | case3 scope next rest _ ih => exact ih.cons scope
  | case4 scope next rest _ ih => exact ih.cons_cons scope

/-- No range gets lost when runs of one range are reduced. -/
theorem exists_mem_innermostOfRanges {scopes : List Scope} {scope : Scope} (h : scope ∈ scopes) :
    ∃ kept ∈ innermostOfRanges scopes, kept.range = scope.range := by
  fun_induction innermostOfRanges scopes generalizing scope with
  | case1 => cases h
  | case2 => exact ⟨scope, h, rfl⟩
  | case3 first next rest hsame ih =>
      rcases List.mem_cons.1 h with rfl | h
      · -- The dropped scope has the range of the next one, which need not be kept itself.
        rw [hsame]
        exact ih List.mem_cons_self
      · exact ih h
  | case4 first next rest _ ih =>
      rcases List.mem_cons.1 h with rfl | h
      · exact ⟨scope, List.mem_cons_self, rfl⟩
      · obtain ⟨kept, hkept, hrange⟩ := ih h
        exact ⟨kept, List.mem_cons_of_mem _ hkept, hrange⟩

/-- Ranges of which each contains the later ones. -/
def Enclosing (scopes : List Scope) : Prop :=
  scopes.Pairwise fun outer inner => outer.range.contains inner.range

/-- A range that the next one differs from differs from all later ones. -/
theorem Enclosing.range_ne {scope next : Scope} {rest : List Scope}
    (h : Enclosing (scope :: next :: rest)) (hne : scope.range ≠ next.range) :
    ∀ other ∈ next :: rest, scope.range ≠ other.range := by
  obtain ⟨hscope, hnext⟩ := List.pairwise_cons.1 h
  intro other hother heq
  rcases List.mem_cons.1 hother with rfl | hother
  · exact hne heq
  · -- A range that came back would contain the one between and lie inside it.
    have hback := (List.pairwise_cons.1 hnext).1 other hother
    rw [← heq] at hback
    exact hne (Range.contains_antisymm (hscope next List.mem_cons_self) hback)

/-- Reduced ranges strictly contain the later ones. -/
theorem pairwise_innermostOfRanges {scopes : List Scope} (h : Enclosing scopes) :
    (innermostOfRanges scopes).Pairwise fun outer inner =>
      outer.range.strictlyContains inner.range := by
  fun_induction innermostOfRanges scopes with
  | case1 => exact .nil
  | case2 => exact List.pairwise_singleton _ _
  | case3 scope next rest _ ih => exact ih h.of_cons
  | case4 scope next rest hne ih =>
      refine List.pairwise_cons.2 ⟨fun other hother => ?_, ih h.of_cons⟩
      have hmem := (innermostOfRanges_sublist _).subset hother
      exact Range.strictlyContains_iff.2
        ⟨(List.pairwise_cons.1 h).1 other hmem, h.range_ne hne other hmem⟩

/-- A scope that is kept is the last one with its range. -/
theorem mem_innermostOfRanges {scopes : List Scope} {kept : Scope} (h : Enclosing scopes)
    (hkept : kept ∈ innermostOfRanges scopes) :
    ∃ before after, scopes = before ++ kept :: after ∧
      ∀ other ∈ after, kept.range ≠ other.range := by
  fun_induction innermostOfRanges scopes with
  | case1 => cases hkept
  | case2 scope =>
      cases List.mem_singleton.1 hkept
      exact ⟨[], [], rfl, by simp⟩
  | case3 scope next rest _ ih =>
      obtain ⟨before, after, heq, hafter⟩ := ih h.of_cons hkept
      exact ⟨scope :: before, after, by rw [heq, List.cons_append], hafter⟩
  | case4 scope next rest hne ih =>
      rcases List.mem_cons.1 hkept with rfl | hkept
      · exact ⟨[], next :: rest, rfl, h.range_ne hne⟩
      · obtain ⟨before, after, heq, hafter⟩ := ih h.of_cons hkept
        exact ⟨scope :: before, after, by rw [heq, List.cons_append], hafter⟩

/-! ## Reports of recognized sites -/

/-- The recognized sites of a list with the scopes that are reported for them. Handles count up
from `first`. -/
def Classifier.reports (classifier : Classifier) (doc : Document) :
    Nat → List Site → List (Site × Scope)
  | _, [] => []
  | first, site :: rest =>
      match classifier.classify site doc with
      | .ok (some classification) =>
          (site, Entry.toScope ⟨classification, site.node.extent doc⟩ first) ::
            classifier.reports doc (first + 1) rest
      | _ => classifier.reports doc first rest

/-- The classifier recognizes the node at a site, which lies in a range of the document. -/
def Classifier.Recognizes (classifier : Classifier) (doc : Document) (site : Site) (range : Range) :
    Prop :=
  (∃ classification, classifier.classify site doc = .ok (some classification)) ∧
    site.node.range doc = .ok range

/-- A scope reports an entry: it has the kind, the signature, the name and the range of the entry,
and it stands alone unless it is a variable or a call. -/
structure Scope.Reports (scope : Scope) (entry : Entry) : Prop where
  kind : scope.kind = entry.classification.kind
  signature : scope.signature = entry.classification.signature
  name : scope.name = entry.classification.name
  standsAlone : scope.standsAlone = true ↔ scope.kind ≠ .variableDecl ∧ scope.kind ≠ .call
  range : scope.range = entry.range

/-- A scope describes the node at a site: it has the range of the node and the kind, the signature
and the name that the classifier tells of it, and it stands alone unless it is a variable or a
call. -/
structure Scope.Describes (scope : Scope) (classifier : Classifier) (doc : Document) (site : Site) :
    Prop where
  classification : classifier.classify site doc =
    .ok (some ⟨scope.kind, scope.signature, scope.name⟩)
  standsAlone : scope.standsAlone = true ↔ scope.kind ≠ .variableDecl ∧ scope.kind ≠ .call
  range : site.node.range doc = .ok scope.range

theorem Entry.toScope_reports (entry : Entry) (handle : Nat) :
    (entry.toScope handle).Reports entry :=
  ⟨rfl, rfl, rfl, Kind.standsAlone_iff, rfl⟩

variable {classifier : Classifier} {doc : Document}

/-- A scope that reports an entry of a site describes the site. -/
theorem Scope.Reports.describes {scope : Scope} {entry : Entry} {site : Site}
    (h : scope.Reports entry)
    (hclassify : classifier.classify site doc = .ok (some entry.classification))
    (hrange : site.node.range doc = .ok entry.range) : scope.Describes classifier doc site := by
  refine ⟨?_, h.standsAlone, by rw [hrange, h.range]⟩
  rw [hclassify, h.kind, h.signature, h.name]

theorem Classifier.reports_sublist (classifier : Classifier) (doc : Document) (first : Nat)
    (sites : List Site) : ((classifier.reports doc first sites).map (·.1)).Sublist sites := by
  induction sites generalizing first with
  | nil => exact .slnil
  | cons site rest ih =>
      rw [Classifier.reports]
      split
      · exact (ih _).cons_cons site
      · exact (ih _).cons site

/-- Each report is about what the classifier tells of its site. -/
theorem reports_of_mem_reports {first : Nat} {sites : List Site} {report : Site × Scope}
    (h : report ∈ classifier.reports doc first sites) :
    ∃ classification, classifier.classify report.1 doc = .ok (some classification) ∧
      report.2.Reports ⟨classification, report.1.node.extent doc⟩ := by
  induction sites generalizing first with
  | nil => cases h
  | cons site rest ih =>
      rw [Classifier.reports] at h
      split at h
      · rename_i classification hclassify
        rcases List.mem_cons.1 h with rfl | h
        · exact ⟨classification, hclassify, Entry.toScope_reports _ first⟩
        · exact ih h
      · exact ih h

/-- Every recognized site of a list has its report. -/
theorem exists_mem_reports (first : Nat) {sites : List Site} {site : Site}
    {classification : Classification} (hsite : site ∈ sites)
    (h : classifier.classify site doc = .ok (some classification)) :
    ∃ scope, (site, scope) ∈ classifier.reports doc first sites := by
  induction sites generalizing first with
  | nil => cases hsite
  | cons other rest ih =>
      rw [Classifier.reports]
      rcases List.mem_cons.1 hsite with rfl | hsite
      · rw [h]
        exact ⟨_, List.mem_cons_self⟩
      · split
        · obtain ⟨scope, hscope⟩ := ih (first + 1) hsite
          exact ⟨scope, List.mem_cons_of_mem _ hscope⟩
        · exact ih first hsite

/-- The handle of a report is its place, counted from the first handle. -/
theorem exists_getElem?_of_mem_reports {first : Nat} {sites : List Site} {report : Site × Scope}
    (h : report ∈ classifier.reports doc first sites) :
    ∃ i, (classifier.reports doc first sites)[i]? = some report ∧ report.2.handle = first + i := by
  induction sites generalizing first with
  | nil => cases h
  | cons site rest ih =>
      rw [Classifier.reports] at h ⊢
      split at h
      · rcases List.mem_cons.1 h with rfl | h
        · exact ⟨0, rfl, rfl⟩
        · obtain ⟨i, hi, hhandle⟩ := ih h
          refine ⟨i + 1, hi, ?_⟩
          rw [hhandle]
          omega
      · exact ih h

/-- The handle of a report leads to the node of its site. -/
theorem resolve?_of_mem_reports {arena : Arena} {sites : List Site} {report : Site × Scope}
    (h : report ∈ classifier.reports doc arena.size sites) :
    (arena.addAll ((classifier.reports doc arena.size sites).map (·.1.node))).resolve?
      report.2.handle = some report.1.node := by
  obtain ⟨i, hi, hhandle⟩ := exists_getElem?_of_mem_reports h
  rw [hhandle, Arena.resolve?_addAll_size_add, List.getElem?_map, hi]
  rfl

/-- The range of a report is the extent of its node. -/
theorem range_eq_extent_of_mem_reports {first : Nat} {sites : List Site} {report : Site × Scope}
    (h : report ∈ classifier.reports doc first sites) :
    report.2.range = report.1.node.extent doc := by
  obtain ⟨_, -, hreports⟩ := reports_of_mem_reports h
  exact hreports.range

/-! ## The chain of an ordered tree -/

/-- A walk over sites with ranges either breaks off because the classifier fails at one of them,
or has the reports of all of them. -/
theorem Walk.ofSites_cases {sites : List Site}
    (hordered : ∀ site ∈ sites, site.node.startPoint ≤ site.node.endPoint) :
    (∃ site ∈ sites, ∃ failure, classifier.classify site doc = .error failure ∧
      (ofSites classifier doc sites).failure = some failure) ∨
    (ofSites classifier doc sites).failure = none ∧ ∀ first,
      (ofSites classifier doc sites).nodes =
        (classifier.reports doc first sites).map (·.1.node) ∧
      (ofSites classifier doc sites).scopes first =
        (classifier.reports doc first sites).map (·.2) := by
  induction sites with
  | nil => exact .inr ⟨rfl, fun _ => ⟨rfl, rfl⟩⟩
  | cons site rest ih =>
      obtain ⟨hsite, hrest⟩ := List.forall_mem_cons.1 hordered
      simp only [ofSites, Classifier.reports]
      cases hclassify : classifier.classify site doc with
      | error failure => exact .inl ⟨site, List.mem_cons_self, failure, hclassify, rfl⟩
      | ok answer =>
          cases answer with
          | none =>
              rcases ih hrest with ⟨other, hother, failure, hfailure⟩ | hok
              · exact .inl ⟨other, List.mem_cons_of_mem _ hother, failure, hfailure⟩
              · exact .inr hok
          | some classification =>
              rw [Node.range_eq_ok_extent doc hsite]
              rcases ih hrest with ⟨other, hother, failure, hfailure⟩ | ⟨hnone, hreports⟩
              · exact .inl ⟨other, List.mem_cons_of_mem _ hother, failure, hfailure⟩
              · refine .inr ⟨hnone, fun first => ?_⟩
                -- The recognized site takes the first handle, so the rest starts one later.
                obtain ⟨hnodes, hscopes⟩ := hreports (first + 1)
                refine ⟨by simp only [hnodes, List.map_cons], ?_⟩
                simp only [Walk.scopes, List.zipIdx_cons, List.map_cons] at hscopes ⊢
                rw [hscopes]

/-- The chain of an ordered tree consists of the scopes that are reported for the sites of the
descent to the target, unless the classifier fails at one of the nodes of the tree. -/
theorem Classifier.chain_cases (classifier : Classifier) (doc : Document) {root : Node}
    (hordered : root.Ordered) (target : Range) (arena : Arena) :
    (∃ site ∈ root.sites [], ∃ failure, classifier.classify site doc = .error failure ∧
      (classifier.chain root target doc arena).2 = .error failure) ∨
    ∃ sites, Descent doc target (.ofRoot root) sites ∧
      classifier.chain root target doc arena =
        (arena.addAll ((classifier.reports doc arena.size sites).map (·.1.node)),
          .ok (innermostOfRanges ((classifier.reports doc arena.size sites).map (·.2)))) := by
  obtain ⟨sites, hdescent⟩ : ∃ sites, Descent doc target (.ofRoot root) sites :=
    ⟨_, hordered.descent_trail []⟩
  have htrail := hdescent.trail_eq
  have hsites (site : Site) (hsite : site ∈ sites) :
      site.node.startPoint ≤ site.node.endPoint :=
    (hordered.of_mem_sites (hdescent.mem_sites site hsite)).here
  rcases Walk.ofSites_cases hsites with
    ⟨site, hsite, failure, hclassify, hfailure⟩ | ⟨hnone, hreports⟩
  · refine .inl ⟨site, hdescent.mem_sites site hsite, failure, hclassify, ?_⟩
    simp only [chain, Walk.along, htrail, hfailure]
    rfl
  · obtain ⟨hnodes, hscopes⟩ := hreports arena.size
    refine .inr ⟨sites, hdescent, ?_⟩
    rw [← hnodes, ← hscopes]
    simp only [chain, Walk.along, htrail, hnone]
    rfl

end CursorScope
