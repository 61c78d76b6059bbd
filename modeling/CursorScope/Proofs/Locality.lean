import CursorScope.Proofs.Moved
import CursorScope.Proofs.Safety

/-!
# Excerpts depend only on the construct around the target

Where a construct at the top level of a file is the only one that contains a target, the scopes
around the target, and the excerpt unless it is of the whole file, depend on nothing but this
construct and its rows: not on the other constructs, not on the other lines, and not on where the
construct stands. `Finder.extract_moved` compares two runs of a finder on two documents, where the
second has a copy of the construct `k` lines further down.
-/

namespace CursorScope

variable {k bytes : Int} {first last : Nat} {doc otherDoc : Document} {target otherTarget : Range}

/-! ## The construct around a target -/

/-- The type of the root of the trees of a language. -/
def Language.rootType : Language → String
  | .c => "translation_unit"
  | .go => "source_file"
  | .python => "module"

theorem Language.kindOf_rootType (language : Language) :
    language.classifier.kindOf language.rootType = .unrecognized := by
  cases language <;> rfl

theorem Language.isPlain_of_rootType (language : Language) {root : Node}
    (h : root.type = language.rootType) : root.IsPlain := by
  unfold Node.IsPlain
  rw [h]
  cases language <;> decide

/-- The range of a node contains a target. -/
def Node.Surrounds (node : Node) (doc : Document) (target : Range) : Prop :=
  ∃ range, node.range doc = .ok range ∧ range.contains target

theorem Node.surrounds_iff {node : Node} (h : node.startPoint ≤ node.endPoint) :
    node.Surrounds doc target ↔ (node.extent doc).contains target := by
  unfold Surrounds
  rw [range_eq_ok_extent doc h]
  constructor
  · rintro ⟨range, hrange, hcontains⟩
    cases hrange
    exact hcontains
  · intro hcontains
    exact ⟨_, rfl, hcontains⟩

/-- The parser gives a usable ordered tree of the language in which a construct is the only child
of the root that contains the clamped target. -/
structure TopLevel (language : Language) (doc : Document) (answer : ParserAnswer) (target : Range)
    (tree : Tree) (construct : Node) : Prop where
  usable : answer.tree? = .ok tree
  ordered : tree.root.Ordered
  rootType : tree.root.type = language.rootType
  contains : construct.Surrounds doc (doc.clamp target)
  alone : ∃ before after, tree.root.children = before ++ construct :: after ∧
    ∀ sibling ∈ before ++ after, ¬ sibling.Surrounds doc (doc.clamp target)

namespace TopLevel

variable {language : Language} {answer : ParserAnswer} {tree : Tree} {construct : Node}

theorem mem_children (h : TopLevel language doc answer target tree construct) :
    construct ∈ tree.root.children := by
  obtain ⟨before, after, hchildren, -⟩ := h.alone
  rw [hchildren]
  exact List.mem_append_right before List.mem_cons_self

theorem ordered_construct (h : TopLevel language doc answer target tree construct) :
    construct.Ordered := h.ordered.child h.mem_children

/-- The descent to the target leads into the construct. -/
theorem enclosingChild?_eq (h : TopLevel language doc answer target tree construct) :
    tree.root.enclosingChild? (doc.clamp target) doc = .ok (some construct) := by
  obtain ⟨before, after, hchildren, halone⟩ := h.alone
  have hnode (node : Node) (hmem : node ∈ tree.root.children) :
      node.startPoint ≤ node.endPoint := (h.ordered.child hmem).here
  have hnone {nodes : List Node} (hnodes : nodes ⊆ before ++ after) :
      nodes.filter (fun node => (node.extent doc).contains (doc.clamp target)) = [] := by
    refine List.filter_eq_nil_iff.2 fun node hmem hcontains => halone node (hnodes hmem) ?_
    refine (Node.surrounds_iff (hnode node ?_)).2 hcontains
    rw [hchildren]
    have hsibling := hnodes hmem
    simp only [List.mem_append, List.mem_cons] at hsibling ⊢
    tauto
  have hcontains := (Node.surrounds_iff (hnode construct h.mem_children)).1 h.contains
  rw [h.ordered.enclosingChild?_eq, hchildren, List.filter_append, List.filter_cons,
    if_pos hcontains, hnone (List.subset_append_left _ _), hnone (List.subset_append_right _ _)]
  rfl

/-- The chain of the target consists of the scopes that are reported in the construct. -/
theorem chain_eq (h : TopLevel language doc answer target tree construct) :
    ∃ sites, Descent doc (doc.clamp target) ⟨construct, [tree.root]⟩ sites ∧
      (language.classifier.chain tree.root (doc.clamp target) doc .empty).2 =
        .ok (innermostOfRanges ((language.classifier.reports doc 0 sites).map (·.2))) := by
  have hclassify : language.classifier.classify (.ofRoot tree.root) doc = .ok none := by
    refine Classifier.classify_of_not_isScope doc ?_
    show (language.classifier.kindOf tree.root.type).isScope = false
    rw [h.rootType, language.kindOf_rootType]
    rfl
  obtain ⟨sites, hdescent, hchain⟩ := language.chain_eq doc h.ordered (doc.clamp target) .empty
  cases hdescent with
  | stop hnone => cases hnone.symm.trans h.enclosingChild?_eq
  | @step _ child sites hchild hrest =>
      cases hchild.symm.trans h.enclosingChild?_eq
      -- The root is no scope, so the reports start with the construct.
      refine ⟨sites, hrest, hchain.trans ?_⟩
      rw [Classifier.reports, hclassify]
      rfl

/-- A finder collects the scopes that are reported in the construct. -/
theorem value_collectContext (finder : Finder)
    (h : TopLevel finder.language doc answer target tree construct) :
    ∃ sites context, Descent doc (doc.clamp target) ⟨construct, [tree.root]⟩ sites ∧
      (finder.collectContext doc answer target).value = .ok context ∧
      context.scopes =
        innermostOfRanges ((finder.language.classifier.reports doc 0 sites).map (·.2)) := by
  obtain ⟨sites, hdescent, hchain⟩ := h.chain_eq
  obtain ⟨scopes, found, hscopes, hcontext⟩ := finder.language.contextAt_ok h.ordered doc target
  have heq := Except.ok.inj (hscopes.symm.trans hchain)
  refine ⟨sites, ⟨scopes, found.includes, found.imports⟩, hdescent, ?_, heq⟩
  rw [Finder.value_collectContext, h.usable]
  exact hcontext

end TopLevel

/-! ## Excerpts of moved scopes -/

/-- A breadcrumb and one with a range `k` lines further down. -/
structure Breadcrumb.ShiftedBy (k : Int) (crumb other : Breadcrumb) : Prop where
  signature : other.signature = crumb.signature
  name : other.name = crumb.name
  range : crumb.range.ShiftedBy k other.range

/-- Two excerpts with the same code and the same signatures around it, whose ranges are `k` lines
apart. -/
structure Excerpt.ShiftedBy (k : Int) (e other : Excerpt) : Prop where
  breadcrumbs : List.Forall₂ (Breadcrumb.ShiftedBy k) e.breadcrumbs other.breadcrumbs
  code : other.code = e.code
  codeRange : e.codeRange.ShiftedBy k other.codeRange
  target : e.target.ShiftedBy k other.target
  truncated : other.truncated = e.truncated

theorem Scope.ShiftedBy.toBreadcrumb {scope other : Scope} (h : scope.ShiftedBy k other) :
    scope.toBreadcrumb.ShiftedBy k other.toBreadcrumb := ⟨h.signature, h.name, h.range⟩

/-- The innermost scope that stands alone has the same place among moved scopes. -/
theorem Focus.innermost?_moved {scopes others : List Scope}
    (h : List.Forall₂ (Scope.MovedBy k first last) scopes others) :
    Option.Rel (fun found other => List.Forall₂ (Scope.MovedBy k first last) found.1 other.1 ∧
      Scope.MovedBy k first last found.2 other.2) (innermost? scopes) (innermost? others) := by
  rcases (innermost?_alike (h.imp fun _ _ => Scope.movedBy_iff_alike.1)).cases with
    ⟨hnone, hother⟩ | ⟨found, otherFound, hsome, hother, henclosing, hfocus⟩
  · rw [hnone, hother]
    exact .none
  · rw [hsome, hother]
    exact .some ⟨henclosing.imp fun _ _ => Scope.movedBy_iff_alike.2,
      Scope.movedBy_iff_alike.2 hfocus⟩

/-- Two layouts that show lines `k` apart, with the same signatures. -/
structure Layout.ShiftedBy (k : Int) (layout other : Layout) : Prop where
  shown : layout.shown.ShiftedBy k other.shown
  kept : List.Forall₂ (Scope.ShiftedBy k) layout.kept other.kept
  truncated : other.truncated = layout.truncated

/-- Moved focuses are laid out in the same way, in documents of any lengths that they stop in. -/
theorem Layout.ofFocus_shifted {focus otherFocus : Focus} {total otherTotal : Nat}
    (hscope : List.Forall₂ (Scope.ShiftedBy k) focus.scope.toList otherFocus.scope.toList)
    (henclosing : List.Forall₂ (Scope.ShiftedBy k) focus.enclosing otherFocus.enclosing)
    (hrange : focus.range.ShiftedBy k otherFocus.range) (hstop : focus.range.stop.line < total)
    (hotherStop : otherFocus.range.stop.line < otherTotal)
    (htarget : target.ShiftedBy k otherTarget) (budget : Budget) :
    (ofFocus focus target total budget).ShiftedBy k
      (ofFocus otherFocus otherTarget otherTotal budget) := by
  have hbody := LineSpan.ShiftedBy.ofRange hrange hstop hotherStop
  have hspan := LineSpan.first_le_last_ofRange focus.range total
  unfold ofFocus
  dsimp only
  rw [hbody.count_eq, henclosing.length_eq]
  split
  · exact ⟨hbody, List.forall₂_drop _ henclosing, rfl⟩
  · exact ⟨hbody.window htarget budget.lines budget.one_le_lines hspan, hscope, rfl⟩

/-- Moved scopes of which some stand alone have the same excerpts. -/
theorem Context.excerpt_moved (hrows : SharesRows k first last doc otherDoc)
    (htarget : target.ShiftedBy k otherTarget) {context otherContext : Context}
    (h : List.Forall₂ (Scope.MovedBy k first last) context.scopes otherContext.scopes)
    (halone : ∃ scope ∈ context.scopes, scope.standsAlone = true) (budget : Budget) :
    ∃ excerpt otherExcerpt, context.excerpt doc target budget = .ok excerpt ∧
      otherContext.excerpt otherDoc otherTarget budget = .ok otherExcerpt ∧
      excerpt.ShiftedBy k otherExcerpt := by
  rcases (Focus.innermost?_moved h).cases with
    ⟨hnone, -⟩ | ⟨⟨enclosing, scope⟩, ⟨otherEnclosing, other⟩, hfocus, hother, henclosing, hscope⟩
  · obtain ⟨scope, hmem, hscope⟩ := halone
    exact absurd (Focus.innermost?_eq_none_iff.1 hnone scope hmem) (by simp [hscope])
  · replace hscope : Scope.MovedBy k first last scope other := hscope
    -- Both scopes stop in their documents, so the numbers of lines do not matter.
    have hlast := hscope.rows.le_last
    have hstartStop := scope.range.line_start_le_stop
    have hstop : scope.range.stop.line < doc.lines.length := Nat.lt_of_le_of_lt hlast hrows.last_lt
    have hotherStop : other.range.stop.line < otherDoc.lines.length :=
      hrows.lt_length (Nat.le_trans hscope.rows.first_le (by omega)) hlast
        hscope.shifted.range.stop.line
    have hlayout : (context.layout doc target budget).ShiftedBy k
        (otherContext.layout otherDoc otherTarget budget) := by
      unfold Context.layout Focus.ofScopes
      rw [hfocus, hother]
      exact Layout.ofFocus_shifted (.cons hscope.shifted .nil)
        (henclosing.imp fun _ _ h => h.shifted) hscope.shifted.range hstop hotherStop htarget budget
    have hwithin : (context.layout doc target budget).shown.Within
        (.ofRange scope.range doc.lines.length) := by
      unfold Context.layout Focus.ofScopes
      rw [hfocus]
      exact Layout.shown_within _ target doc.lines.length budget
    have hshownLast := Nat.le_trans hwithin.last_le
      (LineSpan.last_ofRange_le scope.range doc.lines.length)
    obtain ⟨code, codeRange, otherRange, hcode, hotherCode, hcodeRange⟩ :=
      hrows.codeOf hlayout.shown (Nat.le_trans hscope.rows.first_le hwithin.first_le)
        hwithin.first_le_last (Nat.le_trans hshownLast hlast)
    refine ⟨_, _, excerpt_eq_ok (List.ne_nil_of_length_pos (by omega)) hcode,
      excerpt_eq_ok (List.ne_nil_of_length_pos (by omega)) hotherCode, ?_⟩
    exact ⟨List.rel_map (fun _ _ h => h.toBreadcrumb) hlayout.kept, rfl, hcodeRange, htarget,
      hlayout.truncated⟩

/-! ## Two runs of a finder -/

/-- A copy of the construct around a target that stands `k` lines further down in another document,
on the same lines, is the same to a finder, whatever else the two files hold: the scopes around the
target are the same up to a shift by `k` lines, and so are the excerpts, unless they show the whole
file. -/
theorem Finder.extract_moved (finder : Finder) {answer otherAnswer : ParserAnswer}
    {tree otherTree : Tree} {construct copy : Node} (hrows : SharesRows k first last doc otherDoc)
    (hcopy : construct.Alike (Node.MovedBy k bytes first last) copy)
    (htarget : target.ShiftedBy k otherTarget) (htargetRows : target.LiesOn first last)
    (htop : TopLevel finder.language doc answer target tree construct)
    (hotherTop : TopLevel finder.language otherDoc otherAnswer otherTarget otherTree copy) :
    ∃ context otherContext,
      (finder.collectContext doc answer target).value = .ok context ∧
      (finder.collectContext otherDoc otherAnswer otherTarget).value = .ok otherContext ∧
      List.Forall₂ (Scope.ShiftedBy k) context.scopes otherContext.scopes ∧
      ((∃ scope ∈ context.scopes, scope.standsAlone = true) → ∀ maxLines,
        ∃ excerpt otherExcerpt,
          (finder.extract doc answer target maxLines).value = .ok excerpt ∧
          (finder.extract otherDoc otherAnswer otherTarget maxLines).value = .ok otherExcerpt ∧
          excerpt.ShiftedBy k otherExcerpt) := by
  have hclamped := hrows.clamp htarget htargetRows
  -- The roots need not be alike: classifiers read nothing of a root but its type.
  have habove : AboveAlike (Node.MovedBy k bytes first last) [tree.root] [otherTree.root] := by
    refine .plain (fun node hnode => ?_) (fun node hnode => ?_)
    · rw [List.mem_singleton.1 hnode]
      exact finder.language.isPlain_of_rootType htop.rootType
    · rw [List.mem_singleton.1 hnode]
      exact finder.language.isPlain_of_rootType hotherTop.rootType
  have hsite : Site.Alike (Node.MovedBy k bytes first last) ⟨construct, [tree.root]⟩
      ⟨copy, [otherTree.root]⟩ := ⟨hcopy, habove⟩
  obtain ⟨sites, context, hdescent, hcontext, hscopes⟩ := htop.value_collectContext finder
  obtain ⟨others, otherContext, hotherDescent, hotherContext, hotherScopes⟩ :=
    hotherTop.value_collectContext finder
  obtain ⟨moved, hmoved, hsites⟩ := hdescent.exists_moved hrows hclamped hsite
    htop.ordered_construct hotherTop.ordered_construct
  -- A descent is determined by its start and its target.
  have hothers : others = moved :=
    (Trail.mk.inj (hotherDescent.trail_eq.symm.trans hmoved.trail_eq)).1
  subst hothers
  have hscopesMoved : List.Forall₂ (Scope.MovedBy k first last) context.scopes
      otherContext.scopes := by
    rw [hscopes, hotherScopes]
    exact innermostOfRanges_moved (finder.language.reports_moved hrows hsites 0)
  refine ⟨context, otherContext, hcontext, hotherContext,
    hscopesMoved.imp fun _ _ h => h.shifted, fun halone maxLines => ?_⟩
  obtain ⟨excerpt, otherExcerpt, hexcerpt, hotherExcerpt, hshifted⟩ :=
    Context.excerpt_moved hrows hclamped hscopesMoved halone (finder.budgetFor maxLines)
  refine ⟨excerpt, otherExcerpt, ?_, ?_, hshifted⟩
  · rw [finder.value_extract answer target doc maxLines hcontext, hexcerpt]
    rfl
  · rw [finder.value_extract otherAnswer otherTarget otherDoc maxLines hotherContext,
      hotherExcerpt]
    rfl

/-- A function of Python with a call in its body, from the start of a row on. -/
def callingFunction (row byte : Nat) : Node :=
  ⟨1, "function_definition", true, false, none, byte, byte + 17, ⟨row, 0⟩, ⟨row + 1, 8⟩,
    [⟨2, "identifier", true, false, some "name", byte + 4, byte + 5, ⟨row, 4⟩, ⟨row, 5⟩, []⟩,
      ⟨3, "call", true, false, none, byte + 13, byte + 17, ⟨row + 1, 4⟩, ⟨row + 1, 8⟩, []⟩]⟩

/-- A module with an import and a function two rows below it. -/
def functionBelowImport : Tree :=
  ⟨⟨0, "module", true, false, none, 0, 29, ⟨0, 0⟩, ⟨4, 0⟩,
    [⟨1, "import_statement", true, false, none, 0, 9, ⟨0, 0⟩, ⟨0, 9⟩, []⟩,
      callingFunction 2 11]⟩, false⟩

/-- A module of the same function alone. -/
def functionAlone : Tree :=
  ⟨⟨0, "module", true, false, none, 0, 18, ⟨0, 0⟩, ⟨2, 0⟩, [callingFunction 0 0]⟩, false⟩

/-- The contexts and excerpts of a cursor in a call, before and after the lines above its function
were removed. -/
theorem extract_moved_callingFunction :
    let finder : Finder := ⟨.python, .default⟩
    let doc : Document := .ofText "import os\n\ndef f():\n    g(1)\n" ""
    let otherDoc : Document := .ofText "def f():\n    g(1)\n" ""
    let target : Range := .cursor ⟨3, 6⟩
    let otherTarget : Range := .cursor ⟨1, 6⟩
    let answer : ParserAnswer := .parsed functionBelowImport
    let otherAnswer : ParserAnswer := .parsed functionAlone
    SharesRows (-2) 2 3 doc otherDoc ∧
    (callingFunction 2 11).Alike (Node.MovedBy (-2) (-11) 2 3) (callingFunction 0 0) ∧
    TopLevel .python doc answer target functionBelowImport (callingFunction 2 11) ∧
    TopLevel .python otherDoc otherAnswer otherTarget functionAlone (callingFunction 0 0) ∧
    ∃ context otherContext,
      (finder.collectContext doc answer target).value = .ok context ∧
      (finder.collectContext otherDoc otherAnswer otherTarget).value = .ok otherContext ∧
      List.Forall₂ (Scope.ShiftedBy (-2)) context.scopes otherContext.scopes ∧
      (∃ scope ∈ context.scopes, scope.standsAlone = true) ∧
      ∃ excerpt otherExcerpt,
        (finder.extract doc answer target none).value = .ok excerpt ∧
        (finder.extract otherDoc otherAnswer otherTarget none).value = .ok otherExcerpt ∧
        excerpt.ShiftedBy (-2) otherExcerpt := by
  intro finder doc otherDoc target otherTarget answer otherAnswer
  have hrows : SharesRows (-2) 2 3 doc otherDoc := by
    refine ⟨by decide, fun row otherRow hfirst hlast hrow => ?_⟩
    obtain ⟨rfl, rfl⟩ | ⟨rfl, rfl⟩ : (row = 2 ∧ otherRow = 0) ∨ (row = 3 ∧ otherRow = 1) := by
      omega
    · decide
    · decide
  have hcopy : (callingFunction 2 11).Alike (Node.MovedBy (-2) (-11) 2 3) (callingFunction 0 0) :=
    .intro rfl rfl rfl (by decide) (.cons (.intro rfl rfl rfl (by decide) .nil)
      (.cons (.intro rfl rfl rfl (by decide) .nil) .nil))
  have htarget : target.ShiftedBy (-2) otherTarget := ⟨⟨rfl, rfl⟩, ⟨rfl, rfl⟩⟩
  have htop : TopLevel .python doc answer target functionBelowImport (callingFunction 2 11) := {
    usable := ParserAnswer.tree?_parsed (by decide) (by decide)
    ordered := (Node.all_iff_sites []).2 (by decide)
    rootType := rfl
    contains := (Node.surrounds_iff (by decide)).2 (by decide)
    alone := by
      refine ⟨[_], [], rfl, fun sibling hsibling => ?_⟩
      rw [List.mem_singleton.1 hsibling, Node.surrounds_iff (by decide)]
      decide }
  have hotherTop : TopLevel .python otherDoc otherAnswer otherTarget functionAlone
      (callingFunction 0 0) := {
    usable := ParserAnswer.tree?_parsed (by decide) (by decide)
    ordered := (Node.all_iff_sites []).2 (by decide)
    rootType := rfl
    contains := (Node.surrounds_iff (by decide)).2 (by decide)
    alone := ⟨[], [], rfl, by simp⟩ }
  obtain ⟨context, otherContext, hcontext, hotherContext, hscopes, hexcerpts⟩ :=
    finder.extract_moved hrows hcopy htarget ⟨by decide, by decide⟩ htop hotherTop
  have halone : ∃ scope ∈ context.scopes, scope.standsAlone = true := by
    obtain ⟨sites, found, hdescent, hfound, hscopes⟩ := htop.value_collectContext finder
    have hway : Descent doc (doc.clamp target) ⟨callingFunction 2 11, [functionBelowImport.root]⟩
        [_, _] := .step rfl (.stop rfl)
    cases (Trail.mk.inj (hdescent.trail_eq.symm.trans hway.trail_eq)).1
    cases hfound.symm.trans hcontext
    rw [hscopes]
    decide
  obtain ⟨excerpt, otherExcerpt, hexcerpt, hotherExcerpt, hshifted⟩ := hexcerpts halone none
  exact ⟨hrows, hcopy, htop, hotherTop, context, otherContext, hcontext, hotherContext, hscopes,
    halone, excerpt, otherExcerpt, hexcerpt, hotherExcerpt, hshifted⟩

end CursorScope
