import CursorScope.Proofs.ByteMoves
import CursorScope.Proofs.Imports
import CursorScope.Proofs.LineEndings
import CursorScope.Proofs.Runs
import CursorScope.Proofs.Safety

/-!
# Excerpts of documents with carriage returns

A finder treats a document alike whether its lines end with a newline or with a carriage return and
a newline (`Finder.extract_withReturns`). The parser counts the carriage returns in byte offsets
but not in points, so the tree of the one document is that of the other with moved bytes. Nodes at
the same points have the same ranges and the same texts up to carriage returns, which leave nothing
different but the code of an excerpt and the names of scopes.
-/

namespace CursorScope

variable {doc otherDoc : Document} {target : Range}

/-! ## Byte offsets -/

/-- The byte offset at which a place of a text stands in the text with carriage returns: the offset
of the place, moved by the number of newlines before it. -/
def Text.byteWithReturns (cs : List Char) (byte : Nat) : Nat :=
  byte + (cs.take (charactersWithin cs byte)).count '\n'

theorem Text.strictMono_byteWithReturns (cs : List Char) : StrictMono (byteWithReturns cs) := by
  intro few many hlt
  have hle : charactersWithin cs few ≤ charactersWithin cs many :=
    charactersWithin_mono cs (Nat.le_of_lt hlt)
  have hcount : (cs.take (charactersWithin cs few)).count '\n' ≤
      (cs.take (charactersWithin cs many)).count '\n' :=
    (List.take_prefix_take_left hle).sublist.count_le '\n'
  unfold byteWithReturns
  omega

/-! ## Nodes -/

/-- A node that does not end before it starts and is not past the widths of its lines, and another
one at the same points. -/
structure Node.SamePoints (doc : Document) (node other : Node) : Prop where
  startPoint : other.startPoint = node.startPoint
  endPoint : other.endPoint = node.endPoint
  ordered : node.startPoint ≤ node.endPoint
  startWidth : doc.InByteWidth node.startPoint
  endWidth : doc.InByteWidth node.endPoint

namespace Node.SamePoints

variable {node other : Node} (hdocs : doc.WithReturns otherDoc)

theorem of_moveBytes {move : Nat → Nat} (hordered : node.startPoint ≤ node.endPoint)
    (hwidth : doc.InByteWidth node.startPoint ∧ doc.InByteWidth node.endPoint) :
    node.SamePoints doc (node.moveBytes move) :=
  ⟨startPoint_moveBytes move node, endPoint_moveBytes move node, hordered, hwidth.1, hwidth.2⟩

theorem ordered_other (h : node.SamePoints doc other) : other.startPoint ≤ other.endPoint := by
  rw [h.startPoint, h.endPoint]
  exact h.ordered

include hdocs

/-- Nodes at the same points have the same extents. -/
theorem extent_eq (h : node.SamePoints doc other) : other.extent otherDoc = node.extent doc := by
  rw [extent, extent, h.startPoint, h.endPoint, hdocs.positionAt h.startWidth,
    hdocs.positionAt h.endWidth]

/-- Nodes at the same points have the same texts up to carriage returns. -/
theorem reading : Reading (SamePoints doc) Text.ReturnsAdded doc otherDoc where
  congruence := Text.congruence_returnsAdded
  text := by
    intro node other h
    unfold Node.text
    rw [range_eq_ok_extent doc h.ordered, range_eq_ok_extent otherDoc h.ordered_other,
      h.extent_eq hdocs]
    exact .ok (hdocs.returnsAdded_cut (Document.inWidth_positionAt h.startWidth)
      (Document.inWidth_positionAt h.endWidth))
  textBefore := by
    intro node other next otherNext h hnext
    unfold Node.textBefore
    rw [range_eq_ok_extent doc h.ordered, range_eq_ok_extent otherDoc h.ordered_other,
      range_eq_ok_extent doc hnext.ordered, range_eq_ok_extent otherDoc hnext.ordered_other,
      h.extent_eq hdocs, hnext.extent_eq hdocs]
    exact .ok (hdocs.returnsAdded_cut (Document.inWidth_positionAt h.startWidth)
      (Document.inWidth_positionAt hnext.startWidth))

/-- Alike nodes with separated children have alike children around a target that is not empty: at
most one of the children contains it, so their numbers of bytes do not matter. -/
theorem enclosingChild?_agree (htarget : target.isEmpty = false)
    (h : node.Alike (SamePoints doc) other) (hordered : node.Ordered) (hother : other.Ordered)
    (hseparated : node.Separated) :
    Agree (Option.Rel (Node.Alike (SamePoints doc))) (node.enclosingChild? target doc)
      (other.enclosingChild? target otherDoc) := by
  rw [hordered.enclosingChild?_eq, hother.enclosingChild?_eq]
  have hchildren : List.Forall₂ (Node.Alike (SamePoints doc))
      (node.children.filter fun child => (child.extent doc).contains target)
      (other.children.filter fun child => (child.extent otherDoc).contains target) := by
    refine List.rel_filter (fun child otherChild hchild => ?_) h.children
    show (child.extent doc).contains target = true ↔
      (otherChild.extent otherDoc).contains target = true
    rw [hchild.related.extent_eq hdocs]
  have hone := hordered.length_filter_contains_le_one doc hseparated htarget
  refine .ok ?_
  generalize node.children.filter _ = found at hchildren hone ⊢
  generalize other.children.filter _ = otherFound at hchildren ⊢
  cases hchildren with
  | nil => exact .none
  | cons hchild hrest =>
      cases hrest with
      | nil => exact .some hchild
      | cons =>
          rw [List.length_cons, List.length_cons] at hone
          omega

end Node.SamePoints

/-! ## Scopes and excerpts -/

/-- Two contexts with the same imports and includes, whose scopes differ at most by their names. -/
structure Context.Alike (alike : String → String → Prop) (context other : Context) : Prop where
  scopes : List.Forall₂ (Scope.Alike alike Eq) context.scopes other.scopes
  includes : other.includes = context.includes
  imports : other.imports = context.imports

/-- Two breadcrumbs that differ at most by their names. -/
structure Breadcrumb.Alike (alike : String → String → Prop) (crumb other : Breadcrumb) : Prop where
  signature : other.signature = crumb.signature
  name : alike crumb.name other.name
  range : other.range = crumb.range

/-- An excerpt, and one with a carriage return before every newline of the code. -/
structure Excerpt.WithReturns (e other : Excerpt) : Prop where
  context : e.context.Alike Text.ReturnsAdded other.context
  breadcrumbs : List.Forall₂ (Breadcrumb.Alike Text.ReturnsAdded) e.breadcrumbs other.breadcrumbs
  code : other.code = Text.withReturns e.code
  codeRange : other.codeRange = e.codeRange
  target : other.target = e.target
  truncated : other.truncated = e.truncated

/-- Two layouts that show the same lines and keep alike scopes. -/
structure Layout.Alike (alike : String → String → Prop) (layout other : Layout) : Prop where
  shown : other.shown = layout.shown
  kept : List.Forall₂ (Scope.Alike alike Eq) layout.kept other.kept
  truncated : other.truncated = layout.truncated

variable {alike : String → String → Prop}

theorem Scope.Alike.toBreadcrumb {scope other : Scope} (h : Scope.Alike alike Eq scope other) :
    Breadcrumb.Alike alike scope.toBreadcrumb other.toBreadcrumb :=
  ⟨h.signature, h.name, h.range.symm⟩

/-- Focuses on one range with alike scopes are laid out in the same way. -/
theorem Layout.ofFocus_alike {focus otherFocus : Focus}
    (hscope : List.Forall₂ (Scope.Alike alike Eq) focus.scope.toList otherFocus.scope.toList)
    (henclosing : List.Forall₂ (Scope.Alike alike Eq) focus.enclosing otherFocus.enclosing)
    (hrange : otherFocus.range = focus.range) (target : Range) (total : Nat) (budget : Budget) :
    (ofFocus focus target total budget).Alike alike (ofFocus otherFocus target total budget) := by
  unfold ofFocus
  dsimp only
  rw [hrange, henclosing.length_eq]
  split
  · exact ⟨rfl, List.forall₂_drop _ henclosing, rfl⟩
  · exact ⟨rfl, hscope, rfl⟩

namespace Context

variable {context otherContext : Context}

theorem layout_alike (hdocs : doc.WithReturns otherDoc)
    (h : List.Forall₂ (Scope.Alike alike Eq) context.scopes otherContext.scopes) (target : Range)
    (budget : Budget) :
    (context.layout doc target budget).Alike alike
      (otherContext.layout otherDoc target budget) := by
  unfold layout Focus.ofScopes
  rw [hdocs.length_eq, hdocs.endPosition]
  rcases (Focus.innermost?_alike h).cases with
    ⟨hnone, hother⟩ | ⟨found, otherFound, hsome, hother, henclosing, hscope⟩
  · rw [hnone, hother]
    exact Layout.ofFocus_alike .nil .nil rfl target _ budget
  · rw [hsome, hother]
    exact Layout.ofFocus_alike (.cons hscope .nil) henclosing hscope.range.symm target _ budget

/-- Alike contexts have the same excerpts up to carriage returns, or fail in the same way. -/
theorem excerpt_withReturns (hdocs : doc.WithReturns otherDoc)
    (h : context.Alike Text.ReturnsAdded otherContext) (target : Range) (budget : Budget) :
    AgreeOrFail Excerpt.WithReturns (context.excerpt doc target budget)
      (otherContext.excerpt otherDoc target budget) := by
  have hlayout := layout_alike hdocs h.scopes target budget
  have hcode := hdocs.codeOf (context.layout doc target budget).shown
  by_cases hdoc : doc.lines = []
  · have hother : otherDoc.lines = [] := by rw [hdocs.lines, hdoc, List.map_nil]
    unfold excerpt
    rw [if_pos (by simp [hdoc]), if_pos (by simp [hother])]
    exact .ok ⟨h, .nil, (Text.withReturns_of_not_mem List.not_mem_nil).symm, rfl, rfl, rfl⟩
  · have hother : otherDoc.lines ≠ [] := by
      rw [hdocs.lines]
      simpa using hdoc
    rw [← hlayout.shown] at hcode
    cases hfound : doc.codeOf (context.layout doc target budget).shown with
    | error missing =>
        rw [hlayout.shown, hfound, ← hlayout.shown] at hcode
        rw [excerpt_eq_error hdoc hfound, excerpt_eq_error hother hcode]
        exact .fail missing
    | ok found =>
        rw [hlayout.shown, hfound, ← hlayout.shown] at hcode
        rw [excerpt_eq_ok hdoc hfound, excerpt_eq_ok hother hcode]
        have hkept := List.rel_map (fun _ _ h => h.toBreadcrumb) hlayout.kept
        exact .ok ⟨h, hkept, rfl, rfl, rfl, hlayout.truncated⟩

end Context

/-! ## Two runs of a finder -/

namespace Finder

variable (finder : Finder)

/-- The contexts in documents that differ by carriage returns are alike. -/
theorem collectContext_withReturns (hdocs : doc.WithReturns otherDoc) {tree : Tree}
    {move : Nat → Nat} (hmove : StrictMono move) (hordered : tree.root.Ordered)
    (hseparated : tree.root.Separated)
    (hwidth : tree.root.All fun node =>
      doc.InByteWidth node.startPoint ∧ doc.InByteWidth node.endPoint)
    (htarget : (doc.clamp target).isEmpty = false) :
    Agree (Context.Alike Text.ReturnsAdded)
      (finder.collectContext doc (.parsed tree) target).value
      (finder.collectContext otherDoc (.parsed (tree.moveBytes move)) target).value := by
  have htrees := ParserAnswer.tree?_moveBytes hmove tree
  cases htree : (ParserAnswer.parsed tree).tree? with
  | error failure =>
      rw [htree] at htrees
      rw [value_collectContext, value_collectContext, htree, htrees]
      exact .ok ⟨.nil, rfl, rfl⟩
  | ok usable =>
      cases ParserAnswer.eq_parsed_of_tree? htree
      rw [htree] at htrees
      have halike : tree.root.Alike (Node.SamePoints doc) (tree.root.moveBytes move) :=
        Node.alike_moveBytes move (fun node hnode => .of_moveBytes hnode.1 hnode.2)
          (hordered.and hwidth)
      have hsite : Site.Alike (Node.SamePoints doc) (.ofRoot tree.root)
          (.ofRoot (tree.moveBytes move).root) :=
        ⟨halike, .plain (fun _ hnode => by cases hnode) (fun _ hnode => by cases hnode)⟩
      have hreading : Reading (Node.SamePoints doc) Text.ReturnsAdded doc otherDoc :=
        Node.SamePoints.reading hdocs
      have hdescent : Descent doc (doc.clamp target) (.ofRoot tree.root) _ :=
        hordered.descent_trail []
      -- The two descents go over the same children, of which there is at most one around a target.
      obtain ⟨others, hotherDescent, hsites⟩ := hdescent.exists_alike
        (fun hnode hp hq => Node.SamePoints.enclosingChild?_agree hdocs htarget hnode
          (hp.mono fun _ h => h.1) hq (hp.mono fun _ h => h.2))
        hsite (hordered.and hseparated) (hordered.moveBytes move)
      rw [← hdocs.clamp] at hotherDescent
      obtain ⟨found, hfound, hcontext⟩ :=
        finder.collectContext_of_descent target htree hordered hdescent
      obtain ⟨otherFound, hotherFound, hotherContext⟩ :=
        finder.collectContext_of_descent target htrees (hordered.moveBytes move) hotherDescent
      obtain ⟨_, _, hsame, hotherSame, rfl⟩ := hreading.imports finder.language.classifier halike
      cases hfound.symm.trans hsame
      cases hotherFound.symm.trans hotherSame
      rw [hcontext, hotherContext]
      refine .ok ⟨innermostOfRanges_alike (fun hrange hother => ?_) ?_, rfl, rfl⟩
      · rw [hrange, hother]
      · exact finder.language.reports_alike hreading
          (fun hnode => (hnode.extent_eq hdocs).symm) hsites 0

/-- A finder treats a text and the same text with a carriage return before every newline alike,
with the same tree but for its byte offsets, and for every target that is not empty when it is
clamped. The one tree is usable exactly when the other is, the contexts differ at most by the names
of scopes, and the excerpts moreover by the carriage returns in their code. -/
theorem extract_withReturns (text uri : String) (tree : Tree) (target : Range)
    (maxLines : Option Int) (hordered : tree.root.Ordered) (hseparated : tree.root.Separated)
    (hwidth : tree.root.All fun node => (Document.ofText text uri).InByteWidth node.startPoint ∧
      (Document.ofText text uri).InByteWidth node.endPoint)
    (htarget : ((Document.ofText text uri).clamp target).isEmpty = false) :
    let doc : Document := .ofText text uri
    let otherDoc : Document := .ofText (Text.withReturns text) uri
    let move := Text.byteWithReturns text.toList
    let answer : ParserAnswer := .parsed tree
    let otherAnswer : ParserAnswer := .parsed (tree.moveBytes move)
    otherAnswer.tree? = answer.tree?.map (·.moveBytes move) ∧
    Agree (Context.Alike Text.ReturnsAdded) (finder.collectContext doc answer target).value
      (finder.collectContext otherDoc otherAnswer target).value ∧
    AgreeOrFail Excerpt.WithReturns (finder.extract doc answer target maxLines).value
      (finder.extract otherDoc otherAnswer target maxLines).value := by
  intro doc otherDoc move answer otherAnswer
  have hdocs : doc.WithReturns otherDoc := Document.withReturns_ofText text uri
  have hmove : StrictMono move := Text.strictMono_byteWithReturns text.toList
  have hcontexts := finder.collectContext_withReturns hdocs hmove hordered hseparated hwidth htarget
  refine ⟨ParserAnswer.tree?_moveBytes hmove tree, hcontexts, ?_⟩
  obtain ⟨context, otherContext, hcontext, hotherContext, halike⟩ := hcontexts
  rw [finder.value_extract answer target doc maxLines hcontext,
    finder.value_extract otherAnswer target otherDoc maxLines hotherContext, hdocs.clamp]
  exact (Context.excerpt_withReturns hdocs halike (doc.clamp target)
    (finder.budgetFor maxLines)).mapError _

end Finder

/-- A module of a function with a call on its second line. -/
def twoLineFunction : Tree :=
  ⟨⟨0, "module", true, false, none, 0, 18, ⟨0, 0⟩, ⟨2, 0⟩,
    [⟨1, "function_definition", true, false, none, 0, 17, ⟨0, 0⟩, ⟨1, 8⟩,
      [⟨2, "identifier", true, false, some "name", 4, 5, ⟨0, 4⟩, ⟨0, 5⟩, []⟩,
        ⟨3, "call", true, false, none, 13, 17, ⟨1, 4⟩, ⟨1, 8⟩, []⟩]⟩]⟩, false⟩

/-- The excerpts around the call, where the lines end with newlines and where they end with carriage
returns and newlines. -/
theorem extract_withReturns_twoLineFunction :
    let finder : Finder := ⟨.python, .default⟩
    let text := "def f():\n    g(1)\n"
    let doc : Document := .ofText text ""
    let otherTree := twoLineFunction.moveBytes (Text.byteWithReturns text.toList)
    let target : Range := ⟨⟨1, 4⟩, ⟨1, 8⟩, by decide⟩
    twoLineFunction.root.Ordered ∧ twoLineFunction.root.Separated ∧
    (twoLineFunction.root.All fun node =>
      doc.InByteWidth node.startPoint ∧ doc.InByteWidth node.endPoint) ∧
    (doc.clamp target).isEmpty = false ∧ otherTree.root.endByte = 20 ∧
    ∃ e other, (finder.extract doc (.parsed twoLineFunction) target none).value = .ok e ∧
      (finder.extract (.ofText (Text.withReturns text) "") (.parsed otherTree) target none).value =
        .ok other ∧
      e.WithReturns other := by
  intro finder text doc otherTree target
  have hordered : twoLineFunction.root.Ordered := (Node.all_iff_sites []).2 (by decide)
  have hseparated : twoLineFunction.root.Separated := (Node.all_iff_sites []).2 (by decide)
  have hwidth : twoLineFunction.root.All fun node =>
      doc.InByteWidth node.startPoint ∧ doc.InByteWidth node.endPoint :=
    (Node.all_iff_sites []).2 (by decide)
  have htarget : (doc.clamp target).isEmpty = false := by decide
  have hroot : (finder.language.classifier.kindOf twoLineFunction.root.type).isCodeRange =
      false := by decide
  obtain ⟨-, -, hexcerpts⟩ := finder.extract_withReturns text "" twoLineFunction target none
    hordered hseparated hwidth htarget
  -- The function contains the target, so there is an excerpt.
  obtain ⟨context, hcontext, hcontains⟩ := finder.collectContext_contains target doc
    (fun tree htree => ParserAnswer.parsed.inj htree ▸ hordered)
    (fun tree htree => ParserAnswer.parsed.inj htree ▸ hroot)
  obtain ⟨e, -, he⟩ := finder.extract_of_contains target none hcontext hcontains
  obtain ⟨other, hother, hreturns⟩ := hexcerpts.exists_of_ok he
  exact ⟨hordered, hseparated, hwidth, htarget, by decide, e, other, he, hother, hreturns⟩

end CursorScope
