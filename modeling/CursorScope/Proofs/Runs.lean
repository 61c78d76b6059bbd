import CursorScope.Excerpt
import CursorScope.Proofs.Chain
import CursorScope.Proofs.Describe.Classification

/-!
# Two runs over alike trees

What two runs over alike trees have in common, whatever relates their documents, their targets and
the ranges of their nodes. Descents go over alike sites if each step leads to alike nodes
(`Descent.exists_alike`), alike sites are reported as alike scopes (`Language.reports_alike`), and
alike scopes have the same runs of one range and the same innermost scope
(`innermostOfRanges_alike`, `Focus.innermost?_alike`).
-/

namespace CursorScope

variable {same : Node → Node → Prop} {alike : String → String → Prop}
  {ranges : Range → Range → Prop} {doc otherDoc : Document} {target otherTarget : Range}

/-- A descent goes over sites that are alike to those of another one, if alike nodes have alike
children around the targets as far as the nodes of the two trees satisfy `p` and `q`. -/
theorem Descent.exists_alike {p q : Node → Prop}
    (hstep : ∀ {node other : Node}, node.Alike same other → node.All p → other.All q →
      Agree (Option.Rel (Node.Alike same)) (node.enclosingChild? target doc)
        (other.enclosingChild? otherTarget otherDoc))
    {site other : Site} {sites : List Site} (h : Descent doc target site sites)
    (hsite : Site.Alike same site other) (hp : site.node.All p) (hq : other.node.All q) :
    ∃ others, Descent otherDoc otherTarget other others ∧
      List.Forall₂ (Site.Alike same) sites others := by
  -- Both sites enter a child or neither does, so the two descents have the same length.
  induction h generalizing other with
  | @stop site hnone =>
      obtain ⟨found, otherFound, hfound, hotherFound, hrel⟩ := hstep hsite.node hp hq
      rw [hnone] at hfound
      cases hfound
      cases hrel
      exact ⟨[other], .stop hotherFound, .cons hsite .nil⟩
  | @step site child sites hchild _ ih =>
      obtain ⟨found, otherFound, hfound, hotherFound, hrel⟩ := hstep hsite.node hp hq
      rw [hchild] at hfound
      cases hfound
      cases hrel with
      | @some _ otherChild halike =>
          obtain ⟨others, hdescent, hsites⟩ := ih (hsite.below halike)
            (hp.child (Node.mem_children_of_enclosingChild? hchild))
            (hq.child (Node.mem_children_of_enclosingChild? hotherFound))
          exact ⟨other :: others, .step hotherFound hdescent, .cons hsite hsites⟩

/-! ## Alike scopes -/

/-- Two scopes that differ at most in their names, which are alike, and in their ranges, which are
related. -/
structure Scope.Alike (alike : String → String → Prop) (ranges : Range → Range → Prop)
    (scope other : Scope) : Prop where
  handle : other.handle = scope.handle
  kind : other.kind = scope.kind
  signature : other.signature = scope.signature
  name : alike scope.name other.name
  standsAlone : other.standsAlone = scope.standsAlone
  range : ranges scope.range other.range

/-- The scopes that are reported for alike sites are alike. -/
theorem Language.reports_alike (language : Language) (hreading : Reading same alike doc otherDoc)
    (hextent : ∀ {node other : Node}, same node other →
      ranges (node.extent doc) (other.extent otherDoc))
    {sites others : List Site} (h : List.Forall₂ (Site.Alike same) sites others) (handle : Nat) :
    List.Forall₂ (Scope.Alike alike ranges)
      ((language.classifier.reports doc handle sites).map (·.2))
      ((language.classifier.reports otherDoc handle others).map (·.2)) := by
  induction h generalizing handle with
  | nil => exact .nil
  | @cons site other sites others hsite _ ih =>
      obtain ⟨found, otherFound, hfound, hotherFound, hrel⟩ :=
        (language.respects hreading).classify hreading hsite
      unfold Classifier.reports
      rw [hfound, hotherFound]
      rcases hrel.cases with ⟨rfl, rfl⟩ | ⟨classification, other, rfl, rfl, halike⟩
      · exact ih handle
      · obtain ⟨hkind, hsignature, hname⟩ := halike
        refine .cons ⟨rfl, hkind.symm, hsignature.symm, hname, ?_, ?_⟩ (ih (handle + 1))
        · show other.standsAlone = classification.standsAlone
          unfold Classification.standsAlone
          rw [hkind]
        · exact hextent hsite.node.related

/-- Runs of one range are the same among alike scopes, if equal ranges are related to equal ranges
and different ones to different ones. -/
theorem innermostOfRanges_alike
    (hranges : ∀ {r r' s s' : Range}, ranges r r' → ranges s s' → (r = s ↔ r' = s'))
    {scopes others : List Scope} (h : List.Forall₂ (Scope.Alike alike ranges) scopes others) :
    List.Forall₂ (Scope.Alike alike ranges) (innermostOfRanges scopes)
      (innermostOfRanges others) := by
  induction h with
  | nil => exact .nil
  | @cons scope other scopes others hscope hrest ih =>
      cases hrest with
      | nil => exact .cons hscope .nil
      | @cons next otherNext rest otherRest hnext _ =>
          rw [innermostOfRanges, innermostOfRanges,
            if_congr (hranges hscope.range hnext.range) rfl rfl]
          split
          · exact ih
          · exact .cons hscope ih

/-- The innermost scope that stands alone has the same place among alike scopes. -/
theorem Focus.innermost?_alike {scopes others : List Scope}
    (h : List.Forall₂ (Scope.Alike alike ranges) scopes others) :
    Option.Rel (fun found other => List.Forall₂ (Scope.Alike alike ranges) found.1 other.1 ∧
      Scope.Alike alike ranges found.2 other.2) (innermost? scopes) (innermost? others) := by
  induction h with
  | nil => exact .none
  | @cons scope other scopes others hscope _ ih =>
      rw [innermost?, innermost?]
      rcases ih.cases with ⟨hnone, hother⟩ | ⟨found, otherFound, hsome, hother, henclosing, hfocus⟩
      · rw [hnone, hother]
        simp only [hscope.standsAlone]
        split
        · exact .some ⟨.nil, hscope⟩
        · exact .none
      · rw [hsome, hother]
        exact .some ⟨.cons hscope henclosing, hfocus⟩

end CursorScope
