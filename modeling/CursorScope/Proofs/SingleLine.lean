import CursorScope.Proofs.Code
import CursorScope.Proofs.Focus
import CursorScope.Proofs.Safety

/-!
# Signatures and imports on single lines

Whatever a document and a tree are, the signatures of scopes and the statements of a file have no
blanks but single spaces between other characters (`Text.SingleSpaced`), because the one way to all
of them is `Text.collapse`. So each of them is one line of an excerpt, and the text of an excerpt
splits at its newlines into just the lines that it was put together from
(`Finder.extract_onSingleLines`).
-/

namespace CursorScope

namespace Text

/-! ## Single spaces -/

/-- Characters whose blanks are spaces, each between two characters that are no blanks. -/
def SingleSpaced (cs : List Char) : Prop :=
  ∀ before blank after, cs = before ++ blank :: after → isBlank blank = true →
    blank = ' ' ∧ (∃ front last, before = front ++ [last] ∧ isBlank last = false) ∧
      ∃ next rest, after = next :: rest ∧ isBlank next = false

/-- A word is not empty and has no blanks. -/
def IsWord (word : List Char) : Prop := word ≠ [] ∧ ∀ c ∈ word, isBlank c = false

theorem isWord_of_mem_words {cs word : List Char} (h : word ∈ words cs) : IsWord word := by
  obtain ⟨hpiece, hne⟩ := List.mem_filter.1 h
  exact ⟨by simpa using hne, eq_false_of_mem_splitOnP hpiece⟩

namespace IsWord

variable {word : List Char}

theorem singleSpaced (h : IsWord word) : SingleSpaced word := by
  rintro before blank after rfl hblank
  rw [h.2 blank (by simp)] at hblank
  cases hblank

/-- A word in front of single-spaced characters that start with no blank is set off by a space. -/
theorem singleSpaced_append (h : IsWord word) {next : Char} {rest : List Char}
    (hnext : isBlank next = false) (hrest : SingleSpaced (next :: rest)) :
    SingleSpaced (word ++ ' ' :: next :: rest) := by
  intro before blank after heq hblank
  have hword : ∃ front last, word = front ++ [last] ∧ isBlank last = false := by
    obtain ⟨front, last, rfl⟩ := List.eq_nil_or_concat' word |>.resolve_left h.1
    exact ⟨front, last, rfl, h.2 last (by simp)⟩
  rcases List.append_eq_append_iff.1 heq with ⟨middle, hbefore, hspace⟩ | ⟨middle, hinside, hspace⟩
  · cases middle with
    | nil =>
        -- The blank is the space behind the word.
        cases hspace
        rw [hbefore, List.append_nil]
        exact ⟨rfl, hword, next, rest, rfl, hnext⟩
    | cons space middle =>
        obtain ⟨rfl, hlater⟩ := List.cons.inj hspace
        obtain ⟨hblank, ⟨front, last, rfl, hlast⟩, hafter⟩ := hrest middle blank after hlater hblank
        refine ⟨hblank, ⟨word ++ ' ' :: front, last, ?_, hlast⟩, hafter⟩
        rw [hbefore, List.append_assoc, List.cons_append]
  · cases middle with
    | nil =>
        cases hspace
        rw [List.append_nil] at hinside
        exact ⟨rfl, hinside ▸ hword, next, rest, rfl, hnext⟩
    | cons first middle =>
        -- The blank would be in the word.
        obtain ⟨rfl, -⟩ := List.cons.inj hspace
        rw [h.2 blank (by rw [hinside]; simp)] at hblank
        cases hblank

end IsWord

/-- Words joined by single spaces are single-spaced. -/
theorem singleSpaced_intercalate {ws : List (List Char)} (h : ∀ word ∈ ws, IsWord word) :
    SingleSpaced (List.intercalate [' '] ws) := by
  induction ws with
  | nil =>
      intro before blank after heq
      simp at heq
  | cons word ws ih =>
      obtain ⟨hword, hws⟩ := List.forall_mem_cons.1 h
      cases ws with
      | nil =>
          rw [List.intercalate_singleton]
          exact hword.singleSpaced
      | cons other ws =>
          -- What follows the space starts with the first character of the next word.
          obtain ⟨hother, -⟩ := List.forall_mem_cons.1 hws
          obtain ⟨next, letters, rfl⟩ := List.exists_cons_of_ne_nil hother.1
          obtain ⟨rest, hrest⟩ : ∃ rest,
              List.intercalate [' '] ((next :: letters) :: ws) = next :: rest := by
            cases ws with
            | nil => exact ⟨letters, List.intercalate_singleton⟩
            | cons => exact ⟨_, List.intercalate_cons_cons⟩
          have hlater := ih hws
          rw [hrest] at hlater
          rw [List.intercalate_cons_cons, hrest, List.append_assoc]
          exact hword.singleSpaced_append (hother.2 next List.mem_cons_self) hlater

theorem singleSpaced_collapse (text : String) : SingleSpaced (collapse text).toList := by
  rw [toList_collapse]
  exact singleSpaced_intercalate fun _ => isWord_of_mem_words

/-- Single-spaced characters are on one line. -/
theorem SingleSpaced.newline_not_mem {cs : List Char} (h : SingleSpaced cs) : '\n' ∉ cs := by
  intro hmem
  obtain ⟨before, after, heq⟩ := List.append_of_mem hmem
  exact absurd (h before '\n' after heq (by decide)).1 (by decide)

end Text

/-! ## The context of a target -/

/-- All signatures and statements of a context are single-spaced. -/
structure Context.SingleSpaced (context : Context) : Prop where
  signatures : ∀ scope ∈ context.scopes, Text.SingleSpaced scope.signature.toList
  includes : ∀ text ∈ context.includes, Text.SingleSpaced text.toList
  imports : ∀ text ∈ context.imports, Text.SingleSpaced text.toList

namespace Classifier

variable {classifier : Classifier} {doc : Document}

/-- A signature is written by way of `Signature.render`, whatever the rules of a classifier put
into it. -/
theorem singleSpaced_signature {site : Site} {classification : Classification}
    (h : classifier.classify site doc = .ok (some classification)) :
    Text.SingleSpaced classification.signature.toList := by
  obtain ⟨description, -, h⟩ := Except.bind_eq_ok_iff.1 h
  obtain ⟨d, -, rfl⟩ := Option.map_eq_some_iff.1 (Except.ok.inj h)
  exact Text.singleSpaced_collapse d.signature.raw

theorem singleSpaced_ofSites {sites : List Site} :
    ∀ entry ∈ (Walk.ofSites classifier doc sites).entries,
      Text.SingleSpaced entry.classification.signature.toList := by
  intro entry hentry
  induction sites with
  | nil => cases hentry
  | cons site rest ih =>
      rw [Walk.ofSites] at hentry
      split at hentry
      · cases hentry
      · exact ih hentry
      · rename_i classification hclassify
        split at hentry
        · cases hentry
        · rcases List.mem_cons.1 hentry with rfl | hentry
          · exact singleSpaced_signature hclassify
          · exact ih hentry

theorem singleSpaced_chain {root : Node} {target : Range} {arena : Arena} {scopes : List Scope}
    (h : (classifier.chain root target doc arena).2 = .ok scopes) :
    ∀ scope ∈ scopes, Text.SingleSpaced scope.signature.toList := by
  intro scope hscope
  unfold chain at h
  dsimp only at h
  split at h
  · cases h
  · cases h
    obtain ⟨⟨entry, handle⟩, hentry, rfl⟩ :=
      List.mem_map.1 ((innermostOfRanges_sublist _).subset hscope)
    exact singleSpaced_ofSites entry (List.fst_mem_of_mem_zipIdx hentry)

theorem singleSpaced_statementText {node : Node} {text : String}
    (h : node.statementText doc = .ok text) : Text.SingleSpaced text.toList := by
  unfold Node.statementText at h
  cases hnode : node.text doc with
  | error failure =>
      rw [hnode] at h
      cases h
  | ok raw =>
      rw [hnode] at h
      cases h
      exact Text.singleSpaced_collapse raw

theorem singleSpaced_imports {root : Node} {found : Imports}
    (h : classifier.imports root doc = .ok found) :
    (∀ text ∈ found.imports, Text.SingleSpaced text.toList) ∧
      ∀ text ∈ found.includes, Text.SingleSpaced text.toList := by
  obtain ⟨statements, hstatements, h⟩ := Except.bind_eq_ok_iff.1 h
  have hall : ∀ statement ∈ statements, Text.SingleSpaced statement.2.toList := by
    intro statement hstatement
    obtain ⟨node, -, h⟩ := Except.exists_of_mem_mapM hstatements hstatement
    obtain ⟨text, htext, h⟩ := Except.bind_eq_ok_iff.1 h
    cases h
    exact singleSpaced_statementText htext
  have hkind (kind : Kind) :
      ∀ text ∈ (statements.filter (·.1 == kind)).map (·.2), Text.SingleSpaced text.toList := by
    intro text htext
    obtain ⟨statement, hstatement, rfl⟩ := List.mem_map.1 htext
    exact hall statement (List.mem_filter.1 hstatement).1
  cases h
  exact ⟨hkind .importDecl, hkind .includeDecl⟩

theorem singleSpaced_contextAt {tree : Tree} {target : Range} {context : Context}
    (h : classifier.contextAt tree doc target = .ok context) : context.SingleSpaced := by
  obtain ⟨scopes, hscopes, h⟩ := Except.bind_eq_ok_iff.1 h
  obtain ⟨found, hfound, h⟩ := Except.bind_eq_ok_iff.1 h
  cases h
  obtain ⟨himports, hincludes⟩ := singleSpaced_imports hfound
  exact ⟨singleSpaced_chain hscopes, hincludes, himports⟩

end Classifier

/-! ## Excerpts -/

/-- The scopes whose signatures a layout keeps are those around its focus, or its focus itself. -/
theorem FocusOf.kept_subset {scopes : List Scope} {doc : Document} {focus : Focus}
    (h : FocusOf scopes doc focus) (target : Range) (total : Nat) (budget : Budget) :
    (Layout.ofFocus focus target total budget).kept ⊆ scopes := by
  intro scope hscope
  by_cases hfits : (LineSpan.ofRange focus.range total).count ≤ budget.lines
  · rw [Layout.ofFocus_of_le target hfits] at hscope
    have henclosing := List.mem_of_mem_drop hscope
    cases h with
    | scope hscopes => exact hscopes ▸ List.mem_append_left _ henclosing
    | file => cases henclosing
  · rw [Layout.ofFocus_of_lt target (Nat.lt_of_not_le hfits)] at hscope
    exact (h.of_scope (Option.mem_toList.1 hscope)).2.1

/-- An excerpt has the context that it is made from, and keeps signatures of its scopes. -/
theorem Context.breadcrumbs_of_excerpt {context : Context} {doc : Document} {target : Range}
    {budget : Budget} {e : Excerpt} (h : context.excerpt doc target budget = .ok e) :
    e.context = context ∧ ∀ breadcrumb ∈ e.breadcrumbs, ∃ scope ∈ context.scopes,
      breadcrumb = scope.toBreadcrumb := by
  by_cases hdoc : doc.lines = []
  · rw [excerpt, if_pos (by rw [hdoc]; rfl)] at h
    cases h
    exact ⟨rfl, fun _ hbreadcrumb => by cases hbreadcrumb⟩
  · obtain ⟨code, codeRange, -, rfl⟩ := (excerpt_eq_ok_iff hdoc).1 h
    refine ⟨rfl, fun breadcrumb hbreadcrumb => ?_⟩
    obtain ⟨scope, hscope, rfl⟩ := List.mem_map.1 hbreadcrumb
    have hkept := (Focus.ofScopes_focusOf context.scopes doc).kept_subset target doc.lines.length
      budget
    exact ⟨scope, hkept hscope, rfl⟩

namespace Excerpt

/-- All signatures and statements of an excerpt are single-spaced, and its text splits at the
newlines into its lines. -/
structure OnSingleLines (e : Excerpt) : Prop where
  context : e.context.SingleSpaced
  breadcrumbs : ∀ breadcrumb ∈ e.breadcrumbs, Text.SingleSpaced breadcrumb.signature.toList
  splitOn_render : e.lines ≠ [] → (e.render.toList.splitOn '\n').map .ofList = e.lines
  length_splitOn : e.lines ≠ [] → (e.render.toList.splitOn '\n').length = e.lineCount

/-- The text of an excerpt splits into its lines when its signatures are on single lines. -/
theorem splitOn_render {e : Excerpt}
    (h : ∀ breadcrumb ∈ e.breadcrumbs, Text.SingleSpaced breadcrumb.signature.toList)
    (hne : e.lines ≠ []) : e.render.toList.splitOn '\n' = e.lines.map String.toList := by
  have hline : ∀ line ∈ e.lines, '\n' ∉ line.toList := by
    intro line hline
    rcases List.mem_append.1 hline with hsignature | hpiece
    · obtain ⟨breadcrumb, hbreadcrumb, rfl⟩ := List.mem_map.1 hsignature
      exact (h breadcrumb hbreadcrumb).newline_not_mem
    · exact Text.newline_not_mem_of_mem_newlinePieces hpiece
  have hrender : e.render.toList = List.intercalate ['\n'] (e.lines.map String.toList) :=
    String.toList_intercalate
  rw [hrender]
  refine List.splitOn_intercalate '\n' (fun cs hcs => ?_) (by simpa using hne)
  obtain ⟨line, hmem, rfl⟩ := List.mem_map.1 hcs
  exact hline line hmem

end Excerpt

namespace Finder

theorem singleSpaced_collectContext (finder : Finder) {doc : Document} {answer : ParserAnswer}
    {target : Range} {context : Context}
    (h : (finder.collectContext doc answer target).value = .ok context) :
    context.SingleSpaced := by
  rw [value_collectContext] at h
  split at h
  · cases h
    exact ⟨List.forall_mem_nil _, List.forall_mem_nil _, List.forall_mem_nil _⟩
  · exact Classifier.singleSpaced_contextAt h

/-- In every excerpt of a finder, whatever the document, the answer of the parser, the target and
the budget are, the signatures and statements have no blanks but single spaces between other
characters, and the text of the excerpt has just its lines between the newlines. -/
theorem extract_onSingleLines (finder : Finder) (doc : Document) (answer : ParserAnswer)
    (target : Range) (maxLines : Option Int) {e : Excerpt}
    (h : (finder.extract doc answer target maxLines).value = .ok e) : e.OnSingleLines := by
  obtain ⟨context, hcontext, he⟩ := finder.exists_context_of_extract answer target h
  obtain ⟨hsame, hkept⟩ := Context.breadcrumbs_of_excerpt he
  have hspaced := singleSpaced_collectContext finder hcontext
  have hbreadcrumbs : ∀ breadcrumb ∈ e.breadcrumbs,
      Text.SingleSpaced breadcrumb.signature.toList := by
    intro breadcrumb hbreadcrumb
    obtain ⟨scope, hscope, rfl⟩ := hkept breadcrumb hbreadcrumb
    exact hspaced.signatures scope hscope
  refine ⟨hsame ▸ hspaced, hbreadcrumbs, fun hne => ?_, fun hne => ?_⟩
  · rw [Excerpt.splitOn_render hbreadcrumbs hne, List.map_map]
    exact List.map_id'' (fun _ => String.ofList_toList) _
  · rw [Excerpt.splitOn_render hbreadcrumbs hne, List.length_map]
    rfl

end Finder

/-- A module with an import and the parameters of a method over two lines each. -/
def brokenLines : Tree :=
  ⟨⟨0, "module", true, false, none, 0, 69, ⟨0, 0⟩, ⟨6, 0⟩,
    [⟨1, "import_statement", true, false, none, 0, 16, ⟨0, 0⟩, ⟨1, 5⟩, []⟩,
      ⟨2, "class_definition", true, false, none, 17, 68, ⟨2, 0⟩, ⟨5, 12⟩,
        [⟨3, "identifier", true, false, some "name", 23, 24, ⟨2, 6⟩, ⟨2, 7⟩, []⟩,
          ⟨4, "function_definition", true, false, none, 30, 68, ⟨3, 4⟩, ⟨5, 12⟩,
            [⟨5, "identifier", true, false, some "name", 34, 35, ⟨3, 8⟩, ⟨3, 9⟩, []⟩,
              ⟨6, "parameters", true, false, some "parameters", 35, 54, ⟨3, 9⟩, ⟨4, 12⟩,
                []⟩]⟩]⟩]⟩, false⟩

/-- The excerpt around a cursor in the method. -/
theorem extract_onSingleLines_brokenLines :
    let finder : Finder := ⟨.python, .default⟩
    let doc : Document := .ofText
      "import (a,\n  b)\nclass C:\n    def f(self,\n          x):\n        pass\n" ""
    ∃ e, (finder.extract doc (.parsed brokenLines) (.cursor ⟨5, 8⟩) none).value = .ok e ∧
      e.context.imports = ["import (a, b)"] ∧
      e.context.scopes.map (·.signature) = ["class C", "def f(self, x)"] ∧
      e.lines = ["class C", "    def f(self,", "          x):", "        pass"] ∧
      e.OnSingleLines := by
  intro finder doc
  have hextract :
      (finder.extract doc (.parsed brokenLines) (.cursor ⟨5, 8⟩) none).value =
        .ok ⟨⟨[⟨0, .typeDecl, "class C", "C", true, ⟨⟨2, 0⟩, ⟨5, 12⟩, by decide⟩⟩,
            ⟨1, .functionDecl, "def f(self, x)", "f", true, ⟨⟨3, 4⟩, ⟨5, 12⟩, by decide⟩⟩], [],
            ["import (a, b)"]⟩,
          [⟨"class C", "C", ⟨⟨2, 0⟩, ⟨5, 12⟩, by decide⟩⟩],
          "    def f(self,\n          x):\n        pass", ⟨⟨3, 0⟩, ⟨5, 12⟩, by decide⟩,
          .cursor ⟨5, 8⟩, false⟩ := by
    decide +kernel
  exact ⟨_, hextract, rfl, rfl, by decide,
    finder.extract_onSingleLines doc _ (.cursor ⟨5, 8⟩) none hextract⟩

end CursorScope
