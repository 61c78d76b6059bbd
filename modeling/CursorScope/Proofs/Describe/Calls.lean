import CursorScope.Proofs.Safety
import CursorScope.Proofs.Words

/-!
# Names of calls

A call is told by the name of its callee, the node inside all parentheses around what is called
(`Node.Unwraps`). `CallName` says which name that is: the word for a closure, whatever the closure
holds, or the text of any other callee on one line, cut to `calleeWidth` characters. Names are
single-spaced, so they stand in the line of a signature just as they are
(`Classifier.classify_call`).
-/

namespace CursorScope

/-! ## Callees -/

/-- The first node holds the second in parentheses, each with one named node in them and the last
with a node that is no such parenthesis. -/
inductive Node.Unwraps : Node → Node → Prop where
  | here {node : Node}
      (h : node.type ≠ "parenthesized_expression" ∨ node.namedChildren.length ≠ 1) :
      Unwraps node node
  | inside {node inner callee : Node} (htype : node.type = "parenthesized_expression")
      (hinner : node.namedChildren = [inner]) (h : Unwraps inner callee) : Unwraps node callee

namespace Node.Unwraps

variable {node callee : Node}

theorem eq (h : node.Unwraps callee) : node.withoutParentheses = callee := by
  induction h with
  | here h => exact withoutParentheses_of_ne h
  | inside htype hinner _ ih => rw [withoutParentheses_of_singleton htype hinner, ih]

theorem ordered (h : node.Unwraps callee) (hnode : node.Ordered) : callee.Ordered := by
  induction h with
  | here => exact hnode
  | inside _ hinner _ ih =>
      exact ih (hnode.child (mem_children_of_mem_namedChildren (by simp [hinner])))

end Node.Unwraps

theorem Node.unwraps_withoutParentheses (node : Node) : node.Unwraps node.withoutParentheses := by
  induction node using Node.inductionOnChildren with
  | step node ih =>
      by_cases h : node.type ≠ "parenthesized_expression" ∨ node.namedChildren.length ≠ 1
      · rw [withoutParentheses_of_ne h]
        exact .here h
      · obtain ⟨htype, hone⟩ : node.type = "parenthesized_expression" ∧
            node.namedChildren.length = 1 := by simpa using h
        obtain ⟨inner, hinner⟩ := List.length_eq_one_iff.1 hone
        rw [withoutParentheses_of_singleton htype hinner]
        exact .inside htype hinner
          (ih inner (mem_children_of_mem_namedChildren (by simp [hinner])))

namespace Classifier

/-- The callee behind a node is no closure, and `line` is its text on one line. -/
def ReadsCallee (classifier : Classifier) (doc : Document) (function : Node) (line : String) :
    Prop :=
  ∃ callee text, function.Unwraps callee ∧ classifier.kindOf callee.type ≠ .closure ∧
    callee.text doc = .ok text ∧ line = Text.collapse text

/-- The name of a call, given the node that it applies if it has one, and the word for closures. -/
inductive CallName (classifier : Classifier) (word : String) (doc : Document) :
    Option Node → String → Prop where
  | nothing : CallName classifier word doc none ""
  | closure {function callee : Node} (hcallee : function.Unwraps callee)
      (hkind : classifier.kindOf callee.type = .closure) :
      CallName classifier word doc (some function) word
  | whole {function : Node} {line : String} (h : classifier.ReadsCallee doc function line)
      (hfits : line.length ≤ 60) : CallName classifier word doc (some function) line
  | cut {function : Node} {line : String} {shown blanks : List Char}
      (h : classifier.ReadsCallee doc function line) (hlong : 60 < line.length)
      (hshown : line.toList.take 57 = shown ++ blanks)
      (hlast : ∀ c ∈ shown.getLast?, Text.isBlank c = false)
      (hblanks : ∀ c ∈ blanks, Text.isBlank c = true) :
      CallName classifier word doc (some function) (.ofList shown ++ "...")

end Classifier

/-- The word for the closures of a language. -/
def Language.closureWord : Language → String
  | .c => "closure"
  | .go => "func"
  | .python => "lambda"

/-- The classifiers of languages and of bare tables of kinds, with their words for closures. -/
inductive Classifier.HasClosureWord : Classifier → String → Prop where
  | language (language : Language) : HasClosureWord language.classifier language.closureWord
  | ofKinds (table : List (String × Kind)) : HasClosureWord (.ofKinds table) "closure"

variable {classifier : Classifier} {word : String} {doc : Document} {node function : Node}
  {line name : String}

namespace Classifier.HasClosureWord

theorem isWord (h : classifier.HasClosureWord word) : Text.IsWord word.toList := by
  cases h with
  | language language => cases language <;> decide
  | ofKinds => decide

theorem length_le (h : classifier.HasClosureWord word) : word.length ≤ 60 := by
  cases h with
  | language language => cases language <;> decide
  | ofKinds => decide

/-- A closure is described with its word as the keyword, whatever it holds. -/
theorem describeClosure (h : classifier.HasClosureWord word) (doc : Document)
    (hnode : node.Ordered) :
    ∃ d, classifier.describeClosure node doc = .ok d ∧ d.signature.keyword = word := by
  cases h with
  | language language =>
      have hreading := Node.SameOrdered.reading doc
      obtain ⟨d, hd⟩ := ((language.respects hreading).describeClosure hnode.alike).exists_ok
      refine ⟨d, hd, ?_⟩
      cases language with
      | c =>
          cases hd
          rfl
      | go | python =>
          obtain ⟨detail, -, hd⟩ := Except.bind_eq_ok_iff.1 hd
          cases hd
          rfl
  | ofKinds => exact ⟨_, rfl, rfl⟩

end Classifier.HasClosureWord

/-! ## Shortened lines -/

/-- A line that is too wide is cut behind 57 characters, and the blanks there are left out. -/
theorem exists_shown_of_shortened (h : 60 < line.length) :
    ∃ shown blanks, line.toList.take 57 = shown ++ blanks ∧
      (∀ c ∈ shown.getLast?, Text.isBlank c = false) ∧
      (∀ c ∈ blanks, Text.isBlank c = true) ∧ shortened line = .ofList shown ++ "..." := by
  refine ⟨Text.dropEndWhile Text.isBlank (line.toList.take 57),
    ((line.toList.take 57).reverse.takeWhile Text.isBlank).reverse,
    (Text.dropEndWhile_append _ _).symm, fun c hc => ?_, fun c hc => ?_, ?_⟩
  · obtain ⟨front, hfront⟩ := List.getLast?_eq_some_iff.1 hc
    have hne : (line.toList.take 57).rdropWhile Text.isBlank ≠ [] := by
      rw [← Text.dropEndWhile_eq_rdropWhile, hfront]
      simp
    have hlast := List.rdropWhile_last_not Text.isBlank _ hne
    simpa [← Text.dropEndWhile_eq_rdropWhile, hfront] using hlast
  · exact List.mem_takeWhile_imp (List.mem_reverse.1 hc)
  · have hwide : ¬ line.length ≤ calleeWidth := Nat.not_le.2 h
    rw [shortened, if_neg hwide, Text.trimEnd, Text.toList_sliceTo]
    rfl

namespace Classifier

/-! ## Names -/

theorem ReadsCallee.unique {other : String} (h : classifier.ReadsCallee doc function line)
    (hother : classifier.ReadsCallee doc function other) : line = other := by
  obtain ⟨callee, text, hcallee, -, htext, rfl⟩ := h
  obtain ⟨_, text', hcallee', -, htext', rfl⟩ := hother
  rw [← hcallee'.eq, hcallee.eq, htext] at htext'
  cases htext'
  rfl

/-- Every callee in an ordered tree has a name. -/
theorem exists_calleeName (hword : classifier.HasClosureWord word) (doc : Document)
    (hordered : function.Ordered) :
    ∃ name, classifier.CallName word doc (some function) name ∧
      classifier.calleeName function.withoutParentheses doc = .ok name := by
  have hunwraps := function.unwraps_withoutParentheses
  have hcallee := hunwraps.ordered hordered
  generalize function.withoutParentheses = callee at hunwraps hcallee
  unfold calleeName
  by_cases hkind : classifier.kindOf callee.type = .closure
  · obtain ⟨d, hd, hkeyword⟩ := hword.describeClosure doc hcallee
    refine ⟨word, .closure hunwraps hkind, ?_⟩
    rw [if_pos hkind, hd, ← hkeyword]
    rfl
  · obtain ⟨text, htext⟩ : ∃ text, callee.text doc = .ok text := by
      unfold Node.text
      rw [Node.range_eq_ok doc hcallee.here]
      exact ⟨_, rfl⟩
    have hreads : classifier.ReadsCallee doc function (Text.collapse text) :=
      ⟨callee, text, hunwraps, hkind, htext, rfl⟩
    rw [if_neg hkind, htext]
    refine ⟨shortened (Text.collapse text), ?_, rfl⟩
    by_cases hfits : (Text.collapse text).length ≤ 60
    · have hsame : shortened (Text.collapse text) = Text.collapse text := if_pos hfits
      rw [hsame]
      exact .whole hreads hfits
    · have hlong := Nat.lt_of_not_le hfits
      obtain ⟨shown, blanks, hshown, hlast, hblanks, hcut⟩ := exists_shown_of_shortened hlong
      rw [hcut]
      exact .cut hreads hlong hshown hlast hblanks

namespace CallName

variable {function? : Option Node} (h : classifier.CallName word doc function? name)

include h

theorem length_le (hword : classifier.HasClosureWord word) : name.length ≤ 60 := by
  cases h with
  | nothing => decide
  | closure => exact hword.length_le
  | whole _ hfits => exact hfits
  | @cut _ line shown blanks _ _ hshown =>
      have hlength := congrArg List.length hshown
      rw [List.length_take, List.length_append] at hlength
      rw [String.length_append, String.length_ofList]
      have hdots : "...".length = 3 := by decide
      omega

theorem singleSpaced (hword : classifier.HasClosureWord word) :
    Text.SingleSpaced name.toList := by
  cases h with
  | nothing => exact Text.singleSpaced_collapse ""
  | closure => exact hword.isWord.singleSpaced
  | whole h =>
      obtain ⟨_, text, -, -, -, rfl⟩ := h
      exact Text.singleSpaced_collapse text
  | @cut _ line shown blanks h _ hshown hlast =>
      obtain ⟨_, text, -, -, -, rfl⟩ := h
      have hspaced := Text.singleSpaced_collapse text
      rw [← List.take_append_drop 57 (Text.collapse text).toList, hshown, List.append_assoc]
        at hspaced
      rw [String.toList_append, String.toList_ofList]
      have hdots : Text.IsWord "...".toList := by decide
      exact (hspaced.of_prefix hlast).append hdots.2

theorem eq_empty_iff (hword : classifier.HasClosureWord word) :
    name = "" ↔ function? = none ∨
      ∃ function, function? = some function ∧ classifier.ReadsCallee doc function "" := by
  cases h with
  | nothing => simp
  | @closure function callee hcallee hkind =>
      have hname : word ≠ "" := by simpa using hword.isWord.1
      simp only [hname, reduceCtorEq, Option.some.injEq, exists_eq_left', false_or, false_iff]
      rintro ⟨other, _, hother, hnot, -, -⟩
      rw [← hother.eq, hcallee.eq] at hnot
      exact hnot hkind
  | @whole function _ h =>
      simp only [reduceCtorEq, Option.some.injEq, exists_eq_left', false_or]
      exact ⟨fun hname => hname ▸ h, fun hempty => h.unique hempty⟩
  | @cut function line shown blanks h hlong =>
      have hname : String.ofList shown ++ "..." ≠ "" := by simp
      simp only [hname, reduceCtorEq, Option.some.injEq, exists_eq_left', false_or, false_iff]
      intro hempty
      rw [h.unique hempty] at hlong
      exact absurd hlong (by decide)

end CallName

/-! ## Calls -/

/-- The line of a call with a single-spaced name. -/
theorem render_call (h : Text.SingleSpaced name.toList) :
    ({ keyword := "function call", name } : Signature).render =
      if name = "" then "function call" else "function call " ++ name := by
  split
  · next hname =>
      rw [hname]
      decide
  · next hname =>
      have hraw : ({ keyword := "function call", name } : Signature).raw =
          "function call " ++ name := by
        simp [Signature.raw, Signature.head, hname]
      rw [Signature.render, hraw, Text.collapse_eq_self_iff]
      have hne : name.toList ≠ [] := by simpa using hname
      obtain ⟨next, rest, hnext⟩ := List.exists_cons_of_ne_nil hne
      rw [hnext] at h
      have hcall : Text.IsWord "call".toList := by decide
      have hfunction : Text.IsWord "function".toList := by decide
      rw [String.toList_append, hnext]
      exact hfunction.singleSpaced_append (by decide) (hcall.singleSpaced_append h.isBlank_head h)

/-- A call in an ordered tree is described by the name of its callee. -/
theorem describeCall_ok (hword : classifier.HasClosureWord word) (doc : Document)
    (hnode : node.Ordered) :
    ∃ name, classifier.CallName word doc (node.child? "function") name ∧
      classifier.describeCall node doc =
        .ok ⟨{ keyword := "function call", name }, "function call"⟩ := by
  unfold describeCall Node.callee?
  cases hfunction : node.child? "function" with
  | none => exact ⟨"", .nothing, rfl⟩
  | some function =>
      have hbelow := hnode.child (Node.mem_children_of_child? hfunction)
      obtain ⟨name, hname, hcallee⟩ := exists_calleeName hword doc hbelow
      refine ⟨name, hname, ?_⟩
      dsimp only [Option.map_some]
      rw [hcallee]
      rfl

/-- A call in an ordered tree is classified by the name of its callee, which has at most 60
characters and is empty only if there is no callee or nothing of it to show. -/
theorem classify_call (hword : classifier.HasClosureWord word) (doc : Document) {site : Site}
    (hkind : classifier.kindOf site.node.type = .call) (hordered : site.node.Ordered) :
    ∃ name c, classifier.CallName word doc (site.node.child? "function") name ∧
      classifier.classify site doc = .ok (some c) ∧ c.kind = .call ∧ c.name = "function call" ∧
      c.signature = (if name = "" then "function call" else "function call " ++ name) ∧
      name.length ≤ 60 ∧
      (name = "" ↔ site.node.child? "function" = none ∨ ∃ function,
        site.node.child? "function" = some function ∧ classifier.ReadsCallee doc function "") := by
  obtain ⟨name, hname, hdescribe⟩ := describeCall_ok hword doc hordered
  refine ⟨name, ⟨.call, _, "function call"⟩, hname, ?_, rfl, rfl,
    render_call (hname.singleSpaced hword), hname.length_le hword, hname.eq_empty_iff hword⟩
  unfold classify
  rw [hkind]
  show some <$> classifier.describeCall site.node doc >>= _ = _
  rw [hdescribe]
  rfl

/-- A call of a function literal in two pairs of parentheses. -/
def invokedClosure : Node :=
  ⟨0, "call_expression", true, false, none, 0, 24, ⟨0, 0⟩, ⟨2, 5⟩,
    [⟨1, "parenthesized_expression", true, false, some "function", 0, 22, ⟨0, 0⟩, ⟨2, 3⟩,
      [⟨2, "(", false, false, none, 0, 1, ⟨0, 0⟩, ⟨0, 1⟩, []⟩,
        ⟨3, "parenthesized_expression", true, false, none, 1, 21, ⟨0, 1⟩, ⟨2, 2⟩,
          [⟨4, "func_literal", true, false, none, 2, 20, ⟨0, 2⟩, ⟨2, 1⟩, []⟩]⟩]⟩]⟩

/-- A call whose callee is 61 characters wide when it stands on one line. -/
def callOverLines : Node :=
  ⟨0, "call", true, false, none, 0, 63, ⟨0, 0⟩, ⟨1, 6⟩,
    [⟨1, "attribute", true, false, some "function", 0, 61, ⟨0, 0⟩, ⟨1, 4⟩, []⟩]⟩

/-- A closure that is called on the spot shows its word and nothing of its body, and a callee with a
line break behind its first 56 characters is cut there. -/
theorem classify_call_invokedClosure :
    let doc : Document := .ofText "((func() \x7b\n\tstep()\n\x7d))()" ""
    let site : Site := .ofRoot invokedClosure
    let otherDoc : Document := .ofText
      "session.query(Account).filter_by(owner=owner, open=True)\n.all()" ""
    let otherSite : Site := .ofRoot callOverLines
    let classifier := Language.go.classifier
    let otherClassifier := Language.python.classifier
    (classifier.kindOf site.node.type = .call ∧ site.node.Ordered ∧
      ∃ name c, classifier.CallName "func" doc (site.node.child? "function") name ∧
        classifier.classify site doc = .ok (some c) ∧ c.signature = "function call func") ∧
    otherClassifier.kindOf otherSite.node.type = .call ∧ otherSite.node.Ordered ∧
      ∃ name c,
        otherClassifier.CallName "lambda" otherDoc (otherSite.node.child? "function") name ∧
        name.length ≤ 60 ∧ otherClassifier.classify otherSite otherDoc = .ok (some c) ∧
        c.signature =
          "function call session.query(Account).filter_by(owner=owner, open=True)..." := by
  intro doc site otherDoc otherSite classifier otherClassifier
  have hkind : classifier.kindOf site.node.type = .call := by decide
  have hotherKind : otherClassifier.kindOf otherSite.node.type = .call := by decide
  have hordered : site.node.Ordered := (Node.all_iff_sites []).2 (by decide)
  have hotherOrdered : otherSite.node.Ordered := (Node.all_iff_sites []).2 (by decide)
  have hvalue : classifier.classify site doc =
      .ok (some ⟨.call, "function call func", "function call"⟩) := by decide +kernel
  have hotherValue : otherClassifier.classify otherSite otherDoc = .ok (some ⟨.call,
      "function call session.query(Account).filter_by(owner=owner, open=True)...",
      "function call"⟩) := by decide +kernel
  obtain ⟨name, c, hname, hc, -⟩ := classify_call (.language .go) doc hkind hordered
  obtain ⟨other, otherC, hother, hotherC, -, -, -, hlength, -⟩ :=
    classify_call (.language .python) otherDoc hotherKind hotherOrdered
  rw [hvalue] at hc
  rw [hotherValue] at hotherC
  cases hc
  cases hotherC
  exact ⟨⟨hkind, hordered, name, _, hname, hvalue, rfl⟩, hotherKind, hotherOrdered, other, _,
    hother, hlength, hotherValue, rfl⟩

end Classifier

end CursorScope
