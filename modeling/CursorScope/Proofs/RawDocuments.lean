import CursorScope.Proofs.Encoding
import CursorScope.Proofs.Safety

/-!
# Finders and raw documents

What a finder makes of documents whose texts may hold surrogates. Where all lines have an encoding
it is what the finder makes of the encoded document (`Finder.extractRaw_of_encoded`), and so it does
not fail if the tree is ordered. `Finder.extractRaw_ok_iff`, the theorem to read first, says that it
fails in all other cases, and how. A text with surrogates is not parsed, so there is an empty
context for it all the same.
-/

namespace CursorScope

namespace RawDocument

variable {doc : RawDocument} {answer : ParserAnswer} {tree : Tree}

/-- There is a usable tree for a raw document when the parser gives one for an encoded text. -/
theorem tree?_answer_eq_ok_iff :
    (doc.answer answer).tree? = .ok tree ↔ Text.Plain doc.content ∧ answer.tree? = .ok tree := by
  rw [← Text.exists_encode_iff]
  unfold RawDocument.answer
  cases Text.encode doc.content with
  | error e => simp [ParserAnswer.tree?]
  | ok text => simp

/-- A tree for a raw document is one that the parser gives. -/
theorem eq_parsed_of_answer (h : doc.answer answer = .parsed tree) : answer = .parsed tree := by
  unfold RawDocument.answer at h
  split at h
  · cases h
  · exact h

end RawDocument

namespace Finder

variable (finder : Finder) (answer : ParserAnswer) (target : Range) {doc : RawDocument}
  {encoded : Document} {e : EncodingError}

/-! ## Lines with an encoding -/

/-- A raw document whose lines have an encoding has the context of its document, with the same
records. -/
theorem collectContextRaw_of_encoded (h : doc.encoded = .ok encoded) :
    let found := finder.collectContext encoded (doc.answer answer) target
    finder.collectContextRaw doc answer target = ⟨found.records, found.value.mapError .other⟩ := by
  have huri : encoded.uri = doc.uri := (RawDocument.spells_of_encoded h).2.symm
  unfold collectContextRaw collectContext
  simp only [h, huri, Logged.bind_eq]
  cases (finder.language.parse (doc.answer answer)).value with
  | error e => rfl
  | ok tree => simp

/-- A raw document whose lines have an encoding has the excerpts of its document, with the same
records. -/
theorem extractRaw_of_encoded (h : doc.encoded = .ok encoded) (maxLines : Option Int) :
    let made := finder.extract encoded (doc.answer answer) target maxLines
    finder.extractRaw doc answer target maxLines = ⟨made.records, made.value.mapError .other⟩ := by
  unfold extractRaw extract
  simp only [h, finder.collectContextRaw_of_encoded answer target h, Logged.bind_eq]
  cases (finder.collectContext encoded (doc.answer answer) target).value with
  | error e => simp [Except.mapError]
  | ok context => simp [Except.mapError]

/-- A raw document whose lines have an encoding has a context and an excerpt, which shows lines of
its document. -/
theorem extractRaw_ok_of_encoded (h : doc.encoded = .ok encoded) (maxLines : Option Int)
    {answer : ParserAnswer} (hordered : ∀ tree, answer = .parsed tree → tree.root.Ordered)
    (hroot : ∀ tree, answer = .parsed tree →
      (finder.language.classifier.kindOf tree.root.type).isCodeRange = false) :
    ∃ context excerpt,
      (finder.collectContextRaw doc answer target).value = .ok context ∧
      (finder.extractRaw doc answer target maxLines).value = .ok excerpt ∧
      (encoded.lines ≠ [] → ∃ shown : LineSpan, shown.first ≤ shown.last ∧
        shown.last < encoded.lines.length ∧
        encoded.codeOf shown = .ok (excerpt.code, excerpt.codeRange)) := by
  obtain ⟨context, excerpt, hcontext, hexcerpt, hshown⟩ :=
    finder.extract_ok target encoded maxLines
      (fun tree htree => hordered tree (RawDocument.eq_parsed_of_answer htree))
      (fun tree htree => hroot tree (RawDocument.eq_parsed_of_answer htree))
  refine ⟨context, excerpt, ?_, ?_, hshown⟩
  · rw [finder.collectContextRaw_of_encoded answer target h, hcontext]
    rfl
  · rw [finder.extractRaw_of_encoded answer target h, hexcerpt]
    rfl

/-! ## Lines without an encoding -/

/-- The encoding of lines is asked for when there is a usable tree. -/
theorem value_collectContextRaw_of_error (h : doc.encoded = .error e) :
    (finder.collectContextRaw doc answer target).value =
      match (doc.answer answer).tree? with
      | .error _ => .ok .empty
      | .ok _ => .error (.encoding e) := by
  unfold collectContextRaw
  rw [Logged.value_bind, Language.value_parse]
  cases (doc.answer answer).tree? with
  | error failure => rfl
  | ok tree =>
      simp only [Except.mapError, h]
      rfl

/-- Without an encoding there is a context exactly when there is no usable tree. -/
theorem exists_collectContextRaw_iff (h : doc.encoded = .error e) :
    (∃ context, (finder.collectContextRaw doc answer target).value = .ok context) ↔
      (Text.Plain doc.content → ∀ tree, answer.tree? ≠ .ok tree) := by
  rw [finder.value_collectContextRaw_of_error answer target h]
  cases htree : (doc.answer answer).tree? with
  | error failure =>
      refine iff_of_true ⟨.empty, rfl⟩ fun hplain tree hanswer => ?_
      cases htree.symm.trans (RawDocument.tree?_answer_eq_ok_iff.2 ⟨hplain, hanswer⟩)
  | ok tree =>
      obtain ⟨hplain, hanswer⟩ := RawDocument.tree?_answer_eq_ok_iff.1 htree
      refine iff_of_false ?_ fun hnone => hnone hplain tree hanswer
      rintro ⟨context, hcontext⟩
      cases hcontext

/-- Without an encoding the context fails for that reason alone. -/
theorem eq_encoding_of_collectContextRaw (h : doc.encoded = .error e)
    {failure : RawError RangeError}
    (hfailure : (finder.collectContextRaw doc answer target).value = .error failure) :
    failure = .encoding e := by
  rw [finder.value_collectContextRaw_of_error answer target h] at hfailure
  split at hfailure
  · cases hfailure
  · cases hfailure
    rfl

/-- There is no excerpt without an encoding, with or without a tree. -/
theorem value_extractRaw_of_error (h : doc.encoded = .error e) (maxLines : Option Int) :
    (finder.extractRaw doc answer target maxLines).value = .error (.encoding e) := by
  unfold extractRaw
  rw [Logged.value_bind, Logged.value_bind, finder.value_collectContextRaw_of_error answer target h]
  cases (doc.answer answer).tree? with
  | error failure =>
      simp only [h]
      rfl
  | ok tree => rfl

/-! ## All raw documents -/

/-- A finder makes an excerpt of a raw document, with any target and budget, exactly when all lines
of the document have an encoding, and it collects a context exactly when they have or when there is
no usable tree, if the parser gives no tree or an ordered one whose root is not of a kind whose code
is shown. All errors are about the first surrogates in the lines of the document. An excerpt shows
lines of the document, and all keys that are looked up on the way are found. -/
theorem extractRaw_ok_iff (doc : RawDocument) (maxLines : Option Int) {answer : ParserAnswer}
    (hordered : ∀ tree, answer = .parsed tree → tree.root.Ordered)
    (hroot : ∀ tree, answer = .parsed tree →
      (finder.language.classifier.kindOf tree.root.type).isCodeRange = false) :
    let found := (finder.collectContextRaw doc answer target).value
    let made := (finder.extractRaw doc answer target maxLines).value
    ((∃ excerpt, made = .ok excerpt) ↔ doc.Encodable) ∧
    ((∃ context, found = .ok context) ↔
      (Text.Plain doc.content → ∀ tree, answer.tree? = .ok tree → doc.Encodable)) ∧
    (∀ failure, made = .error failure → ∃ e, failure = .encoding e ∧ doc.FirstError e) ∧
    (∀ failure, found = .error failure → ∃ e, failure = .encoding e ∧ doc.FirstError e) ∧
    (∀ excerpt, made = .ok excerpt → ∃ encoded : Document, doc.Spells encoded ∧
      (encoded.lines ≠ [] → ∃ shown : LineSpan, shown.first ≤ shown.last ∧
        shown.last < encoded.lines.length ∧
        encoded.codeOf shown = .ok (excerpt.code, excerpt.codeRange))) ∧
    ∀ tree, answer = .parsed tree → finder.language = .go →
      ∀ site ∈ tree.sites, GoNodes.KeysFound site := by
  intro found made
  have hkeys (tree : Tree) (_ : answer = .parsed tree) (_ : finder.language = .go) :
      ∀ site ∈ tree.sites, GoNodes.KeysFound site := fun site _ => GoNodes.keysFound site
  rcases doc.encoded_cases with ⟨encoded, hencoded, hspells⟩ | ⟨e, he, hfirst⟩
  · obtain ⟨context, excerpt, hfound, hmade, hshown⟩ :=
      finder.extractRaw_ok_of_encoded target hencoded maxLines hordered hroot
    refine ⟨iff_of_true ⟨excerpt, hmade⟩ hspells.encodable,
      iff_of_true ⟨context, hfound⟩ fun _ _ _ => hspells.encodable, fun failure hfailure => ?_,
      fun failure hfailure => ?_, fun other hother => ⟨encoded, hspells, ?_⟩, hkeys⟩
    · cases hmade.symm.trans hfailure
    · cases hfound.symm.trans hfailure
    · cases hmade.symm.trans hother
      exact hshown
  · have hmade : made = .error (.encoding e) :=
      finder.value_extractRaw_of_error answer target he maxLines
    have hnot := hfirst.not_encodable
    refine ⟨iff_of_false (fun ⟨excerpt, hexcerpt⟩ => ?_) hnot, ?_, fun failure hfailure => ?_,
      fun failure hfailure => ⟨e, ?_, hfirst⟩, fun excerpt hexcerpt => ?_, hkeys⟩
    · cases hmade.symm.trans hexcerpt
    · simpa only [hnot, imp_false] using finder.exists_collectContextRaw_iff answer target he
    · cases hmade.symm.trans hfailure
      exact ⟨e, rfl, hfirst⟩
    · exact finder.eq_encoding_of_collectContextRaw answer target he hfailure
    · cases hmade.symm.trans hexcerpt

end Finder

/-- The excerpt around a cursor past the end of a file, with a budget below one, shows the function
that reaches past the end too. -/
theorem extractRaw_ok_iff_strayFunction :
    let finder : Finder := ⟨.go, .default⟩
    let doc : RawDocument := .ofText (Text.codePoints "func f() {}\n") ""
    let answer : ParserAnswer := .parsed ⟨strayFunction, false⟩
    let target : Range := .cursor ⟨7, 2⟩
    strayFunction.Ordered ∧
    (finder.language.classifier.kindOf strayFunction.type).isCodeRange = false ∧
    doc.Encodable ∧ doc.Spells (.ofText "func f() {}\n" "") ∧
    (∃ context, (finder.collectContextRaw doc answer target).value = .ok context) ∧
    ∃ excerpt encoded shown,
      (finder.extractRaw doc answer target (some (-3))).value = .ok excerpt ∧
      doc.Spells encoded ∧ shown.first ≤ shown.last ∧ shown.last < encoded.lines.length ∧
      encoded.codeOf shown = .ok (excerpt.code, excerpt.codeRange) ∧
      excerpt.code = "func f() {}" ∧ excerpt.codeRange = ⟨⟨0, 0⟩, ⟨0, 11⟩, by decide⟩ := by
  intro finder doc answer target
  have hordered : strayFunction.Ordered := (Node.all_iff_sites []).2 (by decide)
  have hroot : (finder.language.classifier.kindOf strayFunction.type).isCodeRange = false := by
    decide
  have hanswer {tree : Tree} (h : answer = .parsed tree) : tree.root = strayFunction := by
    rw [← ParserAnswer.parsed.inj h]
  have hdoc : doc.Encodable :=
    (RawDocument.encodable_ofText_iff _ _).2 (Text.plain_codePoints "func f() {}\n")
  obtain ⟨hmade, hfound, -, -, hshown, -⟩ :=
    finder.extractRaw_ok_iff target doc (some (-3)) (fun tree h => hanswer h ▸ hordered)
      (fun tree h => hanswer h ▸ hroot)
  have hcode : (finder.extractRaw doc answer target (some (-3))).value.map
      (fun excerpt => (excerpt.code, excerpt.codeRange)) =
        .ok ("func f() {}", ⟨⟨0, 0⟩, ⟨0, 11⟩, by decide⟩) := by decide +kernel
  obtain ⟨excerpt, hexcerpt⟩ := hmade.2 hdoc
  obtain ⟨encoded, hspells, hlines⟩ := hshown excerpt hexcerpt
  have hne : encoded.lines ≠ [] := by
    intro hnil
    have hnone := hspells.1
    rw [hnil] at hnone
    exact absurd hnone (by decide)
  obtain ⟨shown, hspan, hlast, hcodeOf⟩ := hlines hne
  rw [hexcerpt] at hcode
  obtain ⟨hcut, hrange⟩ := Prod.mk.inj (Except.ok.inj hcode)
  exact ⟨hordered, hroot, hdoc, RawDocument.spells_ofText _ _, hfound.2 fun _ _ _ => hdoc, excerpt,
    encoded, shown, hexcerpt, hspells, hspan, hlast, hcodeOf, hcut, hrange⟩

/-- The tree of an assignment of a text. -/
def textBinding : Node :=
  ⟨0, "module", true, false, none, 0, 10, ⟨0, 0⟩, ⟨1, 0⟩,
    [⟨1, "expression_statement", true, false, none, 0, 9, ⟨0, 0⟩, ⟨0, 9⟩, []⟩]⟩

/-- A text with a surrogate gets the empty context, as one that cannot be parsed, but no excerpt. -/
theorem extractRaw_fails_textBinding :
    let finder : Finder := ⟨.python, .default⟩
    let doc : RawDocument :=
      .ofText (Text.codePoints "x = '" ++ .surrogate 1152 :: Text.codePoints "'\n") ""
    let answer : ParserAnswer := .parsed ⟨textBinding, false⟩
    let target : Range := .cursor ⟨0, 0⟩
    let e : EncodingError := ⟨1152, 5, 1⟩
    textBinding.Ordered ∧
    (finder.language.classifier.kindOf textBinding.type).isCodeRange = false ∧
    e.message =
      "'utf-8' codec can't encode character '\\udc80' in position 5: surrogates not allowed" ∧
    (finder.collectContextRaw doc answer target).records = [⟨.warning,
      "No structural context for <buffer>: Could not parse python source: " ++ e.message⟩] ∧
    (finder.collectContextRaw doc answer target).value = .ok .empty ∧
    (finder.extractRaw doc answer target none).value = .error (.encoding e) ∧
    ¬ ∃ excerpt, (finder.extractRaw doc answer target none).value = .ok excerpt := by
  intro finder doc answer target e
  have hmade : (finder.extractRaw doc answer target none).value = .error (.encoding e) := by
    decide +kernel
  refine ⟨(Node.all_iff_sites []).2 (by decide), by decide, by decide +kernel, by decide +kernel,
    by decide +kernel, hmade, ?_⟩
  rintro ⟨excerpt, hexcerpt⟩
  cases hmade.symm.trans hexcerpt

end CursorScope
