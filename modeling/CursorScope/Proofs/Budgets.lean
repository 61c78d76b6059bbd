import CursorScope.Finder
import CursorScope.Proofs.Lines

/-!
# Where budgets come from

A budget is asked for by the environment, when a finder is made, or with a request. The decimal text
of an integer is read as that integer (`Text.readInteger?_toString`), and all three ways lead to the
budget of the integer, so they give the same excerpts (`Finder.extract_budget`). No setting of the
environment keeps a finder from being made (`Finder.value_forDocument`).
-/

namespace CursorScope

/-! ## Decimal texts -/

namespace Text

/-- Digits of the core library have their values. -/
theorem digitValues?_of_isDigit {cs : List Char} (hne : cs ≠ [])
    (h : ∀ c ∈ cs, c.isDigit = true) : digitValues? cs = some (cs.map (·.toNat - 0x30)) := by
  induction cs with
  | nil => exact absurd rfl hne
  | cons c rest ih =>
      obtain ⟨hc, hrest⟩ := List.forall_mem_cons.1 h
      have hvalue := digitValue?_of_isDigit hc
      cases rest with
      | nil => simp [digitValues?, hvalue]
      | cons next rest =>
          have hnext : next ≠ '_' := by
            rintro rfl
            exact absurd (hrest _ List.mem_cons_self) (by decide)
          have hothers := ih (List.cons_ne_nil _ _) hrest
          simp [digitValues?, hvalue, hnext, hothers]

/-- The number of digits is what the core library reads from them. -/
theorem ofDigitValues_eq (cs : List Char) :
    ofDigitValues (cs.map (·.toNat - 0x30)) = Nat.ofDigitChars 10 cs 0 := by
  rw [ofDigitValues, List.foldl_map]
  rfl

theorem readNatural?_toDigits {n : Nat} (h : (Nat.toDigits 10 n).length ≤ digitLimit) :
    readNatural? (Nat.toDigits 10 n) = some n := by
  have hvalues := digitValues?_of_isDigit Nat.toDigits_ne_nil
    fun _ => Nat.isDigit_of_mem_toDigits (b := 10) (n := n) (by decide) (by decide)
  simp [readNatural?, hvalues, h, ofDigitValues_eq]

theorem not_padding_of_isDigit {c : Char} (h : c.isDigit = true) : isNumberPadding c = false := by
  have hrange : 0x30 ≤ c.toNat ∧ c.toNat < 0x3A := by
    simp only [Char.isDigit, Bool.and_eq_true, decide_eq_true_eq, UInt32.le_iff_toNat_le] at h
    exact ⟨h.1, Nat.lt_succ_of_le h.2⟩
  have hblank : isBlank c = false := by
    simp [isBlank, inRanges, blankRanges]
    omega
  rw [isNumberPadding, hblank, Bool.false_and]

/-- A text without padding is read just as it stands. -/
theorem readInteger?_of_not_padding {text : String}
    (h : ∀ c ∈ text.toList, isNumberPadding c = false) :
    readInteger? text = readSigned? text.toList := by
  have hfirst : text.toList.dropWhile isNumberPadding = text.toList := by
    rw [List.dropWhile_eq_self_iff]
    exact fun hlength => Bool.eq_false_iff.1 (h _ (List.getElem_mem hlength))
  have hlast : dropEndWhile isNumberPadding text.toList = text.toList := by
    rw [dropEndWhile_eq_rdropWhile, List.rdropWhile_eq_self_iff]
    exact fun hne => Bool.eq_false_iff.1 (h _ (List.getLast_mem hne))
  rw [readInteger?, hfirst, hlast]

theorem readSigned?_toDigits {n : Nat} (h : (Nat.toDigits 10 n).length ≤ digitLimit) :
    readSigned? (Nat.toDigits 10 n) = some (n : Int) := by
  have hread := readNatural?_toDigits h
  obtain ⟨c, rest, hdigits⟩ := List.exists_cons_of_ne_nil (Nat.toDigits_ne_nil (n := n) (b := 10))
  have hc : c.isDigit = true := by
    refine Nat.isDigit_of_mem_toDigits (b := 10) (n := n) (by decide) (by decide) ?_
    rw [hdigits]
    exact List.mem_cons_self
  rw [hdigits] at hread ⊢
  unfold readSigned?
  split
  · next heq =>
      cases heq
      exact absurd hc (by decide)
  · next heq =>
      cases heq
      exact absurd hc (by decide)
  · rw [hread]
    rfl

/-- The decimal text of an integer are its digits, behind a minus sign if it is negative. -/
theorem toList_toString (n : Int) : (toString n).toList =
    if n < 0 then '-' :: Nat.toDigits 10 n.natAbs else Nat.toDigits 10 n.natAbs := by
  cases n with
  | ofNat m => exact Nat.toList_repr
  | negSucc m =>
      show ("-" ++ (m + 1).repr).toList = _
      rw [String.toList_append, Nat.toList_repr, if_pos (Int.negSucc_lt_zero m)]
      rfl

/-- The decimal text of an integer is read as the integer, if it is not too long. -/
theorem readInteger?_toString (n : Int) (h : (toString n.natAbs).length ≤ digitLimit) :
    readInteger? (toString n) = some n := by
  have hlength : (Nat.toDigits 10 n.natAbs).length ≤ digitLimit := by
    rwa [Nat.toString_eq_ofList_toDigits, String.length_ofList] at h
  have hdigits : ∀ c ∈ Nat.toDigits 10 n.natAbs, isNumberPadding c = false :=
    fun c hc => not_padding_of_isDigit (Nat.isDigit_of_mem_toDigits (by decide) (by decide) hc)
  have htext := toList_toString n
  split at htext
  · next hneg =>
      rw [readInteger?_of_not_padding, htext]
      · show (readNatural? _).map _ = _
        rw [readNatural?_toDigits hlength]
        show some (-(n.natAbs : Int)) = some n
        rw [Int.ofNat_natAbs_of_nonpos (Int.le_of_lt hneg), Int.neg_neg]
      · rw [htext]
        exact List.forall_mem_cons.2 ⟨by decide, hdigits⟩
  · next hpos =>
      rw [readInteger?_of_not_padding, htext]
      · rw [readSigned?_toDigits hlength, Int.natAbs_of_nonneg (Int.not_lt.1 hpos)]
      · rwa [htext]

end Text

/-! ## Budgets -/

theorem Budget.lines_ofInt (n : Int) : ((ofInt n).lines : Int) = max 1 n := by
  show ((max 1 n.toNat : Nat) : Int) = max 1 n
  omega

/-- The integer that the environment asks for. -/
def Environment.asked (env : Environment) : Option Int := env.maxLines.bind Text.readInteger?

/-- The budget of the environment is the one it asks for, if it asks for an integer at all. -/
theorem Environment.value_budget (env : Environment) :
    env.budget.value = (env.asked.map Budget.ofInt).getD .default := by
  unfold asked
  cases htext : env.maxLines with
  | none =>
      unfold budget
      rw [htext]
      rfl
  | some text =>
      cases hread : Text.readInteger? text with
      | some n =>
          rw [budget_of_readInteger? htext hread, Budget.value_requested, Option.bind_some, hread]
          rfl
      | none =>
          rw [Option.bind_some, hread]
          unfold budget
          rw [htext]
          cases hempty : text.isEmpty with
          | true => simp [Option.filter, hempty]
          | false => simp [Option.filter, hempty, hread]

namespace Finder

variable (language : Language) (doc : Document) (answer : ParserAnswer) (target : Range)

/-- A finder has the budget that is asked for when it is made, or else that of the environment. -/
theorem value_ofLanguage (maxLines : Option Int) (env : Environment) :
    (ofLanguage language maxLines env).value =
      ⟨language, ((maxLines.or env.asked).map Budget.ofInt).getD .default⟩ := by
  unfold ofLanguage
  cases maxLines with
  | none =>
      rw [Logged.value_bind, Environment.value_budget]
      rfl
  | some n =>
      rw [Logged.value_bind, Budget.value_requested]
      rfl

/-- A finder for a document is made whenever the document has a language. -/
theorem value_forDocument (name : Option String) (maxLines : Option Int) (env : Environment) :
    (forDocument doc name maxLines env).value =
      (Language.resolve name (if doc.uri.isEmpty then none else some doc.uri)).map fun language =>
        ⟨language, ((maxLines.or env.asked).map Budget.ofInt).getD .default⟩ := by
  unfold forDocument
  cases hlanguage :
      Language.resolve name (if doc.uri.isEmpty then none else some doc.uri) with
  | error e =>
      simp only [hlanguage]
      rfl
  | ok language =>
      simp only [hlanguage]
      show Except.ok (ofLanguage language maxLines env).value = _
      rw [value_ofLanguage]
      rfl

/-- A request with a budget of its own is one without it to a finder of that budget. -/
theorem value_extract_some (finder : Finder) (n : Int) :
    (finder.extract doc answer target (some n)).value =
      ((⟨finder.language, .ofInt n⟩ : Finder).extract doc answer target none).value := by
  unfold extract
  simp only [requestedBudget, Logged.value_bind, Budget.value_requested, Logged.value_pure]
  rfl

/-- For an integer of at most 4300 digits, a finder whose environment has its decimal text, a finder
that is made with it, and any other finder that is asked with it do the same as the finder whose
budget is the greater of one and the integer. Whatever the environment says, there is a budget of at
least one line with which a finder is made for every document that has a language. -/
theorem extract_budget {n : Int} (hn : (toString n.natAbs).length ≤ 4300) :
    let excerpt := ((⟨language, .ofInt n⟩ : Finder).extract doc answer target none).value
    ((Budget.ofInt n).lines : Int) = max 1 n ∧
    (∀ env, env.maxLines = some (toString n) →
      ((ofLanguage language none env).value.extract doc answer target none).value = excerpt) ∧
    (∀ env, ((ofLanguage language (some n) env).value.extract doc answer target none).value =
      excerpt) ∧
    (∀ finder : Finder, finder.language = language →
      (finder.extract doc answer target (some n)).value = excerpt) ∧
    ∀ env : Environment, ∃ budget : Budget, 1 ≤ budget.lines ∧
      (∀ language, (ofLanguage language none env).value = ⟨language, budget⟩) ∧
      ∀ (source : Document) (name : Option String), (forDocument source name none env).value =
        (Language.resolve name (if source.uri.isEmpty then none else some source.uri)).map
          (⟨·, budget⟩) := by
  intro excerpt
  refine ⟨Budget.lines_ofInt n, fun env henv => ?_, fun env => ?_, fun finder hfinder => ?_,
    fun env => ?_⟩
  · have hasked : env.asked = some n := by
      rw [Environment.asked, henv]
      exact Text.readInteger?_toString n hn
    rw [value_ofLanguage, Option.none_or, hasked]
    rfl
  · rw [value_ofLanguage]
    rfl
  · rw [value_extract_some, hfinder]
  · exact ⟨_, Budget.one_le_lines _, fun language => value_ofLanguage language none env,
      fun source name => value_forDocument source name none env⟩

end Finder

/-- An integer below one asks for one line in all three ways, and words ask for nothing. -/
theorem extract_budget_belowOne :
    let doc : Document := .ofText "a\nb\nc\n" "notes.py"
    let target : Range := .cursor ⟨1, 0⟩
    let extract (finder : Finder) (maxLines : Option Int) :=
      (finder.extract doc .nothing target maxLines).value
    let excerpt : Excerpt := ⟨.empty, [], "b", ⟨⟨1, 0⟩, ⟨1, 1⟩, by decide⟩, target, true⟩
    (toString (-7 : Int).natAbs).length ≤ 4300 ∧ (Budget.ofInt (-7)).lines = 1 ∧
    extract (Finder.ofLanguage .python none ⟨some "-7", none⟩).value none = .ok excerpt ∧
    extract (Finder.ofLanguage .python (some (-7)) ⟨some "9", none⟩).value none = .ok excerpt ∧
    extract ⟨.python, .default⟩ (some (-7)) = .ok excerpt ∧
    (Finder.forDocument doc none none ⟨some "nine", none⟩).value = .ok ⟨.python, .default⟩ := by
  intro doc target extract excerpt
  have hn : (toString (-7 : Int).natAbs).length ≤ 4300 := by decide
  obtain ⟨hlines, henvironment, hmade, hasked, hany⟩ :=
    Finder.extract_budget .python doc .nothing target hn
  have hexcerpt : extract ⟨.python, .ofInt (-7)⟩ none = .ok excerpt := by decide +kernel
  obtain ⟨budget, -, hofLanguage, hforDocument⟩ := hany ⟨some "nine", none⟩
  have hdefault : (Finder.ofLanguage .python none ⟨some "nine", none⟩).value =
      ⟨.python, .default⟩ := by decide +kernel
  have hpython : Language.resolve none (some "notes.py") = .ok .python := by decide +kernel
  refine ⟨hn, Int.ofNat_inj.1 hlines, ?_, ?_, ?_, ?_⟩
  · exact (henvironment _ rfl).trans hexcerpt
  · exact (hmade _).trans hexcerpt
  · exact (hasked _ rfl).trans hexcerpt
  · rw [hforDocument, ← hdefault, hofLanguage]
    show (Language.resolve none (some "notes.py")).map _ = _
    rw [hpython]
    rfl

end CursorScope
