import CursorScope.Proofs.SingleLine

/-!
# Words

What is to say of words follows from one equation: a blank parts the words before it from those
behind it (`words_append_blank`). Words that are joined by single spaces are read back
(`words_intercalate`), so `collapse` keeps the words of a text and all its characters but the blanks
(`words_collapse`, `letters_collapse`), and it leaves just the single-spaced texts as they are
(`collapse_eq_self_iff`).
-/

namespace CursorScope.Text

/-! ## Words between blanks -/

/-- A blank parts the words before it from those behind it. -/
theorem words_append_blank {blank : Char} (h : isBlank blank = true) (before after : List Char) :
    words (before ++ blank :: after) = words before ++ words after := by
  unfold words
  rw [List.splitOnP_append_cons before after h, List.filter_append]

theorem words_cons_blank {blank : Char} (h : isBlank blank = true) (cs : List Char) :
    words (blank :: cs) = words cs :=
  words_append_blank h [] cs

/-- Blanks in front of a text belong to no word. -/
theorem words_blanks_append {run : List Char} (h : ∀ c ∈ run, isBlank c = true) (cs : List Char) :
    words (run ++ cs) = words cs := by
  induction run with
  | nil => rfl
  | cons blank run ih =>
      obtain ⟨hblank, hrun⟩ := List.forall_mem_cons.1 h
      rw [List.cons_append, words_cons_blank hblank, ih hrun]

instance (word : List Char) : Decidable (IsWord word) :=
  decidable_of_iff (word ≠ [] ∧ word.all (!isBlank ·) = true) (by simp [IsWord])

theorem IsWord.words_eq {word : List Char} (h : IsWord word) : words word = [word] := by
  have hne : (!word.isEmpty) = true := by simpa using h.1
  rw [words, List.splitOnP_eq_singleton h.2, List.filter_singleton, hne]
  rfl

/-- Words that are joined by single spaces are read back. -/
theorem words_intercalate {ws : List (List Char)} (h : ∀ word ∈ ws, IsWord word) :
    words (List.intercalate [' '] ws) = ws := by
  induction ws with
  | nil => rfl
  | cons word ws ih =>
      obtain ⟨hword, hws⟩ := List.forall_mem_cons.1 h
      cases ws with
      | nil => rw [List.intercalate_singleton, hword.words_eq]
      | cons other ws =>
          rw [List.intercalate_cons_cons, List.append_assoc, List.singleton_append,
            words_append_blank isBlank_space, hword.words_eq, ih hws, List.singleton_append]

theorem words_collapse (text : String) : words (collapse text).toList = words text.toList := by
  rw [toList_collapse, words_intercalate fun _ => isWord_of_mem_words]

theorem collapse_collapse (text : String) : collapse (collapse text) = collapse text := by
  rw [collapse, words_collapse, collapse]

/-! ## Characters that are no blanks -/

/-- The characters of a text that are no blanks, in order. -/
def letters (text : String) : List Char := text.toList.filter (!isBlank ·)

@[simp] theorem letters_append (a b : String) : letters (a ++ b) = letters a ++ letters b := by
  rw [letters, String.toList_append, List.filter_append]
  rfl

/-- The words of a text hold all its characters but the blanks. -/
theorem flatten_words (cs : List Char) : (words cs).flatten = cs.filter (!isBlank ·) := by
  rw [words, List.flatten_filter_not_isEmpty]
  induction cs with
  | nil => rfl
  | cons c rest ih =>
      rw [List.splitOnP_cons_eq_if_modifyHead, List.filter_cons]
      cases isBlank c with
      | true => exact ih
      | false =>
          obtain ⟨head, tail, hpieces⟩ :=
            List.exists_cons_of_ne_nil (List.splitOnP_ne_nil isBlank rest)
          rw [hpieces] at ih ⊢
          exact congrArg (c :: ·) ih

theorem letters_collapse (text : String) : letters (collapse text) = letters text := by
  rw [letters, ← flatten_words, words_collapse, flatten_words, letters]

theorem letters_intercalate (texts : List String) :
    letters (" ".intercalate texts) = texts.flatMap letters := by
  induction texts with
  | nil => rfl
  | cons text texts ih =>
      cases texts with
      | nil => rw [String.intercalate_singleton, List.flatMap_singleton]
      | cons other texts =>
          have hspace : letters " " = [] := by decide
          rw [String.intercalate_cons_cons, letters_append, letters_append, hspace, ih,
            List.append_nil]
          exact List.flatMap_cons.symm

/-! ## Single-spaced texts -/

/-- Single-spaced characters stay so from a character on that is no blank. -/
theorem SingleSpaced.of_suffix {front rest : List Char} {next : Char}
    (h : SingleSpaced (front ++ next :: rest)) (hnext : isBlank next = false) :
    SingleSpaced (next :: rest) := by
  intro before blank after heq hblank
  have hwhole : front ++ next :: rest = (front ++ before) ++ blank :: after := by
    rw [heq, List.append_assoc]
  obtain ⟨hspace, ⟨front', last, hbefore, hlast⟩, hafter⟩ := h _ blank after hwhole hblank
  refine ⟨hspace, ?_, hafter⟩
  rcases List.eq_nil_or_concat' before with rfl | ⟨before, other, rfl⟩
  · -- The blank would be the first character.
    cases heq
    rw [hnext] at hblank
    cases hblank
  · rw [← List.append_assoc] at hbefore
    obtain ⟨-, hsame⟩ := List.append_inj' hbefore rfl
    cases hsame
    exact ⟨before, last, rfl, hlast⟩

/-- A beginning of single-spaced characters is single-spaced when it ends with no blank. -/
theorem SingleSpaced.of_prefix {front rest : List Char} (h : SingleSpaced (front ++ rest))
    (hlast : ∀ c ∈ front.getLast?, isBlank c = false) : SingleSpaced front := by
  rintro before blank after rfl hblank
  have hwhole : before ++ blank :: after ++ rest = before ++ blank :: (after ++ rest) := by
    rw [List.append_assoc, List.cons_append]
  obtain ⟨hspace, hbefore, next, following, hafter, hnext⟩ := h _ blank _ hwhole hblank
  refine ⟨hspace, hbefore, ?_⟩
  cases after with
  | nil =>
      rw [hlast blank (by simp)] at hblank
      cases hblank
  | cons c after =>
      obtain ⟨rfl, -⟩ := List.cons.inj hafter
      exact ⟨c, after, rfl, hnext⟩

/-- Single-spaced characters stay so when characters that are no blanks are put behind them. -/
theorem SingleSpaced.append {cs ds : List Char} (h : SingleSpaced cs)
    (hds : ∀ c ∈ ds, isBlank c = false) : SingleSpaced (cs ++ ds) := by
  intro before blank after heq hblank
  have hinside : ∃ middle, cs = before ++ blank :: middle ∧ after = middle ++ ds := by
    rcases List.append_eq_append_iff.1 heq with ⟨middle, -, hmiddle⟩ | ⟨middle, hcs, hmiddle⟩
    · rw [hds blank (by rw [hmiddle]; simp)] at hblank
      cases hblank
    · cases middle with
      | nil =>
          rw [hds blank (by rw [← show blank :: after = ds from hmiddle]; simp)] at hblank
          cases hblank
      | cons c middle =>
          obtain ⟨rfl, hafter⟩ := List.cons.inj hmiddle
          exact ⟨middle, hcs, hafter⟩
  obtain ⟨middle, hcs, rfl⟩ := hinside
  obtain ⟨hspace, hbefore, next, rest, rfl, hnext⟩ := h before blank middle hcs hblank
  exact ⟨hspace, hbefore, next, rest ++ ds, rfl, hnext⟩

/-- Single-spaced characters start with no blank. -/
theorem SingleSpaced.isBlank_head {c : Char} {rest : List Char} (h : SingleSpaced (c :: rest)) :
    isBlank c = false := by
  refine Bool.eq_false_iff.2 fun hblank => ?_
  obtain ⟨-, ⟨front, last, hnil, -⟩, -⟩ := h [] c rest rfl hblank
  exact absurd hnil (by simp)

/-- Characters are a beginning without blanks, and a blank and what follows it if there is one. -/
theorem exists_beginning (cs : List Char) : ∃ beginning tail, cs = beginning ++ tail ∧
    (∀ c ∈ beginning, isBlank c = false) ∧
      ∀ blank after, tail = blank :: after → isBlank blank = true := by
  refine ⟨cs.takeWhile (!isBlank ·), cs.dropWhile (!isBlank ·),
    List.takeWhile_append_dropWhile.symm, fun c hc => ?_, fun blank after htail => ?_⟩
  · simpa using List.mem_takeWhile_imp hc
  · have hhead := List.head?_dropWhile_not (!isBlank ·) cs
    rw [htail] at hhead
    simpa using hhead

/-- Single-spaced characters are none, or a word, or a word and a space in front of single-spaced
characters. -/
theorem SingleSpaced.cases {cs : List Char} (h : SingleSpaced cs) :
    cs = [] ∨ IsWord cs ∨ ∃ word rest, IsWord word ∧ rest ≠ [] ∧ SingleSpaced rest ∧
      cs = word ++ ' ' :: rest := by
  obtain ⟨word, tail, hcs, hword, htail⟩ := exists_beginning cs
  cases tail with
  | nil =>
      rw [List.append_nil] at hcs
      rcases eq_or_ne word [] with rfl | hne
      · exact .inl hcs
      · exact .inr (.inl (hcs ▸ ⟨hne, hword⟩))
  | cons blank after =>
      obtain ⟨rfl, ⟨front, last, rfl, -⟩, next, rest, rfl, hnext⟩ :=
        h word blank after hcs (htail blank after rfl)
      refine .inr (.inr ⟨front ++ [last], next :: rest, ⟨by simp, hword⟩, by simp, ?_, hcs⟩)
      have hwhole : cs = (front ++ [last] ++ [' ']) ++ next :: rest := by
        rw [hcs, List.append_assoc _ [' '], List.singleton_append]
      rw [hwhole] at h
      exact h.of_suffix hnext

/-- Single-spaced characters are words that are joined by single spaces. -/
theorem SingleSpaced.exists_words {cs : List Char} (h : SingleSpaced cs) :
    ∃ ws, (∀ word ∈ ws, IsWord word) ∧ cs = List.intercalate [' '] ws := by
  induction hlength : cs.length using Nat.strong_induction_on generalizing cs with
  | _ length ih =>
      rcases h.cases with rfl | hword | ⟨word, rest, hword, hne, hrest, rfl⟩
      · exact ⟨[], List.forall_mem_nil _, rfl⟩
      · exact ⟨[cs], List.forall_mem_singleton.2 hword, List.intercalate_singleton.symm⟩
      · have hshorter : rest.length < length := by
          rw [← hlength, List.length_append, List.length_cons]
          omega
        obtain ⟨ws, hws, rfl⟩ := ih _ hshorter hrest rfl
        have hne : ws ≠ [] := by
          rintro rfl
          exact hne rfl
        refine ⟨word :: ws, List.forall_mem_cons.2 ⟨hword, hws⟩, ?_⟩
        rw [List.intercalate_cons_of_ne_nil hne, List.append_assoc, List.singleton_append]

/-- Just the single-spaced texts stay as they are. -/
theorem collapse_eq_self_iff {text : String} : collapse text = text ↔ SingleSpaced text.toList := by
  constructor
  · intro h
    rw [← h]
    exact singleSpaced_collapse text
  · intro h
    obtain ⟨ws, hws, heq⟩ := h.exists_words
    refine String.ext ?_
    rw [toList_collapse, heq, words_intercalate hws]

end CursorScope.Text
