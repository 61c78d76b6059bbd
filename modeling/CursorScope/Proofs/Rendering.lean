import CursorScope.Proofs.Alike
import CursorScope.Proofs.Words

/-!
# Signatures on one line

`Relaid` relates texts that differ only in their runs of blanks. It is a congruence of texts
(`congruence_relaidTexts`), so what is put together from relaid parts has the same words. The line
of a signature therefore has the characters of its parts in order, is single-spaced, and does not
depend on the blanks inside the parts (`Signature.render_keepsLetters`).
-/

namespace CursorScope

namespace Text

/-! ## Texts that differ by their runs of blanks -/

/-- Blanks, at least one. -/
def IsBlankRun (run : List Char) : Prop := run ≠ [] ∧ ∀ c ∈ run, isBlank c = true

instance (run : List Char) : Decidable (IsBlankRun run) :=
  decidable_of_iff (run ≠ [] ∧ run.all isBlank = true) (by simp [IsBlankRun])

namespace IsBlankRun

variable {run : List Char}

theorem reverse (h : IsBlankRun run) : IsBlankRun run.reverse :=
  ⟨by simpa using h.1, fun c hc => h.2 c (List.mem_reverse.1 hc)⟩

/-- A run of blanks parts the words before it from those behind it. -/
theorem words_append (h : IsBlankRun run) (before after : List Char) :
    words (before ++ (run ++ after)) = words before ++ words after := by
  obtain ⟨blank, run, rfl⟩ := List.exists_cons_of_ne_nil h.1
  obtain ⟨hblank, hrun⟩ := List.forall_mem_cons.1 h.2
  rw [List.cons_append, words_append_blank hblank, words_blanks_append hrun]

/-- No blank is cut off where none is to be cut off. -/
theorem dropWhile_append (h : IsBlankRun run) {p : Char → Bool}
    (hp : ∀ c, isBlank c = true → p c = false) (after : List Char) :
    (run ++ after).dropWhile p = run ++ after := by
  obtain ⟨blank, run, rfl⟩ := List.exists_cons_of_ne_nil h.1
  obtain ⟨hblank, -⟩ := List.forall_mem_cons.1 h.2
  rw [List.cons_append, List.dropWhile_cons_of_neg]
  simp [hp blank hblank]

end IsBlankRun

/-- Characters, and the same ones with other runs of blanks in place of some runs of blanks. -/
inductive Relaid : List Char → List Char → Prop where
  | nil : Relaid [] []
  | cons (c : Char) {cs ds : List Char} (h : Relaid cs ds) : Relaid (c :: cs) (c :: ds)
  | run {run other cs ds : List Char} (hrun : IsBlankRun run) (hother : IsBlankRun other)
      (h : Relaid cs ds) : Relaid (run ++ cs) (other ++ ds)

theorem IsBlankRun.relaid {run other : List Char} (hrun : IsBlankRun run)
    (hother : IsBlankRun other) : Relaid run other := by
  rw [← List.append_nil run, ← List.append_nil other]
  exact .run hrun hother .nil

namespace Relaid

variable {cs ds cs' ds' : List Char}

theorem refl (cs : List Char) : Relaid cs cs := by
  induction cs with
  | nil => exact .nil
  | cons c rest ih => exact .cons c ih

theorem append (h : Relaid cs ds) (h' : Relaid cs' ds') : Relaid (cs ++ cs') (ds ++ ds') := by
  induction h with
  | nil => exact h'
  | cons c _ ih => exact .cons c ih
  | run hrun hother _ ih =>
      rw [List.append_assoc, List.append_assoc]
      exact .run hrun hother ih

theorem isEmpty_eq (h : Relaid cs ds) : cs.isEmpty = ds.isEmpty := by
  cases h with
  | nil => rfl
  | cons => rfl
  | run hrun hother => rw [List.isEmpty_eq_false_iff.2 (by simp [hrun.1]),
      List.isEmpty_eq_false_iff.2 (by simp [hother.1])]

theorem reverse (h : Relaid cs ds) : Relaid cs.reverse ds.reverse := by
  induction h with
  | nil => exact .nil
  | cons c _ ih =>
      rw [List.reverse_cons, List.reverse_cons]
      exact ih.append (refl [c])
  | run hrun hother _ ih =>
      rw [List.reverse_append, List.reverse_append]
      exact ih.append (hrun.reverse.relaid hother.reverse)

/-- What is cut off at the start makes no difference, when all blanks are treated alike. -/
theorem dropWhile {p : Char → Bool} {cut : Bool} (hp : ∀ c, isBlank c = true → p c = cut)
    (h : Relaid cs ds) : Relaid (cs.dropWhile p) (ds.dropWhile p) := by
  induction h with
  | nil => exact .nil
  | @cons c cs ds h ih =>
      rw [List.dropWhile_cons, List.dropWhile_cons]
      split
      · exact ih
      · exact .cons c h
  | @run run other cs ds hrun hother h ih =>
      cases cut with
      | true =>
          rw [List.dropWhile_append_of_pos fun c hc => hp c (hrun.2 c hc),
            List.dropWhile_append_of_pos fun c hc => hp c (hother.2 c hc)]
          exact ih
      | false =>
          rw [hrun.dropWhile_append hp, hother.dropWhile_append hp]
          exact .run hrun hother h

theorem dropEndWhile {p : Char → Bool} {cut : Bool} (hp : ∀ c, isBlank c = true → p c = cut)
    (h : Relaid cs ds) : Relaid (dropEndWhile p cs) (dropEndWhile p ds) :=
  (h.reverse.dropWhile hp).reverse

/-- Behind the same characters, relaid characters have the same words. -/
theorem words_append_eq (h : Relaid cs ds) (before : List Char) :
    words (before ++ cs) = words (before ++ ds) := by
  induction h generalizing before with
  | nil => rfl
  | @cons c cs ds _ ih =>
      rw [← List.singleton_append, ← List.append_assoc, ih, List.append_assoc]
      rfl
  | @run run other cs ds hrun hother _ ih =>
      rw [hrun.words_append, hother.words_append]
      exact congrArg (words before ++ ·) (ih [])

end Relaid

/-- The second text is the first with other runs of blanks. -/
def RelaidTexts (text other : String) : Prop := Relaid text.toList other.toList

/-- The runs of blanks make no difference to words, trimming and emptiness. -/
theorem congruence_relaidTexts : Congruence RelaidTexts where
  refl text := .refl text.toList
  append h h' := by
    rw [RelaidTexts, String.toList_append, String.toList_append]
    exact h.append h'
  isEmpty_eq h := by
    rw [Bool.eq_iff_iff, String.isEmpty_iff, String.isEmpty_iff, ← String.toList_eq_nil_iff,
      ← String.toList_eq_nil_iff, ← List.isEmpty_iff, ← List.isEmpty_iff, h.isEmpty_eq]
  collapse_eq h := by
    rw [collapse, collapse]
    exact congrArg _ (congrArg _ (h.words_append_eq []))
  trim h := by
    rw [RelaidTexts, trim, trim, String.toList_ofList, String.toList_ofList]
    exact (h.dropWhile fun _ => id).dropEndWhile fun _ => id
  trimChar c hc h := by
    have hne (d : Char) (hd : isBlank d = true) : (d == c) = false := by
      rw [beq_eq_false_iff_ne]
      rintro rfl
      rw [hd] at hc
      cases hc
    rw [RelaidTexts, trimChar, trimChar, String.toList_ofList, String.toList_ofList]
    exact (h.dropWhile hne).dropEndWhile hne

/-- One run of blanks inside a text may be replaced by another one. -/
theorem RelaidTexts.replace {run other : String} (hrun : IsBlankRun run.toList)
    (hother : IsBlankRun other.toList) (before after : String) :
    RelaidTexts (before ++ run ++ after) (before ++ other ++ after) :=
  have hbefore := congruence_relaidTexts.append (.refl before.toList) (hrun.relaid hother)
  congruence_relaidTexts.append hbefore (.refl after.toList)

end Text

namespace Signature

/-! ## The line of a signature -/

/-- Two signatures whose parts differ only in their runs of blanks. -/
structure Relaid (s t : Signature) : Prop where
  modifiers : Text.RelaidTexts s.modifiers t.modifiers
  keyword : Text.RelaidTexts s.keyword t.keyword
  name : Text.RelaidTexts s.name t.name
  detail : Text.RelaidTexts s.detail t.detail
  supertypes : Text.RelaidTexts s.supertypes t.supertypes

/-- Relaid signatures are written on the same line. -/
theorem Relaid.render_eq {s t : Signature} (h : Relaid s t) : s.render = t.render := by
  have halike : Description.Alike Text.RelaidTexts ⟨s, ""⟩ ⟨t, ""⟩ :=
    ⟨h.modifiers, h.keyword, h.name, h.detail, h.supertypes, Text.congruence_relaidTexts.refl ""⟩
  exact halike.render_eq Text.congruence_relaidTexts

open Text (letters)

/-- The empty parts of a signature have no letters. -/
theorem flatMap_letters_filter (parts : List String) :
    (parts.filter (!·.isEmpty)).flatMap letters = parts.flatMap letters := by
  induction parts with
  | nil => rfl
  | cons part parts ih =>
      rw [List.filter_cons, List.flatMap_cons]
      split
      · rw [List.flatMap_cons, ih]
      · next hempty =>
          have hpart : part = "" := by simpa using hempty
          rw [hpart, ih]
          rfl

theorem letters_head (s : Signature) :
    letters s.head = letters s.modifiers ++ letters s.keyword ++ letters s.name := by
  rw [head, Text.letters_intercalate, flatMap_letters_filter]
  simp

theorem letters_raw (s : Signature) :
    letters s.raw = letters s.modifiers ++ letters s.keyword ++ letters s.name ++
      letters s.detail ++ if s.supertypes.isEmpty then [] else ':' :: letters s.supertypes := by
  have hcolon : letters ": " = [':'] := by decide
  rw [raw]
  split
  · rw [Text.letters_append, letters_head, List.append_nil]
  · rw [Text.letters_append, Text.letters_append, Text.letters_append, letters_head, hcolon,
      List.append_assoc _ [':'], List.singleton_append]

/-- The line of a signature has the characters of its parts in order, with a colon before the
supertypes if there are any, and no blanks but single spaces between other characters. Other runs of
blanks inside the parts make no difference to it, and it stays as it is when its words are joined
again. -/
theorem render_keepsLetters (s : Signature) :
    letters s.render = letters s.modifiers ++ letters s.keyword ++ letters s.name ++
      letters s.detail ++ (if s.supertypes.isEmpty then [] else ':' :: letters s.supertypes) ∧
    Text.SingleSpaced s.render.toList ∧
    (∀ t : Signature, s.Relaid t → t.render = s.render) ∧
    Text.collapse s.render = s.render := by
  refine ⟨?_, Text.singleSpaced_collapse s.raw, fun t ht => ht.render_eq.symm,
    Text.collapse_collapse s.raw⟩
  rw [render, Text.letters_collapse, letters_raw]

/-- The parts of a class with line breaks in them, and supertypes of blanks only. -/
theorem render_keepsLetters_brokenParts :
    let s : Signature :=
      ⟨"@a" ++ "\t\n" ++ "@b", "class", "C", "[T," ++ "\n\u3000" ++ "U]", "\n"⟩
    let t : Signature := ⟨"@a" ++ " " ++ "@b", "class", "C", "[T," ++ "\x1c" ++ "U]", "  "⟩
    s.Relaid t ∧ t.render = s.render ∧ s.render = "@a @b class C[T, U]:" := by
  intro s t
  obtain ⟨-, -, hrelaid, -⟩ := render_keepsLetters s
  have hsame : s.Relaid t := {
    modifiers := .replace (by decide) (by decide) "@a" "@b"
    keyword := .refl _
    name := .refl _
    detail := .replace (by decide) (by decide) "[T," "U]"
    supertypes := Text.IsBlankRun.relaid (by decide) (by decide) }
  exact ⟨hsame, hrelaid t hsame, by decide⟩

end Signature

end CursorScope
