import CursorScope.Proofs.Agree
import CursorScope.Proofs.Cut

/-!
# Carriage returns before newlines

`withReturns` puts a carriage return before every newline of a text. The lines of the text stay the
same but for their endings (`lines_returned`), and where its lines have no carriage return of their
own, they keep their widths and the texts between places that are not past their widths.

`AddsReturns` is the weaker relation of texts of which one has carriage returns before some of the
newlines of the other. The two have the same words and are trimmed alike, so that nothing which
classifiers do to texts tells them apart (`congruence_returnsAdded`).
-/

namespace CursorScope.Text

/-- The characters with a carriage return before every newline. -/
def returned (cs : List Char) : List Char :=
  cs.flatMap fun c => if c = '\n' then ['\r', '\n'] else [c]

/-- The text with a carriage return before every newline. -/
def withReturns (text : String) : String := .ofList (returned text.toList)

@[simp] theorem toList_withReturns (text : String) :
    (withReturns text).toList = returned text.toList :=
  String.toList_ofList

@[simp] theorem returned_newline (cs : List Char) :
    returned ('\n' :: cs) = '\r' :: '\n' :: returned cs := rfl

theorem returned_cons {c : Char} (h : c ≠ '\n') (cs : List Char) :
    returned (c :: cs) = c :: returned cs := by
  rw [returned, List.flatMap_cons, if_neg h]
  rfl

theorem returned_append (cs ds : List Char) : returned (cs ++ ds) = returned cs ++ returned ds :=
  List.flatMap_append

theorem returned_flatten (css : List (List Char)) :
    returned css.flatten = (css.map returned).flatten := by
  induction css with
  | nil => rfl
  | cons cs rest ih => rw [List.flatten_cons, returned_append, ih, List.map_cons, List.flatten_cons]

/-- Characters without a newline stay as they are. -/
theorem returned_of_not_mem {cs : List Char} (h : '\n' ∉ cs) : returned cs = cs := by
  induction cs with
  | nil => rfl
  | cons c rest ih =>
      have hc : c ≠ '\n' := fun hc => h (hc ▸ List.mem_cons_self)
      rw [returned_cons hc, ih fun hrest => h (List.mem_cons_of_mem c hrest)]

theorem withReturns_append (text other : String) :
    withReturns (text ++ other) = withReturns text ++ withReturns other := by
  refine String.ext ?_
  rw [toList_withReturns, String.toList_append, String.toList_append, returned_append,
    toList_withReturns, toList_withReturns]

theorem withReturns_of_not_mem {text : String} (h : '\n' ∉ text.toList) :
    withReturns text = text := by
  rw [withReturns, returned_of_not_mem h, String.ofList_toList]

/-- The lines of a text with carriage returns are its lines with carriage returns. -/
theorem lines_returned (cs : List Char) : lines (returned cs) = (lines cs).map returned := by
  induction cs with
  | nil => rfl
  | cons c rest ih =>
      by_cases hc : c = '\n'
      · subst hc
        rw [returned_newline, lines, lines, lines, ih]
        rfl
      · rw [returned_cons hc, lines, lines, if_neg hc, if_neg hc, ih]
        cases lines rest with
        | nil =>
            rw [List.map_nil, List.map_singleton, returned_cons hc]
            rfl
        | cons line following =>
            rw [List.map_cons, List.map_cons, returned_cons hc]

/-! ## Texts that differ by carriage returns -/

/-- Characters, and the same ones with a carriage return before some of the newlines. -/
inductive AddsReturns : List Char → List Char → Prop where
  | nil : AddsReturns [] []
  | cons (c : Char) {cs ds : List Char} (h : AddsReturns cs ds) : AddsReturns (c :: cs) (c :: ds)
  | newline {cs ds : List Char} (h : AddsReturns cs ds) :
      AddsReturns ('\n' :: cs) ('\r' :: '\n' :: ds)

namespace AddsReturns

variable {cs ds cs' ds' : List Char}

theorem refl (cs : List Char) : AddsReturns cs cs := by
  induction cs with
  | nil => exact .nil
  | cons c rest ih => exact .cons c ih

theorem returned (cs : List Char) : AddsReturns cs (returned cs) := by
  induction cs with
  | nil => exact .nil
  | cons c rest ih =>
      by_cases hc : c = '\n'
      · rw [hc, returned_newline]
        exact .newline ih
      · rw [returned_cons hc]
        exact .cons c ih

theorem append (h : AddsReturns cs ds) (h' : AddsReturns cs' ds') :
    AddsReturns (cs ++ cs') (ds ++ ds') := by
  induction h with
  | nil => exact h'
  | cons c _ ih => exact .cons c ih
  | newline _ ih => exact .newline ih

theorem isEmpty_eq (h : AddsReturns cs ds) : cs.isEmpty = ds.isEmpty := by
  cases h with
  | nil => rfl
  | cons => rfl
  | newline => rfl

/-- What is cut off at the start is the same, unless newlines are treated unlike carriage
returns. -/
theorem dropWhile {p : Char → Bool} (hp : p '\r' = p '\n') (h : AddsReturns cs ds) :
    AddsReturns (cs.dropWhile p) (ds.dropWhile p) := by
  induction h with
  | nil => exact .nil
  | @cons c cs ds h ih =>
      rw [List.dropWhile_cons, List.dropWhile_cons]
      split
      · exact ih
      · exact .cons c h
  | @newline cs ds h ih =>
      rw [List.dropWhile_cons, List.dropWhile_cons, List.dropWhile_cons, hp]
      split
      · exact ih
      · exact .newline h

theorem dropEndWhile {p : Char → Bool} (hp : p '\r' = p '\n') (h : AddsReturns cs ds) :
    AddsReturns (dropEndWhile p cs) (dropEndWhile p ds) := by
  induction h with
  | nil => exact .nil
  | @cons c cs ds h ih =>
      rw [dropEndWhile_cons, dropEndWhile_cons, ih.isEmpty_eq]
      split
      · exact refl _
      · exact .cons c ih
  | @newline cs ds h ih =>
      rw [dropEndWhile_cons, dropEndWhile_cons, dropEndWhile_cons, ih.isEmpty_eq, hp]
      by_cases hempty : (Text.dropEndWhile p ds).isEmpty = true
      · rw [if_pos hempty, if_pos hempty]
        cases p '\n' with
        | true => exact .nil
        | false => exact .newline .nil
      · rw [if_neg hempty, if_neg hempty]
        exact .newline ih

/-- Blanks split both texts into the same first piece, and into pieces that differ by empty ones
after it. -/
theorem exists_splitOnP (h : AddsReturns cs ds) :
    ∃ piece rest others, cs.splitOnP isBlank = piece :: rest ∧
      ds.splitOnP isBlank = piece :: others ∧
      rest.filter (!·.isEmpty) = others.filter (!·.isEmpty) := by
  induction h with
  | nil => exact ⟨[], [], [], rfl, rfl, rfl⟩
  | @cons c cs ds _ ih =>
      obtain ⟨piece, rest, others, hcs, hds, hrest⟩ := ih
      rw [List.splitOnP_cons_eq_if_modifyHead, List.splitOnP_cons_eq_if_modifyHead, hcs, hds]
      split
      · refine ⟨[], piece :: rest, piece :: others, rfl, rfl, ?_⟩
        rw [List.filter_cons, List.filter_cons, hrest]
      · exact ⟨c :: piece, rest, others, rfl, rfl, hrest⟩
  | @newline cs ds _ ih =>
      obtain ⟨piece, rest, others, hcs, hds, hrest⟩ := ih
      have hreturn : isBlank '\r' = true := by decide
      have hnewline : isBlank '\n' = true := by decide
      rw [List.splitOnP_cons_eq_if_modifyHead, List.splitOnP_cons_eq_if_modifyHead,
        List.splitOnP_cons_eq_if_modifyHead, if_pos hnewline, if_pos hreturn, if_pos hnewline,
        hcs, hds]
      -- The newline of the second text leaves an empty piece behind its carriage return.
      refine ⟨[], piece :: rest, [] :: piece :: others, rfl, rfl, ?_⟩
      rw [List.filter_cons, List.filter_cons, List.filter_cons, hrest]
      rfl

theorem words_eq (h : AddsReturns cs ds) : words cs = words ds := by
  obtain ⟨piece, rest, others, hcs, hds, hrest⟩ := h.exists_splitOnP
  rw [words, words, hcs, hds, List.filter_cons, List.filter_cons, hrest]

end AddsReturns

/-- The second text is the first with carriage returns before some of the newlines. -/
def ReturnsAdded (text other : String) : Prop := AddsReturns text.toList other.toList

theorem returnsAdded_withReturns (text : String) : ReturnsAdded text (withReturns text) := by
  rw [ReturnsAdded, toList_withReturns]
  exact .returned _

/-- Carriage returns before newlines make no difference to words, trimming and emptiness. -/
theorem congruence_returnsAdded : Congruence ReturnsAdded where
  refl text := .refl text.toList
  append h h' := by
    rw [ReturnsAdded, String.toList_append, String.toList_append]
    exact h.append h'
  isEmpty_eq h := by
    rw [Bool.eq_iff_iff, String.isEmpty_iff, String.isEmpty_iff, ← String.toList_eq_nil_iff,
      ← String.toList_eq_nil_iff, ← List.isEmpty_iff, ← List.isEmpty_iff, h.isEmpty_eq]
  collapse_eq h := by rw [collapse, collapse, h.words_eq]
  trim h := by
    rw [ReturnsAdded, trim, trim, String.toList_ofList, String.toList_ofList]
    exact (h.dropWhile (by decide)).dropEndWhile (by decide)
  trimChar c hc h := by
    -- Neither of the two characters is trimmed, because both are blanks.
    have hne (d : Char) (hd : isBlank d = true) : (d == c) = false := by
      rw [beq_eq_false_iff_ne]
      rintro rfl
      rw [hd] at hc
      cases hc
    have hsame : ('\r' == c) = ('\n' == c) := by
      rw [hne '\r' (by decide), hne '\n' (by decide)]
    rw [ReturnsAdded, trimChar, trimChar, String.toList_ofList, String.toList_ofList]
    exact (h.dropWhile hsame).dropEndWhile hsame

end CursorScope.Text
