import CursorScope.Document
import Mathlib.Data.List.DropRight
import Mathlib.Data.List.Infix

/-!
# Lines and their endings

`LineList` says what the lines of a text look like: all but the last end with a newline, which is
the only one they have, and the last may go without (`lineList_lines`). So lines put together hold
one newline each (`LineList.count_newline_take`), and a line without its ending holds none
(`LineList.newline_not_mem_bare`). A text falls into one more piece than it has newlines
(`length_newlinePieces`), and no piece has one (`newline_not_mem_of_mem_newlinePieces`).
-/

namespace CursorScope.Text

/-! ## Endings -/

/-- Cutting an ending off is cutting off from the right. -/
theorem dropEndWhile_eq_rdropWhile {α : Type} (p : α → Bool) (xs : List α) :
    dropEndWhile p xs = xs.rdropWhile p := rfl

theorem isPrefix_dropEndWhile {α : Type} (p : α → Bool) (xs : List α) : dropEndWhile p xs <+: xs :=
  List.rdropWhile_prefix p xs

/-- The first element stays unless all of the list is an ending. -/
theorem dropEndWhile_cons {α : Type} (p : α → Bool) (x : α) (xs : List α) :
    dropEndWhile p (x :: xs) =
      if (dropEndWhile p xs).isEmpty then (if p x then [] else [x])
      else x :: dropEndWhile p xs := by
  unfold dropEndWhile
  rw [List.reverse_cons, List.dropWhile_append, List.isEmpty_reverse]
  split
  · rw [List.dropWhile_cons]
    split
    · rfl
    · rfl
  · rw [List.reverse_append]
    rfl

/-- An ending that is put behind a list is cut off with the ending of the list. -/
theorem dropEndWhile_append_of_all {α : Type} {p : α → Bool} {xs ending : List α}
    (h : ∀ x ∈ ending, p x = true) : dropEndWhile p (xs ++ ending) = dropEndWhile p xs := by
  unfold dropEndWhile
  rw [List.reverse_append, List.dropWhile_append_of_pos fun x hx => h x (List.mem_reverse.1 hx)]

/-- An ending past a list does not matter for what is left of a piece: where the piece lies in the
list and the ending together, it lies in the list without an ending of its own. -/
theorem dropEndWhile_infix {α : Type} {p : α → Bool} {piece xs ending : List α}
    (h : piece <:+: xs ++ ending) (hending : ∀ x ∈ ending, p x = true) :
    dropEndWhile p piece <:+: xs := by
  induction ending using List.reverseRecOn generalizing piece with
  | nil =>
      rw [List.append_nil] at h
      exact (isPrefix_dropEndWhile p piece).isInfix.trans h
  | append_singleton ending last ih =>
      have hrest (x : α) (hx : x ∈ ending) : p x = true := hending x (List.mem_append_left _ hx)
      rw [← List.append_assoc, List.infix_concat_iff] at h
      rcases h with hsuffix | hinfix
      · -- The piece reaches up to the last element, which is cut off.
        rcases List.suffix_concat_iff.1 hsuffix with rfl | ⟨shorter, rfl, hshorter⟩
        · exact List.nil_infix
        · have hlast : p last = true := hending last (by simp)
          rw [dropEndWhile_eq_rdropWhile, List.rdropWhile_concat_pos p shorter last hlast]
          exact ih hshorter.isInfix hrest
      · exact ih hinfix hrest

/-- A line is its bare line and an ending. -/
theorem exists_ending (line : String) : ∃ ending, (∀ c ∈ ending, isLineEnding c = true) ∧
    line.toList = (bareLine line).toList ++ ending := by
  refine ⟨(line.toList.reverse.takeWhile isLineEnding).reverse, fun c hc => ?_, ?_⟩
  · exact List.mem_takeWhile_imp (List.mem_reverse.1 hc)
  · rw [toList_bareLine]
    exact (dropEndWhile_append isLineEnding line.toList).symm

/-! ## Lines -/

/-- Lines of a text: each ends with its only newline, but the last need not have one. -/
inductive LineList : List (List Char) → Prop where
  | nil : LineList []
  | last {line : List Char} (hne : line ≠ []) (hline : '\n' ∉ line) : LineList [line]
  | cons {body : List Char} {rest : List (List Char)} (hbody : '\n' ∉ body)
      (hrest : LineList rest) : LineList ((body ++ ['\n']) :: rest)

theorem lineList_lines (cs : List Char) : LineList (lines cs) := by
  induction cs with
  | nil => exact .nil
  | cons c rest ih =>
      rw [lines]
      split
      · exact .cons List.not_mem_nil ih
      · rename_i hc
        have hne : '\n' ≠ c := fun h => hc h.symm
        cases hlines : lines rest with
        | nil => exact .last (by simp) (by simpa using hne)
        | cons line following =>
            rw [hlines] at ih
            cases ih with
            | last _ hline => exact .last (by simp) (by simpa using ⟨hne, hline⟩)
            | @cons body _ hbody hrest =>
                have hlonger : '\n' ∉ c :: body := by simpa using ⟨hne, hbody⟩
                exact .cons hlonger hrest

namespace LineList

variable {xs : List (List Char)}

theorem drop (h : LineList xs) (n : Nat) : LineList (xs.drop n) := by
  induction n generalizing xs with
  | zero => exact h
  | succ n ih =>
      cases h with
      | nil => exact .nil
      | last =>
          rw [List.drop_succ_cons, List.drop_nil]
          exact .nil
      | cons _ hrest => exact ih hrest

/-- Lines that are not the last hold one newline each. -/
theorem count_newline_take (h : LineList xs) {n : Nat} (hn : n < xs.length) :
    (xs.take n).flatten.count '\n' = n := by
  induction n generalizing xs with
  | zero => rfl
  | succ n ih =>
      cases h with
      | nil => exact absurd hn (Nat.not_lt_zero _)
      | last =>
          rw [List.length_singleton] at hn
          omega
      | @cons body rest hbody hrest =>
          have hcount := ih hrest (Nat.lt_of_succ_lt_succ hn)
          rw [List.take_succ_cons, List.flatten_cons, List.count_append, List.count_append,
            List.count_eq_zero.2 hbody, hcount, List.count_singleton_self]
          omega

/-- A line without its ending has no newline. -/
theorem newline_not_mem_bare (h : LineList xs) {line : List Char} (hline : line ∈ xs) :
    '\n' ∉ dropEndWhile isLineEnding line := by
  induction h with
  | nil => cases hline
  | last _ hfree =>
      rw [List.mem_singleton] at hline
      subst hline
      exact fun hmem => hfree ((isPrefix_dropEndWhile _ _).subset hmem)
  | @cons body rest hbody _ ih =>
      rcases List.mem_cons.1 hline with rfl | hline
      · rw [dropEndWhile_eq_rdropWhile, List.rdropWhile_concat_pos _ _ _ rfl]
        exact fun hmem => hbody ((isPrefix_dropEndWhile _ _).subset hmem)
      · exact ih hline

end LineList

/-! ## Pieces -/

/-- A list has one more piece between its newlines than it has newlines. -/
theorem length_splitOn_newline (cs : List Char) :
    (cs.splitOn '\n').length = cs.count '\n' + 1 := by
  induction cs with
  | nil => rfl
  | cons c rest ih =>
      rw [List.splitOn_cons_eq_if_modifyHead, List.count_cons]
      split
      · rw [List.length_cons, ih]
      · rw [List.length_modifyHead, ih]

theorem length_newlinePieces {text : String} (h : text ≠ "") :
    (newlinePieces text).length = text.toList.count '\n' + 1 := by
  have hempty : ¬ text.isEmpty = true := by simpa using h
  rw [newlinePieces, if_neg hempty, List.length_map, length_splitOn_newline]

/-- The pieces of a list are free of what it is split at. -/
theorem eq_false_of_mem_splitOnP {α : Type} {p : α → Bool} {xs piece : List α}
    (h : piece ∈ xs.splitOnP p) : ∀ x ∈ piece, p x = false := by
  induction xs generalizing piece with
  | nil =>
      rw [List.splitOnP_nil, List.mem_singleton] at h
      rw [h]
      exact fun x hx => by cases hx
  | cons first rest ih =>
      rw [List.splitOnP_cons_eq_if_modifyHead] at h
      split at h
      · rcases List.mem_cons.1 h with rfl | h
        · exact fun x hx => by cases hx
        · exact ih h
      · rename_i hfirst
        obtain ⟨head, tail, hpieces⟩ := List.exists_cons_of_ne_nil (List.splitOnP_ne_nil p rest)
        rw [hpieces, List.modifyHead_cons] at h
        rcases List.mem_cons.1 h with rfl | h
        · have hhead := ih (hpieces ▸ List.mem_cons_self)
          exact List.forall_mem_cons.2 ⟨Bool.eq_false_iff.2 hfirst, hhead⟩
        · exact ih (hpieces ▸ List.mem_cons_of_mem _ h)

theorem not_mem_of_mem_splitOn {c : Char} {cs piece : List Char} (h : piece ∈ cs.splitOn c) :
    c ∉ piece := by
  rw [List.splitOn_eq_splitOnP] at h
  exact fun hmem => by simpa using eq_false_of_mem_splitOnP h c hmem

theorem newline_not_mem_of_mem_newlinePieces {text piece : String}
    (h : piece ∈ newlinePieces text) : '\n' ∉ piece.toList := by
  unfold newlinePieces at h
  split at h
  · cases h
  · obtain ⟨cs, hcs, rfl⟩ := List.mem_map.1 h
    rw [String.toList_ofList]
    exact not_mem_of_mem_splitOn hcs

end CursorScope.Text
