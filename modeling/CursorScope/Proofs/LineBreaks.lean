import CursorScope.Proofs.Points
import CursorScope.Proofs.WholeFile

/-!
# Texts and lists of lines

`AreLines` says which lists of strings are the lines of a text: no line is empty, a newline ends
every line but perhaps the last, and stands nowhere else. Splitting a text into lines and putting
lines together are inverse to each other between all texts and these lists, and a line starts
behind a newline or at the start of the text, and nowhere else (`splitLines_bijective`). So no other
separator starts a line.
-/

namespace CursorScope.Text

/-! ## Lists of lines -/

/-- Strings that are the lines of a text: none is empty, a newline is at most the last character of
a line, and all lines but the last end with one. -/
structure AreLines (xs : List String) : Prop where
  ne_empty : ∀ line ∈ xs, line ≠ ""
  newline_not_mem : ∀ line ∈ xs, '\n' ∉ line.toList.dropLast
  newline_last : ∀ line ∈ xs.dropLast, line.toList.getLast? = some '\n'

namespace LineList

variable {xs : List (List Char)}

theorem ne_nil (h : LineList xs) : ∀ line ∈ xs, line ≠ [] := by
  induction h with
  | nil => exact List.forall_mem_nil _
  | last hne _ => exact List.forall_mem_singleton.2 hne
  | cons _ _ ih => exact List.forall_mem_cons.2 ⟨by simp, ih⟩

theorem newline_not_mem_dropLast (h : LineList xs) : ∀ line ∈ xs, '\n' ∉ line.dropLast := by
  induction h with
  | nil => exact List.forall_mem_nil _
  | last _ hline =>
      exact List.forall_mem_singleton.2 fun hmem => hline (List.mem_of_mem_dropLast hmem)
  | cons hbody _ ih =>
      rw [List.forall_mem_cons, List.dropLast_concat]
      exact ⟨hbody, ih⟩

/-- All lines but the last end with a newline. -/
theorem getLast?_of_mem_dropLast (h : LineList xs) :
    ∀ line ∈ xs.dropLast, line.getLast? = some '\n' := by
  induction h with
  | nil => exact List.forall_mem_nil _
  | last => exact List.forall_mem_nil _
  | @cons body rest _ _ ih =>
      cases rest with
      | nil => exact List.forall_mem_nil _
      | cons line rest =>
          rw [List.dropLast_cons_cons, List.forall_mem_cons]
          exact ⟨List.getLast?_concat, ih⟩

end LineList

/-- The two descriptions of lines say the same. -/
theorem areLines_iff_lineList {xs : List String} :
    AreLines xs ↔ LineList (xs.map String.toList) := by
  constructor
  · intro h
    induction xs with
    | nil => exact .nil
    | cons line rest ih =>
        obtain ⟨hne, hne'⟩ := List.forall_mem_cons.1 h.ne_empty
        obtain ⟨hfree, hfree'⟩ := List.forall_mem_cons.1 h.newline_not_mem
        obtain ⟨body, c, hline⟩ :=
          List.eq_nil_or_concat' line.toList |>.resolve_left (by simpa using hne)
        rw [hline, List.dropLast_concat] at hfree
        cases rest with
        | nil =>
            by_cases hc : c = '\n'
            · rw [List.map_singleton, hline, hc]
              exact .cons hfree .nil
            · rw [List.map_singleton]
              refine .last (by simpa using hne) ?_
              rw [hline]
              simpa using ⟨hfree, Ne.symm hc⟩
        | cons next rest =>
            have hlast := h.newline_last
            rw [List.dropLast_cons_cons, List.forall_mem_cons] at hlast
            rw [hline, List.getLast?_concat, Option.some.injEq] at hlast
            rw [List.map_cons, hline, hlast.1]
            exact .cons hfree (ih ⟨hne', hfree', hlast.2⟩)
  · intro h
    refine ⟨fun line hline => ?_, fun line hline => ?_, fun line hline => ?_⟩
    · simpa using h.ne_nil line.toList (List.mem_map_of_mem hline)
    · exact h.newline_not_mem_dropLast line.toList (List.mem_map_of_mem hline)
    · refine h.getLast?_of_mem_dropLast line.toList ?_
      rw [← List.map_dropLast]
      exact List.mem_map_of_mem hline

/-! ## Lines of lines put together -/

/-- A line that ends with its only newline is split off. -/
theorem lines_body_append {body : List Char} (h : '\n' ∉ body) (rest : List Char) :
    lines (body ++ '\n' :: rest) = (body ++ ['\n']) :: lines rest := by
  induction body with
  | nil => exact lines_newline rest
  | cons c body ih =>
      rw [List.mem_cons, not_or] at h
      rw [List.cons_append, lines_cons (Ne.symm h.1), ih h.2]
      rfl

/-- Characters without a newline are one line. -/
theorem lines_of_newline_not_mem {line : List Char} (hne : line ≠ []) (h : '\n' ∉ line) :
    lines line = [line] := by
  induction line with
  | nil => exact absurd rfl hne
  | cons c rest ih =>
      rw [List.mem_cons, not_or] at h
      rw [lines_cons (Ne.symm h.1)]
      cases rest with
      | nil => rfl
      | cons next rest =>
          rw [ih (List.cons_ne_nil _ _) h.2]
          rfl

theorem LineList.lines_flatten {xs : List (List Char)} (h : LineList xs) :
    lines xs.flatten = xs := by
  induction h with
  | nil => rfl
  | last hne hline =>
      rw [List.flatten_singleton]
      exact lines_of_newline_not_mem hne hline
  | @cons body rest hbody _ ih =>
      rw [List.flatten_cons, List.append_assoc, List.singleton_append, lines_body_append hbody, ih]

theorem splitLines_join {xs : List String} (h : AreLines xs) :
    splitLines (String.join xs) = xs := by
  rw [splitLines, String.toList_join, List.flatMap_def,
    (areLines_iff_lineList.1 h).lines_flatten, List.map_map]
  exact List.map_id'' (fun _ => String.ofList_toList) xs

theorem map_toList_splitLines (text : String) :
    (splitLines text).map String.toList = lines text.toList := by
  rw [splitLines, List.map_map]
  exact List.map_id'' (fun _ => String.toList_ofList) _

theorem areLines_splitLines (text : String) : AreLines (splitLines text) := by
  rw [areLines_iff_lineList, map_toList_splitLines]
  exact lineList_lines text.toList

/-! ## Where lines start -/

/-- A line of the text starts behind `before`, which is what the lines above it hold. -/
def LineStartsBehind (text before : String) : Prop :=
  ∃ n < (splitLines text).length, String.join ((splitLines text).take n) = before

/-- Behind a newline the lines go on as those of the rest. -/
theorem lines_append_newline (cs rest : List Char) :
    lines (cs ++ '\n' :: rest) = lines (cs ++ ['\n']) ++ lines rest := by
  induction cs with
  | nil => exact lines_newline rest
  | cons c cs ih =>
      by_cases hc : c = '\n'
      · subst hc
        rw [List.cons_append, List.cons_append, lines_newline, lines_newline, ih, List.cons_append]
      · have hne : lines (cs ++ ['\n']) ≠ [] := by
          intro hnil
          have hflat := flatten_lines (cs ++ ['\n'])
          rw [hnil] at hflat
          simp at hflat
        obtain ⟨line, following, hlines⟩ := List.exists_cons_of_ne_nil hne
        rw [List.cons_append, List.cons_append, lines_cons hc, lines_cons hc, ih, hlines]
        rfl

theorem splitLines_append {before : String}
    (h : before = "" ∨ before.toList.getLast? = some '\n') (after : String) :
    splitLines (before ++ after) = splitLines before ++ splitLines after := by
  rcases h with rfl | hlast
  · rfl
  · obtain ⟨body, hbody⟩ := List.getLast?_eq_some_iff.1 hlast
    rw [splitLines, splitLines, splitLines, String.toList_append, hbody, List.append_assoc,
      List.singleton_append, lines_append_newline, List.map_append]

/-- A line starts at a place with something behind it that is the start of the text or right behind
a newline, and at no other place. -/
theorem lineStartsBehind_iff (before after : String) :
    LineStartsBehind (before ++ after) before ↔
      after ≠ "" ∧ (before = "" ∨ before.toList.getLast? = some '\n') := by
  constructor
  · rintro ⟨n, hn, hbefore⟩
    have hlines := areLines_splitLines (before ++ after)
    have hjoin : String.join (splitLines (before ++ after)) = before ++ after :=
      Document.join_lines_ofText _ ""
    generalize splitLines (before ++ after) = xs at *
    rw [← List.take_append_drop n xs, String.join_append, hbefore, String.append_right_inj] at hjoin
    constructor
    · rw [← hjoin, List.drop_eq_getElem_cons hn, String.join_cons]
      have hline := hlines.ne_empty xs[n] (List.getElem_mem hn)
      simp [hline]
    · cases n with
      | zero => exact .inl hbefore.symm
      | succ n =>
          -- The line above is not the last one, so it ends with a newline.
          have habove : n < xs.dropLast.length := by
            rw [List.length_dropLast]
            omega
          have hline : xs[n] ∈ xs.dropLast := by
            rw [← List.getElem_dropLast habove]
            exact List.getElem_mem habove
          obtain ⟨body, hbody⟩ := List.getLast?_eq_some_iff.1 (hlines.newline_last _ hline)
          rw [List.take_succ_eq_append_getElem (by omega)] at hbefore
          right
          rw [← hbefore, String.join_append, String.toList_append]
          simp [hbody]
  · rintro ⟨hafter, hbefore⟩
    have hnonempty : 0 < (splitLines after).length :=
      List.length_pos_iff.2 (Document.lines_ofText_ne_nil hafter "")
    refine ⟨(splitLines before).length, ?_, ?_⟩
    · rw [splitLines_append hbefore, List.length_append]
      omega
    · rw [splitLines_append hbefore, List.take_left]
      exact Document.join_lines_ofText before ""

/-- Splitting a text into lines and putting lines together are inverse to each other between all
texts and the lists of lines, and a line starts behind a newline or at the start of the text, and
nowhere else. -/
theorem splitLines_bijective (text : String) :
    String.join (splitLines text) = text ∧ AreLines (splitLines text) ∧
      (∀ xs, AreLines xs → splitLines (String.join xs) = xs) ∧
      ∀ before after, text = before ++ after → (LineStartsBehind text before ↔
        after ≠ "" ∧ (before = "" ∨ before.toList.getLast? = some '\n')) := by
  refine ⟨Document.join_lines_ofText text "", areLines_splitLines text,
    fun xs hxs => splitLines_join hxs, ?_⟩
  rintro before after rfl
  exact lineStartsBehind_iff before after

/-- A text with carriage returns, a line separator and a form feed among its newlines. -/
theorem splitLines_bijective_otherSeparators :
    let text := "a\rb\u2028c\x0cd\n\n\r\ne"
    let xs := ["a\rb\u2028c\x0cd\n", "\n", "\r\n", "e"]
    AreLines xs ∧ splitLines (String.join xs) = xs ∧ String.join xs = text ∧
      ¬ LineStartsBehind text "a\r" ∧ ¬ LineStartsBehind text "a\rb\u2028" ∧
      LineStartsBehind text "a\rb\u2028c\x0cd\n\n" := by
  intro text xs
  obtain ⟨-, -, hsplit, hstarts⟩ := splitLines_bijective text
  have hlines : AreLines xs := ⟨by decide, by decide, by decide⟩
  refine ⟨hlines, hsplit xs hlines, by decide, ?_, ?_, ?_⟩
  · rw [hstarts "a\r" "b\u2028c\x0cd\n\n\r\ne" (by decide)]
    decide
  · rw [hstarts "a\rb\u2028" "c\x0cd\n\n\r\ne" (by decide)]
    decide
  · rw [hstarts "a\rb\u2028c\x0cd\n\n" "\r\ne" (by decide)]
    decide

end CursorScope.Text
