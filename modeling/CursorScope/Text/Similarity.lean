/-!
# Similar texts

Two texts are the more similar the more characters their common blocks hold: the longest block
that occurs in both, and so on with what lies before and after it on either side. Of equally long
blocks the one that comes first counts, in the first text before the second. `closest` picks the
texts that are similar enough to a given one.
-/

namespace CursorScope.Text

/-- The number of characters that two lists have in common at their starts. -/
def commonStart : List Char → List Char → Nat
  | a :: as, b :: bs => if a = b then commonStart as bs + 1 else 0
  | _, _ => 0

theorem commonStart_le_left (as bs : List Char) : commonStart as bs ≤ as.length := by
  induction as generalizing bs with
  | nil => simp [commonStart]
  | cons a as ih =>
      cases bs with
      | nil => simp [commonStart]
      | cons b bs =>
          rw [commonStart, List.length_cons]
          split
          · exact Nat.succ_le_succ (ih bs)
          · exact Nat.zero_le _

theorem commonStart_le_right (as bs : List Char) : commonStart as bs ≤ bs.length := by
  induction as generalizing bs with
  | nil => simp [commonStart]
  | cons a as ih =>
      cases bs with
      | nil => simp [commonStart]
      | cons b bs =>
          rw [commonStart, List.length_cons]
          split
          · exact Nat.succ_le_succ (ih bs)
          · exact Nat.zero_le _

/-- A stretch that occurs in two lists: where it starts in each, and its length. -/
structure Block where
  left : Nat
  right : Nat
  length : Nat

/-- The first of the longest blocks. -/
def longestOf (blocks : List Block) : Block :=
  blocks.foldl (fun best block => if best.length < block.length then block else best) ⟨0, 0, 0⟩

/-- The first longest block of two lists. -/
def longestBlock (as bs : List Char) : Block :=
  longestOf <| (List.range as.length).flatMap fun left =>
    (List.range bs.length).map fun right =>
      ⟨left, right, commonStart (as.drop left) (bs.drop right)⟩

/-- A block lies within two lists. -/
def Block.Fits (as bs : List Char) (block : Block) : Prop :=
  block.left + block.length ≤ as.length ∧ block.right + block.length ≤ bs.length

theorem fits_longestOf {as bs : List Char} {blocks : List Block}
    (h : ∀ block ∈ blocks, block.Fits as bs) : (longestOf blocks).Fits as bs := by
  suffices ∀ best : Block, best.Fits as bs →
      (blocks.foldl (fun best block => if best.length < block.length then block else best)
        best).Fits as bs from this ⟨0, 0, 0⟩ ⟨Nat.zero_le _, Nat.zero_le _⟩
  induction blocks with
  | nil => exact fun _ hbest => hbest
  | cons block blocks ih =>
      intro best hbest
      rw [List.foldl_cons]
      apply ih fun b hb => h b (List.mem_cons_of_mem _ hb)
      split
      · exact h block List.mem_cons_self
      · exact hbest

theorem fits_longestBlock (as bs : List Char) : (longestBlock as bs).Fits as bs := by
  apply fits_longestOf
  intro block hblock
  obtain ⟨left, hleft, hblock⟩ := List.mem_flatMap.1 hblock
  obtain ⟨right, hright, rfl⟩ := List.mem_map.1 hblock
  have hl := commonStart_le_left (as.drop left) (bs.drop right)
  have hr := commonStart_le_right (as.drop left) (bs.drop right)
  rw [List.length_drop] at hl hr
  rw [List.mem_range] at hleft hright
  constructor <;> simp only <;> omega

/-- The number of characters in the common blocks of two lists. The number of rounds bounds the
depth of the search; no more than the length of a list are of use, because each round takes at
least one character away. -/
def commonWithin : Nat → List Char → List Char → Nat
  | 0, _, _ => 0
  | rounds + 1, as, bs =>
      let block := longestBlock as bs
      if block.length = 0 then 0
      else
        commonWithin rounds (as.take block.left) (bs.take block.right) + block.length +
          commonWithin rounds (as.drop (block.left + block.length))
            (bs.drop (block.right + block.length))

/-- The number of characters in the common blocks of two texts. -/
def commonCharacters (a b : String) : Nat := commonWithin a.length a.toList b.toList

theorem commonWithin_le (rounds : Nat) (as bs : List Char) :
    commonWithin rounds as bs ≤ min as.length bs.length := by
  induction rounds generalizing as bs with
  | zero => exact Nat.zero_le _
  | succ rounds ih =>
      simp only [commonWithin]
      split
      · exact Nat.zero_le _
      · have hfits := fits_longestBlock as bs
        have hbefore := ih (as.take (longestBlock as bs).left) (bs.take (longestBlock as bs).right)
        have hafter := ih (as.drop ((longestBlock as bs).left + (longestBlock as bs).length))
          (bs.drop ((longestBlock as bs).right + (longestBlock as bs).length))
        simp only [Block.Fits] at hfits
        simp only [List.length_take, List.length_drop] at hbefore hafter
        omega

/-- How similar two texts are: twice their common characters, out of all their characters. -/
structure Likeness where
  common : Nat
  total : Nat

namespace Likeness

/-- The likeness of two texts. -/
def ofTexts (a b : String) : Likeness := ⟨2 * commonCharacters a b, a.length + b.length⟩

/-- The greatest likeness that two texts can have by their lengths alone. -/
def ofLengths (a b : String) : Likeness := ⟨2 * min a.length b.length, a.length + b.length⟩

/-- At least three fifths of the characters are in common. -/
def isClose (l : Likeness) : Bool := 3 * l.total ≤ 5 * l.common

/-- One likeness is below another as a fraction. -/
def isBelow (l m : Likeness) : Bool := l.common * m.total < m.common * l.total

/-- Texts that are not close by their lengths are not close. -/
theorem isClose_ofLengths {a b : String} (h : (ofTexts a b).isClose = true) :
    (ofLengths a b).isClose = true := by
  have hbound := commonWithin_le a.length a.toList b.toList
  rw [String.length_toList, String.length_toList] at hbound
  rw [isClose, decide_eq_true_eq] at h ⊢
  simp only [ofTexts, ofLengths, commonCharacters] at h ⊢
  omega

end Likeness

/-- The candidates that are close to a text, at most `count` of them, the closest first and of
equally close ones the greatest first. Only those that can be close by their lengths are compared
with the text. -/
def closest (count : Nat) (text : String) (candidates : List String) : List String :=
  let comparable := candidates.filter fun candidate =>
    (Likeness.ofLengths candidate text).isClose
  let scored := comparable.map fun candidate => (Likeness.ofTexts candidate text, candidate)
  let ranked := (scored.filter (·.1.isClose)).mergeSort fun (l, a) (m, b) =>
    m.isBelow l || !l.isBelow m && decide (b ≤ a)
  (ranked.take count).map (·.2)

end CursorScope.Text
