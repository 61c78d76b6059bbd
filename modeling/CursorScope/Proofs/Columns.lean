import CursorScope.Proofs.Points
import Mathlib.Data.Finset.Card

/-!
# Columns in bytes and in characters

A column counts the bytes of a line in UTF-8, a position counts characters. `byteOffset` is the
column of a character, and the number of characters within a column is the other way round: the two
are a Galois connection on the characters of a line (`le_charactersWithin_iff`). The characters
within a column are also those that are read back from the bytes before it, where what is left of a
character that the column cuts is passed over (`wholeCharacters_take_bytes`). What follows for the
points of a document is `Document.positionAt_exact`.
-/

namespace CursorScope

namespace Text

/-! ## Reading bytes -/

/-- The characters that stand whole in some bytes, as they are read from UTF-8. A byte at which no
character starts is passed over. -/
def wholeCharacters : List UInt8 → List Char
  | [] => []
  | byte :: rest =>
      match (byte :: rest).toByteArray.utf8DecodeChar? 0 with
      | none => wholeCharacters rest
      | some c => c :: wholeCharacters (rest.drop (c.utf8Size - 1))
termination_by bytes => bytes.length
decreasing_by
  · exact Nat.lt_succ_self _
  · rw [List.length_drop]
    exact Nat.lt_succ_of_le (Nat.sub_le _ _)

/-- The bytes of a character are read as the character, whatever follows them. -/
theorem utf8DecodeChar?_append (c : Char) (rest : List UInt8) :
    (String.utf8EncodeChar c ++ rest).toByteArray.utf8DecodeChar? 0 = some c := by
  rw [List.toByteArray_append]
  exact ByteArray.utf8DecodeChar?_utf8EncodeChar_append

/-- What a character is read from starts with the bytes of the character. -/
theorem exists_eq_append_of_utf8DecodeChar? {bytes : List UInt8} {c : Char}
    (h : bytes.toByteArray.utf8DecodeChar? 0 = some c) :
    ∃ rest, bytes = String.utf8EncodeChar c ++ rest := by
  obtain ⟨rest, hrest⟩ := ByteArray.exists_of_utf8DecodeChar?_eq_some h
  refine ⟨rest.data.toList, ?_⟩
  have hlist := congrArg (·.data.toList) hrest
  simpa using hlist

theorem exists_utf8EncodeChar_eq_cons (c : Char) :
    ∃ first others, String.utf8EncodeChar c = first :: others := by
  refine List.exists_cons_of_ne_nil fun hnil => ?_
  have hlength := String.length_utf8EncodeChar c
  rw [hnil] at hlength
  exact absurd hlength (Nat.ne_of_lt c.utf8Size_pos)

/-- No character starts at a byte of a character but the first. -/
theorem not_isUTF8FirstByte {c : Char} {first byte : UInt8} {others : List UInt8}
    (hbytes : String.utf8EncodeChar c = first :: others) (h : byte ∈ others) :
    ¬ byte.IsUTF8FirstByte := by
  obtain ⟨i, hi⟩ := List.mem_iff_getElem?.1 h
  have hplace : (String.utf8EncodeChar c)[i + 1]? = some byte := by
    rw [hbytes, List.getElem?_cons_succ, hi]
  obtain ⟨hlt, rfl⟩ := List.getElem?_eq_some_iff.1 hplace
  rw [UInt8.isUTF8FirstByte_getElem_utf8EncodeChar]
  exact Nat.succ_ne_zero i

/-- The bytes of a character start with those of no other one. -/
theorem eq_of_utf8EncodeChar_isPrefix {c d : Char}
    (h : String.utf8EncodeChar d <+: String.utf8EncodeChar c) : d = c := by
  obtain ⟨rest, hrest⟩ := h
  have hread := utf8DecodeChar?_append d rest
  have hwhole := utf8DecodeChar?_append c []
  rw [hrest] at hread
  rw [List.append_nil, hread] at hwhole
  exact Option.some.inj hwhole

/-- Bytes at which no character starts hold none. -/
theorem wholeCharacters_eq_nil {bytes : List UInt8}
    (h : ∀ byte ∈ bytes, ¬ byte.IsUTF8FirstByte) : wholeCharacters bytes = [] := by
  induction bytes with
  | nil => rw [wholeCharacters]
  | cons byte rest ih =>
      have hnone : (byte :: rest).toByteArray.utf8DecodeChar? 0 = none := by
        cases hread : (byte :: rest).toByteArray.utf8DecodeChar? 0 with
        | none => rfl
        | some c =>
            have hfirst := ByteArray.isUTF8FirstByte_of_isSome_utf8DecodeChar?
              (Option.isSome_of_eq_some hread)
            rw [List.getElem_toByteArray] at hfirst
            exact absurd hfirst (h byte List.mem_cons_self)
      rw [wholeCharacters, hnone]
      exact ih fun other hother => h other (List.mem_cons_of_mem _ hother)

theorem wholeCharacters_append (c : Char) (rest : List UInt8) :
    wholeCharacters (String.utf8EncodeChar c ++ rest) = c :: wholeCharacters rest := by
  have hread := utf8DecodeChar?_append c rest
  obtain ⟨first, others, hbytes⟩ := exists_utf8EncodeChar_eq_cons c
  have hothers : others.length = c.utf8Size - 1 := by
    rw [← String.length_utf8EncodeChar, hbytes, List.length_cons, Nat.add_sub_cancel]
  rw [hbytes, List.cons_append] at hread ⊢
  rw [wholeCharacters, hread]
  dsimp only
  rw [List.drop_left' hothers]

/-- Bytes of a character that are not all of them hold no character. -/
theorem wholeCharacters_take {c : Char} {n : Nat} (h : n < c.utf8Size) :
    wholeCharacters ((String.utf8EncodeChar c).take n) = [] := by
  obtain ⟨first, others, hbytes⟩ := exists_utf8EncodeChar_eq_cons c
  cases n with
  | zero => rw [List.take_zero, wholeCharacters]
  | succ n =>
      have htake : (String.utf8EncodeChar c).take (n + 1) = first :: others.take n := by
        rw [hbytes, List.take_succ_cons]
      cases hread : (first :: others.take n).toByteArray.utf8DecodeChar? 0 with
      | none =>
          rw [htake, wholeCharacters, hread]
          exact wholeCharacters_eq_nil fun byte hbyte =>
            not_isUTF8FirstByte hbytes (List.mem_of_mem_take hbyte)
      | some d =>
          -- A character read from them would be the one that is cut, which does not fit in.
          obtain ⟨rest, hrest⟩ := exists_eq_append_of_utf8DecodeChar? hread
          rw [← htake] at hrest
          have hbegins : String.utf8EncodeChar d <+: (String.utf8EncodeChar c).take (n + 1) :=
            ⟨rest, hrest.symm⟩
          have hsame := eq_of_utf8EncodeChar_isPrefix (hbegins.trans (List.take_prefix _ _))
          have hlength := hbegins.length_le
          rw [hsame, List.length_take, String.length_utf8EncodeChar] at hlength
          omega

/-- From the first bytes of a line the characters are read back that lie wholly in them. -/
theorem wholeCharacters_take_bytes (line : List Char) (column : Nat) :
    wholeCharacters ((bytes line).take column) = line.take (charactersWithin line column) := by
  induction line generalizing column with
  | nil =>
      rw [show bytes [] = [] from rfl, List.take_nil, List.take_nil, wholeCharacters]
  | cons c rest ih =>
      have hlength := String.length_utf8EncodeChar c
      rw [bytes_cons, charactersWithin]
      split
      · rename_i hfits
        rw [List.take_append, hlength, List.take_of_length_le (by omega), wholeCharacters_append,
          ih, List.take_succ_cons]
      · rename_i hcut
        rw [List.take_append_of_le_length (by omega), wholeCharacters_take (by omega),
          List.take_zero]

/-- The last one of these bytes is the second one of the three of its character. -/
example : wholeCharacters ((bytes "é€".toList).take 4) = ['é'] := by cbv

/-! ## Columns of characters -/

/-- The column at which the character number `k` of a line starts. With no such character it is the
column of the end of the line. -/
def byteOffset (line : List Char) (k : Nat) : Nat := (bytes (line.take k)).length

variable {line : List Char} {k column : Nat}

theorem byteOffset_cons_succ (c : Char) (rest : List Char) (k : Nat) :
    byteOffset (c :: rest) (k + 1) = c.utf8Size + byteOffset rest k := by
  rw [byteOffset, List.take_succ_cons, bytes_cons, List.length_append,
    String.length_utf8EncodeChar]
  rfl

theorem byteOffset_lt (h : k < line.length) : byteOffset line k < byteOffset line (k + 1) := by
  induction line generalizing k with
  | nil => exact absurd h (Nat.not_lt_zero k)
  | cons c rest ih =>
      rw [byteOffset_cons_succ]
      cases k with
      | zero => exact Nat.lt_add_right _ c.utf8Size_pos
      | succ k =>
          rw [byteOffset_cons_succ]
          exact Nat.add_lt_add_left (ih (Nat.lt_of_succ_lt_succ h)) _

/-- Behind the last character all columns are that of the end. -/
theorem lt_length_of_byteOffset_lt (h : byteOffset line k < byteOffset line (k + 1)) :
    k < line.length := by
  by_contra hpast
  rw [byteOffset, byteOffset, List.take_of_length_le (by omega),
    List.take_of_length_le (by omega)] at h
  exact Nat.lt_irrefl _ h

/-- The first `k` characters of a line lie within a column when the next one starts there or
before, and only then. -/
theorem le_charactersWithin_iff (h : k ≤ line.length) :
    k ≤ charactersWithin line column ↔ byteOffset line k ≤ column := by
  induction line generalizing k column with
  | nil =>
      obtain rfl := Nat.le_zero.1 h
      exact iff_of_true (Nat.zero_le _) (Nat.zero_le _)
  | cons c rest ih =>
      cases k with
      | zero => exact iff_of_true (Nat.zero_le _) (Nat.zero_le _)
      | succ k =>
          have hrest := @ih k (column - c.utf8Size) (Nat.le_of_succ_le_succ h)
          rw [byteOffset_cons_succ, charactersWithin]
          split <;> omega

/-- The characters within a column are all those of the line that end at it or before. -/
theorem charactersWithin_eq_card (line : List Char) (column : Nat) :
    charactersWithin line column =
      ((Finset.range line.length).filter fun k => byteOffset line (k + 1) ≤ column).card := by
  have hfilter : ((Finset.range line.length).filter fun k => byteOffset line (k + 1) ≤ column) =
      Finset.range (charactersWithin line column) := by
    ext k
    have hle := charactersWithin_le_length line column
    rw [Finset.mem_filter, Finset.mem_range, Finset.mem_range]
    constructor
    · rintro ⟨hk, hoffset⟩
      exact (le_charactersWithin_iff hk).2 hoffset
    · intro hk
      have hlength := Nat.lt_of_lt_of_le hk hle
      exact ⟨hlength, (le_charactersWithin_iff hlength).1 hk⟩
  rw [hfilter, Finset.card_range]

/-- Inside a character only the characters before it count. -/
theorem charactersWithin_eq (hle : byteOffset line k ≤ column)
    (hlt : column < byteOffset line (k + 1)) : charactersWithin line column = k := by
  have hk := lt_length_of_byteOffset_lt (Nat.lt_of_le_of_lt hle hlt)
  have hbefore := (le_charactersWithin_iff (Nat.le_of_lt hk)).2 hle
  have hnot := mt (le_charactersWithin_iff hk).1 (Nat.not_le.2 hlt)
  omega

theorem charactersWithin_byteOffset (h : k ≤ line.length) :
    charactersWithin line (byteOffset line k) = k := by
  rcases Nat.lt_or_eq_of_le h with hlt | rfl
  · exact charactersWithin_eq (Nat.le_refl _) (byteOffset_lt hlt)
  · exact Nat.le_antisymm (charactersWithin_le_length _ _)
      ((le_charactersWithin_iff (Nat.le_refl _)).2 (Nat.le_refl _))

/-- `count` is the number of characters of a line that lie wholly within its first `column` bytes.
These are the characters that end at the column or before, and those that are read back from the
bytes. -/
structure CountsWhole (line : List Char) (column count : Nat) : Prop where
  counted : count =
    ((Finset.range line.length).filter fun k => byteOffset line (k + 1) ≤ column).card
  readBack : wholeCharacters ((bytes line).take column) = line.take count
  le_length : count ≤ line.length

theorem countsWhole (line : List Char) (column : Nat) :
    CountsWhole line column (charactersWithin line column) where
  counted := charactersWithin_eq_card line column
  readBack := wholeCharacters_take_bytes line column
  le_length := charactersWithin_le_length line column

end Text

/-- The position of a point counts the characters that lie wholly before it on its line: at the
start of a character the ones before that character, inside it no more, and none on a row past the
document. So later points have later positions, and a node has a range wherever its points lie,
unless it ends before it starts. -/
theorem Document.positionAt_exact (doc : Document) :
    (∀ (p : Point) (line : String), doc.lines[p.row]? = some line →
      ∃ count, doc.positionAt p = ⟨p.row, count⟩ ∧
        Text.CountsWhole line.toList p.column count) ∧
    (∀ (row k : Nat) (line : String), doc.lines[row]? = some line → k ≤ line.length →
      doc.positionAt ⟨row, Text.byteOffset line.toList k⟩ = ⟨row, k⟩) ∧
    (∀ (row column k : Nat) (line : String), doc.lines[row]? = some line →
      Text.byteOffset line.toList k ≤ column → column < Text.byteOffset line.toList (k + 1) →
      doc.positionAt ⟨row, column⟩ = ⟨row, k⟩) ∧
    (∀ p : Point, doc.lines.length ≤ p.row → doc.positionAt p = ⟨p.row, 0⟩) ∧
    (∀ p q : Point, p ≤ q → doc.positionAt p ≤ doc.positionAt q) ∧
    ∀ node : Node, node.startPoint ≤ node.endPoint →
      ∃ range, node.range doc = .ok range ∧ range.start = doc.positionAt node.startPoint ∧
        range.stop = doc.positionAt node.endPoint := by
  refine ⟨?line, ?start, ?inside, fun p hp => positionAt_of_none (List.getElem?_eq_none hp),
    fun p q => doc.positionAt_mono, ?range⟩
  case line =>
    intro p line hline
    exact ⟨_, positionAt_eq hline, Text.countsWhole line.toList p.column⟩
  case start =>
    intro row k line hline hk
    rw [← String.length_toList] at hk
    have hposition : doc.positionAt ⟨row, Text.byteOffset line.toList k⟩ =
        ⟨row, Text.charactersWithin line.toList (Text.byteOffset line.toList k)⟩ :=
      positionAt_eq hline
    rwa [Text.charactersWithin_byteOffset hk] at hposition
  case inside =>
    intro row column k line hline hle hlt
    have hposition : doc.positionAt ⟨row, column⟩ =
        ⟨row, Text.charactersWithin line.toList column⟩ := positionAt_eq hline
    rwa [Text.charactersWithin_eq hle hlt] at hposition
  case range =>
    intro node hnode
    exact ⟨_, node.range_eq_ok doc hnode, rfl, rfl⟩

/-- Points inside a character of four bytes, behind it, past the end of its line and past the
document, and a node from the first of them to the last. -/
theorem positionAt_exact_cutCharacter :
    let doc : Document := .ofText "é='😀'\nb" ""
    let line := "é='😀'\n"
    let inside : Point := ⟨0, 6⟩
    let pastLine : Point := ⟨0, 99⟩
    let pastDoc : Point := ⟨4, 3⟩
    let node : Node := ⟨0, "string", true, false, none, 6, 42, inside, pastDoc, []⟩
    doc.lines[0]? = some line ∧ Text.byteOffset line.toList 3 = 4 ∧
    Text.byteOffset line.toList 4 = 8 ∧ doc.lines.length ≤ 4 ∧ pastLine ≤ pastDoc ∧
    node.startPoint ≤ node.endPoint ∧
    doc.positionAt inside = ⟨0, 3⟩ ∧ Text.CountsWhole line.toList 6 3 ∧
    doc.positionAt ⟨0, 8⟩ = ⟨0, 4⟩ ∧ doc.positionAt pastLine = ⟨0, 6⟩ ∧
    Text.CountsWhole line.toList 99 6 ∧ doc.positionAt pastDoc = ⟨4, 0⟩ ∧
    doc.positionAt pastLine ≤ doc.positionAt pastDoc ∧
    ∃ range, node.range doc = .ok range ∧ range.start = ⟨0, 3⟩ ∧ range.stop = ⟨4, 0⟩ := by
  intro doc line inside pastLine pastDoc node
  obtain ⟨hcounts, hstart, hinside, hmissing, hmono, hrange⟩ := doc.positionAt_exact
  have hline : doc.lines[0]? = some line := by decide
  have hthird : Text.byteOffset line.toList 3 = 4 := by decide
  have hfourth : Text.byteOffset line.toList 4 = 8 := by decide
  have hlength : doc.lines.length ≤ 4 := by decide
  have hpoints : pastLine ≤ pastDoc := by decide
  have hnode : node.startPoint ≤ node.endPoint := by decide
  have hcut := hinside 0 6 3 line hline (by decide) (by decide)
  have hbehind := hstart 0 4 line hline (by decide)
  have hpastLine : doc.positionAt pastLine = ⟨0, 6⟩ := by decide
  have hpastDoc := hmissing pastDoc hlength
  have hcount (column count : Nat) (hposition : doc.positionAt ⟨0, column⟩ = ⟨0, count⟩) :
      Text.CountsWhole line.toList column count := by
    obtain ⟨other, hother, hwhole⟩ := hcounts ⟨0, column⟩ line hline
    rw [hposition] at hother
    cases hother
    exact hwhole
  obtain ⟨range, hok, hfirst, hlast⟩ := hrange node hnode
  rw [hfourth] at hbehind
  exact ⟨hline, hthird, hfourth, hlength, hpoints, hnode, hcut, hcount 6 3 hcut, hbehind,
    hpastLine, hcount 99 6 hpastLine, hpastDoc, hmono _ _ hpoints, range, hok,
    hfirst.trans hcut, hlast.trans hpastDoc⟩

end CursorScope
