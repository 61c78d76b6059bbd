/-!
# Byte columns

A syntax tree counts columns in bytes of the UTF-8 form of a line, a position counts characters.
`charactersWithin` is the number of characters that lie wholly inside the first bytes of a line:
it grows with the number of bytes (`charactersWithin_mono`), never exceeds the length of the line,
and rounds down inside a character.
-/

namespace CursorScope.Text

/-- The number of leading characters whose UTF-8 forms fit into `bytes` bytes together. -/
def charactersWithin : List Char → Nat → Nat
  | [], _ => 0
  | c :: rest, bytes =>
      if c.utf8Size ≤ bytes then charactersWithin rest (bytes - c.utf8Size) + 1 else 0

theorem charactersWithin_le_length (cs : List Char) (bytes : Nat) :
    charactersWithin cs bytes ≤ cs.length := by
  induction cs generalizing bytes with
  | nil => exact Nat.le_refl 0
  | cons c rest ih =>
      rw [charactersWithin, List.length_cons]
      split
      · exact Nat.succ_le_succ (ih _)
      · exact Nat.zero_le _

theorem charactersWithin_mono (cs : List Char) {few many : Nat} (h : few ≤ many) :
    charactersWithin cs few ≤ charactersWithin cs many := by
  induction cs generalizing few many with
  | nil => exact Nat.le_refl 0
  | cons c rest ih =>
      rw [charactersWithin, charactersWithin]
      split
      · rw [if_pos (by omega)]
        exact Nat.succ_le_succ (ih (by omega))
      · exact Nat.zero_le _

end CursorScope.Text
