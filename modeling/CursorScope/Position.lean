/-!
# Positions in a document

A position is a zero-based line together with a character on it, counted in code points.
Positions are ordered by line first. The order is total, and `max` picks the later position.
-/

namespace CursorScope

/-- A place in a document: a zero-based line and a zero-based character on that line. -/
structure Position where
  line : Nat
  character : Nat
  deriving DecidableEq, Repr, Inhabited

namespace Position

/-- Positions are compared by line, and on one line by character. -/
instance : LE Position :=
  ⟨fun p q => p.line < q.line ∨ p.line = q.line ∧ p.character ≤ q.character⟩

/-- One position is before another when its line is, or its character on the same line. -/
instance : LT Position :=
  ⟨fun p q => p.line < q.line ∨ p.line = q.line ∧ p.character < q.character⟩

theorem le_def {p q : Position} :
    p ≤ q ↔ p.line < q.line ∨ p.line = q.line ∧ p.character ≤ q.character := Iff.rfl

theorem lt_def {p q : Position} :
    p < q ↔ p.line < q.line ∨ p.line = q.line ∧ p.character < q.character := Iff.rfl

instance (p q : Position) : Decidable (p ≤ q) := decidable_of_iff _ le_def.symm

instance (p q : Position) : Decidable (p < q) := decidable_of_iff _ lt_def.symm

/-- The later of two positions. -/
instance : Max Position := maxOfLe

theorem le_refl (p : Position) : p ≤ p := .inr ⟨rfl, Nat.le_refl _⟩

theorem le_trans {p q r : Position} (hpq : p ≤ q) (hqr : q ≤ r) : p ≤ r := by
  rw [le_def] at *
  omega

/-- A later position is on no earlier line. -/
theorem line_le {p q : Position} (h : p ≤ q) : p.line ≤ q.line := by
  rw [le_def] at h
  omega

theorem le_antisymm {p q : Position} (hpq : p ≤ q) (hqp : q ≤ p) : p = q := by
  cases p
  cases q
  simp only [le_def] at hpq hqp
  simp only [mk.injEq]
  omega

theorem le_total (p q : Position) : p ≤ q ∨ q ≤ p := by
  simp only [le_def]
  omega

theorem not_le {p q : Position} : ¬ p ≤ q ↔ q < p := by
  rw [le_def, lt_def]
  omega

theorem le_max_left (p q : Position) : p ≤ max p q := by
  show p ≤ if p ≤ q then q else p
  split
  · assumption
  · exact le_refl p

theorem le_max_right (p q : Position) : q ≤ max p q := by
  show q ≤ if p ≤ q then q else p
  split
  · exact le_refl q
  · exact (le_total p q).resolve_left ‹_›

theorem max_eq_right {p q : Position} (h : p ≤ q) : max p q = q := by
  show (if p ≤ q then q else p) = q
  rw [if_pos h]

/-- The written form of a position in messages: line and character in parentheses. -/
def pairText (p : Position) : String :=
  s!"({p.line}, {p.character})"

end Position

end CursorScope
