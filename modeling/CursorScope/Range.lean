import CursorScope.Position

/-!
# Ranges of a document

A range runs from a start position to a stop position that is not before it; the order is part
of the type. Integers enter through `Position.ofInts` and `Range.ofInts`, which refuse negative
coordinates and a stop before the start. `Range.contains` includes both boundaries, so a cursor
that sits on either end of a range is inside it.
-/

namespace CursorScope

/-- The two coordinates of a position. -/
inductive Coordinate where
  | line
  | character
  deriving DecidableEq, Repr

/-- Why four integers are not a range: some coordinates of one position are negative, or the
range stops before it starts. -/
inductive RangeError where
  | negative (coordinates : List Coordinate)
  | reversed (start stop : Position)
  deriving DecidableEq, Repr

namespace RangeError

/-- The text of the complaint about any integer that has to be natural. -/
def negativeText : String := "Input should be greater than or equal to 0"

/-- The text of a range error. -/
def message : RangeError → String
  | .negative _ => negativeText
  | .reversed start stop => s!"Range end {stop.pairText} precedes start {start.pairText}"

end RangeError

/-- The negative coordinates among a line and a character, the line first. -/
def Coordinate.negatives (line character : Int) : List Coordinate :=
  (if line < 0 then [.line] else []) ++ if character < 0 then [.character] else []

/-- The position of two integers, both of which have to be natural. -/
def Position.ofInts (line character : Int) : Except RangeError Position :=
  match Coordinate.negatives line character with
  | [] => .ok ⟨line.toNat, character.toNat⟩
  | coordinates => .error (.negative coordinates)

theorem Position.ofInts_natCast (line character : Nat) :
    Position.ofInts line character = .ok ⟨line, character⟩ := by
  have hline : ¬ (line : Int) < 0 := by omega
  have hcharacter : ¬ (character : Int) < 0 := by omega
  simp [Position.ofInts, Coordinate.negatives, hline, hcharacter]

/-- A stretch of a document, from `start` up to and without the character at `stop`. -/
structure Range where
  start : Position
  stop : Position
  start_le_stop : start ≤ stop
  deriving DecidableEq

namespace Range

/-- The range between two positions, which have to be in order. -/
def between (start stop : Position) : Except RangeError Range :=
  if h : start ≤ stop then .ok ⟨start, stop, h⟩ else .error (.reversed start stop)

/-- The range of four integers. The start is checked before the stop, and the order last. -/
def ofInts (startLine startCharacter stopLine stopCharacter : Int) : Except RangeError Range := do
  let start ← Position.ofInts startLine startCharacter
  let stop ← Position.ofInts stopLine stopCharacter
  between start stop

/-- The range from `start` to the later of `start` and `stop`. -/
def upTo (start stop : Position) : Range :=
  ⟨start, max start stop, Position.le_max_left start stop⟩

/-- The empty range at a position. -/
def cursor (p : Position) : Range := ⟨p, p, Position.le_refl p⟩

/-- A range is empty when it stops where it starts. -/
def isEmpty (r : Range) : Bool := r.start == r.stop

/-- The number of lines that a range touches. -/
def lineCount (r : Range) : Nat := r.stop.line - r.start.line + 1

/-- One range contains another when it starts no later and stops no earlier. -/
def contains (outer inner : Range) : Bool :=
  decide (outer.start ≤ inner.start) && decide (inner.stop ≤ outer.stop)

/-- One range strictly contains another when it contains it and differs from it. -/
def strictlyContains (outer inner : Range) : Bool :=
  outer.contains inner && outer != inner

/-- A range stops on no earlier line than it starts on. -/
theorem line_start_le_stop (r : Range) : r.start.line ≤ r.stop.line :=
  Position.line_le r.start_le_stop

theorem between_eq_ok {start stop : Position} (h : start ≤ stop) :
    between start stop = .ok ⟨start, stop, h⟩ := dif_pos h

theorem between_eq_error {start stop : Position} (h : ¬ start ≤ stop) :
    between start stop = .error (.reversed start stop) := dif_neg h

@[simp] theorem start_upTo (start stop : Position) : (upTo start stop).start = start := rfl

theorem stop_upTo {start stop : Position} (h : start ≤ stop) : (upTo start stop).stop = stop :=
  Position.max_eq_right h

theorem contains_iff {outer inner : Range} :
    outer.contains inner ↔ outer.start ≤ inner.start ∧ inner.stop ≤ outer.stop := by
  simp [contains]

theorem contains_refl (r : Range) : r.contains r :=
  contains_iff.2 ⟨Position.le_refl _, Position.le_refl _⟩

theorem contains_trans {a b c : Range} (hab : a.contains b) (hbc : b.contains c) :
    a.contains c := by
  rw [contains_iff] at *
  exact ⟨Position.le_trans hab.1 hbc.1, Position.le_trans hbc.2 hab.2⟩

theorem strictlyContains_iff {outer inner : Range} :
    outer.strictlyContains inner ↔ outer.contains inner ∧ outer ≠ inner := by
  simp [strictlyContains]

end Range

end CursorScope
