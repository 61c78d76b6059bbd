import CursorScope.Proofs.Safety
import CursorScope.Proofs.WholeFile
import Mathlib.Order.Bounds.Defs

/-!
# Clamping

A document has the positions on its lines that are not past the width of their line. Clamping takes
a position to the greatest of them that is not after it (`Document.isGreatest_clampPosition`), and
what else is to say of clamped ranges follows from that (`Document.ClampsOnto`). A finder does not
tell a target from the clamped one (`Finder.extract_clamp`). The statement on all documents, the
empty one included, is `Finder.clamp_retracts`.
-/

namespace CursorScope

namespace Document

variable {doc : Document}

/-! ## Positions of a document -/

/-- The line of the position exists, and the position is not past its width. -/
def HasPosition (doc : Document) (p : Position) : Prop :=
  ∃ line ∈ doc.lines[p.line]?, p.character ≤ Text.lineWidth line

theorem character_endPosition (h : doc.lines ≠ []) :
    doc.endPosition.character = Text.lineWidth (doc.lines.getLast h) := by
  rw [endPosition, List.getLast?_eq_some_getLast h]

/-- A position of a document is not after its end. -/
theorem HasPosition.le_endPosition {p : Position} (h : doc.HasPosition p) :
    p ≤ doc.endPosition := by
  obtain ⟨line, hline, hwidth⟩ := h
  obtain ⟨hrow, heq⟩ := List.getElem?_eq_some_iff.1 hline
  have hne : doc.lines ≠ [] := List.ne_nil_of_length_pos (Nat.zero_lt_of_lt hrow)
  rw [Position.le_def, line_endPosition, character_endPosition hne]
  by_cases hlast : p.line = doc.lines.length - 1
  · refine .inr ⟨hlast, ?_⟩
    have hsame : line = doc.lines.getLast hne := by
      rw [List.getLast_eq_getElem, ← heq]
      simp only [hlast]
    rwa [← hsame]
  · left
    omega

theorem hasPosition_endPosition (h : doc.lines ≠ []) : doc.HasPosition doc.endPosition := by
  refine ⟨doc.lines.getLast h, ?_, Nat.le_of_eq (character_endPosition h)⟩
  rw [line_endPosition, ← List.getLast?_eq_getElem?, List.getLast?_eq_some_getLast h]
  rfl

/-- Clamping goes to the greatest position of the document that is not after the given one. -/
theorem isGreatest_clampPosition (h : doc.lines ≠ []) (p : Position) :
    IsGreatest {q | doc.HasPosition q ∧ q ≤ p} (doc.clampPosition p) := by
  cases hline : doc.lines[p.line]? with
  | some line =>
      rw [clampPosition_eq hline]
      refine ⟨⟨⟨line, hline, Nat.min_le_right _ _⟩, .inr ⟨rfl, Nat.min_le_left _ _⟩⟩, ?_⟩
      rintro q ⟨⟨other, hother, hwidth⟩, hle⟩
      rcases hle with hrow | ⟨hrow, hcharacter⟩
      · exact .inl hrow
      · rw [hrow, hline] at hother
        cases hother
        exact .inr ⟨hrow, Nat.le_min.2 ⟨hcharacter, hwidth⟩⟩
  | none =>
      rw [clampPosition_eq_endPosition hline]
      obtain ⟨_, hlast, -⟩ := hasPosition_endPosition h
      have hrow := (List.getElem?_eq_some_iff.1 hlast).1
      have hpast := List.getElem?_eq_none_iff.1 hline
      refine ⟨⟨hasPosition_endPosition h, .inl (Nat.lt_of_lt_of_le hrow hpast)⟩, ?_⟩
      exact fun q hq => hq.1.le_endPosition

/-! ## What follows for positions -/

theorem clampPosition_eq_self {p : Position} (h : doc.HasPosition p) : doc.clampPosition p = p := by
  obtain ⟨line, hline, hwidth⟩ := h
  rw [clampPosition_eq hline, Nat.min_eq_left hwidth]

theorem clampPosition_of_nil (h : doc.lines = []) (p : Position) :
    doc.clampPosition p = ⟨0, 0⟩ := by
  simp [clampPosition, endPosition, h]

theorem clampPosition_mono (doc : Document) {p q : Position} (h : p ≤ q) :
    doc.clampPosition p ≤ doc.clampPosition q := by
  by_cases hdoc : doc.lines = []
  · rw [clampPosition_of_nil hdoc, clampPosition_of_nil hdoc]
    exact Position.le_refl _
  · obtain ⟨hhas, hle⟩ := (isGreatest_clampPosition hdoc p).1
    exact (isGreatest_clampPosition hdoc q).2 ⟨hhas, Position.le_trans hle h⟩

theorem clampPosition_clampPosition (doc : Document) (p : Position) :
    doc.clampPosition (doc.clampPosition p) = doc.clampPosition p := by
  by_cases hdoc : doc.lines = []
  · rw [clampPosition_of_nil hdoc, clampPosition_of_nil hdoc]
  · exact clampPosition_eq_self (isGreatest_clampPosition hdoc p).1.1

/-! ## Clamped ranges -/

/-- The later of the clamped ends is always the clamped stop. -/
theorem between_clampPosition (doc : Document) (range : Range) :
    Range.between (doc.clampPosition range.start) (doc.clampPosition range.stop) =
      .ok (doc.clamp range) := by
  have hle := doc.clampPosition_mono range.start_le_stop
  rw [Range.between_eq_ok hle]
  simp only [clamp, Range.upTo, Position.max_eq_right hle]

theorem stop_clamp (doc : Document) (range : Range) :
    (doc.clamp range).stop = doc.clampPosition range.stop :=
  Range.stop_upTo (doc.clampPosition_mono range.start_le_stop)

theorem clamp_eq_self {range : Range} (hstart : doc.HasPosition range.start)
    (hstop : doc.HasPosition range.stop) : doc.clamp range = range := by
  have hbetween := doc.between_clampPosition range
  rw [clampPosition_eq_self hstart, clampPosition_eq_self hstop,
    Range.between_eq_ok range.start_le_stop] at hbetween
  exact (Except.ok.inj hbetween).symm

theorem clamp_clamp (doc : Document) (range : Range) :
    doc.clamp (doc.clamp range) = doc.clamp range := by
  have hstart : (doc.clamp range).start = doc.clampPosition range.start := rfl
  have hbetween := doc.between_clampPosition (doc.clamp range)
  rw [stop_clamp, hstart, clampPosition_clampPosition, clampPosition_clampPosition,
    between_clampPosition] at hbetween
  exact (Except.ok.inj hbetween).symm

theorem clamp_contains_clamp (doc : Document) {outer inner : Range}
    (h : outer.contains inner = true) : (doc.clamp outer).contains (doc.clamp inner) = true := by
  obtain ⟨hstart, hstop⟩ := Range.contains_iff.1 h
  rw [Range.contains_iff, stop_clamp, stop_clamp]
  exact ⟨doc.clampPosition_mono hstart, doc.clampPosition_mono hstop⟩

/-- Clamping is the retraction of all ranges onto those between positions of the document. Both ends
go to the greatest positions of the document that are not after them, and these are in order. -/
structure ClampsOnto (doc : Document) : Prop where
  start : ∀ range,
    IsGreatest {p | doc.HasPosition p ∧ p ≤ range.start} (doc.clamp range).start
  stop : ∀ range, IsGreatest {p | doc.HasPosition p ∧ p ≤ range.stop} (doc.clamp range).stop
  inOrder : ∀ range,
    Range.between (doc.clampPosition range.start) (doc.clampPosition range.stop) =
      .ok (doc.clamp range)
  eq_self : ∀ range, doc.HasPosition range.start → doc.HasPosition range.stop →
    doc.clamp range = range
  idempotent : ∀ range, doc.clamp (doc.clamp range) = doc.clamp range
  monotone : ∀ outer inner, outer.contains inner = true →
    (doc.clamp outer).contains (doc.clamp inner) = true

theorem clampsOnto (h : doc.lines ≠ []) : doc.ClampsOnto where
  start range := isGreatest_clampPosition h range.start
  stop range := by
    rw [stop_clamp]
    exact isGreatest_clampPosition h range.stop
  inOrder := doc.between_clampPosition
  eq_self _ := clamp_eq_self
  idempotent := doc.clamp_clamp
  monotone _ _ := doc.clamp_contains_clamp

theorem clamp_of_nil (h : doc.lines = []) (range : Range) : doc.clamp range = .cursor ⟨0, 0⟩ := by
  unfold clamp
  rw [clampPosition_of_nil h, clampPosition_of_nil h]
  rfl

end Document

/-! ## Finders clamp their targets -/

theorem Classifier.contextAt_clamp (classifier : Classifier) (tree : Tree) (doc : Document)
    (target : Range) :
    classifier.contextAt tree doc (doc.clamp target) = classifier.contextAt tree doc target := by
  unfold contextAt
  rw [Document.clamp_clamp]

namespace Finder

variable (finder : Finder) (doc : Document) (answer : ParserAnswer) (target : Range)

theorem collectContext_clamp :
    finder.collectContext doc answer (doc.clamp target) =
      finder.collectContext doc answer target := by
  unfold collectContext contextIn
  simp only [Classifier.contextAt_clamp]

/-- A finder does the same for a target and for the clamped one, the records included. -/
theorem extract_clamp (maxLines : Option Int) :
    finder.extract doc answer (doc.clamp target) maxLines =
      finder.extract doc answer target maxLines := by
  unfold extract
  rw [collectContext_clamp, Document.clamp_clamp]

theorem target_of_extract {maxLines : Option Int} {e : Excerpt}
    (h : (finder.extract doc answer target maxLines).value = .ok e) :
    e.target = doc.clamp target := by
  obtain ⟨context, -, he⟩ := finder.exists_context_of_extract answer target h
  exact Context.target_of_excerpt he

/-- On a document with lines, clamping is the retraction onto the positions of the document, and on
the empty document it goes to the start. On either, a finder does the same for a target and for the
clamped one, and the target of each of its excerpts is the clamped one. -/
theorem clamp_retracts (doc : Document) :
    (doc.lines ≠ [] → doc.ClampsOnto) ∧
    (doc.lines = [] → ∀ range, doc.clamp range = .cursor ⟨0, 0⟩) ∧
    ∀ (finder : Finder) (answer : ParserAnswer) (target : Range) (maxLines : Option Int),
      finder.extract doc answer (doc.clamp target) maxLines =
        finder.extract doc answer target maxLines ∧
      ∀ e, (finder.extract doc answer target maxLines).value = .ok e →
        e.target = doc.clamp target := by
  refine ⟨Document.clampsOnto, Document.clamp_of_nil, fun finder answer target maxLines => ?_⟩
  exact ⟨finder.extract_clamp doc answer target maxLines,
    fun _ => finder.target_of_extract doc answer target⟩

end Finder

/-- A target that starts past the carriage returns of a line and stops past the last line, around a
function that reaches past the end of its file. -/
theorem clamp_retracts_strayFunction :
    let doc : Document := .ofText "func f() \x7b\r\r\n\n\r\n\x7d" ""
    let target : Range := ⟨⟨0, 11⟩, ⟨9, 0⟩, by decide⟩
    let inner : Range := ⟨⟨1, 4⟩, ⟨2, 1⟩, by decide⟩
    let clamped : Range := ⟨⟨0, 10⟩, ⟨3, 1⟩, by decide⟩
    let finder : Finder := ⟨.go, .default⟩
    let answer : ParserAnswer := .parsed ⟨strayFunction, false⟩
    doc.lines ≠ [] ∧ doc.clamp target = clamped ∧
      IsGreatest {p | doc.HasPosition p ∧ p ≤ ⟨0, 11⟩} ⟨0, 10⟩ ∧
      IsGreatest {p | doc.HasPosition p ∧ p ≤ ⟨9, 0⟩} ⟨3, 1⟩ ∧
      doc.HasPosition ⟨0, 10⟩ ∧ doc.HasPosition ⟨3, 1⟩ ∧ doc.clamp clamped = clamped ∧
      target.contains inner = true ∧ clamped.contains (doc.clamp inner) = true ∧
      (Document.ofText "" "").clamp target = .cursor ⟨0, 0⟩ ∧
      ∃ e, (finder.extract doc answer target none).value = .ok e ∧ e.target = clamped ∧
        (finder.extract doc answer clamped none).value = .ok e := by
  intro doc target inner clamped finder answer
  obtain ⟨hclamps, -, hextract⟩ := Finder.clamp_retracts doc
  obtain ⟨-, hempty, -⟩ := Finder.clamp_retracts (.ofText "" "")
  obtain ⟨hsame, htarget⟩ := hextract finder answer target none
  have hdoc : doc.lines ≠ [] := by decide
  have hclamped : doc.clamp target = clamped := by decide
  have hstart : doc.HasPosition ⟨0, 10⟩ := ⟨"func f() \x7b\r\r\n", rfl, by decide⟩
  have hstop : doc.HasPosition ⟨3, 1⟩ := ⟨"\x7d", rfl, by decide⟩
  have hvalue : (finder.extract doc answer target none).value =
      .ok ⟨⟨[⟨0, .functionDecl, "func", "", true, ⟨⟨0, 0⟩, ⟨9, 0⟩, by decide⟩⟩], [], []⟩, [],
        "func f() \x7b\r\r\n\n\r\n\x7d", ⟨⟨0, 0⟩, ⟨3, 1⟩, by decide⟩, clamped, false⟩ := by
    decide +kernel
  have hstartGreatest := (hclamps hdoc).start target
  have hstopGreatest := (hclamps hdoc).stop target
  have hinside : target.contains inner = true := by decide
  have hmonotone := (hclamps hdoc).monotone target inner hinside
  rw [hclamped] at hstartGreatest hstopGreatest hmonotone hsame
  have hself := (hclamps hdoc).eq_self clamped hstart hstop
  have hfirst := hempty rfl target
  refine ⟨hdoc, hclamped, hstartGreatest, hstopGreatest, hstart, hstop, hself, hinside, hmonotone,
    hfirst, _, hvalue, ?_, ?_⟩
  · rw [htarget _ hvalue, hclamped]
  · rw [hsame, hvalue]

end CursorScope
