import CursorScope.Proofs.Agree
import CursorScope.RawDocument

/-!
# What has an encoding

A text of code points has an encoding exactly when none of them is a surrogate
(`Text.exists_encode_iff`), and the error in its place is about the first surrogates of the text
(`Text.firstIn_of_encode`). So a raw document has the document of its characters, or an error about
the first line that has surrogates (`RawDocument.encoded_cases`). A text of characters gives the
same document raw or not (`RawDocument.spells_ofText`).
-/

namespace CursorScope

/-! ## Texts -/

/-- A text of characters alone. -/
def Text.Plain (points : List CodePoint) : Prop := ∀ point ∈ points, point.isSurrogate = false

instance (points : List CodePoint) : Decidable (Text.Plain points) :=
  inferInstanceAs (Decidable (∀ point ∈ points, _))

/-- An error is about the first surrogates of a text. As many characters as the position says stand
before them, and they are as many as the error counts, with no other surrogate right behind. -/
def EncodingError.FirstIn (e : EncodingError) (points : List CodePoint) : Prop :=
  ∃ (cs : List Char) (others : List (Fin 2048)) (rest : List CodePoint),
    points = cs.map .char ++ .surrogate e.index :: (others.map .surrogate ++ rest) ∧
    e.position = cs.length ∧ e.count = others.length + 1 ∧
    ∀ point ∈ rest.head?, point.isSurrogate = false

theorem EncodingError.FirstIn.not_plain {e : EncodingError} {points : List CodePoint}
    (h : e.FirstIn points) : ¬ Text.Plain points := by
  obtain ⟨cs, others, rest, rfl, -⟩ := h
  intro hplain
  have hsurrogate := hplain (.surrogate e.index) (by simp)
  cases hsurrogate

namespace Text

variable {points : List CodePoint} {position : Nat} {cs : List Char} {text : String}
  {e : EncodingError}

theorem encodeFrom_map_char (position : Nat) (cs : List Char) :
    encodeFrom position (cs.map .char) = .ok cs := by
  induction cs generalizing position with
  | nil => rfl
  | cons c rest ih =>
      rw [List.map_cons, encodeFrom, ih]
      rfl

/-- The surrogates at the start of a text, and what follows them. -/
theorem exists_surrogates (points : List CodePoint) :
    ∃ (others : List (Fin 2048)) (rest : List CodePoint),
      points = others.map .surrogate ++ rest ∧
      (points.takeWhile (·.isSurrogate)).length = others.length ∧
      ∀ point ∈ rest.head?, point.isSurrogate = false := by
  induction points with
  | nil => exact ⟨[], [], rfl, rfl, by simp⟩
  | cons point points ih =>
      cases point with
      | char c => exact ⟨[], .char c :: points, rfl, rfl, by simp [CodePoint.isSurrogate]⟩
      | surrogate index =>
          obtain ⟨others, rest, hpoints, hlength, hrest⟩ := ih
          refine ⟨index :: others, rest, ?_, ?_, hrest⟩
          · rw [hpoints, List.map_cons, List.cons_append]
          · rw [List.takeWhile_cons_of_pos rfl, List.length_cons, hlength, List.length_cons]

/-- Code points are the characters that they are encoded as, or their first surrogates are in the
way. -/
theorem encodeFrom_cases (position : Nat) (points : List CodePoint) :
    (∃ cs, encodeFrom position points = .ok cs ∧ points = cs.map .char) ∨
    ∃ e : EncodingError, e.FirstIn points ∧
      encodeFrom position points = .error ⟨e.index, position + e.position, e.count⟩ := by
  induction points generalizing position with
  | nil => exact .inl ⟨[], rfl, rfl⟩
  | cons point points ih =>
      cases point with
      | char c =>
          rw [encodeFrom]
          rcases ih (position + 1) with
            ⟨cs, hcs, rfl⟩ | ⟨e, ⟨cs, others, rest, rfl, hposition, hfirst⟩, he⟩
          · exact .inl ⟨c :: cs, by rw [hcs]; rfl, rfl⟩
          · refine .inr ⟨⟨e.index, e.position + 1, e.count⟩, ?_, ?_⟩
            · exact ⟨c :: cs, others, rest, rfl, by rw [hposition, List.length_cons], hfirst⟩
            · rw [he, Nat.add_assoc, Nat.add_comm 1]
              rfl
      | surrogate index =>
          obtain ⟨others, rest, hpoints, hlength, hrest⟩ := exists_surrogates points
          refine .inr ⟨⟨index, 0, others.length + 1⟩, ?_, ?_⟩
          · exact ⟨[], others, rest, congrArg _ hpoints, rfl, rfl, hrest⟩
          · rw [encodeFrom, hlength]
            rfl

theorem firstIn_of_encode (h : encode points = .error e) : e.FirstIn points := by
  unfold encode at h
  rcases encodeFrom_cases 0 points with ⟨cs, hcs, -⟩ | ⟨first, hin, hfirst⟩
  · rw [hcs] at h
    cases h
  · rw [hfirst, Nat.zero_add] at h
    cases h
    exact hin

/-- A text is encoded as the text of its characters. -/
theorem encode_eq_ok_iff : encode points = .ok text ↔ points = codePoints text := by
  unfold encode codePoints
  constructor
  · intro h
    rcases encodeFrom_cases 0 points with ⟨cs, hcs, rfl⟩ | ⟨first, -, hfirst⟩
    · rw [hcs] at h
      cases h
      rw [String.toList_ofList]
    · rw [hfirst] at h
      cases h
  · rintro rfl
    rw [encodeFrom_map_char]
    exact congrArg Except.ok String.ofList_toList

theorem plain_codePoints (text : String) : Plain (codePoints text) := by
  intro point hpoint
  obtain ⟨c, -, rfl⟩ := List.mem_map.1 hpoint
  rfl

/-- A text has an encoding exactly when it has no surrogate. -/
theorem exists_encode_iff : (∃ text, encode points = .ok text) ↔ Plain points := by
  constructor
  · rintro ⟨text, h⟩
    rw [encode_eq_ok_iff.1 h]
    exact plain_codePoints text
  · intro hplain
    cases h : encode points with
    | ok text => exact ⟨text, rfl⟩
    | error e => exact absurd hplain (firstIn_of_encode h).not_plain

/-! ## Lines -/

/-- Lines of characters are split where the characters are. -/
theorem codePointLines_map_char (cs : List Char) :
    codePointLines (cs.map .char) = (lines cs).map (List.map .char) := by
  induction cs with
  | nil => rfl
  | cons c rest ih =>
      rw [List.map_cons, codePointLines, lines, ih]
      simp only [CodePoint.char.injEq]
      split
      · next hc => rw [hc, List.map_cons, List.map_singleton]
      · cases lines rest <;> rfl

theorem flatten_codePointLines (points : List CodePoint) :
    (codePointLines points).flatten = points := by
  induction points with
  | nil => rfl
  | cons point rest ih =>
      rw [codePointLines]
      split
      · rw [List.flatten_cons, ih, List.singleton_append]
      · cases h : codePointLines rest with
        | nil =>
            rw [h] at ih
            rw [← ih]
            rfl
        | cons line following =>
            rw [h] at ih
            rw [← ih]
            rfl

end Text

/-! ## Documents -/

namespace RawDocument

variable {doc : RawDocument} {encoded : Document} {e : EncodingError}

/-- The lines of a raw document have an encoding. -/
def Encodable (doc : RawDocument) : Prop := ∀ line ∈ doc.lines, Text.Plain line

instance (doc : RawDocument) : Decidable doc.Encodable :=
  inferInstanceAs (Decidable (∀ line ∈ doc.lines, _))

/-- A raw document has the lines of a document, and comes from the same place. -/
def Spells (doc : RawDocument) (encoded : Document) : Prop :=
  doc.lines = encoded.lines.map Text.codePoints ∧ doc.uri = encoded.uri

/-- An error is about the first surrogates of the first line that has any. -/
def FirstError (doc : RawDocument) (e : EncodingError) : Prop :=
  ∃ before line after, doc.lines = before ++ line :: after ∧
    (∀ other ∈ before, Text.Plain other) ∧ e.FirstIn line

theorem FirstError.not_encodable (h : doc.FirstError e) : ¬ doc.Encodable := by
  obtain ⟨before, line, after, hlines, -, hfirst⟩ := h
  exact fun hdoc => hfirst.not_plain (hdoc line (by simp [hlines]))

/-- Lines are encoded as texts with the same characters, or the first line that has surrogates is in
the way. -/
theorem mapM_encode_cases (lines : List (List CodePoint)) :
    (∃ texts, lines.mapM Text.encode = .ok texts ∧ lines = texts.map Text.codePoints) ∨
    ∃ e, lines.mapM Text.encode = .error e ∧ ∃ before line after, lines = before ++ line :: after ∧
      (∀ other ∈ before, Text.Plain other) ∧ e.FirstIn line := by
  induction lines with
  | nil => exact .inl ⟨[], rfl, rfl⟩
  | cons line rest ih =>
      rw [List.mapM_cons]
      cases hline : Text.encode line with
      | error e => exact .inr ⟨e, rfl, [], line, rest, rfl, by simp, Text.firstIn_of_encode hline⟩
      | ok text =>
          have htext := Text.encode_eq_ok_iff.1 hline
          rcases ih with ⟨texts, htexts, rfl⟩ | ⟨e, he, before, bad, after, rfl, hbefore, hfirst⟩
          · exact .inl ⟨text :: texts, by rw [htexts]; rfl, by rw [htext]; rfl⟩
          · refine .inr ⟨e, by rw [he]; rfl, line :: before, bad, after, rfl, ?_, hfirst⟩
            exact List.forall_mem_cons.2 ⟨htext ▸ Text.plain_codePoints text, hbefore⟩

/-- A raw document has the document of its characters, or the first of its surrogates are in the
way. -/
theorem encoded_cases (doc : RawDocument) :
    (∃ encoded, doc.encoded = .ok encoded ∧ doc.Spells encoded) ∨
    ∃ e, doc.encoded = .error e ∧ doc.FirstError e := by
  unfold encoded
  rcases mapM_encode_cases doc.lines with ⟨texts, htexts, hlines⟩ | ⟨e, he, hfirst⟩
  · exact .inl ⟨⟨texts, doc.uri⟩, by rw [htexts]; rfl, hlines, rfl⟩
  · exact .inr ⟨e, by rw [he]; rfl, hfirst⟩

/-- A document of a raw document has its characters. -/
theorem spells_of_encoded (h : doc.encoded = .ok encoded) : doc.Spells encoded := by
  rcases doc.encoded_cases with ⟨other, hother, hspells⟩ | ⟨e, he, -⟩
  · cases h.symm.trans hother
    exact hspells
  · cases h.symm.trans he

theorem Spells.encodable (h : doc.Spells encoded) : doc.Encodable := by
  intro line hline
  rw [h.1] at hline
  obtain ⟨text, -, rfl⟩ := List.mem_map.1 hline
  exact Text.plain_codePoints text

/-- A text of characters gives the same document raw or not. -/
theorem spells_ofText (text uri : String) :
    (ofText (Text.codePoints text) uri).Spells (.ofText text uri) := by
  refine ⟨?_, rfl⟩
  show Text.codePointLines _ = (Text.splitLines text).map _
  rw [Text.codePoints, Text.codePointLines_map_char, Text.splitLines, List.map_map]
  refine List.map_congr_left fun line _ => ?_
  show _ = (String.ofList line).toList.map _
  rw [String.toList_ofList]

/-- The lines of a text have an encoding exactly when the text has one. -/
theorem encodable_ofText_iff (content : List CodePoint) (uri : String) :
    (ofText content uri).Encodable ↔ Text.Plain content := by
  have hcontent := Text.flatten_codePointLines content
  show (∀ line ∈ Text.codePointLines content, ∀ point ∈ line, _) ↔ _
  rw [← List.forall_mem_flatten, hcontent]
  rfl

end RawDocument

end CursorScope
