import CursorScope.Text.Quoted

/-!
# Control characters

Control characters move the cursor of a terminal or change its state. `showControls` writes them
by their hexadecimal codes, so that a line that repeats foreign words stays one line. Nothing else
changes, and no control character remains.
-/

namespace CursorScope.Text

/-- The control characters: the first 32, the delete character, and the 32 from U+0080 on. -/
def isControl (c : Char) : Bool := c.toNat < 0x20 || 0x7F ≤ c.toNat && c.toNat ≤ 0x9F

/-- The written form of a character in a line of text. -/
def shownForm (c : Char) : List Char := if isControl c then codeForm c else [c]

/-- The text with its control characters written by their codes. -/
def showControls (text : String) : String := .ofList (text.toList.flatMap shownForm)

theorem shownForm_of_not_isControl {c : Char} (h : isControl c = false) : shownForm c = [c] := by
  simp [shownForm, h]

/-- The code of a control character is written by visible characters. -/
theorem not_isControl_of_mem_shownForm {c d : Char} (h : d ∈ shownForm c) :
    isControl d = false := by
  cases hc : isControl c with
  | false =>
      rw [shownForm_of_not_isControl hc, List.mem_singleton] at h
      rw [h, hc]
  | true =>
      have hbound : c.toNat < 0xA0 := by
        simp only [isControl, Bool.or_eq_true, Bool.and_eq_true, decide_eq_true_eq] at hc
        omega
      have hform : shownForm c = '\\' :: 'x' :: hexDigits 2 c.toNat := by
        simp [shownForm, hc, codeForm, Nat.lt_trans hbound (by decide : 0xA0 < 0x100)]
      have hcodes : (List.range 0xA0).all
          fun n => ('\\' :: 'x' :: hexDigits 2 n).all (!isControl ·) := by
        decide +kernel
      rw [hform] at h
      have hcode := List.all_eq_true.1 (List.all_eq_true.1 hcodes _ (List.mem_range.2 hbound)) _ h
      simpa using hcode

/-- A text without control characters is shown as it is. -/
theorem showControls_eq_self {text : String} (h : ∀ c ∈ text.toList, isControl c = false) :
    showControls text = text := by
  have hforms : text.toList.flatMap shownForm = text.toList := by
    rw [List.flatMap_def,
      List.map_congr_left fun c hc => shownForm_of_not_isControl (h c hc), ← List.flatMap_def]
    exact List.flatMap_singleton' _
  rw [showControls, hforms, String.ofList_toList]

end CursorScope.Text
