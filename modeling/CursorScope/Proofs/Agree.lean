import CursorScope.Describe.Basic
import Mathlib.Data.List.Forall2

/-!
# Two runs that agree

`Agree related x y` says that two computations both have a result, and that the results are
related. The rules below lead such an agreement through sequences of computations and through
lists, so that one walk over a rule of description shows both that the rule never fails and what
it depends on. `AgreeOrFail` allows that both computations fail, in the same way. A
`Text.Congruence` is a relation of texts that the rules cannot break. What led to a result of a
single computation is read off by `Except.bind_eq_ok_iff` and `Except.exists_of_mem_mapM`.
-/

/-- Related options are both empty, or both hold values, which are related. -/
theorem Option.Rel.cases {α β : Type} {related : α → β → Prop} {x : Option α} {y : Option β}
    (h : Option.Rel related x y) :
    (x = .none ∧ y = .none) ∨ ∃ a b, x = .some a ∧ y = .some b ∧ related a b := by
  cases h with
  | none => exact .inl ⟨rfl, rfl⟩
  | some hab => exact .inr ⟨_, _, rfl, rfl, hab⟩

/-- A sequence of computations has a result exactly when the first one has one that the next one
goes on from. -/
theorem Except.bind_eq_ok_iff {ε α β : Type} {x : Except ε α} {f : α → Except ε β} {b : β} :
    x >>= f = .ok b ↔ ∃ a, x = .ok a ∧ f a = .ok b := by
  constructor
  · intro h
    cases x with
    | error e => cases h
    | ok a => exact ⟨a, rfl, h⟩
  · rintro ⟨a, rfl, h⟩
    exact h

/-- Each result of a computation for all elements is the result for one of them. -/
theorem Except.exists_of_mem_mapM {ε ι α : Type} {f : ι → Except ε α} {is : List ι} {as : List α}
    (h : is.mapM f = .ok as) {a : α} (ha : a ∈ as) : ∃ i ∈ is, f i = .ok a := by
  induction is generalizing as with
  | nil =>
      cases h
      cases ha
  | cons i is ih =>
      rw [List.mapM_cons] at h
      obtain ⟨first, hfirst, h⟩ := Except.bind_eq_ok_iff.1 h
      obtain ⟨rest, hrest, h⟩ := Except.bind_eq_ok_iff.1 h
      cases h
      rcases List.mem_cons.1 ha with rfl | ha
      · exact ⟨i, List.mem_cons_self, hfirst⟩
      · obtain ⟨j, hj, hresult⟩ := ih hrest ha
        exact ⟨j, List.mem_cons_of_mem _ hj, hresult⟩

namespace CursorScope

/-- Both computations have a result, and the results are related. -/
def Agree {ε α β : Type} (related : α → β → Prop) (x : Except ε α) (y : Except ε β) : Prop :=
  ∃ a b, x = .ok a ∧ y = .ok b ∧ related a b

namespace Agree

variable {ε α β γ δ : Type} {related : α → β → Prop} {next : γ → δ → Prop}
  {x : Except ε α} {y : Except ε β}

theorem ok {a : α} {b : β} (h : related a b) :
    Agree related (.ok a : Except ε α) (.ok b) := ⟨a, b, rfl, rfl, h⟩

/-- Computations go on in agreement when their continuations take related values to computations
that agree. -/
theorem bind (h : Agree related x y) {f : α → Except ε γ} {g : β → Except ε δ}
    (hfg : ∀ a b, related a b → Agree next (f a) (g b)) : Agree next (x >>= f) (y >>= g) := by
  obtain ⟨a, b, rfl, rfl, hab⟩ := h
  exact hfg a b hab

theorem map (h : Agree related x y) {f : α → γ} {g : β → δ}
    (hfg : ∀ a b, related a b → next (f a) (g b)) : Agree next (f <$> x) (g <$> y) := by
  obtain ⟨a, b, rfl, rfl, hab⟩ := h
  exact ok (hfg a b hab)

theorem mapM {ι κ : Type} {pairs : ι → κ → Prop} {f : ι → Except ε α} {g : κ → Except ε β}
    {is : List ι} {ks : List κ} (h : List.Forall₂ pairs is ks)
    (hfg : ∀ i k, pairs i k → Agree related (f i) (g k)) :
    Agree (List.Forall₂ related) (is.mapM f) (ks.mapM g) := by
  induction h with
  | nil => exact ok .nil
  | cons hik _ ih =>
      rw [List.mapM_cons, List.mapM_cons]
      refine (hfg _ _ hik).bind fun a b hab => ih.bind fun as bs habs => ?_
      exact ok (.cons hab habs)

/-- Agreement with oneself is success. -/
theorem exists_ok (h : Agree related x y) : ∃ a, x = .ok a := by
  obtain ⟨a, _, hx, _⟩ := h
  exact ⟨a, hx⟩

end Agree

/-- Both computations fail in the same way, or both have a result, and the results are related. -/
inductive AgreeOrFail {ε α β : Type} (related : α → β → Prop) : Except ε α → Except ε β → Prop where
  | fail (e : ε) : AgreeOrFail related (.error e) (.error e)
  | ok {a : α} {b : β} (h : related a b) : AgreeOrFail related (.ok a) (.ok b)

theorem AgreeOrFail.exists_of_ok {ε α β : Type} {related : α → β → Prop} {x : Except ε α}
    {y : Except ε β} (h : AgreeOrFail related x y) {a : α} (hx : x = .ok a) :
    ∃ b, y = .ok b ∧ related a b := by
  cases h with
  | fail e => cases hx
  | ok h =>
      cases hx
      exact ⟨_, rfl, h⟩

/-- The same failures are the same in other words. -/
theorem AgreeOrFail.mapError {ε ε' α β : Type} {related : α → β → Prop} {x : Except ε α}
    {y : Except ε β} (h : AgreeOrFail related x y) (f : ε → ε') :
    AgreeOrFail related (x.mapError f) (y.mapError f) := by
  cases h with
  | fail e => exact .fail (f e)
  | ok h => exact .ok h

/-! ## Texts -/

namespace Text

/-- A relation of texts that holds between equal texts, that is kept when texts are put together or
trimmed, and that does not relate texts of different words or an empty text to another one. -/
structure Congruence (alike : String → String → Prop) : Prop where
  refl : ∀ text, alike text text
  append : ∀ {a a' b b'}, alike a a' → alike b b' → alike (a ++ b) (a' ++ b')
  isEmpty_eq : ∀ {a a'}, alike a a' → a.isEmpty = a'.isEmpty
  collapse_eq : ∀ {a a'}, alike a a' → collapse a = collapse a'
  trim : ∀ {a a'}, alike a a' → alike (trim a) (trim a')
  trimChar : ∀ {a a'} (c : Char), Text.isBlank c = false → alike a a' →
    alike (trimChar c a) (trimChar c a')

/-- Equality is a congruence of texts. -/
theorem Congruence.eq : Congruence Eq where
  refl _ := rfl
  append h h' := by rw [h, h']
  isEmpty_eq h := by rw [h]
  collapse_eq h := by rw [h]
  trim h := by rw [h]
  trimChar _ _ h := by rw [h]

variable {alike : String → String → Prop}

theorem Congruence.of_eq (h : Congruence alike) {a b : String} (heq : a = b) : alike a b :=
  heq ▸ h.refl a

/-- Whether a text is empty is the same for alike texts, so it may be asked before going on. -/
theorem Congruence.ite_isEmpty (h : Congruence alike) {text other a a' b b' : String}
    (htext : alike text other) (hempty : alike a a') (hfull : alike b b') :
    alike (if text.isEmpty then a else b) (if other.isEmpty then a' else b') := by
  rw [h.isEmpty_eq htext]
  split
  · exact hempty
  · exact hfull

theorem Congruence.intercalate (h : Congruence alike) (separator : String)
    {texts others : List String} (htexts : List.Forall₂ alike texts others) :
    alike (separator.intercalate texts) (separator.intercalate others) := by
  induction htexts with
  | nil => exact h.refl _
  | @cons text other rest others hhead htail ih =>
      cases htail with
      | nil =>
          rw [String.intercalate_singleton, String.intercalate_singleton]
          exact hhead
      | cons hnext htail =>
          rw [String.intercalate_cons_cons, String.intercalate_cons_cons]
          exact h.append (h.append hhead (h.refl separator)) ih

end Text

end CursorScope
