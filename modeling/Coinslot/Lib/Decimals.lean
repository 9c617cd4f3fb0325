import Mathlib.Data.List.Induction
import Mathlib.Tactic.IntervalCases

/-!
# Numbers written in decimal digits

A list of decimal digits is read as a number (`Nat.ofDigitChars`). A list that begins with no zero, but for
the zero that is alone, is the one a number is written with (`toDigits_ofDigitChars`), so that such lists and
the numbers they are read as belong to each other one to one.
-/

namespace Decimals

/-- The digits a number is written with: some, and no zero before another digit. -/
structure Canonical (digits : List Char) : Prop where
  digit : ∀ c ∈ digits, c.isDigit = true
  ne_nil : digits ≠ []
  leading : digits.head? = some '0' → digits = ['0']

theorem digitChar_of_isDigit {c : Char} (h : c.isDigit = true) :
    c.toNat - '0'.toNat < 10 ∧ (c.toNat - '0'.toNat).digitChar = c := by
  have hn : 48 ≤ c.toNat ∧ c.toNat ≤ 57 := by
    simp only [Char.isDigit, Bool.and_eq_true, decide_eq_true_eq] at h
    exact h
  have hc : c = Char.ofNat c.toNat := (Char.ofNat_toNat c).symm
  rw [show '0'.toNat = 48 from rfl]
  refine ⟨by omega, ?_⟩
  obtain ⟨n, hcode⟩ : ∃ n, c.toNat = 48 + n := ⟨c.toNat - 48, by omega⟩
  have hlt : n < 10 := by omega
  rw [hcode] at hc ⊢
  rw [hc, Nat.add_sub_cancel_left]
  interval_cases n <;> rfl

theorem ofDigitChars_concat (digits : List Char) (c : Char) :
    Nat.ofDigitChars 10 (digits ++ [c]) 0 = 10 * Nat.ofDigitChars 10 digits 0 + (c.toNat - '0'.toNat) := by
  rw [Nat.ofDigitChars_append, Nat.ofDigitChars_cons, Nat.ofDigitChars_nil]

/-- **A number is written with the digits it was read from.** -/
theorem toDigits_ofDigitChars {digits : List Char} (h : Canonical digits) :
    Nat.toDigits 10 (Nat.ofDigitChars 10 digits 0) = digits := by
  induction digits using List.reverseRecOn with
  | nil => exact absurd rfl h.ne_nil
  | append_singleton front c ih =>
    obtain ⟨hlt, hchar⟩ := digitChar_of_isDigit (h.digit c (by simp))
    rw [ofDigitChars_concat]
    cases hfront : front with
    | nil =>
      rw [Nat.ofDigitChars_nil, Nat.mul_zero, Nat.zero_add, Nat.toDigits_of_lt_base hlt, hchar]
      rfl
    | cons first rest =>
      rw [← hfront]
      have hnonzero : front.head? ≠ some '0' := by
        intro hzero
        have := h.leading (by rw [hfront] at hzero ⊢; exact hzero)
        simp [hfront] at this
      have hdigits := ih
        ⟨fun d hd => h.digit d (List.mem_append_left _ hd), by simp [hfront], fun hzero => absurd hzero hnonzero⟩
      have hpos : 0 < Nat.ofDigitChars 10 front 0 := by
        refine Nat.pos_of_ne_zero fun hz => hnonzero ?_
        rw [hz] at hdigits
        rw [← hdigits]
        rfl
      rw [← Nat.toDigits_append_toDigits (by decide) hpos hlt, hdigits, Nat.toDigits_of_lt_base hlt, hchar]

theorem toString_inj {m n : Nat} (h : toString m = toString n) : m = n := by
  rw [Nat.toString_eq_ofList_toDigits, Nat.toString_eq_ofList_toDigits, String.ofList_inj] at h
  rw [← Nat.ofDigitChars_ten_toDigits (n := m), h, Nat.ofDigitChars_ten_toDigits]

end Decimals
