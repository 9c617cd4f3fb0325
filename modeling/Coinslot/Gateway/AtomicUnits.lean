import Coinslot.Gateway.Payments
import Coinslot.Lib.Decimals
import Mathlib.Tactic.FieldSimp
import Mathlib.Tactic.Ring

/-!
# Amounts in atomic units

An amount is a number (`amountValue`), and what `atomicUnits` makes of it is that number in the smallest unit
of the token, written without leading zeros: a whole number, or a refusal where the amount is written finer
than the unit. So amounts that are equal come to the same text, and a larger amount to a larger number.
-/

namespace Coinslot

open List

/-- The number an amount is written for. -/
def amountValue (amount : String) : Rat :=
  Nat.ofDigitChars 10 (wholeOf amount) 0 +
    Nat.ofDigitChars 10 (fractionOf amount) 0 / 10 ^ (fractionOf amount).length

section
variable {amount : String}

/-! ## The digits of an amount -/

theorem isWhole_digits {digits : List Char} (h : isWhole digits = true) :
    digits ≠ [] ∧ ∀ c ∈ digits, c.isDigit = true := by
  unfold isWhole at h
  split at h
  · cases h
  · exact ⟨nofun, fun c hc => by rw [mem_singleton.1 hc]; rfl⟩
  · next c digits _ =>
    simp only [Bool.and_eq_true, all_eq_true] at h
    refine ⟨nofun, fun d hd => ?_⟩
    rcases mem_cons.1 hd with rfl | hd
    · exact h.1.1.1
    · exact h.1.2 d hd

theorem isFraction_digits {written : List Char} (h : isFraction written = true) :
    ∀ c ∈ written.drop 1, c.isDigit = true := by
  unfold isFraction at h
  split at h
  · nofun
  · simp only [Bool.and_eq_true, all_eq_true] at h
    exact h.1.1.2

theorem isAmount_digits (h : isAmount amount = true) :
    wholeOf amount ≠ [] ∧ (∀ c ∈ wholeOf amount, c.isDigit = true) ∧ ∀ c ∈ fractionOf amount, c.isDigit = true := by
  rw [isAmount, Bool.and_eq_true] at h
  obtain ⟨hne, hwhole⟩ := isWhole_digits h.1
  exact ⟨hne, hwhole, fun c hc => isFraction_digits h.2 c (takeWhile_subset _ hc)⟩

/-! ## The text -/

theorem dropLeadingZeros_spec (written : List Char) (hne : written ≠ [])
    (hdigits : ∀ c ∈ written, c.isDigit = true) : Decimals.Canonical (dropLeadingZeros written) ∧
      Nat.ofDigitChars 10 (dropLeadingZeros written) 0 = Nat.ofDigitChars 10 written 0 := by
  fun_induction dropLeadingZeros written with
  | case1 c rest hc ih =>
    obtain ⟨hcanonical, hvalue⟩ := ih nofun fun d hd => hdigits d (mem_cons_of_mem _ hd)
    refine ⟨hcanonical, hvalue.trans ?_⟩
    rfl
  | case2 c rest hc => exact absurd (hdigits c (by simp)) hc
  | case3 written hshort =>
    refine ⟨⟨hdigits, hne, fun hzero => ?_⟩, rfl⟩
    cases written with
    | nil => cases hzero
    | cons first rest =>
      cases hzero
      cases rest with
      | nil => rfl
      | cons c rest => exact absurd rfl (hshort c rest)

variable {decimals : Nat}

theorem atomicUnits_of_digits (hne : wholeOf amount ≠ []) (hwhole : ∀ c ∈ wholeOf amount, c.isDigit = true)
    (hfraction : ∀ c ∈ fractionOf amount, c.isDigit = true) (hfine : (fractionOf amount).length ≤ decimals) :
    ∃ n : Nat, atomicUnits amount decimals = .ok (toString n) ∧ (n : Rat) = amountValue amount * 10 ^ decimals := by
  set zeros := List.replicate (decimals - (fractionOf amount).length) '0' with hzeros
  set written := wholeOf amount ++ (fractionOf amount ++ zeros) with hwritten
  have hdigits : ∀ c ∈ written, c.isDigit = true := by
    intro c hc
    rcases mem_append.1 hc with hc | hc
    · exact hwhole c hc
    · rcases mem_append.1 hc with hc | hc
      · exact hfraction c hc
      · rw [eq_of_mem_replicate hc]
        rfl
  obtain ⟨hcanonical, hvalue⟩ := dropLeadingZeros_spec written (by simp [hwritten, hne]) hdigits
  refine ⟨Nat.ofDigitChars 10 written 0, ?_, ?_⟩
  · simp only [atomicUnits, if_neg (Nat.not_lt.2 hfine)]
    rw [← hzeros, ← hwritten, Nat.toString_eq_ofList_toDigits, ← hvalue, Decimals.toDigits_ofDigitChars hcanonical]
  · obtain ⟨more, hmore⟩ : ∃ more, decimals = (fractionOf amount).length + more := ⟨_, (Nat.add_sub_of_le hfine).symm⟩
    have hunits : Nat.ofDigitChars 10 written 0 =
        10 ^ more * (10 ^ (fractionOf amount).length * Nat.ofDigitChars 10 (wholeOf amount) 0 +
          Nat.ofDigitChars 10 (fractionOf amount) 0) := by
      rw [hwritten, Nat.ofDigitChars_append, Nat.ofDigitChars_append, hzeros, Nat.ofDigitChars_replicate_zero,
        Nat.ofDigitChars_eq_ofDigitChars_zero, hmore, Nat.add_sub_cancel_left]
    rw [hunits, amountValue, hmore, pow_add]
    push_cast
    field_simp

/-- **The units of an amount.** An amount that is written no finer than the units comes to the number of them. -/
theorem atomicUnits_of_le (h : isAmount amount = true) (hfine : (fractionOf amount).length ≤ decimals) :
    ∃ n : Nat, atomicUnits amount decimals = .ok (toString n) ∧ (n : Rat) = amountValue amount * 10 ^ decimals := by
  obtain ⟨hne, hwhole, hfraction⟩ := isAmount_digits h
  exact atomicUnits_of_digits hne hwhole hfraction hfine

theorem fine_of_atomicUnits {units : String} (h : atomicUnits amount decimals = .ok units) :
    (fractionOf amount).length ≤ decimals :=
  PaymentEdge.atomicUnits_isOk.1 (by rw [h]; rfl)

/-- **Amounts are converted exactly.** An amount written no finer than the units comes to the canonical decimal
spelling of its value in them, and a finer one is refused; so of two amounts that are converted, the same text
means the same value, and a larger value a larger number. -/
theorem atomicUnits_exact (amount : String) (h : isAmount amount = true) (decimals : Nat) :
    ((fractionOf amount).length ≤ decimals →
      ∃ n : Nat, atomicUnits amount decimals = .ok (toString n) ∧ (n : Rat) = amountValue amount * 10 ^ decimals) ∧
    (decimals < (fractionOf amount).length → ∃ words, atomicUnits amount decimals = .error words) ∧
    ∀ other units otherUnits, isAmount other = true →
      atomicUnits amount decimals = .ok units → atomicUnits other decimals = .ok otherUnits →
        (units = otherUnits ↔ amountValue amount = amountValue other) ∧
        (amountValue amount < amountValue other →
          ∃ m n : Nat, units = toString m ∧ otherUnits = toString n ∧ m < n) := by
  refine ⟨atomicUnits_of_le h, fun hfiner => ⟨_, by rw [atomicUnits, if_pos hfiner]⟩, ?_⟩
  intro other units otherUnits hother hunits hotherUnits
  obtain ⟨m, hm, hvalue⟩ := atomicUnits_of_le h (fine_of_atomicUnits hunits)
  obtain ⟨n, hn, hotherValue⟩ := atomicUnits_of_le hother (fine_of_atomicUnits hotherUnits)
  have hpos : (0 : Rat) < 10 ^ decimals := by positivity
  rw [hunits] at hm
  rw [hotherUnits] at hn
  cases hm
  cases hn
  refine ⟨⟨fun heq => ?_, fun heq => ?_⟩, fun hlt => ⟨m, n, rfl, rfl, ?_⟩⟩
  · rw [Decimals.toString_inj heq, hotherValue] at hvalue
    exact (mul_right_cancel₀ hpos.ne' hvalue).symm
  · rw [heq, ← hotherValue] at hvalue
    rw [Nat.cast_injective hvalue]
  · have hunits : (m : Rat) < n := by
      rw [hvalue, hotherValue]
      exact mul_lt_mul_of_pos_right hlt hpos
    exact_mod_cast hunits

/-- A price with a zero behind it, in millionths. -/
theorem atomicUnits_exact_price :
    (∃ n : Nat, atomicUnits "0.50" 6 = .ok (toString n) ∧ (n : Rat) = amountValue "0.50" * 10 ^ 6) ∧
      (∃ words, atomicUnits "0.50" 1 = .error words) ∧
      ("500000" = "500000" ↔ amountValue "0.50" = amountValue "0.5") :=
  ⟨(atomicUnits_exact "0.50" (by decide +kernel) 6).1 (by decide +kernel),
    (atomicUnits_exact "0.50" (by decide +kernel) 1).2.1 (by decide +kernel),
    ((atomicUnits_exact "0.50" (by decide +kernel) 6).2.2 "0.5" "500000" "500000" (by decide +kernel)
      (by decide +kernel) (by decide +kernel)).1⟩

end

end Coinslot
