import Coinslot.Cabinet.Storefront
import Coinslot.Gateway.AtomicUnits
import Mathlib.Data.List.TakeWhile

/-!
# Prices out of a shop

A shop writes a price as digits of minor units with their scale beside them, and `decimalOfMinorUnits` moves a dot
into the digits (`apps/cabinet/src/woo-catalog.ts`). What comes out always says the number it should, and so does
every charge made of it. It is an amount of the contract's only where the digits have no zero to spare in front
(`FitsAmount`): the digits are carried over as the shop wrote them.
-/

namespace Coinslot.MinorUnits

open List

/-- `/^\d+$/`. -/
def isDigits (text : String) : Bool := text.toList ≠ [] && text.toList.all Char.isDigit

section

variable (minor : String)

/-- A price in minor units, written as the decimal the contract carries, or nothing where the shop sent something
that is not a price at all. The scale is any number here; a product's is whole. -/
def decimalOfMinorUnits (scale : Rat) : Option String :=
  if !isDigits minor then none
  else if scale.den ≠ 1 ∨ scale < 0 then none
  else if scale = 0 then some minor
  else
    let places := scale.num.toNat
    let digits := minor.toList.leftpad (places + 1) '0'
    some (String.ofList (digits.take (digits.length - places) ++ '.' :: digits.drop (digits.length - places)))

def minorValue : Nat := Nat.ofDigitChars 10 minor.toList 0

/-- Digits that an amount has room for at a scale: no zero in front of the digit before the dot, and at most
eighteen of them on either side. -/
def FitsAmount (places : Nat) : Prop :=
  (minor.toList.length ≤ places + 1 ∨ minor.toList.head? ≠ some '0') ∧
    minor.toList.length ≤ places + 18 ∧ places ≤ 18

/-- What a price is held to: a decimal of exactly the number over ten to the scale, an amount the contract takes,
and charged at any units no coarser than the scale for exactly the number of them. -/
def ExactPrice (scale : Rat) : Prop :=
  ∀ amount, decimalOfMinorUnits minor scale = some amount →
    amountValue amount = minorValue minor / 10 ^ scale.num.toNat ∧ isAmount amount = true ∧
      ∀ decimals : Nat, scale ≤ decimals →
        atomicUnits amount decimals = .ok (toString (minorValue minor * 10 ^ (decimals - scale.num.toNat)))

end

/-! ## The text -/

section
variable {minor : String} {places : Nat} {digits : List Char}

/-- The digits as they are, or with a dot before the last of them. -/
def written (digits : List Char) (places : Nat) : String :=
  if places = 0 then String.ofList digits
  else String.ofList (digits.take (digits.length - places) ++ '.' :: digits.drop (digits.length - places))

theorem isDigits_iff : isDigits minor = true ↔ minor.toList ≠ [] ∧ ∀ c ∈ minor.toList, c.isDigit = true := by
  rw [isDigits, Bool.and_eq_true, decide_eq_true_iff, all_eq_true]

theorem not_dot {digits : List Char} (h : ∀ c ∈ digits, c.isDigit = true) :
    ∀ c ∈ digits, decide (c ≠ '.') = true := by
  intro c hc
  rw [decide_eq_true_iff]
  rintro rfl
  exact absurd (h _ hc) (by decide)

section

variable (h : ∀ c ∈ digits, c.isDigit = true)
include h

theorem not_dot_take (n : Nat) : ∀ c ∈ digits.take n, decide (c ≠ '.') = true :=
  not_dot fun c hc => h c (mem_of_mem_take hc)

theorem before_dot : (written digits places).toList.takeWhile (· ≠ '.') = digits.take (digits.length - places) := by
  unfold written
  split
  · next hzero =>
    rw [String.toList_ofList, hzero, Nat.sub_zero, take_length]
    exact takeWhile_eq_self_iff.mpr (not_dot h)
  · rw [String.toList_ofList, takeWhile_append_of_pos (not_dot_take h _)]
    simp

theorem from_dot : (written digits places).toList.dropWhile (· ≠ '.') =
      if places = 0 then [] else '.' :: digits.drop (digits.length - places) := by
  unfold written
  split
  · rw [String.toList_ofList]
    exact dropWhile_eq_nil_iff.mpr (not_dot h)
  · rw [String.toList_ofList, dropWhile_append_of_pos (not_dot_take h _)]
    simp

theorem wholeOf_written (places : Nat) : wholeOf (written digits places) = digits.take (digits.length - places) :=
  before_dot h

theorem fractionOf_written (places : Nat) :
    fractionOf (written digits places) = digits.drop (digits.length - places) := by
  rw [fractionOf, from_dot h]
  split
  · next hzero => rw [hzero, Nat.sub_zero, drop_length, drop_nil, takeWhile_nil]
  · exact takeWhile_eq_self_iff.mpr (not_dot fun c hc => h c (mem_of_mem_drop hc))

/-! ## The digits carried over -/

theorem leftpad_digits (n : Nat) : ∀ c ∈ digits.leftpad n '0', c.isDigit = true := by
  intro c hc
  rw [List.leftpad, mem_append] at hc
  rcases hc with hc | hc
  · rw [eq_of_mem_replicate hc]
    rfl
  · exact h c hc

end

theorem leftpad_value (n : Nat) : Nat.ofDigitChars 10 (digits.leftpad n '0') 0 = Nat.ofDigitChars 10 digits 0 := by
  rw [List.leftpad, Nat.ofDigitChars_append, Nat.ofDigitChars_replicate_zero, Nat.mul_zero]

theorem isWhole_iff (hne : digits ≠ []) (h : ∀ c ∈ digits, c.isDigit = true) :
    isWhole digits = true ↔ (digits.length ≤ 1 ∨ digits.head? ≠ some '0') ∧ digits.length ≤ 18 := by
  cases digits with
  | nil => exact absurd rfl hne
  | cons c rest =>
    have hc := h c mem_cons_self
    have hrest : rest.all Char.isDigit = true := all_eq_true.mpr fun d hd => h d (mem_cons_of_mem _ hd)
    by_cases hzero : c = '0'
    · subst hzero
      cases rest with
      | nil => simp [isWhole]
      | cons d rest => simp [isWhole]
    · rw [isWhole.eq_3 c rest fun hh _ => hzero hh, hc, hrest]
      simp only [length_cons, head?_cons, Bool.and_eq_true, decide_eq_true_eq, Option.some.injEq, ne_eq,
        hzero, not_false_eq_true, or_true, true_and, and_true]
      omega

theorem isFraction_dot (h : ∀ c ∈ digits, c.isDigit = true) :
    isFraction ('.' :: digits) = true ↔ 1 ≤ digits.length ∧ digits.length ≤ 18 := by
  have hall : digits.all Char.isDigit = true := all_eq_true.mpr h
  simp only [isFraction, hall, Bool.and_eq_true, decide_eq_true_eq, and_true, true_and]

theorem amountValue_written (h : ∀ c ∈ digits, c.isDigit = true) (hlong : places ≤ digits.length) :
    amountValue (written digits places) = (Nat.ofDigitChars 10 digits 0 : Rat) / 10 ^ places := by
  have hlength : (digits.drop (digits.length - places)).length = places := by
    rw [length_drop]
    omega
  have hsplit : Nat.ofDigitChars 10 digits 0 =
      10 ^ places * Nat.ofDigitChars 10 (digits.take (digits.length - places)) 0 +
        Nat.ofDigitChars 10 (digits.drop (digits.length - places)) 0 := by
    have happ : Nat.ofDigitChars 10 (digits.take (digits.length - places) ++ digits.drop (digits.length - places)) 0 =
        Nat.ofDigitChars 10 (digits.drop (digits.length - places))
          (Nat.ofDigitChars 10 (digits.take (digits.length - places)) 0) := Nat.ofDigitChars_append 0
    rw [take_append_drop] at happ
    rw [happ, Nat.ofDigitChars_eq_ofDigitChars_zero, hlength]
  rw [amountValue, wholeOf_written h, fractionOf_written h, hlength, hsplit]
  push_cast
  field_simp

/-! ## The price -/

theorem decimalOfMinorUnits_eq (h : isDigits minor = true) (places : Nat) :
    decimalOfMinorUnits minor places = some (written (minor.toList.leftpad (places + 1) '0') places) := by
  have hden : ((places : Rat).den ≠ 1 ∨ (places : Rat) < 0) = False := by simp
  have hnot : (!isDigits minor) = true ↔ False := by rw [h]; decide
  rw [decimalOfMinorUnits, if_neg hnot.mp, if_neg (by rw [hden]; exact not_false)]
  by_cases hzero : places = 0
  · subst hzero
    obtain ⟨hne, -⟩ := isDigits_iff.mp h
    have hpad : minor.toList.leftpad (0 + 1) '0' = minor.toList := by
      have := length_pos_of_ne_nil hne
      rw [List.leftpad, show 0 + 1 - minor.toList.length = 0 by omega, replicate_zero, nil_append]
    rw [if_pos (by norm_num), written, if_pos rfl, hpad, String.ofList_toList]
  · rw [if_neg (by exact_mod_cast hzero), written, if_neg hzero]
    rfl

theorem leftpad_length (digits : List Char) (n : Nat) :
    (digits.leftpad n '0').length = n - digits.length + digits.length := by
  rw [List.leftpad, length_append, length_replicate]

theorem isAmount_written (h : isDigits minor = true) :
    isAmount (written (minor.toList.leftpad (places + 1) '0') places) = true ↔ FitsAmount minor places := by
  obtain ⟨hne, hdigits⟩ := isDigits_iff.mp h
  have hall := leftpad_digits hdigits (places + 1)
  have hlength := leftpad_length minor.toList (places + 1)
  set padded := minor.toList.leftpad (places + 1) '0' with hpadded
  have hfront : (padded.take (padded.length - places)).length = padded.length - places := by
    rw [length_take]
    omega
  have hfrontDigits : ∀ c ∈ padded.take (padded.length - places), c.isDigit = true :=
    fun c hc => hall c (mem_of_mem_take hc)
  have hhead : (padded.take (padded.length - places)).head? = padded.head? := by
    rw [head?_take, if_neg (by omega)]
  have hwhole := isWhole_iff (ne_nil_of_length_pos (by omega)) hfrontDigits
  rw [hfront, hhead] at hwhole
  have hfraction : isFraction (if places = 0 then [] else '.' :: padded.drop (padded.length - places)) = true ↔
      places ≤ 18 := by
    split
    · next hzero =>
      subst hzero
      simp [isFraction]
    · rw [isFraction_dot fun c hc => hall c (mem_of_mem_drop hc), length_drop]
      omega
  have hpad : minor.toList.length < places + 1 ∨ padded.head? = minor.toList.head? := by
    rcases Nat.lt_or_ge minor.toList.length (places + 1) with hlt | hge
    · exact .inl hlt
    · rw [hpadded, List.leftpad, Nat.sub_eq_zero_of_le hge]
      exact .inr rfl
  have hone : padded.length - places ≤ 1 ↔ minor.toList.length ≤ places + 1 := by omega
  have hmost : padded.length - places ≤ 18 ↔ minor.toList.length ≤ places + 18 := by omega
  rw [isAmount, before_dot hall, from_dot hall, Bool.and_eq_true, hwhole, hfraction, hone, hmost, FitsAmount,
    and_assoc]
  rcases hpad with hlt | hsame
  · rw [or_iff_left_of_imp fun _ => by omega, or_iff_left_of_imp fun _ => by omega]
  · rw [hsame]

theorem written_exact (h : isDigits minor = true) (places : Nat) :
    amountValue (written (minor.toList.leftpad (places + 1) '0') places) = minorValue minor / 10 ^ places ∧
      ∀ decimals, places ≤ decimals → atomicUnits (written (minor.toList.leftpad (places + 1) '0') places) decimals =
          .ok (toString (minorValue minor * 10 ^ (decimals - places))) := by
  obtain ⟨hne, hdigits⟩ := isDigits_iff.mp h
  have hall := leftpad_digits hdigits (places + 1)
  have hlength := leftpad_length minor.toList (places + 1)
  have hvalue : amountValue (written (minor.toList.leftpad (places + 1) '0') places) =
      minorValue minor / 10 ^ places := by
    rw [amountValue_written hall (by omega), leftpad_value, minorValue]
  refine ⟨hvalue, fun decimals hdecimals => ?_⟩
  have hwhole := wholeOf_written hall places
  have hfraction := fractionOf_written hall places
  have hne : wholeOf (written (minor.toList.leftpad (places + 1) '0') places) ≠ [] := by
    rw [hwhole]
    exact ne_nil_of_length_pos (by rw [length_take]; omega)
  have hfine : (fractionOf (written (minor.toList.leftpad (places + 1) '0') places)).length ≤ decimals := by
    rw [hfraction, length_drop]
    omega
  obtain ⟨n, hunits, hn⟩ := atomicUnits_of_digits hne
    (by rw [hwhole]; exact fun c hc => hall c (mem_of_mem_take hc))
    (by rw [hfraction]; exact fun c hc => hall c (mem_of_mem_drop hc)) hfine
  obtain ⟨more, rfl⟩ := Nat.exists_eq_add_of_le hdecimals
  have hcast : (n : Rat) = ((minorValue minor * 10 ^ more : Nat) : Rat) := by
    rw [hn, hvalue, pow_add]
    push_cast
    field_simp
  rw [hunits, Nat.add_sub_cancel_left, Nat.cast_injective hcast]

/-- **A price brought over is exact, and is one the contract takes exactly where its digits fit an amount**: digits
of the shop's at a scale that is whole. At any other scale there is no price. -/
theorem exactPrice_iff (minor : String) (hminor : isDigits minor = true) (scale : Rat) (hscale : 0 ≤ scale) :
    ExactPrice minor scale ↔ (scale.den = 1 → FitsAmount minor scale.num.toNat) := by
  by_cases hwhole : scale.den = 1
  · obtain ⟨places, rfl⟩ : ∃ places : Nat, scale = places := by
      refine ⟨scale.num.toNat, ?_⟩
      have hnum : (0 : Int) ≤ scale.num := Rat.num_nonneg.mpr hscale
      rw [← Int.cast_natCast, Int.toNat_of_nonneg hnum]
      exact (Rat.den_eq_one_iff scale).mp hwhole |>.symm
    have hplaces : (places : Rat).num.toNat = places := by simp
    obtain ⟨hvalue, hunits⟩ := written_exact hminor places
    unfold ExactPrice
    rw [decimalOfMinorUnits_eq hminor, hplaces]
    constructor
    · exact fun hexact _ => (isAmount_written hminor).mp (hexact _ rfl).2.1
    · rintro hfits amount hamount
      cases hamount
      exact ⟨hvalue, (isAmount_written hminor).mpr (hfits hwhole),
        fun decimals hdecimals => hunits decimals (by exact_mod_cast hdecimals)⟩
  · refine ⟨fun _ hone => absurd hone hwhole, fun _ amount hamount => ?_⟩
    rw [decimalOfMinorUnits, hminor, if_neg (by decide), if_pos (.inl hwhole)] at hamount
    cases hamount

theorem exactPrice_tote : isDigits "2500" = true ∧ (0 : Rat) ≤ 2 ∧
    (ExactPrice "2500" 2 ↔ ((2 : Rat).den = 1 → FitsAmount "2500" (2 : Rat).num.toNat)) :=
  ⟨by decide, by decide, exactPrice_iff "2500" (by decide) 2 (by decide)⟩

/-- Five dollars with a zero in front come over as `05.00`, which the contract does not take. -/
theorem padded_price_refused : isDigits "0500" = true ∧ decimalOfMinorUnits "0500" 2 = some "05.00" ∧
    isAmount "05.00" = false ∧ ¬ ExactPrice "0500" 2 := by
  have hwritten : decimalOfMinorUnits "0500" 2 = some "05.00" := by decide +kernel
  have hrefused : isAmount "05.00" = false := by decide +kernel
  refine ⟨by decide, hwritten, hrefused, fun h => ?_⟩
  have htaken := (h _ hwritten).2.1
  cases htaken

end
end Coinslot.MinorUnits
