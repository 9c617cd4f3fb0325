import Mathlib.Data.List.Basic
import Mathlib.Data.Fin.Basic

/-!
# Text as code units

A text as a JavaScript engine holds it: a list of code units of sixteen bits, any of which may be a
surrogate that stands alone. A character beyond the basic plane is a pair of them.
-/

namespace Utf16

/-- Sixteen bits of a text. -/
abbrev CodeUnit := Fin 0x10000

abbrev Text := List CodeUnit

/-- The unit of a number, as far as sixteen bits hold it. -/
abbrev codeUnit (n : Nat) : CodeUnit := Fin.ofNat _ n

def unit (c : Char) : CodeUnit := Fin.ofNat _ c.toNat

/-- The units a character is written with. -/
def unitsOf (c : Char) : Text :=
  if c.toNat < 0x10000 then [unit c]
  else [Fin.ofNat _ (0xd800 + (c.toNat - 0x10000) / 0x400), Fin.ofNat _ (0xdc00 + (c.toNat - 0x10000) % 0x400)]

/-- A text written out as characters. -/
def text (s : String) : Text := s.toList.flatMap unitsOf

/-- A unit between two characters, both included. -/
def within (least greatest : Char) (u : CodeUnit) : Bool :=
  decide (least.toNat ≤ u.val) && decide (u.val ≤ greatest.toNat)

/-- What `\s` of a regular expression matches, and what trimming takes off. -/
def isSpace (c : Nat) : Bool :=
  [0x9, 0xa, 0xb, 0xc, 0xd, 0x20, 0xa0, 0x1680, 0x2028, 0x2029, 0x202f, 0x205f, 0x3000, 0xfeff].contains c ||
    (decide (0x2000 ≤ c) && decide (c ≤ 0x200a))

/-! ## Hexadecimal digits -/

/-- What a unit is worth as a hexadecimal digit, in either case. -/
def hexValue? (u : CodeUnit) : Option Nat :=
  if within '0' '9' u then some (u.val - 48)
  else if within 'a' 'f' u then some (u.val - 87)
  else if within 'A' 'F' u then some (u.val - 55)
  else none

/-- The digit of a value below sixteen, in lower case. -/
def hexDigit (n : Nat) : CodeUnit := Fin.ofNat _ (if n < 10 then n + 48 else n + 87)

/-- The lower case of a unit that is an ASCII letter, and any other unit as it is. -/
def lowered (u : CodeUnit) : CodeUnit := if within 'A' 'Z' u then Fin.ofNat _ (u.val + 32) else u

/-- The capital of a unit that is an ASCII letter, and any other unit as it is. -/
def capital (u : CodeUnit) : CodeUnit := if within 'a' 'z' u then Fin.ofNat _ (u.val - 32) else u

variable {u : CodeUnit}

theorem within_iff {least greatest : Char} :
    within least greatest u = true ↔ least.toNat ≤ u.val ∧ u.val ≤ greatest.toNat := by
  rw [within, Bool.and_eq_true, decide_eq_true_iff, decide_eq_true_iff]

theorem lowered_val (u : CodeUnit) : (lowered u).val = if 65 ≤ u.val ∧ u.val ≤ 90 then u.val + 32 else u.val := by
  unfold lowered
  by_cases h : within 'A' 'Z' u = true
  · have hrange : 65 ≤ u.val ∧ u.val ≤ 90 := within_iff.1 h
    rw [if_pos h, if_pos hrange]
    exact Nat.mod_eq_of_lt (by omega)
  · have hrange : ¬ (65 ≤ u.val ∧ u.val ≤ 90) := fun hh => h (within_iff.2 hh)
    rw [if_neg h, if_neg hrange]

theorem capital_val (u : CodeUnit) : (capital u).val = if 97 ≤ u.val ∧ u.val ≤ 122 then u.val - 32 else u.val := by
  unfold capital
  by_cases h : within 'a' 'z' u = true
  · have hrange : 97 ≤ u.val ∧ u.val ≤ 122 := within_iff.1 h
    rw [if_pos h, if_pos hrange]
    exact Nat.mod_eq_of_lt (by omega)
  · have hrange : ¬ (97 ≤ u.val ∧ u.val ≤ 122) := fun hh => h (within_iff.2 hh)
    rw [if_neg h, if_neg hrange]

variable {n : Nat}

theorem hexValue?_eq_some :
    hexValue? u = some n ↔ (n < 10 ∧ u.val = n + 48) ∨ (10 ≤ n ∧ n < 16 ∧ (u.val = n + 87 ∨ u.val = n + 55)) := by
  have h0 : within '0' '9' u = true ↔ 48 ≤ u.val ∧ u.val ≤ 57 := within_iff
  have ha : within 'a' 'f' u = true ↔ 97 ≤ u.val ∧ u.val ≤ 102 := within_iff
  have hA : within 'A' 'F' u = true ↔ 65 ≤ u.val ∧ u.val ≤ 70 := within_iff
  unfold hexValue?
  simp only [h0, ha, hA]
  split
  · rw [Option.some.injEq]
    omega
  · split
    · rw [Option.some.injEq]
      omega
    · split
      · rw [Option.some.injEq]
        omega
      · constructor
        · intro h
          cases h
        · omega

theorem hexValue?_lt (h : hexValue? u = some n) : n < 16 := by
  rw [hexValue?_eq_some] at h
  omega

theorem hexValue?_hexDigit (h : n < 16) : hexValue? (hexDigit n) = some n := by
  have hval : (hexDigit n).val = if n < 10 then n + 48 else n + 87 := by
    unfold hexDigit
    split
    · exact Nat.mod_eq_of_lt (by omega)
    · exact Nat.mod_eq_of_lt (by omega)
  rw [hexValue?_eq_some, hval]
  split
  · omega
  · omega

theorem lowered_eq_iff {v : CodeUnit} {m : Nat} (hu : hexValue? u = some n) (hv : hexValue? v = some m) :
    lowered u = lowered v ↔ n = m := by
  rw [hexValue?_eq_some] at hu hv
  rw [Fin.ext_iff, lowered_val, lowered_val]
  split
  · split
    · omega
    · omega
  · split
    · omega
    · omega

theorem hexValue?_lowered (h : hexValue? u = some n) : hexValue? (lowered u) = some n := by
  rw [hexValue?_eq_some] at h ⊢
  rw [lowered_val]
  split
  · omega
  · omega

theorem hexValue?_capital (h : hexValue? u = some n) : hexValue? (capital u) = some n := by
  rw [hexValue?_eq_some] at h ⊢
  rw [capital_val]
  split
  · omega
  · omega

end Utf16
