import Mathlib.Data.List.Induction
import Mathlib.Data.Nat.Bitwise

/-!
# Blocks of addresses

A block of addresses is all numbers of so many bits that begin with certain bits (`InBlock`). Two numbers under one
mask are equal where they agree in the bits of the mask (`and_eq_and_iff`), and the mask that keeps the first bits
is the one that a shift makes of all ones (`testBit_mask`).

An address of several words of 16 bits is the number that is written with them (`ofWords`), and its bits are those of
the words (`testBit_ofWords`).
-/

namespace Cidr

open List

/-- Whether a number of `width` bits begins with the first `bits` bits of another. -/
def InBlock (width network bits n : Nat) : Prop := ∀ i < width, width - bits ≤ i → n.testBit i = network.testBit i

instance (width network bits n : Nat) : Decidable (InBlock width network bits n) :=
  inferInstanceAs (Decidable (∀ i < width, width - bits ≤ i → n.testBit i = network.testBit i))

theorem and_eq_and_iff (mask n m : Nat) :
    (n &&& mask) = (m &&& mask) ↔ ∀ i, mask.testBit i = true → n.testBit i = m.testBit i := by
  constructor
  · intro h i hi
    have hbit := congrArg (Nat.testBit · i) h
    simpa [hi] using hbit
  · intro h
    refine Nat.eq_of_testBit_eq fun i => ?_
    rw [Nat.testBit_and, Nat.testBit_and]
    cases hi : mask.testBit i with
    | false => rw [Bool.and_false, Bool.and_false]
    | true => rw [h i hi]

theorem testBit_mask (width drop i : Nat) :
    (((2 ^ width - 1) <<< drop) % 2 ^ width).testBit i = decide (drop ≤ i ∧ i < width) := by
  by_cases hdrop : drop ≤ i
  · by_cases hwidth : i < width
    · have hless : i - drop < width := by omega
      simp [hdrop, hwidth, hless]
    · simp [hwidth]
  · simp [hdrop]

/-- The number that words of 16 bits stand for. -/
def ofWords (words : List Nat) : Nat := words.foldl (fun n word => n * 65536 + word) 0

theorem ofWords_concat (words : List Nat) (word : Nat) :
    ofWords (words ++ [word]) = 2 ^ 16 * ofWords words + word := by
  rw [ofWords, foldl_append, ofWords, foldl_cons, foldl_nil, Nat.mul_comm]
  rfl

theorem testBit_ofWords {words : List Nat} (h : ∀ word ∈ words, word < 65536) {i : Nat} (hi : i < 16 * words.length) :
    (ofWords words).testBit i = (words.getD (words.length - 1 - i / 16) 0).testBit (i % 16) := by
  induction words using List.reverseRecOn generalizing i with
  | nil => exact absurd hi (Nat.not_lt_zero i)
  | append_singleton words word ih =>
    have hword : word < 2 ^ 16 := h word (mem_append_right _ (mem_singleton_self word))
    rw [length_append, length_singleton] at hi
    rw [ofWords_concat, Nat.testBit_two_pow_mul_add _ hword, length_append, length_singleton]
    split
    · next hlast =>
      have hindex : words.length + 1 - 1 - i / 16 = words.length := by omega
      have hmod : i % 16 = i := Nat.mod_eq_of_lt hlast
      rw [hindex, hmod]
      simp
    · next hrest =>
      have hindex : words.length + 1 - 1 - i / 16 = words.length - 1 - (i - 16) / 16 := by omega
      have hmod : i % 16 = (i - 16) % 16 := by omega
      have hlt : words.length - 1 - (i - 16) / 16 < words.length := by omega
      rw [ih (fun w hw => h w (mem_append_left _ hw)) (by omega), hindex, hmod, getD_append _ _ _ _ hlt]

theorem ofWords_lt {words : List Nat} (h : ∀ word ∈ words, word < 65536) :
    ofWords words < 2 ^ (16 * words.length) := by
  induction words using List.reverseRecOn with
  | nil => decide
  | append_singleton words word ih =>
    have hword : word < 65536 := h word (mem_append_right _ (mem_singleton_self word))
    have hwords := ih fun w hw => h w (mem_append_left _ hw)
    rw [ofWords_concat, length_append, length_singleton, Nat.mul_add, Nat.pow_add]
    omega

end Cidr
