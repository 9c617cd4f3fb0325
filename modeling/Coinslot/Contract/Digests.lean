import Coinslot.Lib.Keccak
import Coinslot.Lib.Utf16
import Mathlib.Data.Int.Bitwise
import Mathlib.Data.List.Nodup

/-!
# The digest behind an address

`checksumDigits` of `packages/contracts/src/evm-address.ts`: a Keccak-256 written by hand over
unbounded integers, for the one block an address fills.
-/

namespace Coinslot.Contract

open Utf16 List

/-- The characters of an address after its `0x`. -/
def ADDRESS_LENGTH : Nat := 40

/-- How wide a block of Keccak-256 is, in bytes. -/
def BLOCK_BYTES : Nat := 136

/-- The constant mixed into the state at the end of each of the twenty-four rounds. -/
def ROUND_CONSTANTS : List Int :=
  [0x0000000000000001, 0x0000000000008082, 0x800000000000808a, 0x8000000080008000,
   0x000000000000808b, 0x0000000080000001, 0x8000000080008081, 0x8000000000008009,
   0x000000000000008a, 0x0000000000000088, 0x0000000080008009, 0x000000008000000a,
   0x000000008000808b, 0x800000000000008b, 0x8000000000008089, 0x8000000000008003,
   0x8000000000008002, 0x8000000000000080, 0x000000000000800a, 0x800000008000000a,
   0x8000000080008081, 0x8000000000008080, 0x0000000080000001, 0x8000000080008008]

/-- How far each lane is rotated as it is carried to its new place. -/
def ROTATIONS : List Nat :=
  [1, 3, 6, 10, 15, 21, 28, 36, 45, 55, 2, 14, 27, 41, 56, 8, 25, 43, 62, 18, 39, 61, 20, 44]

/-- Where each lane goes, following the same path the rotations are read along. -/
def DESTINATIONS : List Nat :=
  [10, 7, 11, 17, 18, 3, 5, 16, 8, 21, 24, 4, 15, 23, 19, 13, 12, 2, 20, 14, 22, 9, 6, 1]

/-- Sixty-four bits, since the arithmetic below is done in unbounded integers. -/
def LANE : Int := ((1 : Int) <<< (64 : Nat)) - 1

def laneAt (state : List Int) (index : Nat) : Int := state.getD index 0

/-- One lane rotated left, the way the permutation rotates. -/
def rotated (lane : Int) (places : Nat) : Int :=
  Int.land (Int.lor (lane <<< places) (lane >>> (64 - places))) LANE

/-- `row = 0; row < 25; row += 5`. -/
def rows : List Nat := [0, 5, 10, 15, 20]

/-! ## The permutation -/

/-- The parities of the columns. -/
def parityOf (state : List Int) : List Int :=
  (List.range 5).map fun column =>
    Int.xor (Int.xor (Int.xor (Int.xor (laneAt state column) (laneAt state (column + 5)))
      (laneAt state (column + 10))) (laneAt state (column + 15))) (laneAt state (column + 20))

def changeOf (parity : List Int) (column : Nat) : Int :=
  Int.xor (laneAt parity ((column + 4) % 5)) (rotated (laneAt parity ((column + 1) % 5)) 1)

/-- The column parities, taken into every lane. -/
def columnsMixed (state : List Int) : List Int :=
  let parity := parityOf state
  (List.range 5).foldl (fun state column =>
    let change := changeOf parity column
    rows.foldl (fun state row => state.set (column + row) (Int.xor (laneAt state (column + row)) change))
      state) state

/-- One step of the rotate-and-move: the lane carried so far is put down turned, and the one it
stands in place of is carried on. -/
def carriedOn (held : List Int × Int) (step : Nat) : List Int × Int :=
  let destination := DESTINATIONS.getD step 0
  (held.1.set destination (rotated held.2 (ROTATIONS.getD step 0)), laneAt held.1 destination)

section

variable (state : List Int)

def lanesMoved : List Int := ((List.range 24).foldl carriedOn (state, laneAt state 1)).1

/-- The mixing of one row. -/
def rowMixed (row : Nat) : List Int :=
  let held := (state.drop row).take 5
  (List.range 5).foldl (fun state column =>
    state.set (row + column)
      (Int.xor (laneAt held column)
        (Int.land (Int.land (Int.lnot (laneAt held ((column + 1) % 5))) LANE)
          (laneAt held ((column + 2) % 5))))) state

def rowsMixed : List Int := rows.foldl rowMixed state

/-- One round of the permutation. -/
def permuteRound (constant : Int) : List Int :=
  let state := rowsMixed (lanesMoved (columnsMixed state))
  state.set 0 (Int.xor (laneAt state 0) constant)

def permute : List Int := ROUND_CONSTANTS.foldl permuteRound state

end

/-! ## The block and the digits -/

/-- The block: the characters of the body, the marker after them and the top bit of the last
byte. -/
def blockOf (body : Text) : List Nat :=
  let block := (List.range ADDRESS_LENGTH).foldl
    (fun block index => block.set index ((body[index]?.map fun u => u.val % 256).getD 0))
    (List.replicate BLOCK_BYTES 0)
  (block.set ADDRESS_LENGTH 0x01).set (BLOCK_BYTES - 1) 0x80

/-- A lane of the block, read from its last byte to its first. -/
def laneRead (block : List Nat) (lane : Nat) : Int :=
  [7, 6, 5, 4, 3, 2, 1, 0].foldl
    (fun value byte => Int.lor (value <<< (8 : Nat)) (block.getD (lane * 8 + byte) 0 : Nat)) 0

/-- The state a block is read into. -/
def stateOf (block : List Nat) : List Int :=
  (List.range (BLOCK_BYTES / 8)).foldl (fun state lane => state.set lane (laneRead block lane))
    (List.replicate 25 0)

/-- The digits of one byte: `toString(16).padStart(2, "0")`. -/
def byteDigits (value : Int) : Text := ((Nat.toDigits 16 value.toNat).leftpad 2 '0').map unit

/-- The digits of one lane, its least significant byte first. -/
def laneDigits (value : Int) : Text :=
  ((List.range 8).foldl (fun (held : Text × Int) _ =>
    (held.1 ++ byteDigits (Int.land held.2 0xff), held.2 >>> (8 : Nat))) ([], value)).1

/-- The loop that writes the lanes out until there are digits enough. -/
def digitsFrom (state : List Int) : Nat → Nat → Text → Text
  | 0, _, digits => digits
  | fuel + 1, lane, digits =>
    if digits.length < ADDRESS_LENGTH then
      digitsFrom state fuel (lane + 1) (digits ++ laneDigits (laneAt state lane))
    else digits

/-- The state the digits are taken from. -/
def checksumState (body : Text) : List Int := permute (stateOf (blockOf body))

/-- The first forty digits of the digest of an address body. -/
def checksumDigits (body : Text) : Text :=
  (digitsFrom (checksumState body) ADDRESS_LENGTH 0 []).take ADDRESS_LENGTH

/-! ## What the loops leave

The lanes of the state are written at fixed places, each once, so that what a loop leaves at a place can be
said of the state it began with.
-/

variable {state : List Int}

theorem laneAt_set (state : List Int) (i j : Nat) (value : Int) :
    laneAt (state.set i value) j = if i = j ∧ i < state.length then value else laneAt state j := by
  unfold laneAt
  by_cases hij : i = j
  · subst hij
    by_cases hi : i < state.length
    · simp [hi]
    · simp [hi]
  · simp [hij]

/-- A loop that writes every place of its own once leaves there what the state it began with gives, and
leaves the rest alone. -/
theorem laneAt_loop {β : Type} (into : β → Nat) (value : β → Int → Int) (steps : List β) :
    ∀ state : List Int, (steps.map into).Nodup → (∀ b ∈ steps, into b < state.length) →
      (steps.foldl (fun state b => state.set (into b) (value b (laneAt state (into b)))) state).length =
        state.length ∧ (∀ b ∈ steps, laneAt
        (steps.foldl (fun state b => state.set (into b) (value b (laneAt state (into b)))) state) (into b) =
          value b (laneAt state (into b))) ∧ ∀ j, j ∉ steps.map into → laneAt
        (steps.foldl (fun state b => state.set (into b) (value b (laneAt state (into b)))) state) j =
          laneAt state j := by
  induction steps with
  | nil => exact fun state _ _ => ⟨rfl, fun b hb => absurd hb not_mem_nil, fun _ _ => rfl⟩
  | cons b steps ih =>
    intro state hnodup hlt
    rw [map_cons, nodup_cons] at hnodup
    obtain ⟨hlength, hsteps, hrest⟩ := ih (state.set (into b) (value b (laneAt state (into b)))) hnodup.2
      fun b' hb' => by simpa using hlt b' (mem_cons_of_mem b hb')
    have hkept (j : Nat) (hj : into b ≠ j) :
        laneAt (state.set (into b) (value b (laneAt state (into b)))) j = laneAt state j := by
      rw [laneAt_set, if_neg fun h => hj h.1]
    rw [foldl_cons]
    refine ⟨by rw [hlength, length_set], fun b' hb' => ?_, fun j hj => ?_⟩
    · rcases mem_cons.mp hb' with rfl | hb'
      · rw [hrest _ hnodup.1, laneAt_set, if_pos ⟨rfl, hlt _ mem_cons_self⟩]
      · have hne : into b ≠ into b' := fun h => hnodup.1 (h ▸ mem_map_of_mem hb')
        rw [hsteps b' hb', hkept _ hne]
    · rw [map_cons, mem_cons, not_or] at hj
      rw [hrest j hj.2, hkept j (Ne.symm hj.1)]

/-! ### The columns -/

theorem columnsMixed_eq (state : List Int) :
    columnsMixed state = ((List.range 5).flatMap fun column => rows.map fun row => (column, row)).foldl
      (fun s (b : Nat × Nat) => s.set (b.1 + b.2) (Int.xor (laneAt s (b.1 + b.2)) (changeOf (parityOf state) b.1)))
      state := by
  simp only [columnsMixed, foldl_flatMap, foldl_map]

theorem columnsMixed_lane (h : state.length = 25) : (columnsMixed state).length = 25 ∧ ∀ x < 5, ∀ y < 5,
      laneAt (columnsMixed state) (x + 5 * y) = Int.xor (laneAt state (x + 5 * y)) (changeOf (parityOf state) x) := by
  obtain ⟨hlength, hlanes, -⟩ := laneAt_loop (fun b : Nat × Nat => b.1 + b.2)
    (fun b lane => Int.xor lane (changeOf (parityOf state) b.1))
    ((List.range 5).flatMap fun column => rows.map fun row => (column, row)) state (by decide) (by
      rw [h]
      decide)
  rw [columnsMixed_eq]
  refine ⟨hlength.trans h, fun x hx y hy => hlanes (x, 5 * y) ?_⟩
  rw [mem_flatMap]
  refine ⟨x, mem_range.mpr hx, mem_map.mpr ⟨5 * y, ?_, rfl⟩⟩
  have hrow : ∀ y < 5, 5 * y ∈ rows := by decide
  exact hrow y hy

/-! ### The rotate-and-move -/

/-- Where the lane that a step puts down stood. -/
def sourceOf : Nat → Nat
  | 0 => 1
  | step + 1 => DESTINATIONS.getD step 0

theorem destinations_differ : ∀ t < 24, ∀ k < 24, DESTINATIONS.getD t 0 = DESTINATIONS.getD k 0 → t = k := by
  decide

/-- After some of its steps: the lanes of the steps done are in their places, turned, the others stand where
they stood, and the next one is in hand. -/
theorem carriedOn_run (h : state.length = 25) : ∀ steps ≤ 24,
    let held := (List.range steps).foldl carriedOn (state, laneAt state 1)
    held.1.length = 25 ∧ held.2 = laneAt state (sourceOf steps) ∧
      (∀ t < steps, laneAt held.1 (DESTINATIONS.getD t 0) =
        rotated (laneAt state (sourceOf t)) (ROTATIONS.getD t 0)) ∧
      ∀ i, (∀ t < steps, DESTINATIONS.getD t 0 ≠ i) → laneAt held.1 i = laneAt state i := by
  intro steps
  induction steps with
  | zero => exact fun _ => ⟨h, rfl, fun t ht => absurd ht (Nat.not_lt_zero t), fun _ _ => rfl⟩
  | succ steps ih =>
    intro hle
    obtain ⟨hlength, hcarried, hdone, hrest⟩ := ih (by omega)
    have hplace : ∀ t < 24, DESTINATIONS.getD t 0 < 25 := by decide
    have hlt : DESTINATIONS.getD steps 0 <
        ((List.range steps).foldl carriedOn (state, laneAt state 1)).1.length := by
      rw [hlength]
      exact hplace steps (by omega)
    simp only [range_succ, foldl_append, foldl_cons, foldl_nil, carriedOn]
    refine ⟨by rw [length_set, hlength], ?_, fun t ht => ?_, fun i hi => ?_⟩
    · refine hrest _ fun t ht heq => ?_
      have := destinations_differ t (by omega) steps (by omega) heq
      omega
    · rw [laneAt_set, hcarried]
      by_cases heq : DESTINATIONS.getD steps 0 = DESTINATIONS.getD t 0
      · rw [if_pos ⟨heq, hlt⟩, destinations_differ steps (by omega) t (by omega) heq]
      · rw [if_neg fun hh => heq hh.1]
        refine hdone t ?_
        have hne : t ≠ steps := fun hh => heq (by rw [hh])
        omega
    · rw [laneAt_set, if_neg fun hh => hi steps (by omega) hh.1]
      exact hrest i fun t ht => hi t (by omega)

/-! ### The rows -/

/-- What a lane becomes among the two after it in its row. -/
def mixed (lane next afterNext : Int) : Int := Int.xor lane (Int.land (Int.land (Int.lnot next) LANE) afterNext)

theorem laneAt_slice (state : List Int) (row column : Nat) (h : column < 5) :
    laneAt ((state.drop row).take 5) column = laneAt state (row + column) := by
  unfold laneAt
  simp only [getD_eq_getElem?_getD, getElem?_take, getElem?_drop, if_pos h]

theorem rowMixed_lane {row : Nat} (h : row + 5 ≤ state.length) : (rowMixed state row).length = state.length ∧
      (∀ x < 5, laneAt (rowMixed state row) (row + x) =
        mixed (laneAt state (row + x)) (laneAt state (row + (x + 1) % 5)) (laneAt state (row + (x + 2) % 5))) ∧
      ∀ j, j < row ∨ row + 5 ≤ j → laneAt (rowMixed state row) j = laneAt state j := by
  obtain ⟨hlength, hlanes, hrest⟩ := laneAt_loop (fun column => row + column)
    (fun column _ => mixed (laneAt ((state.drop row).take 5) column)
      (laneAt ((state.drop row).take 5) ((column + 1) % 5)) (laneAt ((state.drop row).take 5) ((column + 2) % 5)))
    (List.range 5) state
    (List.Nodup.map (fun a b hab => by omega) nodup_range)
    (fun column hcolumn => by
      have := mem_range.mp hcolumn
      omega)
  refine ⟨hlength, fun x hx => ?_, fun j hj => hrest j fun hmem => ?_⟩
  · have := hlanes x (mem_range.mpr hx)
    rwa [laneAt_slice _ _ _ hx, laneAt_slice _ _ _ (Nat.mod_lt _ (by omega)),
      laneAt_slice _ _ _ (Nat.mod_lt _ (by omega))] at this
  · obtain ⟨column, hcolumn, rfl⟩ := mem_map.mp hmem
    have := mem_range.mp hcolumn
    omega

theorem rowsMixed_run (n : Nat) : ∀ state : List Int, state.length = 25 → n ≤ 5 →
    let left := ((List.range n).map (5 * ·)).foldl rowMixed state
    left.length = 25 ∧
      (∀ y < n, ∀ x < 5, laneAt left (5 * y + x) = mixed (laneAt state (5 * y + x))
        (laneAt state (5 * y + (x + 1) % 5)) (laneAt state (5 * y + (x + 2) % 5))) ∧
      ∀ j, 5 * n ≤ j → laneAt left j = laneAt state j := by
  intro state h
  induction n with
  | zero => exact fun _ => ⟨h, fun y hy => absurd hy (Nat.not_lt_zero y), fun _ _ => rfl⟩
  | succ n ih =>
    intro hle
    obtain ⟨hlength, hdone, hrest⟩ := ih (by omega)
    have hroom : 5 * n + 5 ≤ (((List.range n).map (5 * ·)).foldl rowMixed state).length := by omega
    obtain ⟨hlength', hrow, hkept⟩ := rowMixed_lane hroom
    simp only [range_succ, map_append, map_cons, map_nil, foldl_append, foldl_cons, foldl_nil]
    refine ⟨hlength'.trans hlength, fun y hy x hx => ?_, fun j hj => ?_⟩
    · by_cases hyn : y = n
      · subst hyn
        rw [hrow x hx, hrest _ (by omega), hrest _ (by omega), hrest _ (by omega)]
      · rw [hkept _ (by omega), hdone y (by omega) x hx]
    · rw [hkept _ (by omega), hrest j (by omega)]

end Coinslot.Contract
