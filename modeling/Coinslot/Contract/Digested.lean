import Coinslot.Contract.Digests

/-!
# The digest is Keccak-256

The hand-written permutation against the standard's. A state of the code carries a state of lanes when each
of its integers is the number of the lane at its place (`Carries`); every step of the code keeps that against
the step mapping it stands for, the rotate-and-move against ρ and π together, and so does the permutation. The
block of an address is the one block its padding fills, and the digits are those of the lanes written out from
their least significant byte.
-/

namespace Coinslot.Contract

open Utf16 Keccak List

/-! ## One lane -/

def num {w : Nat} (lane : BitVec w) : Int := (lane.toNat : Int)

theorem xor_num {w : Nat} (a b : BitVec w) : Int.xor (num a) (num b) = num (a ^^^ b) := by
  unfold num
  rfl

theorem LANE_eq : LANE = ((2 ^ 64 - 1 : Nat) : Int) := by decide

theorem rotated_num (a : BitVec 64) {places : Nat} (h : places < 64) :
    rotated (num a) places = num (a.rotateLeft places) := by
  have hland (m n : Nat) : Int.land (m : Int) (n : Int) = ((m &&& n : Nat) : Int) := rfl
  have hlor (m n : Nat) : Int.lor (m : Int) (n : Int) = ((m ||| n : Nat) : Int) := rfl
  have hshift : a.toNat >>> (64 - places) < 2 ^ 64 := by
    rw [Nat.shiftRight_eq_div_pow]
    exact Nat.lt_of_le_of_lt (Nat.div_le_self _ _) a.isLt
  unfold rotated num
  rw [LANE_eq, ← Int.natCast_shiftLeft, ← Int.natCast_shiftRight, hlor, hland, Nat.and_two_pow_sub_one_eq_mod,
    Nat.or_mod_two_pow, Nat.mod_eq_of_lt hshift, BitVec.toNat_rotateLeft, Nat.mod_eq_of_lt h]

theorem rotated_zero (a : BitVec 64) : a.rotateLeft 0 = a := by
  apply BitVec.eq_of_toNat_eq
  rw [BitVec.toNat_rotateLeft, Nat.zero_mod, Nat.shiftLeft_zero, Nat.sub_zero, Nat.mod_eq_of_lt a.isLt,
    Nat.shiftRight_eq_div_pow, Nat.div_eq_of_lt a.isLt, Nat.or_zero]

theorem mixed_num (a b c : BitVec 64) : mixed (num a) (num b) (num c) = num (a ^^^ (~~~b &&& c)) := by
  have hnot : Int.land (Int.lnot (num b)) LANE = num (~~~b) := by
    rw [LANE_eq]
    have hdiff : Int.land (Int.lnot (num b)) ((2 ^ 64 - 1 : Nat) : Int) =
        ((Nat.ldiff (2 ^ 64 - 1) b.toNat : Nat) : Int) := rfl
    rw [hdiff, num]
    congr 1
    apply Nat.eq_of_testBit_eq
    intro i
    rw [Nat.testBit_ldiff, Nat.testBit_two_pow_sub_one, BitVec.testBit_toNat, BitVec.testBit_toNat,
      BitVec.getLsbD_not]
  have hand (a b : BitVec 64) : Int.land (num a) (num b) = num (a &&& b) := by
    unfold num
    rfl
  rw [mixed, hnot, hand, xor_num]

/-! ## The permutation -/

/-- A state of the code that carries a state of lanes. -/
structure Carries (state : List Int) (a : State 64) : Prop where
  length : state.length = 25
  lanes : ∀ x y : Fin 5, laneAt state (x + 5 * y) = num (lane a x y)

variable {state : List Int} {a : State 64}

theorem Carries.parity (h : Carries state a) (x : Fin 5) : laneAt (parityOf state) x = num (parity a x) := by
  have hx : (List.range 5)[(x : Nat)]? = some (x : Nat) := getElem?_range x.isLt
  have h0 := h.lanes x 0
  have h1 := h.lanes x 1
  have h2 := h.lanes x 2
  have h3 := h.lanes x 3
  have h4 := h.lanes x 4
  rw [laneAt, parityOf, getD_eq_getElem?_getD, getElem?_map, hx]
  simp only [Option.map_some, Option.getD_some, Keccak.parity, ← xor_num, ← h0, ← h1, ← h2, ← h3, ← h4]
  rfl

theorem before_eq : ∀ x : Fin 5, ((x : Nat) + 4) % 5 = ((x - 1 : Fin 5) : Nat) := by decide

theorem after_eq : ∀ x : Fin 5, ((x : Nat) + 1) % 5 = ((x + 1 : Fin 5) : Nat) := by decide

theorem Carries.theta (h : Carries state a) : Carries (columnsMixed state) (theta a) := by
  obtain ⟨hlength, hlanes⟩ := columnsMixed_lane h.length
  refine ⟨hlength, fun x y => ?_⟩
  rw [hlanes x x.isLt y y.isLt, changeOf, before_eq, after_eq, h.parity, h.parity, h.lanes,
    rotated_num _ (by decide), xor_num, xor_num, Keccak.theta, lane_ofLanes]

/-- The path the tables are read along is the standard's walk: every place but the first is the destination
of the lane that π brings there, turned by what ρ turns that lane by. -/
theorem path_is_walk : ∀ x y : Fin 5, (x, y) ≠ (0, 0) → ∃ t < 24,
    DESTINATIONS.getD t 0 = (x : Nat) + 5 * y ∧ sourceOf t = ((x + 3 * y : Fin 5) : Nat) + 5 * x ∧
      ROTATIONS.getD t 0 = offset (x + 3 * y) x % 64 := by decide +kernel

theorem first_unmoved : ∀ t < 24, DESTINATIONS.getD t 0 ≠ 0 := by decide

section

variable (h : Carries state a)
include h

theorem Carries.moved : Carries (lanesMoved state) (pi (rho a)) := by
  obtain ⟨hlength, -, hdone, hrest⟩ := carriedOn_run h.length 24 (Nat.le_refl 24)
  refine ⟨hlength, fun x y => ?_⟩
  rw [Keccak.pi, lane_ofLanes, Keccak.rho, lane_ofLanes]
  by_cases hxy : (x, y) = (0, 0)
  · cases hxy
    have hoffset : offset (0 + 3 * 0) 0 = 0 := by decide +kernel
    rw [hoffset, rotated_zero]
    exact (hrest 0 first_unmoved).trans (h.lanes 0 0)
  · obtain ⟨t, ht, hto, hfrom, hby⟩ := path_is_walk x y hxy
    have hlane := hdone t ht
    rw [hto, hfrom, hby, h.lanes, rotated_num _ (Nat.mod_lt _ (by decide)),
      BitVec.rotateLeft_mod_eq_rotateLeft] at hlane
    exact hlane

theorem Carries.chi : Carries (rowsMixed state) (chi a) := by
  obtain ⟨hlength, hlanes, -⟩ := rowsMixed_run 5 state h.length (Nat.le_refl 5)
  refine ⟨hlength, fun x y => ?_⟩
  have hnext : ∀ x : Fin 5, ((x : Nat) + 1) % 5 = ((x + 1 : Fin 5) : Nat) := after_eq
  have hlater : ∀ x : Fin 5, ((x : Nat) + 2) % 5 = ((x + 2 : Fin 5) : Nat) := by decide
  have hplace (x y : Fin 5) : laneAt state (5 * y + x) = num (lane a x y) := by
    rw [Nat.add_comm]
    exact h.lanes x y
  rw [Keccak.chi, lane_ofLanes, ← mixed_num, ← hplace x y, ← hplace (x + 1) y, ← hplace (x + 2) y, ← hnext,
    ← hlater, Nat.add_comm]
  exact hlanes y y.isLt x x.isLt

theorem Carries.iota (constant : BitVec 64) :
    Carries (state.set 0 (Int.xor (laneAt state 0) (num constant))) (iota constant a) := by
  refine ⟨by rw [length_set, h.length], fun x y => ?_⟩
  rw [laneAt_set, Keccak.iota, lane_ofLanes]
  by_cases hxy : x = 0 ∧ y = 0
  · obtain ⟨rfl, rfl⟩ := hxy
    rw [if_pos ⟨rfl, by rw [h.length]; decide⟩, if_pos ⟨rfl, rfl⟩, ← xor_num]
    exact congrArg (Int.xor · (num constant)) (h.lanes 0 0)
  · rw [if_neg hxy, if_neg fun hh => hxy ⟨by omega, by omega⟩, h.lanes]

theorem Carries.round (constant : BitVec 64) : Carries (permuteRound state (num constant)) (round constant a) :=
  h.theta.moved.chi.iota constant

end

theorem ROUND_CONSTANTS_eq : ROUND_CONSTANTS = (List.range 24).map fun i => num (roundConstant i : BitVec 64) := by
  decide +kernel

theorem Carries.rounds (rounds : List Nat) : ∀ {state : List Int} {a : State 64}, Carries state a →
    Carries ((rounds.map fun i => num (roundConstant i : BitVec 64)).foldl permuteRound state)
      (rounds.foldl (fun a i => Keccak.round (roundConstant i) a) a) := by
  induction rounds with
  | nil => exact fun h => h
  | cons i rounds ih =>
    intro state a h
    rw [map_cons, foldl_cons, foldl_cons]
    exact ih (h.round (roundConstant i))

theorem Carries.permute (h : Carries state a) : Carries (permute state) (permutation 24 a) := by
  unfold Contract.permute
  exact h.rounds (List.range 24)

/-! ## The block -/

def bytesOf (body : Text) : List (BitVec 8) := body.map fun u => BitVec.ofNat 8 u.val

theorem written_range {α : Type} (value : Nat → α) (held : List α) : ∀ n ≤ held.length,
    (List.range n).foldl (fun held i => held.set i (value i)) held = (List.range n).map value ++ held.drop n := by
  intro n
  induction n with
  | zero => exact fun _ => rfl
  | succ n ih =>
    intro hn
    have hdrop : held.drop n = held[n] :: held.drop (n + 1) := drop_eq_getElem_cons (by omega)
    rw [range_succ, foldl_append, ih (by omega), map_append, foldl_cons, foldl_nil,
      set_append_right _ _ (by simp), length_map, length_range, Nat.sub_self, hdrop,
      set_cons_zero, append_assoc]
    rfl

theorem bytesOf_eq {body : Text} (hlen : body.length = ADDRESS_LENGTH) :
    (List.range ADDRESS_LENGTH).map (fun i => (body[i]?.map fun u => u.val % 256).getD 0) =
      (bytesOf body).map BitVec.toNat := by
  apply ext_getElem
  · simp [bytesOf, hlen]
  · intro i h₁ h₂
    have hi : i < body.length := by simpa [bytesOf] using h₂
    simp [bytesOf, hi]

theorem blockOf_eq {body : Text} (hlen : body.length = ADDRESS_LENGTH) :
    blockOf body = (padded (bytesOf body)).map BitVec.toNat := by
  have hbytes : (bytesOf body).length = 40 := by rw [bytesOf, length_map, hlen, ADDRESS_LENGTH]
  have hpadded : padded (bytesOf body) = bytesOf body ++ 0x01 :: (List.replicate 94 0 ++ [0x80]) := by
    rw [padded, hbytes]
    rfl
  have hrest : (((List.replicate BLOCK_BYTES 0).drop ADDRESS_LENGTH).set 0 1).set 95 0x80 =
      ((0x01 : BitVec 8) :: (List.replicate 94 0 ++ [0x80])).map BitVec.toNat := by decide
  have hmap : ((bytesOf body).map BitVec.toNat).length = 40 := by rw [length_map, hbytes]
  rw [hpadded, map_append, ← hrest]
  unfold blockOf
  dsimp only
  rw [written_range _ _ _ (by rw [length_replicate]; decide), bytesOf_eq hlen,
    set_append_right _ _ (by rw [hmap]; decide),
    set_append_right _ _ (by rw [hmap]; decide), hmap]
  rfl

theorem read_eq (bytes : List (BitVec 8)) :
    (bytes.map BitVec.toNat).foldr (fun byte (value : Int) => Int.lor (value <<< (8 : Nat)) (byte : Nat)) 0 =
      ((Nat.ofDigits 256 (bytes.map BitVec.toNat) : Nat) : Int) := by
  induction bytes with
  | nil => rfl
  | cons byte bytes ih =>
    have hbyte : byte.toNat < 2 ^ 8 := byte.isLt
    rw [map_cons, foldr_cons, ih, Nat.ofDigits_cons, ← Int.natCast_shiftLeft]
    have hlor (m n : Nat) : Int.lor (m : Int) (n : Int) = ((m ||| n : Nat) : Int) := rfl
    rw [hlor, ← Nat.shiftLeft_add_eq_or_of_lt hbyte, Nat.shiftLeft_eq]
    congr 1
    omega

variable {i : Nat} {bytes : List (BitVec 8)}

theorem eight_bytes {block : List Nat} (h : 8 * i + 8 ≤ block.length) :
    (List.range 8).map (fun byte => block.getD (i * 8 + byte) 0) = (block.drop (8 * i)).take 8 := by
  apply ext_getElem
  · simp
    omega
  · intro j h₁ h₂
    have hj : j < 8 := by simpa using h₁
    have hlt : 8 * i + j < block.length := by omega
    simp [Nat.mul_comm i 8, hlt]

theorem laneRead_eq (h : 8 * i + 8 ≤ bytes.length) :
    laneRead (bytes.map BitVec.toNat) i = num (laneOf ((bytes.drop (8 * i)).take 8)) := by
  have hread : laneRead (bytes.map BitVec.toNat) i =
      ((List.range 8).map fun byte => (bytes.map BitVec.toNat).getD (i * 8 + byte) 0).foldr
        (fun byte (value : Int) => Int.lor (value <<< (8 : Nat)) (byte : Nat)) 0 := rfl
  have hlt : Nat.ofDigits 256 (((bytes.drop (8 * i)).take 8).map BitVec.toNat) < 2 ^ 64 := by
    have hbytes : ∀ n ∈ ((bytes.drop (8 * i)).take 8).map BitVec.toNat, n < 256 := by
      intro n hn
      obtain ⟨byte, -, rfl⟩ := mem_map.mp hn
      exact byte.isLt
    have hlength : (((bytes.drop (8 * i)).take 8).map BitVec.toNat).length = 8 := by
      simp
      omega
    have := Nat.ofDigits_lt_base_pow_length (by decide) hbytes
    rwa [hlength] at this
  rw [hread, eight_bytes (by rwa [length_map]), ← map_drop, ← map_take, read_eq, num, laneOf,
    BitVec.toNat_ofNat, Nat.mod_eq_of_lt hlt]

theorem stateOf_carries (h : bytes.length = BLOCK_BYTES) :
    Carries (stateOf (bytes.map BitVec.toNat)) (absorbed (Vector.replicate 25 0) bytes) := by
  have hstate : stateOf (bytes.map BitVec.toNat) =
      (List.range 17).map (laneRead (bytes.map BitVec.toNat)) ++ (List.replicate 25 0).drop 17 :=
    written_range _ _ _ (by decide)
  rw [BLOCK_BYTES] at h
  refine ⟨by rw [hstate]; simp, fun x y => ?_⟩
  have hzero : lane (Vector.replicate 25 (0 : BitVec 64)) x y = 0 := by simp [lane]
  rw [hstate, absorbed, lane_ofLanes, hzero, laneAt]
  have hxor (a : BitVec 64) : 0 ^^^ a = a := BitVec.zero_xor
  rw [hxor]
  by_cases hi : (x : Nat) + 5 * y < 17
  · have hplace : ((place x y : Fin 25) : Nat) = x + 5 * y := rfl
    rw [getD_append _ _ _ _ (by simpa using hi), ← laneRead_eq (by rw [hplace]; omega), hplace,
      getD_eq_getElem?_getD, getElem?_map, getElem?_range hi]
    rfl
  · have hnone : bytes.drop (8 * (place x y : Nat)) = [] := drop_eq_nil_of_le (by
      show bytes.length ≤ 8 * (x + 5 * y : Nat)
      omega)
    rw [getD_append_right _ _ _ _ (by simpa using hi), hnone, drop_replicate,
      getD_eq_getElem?_getD, getElem?_replicate]
    split
    · rfl
    · rfl

theorem checksumState_carries {body : Text} (hlen : body.length = ADDRESS_LENGTH) : Carries (checksumState body)
      (permutation 24 (absorbed (Vector.replicate 25 0) (padded (bytesOf body)))) := by
  have hpadded : (padded (bytesOf body)).length = BLOCK_BYTES := by
    have hbytes : (bytesOf body).length = 40 := by rw [bytesOf, length_map, hlen, ADDRESS_LENGTH]
    rw [padded, hbytes]
    simp [hbytes, rate, BLOCK_BYTES]
  unfold checksumState
  rw [blockOf_eq hlen]
  exact (stateOf_carries hpadded).permute

/-! ## The digits -/

def hexOf (byte : BitVec 8) : Text := [hexDigit (byte.toNat / 16), hexDigit (byte.toNat % 16)]

/-- A byte of the state, counted along its lanes. -/
def digestByte (state : List Int) (i : Nat) : Int := Int.land (laneAt state (i / 8) >>> (8 * (i % 8))) 0xff

theorem byteDigits_eq : ∀ n < 256, byteDigits (n : Nat) = [hexDigit (n / 16), hexDigit (n % 16)] := by
  decide +kernel

section

variable (v : BitVec 64)

theorem masked_num (k : Nat) : Int.land (num v >>> (8 * k)) 0xff = num (v.extractLsb' (8 * k) 8) := by
  have hland (m n : Nat) : Int.land (m : Int) (n : Int) = ((m &&& n : Nat) : Int) := rfl
  have hmask : (0xff : Int) = ((2 ^ 8 - 1 : Nat) : Int) := rfl
  unfold num
  rw [hmask, ← Int.natCast_shiftRight, hland, Nat.and_two_pow_sub_one_eq_mod, BitVec.extractLsb'_toNat]

theorem laneDigits_run (n : Nat) : (List.range n).foldl (fun (held : Text × Int) _ =>
        (held.1 ++ byteDigits (Int.land held.2 0xff), held.2 >>> (8 : Nat))) ([], num v) =
      ((List.range n).flatMap fun k => hexOf (v.extractLsb' (8 * k) 8), num v >>> (8 * n)) := by
  induction n with
  | zero => simp
  | succ n ih =>
    have hbyte : byteDigits (Int.land (num v >>> (8 * n)) 0xff) = hexOf (v.extractLsb' (8 * n) 8) := by
      rw [masked_num]
      exact byteDigits_eq _ (v.extractLsb' (8 * n) 8).isLt
    rw [range_succ, foldl_append, ih, foldl_cons, foldl_nil, hbyte, flatMap_append,
      ← Int.shiftRight_add, Nat.mul_succ, flatMap_cons, flatMap_nil, append_nil]

theorem laneDigits_num : laneDigits (num v) = (List.range 8).flatMap fun k => hexOf (v.extractLsb' (8 * k) 8) := by
  rw [laneDigits, laneDigits_run]

theorem laneDigits_length : (laneDigits (num v)).length = 16 := by
  rw [laneDigits_num]
  rfl

end

section

variable (h : Carries state a)
include h

theorem Carries.laneAt_first {i : Nat} (hi : i < 5) : laneAt state i = num (a.getD i 0) := by
  have hlane := h.lanes ⟨i, hi⟩ 0
  have hget : lane a ⟨i, hi⟩ 0 = a.getD i 0 := by
    have hlt : i < 25 := by omega
    simp [lane, place, Vector.getD, hlt]
  rw [← hget, ← hlane]
  rfl

theorem digitsFrom_eq :
    digitsFrom state ADDRESS_LENGTH 0 [] = (List.range 24).flatMap fun i => hexOf (byteAt a i) := by
  have hlanes : (List.range 24).flatMap (fun i => hexOf (byteAt a i)) =
      ([] ++ laneDigits (laneAt state 0) ++ laneDigits (laneAt state 1)) ++ laneDigits (laneAt state 2) := by
    rw [h.laneAt_first (by decide), h.laneAt_first (by decide), h.laneAt_first (by decide), laneDigits_num,
      laneDigits_num, laneDigits_num]
    rfl
  have hlength (i : Nat) (hi : i < 5) : (laneDigits (laneAt state i)).length = 16 := by
    rw [h.laneAt_first hi, laneDigits_length]
  have hstep (fuel lane : Nat) (digits : Text) (hd : digits.length < ADDRESS_LENGTH) :
      digitsFrom state (fuel + 1) lane digits =
        digitsFrom state fuel (lane + 1) (digits ++ laneDigits (laneAt state lane)) := by
    rw [digitsFrom, if_pos hd]
  have hstop (fuel lane : Nat) (digits : Text) (hd : ADDRESS_LENGTH ≤ digits.length) :
      digitsFrom state (fuel + 1) lane digits = digits := by
    rw [digitsFrom, if_neg (Nat.not_lt.mpr hd)]
  have h0 := hlength 0 (by decide)
  have h1 := hlength 1 (by decide)
  have h2 := hlength 2 (by decide)
  rw [hlanes, show ADDRESS_LENGTH = 36 + 1 + 1 + 1 + 1 from rfl, hstep, hstep, hstep, hstop]
  all_goals simp only [length_append, length_nil, h0, h1, h2, ADDRESS_LENGTH]
  all_goals omega

theorem Carries.digest : (List.range 32).map (digestByte state) = ((List.range 32).map (byteAt a)).map num := by
  rw [map_map]
  refine map_congr_left fun i hi => ?_
  have hi := mem_range.mp hi
  rw [digestByte, h.laneAt_first (by omega), masked_num]
  rfl

theorem Carries.digits : (digitsFrom state ADDRESS_LENGTH 0 []).take ADDRESS_LENGTH =
      (((List.range 32).map (byteAt a)).flatMap hexOf).take ADDRESS_LENGTH := by
  have hbytes : List.range 32 = List.range 24 ++ (List.range 8).map (24 + ·) := by decide
  have hlength : ADDRESS_LENGTH ≤ ((List.range 24).flatMap fun i => hexOf (byteAt a i)).length := by
    have htwo (i : Nat) : (hexOf (byteAt a i)).length = 2 := rfl
    simp only [length_flatMap, htwo, map_const', length_range, sum_replicate_nat, ADDRESS_LENGTH]
    decide
  rw [digitsFrom_eq h, flatMap_map, hbytes, flatMap_append, take_append_of_le_length hlength]

end

theorem keccak256_block {message : List (BitVec 8)} (h : message.length = 40) : keccak256 message =
      (List.range 32).map (byteAt (permutation 24 (absorbed (Vector.replicate 25 0) (padded message)))) := by
  have hpadded : (padded message).length = rate := by
    rw [padded, h]
    simp [h, rate]
  have hblocks : blocks (padded message) = [padded message] := by
    rw [blocks, hpadded, Nat.div_self (by decide)]
    simp [← hpadded]
  rw [keccak256, hblocks, foldl_cons, foldl_nil]

/-- **The digest is Keccak-256**: of every body of forty characters, the bytes of the state the digits are taken
from are those of its Keccak-256, and the digits are the first forty of these bytes written out. -/
theorem checksumDigits_keccak (body : Text) (hlen : body.length = ADDRESS_LENGTH) :
    (List.range 32).map (digestByte (checksumState body)) = (keccak256 (bytesOf body)).map num ∧
      checksumDigits body = ((keccak256 (bytesOf body)).flatMap hexOf).take ADDRESS_LENGTH := by
  have h := checksumState_carries hlen
  have hbytes : (bytesOf body).length = 40 := by rw [bytesOf, List.length_map, hlen, ADDRESS_LENGTH]
  rw [keccak256_block hbytes]
  exact ⟨h.digest, h.digits⟩

/-- An address of a wallet, in lower case. -/
def sampleBody : Text := text "5aaeb6053f3e94c9b9a09f33669435e7ef1beaed"

theorem checksumDigits_sample :
    (List.range 32).map (digestByte (checksumState sampleBody)) = (keccak256 (bytesOf sampleBody)).map num ∧
      checksumDigits sampleBody = ((keccak256 (bytesOf sampleBody)).flatMap hexOf).take ADDRESS_LENGTH :=
  checksumDigits_keccak sampleBody (by decide +kernel)

end Coinslot.Contract
