import Mathlib.Data.Nat.Digits.Defs
import Mathlib.Data.List.Basic

/-!
# Keccak

The permutation Keccak-f and the sponge over it, as the standard describes them: the state is five
by five lanes of `w` bits, a round is the five step mappings θ, ρ, π, χ and ι in that order, and
what the steps use beside the state (how far ρ turns each lane, what ι adds in each round) is
computed from the standard's own recipes rather than written down as tables.

Keccak-256 is the sponge at a rate of 1088 bits over lanes of 64, with the padding Keccak was
published with: a marker `0x01` where the message ends and the top bit of the last byte of the
block.
-/

namespace Keccak

/-- The state: twenty-five lanes, the lane of column `x` and row `y` at `x + 5 * y`. -/
abbrev State (w : Nat) := Vector (BitVec w) 25

section Steps

variable {w : Nat}

/-- Where the lane of a column and a row stands. -/
def place (x y : Fin 5) : Fin 25 := ⟨x + 5 * y, by omega⟩

def lane (a : State w) (x y : Fin 5) : BitVec w := a[place x y]

/-- The state whose lanes a function of column and row gives. -/
def ofLanes (f : Fin 5 → Fin 5 → BitVec w) : State w :=
  Vector.ofFn fun i => f ⟨i % 5, Nat.mod_lt _ (by decide)⟩ ⟨i / 5, by omega⟩

@[simp] theorem lane_ofLanes (f : Fin 5 → Fin 5 → BitVec w) (x y : Fin 5) : lane (ofLanes f) x y = f x y := by
  have hx : ((x : Nat) + 5 * y) % 5 = x := by omega
  have hy : ((x : Nat) + 5 * y) / 5 = y := by omega
  simp [lane, ofLanes, place, hx, hy]

def parity (a : State w) (x : Fin 5) : BitVec w :=
  lane a x 0 ^^^ lane a x 1 ^^^ lane a x 2 ^^^ lane a x 3 ^^^ lane a x 4

/-- θ: every lane takes in the parities of the column before its own and, turned by one bit, of the
column after. -/
def theta (a : State w) : State w :=
  ofLanes fun x y => lane a x y ^^^ (parity a (x - 1) ^^^ (parity a (x + 1)).rotateLeft 1)

/-- The walk over the lanes that ρ counts its offsets along. -/
def walk : Nat → Fin 5 × Fin 5
  | 0 => (1, 0)
  | t + 1 => ((walk t).2, 2 * (walk t).1 + 3 * (walk t).2)

/-- How far ρ turns a lane: the triangular number of the step of the walk that reaches it. -/
def offset (x y : Fin 5) : Nat :=
  match (List.range 24).find? fun t => walk t = (x, y) with
  | some t => (t + 1) * (t + 2) / 2
  | none => 0

def rho (a : State w) : State w := ofLanes fun x y => (lane a x y).rotateLeft (offset x y)

/-- π: the lanes change places. -/
def pi (a : State w) : State w := ofLanes fun x y => lane a (x + 3 * y) x

/-- χ: every lane is mixed with the next two of its row. -/
def chi (a : State w) : State w := ofLanes fun x y => lane a x y ^^^ (~~~lane a (x + 1) y &&& lane a (x + 2) y)

/-- ι: the round's constant goes into the first lane. -/
def iota (constant : BitVec w) (a : State w) : State w :=
  ofLanes fun x y => if x = 0 ∧ y = 0 then lane a x y ^^^ constant else lane a x y

def round (constant : BitVec w) (a : State w) : State w := iota constant (chi (pi (rho (theta a))))

/-! ## The constants of ι -/

/-- One step of the shift register over `x^8 + x^6 + x^5 + x^4 + 1`. -/
def shifted (register : Nat) : Nat := if register.testBit 7 then (2 * register) ^^^ 0x171 else 2 * register

/-- The bit the register gives after `t` steps. -/
def registerBit (t : Nat) : Bool := (shifted^[t % 255] 1).testBit 0

/-- The constant of a round: the register's bits at the places `2 ^ j - 1`, as far as the lane is wide. -/
def roundConstant (i : Nat) : BitVec w :=
  ((List.range 7).map fun j =>
    if registerBit (j + 7 * i) then BitVec.ofNat w (2 ^ (2 ^ j - 1)) else 0).foldr (· ^^^ ·) 0

def permutation (rounds : Nat) (a : State w) : State w :=
  (List.range rounds).foldl (fun a i => round (roundConstant i) a) a

end Steps

/-! ## The sponge -/

/-- The bytes of a block of Keccak-256: 1088 bits. -/
def rate : Nat := 136

/-- The message with its padding, a whole number of blocks. -/
def padded (message : List (BitVec 8)) : List (BitVec 8) :=
  let room := rate - message.length % rate
  if room = 1 then message ++ [0x81]
  else message ++ 0x01 :: (List.replicate (room - 2) 0 ++ [0x80])

def blocks (bytes : List (BitVec 8)) : List (List (BitVec 8)) :=
  (List.range (bytes.length / rate)).map fun i => (bytes.drop (rate * i)).take rate

/-- A lane read out of eight bytes, the least significant first. -/
def laneOf (bytes : List (BitVec 8)) : BitVec 64 := BitVec.ofNat 64 (Nat.ofDigits 256 (bytes.map BitVec.toNat))

/-- A block taken into the state: its bytes fill the first lanes, and the other lanes take in
nothing. -/
def absorbed (a : State 64) (block : List (BitVec 8)) : State 64 :=
  ofLanes fun x y => lane a x y ^^^ laneOf ((block.drop (8 * place x y)).take 8)

/-- One byte of the state, counted along its lanes. -/
def byteAt (a : State 64) (i : Nat) : BitVec 8 := (a.getD (i / 8) 0).extractLsb' (8 * (i % 8)) 8

/-- Keccak-256 of a message: the first thirty-two bytes of the state that the blocks leave. -/
def keccak256 (message : List (BitVec 8)) : List (BitVec 8) :=
  (List.range 32).map
    (byteAt ((blocks (padded message)).foldl (fun a block => permutation 24 (absorbed a block))
      (Vector.replicate 25 0)))

end Keccak
