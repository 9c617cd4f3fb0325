import Mathlib.Data.List.Infix
import Coinslot.Lib.IpText

/-!
# Which addresses are public

The check of the scanner (`packages/scanner/src/ip.ts`) that an address it is about to reach is a public one:
blocks of IPv4 addresses, prefixes of IPv6 addresses, and for an IPv6 address that an IPv4 address is mapped
to, the blocks again. An IPv6 address is read by rewriting it: to lower case, without its zone, with what is
written as an IPv4 address written as two words.
-/

namespace Coinslot

open IpText

/-- Why an address is not public. -/
inductive IpBlockReason where
  | invalidIp
  | unspecified
  | loopback
  | «private»
  | carrierGradeNat
  | linkLocal
  | multicast
  | documentation
  | benchmark
  | reserved
  | metadata
  deriving DecidableEq, Repr

/-- A reason, as errors name it. -/
def IpBlockReason.text : IpBlockReason → String
  | invalidIp => "invalid_ip"
  | unspecified => "unspecified"
  | loopback => "loopback"
  | «private» => "private"
  | carrierGradeNat => "carrier_grade_nat"
  | linkLocal => "link_local"
  | multicast => "multicast"
  | documentation => "documentation"
  | benchmark => "benchmark"
  | reserved => "reserved"
  | metadata => "metadata"

/-- What an address is found to be. -/
inductive IpClassification where
  | allowed (family : Nat)
  | blocked (family : Option Nat) (reason : IpBlockReason)
  deriving DecidableEq, Repr

/-- Whether an address is found to be public. -/
def IpClassification.isAllowed : IpClassification → Bool
  | allowed _ => true
  | blocked _ _ => false

/-! ## IPv4 -/

/-- A block of IPv4 addresses. -/
structure V4Range where
  network : Nat
  bits : Nat
  reason : IpBlockReason
  deriving DecidableEq, Repr

/-- The number of an IPv4 address, with one more part of it. -/
def v4Octet (result : Nat) (part : List Char) : Option Nat :=
  if part = [] ∨ 3 < part.length ∨ ¬ part.all (· ∈ digits) then none
  else
    let octet := Nat.ofDigitChars 10 part 0
    if 255 < octet then none else some ((result * 256 + octet) % 2 ^ 32)

/-- The number of an IPv4 address. -/
def v4 (value : List Char) : Option Nat :=
  let parts := value.splitOn '.'
  if parts.length ≠ 4 then none else parts.foldlM v4Octet 0

/-- A block, by the text of its first address. -/
def cidr4 (network : String) (bits : Nat) (reason : IpBlockReason) : Except String V4Range :=
  match v4 network.toList with
  | none => .error ("Invalid internal CIDR: " ++ network)
  | some parsed => .ok ⟨parsed, bits, reason⟩

/-- The blocks that are not public, as the module makes them when it is loaded. -/
def loadV4Blocks : Except String (List V4Range) :=
  [cidr4 "0.0.0.0" 8 .unspecified,
    cidr4 "10.0.0.0" 8 .private,
    cidr4 "100.64.0.0" 10 .carrierGradeNat,
    cidr4 "127.0.0.0" 8 .loopback,
    cidr4 "169.254.0.0" 16 .linkLocal,
    cidr4 "172.16.0.0" 12 .private,
    cidr4 "192.0.0.0" 24 .reserved,
    cidr4 "192.0.2.0" 24 .documentation,
    cidr4 "192.88.99.0" 24 .reserved,
    cidr4 "192.168.0.0" 16 .private,
    cidr4 "198.18.0.0" 15 .benchmark,
    cidr4 "198.51.100.0" 24 .documentation,
    cidr4 "203.0.113.0" 24 .documentation,
    cidr4 "224.0.0.0" 4 .multicast,
    cidr4 "240.0.0.0" 4 .reserved].mapM id

def v4Blocks : List V4Range := loadV4Blocks.toOption.getD []

/-- Whether an address is in a block. -/
def isInV4Range (address network bits : Nat) : Bool :=
  if bits = 0 then true
  else
    let mask := (0xffffffff <<< (32 - bits)) % 2 ^ 32
    (address &&& mask) = (network &&& mask)

def v4Block (address : Nat) : Option V4Range :=
  v4Blocks.find? fun block => isInV4Range address block.network block.bits

/-! ## IPv6 -/

/-- Whether a text is four decimal numbers between dots. -/
def isDotted (text : List Char) : Bool :=
  let parts := text.splitOn '.'
  parts.length = 4 && parts.all fun part => part ≠ [] && part.all (· ∈ digits)

section

variable (value : List Char)

/-- The first end of a text that is four decimal numbers between dots. -/
def dottedTail : Option (List Char) := value.tails.find? isDotted

/-- Writes what is written as an IPv4 address at the end as two words. -/
def withoutDots : Option (List Char) :=
  match dottedTail value with
  | none => some value
  | some ipv4Tail =>
    (v4 ipv4Tail).map fun parsed =>
      value.take (value.length - ipv4Tail.length) ++ Nat.toDigits 16 (parsed >>> 16 &&& 0xffff) ++
        ':' :: Nat.toDigits 16 (parsed &&& 0xffff)

/-- The words of a text, as many as it takes zeroes for a double colon. -/
def expand : Option (List (List Char)) :=
  let halves := splitColons value
  if 2 < halves.length then none
  else
    let wordsOf (half : List Char) := if half = [] then [] else half.splitOn ':'
    let left := wordsOf (halves.getD 0 [])
    let right := wordsOf (halves.getD 1 [])
    if halves.length = 1 ∧ left.length ≠ 8 then none
    else
      let missing : Int := 8 - left.length - right.length
      if missing < (if halves.length = 2 then 1 else 0) then none
      else some (left ++ List.replicate missing.toNat ['0'] ++ right)

end

/-- The words of an IPv6 address. -/
def parseIpv6 (input : List Char) : Option (List Nat) := do
  let value := (input.map Char.toLower).takeWhile (· ≠ '%')
  let value ← withoutDots value
  let words ← expand value
  if words.length ≠ 8 ||
      words.any fun word => word = [] || 4 < word.length || !word.all (· ∈ lowerHexDigits) then none
  else some (words.map ofHex)

/-- Whether words begin with some bits of others. -/
def hasPrefix (words start : List Nat) (bits : Nat) : Bool :=
  (List.range ((bits + 15) / 16)).all fun index =>
    let used := min 16 (bits - index * 16)
    let mask := if used = 16 then 0xffff else (0xffff <<< (16 - used)) &&& 0xffff
    (words.getD index 0 &&& mask) = (start.getD index 0 &&& mask)

/-! ## Addresses -/

/-- What an IPv6 address is found to be, by its words. -/
def classifyWords (words : List Nat) : IpClassification :=
  if words.all (· = 0) then .blocked (some 6) .unspecified
  else if (words.take 7).all (· = 0) && words.getD 7 0 = 1 then .blocked (some 6) .loopback
  else if hasPrefix words [0xfc00] 7 then .blocked (some 6) .private
  else if hasPrefix words [0xfe80] 10 then .blocked (some 6) .linkLocal
  else if hasPrefix words [0xff00] 8 then .blocked (some 6) .multicast
  else if hasPrefix words [0x2001, 0x0db8] 32 then .blocked (some 6) .documentation
  else if hasPrefix words [0x2001, 0x0002] 48 then .blocked (some 6) .benchmark
  else if hasPrefix words [0x2001, 0x0010] 28 then .blocked (some 6) .reserved
  else if hasPrefix words [0x0000, 0, 0, 0, 0, 0xffff] 96 then
    let mapped := (words.getD 6 0 <<< 16 ||| words.getD 7 0) % 2 ^ 32
    match v4Block mapped with
    | some block => .blocked (some 6) block.reason
    | none => .allowed 6
  else .allowed 6

/-- What an address is found to be. -/
def classifyIp (address : String) : IpClassification :=
  let family := isIP address.toList
  if family = 4 then
    match v4 address.toList with
    | none => .blocked none .invalidIp
    | some parsed =>
      match v4Block parsed with
      | some block => .blocked (some 4) block.reason
      | none => .allowed 4
  else if family ≠ 6 then .blocked none .invalidIp
  else
    match parseIpv6 address.toList with
    | none => .blocked (some 6) .invalidIp
    | some words => classifyWords words

/-- Refuses an address that is not public. -/
def assertPublicAddress (address : String) : Except String Unit :=
  match classifyIp address with
  | .allowed _ => .ok ()
  | .blocked _ reason => .error ("ssrf_blocked:" ++ reason.text)

def assertPublicAddresses (addresses : List String) : Except String Unit :=
  if addresses = [] then .error "dns_no_answers" else addresses.forM assertPublicAddress

example : classifyIp "::ffff:127.0.0.1" = .blocked (some 6) .loopback := by decide +kernel

example : classifyIp "2606:4700:4700::1111" = .allowed 6 := by decide +kernel

end Coinslot
