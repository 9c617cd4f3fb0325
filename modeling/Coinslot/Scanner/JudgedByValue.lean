import Coinslot.Lib.Cidr
import Coinslot.Scanner.HiddenIps

/-!
# An address is judged by its value

Every text that is an internet address stands for 32 or 128 bits (`readIp`), in whatever spelling. The check reads
these bits, and what it compares with its masks is whether they begin with the bits of a block (`isInV4Range_iff`,
`hasPrefix_iff`). So an address is refused where its bits are in a listed block, and two spellings of it are judged
alike (`judged_by_value`).
-/

namespace Coinslot

open IpText Cidr

/-! ## What an address is -/

/-- An internet address, by its bits. -/
inductive IpAddress where
  | v4 (bits : Nat)
  | v6 (bits : Nat)
  deriving DecidableEq, Repr

/-- How many bits the addresses of a family have. -/
def IpAddress.width : IpAddress → Nat
  | v4 _ => 32
  | v6 _ => 128

/-- The number of an address. -/
def IpAddress.bits : IpAddress → Nat
  | v4 bits => bits
  | v6 bits => bits

/-- The address a text says. A zone says nothing of it. -/
def readIp (text : List Char) : Option IpAddress :=
  match readIpv4 text with
  | some n => some (.v4 n)
  | none => (readIpv6 text).map fun words => .v6 (ofWords words)

/-- The IPv6 blocks that are not public. -/
def v6Blocks : List (List Nat × Nat) :=
  [([0, 0, 0, 0, 0, 0, 0, 0], 128),
    ([0, 0, 0, 0, 0, 0, 0, 1], 128),
    ([0xfc00, 0, 0, 0, 0, 0, 0, 0], 7),
    ([0xfe80, 0, 0, 0, 0, 0, 0, 0], 10),
    ([0xff00, 0, 0, 0, 0, 0, 0, 0], 8),
    ([0x2001, 0xdb8, 0, 0, 0, 0, 0, 0], 32),
    ([0x2001, 0x2, 0, 0, 0, 0, 0, 0], 48),
    ([0x2001, 0x10, 0, 0, 0, 0, 0, 0], 28)]

def V4Listed (n : Nat) : Prop := ∃ block ∈ v4Blocks, InBlock 32 block.network block.bits n

/-- Whether the bits of an address are in a listed block. An address that an IPv4 address is mapped to is judged by
that one. -/
def IpAddress.Listed : IpAddress → Prop
  | v4 n => V4Listed n
  | v6 n => (∃ block ∈ v6Blocks, InBlock 128 (ofWords block.1) block.2 n) ∨
      InBlock 128 (ofWords [0, 0, 0, 0, 0, 0xffff, 0, 0]) 96 n ∧ V4Listed (n % 2 ^ 32)

/-- Whether the parsers of the check read an address from a text. -/
def ParsedAs (text : List Char) : IpAddress → Prop
  | .v4 n => v4 text = some n
  | .v6 n => ∃ words, parseIpv6 text = some words ∧ words.length = 8 ∧ (∀ word ∈ words, word < 65536) ∧
      ofWords words = n

/-! ## What the masks compare -/

theorem isInV4Range_iff (n network bits : Nat) : isInV4Range n network bits = true ↔ InBlock 32 network bits n := by
  unfold isInV4Range
  split
  · next hnone =>
    refine iff_of_true rfl fun i hi hlow => ?_
    omega
  · have hmask : (0xffffffff : Nat) = 2 ^ 32 - 1 := rfl
    simp only [decide_eq_true_eq, hmask, and_eq_and_iff, testBit_mask]
    exact ⟨fun h i hi hlow => h i ⟨hlow, hi⟩, fun h i hi => h i hi.2 hi.1⟩

variable {words : List Nat}

theorem hasPrefix_iff {start : List Nat} {bits : Nat} (hlength : words.length = 8)
    (hwords : ∀ word ∈ words, word < 65536) (hstart : start.length ≤ 8) (hstarts : ∀ word ∈ start, word < 65536)
    (hbits : bits ≤ 128) : hasPrefix words start bits = true ↔
      InBlock 128 (ofWords (start ++ List.replicate (8 - start.length) 0)) bits (ofWords words) := by
  have hlength' : (start ++ List.replicate (8 - start.length) 0).length = 8 := by
    rw [List.length_append, List.length_replicate]
    omega
  have hwords' : ∀ word ∈ start ++ List.replicate (8 - start.length) 0, word < 65536 := by
    intro word hword
    rcases List.mem_append.1 hword with hword | hword
    · exact hstarts word hword
    · rw [List.eq_of_mem_replicate hword]
      decide
  have hgetD (index : Nat) : (start ++ List.replicate (8 - start.length) 0).getD index 0 = start.getD index 0 := by
    rcases Nat.lt_or_ge index start.length with hlt | hge
    · exact List.getD_append _ _ _ _ hlt
    · rw [List.getD_append_right _ _ _ _ hge, List.getD_eq_default _ _ hge]
      simp [List.getD_eq_getElem?_getD, List.getElem?_replicate]
      split <;> rfl
  have hmask (used : Nat) : (if used = 16 then 0xffff else (0xffff <<< (16 - used)) &&& 0xffff : Nat) =
      ((2 ^ 16 - 1) <<< (16 - used)) % 2 ^ 16 := by
    rw [← Nat.and_two_pow_sub_one_eq_mod]
    split
    · next hall =>
      subst hall
      rfl
    · rfl
  simp only [hasPrefix, hmask, List.all_eq_true, List.mem_range, decide_eq_true_eq, and_eq_and_iff, testBit_mask]
  constructor
  · intro h i hi hlow
    rw [testBit_ofWords hwords (by omega), testBit_ofWords hwords' (by omega), hlength, hlength', hgetD]
    exact h (8 - 1 - i / 16) (by omega) (i % 16) ⟨by omega, by omega⟩
  · intro h index hindex j hj
    have hbit := h ((7 - index) * 16 + j) (by omega) (by omega)
    rw [testBit_ofWords hwords (by omega), testBit_ofWords hwords' (by omega), hlength, hlength', hgetD] at hbit
    have hword : 8 - 1 - ((7 - index) * 16 + j) / 16 = index := by omega
    have hmod : ((7 - index) * 16 + j) % 16 = j := by omega
    rwa [hword, hmod] at hbit

/-! ## What the parsers read -/

theorem parseIpv6_length {text : List Char} (h : parseIpv6 text = some words) : words.length = 8 := by
  simp only [parseIpv6, Option.bind_eq_bind, Option.bind_eq_some_iff] at h
  obtain ⟨value, -, ps, -, h⟩ := h
  split at h
  · cases h
  · next hwritten =>
    cases h
    rw [Bool.or_eq_true, not_or] at hwritten
    simpa using hwritten.1

/-- **The parsers read the bits of an address.** -/
theorem parsedAs_of_readIp {text : List Char} {a : IpAddress} (h : readIp text = some a) : ParsedAs text a := by
  unfold readIp at h
  split at h
  · next n hn =>
    cases h
    exact v4_eq hn
  · obtain ⟨words, hwords, rfl⟩ := Option.map_eq_some_iff.1 h
    have hparsed := parseIpv6_eq hwords
    exact ⟨words, hparsed, parseIpv6_length hparsed, parseIpv6_lt hparsed, rfl⟩

theorem v4Block_isSome_iff (n : Nat) : (v4Block n).isSome = true ↔ V4Listed n := by
  simp only [v4Block, List.find?_isSome, isInV4Range_iff, V4Listed]

/-! ## What the words come to -/

theorem eight_words (h : words.length = 8) : ∃ a b c d e f g i, words = [a, b, c, d, e, f, g, i] :=
  match words, h with
  | [a, b, c, d, e, f, g, i], _ => ⟨a, b, c, d, e, f, g, i, rfl⟩

theorem hasPrefix_all {start : List Nat} (hlength : words.length = 8) (hstart : start.length = 8)
    (hwords : ∀ word ∈ words, word < 65536) (hstarts : ∀ word ∈ start, word < 65536) :
    hasPrefix words start 128 = true ↔ words = start := by
  have hmask {n m : Nat} (hn : n < 65536) (hm : m < 65536) : (n &&& 0xffff) = (m &&& 0xffff) ↔ n = m := by
    rw [show (0xffff : Nat) = 2 ^ 16 - 1 from rfl, Nat.and_two_pow_sub_one_eq_mod, Nat.and_two_pow_sub_one_eq_mod,
      Nat.mod_eq_of_lt hn, Nat.mod_eq_of_lt hm]
  obtain ⟨a, b, c, d, e, f, g, i, rfl⟩ := eight_words hlength
  obtain ⟨a', b', c', d', e', f', g', i', rfl⟩ := eight_words hstart
  simp only [List.forall_mem_cons] at hwords hstarts
  obtain ⟨ha, hb, hc, hd, he, hf, hg, hi, -⟩ := hwords
  obtain ⟨ha', hb', hc', hd', he', hf', hg', hi', -⟩ := hstarts
  simp [hasPrefix, List.range_succ, hmask, ha, hb, hc, hd, he, hf, hg, hi, ha', hb', hc', hd', he', hf', hg', hi']

theorem mapped_eq (hlength : words.length = 8) (hwords : ∀ word ∈ words, word < 65536) :
    (words.getD 6 0 <<< 16 ||| words.getD 7 0) % 2 ^ 32 = ofWords words % 2 ^ 32 := by
  obtain ⟨a, b, c, d, e, f, g, i, rfl⟩ := eight_words hlength
  have hg : g < 65536 := hwords g (by simp)
  have hi : i < 2 ^ 16 := hwords i (by simp)
  simp only [List.getD_cons_succ, List.getD_cons_zero, ofWords, List.foldl_cons, List.foldl_nil]
  rw [← Nat.shiftLeft_add_eq_or_of_lt hi, Nat.shiftLeft_eq]
  omega

theorem isAllowed_ite (found : Bool) (family : Option Nat) (reason : IpBlockReason) (rest : IpClassification) :
    (if found = true then .blocked family reason else rest).isAllowed = false ↔
      found = true ∨ rest.isAllowed = false := by
  cases found with
  | true => exact iff_of_true rfl (.inl rfl)
  | false => simp

theorem isAllowed_ite_allowed (found : Bool) (rest : IpClassification) :
    (if found = true then rest else .allowed 6).isAllowed = false ↔ found = true ∧ rest.isAllowed = false := by
  cases found with
  | true => exact (and_iff_right rfl).symm
  | false => simp [IpClassification.isAllowed]

/-- **The words are refused where their bits are in a listed block.** -/
theorem classifyWords_iff (hlength : words.length = 8) (hwords : ∀ word ∈ words, word < 65536) :
    (classifyWords words).isAllowed = false ↔ (IpAddress.v6 (ofWords words)).Listed := by
  have hall (start : List Nat) (hstart : start.length = 8) (hstarts : ∀ word ∈ start, word < 65536) :
      words = start ↔ InBlock 128 (ofWords start) 128 (ofWords words) := by
    have hin := hasPrefix_iff hlength hwords hstart.le hstarts (show 128 ≤ 128 from le_rfl)
    rwa [hasPrefix_all hlength hstart hwords hstarts, hstart, Nat.sub_self, List.replicate_zero,
      List.append_nil] at hin
  have hunspecified : words.all (· = 0) = true ↔ words = [0, 0, 0, 0, 0, 0, 0, 0] := by
    obtain ⟨a, b, c, d, e, f, g, i, rfl⟩ := eight_words hlength
    simp
  have hloopback : ((words.take 7).all (· = 0) && words.getD 7 0 = 1) = true ↔ words = [0, 0, 0, 0, 0, 0, 0, 1] := by
    obtain ⟨a, b, c, d, e, f, g, i, rfl⟩ := eight_words hlength
    simp [and_assoc]
  have hin (short start : List Nat) (bits : Nat) (hstart : short ++ List.replicate (8 - short.length) 0 = start)
      (hshort : short.length ≤ 8) (hstarts : ∀ word ∈ short, word < 65536) (hbits : bits ≤ 128) :
      hasPrefix words short bits = true ↔ InBlock 128 (ofWords start) bits (ofWords words) :=
    hstart ▸ hasPrefix_iff hlength hwords hshort hstarts hbits
  unfold classifyWords
  simp only [isAllowed_ite, isAllowed_ite_allowed, mapped_eq hlength hwords]
  rw [hunspecified, hloopback, hall _ rfl (by decide), hall _ rfl (by decide),
    hin [0xfc00] [0xfc00, 0, 0, 0, 0, 0, 0, 0] 7 rfl (by decide) (by decide) (by decide),
    hin [0xfe80] [0xfe80, 0, 0, 0, 0, 0, 0, 0] 10 rfl (by decide) (by decide) (by decide),
    hin [0xff00] [0xff00, 0, 0, 0, 0, 0, 0, 0] 8 rfl (by decide) (by decide) (by decide),
    hin [0x2001, 0x0db8] [0x2001, 0xdb8, 0, 0, 0, 0, 0, 0] 32 rfl (by decide) (by decide) (by decide),
    hin [0x2001, 0x0002] [0x2001, 0x2, 0, 0, 0, 0, 0, 0] 48 rfl (by decide) (by decide) (by decide),
    hin [0x2001, 0x0010] [0x2001, 0x10, 0, 0, 0, 0, 0, 0] 28 rfl (by decide) (by decide) (by decide),
    hin [0x0000, 0, 0, 0, 0, 0xffff] [0, 0, 0, 0, 0, 0xffff, 0, 0] 96 rfl (by decide) (by decide) (by decide)]
  have hblock {block : Option V4Range} {found : IpClassification} (hnone : block = none → found = .allowed 6)
      (hsome : ∀ b, block = some b → found = .blocked (some 6) b.reason) :
      found.isAllowed = false ↔ block.isSome = true := by
    cases block with
    | none => simp [hnone rfl, IpClassification.isAllowed]
    | some b => simp [hsome b rfl, IpClassification.isAllowed]
  have hmapped {found : IpClassification} (hnone : v4Block (ofWords words % 2 ^ 32) = none → found = .allowed 6)
      (hsome : ∀ b, v4Block (ofWords words % 2 ^ 32) = some b → found = .blocked (some 6) b.reason) :=
    (hblock hnone hsome).trans (v4Block_isSome_iff _)
  refine Iff.trans (or_congr_right (or_congr_right (or_congr_right (or_congr_right (or_congr_right (or_congr_right
    (or_congr_right (or_congr_right (and_congr_right fun _ =>
      hmapped (fun h => by rw [h]) fun b h => by rw [h]))))))))) ?_
  simp only [IpAddress.Listed, v6Blocks, List.exists_mem_cons_iff, List.not_mem_nil, false_and, exists_false,
    false_or, or_assoc]

/-! ## Every spelling -/

theorem classifyIp_of_readIpv4 {text : String} {n : Nat} (h : readIpv4 text.toList = some n) :
    classifyIp text = match v4Block n with
      | some block => .blocked (some 4) block.reason
      | none => .allowed 4 := by
  have hfamily : isIP text.toList = 4 := by rw [isIP, h]; rfl
  cases hblock : v4Block n <;> simp only [classifyIp, hfamily, if_true, v4_eq h, hblock]

theorem classifyIp_of_readIpv6 {text : String} (hnot : readIpv4 text.toList = none)
    (h : readIpv6 text.toList = some words) : classifyIp text = classifyWords words := by
  refine classifyIp_ipv6 ?_ h
  rw [isIP, hnot, h]
  rfl

theorem ofWords_inj {words' : List Nat} (hlength : words.length = 8) (hlength' : words'.length = 8)
    (hwords : ∀ word ∈ words, word < 65536) (hwords' : ∀ word ∈ words', word < 65536)
    (heq : ofWords words = ofWords words') : words = words' := by
  have hin := hasPrefix_iff hlength hwords hlength'.le hwords' (show 128 ≤ 128 from le_rfl)
  rw [hasPrefix_all hlength hlength' hwords hwords', hlength', Nat.sub_self, List.replicate_zero,
    List.append_nil] at hin
  exact hin.2 fun _ _ _ => by rw [heq]

/-- **An address is judged by its value.** Every text that is an internet address stands for 32 or 128 bits, which
the parsers read from it; it is refused exactly where these bits are in a listed block, an IPv4-mapped address by
those of its IPv4 part; and every other spelling of the address is judged the same. -/
theorem judged_by_value (address : String) (haddress : isIP address.toList ≠ 0) :
    ∃ a, readIp address.toList = some a ∧ ParsedAs address.toList a ∧ a.bits < 2 ^ a.width ∧
      ((classifyIp address).isAllowed = false ↔ a.Listed) ∧
      ∀ other : String, readIp other.toList = some a → classifyIp other = classifyIp address := by
  cases hv4 : readIpv4 address.toList with
  | some n =>
    have hread : readIp address.toList = some (.v4 n) := by rw [readIp, hv4]
    refine ⟨.v4 n, hread, parsedAs_of_readIp hread, readIpv4_lt hv4, ?_, fun other hother => ?_⟩
    · rw [classifyIp_ipv4 hv4, ← Bool.not_eq_true, Option.isNone_iff_eq_none, ← ne_eq, ← Option.isSome_iff_ne_none]
      exact v4Block_isSome_iff n
    · have hother4 : readIpv4 other.toList = some n := by
        unfold readIp at hother
        split at hother
        · next m hm =>
          cases hother
          exact hm
        · obtain ⟨words, -, hwords⟩ := Option.map_eq_some_iff.1 hother
          cases hwords
      rw [classifyIp_of_readIpv4 hv4, classifyIp_of_readIpv4 hother4]
  | none =>
    cases hv6 : readIpv6 address.toList with
    | none =>
      refine absurd ?_ haddress
      rw [isIP, hv4, hv6]
      rfl
    | some words =>
      have hread : readIp address.toList = some (.v6 (ofWords words)) := by rw [readIp, hv4, hv6]; rfl
      have hparsed := parseIpv6_eq hv6
      have hlength := parseIpv6_length hparsed
      have hwords := parseIpv6_lt hparsed
      have hclassify := classifyIp_of_readIpv6 hv4 hv6
      have hlt : ofWords words < 2 ^ 128 := by
        have := ofWords_lt hwords
        rwa [hlength] at this
      refine ⟨.v6 (ofWords words), hread, parsedAs_of_readIp hread, hlt, ?_, fun other hother => ?_⟩
      · rw [hclassify]
        exact classifyWords_iff hlength hwords
      · unfold readIp at hother
        split at hother
        · cases hother
        · next hother4 =>
          obtain ⟨words', hother6, heq⟩ := Option.map_eq_some_iff.1 hother
          have hparsed' := parseIpv6_eq hother6
          have hsame := ofWords_inj (parseIpv6_length hparsed') hlength (parseIpv6_lt hparsed') hwords
            (IpAddress.v6.inj heq)
          rw [classifyIp_of_readIpv6 hother4 hother6, hclassify, hsame]

/-- A private address that is mapped, with dots, in upper case and with a zone, and the same in words. -/
theorem mapped_in_two_spellings :
    classifyIp "0:0::FFFF:10.0.0.1%en0" = classifyIp "::ffff:0a00:0001" ∧
      classifyIp "::ffff:0a00:0001" = .blocked (some 6) .private := by
  obtain ⟨a, ha, -, -, -, hsame⟩ := judged_by_value "::ffff:0a00:0001" (by decide +kernel)
  refine ⟨hsame _ ?_, by decide +kernel⟩
  rw [← ha]
  decide +kernel

end Coinslot
