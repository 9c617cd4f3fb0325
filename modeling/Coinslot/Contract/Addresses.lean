import Coinslot.Contract.Digested

/-!
# Addresses

An address on an EVM chain as the contract takes it (`packages/contracts/src/evm-address.ts`): forty
hexadecimal characters after `0x`, either all in lower case or with the capitals its own checksum asks for. What
a text is held to is `EvmAddressSchema`, and what an address is written down as is `checksummedAddressOf`.

The checksum is taken of the lower case of a body, so that it says the same of every spelling of one address,
and what it writes differs from what it was given in capitals alone.
-/

namespace Coinslot.Contract

open Utf16 Keccak List Option

/-- What an address looks like before anything is checked about its letters:
`/^0x[0-9a-fA-F]{40}$/`. -/
def ADDRESS_SHAPE (value : Text) : Bool :=
  value.length == 42 && value.take 2 == text "0x" && (value.drop 2).all fun u => (hexValue? u).isSome

/-- `Number.parseInt(digit, 16) >= 8`, of one character. -/
def isHigh (digit : CodeUnit) : Bool :=
  match hexValue? digit with
  | some value => 8 ≤ value
  | none => false

/-- One address body written the way a wallet writes it: every character whose digest digit is eight or more
capitalised, and the rest left alone. -/
def checksummedBody (body : Text) : Text :=
  let digits := checksumDigits body
  (List.range ADDRESS_LENGTH).flatMap fun index =>
    let character := body[index]?.toList
    if isHigh (digits.getD index (unit '0')) then character.map capital else character

/-- Whether the letters of this address say what the address says. A value whose shape is wrong is left alone. -/
def carriesItsOwnChecksum (value : Text) : Bool :=
  if ADDRESS_SHAPE value then
    let body := value.drop 2
    let loweredBody := body.map lowered
    body == loweredBody || body == checksummedBody loweredBody
  else true

/-- `EvmAddressSchema`: whether a text is an address in one of its two spellings. -/
def EvmAddressSchema (value : Text) : Bool := ADDRESS_SHAPE value && carriesItsOwnChecksum value

/-- One address written the way the wallet it came out of displays it, or the complaint about it. How a text is
quoted in the complaint is `JSON.stringify`'s. -/
def checksummedAddressOf (stringify : Text → Text) (address : Text) : Except Text Text :=
  if !ADDRESS_SHAPE address || !carriesItsOwnChecksum address then
    .error (stringify address ++
      text " is not an address this can write out: it is either not an address at all, " ++
      text "or its capital letters disagree with the rest of it")
  else .ok (text "0x" ++ checksummedBody ((address.drop 2).map lowered))

/-! ## What an address is

Said without the code: forty hexadecimal digits, the bytes they name, and the capitals that Keccak-256 of their
lower case asks for.
-/

/-- A text that writes an address out: `0x` and forty hexadecimal digits. -/
def WritesOut (value body : Text) : Prop :=
  value = text "0x" ++ body ∧ body.length = ADDRESS_LENGTH ∧ ∀ u ∈ body, (hexValue? u).isSome

/-- The values of the digits a text of bytes is written with. -/
def nibbles (bytes : List (BitVec 8)) : List Nat := bytes.flatMap fun byte => [byte.toNat / 16, byte.toNat % 16]

/-- The checksummed spelling of a body: a letter is a capital where the digit of the digest of the lower case is
eight or more. -/
def spelled (body : Text) : Text :=
  List.zipWith (fun u nibble => if 8 ≤ nibble then capital u else u) (body.map lowered)
    (nibbles (keccak256 (bytesOf (body.map lowered))))

/-- The bytes that pairs of digits name. -/
def pairsNamed : List Nat → List Nat
  | high :: low :: rest => (16 * high + low) :: pairsNamed rest
  | _ => []

/-- The twenty bytes an address names. -/
def bytesNamed (value : Text) : List Nat := pairsNamed ((value.drop 2).filterMap hexValue?)

variable {value : Text}

theorem ADDRESS_SHAPE_iff : ADDRESS_SHAPE value = true ↔ WritesOut value (value.drop 2) := by
  rw [ADDRESS_SHAPE, Bool.and_eq_true, Bool.and_eq_true, beq_iff_eq, beq_iff_eq, List.all_eq_true]
  constructor
  · rintro ⟨⟨hlen, hhead⟩, hdigits⟩
    refine ⟨?_, ?_, hdigits⟩
    · rw [← hhead, take_append_drop]
    · rw [length_drop, hlen, ADDRESS_LENGTH]
  · rintro ⟨hvalue, hlen, hdigits⟩
    have hhead : (text "0x").length = 2 := rfl
    refine ⟨⟨?_, ?_⟩, hdigits⟩
    · rw [hvalue, length_append, hlen, hhead, ADDRESS_LENGTH]
    · rw [hvalue, take_append_of_le_length (Nat.le_of_eq hhead.symm)]
      rfl

variable {body : Text}

theorem WritesOut.drop (h : WritesOut value body) : value.drop 2 = body := by
  rw [h.1]
  rfl

/-! ## The checksum -/

variable {n : Nat}

theorem nibbles_lt {bytes : List (BitVec 8)} (h : n ∈ nibbles bytes) : n < 16 := by
  obtain ⟨byte, -, hn⟩ := mem_flatMap.mp h
  have := byte.isLt
  simp only [mem_cons, not_mem_nil, or_false] at hn
  omega

theorem nibbles_length (bytes : List (BitVec 8)) : (nibbles bytes).length = 2 * bytes.length := by
  simp only [nibbles, length_flatMap, length_cons, length_nil, map_const', sum_replicate_nat]
  omega

theorem hexOf_eq (bytes : List (BitVec 8)) : bytes.flatMap hexOf = (nibbles bytes).map hexDigit := by
  rw [nibbles, map_flatMap]
  rfl

theorem isHigh_hexDigit (h : n < 16) : isHigh (hexDigit n) = decide (8 ≤ n) := by
  rw [isHigh, hexValue?_hexDigit h]

theorem checksummedBody_eq (hlen : body.length = ADDRESS_LENGTH) :
    checksummedBody body = List.zipWith (fun u nibble => if 8 ≤ nibble then capital u else u) body
      (nibbles (keccak256 (bytesOf body))) := by
  have hlong : ADDRESS_LENGTH ≤ (nibbles (keccak256 (bytesOf body))).length := by
    rw [nibbles_length, keccak256, length_map, length_range]
    decide
  have hone : checksummedBody body = (List.range ADDRESS_LENGTH).map fun index =>
      if isHigh ((checksumDigits body).getD index (unit '0')) then capital (body.getD index 0)
      else body.getD index 0 := by
    rw [checksummedBody, ← flatMap_pure_eq_map]
    generalize checksumDigits body = digits
    refine flatMap_congr fun index hindex => ?_
    have hlt : index < body.length := by
      rw [hlen]
      exact mem_range.mp hindex
    have hchar : body[index]?.toList = [body.getD index 0] := by simp [hlt]
    by_cases hhigh : isHigh (digits.getD index (unit '0')) = true
    · rw [hchar, if_pos hhigh, Function.comp_apply, if_pos hhigh]
      rfl
    · rw [hchar, if_neg hhigh, Function.comp_apply, if_neg hhigh]
      rfl
  rw [hone]
  apply ext_getElem
  · rw [length_map, length_range, length_zipWith, hlen]
    omega
  · intro i h₁ h₂
    have hi : i < ADDRESS_LENGTH := by simpa using h₁
    have hin : i < (nibbles (keccak256 (bytesOf body))).length := by omega
    have hdigit : (checksumDigits body).getD i (unit '0') = hexDigit (nibbles (keccak256 (bytesOf body)))[i] := by
      rw [(checksumDigits_keccak body hlen).2, hexOf_eq, getD_eq_getElem?_getD, getElem?_take_of_lt hi,
        getElem?_map, getElem?_eq_getElem hin]
      rfl
    have hbody : i < body.length := by rwa [hlen]
    rw [getElem_map, getElem_range, getElem_zipWith, hdigit,
      isHigh_hexDigit (nibbles_lt (getElem_mem _)), getD_eq_getElem _ _ hbody]
    simp only [decide_eq_true_eq]

theorem spelled_lowered (hlen : body.length = ADDRESS_LENGTH)
    (hhex : ∀ u ∈ body, (hexValue? u).isSome) : (spelled body).map lowered = body.map lowered := by
  have hlong : ADDRESS_LENGTH ≤ (nibbles (keccak256 (bytesOf (body.map lowered)))).length := by
    rw [nibbles_length, keccak256, length_map, length_range]
    decide
  unfold spelled
  apply ext_getElem
  · rw [length_map, length_zipWith, length_map, hlen]
    omega
  · intro i h₁ h₂
    have hi : i < body.length := by simpa using h₂
    obtain ⟨n, hn⟩ := isSome_iff_exists.mp (hhex body[i] (getElem_mem hi))
    rw [getElem_map, getElem_zipWith, getElem_map]
    split
    · exact (lowered_eq_iff (hexValue?_capital (hexValue?_lowered hn)) hn).mpr rfl
    · exact (lowered_eq_iff (hexValue?_lowered hn) hn).mpr rfl

theorem spelled_hex (hhex : ∀ u ∈ body, (hexValue? u).isSome) : ∀ u ∈ spelled body, (hexValue? u).isSome := by
  unfold spelled
  intro u hu
  obtain ⟨i, hi, rfl⟩ := mem_iff_getElem.mp hu
  have hlt : i < body.length := by
    rw [length_zipWith, length_map] at hi
    omega
  obtain ⟨n, hn⟩ := isSome_iff_exists.mp (hhex body[i] (getElem_mem hlt))
  rw [getElem_zipWith, getElem_map]
  split
  · rw [hexValue?_capital (hexValue?_lowered hn)]
    rfl
  · rw [hexValue?_lowered hn]
    rfl

theorem spelled_length (hlen : body.length = ADDRESS_LENGTH) : (spelled body).length = ADDRESS_LENGTH := by
  rw [spelled, length_zipWith, nibbles_length, length_map, keccak256, length_map, length_range, hlen]
  decide

theorem checksummedBody_lowered (hlen : body.length = ADDRESS_LENGTH) :
    checksummedBody (body.map lowered) = spelled body :=
  checksummedBody_eq (by rw [length_map, hlen])

theorem EvmAddressSchema_iff : EvmAddressSchema value = true ↔
    ∃ body, WritesOut value body ∧ (body.map lowered = body ∨ body = spelled body) := by
  rw [EvmAddressSchema, Bool.and_eq_true]
  constructor
  · rintro ⟨hshape, hsum⟩
    have hout := ADDRESS_SHAPE_iff.mp hshape
    refine ⟨value.drop 2, hout, ?_⟩
    rw [carriesItsOwnChecksum, if_pos hshape, Bool.or_eq_true, beq_iff_eq, beq_iff_eq,
      checksummedBody_lowered hout.2.1] at hsum
    exact hsum.imp Eq.symm id
  · rintro ⟨body, hout, hspelling⟩
    have hbody := hout.drop
    have hshape : ADDRESS_SHAPE value = true := ADDRESS_SHAPE_iff.mpr (by rwa [hbody])
    refine ⟨hshape, ?_⟩
    rw [carriesItsOwnChecksum, if_pos hshape, Bool.or_eq_true, beq_iff_eq, beq_iff_eq, hbody,
      checksummedBody_lowered hout.2.1]
    exact hspelling.imp Eq.symm id

variable {stringify : Text → Text}

theorem checksummedAddressOf_eq (h : EvmAddressSchema value = true) (hout : WritesOut value body) :
    checksummedAddressOf stringify value = .ok (text "0x" ++ spelled body) := by
  rw [EvmAddressSchema, Bool.and_eq_true] at h
  rw [checksummedAddressOf, h.1, h.2, hout.drop, checksummedBody_lowered hout.2.1]
  rfl

theorem spelled_spelled (hlen : body.length = ADDRESS_LENGTH)
    (hhex : ∀ u ∈ body, (hexValue? u).isSome) : spelled (spelled body) = spelled body := by
  have hlow := spelled_lowered hlen hhex
  rw [spelled, hlow, ← spelled]

theorem spelled_accepted (hout : WritesOut value body) : EvmAddressSchema (text "0x" ++ spelled body) = true :=
  EvmAddressSchema_iff.mpr ⟨spelled body, ⟨rfl, spelled_length hout.2.1, spelled_hex hout.2.2⟩,
    .inr (spelled_spelled hout.2.1 hout.2.2).symm⟩

/-! ## The bytes -/

theorem pairsNamed_inj : ∀ {digits others : List Nat}, digits.length = others.length → digits.length % 2 = 0 →
    (∀ n ∈ digits, n < 16) → (∀ n ∈ others, n < 16) → pairsNamed digits = pairsNamed others → digits = others
  | [], [], _, _, _, _, _ => rfl
  | [_], [_], _, h, _, _, _ => by simp at h
  | high :: low :: rest, high' :: low' :: rest', hlen, heven, hlt, hlt', heq => by
    simp only [pairsNamed, List.cons.injEq] at heq
    have h1 := hlt high (by simp)
    have h2 := hlt low (by simp)
    have h3 := hlt' high' (by simp)
    have h4 := hlt' low' (by simp)
    have hhigh : high = high' := by omega
    have hlow : low = low' := by omega
    simp only [length_cons] at hlen heven
    rw [hhigh, hlow, pairsNamed_inj (by omega) (by omega) (fun n hn => hlt n (by simp [hn]))
      (fun n hn => hlt' n (by simp [hn])) heq.2]

theorem lowered_map_eq_iff : ∀ {body other : Text}, (∀ u ∈ body, (hexValue? u).isSome) →
    (∀ u ∈ other, (hexValue? u).isSome) →
    (body.map lowered = other.map lowered ↔ body.filterMap hexValue? = other.filterMap hexValue?)
  | [], [], _, _ => by simp
  | [], v :: other, _, hother => by
    obtain ⟨m, hm⟩ := isSome_iff_exists.mp (hother v mem_cons_self)
    simp [hm]
  | u :: body, [], hbody, _ => by
    obtain ⟨n, hn⟩ := isSome_iff_exists.mp (hbody u mem_cons_self)
    simp [hn]
  | u :: body, v :: other, hbody, hother => by
    obtain ⟨n, hn⟩ := isSome_iff_exists.mp (hbody u mem_cons_self)
    obtain ⟨m, hm⟩ := isSome_iff_exists.mp (hother v mem_cons_self)
    have ih := lowered_map_eq_iff (fun u hu => hbody u (mem_cons_of_mem _ hu))
      fun u hu => hother u (mem_cons_of_mem _ hu)
    rw [map_cons, map_cons, filterMap_cons_some hn, filterMap_cons_some hm, List.cons.injEq,
      List.cons.injEq, lowered_eq_iff hn hm, ih]

theorem values_length : ∀ {body : Text}, (∀ u ∈ body, (hexValue? u).isSome) →
    (body.filterMap hexValue?).length = body.length
  | [], _ => rfl
  | u :: body, hbody => by
    obtain ⟨n, hn⟩ := isSome_iff_exists.mp (hbody u mem_cons_self)
    rw [filterMap_cons_some hn, length_cons, length_cons, values_length fun u hu => hbody u (mem_cons_of_mem _ hu)]

theorem values_lt (h : n ∈ body.filterMap hexValue?) : n < 16 := by
  obtain ⟨u, -, hu⟩ := mem_filterMap.mp h
  exact hexValue?_lt hu

theorem bytesNamed_eq_iff {other body' : Text} (h : WritesOut value body) (h' : WritesOut other body') :
    bytesNamed value = bytesNamed other ↔ body.map lowered = body'.map lowered := by
  rw [lowered_map_eq_iff h.2.2 h'.2.2, bytesNamed, bytesNamed, h.drop, h'.drop]
  constructor
  · have hlen := (values_length h.2.2).trans h.2.1
    have hlen' := (values_length h'.2.2).trans h'.2.1
    exact pairsNamed_inj (hlen.trans hlen'.symm) (by rw [hlen]; decide) (fun _ => values_lt) fun _ => values_lt
  · exact congrArg pairsNamed

/-- **Addresses are accepted in exactly two spellings**, in lower case or in the checksummed spelling of
themselves; what is accepted can be written down and nothing else can, writing it down twice writes the same, and
two of them are written down alike exactly if they name the same bytes. -/
theorem addresses_two_spellings (stringify : Text → Text) :
    (∀ value, EvmAddressSchema value = true ↔
      ∃ body, WritesOut value body ∧ (body.map lowered = body ∨ body = spelled body)) ∧
    (∀ value, EvmAddressSchema value = true ↔ ∃ out, checksummedAddressOf stringify value = .ok out) ∧
    (∀ value out, checksummedAddressOf stringify value = .ok out → checksummedAddressOf stringify out = .ok out) ∧
    ∀ value other, EvmAddressSchema value = true → EvmAddressSchema other = true →
      (checksummedAddressOf stringify value = checksummedAddressOf stringify other ↔
        bytesNamed value = bytesNamed other) := by
  have hok {value : Text} (h : EvmAddressSchema value = true) :
      ∃ body, WritesOut value body ∧ checksummedAddressOf stringify value = .ok (text "0x" ++ spelled body) := by
    obtain ⟨body, hout, -⟩ := EvmAddressSchema_iff.mp h
    exact ⟨body, hout, checksummedAddressOf_eq h hout⟩
  have haccepted {value out : Text} (h : checksummedAddressOf stringify value = .ok out) :
      EvmAddressSchema value = true := by
    rw [checksummedAddressOf] at h
    split at h
    · cases h
    · next hgood =>
      simpa [EvmAddressSchema] using hgood
  refine ⟨fun value => EvmAddressSchema_iff, fun value => ⟨fun h => ?_, fun ⟨out, h⟩ => haccepted h⟩,
    fun value out h => ?_, fun value other h h' => ?_⟩
  · obtain ⟨body, -, hbody⟩ := hok h
    exact ⟨_, hbody⟩
  · obtain ⟨body, hout, hbody⟩ := hok (haccepted h)
    rw [hbody] at h
    cases h
    rw [checksummedAddressOf_eq (spelled_accepted hout) ⟨rfl, spelled_length hout.2.1, spelled_hex hout.2.2⟩,
      spelled_spelled hout.2.1 hout.2.2]
  · obtain ⟨body, hout, hbody⟩ := hok h
    obtain ⟨body', hout', hbody'⟩ := hok h'
    rw [hbody, hbody', bytesNamed_eq_iff hout hout', Except.ok.injEq, List.append_cancel_left_eq]
    constructor
    · intro heq
      rw [← spelled_lowered hout.2.1 hout.2.2, ← spelled_lowered hout'.2.1 hout'.2.2, heq]
    · intro heq
      rw [spelled, spelled, heq]

end Coinslot.Contract
