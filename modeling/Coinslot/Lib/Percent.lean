import Coinslot.Lib.Utf16

/-!
# Percent-encoding

A text put into an address and taken out of it again: its scalars in UTF-8, each byte that is not an unreserved
character as a percent sign and two digits. A surrogate that stands alone is no scalar and has no such form, so
that encoding is a partial function, and where it is defined it can be undone (`decodeURIComponent_encode`).
-/

namespace Utf16

open List Option

/-! ## Scalars -/

def isHighSurrogate (u : CodeUnit) : Bool := decide (0xd800 ≤ u.val) && decide (u.val < 0xdc00)

def isLowSurrogate (u : CodeUnit) : Bool := decide (0xdc00 ≤ u.val) && decide (u.val < 0xe000)

/-- The scalar a pair of surrogates stands for. -/
def paired (high low : CodeUnit) : Nat := 0x10000 + 0x400 * (high.val - 0xd800) + (low.val - 0xdc00)

/-- The scalars of a text, where no surrogate in it stands alone. -/
def scalars : Text → Option (List Nat)
  | [] => some []
  | [u] => if isHighSurrogate u || isLowSurrogate u then none else some [u.val]
  | u :: v :: rest =>
    if isHighSurrogate u then if isLowSurrogate v then (scalars rest).map (paired u v :: ·) else none
    else if isLowSurrogate u then none
    else (scalars (v :: rest)).map (u.val :: ·)

/-- Whether no surrogate of a text stands alone. -/
def isWellFormed (t : Text) : Bool := (scalars t).isSome

/-- A number that is a character of its own. -/
def IsScalar (c : Nat) : Prop := c < 0xd800 ∨ 0xe000 ≤ c ∧ c < 0x110000

/-- The units of a scalar. -/
def unitsOfScalar (c : Nat) : Text :=
  if c < 0x10000 then [codeUnit c]
  else [codeUnit (0xd800 + (c - 0x10000) / 0x400), codeUnit (0xdc00 + (c - 0x10000) % 0x400)]

variable {u : CodeUnit}

theorem isHighSurrogate_iff : isHighSurrogate u = true ↔ 0xd800 ≤ u.val ∧ u.val < 0xdc00 := by
  rw [isHighSurrogate, Bool.and_eq_true, decide_eq_true_iff, decide_eq_true_iff]

theorem isLowSurrogate_iff : isLowSurrogate u = true ↔ 0xdc00 ≤ u.val ∧ u.val < 0xe000 := by
  rw [isLowSurrogate, Bool.and_eq_true, decide_eq_true_iff, decide_eq_true_iff]

theorem unitsOfScalar_paired {v : CodeUnit} (hu : isHighSurrogate u = true) (hv : isLowSurrogate v = true) :
    IsScalar (paired u v) ∧ unitsOfScalar (paired u v) = [u, v] := by
  rw [isHighSurrogate_iff] at hu
  rw [isLowSurrogate_iff] at hv
  have hpaired : paired u v = 0x10000 + 0x400 * (u.val - 0xd800) + (v.val - 0xdc00) := rfl
  refine ⟨.inr (by omega), ?_⟩
  have hu' : (codeUnit (0xd800 + (paired u v - 0x10000) / 0x400)) = u := by
    apply Fin.ext
    rw [Fin.val_ofNat]
    omega
  have hv' : (codeUnit (0xdc00 + (paired u v - 0x10000) % 0x400)) = v := by
    apply Fin.ext
    rw [Fin.val_ofNat]
    omega
  rw [unitsOfScalar, if_neg (by omega), hu', hv']

theorem unitsOfScalar_alone (hu : ¬ isHighSurrogate u = true) (hv : ¬ isLowSurrogate u = true) :
    IsScalar u.val ∧ unitsOfScalar u.val = [u] := by
  rw [isHighSurrogate_iff] at hu
  rw [isLowSurrogate_iff] at hv
  have hlt := u.isLt
  refine ⟨by unfold IsScalar; omega, ?_⟩
  have hu' : codeUnit u.val = u := Fin.ext (Nat.mod_eq_of_lt hlt)
  rw [unitsOfScalar, if_pos hlt, hu']

theorem scalars_spec : ∀ {t : Text} {cs : List Nat}, scalars t = some cs →
    (∀ c ∈ cs, IsScalar c) ∧ cs.flatMap unitsOfScalar = t
  | [], cs, h => by
    cases h
    exact ⟨fun c hc => absurd hc not_mem_nil, rfl⟩
  | [u], cs, h => by
    rw [scalars] at h
    split at h
    · cases h
    · next hu =>
      rw [Bool.or_eq_true, not_or] at hu
      obtain ⟨hscalar, hunits⟩ := unitsOfScalar_alone hu.1 hu.2
      cases h
      exact ⟨fun c hc => by rwa [mem_singleton.mp hc], by simp [hunits]⟩
  | u :: v :: rest, cs, h => by
    rw [scalars] at h
    split at h
    · next hu =>
      split at h
      · next hv =>
        obtain ⟨cs', hcs, rfl⟩ := map_eq_some_iff.mp h
        obtain ⟨hscalars, hrest⟩ := scalars_spec hcs
        obtain ⟨hscalar, hunits⟩ := unitsOfScalar_paired hu hv
        refine ⟨fun c hc => ?_, by rw [flatMap_cons, hunits, hrest, cons_append, cons_append,
          nil_append]⟩
        rcases mem_cons.mp hc with heq | hc
        · rwa [heq]
        · exact hscalars c hc
      · cases h
    · next hu =>
      split at h
      · cases h
      · next hv =>
        obtain ⟨cs', hcs, rfl⟩ := map_eq_some_iff.mp h
        obtain ⟨hscalars, hrest⟩ := scalars_spec hcs
        obtain ⟨hscalar, hunits⟩ := unitsOfScalar_alone hu hv
        refine ⟨fun c hc => ?_, by rw [flatMap_cons, hunits, hrest, cons_append, nil_append]⟩
        rcases mem_cons.mp hc with heq | hc
        · rwa [heq]
        · exact hscalars c hc

/-! ## UTF-8 -/

/-- The bytes of a scalar. -/
def utf8 (c : Nat) : List Nat :=
  if c < 0x80 then [c]
  else if c < 0x800 then [0xc0 + c / 0x40, 0x80 + c % 0x40]
  else if c < 0x10000 then [0xe0 + c / 0x1000, 0x80 + c / 0x40 % 0x40, 0x80 + c % 0x40]
  else [0xf0 + c / 0x40000, 0x80 + c / 0x1000 % 0x40, 0x80 + c / 0x40 % 0x40, 0x80 + c % 0x40]

/-! ## Encoding -/

/-- The characters that stand for themselves: letters, digits and `-_.!~*'()`. -/
def isUnreserved (c : Nat) : Bool :=
  (decide (48 ≤ c) && decide (c ≤ 57)) || (decide (65 ≤ c) && decide (c ≤ 90)) ||
    (decide (97 ≤ c) && decide (c ≤ 122)) || [45, 95, 46, 33, 126, 42, 39, 40, 41].contains c

/-- The capital digit of a value below sixteen. -/
def hexCapital (n : Nat) : CodeUnit := codeUnit (if n < 10 then n + 48 else n + 55)

/-- A byte as a percent sign and its two digits. -/
def percent (byte : Nat) : Text := [unit '%', hexCapital (byte / 16), hexCapital (byte % 16)]

def encodedScalar (c : Nat) : Text := if isUnreserved c then [codeUnit c] else (utf8 c).flatMap percent

/-- `encodeURIComponent`, which throws where a surrogate stands alone. -/
def encodeURIComponent (t : Text) : Option Text := (scalars t).map (List.flatMap encodedScalar)

/-! ## Decoding -/

/-- What is read of an encoded text before its bytes are put together. -/
inductive Token where
  | raw (u : CodeUnit)
  | octet (byte : Nat)
deriving DecidableEq

/-- The tokens of a text: a percent sign takes the two digits after it, and is an error without them. -/
def tokens : Text → Option (List Token)
  | [] => some []
  | u :: rest =>
    if u = unit '%' then
      match rest with
      | high :: low :: rest =>
        match hexValue? high, hexValue? low with
        | some h, some l => (tokens rest).map (.octet (16 * h + l) :: ·)
        | _, _ => none
      | _ => none
    else (tokens rest).map (.raw u :: ·)

def isContinuation (byte : Nat) : Bool := decide (0x80 ≤ byte) && decide (byte < 0xc0)

/-- The units of what some bytes of a character say, where they are the shortest that say it. -/
def accepted (least c : Nat) (rest : Option Text) : Option Text :=
  if least ≤ c ∧ (c < 0xd800 ∨ 0xe000 ≤ c) ∧ c < 0x110000 then rest.map (unitsOfScalar c ++ ·) else none

/-- The text that tokens say: bytes are read as UTF-8, and are an error where they are not. -/
def joined : List Token → Option Text
  | [] => some []
  | .raw u :: rest => (joined rest).map (u :: ·)
  | .octet a :: rest =>
    if a < 0x80 then (joined rest).map (unitsOfScalar a ++ ·)
    else match rest with
      | .octet b :: rest =>
        if ¬ isContinuation b then none
        else if 0xc0 ≤ a ∧ a < 0xe0 then accepted 0x80 (0x40 * (a - 0xc0) + (b - 0x80)) (joined rest)
        else match rest with
          | .octet c :: rest =>
            if ¬ isContinuation c then none
            else if 0xe0 ≤ a ∧ a < 0xf0 then
              accepted 0x800 (0x1000 * (a - 0xe0) + 0x40 * (b - 0x80) + (c - 0x80)) (joined rest)
            else match rest with
              | .octet d :: rest =>
                if ¬ isContinuation d then none
                else if 0xf0 ≤ a ∧ a < 0xf8 then
                  accepted 0x10000
                    (0x40000 * (a - 0xf0) + 0x1000 * (b - 0x80) + 0x40 * (c - 0x80) + (d - 0x80)) (joined rest)
                else none
              | _ => none
          | _ => none
      | _ => none

/-- `decodeURIComponent`, which throws where what it reads was not encoded. -/
def decodeURIComponent (t : Text) : Option Text := (tokens t).bind joined

/-! ## What was encoded is decoded -/

variable {n : Nat} {t out : Text}

theorem hexCapital_val (h : n < 16) : (hexCapital n).val = if n < 10 then n + 48 else n + 55 := by
  unfold hexCapital
  split
  · exact Nat.mod_eq_of_lt (by omega)
  · exact Nat.mod_eq_of_lt (by omega)

theorem hexValue?_hexCapital (h : n < 16) : hexValue? (hexCapital n) = some n := by
  rw [hexValue?_eq_some, hexCapital_val h]
  split
  · omega
  · omega

theorem tokens_percent {byte : Nat} (h : byte < 256) (rest : Text) :
    tokens (percent byte ++ rest) = (tokens rest).map (.octet byte :: ·) := by
  have hbyte : 16 * (byte / 16) + byte % 16 = byte := by omega
  have hhigh := hexValue?_hexCapital (n := byte / 16) (by omega)
  have hlow := hexValue?_hexCapital (n := byte % 16) (by omega)
  rw [percent, cons_append, cons_append, cons_append, nil_append, tokens, if_pos rfl, hhigh, hlow]
  dsimp only
  rw [hbyte]

theorem tokens_raw (h : u ≠ unit '%') (rest : Text) : tokens (u :: rest) = (tokens rest).map (.raw u :: ·) := by
  rw [tokens.eq_def]
  dsimp only
  rw [if_neg h]

theorem tokens_percents : ∀ {bytes : List Nat}, (∀ byte ∈ bytes, byte < 256) → ∀ rest : Text,
    tokens (bytes.flatMap percent ++ rest) = (tokens rest).map (bytes.map .octet ++ ·)
  | [], _, rest => by
    exact (map_id_apply (x := tokens rest)).symm
  | byte :: bytes, h, rest => by
    rw [flatMap_cons, append_assoc, tokens_percent (h byte mem_cons_self),
      tokens_percents (fun b hb => h b (mem_cons_of_mem _ hb)), Option.map_map]
    rfl

def tokensOf (c : Nat) : List Token := if isUnreserved c then [.raw (codeUnit c)] else (utf8 c).map .octet

variable {c : Nat}

theorem isUnreserved_lt (h : isUnreserved c = true) : c < 0x80 ∧ c ≠ 0x25 := by
  simp only [isUnreserved, Bool.or_eq_true, Bool.and_eq_true, decide_eq_true_eq, contains_eq_mem,
    mem_cons, not_mem_nil, or_false] at h
  omega

theorem utf8_lt (h : IsScalar c) : ∀ byte ∈ utf8 c, byte < 256 := by
  unfold IsScalar at h
  intro byte hbyte
  unfold utf8 at hbyte
  split at hbyte
  · rw [mem_singleton] at hbyte
    omega
  · split at hbyte
    · simp only [mem_cons, not_mem_nil, or_false] at hbyte
      omega
    · split at hbyte
      · simp only [mem_cons, not_mem_nil, or_false] at hbyte
        omega
      · simp only [mem_cons, not_mem_nil, or_false] at hbyte
        omega

theorem tokens_encodedScalar (h : IsScalar c) (rest : Text) :
    tokens (encodedScalar c ++ rest) = (tokens rest).map (tokensOf c ++ ·) := by
  unfold encodedScalar tokensOf
  split
  · next hun =>
    have hlt := isUnreserved_lt hun
    have hne : codeUnit c ≠ unit '%' := by
      intro heq
      have hval := congrArg Fin.val heq
      rw [Fin.val_ofNat, Nat.mod_eq_of_lt (by omega)] at hval
      exact hlt.2 hval
    rw [cons_append, nil_append, tokens_raw hne]
    rfl
  · exact tokens_percents (utf8_lt h) rest

theorem isContinuation_of (byte : Nat) (h : 0x80 ≤ byte) (h' : byte < 0xc0) : isContinuation byte = true := by
  rw [isContinuation, Bool.and_eq_true, decide_eq_true_iff, decide_eq_true_iff]
  exact ⟨h, h'⟩

theorem accepted_of {least : Nat} (heq : n = c) (h : IsScalar c) (hleast : least ≤ c) (rest : Option Text) :
    accepted least n rest = rest.map (unitsOfScalar c ++ ·) := by
  unfold IsScalar at h
  subst heq
  rw [accepted, if_pos (by omega)]

theorem joined_utf8 (h : IsScalar c) (rest : List Token) :
    joined ((utf8 c).map .octet ++ rest) = (joined rest).map (unitsOfScalar c ++ ·) := by
  have hscalar : c < 0xd800 ∨ 0xe000 ≤ c ∧ c < 0x110000 := h
  unfold utf8
  split
  · next h1 =>
    rw [map_cons, map_nil, cons_append, nil_append, joined.eq_def]
    dsimp only
    rw [if_pos h1]
  · next h1 =>
    have hlast := isContinuation_of (0x80 + c % 0x40) (by omega) (by omega)
    split
    · next h2 =>
      simp only [map_cons, map_nil, cons_append, nil_append]
      rw [joined.eq_def]
      dsimp only
      rw [if_neg (by omega), if_neg (by rw [hlast]; decide), if_pos (by omega)]
      exact accepted_of (by omega) h (by omega) _
    · next h2 =>
      have hthird := isContinuation_of (0x80 + c / 0x40 % 0x40) (by omega) (by omega)
      split
      · next h3 =>
        simp only [map_cons, map_nil, cons_append, nil_append]
        rw [joined.eq_def]
        dsimp only
        rw [if_neg (by omega), if_neg (by rw [hthird]; decide), if_neg (by omega),
          if_neg (by rw [hlast]; decide), if_pos (by omega)]
        exact accepted_of (by omega) h (by omega) _
      · next h3 =>
        have hsecond := isContinuation_of (0x80 + c / 0x1000 % 0x40) (by omega) (by omega)
        simp only [map_cons, map_nil, cons_append, nil_append]
        rw [joined.eq_def]
        dsimp only
        rw [if_neg (by omega), if_neg (by rw [hsecond]; decide), if_neg (by omega),
          if_neg (by rw [hthird]; decide), if_neg (by omega), if_neg (by rw [hlast]; decide), if_pos (by omega)]
        exact accepted_of (by omega) h (by omega) _

theorem joined_tokensOf (h : IsScalar c) (rest : List Token) :
    joined (tokensOf c ++ rest) = (joined rest).map (unitsOfScalar c ++ ·) := by
  unfold tokensOf
  split
  · next hun =>
    have hlt := isUnreserved_lt hun
    rw [cons_append, nil_append, joined, unitsOfScalar, if_pos (by omega)]
    rfl
  · exact joined_utf8 h rest

theorem tokens_encoded : ∀ {cs : List Nat}, (∀ c ∈ cs, IsScalar c) →
    tokens (cs.flatMap encodedScalar) = some (cs.flatMap tokensOf)
  | [], _ => rfl
  | c :: cs, h => by
    rw [flatMap_cons, tokens_encodedScalar (h c mem_cons_self),
      tokens_encoded fun c' hc' => h c' (mem_cons_of_mem _ hc'), map_some, flatMap_cons]

theorem joined_tokens : ∀ {cs : List Nat}, (∀ c ∈ cs, IsScalar c) →
    joined (cs.flatMap tokensOf) = some (cs.flatMap unitsOfScalar)
  | [], _ => rfl
  | c :: cs, h => by
    rw [flatMap_cons, joined_tokensOf (h c mem_cons_self),
      joined_tokens fun c' hc' => h c' (mem_cons_of_mem _ hc'), map_some, flatMap_cons]

/-- **What was encoded is decoded to what it was.** -/
theorem decodeURIComponent_encode (h : encodeURIComponent t = some out) :
    decodeURIComponent out = some t := by
  obtain ⟨cs, hcs, rfl⟩ := map_eq_some_iff.mp h
  obtain ⟨hscalars, hunits⟩ := scalars_spec hcs
  rw [decodeURIComponent, tokens_encoded hscalars, bind_some, joined_tokens hscalars, hunits]

theorem encodeURIComponent_isSome (t : Text) : (encodeURIComponent t).isSome = isWellFormed t := isSome_map

theorem encoded_units (h : encodeURIComponent t = some out) :
    ∀ u ∈ out, isUnreserved u.val = true ∨ u = unit '%' := by
  obtain ⟨cs, hcs, rfl⟩ := map_eq_some_iff.mp h
  have hscalars := (scalars_spec hcs).1
  intro u hu
  obtain ⟨c, hc, hu⟩ := mem_flatMap.mp hu
  unfold encodedScalar at hu
  split at hu
  · next hun =>
    have hlt := isUnreserved_lt hun
    rw [mem_singleton] at hu
    subst hu
    rw [Fin.val_ofNat, Nat.mod_eq_of_lt (by omega)]
    exact .inl hun
  · obtain ⟨byte, hbyte, hu⟩ := mem_flatMap.mp hu
    have hlt := utf8_lt (hscalars c hc) byte hbyte
    simp only [percent, mem_cons, not_mem_nil, or_false] at hu
    have hdigit : ∀ n < 16, isUnreserved (hexCapital n).val = true := by decide
    rcases hu with rfl | rfl | rfl
    · exact .inr rfl
    · exact .inl (hdigit _ (by omega))
    · exact .inl (hdigit _ (by omega))

end Utf16
