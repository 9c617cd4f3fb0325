import Mathlib.Data.List.Induction
import Mathlib.Tactic.IntervalCases

/-!
# The texts of internet addresses

What a text says that is an internet address: four decimal numbers between dots (`readIpv4`), or eight words
of 16 bits between colons (`readIpv6`), of which the last two may be written as an IPv4 address, a run of
zeroes may be left out at a double colon, and a zone may follow. `isIP` tells one from the other.

A text is read from its pieces, the parts between single colons (`pieces`). Pieces that are not empty and
hold no colon are what is read back from the text they are joined to (`pieces_joined`), and a double colon
between two such texts is the one place where that text is split (`splitColons_joined_append`).
-/

namespace IpText

open List Option

/-! ## Numerals -/

variable {text : List Char}

theorem forall_of_all {p : Char → Prop} [DecidablePred p] (h : text.all (fun c => p c) = true) : ∀ c ∈ text, p c := by
  simpa using h

def digits : List Char := "0123456789".toList

def lowerHexDigits : List Char := "0123456789abcdef".toList

def hexDigits : List Char := "0123456789abcdefABCDEF".toList

/-- The value of a hexadecimal digit. -/
def hexValue (c : Char) : Nat :=
  if c ∈ digits then c.toNat - '0'.toNat
  else if c.isUpper then c.toNat - 'A'.toNat + 10
  else c.toNat - 'a'.toNat + 10

/-- The number a hexadecimal numeral stands for. -/
def ofHex (text : List Char) : Nat := text.foldl (fun n c => n * 16 + hexValue c) 0

theorem hexValue_toLower : ∀ c ∈ hexDigits, hexValue c.toLower = hexValue c := forall_of_all (by decide)

theorem toLower_mem_lowerHexDigits : ∀ c ∈ hexDigits, c.toLower ∈ lowerHexDigits := forall_of_all (by decide)

theorem mem_hexDigits_of_lower : ∀ c ∈ lowerHexDigits, c ∈ hexDigits := forall_of_all (by decide)

theorem toLower_digits : ∀ c ∈ digits, c.toLower = c := forall_of_all (by decide)

variable {n : Nat}

theorem digitChar_spec (h : n < 16) : n.digitChar ∈ lowerHexDigits ∧ hexValue n.digitChar = n := by
  interval_cases n <;> decide

theorem hexValue_lt : ∀ c ∈ hexDigits, hexValue c < 16 := forall_of_all (by decide)

theorem ofHex_append (text : List Char) (c : Char) : ofHex (text ++ [c]) = ofHex text * 16 + hexValue c := by
  simp [ofHex]

theorem ofHex_toDigits (n : Nat) : ofHex (Nat.toDigits 16 n) = n := by
  induction n using Nat.strongRecOn with
  | ind n ih =>
    rw [Nat.toDigits_eq_if (by decide)]
    split
    · next h => simpa [ofHex] using (digitChar_spec h).2
    · next h =>
      rw [ofHex_append, ih (n / 16) (by omega), (digitChar_spec (Nat.mod_lt n (by decide))).2]
      omega

theorem toDigits_mem (n : Nat) : ∀ c ∈ Nat.toDigits 16 n, c ∈ lowerHexDigits := by
  induction n using Nat.strongRecOn with
  | ind n ih =>
    rw [Nat.toDigits_eq_if (by decide)]
    split
    · next h => simpa using (digitChar_spec h).1
    · next h =>
      intro c hc
      rcases mem_append.1 hc with hc | hc
      · exact ih (n / 16) (by omega) c hc
      · rw [mem_singleton.1 hc]
        exact (digitChar_spec (Nat.mod_lt n (by decide))).1

theorem ofHex_lower (h : ∀ c ∈ text, c ∈ hexDigits) : ofHex (text.map Char.toLower) = ofHex text := by
  induction text using List.reverseRecOn with
  | nil => rfl
  | append_singleton text c ih =>
    rw [map_append, map_singleton, ofHex_append, ofHex_append,
      ih fun d hd => h d (mem_append_left _ hd),
      hexValue_toLower c (h c (mem_append_right _ (mem_singleton_self c)))]

theorem ofHex_lt (h : ∀ c ∈ text, c ∈ hexDigits) : ofHex text < 16 ^ text.length := by
  induction text using List.reverseRecOn with
  | nil => decide
  | append_singleton text c ih =>
    have hlt := ih fun d hd => h d (mem_append_left _ hd)
    have hc := hexValue_lt c (h c (mem_append_right _ (mem_singleton_self c)))
    rw [ofHex_append, length_append, length_singleton, Nat.pow_succ]
    omega

/-! ## Texts split at a character -/

theorem mem_splitOn (sep : Char) {c : Char} (h : c ∈ text) : c = sep ∨ ∃ part ∈ text.splitOn sep, c ∈ part := by
  induction text with
  | nil => cases h
  | cons d text ih =>
    rw [splitOn_cons_eq_if_modifyHead]
    cases hsplit : text.splitOn sep with
    | nil => exact absurd hsplit (splitOn_ne_nil _ _)
    | cons part parts =>
      rw [hsplit] at ih
      rcases mem_cons.1 h with rfl | h
      · split
        · next hd => exact .inl (beq_iff_eq.1 hd)
        · exact .inr ⟨c :: part, mem_cons_self .., mem_cons_self ..⟩
      · rcases ih h with hsep | ⟨q, hq, hc⟩
        · exact .inl hsep
        · right
          split
          · exact ⟨q, mem_cons_of_mem _ hq, hc⟩
          · rcases mem_cons.1 hq with rfl | hq
            · exact ⟨d :: q, mem_cons_self .., mem_cons_of_mem _ hc⟩
            · exact ⟨q, mem_cons_of_mem _ hq, hc⟩

/-! ## Four decimal numbers between dots -/

/-- Reads a number up to 255, without leading zeroes. -/
def readOctet (text : List Char) : Option Nat :=
  if text ≠ [] ∧ text.length ≤ 3 ∧ text.all (· ∈ digits) ∧ (text.head? = some '0' → text.length = 1) ∧
      Nat.ofDigitChars 10 text 0 ≤ 255 then some (Nat.ofDigitChars 10 text 0)
  else none

/-- Reads an IPv4 address. -/
def readIpv4 (text : List Char) : Option Nat :=
  match text.splitOn '.' with
  | [a, b, c, d] => do
    let a ← readOctet a
    let b ← readOctet b
    let c ← readOctet c
    let d ← readOctet d
    some (((a * 256 + b) * 256 + c) * 256 + d)
  | _ => none

theorem readOctet_spec (h : readOctet text = some n) :
    text ≠ [] ∧ text.length ≤ 3 ∧ (∀ c ∈ text, c ∈ digits) ∧ n = Nat.ofDigitChars 10 text 0 ∧ n ≤ 255 := by
  unfold readOctet at h
  split at h
  · next hall =>
    cases h
    exact ⟨hall.1, hall.2.1, forall_of_all hall.2.2.1, rfl, hall.2.2.2.2⟩
  · cases h

section

variable (h : readIpv4 text = some n)
include h

theorem readIpv4_spec :
    ∃ a b c d a' b' c' d', text.splitOn '.' = [a, b, c, d] ∧ readOctet a = some a' ∧ readOctet b = some b' ∧
      readOctet c = some c' ∧ readOctet d = some d' ∧ n = ((a' * 256 + b') * 256 + c') * 256 + d' := by
  unfold readIpv4 at h
  split at h
  · next a b c d hsplit =>
    simp only [bind_eq_bind, bind_eq_some_iff, Option.some.injEq] at h
    obtain ⟨a', ha, b', hb, c', hc, d', hd, rfl⟩ := h
    exact ⟨a, b, c, d, a', b', c', d', hsplit, ha, hb, hc, hd, rfl⟩
  · cases h

theorem readIpv4_lt : n < 2 ^ 32 := by
  obtain ⟨a, b, c, d, a', b', c', d', -, ha, hb, hc, hd, rfl⟩ := readIpv4_spec h
  have := (readOctet_spec ha).2.2.2.2
  have := (readOctet_spec hb).2.2.2.2
  have := (readOctet_spec hc).2.2.2.2
  have := (readOctet_spec hd).2.2.2.2
  omega

theorem readIpv4_chars : ∀ c ∈ text, c ∈ digits ∨ c = '.' := by
  obtain ⟨a, b, c, d, a', b', c', d', hsplit, ha, hb, hc, hd, -⟩ := readIpv4_spec h
  intro x hx
  rcases mem_splitOn '.' hx with hdot | ⟨part, hpart, hx⟩
  · exact .inr hdot
  · left
    rw [hsplit] at hpart
    simp only [mem_cons, not_mem_nil, or_false] at hpart
    rcases hpart with rfl | rfl | rfl | rfl
    · exact (readOctet_spec ha).2.2.1 x hx
    · exact (readOctet_spec hb).2.2.1 x hx
    · exact (readOctet_spec hc).2.2.1 x hx
    · exact (readOctet_spec hd).2.2.1 x hx

end

/-! ## Pieces between colons -/

/-- The pieces of a text between single colons. An empty text has none. -/
def pieces (text : List Char) : List (List Char) := if text = [] then [] else text.splitOn ':'

/-- The parts of a text between double colons. -/
def splitColons : List Char → List (List Char)
  | [] => [[]]
  | ':' :: ':' :: text => [] :: splitColons text
  | c :: text => (splitColons text).modifyHead (c :: ·)

def joined (ps : List (List Char)) : List Char := [':'].intercalate ps

/-- What can stand between two colons: something, and no colon. -/
def IsPiece (p : List Char) : Prop := p ≠ [] ∧ ':' ∉ p

@[simp] theorem joined_nil : joined [] = [] := rfl

@[simp] theorem joined_singleton (p : List Char) : joined [p] = p := intercalate_singleton

theorem joined_cons_cons (p q : List Char) (ps : List (List Char)) :
    joined (p :: q :: ps) = p ++ ':' :: joined (q :: ps) := by
  rfl

variable {ps : List (List Char)}

theorem joined_append {qs : List (List Char)} (hps : ps ≠ []) (hqs : qs ≠ []) :
    joined (ps ++ qs) = joined ps ++ ':' :: joined qs := by
  induction ps with
  | nil => exact absurd rfl hps
  | cons p ps ih =>
    cases ps with
    | nil =>
      cases qs with
      | nil => exact absurd rfl hqs
      | cons q qs => rw [joined_singleton]; exact joined_cons_cons p q qs
    | cons p' ps =>
      rw [cons_append, cons_append, joined_cons_cons, ← cons_append, ih (cons_ne_nil _ _),
        joined_cons_cons, append_assoc, cons_append]

theorem joined_map (f : Char → Char) (hf : f ':' = ':') (ps : List (List Char)) :
    (joined ps).map f = joined (ps.map (List.map f)) := by
  induction ps with
  | nil => rfl
  | cons p ps ih =>
    cases ps with
    | nil => simp
    | cons q ps =>
      rw [joined_cons_cons, map_append, map_cons, ih, hf, map_cons, map_cons, map_cons, joined_cons_cons]

theorem joined_ne_nil (h : ∀ p ∈ ps, IsPiece p) (hps : ps ≠ []) : joined ps ≠ [] := by
  cases ps with
  | nil => exact absurd rfl hps
  | cons p ps =>
    cases ps with
    | nil => simpa using (h p (mem_singleton_self p)).1
    | cons q ps => rw [joined_cons_cons]; simp

theorem pieces_joined (h : ∀ p ∈ ps, IsPiece p) : pieces (joined ps) = ps := by
  cases ps with
  | nil => rfl
  | cons p ps =>
    rw [pieces, if_neg (joined_ne_nil h (cons_ne_nil _ _))]
    exact splitOn_intercalate ':' (fun q hq => (h q hq).2) (cons_ne_nil _ _)

theorem joined_pieces (text : List Char) : joined (pieces text) = text := by
  unfold pieces
  split
  · next h => exact h.symm
  · exact intercalate_splitOn ':'

/-! ## Texts split at double colons -/

theorem splitColons_ne_nil (text : List Char) : splitColons text ≠ [] := by
  fun_induction splitColons with
  | case1 => simp
  | case2 => simp
  | case3 _ _ _ ih => simpa [modifyHead_eq_nil_iff] using ih

theorem splitColons_append {p : List Char} (h : ':' ∉ p) (text : List Char) :
    splitColons (p ++ text) = (splitColons text).modifyHead (p ++ ·) := by
  induction p with
  | nil =>
    cases hsplit : splitColons text with
    | nil => exact absurd hsplit (splitColons_ne_nil text)
    | cons _ _ => simp [hsplit]
  | cons c p ih =>
    have hc : c ≠ ':' := fun heq => h (heq ▸ mem_cons_self ..)
    have hp : ':' ∉ p := fun hmem => h (mem_cons_of_mem _ hmem)
    rw [cons_append, splitColons, ih hp, modifyHead_modifyHead]
    · rfl
    · intro _ heq
      exact absurd heq hc

theorem splitColons_single (h : text.head? ≠ some ':') :
    splitColons (':' :: text) = (splitColons text).modifyHead (':' :: ·) := by
  rw [splitColons]
  intro _ _ heq
  subst heq
  exact h rfl

section

variable (h : ∀ p ∈ ps, IsPiece p)
include h

theorem head_joined (rest : List Char) (hps : ps ≠ []) : (joined ps ++ rest).head? ≠ some ':' := by
  cases ps with
  | nil => exact absurd rfl hps
  | cons p ps =>
    obtain ⟨hp, hcolon⟩ := h p (mem_cons_self ..)
    cases p with
    | nil => exact absurd rfl hp
    | cons c p =>
      have hc : c ≠ ':' := fun heq => hcolon (heq ▸ mem_cons_self ..)
      cases ps with
      | nil => simpa using hc
      | cons q ps => rw [joined_cons_cons]; simpa using hc

theorem splitColons_joined_rest (hps : ps ≠ []) (rest : List Char) :
    splitColons (joined ps ++ rest) = (splitColons rest).modifyHead (joined ps ++ ·) := by
  induction ps with
  | nil => exact absurd rfl hps
  | cons p ps ih =>
    have hp := (h p (mem_cons_self ..)).2
    cases ps with
    | nil => rw [joined_singleton, splitColons_append hp]
    | cons q ps =>
      have htail : ∀ p ∈ q :: ps, IsPiece p := fun r hr => h r (mem_cons_of_mem _ hr)
      rw [joined_cons_cons, append_assoc, splitColons_append hp, cons_append,
        splitColons_single (head_joined htail rest (cons_ne_nil _ _)), ih htail (cons_ne_nil _ _),
        modifyHead_modifyHead, modifyHead_modifyHead]
      simp [Function.comp_def]

theorem splitColons_joined : splitColons (joined ps) = [joined ps] := by
  cases ps with
  | nil => rfl
  | cons p ps => simpa [splitColons] using splitColons_joined_rest h (cons_ne_nil _ _) []

theorem splitColons_joined_append (text : List Char) :
    splitColons (joined ps ++ ':' :: ':' :: text) = joined ps :: splitColons text := by
  cases ps with
  | nil => rw [joined_nil, nil_append, splitColons]
  | cons p ps => simpa [splitColons] using splitColons_joined_rest h (cons_ne_nil _ _) (':' :: ':' :: text)

end

theorem intercalate_splitColons (text : List Char) : [':', ':'].intercalate (splitColons text) = text := by
  fun_induction splitColons with
  | case1 => rfl
  | case2 text ih =>
    cases hsplit : splitColons text with
    | nil => exact absurd hsplit (splitColons_ne_nil text)
    | cons part parts =>
      rw [hsplit] at ih
      rw [intercalate_cons_cons, ih]
      rfl
  | case3 c text _ ih =>
    cases hsplit : splitColons text with
    | nil => exact absurd hsplit (splitColons_ne_nil text)
    | cons part parts =>
      rw [hsplit] at ih
      rw [modifyHead_cons]
      cases parts with
      | nil => rw [intercalate_singleton] at ih ⊢; rw [ih]
      | cons next parts =>
        rw [← ih]
        simp

/-! ## Eight words between colons -/

def readGroup (text : List Char) : Option Nat :=
  if text ≠ [] ∧ text.length ≤ 4 ∧ text.all (· ∈ hexDigits) then some (ofHex text) else none

/-- Reads pieces that end an address: words, of which the last two may be written as an IPv4 address. -/
def readEnd : List (List Char) → Option (List Nat)
  | [] => some []
  | [last] =>
    match readGroup last with
    | some word => some [word]
    | none => (readIpv4 last).map fun n => [n / 65536, n % 65536]
  | piece :: next :: rest => do
    let word ← readGroup piece
    let words ← readEnd (next :: rest)
    some (word :: words)

/-- Reads an IPv6 address without a zone. -/
def readWords (text : List Char) : Option (List Nat) :=
  match splitColons text with
  | [whole] => do
    let words ← readEnd (pieces whole)
    if words.length = 8 then some words else none
  | [left, right] => do
    let left ← (pieces left).mapM readGroup
    let right ← readEnd (pieces right)
    if left.length + right.length < 8 then
      some (left ++ List.replicate (8 - left.length - right.length) 0 ++ right)
    else none
  | _ => none

def isZoneChar (c : Char) : Bool := c.isAlphanum || c ∈ ['-', '.', ':']

/-- Whether what follows an address is nothing, or a zone. -/
def isZone : List Char → Bool
  | [] => true
  | _ :: zone => !zone.isEmpty && zone.all isZoneChar

def readIpv6 (text : List Char) : Option (List Nat) :=
  if isZone (text.dropWhile (· ≠ '%')) then readWords (text.takeWhile (· ≠ '%')) else none

def isIP (text : List Char) : Nat := if (readIpv4 text).isSome then 4 else if (readIpv6 text).isSome then 6 else 0

theorem readGroup_spec (h : readGroup text = some n) :
    text ≠ [] ∧ text.length ≤ 4 ∧ (∀ c ∈ text, c ∈ hexDigits) ∧ n = ofHex text := by
  unfold readGroup at h
  split at h
  · next hall => cases h; exact ⟨hall.1, hall.2.1, forall_of_all hall.2.2, rfl⟩
  · cases h

theorem readEnd_spec {words : List Nat} (h : readEnd ps = some words) : ps.mapM readGroup = some words ∨
      ∃ groups quad front n, ps = groups ++ [quad] ∧ groups.mapM readGroup = some front ∧
        readIpv4 quad = some n ∧ words = front ++ [n / 65536, n % 65536] := by
  fun_induction readEnd generalizing words with
  | case1 => exact .inl (by simpa using h)
  | case2 last word hword => exact .inl (by simpa [hword] using h)
  | case3 last _ =>
    obtain ⟨n, hn, rfl⟩ := map_eq_some_iff.1 h
    exact .inr ⟨[], last, [], n, rfl, rfl, hn, rfl⟩
  | case4 piece next rest ih =>
    simp only [bind_eq_bind, bind_eq_some_iff, Option.some.injEq] at h
    obtain ⟨word, hword, rest', hrest, rfl⟩ := h
    rcases ih hrest with hall | ⟨groups, quad, front, n, hps, hfront, hn, rfl⟩
    · exact .inl (by rw [mapM_cons, hword, hall]; rfl)
    · refine .inr ⟨piece :: groups, quad, word :: front, n, by rw [hps]; rfl, ?_, hn, rfl⟩
      rw [mapM_cons, hword, hfront]
      rfl

end IpText
