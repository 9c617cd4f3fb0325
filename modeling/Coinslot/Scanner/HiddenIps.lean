import Coinslot.Scanner.Ips

/-!
# What hides behind another spelling

Of the four formats in which an IPv6 address carries an IPv4 address the check looks at one, the mapped
addresses. So a mapped address is public only if the address it carries is, however it is spelled, and an
address of another format is public whatever it carries, apart from `::` and `::1` (`nothing_hides_iff`).

That the spelling makes no difference is `parseIpv6_eq`: what the check reads by rewriting a text is what the
text says (`IpText.readIpv6`), for every text that is an IPv6 address.
-/

namespace Coinslot

open IpText List Option IpClassification

/-! ## IPv4 texts -/

variable {n : Nat}

theorem v4Octet_eq {part : List Char} (h : readOctet part = some n) (result : Nat) :
    v4Octet result part = some ((result * 256 + n) % 2 ^ 32) := by
  obtain ⟨hne, hlength, hdigits, rfl, hmax⟩ := readOctet_spec h
  have hwritten : ¬ (part = [] ∨ 3 < part.length ∨ ¬ part.all (· ∈ digits) = true) := by
    rintro (hnil | hlong | hother)
    · exact hne hnil
    · omega
    · exact hother (by simpa using hdigits)
  rw [v4Octet, if_neg hwritten]
  exact if_neg (by omega)

variable {text : List Char}

theorem v4_eq (h : readIpv4 text = some n) : v4 text = some n := by
  obtain ⟨a, b, c, d, a', b', c', d', hsplit, ha, hb, hc, hd, rfl⟩ := readIpv4_spec h
  have := (readOctet_spec ha).2.2.2.2
  have := (readOctet_spec hb).2.2.2.2
  have := (readOctet_spec hc).2.2.2.2
  have := (readOctet_spec hd).2.2.2.2
  simp only [v4, hsplit, length_cons, length_nil, foldlM_cons, foldlM_nil, v4Octet_eq ha,
    v4Octet_eq hb, v4Octet_eq hc, v4Octet_eq hd, bind_eq_bind, bind_some, Option.pure_def]
  rw [if_neg (by omega), Option.some.injEq]
  omega

theorem isDotted_of_readIpv4 (h : readIpv4 text = some n) : isDotted text = true := by
  obtain ⟨a, b, c, d, a', b', c', d', hsplit, ha, hb, hc, hd, -⟩ := readIpv4_spec h
  have hpart {part : List Char} {k : Nat} (h : readOctet part = some k) :
      (part ≠ [] && part.all (· ∈ digits)) = true := by
    obtain ⟨hne, -, hdigits, -⟩ := readOctet_spec h
    simpa [hne] using hdigits
  simp only [isDotted, hsplit, all_cons, hpart ha, hpart hb, hpart hc, hpart hd]
  rfl

variable {c : Char} {quad : List Char}

theorem not_isDotted_of_mem (hmem : c ∈ text) (hdigit : c ∉ digits) (hdot : c ≠ '.') : isDotted text = false := by
  rw [Bool.eq_false_iff]
  intro h
  simp only [isDotted, Bool.and_eq_true, List.all_eq_true] at h
  rcases mem_splitOn '.' hmem with heq | ⟨part, hpart, hc⟩
  · exact hdot heq
  · exact hdigit (by simpa using (h.2 part hpart).2 c hc)

theorem not_isDotted_of_not_mem (h : '.' ∉ text) : isDotted text = false := by
  simp [isDotted, splitOn_eq_singleton h]

/-! ## What is written as an IPv4 address -/

theorem withoutDots_of_not_mem {value : List Char} (h : '.' ∉ value) : withoutDots value = some value := by
  have hnone : dottedTail value = none := by
    refine find?_eq_none.2 fun tail htail => ?_
    rw [mem_tails] at htail
    simp [not_isDotted_of_not_mem fun hmem => h (htail.subset hmem)]
  rw [withoutDots, hnone]

theorem dottedTail_append (hquad : isDotted quad = true) (front : List Char)
    (hfront : front = [] ∨ ∃ text, front = text ++ [':']) : dottedTail (front ++ quad) = some quad := by
  induction front with
  | nil =>
    cases quad with
    | nil => exact absurd hquad (by decide)
    | cons c quad => rw [nil_append, dottedTail, tails_cons, find?_cons, hquad]
  | cons c front ih =>
    obtain ⟨text, htext⟩ := hfront.resolve_left (cons_ne_nil _ _)
    have hcolon : ':' ∈ c :: front := by rw [htext]; simp
    have hwhole : isDotted (c :: (front ++ quad)) = false :=
      not_isDotted_of_mem (mem_append_left quad hcolon) (by decide) (by decide)
    have hrest : front = [] ∨ ∃ text, front = text ++ [':'] := by
      cases text with
      | nil => exact .inl (List.cons.inj htext).2
      | cons d text => exact .inr ⟨text, (List.cons.inj htext).2⟩
    rw [dottedTail, cons_append, tails_cons, find?_cons, hwhole]
    exact ih hrest

theorem withoutDots_append (h : readIpv4 quad = some n) (front : List Char)
    (hfront : front = [] ∨ ∃ text, front = text ++ [':']) : withoutDots (front ++ quad) =
      some (front ++ joined [Nat.toDigits 16 (n / 65536), Nat.toDigits 16 (n % 65536)]) := by
  have hn := readIpv4_lt h
  have hhigh : n >>> 16 &&& 0xffff = n / 65536 := by
    rw [Nat.shiftRight_eq_div_pow, show (0xffff : Nat) = 2 ^ 16 - 1 from rfl, Nat.and_two_pow_sub_one_eq_mod]
    omega
  have hlow : n &&& 0xffff = n % 65536 := by
    rw [show (0xffff : Nat) = 2 ^ 16 - 1 from rfl, Nat.and_two_pow_sub_one_eq_mod]
  rw [withoutDots, dottedTail_append (isDotted_of_readIpv4 h) front hfront]
  simp only [v4_eq h, map_some, hhigh, hlow, length_append, Nat.add_sub_cancel, take_left,
    joined_cons_cons, joined_singleton, append_assoc]

/-! ## Words -/

/-- A word as the check reads it, in lower case. -/
def LowerGroup (p : List Char) : Prop := p ≠ [] ∧ p.length ≤ 4 ∧ ∀ c ∈ p, c ∈ lowerHexDigits

theorem LowerGroup.isPiece {p : List Char} (h : LowerGroup p) : IsPiece p :=
  ⟨h.1, fun hmem => absurd (h.2.2 _ hmem) (by decide)⟩

theorem lowerGroup_toDigits (h : n < 65536) : LowerGroup (Nat.toDigits 16 n) :=
  ⟨Nat.toDigits_ne_nil, (Nat.length_toDigits_le_iff (by decide) (by decide)).2 h, toDigits_mem n⟩

variable {ps : List (List Char)} {words : List Nat}

theorem lower_groups (h : ps.mapM readGroup = some words) : (∀ p ∈ ps.map (List.map Char.toLower), LowerGroup p) ∧
      (ps.map (List.map Char.toLower)).map ofHex = words := by
  induction ps generalizing words with
  | nil => exact ⟨fun p hp => (not_mem_nil hp).elim, by simpa using h⟩
  | cons p ps ih =>
    rw [mapM_cons] at h
    simp only [bind_eq_bind, bind_eq_some_iff, Option.pure_def, Option.some.injEq] at h
    obtain ⟨word, hword, rest, hrest, rfl⟩ := h
    obtain ⟨hall, hmap⟩ := ih hrest
    obtain ⟨hne, hlength, hhex, rfl⟩ := readGroup_spec hword
    refine ⟨fun q hq => ?_, ?_⟩
    · rcases mem_cons.1 hq with rfl | hq
      · refine ⟨by simpa using hne, by simpa using hlength, fun c hc => ?_⟩
        obtain ⟨d, hd, rfl⟩ := List.mem_map.1 hc
        exact toLower_mem_lowerHexDigits d (hhex d hd)
      · exact hall q hq
    · rw [map_cons, map_cons, hmap, ofHex_lower hhex]

theorem lowerGroups_chars (h : ∀ p ∈ ps, LowerGroup p) : '.' ∉ joined ps := by
  intro hmem
  have hpieces := pieces_joined fun p hp => (h p hp).isPiece
  cases hps : ps with
  | nil => rw [hps] at hmem; cases hmem
  | cons p qs =>
    rcases mem_splitOn ':' hmem with hcolon | ⟨part, hpart, hdot⟩
    · cases hcolon
    · rw [pieces, if_neg (ne_nil_of_mem hmem)] at hpieces
      rw [hpieces] at hpart
      exact absurd ((h part hpart).2.2 _ hdot) (by decide)

/-- **An end of an address in two spellings.** What is read at the end of a text is read of words in lower
case, once the text is in lower case and without dots. -/
theorem withoutDots_end (h : readEnd ps = some words)
    (front : List Char) (hfront : front = [] ∨ ∃ text, front = text ++ [':']) (hdots : '.' ∉ front) :
    ∃ qs, (∀ q ∈ qs, LowerGroup q) ∧ qs.map ofHex = words ∧
      withoutDots (front ++ joined (ps.map (List.map Char.toLower))) = some (front ++ joined qs) := by
  rcases readEnd_spec h with hall | ⟨groups, quad, words, n, rfl, hgroups, hn, rfl⟩
  · obtain ⟨hlower, hwords⟩ := lower_groups hall
    refine ⟨_, hlower, hwords, withoutDots_of_not_mem fun hmem => ?_⟩
    rcases mem_append.1 hmem with hmem | hmem
    · exact hdots hmem
    · exact lowerGroups_chars hlower hmem
  · obtain ⟨hlower, hwords⟩ := lower_groups hgroups
    have hquad : quad.map Char.toLower = quad := by
      refine (map_congr_left fun c hc => ?_).trans quad.map_id
      rcases readIpv4_chars hn c hc with hdigit | rfl
      · exact toLower_digits c hdigit
      · rfl
    have hlt := readIpv4_lt hn
    refine ⟨groups.map (List.map Char.toLower) ++
      [Nat.toDigits 16 (n / 65536), Nat.toDigits 16 (n % 65536)], fun q hq => ?_, ?_, ?_⟩
    · rcases mem_append.1 hq with hq | hq
      · exact hlower q hq
      · simp only [mem_cons, not_mem_nil, or_false] at hq
        rcases hq with rfl | rfl
        · exact lowerGroup_toDigits (by omega)
        · exact lowerGroup_toDigits (by omega)
    · rw [map_append, hwords, map_cons, map_singleton, ofHex_toDigits, ofHex_toDigits]
    · rw [map_append, map_singleton, hquad]
      by_cases hempty : groups.map (List.map Char.toLower) = []
      · rw [hempty, nil_append, nil_append, joined_singleton]
        exact withoutDots_append hn front hfront
      · rw [joined_append hempty (cons_ne_nil _ _), joined_append hempty (cons_ne_nil _ _), joined_singleton]
        have hcolon (rest : List Char) : front ++ (joined (groups.map (List.map Char.toLower)) ++ ':' :: rest) =
            front ++ joined (groups.map (List.map Char.toLower)) ++ [':'] ++ rest := by simp
        rw [hcolon, hcolon]
        exact withoutDots_append hn _ (.inr ⟨_, rfl⟩)

/-! ## Addresses -/

theorem expand_whole (h : ∀ p ∈ ps, IsPiece p) (hlength : ps.length = 8) : expand (joined ps) = some ps := by
  have hpieces := pieces_joined h
  unfold pieces at hpieces
  simp [expand, splitColons_joined h, hpieces, hlength]

theorem expand_halves {ls rs : List (List Char)} (hl : ∀ p ∈ ls, IsPiece p) (hr : ∀ p ∈ rs, IsPiece p)
    (hlength : ls.length + rs.length < 8) : expand (joined ls ++ [':', ':'] ++ joined rs) =
      some (ls ++ List.replicate (8 - ls.length - rs.length) ['0'] ++ rs) := by
  have hleft := pieces_joined hl
  have hright := pieces_joined hr
  unfold pieces at hleft hright
  have hmissing : ((8 : Int) - ls.length - rs.length).toNat = 8 - ls.length - rs.length := by omega
  have hsome : ¬ (8 : Int) - ls.length - rs.length < 1 := by omega
  have hhalves : splitColons (joined ls ++ [':', ':'] ++ joined rs) = [joined ls, joined rs] := by
    rw [append_assoc, cons_append, singleton_append, splitColons_joined_append hl, splitColons_joined hr]
  rw [expand, hhalves]
  simp [hleft, hright, hmissing, hsome]

theorem parseIpv6_of_expand {input value : List Char}
    (hvalue : withoutDots ((input.map Char.toLower).takeWhile (· ≠ '%')) = some value)
    (hexpand : expand value = some ps) (hlength : ps.length = 8) (hps : ∀ p ∈ ps, LowerGroup p) :
    parseIpv6 input = some (ps.map ofHex) := by
  have hwritten : (ps.length ≠ 8 ||
      ps.any fun word => word = [] || 4 < word.length || !word.all (· ∈ lowerHexDigits)) = false := by
    have hgroup (word : List Char) (hword : word ∈ ps) :
        (word = [] || 4 < word.length || !word.all (· ∈ lowerHexDigits)) = false := by
      obtain ⟨hne, hshort, hhex⟩ := hps word hword
      have hlong : ¬ 4 < word.length := by omega
      simpa [hne, hlong] using hhex
    rw [List.any_eq_false.2 fun word hword => by simp [hgroup word hword]]
    simp [hlength]
  simp only [parseIpv6, hvalue, hexpand, bind_eq_bind, bind_some, hwritten]
  rfl

theorem toLower_eq_percent (h : c.toLower = '%') : c = '%' := by
  unfold Char.toLower at h
  split at h
  · next hupper =>
    have hval : (c.val + ('a'.val - 'A'.val)).toNat = '%'.val.toNat := congrArg (fun d => d.val.toNat) h
    have hlow := UInt32.le_iff_toNat_le.1 hupper.1
    have hhigh := UInt32.le_iff_toNat_le.1 hupper.2
    rw [UInt32.toNat_add] at hval
    simp only [Char.reduceVal, UInt32.reduceToNat, UInt32.reduceSub] at hval hlow hhigh
    omega
  · exact h

theorem takeWhile_toLower (text : List Char) :
    (text.map Char.toLower).takeWhile (· ≠ '%') = (text.takeWhile (· ≠ '%')).map Char.toLower := by
  induction text with
  | nil => rfl
  | cons c text ih =>
    by_cases hc : c = '%'
    · subst hc; rfl
    · have hlower : c.toLower ≠ '%' := fun h => hc (toLower_eq_percent h)
      rw [map_cons, takeWhile_cons_of_pos (by simpa using hlower), ih,
        takeWhile_cons_of_pos (by simpa using hc), map_cons]

/-- **The spelling makes no difference.** What the check reads of an IPv6 address is what its text says. -/
theorem parseIpv6_eq (h : readIpv6 text = some words) : parseIpv6 text = some words := by
  unfold readIpv6 at h
  split at h
  · have hlower := takeWhile_toLower text
    generalize text.takeWhile (· ≠ '%') = body at h hlower
    unfold readWords at h
    split at h
    · next whole hsplit =>
      have hbody : body = joined (pieces whole) := by
        have := intercalate_splitColons body
        rw [hsplit, intercalate_singleton] at this
        rw [joined_pieces, this]
      simp only [bind_eq_bind, bind_eq_some_iff] at h
      obtain ⟨found, hfound, h⟩ := h
      split at h
      · next hlength =>
        cases h
        obtain ⟨qs, hqs, hwords, hdots⟩ := withoutDots_end hfound [] (.inl rfl) not_mem_nil
        rw [hbody, joined_map Char.toLower rfl] at hlower
        rw [nil_append, ← hlower] at hdots
        have hqslength : qs.length = 8 := by rw [← hlength, ← hwords, length_map]
        rw [← hwords]
        exact parseIpv6_of_expand hdots (expand_whole (fun q hq => (hqs q hq).isPiece) hqslength) hqslength hqs
      · cases h
    · next left right hsplit =>
      have hbody : body = joined (pieces left) ++ [':', ':'] ++ joined (pieces right) := by
        have := intercalate_splitColons body
        rw [hsplit, intercalate_cons_cons, intercalate_singleton] at this
        rw [joined_pieces, joined_pieces, this]
      simp only [bind_eq_bind, bind_eq_some_iff] at h
      obtain ⟨front, hfront, last, hlast, h⟩ := h
      split at h
      · next hlength =>
        cases h
        obtain ⟨hls, hfront⟩ := lower_groups hfront
        generalize hlseq : (pieces left).map (List.map Char.toLower) = ls at hls hfront
        obtain ⟨rs, hrs, hlast, hdots⟩ := withoutDots_end hlast (joined ls ++ [':', ':'])
          (.inr ⟨joined ls ++ [':'], by simp⟩) (by
            intro hmem
            rcases mem_append.1 hmem with hmem | hmem
            · exact lowerGroups_chars hls hmem
            · exact absurd hmem (by decide))
        have hcolons : [':', ':'].map Char.toLower = [':', ':'] := rfl
        rw [hbody, map_append, map_append, joined_map Char.toLower rfl, joined_map Char.toLower rfl,
          hlseq, hcolons] at hlower
        rw [← hfront, ← hlast, length_map, length_map] at hlength ⊢
        have hexpand := expand_halves (fun l hl => (hls l hl).isPiece) (fun r hr => (hrs r hr).isPiece) hlength
        rw [← hlower] at hdots
        rw [parseIpv6_of_expand hdots hexpand]
        · rw [map_append, map_append, map_replicate]
          rfl
        · rw [length_append, length_append, length_replicate]
          omega
        · intro q hq
          rcases mem_append.1 hq with hq | hq
          · rcases mem_append.1 hq with hq | hq
            · exact hls q hq
            · rw [eq_of_mem_replicate hq]
              exact ⟨cons_ne_nil _ _, by decide, forall_of_all (by decide)⟩
          · exact hrs q hq
      · cases h
    · cases h
  · cases h

/-! ## What the words come to -/

theorem parseIpv6_lt (h : parseIpv6 text = some words) : ∀ word ∈ words, word < 65536 := by
  simp only [parseIpv6, bind_eq_bind, bind_eq_some_iff] at h
  obtain ⟨value, -, ps, -, h⟩ := h
  split at h
  · cases h
  · next hwritten =>
    cases h
    intro word hword
    obtain ⟨p, hp, rfl⟩ := List.mem_map.1 hword
    simp only [Bool.or_eq_true, List.any_eq_true, not_or, not_exists, not_and, Bool.not_eq_true,
      decide_eq_false_iff_not, Bool.not_eq_false'] at hwritten
    obtain ⟨⟨-, hshort⟩, hhex⟩ := hwritten.2 p hp
    have hlength : p.length ≤ 4 := by omega
    have hhex : ∀ c ∈ p, c ∈ lowerHexDigits := forall_of_all hhex
    calc ofHex p < 16 ^ p.length := ofHex_lt fun c hc => mem_hexDigits_of_lower c (hhex c hc)
      _ ≤ 16 ^ 4 := Nat.pow_le_pow_right (by decide) hlength

theorem classifyWords_mapped {high low : Nat} (hhigh : high < 65536) (hlow : low < 65536) :
    (classifyWords [0, 0, 0, 0, 0, 0xffff, high, low]).isAllowed = (v4Block (high * 65536 + low)).isNone := by
  have hmapped : (high <<< 16 ||| low) % 4294967296 = high * 65536 + low := by
    rw [← Nat.shiftLeft_add_eq_or_of_lt (show low < 2 ^ 16 from hlow), Nat.shiftLeft_eq]
    omega
  cases hblock : v4Block (high * 65536 + low) with
  | none => simp [classifyWords, hasPrefix, range_succ, hmapped, hblock, isAllowed]
  | some block => simp [classifyWords, hasPrefix, range_succ, hmapped, hblock, isAllowed]

theorem classifyWords_compatible (high low : Nat) :
    (classifyWords [0, 0, 0, 0, 0, 0, high, low]).isAllowed = true ↔ 1 < high * 65536 + low := by
  have hclassify : classifyWords [0, 0, 0, 0, 0, 0, high, low] =
      if high = 0 ∧ low = 0 then .blocked (some 6) .unspecified
      else if high = 0 ∧ low = 1 then .blocked (some 6) .loopback
      else .allowed 6 := by
    simp [classifyWords, hasPrefix, range_succ]
  rw [hclassify]
  split
  · simp only [isAllowed, Bool.false_eq_true, false_iff]
    omega
  · split
    · simp only [isAllowed, Bool.false_eq_true, false_iff]
      omega
    · simp only [isAllowed, true_iff]
      omega

theorem classifyWords_sixToFour (b c d e f g h : Nat) :
    classifyWords [0x2002, b, c, d, e, f, g, h] = .allowed 6 := by
  simp [classifyWords, hasPrefix, range_succ]

theorem classifyWords_nat64 (high low : Nat) : classifyWords [0x64, 0xff9b, 0, 0, 0, 0, high, low] = .allowed 6 := by
  simp [classifyWords, hasPrefix, range_succ]

/-! ## Addresses and lists of them -/

theorem classifyIp_ipv4 {text : String} (h : readIpv4 text.toList = some n) :
    (classifyIp text).isAllowed = (v4Block n).isNone := by
  have hfamily : isIP text.toList = 4 := by rw [isIP, h]; rfl
  simp only [classifyIp, hfamily, if_true, v4_eq h]
  cases v4Block n with
  | none => rfl
  | some _ => rfl

theorem classifyIp_ipv6 {text : String} (hfamily : isIP text.toList = 6)
    (h : readIpv6 text.toList = some words) : classifyIp text = classifyWords words := by
  have h6 : (6 : Nat) ≠ 4 := by decide
  simp only [classifyIp, hfamily, if_neg h6, ne_eq, not_true_eq_false, if_false, parseIpv6_eq h]

theorem assertPublicAddresses_ok {addresses : List String} : assertPublicAddresses addresses = .ok () ↔
      addresses ≠ [] ∧ ∀ address ∈ addresses, (classifyIp address).isAllowed = true := by
  have hone (address : String) :
      assertPublicAddress address = .ok () ↔ (classifyIp address).isAllowed = true := by
    unfold assertPublicAddress
    cases classifyIp address with
    | allowed _ => simp [isAllowed]
    | blocked _ _ => simp [isAllowed]
  have hall (l : List String) :
      l.forM assertPublicAddress = .ok () ↔ ∀ address ∈ l, (classifyIp address).isAllowed = true := by
    induction l with
    | nil => exact ⟨fun _ _ h => (not_mem_nil h).elim, fun _ => rfl⟩
    | cons address l ih =>
      rw [forall_mem_cons, ← ih, ← hone, List.forM_eq_forM, forM_cons]
      cases hfirst : assertPublicAddress address with
      | error _ => simp [bind, Except.bind]
      | ok _ => simp [bind, Except.bind]
  unfold assertPublicAddresses
  split
  · next hnone => simp [hnone]
  · next hsome => rw [hall]; exact ⟨fun h => ⟨hsome, h⟩, fun h => h.2⟩

/-! ## What is carried -/

/-- A format in which an IPv6 address carries an IPv4 address. -/
inductive Embedding where
  | mapped
  | compatible
  | sixToFour
  | nat64
  deriving DecidableEq, Repr

/-- What an address carries in a format, by its words. -/
def Embedding.carried : Embedding → List Nat → Option Nat
  | mapped, [0, 0, 0, 0, 0, 0xffff, high, low] => some (high * 65536 + low)
  | compatible, [0, 0, 0, 0, 0, 0, high, low] => some (high * 65536 + low)
  | sixToFour, [0x2002, high, low, _, _, _, _, _] => some (high * 65536 + low)
  | nat64, [0x64, 0xff9b, 0, 0, 0, 0, high, low] => some (high * 65536 + low)
  | _, _ => none

def Carries (format : Embedding) (address : String) (carried : Nat) : Prop :=
  isIP address.toList = 6 ∧ ∃ words, readIpv6 address.toList = some words ∧ format.carried words = some carried

def IsIpv4 (address : String) (n : Nat) : Prop := readIpv4 address.toList = some n

/-- An address does not hide another one: it is public only if the other is, and no list with an address that
is not public passes. -/
structure NoHiding (address carried : String) : Prop where
  classified : (classifyIp address).isAllowed = true → (classifyIp carried).isAllowed = true
  refused : ∀ addresses : List String, (∃ a ∈ addresses, (classifyIp a).isAllowed = false) →
    ∃ thrown, assertPublicAddresses addresses = .error thrown

theorem classifyIp_carries {format : Embedding} {address : String} (h : Carries format address n) :
    (classifyIp address).isAllowed = true ↔
      (format = .mapped → v4Block n = none) ∧ (format = .compatible → 1 < n) := by
  obtain ⟨hfamily, words, hread, hcarried⟩ := h
  have hlt := parseIpv6_lt (parseIpv6_eq hread)
  rw [classifyIp_ipv6 hfamily hread]
  unfold Embedding.carried at hcarried
  split at hcarried
  · next high low =>
    cases hcarried
    rw [classifyWords_mapped (hlt high (by simp)) (hlt low (by simp))]
    simp
  · cases hcarried
    rw [classifyWords_compatible]
    simp
  · rw [classifyWords_sixToFour]
    simp [isAllowed]
  · rw [classifyWords_nat64]
    simp [isAllowed]
  · cases hcarried

/-- **What hides behind another spelling.** For an IPv6 address that carries an IPv4 address, in every
spelling of both: it does not hide the other one exactly where it is a mapped address, or the address it
carries is in no block, or it is `::` or `::1`. -/
theorem nothing_hides_iff (format : Embedding) (address carried : String) (n : Nat)
    (haddress : Carries format address n) (hcarried : IsIpv4 carried n) :
    NoHiding address carried ↔
      format = .mapped ∨ (∀ block ∈ v4Blocks, isInV4Range n block.network block.bits = false) ∨
        format = .compatible ∧ n ≤ 1 := by
  have hpublic : v4Block n = none ↔
      ∀ block ∈ v4Blocks, isInV4Range n block.network block.bits = false := by
    simp [v4Block]
  have hrefused (addresses : List String) (h : ∃ a ∈ addresses, (classifyIp a).isAllowed = false) :
      ∃ thrown, assertPublicAddresses addresses = .error thrown := by
    obtain ⟨a, ha, hblocked⟩ := h
    cases hassert : assertPublicAddresses addresses with
    | error thrown => exact ⟨thrown, rfl⟩
    | ok _ =>
      have := (assertPublicAddresses_ok.1 hassert).2 a ha
      rw [hblocked] at this
      cases this
  have hclassified := classifyIp_carries haddress
  have hother : (classifyIp carried).isAllowed = true ↔ v4Block n = none := by
    rw [classifyIp_ipv4 hcarried, Option.isNone_iff_eq_none]
  rw [← hpublic]
  constructor
  · intro h
    have himp : _ → _ := fun hallowed => hother.1 (h.classified (hclassified.2 hallowed))
    cases format with
    | mapped => exact .inl rfl
    | compatible =>
      rcases Nat.lt_or_ge 1 n with hn | hn
      · exact .inr (.inl (himp ⟨nofun, fun _ => hn⟩))
      · exact .inr (.inr ⟨rfl, hn⟩)
    | sixToFour => exact .inr (.inl (himp ⟨nofun, nofun⟩))
    | nat64 => exact .inr (.inl (himp ⟨nofun, nofun⟩))
  · intro h
    refine ⟨fun hallowed => hother.2 ?_, hrefused⟩
    obtain ⟨hmapped, hcompatible⟩ := hclassified.1 hallowed
    rcases h with heq | hnone | ⟨heq, hn⟩
    · exact hmapped heq
    · exact hnone
    · exact absurd (hcompatible heq) (by omega)

/-- A mapped address, written with dots and in upper case, and the address it carries. -/
theorem mapped_hides_nothing : NoHiding "::FFFF:127.0.0.1%eth0" "127.0.0.1" :=
  (nothing_hides_iff .mapped "::FFFF:127.0.0.1%eth0" "127.0.0.1" 0x7f000001
    ⟨by decide +kernel, [0, 0, 0, 0, 0, 0xffff, 0x7f00, 1], by decide +kernel, rfl⟩
    (by unfold IsIpv4; decide +kernel)).2 (.inl rfl)

/-- The loopback address hides in a 6to4 address. -/
theorem loopback_hides : ¬ ∀ (format : Embedding) (address carried : String) (n : Nat),
    Carries format address n → IsIpv4 carried n → NoHiding address carried := by
  intro h
  have hhidden := (h .sixToFour "2002:7f00:1::" "127.0.0.1" 0x7f000001
    ⟨by decide +kernel, [0x2002, 0x7f00, 1, 0, 0, 0, 0, 0], by decide +kernel, rfl⟩
    (by unfold IsIpv4; decide +kernel)).classified (by decide +kernel)
  exact absurd hhidden (by decide +kernel)

end Coinslot
