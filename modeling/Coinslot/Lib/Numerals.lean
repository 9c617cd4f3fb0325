import Coinslot.Lib.Decimals
import Mathlib.Tactic.FieldSimp
import Mathlib.Tactic.Ring

/-!
# Numbers as a script writes them

A finite number of a script is known by the shortest decimal that is read as it. A decimal is written plainly where
its point is near its digits, and with an exponent where it is not. Two decimals are never written alike
(`Decimal.text_inj`), because what is written has one layout, and a layout has one value.
-/

namespace Numerals

open List Option

/-- A decimal in its shortest form: `digits` times ten to the `exponent`. -/
structure Decimal where
  negative : Bool
  digits : Nat
  exponent : Int
  zero : digits = 0 → negative = false ∧ exponent = 0
  short : digits ≠ 0 → digits % 10 ≠ 0
deriving DecidableEq

/-- What is written of a decimal, but for its sign: the digits before the point, those after it, and the exponent. -/
structure Layout where
  whole : List Char
  fraction : List Char
  exponent : Option Int

/-- Where the point of a decimal is written, counted from its first digit. -/
def pointOf (digits : Nat) (exponent : Int) : Int := (Nat.toDigits 10 digits).length + exponent

/-- How a decimal is laid out: plainly where its point is near its digits, else with an exponent. -/
def layoutOf (digits : Nat) (exponent : Int) : Layout :=
  let written := Nat.toDigits 10 digits
  let point := pointOf digits exponent
  if -6 < point ∧ point ≤ 21 then
    if 0 ≤ exponent then ⟨written ++ List.replicate exponent.toNat '0', [], none⟩
    else if 0 < point then ⟨written.take point.toNat, written.drop point.toNat, none⟩
    else ⟨['0'], List.replicate (-point).toNat '0' ++ written, none⟩
  else ⟨written.take 1, written.drop 1, some (point - 1)⟩

/-- The digits after the point, with the point, where there are any. -/
def pointed (fraction : List Char) : List Char := if fraction = [] then [] else '.' :: fraction

/-- The exponent, with its sign, where there is one. -/
def scaled : Option Int → List Char
  | none => []
  | some e => 'e' :: (if e < 0 then '-' else '+') :: Nat.toDigits 10 e.natAbs

def Layout.text (layout : Layout) : List Char :=
  layout.whole ++ (pointed layout.fraction ++ scaled layout.exponent)

def Decimal.text (d : Decimal) : List Char :=
  (if d.negative then ['-'] else []) ++ (layoutOf d.digits d.exponent).text

/-! ## A text has one layout -/

theorem span_unique {P : Char → Prop} {as bs r r' : List Char} (ha : ∀ c ∈ as, P c) (hb : ∀ c ∈ bs, P c)
    (hr : ∀ c ∈ r.head?, ¬ P c) (hr' : ∀ c ∈ r'.head?, ¬ P c) (h : as ++ r = bs ++ r') : as = bs ∧ r = r' := by
  induction as generalizing bs with
  | nil =>
    cases bs with
    | nil => exact ⟨rfl, h⟩
    | cons b bs => exact absurd (hb b mem_cons_self) (hr b (by rw [nil_append] at h; rw [h]; rfl))
  | cons a as ih =>
    cases bs with
    | nil => exact absurd (ha a mem_cons_self) (hr' a (by rw [nil_append] at h; rw [← h]; rfl))
    | cons b bs =>
      obtain ⟨rfl, htail⟩ := List.cons.inj h
      obtain ⟨rfl, hrest⟩ := ih (fun c hc => ha c (mem_cons_of_mem _ hc))
        (fun c hc => hb c (mem_cons_of_mem _ hc)) htail
      exact ⟨rfl, hrest⟩

variable {exponent : Option Int} {l : Layout}

theorem head_scaled : ∀ c ∈ (scaled exponent).head?, c = 'e' := by
  cases exponent with
  | none => rintro c ⟨⟩
  | some e => rintro c ⟨⟩; rfl

theorem head_pointed_scaled {fraction : List Char} :
    ∀ c ∈ (pointed fraction ++ scaled exponent).head?, c = '.' ∨ c = 'e' := by
  unfold pointed
  split
  · exact fun c hc => .inr (head_scaled c hc)
  · rintro c ⟨⟩
    exact .inl rfl

theorem scaled_inj {e e' : Option Int} (h : scaled e = scaled e') : e = e' := by
  cases e with
  | none => cases e' with
    | none => rfl
    | some y => cases h
  | some x => cases e' with
    | none => cases h
    | some y =>
      obtain ⟨hsign, hdigits⟩ := List.cons.inj (List.cons.inj h).2
      have habs : x.natAbs = y.natAbs := by
        rw [← Nat.ofDigitChars_ten_toDigits (n := x.natAbs), hdigits, Nat.ofDigitChars_ten_toDigits]
      have hneg : x < 0 ↔ y < 0 := by by_cases hx : x < 0 <;> by_cases hy : y < 0 <;> simp [hx, hy] at hsign ⊢
      have : x = y := by omega
      rw [this]

/-- The digits of a layout are digits. -/
structure Layout.Digital (layout : Layout) : Prop where
  whole : ∀ c ∈ layout.whole, c.isDigit = true
  fraction : ∀ c ∈ layout.fraction, c.isDigit = true

/-- **A text has one layout.** -/
theorem Layout.text_inj {l' : Layout} (hl : l.Digital) (hl' : l'.Digital) (h : l.text = l'.text) : l = l' := by
  have hmark {fraction : List Char} {exponent : Option Int} :
      ∀ c ∈ (pointed fraction ++ scaled exponent).head?, ¬ c.isDigit = true := by
    intro c hc
    rcases head_pointed_scaled c hc with rfl | rfl <;> decide
  have hscaled {exponent : Option Int} : ∀ c ∈ (scaled exponent).head?, ¬ c.isDigit = true := by
    intro c hc
    rw [head_scaled c hc]
    decide
  obtain ⟨hwhole, hrest⟩ := span_unique hl.whole hl'.whole hmark hmark h
  have hparts : l.fraction = l'.fraction ∧ scaled l.exponent = scaled l'.exponent := by
    unfold pointed at hrest
    split at hrest
    · next hnone =>
      split at hrest
      · next hnone' => exact ⟨hnone.trans hnone'.symm, hrest⟩
      · have := head_scaled '.' (by rw [nil_append] at hrest; rw [hrest]; rfl)
        cases this
    · split at hrest
      · have := head_scaled '.' (by rw [nil_append] at hrest; rw [← hrest]; rfl)
        cases this
      · exact span_unique hl.fraction hl'.fraction hscaled hscaled (List.cons.inj hrest).2
  obtain ⟨whole, fraction, exponent⟩ := l
  obtain ⟨whole', fraction', exponent'⟩ := l'
  obtain ⟨hfraction, hexponent⟩ := hparts
  rw [Layout.mk.injEq]
  exact ⟨hwhole, hfraction, scaled_inj hexponent⟩

/-! ## A layout has one value -/

def Layout.value (l : Layout) : ℚ :=
  (Nat.ofDigitChars 10 (l.whole ++ l.fraction) 0 : ℚ) * 10 ^ (l.exponent.getD 0 - l.fraction.length)

theorem ofDigitChars_zeros (n acc : Nat) : Nat.ofDigitChars 10 (List.replicate n '0') acc = acc * 10 ^ n := by
  induction n generalizing acc with
  | zero => rw [replicate_zero, Nat.ofDigitChars_nil, Nat.pow_zero, Nat.mul_one]
  | succ n ih =>
    rw [replicate_succ, Nat.ofDigitChars_cons, ih, Nat.sub_self, Nat.add_zero, Nat.pow_succ]
    ring

theorem layoutOf_value (s : Nat) (e : Int) : (layoutOf s e).value = (s : ℚ) * 10 ^ e := by
  have hpos : 0 < (Nat.toDigits 10 s).length := Nat.length_toDigits_pos
  have hread : Nat.ofDigitChars 10 (Nat.toDigits 10 s) 0 = s := Nat.ofDigitChars_ten_toDigits
  have hpointOf : pointOf s e = (Nat.toDigits 10 s).length + e := rfl
  generalize hl : layoutOf s e = l
  simp only [layoutOf] at hl
  split at hl
  · split at hl
    · next he =>
      subst hl
      obtain ⟨n, rfl⟩ := Int.eq_ofNat_of_zero_le he
      simp [Layout.value, Nat.ofDigitChars_append, hread, mul_comm]
    · next he =>
      split at hl
      · next hpoint =>
        subst hl
        rw [Layout.value, take_append_drop, hread, length_drop, getD_none]
        congr 2
        omega
      · next hpoint =>
        subst hl
        rw [Layout.value, ← append_assoc, Nat.ofDigitChars_append, singleton_append,
          ← replicate_succ, ofDigitChars_zeros, Nat.zero_mul, hread, length_append,
          length_replicate, getD_none]
        congr 2
        omega
  · subst hl
    rw [Layout.value, take_append_drop, hread, length_drop, getD_some]
    congr 2
    omega

theorem shortest_unique {s s' : Nat} {e e' : Int} (hs : s % 10 ≠ 0) (hs' : s' % 10 ≠ 0)
    (h : (s : ℚ) * 10 ^ e = (s' : ℚ) * 10 ^ e') : s = s' ∧ e = e' := by
  have hstep {s s' : Nat} {e : Int} {n : Nat} (hs : s % 10 ≠ 0)
      (h : (s : ℚ) * 10 ^ e = (s' : ℚ) * 10 ^ (e + n)) : n = 0 := by
    rw [zpow_add₀ (by norm_num : (10 : ℚ) ≠ 0), zpow_natCast, mul_comm ((10 : ℚ) ^ e), ← mul_assoc] at h
    have hnat : s = s' * 10 ^ n := by
      exact_mod_cast mul_right_cancel₀ (zpow_ne_zero e (by norm_num : (10 : ℚ) ≠ 0)) h
    rcases Nat.eq_zero_or_pos n with hn | hn
    · exact hn
    · obtain ⟨m, rfl⟩ : ∃ m, n = m + 1 := ⟨n - 1, by omega⟩
      rw [hnat, Nat.pow_succ, ← Nat.mul_assoc, Nat.mul_mod_left] at hs
      exact absurd rfl hs
  have he : e = e' := by
    rcases Int.le_total e e' with hle | hle
    · obtain ⟨n, hn⟩ := Int.le.dest hle
      have := hstep (n := n) hs (by rw [hn]; exact h)
      omega
    · obtain ⟨n, hn⟩ := Int.le.dest hle
      have := hstep (n := n) hs' (by rw [hn]; exact h.symm)
      omega
  subst he
  exact ⟨by exact_mod_cast mul_right_cancel₀ (zpow_ne_zero e (by norm_num : (10 : ℚ) ≠ 0)) h, rfl⟩

/-! ## Two decimals are never written alike -/

theorem digital_layoutOf (s : Nat) (e : Int) : (layoutOf s e).Digital ∧ (layoutOf s e).whole ≠ [] := by
  have hdigit : ∀ c ∈ Nat.toDigits 10 s, c.isDigit = true := fun c hc =>
    Nat.isDigit_of_mem_toDigits (b := 10) (by decide) (by decide) hc
  have hzero (n : Nat) : ∀ c ∈ List.replicate n '0', c.isDigit = true := by
    intro c hc
    rw [eq_of_mem_replicate hc]
    rfl
  have hne : Nat.toDigits 10 s ≠ [] := ne_nil_of_length_pos Nat.length_toDigits_pos
  generalize hl : layoutOf s e = l
  simp only [layoutOf] at hl
  split at hl
  · split at hl
    · subst hl
      refine ⟨⟨fun c hc => ?_, nofun⟩, append_ne_nil_of_left_ne_nil hne _⟩
      rcases mem_append.1 hc with hc | hc
      · exact hdigit c hc
      · exact hzero _ c hc
    · split at hl
      · next hpoint =>
        subst hl
        refine ⟨⟨fun c hc => hdigit c (mem_of_mem_take hc), fun c hc => hdigit c (mem_of_mem_drop hc)⟩, ?_⟩
        intro hnil
        rcases take_eq_nil_iff.1 hnil with h | h
        · omega
        · exact hne h
      · subst hl
        refine ⟨⟨?_, fun c hc => ?_⟩, nofun⟩
        · intro c hc
          rw [mem_singleton.1 hc]
          rfl
        · rcases mem_append.1 hc with hc | hc
          · exact hzero _ c hc
          · exact hdigit c hc
  · subst hl
    refine ⟨⟨fun c hc => hdigit c (mem_of_mem_take hc), fun c hc => hdigit c (mem_of_mem_drop hc)⟩, ?_⟩
    intro hnil
    rcases take_eq_nil_iff.1 hnil with h | h
    · cases h
    · exact hne h

theorem head_text (s : Nat) (e : Int) : ∃ c rest, (layoutOf s e).text = c :: rest ∧ c.isDigit = true := by
  obtain ⟨hdigital, hne⟩ := digital_layoutOf s e
  obtain ⟨c, rest, hwhole⟩ := exists_cons_of_ne_nil hne
  exact ⟨c, _, by rw [Layout.text, hwhole, cons_append], hdigital.whole c (by rw [hwhole]; exact mem_cons_self)⟩

/-- **Two decimals are never written alike.** -/
theorem Decimal.text_inj {d d' : Decimal} (h : d.text = d'.text) : d = d' := by
  have hunsigned : d.negative = d'.negative ∧
      (layoutOf d.digits d.exponent).text = (layoutOf d'.digits d'.exponent).text := by
    obtain ⟨c, rest, hc, hdigit⟩ := head_text d.digits d.exponent
    obtain ⟨c', rest', hc', hdigit'⟩ := head_text d'.digits d'.exponent
    unfold Decimal.text at h
    rw [hc, hc'] at h ⊢
    cases hn : d.negative <;> cases hn' : d'.negative <;> rw [hn, hn'] at h
    · exact ⟨rfl, h⟩
    · rw [(List.cons.inj h).1] at hdigit
      cases hdigit
    · rw [← (List.cons.inj h).1] at hdigit'
      cases hdigit'
    · exact ⟨rfl, (List.cons.inj h).2⟩
  obtain ⟨hnegative, htext⟩ := hunsigned
  have hlayout := Layout.text_inj (digital_layoutOf _ _).1 (digital_layoutOf _ _).1 htext
  have hvalue : (d.digits : ℚ) * 10 ^ d.exponent = (d'.digits : ℚ) * 10 ^ d'.exponent := by
    rw [← layoutOf_value, ← layoutOf_value, hlayout]
  have hsame : d.digits = d'.digits ∧ d.exponent = d'.exponent := by
    have hten (e : Int) : (10 : ℚ) ^ e ≠ 0 := zpow_ne_zero e (by norm_num)
    by_cases hd : d.digits = 0
    · have hd' : d'.digits = 0 := by
        rw [hd, Nat.cast_zero, zero_mul] at hvalue
        exact_mod_cast (mul_eq_zero.1 hvalue.symm).resolve_right (hten _)
      exact ⟨hd.trans hd'.symm, (d.zero hd).2.trans (d'.zero hd').2.symm⟩
    · have hd' : d'.digits ≠ 0 := by
        intro hd'
        rw [hd', Nat.cast_zero, zero_mul] at hvalue
        exact hd (by exact_mod_cast (mul_eq_zero.1 hvalue).resolve_right (hten _))
      exact shortest_unique (d.short hd) (d'.short hd') hvalue
  obtain ⟨negative, digits, exponent, _, _⟩ := d
  obtain ⟨negative', digits', exponent', _, _⟩ := d'
  obtain ⟨hdigits, hexponent⟩ := hsame
  rw [Decimal.mk.injEq]
  exact ⟨hnegative, hdigits, hexponent⟩

/-- The letters a number is written in. -/
def IsNumeral (c : Char) : Prop := c.isDigit = true ∨ c ∈ ['-', '+', '.', 'e']

theorem Layout.letters (h : l.Digital) : ∀ c ∈ l.text, IsNumeral c := by
  intro c hc
  rcases mem_append.1 hc with hc | hc
  · exact .inl (h.whole c hc)
  rcases mem_append.1 hc with hc | hc
  · unfold pointed at hc
    split at hc
    · cases hc
    · rcases mem_cons.1 hc with rfl | hc
      · exact .inr (by decide)
      · exact .inl (h.fraction c hc)
  · cases hexponent : l.exponent with
    | none =>
      rw [hexponent] at hc
      cases hc
    | some e =>
      rw [hexponent] at hc
      rcases mem_cons.1 hc with rfl | hc
      · exact .inr (by decide)
      rcases mem_cons.1 hc with rfl | hc
      · split
        · exact .inr (by decide)
        · exact .inr (by decide)
      · exact .inl (Nat.isDigit_of_mem_toDigits (b := 10) (by decide) (by decide) hc)

theorem Decimal.letters (d : Decimal) : (∀ c ∈ d.text, IsNumeral c) ∧ d.text ≠ [] := by
  obtain ⟨c, rest, hc, -⟩ := head_text d.digits d.exponent
  constructor
  · intro c hc
    rcases mem_append.1 hc with hc | hc
    · split at hc
      · rw [mem_singleton.1 hc]
        exact .inr (by decide)
      · cases hc
    · exact Layout.letters (digital_layoutOf _ _).1 c hc
  · rw [Decimal.text, hc]
    exact append_ne_nil_of_right_ne_nil _ (cons_ne_nil _ _)

example : (Decimal.mk true 12345 (-3) nofun (by decide)).text = "-12.345".toList := by decide
example : (Decimal.mk false 15 22 nofun (by decide)).text = "1.5e+23".toList := by decide
example : (Decimal.mk false 1 (-7) nofun (by decide)).text = "1e-7".toList := by decide

end Numerals
