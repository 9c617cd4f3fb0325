import Coinslot.Lib.JsonText
import Coinslot.Lib.Numerals

/-!
# JSON values and their text

A JSON value over any type of numbers, and the text that is written of it. How a number is written is a
parameter. Where no two numbers are written alike, and each in the letters of a number
(`WritesNumbers`), the text says which value it was, and where it ends (`write_unique`).
-/

namespace JsonTree

open JsonText Numerals List

/-- A JSON value. The fields of an object are in the order they came in. -/
inductive Json (ν : Type) where
  | null
  | bool (value : Bool)
  | number (value : ν)
  | string (text : String)
  | array (items : List (Json ν))
  | object (fields : List (String × Json ν))

variable {ν : Type}

/-- **Induction on a value**, with what holds of its items and of the values of its fields. -/
theorem Json.induct {P : Json ν → Prop} (null : P .null) (bool : ∀ b, P (.bool b)) (number : ∀ n, P (.number n))
    (string : ∀ s, P (.string s)) (array : ∀ items, (∀ v ∈ items, P v) → P (.array items))
    (object : ∀ fields, (∀ f ∈ fields, P f.2) → P (.object fields)) (v : Json ν) : P v := by
  refine Json.rec (motive_1 := P) (motive_2 := fun items => ∀ v ∈ items, P v)
    (motive_3 := fun fields => ∀ f ∈ fields, P f.2) (motive_4 := fun f => P f.2)
    null bool number string array object ?_ ?_ ?_ ?_ ?_ v
  · rintro v ⟨⟩
  · intro v rest hv hrest w hw
    rcases mem_cons.1 hw with rfl | hw
    · exact hv
    · exact hrest w hw
  · rintro f ⟨⟩
  · intro f rest hf hrest g hg
    rcases mem_cons.1 hg with rfl | hg
    · exact hf
    · exact hrest g hg
  · intro k v hv
    exact hv

/-! ## The text -/

/-- Texts one after another, with a comma between them. -/
def commaJoined (texts : List (List Char)) : List Char := List.intercalate [','] texts

def writtenField (field : String × List Char) : List Char := jsonQuoted field.1 ++ ':' :: field.2

section
variable (num : ν → List Char)

mutual

/-- The text of a value. -/
def write : Json ν → List Char
  | .null => "null".toList
  | .bool true => "true".toList
  | .bool false => "false".toList
  | .number n => num n
  | .string s => jsonQuoted s
  | .array items => '[' :: (commaJoined (writeItems items) ++ [']'])
  | .object fields => '{' :: (commaJoined ((writeFields fields).map writtenField) ++ ['}'])

/-- The texts of some values. -/
def writeItems : List (Json ν) → List (List Char)
  | [] => []
  | v :: rest => write v :: writeItems rest

/-- The texts of the values of some fields, each with its name. -/
def writeFields : List (String × Json ν) → List (String × List Char)
  | [] => []
  | (name, v) :: rest => (name, write v) :: writeFields rest

end

theorem writeItems_eq (items : List (Json ν)) : writeItems num items = items.map (write num) := by
  induction items with
  | nil => rfl
  | cons v rest ih => rw [writeItems, ih, map_cons]

theorem writeFields_eq (fields : List (String × Json ν)) :
    writeFields num fields = fields.map fun f => (f.1, write num f.2) := by
  induction fields with
  | nil => rfl
  | cons f rest ih =>
    obtain ⟨name, v⟩ := f
    rw [writeFields, ih, map_cons]

end

/-! ## The text says which value it was -/

/-- Numbers that are written in the letters of a number, no two of them alike. -/
structure WritesNumbers (num : ν → List Char) (P : ν → Prop) : Prop where
  letters : ∀ n, P n → ∀ c ∈ num n, IsNumeral c
  ne_nil : ∀ n, P n → num n ≠ []
  inj : ∀ n m, P n → P m → num n = num m → n = m

/-- The numbers of a value are of a kind. -/
inductive Numbers (P : ν → Prop) : Json ν → Prop where
  | null : Numbers P .null
  | bool {b : Bool} : Numbers P (.bool b)
  | number {n : ν} (h : P n) : Numbers P (.number n)
  | string {s : String} : Numbers P (.string s)
  | array {items : List (Json ν)} (h : ∀ v ∈ items, Numbers P v) : Numbers P (.array items)
  | object {fields : List (String × Json ν)} (h : ∀ f ∈ fields, Numbers P f.2) : Numbers P (.object fields)

/-- What may follow a value: nothing, or the sign that ends it. -/
def Ended (r : List Char) : Prop := ∀ c ∈ r.head?, c = ',' ∨ c = ']' ∨ c = '}'

theorem not_isNumeral_of_ended {r : List Char} (h : Ended r) : ∀ c ∈ r.head?, ¬ IsNumeral c := by
  intro c hc
  rcases h c hc with rfl | rfl | rfl <;> simp [IsNumeral]

/-- Which form a value has. -/
def Json.form : Json ν → Nat
  | .null => 0
  | .bool _ => 1
  | .number _ => 2
  | .string _ => 3
  | .array _ => 4
  | .object _ => 5

/-- The form of the value whose text begins with a letter. -/
def formOf (c : Char) : Nat :=
  if c = 'n' then 0 else if c = 't' ∨ c = 'f' then 1 else if c = '"' then 3 else if c = '[' then 4
  else if c = '{' then 5 else 2

theorem formOf_of_isNumeral {c : Char} (h : IsNumeral c) : formOf c = 2 := by
  have hnot : c ≠ 'n' ∧ c ≠ 't' ∧ c ≠ 'f' ∧ c ≠ '"' ∧ c ≠ '[' ∧ c ≠ '{' := by
    refine ⟨?_, ?_, ?_, ?_, ?_, ?_⟩ <;> rintro rfl <;> rcases h with h | h <;> revert h <;> decide
  obtain ⟨hn, ht, hf, hq, ha, ho⟩ := hnot
  simp [formOf, hn, ht, hf, hq, ha, ho]

variable {num : ν → List Char} {P : ν → Prop}

theorem form_head (hnum : WritesNumbers num P) {v : Json ν} (hv : Numbers P v) :
    ∃ c rest, write num v = c :: rest ∧ formOf c = v.form := by
  cases v with
  | null => exact ⟨'n', _, rfl, rfl⟩
  | bool b => cases b with
    | true => exact ⟨'t', _, rfl, rfl⟩
    | false => exact ⟨'f', _, rfl, rfl⟩
  | number n =>
    cases hv with
    | number h =>
      obtain ⟨c, rest, hc⟩ := exists_cons_of_ne_nil (hnum.ne_nil n h)
      exact ⟨c, rest, hc, formOf_of_isNumeral (hnum.letters n h c (by rw [hc]; exact mem_cons_self))⟩
  | string s => exact ⟨'"', _, rfl, rfl⟩
  | array items => exact ⟨'[', _, rfl, rfl⟩
  | object fields => exact ⟨'\x7b', _, rfl, rfl⟩

theorem form_eq (hnum : WritesNumbers num P) {v w : Json ν} {r r' : List Char} (hv : Numbers P v)
    (hw : Numbers P w) (h : write num v ++ r = write num w ++ r') : v.form = w.form := by
  obtain ⟨c, rest, hc, hform⟩ := form_head hnum hv
  obtain ⟨c', rest', hc', hform'⟩ := form_head hnum hw
  rw [hc, hc'] at h
  rw [← hform, ← hform', (List.cons.inj h).1]

theorem commaJoined_cons (text : List Char) (texts : List (List Char)) :
    commaJoined (text :: texts) = text ++ texts.flatMap (',' :: ·) := by
  unfold commaJoined
  induction texts generalizing text with
  | nil => simp [List.intercalate]
  | cons next rest ih =>
    rw [intercalate_cons_cons, ih, flatMap_cons]
    simp

section
variable {α : Type} {code : α → List Char} {close : Char}

/-- What can be told from what ends it, among what `Q` holds of. -/
def Told (code : α → List Char) (Q : α → Prop) (a : α) : Prop :=
  ∀ b r r', Q b → Ended r → Ended r' → code a ++ r = code b ++ r' → a = b ∧ r = r'

theorem ended_tail (hclose : Ended [close]) (as : List α) (r : List Char) :
    Ended (as.flatMap (fun a => ',' :: code a) ++ close :: r) := by
  cases as with
  | nil => rintro c ⟨⟩; exact hclose close rfl
  | cons a as => rintro c ⟨⟩; exact .inl rfl

variable {Q : α → Prop} {as bs : List α} {r r' : List Char}

/-- **A list is told by its items**, after the first. By induction on the list. -/
theorem tail_unique (hclose : Ended [close]) (hcomma : close ≠ ',') (has : ∀ a ∈ as, Told code Q a)
    (hbs : ∀ b ∈ bs, Q b)
    (h : as.flatMap (fun a => ',' :: code a) ++ close :: r = bs.flatMap (fun b => ',' :: code b) ++ close :: r') :
    as = bs ∧ r = r' := by
  induction as generalizing bs with
  | nil =>
    cases bs with
    | nil => exact ⟨rfl, (List.cons.inj h).2⟩
    | cons b bs => exact absurd (List.cons.inj h).1 hcomma
  | cons a as ih =>
    cases bs with
    | nil => exact absurd (List.cons.inj h).1.symm hcomma
    | cons b bs =>
      simp only [flatMap_cons, cons_append, append_assoc] at h
      obtain ⟨rfl, hrest⟩ := has a mem_cons_self b _ _ (hbs b mem_cons_self)
        (ended_tail hclose as r) (ended_tail hclose bs r') (List.cons.inj h).2
      obtain ⟨rfl, hr⟩ := ih (fun a ha => has a (mem_cons_of_mem _ ha))
        (fun b hb => hbs b (mem_cons_of_mem _ hb)) hrest
      exact ⟨rfl, hr⟩

/-- **A list is told by its items**, where none begins as the list ends. -/
theorem joined_unique (hclose : Ended [close]) (hcomma : close ≠ ',')
    (hstart : ∀ a, Q a → ∃ c rest, code a = c :: rest ∧ c ≠ close) (has : ∀ a ∈ as, Told code Q a)
    (hq : ∀ a ∈ as, Q a) (hbs : ∀ b ∈ bs, Q b)
    (h : commaJoined (as.map code) ++ close :: r = commaJoined (bs.map code) ++ close :: r') : as = bs ∧ r = r' := by
  cases as with
  | nil =>
    cases bs with
    | nil => exact ⟨rfl, (List.cons.inj h).2⟩
    | cons b bs =>
      obtain ⟨c, rest, hc, hne⟩ := hstart b (hbs b mem_cons_self)
      rw [map_cons, map_nil, commaJoined_cons, hc] at h
      exact absurd (List.cons.inj h).1.symm hne
  | cons a as =>
    cases bs with
    | nil =>
      obtain ⟨c, rest, hc, hne⟩ := hstart a (hq a mem_cons_self)
      rw [map_cons, map_nil, commaJoined_cons, hc] at h
      exact absurd (List.cons.inj h).1 hne
    | cons b bs =>
      simp only [map_cons, commaJoined_cons, append_assoc, flatMap_map] at h
      obtain ⟨rfl, hrest⟩ := has a mem_cons_self b _ _ (hbs b mem_cons_self)
        (ended_tail hclose as r) (ended_tail hclose bs r') h
      obtain ⟨rfl, hr⟩ := tail_unique hclose hcomma (fun a ha => has a (mem_cons_of_mem _ ha))
        (fun b hb => hbs b (mem_cons_of_mem _ hb)) hrest
      exact ⟨rfl, hr⟩

end

section

variable (hnum : WritesNumbers num P)
include hnum

theorem form_ne {v : Json ν} (hv : Numbers P v) : ∃ c rest, write num v = c :: rest ∧ c ≠ ']' := by
  obtain ⟨c, rest, hc, hform⟩ := form_head hnum hv
  refine ⟨c, rest, hc, ?_⟩
  rintro rfl
  cases v with
  | number n =>
    cases hv with
    | number h =>
      have hletter := hnum.letters n h ']' (by rw [show num n = ']' :: rest from hc]; exact mem_cons_self)
      simp [IsNumeral] at hletter
  | null | bool | string | array | object => cases hform

/-- **A value is told by its text**, and so is what follows it. By induction on the value. -/
theorem write_unique (v : Json ν) (hv : Numbers P v) : Told (write num) (Numbers P) v := by
  induction v using Json.induct with
  | null =>
    intro w r r' hw _ _ h
    have hform := form_eq hnum hv hw h
    cases w with
    | null => exact ⟨rfl, append_cancel_left h⟩
    | bool | number | string | array | object => cases hform
  | bool b =>
    intro w r r' hw _ _ h
    have hform := form_eq hnum hv hw h
    cases w with
    | bool b' =>
      cases b <;> cases b'
      · exact ⟨rfl, append_cancel_left h⟩
      · cases (List.cons.inj h).1
      · cases (List.cons.inj h).1
      · exact ⟨rfl, append_cancel_left h⟩
    | null | number | string | array | object => cases hform
  | number n =>
    intro w r r' hw hr hr' h
    have hform := form_eq hnum hv hw h
    cases w with
    | number m =>
      cases hv with
      | number hn => cases hw with
        | number hm =>
          obtain ⟨htext, hrest⟩ := span_unique (hnum.letters n hn) (hnum.letters m hm)
            (not_isNumeral_of_ended hr) (not_isNumeral_of_ended hr') h
          exact ⟨by rw [hnum.inj n m hn hm htext], hrest⟩
    | null | bool | string | array | object => cases hform
  | string s =>
    intro w r r' hw _ _ h
    have hform := form_eq hnum hv hw h
    cases w with
    | string t =>
      obtain ⟨rfl, hrest⟩ := jsonQuoted_append h
      exact ⟨rfl, hrest⟩
    | null | bool | number | array | object => cases hform
  | array items ih =>
    intro w r r' hw _ _ h
    have hform := form_eq hnum hv hw h
    cases w with
    | array items' =>
      cases hv with
      | array hitems => cases hw with
        | array hitems' =>
          simp only [write, writeItems_eq, cons_append, append_assoc, nil_append, List.cons.injEq, true_and] at h
          obtain ⟨rfl, hrest⟩ := joined_unique (by rintro c ⟨⟩; exact .inr (.inl rfl)) (by decide)
            (fun v hv => form_ne hnum hv) (fun v hv => ih v hv (hitems v hv)) hitems hitems' h
          exact ⟨rfl, hrest⟩
    | null | bool | number | string | object => cases hform
  | object fields ih =>
    intro w r r' hw _ _ h
    have hform := form_eq hnum hv hw h
    cases w with
    | object fields' =>
      cases hv with
      | object hfields => cases hw with
        | object hfields' =>
          simp only [write, writeFields_eq, map_map, cons_append, append_assoc, nil_append,
            List.cons.injEq, true_and] at h
          have htold : ∀ f ∈ fields, Told (writtenField ∘ fun f : String × Json ν => (f.1, write num f.2))
              (fun f => Numbers P f.2) f := by
            intro f hf g r r' hg hr hr' heq
            simp only [Function.comp_apply, writtenField, append_assoc, cons_append] at heq
            obtain ⟨hname, hvalue⟩ := jsonQuoted_append heq
            obtain ⟨hsame, hrest⟩ := ih f hf (hfields f hf) g.2 r r' hg hr hr' (List.cons.inj hvalue).2
            exact ⟨Prod.ext hname hsame, hrest⟩
          obtain ⟨rfl, hrest⟩ := joined_unique (by rintro c ⟨⟩; exact .inr (.inr rfl)) (by decide)
            (fun f _ => ⟨'"', _, rfl, by decide⟩) htold hfields hfields' h
          exact ⟨rfl, hrest⟩
    | null | bool | number | string | array => cases hform

theorem write_inj {v w : Json ν} (hv : Numbers P v) (hw : Numbers P w) (h : write num v = write num w) : v = w :=
  (write_unique hnum v hv w [] [] hw nofun nofun (by rw [h])).1

end

end JsonTree
