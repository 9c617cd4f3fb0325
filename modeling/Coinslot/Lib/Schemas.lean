import Coinslot.Lib.Utf16
import Mathlib.Data.List.Nodup
import Mathlib.Data.Rat.Defs

/-!
# Schemas that rewrite what they accept

A schema is given a value as a program holds it and hands back what it makes of it, or refuses it. A schema is
stable where it hands back unchanged what it once handed back (`Stable`): then a document may be read again
wherever it was stored. The ways a schema is built of others keep that (`Stable.strictObject`, `Stable.record`,
`Stable.optional`, `Stable.union`, …): what rewrites its input first has to leave alone what the schema behind it
hands back (`Stable.preprocess`), and a default has to be accepted as it is (`Stable.default`).
-/

namespace Schemas

open Utf16 List Option

/-- A value as a program holds it. Of an object these are the fields of its own; `other` is whatever else there
is, of which no two are told apart here. -/
inductive Value where
  | undefined
  | null
  | bool (b : Bool)
  | number (n : Rat)
  | string (t : Text)
  | array (items : List Value)
  | object (fields : List (Text × Value))
  | other

abbrev Schema := Value → Option Value

/-- What a schema hands back it accepts again, and hands back as it is. -/
def Stable (s : Schema) : Prop := ∀ v u, s v = some u → s u = some u

/-! ## Values that hold no others -/

/-- A text, which may be rewritten. -/
def string (check : Text → Option Text) : Schema
  | .string t => (check t).map .string
  | _ => none

def stringWith (holds : Text → Bool) : Schema := string fun t => if holds t then some t else none

def enum (words : List Text) : Schema := stringWith words.contains

def literal (word : Text) : Schema := stringWith (· == word)

def boolean : Schema
  | .bool b => some (.bool b)
  | _ => none

/-- A number that meets a condition. -/
def numberWith (holds : Rat → Bool) : Schema
  | .number n => if holds n then some (.number n) else none
  | _ => none

variable {check : Text → Option Text} {u v : Value} {α β : Type*} {name : Text} {out part : List (Text × Value)}
  {parts : List (List (Text × Value))} {passedOver : Text → Bool}

theorem Stable.string (h : ∀ t u, check t = some u → check u = some u) :
    Stable (string check) := by
  intro v u hv
  cases v with
  | string t =>
    obtain ⟨t', ht', rfl⟩ := map_eq_some_iff.1 hv
    exact map_eq_some_iff.2 ⟨t', h t t' ht', rfl⟩
  | undefined | null | bool _ | number _ | array _ | object _ | other => cases hv

theorem Stable.stringWith (holds : Text → Bool) : Stable (stringWith holds) := by
  refine Stable.string fun t u ht => ?_
  split at ht
  · cases ht
    rw [if_pos ‹_›]
  · cases ht

theorem Stable.boolean : Stable boolean := by
  intro v u hv
  cases v with
  | bool b =>
    cases hv
    rfl
  | undefined | null | number _ | string _ | array _ | object _ | other => cases hv

theorem Stable.numberWith (holds : Rat → Bool) : Stable (numberWith holds) := by
  intro v u hv
  cases v with
  | number n =>
    rw [Schemas.numberWith] at hv
    split at hv
    · cases hv
      rw [Schemas.numberWith, if_pos ‹_›]
    · cases hv
  | undefined | null | bool _ | string _ | array _ | object _ | other => cases hv

theorem string_isString (h : Schemas.string check v = some u) :
    ∃ t, u = .string t := by
  cases v with
  | string t =>
    obtain ⟨t', -, rfl⟩ := map_eq_some_iff.1 h
    exact ⟨t', rfl⟩
  | undefined | null | bool _ | number _ | array _ | object _ | other => cases h

/-! ## Conditions, and what may be left out -/

/-- What a schema hands back, where it meets a condition. -/
def refine (s : Schema) (holds : Value → Bool) : Schema := fun v => (s v).filter holds

/-- What may be left out. -/
def optional (s : Schema) : Schema
  | .undefined => some .undefined
  | v => s v

/-- What stands for itself where it is left out. -/
def default (value : Value) (s : Schema) : Schema
  | .undefined => some value
  | v => s v

/-- A value that is rewritten before it is looked at, or refused there. -/
def preprocess (rewrite : Value → Option Value) (s : Schema) : Schema := fun v => (rewrite v).bind s

/-- The first of two schemas that accepts a value. -/
def union (s s' : Schema) : Schema := fun v => (s v).or (s' v)

variable {s : Schema}

theorem Stable.refine (h : Stable s) (holds : Value → Bool) : Stable (refine s holds) := by
  intro v u hv
  obtain ⟨hs, hholds⟩ := filter_eq_some_iff.1 hv
  exact filter_eq_some_iff.2 ⟨h v u hs, hholds⟩

theorem optional_of_ne (h : v ≠ .undefined) : optional s v = s v := by
  cases v with
  | undefined => exact absurd rfl h
  | null | bool _ | number _ | string _ | array _ | object _ | other => rfl

theorem default_of_ne {value : Value} (h : v ≠ .undefined) : Schemas.default value s v = s v := by
  cases v with
  | undefined => exact absurd rfl h
  | null | bool _ | number _ | string _ | array _ | object _ | other => rfl

theorem Stable.optional (h : Stable s) : Stable (optional s) := by
  intro v u hv
  by_cases hu : u = .undefined
  · rw [hu]
    rfl
  · rw [optional_of_ne hu]
    by_cases hundefined : v = .undefined
    · rw [hundefined] at hv
      exact absurd (Option.some.inj hv).symm hu
    · rw [optional_of_ne hundefined] at hv
      exact h v u hv

theorem Stable.default (h : Stable s) {value : Value} (hvalue : s value = some value)
    (hs : ∀ v, s v ≠ some .undefined) : Stable (Schemas.default value s) := by
  intro v u hv
  have hu : s u = some u := by
    by_cases hundefined : v = .undefined
    · rw [hundefined] at hv
      cases hv
      exact hvalue
    · rw [default_of_ne hundefined] at hv
      exact h v u hv
  rw [default_of_ne, hu]
  rintro rfl
  exact hs _ hu

theorem Stable.preprocess (h : Stable s) {rewrite : Value → Option Value}
    (hrewrite : ∀ v u, s v = some u → rewrite u = some u) : Stable (preprocess rewrite s) := by
  intro v u hv
  obtain ⟨w, -, hw⟩ := bind_eq_some_iff.1 hv
  exact bind_eq_some_iff.2 ⟨u, hrewrite w u hw, h w u hw⟩

theorem Stable.union {s' : Schema} (h : Stable s) (h' : Stable s') (hapart : ∀ v u, s' v = some u → s u = none) :
    Stable (union s s') := by
  intro v u hv
  rw [Schemas.union] at hv ⊢
  cases hs : s v with
  | some w =>
    rw [hs] at hv
    cases hv
    rw [h v u hs]
    rfl
  | none =>
    rw [hs] at hv
    rw [hapart v u hv]
    exact h' v u hv

/-! ## Lists, records and objects -/

/-- A list of items. -/
def array (s : Schema) : Schema
  | .array items => (items.mapM s).map .array
  | _ => none

/-- An object of names that meet a condition, each with a value of one schema. What is under a name that is
dropped is not looked at. -/
def record (dropped : Text) (key : Text → Bool) (s : Schema) : Schema
  | .object fields =>
    ((fields.filter (·.1 ≠ dropped)).mapM fun field =>
      if key field.1 then (s field.2).map fun u => (field.1, u) else none).map .object
  | _ => none

/-- The value under a name, as an object has it: `undefined` where there is none. -/
def valueAt (name : Text) (fields : List (Text × Value)) : Value := (fields.lookup name).getD .undefined

def has (name : Text) (fields : List (Text × Value)) : Bool := (fields.lookup name).isSome

/-- What stands under a name of an object that is made: where nothing is made of it, what stood there before. -/
def placed (present : Bool) (name : Text) : Value → List (Text × Value)
  | .undefined => if present then [(name, .undefined)] else []
  | u => [(name, u)]

def fieldOf (fields : List (Text × Value)) (field : Text × Schema) : Option (List (Text × Value)) :=
  (field.2 (valueAt field.1 fields)).map (placed (has field.1 fields) field.1)

/-- An object of a shape, in the order of the shape. A name that is not in the shape is refused, but where it is
passed over. -/
def strictObject (passedOver : Text → Bool) (shape : List (Text × Schema)) : Schema
  | .object fields =>
    if fields.all fun field => passedOver field.1 || shape.any (·.1 == field.1) then
      (shape.mapM (fieldOf fields)).map fun parts => .object parts.flatten
    else none
  | _ => none

theorem mapM_eq_some_iff {f : α → Option β} {l : List α} {out : List β} :
    l.mapM f = some out ↔ List.Forall₂ (fun a b => f a = some b) l out := by
  induction l generalizing out with
  | nil =>
    rw [mapM_nil, forall₂_nil_left_iff]
    exact ⟨fun h => (Option.some.inj h).symm, fun h => h ▸ rfl⟩
  | cons a l ih =>
    rw [mapM_cons, forall₂_cons_left_iff]
    constructor
    · intro h
      obtain ⟨b, hb, hrest⟩ := bind_eq_some_iff.1 h
      obtain ⟨bs, hbs, hout⟩ := bind_eq_some_iff.1 hrest
      cases hout
      exact ⟨b, bs, hb, ih.1 hbs, rfl⟩
    · rintro ⟨b, bs, hb, hbs, rfl⟩
      rw [hb, ih.2 hbs]
      rfl

theorem mem_of_mapM {f : α → Option β} {l : List α} {out : List β} (h : l.mapM f = some out) {b : β} (hb : b ∈ out) :
    ∃ a ∈ l, f a = some b := by
  rw [mapM_eq_some_iff] at h
  induction h with
  | nil => exact absurd hb not_mem_nil
  | cons hab _ ih =>
    rcases mem_cons.1 hb with rfl | hb
    · exact ⟨_, mem_cons_self, hab⟩
    · obtain ⟨a, ha, hfa⟩ := ih hb
      exact ⟨a, mem_cons_of_mem _ ha, hfa⟩

theorem mapM_stable {f : α → Option α} (h : ∀ a b, f a = some b → f b = some b) {l out : List α}
    (hl : l.mapM f = some out) : out.mapM f = some out := by
  rw [mapM_eq_some_iff] at hl ⊢
  induction hl with
  | nil => exact .nil
  | cons hab _ ih => exact .cons (h _ _ hab) ih

theorem Stable.array (h : Stable s) : Stable (array s) := by
  intro v u hv
  cases v with
  | array items =>
    obtain ⟨out, hout, rfl⟩ := map_eq_some_iff.1 hv
    exact map_eq_some_iff.2 ⟨out, mapM_stable h hout, rfl⟩
  | undefined | null | bool _ | number _ | string _ | object _ | other => cases hv

theorem Stable.record (h : Stable s) (dropped : Text) (key : Text → Bool) : Stable (record dropped key s) := by
  intro v u hv
  cases v with
  | object fields =>
    obtain ⟨out, hout, rfl⟩ := map_eq_some_iff.1 hv
    have hnames : ∀ field ∈ out, field.1 ≠ dropped := by
      intro field hfield
      obtain ⟨before, hin, hmade⟩ := mem_of_mapM hout hfield
      split at hmade
      · obtain ⟨u, -, rfl⟩ := map_eq_some_iff.1 hmade
        exact of_decide_eq_true (mem_filter.1 hin).2
      · cases hmade
    refine map_eq_some_iff.2 ⟨out, ?_, rfl⟩
    rw [filter_eq_self.2 fun field hfield => decide_eq_true (hnames field hfield)]
    refine mapM_stable (fun field made hmade => ?_) hout
    split at hmade
    · next hkey =>
      obtain ⟨u, hu, rfl⟩ := map_eq_some_iff.1 hmade
      rw [if_pos hkey, h _ _ hu]
      rfl
    · cases hmade
  | undefined | null | bool _ | number _ | string _ | array _ | other => cases hv

theorem placed_of_ne {present : Bool} (h : u ≠ .undefined) :
    placed present name u = [(name, u)] := by
  cases u with
  | undefined => exact absurd rfl h
  | null | bool _ | number _ | string _ | array _ | object _ | other => rfl

variable {fields : List (Text × Value)}

theorem fieldOf_names {field : Text × Schema} (h : fieldOf fields field = some part) :
    ∀ entry ∈ part, entry.1 = field.1 := by
  obtain ⟨u, -, rfl⟩ := map_eq_some_iff.1 h
  intro entry hentry
  by_cases hu : u = .undefined
  · rw [hu, placed] at hentry
    split at hentry
    · rw [mem_singleton.1 hentry]
    · exact absurd hentry not_mem_nil
  · rw [placed_of_ne hu] at hentry
    rw [mem_singleton.1 hentry]

theorem fieldOf_again {field : Text × Schema} (hs : Stable field.2) (h : fieldOf fields field = some part)
    (hlookup : out.lookup field.1 = part.lookup field.1) : fieldOf out field = some part := by
  obtain ⟨u, hu, rfl⟩ := map_eq_some_iff.1 h
  have hagain := hs _ _ hu
  unfold fieldOf valueAt
  by_cases hundefined : u = .undefined
  · subst hundefined
    cases hhas : has field.1 fields with
    | true =>
      rw [hhas, placed, if_pos rfl, lookup_cons_self] at hlookup
      rw [hlookup, getD_some, hagain, has, hlookup]
      rfl
    | false =>
      rw [hhas, placed, if_neg Bool.false_ne_true, lookup_nil] at hlookup
      rw [hlookup, getD_none, hagain, has, hlookup]
      rfl
  · rw [placed_of_ne hundefined, lookup_cons_self] at hlookup
    rw [hlookup, getD_some, hagain, map_some, placed_of_ne hundefined, placed_of_ne hundefined]

theorem lookup_eq_none (h : ∀ entry ∈ fields, entry.1 ≠ name) : fields.lookup name = none := by
  rw [lookup_eq_none_iff]
  intro entry hentry
  exact bne_iff_ne.2 fun heq => h entry hentry heq.symm

variable {shape : List (Text × Schema)}

theorem lookup_parts (h : List.Forall₂ (fun field part => fieldOf fields field = some part) shape parts)
    (hnames : (shape.map Prod.fst).Nodup) :
    ∀ before : List (Text × Value), (∀ entry ∈ before, ∀ field ∈ shape, entry.1 ≠ field.1) →
      List.Forall₂ (fun field part => (before ++ parts.flatten).lookup field.1 = part.lookup field.1) shape
        parts := by
  induction h with
  | nil => exact fun _ _ => .nil
  | @cons field part shape parts hpart hparts ih =>
    intro before hbefore
    rw [map_cons, nodup_cons] at hnames
    have hrest : ∀ entry ∈ parts.flatten, entry.1 ≠ field.1 := by
      intro entry hentry heq
      obtain ⟨part', hpart', hin⟩ := mem_flatten.1 hentry
      obtain ⟨field', hfield', hmade⟩ := mem_of_mapM (mapM_eq_some_iff.2 hparts) hpart'
      refine hnames.1 (List.mem_map.2 ⟨field', hfield', ?_⟩)
      rw [← fieldOf_names hmade entry hin, heq]
    refine .cons ?_ ?_
    · rw [flatten_cons, lookup_append, lookup_append,
        lookup_eq_none fun entry hentry => hbefore entry hentry field mem_cons_self, lookup_eq_none hrest,
        none_or, or_none]
    · rw [flatten_cons, ← append_assoc]
      refine ih hnames.2 (before ++ part) fun entry hentry field' hfield' => ?_
      rcases mem_append.1 hentry with hentry | hentry
      · exact hbefore entry hentry field' (mem_cons_of_mem _ hfield')
      · rw [fieldOf_names hpart entry hentry]
        intro heq
        exact hnames.1 (List.mem_map.2 ⟨field', hfield', heq.symm⟩)

theorem mapM_fieldOf_again (hmade : List.Forall₂ (fun field part => fieldOf fields field = some part) shape parts)
    (h : ∀ field ∈ shape, Stable field.2)
    (hlookup : List.Forall₂ (fun field part => out.lookup field.1 = part.lookup field.1) shape parts) :
    shape.mapM (fieldOf out) = some parts := by
  rw [mapM_eq_some_iff]
  induction hmade with
  | nil => exact .nil
  | @cons field part shape parts hpart _ ih =>
    cases hlookup with
    | cons hone hrest =>
      exact .cons (fieldOf_again (h field mem_cons_self) hpart hone)
        (ih (fun field' hfield' => h field' (mem_cons_of_mem _ hfield')) hrest)

/-- **Objects of a shape** whose names are distinct are stable where their fields are. -/
theorem Stable.strictObject (passedOver : Text → Bool)
    (hnames : (shape.map Prod.fst).Nodup) (h : ∀ field ∈ shape, Stable field.2) :
    Stable (strictObject passedOver shape) := by
  intro v u hv
  cases v with
  | object fields =>
    rw [Schemas.strictObject] at hv
    split at hv
    · obtain ⟨parts, hparts, rfl⟩ := map_eq_some_iff.1 hv
      have hknown : (parts.flatten.all fun field => passedOver field.1 || shape.any (·.1 == field.1)) = true := by
        rw [List.all_eq_true]
        intro entry hentry
        obtain ⟨part, hpart, hin⟩ := mem_flatten.1 hentry
        obtain ⟨field, hfield, hmade⟩ := mem_of_mapM hparts hpart
        rw [Bool.or_eq_true]
        exact .inr (List.any_eq_true.2 ⟨field, hfield, beq_iff_eq.2 (fieldOf_names hmade entry hin).symm⟩)
      have hlookup := lookup_parts (mapM_eq_some_iff.1 hparts) hnames [] fun entry hentry =>
        absurd hentry not_mem_nil
      rw [Schemas.strictObject, if_pos hknown]
      exact map_eq_some_iff.2 ⟨parts, mapM_fieldOf_again (mapM_eq_some_iff.1 hparts) h hlookup, rfl⟩
    · cases hv
  | undefined | null | bool _ | number _ | string _ | array _ | other => cases hv

theorem strictObject_isObject (h : Schemas.strictObject passedOver shape v = some u) :
    ∃ fields, u = .object fields := by
  cases v with
  | object fields =>
    rw [Schemas.strictObject] at h
    split at h
    · obtain ⟨parts, -, rfl⟩ := map_eq_some_iff.1 h
      exact ⟨_, rfl⟩
    · cases h
  | undefined | null | bool _ | number _ | string _ | array _ | other => cases h

theorem has_iff : has name fields = true ↔ ∃ entry ∈ fields, entry.1 = name := by
  rw [has, ← ne_none_iff_isSome, ne_eq, lookup_eq_none_iff]
  constructor
  · intro h
    by_contra hnone
    exact h fun entry hentry => bne_iff_ne.2 fun heq => hnone ⟨entry, hentry, heq.symm⟩
  · rintro ⟨entry, hentry, heq⟩ hnone
    exact bne_iff_ne.1 (hnone entry hentry) heq.symm

/-- Two objects of the same names, but for names of the shape, of which every field of the shape is made the same,
are made the same. -/
theorem strictObject_congr {fields' : List (Text × Value)}
    (hnames : ∀ name, (∀ field ∈ shape, field.1 ≠ name) → has name fields' = has name fields)
    (h : ∀ field ∈ shape, fieldOf fields' field = fieldOf fields field) :
    Schemas.strictObject passedOver shape (.object fields') =
      Schemas.strictObject passedOver shape (.object fields) := by
  have hknown : ∀ {fields fields' : List (Text × Value)},
      (∀ name, (∀ field ∈ shape, field.1 ≠ name) → has name fields' = has name fields) →
      (fields.all fun field => passedOver field.1 || shape.any (·.1 == field.1)) = true →
      (fields'.all fun field => passedOver field.1 || shape.any (·.1 == field.1)) = true := by
    intro fields fields' hnames hall
    rw [List.all_eq_true] at hall ⊢
    intro entry hentry
    by_cases hin : ∃ field ∈ shape, field.1 = entry.1
    · obtain ⟨field, hfield, heq⟩ := hin
      rw [Bool.or_eq_true]
      exact .inr (List.any_eq_true.2 ⟨field, hfield, beq_iff_eq.2 heq⟩)
    · have hhas : has entry.1 fields = true := by
        rw [← hnames entry.1 fun field hfield heq => hin ⟨field, hfield, heq⟩]
        exact has_iff.2 ⟨entry, hentry, rfl⟩
      obtain ⟨entry', hentry', heq⟩ := has_iff.1 hhas
      have := hall entry' hentry'
      rwa [heq] at this
  have hsame : (fields'.all fun field => passedOver field.1 || shape.any (·.1 == field.1)) =
      fields.all fun field => passedOver field.1 || shape.any (·.1 == field.1) :=
    Bool.eq_iff_iff.2 ⟨hknown fun name hname => (hnames name hname).symm, hknown hnames⟩
  have hparts : shape.mapM (fieldOf fields') = shape.mapM (fieldOf fields) := by
    clear hsame hknown hnames
    induction shape with
    | nil => rfl
    | cons field shape ih =>
      rw [mapM_cons, mapM_cons, h field mem_cons_self, ih fun field' hfield' => h field' (mem_cons_of_mem _ hfield')]
  rw [Schemas.strictObject, Schemas.strictObject, hsame, hparts]

end Schemas
