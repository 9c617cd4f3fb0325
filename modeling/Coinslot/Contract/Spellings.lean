import Coinslot.Lib.Schemas
import Coinslot.Contract.Routes
import Mathlib.Data.List.TakeWhile

/-!
# The spellings of a card

A card may be written short: its price as one string, a field of a declaration as its type word, and no mode at all
(`packages/contracts/src/card.ts`). The short forms are opened out while the card is parsed, each where it stands
(`CardPriceSchema`, `writtenShort`, the default of `fulfillment`), and what comes of the card is the canonical one.

Here a schema is what it hands back (`Schemas.Schema`); what it says of a card it refuses is left out. What zod
does where its documents leave something open is a parameter (`Zod`).
-/

namespace Coinslot.Spellings

open Utf16 Schemas List Option

/-! ## The words of a card -/

/-- What zod is taken for: what `z.url()` hands back of a text it takes, and the names an object is not asked
about. -/
structure Zod where
  url : Text → Option Text
  passedOver : Text → Bool

/-- A unit that shows something (`\S`). -/
def isSolid (u : CodeUnit) : Bool := !isSpace u.val

/-- A text with anything in it but blanks (`/\S/`). -/
def saysSomething (t : Text) : Bool := t.any isSolid

def isDigit (u : CodeUnit) : Bool := within '0' '9' u

/-- The digits before the dot: a zero alone, or up to eighteen that begin with another digit. -/
def wholeHolds : Text → Bool
  | [] => false
  | u :: rest =>
    if u == unit '0' then rest.isEmpty else isDigit u && rest.all isDigit && decide (rest.length ≤ 17)

/-- The dot and the one to eighteen digits after it, or nothing. -/
def fractionHolds : Text → Bool
  | [] => true
  | dot :: digits =>
    dot == unit '.' && digits.all isDigit && decide (1 ≤ digits.length) && decide (digits.length ≤ 18)

/-- The pattern of `AmountSchema`. -/
def amountHolds (t : Text) : Bool :=
  wholeHolds (t.takeWhile (· != unit '.')) && fractionHolds (t.dropWhile (· != unit '.'))

def isUpper (u : CodeUnit) : Bool := within 'A' 'Z' u

/-- The pattern of `CurrencyCodeSchema`: three to eight upper-case letters and digits, a letter first. -/
def currencyHolds : Text → Bool
  | [] => false
  | u :: rest =>
    isUpper u && rest.all (fun v => isUpper v || isDigit v) && decide (2 ≤ rest.length) && decide (rest.length ≤ 7)

def AmountSchema : Schema := stringWith amountHolds

def CurrencyCodeSchema : Schema := stringWith currencyHolds

def MoneySchema (zod : Zod) : Schema :=
  strictObject zod.passedOver [(text "amount", AmountSchema), (text "currency", CurrencyCodeSchema)]

/-! ## Prices -/

/-- A price written as one string: the amount, one space, the currency code (`PRICE_WRITTEN_SHORT`). -/
def priceWrittenShort (t : Text) : Option (Text × Text) :=
  match t.dropWhile isSolid with
  | [] => none
  | space :: currency =>
    let amount := t.takeWhile isSolid
    if space == unit ' ' && !amount.isEmpty && !currency.isEmpty && currency.all isSolid then
      some (amount, currency)
    else none

/-- A price with its two fields written out. -/
def priceOf (amount currency : Text) : Value :=
  .object [(text "amount", .string amount), (text "currency", .string currency)]

/-- A price that is one string opened out, or refused where it is none; any other value as it is. -/
def priceOpened : Value → Option Value
  | .string t => (priceWrittenShort t).map fun written => priceOf written.1 written.2
  | v => some v

/-- A card's price: the two fields, or the one string that becomes them. -/
def CardPriceSchema (zod : Zod) : Schema := preprocess priceOpened (MoneySchema zod)

/-! ## Declarations -/

def ParamTypeSchema : Schema := enum [text "string", text "number", text "integer", text "boolean"]

/-- The pattern of `ParamNameSchema`. -/
def paramNameHolds : Text → Bool
  | [] => false
  | u :: rest =>
    (isUpper u || within 'a' 'z' u) &&
      rest.all fun v => isUpper v || within 'a' 'z' v || isDigit v || v == unit '_'

/-- One declared field. -/
def FieldSpecSchema (zod : Zod) : Schema :=
  strictObject zod.passedOver
    [(text "type", ParamTypeSchema), (text "required", optional boolean),
      (text "title", optional (stringWith saysSomething))]

/-- A whole declaration. The one name is dropped unseen. -/
def ParamSpecSchema (zod : Zod) : Schema := record (text "__proto__") paramNameHolds (FieldSpecSchema zod)

/-- A field of a declaration that is its type word, written out. -/
def fieldWrittenOut : Value → Value
  | .string t => .object [(text "type", .string t)]
  | v => v

/-- A declaration with every field written out. -/
def declarationWrittenOut : Value → Value
  | .object fields => .object (fields.map fun field => (field.1, fieldWrittenOut field.2))
  | v => v

/-- A declaration that may be written with fields that are their types alone. -/
def writtenShort (declaration : Schema) : Schema := preprocess (fun v => some (declarationWrittenOut v)) declaration

/-- A declared field that is not one that may be missing. -/
def arrives : Value → Bool
  | .object field =>
    match valueAt (text "required") field with
    | .bool false => false
    | _ => true
  | _ => true

/-- What the agent receives: at least one field, and one that arrives every time. -/
def DeclaredResultSchema (zod : Zod) : Schema :=
  refine (ParamSpecSchema zod) fun
    | .object spec => spec.any fun field => arrives field.2
    | _ => false

/-! ## Tags, hooks and deadlines -/

/-- A word the listing carries: up to thirty-two printable characters, with no blank at either end. -/
def listedHolds (t : Text) : Bool :=
  decide (1 ≤ t.length) && decide (t.length ≤ 32) && t.all (within ' ' '~') && t.head?.any isSolid &&
    t.getLast?.any isSolid

/-- The text of a value that is one. -/
def textOf? : Value → Option Text
  | .string t => some t
  | _ => none

/-- One to five tags, no two the same without regard to case. -/
def tagsHold : Value → Bool
  | .array tags =>
    decide (1 ≤ tags.length) && decide (tags.length ≤ 5) &&
      decide (((tags.filterMap textOf?).map fun tag => tag.map lowered).dedup.length = tags.length)
  | _ => false

def TagsSchema : Schema := refine (array (stringWith listedHolds)) tagsHold

def FulfillmentSchema : Schema := enum [text "sync", text "async", text "confirm"]

/-- Whether an address is https, in whatever case (`/^https:\/\//i`). -/
def isHttps (t : Text) : Bool := (t.take 8).map lowered == text "https://"

/-- How the price of a card is asked for: by the handler, or at an address that is https. -/
def PriceCheckSchema (zod : Zod) : Schema :=
  union (literal (text "handler"))
    (strictObject zod.passedOver [(text "url", Schemas.string fun t => (zod.url t).filter isHttps)])

/-- A whole number above zero (`z.int().positive()`). -/
def secondsHold (n : Rat) : Bool := n.isInt && decide (0 < n) && decide (n ≤ 9007199254740991)

def SecondsSchema : Schema := numberWith secondsHold

/-! ## The card -/

/-- The fields of a card, each with its check. -/
def cardFields (zod : Zod) : List (Text × Schema) :=
  [(text "merchant_item_id", stringWith Contract.IdentifierSchema),
    (text "title", stringWith saysSomething),
    (text "description", stringWith fun t => saysSomething t && decide (t.length ≤ 500)),
    (text "price", CardPriceSchema zod),
    (text "params", optional (writtenShort (ParamSpecSchema zod))),
    (text "result", writtenShort (DeclaredResultSchema zod)),
    (text "tags", optional TagsSchema),
    (text "fulfillment", Schemas.default (.string (text "sync")) FulfillmentSchema),
    (text "price_check", optional (PriceCheckSchema zod)),
    (text "confirm_deadline_seconds", optional SecondsSchema),
    (text "fulfill_deadline_seconds", optional SecondsSchema)]

def isUndefined : Value → Bool
  | .undefined => true
  | _ => false

/-- The rules across the fields: no card that is confirmed, no deadline to confirm, and none to deliver where the
goods are in the answer. -/
def cardHolds : Value → Bool
  | .object card =>
    let fulfillment := textOf? (valueAt (text "fulfillment") card)
    fulfillment != some (text "confirm") && isUndefined (valueAt (text "confirm_deadline_seconds") card) &&
      (fulfillment != some (text "sync") || isUndefined (valueAt (text "fulfill_deadline_seconds") card))
  | _ => false

def CardSchema (zod : Zod) : Schema := refine (strictObject zod.passedOver (cardFields zod)) cardHolds

/-! ## Read again -/

variable {zod : Zod}

section

variable (zod : Zod)

theorem MoneySchema_stable : Stable (MoneySchema zod) := by
  refine Stable.strictObject zod.passedOver (by decide) fun field hfield => ?_
  rcases mem_cons.1 hfield with rfl | hfield
  · exact Stable.stringWith amountHolds
  · rw [mem_singleton.1 hfield]
    exact Stable.stringWith currencyHolds

theorem CardPriceSchema_stable : Stable (CardPriceSchema zod) := by
  refine (MoneySchema_stable zod).preprocess fun v u hu => ?_
  obtain ⟨fields, rfl⟩ := strictObject_isObject hu
  rfl

theorem FieldSpecSchema_stable : Stable (FieldSpecSchema zod) := by
  refine Stable.strictObject zod.passedOver (by decide) fun field hfield => ?_
  simp only [mem_cons, not_mem_nil, or_false] at hfield
  rcases hfield with rfl | rfl | rfl
  · exact Stable.stringWith _
  · exact Stable.boolean.optional
  · exact (Stable.stringWith saysSomething).optional

theorem ParamSpecSchema_stable : Stable (ParamSpecSchema zod) := (FieldSpecSchema_stable zod).record _ _

end

variable {u v v' : Value} {t : Text} {card card' : List (Text × Value)}

theorem declarationWrittenOut_spec (h : ParamSpecSchema zod v = some u) :
    declarationWrittenOut u = u := by
  cases v with
  | object fields =>
    obtain ⟨out, hout, rfl⟩ := map_eq_some_iff.1 h
    refine congrArg Value.object ?_
    conv_rhs => rw [← List.map_id out]
    refine map_congr_left fun field hfield => ?_
    obtain ⟨before, -, hmade⟩ := mem_of_mapM hout hfield
    split at hmade
    · obtain ⟨made, hspec, rfl⟩ := map_eq_some_iff.1 hmade
      obtain ⟨fields', rfl⟩ := strictObject_isObject hspec
      rfl
    · cases hmade
  | undefined | null | bool _ | number _ | string _ | array _ | other => cases h

theorem writtenShort_stable {declaration : Schema} (h : Stable declaration)
    (hspec : ∀ v u, declaration v = some u → ∃ w, ParamSpecSchema zod w = some u) :
    Stable (writtenShort declaration) := by
  refine h.preprocess fun v u hu => ?_
  obtain ⟨w, hw⟩ := hspec v u hu
  exact congrArg some (declarationWrittenOut_spec hw)

theorem PriceCheckSchema_stable (hurl : ∀ t u, zod.url t = some u → zod.url u = some u) :
    Stable (PriceCheckSchema zod) := by
  refine Stable.union (Stable.stringWith _) ?_ fun v u hu => ?_
  · refine Stable.strictObject zod.passedOver (nodup_singleton _) fun field hfield => ?_
    rw [mem_singleton.1 hfield]
    refine Stable.string fun t u hu => ?_
    obtain ⟨ht, hhttps⟩ := filter_eq_some_iff.1 hu
    exact filter_eq_some_iff.2 ⟨hurl t u ht, hhttps⟩
  · obtain ⟨fields, rfl⟩ := strictObject_isObject hu
    rfl

theorem fulfillment_stable : Stable (Schemas.default (.string (text "sync")) FulfillmentSchema) := by
  refine Stable.default (Stable.stringWith _) (by rfl) fun v hv => ?_
  obtain ⟨t, ht⟩ := string_isString hv
  cases ht

theorem cardFields_nodup (zod : Zod) : ((cardFields zod).map Prod.fst).Nodup := by
  have hnames : (cardFields zod).map Prod.fst =
      [text "merchant_item_id", text "title", text "description", text "price", text "params", text "result",
        text "tags", text "fulfillment", text "price_check", text "confirm_deadline_seconds",
        text "fulfill_deadline_seconds"] := rfl
  rw [hnames]
  decide

/-- **A card is read again as it was read.** -/
theorem CardSchema_stable (hurl : ∀ t u, zod.url t = some u → zod.url u = some u) : Stable (CardSchema zod) := by
  refine (Stable.strictObject zod.passedOver (cardFields_nodup zod) fun field hfield => ?_).refine _
  simp only [cardFields, mem_cons, not_mem_nil, or_false] at hfield
  rcases hfield with rfl | rfl | rfl | rfl | rfl | rfl | rfl | rfl | rfl | rfl | rfl
  · exact Stable.stringWith _
  · exact Stable.stringWith _
  · exact Stable.stringWith _
  · exact CardPriceSchema_stable zod
  · exact (writtenShort_stable (ParamSpecSchema_stable zod) fun v u hu => ⟨v, hu⟩).optional
  · exact writtenShort_stable ((ParamSpecSchema_stable zod).refine _) fun v u hu =>
      ⟨v, (filter_eq_some_iff.1 hu).1⟩
  · exact (((Stable.stringWith _).array).refine _).optional
  · exact fulfillment_stable
  · exact (PriceCheckSchema_stable hurl).optional
  · exact (Stable.numberWith _).optional
  · exact (Stable.numberWith _).optional

/-! ## Spelled out -/

/-- A price that is one string, written out as its two fields in either order, or a price as it is. -/
inductive PriceOpened : Value → Value → Prop
  | same (v : Value) : PriceOpened v v
  | amountFirst (amount currency : Text) :
      PriceOpened (.string (amount ++ unit ' ' :: currency))
        (.object [(text "amount", .string amount), (text "currency", .string currency)])
  | currencyFirst (amount currency : Text) :
      PriceOpened (.string (amount ++ unit ' ' :: currency))
        (.object [(text "currency", .string currency), (text "amount", .string amount)])

/-- A field of a declaration as it is, or its type word written out. -/
inductive FieldOpened : Text × Value → Text × Value → Prop
  | same (field : Text × Value) : FieldOpened field field
  | typeWord (name type : Text) : FieldOpened (name, .string type) (name, .object [(text "type", .string type)])

/-- A declaration of which any of the fields are written out. -/
inductive DeclarationOpened : Value → Value → Prop
  | same (v : Value) : DeclarationOpened v v
  | fields {spec spec' : List (Text × Value)} (h : List.Forall₂ FieldOpened spec spec') :
      DeclarationOpened (.object spec) (.object spec')

/-- The mode as it is, or the word for none. -/
inductive ModeOpened : Value → Value → Prop
  | same (v : Value) : ModeOpened v v
  | sync : ModeOpened .undefined (.string (text "sync"))

/-- A card of which any of the short forms are written out: the price, fields of the two declarations, the mode.
What else the card has it has still. -/
structure Opened (card card' : List (Text × Value)) : Prop where
  names : ∀ name, name ≠ text "fulfillment" → has name card' = has name card
  kept : ∀ name, name ∉ [text "price", text "params", text "result", text "fulfillment"] →
    valueAt name card' = valueAt name card
  price : PriceOpened (valueAt (text "price") card) (valueAt (text "price") card')
  params : DeclarationOpened (valueAt (text "params") card) (valueAt (text "params") card')
  result : DeclarationOpened (valueAt (text "result") card) (valueAt (text "result") card')
  mode : ModeOpened (valueAt (text "fulfillment") card) (valueAt (text "fulfillment") card')

theorem isSolid_of_printable {u : CodeUnit} (h : 33 ≤ u.val ∧ u.val ≤ 126) : isSolid u = true := by
  obtain ⟨hleast, hgreatest⟩ := h
  rw [isSolid, Bool.not_eq_true', isSpace, Bool.or_eq_false_iff, Bool.and_eq_false_iff]
  constructor
  · rw [contains_eq_any_beq, List.any_eq_false]
    simp only [mem_cons, not_mem_nil, or_false, beq_iff_eq]
    omega
  · left
    rw [decide_eq_false_iff_not]
    omega

theorem isSolid_of_isDigit {u : CodeUnit} (h : isDigit u = true) : isSolid u = true := by
  have hrange : 48 ≤ u.val ∧ u.val ≤ 57 := within_iff.1 h
  exact isSolid_of_printable (by omega)

theorem isSolid_of_isUpper {u : CodeUnit} (h : isUpper u = true) : isSolid u = true := by
  have hrange : 65 ≤ u.val ∧ u.val ≤ 90 := within_iff.1 h
  exact isSolid_of_printable (by omega)

theorem solid_of_wholeHolds (h : wholeHolds t = true) : t ≠ [] ∧ ∀ u ∈ t, isSolid u = true := by
  cases t with
  | nil => cases h
  | cons first rest =>
    refine ⟨cons_ne_nil _ _, ?_⟩
    rw [wholeHolds] at h
    split at h
    · next hzero =>
      rw [List.isEmpty_iff.1 h, beq_iff_eq.1 hzero]
      intro u hu
      rw [mem_singleton.1 hu]
      decide
    · rw [Bool.and_eq_true, Bool.and_eq_true, List.all_eq_true] at h
      intro u hu
      rcases mem_cons.1 hu with rfl | hu
      · exact isSolid_of_isDigit h.1.1
      · exact isSolid_of_isDigit (h.1.2 u hu)

theorem solid_of_fractionHolds (h : fractionHolds t = true) : ∀ u ∈ t, isSolid u = true := by
  cases t with
  | nil => exact fun u hu => absurd hu not_mem_nil
  | cons dot digits =>
    rw [fractionHolds, Bool.and_eq_true, Bool.and_eq_true, Bool.and_eq_true, List.all_eq_true] at h
    intro u hu
    rcases mem_cons.1 hu with rfl | hu
    · rw [beq_iff_eq.1 h.1.1.1]
      decide
    · exact isSolid_of_isDigit (h.1.1.2 u hu)

theorem solid_of_amountHolds (h : amountHolds t = true) : t ≠ [] ∧ ∀ u ∈ t, isSolid u = true := by
  rw [amountHolds, Bool.and_eq_true] at h
  obtain ⟨hne, hwhole⟩ := solid_of_wholeHolds h.1
  have hfraction := solid_of_fractionHolds h.2
  constructor
  · rintro rfl
    exact hne rfl
  · intro u hu
    rw [← takeWhile_append_dropWhile (p := fun u => u != unit '.') (l := t)] at hu
    rcases mem_append.1 hu with hu | hu
    · exact hwhole u hu
    · exact hfraction u hu

theorem solid_of_currencyHolds (h : currencyHolds t = true) : t ≠ [] ∧ ∀ u ∈ t, isSolid u = true := by
  cases t with
  | nil => cases h
  | cons first rest =>
    refine ⟨cons_ne_nil _ _, ?_⟩
    rw [currencyHolds, Bool.and_eq_true, Bool.and_eq_true, Bool.and_eq_true, List.all_eq_true] at h
    intro u hu
    rcases mem_cons.1 hu with rfl | hu
    · exact isSolid_of_isUpper h.1.1.1
    · rcases Bool.or_eq_true_iff.1 (h.1.1.2 u hu) with hupper | hdigit
      · exact isSolid_of_isUpper hupper
      · exact isSolid_of_isDigit hdigit

/-- What is written on the two sides of a space is a price written short where both sides show something and
neither has a blank in it. -/
theorem priceWrittenShort_append (amount currency : Text) : priceWrittenShort (amount ++ unit ' ' :: currency) =
      if amount ≠ [] ∧ currency ≠ [] ∧ amount.all isSolid = true ∧ currency.all isSolid = true then
        some (amount, currency)
      else none := by
  have hblank : isSolid (unit ' ') = false := by decide
  by_cases hamount : ∀ u ∈ amount, isSolid u = true
  · have htake : (amount ++ unit ' ' :: currency).takeWhile isSolid = amount := by
      rw [takeWhile_append_of_pos hamount, takeWhile_cons, hblank]
      exact append_nil _
    have hdrop : (amount ++ unit ' ' :: currency).dropWhile isSolid = unit ' ' :: currency := by
      rw [dropWhile_append_of_pos hamount, dropWhile_cons, hblank]
      rfl
    rw [priceWrittenShort, hdrop, htake]
    refine if_congr ?_ rfl rfl
    rw [beq_self_eq_true, Bool.true_and, Bool.and_eq_true, Bool.and_eq_true, Bool.not_eq_true', Bool.not_eq_true',
      isEmpty_eq_false_iff, isEmpty_eq_false_iff]
    constructor
    · rintro ⟨⟨hne, hne'⟩, hcurrency⟩
      exact ⟨hne, hne', List.all_eq_true.2 hamount, hcurrency⟩
    · rintro ⟨hne, hne', -, hcurrency⟩
      exact ⟨⟨hne, hne'⟩, hcurrency⟩
  · rw [if_neg fun h => hamount (List.all_eq_true.1 h.2.2.1), priceWrittenShort, dropWhile_append]
    cases hrest : amount.dropWhile isSolid with
    | nil =>
      refine absurd (fun u hu => ?_) hamount
      exact dropWhile_eq_nil_iff.1 hrest u hu
    | cons first rest =>
      have hcurrency : (rest ++ unit ' ' :: currency).all isSolid = false := by
        rw [all_append, all_cons, hblank, Bool.false_and, Bool.and_false]
      simp only [isEmpty_cons, Bool.false_eq_true, ↓reduceIte, cons_append, hcurrency, Bool.and_false]

theorem stringWith_spec {holds : Text → Bool} (h : stringWith holds (.string t) = some u) :
    holds t = true ∧ u = .string t := by
  obtain ⟨t', ht', rfl⟩ := map_eq_some_iff.1 h
  by_cases hholds : holds t = true
  · have hsame : some t = some t' := (if_pos hholds).symm.trans ht'
    cases hsame
    exact ⟨hholds, rfl⟩
  · have hnone : (none : Option Text) = some t' := (if_neg hholds).symm.trans ht'
    cases hnone

theorem MoneySchema_spec {amount currency : Text} (h : MoneySchema zod (priceOf amount currency) = some u) :
    amountHolds amount = true ∧ currencyHolds currency = true ∧ u = priceOf amount currency := by
  rw [MoneySchema, priceOf, strictObject] at h
  split at h
  · obtain ⟨parts, hparts, rfl⟩ := map_eq_some_iff.1 h
    cases mapM_eq_some_iff.1 hparts with
    | cons hfirst hrest =>
      cases hrest with
      | cons hsecond hnil =>
        cases hnil
        obtain ⟨_, hmade, rfl⟩ := map_eq_some_iff.1 hfirst
        obtain ⟨_, hmade', rfl⟩ := map_eq_some_iff.1 hsecond
        obtain ⟨hamount, rfl⟩ := stringWith_spec hmade
        obtain ⟨hcurrency, rfl⟩ := stringWith_spec hmade'
        exact ⟨hamount, hcurrency, rfl⟩
  · cases h

/-- **A price in one string** is taken as its two fields are. -/
theorem CardPriceSchema_string (zod : Zod) (amount currency : Text) :
    CardPriceSchema zod (.string (amount ++ unit ' ' :: currency)) =
      CardPriceSchema zod (priceOf amount currency) := by
  have hshort : CardPriceSchema zod (.string (amount ++ unit ' ' :: currency)) =
      (priceWrittenShort (amount ++ unit ' ' :: currency)).bind fun written =>
        MoneySchema zod (priceOf written.1 written.2) := by
    rw [CardPriceSchema, preprocess, priceOpened, bind_map]
    rfl
  have hlong : CardPriceSchema zod (priceOf amount currency) = MoneySchema zod (priceOf amount currency) := rfl
  rw [hshort, hlong, priceWrittenShort_append]
  split
  · rfl
  · next hsolid =>
    cases hmoney : MoneySchema zod (priceOf amount currency) with
    | none => rfl
    | some u =>
      obtain ⟨hamount, hcurrency, -⟩ := MoneySchema_spec hmoney
      obtain ⟨hne, hamount⟩ := solid_of_amountHolds hamount
      obtain ⟨hne', hcurrency⟩ := solid_of_currencyHolds hcurrency
      exact absurd ⟨hne, hne', List.all_eq_true.2 hamount, List.all_eq_true.2 hcurrency⟩ hsolid

theorem CardPriceSchema_written (h : CardPriceSchema zod (.string t) = some u) :
    ∃ amount currency, t = amount ++ unit ' ' :: currency ∧ u = priceOf amount currency := by
  obtain ⟨v, hv, hmoney⟩ := bind_eq_some_iff.1 h
  obtain ⟨⟨amount, currency⟩, hwritten, rfl⟩ := map_eq_some_iff.1 hv
  refine ⟨amount, currency, ?_, (MoneySchema_spec hmoney).2.2⟩
  unfold priceWrittenShort at hwritten
  split at hwritten
  · cases hwritten
  · next space rest hrest =>
    dsimp only at hwritten
    split at hwritten
    · next hholds =>
      cases hwritten
      simp only [Bool.and_eq_true, beq_iff_eq] at hholds
      rw [← hholds.1.1.1, ← hrest, takeWhile_append_dropWhile]
    · cases hwritten

theorem CardPriceSchema_currencyFirst (zod : Zod) (amount currency : Text) :
    CardPriceSchema zod (.object [(text "currency", .string currency), (text "amount", .string amount)]) =
      CardPriceSchema zod (priceOf amount currency) := by
  refine strictObject_congr (fun name _ => ?_) fun field hfield => ?_
  · rw [Bool.eq_iff_iff, has_iff, has_iff]
    simp only [exists_mem_cons_iff, not_mem_nil, false_and]
    exact or_left_comm
  · simp only [mem_cons, not_mem_nil, or_false] at hfield
    rcases hfield with rfl | rfl <;> rfl

theorem CardPriceSchema_opened (h : PriceOpened v v') :
    CardPriceSchema zod v' = CardPriceSchema zod v := by
  cases h with
  | same => rfl
  | amountFirst amount currency => exact (CardPriceSchema_string zod amount currency).symm
  | currencyFirst amount currency => rw [CardPriceSchema_currencyFirst, CardPriceSchema_string]

theorem declarationWrittenOut_opened (h : DeclarationOpened v v') :
    declarationWrittenOut v' = declarationWrittenOut v := by
  cases h with
  | same => rfl
  | fields h =>
    refine congrArg Value.object ?_
    induction h with
    | nil => rfl
    | cons hfield _ ih =>
      rw [map_cons, map_cons, ih]
      cases hfield with
      | same => rfl
      | typeWord name type => rfl

theorem writtenShort_opened (declaration : Schema) (h : DeclarationOpened v v') :
    writtenShort declaration v' = writtenShort declaration v := by
  rw [writtenShort, preprocess, preprocess, declarationWrittenOut_opened h]

theorem optional_writtenShort_opened (declaration : Schema) (h : DeclarationOpened v v') :
    Schemas.optional (writtenShort declaration) v' = Schemas.optional (writtenShort declaration) v := by
  cases h with
  | same => rfl
  | fields hfields => exact writtenShort_opened declaration (.fields hfields)

theorem mode_opened (h : ModeOpened v v') :
    Schemas.default (.string (text "sync")) FulfillmentSchema v' =
      Schemas.default (.string (text "sync")) FulfillmentSchema v := by
  cases h with
  | same => rfl
  | sync => rfl

theorem fieldOf_mode (card : List (Text × Value)) :
    fieldOf card (text "fulfillment", Schemas.default (.string (text "sync")) FulfillmentSchema) =
      (Schemas.default (.string (text "sync")) FulfillmentSchema (valueAt (text "fulfillment") card)).map fun u =>
        [(text "fulfillment", u)] := by
  refine Option.map_congr fun u hu => placed_of_ne ?_
  rintro rfl
  have := fulfillment_stable _ _ hu
  cases this

/-- **Every field of a card is made the same** whichever of its short forms are written out. -/
theorem fieldOf_opened (h : Opened card card') :
    ∀ field ∈ cardFields zod, fieldOf card' field = fieldOf card field := by
  have hkept : ∀ (name : Text) (s : Schema),
      name ∉ [text "price", text "params", text "result", text "fulfillment"] →
        fieldOf card' (name, s) = fieldOf card (name, s) := by
    intro name s hname
    rw [fieldOf, fieldOf, h.kept name hname, h.names name fun heq => hname (by rw [heq]; decide)]
  have hopened : ∀ (name : Text) (s : Schema), name ≠ text "fulfillment" →
      s (valueAt name card') = s (valueAt name card) → fieldOf card' (name, s) = fieldOf card (name, s) := by
    intro name s hname hs
    have hhas := h.names name hname
    exact congrArg₂ (fun made present => Option.map (placed present name) made) hs hhas
  intro field hfield
  simp only [cardFields, mem_cons, not_mem_nil, or_false] at hfield
  rcases hfield with rfl | rfl | rfl | rfl | rfl | rfl | rfl | rfl | rfl | rfl | rfl
  · exact hkept _ _ (by decide)
  · exact hkept _ _ (by decide)
  · exact hkept _ _ (by decide)
  · exact hopened _ _ (by decide) (CardPriceSchema_opened h.price)
  · exact hopened _ _ (by decide) (optional_writtenShort_opened _ h.params)
  · exact hopened _ _ (by decide) (writtenShort_opened _ h.result)
  · exact hkept _ _ (by decide)
  · rw [fieldOf_mode, fieldOf_mode, mode_opened h.mode]
  · exact hkept _ _ (by decide)
  · exact hkept _ _ (by decide)
  · exact hkept _ _ (by decide)

theorem CardSchema_opened (h : Opened card card') :
    CardSchema zod (.object card') = CardSchema zod (.object card) := by
  rw [CardSchema, refine, refine, strictObject_congr (fun name hname => ?_) (fieldOf_opened h)]
  refine h.names name fun heq => ?_
  refine hname (text "fulfillment", Schemas.default (.string (text "sync")) FulfillmentSchema) ?_ heq.symm
  simp only [cardFields, mem_cons, true_or, or_true]

/-- **Every spelling of a card means one card.** What is made of a card is made of it again, as it is; and a card
of which any of the short forms are written out is taken as it was, for the same card, or refused as it was. A price
that is taken as one string can be written out so. -/
theorem spellings_mean_one_card (zod : Zod) (hurl : ∀ t u, zod.url t = some u → zod.url u = some u) :
    (∀ v card, CardSchema zod v = some card → CardSchema zod card = some card) ∧
      (∀ card card', Opened card card' → CardSchema zod (.object card') = CardSchema zod (.object card)) ∧
        ∀ t u, CardPriceSchema zod (.string t) = some u →
          ∃ amount currency, t = amount ++ unit ' ' :: currency ∧ u = priceOf amount currency :=
  ⟨CardSchema_stable hurl, fun _ _ => CardSchema_opened, fun _ _ => CardPriceSchema_written⟩

/-- A zod that takes one address, as it is. -/
def oneAddress : Zod where
  url t := if t = text "https://shop.example/price" then some t else none
  passedOver _ := false

/-- A card written short in every place. -/
def shortCard : List (Text × Value) :=
  [(text "merchant_item_id", .string (text "day-pass")), (text "title", .string (text "Day pass")),
    (text "description", .string (text "One day of access.")), (text "price", .string (text "5.00 USD")),
    (text "result", .object [(text "access_url", .string (text "string"))])]

/-- The price of it written out, and the mode. -/
def halfOpened : List (Text × Value) :=
  [(text "merchant_item_id", .string (text "day-pass")), (text "title", .string (text "Day pass")),
    (text "description", .string (text "One day of access.")), (text "price", priceOf (text "5.00") (text "USD")),
    (text "result", .object [(text "access_url", .string (text "string"))]),
    (text "fulfillment", .string (text "sync"))]

/-- The card that is stored. -/
def storedCard : List (Text × Value) :=
  [(text "merchant_item_id", .string (text "day-pass")), (text "title", .string (text "Day pass")),
    (text "description", .string (text "One day of access.")), (text "price", priceOf (text "5.00") (text "USD")),
    (text "result", .object [(text "access_url", .object [(text "type", .string (text "string"))])]),
    (text "fulfillment", .string (text "sync"))]

theorem shortCard_accepted : CardSchema oneAddress (.object shortCard) = some (.object storedCard) := by rfl

theorem shortCard_opened : Opened shortCard halfOpened where
  names name hname := by
    have hnames : halfOpened.map Prod.fst = shortCard.map Prod.fst ++ [text "fulfillment"] := rfl
    rw [Bool.eq_iff_iff, has_iff, has_iff, ← List.mem_map, ← List.mem_map, hnames, mem_append,
      mem_singleton, or_iff_left hname]
  kept name hname := by
    simp only [mem_cons, not_mem_nil, or_false, not_or, ← beq_eq_false_iff_ne] at hname
    simp only [valueAt, shortCard, halfOpened, lookup_cons, hname]
  price := PriceOpened.amountFirst (text "5.00") (text "USD")
  params := .same _
  result := .same _
  mode := .sync

theorem spellings_of_day_pass :
    CardSchema oneAddress (.object storedCard) = some (.object storedCard) ∧
      CardSchema oneAddress (.object halfOpened) = CardSchema oneAddress (.object shortCard) := by
  have hurl : ∀ t u, oneAddress.url t = some u → oneAddress.url u = some u := by
    intro t u ht
    by_cases hone : t = text "https://shop.example/price"
    · have hu : some t = some u := (if_pos hone).symm.trans ht
      cases hu
      exact ht
    · have hnone : none = some u := (if_neg hone).symm.trans ht
      cases hnone
  obtain ⟨hagain, hopened, -⟩ := spellings_mean_one_card oneAddress hurl
  exact ⟨hagain _ _ shortCard_accepted, hopened _ _ shortCard_opened⟩

end Coinslot.Spellings
