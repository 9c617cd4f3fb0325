import Coinslot.Gateway.Store
import Mathlib.Data.Rat.Defs

/-!
# What a card declares, and the goods held to it

A card writes what it delivers in a small schema language (`packages/contracts/src/param-spec.ts`), and
`paramSpecToValidator` turns the declaration into the check its goods are held to. The check lists its
findings: it passes where there are none. What the gateway makes of a finding in the answer to its merchant
is here too (`#goodsAgainstTheCard` in `apps/gateway/src/app/gateway.ts`).

The schema library looks a declared name up on the value, and finds there what every object has under that
name: a document that leaves such a field out does not pass, although it may. A declaration means what it says
just where it names no such field among those that may be left out (`declaration_means_one_thing_iff`).

The words of a finding are mostly the schema library's own, and come in as `SchemaWords`.
-/

namespace Coinslot

open List Dict

/-! ## Documents of free-form names -/

/-- A value on the wire. -/
inductive JsonValue where
  | null
  | bool (value : Bool)
  | number (value : Rat)
  | string (value : String)
  | array (items : List JsonValue)
  | object (fields : List (String × JsonValue))

/-- A record of free-form names: the parameters of a purchase, or a delivery. -/
abbrev Document := Dict String JsonValue

/-! ## Declarations -/

/-- The types a card may declare (`ParamTypeSchema`). -/
inductive ParamType where
  | string
  | number
  | integer
  | boolean
  deriving DecidableEq, Repr

/-- One declared field (`FieldSpecSchema`): its type, and whether it has to be there. -/
structure FieldSpec where
  type : ParamType
  required : Option Bool := none
  deriving DecidableEq, Repr

/-- A whole declaration (`ParamSpecSchema`). -/
abbrev ParamSpec := Dict String FieldSpec

/-- Which of a card's two declarations is being compiled. -/
inductive ParamSpecDirection where
  | purchase
  | delivery
  deriving DecidableEq, Repr

/-- Where a card's price comes from at the moment of purchase (`PriceCheckSchema`): the merchant's
handler, or an address of his own. -/
inductive PriceSource where
  | handler
  | address (url : String)
  deriving DecidableEq, Repr

/-- A card, as far as its goods and its price question are concerned. -/
structure Card where
  merchantItemId : String
  result : ParamSpec
  priceCheck : Option PriceSource
  params : Option ParamSpec := none

/-- A card in the catalog. -/
structure StoredCard where
  id : String
  merchantId : String
  card : Card
  asOf : Int
  paused : Bool

/-! ## The check -/

/-- One finding: the path to the field it is about, its code and its words. -/
structure Problem where
  path : List String
  code : String
  message : String
  deriving DecidableEq, Repr

/-- The schema library's own words: for a value that is missing or not of its type, for what every object has
under a name, for a string that does not match a pattern, and for names nobody declared. -/
structure SchemaWords where
  wrongType : ParamType → Option JsonValue → String × String
  inheritedType : ParamType → String × String
  patternCode : String
  unrecognizedKeys : List String → String × String

/-- The letters a pattern takes for a blank. -/
def isBlankLetter (c : Char) : Bool :=
  let n := c.toNat
  (9 ≤ n && n ≤ 13) || (0x2000 ≤ n && n ≤ 0x200a) ||
    [0x20, 0xa0, 0x1680, 0x2028, 0x2029, 0x202f, 0x205f, 0x3000, 0xfeff].contains n

def carriesSomething (s : String) : Bool := s.toList.any fun c => !isBlankLetter c

/-- The largest integer the wire carries exactly. -/
def maxSafeInteger : Nat := 9007199254740991

/-- What is wrong with a value of a declared type (`checkFor`). A delivered string carries
something. -/
def checkFor (words : SchemaWords) (type : ParamType) (direction : ParamSpecDirection)
    (value : JsonValue) : Option (String × String) :=
  match type, value with
  | .string, .string s =>
    if direction = .delivery && !carriesSomething s then
      some (words.patternCode, "a delivered field carries something, and this one is blank")
    else none
  | .number, .number _ => none
  | .integer, .number n =>
    if n.den = 1 && n.num.natAbs ≤ maxSafeInteger then none
    else some (words.wrongType type (some value))
  | .boolean, .bool _ => none
  | _, _ => some (words.wrongType type (some value))

/-- Whether a declared field has to be there. Silence says it has to in a delivery, and not in a
purchase. -/
def FieldSpec.isRequired (field : FieldSpec) (direction : ParamSpecDirection) : Bool :=
  field.required.getD (direction = .delivery)

/-- The names under which every object has something that is no value of the wire. -/
def inheritedNames : List String :=
  ["constructor", "__defineGetter__", "__defineSetter__", "hasOwnProperty", "__lookupGetter__", "__lookupSetter__",
    "isPrototypeOf", "propertyIsEnumerable", "toString", "valueOf", "__proto__", "toLocaleString"]

/-- What a name leads to on an object: a value of its own, what every object has, or nothing. -/
inductive Property where
  | own (value : JsonValue)
  | inherited
  | absent

/-- A value of the object's own. -/
def Property.own? : Property → Option JsonValue
  | .own value => some value
  | _ => none

def Document.property (document : Document) (name : String) : Property :=
  match document.get name with
  | some value => .own value
  | none => if name ∈ inheritedNames then .inherited else .absent

/-- What is wrong with one declared field of a document. -/
def fieldFindings (words : SchemaWords) (direction : ParamSpecDirection) (document : Document)
    (name : String) (field : FieldSpec) : List Problem :=
  match Document.property document name with
  | .absent =>
    if field.isRequired direction then
      let (code, message) := words.wrongType field.type none
      [⟨[name], code, message⟩]
    else []
  | .inherited =>
    let (code, message) := words.inheritedType field.type
    [⟨[name], code, message⟩]
  | .own value =>
    ((checkFor words field.type direction value).map fun (code, message) => ⟨[name], code, message⟩).toList

/-- The names of a document that its declaration does not carry. -/
def undeclared (spec : ParamSpec) (document : Document) : List String :=
  (document.entries.map Prod.fst).filter fun name => !spec.has name

/-- Turns a declaration into the check an instance of it is held to. A name the declaration does not
carry is refused. -/
def paramSpecToValidator (words : SchemaWords) (spec : ParamSpec) (direction : ParamSpecDirection)
    (document : Document) : List Problem :=
  let declared := spec.entries.flatMap fun (name, field) => fieldFindings words direction document name field
  match undeclared spec document with
  | [] => declared
  | names =>
    let (code, message) := words.unrecognizedKeys names
    declared ++ [⟨[], code, message⟩]

/-- What the check hands on of a document: the declared fields it has. -/
def passedOn (spec : ParamSpec) (document : Document) : Document :=
  .gather (fun name => (Document.property document name).own?) (spec.entries.map Prod.fst)

/-- The check an agent's purchase is held to. -/
def purchaseCheckFor (words : SchemaWords) (card : Card) : Document → List Problem :=
  paramSpecToValidator words (card.params.getD .empty) .purchase

def deliveryCheckFor (words : SchemaWords) (card : Card) : Document → List Problem :=
  paramSpecToValidator words card.result .delivery

/-- The value that stands for a type in an example. -/
def standInFor : ParamType → JsonValue
  | .string => .string "string"
  | .number | .integer => .number 0
  | .boolean => .bool false

/-- A whole declaration as an example: every field, each one standing for a type. -/
def exampleOf (spec : ParamSpec) : Document :=
  .gather (fun name => (spec.get name).map fun field => standInFor field.type) (spec.entries.map Prod.fst)

/-- The examples a catalog shows of a card (`bazaarDeclarationOf`): of a purchase, and of a delivery. -/
def bazaarExamples (card : Card) : Document × Document := (exampleOf (card.params.getD .empty), exampleOf card.result)

/-- Whether the price question of a card can be put to its merchant. -/
def quoteReachesTheMerchant (card : Card) : Bool := card.priceCheck = some .handler

/-! ## What the check comes to -/

/-- A value is of a declared type. -/
def JsonValue.Fits (direction : ParamSpecDirection) : ParamType → JsonValue → Prop
  | .string, .string s => direction = .delivery → carriesSomething s = true
  | .number, .number _ | .boolean, .bool _ => True
  | .integer, .number n => n.den = 1 ∧ n.num.natAbs ≤ maxSafeInteger
  | _, _ => False

/-- A document is an instance of a declaration: what it has to carry is there, what is there is of its
type, and there is nothing else. -/
structure Conforms (spec : ParamSpec) (direction : ParamSpecDirection) (document : Document) :
    Prop where
  fields : ∀ name field, (name, field) ∈ spec.entries →
    match document.get name with
    | none => field.isRequired direction = false
    | some value => value.Fits direction field.type
  nothingElse : ∀ name value, (name, value) ∈ document.entries → spec.has name = true

theorem checkFor_eq_none {words : SchemaWords} {type : ParamType} {direction : ParamSpecDirection}
    {value : JsonValue} : checkFor words type direction value = none ↔ value.Fits direction type := by
  cases type <;> cases value <;> simp [checkFor, JsonValue.Fits]

/-- A document leaves out no declared field that every object has something under. -/
def HoldsInherited (spec : ParamSpec) (document : Document) : Prop :=
  ∀ name field, (name, field) ∈ spec.entries → name ∈ inheritedNames → document.get name ≠ none

theorem fieldFindings_eq_nil {words : SchemaWords} {direction : ParamSpecDirection}
    {document : Document} {name : String} {field : FieldSpec} :
    fieldFindings words direction document name field = [] ↔ match document.get name with
      | none => field.isRequired direction = false ∧ name ∉ inheritedNames
      | some value => value.Fits direction field.type := by
  unfold fieldFindings Document.property
  cases document.get name with
  | none =>
    by_cases hinherited : name ∈ inheritedNames
    · simp [hinherited]
    · simp [hinherited]
  | some value =>
    have hfits := @checkFor_eq_none words field.type direction value
    dsimp only
    rw [← hfits]
    cases checkFor words field.type direction value <;> simp

/-- **The check passes the instances of the declaration that hold what every object has something under.** -/
theorem paramSpecToValidator_eq_nil {words : SchemaWords} {spec : ParamSpec}
    {direction : ParamSpecDirection} {document : Document} :
    paramSpecToValidator words spec direction document = [] ↔
      Conforms spec direction document ∧ HoldsInherited spec document := by
  have hdeclared : (spec.entries.flatMap fun (name, field) =>
      fieldFindings words direction document name field) = [] ↔
      (∀ name field, (name, field) ∈ spec.entries →
        match document.get name with
        | none => field.isRequired direction = false
        | some value => value.Fits direction field.type) ∧ HoldsInherited spec document := by
    rw [flatMap_eq_nil_iff]
    constructor
    · refine fun h => ⟨fun name field hin => ?_, fun name field hin hinherited hnone => ?_⟩
      · have hnil := fieldFindings_eq_nil.1 (h _ hin)
        cases hget : document.get name with
        | none => exact (by rwa [hget] at hnil : _ ∧ _).1
        | some value => rwa [hget] at hnil
      · have hnil := fieldFindings_eq_nil.1 (h _ hin)
        rw [hnone] at hnil
        exact hnil.2 hinherited
    · rintro ⟨hfields, hholds⟩ ⟨name, field⟩ hin
      have hfield := hfields name field hin
      refine fieldFindings_eq_nil.2 ?_
      cases hget : document.get name with
      | none =>
        rw [hget] at hfield
        exact ⟨hfield, fun hinherited => hholds name field hin hinherited hget⟩
      | some value => rwa [hget] at hfield
  have hundeclared : undeclared spec document = [] ↔
      ∀ name value, (name, value) ∈ document.entries → spec.has name = true := by
    simp [undeclared, filter_eq_nil_iff]
  unfold paramSpecToValidator
  split
  · next hnone =>
    rw [hdeclared]
    exact ⟨fun h => ⟨⟨h.1, hundeclared.1 hnone⟩, h.2⟩, fun h => ⟨h.1.fields, h.2⟩⟩
  · next hsome =>
    refine iff_of_false (by simp) fun h => ?_
    exact hsome (hundeclared.2 h.1.nothingElse)

/-! ## A declaration means one thing -/

theorem get_passedOn {words : SchemaWords} {spec : ParamSpec} {direction : ParamSpecDirection} {document : Document}
    (h : paramSpecToValidator words spec direction document = []) (name : String) :
    (passedOn spec document).get name = document.get name := by
  have hown : (Document.property document name).own? = document.get name := by
    unfold Document.property
    cases document.get name with
    | none => by_cases hinherited : name ∈ inheritedNames <;> simp [hinherited, Property.own?]
    | some value => rfl
  rw [passedOn, get_gather, hown]
  split
  · rfl
  · next hout =>
    cases hget : document.get name with
    | none => rfl
    | some value =>
      have hhas := (paramSpecToValidator_eq_nil.1 h).1.nothingElse name value (get_eq_some_iff.1 hget)
      obtain ⟨field, hfield⟩ := Option.isSome_iff_exists.1 hhas
      exact absurd (mem_map.2 ⟨_, get_eq_some_iff.1 hfield, rfl⟩) hout

theorem standInFor_fits (direction : ParamSpecDirection) (type : ParamType) :
    (standInFor type).Fits direction type := by
  cases type with
  | string => exact fun _ => by decide +kernel
  | number => trivial
  | integer => exact ⟨rfl, Nat.zero_le _⟩
  | boolean => trivial

theorem get_exampleOf (spec : ParamSpec) (name : String) :
    (exampleOf spec).get name = (spec.get name).map fun field => standInFor field.type := by
  rw [exampleOf, get_gather]
  split
  · rfl
  · next hout =>
    cases hget : spec.get name with
    | none => rfl
    | some field => exact absurd (mem_map.2 ⟨_, get_eq_some_iff.1 hget, rfl⟩) hout

/-- An example leaves nothing out, and what it has is of its type. -/
theorem exampleOf_passes (words : SchemaWords) (spec : ParamSpec) (direction : ParamSpecDirection) :
    paramSpecToValidator words spec direction (exampleOf spec) = [] := by
  have hget : ∀ name field, (name, field) ∈ spec.entries →
      (exampleOf spec).get name = some (standInFor field.type) := fun name field hin => by
    rw [get_exampleOf, get_eq_some_iff.2 hin]
    rfl
  refine paramSpecToValidator_eq_nil.2 ⟨⟨fun name field hin => ?_, fun name value hin => ?_⟩,
    fun name field hin _ hnone => ?_⟩
  · rw [hget name field hin]
    exact standInFor_fits direction field.type
  · have hvalue := get_eq_some_iff.2 hin
    rw [get_exampleOf] at hvalue
    obtain ⟨field, hfield, -⟩ := Option.map_eq_some_iff.1 hvalue
    rw [Dict.has, hfield]
    rfl
  · rw [hget name field hin] at hnone
    cases hnone

/-- A declaration means what it says in a direction: the check passes its instances and nothing else, what passes
is handed on as it came, and the example of it passes. -/
structure MeansOneThing (words : SchemaWords) (spec : ParamSpec) (direction : ParamSpecDirection) : Prop where
  passes : ∀ document, paramSpecToValidator words spec direction document = [] ↔ Conforms spec direction document
  unchanged : ∀ document, paramSpecToValidator words spec direction document = [] →
    ∀ name, (passedOn spec document).get name = document.get name
  shown : paramSpecToValidator words spec direction (exampleOf spec) = []

/-- **A declaration means one thing** just where no field that may be left out is named as something every object has:
left out, it is read as that, and refused. The examples a catalog shows of a card pass its checks whatever it
declares. -/
theorem declaration_means_one_thing_iff (words : SchemaWords) :
    (∀ (spec : ParamSpec) (direction : ParamSpecDirection), MeansOneThing words spec direction ↔
      ∀ name field, (name, field) ∈ spec.entries → field.isRequired direction = false → name ∉ inheritedNames) ∧
    ∀ card, purchaseCheckFor words card (bazaarExamples card).1 = [] ∧
      deliveryCheckFor words card (bazaarExamples card).2 = [] := by
  refine ⟨fun spec direction => ⟨fun h name field hin hfree hinherited => ?_, fun hapart => ?_⟩,
    fun card => ⟨exampleOf_passes .., exampleOf_passes ..⟩⟩
  · -- The example of the declaration without the field is an instance of it that leaves the field out.
    have hget : ∀ other, ((exampleOf spec).delete name).get other =
        if other = name then none else (spec.get other).map fun field => standInFor field.type := fun other => by
      rw [Dict.get_delete, get_exampleOf]
    have hconforms : Conforms spec direction ((exampleOf spec).delete name) := by
      refine ⟨fun other declared hdeclared => ?_, fun other value hvalue => ?_⟩
      · rw [hget]
        by_cases hsame : other = name
        · subst hsame
          rw [if_pos rfl]
          obtain rfl := Option.some.inj ((Dict.get_eq_some_iff.2 hdeclared).symm.trans (Dict.get_eq_some_iff.2 hin))
          exact hfree
        · rw [if_neg hsame, Dict.get_eq_some_iff.2 hdeclared]
          exact standInFor_fits direction declared.type
      · have hthere := Dict.get_eq_some_iff.2 hvalue
        rw [hget] at hthere
        split at hthere
        · cases hthere
        · obtain ⟨declared, hdeclared, -⟩ := Option.map_eq_some_iff.1 hthere
          rw [Dict.has, hdeclared]
          rfl
    have hholds := (paramSpecToValidator_eq_nil.1 ((h.passes _).2 hconforms)).2
    exact hholds name field hin hinherited (by rw [hget, if_pos rfl])
  · refine ⟨fun document => ?_, fun document hpasses => get_passedOn hpasses, exampleOf_passes ..⟩
    rw [paramSpecToValidator_eq_nil]
    refine and_iff_left_of_imp fun hconforms name field hin hinherited hnone => ?_
    have hfield := hconforms.fields name field hin
    rw [hnone] at hfield
    exact hapart name field hin hfield hinherited

/-- The words of a schema library. -/
def sampleWords : SchemaWords where
  wrongType := fun _ _ => ("invalid_type", "not of its type")
  inheritedType := fun _ => ("invalid_type", "received a function")
  patternCode := "invalid_format"
  unrecognizedKeys := fun _ => ("unrecognized_keys", "not declared")

/-- The parameters of a purchase that may name a constructor. -/
def constructorSpec : ParamSpec := Dict.empty.set "constructor" { type := .string }

/-- A purchase that names no constructor is an instance of the declaration, and does not pass its check. -/
theorem left_out_constructor_refused : Conforms constructorSpec .purchase .empty ∧
    paramSpecToValidator sampleWords constructorSpec .purchase .empty =
      [⟨["constructor"], "invalid_type", "received a function"⟩] := by
  refine ⟨⟨fun name field hin => ?_, fun name value hin => absurd hin List.not_mem_nil⟩, by decide +kernel⟩
  obtain ⟨rfl, rfl⟩ := Prod.mk.injEq .. ▸ List.mem_singleton.1 hin
  rfl

/-! ## What is said of goods that do not fit -/

/-- Why a call did not go through, with the findings where it is refusing what it was handed. -/
structure CallError where
  code : String
  message : String
  retryable : Bool
  problems : List Problem := []
  deriving DecidableEq, Repr

/-- How many misfits a refusal names before it starts counting instead. -/
def misfitsNamed : Nat := 5

/-- How much of one misfit is quoted before it is cut short. -/
def lettersPerMisfit : Nat := 160

/-- How many letters a character counts for: one outside the basic plane is two. -/
def lettersOf (c : Char) : Nat := if c.toNat < 0x10000 then 1 else 2

/-- The characters that fit into the first `n` letters of a text. -/
def slice : Nat → List Char → List Char
  | _, [] => []
  | n, c :: rest => if lettersOf c ≤ n then c :: slice (n - lettersOf c) rest else []

/-- One piece of somebody else's text, held to a length, saying where it was cut. -/
def cutShort (text : String) : String :=
  let kept := slice lettersPerMisfit text.toList
  if kept = text.toList then text else s!"{String.ofList kept}… (cut short)"

/-- One finding, said where it is. -/
def misfitOf (finding : Problem) : String :=
  let place := ".".intercalate finding.path
  cutShort (if finding.path.isEmpty then finding.message else s!"{place}: {finding.message}")

/-- Everything wrong with a delivery, in one line. -/
def misfitsIn (findings : List Problem) : String :=
  let named := "; ".intercalate ((findings.take misfitsNamed).map misfitOf)
  if misfitsNamed < findings.length then s!"{named} (and {findings.length - misfitsNamed} more)"
  else named

/-- What is wrong with these goods against the card, or nothing where nothing is
(`#goodsAgainstTheCard`). The order the goods are for is in `state`. -/
def goodsAgainstTheCard (words : SchemaWords) (stored : StoredCard) (state : OrderState)
    (delivery : Document) : Option CallError :=
  match deliveryCheckFor words stored.card delivery with
  | [] => none
  | problems =>
    let goods := s!"these goods are not what the card \"{cutShort stored.card.merchantItemId}\" " ++
      "declares it delivers, so nothing was written down"
    let misfits := misfitsIn problems
    some
      { code := "delivery_does_not_match_card"
        message :=
          if isOpen state then s!"{goods} and this order still stands where it did — {misfits}"
          else
            s!"{goods} — and this order ended as {state}, so there is nothing left to " ++
              s!"deliver against — {misfits}"
        retryable := isOpen state
        problems := problems }

theorem goodsAgainstTheCard_eq_none {words : SchemaWords} {stored : StoredCard} {state : OrderState}
    {delivery : Document} : goodsAgainstTheCard words stored state delivery = none ↔
      deliveryCheckFor words stored.card delivery = [] := by
  unfold goodsAgainstTheCard
  split
  · next h => exact iff_of_true rfl h
  · next h => exact iff_of_false (by simp) h

end Coinslot
