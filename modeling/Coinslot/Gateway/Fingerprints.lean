import Coinslot.Lib.IpText
import Coinslot.Lib.JsonForms
import Coinslot.Stores.Memory

/-!
# The fingerprint of a payment

What a payment is known by when an agent presents it (`paymentFingerprint` in
`apps/gateway/src/http/x402.ts`): the digest of the token it is spent in and of the identity of what was signed,
each written one way. What was signed is known by its payer and its nonce, else by its signature, else by the
payload as a whole.

The digest is told by the text it is taken of, the text by its value (`JsonTree.write_inj`), and the value by what
it is alike to (`JsonTree.alike_of_formed`), so two payments have one fingerprint exactly where their tokens and
identities are the same up to how they are spelled.
-/

namespace Coinslot.Fingerprint

open JsonTree Numerals Stores List

/-! ## What a payment header holds -/

/-- A number of a decoded header. A numeral beyond every double is read as an infinity, and negative zero, which is
written as zero is, counts as zero. -/
inductive JsNumber where
  | finite (value : Decimal)
  | infinite (negative : Bool)

/-- How `JSON.stringify` writes a number: an infinity has no numeral. -/
def numberText : JsNumber → List Char
  | .finite value => value.text
  | .infinite _ => "null".toList

/-- A number with a numeral. -/
def JsNumber.IsFinite : JsNumber → Prop
  | .finite _ => True
  | .infinite _ => False

abbrev JsValue := Json JsNumber

/-- A payment as the header carries it. Whatever the agent typed is in it, with each name of an object once. -/
structure PaymentPayload where
  x402Version : Option JsValue
  accepted : Option JsValue
  payload : Option JsValue
  distinct : ∀ v ∈ payload, Distinct v

/-- Which token an authorisation is spent on, as this gateway has configured it. -/
structure TokenIdentity where
  network : String
  asset : String

/-! ## One spelling -/

/-- A hex text: `0x` and hexadecimal digits, one at least. -/
def isHex (text : String) : Bool :=
  match text.toList with
  | '0' :: 'x' :: digit :: rest => (digit :: rest).all (· ∈ IpText.hexDigits)
  | _ => false

def isDigits (text : String) : Bool := text ≠ "" && text.toList.all Char.isDigit

def lowered (text : String) : String := String.ofList (text.toList.map Char.toLower)

/-- A hex string in one spelling, or nothing where the value is not one. -/
def asHex : JsValue → Option String
  | .string text => if isHex text then some (lowered text) else none
  | _ => none

/-- The whole number a numeral stands for, as `BigInt` reads it. -/
def bigInt (text : String) : Nat :=
  if isHex text then IpText.ofHex (text.toList.drop 2) else Nat.ofDigitChars 10 text.toList 0

/-- The largest integer to which every integer is a double. -/
def maxSafeInteger : Nat := 9007199254740991

/-- The whole number a decimal is, where it is not negative and doubles are exact so far out. -/
def safeInteger (value : Decimal) : Option Nat :=
  if value.negative = false ∧ 0 ≤ value.exponent ∧ value.digits * 10 ^ value.exponent.toNat ≤ maxSafeInteger then
    some (value.digits * 10 ^ value.exponent.toNat)
  else none

/-- The whole number a value spells. -/
def wholeNumber : JsValue → Option Nat
  | .number (.finite value) => safeInteger value
  | .string text => if isHex text || isDigits text then some (bigInt text) else none
  | _ => none

/-- A whole number in one spelling, however it was written. No header decodes to a `bigint`. -/
def asAmount (value : JsValue) : Option String := (wholeNumber value).map toString

def AMOUNTS : List String := ["value", "amount", "validAfter", "validBefore", "maxAmount"]

/-- A value that is no array and no object, written one way. -/
def spelled (key : Option String) (value : JsValue) : JsValue :=
  if key.any (· ∈ AMOUNTS) then ((asAmount value).map .string).getD value
  else ((asHex value).map .string).getD value

/-- The payload with every value written one way. -/
def canonical (value : JsValue) (key : Option String) : JsValue := respelled spelled key value

/-! ## One text -/

def nameLe (a b : String) : Bool := !decide (Stores.codeUnits b < Stores.codeUnits a)

mutual

/-- JSON with its keys in a fixed order. -/
def stably : JsValue → List Char
  | .array items => '[' :: (commaJoined (stablyItems items) ++ [']'])
  | .object fields =>
    '\x7b' :: (commaJoined (((stablyFields fields).mergeSort fun f g => nameLe f.1 g.1).map writtenField) ++ ['\x7d'])
  | v => write numberText v

/-- The texts of some values. -/
def stablyItems : List JsValue → List (List Char)
  | [] => []
  | v :: rest => stably v :: stablyItems rest

/-- The texts of the values of some fields, each with its name. -/
def stablyFields : List (String × JsValue) → List (String × List Char)
  | [] => []
  | (name, v) :: rest => (name, stably v) :: stablyFields rest

end

section
variable (sha256 : List Char → String) (toLowerCase : String → String)

def digestOf (value : JsValue) : String := sha256 (stably value)

/-- The fields of a value that is an object. -/
def asRecord : JsValue → Option (List (String × JsValue))
  | .object fields => some fields
  | _ => none

/-- What a payment is known by. -/
def paymentFingerprint (payload : PaymentPayload) (token : TokenIdentity) : String :=
  let signed := (payload.payload.bind asRecord).getD []
  let authorization := (Dict.find "authorization" signed).bind asRecord
  let chain : List (String × JsValue) :=
    [("network", .string (toLowerCase token.network)), ("asset", .string (toLowerCase token.asset))]
  let payer := (authorization.bind (Dict.find "from")).bind asHex
  let nonce := (authorization.bind (Dict.find "nonce")).bind asHex
  match payer, nonce with
  | some payer, some nonce =>
    digestOf sha256 (.object (chain ++
      [("by", .string "authorization"), ("payer", .string payer), ("nonce", .string nonce)]))
  | _, _ =>
    match (Dict.find "signature" signed).bind asHex with
    | some signature =>
      digestOf sha256 (.object (chain ++ [("by", .string "signature"), ("signature", .string signature)]))
    | none =>
      digestOf sha256 (.object (chain ++
        [("by", .string "payload"), ("payload", canonical (.object signed) none)]))

end

/-! ## What a payment is -/

/-- The name of a field that holds an amount. -/
def IsAmount (key : Option String) : Prop := key.any (· ∈ AMOUNTS) = true

instance (key : Option String) : Decidable (IsAmount key) := inferInstanceAs (Decidable (_ = true))

/-- Two values that are no arrays and no objects, the same up to how an amount is spelled in a field that holds
one, and up to the case of a hex text elsewhere. -/
inductive SameLeaf : Option String → JsValue → JsValue → Prop where
  | same {key : Option String} {v : JsValue} : SameLeaf key v v
  | amount {key : Option String} {v w : JsValue} {n : Nat} (hkey : IsAmount key) (hv : wholeNumber v = some n)
      (hw : wholeNumber w = some n) : SameLeaf key v w
  | hex {key : Option String} {s t : String} (hkey : ¬ IsAmount key) (hs : isHex s = true) (ht : isHex t = true)
      (h : lowered s = lowered t) : SameLeaf key (.string s) (.string t)

/-- Two payloads that are equal up to the order of keys, the case of hex and the spelling of amounts. -/
def SamePayload (fields fields' : List (String × JsValue)) : Prop :=
  Alike SameLeaf none (.object fields) (.object fields')

/-- What was signed: the payer and the nonce of an authorisation, a signature, or a payload. -/
inductive Identity where
  | authorization (payer nonce : String)
  | signature (signature : String)
  | payload (fields : List (String × JsValue))

/-- The hex text a value is. -/
def hexText : JsValue → Option String
  | .string text => if isHex text then some text else none
  | _ => none

section

variable (p : PaymentPayload)

/-- The payload of a payment, where one that is no object counts as an empty one. -/
def PaymentPayload.signed : List (String × JsValue) := (p.payload.bind asRecord).getD []

def PaymentPayload.authorized (name : String) : Option String :=
  (((Dict.find "authorization" p.signed).bind asRecord).bind (Dict.find name)).bind hexText

def PaymentPayload.signature : Option String := (Dict.find "signature" p.signed).bind hexText

/-- What a payment is the signing of. -/
def PaymentPayload.identity : Identity :=
  match p.authorized "from", p.authorized "nonce" with
  | some payer, some nonce => .authorization payer nonce
  | _, _ =>
    match p.signature with
    | some signature => .signature signature
    | none => .payload p.signed

end

/-- Two identities of one kind, the same up to how they are spelled. -/
def SameIdentity : Identity → Identity → Prop
  | .authorization payer nonce, .authorization payer' nonce' =>
    lowered payer = lowered payer' ∧ lowered nonce = lowered nonce'
  | .signature signature, .signature signature' => lowered signature = lowered signature'
  | .payload fields, .payload fields' => SamePayload fields fields'
  | _, _ => False

/-- Where a payment is known by its payload, every number of that has a numeral. -/
def Identity.IsFinite : Identity → Prop
  | .payload fields => Numbers JsNumber.IsFinite (.object fields)
  | _ => True

/-- Two tokens that are equal up to letter case. -/
def SameToken (toLowerCase : String → String) (t u : TokenIdentity) : Prop :=
  toLowerCase t.network = toLowerCase u.network ∧ toLowerCase t.asset = toLowerCase u.asset

/-! ## The order of names -/

theorem codeUnitsOf_append {a b : Char} {r r' : List Nat} (h : codeUnitsOf a ++ r = codeUnitsOf b ++ r') :
    a = b ∧ r = r' := by
  have hchar {a b : Char} (h : a.toNat = b.toNat) : a = b := by rw [← Char.ofNat_toNat a, h, Char.ofNat_toNat]
  have hvalid (c : Char) : c.toNat < 0xd800 ∨ 0xdfff < c.toNat ∧ c.toNat < 0x110000 := c.valid
  have ha := hvalid a
  have hb := hvalid b
  unfold codeUnitsOf at h
  split at h <;> split at h
  · obtain ⟨hunit, hrest⟩ := List.cons.inj h
    exact ⟨hchar hunit, hrest⟩
  · have := (List.cons.inj h).1
    omega
  · have := (List.cons.inj h).1
    omega
  · obtain ⟨hhigh, hlow⟩ := List.cons.inj h
    obtain ⟨hlow, hrest⟩ := List.cons.inj hlow
    refine ⟨hchar ?_, hrest⟩
    omega

theorem codeUnits_inj {s t : String} (h : Stores.codeUnits s = Stores.codeUnits t) : s = t := by
  have hlists : ∀ as bs : List Char, as.flatMap codeUnitsOf = bs.flatMap codeUnitsOf → as = bs := by
    have hne (c : Char) : codeUnitsOf c ≠ [] := by
      unfold codeUnitsOf
      split <;> exact cons_ne_nil _ _
    intro as
    induction as with
    | nil =>
      intro bs h
      cases bs with
      | nil => rfl
      | cons b bs => exact absurd (append_eq_nil_iff.1 h.symm).1 (hne b)
    | cons a as ih =>
      intro bs h
      cases bs with
      | nil => exact absurd (append_eq_nil_iff.1 h).1 (hne a)
      | cons b bs =>
        obtain ⟨rfl, hrest⟩ := codeUnitsOf_append h
        rw [ih bs hrest]
  exact String.toList_inj.1 (hlists _ _ h)

theorem nameLe_iff (a b : String) : nameLe a b = true ↔ ¬ Stores.codeUnits b < Stores.codeUnits a := by
  rw [nameLe, Bool.not_eq_true', decide_eq_false_iff_not]

theorem ordersNames_nameLe : OrdersNames nameLe where
  trans a b c hab hbc := by
    rw [nameLe_iff] at *
    exact List.le_trans hab hbc
  total a b := by
    rw [Bool.or_eq_true, nameLe_iff, nameLe_iff]
    exact List.le_total _ _
  antisymm a b hab hba := by
    rw [nameLe_iff] at *
    exact codeUnits_inj (List.le_antisymm hab hba)

/-! ## The text of a value -/

theorem stablyItems_eq (items : List JsValue) : stablyItems items = items.map stably := by
  induction items with
  | nil => rfl
  | cons v rest ih => rw [stablyItems, ih, map_cons]

theorem stablyFields_eq (fields : List (String × JsValue)) :
    stablyFields fields = fields.map fun f => (f.1, stably f.2) := by
  induction fields with
  | nil => rfl
  | cons f rest ih =>
    obtain ⟨name, v⟩ := f
    rw [stablyFields, ih, map_cons]

theorem stably_eq (v : JsValue) : stably v = write numberText (ordered nameLe v) := by
  induction v using Json.induct with
  | null | bool | number | string => rfl
  | array items ih =>
    rw [stably, ordered, write, writeItems_eq, stablyItems_eq, orderedItems_eq, map_map, map_congr_left ih]
    rfl
  | object fields ih =>
    have hfields : stablyFields fields =
        (orderedFields nameLe fields).map fun f => (f.1, write numberText f.2) := by
      rw [stablyFields_eq, orderedFields_eq, map_map]
      exact map_congr_left fun f hf => congrArg (Prod.mk f.1) (ih f hf)
    have hsort := map_mergeSort (r := fun f g : String × JsValue => nameLe f.1 g.1)
      (s := fun f g : String × List Char => nameLe f.1 g.1) (f := fun f => (f.1, write numberText f.2))
      (l := orderedFields nameLe fields) fun _ _ _ _ => rfl
    rw [stably, ordered, write, writeFields_eq, hfields, hsort]

theorem writesNumbers_numberText : WritesNumbers numberText JsNumber.IsFinite where
  letters n hn := by
    cases n with
    | finite d => exact d.letters.1
    | infinite => exact hn.elim
  ne_nil n hn := by
    cases n with
    | finite d => exact d.letters.2
    | infinite => exact hn.elim
  inj n m hn hm h := by
    cases n with
    | finite d => cases m with
      | finite d' => rw [Decimal.text_inj h]
      | infinite => exact hm.elim
    | infinite => exact hn.elim

/-! ## Spellings -/

variable {text : String}

theorem isHex_cases (h : isHex text = true) :
    ∃ rest, text.toList = '0' :: 'x' :: rest ∧ rest ≠ [] ∧ ∀ c ∈ rest, c ∈ IpText.hexDigits := by
  unfold isHex at h
  split at h
  · next digit rest htext =>
    exact ⟨digit :: rest, htext, cons_ne_nil _ _, fun c hc => by simpa using all_eq_true.1 h c hc⟩
  · cases h

theorem isHex_of {rest : List Char} (h : text.toList = '0' :: 'x' :: rest) (hne : rest ≠ [])
    (hrest : ∀ c ∈ rest, c ∈ IpText.hexDigits) : isHex text = true := by
  obtain ⟨digit, more, rfl⟩ := exists_cons_of_ne_nil hne
  rw [isHex, h]
  exact all_eq_true.2 fun c hc => by simpa using hrest c hc

theorem isHex_lowered (h : isHex text = true) : isHex (lowered text) = true := by
  obtain ⟨rest, htext, hne, hrest⟩ := isHex_cases h
  refine isHex_of (?_ : _ = '0' :: 'x' :: rest.map Char.toLower) (by simpa using hne) fun c hc => ?_
  · rw [lowered, String.toList_ofList, htext]
    rfl
  · obtain ⟨d, hd, rfl⟩ := mem_map.1 hc
    exact IpText.mem_hexDigits_of_lower _ (IpText.toLower_mem_lowerHexDigits d (hrest d hd))

theorem wholeNumber_toString (n : Nat) : wholeNumber (.string (toString n)) = some n := by
  have htext : (toString n).toList = Nat.toDigits 10 n := by
    rw [Nat.toString_eq_ofList_toDigits, String.toList_ofList]
  have hdigit : ∀ c ∈ Nat.toDigits 10 n, c.isDigit = true := fun c hc =>
    Nat.isDigit_of_mem_toDigits (b := 10) (by decide) (by decide) hc
  have hhex : isHex (toString n) = false := by
    refine Bool.eq_false_iff.2 fun h => ?_
    obtain ⟨rest, hrest, -, -⟩ := isHex_cases h
    rw [htext] at hrest
    have := hdigit 'x' (by rw [hrest]; simp)
    cases this
  have hne : toString n ≠ "" := by
    intro h
    have := congrArg String.toList h
    rw [htext] at this
    exact ne_nil_of_length_pos Nat.length_toDigits_pos this
  have hdigits : isDigits (toString n) = true := by
    rw [isDigits, htext, Bool.and_eq_true]
    exact ⟨by simp, all_eq_true.2 hdigit⟩
  rw [wholeNumber, if_pos (by rw [hdigits, Bool.or_true]), bigInt, hhex, if_neg (by decide), htext,
    Nat.ofDigitChars_ten_toDigits]

theorem spelled_amount {key : Option String} (h : IsAmount key) (v : JsValue) :
    spelled key v = ((asAmount v).map .string).getD v := if_pos h

theorem spelled_hex {key : Option String} (h : ¬ IsAmount key) (v : JsValue) :
    spelled key v = ((asHex v).map .string).getD v := if_neg h

theorem getD_string_cases (o : Option String) (v : JsValue) :
    (o.map Json.string).getD v = v ∨ ∃ text, (o.map Json.string).getD v = .string text := by
  cases o with
  | none => exact .inl rfl
  | some text => exact .inr ⟨text, rfl⟩

section

variable (key : Option String)

theorem spelled_cases (v : JsValue) : spelled key v = v ∨ ∃ text, spelled key v = .string text := by
  unfold spelled
  split
  · exact getD_string_cases _ v
  · exact getD_string_cases _ v

theorem isLeaf_spelled (v : JsValue) (h : v.IsLeaf) : (spelled key v).IsLeaf := by
  rcases spelled_cases key v with heq | ⟨text, heq⟩ <;> rw [heq]
  · exact h
  · trivial

theorem numbers_spelled (v : JsValue) (_ : v.IsLeaf) (h : Numbers JsNumber.IsFinite v) :
    Numbers JsNumber.IsFinite (spelled key v) := by
  rcases spelled_cases key v with heq | ⟨text, heq⟩ <;> rw [heq]
  · exact h
  · exact .string

end

variable {v : JsValue} {i j : Identity}

theorem asHex_some (h : asHex v = some text) :
    ∃ s, v = .string s ∧ isHex s = true ∧ text = lowered s := by
  cases v with
  | string s =>
    simp only [asHex] at h
    split at h
    · next hs => exact ⟨s, rfl, hs, (Option.some.inj h).symm⟩
    · cases h
  | null | bool | number | array | object => cases h

theorem asAmount_some (h : asAmount v = some text) :
    ∃ n, wholeNumber v = some n ∧ text = toString n := by
  obtain ⟨n, hn, htext⟩ := Option.map_eq_some_iff.1 h
  exact ⟨n, hn, htext.symm⟩

theorem amount_unspelled {n : Nat} (h : Json.string (toString n) = v) : wholeNumber v = some n := by
  rw [← h, wholeNumber_toString]

/-- **Two values get one spelling exactly where they are the same** up to amounts and hex case. -/
theorem spelled_eq_iff (key : Option String) (v w : JsValue) : spelled key v = spelled key w ↔ SameLeaf key v w := by
  constructor
  · intro h
    by_cases hkey : IsAmount key
    · rw [spelled_amount hkey, spelled_amount hkey] at h
      cases hv : asAmount v with
      | none => cases hw : asAmount w with
        | none =>
          rw [hv, hw] at h
          cases h
          exact .same
        | some text =>
          obtain ⟨n, hn, rfl⟩ := asAmount_some hw
          rw [hv, hw] at h
          exact .amount hkey (amount_unspelled h.symm) hn
      | some text =>
        obtain ⟨n, hn, rfl⟩ := asAmount_some hv
        cases hw : asAmount w with
        | none =>
          rw [hv, hw] at h
          exact .amount hkey hn (amount_unspelled h)
        | some text' =>
          obtain ⟨m, hm, rfl⟩ := asAmount_some hw
          rw [hv, hw] at h
          rw [← Decimals.toString_inj (Json.string.inj h)] at hm
          exact .amount hkey hn hm
    · rw [spelled_hex hkey, spelled_hex hkey] at h
      have hone {v w : JsValue} {s : String} (hs : isHex s = true) (hw : asHex w = none)
          (h : Json.string (lowered s) = w) : False := by
        rw [← h, asHex, if_pos (isHex_lowered hs)] at hw
        cases hw
      cases hv : asHex v with
      | none => cases hw : asHex w with
        | none =>
          rw [hv, hw] at h
          cases h
          exact .same
        | some text =>
          obtain ⟨s, rfl, hs, rfl⟩ := asHex_some hw
          rw [hv, hw] at h
          exact (hone (v := v) hs hv h.symm).elim
      | some text =>
        obtain ⟨s, rfl, hs, rfl⟩ := asHex_some hv
        cases hw : asHex w with
        | none =>
          rw [hv, hw] at h
          exact (hone (v := w) hs hw h).elim
        | some text' =>
          obtain ⟨t, rfl, ht, rfl⟩ := asHex_some hw
          rw [hv, hw] at h
          exact .hex hkey hs ht (Json.string.inj h)
  · intro h
    cases h with
    | same => rfl
    | amount hkey hv hw =>
      rw [spelled_amount hkey, spelled_amount hkey, asAmount, asAmount, hv, hw]
      rfl
    | hex hkey hs ht h =>
      rw [spelled_hex hkey, spelled_hex hkey, asHex, asHex, if_pos hs, if_pos ht, h]
      rfl

/-! ## The fingerprint says what was signed -/

theorem asHex_eq (v : JsValue) : asHex v = (hexText v).map lowered := by
  cases v with
  | string s =>
    simp only [asHex, hexText]
    split <;> rfl
  | null | bool | number | array | object => rfl

theorem bind_asHex (o : Option JsValue) : o.bind asHex = (o.bind hexText).map lowered := by
  cases o with
  | none => rfl
  | some v => exact asHex_eq v

/-- The fields that say what an identity is of. -/
def Identity.fields : Identity → List (String × JsValue)
  | .authorization payer nonce =>
    [("by", .string "authorization"), ("payer", .string (lowered payer)), ("nonce", .string (lowered nonce))]
  | .signature text => [("by", .string "signature"), ("signature", .string (lowered text))]
  | .payload fields => [("by", .string "payload"), ("payload", canonical (.object fields) none)]

variable {sha256 : List Char → String} {toLowerCase : String → String}

/-- What is digested of a payment: its token and what it is the signing of. -/
def digested (toLowerCase : String → String) (identity : Identity) (token : TokenIdentity) :
    List (String × JsValue) :=
  ("network", .string (toLowerCase token.network)) :: ("asset", .string (toLowerCase token.asset)) :: identity.fields

theorem paymentFingerprint_eq (p : PaymentPayload) (token : TokenIdentity) :
    paymentFingerprint sha256 toLowerCase p token =
      digestOf sha256 (.object (digested toLowerCase p.identity token)) := by
  have hfield (name : String) : (((Dict.find "authorization" ((p.payload.bind asRecord).getD [])).bind asRecord).bind
      (Dict.find name)).bind asHex = (p.authorized name).map lowered := bind_asHex _
  have hsignature : (Dict.find "signature" ((p.payload.bind asRecord).getD [])).bind asHex =
      p.signature.map lowered := bind_asHex _
  simp only [paymentFingerprint, hfield, hsignature]
  unfold PaymentPayload.identity
  cases p.authorized "from" with
  | none =>
    cases p.signature with
    | none => rfl
    | some signature => rfl
  | some payer =>
    cases p.authorized "nonce" with
    | none =>
      cases p.signature with
      | none => rfl
      | some signature => rfl
    | some nonce => rfl

def inOrder (fields : List (String × JsValue)) : List (String × JsValue) :=
  fields.map fun f => (f.1, ordered nameLe f.2)

theorem ordered_object (fields : List (String × JsValue)) :
    ordered nameLe (.object fields) = .object ((inOrder fields).mergeSort fun f g => nameLe f.1 g.1) := by
  rw [ordered, orderedFields_eq]
  rfl

/-- Which kind an identity is of. -/
def Identity.by : Identity → String
  | .authorization _ _ => "authorization"
  | .signature _ => "signature"
  | .payload _ => "payload"

section
variable {i : Identity} {t : TokenIdentity} {v : JsValue}

theorem network_of_mem (h : ("network", v) ∈ inOrder (digested toLowerCase i t)) :
    v = .string (toLowerCase t.network) := by
  cases i <;> simpa [inOrder, digested, Identity.fields, ordered] using h

theorem asset_of_mem (h : ("asset", v) ∈ inOrder (digested toLowerCase i t)) :
    v = .string (toLowerCase t.asset) := by
  cases i <;> simpa [inOrder, digested, Identity.fields, ordered] using h

theorem by_of_mem (h : ("by", v) ∈ inOrder (digested toLowerCase i t)) : v = .string i.by := by
  cases i <;> simpa [inOrder, digested, Identity.fields, ordered, Identity.by] using h

end

theorem same_of_digested {t u : TokenIdentity} (hj : ∀ fields, j = .payload fields → Distinct (.object fields))
    (h : ordered nameLe (.object (digested toLowerCase i t)) = ordered nameLe (.object (digested toLowerCase j u))) :
    SameToken toLowerCase t u ∧ SameIdentity i j := by
  rw [ordered_object, ordered_object, Json.object.injEq] at h
  have hperm : (inOrder (digested toLowerCase i t)).Perm (inOrder (digested toLowerCase j u)) :=
    (mergeSort_perm _ _).symm.trans (by rw [h]; exact mergeSort_perm _ _)
  have hmem {f : String × JsValue} (hf : f ∈ inOrder (digested toLowerCase i t)) :
      f ∈ inOrder (digested toLowerCase j u) := hperm.mem_iff.1 hf
  refine ⟨⟨?_, ?_⟩, ?_⟩
  · have hin : ("network", .string (toLowerCase t.network)) ∈ inOrder (digested toLowerCase i t) := by
      simp [inOrder, digested, ordered]
    exact Json.string.inj (network_of_mem (hmem hin))
  · have hin : ("asset", .string (toLowerCase t.asset)) ∈ inOrder (digested toLowerCase i t) := by
      simp [inOrder, digested, ordered]
    exact Json.string.inj (asset_of_mem (hmem hin))
  · have hby : i.by = j.by := by
      have hi : ("by", .string i.by) ∈ inOrder (digested toLowerCase i t) := by
        cases i <;> simp [inOrder, digested, Identity.fields, Identity.by, ordered]
      exact Json.string.inj (by_of_mem (hmem hi))
    cases i with
    | authorization payer nonce =>
      cases j with
      | authorization payer' nonce' =>
        have hpayer := hmem (f := ("payer", .string (lowered payer)))
          (by simp [inOrder, digested, Identity.fields, ordered])
        have hnonce := hmem (f := ("nonce", .string (lowered nonce)))
          (by simp [inOrder, digested, Identity.fields, ordered])
        simp [inOrder, digested, Identity.fields, ordered] at hpayer hnonce
        exact ⟨hpayer, hnonce⟩
      | signature | payload => simp [Identity.by] at hby
    | signature text =>
      cases j with
      | signature text' =>
        have htext := hmem (f := ("signature", .string (lowered text)))
          (by simp [inOrder, digested, Identity.fields, ordered])
        simp [inOrder, digested, Identity.fields, ordered] at htext
        exact htext
      | authorization | payload => simp [Identity.by] at hby
    | payload fields =>
      cases j with
      | payload fields' =>
        have hpayload := hmem (f := ("payload", formed nameLe spelled none (.object fields)))
          (by simp [inOrder, digested, Identity.fields, formed, canonical])
        have hform : formed nameLe spelled none (.object fields) = formed nameLe spelled none (.object fields') := by
          simpa [inOrder, digested, Identity.fields, canonical, formed, ordered] using hpayload
        exact alike_of_formed isLeaf_spelled (fun key v w _ _ => (spelled_eq_iff key v w).1) _ (hj _ rfl) hform
      | authorization | signature => simp [Identity.by] at hby

theorem digested_of_same {t u : TokenIdentity} (hi : ∀ fields, i = .payload fields → Distinct (.object fields))
    (hj : ∀ fields, j = .payload fields → Distinct (.object fields)) (htoken : SameToken toLowerCase t u)
    (h : SameIdentity i j) :
    ordered nameLe (.object (digested toLowerCase i t)) = ordered nameLe (.object (digested toLowerCase j u)) := by
  have hfields : inOrder i.fields = inOrder j.fields := by
    cases i with
    | authorization payer nonce =>
      cases j with
      | authorization payer' nonce' => rw [Identity.fields, Identity.fields, h.1, h.2]
      | signature | payload => exact h.elim
    | signature text =>
      cases j with
      | signature text' => rw [Identity.fields, Identity.fields, show lowered text = lowered text' from h]
      | authorization | payload => exact h.elim
    | payload fields =>
      cases j with
      | payload fields' =>
        have hform : formed nameLe spelled none (.object fields) = formed nameLe spelled none (.object fields') :=
          formed_of_alike ordersNames_nameLe isLeaf_spelled
            (fun key v w _ _ => (spelled_eq_iff key v w).2) (hi _ rfl) (hj _ rfl) h
        simp only [Identity.fields, inOrder, map_cons, map_nil, canonical]
        rw [← formed, ← formed, hform]
      | authorization | signature => exact h.elim
  have hdigested : inOrder (digested toLowerCase i t) = inOrder (digested toLowerCase j u) := by
    simp only [digested, inOrder, map_cons] at hfields ⊢
    rw [hfields, htoken.1, htoken.2]
  rw [ordered_object, ordered_object, hdigested]

theorem numbers_digested {t : TokenIdentity} (h : i.IsFinite) :
    Numbers JsNumber.IsFinite (ordered nameLe (.object (digested toLowerCase i t))) := by
  rw [ordered_object]
  refine .object fun f hf => ?_
  obtain ⟨g, hg, rfl⟩ := mem_map.1 (mem_mergeSort.1 hf)
  rcases mem_cons.1 hg with rfl | hg
  · exact .string
  rcases mem_cons.1 hg with rfl | hg
  · exact .string
  cases i with
  | authorization payer nonce =>
    simp only [Identity.fields, mem_cons, not_mem_nil, or_false] at hg
    rcases hg with rfl | rfl | rfl <;> exact .string
  | signature text =>
    simp only [Identity.fields, mem_cons, not_mem_nil, or_false] at hg
    rcases hg with rfl | rfl <;> exact .string
  | payload fields =>
    simp only [Identity.fields, mem_cons, not_mem_nil, or_false] at hg
    rcases hg with rfl | rfl
    · exact .string
    · exact numbers_formed isLeaf_spelled numbers_spelled _ h

theorem PaymentPayload.distinct_signed (p : PaymentPayload) : Distinct (.object p.signed) := by
  unfold PaymentPayload.signed
  cases hpayload : p.payload with
  | none => exact .object nodup_nil nofun
  | some v =>
    have hv := p.distinct v hpayload
    cases v with
    | object fields => exact hv
    | null | bool | number | string | array => exact .object nodup_nil nofun

theorem PaymentPayload.distinct_identity (p : PaymentPayload) (fields : List (String × JsValue))
    (h : p.identity = .payload fields) : Distinct (.object fields) := by
  unfold PaymentPayload.identity at h
  split at h
  · cases h
  · split at h
    · cases h
    · cases h
      exact p.distinct_signed

variable {p q : PaymentPayload} {t u : TokenIdentity}

theorem same_of_fingerprint (hsha : Function.Injective sha256) (hp : p.identity.IsFinite) (hq : q.identity.IsFinite)
    (h : paymentFingerprint sha256 toLowerCase p t = paymentFingerprint sha256 toLowerCase q u) :
    SameToken toLowerCase t u ∧ SameIdentity p.identity q.identity := by
  rw [paymentFingerprint_eq, paymentFingerprint_eq, digestOf, digestOf, stably_eq, stably_eq] at h
  exact same_of_digested q.distinct_identity
    (write_inj writesNumbers_numberText (numbers_digested hp) (numbers_digested hq) (hsha h))

theorem fingerprint_of_same (htoken : SameToken toLowerCase t u) (h : SameIdentity p.identity q.identity) :
    paymentFingerprint sha256 toLowerCase p t = paymentFingerprint sha256 toLowerCase q u := by
  rw [paymentFingerprint_eq, paymentFingerprint_eq, digestOf, digestOf, stably_eq, stably_eq,
    digested_of_same p.distinct_identity q.distinct_identity htoken h]

/-- **A payment is known by its token and by what was signed.** Where no number of a payload that stands for
itself is beyond every double, two payments have one fingerprint exactly where their tokens are equal up to letter
case and their identities up to hex case, the order of keys and the spelling of amounts. Neither the version of the
protocol nor what the agent says it accepted is in it. -/
theorem fingerprint_eq_iff (hsha : Function.Injective sha256) (p q : PaymentPayload) (t u : TokenIdentity)
    (hp : p.identity.IsFinite) (hq : q.identity.IsFinite) :
    paymentFingerprint sha256 toLowerCase p t = paymentFingerprint sha256 toLowerCase q u ↔
      SameToken toLowerCase t u ∧ SameIdentity p.identity q.identity :=
  ⟨same_of_fingerprint hsha hp hq, fun h => fingerprint_of_same h.1 h.2⟩

/-! ## Some payments -/

/-- A payment with a payload, and nothing about the protocol. -/
def paymentOf (payload : JsValue) (h : Distinct payload) : PaymentPayload where
  x402Version := none
  accepted := none
  payload := some payload
  distinct _ hv := Option.some.inj hv ▸ h

theorem distinct_leaves {fields : List (String × JsValue)} (hnames : (fields.map Prod.fst).Nodup)
    (h : ∀ f ∈ fields, f.2.IsLeaf) : Distinct (.object fields) :=
  .object hnames fun f hf => .leaf (h f hf)

/-- A transfer with its amount as a number. -/
def transferWritten : PaymentPayload :=
  paymentOf (.object [("value", .number (.finite ⟨false, 5, 0, nofun, by decide⟩)), ("to", .string "0xAB")])
    (distinct_leaves (by decide) (by simp [Json.IsLeaf]))

/-- The same transfer, in other words. -/
def transferRewritten : PaymentPayload :=
  paymentOf (.object [("to", .string "0xab"), ("value", .string "0x5")])
    (distinct_leaves (by decide) (by simp [Json.IsLeaf]))

def sampleToken : TokenIdentity := ⟨"eip155:8453", "0xA0b8"⟩

theorem transfer_has_one_fingerprint :
    paymentFingerprint String.ofList lowered transferWritten sampleToken =
      paymentFingerprint String.ofList lowered transferRewritten sampleToken := by
  have hwritten : Numbers JsNumber.IsFinite (.object transferWritten.signed) :=
    .object (by rintro f hf; simp [transferWritten, paymentOf, PaymentPayload.signed, asRecord] at hf
                rcases hf with rfl | rfl; exacts [.number trivial, .string])
  have hrewritten : Numbers JsNumber.IsFinite (.object transferRewritten.signed) :=
    .object (by rintro f hf; simp [transferRewritten, paymentOf, PaymentPayload.signed, asRecord] at hf
                rcases hf with rfl | rfl <;> exact .string)
  refine (fingerprint_eq_iff (fun _ _ h => String.ofList_inj.1 h) transferWritten transferRewritten sampleToken
    sampleToken hwritten hrewritten).2 ⟨⟨rfl, rfl⟩, .object ?_ ?_⟩
  · intro name
    simp [transferWritten, transferRewritten, paymentOf, PaymentPayload.signed, asRecord, or_comm]
  · intro name v w hv hw
    simp [transferWritten, transferRewritten, paymentOf, PaymentPayload.signed, asRecord] at hv hw
    rcases hv with ⟨rfl, rfl⟩ | ⟨rfl, rfl⟩ <;> rcases hw with ⟨hname, rfl⟩ | ⟨hname, rfl⟩
    · exact absurd hname (by decide)
    · exact .leaf trivial trivial (.amount (n := 5) (by decide) (by decide) (by decide))
    · exact .leaf trivial trivial (.hex (by decide) (by decide) (by decide) (by decide))
    · exact absurd hname (by decide)

def wordPayment (word : String) : PaymentPayload := paymentOf (.string word) (.leaf trivial)

/-- A payment that names its payer by a word, and is signed. -/
def wordlyAuthorized (payer : String) : PaymentPayload :=
  paymentOf (.object [("authorization", .object [("from", .string payer), ("nonce", .string "0x1")]),
      ("signature", .string "0x2")])
    (.object (by simp) (by
      rintro f hf
      simp only [List.mem_cons, List.not_mem_nil, or_false] at hf
      rcases hf with rfl | rfl
      · exact distinct_leaves (by simp) (by simp [Json.IsLeaf])
      · exact .leaf trivial))

def amounting (value : JsValue) (h : value.IsLeaf) : PaymentPayload :=
  paymentOf (.object [("value", value)]) (distinct_leaves (by simp) (by simpa using h))

/-- The first integer beyond which doubles are not exact, as a number. -/
def firstUnsafe : Decimal := ⟨false, 9007199254740992, 0, nofun, by decide⟩

/-- What is no object counts as an empty payload, what is no hex text as no payer, and a number that is no safe
integer as no amount. -/
theorem spellings_not_told :
    (paymentFingerprint String.ofList lowered (wordPayment "a") sampleToken =
        paymentFingerprint String.ofList lowered (wordPayment "b") sampleToken ∧
      ¬ SameLeaf none (.string "a") (.string "b")) ∧
    (paymentFingerprint String.ofList lowered (wordlyAuthorized "alice") sampleToken =
        paymentFingerprint String.ofList lowered (wordlyAuthorized "bob") sampleToken ∧
      lowered "alice" ≠ lowered "bob") ∧
    (paymentFingerprint String.ofList lowered (amounting (.number (.finite firstUnsafe)) trivial) sampleToken ≠
        paymentFingerprint String.ofList lowered (amounting (.string "9007199254740992") trivial) sampleToken ∧
      firstUnsafe.digits * 10 ^ firstUnsafe.exponent.toNat = bigInt "9007199254740992") := by
  refine ⟨⟨rfl, ?_⟩, ⟨?_, by decide⟩, ?_, by decide⟩
  · intro h
    have hspelled : Json.string "a" = Json.string "b" := (spelled_eq_iff none _ _).2 h
    exact absurd (Json.string.inj hspelled) (by decide)
  · exact fingerprint_of_same ⟨rfl, rfl⟩ rfl
  · intro h
    have hfinite (value : JsValue) (h : Numbers JsNumber.IsFinite value) :
        (Identity.payload [("value", value)]).IsFinite :=
      .object fun f hf => by rw [List.mem_singleton.1 hf]; exact h
    have hnumber : (amounting (.number (.finite firstUnsafe)) trivial).identity.IsFinite :=
      hfinite _ (.number trivial)
    have htext : (amounting (.string "9007199254740992") trivial).identity.IsFinite := hfinite _ .string
    obtain ⟨-, hsame⟩ := same_of_fingerprint (fun _ _ h => String.ofList_inj.1 h) hnumber htext h
    have hvalues : SamePayload [("value", .number (.finite firstUnsafe))]
        [("value", .string "9007199254740992")] := hsame
    cases hvalues with
    | leaf hleaf => exact hleaf
    | object _ hvalues =>
      cases hvalues "value" _ _ List.mem_cons_self List.mem_cons_self with
      | leaf _ _ hleaf =>
        have hspelled : (Json.number (.finite firstUnsafe) : JsValue) =
            ((asAmount (.string "9007199254740992")).map .string).getD (.string "9007199254740992") :=
          (spelled_eq_iff (some "value") _ _).2 hleaf
        cases hspelled

end Coinslot.Fingerprint
