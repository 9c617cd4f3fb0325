import Coinslot.Gateway.Cards

/-!
# The documents of the surface

What each call answers with when it works, and the one shape every call says no in
(`packages/contracts/src/api.ts`). A document is an object that is closed: it carries what its shape
requires and nothing its shape does not name, and where a route answers in several shapes one of them fits.
What the fields themselves are held to is a parameter (`Nested`), since nothing here turns on it.

The refusal requires `error` and is closed around it, and every shape of every document requires something
else beside, so that no body is both (`answers_disjoint`).
-/

namespace Coinslot.Contract

open List

/-! ## Closed objects and open ones -/

/-- A field of an object: its name, whether it may be left out, and what its value is held to. -/
structure Field where
  name : String
  optional : Bool := false
  holds : JsonValue → Bool

abbrev Shape := List Field

/-- A field is as it is declared, or left out where it may be. -/
def Field.fits (field : Field) (entries : List (String × JsonValue)) : Bool :=
  match Dict.find field.name entries with
  | none => field.optional
  | some value => field.holds value

/-- An object that carries what its shape requires (`z.looseObject`). -/
def looseObject (shape : Shape) : JsonValue → Bool
  | .object entries => shape.all fun field => field.fits entries
  | _ => false

/-- An object that carries what its shape requires and nothing it does not name (`z.strictObject`). -/
def strictObject (shape : Shape) : JsonValue → Bool
  | .object entries =>
    (shape.all fun field => field.fits entries) &&
      entries.all fun entry => shape.any fun field => field.name = entry.1
  | _ => false

def anArray (holds : JsonValue → Bool) : JsonValue → Bool
  | .array items => items.all holds
  | _ => false

def nullable (holds : JsonValue → Bool) : JsonValue → Bool
  | .null => true
  | value => holds value

def aBoolean : JsonValue → Bool
  | .bool _ => true
  | _ => false

/-- The one value of a truth that is written into a shape (`z.literal`). -/
def literal (expected : Bool) : JsonValue → Bool
  | .bool value => value = expected
  | _ => false

/-- A string that carries anything but blanks. -/
def carriesWords : JsonValue → Bool
  | .string text => carriesSomething text
  | _ => false

theorem strictObject_disjoint {shape other : Shape} {field : Field} {value : JsonValue}
    (hin : field ∈ shape) (hneeds : field.optional = false) (hother : ∀ f ∈ other, f.name ≠ field.name) :
    ¬ (strictObject shape value = true ∧ strictObject other value = true) := by
  rintro ⟨hshape, hclosed⟩
  cases value with
  | object entries =>
    simp only [strictObject, Bool.and_eq_true, all_eq_true] at hshape hclosed
    have hfits := hshape.1 field hin
    unfold Field.fits at hfits
    cases hv : Dict.find field.name entries with
    | none =>
      rw [hv, hneeds] at hfits
      cases hfits
    | some value =>
      obtain ⟨entry, hentry, hkey⟩ := mem_map.1 (Dict.mem_keys_of_find hv)
      obtain ⟨f, hf, hname⟩ := any_eq_true.1 (hclosed.2 entry hentry)
      exact hother f hf ((of_decide_eq_true hname).trans hkey)
  | null | bool _ | number _ | string _ | array _ => cases hshape

/-! ## The answers -/

/-- The schemas the fields of the documents are held to. -/
inductive NestedSchema where
  | identifier
  | timestamp
  | card
  | sellingState
  | keySecret
  | serviceName
  | evmAddress
  | merchantKey
  | params
  | salePrice
  | orderStatus
  | receipt
  | workerEnvelope
  | orderCallResult
  | callError
  | publishRefusal
  | publicCard
  | delivery
  | refusal
  deriving DecidableEq, Repr

abbrev Nested := NestedSchema → JsonValue → Bool

section
variable (nested : Nested)

/-- One card as its merchant reads it back (`MerchantCardSchema`). -/
def merchantCard : Shape :=
  [{ name := "id", holds := nested .identifier }, { name := "as_of", holds := nested .timestamp },
    { name := "card", holds := nested .card }, { name := "selling", holds := nested .sellingState },
    { name := "paused", holds := aBoolean }]

/-- A merchant's own catalog (`MerchantCardListSchema`). -/
def merchantCardList : Shape :=
  [{ name := "selling", holds := nested .sellingState },
    { name := "cards", holds := anArray (strictObject (merchantCard nested)) }]

/-- The name a merchant's products are sold under (`SellerNameSchema`). -/
def sellerName : Shape := [{ name := "seller_name", holds := nullable (nested .serviceName) }]

/-- The address a merchant's sales are paid into (`PayoutWalletSchema`). -/
def payoutWallet : Shape := [{ name := "payout_wallet", holds := nullable (nested .evmAddress) }]

/-- One order with where it stands (`OrderWithStatusSchema`). -/
def orderWithStatus : Shape :=
  [{ name := "id", holds := nested .identifier },
    { name := "merchant_item_id", holds := nested .identifier },
    { name := "params", holds := nested .params }, { name := "price", holds := nested .salePrice },
    { name := "price_id", optional := true, holds := nested .identifier },
    { name := "test", holds := aBoolean }, { name := "status", holds := nested .orderStatus }]

/-- A merchant's call on an order that did not go through (`OrderCallFailedSchema`). -/
def orderCallFailed : Shape :=
  [{ name := "ok", holds := literal false }, { name := "error", holds := nested .callError }]

/-- What a merchant's call on an order comes back as (`OrderCallResponseSchema`). -/
def orderCallResponse : List Shape :=
  [[{ name := "ok", holds := literal true }, { name := "result", holds := nested .orderCallResult }],
    orderCallFailed nested]

/-- What became of a purchase, for the agent that made it (`AgentOrderStatusSchema`). -/
def agentOrderStatus : Shape :=
  [{ name := "order_id", holds := nested .identifier },
    { name := "status", holds := nested .orderStatus },
    { name := "price", holds := nullable (nested .salePrice) },
    { name := "delivered", holds := nullable (nested .delivery) }, { name := "test", holds := aBoolean },
    { name := "refusal", optional := true, holds := nested .refusal }]

end

/-- Every call of the surface (`API_ROUTES`). -/
inductive RouteName where
  | publishCard
  | listMerchantCards
  | pauseCard
  | resumeCard
  | pauseSelling
  | resumeSelling
  | registerMerchant
  | getSellerName
  | setSellerName
  | getPayoutWallet
  | setPayoutWallet
  | listKeys
  | issueKey
  | disableKey
  | issueCabinetKey
  | forgetCabinetKey
  | getOrder
  | listOrders
  | listReceipts
  | pollWorker
  | answerOrder
  | deliverOrder
  | refuseOrder
  | acceptOrder
  | answerQuote
  | listCatalog
  | purchaseItem
  | getOrderStatus
  deriving DecidableEq, Repr

/-- The shapes of the document a route answers with when it works. -/
def RouteName.document (nested : Nested) : RouteName → List Shape
  | .publishCard =>
    [[{ name := "ok", holds := literal true }, { name := "id", holds := nested .identifier }],
      [{ name := "ok", holds := literal false },
        { name := "error", holds := nested .publishRefusal }]]
  | .listMerchantCards | .pauseSelling | .resumeSelling => [merchantCardList nested]
  | .pauseCard | .resumeCard => [merchantCard nested]
  | .registerMerchant =>
    [[{ name := "merchant_id", holds := nested .identifier },
      { name := "secret", holds := nested .keySecret }]]
  | .getSellerName | .setSellerName => [sellerName nested]
  | .getPayoutWallet | .setPayoutWallet => [payoutWallet nested]
  | .listKeys =>
    [[{ name := "keys", holds := anArray (nested .merchantKey) },
      { name := "this_call", holds := nested .identifier }]]
  | .issueKey =>
    [[{ name := "key", holds := nested .merchantKey }, { name := "secret", holds := nested .keySecret }]]
  | .disableKey => [[{ name := "key", holds := nested .merchantKey }]]
  | .issueCabinetKey => [[{ name := "secret", holds := nested .keySecret }]]
  | .forgetCabinetKey => [[{ name := "forgotten", holds := literal true }]]
  | .getOrder => [orderWithStatus nested]
  | .listOrders => [[{ name := "orders", holds := anArray (strictObject (orderWithStatus nested)) }]]
  | .listReceipts => [[{ name := "receipts", holds := anArray (nested .receipt) }]]
  | .pollWorker =>
    [[{ name := "contract_version", holds := carriesWords },
      { name := "envelopes", holds := anArray (nested .workerEnvelope) }]]
  | .answerOrder | .deliverOrder | .refuseOrder => orderCallResponse nested
  | .acceptOrder => [[{ name := "ok", holds := literal true }], orderCallFailed nested]
  | .answerQuote => [[{ name := "used", holds := aBoolean }]]
  | .listCatalog => [[{ name := "items", holds := anArray (nested .publicCard) }]]
  | .purchaseItem | .getOrderStatus => [agentOrderStatus nested]

def RouteName.accepts (nested : Nested) (route : RouteName) (body : JsonValue) : Bool :=
  (route.document nested).any fun shape => strictObject shape body

/-! ## The refusal -/

/-- What a refusal says of itself, beside anything else it carries. -/
def errorShape : Shape :=
  [{ name := "code", holds := carriesWords }, { name := "message", holds := carriesWords },
    { name := "retryable", holds := aBoolean }]

/-- Whether a body is how every call of the surface says no (`ErrorEnvelopeSchema`). -/
def isErrorEnvelope : JsonValue → Bool := strictObject [{ name := "error", holds := looseObject errorShape }]

/-- Every shape of every document requires something that is not `error`. -/
theorem RouteName.document_needs (nested : Nested) (route : RouteName) :
    ∀ shape ∈ route.document nested, ∃ field ∈ shape, field.optional = false ∧ field.name ≠ "error" := by
  have hall : (route.document nested).all (fun shape =>
      shape.any fun field => !field.optional && field.name ≠ "error") = true := by
    cases route <;> rfl
  intro shape hin
  obtain ⟨field, hf, hneeds⟩ := any_eq_true.1 (all_eq_true.1 hall shape hin)
  simp only [Bool.and_eq_true, Bool.not_eq_true', ne_eq, decide_eq_true_eq] at hneeds
  exact ⟨field, hf, hneeds⟩

/-- **No body is both an answer and a refusal**, of any route, whatever its fields are held to. -/
theorem answers_disjoint (nested : Nested) (route : RouteName) (body : JsonValue) :
    ¬ (route.accepts nested body = true ∧ isErrorEnvelope body = true) := by
  rintro ⟨hanswer, hrefusal⟩
  obtain ⟨shape, hin, hshape⟩ := any_eq_true.1 hanswer
  obtain ⟨field, hf, hneeds, hname⟩ := route.document_needs nested shape hin
  refine strictObject_disjoint hf hneeds ?_ ⟨hshape, hrefusal⟩
  intro f hf'
  rw [mem_singleton.1 hf']
  exact Ne.symm hname

end Coinslot.Contract
