import Coinslot.Gateway.Desk

/-!
# The shops a cabinet sells out of

A merchant's WooCommerce shop, as the cabinet knows it: the connections and the ledger of the orders that
were placed (`apps/cabinet/src/woo-shops.ts`), and the call that creates an order in the shop
(`apps/cabinet/src/woo-shop.ts`), cut where it waits for the shop: what is sent, and what is made of the
answer. The ledger has two implementations. They differ in how a claim is taken: one takes it at once, the
other in two statements.
-/

namespace Coinslot

/-! ## Connections and the ledger -/

/-- A merchant's connected shop, with the credentials it granted. -/
structure WooConnection where
  accountId : String
  shopUrl : String
  consumerKey : String
  consumerSecret : String
  permissions : String
  connectedAt : Int
  deriving DecidableEq, Repr

/-- The order a shop made: its identifier, and the number the buyer is told. -/
structure PlacedOrder where
  id : String
  number : String
  deriving DecidableEq, Repr

/-- A row of the ledger: a sale that was taken on, and the order that was made of it. -/
structure WooOrder where
  accountId : String
  attemptedAt : Int
  placed : Option PlacedOrder
  deriving DecidableEq, Repr

/-- What is known about an order we may already have placed in a shop. -/
inductive OrderClaim where
  | ours
  | placed (order : PlacedOrder)
  | unknown (attemptedAt : Int)
  deriving DecidableEq, Repr

/-- The orders that were taken on, each under its own identifier. -/
abbrev Ledger := Dict String WooOrder

namespace Ledger

variable (ledger : Ledger) (orderId : String)

/-- What a row says to who comes second. -/
def claimOf (row : WooOrder) : OrderClaim :=
  match row.placed with
  | some order => .placed order
  | none => .unknown row.attemptedAt

/-- Takes a sale on, or says what is known about it (`claimOrder` of the memory store). -/
def claimOrder (accountId : String) (now : Int) : Ledger × OrderClaim :=
  match ledger.get orderId with
  | none => (ledger.set orderId ⟨accountId, now, none⟩, .ours)
  | some row => (ledger, claimOf row)

/-- The first statement of `claimOrder` in Postgres: a row is written where there is none. -/
def insertClaim (accountId : String) (now : Int) : Option Ledger :=
  match ledger.get orderId with
  | none => some (ledger.set orderId ⟨accountId, now, none⟩)
  | some _ => none

/-- Its second statement, where the first one met a row: the row is read, and one that is gone by now is
read as a release that raced this claim. -/
def rereadClaim : OrderClaim :=
  match ledger.get orderId with
  | none => .ours
  | some row => claimOf row

/-- Completes a claim with what the shop answered. -/
def recordOrder (order : PlacedOrder) : Ledger :=
  match ledger.get orderId with
  | none => ledger
  | some row => ledger.set orderId { row with placed := some order }

/-- Gives up a claim nothing came of. -/
def releaseOrder : Ledger :=
  match ledger.get orderId with
  | none => ledger
  | some row => if row.placed.isNone then ledger.delete orderId else ledger

end Ledger

/-- The implementations of the ledger. -/
inductive LedgerStore where
  | memory
  | postgres
  deriving DecidableEq, Repr

/-! ## The call to the shop -/

/-- What the language makes of numbers: the whole number above zero a text writes, where it writes one
that is carried exactly, and the text of a number. -/
structure NumberForms where
  productId : String → Option Nat
  text : Rat → String

/-- One sale, as the shop has to be told about it. -/
structure SoldItem where
  orderId : String
  productId : String
  email : String
  amount : String
  currency : String
  deriving DecidableEq, Repr

/-- The order a shop is asked to create. -/
structure ShopOrder where
  shopUrl : String
  transactionId : String
  productId : Nat
  email : String
  amount : String
  currency : String
  deriving DecidableEq, Repr

/-- What became of an order call: the order that was made, or why there is none and whether making the
same call again could land. -/
inductive OrderMade where
  | made (order : PlacedOrder)
  | failed (why : String) (again : Bool)
  deriving DecidableEq, Repr

/-- What comes back over the wire: nothing, an answer that breaks off, or an answer whose text is a
document or none. -/
inductive ShopAnswer where
  | silent (thrown : String)
  | broken (thrown : String)
  | answered (status : Nat) (document : Option JsonValue)

def worthAskingAgain (status : Nat) : Bool := 500 ≤ status || status = 408 || status = 429

/-- Whether a status says that the call went through. -/
def isOkStatus (status : Nat) : Bool := 200 ≤ status && status ≤ 299

/-- A field of a document. -/
def JsonValue.field (document : JsonValue) (name : String) : Option JsonValue :=
  match document with
  | .object fields => fields.lookup name
  | _ => none

/-- The identifier a document carries, where it is a number. -/
def JsonValue.idNumber (document : JsonValue) : Option Rat :=
  match document.field "id" with
  | some (.number n) => some n
  | _ => none

/-- What the shop said, out of its own error document, or the status. -/
def whatTheShopSaid (document : Option JsonValue) (status : Nat) : String :=
  match document.bind (·.field "message") with
  | some (.string message) =>
    if message ≠ "" then message
    else s!"the answer carried no message we could read (HTTP {status})."
  | _ => s!"the answer carried no message we could read (HTTP {status})."

/-- The order call, up to the moment it is sent (`createTheOrderInTheShop`). -/
def orderCall (forms : NumberForms) (connection : WooConnection) (sold : SoldItem) : Except OrderMade ShopOrder :=
  match forms.productId sold.productId with
  | none =>
    .error (.failed (s!"This card is keyed by \"{sold.productId}\", which is not a product " ++
      "identifier in a WooCommerce shop, so there is nothing in the shop to order.") false)
  | some productId =>
    .ok
      { shopUrl := connection.shopUrl
        transactionId := sold.orderId
        productId := productId
        email := sold.email
        amount := sold.amount
        currency := sold.currency }

/-- What is made of the shop's answer (`createTheOrderInTheShop`), or what it is thrown with: an answer
that breaks off, and a document that is nothing at all, are not read to an end. -/
def readTheAnswer (forms : NumberForms) : ShopAnswer → Except String OrderMade
  | .silent thrown => .ok (.failed s!"The shop did not answer: {thrown}" true)
  | .broken thrown => .error thrown
  | .answered status document =>
    if isOkStatus status then
      match document with
      | none => .ok (.failed "The shop answered the order call with something that is not JSON." false)
      | some .null => .error "Cannot read properties of null (reading 'id')"
      | some made =>
        match made.idNumber with
        | some n =>
          let id := forms.text n
          .ok (.made
            { id := id
              number :=
                match made.field "number" with
                | some (.string number) => if number ≠ "" then number else id
                | _ => id })
        | none =>
          .ok (.failed ("The shop accepted the order and its answer names no order, so there is " ++
            "nothing to tell the buyer. Nothing here can say whether an order was created.") false)
    else
      .ok (.failed s!"The shop answered {status}: {whatTheShopSaid document status}"
        (worthAskingAgain status))

/-- The shop said no: it answered with a status that sends the call elsewhere or turns it down. -/
def ShopAnswer.turnsDown : ShopAnswer → Bool
  | .answered status _ => 300 ≤ status && status ≤ 499
  | _ => false

/-- The shop said yes and named no order: it answered with something that is not JSON, or with a document
that carries no identifier. -/
def ShopAnswer.namesNoOrder : ShopAnswer → Bool
  | .answered status none => isOkStatus status
  | .answered _ (some .null) => false
  | .answered status (some made) => isOkStatus status && made.idNumber.isNone
  | _ => false

theorem readTheAnswer_final {forms : NumberForms} {status : Nat} {document : Option JsonValue} {why : String}
    (hlow : 200 ≤ status) (h : readTheAnswer forms (.answered status document) = .ok (.failed why false)) :
    (ShopAnswer.answered status document).turnsDown = true ∨
      (ShopAnswer.answered status document).namesNoOrder = true := by
  unfold readTheAnswer at h
  dsimp only at h
  split at h
  · next hok =>
    right
    split at h
    · exact hok
    · cases h
    · next made hnull =>
      split at h
      · cases h
      · next hid =>
        cases made with
        | null => exact absurd rfl hnull
        | _ => simp [ShopAnswer.namesNoOrder, hok, hid]
  · next hok =>
    injection h with h
    injection h with _ hagain
    simp only [worthAskingAgain, Bool.or_eq_false_iff, decide_eq_false_iff_not] at hagain
    simp only [isOkStatus, Bool.and_eq_true, decide_eq_true_eq, not_and] at hok
    have := hok hlow
    simp only [ShopAnswer.turnsDown, Bool.and_eq_true, decide_eq_true_eq]
    omega

end Coinslot
