import Coinslot.Orders.Machine
import Coinslot.Lib.Dict

/-!
# What the gateway remembers

The records of the store (`apps/gateway/src/ports/store.ts`) and its operations, as the in-memory
adapter carries them out (`apps/gateway/src/adapters/memory/store.ts`). `withOrder` holds one order
still while a decision is made about it: the decision reads the order that is stored, and its save
and the writes that go with it land together, or not at all.

What a buyer sends with a purchase and what a merchant hands over are documents nothing here looks
into: they are values of a type `Doc`. Documents on the wire carry instants as timestamps.
-/

namespace Coinslot

/-- An instant as a document on the wire writes it. -/
structure Timestamp where
  instant : Int
  deriving DecidableEq, Repr

/-- The instant, written the way every document on the wire writes one. -/
def asTimestamp (instant : Int) : Timestamp := ⟨instant⟩

/-! ## Documents -/

/-- What an order sold for, with the instant it was named at and the instant it was true at. -/
structure SalePrice where
  amount : String
  currency : String
  «at» : Timestamp
  asOf : Timestamp
  deriving DecidableEq, Repr

/-- The order as the merchant's worker reads it (`OrderDocument`). -/
structure OrderDocument (Doc : Type) where
  id : String
  merchantItemId : String
  params : Doc
  price : SalePrice
  priceId : Option String
  test : Bool

/-- Why a refund is owed, in the three words of the merchant's event. -/
inductive RefundReason where
  | refused
  | deadlinePassed
  | merchantLeft
  deriving DecidableEq, Repr

/-- What the merchant is told about one of his orders. -/
inductive OrderEventDocument where
  | refundDue (orderId : String) («at» : Timestamp) (amount currency : String)
      (reason : RefundReason)
  | unpaidAfterConfirmation (orderId : String) («at» : Timestamp)
  | paymentFailedAfterDelivery (orderId : String) («at» : Timestamp)
  deriving DecidableEq, Repr

/-- A message on a merchant's stream. -/
inductive WorkerEnvelope (Doc : Type) where
  | order (id : String) (sentAt : Timestamp) (payload : OrderDocument Doc)
  | orderEvent (id : String) (sentAt : Timestamp) (payload : OrderEventDocument)

/-- The receipt's word for where the order stands. -/
inductive ReceiptOutcome where
  | inProgress
  | delivered
  | refundDue
  | refunded
  deriving DecidableEq, Repr

/-- The receipt of a sale. -/
structure Receipt where
  id : String
  orderId : String
  itemId : String
  price : SalePrice
  priceId : Option String
  paidAt : Timestamp
  outcome : ReceiptOutcome
  test : Bool
  deriving DecidableEq, Repr

/-! ## Records -/

/-- Which question the payment layer was answering. -/
inductive PaymentMatter where
  | verify
  | settle
  deriving DecidableEq, Repr

/-- One thing the payment layer said, and when. -/
structure PaymentWord where
  «at» : Int
  about : PaymentMatter
  said : String
  deriving DecidableEq, Repr

/-- One order: the machine's own order, and everything about the purchase the machine has no opinion
about. -/
structure StoredOrder (Doc : Type) where
  order : Order
  merchantId : String
  itemId : String
  merchantItemId : String
  params : Doc
  priceId : Option String
  delivery : Option Doc
  /-- What the agent presented to pay with, verbatim. -/
  payment : Option String
  /-- The address that payment was checked against. -/
  payTo : Option String
  /-- The payer the order belongs to. -/
  paidBy : Option String
  /-- The transaction the charge went through as. -/
  settlement : Option String
  paymentWords : List PaymentWord
  paymentWordsDropped : Int
  openDeliveryId : Option String

/-- One write that has to land with the order or not at all. -/
inductive WithTheOrder (Doc : Type) where
  | envelope (merchantId : String) (envelope : WorkerEnvelope Doc) (afterMs : Option Rat)
  | receipt (merchantId : String) (receipt : Receipt)

/-- What a decision about an order came to: the order to write back, if any, the writes that go with
it, and the answer to the caller. -/
structure OrderChange (Doc α : Type) where
  save : Option (StoredOrder Doc)
  alongside : List (WithTheOrder Doc)
  result : α

/-- A reminder the queue is asked for. -/
inductive Reminder where
  | deadline (orderId : String) (deadline : DeadlineKind) («at» : Int)
  | deliveryUnanswered (orderId handOver : String)
  deriving DecidableEq, Repr

/-- A decision taken under the hold: the reminders it asked the queue for on the way, which stand
whatever becomes of it, and the change it came to or the words it was thrown with. -/
structure Decision (Doc α : Type) where
  armed : List (Reminder × Int)
  outcome : Except String (OrderChange Doc α)

/-- A claim on a payment: the order that holds it, and since when. -/
structure HeldClaim where
  orderId : String
  «at» : Int
  deriving DecidableEq, Repr

/-- What came of claiming a payment. -/
inductive PaymentClaim where
  | claimed
  | heldBy (orderId : String)
  deriving DecidableEq, Repr

/-- A receipt with the merchant it belongs to. -/
structure HeldReceipt where
  merchantId : String
  receipt : Receipt
  deriving DecidableEq, Repr

/-- What the gateway remembers: orders, the claims on payments, receipts, and the address each
merchant is paid at. -/
structure Store (Doc : Type) where
  orders : Dict String (StoredOrder Doc)
  paymentClaims : Dict String HeldClaim
  receipts : Dict String HeldReceipt
  payoutWallets : Dict String String

namespace Store

variable {Doc α : Type}

def empty : Store Doc :=
  { orders := .empty, paymentClaims := .empty, receipts := .empty, payoutWallets := .empty }

/-- The order under an identifier (`orderById`). -/
def orderById (store : Store Doc) (id : String) : Option (StoredOrder Doc) := store.orders.get id

/-- Writes an order down that does not exist yet. -/
def addOrder (store : Store Doc) (record : StoredOrder Doc) : Except String (Store Doc) :=
  if store.orders.has record.order.id then .error s!"the order {record.order.id} is already written down"
  else .ok { store with orders := store.orders.set record.order.id record }

/-- Writes a receipt; whose it is was settled when it was first written. -/
def putReceipt (store : Store Doc) (merchantId : String) (receipt : Receipt) : Store Doc :=
  let held := store.receipts.get receipt.orderId
  { store with
    receipts := store.receipts.set receipt.orderId
      ⟨(held.map (·.merchantId)).getD merchantId, receipt⟩ }

/-- Takes the receipts among the writes that go with an order. -/
def putReceipts (store : Store Doc) : List (WithTheOrder Doc) → Store Doc
  | [] => store
  | .receipt merchantId receipt :: rest => putReceipts (store.putReceipt merchantId receipt) rest
  | .envelope .. :: rest => putReceipts store rest

/-- Writes the order back, under the merchant it was read with. -/
def saveOrder (store : Store Doc) (id : String) (found : StoredOrder Doc)
    (save : Option (StoredOrder Doc)) : Store Doc :=
  match save with
  | none => store
  | some record => { store with orders := store.orders.set id { record with merchantId := found.merchantId } }

/-- What a hold on an order came to: it was not there, its decision was thrown, or it was decided. -/
inductive Held (Doc α : Type) where
  | notFound
  | threw (message : String)
  | decided (change : OrderChange Doc α)

/-- Holds one order still, hands it to a decision, and writes back what the decision asks for. Given
a scope, an order of another merchant is not found at all. The reminders armed on the way are handed
back with the result. -/
def withOrder (store : Store Doc) (id : String) (scope : Option String) (decide : StoredOrder Doc → Decision Doc α) :
    Store Doc × List (Reminder × Int) × Held Doc α :=
  match store.orderById id with
  | none => (store, [], .notFound)
  | some found =>
    if scope.any (· ≠ found.merchantId) then (store, [], .notFound)
    else
      let decision := decide found
      match decision.outcome with
      | .error message => (store, decision.armed, .threw message)
      | .ok change =>
        ((store.putReceipts change.alongside).saveOrder id found change.save, decision.armed,
          .decided change)

def openOrders (store : Store Doc) : List (StoredOrder Doc) :=
  store.orders.values.filter fun record => isOpen record.order.state

/-- The delivered orders with no receipt written against them. -/
def deliveredWithoutReceipt (store : Store Doc) : List (StoredOrder Doc) :=
  store.orders.values.filter fun record => record.order.state = .delivered && !store.receipts.has record.order.id

/-- Binds one payment to one order. The order that holds it already may claim it again. -/
def claimPayment (store : Store Doc) (fingerprint orderId : String) (now : Int) : Store Doc × PaymentClaim :=
  match store.paymentClaims.get fingerprint with
  | none => ({ store with paymentClaims := store.paymentClaims.set fingerprint ⟨orderId, now⟩ }, .claimed)
  | some held => (store, if held.orderId = orderId then .claimed else .heldBy held.orderId)

/-- Lets go of a claim. Only the order that holds it can. -/
def releaseClaim (store : Store Doc) (fingerprint orderId : String) : Store Doc :=
  if (store.paymentClaims.get fingerprint).map (·.orderId) = some orderId then
    { store with paymentClaims := store.paymentClaims.delete fingerprint }
  else store

/-- Forgets the claims older than an instant. -/
def forgetClaimsBefore (store : Store Doc) (instant : Int) : Store Doc :=
  { store with
    paymentClaims :=
      ⟨store.paymentClaims.entries.filter fun e => ¬ e.2.at < instant,
        store.paymentClaims.distinct.sublist (List.filter_sublist.map _)⟩ }

/-- Moves the address a merchant is paid at. -/
def movePayoutWallet (store : Store Doc) (merchantId : String) (wallet : Option String) : Store Doc :=
  { store with
    payoutWallets :=
      match wallet with
      | none => store.payoutWallets.delete merchantId
      | some address => store.payoutWallets.set merchantId address }

end Store

end Coinslot
