import Coinslot.Gateway.Catalog
import Coinslot.Lib.Tables

/-!
# The port of the store

What the gateway asks of its store (`apps/gateway/src/ports/store.ts`): the calls, what each of them
answers, and when two answers are the same. Two adapters answer them, one in memory and one on Postgres.

A card is a document nothing here looks into, but for the merchant's own identifier of the product. What a
call finds around it, the clocks, the identifier it would be given and what the merchants' streams refuse,
is its `Moment`. Calls come one at a time.
-/

namespace Coinslot.Stores

/-! ## What is stored -/

/-- A merchant. -/
structure StoredMerchant where
  id : String
  name : String
  /-- The name the merchant is listed under, where there is one. -/
  serviceName : Option String
  /-- Where the merchant is paid. -/
  payoutWallet : Option String
  selling : MerchantSelling
  createdAt : Int
  deriving DecidableEq, Repr

/-- A card as its merchant publishes it: his identifier for the product, and the rest of the document. -/
structure CardDocument (Doc : Type) where
  merchantItemId : String
  details : Doc

/-- A card in the catalog. -/
structure StoredCard (Doc : Type) where
  id : String
  merchantId : String
  card : CardDocument Doc
  asOf : Int
  paused : Bool

/-- One card in the public catalog, with what decides whether it is offered. -/
structure CatalogEntry (Doc : Type) where
  card : StoredCard Doc
  merchant : MerchantSelling
  payoutWallet : Option String
  serviceName : Option String

/-- A key to be written down. -/
structure NewKey where
  id : String
  merchantId : String
  label : String
  digest : String
  purpose : KeyPurpose
  deriving DecidableEq, Repr

/-- An envelope as a merchant's stream was given it. -/
structure Posted (Doc : Type) where
  merchantId : String
  envelope : WorkerEnvelope Doc
  afterMs : Option Rat

/-- What a call finds around it: the clock of the process and the database's own, the identifier it is
given if it asks for one, the order the database comes upon its rows in, and what the merchants' streams
refuse. -/
structure Moment (Doc : Type) where
  now : Int
  databaseNow : Int
  fresh : String
  planner : Rows.Planner
  refuses : Posted Doc → Option String

/-! ## The calls -/

/-- A call on the store. -/
inductive StoreCall (Doc α : Type) where
  | addMerchant (id name : String) («at» : Int)
  | registerMerchant (id name keyId label digest : String) («at» : Int)
  | merchantById (id : String)
  | merchants
  | setServiceName (id : String) (serviceName : Option String) («at» : Int)
  | setPayoutWallet (id payoutWallet : String) («at» : Int)
  | addKey (key : NewKey) («at» : Int)
  | noteKeyUse (id : String) («at» : Int)
  | workingKey (digest : String)
  | keyByDigest (digest : String)
  | keysOf (merchantId : String)
  | codeKeysOf (merchantId : String)
  | forgetCabinetKey (keyId : String)
  | disableKey (id : String) («at» : Int)
  | disableKeyOf (merchantId id : String) («at» : Int)
  | publishCard (merchantId : String) (card : CardDocument Doc) («at» : Int)
  | cardById (id : String)
  | cards (merchantId : String)
  | catalogEntries
  | setCardPaused (merchantId id : String) (paused : Bool)
  | selling (merchantId : String)
  | setSelling (merchantId : String) (selling : MerchantSelling)
  | addOrder (record : StoredOrder Doc)
  | orderById (id : String)
  | merchantOrder (merchantId id : String)
  | orders (merchantId : String) («open» : Bool)
  | openOrders
  | runAlone (name : String) (work : Except String α)
  | deliveredWithoutReceipt
  | withOrder (id : String) (change : StoredOrder Doc → Except String (OrderChange Doc α))
      (scope : Option String)
  | claimPayment (fingerprint orderId : String)
  | releaseClaim (fingerprint orderId : String)
  | forgetClaimsBefore (instant : Int)
  | putReceipt (merchantId : String) (receipt : Receipt)
  | receiptForOrder (orderId : String)
  | receipts (merchantId : String)

/-- What a call answers. -/
inductive StoreAnswer (Doc α : Type) where
  | nothing
  | merchant (found : Option StoredMerchant)
  | registered (made : Option (StoredMerchant × StoredKey))
  | merchants (all : List StoredMerchant)
  | keyAdded (key : StoredKey)
  | key (found : Option StoredKey)
  | keys (all : List StoredKey)
  | forgotten (gone : Bool)
  | disabled (answer : DisableAnswer)
  | published (card : StoredCard Doc)
  | card (found : Option (StoredCard Doc))
  | cards (all : List (StoredCard Doc))
  | entries (all : List (CatalogEntry Doc))
  | selling (word : MerchantSelling)
  | order (found : Option (StoredOrder Doc))
  | orders (all : List (StoredOrder Doc))
  /-- What came of work that is run alone: nothing, where somebody else runs it. -/
  | ran (result : Option α)
  /-- What came of a decision about an order: nothing, where the order is not there. -/
  | lookup (result : Option α)
  | claim (answer : PaymentClaim)
  | forgot (count : Nat)
  | receipt (found : Option Receipt)
  | receipts (all : List Receipt)

/-- Two answers are the same. A list is the same in any order, but for a merchant's keys, whose order the
port promises. -/
def StoreAnswer.Same {Doc α : Type} : StoreAnswer Doc α → StoreAnswer Doc α → Prop
  | .merchants all, .merchants other => all.Perm other
  | .cards all, .cards other => all.Perm other
  | .entries all, .entries other => all.Perm other
  | .orders all, .orders other => all.Perm other
  | .receipts all, .receipts other => all.Perm other
  | answer, other => answer = other

/-- Two calls came to the same: both were refused, in whatever words, or both answered the same. -/
def CameToTheSame {Doc α : Type} : Except String (StoreAnswer Doc α) → Except String (StoreAnswer Doc α) → Prop
  | .ok answer, .ok other => answer.Same other
  | .error _, .error _ => True
  | _, _ => False

/-- A store after an operation, with what the call answers for the operation's result. -/
def answering {σ β γ : Type} (after : σ × β) (answer : β → γ) : σ × γ := (after.1, answer after.2)

@[simp] theorem StoreAnswer.same_refl {Doc α : Type} (answer : StoreAnswer Doc α) : answer.Same answer := by
  cases answer <;> simp [StoreAnswer.Same]

end Coinslot.Stores
