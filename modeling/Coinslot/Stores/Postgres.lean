import Coinslot.Stores.Port

/-!
# The store on Postgres

The store as tables (`apps/gateway/src/adapters/postgres/store.ts`, with the rules of
`apps/gateway/src/adapters/postgres/schema.ts` and its migrations). A statement that is refused, and a
transaction in which something is, leaves the tables as they were.

What the code relies on the database for is a `Database`: the values its columns take, the order its
collation puts texts in, and the words the driver reports a refusal in. A column of words that only ever takes
one of a few is a column of those. Columns that nothing reads are left out: when a merchant and an order were
last written, and the products an order names.
-/

namespace Coinslot.Stores

/-! ## What the database does -/

/-- A value that is bound to a statement. -/
inductive Param (Doc : Type) where
  | text (value : String)
  | timestamp (value : Int)
  | card (value : CardDocument Doc)
  | order (value : StoredOrder Doc)
  | receipt (value : Receipt)

/-- What is documented of the database: no column takes a text with the character zero, and a collation
puts texts in a linear order. -/
structure Database (Doc : Type) where
  takes : Param Doc → Bool
  takes_text : ∀ value, takes (.text value) = true → '\x00' ∉ value.toList
  collates : String → String → Bool
  collates_total : ∀ s t, collates s t = true ∨ collates t s = true
  collates_trans : ∀ s t u, collates s t = true → collates t u = true → collates s u = true
  collates_antisymm : ∀ s t, collates s t = true → collates t s = true → s = t
  hashtext : String → Int
  /-- The words of the driver. -/
  words : Rows.Refusal → String

variable {Doc α β : Type}

/-- Sends a statement with its values. One that no column takes is refused. -/
def Database.sends (database : Database Doc) (params : List (Param Doc)) (statement : Except String β) :
    Except String β :=
  if params.all database.takes then statement else .error (database.words .parameter)

/-- What a statement comes to, a refusal in the driver's words. -/
def Database.reports (database : Database Doc) (statement : Except Rows.Refusal β) : Except String β :=
  statement.mapError database.words

/-- What to say when a rule refused a write that there is no sentence for. -/
def unknownRuleRefused (what rule : String) : String :=
  s!"{what} was refused by {rule}, and this code cannot say what was already there"

/-! ## The tables -/

namespace PostgresStore

/-- A row of `merchants`. -/
structure MerchantRow where
  id : String
  name : String
  serviceName : Option String
  payoutWallet : Option String
  selling : MerchantSelling
  createdAt : Int

/-- A row of `merchant_keys`. -/
structure KeyRow where
  id : String
  merchantId : String
  label : String
  purpose : KeyPurpose
  digest : String
  createdAt : Int
  disabledAt : Option Int
  lastUsedAt : Option Int

/-- A row of `cards`. -/
structure CardRow (Doc : Type) where
  id : String
  merchantId : String
  merchantItemId : String
  card : CardDocument Doc
  asOf : Int
  paused : Bool

/-- A row of `orders`: the document, and the columns that are written from it on every save. -/
structure OrderRow (Doc : Type) where
  id : String
  merchantId : String
  state : OrderState
  «open» : Bool
  record : StoredOrder Doc
  createdAt : Int
  state_eq : state = record.order.state
  open_eq : «open» = isOpen record.order.state

/-- A row of `receipts`. -/
structure ReceiptRow where
  orderId : String
  merchantId : String
  receipt : Receipt
  updatedAt : Int

/-- A row of `payment_claims`. -/
structure ClaimRow where
  fingerprint : String
  orderId : String
  claimedAt : Int

end PostgresStore

open PostgresStore

/-- The tables, the advisory locks that are held, and the envelopes the merchants' streams were given. -/
structure PostgresStore (Doc : Type) where
  merchants : List PostgresStore.MerchantRow
  merchantKeys : List KeyRow
  cards : List (CardRow Doc)
  orders : List (OrderRow Doc)
  receipts : List ReceiptRow
  paymentClaims : List ClaimRow
  locks : List Int
  streams : List (Posted Doc)

namespace PostgresStore

/-- A merchant's row as the rest of the gateway reads it. -/
def storedMerchantOf (row : MerchantRow) : StoredMerchant :=
  { id := row.id
    name := row.name
    serviceName := row.serviceName
    payoutWallet := row.payoutWallet
    selling := row.selling
    createdAt := row.createdAt }

/-- A key's row as the rest of the gateway reads it. The digest stays behind. -/
def storedKeyOf (row : KeyRow) : StoredKey :=
  { id := row.id
    merchantId := row.merchantId
    label := row.label
    purpose := row.purpose
    createdAt := row.createdAt
    disabledAt := row.disabledAt
    lastUsedAt := row.lastUsedAt }

/-- A card's row as the rest of the gateway reads it. -/
def storedCardOf (row : CardRow Doc) : StoredCard Doc :=
  { id := row.id
    merchantId := row.merchantId
    card := row.card
    asOf := row.asOf
    paused := row.paused }

/-- The columns of an order, written from the document. -/
def rowFor (record : StoredOrder Doc) : OrderRow Doc :=
  { id := record.order.id
    merchantId := record.merchantId
    state := record.order.state
    «open» := isOpen record.order.state
    record := record
    createdAt := record.order.timestamps.createdAt
    state_eq := rfl
    open_eq := rfl }

/-- A merchant as he is inserted: selling, listed under nothing and paid nowhere. -/
def newMerchant (id name : String) («at» : Int) : MerchantRow :=
  { id := id
    name := name
    serviceName := none
    payoutWallet := none
    selling := .open
    createdAt := «at» }

/-! ## The rules -/

def ORDER_IDENTIFIER_TAKEN : String := "orders_pkey"

def KEY_IDENTIFIER_TAKEN : String := "merchant_keys_pkey"

def KEY_DIGEST_TAKEN : String := "merchant_keys_digest_unique"

def merchantsPkey : Rows.UniqueRule MerchantRow := ⟨"merchants_pkey", fun row held => held.id = row.id⟩

def merchantKeysPkey : Rows.UniqueRule KeyRow := ⟨"merchant_keys_pkey", fun row held => held.id = row.id⟩

def merchantKeysDigest : Rows.UniqueRule KeyRow :=
  ⟨"merchant_keys_digest_unique", fun row held => held.digest = row.digest⟩

def cardsPkey : Rows.UniqueRule (CardRow Doc) := ⟨"cards_pkey", fun row held => held.id = row.id⟩

def cardsMerchantItem : Rows.UniqueRule (CardRow Doc) :=
  ⟨"cards_merchant_item_unique", fun row held =>
    held.merchantId = row.merchantId && held.merchantItemId = row.merchantItemId⟩

def ordersPkey : Rows.UniqueRule (OrderRow Doc) := ⟨"orders_pkey", fun row held => held.id = row.id⟩

def receiptsPkey : Rows.UniqueRule ReceiptRow := ⟨"receipts_pkey", fun row held => held.orderId = row.orderId⟩

def paymentClaimsPkey : Rows.UniqueRule ClaimRow :=
  ⟨"payment_claims_pkey", fun row held => held.fingerprint = row.fingerprint⟩

/-- Every key, card, order and receipt names a merchant that is there. -/
def namesAMerchant (store : PostgresStore Doc) {ρ : Type} (rule : String) (merchantOf : ρ → String) :
    Rows.ReferenceRule ρ :=
  ⟨rule, fun row => store.merchants.any fun merchant => merchant.id = merchantOf row⟩

/-- Tables nothing was written to. -/
def empty : PostgresStore Doc :=
  { merchants := []
    merchantKeys := []
    cards := []
    orders := []
    receipts := []
    paymentClaims := []
    locks := []
    streams := [] }

/-! ## Merchants and their keys -/

section
variable (database : Database Doc) (planner : Rows.Planner) (store : PostgresStore Doc)

/-- Writes down a merchant that is not there yet. -/
def addMerchant (id name : String) («at» : Int) : Except String (PostgresStore Doc × Option StoredMerchant) := do
  let (rows, written) ← database.reports
    (Rows.insertUnless merchantsPkey [merchantsPkey] [] store.merchants (newMerchant id name «at»))
  return ({ store with merchants := rows }, written.map storedMerchantOf)

/-- Writes one key row, and turns the two rules that can refuse it into sentences. -/
def writeKey (key : NewKey) («at» : Int) : Except String (PostgresStore Doc × KeyRow) :=
  let row : KeyRow :=
    { id := key.id
      merchantId := key.merchantId
      label := key.label
      purpose := key.purpose
      digest := key.digest
      createdAt := «at»
      disabledAt := none
      lastUsedAt := none }
  let rules := [merchantKeysPkey, merchantKeysDigest]
  let references := [store.namesAMerchant "merchant_keys_merchant_id_merchants_id_fk" (·.merchantId)]
  match Rows.insert rules references store.merchantKeys row with
  | .ok rows => .ok ({ store with merchantKeys := rows }, row)
  | .error (.unique rule) =>
    if rule = KEY_IDENTIFIER_TAKEN then .error s!"the key {key.id} is already written down"
    else if rule = KEY_DIGEST_TAKEN then .error "a key with that digest is already written down"
    else .error (unknownRuleRefused s!"writing the key {key.id}" rule)
  | .error refused => .error (database.words refused)

/-- The values a key's row is written with. -/
def keyParams (key : NewKey) («at» : Int) : List (Param Doc) :=
  [.text key.id, .text key.merchantId, .text key.label, .text key.digest, .timestamp «at»]

/-- Writes down a merchant and the key his cabinet calls with, in one transaction. -/
def registerMerchant (id name keyId label digest : String) («at» : Int) :
    Except String (PostgresStore Doc × Option (StoredMerchant × StoredKey)) := do
  let (rows, written) ← database.reports
    (Rows.insertUnless merchantsPkey [merchantsPkey] [] store.merchants (newMerchant id name «at»))
  match written with
  | none => return (store, none)
  | some merchantRow =>
    let key : NewKey := ⟨keyId, id, label, digest, .cabinet⟩
    let (after, keyRow) ← database.sends (keyParams key «at»)
      (writeKey database { store with merchants := rows } key «at»)
    return (after, some (storedMerchantOf merchantRow, storedKeyOf keyRow))

def merchantById (id : String) : Option StoredMerchant :=
  (Rows.select planner store.merchants fun row => row.id = id).head?.map storedMerchantOf

/-- Every merchant, the oldest first. -/
def allMerchants : List StoredMerchant :=
  ((Rows.select planner store.merchants fun _ => true).mergeSort fun row other =>
    row.createdAt ≤ other.createdAt).map storedMerchantOf

/-- Sets a column of a merchant's row, and hands back the merchant as he now stands. -/
def setMerchant (id : String) (set : MerchantRow → MerchantRow) : PostgresStore Doc × Option StoredMerchant :=
  ({ store with merchants := Rows.update store.merchants (fun row => row.id = id) set },
    (Rows.updated store.merchants (fun row => row.id = id) set).head?.map storedMerchantOf)

/-- Sets or clears the name a merchant is listed under. -/
def setServiceName (id : String) (serviceName : Option String) : PostgresStore Doc × Option StoredMerchant :=
  store.setMerchant id fun row => { row with serviceName := serviceName }

def setPayoutWallet (id payoutWallet : String) : PostgresStore Doc × Option StoredMerchant :=
  store.setMerchant id fun row => { row with payoutWallet := some payoutWallet }

/-- Writes down one key of one merchant. -/
def addKey (key : NewKey) («at» : Int) : Except String (PostgresStore Doc × StoredKey) := do
  let (after, row) ← writeKey database store key «at»
  return (after, storedKeyOf row)

/-- Notes a call that came in on a key. The mark goes forwards or it stays. -/
def noteKeyUse (id : String) («at» : Int) : PostgresStore Doc :=
  { store with
    merchantKeys := Rows.update store.merchantKeys
      (fun row => row.id = id && row.lastUsedAt.all fun last => last < «at»)
      fun row => { row with lastUsedAt := some «at» } }

/-- The key a digest finds, where it works. -/
def workingKey (digest : String) : Option StoredKey :=
  (Rows.select planner store.merchantKeys fun row =>
    row.digest = digest && row.disabledAt.isNone).head?.map storedKeyOf

def keyByDigest (digest : String) : Option StoredKey :=
  (Rows.select planner store.merchantKeys fun row => row.digest = digest).head?.map storedKeyOf

/-- Which of two rows comes first in a list of keys, or is the same. -/
def keyOrder (row other : KeyRow) : Bool :=
  row.createdAt < other.createdAt ||
    (row.createdAt = other.createdAt && database.collates row.id other.id)

/-- Every key of one merchant, the oldest first. -/
def keysOf (merchantId : String) : List StoredKey :=
  ((Rows.select planner store.merchantKeys fun row => row.merchantId = merchantId).mergeSort
    (keyOrder database)).map storedKeyOf

/-- The keys one merchant made for his own code. -/
def codeKeysOf (merchantId : String) : List StoredKey :=
  ((Rows.select planner store.merchantKeys fun row =>
    row.merchantId = merchantId && row.purpose = .merchantCode).mergeSort
    (keyOrder database)).map storedKeyOf

/-- Removes a key that was made for a cabinet. -/
def forgetCabinetKey (keyId : String) : PostgresStore Doc × Bool :=
  let going : KeyRow → Bool := fun row => row.id = keyId && row.purpose = .cabinet
  ({ store with merchantKeys := Rows.delete store.merchantKeys going },
    decide (0 < (store.merchantKeys.filter going).length))

/-- What a revocation writes into `disabled_at`: this instant, unless something is already there. -/
def revokedAt («at» : Int) (row : KeyRow) : KeyRow := { row with disabledAt := row.disabledAt.or (some «at») }

/-- Stops a key working. -/
def disableKey (id : String) («at» : Int) : PostgresStore Doc × Option StoredKey :=
  ({ store with
      merchantKeys := Rows.update store.merchantKeys (fun row => row.id = id) (revokedAt «at») },
    (Rows.updated store.merchantKeys (fun row => row.id = id) (revokedAt «at»)).head?.map storedKeyOf)

/-- Stops a key working that its merchant made. Nothing written has two reasons, and which of them it was
is asked afterwards. -/
def disableKeyOf (merchantId id : String) («at» : Int) : PostgresStore Doc × DisableAnswer :=
  let theirs : KeyRow → Bool := fun row => row.id = id && row.merchantId = merchantId
  let made : KeyRow → Bool := fun row => theirs row && row.purpose = .merchantCode
  let after := { store with merchantKeys := Rows.update store.merchantKeys made (revokedAt «at») }
  match (Rows.updated store.merchantKeys made (revokedAt «at»)).head? with
  | some row => (after, .disabled (storedKeyOf row))
  | none =>
    match (Rows.select planner after.merchantKeys theirs).head? with
    | none => (after, .noSuchKey)
    | some _ => (after, .madeForACabinet)

/-! ## The catalog -/

/-- Publishes a card. One that is there under the same identifier of the same merchant is changed. -/
def publishCard (merchantId : String) (card : CardDocument Doc) («at» : Int) (fresh : String) :
    Except String (PostgresStore Doc × StoredCard Doc) := do
  let row : CardRow Doc :=
    { id := fresh
      merchantId := merchantId
      merchantItemId := card.merchantItemId
      card := card
      asOf := «at»
      paused := false }
  let (rows, written) ← database.reports
    (Rows.insertOver cardsMerchantItem [cardsPkey, cardsMerchantItem]
      [store.namesAMerchant "cards_merchant_id_merchants_id_fk" (·.merchantId)] store.cards row
      fun held => { held with card := card, asOf := «at» })
  match written with
  | none => throw s!"publishing {card.merchantItemId} wrote no row"
  | some row => return ({ store with cards := rows }, storedCardOf row)

def cardById (id : String) : Option (StoredCard Doc) :=
  (Rows.select planner store.cards fun row => row.id = id).head?.map storedCardOf

/-- The cards one merchant published. -/
def cardsOf (merchantId : String) : List (StoredCard Doc) :=
  ((Rows.select planner store.cards fun row => row.merchantId = merchantId).mergeSort fun row other =>
    row.asOf ≤ other.asOf).map storedCardOf

/-- Every card, beside its own merchant. -/
def catalogEntries : List (CatalogEntry Doc) :=
  ((planner.scan (Rows.join store.cards store.merchants fun row merchant =>
    row.merchantId = merchant.id)).mergeSort fun row other => row.1.asOf ≤ other.1.asOf).map fun row =>
      { card := storedCardOf row.1
        merchant := row.2.selling
        payoutWallet := row.2.payoutWallet
        serviceName := row.2.serviceName }

/-- Takes one card off sale, or puts it back. Another merchant's card is not found. -/
def setCardPaused (merchantId id : String) (paused : Bool) : PostgresStore Doc × Option (StoredCard Doc) :=
  let found : CardRow Doc → Bool := fun row => row.id = id && row.merchantId = merchantId
  let set : CardRow Doc → CardRow Doc := fun row => { row with paused := paused }
  ({ store with cards := Rows.update store.cards found set },
    (Rows.updated store.cards found set).head?.map storedCardOf)

/-- The word one merchant is selling under. -/
def selling (merchantId : String) : Except String MerchantSelling :=
  match (Rows.select planner store.merchants fun row => row.id = merchantId).head? with
  | none => .error s!"there is no merchant {merchantId}, so there is no word for whether they are selling"
  | some row => .ok row.selling

/-- Stops a merchant's selling, or starts it again. -/
def setSelling (merchantId : String) (selling : MerchantSelling) : Except String (PostgresStore Doc) :=
  let set : MerchantRow → MerchantRow := fun row => { row with selling := selling }
  if (Rows.updated store.merchants (fun row => row.id = merchantId) set).length = 0 then
    .error s!"there is no merchant {merchantId} to stop or start selling"
  else .ok { store with merchants := Rows.update store.merchants (fun row => row.id = merchantId) set }

/-! ## Orders -/

/-- Writes down an order that is not there yet. -/
def addOrder (record : StoredOrder Doc) : Except String (PostgresStore Doc) :=
  let references := [store.namesAMerchant "orders_merchant_id_merchants_id_fk" (·.merchantId)]
  match Rows.insert [ordersPkey] references store.orders (rowFor record) with
  | .ok rows => .ok { store with orders := rows }
  | .error (.unique rule) =>
    if rule ≠ ORDER_IDENTIFIER_TAKEN then .error (unknownRuleRefused s!"writing the order {record.order.id}" rule)
    else .error s!"the order {record.order.id} is already written down"
  | .error refused => .error (database.words refused)

def orderById (id : String) : Option (StoredOrder Doc) :=
  (Rows.select planner store.orders fun row => row.id = id).head?.map (·.record)

/-- One of a merchant's orders. Another merchant's is not found. -/
def merchantOrder (merchantId id : String) : Option (StoredOrder Doc) :=
  (Rows.select planner store.orders fun row => row.id = id && row.merchantId = merchantId).head?.map (·.record)

/-- The orders a condition holds of, the oldest first. -/
def ordersWhere (p : OrderRow Doc → Bool) : List (StoredOrder Doc) :=
  ((Rows.select planner store.orders p).mergeSort fun row other => row.createdAt ≤ other.createdAt).map (·.record)

/-- A merchant's orders, or the ones of them that are still open. -/
def ordersOf (merchantId : String) («open» : Bool) : List (StoredOrder Doc) :=
  store.ordersWhere planner fun row => row.merchantId = merchantId && (!«open» || row.open)

def openOrders : List (StoredOrder Doc) := store.ordersWhere planner fun row => row.open

/-- Runs work alone under a name, on an advisory lock, unless somebody holds it already. The lock is let go
however it ends. -/
def runAlone (name : String) (work : Except String α) : Except String (PostgresStore Doc × Option α) :=
  let lock := database.hashtext s!"coinslot.{name}"
  if store.locks.contains lock then .ok (store, none)
  else
    let held := { store with locks := lock :: store.locks }
    work.map fun result => ({ held with locks := held.locks.erase lock }, some result)

/-- Every delivered order with no receipt written against it. -/
def deliveredWithoutReceipt : List (StoredOrder Doc) :=
  store.ordersWhere planner fun row =>
    row.state = .delivered && !store.receipts.any fun receipt => receipt.orderId = row.id

/-- The one statement that writes a receipt. -/
def putReceiptWithin (moment : Moment Doc) (merchantId : String) (receipt : Receipt) :
    Except String (PostgresStore Doc) := do
  let (rows, _) ← database.reports
    (Rows.insertOver receiptsPkey [receiptsPkey]
      [store.namesAMerchant "receipts_merchant_id_merchants_id_fk" (·.merchantId)] store.receipts
      ⟨receipt.orderId, merchantId, receipt, moment.now⟩
      fun held => { held with receipt := receipt, updatedAt := moment.databaseNow })
  return { store with receipts := rows }

/-- The values a receipt's row is written with. -/
def receiptParams (moment : Moment Doc) (merchantId : String) (receipt : Receipt) : List (Param Doc) :=
  [.text receipt.orderId, .text merchantId, .receipt receipt, .timestamp moment.now]

/-- Writes what goes with an order, in the transaction the order is written in. -/
def writeAlongside (moment : Moment Doc) (store : PostgresStore Doc) :
    List (WithTheOrder Doc) → Except String (PostgresStore Doc)
  | [] => .ok store
  | .receipt merchantId receipt :: rest =>
    match database.sends (receiptParams moment merchantId receipt)
        (putReceiptWithin database store moment merchantId receipt) with
    | .error thrown => .error thrown
    | .ok written => writeAlongside moment written rest
  | .envelope merchantId envelope afterMs :: rest =>
    match moment.refuses ⟨merchantId, envelope, afterMs⟩ with
    | some thrown => .error thrown
    | none =>
      writeAlongside moment { store with streams := store.streams ++ [⟨merchantId, envelope, afterMs⟩] }
        rest

/-- Writes the order back, under the merchant of its row. -/
def saveOrder (id merchantId : String) (save : Option (StoredOrder Doc)) : Except String (PostgresStore Doc) :=
  match save with
  | none => .ok store
  | some record =>
    let next := rowFor { record with merchantId := merchantId }
    database.sends [.text id, .order next.record]
      (.ok
        { store with
          orders := Rows.update store.orders (fun row => row.id = id) fun row =>
            { row with
              state := next.state
              «open» := next.open
              record := next.record
              state_eq := next.state_eq
              open_eq := next.open_eq } })

/-- Holds one order still, hands it to a decision, and writes back what the decision asks for, in one
transaction. Given a scope, an order of another merchant is not found. -/
def withOrder (moment : Moment Doc) (id : String)
    (change : StoredOrder Doc → Except String (OrderChange Doc α)) (scope : Option String) :
    Except String (PostgresStore Doc × Option α) :=
  match (Rows.select planner store.orders fun row =>
      row.id = id && scope.all fun merchantId => row.merchantId = merchantId).head? with
  | none => .ok (store, none)
  | some row => do
    let decided ← change row.record
    let written ← writeAlongside database moment store decided.alongside
    let saved ← saveOrder database written id row.merchantId decided.save
    return (saved, some decided.result)

/-! ## Payments and receipts -/

/-- Binds one payment to one order. A row that is there is written over with itself. -/
def claimPayment (fingerprint orderId : String) (now : Int) : Except String (PostgresStore Doc × PaymentClaim) := do
  let (rows, written) ← database.reports
    (Rows.insertOver paymentClaimsPkey [paymentClaimsPkey] [] store.paymentClaims
      ⟨fingerprint, orderId, now⟩ fun held => { held with orderId := held.orderId })
  match written with
  | none => throw s!"claiming a payment for {orderId} wrote and read no row"
  | some row =>
    return ({ store with paymentClaims := rows },
      if row.orderId = orderId then .claimed else .heldBy row.orderId)

/-- Lets go of a claim. Only the order that holds it can. -/
def releaseClaim (fingerprint orderId : String) : PostgresStore Doc :=
  { store with
    paymentClaims := Rows.delete store.paymentClaims fun row =>
      row.fingerprint = fingerprint && row.orderId = orderId }

/-- Forgets the claims older than an instant, and says how many went. -/
def forgetClaimsBefore (instant : Int) : PostgresStore Doc × Nat :=
  ({ store with paymentClaims := Rows.delete store.paymentClaims fun row => row.claimedAt < instant },
    (store.paymentClaims.filter fun row => row.claimedAt < instant).length)

def receiptForOrder (orderId : String) : Option Receipt :=
  (Rows.select planner store.receipts fun row => row.orderId = orderId).head?.map (·.receipt)

/-- One merchant's receipts. -/
def receiptsOf (merchantId : String) : List Receipt :=
  ((Rows.select planner store.receipts fun row => row.merchantId = merchantId).mergeSort fun row other =>
    row.updatedAt ≤ other.updatedAt).map (·.receipt)

end

end PostgresStore

/-! ## Calls -/

/-- The values of the first statement of a call. -/
def StoreCall.params (moment : Moment Doc) : StoreCall Doc α → List (Param Doc)
  | .addMerchant id name t => [.text id, .text name, .timestamp t]
  | .registerMerchant id name _ _ _ t => [.text id, .text name, .timestamp t]
  | .merchantById id => [.text id]
  | .merchants => []
  | .setServiceName id serviceName t => serviceName.toList.map .text ++ [.timestamp t, .text id]
  | .setPayoutWallet id payoutWallet t => [.text payoutWallet, .timestamp t, .text id]
  | .addKey key t => keyParams key t
  | .noteKeyUse id t => [.timestamp t, .text id]
  | .workingKey digest => [.text digest]
  | .keyByDigest digest => [.text digest]
  | .keysOf merchantId => [.text merchantId]
  | .codeKeysOf merchantId => [.text merchantId]
  | .forgetCabinetKey keyId => [.text keyId]
  | .disableKey id t => [.timestamp t, .text id]
  | .disableKeyOf merchantId id t => [.timestamp t, .text id, .text merchantId]
  | .publishCard merchantId card t =>
    [.text moment.fresh, .text merchantId, .text card.merchantItemId, .card card, .timestamp t]
  | .cardById id => [.text id]
  | .cards merchantId => [.text merchantId]
  | .catalogEntries => []
  | .setCardPaused merchantId id _ => [.text id, .text merchantId]
  | .selling merchantId => [.text merchantId]
  | .setSelling merchantId _ => [.text merchantId]
  | .addOrder record =>
    [.text record.order.id, .text record.merchantId, .text record.itemId, .text record.merchantItemId,
      .order record, .timestamp record.order.timestamps.createdAt]
  | .orderById id => [.text id]
  | .merchantOrder merchantId id => [.text id, .text merchantId]
  | .orders merchantId _ => [.text merchantId]
  | .openOrders => []
  | .runAlone name _ => [.text s!"coinslot.{name}"]
  | .deliveredWithoutReceipt => []
  | .withOrder id _ scope => .text id :: scope.toList.map .text
  | .claimPayment fingerprint orderId => [.text fingerprint, .text orderId, .timestamp moment.now]
  | .releaseClaim fingerprint orderId => [.text fingerprint, .text orderId]
  | .forgetClaimsBefore instant => [.timestamp instant]
  | .putReceipt merchantId receipt => receiptParams moment merchantId receipt
  | .receiptForOrder orderId => [.text orderId]
  | .receipts merchantId => [.text merchantId]

namespace PostgresStore

/-- Carries out the statements of a call. -/
def execute (database : Database Doc) (moment : Moment Doc) (store : PostgresStore Doc) :
    StoreCall Doc α → Except String (PostgresStore Doc × StoreAnswer Doc α)
  | .addMerchant id name t => do
    let (after, found) ← addMerchant database store id name t
    return (after, .merchant found)
  | .registerMerchant id name keyId label digest t => do
    let (after, made) ← registerMerchant database store id name keyId label digest t
    return (after, .registered made)
  | .merchantById id => .ok (store, .merchant (merchantById moment.planner store id))
  | .merchants => .ok (store, .merchants (allMerchants moment.planner store))
  | .setServiceName id serviceName _ => .ok (answering (store.setServiceName id serviceName) .merchant)
  | .setPayoutWallet id payoutWallet _ => .ok (answering (store.setPayoutWallet id payoutWallet) .merchant)
  | .addKey key t => do
    let (after, made) ← addKey database store key t
    return (after, .keyAdded made)
  | .noteKeyUse id t => .ok (store.noteKeyUse id t, .nothing)
  | .workingKey digest => .ok (store, .key (workingKey moment.planner store digest))
  | .keyByDigest digest => .ok (store, .key (keyByDigest moment.planner store digest))
  | .keysOf merchantId => .ok (store, .keys (keysOf database moment.planner store merchantId))
  | .codeKeysOf merchantId => .ok (store, .keys (codeKeysOf database moment.planner store merchantId))
  | .forgetCabinetKey keyId => .ok (answering (store.forgetCabinetKey keyId) .forgotten)
  | .disableKey id t => .ok (answering (store.disableKey id t) .key)
  | .disableKeyOf merchantId id t => .ok (answering (disableKeyOf moment.planner store merchantId id t) .disabled)
  | .publishCard merchantId card t => do
    let (after, stored) ← publishCard database store merchantId card t moment.fresh
    return (after, .published stored)
  | .cardById id => .ok (store, .card (cardById moment.planner store id))
  | .cards merchantId => .ok (store, .cards (cardsOf moment.planner store merchantId))
  | .catalogEntries => .ok (store, .entries (catalogEntries moment.planner store))
  | .setCardPaused merchantId id paused => .ok (answering (store.setCardPaused merchantId id paused) .card)
  | .selling merchantId => do
    let word ← selling moment.planner store merchantId
    return (store, .selling word)
  | .setSelling merchantId selling => do
    let after ← store.setSelling merchantId selling
    return (after, .nothing)
  | .addOrder record => do
    let after ← addOrder database store record
    return (after, .nothing)
  | .orderById id => .ok (store, .order (orderById moment.planner store id))
  | .merchantOrder merchantId id => .ok (store, .order (merchantOrder moment.planner store merchantId id))
  | .orders merchantId «open» => .ok (store, .orders (ordersOf moment.planner store merchantId «open»))
  | .openOrders => .ok (store, .orders (openOrders moment.planner store))
  | .runAlone name work => do
    let (after, result) ← runAlone database store name work
    return (after, .ran result)
  | .deliveredWithoutReceipt => .ok (store, .orders (deliveredWithoutReceipt moment.planner store))
  | .withOrder id change scope => do
    let (after, result) ← withOrder database moment.planner store moment id change scope
    return (after, .lookup result)
  | .claimPayment fingerprint orderId => do
    let (after, answer) ← claimPayment database store fingerprint orderId moment.now
    return (after, .claim answer)
  | .releaseClaim fingerprint orderId => .ok (store.releaseClaim fingerprint orderId, .nothing)
  | .forgetClaimsBefore instant => .ok (answering (store.forgetClaimsBefore instant) .forgot)
  | .putReceipt merchantId receipt => do
    let after ← putReceiptWithin database store moment merchantId receipt
    return (after, .nothing)
  | .receiptForOrder orderId => .ok (store, .receipt (receiptForOrder moment.planner store orderId))
  | .receipts merchantId => .ok (store, .receipts (receiptsOf moment.planner store merchantId))

/-- Answers a call. One that is refused leaves the tables as they were. -/
def perform (database : Database Doc) (moment : Moment Doc) (store : PostgresStore Doc)
    (call : StoreCall Doc α) : PostgresStore Doc × Except String (StoreAnswer Doc α) :=
  match database.sends (call.params moment) (execute database moment store call) with
  | .ok (after, answer) => (after, .ok answer)
  | .error thrown => (store, .error thrown)

end PostgresStore

end Coinslot.Stores
