import Coinslot.Stores.Port

/-!
# The store in memory

The store as a handful of maps (`apps/gateway/src/adapters/memory/store.ts`). A call that is refused leaves
what it wrote before: every function here hands back the store as it then stands, also with an error.
-/

namespace Coinslot.Stores

/-- What a merchant's row holds. -/
structure MerchantRow where
  id : String
  name : String
  createdAt : Int
  selling : MerchantSelling
  serviceName : Option String
  payoutWallet : Option String
  deriving DecidableEq, Repr

/-- The maps, the work that is being run alone, and the envelopes the merchants' streams were given. -/
structure MemoryStore (Doc : Type) where
  merchants : Dict String MerchantRow
  /-- Every key, by its identifier. -/
  keys : Dict String StoredKey
  /-- The digest of a key to the key it belongs to. -/
  keysByDigest : Dict String String
  cards : Dict String (StoredCard Doc)
  /-- A merchant's own key for a product, to the identifier of the card. -/
  cardIdByMerchantKey : Dict String String
  orders : Dict String (StoredOrder Doc)
  receipts : Dict String HeldReceipt
  paymentClaims : Dict String HeldClaim
  running : List String
  streams : List (Posted Doc)

/-- A merchant's own identifier for a product, inside the merchant it belongs to. -/
def catalogKey (merchantId merchantItemId : String) : String := merchantId ++ "\x00" ++ merchantItemId

/-- A row as the rest of the gateway reads it. -/
def storedMerchantOf (row : MerchantRow) : StoredMerchant :=
  { id := row.id
    name := row.name
    serviceName := row.serviceName
    payoutWallet := row.payoutWallet
    selling := row.selling
    createdAt := row.createdAt }

/-- A character in the units a string is compared by. -/
def codeUnitsOf (c : Char) : List Nat :=
  if c.toNat < 0x10000 then [c.toNat]
  else [0xd800 + (c.toNat - 0x10000) / 0x400, 0xdc00 + (c.toNat - 0x10000) % 0x400]

def codeUnits (s : String) : List Nat := s.toList.flatMap codeUnitsOf

/-- Which of two keys comes first in a list: the older one, and of two as old the one whose identifier
is smaller. -/
def keyComesFirst (one other : StoredKey) : Bool :=
  if one.createdAt = other.createdAt then decide (codeUnits one.id < codeUnits other.id)
  else decide (one.createdAt < other.createdAt)

/-- Which of the writes that go with an order is taken first: the ones that can refuse, before the ones
that cannot. -/
def rankOf {Doc : Type} : WithTheOrder Doc → Nat
  | .envelope .. => 0
  | .receipt .. => 1

namespace MemoryStore

variable {Doc α : Type}

/-- A store nothing was written to. -/
def empty : MemoryStore Doc :=
  { merchants := .empty
    keys := .empty
    keysByDigest := .empty
    cards := .empty
    cardIdByMerchantKey := .empty
    orders := .empty
    receipts := .empty
    paymentClaims := .empty
    running := []
    streams := [] }

/-! ## Merchants and their keys -/

section

variable (store : MemoryStore Doc)

/-- Writes down a merchant that is not there yet. -/
def addMerchant (id name : String) («at» : Int) : MemoryStore Doc × Option StoredMerchant :=
  if store.merchants.has id then (store, none)
  else
    let row : MerchantRow := ⟨id, name, «at», .open, none, none⟩
    ({ store with merchants := store.merchants.set id row }, some (storedMerchantOf row))

/-- The write of a key. -/
def writeKey (key : NewKey) («at» : Int) : MemoryStore Doc × Except String StoredKey :=
  if !store.merchants.has key.merchantId then
    (store, .error s!"there is no merchant {key.merchantId} for a key to belong to")
  else if store.keys.has key.id then (store, .error s!"the key {key.id} is already written down")
  else if store.keysByDigest.has key.digest then (store, .error "a key with that digest is already written down")
  else
    let stored : StoredKey := ⟨key.id, key.merchantId, key.label, key.purpose, «at», none, none⟩
    ({ store with
        keys := store.keys.set stored.id stored
        keysByDigest := store.keysByDigest.set key.digest stored.id }, .ok stored)

/-- Writes down a merchant and the key his cabinet calls with. A merchant whose key is refused is taken out
again. -/
def registerMerchant (id name keyId label digest : String) («at» : Int) :
    MemoryStore Doc × Except String (Option (StoredMerchant × StoredKey)) :=
  if store.merchants.has id then (store, .ok none)
  else
    let row : MerchantRow := ⟨id, name, «at», .open, none, none⟩
    let written := { store with merchants := store.merchants.set id row }
    match written.writeKey ⟨keyId, id, label, digest, .cabinet⟩ «at» with
    | (stands, .ok stored) => (stands, .ok (some (storedMerchantOf row, stored)))
    | (stands, .error thrown) => ({ stands with merchants := stands.merchants.delete id }, .error thrown)

def merchantById (id : String) : Option StoredMerchant := (store.merchants.get id).map storedMerchantOf

/-- Sets a field of a merchant's row. -/
def setMerchant (id : String) (set : MerchantRow → MerchantRow) : MemoryStore Doc × Option StoredMerchant :=
  match store.merchants.get id with
  | none => (store, none)
  | some row => ({ store with merchants := store.merchants.set id (set row) }, some (storedMerchantOf (set row)))

/-- Sets or clears the name a merchant is listed under. -/
def setServiceName (id : String) (serviceName : Option String) : MemoryStore Doc × Option StoredMerchant :=
  store.setMerchant id fun row => { row with serviceName := serviceName }

def setPayoutWallet (id payoutWallet : String) : MemoryStore Doc × Option StoredMerchant :=
  store.setMerchant id fun row => { row with payoutWallet := some payoutWallet }

/-- Notes a call that came in on a key. The mark goes forwards or it stays. -/
def noteKeyUse (id : String) («at» : Int) : MemoryStore Doc :=
  match store.keys.get id with
  | none => store
  | some found =>
    if found.lastUsedAt.any fun last => «at» ≤ last then store
    else { store with keys := store.keys.set found.id { found with lastUsedAt := some «at» } }

def keyByDigest (digest : String) : Option StoredKey := (store.keysByDigest.get digest).bind store.keys.get

/-- The key a digest finds, where it works. -/
def workingKey (digest : String) : Option StoredKey :=
  match store.keyByDigest digest with
  | none => none
  | some key => if key.disabledAt.isSome then none else some key

/-- Every key of one merchant, the oldest first. -/
def keysOf (merchantId : String) : List StoredKey :=
  (store.keys.values.filter fun key => key.merchantId = merchantId).mergeSort fun one other =>
    !keyComesFirst other one

/-- The keys one merchant made for his own code. -/
def codeKeysOf (merchantId : String) : List StoredKey :=
  (store.keysOf merchantId).filter fun key => key.purpose = .merchantCode

/-- Removes a key that was made for a cabinet, and with it its digest. -/
def forgetCabinetKey (keyId : String) : MemoryStore Doc × Bool :=
  match store.keys.get keyId with
  | none => (store, false)
  | some going =>
    if going.purpose ≠ .cabinet then (store, false)
    else
      ({ store with
          keys := store.keys.delete going.id
          keysByDigest := store.keysByDigest.dropping fun id => id = going.id }, true)

/-- The write that revokes a key. The first revocation is the true one. -/
def revoke (found : StoredKey) («at» : Int) : MemoryStore Doc × StoredKey :=
  let stored := { found with disabledAt := found.disabledAt.or (some «at») }
  ({ store with keys := store.keys.set found.id stored }, stored)

/-- Stops a key working. -/
def disableKey (id : String) («at» : Int) : MemoryStore Doc × Option StoredKey :=
  match store.keys.get id with
  | none => (store, none)
  | some found =>
    let revoked := store.revoke found «at»
    (revoked.1, some revoked.2)

/-- Stops a key working that its merchant made. Another merchant's key is not found. -/
def disableKeyOf (merchantId id : String) («at» : Int) : MemoryStore Doc × DisableAnswer :=
  match store.keys.get id with
  | none => (store, .noSuchKey)
  | some found =>
    if found.merchantId ≠ merchantId then (store, .noSuchKey)
    else if found.purpose ≠ .merchantCode then (store, .madeForACabinet)
    else
      let revoked := store.revoke found «at»
      (revoked.1, .disabled revoked.2)

/-! ## The catalog -/

section

variable (merchantId : String)

/-- Publishes a card. One that is there under the same identifier of the same merchant keeps its own, and
stays off sale where it was taken off. -/
def publishCard (card : CardDocument Doc) («at» : Int) (fresh : String) : MemoryStore Doc × StoredCard Doc :=
  let owned := catalogKey merchantId card.merchantItemId
  let existing := store.cardIdByMerchantKey.get owned
  let id := existing.getD fresh
  let paused := ((existing.bind store.cards.get).map (·.paused)).getD false
  let stored : StoredCard Doc := ⟨id, merchantId, card, «at», paused⟩
  ({ store with
      cardIdByMerchantKey := store.cardIdByMerchantKey.set owned id
      cards := store.cards.set id stored }, stored)

/-- The word one merchant is selling under. -/
def sellingOf : Except String MerchantSelling :=
  match store.merchants.get merchantId with
  | none => .error s!"there is no merchant {merchantId}, so there is no word for their selling"
  | some row => .ok row.selling

def cardsOf : List (StoredCard Doc) := store.cards.values.filter fun card => card.merchantId = merchantId

end

/-- A card with the word its own merchant is selling under, and where and as what he is paid. -/
def catalogEntry (card : StoredCard Doc) : Except String (CatalogEntry Doc) :=
  (store.sellingOf card.merchantId).map fun word =>
    { card := card
      merchant := word
      payoutWallet := (store.merchants.get card.merchantId).bind (·.payoutWallet)
      serviceName := (store.merchants.get card.merchantId).bind (·.serviceName) }

def catalogEntries : Except String (List (CatalogEntry Doc)) := store.cards.values.mapM store.catalogEntry

/-- Takes one card off sale, or puts it back. Another merchant's card is not found. -/
def setCardPaused (merchantId id : String) (paused : Bool) : MemoryStore Doc × Option (StoredCard Doc) :=
  match store.cards.get id with
  | none => (store, none)
  | some found =>
    if found.merchantId ≠ merchantId then (store, none)
    else
      let stored := { found with paused := paused }
      ({ store with cards := store.cards.set id stored }, some stored)

/-- Stops a merchant's selling, or starts it again. -/
def setSelling (merchantId : String) (selling : MerchantSelling) : MemoryStore Doc × Except String Unit :=
  match store.merchants.get merchantId with
  | none => (store, .error s!"there is no merchant {merchantId} to stop or start selling")
  | some row =>
    ({ store with merchants := store.merchants.set merchantId { row with selling := selling } }, .ok ())

/-! ## Orders -/

/-- Writes down an order that is not there yet. -/
def addOrder (record : StoredOrder Doc) : MemoryStore Doc × Except String Unit :=
  if store.orders.has record.order.id then (store, .error s!"the order {record.order.id} is already written down")
  else ({ store with orders := store.orders.set record.order.id record }, .ok ())

/-- One of a merchant's orders. Another merchant's is not found. -/
def merchantOrder (merchantId id : String) : Option (StoredOrder Doc) :=
  match store.orders.get id with
  | none => none
  | some found => if found.merchantId ≠ merchantId then none else some found

/-- A merchant's orders, or the ones of them that are still open. -/
def ordersOf (merchantId : String) («open» : Bool) : List (StoredOrder Doc) :=
  let mine := store.orders.values.filter fun record => record.merchantId = merchantId
  if «open» then mine.filter fun record => isOpen record.order.state else mine

def openOrders : List (StoredOrder Doc) := store.orders.values.filter fun record => isOpen record.order.state

/-- Runs work alone under a name, unless it is being run already. The name is let go however it ends. -/
def runAlone (name : String) (work : Except String α) : MemoryStore Doc × Except String (Option α) :=
  if store.running.contains name then (store, .ok none)
  else
    let held := { store with running := name :: store.running }
    ({ held with running := held.running.erase name }, work.map some)

/-- Every delivered order with no receipt written against it. -/
def deliveredWithoutReceipt : List (StoredOrder Doc) :=
  store.orders.values.filter fun record => record.order.state = .delivered && !store.receipts.has record.order.id

/-- Writes a receipt. Whose it is was settled when it was first written. -/
def putReceipt (merchantId : String) (receipt : Receipt) : MemoryStore Doc :=
  let held := store.receipts.get receipt.orderId
  { store with
    receipts := store.receipts.set receipt.orderId
      ⟨(held.map (·.merchantId)).getD merchantId, receipt⟩ }

end

/-- Takes the writes that go with an order, one after another. A receipt is written at once; an envelope is
handed back, to be made visible once the order is written. -/
def takeWithTheOrder (refuses : Posted Doc → Option String) (store : MemoryStore Doc) :
    List (WithTheOrder Doc) → MemoryStore Doc × Except String (List (Posted Doc))
  | [] => (store, .ok [])
  | .receipt merchantId receipt :: rest => takeWithTheOrder refuses (store.putReceipt merchantId receipt) rest
  | .envelope merchantId envelope afterMs :: rest =>
    match refuses ⟨merchantId, envelope, afterMs⟩ with
    | some thrown => (store, .error thrown)
    | none =>
      match takeWithTheOrder refuses store rest with
      | (taken, .ok arrivals) => (taken, .ok (⟨merchantId, envelope, afterMs⟩ :: arrivals))
      | (taken, .error thrown) => (taken, .error thrown)

/-- Writes the order back, under the merchant it was read with. -/
def saveOrder (store : MemoryStore Doc) (id merchantId : String) (save : Option (StoredOrder Doc)) :
    MemoryStore Doc :=
  match save with
  | none => store
  | some record => { store with orders := store.orders.set id { record with merchantId := merchantId } }

/-- Holds one order still, hands it to a decision, and writes back what the decision asks for. Given a
scope, an order of another merchant is not found. -/
def withOrder (refuses : Posted Doc → Option String) (store : MemoryStore Doc) (id : String)
    (change : StoredOrder Doc → Except String (OrderChange Doc α)) (scope : Option String) :
    MemoryStore Doc × Except String (Option α) :=
  match store.orders.get id with
  | none => (store, .ok none)
  | some found =>
    if scope.any fun merchantId => found.merchantId ≠ merchantId then (store, .ok none)
    else
      match change found with
      | .error thrown => (store, .error thrown)
      | .ok decided =>
        let alongside := decided.alongside.mergeSort fun one other => rankOf one ≤ rankOf other
        match store.takeWithTheOrder refuses alongside with
        | (taken, .error thrown) => (taken, .error thrown)
        | (taken, .ok arrivals) =>
          let saved := taken.saveOrder id found.merchantId decided.save
          ({ saved with streams := saved.streams ++ arrivals }, .ok (some decided.result))

/-! ## Payments and receipts -/

section

variable (store : MemoryStore Doc)

/-- Binds one payment to one order. The order that holds it already may claim it again. -/
def claimPayment (fingerprint orderId : String) (now : Int) : MemoryStore Doc × PaymentClaim :=
  match store.paymentClaims.get fingerprint with
  | none => ({ store with paymentClaims := store.paymentClaims.set fingerprint ⟨orderId, now⟩ }, .claimed)
  | some held => (store, if held.orderId = orderId then .claimed else .heldBy held.orderId)

/-- Lets go of a claim. Only the order that holds it can. -/
def releaseClaim (fingerprint orderId : String) : MemoryStore Doc :=
  if (store.paymentClaims.get fingerprint).map (·.orderId) = some orderId then
    { store with paymentClaims := store.paymentClaims.delete fingerprint }
  else store

/-- Forgets the claims older than an instant, and says how many went. -/
def forgetClaimsBefore (instant : Int) : MemoryStore Doc × Nat :=
  ({ store with paymentClaims := store.paymentClaims.dropping fun claim => claim.at < instant },
    (store.paymentClaims.values.filter fun claim => claim.at < instant).length)

def receiptForOrder (orderId : String) : Option Receipt := (store.receipts.get orderId).map (·.receipt)

def receiptsOf (merchantId : String) : List Receipt :=
  (store.receipts.values.filter fun held => held.merchantId = merchantId).map (·.receipt)

end

/-! ## Calls -/

/-- Answers a call. -/
def perform (moment : Moment Doc) (store : MemoryStore Doc) :
    StoreCall Doc α → MemoryStore Doc × Except String (StoreAnswer Doc α)
  | .addMerchant id name t => answering (store.addMerchant id name t) fun found => .ok (.merchant found)
  | .registerMerchant id name keyId label digest t =>
    answering (store.registerMerchant id name keyId label digest t) fun made => made.map .registered
  | .merchantById id => (store, .ok (.merchant (store.merchantById id)))
  | .merchants => (store, .ok (.merchants (store.merchants.values.map storedMerchantOf)))
  | .setServiceName id serviceName _ =>
    answering (store.setServiceName id serviceName) fun found => .ok (.merchant found)
  | .setPayoutWallet id payoutWallet _ =>
    answering (store.setPayoutWallet id payoutWallet) fun found => .ok (.merchant found)
  | .addKey key t => answering (store.writeKey key t) fun made => made.map .keyAdded
  | .noteKeyUse id t => (store.noteKeyUse id t, .ok .nothing)
  | .workingKey digest => (store, .ok (.key (store.workingKey digest)))
  | .keyByDigest digest => (store, .ok (.key (store.keyByDigest digest)))
  | .keysOf merchantId => (store, .ok (.keys (store.keysOf merchantId)))
  | .codeKeysOf merchantId => (store, .ok (.keys (store.codeKeysOf merchantId)))
  | .forgetCabinetKey keyId => answering (store.forgetCabinetKey keyId) fun gone => .ok (.forgotten gone)
  | .disableKey id t => answering (store.disableKey id t) fun found => .ok (.key found)
  | .disableKeyOf merchantId id t =>
    answering (store.disableKeyOf merchantId id t) fun answer => .ok (.disabled answer)
  | .publishCard merchantId card t =>
    answering (store.publishCard merchantId card t moment.fresh) fun stored => .ok (.published stored)
  | .cardById id => (store, .ok (.card (store.cards.get id)))
  | .cards merchantId => (store, .ok (.cards (store.cardsOf merchantId)))
  | .catalogEntries => (store, store.catalogEntries.map .entries)
  | .setCardPaused merchantId id paused =>
    answering (store.setCardPaused merchantId id paused) fun found => .ok (.card found)
  | .selling merchantId => (store, (store.sellingOf merchantId).map .selling)
  | .setSelling merchantId selling =>
    answering (store.setSelling merchantId selling) fun done => done.map fun _ => .nothing
  | .addOrder record => answering (store.addOrder record) fun done => done.map fun _ => .nothing
  | .orderById id => (store, .ok (.order (store.orders.get id)))
  | .merchantOrder merchantId id => (store, .ok (.order (store.merchantOrder merchantId id)))
  | .orders merchantId «open» => (store, .ok (.orders (store.ordersOf merchantId «open»)))
  | .openOrders => (store, .ok (.orders store.openOrders))
  | .runAlone name work => answering (store.runAlone name work) fun came => came.map .ran
  | .deliveredWithoutReceipt => (store, .ok (.orders store.deliveredWithoutReceipt))
  | .withOrder id change scope =>
    answering (store.withOrder moment.refuses id change scope) fun came => came.map .lookup
  | .claimPayment fingerprint orderId =>
    answering (store.claimPayment fingerprint orderId moment.now) fun answer => .ok (.claim answer)
  | .releaseClaim fingerprint orderId => (store.releaseClaim fingerprint orderId, .ok .nothing)
  | .forgetClaimsBefore instant => answering (store.forgetClaimsBefore instant) fun count => .ok (.forgot count)
  | .putReceipt merchantId receipt => (store.putReceipt merchantId receipt, .ok .nothing)
  | .receiptForOrder orderId => (store, .ok (.receipt (store.receiptForOrder orderId)))
  | .receipts merchantId => (store, .ok (.receipts (store.receiptsOf merchantId)))

end MemoryStore

end Coinslot.Stores
