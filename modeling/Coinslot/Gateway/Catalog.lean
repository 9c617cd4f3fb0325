import Coinslot.Gateway.Cards

/-!
# Cards on sale and the keys that open the door

The other half of the store (`apps/gateway/src/adapters/memory/store.ts`): the cards its merchants
publish, and the keys their calls come in with. A call that names a merchant reaches what is his and
nothing else: what belongs to somebody else is not found.
-/

namespace Coinslot

/-- Who a key was made for (`KeyPurpose`). -/
inductive KeyPurpose where
  | merchantCode
  | cabinet
  deriving DecidableEq, Repr

/-- A key as it is stored. -/
structure StoredKey where
  id : String
  merchantId : String
  label : String
  purpose : KeyPurpose
  createdAt : Int
  /-- When it was revoked, where it was. -/
  disabledAt : Option Int
  lastUsedAt : Option Int
  deriving DecidableEq, Repr

/-- What switching off a key came to. -/
inductive DisableAnswer where
  | noSuchKey
  | madeForACabinet
  | disabled (key : StoredKey)
  deriving DecidableEq, Repr

/-- The cards and the keys of every merchant. The identifier of a card is kept under its merchant's own
key for the product. -/
structure Catalog where
  cards : Dict String StoredCard
  cardIds : Dict (String × String) String
  keys : Dict String StoredKey

namespace Catalog

def empty : Catalog := { cards := .empty, cardIds := .empty, keys := .empty }

section

variable (catalog : Catalog)

def cardById (id : String) : Option StoredCard := catalog.cards.get id

/-- Publishes a card. One that was published under the same key of the same merchant keeps its
identifier, and stays off sale where it was taken off. -/
def publishCard (merchantId : String) (card : Card) (t : Int) (fresh : String) : Catalog :=
  let existing := catalog.cardIds.get (merchantId, card.merchantItemId)
  let id := existing.getD fresh
  let paused := ((existing.bind catalog.cards.get).map (·.paused)).getD false
  { catalog with
    cardIds := catalog.cardIds.set (merchantId, card.merchantItemId) id
    cards := catalog.cards.set id ⟨id, merchantId, card, t, paused⟩ }

/-- Takes one card off sale, or puts it back. Another merchant's card is not found. -/
def setCardPaused (merchantId id : String) (paused : Bool) : Catalog × Option StoredCard :=
  match catalog.cards.get id with
  | none => (catalog, none)
  | some found =>
    if found.merchantId ≠ merchantId then (catalog, none)
    else
      let stored := { found with paused := paused }
      ({ catalog with cards := catalog.cards.set id stored }, some stored)

/-- Writes a key down, under an identifier no other key has. -/
def addKey (key : StoredKey) : Except String Catalog :=
  if catalog.keys.has key.id then .error s!"the key {key.id} is already written down"
  else .ok { catalog with keys := catalog.keys.set key.id key }

/-- The write that revokes a key. The first revocation is the true one. -/
def revoke (found : StoredKey) (t : Int) : Catalog × StoredKey :=
  let stored := { found with disabledAt := found.disabledAt.or (some t) }
  ({ catalog with keys := catalog.keys.set found.id stored }, stored)

/-- Switches off a key its merchant made. Another merchant's key is not found. -/
def disableKeyOf (merchantId id : String) (t : Int) : Catalog × DisableAnswer :=
  match catalog.keys.get id with
  | none => (catalog, .noSuchKey)
  | some found =>
    if found.merchantId ≠ merchantId then (catalog, .noSuchKey)
    else if found.purpose ≠ .merchantCode then (catalog, .madeForACabinet)
    else
      let revoked := catalog.revoke found t
      (revoked.1, .disabled revoked.2)

end

end Catalog

end Coinslot
