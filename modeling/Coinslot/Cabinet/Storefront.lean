import Coinslot.Cabinet.OneOrder
import Coinslot.Gateway.OnSale

/-!
# A shop's products on sale

A merchant connects a shop, imports its products as cards, and his orders are filled from it by a worker
that reads the connection, polls the merchant's stream, and takes the orders it drew one after another
(`apps/cabinet/src/server.ts`, `woo-catalog.ts`, `woo-worker.ts`). He may let the shop go and connect
another one at any time. A card is kept under the shop's own number for the product, and beside it which
shop's import it was last published by.

Three histories that nothing reads are kept: how often the connection of an account was changed, and of each
order in hand, how often it had been when its worker read the connection and when its claim was taken.
-/

namespace Coinslot

/-! ## The import -/

/-- A product, as the shop's catalogue has it, its texts read as plain ones. -/
structure StoreProduct where
  id : Int
  type : String
  isPurchasable : Bool
  isInStock : Bool
  /-- The price in minor units, with how many of its digits are fractional. -/
  price : String
  currencyMinorUnit : Int
  currencyCode : String
  title : String
  sku : String
  prose : String

/-- A product turned into a card, as far as its key, its texts and its price go. -/
structure ImportedCard where
  id : String
  title : String
  description : String
  price : Money
  deriving DecidableEq, Repr

/-- A product that stayed in the shop, and the reason in words. -/
structure SkippedProduct where
  id : String
  title : String
  why : String
  deriving DecidableEq, Repr

/-- A price in minor units, written as a decimal, where it is a price at all. -/
def decimalOfMinorUnits (minor : String) (scale : Int) : Option String :=
  if minor.toList.isEmpty || !minor.toList.all Char.isDigit || scale < 0 then none
  else if scale = 0 then some minor
  else
    let places := scale.toNat
    let digits := List.replicate (places + 1 - minor.toList.length) '0' ++ minor.toList
    some (String.ofList
      (digits.take (digits.length - places) ++ '.' :: digits.drop (digits.length - places)))

/-- The card a product becomes, or why it stays behind. -/
def cardOfProduct (product : StoreProduct) : Except SkippedProduct ImportedCard :=
  let id := toString product.id
  let named := if product.title = "" then if product.sku = "" then id else product.sku else product.title
  let refused (why : String) : Except SkippedProduct ImportedCard := .error ⟨id, named, why⟩
  if product.type ≠ "simple" then
    refused (s!"The shop sells this as a \"{product.type}\" product. A card is one thing at one " ++
      "price, so a product with variations or parts has no single card to become.")
  else if !product.isPurchasable then refused "The shop does not offer this product for sale."
  else if !product.isInStock then refused "The shop says this product is out of stock."
  else
    match decimalOfMinorUnits product.price product.currencyMinorUnit with
    | none =>
      refused (s!"The shop sent \"{product.price}\" as this product's price, at a scale of " ++
        s!"{product.currencyMinorUnit}, and that is not a number we can read as an amount.")
    | some amount =>
      if !isCurrencyCode product.currencyCode then
        refused (s!"The shop prices this product in \"{product.currencyCode}\", which is not a " ++
          "currency code we can put on a card.")
      else if product.title = "" then
        refused "The product has no name in the shop, and a card is found by its title."
      else if product.prose = "" then
        refused ("The shop's page for this product has no description. A card carries one, because " ++
          "it is what an agent reads before it decides to buy.")
      else .ok ⟨id, product.title, product.prose, ⟨amount, product.currencyCode⟩⟩

/-- The cards a shop's catalogue becomes, and the products that stayed behind. -/
def cardsFromTheShop (products : List StoreProduct) : List ImportedCard × List SkippedProduct :=
  (products.filterMap fun product => (cardOfProduct product).toOption,
    products.filterMap fun product =>
      match cardOfProduct product with
      | .ok _ => none
      | .error skipped => some skipped)

/-! ## The state -/

/-- An import under way: whose it is, the shop it reads from, and the cards still to be published. -/
structure ShopImport where
  accountId : String
  shopUrl : String
  left : List ImportedCard

/-- An order on a merchant's stream. -/
structure StreamedOrder where
  accountId : String
  order : OrderDocument Document

/-- One turn of a worker: the connection it read, with how often that had been changed by then, the orders
it drew and has still to take up, once it has polled, and the one in its hands. -/
structure WorkerTurn where
  connection : WooConnection
  email : String
  readAt : Nat
  batch : Option (List (OrderDocument Document))
  filling : Option Nat

/-- The shops, the cards that came from them, and the cabinet that fills their orders. -/
structure Storefront where
  cabinet : Cabinet
  connections : Dict String WooConnection
  /-- The shop whose import last published the card of an account's product. -/
  cards : Dict (String × String) String
  stream : Dict String StreamedOrder
  imports : Dict Nat ShopImport
  turns : Dict Nat WorkerTurn
  /-- How often the connection of an account was changed. -/
  changes : Dict String Nat
  /-- How often it had been changed when the connection of an order in hand was read. -/
  readAt : Dict Nat Nat
  /-- How often it had been changed when the claim of an order in hand was taken. -/
  claimedAt : Dict Nat Nat

abbrev StorefrontNotice := CabinetNotice

namespace Storefront

/-- Nobody has a shop. -/
def empty : Storefront :=
  { cabinet := .empty
    connections := .empty
    cards := .empty
    stream := .empty
    imports := .empty
    turns := .empty
    changes := .empty
    readAt := .empty
    claimedAt := .empty }

section

variable (s : Storefront)

def changesOf (accountId : String) : Nat := (s.changes.get accountId).getD 0

/-- The connection of an account was changed once more. -/
def changed (accountId : String) : Dict String Nat := s.changes.set accountId (s.changesOf accountId + 1)

/-- A shop's grant arrives: it replaces whatever that account had before. -/
def connect (connection : WooConnection) : Storefront :=
  { s with
    connections := s.connections.set connection.accountId connection
    changes := s.changed connection.accountId }

def forget (accountId : String) : Storefront :=
  { s with connections := s.connections.delete accountId, changes := s.changed accountId }

/-- An import begins: the connection is read, and the shop's catalogue. -/
def beginImport (i : Nat) (connection : WooConnection) (products : List StoreProduct) : Storefront :=
  { s with
    imports := s.imports.set i
      ⟨connection.accountId, connection.shopUrl, (cardsFromTheShop products).1⟩ }

/-- The next card of an import goes through the publish door, or is turned away there. -/
def publishes (i : Nat) (run : ShopImport) (card : ImportedCard)
    (rest : List ImportedCard) (passes : Bool) : Storefront :=
  { s with
    imports := s.imports.set i { run with left := rest }
    cards := if passes then s.cards.set (run.accountId, card.id) run.shopUrl else s.cards }

/-- A card is sold, and its order is on the merchant's stream. -/
def sells (accountId : String) (order : OrderDocument Document) : Storefront :=
  { s with stream := s.stream.set order.id ⟨accountId, order⟩ }

/-- An order is not handed over any more. -/
def ends (orderId : String) : Storefront := { s with stream := s.stream.delete orderId }

/-- A turn begins: the connection is read. -/
def readsConnection (n : Nat) (connection : WooConnection) (email : String) : Storefront :=
  { s with
    turns := s.turns.set n ⟨connection, email, s.changesOf connection.accountId, none, none⟩ }

/-- The poll comes back with orders of the merchant's stream, any of them any number of times. -/
def polls (n : Nat) (turn : WorkerTurn) (orderIds : List String) : Storefront :=
  let drawn := orderIds.filterMap fun id =>
    match s.stream.get id with
    | some streamed => if streamed.accountId = turn.connection.accountId then some streamed.order else none
    | none => none
  { s with turns := s.turns.set n { turn with batch := some drawn } }

/-- The next order of the batch is taken up. -/
def takesUp (n k : Nat) (turn : WorkerTurn) (order : OrderDocument Document)
    (rest : List (OrderDocument Document)) : Storefront × List StorefrontNotice :=
  let came := s.cabinet.handOver k order turn.connection turn.email
  ({ s with
      cabinet := came.1
      turns := s.turns.set n { turn with batch := some rest, filling := some k }
      readAt := s.readAt.set k turn.readAt }, came.2)

/-- A worker dies with the order in its hands. -/
def turnDies (n : Nat) (turn : WorkerTurn) : Storefront :=
  { s with
    turns := s.turns.delete n
    cabinet :=
      match turn.filling with
      | none => s.cabinet
      | some k => s.cabinet.ends k }

end

end Storefront

/-! ## The step -/

/-- The claim a step of the cabinet is about to take, where it is one. -/
def CabinetAction.claims : CabinetAction → Option Nat
  | .claimOrder k _ | .insertClaim k _ | .rereadClaim k => some k
  | _ => none

/-- Everything that can happen next. -/
inductive StorefrontAction where
  | connect (connection : WooConnection)
  | forget (accountId : String)
  | beginImport (i : Nat) (accountId : String) (products : List StoreProduct)
  | publishes (i : Nat) (passes : Bool)
  | sells (accountId : String) (order : OrderDocument Document)
  | ends (orderId : String)
  | readsConnection (n : Nat) (accountId email : String)
  | polls (n : Nat) (orderIds : List String)
  | takesUp (n k : Nat)
  | works (action : CabinetAction)
  | turnEnds (n : Nat)
  | turnDies (n : Nat)

/-- Notes when the claim of an order in hand is taken. -/
def Storefront.noted (s : Storefront) (action : CabinetAction) : Dict Nat Nat :=
  match action.claims with
  | none => s.claimedAt
  | some k =>
    match s.cabinet.fillings.get k with
    | none => s.claimedAt
    | some filling => s.claimedAt.set k (s.changesOf filling.connection.accountId)

/-- A step of the cabinet that is none of the worker's own turn. -/
def CabinetAction.ofTurn : CabinetAction → Bool
  | .handOver .. => true
  | .dies _ => true
  | _ => false

/-- Whether the order in the hands of a turn is done with. -/
def Storefront.idle (s : Storefront) (turn : WorkerTurn) : Bool :=
  turn.filling.all fun k => !s.cabinet.fillings.has k

section

variable (R : CabinetRuntime)

/-- One step. -/
def Storefront.step (s : Storefront) : StorefrontAction → Except NotOn (Storefront × List StorefrontNotice)
  | .connect connection => .ok (s.connect connection, [])
  | .forget accountId => .ok (s.forget accountId, [])
  | .beginImport i accountId products =>
    match s.connections.get accountId with
    | none => .error .notOn
    | some connection =>
      if s.imports.has i then .error .notOn
      else .ok (s.beginImport i connection products, [])
  | .publishes i passes =>
    match s.imports.get i with
    | some ⟨accountId, shopUrl, card :: rest⟩ =>
      .ok (s.publishes i ⟨accountId, shopUrl, card :: rest⟩ card rest passes, [])
    | _ => .error .notOn
  | .sells accountId order =>
    if s.stream.has order.id || !s.cards.has (accountId, order.merchantItemId) then .error .notOn
    else .ok (s.sells accountId order, [])
  | .ends orderId => .ok (s.ends orderId, [])
  | .readsConnection n accountId email =>
    match s.connections.get accountId with
    | none => .error .notOn
    | some connection =>
      if s.turns.has n then .error .notOn
      else .ok (s.readsConnection n connection email, [])
  | .polls n orderIds =>
    match s.turns.get n with
    | some ⟨connection, email, readAt, none, filling⟩ =>
      .ok (s.polls n ⟨connection, email, readAt, none, filling⟩ orderIds, [])
    | _ => .error .notOn
  | .takesUp n k =>
    match s.turns.get n with
    | some ⟨connection, email, readAt, some (order :: rest), filling⟩ =>
      if s.readAt.has k || s.cabinet.fillings.has k || s.cabinet.requests.has k ||
          !s.idle ⟨connection, email, readAt, some (order :: rest), filling⟩ then .error .notOn
      else .ok (s.takesUp n k ⟨connection, email, readAt, some (order :: rest), filling⟩ order rest)
    | _ => .error .notOn
  | .works action =>
    if action.ofTurn then .error .notOn
    else
      (s.cabinet.step R action).map fun (cabinet, out) =>
        ({ s with cabinet := cabinet, claimedAt := s.noted action }, out)
  | .turnEnds n =>
    match s.turns.get n with
    | some ⟨connection, email, readAt, some [], filling⟩ =>
      if s.idle ⟨connection, email, readAt, some [], filling⟩ then .ok ({ s with turns := s.turns.delete n }, [])
      else .error .notOn
    | _ => .error .notOn
  | .turnDies n =>
    match s.turns.get n with
    | none => .error .notOn
    | some turn => .ok (s.turnDies n turn, [])

def storefrontMachine : Reactor Storefront StorefrontAction StorefrontNotice NotOn := ⟨Storefront.step R⟩

def storefrontRun (actions : List StorefrontAction) : Storefront := (storefrontMachine R).run .empty actions

end

end Coinslot
