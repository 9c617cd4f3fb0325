import Coinslot.Cabinet.Shops

/-!
# Filling orders from a shop

`fillFromTheShop` (`apps/cabinet/src/woo-worker.ts`) in steps, for any number of hand-overs at once: the
sale is claimed in the ledger, the shop is asked, and what it answers is recorded, or the claim is released,
or nothing is said. A worker may die between any two of them. What was sent to a shop goes on without the
worker: the shop creates the order of a request once, or not at all, and whenever it likes, but for a
request it turns down.
-/

namespace Coinslot

/-! ## What a filling answers -/

/-- The reply to a sale nothing can be ordered for. -/
def cannotFulfill (message : String) : Desk.HandlerReply := .refused "cannot_fulfill" message

/-- The goods of a sale: the number its order has in the shop. -/
def orderNumber (order : PlacedOrder) : Desk.HandlerReply :=
  .delivered (Dict.empty.set "order_number" (.string order.number))

/-- The reply where the shop granted less than we asked for. -/
def refusedByTheGrant : Desk.HandlerReply :=
  cannotFulfill ("The shop this product is sold from cannot take an order from us, so nothing was" ++
    " delivered and the sale did not go through.")

/-- The reply where an earlier attempt never reported back. -/
def refusedAsUnknown (orderId : String) : Desk.HandlerReply :=
  cannotFulfill (s!"An earlier attempt to place {orderId} in the shop was interrupted and never " ++
    "reported back, so whether the shop holds an order for it is not something this can find out. " ++
    "It is refused rather than ordered a second time, because a second order is a second thing the " ++
    "shop has to fulfil.")

/-- The reply where the shop said no. -/
def refusedByTheShop : Desk.HandlerReply :=
  cannotFulfill ("The shop this product is sold from would not accept the order, so nothing was" ++
    " delivered and the sale did not go through.")

/-! ## The state -/

/-- How far a filling has got: the sale is to be claimed, its row was met and is to be read again, the sale
is ours and the shop is to be asked, the shop was asked, the order it made is to be recorded, or the claim
is to be released. -/
inductive FillingStage where
  | started
  | conflicted
  | ours
  | asked
  | made (order : PlacedOrder)
  | refused
  deriving DecidableEq, Repr

/-- One order in the hands of a worker. -/
structure Filling where
  order : OrderDocument Document
  connection : WooConnection
  email : String
  stage : FillingStage

/-- An order call that was sent, with what became of it: whether the shop created an order for it, and what
it answered. -/
structure ShopRequest where
  order : ShopOrder
  created : Bool
  answer : Option ShopAnswer

/-- The shop will create no order for this request: it turned it down. -/
def ShopRequest.turnedDown (request : ShopRequest) : Bool := request.answer.any (·.turnsDown)

/-- The cabinet at its work: the ledger, the orders in hand and the calls that were sent. -/
structure Cabinet where
  ledger : Ledger
  fillings : Dict Nat Filling
  requests : Dict Nat ShopRequest

/-- What the cabinet runs on. -/
structure CabinetRuntime where
  store : LedgerStore
  forms : NumberForms

/-- What a cabinet is heard to do. -/
inductive CabinetNotice where
  | asked (order : ShopOrder)
  | replied (orderId : String) (reply : Desk.HandlerReply)
  | silent (orderId : String)
  | threw (words : String)

namespace Cabinet

def empty : Cabinet := { ledger := .empty, fillings := .empty, requests := .empty }

def moves (s : Cabinet) (k : Nat) (filling : Filling) (stage : FillingStage) : Cabinet :=
  { s with fillings := s.fillings.set k { filling with stage := stage } }

def ends (s : Cabinet) (k : Nat) : Cabinet := { s with fillings := s.fillings.delete k }

/-- The sale is what an order has to be told about. -/
def soldItem (filling : Filling) : SoldItem :=
  { orderId := filling.order.id
    productId := filling.order.merchantItemId
    email := filling.email
    amount := filling.order.price.amount
    currency := filling.order.price.currency }

section

variable (s : Cabinet)

/-- An order is handed to a worker. One whose shop granted less than we asked for ends here. -/
def handOver (k : Nat) (order : OrderDocument Document) (connection : WooConnection)
    (email : String) : Cabinet × List CabinetNotice :=
  if connection.permissions ≠ "read_write" then (s, [.replied order.id refusedByTheGrant])
  else ({ s with fillings := s.fillings.set k ⟨order, connection, email, .started⟩ }, [])

/-- A claim came back. -/
def claimed (k : Nat) (filling : Filling) (claim : OrderClaim) : Cabinet × List CabinetNotice :=
  match claim with
  | .ours => (s.moves k filling .ours, [])
  | .placed order => (s.ends k, [.replied filling.order.id (orderNumber order)])
  | .unknown _ => (s.ends k, [.replied filling.order.id (refusedAsUnknown filling.order.id)])

/-- The sale is claimed, at once. -/
def claimOrder (k : Nat) (filling : Filling) (now : Int) : Cabinet × List CabinetNotice :=
  let (ledger, claim) := s.ledger.claimOrder filling.order.id filling.connection.accountId now
  ({ s with ledger := ledger } : Cabinet).claimed k filling claim

/-- The sale is claimed, in the first of two statements. -/
def insertClaim (k : Nat) (filling : Filling) (now : Int) : Cabinet × List CabinetNotice :=
  match s.ledger.insertClaim filling.order.id filling.connection.accountId now with
  | some ledger => (({ s with ledger := ledger } : Cabinet).moves k filling .ours, [])
  | none => (s.moves k filling .conflicted, [])

end

/-- The shop is asked, or the sale names no product of one. -/
def ask (R : CabinetRuntime) (s : Cabinet) (k : Nat) (filling : Filling) : Cabinet × List CabinetNotice :=
  match orderCall R.forms filling.connection (soldItem filling) with
  | .error _ => (s.moves k filling .refused, [])
  | .ok order =>
    ({ s.moves k filling .asked with requests := s.requests.set k ⟨order, false, none⟩ },
      [.asked order])

/-- The worker hears the shop's answer, or that none is coming. -/
def hears (R : CabinetRuntime) (s : Cabinet) (k : Nat) (filling : Filling) (request : ShopRequest)
    (answer : ShopAnswer) : Cabinet × List CabinetNotice :=
  let s : Cabinet := { s with requests := s.requests.set k { request with answer := some answer } }
  match readTheAnswer R.forms answer with
  | .error words => (s.ends k, [.threw words])
  | .ok (.made order) => (s.moves k filling (.made order), [])
  | .ok (.failed _ again) =>
    if again then (s.ends k, [.silent filling.order.id]) else (s.moves k filling .refused, [])

/-- The order the shop made is recorded, and its number is the goods. -/
def record (s : Cabinet) (k : Nat) (filling : Filling) (order : PlacedOrder) : Cabinet × List CabinetNotice :=
  (({ s with ledger := s.ledger.recordOrder filling.order.id order } : Cabinet).ends k,
    [.replied filling.order.id (orderNumber order)])

/-- The claim is given up, and the sale is refused. -/
def release (s : Cabinet) (k : Nat) (filling : Filling) : Cabinet × List CabinetNotice :=
  (({ s with ledger := s.ledger.releaseOrder filling.order.id } : Cabinet).ends k,
    [.replied filling.order.id refusedByTheShop])

end Cabinet

/-! ## The step -/

/-- Everything that can happen next. -/
inductive CabinetAction where
  | handOver (k : Nat) (order : OrderDocument Document) (connection : WooConnection)
      (email : String)
  | claimOrder (k : Nat) (now : Int)
  | insertClaim (k : Nat) (now : Int)
  | rereadClaim (k : Nat)
  | ask (k : Nat)
  | creates (k : Nat)
  | hears (k : Nat) (answer : ShopAnswer)
  | record (k : Nat)
  | release (k : Nat)
  | dies (k : Nat)

/-- An answer a shop can give to a request: an answer has a status, and one that turns the call down is
given to no request the shop created an order for. -/
def ShopRequest.canAnswer (request : ShopRequest) : ShopAnswer → Bool
  | .answered status document =>
    200 ≤ status && !((ShopAnswer.answered status document).turnsDown && request.created)
  | _ => true

section

variable (R : CabinetRuntime)

/-- One step. -/
def Cabinet.step (s : Cabinet) : CabinetAction → Except NotOn (Cabinet × List CabinetNotice)
  | .handOver k order connection email =>
    if s.fillings.has k || s.requests.has k then .error .notOn
    else .ok (s.handOver k order connection email)
  | .claimOrder k now =>
    match R.store, s.fillings.get k with
    | .memory, some ⟨order, connection, email, .started⟩ =>
      .ok (s.claimOrder k ⟨order, connection, email, .started⟩ now)
    | _, _ => .error .notOn
  | .insertClaim k now =>
    match R.store, s.fillings.get k with
    | .postgres, some ⟨order, connection, email, .started⟩ =>
      .ok (s.insertClaim k ⟨order, connection, email, .started⟩ now)
    | _, _ => .error .notOn
  | .rereadClaim k =>
    match s.fillings.get k with
    | some ⟨order, connection, email, .conflicted⟩ =>
      .ok (s.claimed k ⟨order, connection, email, .conflicted⟩ (s.ledger.rereadClaim order.id))
    | _ => .error .notOn
  | .ask k =>
    match s.fillings.get k with
    | some ⟨order, connection, email, .ours⟩ => .ok (s.ask R k ⟨order, connection, email, .ours⟩)
    | _ => .error .notOn
  | .creates k =>
    match s.requests.get k with
    | none => .error .notOn
    | some request =>
      if request.created || request.turnedDown then .error .notOn
      else .ok ({ s with requests := s.requests.set k { request with created := true } }, [])
  | .hears k answer =>
    match s.fillings.get k, s.requests.get k with
    | some ⟨order, connection, email, .asked⟩, some request =>
      if request.canAnswer answer then .ok (s.hears R k ⟨order, connection, email, .asked⟩ request answer)
      else .error .notOn
    | _, _ => .error .notOn
  | .record k =>
    match s.fillings.get k with
    | some ⟨order, connection, email, .made made⟩ => .ok (s.record k ⟨order, connection, email, .made made⟩ made)
    | _ => .error .notOn
  | .release k =>
    match s.fillings.get k with
    | some ⟨order, connection, email, .refused⟩ => .ok (s.release k ⟨order, connection, email, .refused⟩)
    | _ => .error .notOn
  | .dies k => .ok (s.ends k, [])

def cabinetMachine : Reactor Cabinet CabinetAction CabinetNotice NotOn := ⟨Cabinet.step R⟩

def cabinetRun (actions : List CabinetAction) : Cabinet := (cabinetMachine R).run .empty actions

end

/-- How many orders the shops created for a sale. -/
def Cabinet.created (s : Cabinet) (orderId : String) : Nat :=
  s.requests.total fun request => if request.order.transactionId = orderId ∧ request.created = true then 1 else 0

end Coinslot
