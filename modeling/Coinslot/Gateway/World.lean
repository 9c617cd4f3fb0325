import Coinslot.Gateway.Runner
import Coinslot.Orders.Endings

/-!
# The gateway at work

The runner and the purchases that lean on it, one step at a time. A step is what happens between two
awaits of the source: one hold on an order, one other write or read of the store, one effect carried
out, one answer of the payment layer. A call of `payPurchase`
(`apps/gateway/src/app/gateway.ts`) is remembered with how far it has got, a run of effects with the
frames it still has to work through, and a sweep with the orders it still has to look at; any of them
may be cut off between two steps, and a hold may be cut off between the reminders it arms.

Who acts next, what the payment layer answers, what the stream holds and what the clock says are in
the actions. What leaves the gateway, and what is answered, is a notice. `gatewayMachine` is the whole
of it as a reactor.
-/

namespace Coinslot

variable {Doc α : Type}

/-- What the gateway runs on: its configuration, and the platform's lower case. -/
structure Runtime where
  config : Config
  toLowerCase : String → String

/-- The wallet the payment layer says paid, in one spelling, or nothing where it names none. -/
def walletThatPaid (R : Runtime) (payer : Option String) : Option String :=
  let wallet := R.toLowerCase (payer.getD "")
  if wallet = "" then none else some wallet

/-! ## What is under way -/

/-- How a payment that is not taken is answered (`PurchaseAttempt`). -/
inductive PurchaseAnswer where
  | noSuchItem
  | paymentNotVerified (why : String) (retryable : Bool)
  | paymentAlreadySpent (heldBy : String) (collectable : Bool)
  | notThisPurchase
  | paymentNotTaken (why : String) (retryable : Bool)
  deriving DecidableEq, Repr

/-- How far a call of `payPurchase` has got. -/
inductive PayStage where
  /-- The order was read, with its merchant and its price. -/
  | read (merchantId : String) (price : Price)
  /-- The payment layer is asked to verify. -/
  | asking (charge : Charge)
  /-- It vouched for the payment, and the owner is known. -/
  | checkedOut (charge : Charge) (owner : String)
  /-- The payment is claimed for the order. -/
  | claimed (charge : Charge) (owner : String)
  /-- Another order holds the claim. -/
  | spent (holder : String)
  /-- The order did not take the payment, and the claim goes back. -/
  | turnedAway (answer : PurchaseAnswer)

/-- One call of `payPurchase`. -/
structure PayCall where
  orderId : String
  payment : String
  fingerprint : String
  stage : PayStage

/-- Effects to carry out in their order, for one write of an order. -/
structure Frame (Doc : Type) where
  record : StoredOrder Doc
  effects : List Effect
  «at» : Int

/-- A run of effects: the innermost frame first, and the charge it waits on, where it waits. -/
structure Task (Doc : Type) where
  waiting : Option Charge
  frames : List (Frame Doc)

/-- A sweep: the instant it runs at, the open orders it still has to look at, and then the delivered
ones it still has to receipt. -/
structure Sweep (Doc : Type) where
  now : Int
  unlooked : List (StoredOrder Doc)
  unreceipted : Option (List (StoredOrder Doc))

/-- The gateway at one instant. -/
structure World (Doc : Type) where
  store : Store Doc
  calls : Dict Nat PayCall
  tasks : Dict Nat (Task Doc)
  sweeps : Dict Nat (Sweep Doc)
  /-- The sweep that holds the name a sweep runs under. -/
  alone : Option Nat

/-- What the gateway is heard to do. -/
inductive Notice (Doc : Type) where
  | reminded (reminder : Reminder) (afterMs : Int)
  | published (merchantId : String) (envelope : WorkerEnvelope Doc) (afterMs : Option Rat)
  /-- The payment layer vouched for a payment, and this is who paid. -/
  | verified (charge : Charge) (owner : String)
  /-- The payment layer is asked to execute a charge. -/
  | settleCalled (charge : Charge)
  /-- What the hold on the order came to, where there is such an order. -/
  | presented (presentation : Presentation) (came : Option (PresentDecided Doc))
  | applied (call : ApplyCall Doc) (came : Option (Decided Doc))
  | answered (orderId : String) (answer : PurchaseAnswer)
  | answeredMerchant (orderId : String) (answer : MerchantAnswer)
  | woken (orderId owner : String)
  | threw (words : String)

def World.empty : World Doc :=
  { store := .empty, calls := .empty, tasks := .empty, sweeps := .empty, alone := none }

/-! ## Holds -/

def remindings (armed : List (Reminder × Int)) : List (Notice Doc) :=
  armed.map fun reminder => .reminded reminder.1 reminder.2

/-- The envelopes among the writes that go with an order. -/
def publishings (alongside : List (WithTheOrder Doc)) : List (Notice Doc) :=
  alongside.filterMap fun
    | .envelope merchantId envelope afterMs => some (.published merchantId envelope afterMs)
    | .receipt .. => none

/-- The envelopes that land with what a hold came to. -/
def Store.Held.publishings : Store.Held Doc α → List (Notice Doc)
  | .decided change => Coinslot.publishings change.alongside
  | .notFound | .threw _ => []

/-- A hold that was carried through, or cut off after some of the reminders it arms: then nothing was
written. -/
def World.hold (w : World Doc) (cut : Option Nat) (id : String) (scope : Option String)
    (decide : StoredOrder Doc → Decision Doc α) : World Doc × List (Notice Doc) × Option (Store.Held Doc α) :=
  let held := w.store.withOrder id scope decide
  match cut with
  | some reminders => (w, remindings (held.2.1.take reminders), none)
  | none => ({ w with store := held.1 }, remindings held.2.1 ++ held.2.2.publishings, some held.2.2)

/-! ## Orders are opened and moved -/

/-- A purchase that is begun: the order it opens, and what the order is about. -/
structure Sale (Doc : Type) where
  birth : Birth
  merchantId : String
  itemId : String
  merchantItemId : String
  params : Doc

/-- The order as it is first written down. -/
def Sale.record (sale : Sale Doc) : StoredOrder Doc :=
  { order := sale.birth.order
    merchantId := sale.merchantId
    itemId := sale.itemId
    merchantItemId := sale.merchantItemId
    params := sale.params
    priceId := none
    delivery := none
    payment := none
    payTo := none
    paidBy := none
    settlement := none
    paymentWords := []
    paymentWordsDropped := 0
    openDeliveryId := none }

/-- Writes down an order that does not exist yet (`create`). Nobody waits on it, so waking whoever
does at the end of its effects wakes nobody. -/
def World.create (w : World Doc) (task : Nat) (sale : Sale Doc) (now : Int) (fresh : Nat → String)
    (cut : Option Nat) : World Doc × List (Notice Doc) :=
  let record := sale.record
  let effects := sale.birth.effects
  let t := sale.birth.input.at
  let armed := arm [] (deadlines record.order) record.order.id now
  match refuseToWriteAnImpossibleOrder record.order, cut with
  | .error words, _ => (w, [.threw words])
  | .ok (), some reminders => (w, remindings (armed.take reminders))
  | .ok (), none =>
    match writesWithTheOrder record record.order t fresh effects with
    | .error words => (w, remindings armed ++ [.threw words])
    | .ok [] =>
      match w.store.addOrder record with
      | .error words => (w, remindings armed ++ [.threw words])
      | .ok store =>
        ({ w with store := store, tasks := w.tasks.set task ⟨none, [⟨record, effects, t⟩]⟩ },
          remindings armed)
    | .ok written =>
      (w, remindings armed ++
        [.threw (s!"creating {record.order.id} asked for {written.length} thing(s) to be written " ++
          "down with it, and the birth of an order has nowhere to write them")])

/-- What a call of `apply` leaves its caller with: it was cut off or thrown, it left nothing to carry
out, or it left a frame of effects. -/
inductive Aftermath (Doc : Type) where
  | lost
  | finished
  | runs (frame : Frame Doc)

/-- What a decided event leaves to carry out. -/
def Decided.aftermath (call : ApplyCall Doc) : Decided Doc → Aftermath Doc
  | .decided (.ok (_, effects)) known => .runs ⟨known, effects.filter carriedOutAfterwards, call.event.at⟩
  | .decided (.error _) _ | .movedOn => .finished

/-- Feeds one event to the machine (`apply`), up to the effects that are carried out afterwards. -/
def World.apply (R : Runtime) (w : World Doc) (call : ApplyCall Doc) (now : Int)
    (fresh : Nat → String) (cut : Option Nat) : World Doc × List (Notice Doc) × Aftermath Doc :=
  let held := w.hold cut call.orderId call.scope (applyDecision R.config call now fresh)
  match held.2.2 with
  | none => (held.1, held.2.1, .lost)
  | some (.threw words) => (held.1, held.2.1 ++ [.threw words], .lost)
  | some .notFound => (held.1, held.2.1 ++ [.applied call none], .finished)
  | some (.decided change) =>
    (held.1, held.2.1 ++ [.applied call (some change.result)], change.result.aftermath call)

/-- A call of `apply` by somebody who goes on with nothing but its effects. -/
def World.applyAlone (R : Runtime) (w : World Doc) (task : Nat) (call : ApplyCall Doc) (now : Int)
    (fresh : Nat → String) (cut : Option Nat) : World Doc × List (Notice Doc) :=
  let came := w.apply R call now fresh cut
  match came.2.2 with
  | .runs frame => ({ came.1 with tasks := came.1.tasks.set task ⟨none, [frame]⟩ }, came.2.1)
  | .lost | .finished => (came.1, came.2.1)

/-! ## A payment is presented -/

section

variable (w : World Doc)

def World.goesOn (k : Nat) (call : PayCall) (stage : PayStage) : World Doc :=
  { w with calls := w.calls.set k { call with stage := stage } }

/-- A call that is over, for what it may still write. -/
def World.hangUp (k : Nat) : World Doc := { w with calls := w.calls.delete k }

/-- A purchase is paid for: the order is read, and its price with it. -/
def World.pay (k : Nat) (orderId payment fingerprint : String) : World Doc × List (Notice Doc) :=
  match w.store.orderById orderId with
  | none => (w, [.answered orderId .noSuchItem])
  | some before =>
    match before.order.price with
    | none =>
      (w, [.answered orderId (.paymentNotVerified
        "this order has no price for a payment to be checked against" false)])
    | some price =>
      ({ w with
          calls := w.calls.set k
            ⟨orderId, payment, fingerprint, .read before.merchantId price⟩ }, [])

/-- The address the order's merchant is paid at is read, and the payment layer is asked. -/
def World.readWallet (k : Nat) (call : PayCall) (merchantId : String)
    (price : Price) : World Doc × List (Notice Doc) :=
  (w.goesOn k call
    (.asking
      { orderId := call.orderId
        amount := price.amount
        currency := price.currency
        payment := call.payment
        payTo := w.store.payoutWallets.get merchantId }), [])

end

/-- The payment layer answers. The owner is who it says paid, or the fingerprint of the payment. -/
def World.verify (R : Runtime) (w : World Doc) (k : Nat) (call : PayCall) (charge : Charge) :
    VerifyOutcome → World Doc × List (Notice Doc)
  | .verified payer =>
    let owner := (walletThatPaid R payer).getD call.fingerprint
    (w.goesOn k call (.checkedOut charge owner), [.verified charge owner])
  | .notVerified _ message => (w.hangUp k, [.answered call.orderId (.paymentNotVerified message false)])
  | .unknown message => (w.hangUp k, [.answered call.orderId (.paymentNotVerified message true)])

/-- The payment is claimed for the order. -/
def World.claim (w : World Doc) (k : Nat) (call : PayCall) (charge : Charge) (owner : String)
    (now : Int) : World Doc × List (Notice Doc) :=
  let claim := w.store.claimPayment call.fingerprint call.orderId now
  match claim.2 with
  | .claimed => (({ w with store := claim.1 } : World Doc).goesOn k call (.claimed charge owner), [])
  | .heldBy holder => (({ w with store := claim.1 } : World Doc).goesOn k call (.spent holder), [])

/-- The order that holds the claim is read, and the agent is pointed at it. -/
def World.readHolder (w : World Doc) (k : Nat) (call : PayCall) (holder : String) : World Doc × List (Notice Doc) :=
  let collectable := (w.store.orderById holder).any fun record => outcomeFor record.order = .inProgress
  (w.hangUp k, [.answered call.orderId (.paymentAlreadySpent holder collectable)])

def PayCall.presentation (call : PayCall) (charge : Charge) (owner : String) : Presentation :=
  { orderId := call.orderId, owner := owner, payment := call.payment, payTo := charge.payTo }

/-- The verified payment is presented (`presentVerifiedPayment`), up to the effects that are carried
out afterwards. -/
def World.present (R : Runtime) (w : World Doc) (k task : Nat) (call : PayCall) (charge : Charge)
    (owner : String) (t now : Int) (fresh : Nat → String) (cut : Option Nat) : World Doc × List (Notice Doc) :=
  let presented := call.presentation charge owner
  let held := w.hold cut presented.orderId none (presentDecision R.config presented t now fresh)
  match held.2.2 with
  | none => (held.1.hangUp k, held.2.1)
  | some (.threw words) => (held.1.hangUp k, held.2.1 ++ [.threw words])
  | some .notFound => (held.1.goesOn k call (.turnedAway .noSuchItem), held.2.1 ++ [.presented presented none])
  | some (.decided change) =>
    let notices := held.2.1 ++ [.presented presented (some change.result)]
    match change.result with
    | .took known effects =>
      let after := held.1.hangUp k
      ({ after with
          tasks := after.tasks.set task ⟨none, [⟨known, runnableEffects effects, t⟩]⟩ }, notices)
    | .alreadyYours _ => (held.1.hangUp k, notices)
    | .notOwner _ => (held.1.goesOn k call (.turnedAway .notThisPurchase), notices)
    | .refused rejection =>
      (held.1.hangUp k,
        notices ++ [.answered call.orderId
          (.paymentNotTaken rejection.message rejection.retryable)])

section

variable (w : World Doc)

/-- The claim on a payment the order did not take goes back. -/
def World.release (k : Nat) (call : PayCall) (answer : PurchaseAnswer) : World Doc × List (Notice Doc) :=
  (({ w with store := w.store.releaseClaim call.fingerprint call.orderId } : World Doc).hangUp k,
    [.answered call.orderId answer])

/-! ## Effects are carried out -/

/-- Where a run of effects goes on from. -/
def World.proceeds (k : Nat) (waiting : Option Charge) (frames : List (Frame Doc)) : World Doc :=
  { w with tasks := w.tasks.set k ⟨waiting, frames⟩ }

/-- A run of effects that is over, or was thrown out of. -/
def World.drop (k : Nat) : World Doc := { w with tasks := w.tasks.delete k }

/-- The innermost frame of a run is worked through. -/
def World.returns (k : Nat) (rest : List (Frame Doc)) : World Doc :=
  if rest.isEmpty then w.drop k else w.proceeds k none rest

end

/-- Whoever is parked on the purchase is woken, once the order has an answer for him
(`#wakeTheAgent`). -/
def wakeTheAgent (record : StoredOrder Doc) : List (Notice Doc) :=
  match record.paidBy with
  | none => []
  | some owner => if outcomeFor record.order ≠ .inProgress then [.woken record.order.id owner] else []

/-- The next effect of a run is carried out (`#run`). -/
def World.carryOut (w : World Doc) (k : Nat) (frame : Frame Doc) (rest : List (Frame Doc)) :
    World Doc × List (Notice Doc) :=
  match frame.effects with
  | [] => (w.returns k rest, wakeTheAgent frame.record)
  | effect :: more =>
    let after := { frame with effects := more } :: rest
    match effect with
    | .executePayment =>
      match chargeOf frame.record with
      | .error words => (w.drop k, [.threw words])
      | .ok charge => (w.proceeds k (some charge) after, [.settleCalled charge])
    | .dispatchOrder | .redeliverOrder .. | .emitMerchantEvent _ | .issueReceipt =>
      (w.drop k,
        [.threw (s!"{effect.kind} on {frame.record.order.id} was written down with the order " ++
          "and must not be carried out again")])
    | .invitePayment | .dispatchConfirmationRequest =>
      (w.drop k,
        [.threw (s!"{effect.kind} belongs to the confirmation mode, " ++
          "which has no shape on the wire yet")])
    | .answerMerchant answer => (w.proceeds k none after, [.answeredMerchant frame.record.order.id answer])
    | .requestQuote | .verifyPayment | .markRefundDue _ | .releaseGoodsToAgent
    | .holdFulfillment => (w.proceeds k none after, [])

/-- The payment layer answers a charge, and the run it belongs to goes on with what that leads to. -/
def World.settle (R : Runtime) (w : World Doc) (k : Nat) (frame : Frame Doc)
    (rest : List (Frame Doc)) (outcome : SettleOutcome) (now : Int) (fresh : Nat → String)
    (cut : Option Nat) : World Doc × List (Notice Doc) :=
  match afterSettle frame.record frame.at outcome with
  | .apply call =>
    let came := w.apply R call now fresh cut
    match came.2.2 with
    | .lost => (came.1.drop k, came.2.1)
    | .finished => (came.1.proceeds k none (frame :: rest), came.2.1)
    | .runs inner => (came.1.proceeds k none (inner :: frame :: rest), came.2.1)
  | .writeDown orderId word =>
    let held := w.hold cut orderId none (writeDownDecision R.config word)
    match held.2.2 with
    | none => (held.1.drop k, held.2.1)
    | some _ => (held.1.proceeds k none (frame :: rest), held.2.1)

/-! ## The sweep -/

/-- A sweep begins, under its name: a second one finds the name held and does nothing. -/
def World.beginSweep (w : World Doc) (k : Nat) (now : Int) : World Doc :=
  if w.alone.isSome then w
  else
    { w with
      sweeps := w.sweeps.set k ⟨now, w.store.openOrders, none⟩
      alone := some k }

/-- An open order is looked at: it may be put on its merchant's stream again, and its clocks that ran
out are started again. -/
def World.sweepOpen (R : Runtime) (w : World Doc) (k : Nat) (sweep : Sweep Doc)
    (record : StoredOrder Doc) (rest : List (StoredOrder Doc)) (holdsOrder : Bool) (id : String) :
    World Doc × List (Notice Doc) :=
  let after := { w with sweeps := w.sweeps.set k { sweep with unlooked := rest } }
  match sweepTheDispatch R.config record sweep.now holdsOrder id with
  | .error words => (after, [.threw words])
  | .ok envelope =>
    (after, (envelope.map fun e => .published record.merchantId e none).toList ++
      remindings (sweepTheClocks record sweep.now))

/-- The delivered orders with no receipt are read. -/
def World.sweepDelivered (w : World Doc) (k : Nat) (sweep : Sweep Doc) : World Doc :=
  { w with
    sweeps := w.sweeps.set k { sweep with unreceipted := some w.store.deliveredWithoutReceipt } }

/-- A delivered order with no receipt gets one. -/
def World.sweepReceipt (w : World Doc) (k : Nat) (sweep : Sweep Doc) (record : StoredOrder Doc)
    (rest : List (StoredOrder Doc)) (id : String) : World Doc × List (Notice Doc) :=
  let after := { w with sweeps := w.sweeps.set k { sweep with unreceipted := some rest } }
  match receiptFor record record.order id sweep.now with
  | .error words => (after, [.threw words])
  | .ok receipt => ({ after with store := after.store.putReceipt record.merchantId receipt }, [])

/-- A sweep ends, or is cut off: the name goes with it. -/
def World.stopSweep (w : World Doc) (k : Nat) : World Doc :=
  { w with
    sweeps := w.sweeps.delete k
    alone := if w.alone = some k then none else w.alone }

/-! ## The step -/

/-- Everything that can happen next, under the number of the call, the run of effects or the sweep it
happens to. Instants are what the clock says and fresh identifiers what is minted on the way; a cut is
the number of reminders after which a hold broke off. -/
inductive Action (Doc : Type) where
  | create (task : Nat) (sale : Sale Doc) (now : Int) (fresh : Nat → String) (cut : Option Nat)
  | apply (task : Nat) (call : ApplyCall Doc) (now : Int) (fresh : Nat → String) (cut : Option Nat)
  | pay (k : Nat) (orderId payment fingerprint : String)
  | readWallet (k : Nat)
  | verify (k : Nat) (outcome : VerifyOutcome)
  | claim (k : Nat) (now : Int)
  | readHolder (k : Nat)
  | present (k task : Nat) (t now : Int) (fresh : Nat → String) (cut : Option Nat)
  | release (k : Nat)
  | hangUp (k : Nat)
  | carryOut (k : Nat)
  | settle (k : Nat) (outcome : SettleOutcome) (now : Int) (fresh : Nat → String)
      (cut : Option Nat)
  | drop (k : Nat)
  | movePayoutWallet (merchantId : String) (wallet : Option String)
  | forgetClaims (instant : Int)
  | beginSweep (k : Nat) (now : Int)
  | sweepOpen (k : Nat) (holdsOrder : Bool) (id : String)
  | sweepDelivered (k : Nat)
  | sweepReceipt (k : Nat) (id : String)
  | stopSweep (k : Nat)
  | loseTheName

/-- An action that nothing under way is ready for. -/
inductive NotOn where
  | notOn

section

variable (R : Runtime)

/-- One step of the gateway. -/
def World.step (w : World Doc) : Action Doc → Except NotOn (World Doc × List (Notice Doc))
  | .create task sale now fresh cut =>
    if w.tasks.has task then .error .notOn else .ok (w.create task sale now fresh cut)
  | .apply task call now fresh cut =>
    if w.tasks.has task then .error .notOn else .ok (w.applyAlone R task call now fresh cut)
  | .pay k orderId payment fingerprint =>
    if w.calls.has k then .error .notOn else .ok (w.pay k orderId payment fingerprint)
  | .readWallet k =>
    match w.calls.get k with
    | some ⟨o, p, f, .read merchantId price⟩ =>
      .ok (w.readWallet k ⟨o, p, f, .read merchantId price⟩ merchantId price)
    | _ => .error .notOn
  | .verify k outcome =>
    match w.calls.get k with
    | some ⟨o, p, f, .asking charge⟩ => .ok (w.verify R k ⟨o, p, f, .asking charge⟩ charge outcome)
    | _ => .error .notOn
  | .claim k now =>
    match w.calls.get k with
    | some ⟨o, p, f, .checkedOut charge owner⟩ =>
      .ok (w.claim k ⟨o, p, f, .checkedOut charge owner⟩ charge owner now)
    | _ => .error .notOn
  | .readHolder k =>
    match w.calls.get k with
    | some ⟨o, p, f, .spent holder⟩ => .ok (w.readHolder k ⟨o, p, f, .spent holder⟩ holder)
    | _ => .error .notOn
  | .present k task t now fresh cut =>
    match w.calls.get k with
    | some ⟨o, p, f, .claimed charge owner⟩ =>
      if w.tasks.has task then .error .notOn
      else .ok (w.present R k task ⟨o, p, f, .claimed charge owner⟩ charge owner t now fresh cut)
    | _ => .error .notOn
  | .release k =>
    match w.calls.get k with
    | some ⟨o, p, f, .turnedAway answer⟩ => .ok (w.release k ⟨o, p, f, .turnedAway answer⟩ answer)
    | _ => .error .notOn
  | .hangUp k => .ok (w.hangUp k, [])
  | .carryOut k =>
    match w.tasks.get k with
    | some ⟨none, frame :: rest⟩ => .ok (w.carryOut k frame rest)
    | _ => .error .notOn
  | .settle k outcome now fresh cut =>
    match w.tasks.get k with
    | some ⟨some _, frame :: rest⟩ => .ok (w.settle R k frame rest outcome now fresh cut)
    | _ => .error .notOn
  | .drop k => .ok (w.drop k, [])
  | .movePayoutWallet merchantId wallet =>
    .ok ({ w with store := w.store.movePayoutWallet merchantId wallet }, [])
  | .forgetClaims instant => .ok ({ w with store := w.store.forgetClaimsBefore instant }, [])
  | .beginSweep k now => if w.sweeps.has k then .error .notOn else .ok (w.beginSweep k now, [])
  | .sweepOpen k holdsOrder id =>
    match w.sweeps.get k with
    | some ⟨now, record :: rest, unreceipted⟩ =>
      .ok (w.sweepOpen R k ⟨now, record :: rest, unreceipted⟩ record rest holdsOrder id)
    | _ => .error .notOn
  | .sweepDelivered k =>
    match w.sweeps.get k with
    | some ⟨now, [], none⟩ => .ok (w.sweepDelivered k ⟨now, [], none⟩, [])
    | _ => .error .notOn
  | .sweepReceipt k id =>
    match w.sweeps.get k with
    | some ⟨now, [], some (record :: rest)⟩ =>
      .ok (w.sweepReceipt k ⟨now, [], some (record :: rest)⟩ record rest id)
    | _ => .error .notOn
  | .stopSweep k => .ok (w.stopSweep k, [])
  | .loseTheName => .ok ({ w with alone := none }, [])

def gatewayMachine (Doc : Type) : Reactor (World Doc) (Action Doc) (Notice Doc) NotOn := ⟨World.step R⟩

def gatewayRun (actions : List (Action Doc)) : World Doc := (gatewayMachine R Doc).run .empty actions

def gatewayLog (actions : List (Action Doc)) : List (Happening (Action Doc) (Notice Doc)) :=
  (gatewayMachine R Doc).log .empty actions

end

end Coinslot
