import Coinslot.Gateway.Store
import Coinslot.Orders.Money

/-!
# What the runner decides

The interpreter of the machine (`apps/gateway/src/app/runner.ts`), as far as it is a function of what
it reads: the documents it builds out of an order, the clocks it starts, the split of the effects into
those that are written with the order and those that are carried out afterwards, and the two decisions
it takes while an order is held still, on an event (`applyDecision`) and on a payment that has been
verified (`presentDecision`). What happens between its steps is `Coinslot.Gateway.World`.

A failure the source throws is an `Except.error` here, with the words it is thrown with. Identifiers
are handed in, one supply a call.
-/

namespace Coinslot

variable {Doc : Type}

/-- What the runner reads of the gateway's configuration. -/
structure Config where
  paymentWordsKept : Int
  sweepDispatchGraceMs : Int

/-- What is written down about the purchase in the same write as the order an event moved. -/
structure OrderFacts (Doc : Type) where
  delivery : Option Doc := none
  settlement : Option String := none
  paymentWord : Option PaymentWord := none
  priceId : Option String := none
  openDeliveryId : Option (Option String) := none

/-- The source's word for an effect. -/
def Effect.kind : Effect → String
  | .requestQuote => "request_quote"
  | .verifyPayment => "verify_payment"
  | .executePayment => "execute_payment"
  | .invitePayment => "invite_payment"
  | .dispatchConfirmationRequest => "dispatch_confirmation_request"
  | .dispatchOrder => "dispatch_order"
  | .redeliverOrder .. => "redeliver_order"
  | .releaseGoodsToAgent => "release_goods_to_agent"
  | .issueReceipt => "issue_receipt"
  | .holdFulfillment => "hold_fulfillment"
  | .markRefundDue _ => "mark_refund_due"
  | .emitMerchantEvent _ => "emit_merchant_event"
  | .answerMerchant _ => "answer_merchant"

/-- Whether this effect is carried out after the order is written, rather than written down with
it. -/
def carriedOutAfterwards : Effect → Bool
  | .dispatchOrder | .redeliverOrder .. | .emitMerchantEvent _ | .issueReceipt => false
  | .requestQuote | .verifyPayment | .executePayment | .invitePayment
  | .dispatchConfirmationRequest | .releaseGoodsToAgent | .holdFulfillment | .markRefundDue _
  | .answerMerchant _ => true

/-- The last check before an order is written down. -/
def refuseToWriteAnImpossibleOrder (order : Order) : Except String Unit :=
  let violations := moneyInvariantViolations order
  let words := "; ".intercalate violations
  if violations.isEmpty then .ok ()
  else
    .error (s!"the order {order.id} breaks what must be true about money " ++
      s!"and will not be written down — {words}")

/-! ## Documents -/

/-- What this order sold for, or nothing where nobody ever named a price. -/
def salePriceOf (record : StoredOrder Doc) : Option SalePrice :=
  record.order.price.map fun price =>
    { amount := price.amount
      currency := price.currency
      «at» := asTimestamp (record.order.timestamps.quotedAt.getD record.order.timestamps.createdAt)
      asOf := asTimestamp price.asOf }

/-- The order as the merchant's worker reads it. -/
def orderDocumentOf (record : StoredOrder Doc) : Except String (OrderDocument Doc) :=
  match salePriceOf record with
  | none => .error s!"the order {record.order.id} was sent to a merchant with no price on it"
  | some price =>
    .ok
      { id := record.order.id
        merchantItemId := record.merchantItemId
        params := record.params
        price := price
        priceId := record.priceId
        test := record.order.test }

/-- The receipt's word for where the order stands: only a delivered order has one. -/
def receiptOutcomeOf (order : Order) : Except String ReceiptOutcome :=
  if order.state ≠ .delivered then
    .error (s!"a receipt was asked for on an order in {order.state}, " ++
      "and this gateway has no word for that")
  else .ok .delivered

/-- The source's word for the reason an order stopped. -/
def Closure.cause : Closure → String
  | .unavailable => "unavailable"
  | .quoteSilent => "quote_silent"
  | .paymentNotVerified _ => "payment_not_verified"
  | .paymentNotSettled => "payment_not_settled"
  | .paymentOutcomeUnknown => "payment_outcome_unknown"
  | .merchantRefused .. => "merchant_refused"
  | .deadlineExpired _ => "deadline_expired"
  | .merchantDeparted => "merchant_departed"

/-- Why a refund is owed, in the three words the merchant's event carries. -/
def refundReasonOf (order : Order) : Except String RefundReason :=
  match order.closure with
  | none => .error s!"a refund fell due on {order.id} with nothing recording why"
  | some closure =>
    match closure with
    | .merchantRefused .. => .ok .refused
    | .merchantDeparted => .ok .merchantLeft
    | .deadlineExpired _ | .paymentOutcomeUnknown => .ok .deadlinePassed
    | .unavailable | .quoteSilent | .paymentNotVerified _ | .paymentNotSettled =>
      .error (s!"a refund fell due on {order.id} closed as {closure.cause}, " ++
        "which takes no money and so owes none")

/-- The envelope that hands the order to its merchant. -/
def orderEnvelope (record : StoredOrder Doc) (id : String) (t : Int) : Except String (WorkerEnvelope Doc) :=
  (orderDocumentOf record).map fun document => .order id (asTimestamp t) document

/-- The envelope that tells the merchant about one of his orders. -/
def eventEnvelope (record : StoredOrder Doc) (event : MerchantEvent) (id : String) (t : Int) :
    Except String (WorkerEnvelope Doc) :=
  match event with
  | .refundDue =>
    match record.order.price with
    | none =>
      .error (s!"a refund fell due on {record.order.id} and the order carries no price, " ++
        "so there is no sum to name")
    | some price =>
      (refundReasonOf record.order).map fun reason =>
        .orderEvent id (asTimestamp t)
          (.refundDue record.order.id (asTimestamp t) price.amount price.currency reason)
  | .unpaidAfterConfirmation =>
    .ok (.orderEvent id (asTimestamp t) (.unpaidAfterConfirmation record.order.id (asTimestamp t)))
  | .paymentFailedAfterDelivery =>
    .ok
      (.orderEvent id (asTimestamp t) (.paymentFailedAfterDelivery record.order.id (asTimestamp t)))

/-- The receipt for one order, as it should stand. The money moved on this transition, or at the
instant the order carries. -/
def receiptFor (record : StoredOrder Doc) (before : Order) (id : String) (t : Int) : Except String Receipt :=
  match record.order.price with
  | none => .error s!"a receipt was asked for on {record.order.id}, which has no price"
  | some price =>
    let moneyMovedNow := before.payment ≠ .settled && record.order.payment = .settled
    let paidAt := if moneyMovedNow then t else record.order.timestamps.paidAt.getD t
    (receiptOutcomeOf record.order).map fun outcome =>
      { id := id
        orderId := record.order.id
        itemId := record.itemId
        price :=
          { amount := price.amount
            currency := price.currency
            «at» := asTimestamp (record.order.timestamps.quotedAt.getD record.order.timestamps.createdAt)
            asOf := asTimestamp price.asOf }
        priceId := record.priceId
        paidAt := asTimestamp paidAt
        outcome := outcome
        test := record.order.test }

/-! ## What goes into the hold with the order -/

/-- The write one effect asks for, if it is one of those that land with the order. -/
def writeWithTheOrder (record : StoredOrder Doc) (before : Order) (id : String) (t : Int)
    (effect : Effect) : Except String (Option (WithTheOrder Doc)) :=
  match effect with
  | .dispatchOrder =>
    (orderEnvelope record id t).map fun envelope => some (.envelope record.merchantId envelope none)
  | .redeliverOrder _ delayMs =>
    (orderEnvelope record id t).map fun envelope => some (.envelope record.merchantId envelope (some delayMs))
  | .emitMerchantEvent event =>
    (eventEnvelope record event id t).map fun envelope => some (.envelope record.merchantId envelope none)
  | .issueReceipt => (receiptFor record before id t).map fun receipt => some (.receipt record.merchantId receipt)
  | _ =>
    if carriedOutAfterwards effect then .ok none
    else
      .error (s!"{effect.kind} on {record.order.id} is written down with the order " ++
        "and this does not know how to write it")

/-- The writes that go into the same hold as the order (`#writesWithTheOrder`). -/
def writesWithTheOrder (record : StoredOrder Doc) (before : Order) (t : Int) :
    (Nat → String) → List Effect → Except String (List (WithTheOrder Doc))
  | _, [] => .ok []
  | fresh, effect :: rest =>
    match writeWithTheOrder record before (fresh 0) t effect with
    | .error words => .error words
    | .ok write =>
      (writesWithTheOrder record before t (fun n => fresh (n + 1)) rest).map fun writes => write.toList ++ writes

/-- The clocks that are running now and were not before (`#arm`), each with the wait until it runs
out. -/
def arm (before after : List Deadline) (orderId : String) (now : Int) : List (Reminder × Int) :=
  (after.filter fun deadline =>
    !before.any fun was => was.kind = deadline.kind && was.at = deadline.at).map fun deadline =>
      (.deadline orderId deadline.kind deadline.at, max (deadline.at - now) 0)

/-- One more thing the payment layer said, kept alongside the last few, with a count of what fell
off (`#alsoSaid`). -/
def alsoSaid (config : Config) (record : StoredOrder Doc) (word : PaymentWord) : StoredOrder Doc :=
  let said := record.paymentWords ++ [word]
  let dropped := max ((said.length : Int) - config.paymentWordsKept) 0
  { record with
    paymentWords := if dropped = 0 then said else said.drop dropped.toNat
    paymentWordsDropped := record.paymentWordsDropped + dropped }

/-- The goods to write down, out of the ones this call carried: the first the order has, unless the
machine turned them away. -/
def goodsToKeep (found : StoredOrder Doc) (delivery : Option Doc) (effects : List Effect) : Option Doc :=
  match delivery, found.delivery with
  | none, kept => kept
  | some _, some kept => some kept
  | some goods, none =>
    let turnedAway := effects.any fun effect =>
      match effect with
      | .answerMerchant (.failure ..) => true
      | _ => false
    if turnedAway then none else some goods

/-! ## The two decisions -/

/-- The record with the facts that came with an event, the goods aside. -/
def withFacts (config : Config) (found : StoredOrder Doc) (facts : OrderFacts Doc) : StoredOrder Doc :=
  let settled := { found with settlement := facts.settlement.or found.settlement }
  let said :=
    match facts.paymentWord with
    | none => settled
    | some word => alsoSaid config settled word
  { said with
    priceId := facts.priceId.or said.priceId
    openDeliveryId := facts.openDeliveryId.getD said.openDeliveryId }

/-- What one hold on an order came to, before its effects are carried out. -/
inductive Decided (Doc : Type) where
  | decided (moved : TransitionResult) (known : StoredOrder Doc)
  | movedOn

/-- One call of `apply`. Given a scope, the order of another merchant is not found; given a hand-over,
the event counts only while the order waits on it. -/
structure ApplyCall (Doc : Type) where
  orderId : String
  event : OrderEvent
  facts : OrderFacts Doc := {}
  scope : Option String := none
  whileWaitingOn : Option String := none

/-- The decision `apply` takes under the hold. -/
def applyDecision (config : Config) (call : ApplyCall Doc) (now : Int) (fresh : Nat → String)
    (found : StoredOrder Doc) : Decision Doc (Decided Doc) :=
  if call.whileWaitingOn.any fun handOver => found.openDeliveryId ≠ some handOver then
    ⟨[], .ok ⟨none, [], .movedOn⟩⟩
  else
    let known := withFacts config found call.facts
    match transition known.order call.event with
    | .error rejection => ⟨[], .ok ⟨none, [], .decided (.error rejection) known⟩⟩
    | .ok (order, effects) =>
      match refuseToWriteAnImpossibleOrder order with
      | .error words => ⟨[], .error words⟩
      | .ok () =>
        let next :=
          { known with
            order := order
            delivery := goodsToKeep found call.facts.delivery effects }
        -- The clocks are started before the writes are built, and stand where that fails.
        let armed := arm (deadlines known.order) (deadlines next.order) call.orderId now
        match writesWithTheOrder next known.order call.event.at fresh effects with
        | .error words => ⟨armed, .error words⟩
        | .ok alongside => ⟨armed, .ok ⟨some next, alongside, .decided (.ok (order, effects)) next⟩⟩

/-- The events a verified payment drives an order home with, from where it stands. -/
def eventsForVerifiedPayment (order : Order) (t : Int) : List StateEvent :=
  match order.state with
  | .quoted | .confirmed => [.paymentVerified t]
  | .deliveredUnpaid => [.purchaseRepeated t, .paymentVerified t]
  | .expired => if order.heldFulfillment then [.purchaseRepeated t, .paymentVerified t] else []
  | _ => []

/-- Why the events of a payment were not all taken. -/
inductive Halt where
  | refused (rejection : TransitionRejection)
  | threw (words : String)

/-- The order the events of a payment lead to, with everything asked for on the way. -/
def driven (order : Order) : List StateEvent → Except Halt (Order × List Effect)
  | [] => .ok (order, [])
  | event :: rest =>
    match transition order (.state event) with
    | .error rejection => .error (.refused rejection)
    | .ok (moved, effects) =>
      match refuseToWriteAnImpossibleOrder moved with
      | .error words => .error (.threw words)
      | .ok () => (driven moved rest).map fun (last, more) => (last, effects ++ more)

/-- What the hold in `presentVerifiedPayment` came to, before its effects run. -/
inductive PresentDecided (Doc : Type) where
  | took (known : StoredOrder Doc) (effects : List Effect)
  | alreadyYours (state : OrderState)
  | notOwner (state : OrderState)
  | refused (rejection : TransitionRejection)

/-- A verified payment presented for an order: who paid, with what, and to which address. -/
structure Presentation where
  orderId : String
  owner : String
  payment : String
  payTo : Option String

/-- The decision `presentVerifiedPayment` takes under the hold. -/
def presentDecision (config : Config) (presented : Presentation) (t now : Int)
    (fresh : Nat → String) (found : StoredOrder Doc) : Decision Doc (PresentDecided Doc) :=
  if found.paidBy.any (· ≠ presented.owner) then ⟨[], .ok ⟨none, [], .notOwner found.order.state⟩⟩
  else
    match eventsForVerifiedPayment found.order t with
    | [] => ⟨[], .ok ⟨none, [], .alreadyYours found.order.state⟩⟩
    | event :: rest =>
      match driven found.order (event :: rest) with
      | .error (.refused rejection) => ⟨[], .ok ⟨none, [], .refused rejection⟩⟩
      | .error (.threw words) => ⟨[], .error words⟩
      | .ok (order, effects) =>
        let word : PaymentWord := ⟨t, .verify, s!"checked out, paid by {presented.owner}"⟩
        let next :=
          alsoSaid config
            { found with
              order := order
              payment := some presented.payment
              payTo := presented.payTo
              paidBy := some presented.owner } word
        let armed := arm (deadlines found.order) (deadlines order) presented.orderId now
        match writesWithTheOrder next found.order t fresh effects with
        | .error words => ⟨armed, .error words⟩
        | .ok alongside => ⟨armed, .ok ⟨some next, alongside, .took next effects⟩⟩

/-- The effects of a presented payment that are left to carry out: the request to verify it is
answered already. -/
def runnableEffects (effects : List Effect) : List Effect :=
  effects.filter fun effect => effect ≠ .verifyPayment && carriedOutAfterwards effect

/-! ## The charge -/

/-- One charge, as the payment layer needs to see it. -/
structure Charge where
  orderId : String
  amount : String
  currency : String
  /-- What the agent presented, exactly as it arrived. -/
  payment : String
  /-- The address the merchant of the order is paid at. -/
  payTo : Option String
  deriving DecidableEq, Repr

/-- What the payment layer says of a payment it is asked to check. -/
inductive VerifyOutcome where
  | verified (payer : Option String)
  | notVerified (reason : PaymentVerificationFailure) (message : String)
  | unknown (message : String)
  deriving DecidableEq, Repr

/-- What the payment layer says of a charge it is asked to execute. -/
inductive SettleOutcome where
  | settled (txn : String)
  | failed (reason : String)
  | unknown (reason : String)
  deriving DecidableEq, Repr

/-- The charge an order asks to be executed, out of the payment it carries and its price. -/
def chargeOf (record : StoredOrder Doc) : Except String Charge :=
  match record.payment, record.order.price with
  | some payment, some price =>
    .ok
      { orderId := record.order.id
        amount := price.amount
        currency := price.currency
        payment := payment
        payTo := record.payTo }
  | _, _ =>
    .error (s!"the machine asked for the charge on {record.order.id} to be executed " ++
      "and there is nothing to execute")

/-- What is done with the payment layer's answer to a charge: the machine is told, or, where there is
nothing to tell, the words are written down. -/
inductive AfterSettle (Doc : Type) where
  | apply (call : ApplyCall Doc)
  | writeDown (orderId : String) (word : PaymentWord)

/-- The answer to a charge, turned into what is done about it (`#settle`). -/
def afterSettle (record : StoredOrder Doc) (t : Int) : SettleOutcome → AfterSettle Doc
  | .settled txn =>
    .apply
      { orderId := record.order.id
        event := .state (.paymentSettled t)
        facts :=
          { settlement := some txn
            paymentWord := some ⟨t, .settle, s!"went through as {txn}"⟩ } }
  | .failed reason =>
    .apply
      { orderId := record.order.id
        event := .state (.paymentSettleFailed t)
        facts := { paymentWord := some ⟨t, .settle, reason⟩ } }
  | .unknown reason => .writeDown record.order.id ⟨t, .settle, reason⟩

/-- Records something the payment layer said, without telling the machine (`#writeDown`). -/
def writeDownDecision (config : Config) (word : PaymentWord) (found : StoredOrder Doc) : Decision Doc Unit :=
  ⟨[], .ok ⟨some (alsoSaid config found word), [], ()⟩⟩

/-! ## What an order is still owed -/

/-- The envelope a paid order that reached nobody is put on its merchant's stream with, where it has
waited longer than the patience and the stream holds nothing for it (`#sweepTheDispatch`). -/
def sweepTheDispatch (config : Config) (record : StoredOrder Doc) (now : Int) (holdsOrder : Bool)
    (id : String) : Except String (Option (WorkerEnvelope Doc)) :=
  match record.order.timestamps.paidAt with
  | none => .ok none
  | some paidAt =>
    if record.order.state ≠ .paid then .ok none
    else if paidAt + config.sweepDispatchGraceMs > now then .ok none
    else if holdsOrder then .ok none
    else (orderEnvelope record id now).map some

/-- The clocks of an order that have already run out, started again (`#sweepTheClocks`). -/
def sweepTheClocks (record : StoredOrder Doc) (now : Int) : List (Reminder × Int) :=
  ((deadlines record.order).filter fun deadline => deadline.at ≤ now).map fun deadline =>
    (.deadline record.order.id deadline.kind deadline.at, 0)

end Coinslot
