import Coinslot.Orders.Deadlines
import Coinslot.Orders.Create

/-!
# The order state machine

`transition` (`packages/core/src/orders/machine.ts`): one machine for all three fulfillment modes,
with the modes as guards. It takes an order and an event and returns the order moved and the effects
asked for, or a refusal. The expiry of a deadline is answered once, centrally, by `onDeadline`; every
other event is answered by the handler of the state the order is in.

A handler names the events it takes. The events it has no meaning for are its last arm, where the
source lists them one by one for its compiler.
-/

namespace Coinslot

/-! ## The answers -/

/-- An accepted event: the order moved, and the effects asked for. -/
def ok (order : Order) (effects : List Effect := []) : TransitionResult := .ok (order, effects)

/-- Only one refusal means "come back later". -/
def isRetryable (code : TransitionRejectionCode) : Bool := code = .settleInFlight

/-- A refused event. -/
def reject (order : Order) (event : OrderEventKind) (code : TransitionRejectionCode)
    (message : String) : TransitionResult :=
  .error
    { code := code
      retryable := isRetryable code
      state := order.state
      event := event
      message := message }

/-- The event does not belong in this state at all. -/
def notApplicable (order : Order) (event : StateEvent) : TransitionResult :=
  reject order event.kind .eventNotApplicable
    s!"{event.kind} has no meaning for an order in {order.state}"

/-- The merchant's call is answered and the order does not move. -/
def answer (order : Order) (merchantAnswer : MerchantAnswer) : TransitionResult :=
  ok order [.answerMerchant merchantAnswer]

/-- The merchant is told his acceptance landed (`ACCEPTANCE_LANDED`). -/
def acceptanceLanded : Effect := .answerMerchant (.success .accepted)

def closedToMerchant (order : Order) : TransitionResult := answer order (.failure .orderAlreadyClosed false)

/-! ## The moves several states share -/

/-- What the machine still answers while the payment is being executed: the settle's own outcome,
and the two calls of a merchant who has produced the goods. -/
def allowedWhileSettling (order : Order) (event : StateEvent) : Bool :=
  match event with
  | .paymentSettled _ | .paymentSettleFailed _ => true
  | .deliverCalled _ | .refuseCalled .. => order.state = .fulfilled || order.state = .deliveredUnpaid
  | _ => false

/-- A silent price check is an open failure only where the merchant's own answer still stands
between the price and the charge. -/
def sellsOnSilentQuote (mode : OrderMode) : Bool := mode.needsConfirmation || mode.settle = .afterFulfillment

section

variable (order : Order)

/-- The order closed in `state`, for the reason given. -/
def closeWithoutMoney (state : OrderState) (closure : Closure) : Order :=
  { order with state := state, closure := some closure }

section

variable (t : Int)

/-- The order priced. -/
def quotedOrder (price : Price) (source : QuoteSource) : Order :=
  { order with
    state := .quoted
    price := some price
    quoteSource := some source
    timestamps := { order.timestamps with quotedAt := some t } }

def enterQuoted (price : Price) (source : QuoteSource) : TransitionResult :=
  ok (quotedOrder order t price source) (effectsOnQuoted order.mode)

/-- The merchant did not say what the goods cost: answered by the per-mode policy. -/
def onQuoteSilence : TransitionResult :=
  if sellsOnSilentQuote order.mode then enterQuoted order t order.cardPrice .cardSnapshot
  else ok (closeWithoutMoney order .rejected .quoteSilent)

/-- The order with its payment out for execution, and the clock on the answer started. -/
def settlingOrder (state : OrderState) : Order :=
  { order with
    state := state
    payment := .settling
    timestamps := { order.timestamps with settleStartedAt := some t } }

def startSettle (state : Option OrderState := none) : TransitionResult :=
  ok (settlingOrder order t (state.getD order.state)) [.executePayment]

/-- The order ready to go to the merchant, its delivery counters fresh. -/
def paidOrder (payment : PaymentStage) : Order :=
  { order with
    state := .paid
    payment := payment
    dispatch := { attempts := 0, accepted := false }
    timestamps := { order.timestamps with paidAt := some t } }

def enterPaid (payment : PaymentStage) : TransitionResult := ok (paidOrder order t payment) [.dispatchOrder]

end

end

/-- What a debt asks of the gateway. -/
def debtEffects (closure : Closure) : List Effect := [.markRefundDue closure, .emitMerchantEvent .refundDue]

section

variable (order : Order)

/-- A fulfillment that will not happen, resolved by where the money is: a debt after the charge,
and no purchase before it. -/
def resolveFulfillmentFailure (closure : Closure) : TransitionResult :=
  if order.payment = .settled then ok (closeWithoutMoney order .refundDue closure) (debtEffects closure)
  else
    let state : OrderState :=
      match closure with
      | .merchantRefused .. => .failed
      | _ => .expired
    ok (closeWithoutMoney order state closure)

/-- The order as a success: the goods are the agent's and nothing is recorded against it. -/
def deliveredOrder : Order := { order with state := .delivered, closure := none }

/-- The goods arrived: where the money moves last it is sent for execution, and everywhere else the
goods are the agent's. -/
def deliverGoods (t : Int) (extra : List Effect := []) : TransitionResult :=
  match order.mode.settle with
  | .afterFulfillment => do
    let (settling, effects) ← startSettle order t (some .fulfilled)
    ok settling (effects ++ extra)
  | .onPurchase => ok (deliveredOrder order) ([.releaseGoodsToAgent, .issueReceipt] ++ extra)

/-- The merchant left. A charged order that never got its goods stays a debt. -/
def onDeparture : TransitionResult :=
  if order.payment = .settled then
    ok (closeWithoutMoney order .refundDue .merchantDeparted) (debtEffects .merchantDeparted)
  else ok (closeWithoutMoney order .cancelled .merchantDeparted)

/-- An order that never reached the handler goes back into the queue, unless another attempt would
be pointless. `giveUp` is the deadline the closure cites. -/
def redeliver (t : Int) (deadlineAt : Option Int) (giveUp : DeadlineKind) : TransitionResult :=
  match nextRedelivery ⟨order.dispatch.attempts, t, deadlineAt, order.policy.redelivery⟩ with
  | .retry attempt delayMs => ok order [.redeliverOrder attempt delayMs]
  | .giveUp _ => resolveFulfillmentFailure order (.deadlineExpired giveUp)

/-! ## Deadlines -/

/-- The execution of the payment never reported back. The guess that the money did not move is
written down as a guess. -/
def onSilentSettle : TransitionResult :=
  let silent : Order := { order with payment := .outcomeUnknown }
  if order.state = .fulfilled then
    ok { silent with state := .deliveredUnpaid, closure := none }
      [.emitMerchantEvent .paymentFailedAfterDelivery]
  else if order.state = .deliveredUnpaid then ok silent
  else
    let closed := closeWithoutMoney silent .rejected .paymentOutcomeUnknown
    if order.state = .confirmed then ok closed [.emitMerchantEvent .unpaidAfterConfirmation]
    else ok closed

/-- A deadline that ran out, on an order it is running on. -/
def expire (t : Int) (deadline : DeadlineKind) : TransitionResult :=
  let closure : Closure := .deadlineExpired deadline
  match deadline with
  | .quoteResponse => onQuoteSilence order t
  | .quoteExpiry | .confirmationResponse => ok (closeWithoutMoney order .expired closure)
  | .settleResponse => onSilentSettle order
  | .paymentAfterConfirmation =>
    ok (closeWithoutMoney order .expired closure) [.emitMerchantEvent .unpaidAfterConfirmation]
  | .syncResponse | .asyncFulfillment => resolveFulfillmentFailure order closure

/-- The expiry of a deadline: refused where it is not running and where it has not come due. -/
def onDeadline (t : Int) (deadline : DeadlineKind) : TransitionResult :=
  match (deadlines order).find? (·.kind = deadline) with
  | none =>
    reject order .deadlineExpired .deadlineNotArmed
      s!"the {deadline} deadline is not running on an order in {order.state}"
  | some armed =>
    if t < armed.at then
      reject order .deadlineExpired .deadlineNotYetDue
        s!"the {deadline} deadline runs until {armed.at} and the expiry claims {t}"
    else expire order t deadline

/-! ## The states -/

section

variable (event : StateEvent)

/-- `created`: the price has not come back yet. -/
def fromCreated : TransitionResult :=
  match event with
  | .quoteAnswered _ none => ok (closeWithoutMoney order .rejected .unavailable)
  | .quoteAnswered t (some price) =>
    if price.currency ≠ order.cardPrice.currency then
      reject order event.kind .currencyChanged
        (s!"the card is priced in {order.cardPrice.currency} and the quote answered in " ++
          s!"{price.currency}, and a quote may move the number but not the currency")
    else enterQuoted order t price .merchantAnswer
  | .quoteSilent t => onQuoteSilence order t
  | .merchantDeparted _ => onDeparture order
  | .purchaseRepeated _ => ok order
  | _ => notApplicable order event

/-- `quoted`: the price is fixed and the payment question is next. -/
def fromQuoted : TransitionResult :=
  match event with
  | .paymentVerified t =>
    if order.mode.needsConfirmation then notApplicable order event
    else
      match order.mode.settle with
      | .afterFulfillment => enterPaid order t .verified
      | .onPurchase => startSettle order t
  | .paymentVerificationFailed _ reason => ok (closeWithoutMoney order .rejected (.paymentNotVerified reason))
  | .paymentSettled t =>
    if order.payment = .settling then enterPaid order t .settled else notApplicable order event
  | .paymentSettleFailed _ =>
    if order.payment = .settling then
      ok { closeWithoutMoney order .rejected .paymentNotSettled with payment := .settleFailed }
    else notApplicable order event
  | .confirmationDispatched t =>
    if order.mode.needsConfirmation then
      ok { order with
        state := .awaitingConfirmation
        dispatch := { attempts := 1, accepted := false }
        timestamps := { order.timestamps with confirmationRequestedAt := some t } }
    else notApplicable order event
  | .merchantDeparted _ => onDeparture order
  | .purchaseRepeated _ => ok order
  | _ => notApplicable order event

/-- `awaiting_confirmation`: the merchant was asked, and no money has moved. -/
def fromAwaitingConfirmation : TransitionResult :=
  match event with
  | .handlerAccepted t =>
    ok
      { order with
        state := .confirmed
        timestamps := { order.timestamps with confirmedAt := some t } }
      [.invitePayment, acceptanceLanded]
  | .handlerRefused _ code message => ok (closeWithoutMoney order .declined (.merchantRefused code message))
  | .refuseCalled _ code message =>
    ok (closeWithoutMoney order .declined (.merchantRefused code message))
      [.answerMerchant (.success .refused)]
  | .handlerDelivered _ | .deliverCalled _ =>
    reject order event.kind .deliveryBeforePayment
      "goods cannot be handed over against a confirmation request: nothing has been charged"
  | .handlerUndelivered t =>
    redeliver order t
      (order.timestamps.confirmationRequestedAt.map
        (· + order.policy.deadlines.confirmationResponseMs))
      .confirmationResponse
  | .confirmationDispatched _ =>
    ok { order with dispatch := { order.dispatch with attempts := order.dispatch.attempts + 1 } }
  | .merchantDeparted _ => onDeparture order
  | .purchaseRepeated _ => ok order
  | _ => notApplicable order event

/-- `confirmed`: the merchant said he will, and the agent has a deadline to pay. -/
def fromConfirmed : TransitionResult :=
  match event with
  | .paymentVerified t =>
    match order.mode.settle with
    | .afterFulfillment => enterPaid order t .verified
    | .onPurchase => startSettle order t
  | .paymentSettled t =>
    if order.payment = .settling then enterPaid order t .settled else notApplicable order event
  | .paymentVerificationFailed _ reason =>
    ok (closeWithoutMoney order .rejected (.paymentNotVerified reason))
      [.emitMerchantEvent .unpaidAfterConfirmation]
  | .paymentSettleFailed _ =>
    if order.payment = .settling then
      ok { closeWithoutMoney order .rejected .paymentNotSettled with payment := .settleFailed }
        [.emitMerchantEvent .unpaidAfterConfirmation]
    else notApplicable order event
  | .refuseCalled _ code message =>
    ok (closeWithoutMoney order .declined (.merchantRefused code message))
      [.answerMerchant (.success .refused)]
  | .handlerRefused _ code message => ok (closeWithoutMoney order .declined (.merchantRefused code message))
  | .merchantDeparted _ => onDeparture order
  | .purchaseRepeated _ => ok order
  | _ => notApplicable order event

end

/-- The hand-over we recorded ourselves, with the instant it happened at. -/
def dispatchedOrder (t : Int) : Order :=
  { order with
    state := .dispatched
    dispatch := { attempts := order.dispatch.attempts + 1, accepted := false }
    timestamps := { order.timestamps with dispatchedAt := some t } }

/-- The hand-over we learned about from his handler answering: it happened, and we do not know
when. -/
def handedOver : Order :=
  { order with
    state := .dispatched
    dispatch := { order.dispatch with attempts := max order.dispatch.attempts 1 } }

section

variable (event : StateEvent)

/-- `dispatched`: the order was handed to the merchant's handler. -/
def fromDispatched : TransitionResult :=
  match event with
  | .handlerAccepted _ =>
    ok { order with dispatch := { order.dispatch with accepted := true } } [acceptanceLanded]
  | .handlerDelivered t => deliverGoods order t
  | .handlerRefused _ code message => resolveFulfillmentFailure order (.merchantRefused code message)
  | .handlerUndelivered t =>
    let deadline := (fulfillmentDeadline order).head?
    redeliver order t (deadline.map (·.at))
      ((deadline.map (·.kind)).getD
        (match order.mode.settle with
          | .afterFulfillment => .syncResponse
          | .onPurchase => .asyncFulfillment))
  | .deliverCalled t =>
    match order.mode.settle with
    | .afterFulfillment => answer order (.failure .notApplicableInMode false)
    | .onPurchase => deliverGoods order t [.answerMerchant (.success .delivered)]
  | .refuseCalled _ code message =>
    match order.mode.settle with
    | .afterFulfillment => answer order (.failure .notApplicableInMode false)
    | .onPurchase => do
      let (refused, effects) ← resolveFulfillmentFailure order (.merchantRefused code message)
      ok refused (effects ++ [.answerMerchant (.success .refused)])
  | .orderDispatched t =>
    let alreadyRecorded := order.timestamps.dispatchedAt.isSome
    ok { order with
      dispatch := { order.dispatch with
        attempts := if alreadyRecorded then order.dispatch.attempts + 1
          else order.dispatch.attempts }
      timestamps := { order.timestamps with dispatchedAt := some t } }
  | .merchantDeparted _ => onDeparture order
  | .purchaseRepeated _ => ok order
  | _ => notApplicable order event

/-- `paid`: the payment question is settled as far as the mode requires, and the order is queued. -/
def fromPaid : TransitionResult :=
  match event with
  | .orderDispatched t => ok (dispatchedOrder order t)
  | .deliverCalled _ | .refuseCalled .. =>
    match order.mode.settle with
    | .afterFulfillment => answer order (.failure .notApplicableInMode false)
    | .onPurchase => fromDispatched { order with state := .dispatched } event
  | .handlerAccepted _ | .handlerDelivered _ | .handlerRefused .. | .handlerUndelivered _ =>
    fromDispatched (handedOver order) event
  | .merchantDeparted _ => onDeparture order
  | .purchaseRepeated _ => ok order
  | _ => notApplicable order event

/-- `fulfilled`: the merchant produced the goods and the money still has to move. -/
def fromFulfilled : TransitionResult :=
  match event with
  | .paymentSettled _ =>
    if order.payment = .settling then
      ok { order with state := .delivered, payment := .settled, closure := none }
        [.releaseGoodsToAgent, .issueReceipt]
    else notApplicable order event
  | .paymentSettleFailed _ =>
    if order.payment = .settling then
      ok { order with state := .deliveredUnpaid, payment := .settleFailed, closure := none }
        [.emitMerchantEvent .paymentFailedAfterDelivery]
    else notApplicable order event
  | .deliverCalled _ | .handlerDelivered _ => answer order (.success .alreadyDelivered)
  | .refuseCalled .. => answer order (.failure .notApplicableInMode false)
  | .purchaseRepeated _ => ok order
  | _ => notApplicable order event

/-- `delivered`: the successful terminal. -/
def fromDelivered : TransitionResult :=
  match event with
  | .deliverCalled _ | .handlerDelivered _ => answer order (.success .alreadyDelivered)
  | .handlerAccepted _ => answer order (.success .alreadyDelivered)
  | .orderDispatched _ => notApplicable order event
  | .refuseCalled .. => closedToMerchant order
  | .merchantDeparted _ | .purchaseRepeated _ => ok order
  | _ => notApplicable order event

/-- `delivered_unpaid`: the goods exist and the charge did not go through. -/
def fromDeliveredUnpaid : TransitionResult :=
  match event with
  | .purchaseRepeated _ =>
    -- A charge that is out there unaccounted for is not spent on top of.
    if order.payment = .outcomeUnknown then
      reject order event.kind .settleInFlight
        "a charge on this order has not reported back, so no second one is sent"
    else ok { order with payment := .none } [.verifyPayment]
  | .paymentVerified t => if order.payment = .none then startSettle order t else notApplicable order event
  | .paymentSettled _ =>
    if order.payment = .settling ∨ order.payment = .outcomeUnknown then
      ok { order with state := .delivered, payment := .settled }
        [.releaseGoodsToAgent, .issueReceipt]
    else notApplicable order event
  | .paymentSettleFailed _ =>
    if order.payment = .settling ∨ order.payment = .outcomeUnknown then ok { order with payment := .settleFailed }
    else notApplicable order event
  | .paymentVerificationFailed .. => ok order
  | .deliverCalled _ | .handlerDelivered _ => answer order (.success .alreadyDelivered)
  | .refuseCalled .. => answer order (.failure .notApplicableInMode false)
  | .merchantDeparted _ => ok order
  | _ => notApplicable order event

/-- `refund_due`: the money was taken and the goods were not delivered. -/
def fromRefundDue : TransitionResult :=
  match event with
  | .deliverCalled _ =>
    ok (deliveredOrder order)
      [.releaseGoodsToAgent, .issueReceipt, .answerMerchant (.success .debtClosedByDelivery)]
  | .handlerDelivered _ => ok (deliveredOrder order) [.releaseGoodsToAgent, .issueReceipt]
  | .refundSettled _ => ok { order with state := .refunded }
  | .refuseCalled .. => answer order (.success .refused)
  | .handlerRefused .. | .handlerAccepted _ | .handlerUndelivered _ | .orderDispatched _
  | .purchaseRepeated _ => ok order
  | .merchantDeparted _ => ok order
  | _ => notApplicable order event

/-- `refunded`: the debt was closed by a refund. -/
def fromRefunded : TransitionResult :=
  match event with
  | .deliverCalled _ | .handlerDelivered _ => answer order (.failure .refundAlreadySettled false)
  | .refuseCalled .. => closedToMerchant order
  | .merchantDeparted _ | .purchaseRepeated _ => ok order
  | _ => notApplicable order event

/-- `failed`: the merchant's handler refused before any money moved. -/
def fromFailed : TransitionResult :=
  match event with
  | .deliverCalled _ | .refuseCalled .. => closedToMerchant order
  | .handlerDelivered _ => notApplicable order event
  | .merchantDeparted _ | .purchaseRepeated _ => ok order
  | _ => notApplicable order event

end

/-- Whether goods arriving now are the late end of a fulfillment this order was waiting for: only a
purchase closed by the synchronous budget qualifies. -/
def awaitedLateGoods : Bool :=
  order.mode.settle = .afterFulfillment &&
    order.closure = some (.deadlineExpired .syncResponse)

section

variable (event : StateEvent)

/-- `expired`: a deadline ran out, and nothing was charged. -/
def fromExpired : TransitionResult :=
  match event with
  | .handlerDelivered _ =>
    if !awaitedLateGoods order then notApplicable order event
    else if order.heldFulfillment then ok order [.answerMerchant (.success .purchaseAlreadyClosed)]
    else
      ok { order with heldFulfillment := true }
        [.holdFulfillment, .answerMerchant (.success .purchaseAlreadyClosed)]
  | .purchaseRepeated _ =>
    if order.heldFulfillment then ok { order with payment := .none } [.verifyPayment]
    else ok order
  | .paymentVerified t =>
    if order.heldFulfillment && order.payment = .none then startSettle order t (some .fulfilled)
    else notApplicable order event
  | .paymentVerificationFailed .. => if order.heldFulfillment then ok order else notApplicable order event
  | .deliverCalled _ | .refuseCalled .. => closedToMerchant order
  | .merchantDeparted _ => ok order
  | _ => notApplicable order event

/-- `rejected`, `declined` and `cancelled`: closed, and nobody was charged. Only the guess that the
money did not move can be overturned by a late answer. -/
def fromClosedWithoutMoney : TransitionResult :=
  match event with
  | .deliverCalled _ | .refuseCalled .. => closedToMerchant order
  | .paymentSettled _ =>
    match order.closure with
    | some .paymentOutcomeUnknown =>
      ok { order with state := .refundDue, payment := .settled }
        (debtEffects .paymentOutcomeUnknown)
    | _ => notApplicable order event
  | .paymentSettleFailed _ =>
    match order.closure with
    | some .paymentOutcomeUnknown =>
      ok { order with payment := .settleFailed, closure := some .paymentNotSettled }
    | _ => notApplicable order event
  | .merchantDeparted _ | .purchaseRepeated _ => ok order
  | _ => notApplicable order event

/-! ## The transition -/

/-- The handler of the state the order is in. -/
def fromState : TransitionResult :=
  match order.state with
  | .created => fromCreated order event
  | .quoted => fromQuoted order event
  | .awaitingConfirmation => fromAwaitingConfirmation order event
  | .confirmed => fromConfirmed order event
  | .paid => fromPaid order event
  | .dispatched => fromDispatched order event
  | .fulfilled => fromFulfilled order event
  | .delivered => fromDelivered order event
  | .deliveredUnpaid => fromDeliveredUnpaid order event
  | .refundDue => fromRefundDue order event
  | .refunded => fromRefunded order event
  | .failed => fromFailed order event
  | .expired => fromExpired order event
  | .rejected | .declined | .cancelled => fromClosedWithoutMoney order event

end

/-- One event on one order. -/
def transition (event : OrderEvent) : TransitionResult :=
  match event with
  | .deadlineExpired t deadline => onDeadline order t deadline
  | .state event =>
    if order.payment = .settling ∧ ¬ allowedWhileSettling order event then
      reject order event.kind .settleInFlight
        s!"the payment is being executed, so {event.kind} is not answered until it reports"
    else fromState order event

end

end Coinslot
