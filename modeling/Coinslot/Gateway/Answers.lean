import Coinslot.Gateway.Cards
import Coinslot.Gateway.World

/-!
# What a merchant's call is answered, and what the agent is shown

The documents the gateway answers with: the answer to a merchant's call on one of his orders
(`#answerFor` and `refusedCall` in `apps/gateway/src/app/gateway.ts`, `apps/gateway/src/app/answers.ts`),
and the order as its agent reads it (`agentOrderStatusOf` in `apps/gateway/src/app/runner.ts`).
-/

namespace Coinslot

variable {Doc : Type}

/-! ## The merchant's call -/

/-- The source's word for the reason a transition did not happen. -/
def TransitionRejectionCode.word : TransitionRejectionCode → String
  | .eventNotApplicable => "event_not_applicable"
  | .deadlineNotArmed => "deadline_not_armed"
  | .deadlineNotYetDue => "deadline_not_yet_due"
  | .deliveryBeforePayment => "delivery_before_payment"
  | .settleInFlight => "settle_in_flight"
  | .currencyChanged => "currency_changed"

/-- The source's word for what went wrong with a merchant's call. -/
def MerchantAnswerError.word : MerchantAnswerError → String
  | .refundAlreadySettled => "refund_already_settled"
  | .orderAlreadyClosed => "order_already_closed"
  | .notApplicableInMode => "not_applicable_in_mode"

/-- The sentence that goes with it (`WHY`). -/
def MerchantAnswerError.why : MerchantAnswerError → String
  | .refundAlreadySettled =>
    "the buyer has his money back for this order, so there is nothing left to deliver against"
  | .orderAlreadyClosed => "this order reached an ending that no call reopens"
  | .notApplicableInMode =>
    "this call does not exist for this card's mode — in the synchronous one the handler's own " ++
      "answer is the delivery and the refusal"

/-- What delivering or refusing an order comes back as. -/
inductive OrderCallResponse where
  | success (result : MerchantAnswerResult)
  | failure (error : CallError)
  deriving DecidableEq, Repr

/-- What taking an order on comes back as: the same answer with the word taken out. -/
inductive OrderAcceptResponse where
  | success
  | failure (error : CallError)
  deriving DecidableEq, Repr

/-- The machine's answer to a merchant, as the document he reads. -/
def orderCallResponseOf : MerchantAnswer → OrderCallResponse
  | .success result => .success result
  | .failure error retryable => .failure ⟨error.word, error.why, retryable, []⟩

/-- Why the machine would not take a merchant's call, in words that are true. -/
def refusedCall (rejection : TransitionRejection) : CallError :=
  if isOpen rejection.state then
    { code := rejection.code.word
      message := s!"this order is in {rejection.state}: {rejection.message}"
      retryable := rejection.retryable }
  else
    { code := "order_already_closed"
      message := s!"this order ended as {rejection.state}, and {rejection.event} does not reopen it"
      retryable := rejection.retryable }

/-- What a call of `apply` tells its caller, where it comes back at all. -/
inductive Applied (Doc : Type) where
  | threw (words : String)
  | noSuchOrder
  | movedOn
  | refused (rejection : TransitionRejection)
  | moved (order : StoredOrder Doc) (effects : List Effect) (answer : Option MerchantAnswer)

/-- The answer an effect carries to the merchant. -/
def Effect.answer : Effect → Option MerchantAnswer
  | .answerMerchant answer => some answer
  | _ => none

/-- The answer the merchant is owed: the last one among the effects that are carried out. -/
def answerAmong (effects : List Effect) : Option MerchantAnswer := (effects.filterMap Effect.answer).getLast?

/-- What a call of `apply` that is not cut off tells its caller. -/
def World.applied (R : Runtime) (w : World Doc) (call : ApplyCall Doc) (now : Int)
    (fresh : Nat → String) : Applied Doc :=
  match (w.hold none call.orderId call.scope (applyDecision R.config call now fresh)).2.2 with
  | none | some .notFound => .noSuchOrder
  | some (.threw words) => .threw words
  | some (.decided change) =>
    match change.result with
    | .movedOn => .movedOn
    | .decided (.error rejection) _ => .refused rejection
    | .decided (.ok (_, effects)) known =>
      .moved known effects (answerAmong (effects.filter carriedOutAfterwards))

/-- The document one of the merchant's calls is answered with (`#answerFor`): the machine's word for
him where it had one, and where it had none, that his own answer landed. -/
def answerFor (applied : Applied Doc) (landed : MerchantAnswerResult) : Except String (Option OrderCallResponse) :=
  match applied with
  | .threw words => .error words
  | .noSuchOrder => .ok none
  | .refused rejection => .ok (some (.failure (refusedCall rejection)))
  | .movedOn =>
    .error ("a merchant's answer was held to a hand-over, and there is no answer written for an " ++
      "order that moved on")
  | .moved _ _ none => .ok (some (.success landed))
  | .moved _ _ (some answer) => .ok (some (orderCallResponseOf answer))

/-- An acceptance is answered through its own route without the word. -/
def acceptResponseOf : OrderCallResponse → OrderAcceptResponse
  | .success _ => .success
  | .failure error => .failure error

/-! ## What the agent is shown -/

/-- The order as its agent reads it (`AgentOrderStatus`). -/
structure AgentOrderStatus (Doc : Type) where
  orderId : String
  status : OrderOutcome
  price : Option SalePrice
  delivered : Option Doc
  test : Bool
  /-- The merchant's own two words, where a merchant's refusal is what closed the order. -/
  refusal : Option (String × String)

/-- Where an order stands, as its agent reads it. The goods are shown only once they are the
buyer's. -/
def agentOrderStatusOf (record : StoredOrder Doc) : AgentOrderStatus Doc :=
  { orderId := record.order.id
    status := outcomeFor record.order
    price := salePriceOf record
    delivered := if outcomeFor record.order = .delivered then record.delivery else none
    test := record.order.test
    refusal :=
      match record.order.closure with
      | some (.merchantRefused code message) => some (code, message)
      | _ => none }

end Coinslot
