/-!
# The vocabulary of the order state machine

What an order can be, what can happen to it, and what the gateway is asked to do about it
(`packages/core/src/orders/model.ts`). Instants and durations are whole milliseconds, as the
gateway's clock and its configuration make them; the growth factor of the redelivery pauses may be a
decimal, so the pauses are rational. A string union of the source is an enumeration here, with its
word on the wire given by `word`.
-/

namespace Coinslot

/-! ## States, modes and stages -/

/-- Every state an order can be in (`ORDER_STATES`). -/
inductive OrderState where
  | created
  | quoted
  | awaitingConfirmation
  | confirmed
  | paid
  | dispatched
  | fulfilled
  | delivered
  | deliveredUnpaid
  | refundDue
  | refunded
  | failed
  | rejected
  | declined
  | expired
  | cancelled
  deriving DecidableEq, Repr

/-- The source's word for a state. -/
def OrderState.word : OrderState → String
  | .created => "created"
  | .quoted => "quoted"
  | .awaitingConfirmation => "awaiting_confirmation"
  | .confirmed => "confirmed"
  | .paid => "paid"
  | .dispatched => "dispatched"
  | .fulfilled => "fulfilled"
  | .delivered => "delivered"
  | .deliveredUnpaid => "delivered_unpaid"
  | .refundDue => "refund_due"
  | .refunded => "refunded"
  | .failed => "failed"
  | .rejected => "rejected"
  | .declined => "declined"
  | .expired => "expired"
  | .cancelled => "cancelled"

instance : ToString OrderState := ⟨OrderState.word⟩

/-- The states in which the order is still owed something (`OPEN_ORDER_STATES`). -/
def openOrderStates : List OrderState :=
  [.created, .quoted, .awaitingConfirmation, .confirmed, .paid, .dispatched, .fulfilled, .refundDue,
    .deliveredUnpaid]

def isOpen (state : OrderState) : Bool := openOrderStates.contains state

/-- When the payment is executed (`SETTLE_TIMINGS`). -/
inductive SettleTiming where
  | onPurchase
  | afterFulfillment
  deriving DecidableEq, Repr

/-- The two switches of a card. -/
structure OrderMode where
  needsConfirmation : Bool
  settle : SettleTiming
  deriving DecidableEq, Repr

/-- The modes a card can declare (`FULFILLMENT_MODES`). -/
inductive FulfillmentMode where
  | sync
  | async
  | confirm
  deriving DecidableEq, Repr

/-- The switches each declared mode stands for. -/
def modeOf : FulfillmentMode → OrderMode
  | .sync => { needsConfirmation := false, settle := .afterFulfillment }
  | .async => { needsConfirmation := false, settle := .onPurchase }
  | .confirm => { needsConfirmation := true, settle := .onPurchase }

/-- How far the payment has got (`PAYMENT_STAGES`). -/
inductive PaymentStage where
  | none
  | verified
  | settling
  | outcomeUnknown
  | settled
  | settleFailed
  deriving DecidableEq, Repr

/-! ## Prices, deadlines and policies -/

/-- A sum of money, a decimal string, and the instant the price it came from was true at. -/
structure Price where
  amount : String
  currency : String
  asOf : Int
  deriving DecidableEq, Repr

/-- Where the price of an order came from (`QUOTE_SOURCES`). -/
inductive QuoteSource where
  | cardSnapshot
  | merchantAnswer
  deriving DecidableEq, Repr

/-- Why a payment did not pass verification (`PAYMENT_VERIFICATION_FAILURES`). -/
inductive PaymentVerificationFailure where
  | signature
  | insufficientFunds
  | priceStale
  deriving DecidableEq, Repr

/-- Every waiting that has a deadline (`DEADLINE_KINDS`). -/
inductive DeadlineKind where
  | quoteResponse
  | quoteExpiry
  | settleResponse
  | confirmationResponse
  | paymentAfterConfirmation
  | syncResponse
  | asyncFulfillment
  deriving DecidableEq, Repr

/-- The source's word for a deadline. -/
def DeadlineKind.word : DeadlineKind → String
  | .quoteResponse => "quote_response"
  | .quoteExpiry => "quote_expiry"
  | .settleResponse => "settle_response"
  | .confirmationResponse => "confirmation_response"
  | .paymentAfterConfirmation => "payment_after_confirmation"
  | .syncResponse => "sync_response"
  | .asyncFulfillment => "async_fulfillment"

instance : ToString DeadlineKind := ⟨DeadlineKind.word⟩

/-- How long each waiting may last, in milliseconds. -/
structure DeadlinePolicy where
  quoteResponseMs : Int
  quoteTtlMs : Int
  settleResponseMs : Int
  syncResponseMs : Int
  paymentAfterConfirmationMs : Int
  confirmationResponseMs : Int
  asyncFulfillmentMs : Int
  deriving DecidableEq, Repr

/-- How an undelivered order is redelivered. -/
structure RedeliveryPolicy where
  baseDelayMs : Int
  factor : Rat
  maxDelayMs : Int
  maxAttempts : Int
  deriving DecidableEq, Repr

/-- The policy an order lives under. -/
structure OrderPolicy where
  deadlines : DeadlinePolicy
  redelivery : RedeliveryPolicy
  deriving DecidableEq, Repr

/-- A deadline that is currently running, with the instant it runs out at. -/
structure Deadline where
  kind : DeadlineKind
  «at» : Int
  deriving DecidableEq, Repr

/-- Why an order stopped where it stopped. -/
inductive Closure where
  | unavailable
  | quoteSilent
  | paymentNotVerified (reason : PaymentVerificationFailure)
  | paymentNotSettled
  | paymentOutcomeUnknown
  | merchantRefused (code message : String)
  | deadlineExpired (deadline : DeadlineKind)
  | merchantDeparted
  deriving DecidableEq, Repr

/-! ## Answers and effects -/

/-- What the merchant is told about without having asked (`MERCHANT_EVENTS`). -/
inductive MerchantEvent where
  | refundDue
  | unpaidAfterConfirmation
  | paymentFailedAfterDelivery
  deriving DecidableEq, Repr

/-- What a merchant's call that went through is answered (`MERCHANT_ANSWER_RESULTS`). -/
inductive MerchantAnswerResult where
  | accepted
  | delivered
  | alreadyDelivered
  | debtClosedByDelivery
  | refused
  | purchaseAlreadyClosed
  deriving DecidableEq, Repr

/-- What a merchant's call that failed is answered (`MERCHANT_ANSWER_ERRORS`). -/
inductive MerchantAnswerError where
  | refundAlreadySettled
  | orderAlreadyClosed
  | notApplicableInMode
  deriving DecidableEq, Repr

/-- What the merchant's own call gets back. -/
inductive MerchantAnswer where
  | success (result : MerchantAnswerResult)
  | failure (error : MerchantAnswerError) (retryable : Bool)
  deriving DecidableEq, Repr

/-- What the gateway is asked to do once a transition has happened. -/
inductive Effect where
  | requestQuote
  | verifyPayment
  | executePayment
  | invitePayment
  | dispatchConfirmationRequest
  | dispatchOrder
  | redeliverOrder (attempt : Nat) (delayMs : Rat)
  | releaseGoodsToAgent
  | issueReceipt
  | holdFulfillment
  | markRefundDue (closure : Closure)
  | emitMerchantEvent (event : MerchantEvent)
  | answerMerchant (answer : MerchantAnswer)
  deriving DecidableEq, Repr

/-- What the gateway is asked to do the moment an order has a price. -/
def effectsOnQuoted (mode : OrderMode) : List Effect :=
  if mode.needsConfirmation then [.dispatchConfirmationRequest] else [.verifyPayment]

/-! ## Events -/

/-- Everything that can happen to an order except a deadline running out. A price answer carries the
price where the goods are available and nothing where they are not. -/
inductive StateEvent where
  | quoteAnswered (t : Int) (price : Option Price)
  | quoteSilent (t : Int)
  | paymentVerified (t : Int)
  | paymentVerificationFailed (t : Int) (reason : PaymentVerificationFailure)
  | paymentSettled (t : Int)
  | paymentSettleFailed (t : Int)
  | purchaseRepeated (t : Int)
  | confirmationDispatched (t : Int)
  | orderDispatched (t : Int)
  | handlerAccepted (t : Int)
  | handlerDelivered (t : Int)
  | handlerRefused (t : Int) (code message : String)
  | handlerUndelivered (t : Int)
  | deliverCalled (t : Int)
  | refuseCalled (t : Int) (code message : String)
  | refundSettled (t : Int)
  | merchantDeparted (t : Int)
  deriving DecidableEq, Repr

/-- Everything that can happen to an order from outside the core. -/
inductive OrderEvent where
  | state (event : StateEvent)
  | deadlineExpired (t : Int) (deadline : DeadlineKind)
  deriving DecidableEq, Repr

/-- The kind of an event, without what it carries. -/
inductive OrderEventKind where
  | quoteAnswered
  | quoteSilent
  | paymentVerified
  | paymentVerificationFailed
  | paymentSettled
  | paymentSettleFailed
  | purchaseRepeated
  | confirmationDispatched
  | orderDispatched
  | handlerAccepted
  | handlerDelivered
  | handlerRefused
  | handlerUndelivered
  | deliverCalled
  | refuseCalled
  | refundSettled
  | merchantDeparted
  | deadlineExpired
  deriving DecidableEq, Repr

/-- The source's word for a kind of event. -/
def OrderEventKind.word : OrderEventKind → String
  | .quoteAnswered => "quote_answered"
  | .quoteSilent => "quote_silent"
  | .paymentVerified => "payment_verified"
  | .paymentVerificationFailed => "payment_verification_failed"
  | .paymentSettled => "payment_settled"
  | .paymentSettleFailed => "payment_settle_failed"
  | .purchaseRepeated => "purchase_repeated"
  | .confirmationDispatched => "confirmation_dispatched"
  | .orderDispatched => "order_dispatched"
  | .handlerAccepted => "handler_accepted"
  | .handlerDelivered => "handler_delivered"
  | .handlerRefused => "handler_refused"
  | .handlerUndelivered => "handler_undelivered"
  | .deliverCalled => "deliver_called"
  | .refuseCalled => "refuse_called"
  | .refundSettled => "refund_settled"
  | .merchantDeparted => "merchant_departed"
  | .deadlineExpired => "deadline_expired"

instance : ToString OrderEventKind := ⟨OrderEventKind.word⟩

/-- The kind of a state event. -/
def StateEvent.kind : StateEvent → OrderEventKind
  | .quoteAnswered .. => .quoteAnswered
  | .quoteSilent _ => .quoteSilent
  | .paymentVerified _ => .paymentVerified
  | .paymentVerificationFailed .. => .paymentVerificationFailed
  | .paymentSettled _ => .paymentSettled
  | .paymentSettleFailed _ => .paymentSettleFailed
  | .purchaseRepeated _ => .purchaseRepeated
  | .confirmationDispatched _ => .confirmationDispatched
  | .orderDispatched _ => .orderDispatched
  | .handlerAccepted _ => .handlerAccepted
  | .handlerDelivered _ => .handlerDelivered
  | .handlerRefused .. => .handlerRefused
  | .handlerUndelivered _ => .handlerUndelivered
  | .deliverCalled _ => .deliverCalled
  | .refuseCalled .. => .refuseCalled
  | .refundSettled _ => .refundSettled
  | .merchantDeparted _ => .merchantDeparted

/-- The kind of an event. -/
def OrderEvent.kind : OrderEvent → OrderEventKind
  | .state event => event.kind
  | .deadlineExpired .. => .deadlineExpired

/-- The instant a state event happened at. -/
def StateEvent.at : StateEvent → Int
  | .quoteAnswered t _ | .quoteSilent t | .paymentVerified t | .paymentVerificationFailed t _
  | .paymentSettled t | .paymentSettleFailed t | .purchaseRepeated t | .confirmationDispatched t
  | .orderDispatched t | .handlerAccepted t | .handlerDelivered t | .handlerRefused t _ _
  | .handlerUndelivered t | .deliverCalled t | .refuseCalled t _ _ | .refundSettled t
  | .merchantDeparted t => t

/-- The instant an event happened at. -/
def OrderEvent.at : OrderEvent → Int
  | .state event => event.at
  | .deadlineExpired t _ => t

/-! ## The order -/

/-- When each step of the order happened. -/
structure OrderTimestamps where
  createdAt : Int
  quotedAt : Option Int
  confirmationRequestedAt : Option Int
  confirmedAt : Option Int
  settleStartedAt : Option Int
  paidAt : Option Int
  dispatchedAt : Option Int
  deriving DecidableEq, Repr

/-- How many times the order has been handed to its merchant, and whether one of those hand-overs
was taken on. -/
structure Dispatch where
  attempts : Nat
  accepted : Bool
  deriving DecidableEq, Repr

/-- One order of the machine. -/
structure Order where
  id : String
  state : OrderState
  mode : OrderMode
  policy : OrderPolicy
  payment : PaymentStage
  cardPrice : Price
  price : Option Price
  quoteSource : Option QuoteSource
  dispatch : Dispatch
  heldFulfillment : Bool
  closure : Option Closure
  test : Bool
  timestamps : OrderTimestamps
  deriving DecidableEq, Repr

/-! ## The result of a transition -/

/-- Why a transition did not happen (`TRANSITION_REJECTION_CODES`). -/
inductive TransitionRejectionCode where
  | eventNotApplicable
  | deadlineNotArmed
  | deadlineNotYetDue
  | deliveryBeforePayment
  | settleInFlight
  | currencyChanged
  deriving DecidableEq, Repr

/-- A refusal of a transition: returned, never thrown. -/
structure TransitionRejection where
  code : TransitionRejectionCode
  retryable : Bool
  state : OrderState
  event : OrderEventKind
  message : String
  deriving DecidableEq, Repr

/-- An order with the effects asked for on the way to it, or a refusal. -/
abbrev TransitionResult := Except TransitionRejection (Order × List Effect)

end Coinslot
