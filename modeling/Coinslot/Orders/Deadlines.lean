import Coinslot.Orders.Model

/-!
# The clocks of an order

`deadlines` is the list of the deadlines running on an order right now
(`packages/core/src/orders/deadlines.ts`): the gateway schedules its timers off it and the machine
checks every expiry against it. `nextRedelivery` decides whether an undelivered order gets another
delivery (`packages/core/src/orders/redelivery.ts`).
-/

namespace Coinslot

/-- The deadline on the goods themselves, whichever of the two modes the order is in. -/
def fulfillmentDeadline (order : Order) : List Deadline :=
  match order.timestamps.paidAt with
  | none => []
  | some paidAt =>
    match order.mode.settle with
    | .afterFulfillment => [⟨.syncResponse, paidAt + order.policy.deadlines.syncResponseMs⟩]
    | .onPurchase => [⟨.asyncFulfillment, paidAt + order.policy.deadlines.asyncFulfillmentMs⟩]

/-- Which clocks are running on an order right now. -/
def deadlines (order : Order) : List Deadline :=
  -- While the payment is being executed, that is the only thing the order waits on.
  if order.payment = .settling then
    match order.timestamps.settleStartedAt with
    | none => [⟨.settleResponse, order.timestamps.createdAt⟩]
    | some startedAt => [⟨.settleResponse, startedAt + order.policy.deadlines.settleResponseMs⟩]
  else
    match order.state with
    | .created => [⟨.quoteResponse, order.timestamps.createdAt + order.policy.deadlines.quoteResponseMs⟩]
    | .quoted =>
      match order.payment, order.timestamps.quotedAt with
      | .none, some quotedAt => [⟨.quoteExpiry, quotedAt + order.policy.deadlines.quoteTtlMs⟩]
      | _, _ => []
    | .awaitingConfirmation =>
      match order.timestamps.confirmationRequestedAt with
      | none => []
      | some requestedAt => [⟨.confirmationResponse, requestedAt + order.policy.deadlines.confirmationResponseMs⟩]
    | .confirmed =>
      match order.payment, order.timestamps.confirmedAt with
      | .none, some confirmedAt =>
        [⟨.paymentAfterConfirmation,
          confirmedAt + order.policy.deadlines.paymentAfterConfirmationMs⟩]
      | _, _ => []
    | .paid | .dispatched => fulfillmentDeadline order
    | .fulfilled | .deliveredUnpaid => []
    | .delivered | .refundDue | .refunded | .failed | .rejected | .declined | .expired
    | .cancelled => []

/-- Why an undelivered order gets no other delivery. -/
inductive RedeliveryRefusal where
  | attemptsExhausted
  | pastDeadline
  deriving DecidableEq, Repr

/-- Whether an undelivered order gets another delivery, and how long the wait before it is. -/
inductive RedeliveryDecision where
  | retry (attempt : Nat) (delayMs : Rat)
  | giveUp (reason : RedeliveryRefusal)
  deriving DecidableEq, Repr

/-- What the decision is taken from: the deliveries made so far, the instant now, when the mode's own
deadline runs out, and the policy. -/
structure RedeliveryQuestion where
  attempts : Nat
  now : Int
  deadlineAt : Option Int
  policy : RedeliveryPolicy

/-- The wait before the next delivery: it grows with the attempts made and stops at the policy's
ceiling. -/
def redeliveryDelay (policy : RedeliveryPolicy) (attempts : Nat) : Rat :=
  let grown : Rat := policy.baseDelayMs * policy.factor ^ max (attempts - 1) 0
  if grown ≤ policy.maxDelayMs then grown else policy.maxDelayMs

/-- The decision on an undelivered order: none after the last attempt, and none that would land at
or past the deadline. -/
def nextRedelivery (question : RedeliveryQuestion) : RedeliveryDecision :=
  if (question.attempts : Int) ≥ question.policy.maxAttempts then .giveUp .attemptsExhausted
  else
    let delayMs := redeliveryDelay question.policy question.attempts
    match question.deadlineAt with
    | some deadlineAt =>
      if question.now + delayMs ≥ deadlineAt then .giveUp .pastDeadline
      else .retry (question.attempts + 1) delayMs
    | none => .retry (question.attempts + 1) delayMs

end Coinslot
