import Coinslot.Orders.Runs

/-!
# The rules about money

The rules no order may ever break, with the words a violation is reported in
(`packages/core/src/orders/money.ts`), and the proof that no order of any run breaks one. A sound
order breaks none (`Order.Sound.honest`): each rule is checked against the row of the state it speaks
of.
-/

namespace Coinslot

open List

/-- The order is closed and, by that closure, nobody owes anybody anything. -/
def closedOwingNothing : List OrderState := [.rejected, .declined, .expired, .cancelled, .failed]

/-- The states in which the buyer's money has legitimately been taken. -/
def mayHoldTheBuyersMoney : List OrderState := [.paid, .dispatched, .delivered, .refundDue, .refunded]

/-- The states in which a payment may legitimately be mid-execution. -/
def mayBeCharging : List OrderState := [.quoted, .confirmed, .fulfilled, .deliveredUnpaid]

/-- The states in which a charge may legitimately be recorded as unaccounted for. -/
def mayBeUnaccounted : List OrderState := [.rejected, .deliveredUnpaid]

/-- The states that record a debt, and therefore require a charge behind them. -/
def recordsADebt : List OrderState := [.refundDue, .refunded]

def violation (broken : Bool) (words : String) : List String := if broken then [words] else []

/-- What is wrong with where the money of an order is. -/
def moneyInvariantViolations (order : Order) : List String :=
  violation (order.payment = .settled && !mayHoldTheBuyersMoney.contains order.state)
    s!"the buyer paid and the order sits in {order.state}, which records neither goods nor a debt" ++
  violation (order.payment = .settled && closedOwingNothing.contains order.state)
    s!"the buyer paid and the order is closed as {order.state}, owing nothing" ++
  violation (order.payment ≠ .settled && recordsADebt.contains order.state)
    s!"the order is in {order.state} with no charge behind the debt" ++
  violation (order.state = .delivered && order.payment ≠ .settled)
    "the order is a success and the money never moved" ++
  violation (order.state = .deliveredUnpaid && order.payment = .settled)
    "the order is marked unpaid and the money did move" ++
  violation (order.payment = .settling && !mayBeCharging.contains order.state)
    (s!"the payment is being executed and the order has moved on to {order.state}, " ++
      "so whatever happens to the money now happens to a decided order") ++
  violation (order.payment = .outcomeUnknown && !mayBeUnaccounted.contains order.state)
    (s!"a charge on this order never reported back and the order is in {order.state}, " ++
      "which is not a place to wait in") ++
  violation (order.payment = .settling && order.timestamps.settleStartedAt = none)
    "the payment is being executed and the order has no record of when that began"

theorem violation_eq_nil {broken : Bool} {words : String} : violation broken words = [] ↔ broken = false := by
  cases broken <;> simp [violation]

/-- The money of an order is where the list of rules allows it to be. -/
structure Order.Honest (o : Order) : Prop where
  /-- Settled money stands behind goods or a debt. -/
  settled : o.payment = .settled → o.state ∈ mayHoldTheBuyersMoney
  /-- A debt has a charge behind it. -/
  debt : o.state ∈ recordsADebt → o.payment = .settled
  /-- A success was paid for. -/
  delivered : o.state = .delivered → o.payment = .settled
  /-- Only an order that can be charged is. -/
  settling : o.payment = .settling → o.state ∈ mayBeCharging
  /-- A charge nobody answered leaves the order where somebody still asks. -/
  unknown : o.payment = .outcomeUnknown → o.state ∈ mayBeUnaccounted
  /-- The clock of a charge has an instant to run from. -/
  started : o.payment = .settling → o.timestamps.settleStartedAt.isSome

section
variable {o : Order}

theorem Order.Honest.violations (h : o.Honest) : moneyInvariantViolations o = [] := by
  have hclosed : o.payment = .settled → o.state ∉ closedOwingNothing := fun hp hs => by
    have := h.settled hp
    simp only [mayHoldTheBuyersMoney, closedOwingNothing, mem_cons, not_mem_nil, or_false] at this hs
    rcases hs with hs | hs | hs | hs | hs <;> simp [hs] at this
  have hunpaid : o.state = .deliveredUnpaid → o.payment ≠ .settled := fun hs hp => by
    simpa [hs, mayHoldTheBuyersMoney] using h.settled hp
  have hstart : o.payment = .settling → o.timestamps.settleStartedAt ≠ none := fun hp hn => by
    simpa [hn] using h.started hp
  simp only [moneyInvariantViolations, append_eq_nil_iff, violation_eq_nil,
    Bool.and_eq_false_imp, decide_eq_true_eq, decide_eq_false_iff_not, Bool.not_eq_false',
    contains_eq_mem]
  exact ⟨⟨⟨⟨⟨⟨⟨h.settled, hclosed⟩, fun hp hs => hp (h.debt hs)⟩, fun hs hp => hp (h.delivered hs)⟩,
    hunpaid⟩, h.settling⟩, h.unknown⟩, hstart⟩

theorem Order.Sound.honest (hb : o.Sound) : o.Honest where
  settled hp := by
    unfold Order.Sound at hb
    split at hb <;> simp_all [mayHoldTheBuyersMoney, Order.AwaitsPayment, Order.RanOut]
  debt hs := by
    simp only [recordsADebt, mem_cons, not_mem_nil, or_false] at hs
    rcases hs with hs | hs <;> simp only [Order.Sound, hs] at hb <;> exact hb.1
  delivered hs := by
    simp only [Order.Sound, hs] at hb
    exact hb.1
  settling hp := by
    by_cases hf : o.state = .fulfilled
    · simp [hf, mayBeCharging]
    · by_cases hu : o.state = .deliveredUnpaid
      · simp [hu, mayBeCharging]
      · rcases hb.charging hp hf hu with hs | hs <;> simp [hs, mayBeCharging]
  unknown hp := by
    unfold Order.Sound at hb
    split at hb <;> simp_all [mayBeUnaccounted, Order.AwaitsPayment, Order.RanOut]
  started hp := hb.started hp

end

/-- **The money invariant.** No order of any run breaks a rule about money. -/
theorem Birth.money_invariant (birth : Birth) (events : List OrderEvent) :
    moneyInvariantViolations (birth.run events) = [] :=
  (birth.run_sound events).honest.violations

end Coinslot
