import Coinslot.Orders.Machine

/-!
# What every order of the machine is like

`Order.Sound` is the table of the states: for each of them, how far the payment has got, which
instants are recorded, what the closure says and whether goods are held. An order is born sound
(`Birth.sound`); that the machine keeps orders sound is proved from the table of its moves
(`Coinslot.Orders.Moves`).
-/

namespace Coinslot

/-- Nothing has ended the order so far: no reason is recorded and no goods are held. -/
def Order.Unbroken (o : Order) : Prop := o.closure = none ∧ o.heldFulfillment = false

/-- The payment of an order that waits for one: none yet, or out for execution where the money moves
at the purchase. -/
def Order.AwaitsPayment (o : Order) : Prop :=
  o.payment = .none ∨
    (o.payment = .settling ∧ o.mode.settle = .onPurchase ∧ o.timestamps.settleStartedAt.isSome)

/-- How far the payment is when the order goes to its merchant. -/
def SettleTiming.paidStage : SettleTiming → PaymentStage
  | .afterFulfillment => .verified
  | .onPurchase => .settled

/-- The deadline on the goods, by the mode. -/
def SettleTiming.goodsDeadline : SettleTiming → DeadlineKind
  | .afterFulfillment => .syncResponse
  | .onPurchase => .asyncFulfillment

/-- The reasons a debt is recorded for. -/
inductive Closure.OwesMoney : Closure → Prop
  | merchantRefused (code message : String) : OwesMoney (.merchantRefused code message)
  | deadlineExpired (deadline : DeadlineKind) : OwesMoney (.deadlineExpired deadline)
  | merchantDeparted : OwesMoney .merchantDeparted
  | paymentOutcomeUnknown : OwesMoney .paymentOutcomeUnknown

/-- The reasons a purchase is refused for where the money is known not to have moved. -/
inductive Closure.RefusesPurchase : Closure → Prop
  | unavailable : RefusesPurchase .unavailable
  | quoteSilent : RefusesPurchase .quoteSilent
  | paymentNotVerified (reason : PaymentVerificationFailure) :
      RefusesPurchase (.paymentNotVerified reason)
  | paymentNotSettled : RefusesPurchase .paymentNotSettled

def Order.RefusedByMerchant (o : Order) : Prop := ∃ code message, o.closure = some (.merchantRefused code message)

/-- How an order ran out of time: on its goods, where the payment had been verified and a repeat of
the purchase may have put it aside, or before there was a payment at all. -/
def Order.RanOut (o : Order) : Prop :=
  (o.closure = some (.deadlineExpired .syncResponse) ∧ o.mode.settle = .afterFulfillment ∧
      (o.payment = .verified ∨ o.payment = .none ∧ o.heldFulfillment = true)) ∨
    ((∃ d, o.closure = some (.deadlineExpired d) ∧ d ≠ .syncResponse) ∧ o.payment = .none ∧
      o.heldFulfillment = false)

/-- The table of the states. -/
def Order.Sound (o : Order) : Prop :=
  match o.state with
  | .created => o.payment = .none ∧ o.price = none ∧ o.Unbroken ∧ o.timestamps.dispatchedAt = none
  | .quoted =>
    o.AwaitsPayment ∧ o.timestamps.quotedAt.isSome ∧ o.price.isSome ∧ o.Unbroken ∧
      o.timestamps.dispatchedAt = none
  | .awaitingConfirmation =>
    o.payment = .none ∧ o.timestamps.confirmationRequestedAt.isSome ∧ o.price.isSome ∧
      o.Unbroken ∧ o.timestamps.dispatchedAt = none
  | .confirmed =>
    o.AwaitsPayment ∧ o.timestamps.confirmedAt.isSome ∧ o.price.isSome ∧ o.Unbroken ∧
      o.timestamps.dispatchedAt = none
  | .paid =>
    o.payment = o.mode.settle.paidStage ∧ o.timestamps.paidAt.isSome ∧ o.price.isSome ∧
      o.Unbroken ∧ o.timestamps.dispatchedAt = none ∧ o.dispatch = ⟨0, false⟩
  | .dispatched =>
    o.payment = o.mode.settle.paidStage ∧ o.timestamps.paidAt.isSome ∧ o.price.isSome ∧
      o.Unbroken
  | .fulfilled =>
    o.payment = .settling ∧ o.timestamps.settleStartedAt.isSome ∧
      o.mode.settle = .afterFulfillment ∧ o.price.isSome
  | .delivered =>
    o.payment = .settled ∧ o.closure = none ∧ o.price.isSome ∧
      (o.heldFulfillment = true → o.mode.settle = .afterFulfillment)
  | .deliveredUnpaid =>
    o.mode.settle = .afterFulfillment ∧ o.closure = none ∧ o.price.isSome ∧
      o.payment ∈ [.none, .settling, .outcomeUnknown, .settleFailed] ∧
      (o.payment = .settling → o.timestamps.settleStartedAt.isSome)
  | .refundDue | .refunded =>
    o.payment = .settled ∧ o.mode.settle = .onPurchase ∧ (∃ c, c.OwesMoney ∧ o.closure = some c) ∧
      o.price.isSome ∧ o.heldFulfillment = false
  | .failed =>
    o.payment = .verified ∧ o.mode.settle = .afterFulfillment ∧ o.RefusedByMerchant ∧
      o.price.isSome ∧ o.heldFulfillment = false
  | .rejected =>
    o.heldFulfillment = false ∧
      ((o.closure = some .paymentOutcomeUnknown ∧ o.payment = .outcomeUnknown ∧
          o.mode.settle = .onPurchase ∧ o.price.isSome) ∨
        ((∃ c, c.RefusesPurchase ∧ o.closure = some c) ∧ o.payment ∈ [.none, .settleFailed]))
  | .declined => o.payment = .none ∧ o.RefusedByMerchant ∧ o.price.isSome ∧ o.heldFulfillment = false
  | .expired => o.RanOut ∧ o.price.isSome
  | .cancelled =>
    o.closure = some .merchantDeparted ∧ o.payment ∈ [.none, .verified] ∧
      o.heldFulfillment = false

theorem Birth.sound (birth : Birth) : birth.order.Sound := by
  rcases birth.shape with ⟨h, -⟩ | ⟨h, -⟩
  · rw [h]
    exact ⟨rfl, rfl, ⟨rfl, rfl⟩, rfl⟩
  · rw [h]
    exact ⟨.inl rfl, rfl, rfl, ⟨rfl, rfl⟩, rfl⟩

@[simp] theorem SettleTiming.paidStage_ne_settling (settle : SettleTiming) : settle.paidStage ≠ .settling := by
  cases settle <;> nofun

@[simp] theorem SettleTiming.paidStage_ne_outcomeUnknown (settle : SettleTiming) :
    settle.paidStage ≠ .outcomeUnknown := by
  cases settle <;> nofun

variable {o : Order}

theorem Order.AwaitsPayment.none (h : o.AwaitsPayment) (hn : o.payment ≠ .settling) : o.payment = .none :=
  h.resolve_right fun hs => hn hs.1

section

variable (h : o.Sound)
include h

theorem Order.Sound.started (hp : o.payment = .settling) : o.timestamps.settleStartedAt.isSome := by
  unfold Order.Sound at h
  split at h <;> simp_all [Order.AwaitsPayment, Order.RanOut]

theorem Order.Sound.charging (hp : o.payment = .settling)
    (hf : o.state ≠ .fulfilled) (hu : o.state ≠ .deliveredUnpaid) : o.state = .quoted ∨ o.state = .confirmed := by
  unfold Order.Sound at h
  split at h <;> simp_all [Order.RanOut]

theorem Order.Sound.fulfilled_settling (hs : o.state = .fulfilled) : o.payment = .settling := by
  simp only [Order.Sound, hs] at h
  exact h.1

theorem Order.Sound.expired_uncharged (hs : o.state = .expired) : o.payment = .verified ∨ o.payment = .none := by
  simp only [Order.Sound, hs] at h
  obtain ⟨-, -, hp⟩ | ⟨-, hp, -⟩ := h.1
  · exact hp.imp_right And.left
  · exact .inr hp

theorem Order.Sound.unaccounted (hs : o.state = .rejected) (hc : o.closure = some .paymentOutcomeUnknown) :
    o.payment = .outcomeUnknown ∧ o.mode.settle = .onPurchase ∧ o.price.isSome ∧ o.heldFulfillment = false := by
  simp only [Order.Sound, hs] at h
  obtain ⟨hheld, ⟨-, hp, hm, hprice⟩ | ⟨⟨c, hr, hc'⟩, -⟩⟩ := h
  · exact ⟨hp, hm, hprice, hheld⟩
  · cases hc.symm.trans hc'
    cases hr

end

end Coinslot
