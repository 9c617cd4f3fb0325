import Coinslot.Orders.Clocks

/-!
# The moves of an order

`Move` is everything an accepted event can do to a sound order, one constructor a move, with the
state it starts from, the event, the order it leads to and the effects asked for. `transition_move`
reads every accepted transition as a move; the invariants of the runs are read off the moves.
-/

namespace Coinslot

open List Option

/-- The order as its merchant holds it: as it is recorded, or taken up from `paid` on his answer or
on his call before the record of the hand-over landed. -/
inductive InHand (o : Order) : Order → Prop
  | recorded : o.state = .paid ∨ o.state = .dispatched → InHand o o
  | answered : o.state = .paid → InHand o (handedOver o)
  | called : o.state = .paid → InHand o { o with state := .dispatched }

/-- The merchant did not say what the goods cost, by his silence or by our clock. -/
inductive QuoteSilence (t : Int) : OrderEvent → Prop
  | silent : QuoteSilence t (.state (.quoteSilent t))
  | overdue : QuoteSilence t (.deadlineExpired t .quoteResponse)

/-- The merchant refused, by answering or by calling. -/
inductive Refuses (code message : String) : OrderEvent → Prop
  | handler (t : Int) : Refuses code message (.state (.handlerRefused t code message))
  | call (t : Int) : Refuses code message (.state (.refuseCalled t code message))

/-- The merchant handed the goods over, by answering or by calling. -/
inductive Delivers : OrderEvent → Prop
  | handler (t : Int) : Delivers (.state (.handlerDelivered t))
  | call (t : Int) : Delivers (.state (.deliverCalled t))

/-- The goods of an order are not coming in time: their deadline ran out, or no further delivery
could make it. -/
inductive GoodsOverdue (deadline : DeadlineKind) : OrderEvent → Prop
  | expired (t : Int) : GoodsOverdue deadline (.deadlineExpired t deadline)
  | undelivered (t : Int) : GoodsOverdue deadline (.state (.handlerUndelivered t))

/-- The effects are nothing but answers to the merchant's own call. -/
def OnlyAnswers (effects : List Effect) : Prop := ∀ f ∈ effects, ∃ a, f = .answerMerchant a

/-- The effects are nothing but words to the merchant: an answer, or the news that nobody paid. -/
def OnlyWords (effects : List Effect) : Prop :=
  ∀ f ∈ effects, (∃ a, f = .answerMerchant a) ∨ f = .emitMerchantEvent .unpaidAfterConfirmation

/-- The events that can leave an order as it is. -/
def Idle (o : Order) : StateEvent → Prop
  | .purchaseRepeated _ => o.state ≠ .deliveredUnpaid ∧ ¬ (o.state = .expired ∧ o.heldFulfillment)
  | .paymentVerificationFailed .. | .merchantDeparted _ | .deliverCalled _ | .refuseCalled ..
  | .handlerDelivered _ | .handlerAccepted _ | .handlerRefused .. | .handlerUndelivered _
  | .orderDispatched _ => True
  | _ => False

/-- How an order closes owing nothing before its merchant held it. -/
inductive Closes (o : Order) : OrderEvent → OrderState → Closure → Prop
  | unavailable {t : Int} : o.state = .created →
      Closes o (.state (.quoteAnswered t none)) .rejected .unavailable
  | silent {t : Int} {e : OrderEvent} : o.state = .created → QuoteSilence t e →
      sellsOnSilentQuote o.mode = false → Closes o e .rejected .quoteSilent
  | unverified {t : Int} {reason : PaymentVerificationFailure} :
      o.state = .quoted ∨ o.state = .confirmed → o.payment = .none →
      Closes o (.state (.paymentVerificationFailed t reason)) .rejected (.paymentNotVerified reason)
  | declined {e : OrderEvent} {code message : String} :
      o.state = .awaitingConfirmation ∨ o.state = .confirmed → o.payment = .none →
      Refuses code message e → Closes o e .declined (.merchantRefused code message)
  | overdue {t : Int} {deadline : DeadlineKind} :
      o.state = .quoted ∧ deadline = .quoteExpiry ∨
        o.state = .awaitingConfirmation ∧ deadline = .confirmationResponse ∨
        o.state = .confirmed ∧ deadline = .paymentAfterConfirmation → o.payment = .none →
      Closes o (.deadlineExpired t deadline) .expired (.deadlineExpired deadline)
  | unreached {t : Int} : o.state = .awaitingConfirmation →
      Closes o (.state (.handlerUndelivered t)) .expired (.deadlineExpired .confirmationResponse)
  | departed {t : Int} :
      o.state ∈ [.created, .quoted, .awaitingConfirmation, .confirmed] → o.payment = .none →
      Closes o (.state (.merchantDeparted t)) .cancelled .merchantDeparted

/-- How a fulfillment that will not happen ends: with the merchant's refusal, with the deadline on
the goods, or with his departure. -/
inductive Fails (o : Order) : OrderEvent → OrderState → Closure → Prop
  | refused {e : OrderEvent} {code message : String} : Refuses code message e →
      Fails o e .failed (.merchantRefused code message)
  | overdue {e : OrderEvent} : GoodsOverdue o.mode.settle.goodsDeadline e →
      Fails o e .expired (.deadlineExpired o.mode.settle.goodsDeadline)
  | departed {t : Int} : Fails o (.state (.merchantDeparted t)) .cancelled .merchantDeparted

/-- Everything an accepted event can do to a sound order: leave it as it is, price it, close it owing
nothing, take it through the confirmation round, its payment, its hand-over and the end of its
fulfillment, through a charge that comes after the goods, through a repeat of the purchase, and
through a debt. -/
inductive Move (o : Order) : OrderEvent → Order → List Effect → Prop
  | stands {e : StateEvent} {fx : List Effect} : Idle o e → OnlyAnswers fx → Move o (.state e) o fx
  | quotes {t : Int} {price : Price} : o.state = .created →
      price.currency = o.cardPrice.currency →
      Move o (.state (.quoteAnswered t (some price))) (quotedOrder o t price .merchantAnswer)
        (effectsOnQuoted o.mode)
  | sellsOnSilence {t : Int} {e : OrderEvent} : o.state = .created → QuoteSilence t e →
      Move o e (quotedOrder o t o.cardPrice .cardSnapshot) (effectsOnQuoted o.mode)
  | closes {e : OrderEvent} {state : OrderState} {closure : Closure} {fx : List Effect} :
      Closes o e state closure → OnlyWords fx → Move o e (closeWithoutMoney o state closure) fx
  | asks {t : Int} : o.state = .quoted → o.payment = .none → o.mode.needsConfirmation = true →
      Move o (.state (.confirmationDispatched t))
        { o with
          state := .awaitingConfirmation
          dispatch := { attempts := 1, accepted := false }
          timestamps := { o.timestamps with confirmationRequestedAt := some t } } []
  | asksAgain {t : Int} : o.state = .awaitingConfirmation →
      Move o (.state (.confirmationDispatched t))
        { o with dispatch := { o.dispatch with attempts := o.dispatch.attempts + 1 } } []
  | confirms {t : Int} : o.state = .awaitingConfirmation →
      Move o (.state (.handlerAccepted t))
        { o with
          state := .confirmed
          timestamps := { o.timestamps with confirmedAt := some t } }
        [.invitePayment, acceptanceLanded]
  | asksOnceMore {t : Int} {attempt : Nat} {delayMs : Rat} : o.state = .awaitingConfirmation →
      Move o (.state (.handlerUndelivered t)) o [.redeliverOrder attempt delayMs]
  | clears {t : Int} : o.state = .quoted ∨ o.state = .confirmed → o.payment = .none →
      o.mode.settle = .afterFulfillment →
      Move o (.state (.paymentVerified t)) (paidOrder o t .verified) [.dispatchOrder]
  | charges {t : Int} : o.state = .quoted ∨ o.state = .confirmed → o.payment = .none →
      o.mode.settle = .onPurchase →
      Move o (.state (.paymentVerified t)) (settlingOrder o t o.state) [.executePayment]
  | charged {t : Int} : o.state = .quoted ∨ o.state = .confirmed → o.payment = .settling →
      Move o (.state (.paymentSettled t)) (paidOrder o t .settled) [.dispatchOrder]
  | chargeFails {t : Int} {fx : List Effect} : o.state = .quoted ∨ o.state = .confirmed →
      o.payment = .settling → OnlyWords fx →
      Move o (.state (.paymentSettleFailed t))
        { closeWithoutMoney o .rejected .paymentNotSettled with payment := .settleFailed } fx
  | chargeSilent {t : Int} {fx : List Effect} : o.state = .quoted ∨ o.state = .confirmed →
      o.payment = .settling → OnlyWords fx →
      Move o (.deadlineExpired t .settleResponse)
        (closeWithoutMoney { o with payment := .outcomeUnknown } .rejected .paymentOutcomeUnknown) fx
  | dispatches {t : Int} : o.state = .paid →
      Move o (.state (.orderDispatched t)) (dispatchedOrder o t) []
  | dispatchesAgain {t : Int} {attempts : Nat} : o.state = .dispatched →
      Move o (.state (.orderDispatched t))
        { o with
          dispatch := { o.dispatch with attempts := attempts }
          timestamps := { o.timestamps with dispatchedAt := some t } } []
  | accepts {t : Int} {held : Order} : InHand o held → held.state = .dispatched →
      Move o (.state (.handlerAccepted t))
        { held with dispatch := { held.dispatch with accepted := true } } [acceptanceLanded]
  | redelivers {t : Int} {held : Order} {attempt : Nat} {delayMs : Rat} : InHand o held →
      held.state = .dispatched →
      Move o (.state (.handlerUndelivered t)) held [.redeliverOrder attempt delayMs]
  | delivers {e : OrderEvent} {held : Order} {extra : List Effect} : InHand o held →
      o.mode.settle = .onPurchase → Delivers e → OnlyAnswers extra →
      Move o e (deliveredOrder held) ([.releaseGoodsToAgent, .issueReceipt] ++ extra)
  | fulfils {t : Int} {held : Order} : InHand o held → o.mode.settle = .afterFulfillment →
      Move o (.state (.handlerDelivered t)) (settlingOrder held t .fulfilled) [.executePayment]
  | fails {e : OrderEvent} {held : Order} {state : OrderState} {closure : Closure} :
      InHand o held → o.mode.settle = .afterFulfillment → Fails o e state closure →
      Move o e (closeWithoutMoney held state closure) []
  | owes {e : OrderEvent} {held : Order} {state : OrderState} {closure : Closure}
      {extra : List Effect} :
      InHand o held → o.mode.settle = .onPurchase → Fails o e state closure → OnlyAnswers extra →
      Move o e (closeWithoutMoney held .refundDue closure) (debtEffects closure ++ extra)
  | settles {t : Int} : o.state = .fulfilled →
      Move o (.state (.paymentSettled t))
        { o with state := .delivered, payment := .settled, closure := none }
        [.releaseGoodsToAgent, .issueReceipt]
  | staysUnpaid {t : Int} : o.state = .fulfilled →
      Move o (.state (.paymentSettleFailed t))
        { o with state := .deliveredUnpaid, payment := .settleFailed, closure := none }
        [.emitMerchantEvent .paymentFailedAfterDelivery]
  | fulfilledSilent {t : Int} : o.state = .fulfilled →
      Move o (.deadlineExpired t .settleResponse)
        { o with state := .deliveredUnpaid, payment := .outcomeUnknown, closure := none }
        [.emitMerchantEvent .paymentFailedAfterDelivery]
  | repeats {t : Int} : o.state = .deliveredUnpaid →
      o.payment = .none ∨ o.payment = .settleFailed →
      Move o (.state (.purchaseRepeated t)) { o with payment := .none } [.verifyPayment]
  | retries {t : Int} : o.state = .deliveredUnpaid → o.payment = .none →
      Move o (.state (.paymentVerified t)) (settlingOrder o t .deliveredUnpaid) [.executePayment]
  | settlesLate {t : Int} : o.state = .deliveredUnpaid →
      o.payment = .settling ∨ o.payment = .outcomeUnknown →
      Move o (.state (.paymentSettled t)) { o with state := .delivered, payment := .settled }
        [.releaseGoodsToAgent, .issueReceipt]
  | failsAgain {t : Int} : o.state = .deliveredUnpaid →
      o.payment = .settling ∨ o.payment = .outcomeUnknown →
      Move o (.state (.paymentSettleFailed t)) { o with payment := .settleFailed } []
  | unpaidSilent {t : Int} : o.state = .deliveredUnpaid → o.payment = .settling →
      Move o (.deadlineExpired t .settleResponse) { o with payment := .outcomeUnknown } []
  | holds {t : Int} : o.state = .expired → awaitedLateGoods o = true → o.heldFulfillment = false →
      Move o (.state (.handlerDelivered t)) { o with heldFulfillment := true }
        [.holdFulfillment, .answerMerchant (.success .purchaseAlreadyClosed)]
  | reclaims {t : Int} : o.state = .expired → o.heldFulfillment = true →
      Move o (.state (.purchaseRepeated t)) { o with payment := .none } [.verifyPayment]
  | revives {t : Int} : o.state = .expired → o.heldFulfillment = true → o.payment = .none →
      Move o (.state (.paymentVerified t)) (settlingOrder o t .fulfilled) [.executePayment]
  | closesDebt {e : OrderEvent} {extra : List Effect} : o.state = .refundDue → Delivers e →
      OnlyAnswers extra →
      Move o e (deliveredOrder o) ([.releaseGoodsToAgent, .issueReceipt] ++ extra)
  | refunds {t : Int} : o.state = .refundDue →
      Move o (.state (.refundSettled t)) { o with state := .refunded } []
  | owesAfterAll {t : Int} : o.state = .rejected → o.closure = some .paymentOutcomeUnknown →
      Move o (.state (.paymentSettled t)) { o with state := .refundDue, payment := .settled }
        (debtEffects .paymentOutcomeUnknown)
  | provesUnpaid {t : Int} : o.state = .rejected → o.closure = some .paymentOutcomeUnknown →
      Move o (.state (.paymentSettleFailed t))
        { o with payment := .settleFailed, closure := some .paymentNotSettled } []

/-! ## Reading an accepted answer -/

section
variable {o a b : Order} {fx gx : List Effect} {e : StateEvent}

@[simp] theorem ok_eq_ok : ok a fx = .ok (b, gx) ↔ a = b ∧ fx = gx := by simp [ok]

variable {m : MerchantAnswer} {ev : OrderEvent}

@[simp] theorem answer_eq_ok : answer a m = .ok (b, gx) ↔ a = b ∧ [.answerMerchant m] = gx := by
  simp [answer]

@[simp] theorem reject_ne_ok {k : OrderEventKind} {c : TransitionRejectionCode} {m : String} :
    reject a k c m ≠ .ok (b, gx) := by
  simp [reject]

@[simp] theorem notApplicable_ne_ok : notApplicable a e ≠ .ok (b, gx) := by simp [notApplicable]

theorem onlyAnswers_nil : OnlyAnswers [] := nofun

theorem onlyAnswers_singleton (m : MerchantAnswer) : OnlyAnswers [.answerMerchant m] := by simp [OnlyAnswers]

/-- An event that is answered, and leaves the order as it stands. -/
theorem stands_of_answer (hidle : Idle o e) (h : answer o m = .ok (b, gx)) :
    Move o (.state e) b gx := by
  obtain ⟨rfl, rfl⟩ := answer_eq_ok.1 h
  exact .stands hidle (onlyAnswers_singleton _)

theorem stands_of_ok (hidle : Idle o e) (h : ok o = .ok (b, gx)) : Move o (.state e) b gx := by
  obtain ⟨rfl, rfl⟩ := ok_eq_ok.1 h
  exact .stands hidle onlyAnswers_nil

theorem onlyWords_nil : OnlyWords [] := nofun

theorem OnlyAnswers.words (h : OnlyAnswers fx) : OnlyWords fx := fun f hf => .inl (h f hf)

theorem onlyWords_unpaid : OnlyWords [.emitMerchantEvent .unpaidAfterConfirmation] := by simp [OnlyWords]

/-! ## The shared moves -/

variable {t : Int}

theorem onQuoteSilence_move (hs : o.state = .created) (he : QuoteSilence t ev)
    (h : onQuoteSilence o t = .ok (b, gx)) : Move o ev b gx := by
  unfold onQuoteSilence enterQuoted at h
  split at h <;> rw [ok_eq_ok] at h <;> obtain ⟨rfl, rfl⟩ := h
  · exact .sellsOnSilence hs he
  · next hm => exact .closes (.silent hs he (by simpa using hm)) onlyWords_nil

theorem onDeparture_move (hs : o.state ∈ [.created, .quoted, .awaitingConfirmation, .confirmed])
    (hp : o.payment = .none) (h : onDeparture o = .ok (b, gx)) : Move o (.state (.merchantDeparted t)) b gx := by
  rw [onDeparture, if_neg (by simp [hp]), ok_eq_ok] at h
  obtain ⟨rfl, rfl⟩ := h
  exact .closes (.departed hs hp) onlyWords_nil

section
variable {held : Order}

theorem InHand.eq (hh : InHand o held) : held = { o with state := held.state, dispatch := held.dispatch } := by
  cases hh <;> rfl

variable {closure : Closure}

theorem resolveFulfillmentFailure_settled (hp : held.payment = .settled) :
    resolveFulfillmentFailure held closure = ok (closeWithoutMoney held .refundDue closure) (debtEffects closure) :=
  if_pos hp

/-- A fulfillment that will not happen, on an order its merchant holds: a debt where the money moved
first, and no purchase where it would have moved last. -/
theorem resolveFulfillmentFailure_move {ev : OrderEvent} {state : OrderState} (hh : InHand o held)
    (hp : o.payment = o.mode.settle.paidStage) (hf : Fails o ev state closure) (hd : closure ≠ .merchantDeparted)
    (h : resolveFulfillmentFailure held closure = .ok (b, gx)) : Move o ev b gx := by
  have hpay : held.payment = o.mode.settle.paidStage := by rw [hh.eq]; exact hp
  cases hm : o.mode.settle with
  | afterFulfillment =>
    have hns : held.payment ≠ .settled := by simp [hpay, hm, SettleTiming.paidStage]
    cases hf with
    | departed => exact absurd rfl hd
    | refused hr =>
      simp only [resolveFulfillmentFailure, if_neg hns, ok_eq_ok] at h
      obtain ⟨rfl, rfl⟩ := h
      exact .fails hh hm (.refused hr)
    | overdue ho =>
      simp only [resolveFulfillmentFailure, if_neg hns, ok_eq_ok] at h
      obtain ⟨rfl, rfl⟩ := h
      exact .fails hh hm (.overdue ho)
  | onPurchase =>
    rw [resolveFulfillmentFailure_settled (by rw [hpay, hm]; rfl), ok_eq_ok] at h
    obtain ⟨rfl, rfl⟩ := h
    have hmove := Move.owes hh hm hf onlyAnswers_nil
    rwa [append_nil] at hmove

theorem onDeparture_held_move {t : Int} (hs : o.state = .paid ∨ o.state = .dispatched)
    (hp : o.payment = o.mode.settle.paidStage) (h : onDeparture o = .ok (b, gx)) :
    Move o (.state (.merchantDeparted t)) b gx := by
  unfold onDeparture at h
  cases hm : o.mode.settle with
  | afterFulfillment =>
    rw [if_neg (by simp [hp, hm, SettleTiming.paidStage]), ok_eq_ok] at h
    obtain ⟨rfl, rfl⟩ := h
    exact .fails (.recorded hs) hm .departed
  | onPurchase =>
    rw [if_pos (by rw [hp, hm]; rfl), ok_eq_ok] at h
    obtain ⟨rfl, rfl⟩ := h
    have hmove := Move.owes (.recorded hs) hm (Fails.departed (t := t)) onlyAnswers_nil
    rwa [append_nil] at hmove

end

/-! ## The states -/

theorem fromCreated_move (hs : o.state = .created) (hb : o.Sound)
    (h : fromCreated o e = .ok (b, gx)) : Move o (.state e) b gx := by
  simp only [Order.Sound, hs] at hb
  obtain ⟨hp, -⟩ := hb
  cases e with
  | quoteAnswered t price =>
    cases price with
    | none =>
      obtain ⟨rfl, rfl⟩ := h
      exact .closes (.unavailable hs) onlyWords_nil
    | some price =>
      simp only [fromCreated] at h
      split at h
      · exact absurd h reject_ne_ok
      · next hc =>
        obtain ⟨rfl, rfl⟩ := h
        exact .quotes hs (Decidable.not_not.1 hc)
  | quoteSilent t => exact onQuoteSilence_move hs .silent h
  | merchantDeparted t => exact onDeparture_move (by simp [hs]) hp h
  | purchaseRepeated t => exact stands_of_ok (by simp [Idle, hs]) h
  | _ => simp [fromCreated] at h

theorem fromQuoted_move (hs : o.state = .quoted) (hb : o.Sound)
    (hg : o.payment = .settling → allowedWhileSettling o e) (h : fromQuoted o e = .ok (b, gx)) :
    Move o (.state e) b gx := by
  simp only [Order.Sound, hs] at hb
  have hwait := hb.1
  cases e with
  | paymentVerified t =>
    have hp := hwait.none (by simpa [allowedWhileSettling] using hg)
    simp only [fromQuoted] at h
    split at h
    · exact absurd h notApplicable_ne_ok
    · cases hm : o.mode.settle <;>
        simp only [hm, enterPaid, startSettle, ok_eq_ok, getD_none] at h <;>
        obtain ⟨rfl, rfl⟩ := h
      · exact .charges (.inl hs) hp hm
      · exact .clears (.inl hs) hp hm
  | paymentVerificationFailed t reason =>
    obtain ⟨rfl, rfl⟩ := h
    have hp := hwait.none (by simpa [allowedWhileSettling] using hg)
    exact .closes (.unverified (.inl hs) hp) onlyWords_nil
  | paymentSettled t =>
    simp only [fromQuoted] at h
    split at h
    · next hp =>
      obtain ⟨rfl, rfl⟩ := h
      exact .charged (.inl hs) hp
    · exact absurd h notApplicable_ne_ok
  | paymentSettleFailed t =>
    simp only [fromQuoted] at h
    split at h
    · next hp =>
      obtain ⟨rfl, rfl⟩ := h
      exact .chargeFails (.inl hs) hp onlyWords_nil
    · exact absurd h notApplicable_ne_ok
  | confirmationDispatched t =>
    simp only [fromQuoted] at h
    split at h
    · next hc =>
      obtain ⟨rfl, rfl⟩ := h
      exact .asks hs (hwait.none (by simpa [allowedWhileSettling] using hg)) hc
    · exact absurd h notApplicable_ne_ok
  | merchantDeparted t =>
    exact onDeparture_move (by simp [hs]) (hwait.none (by simpa [allowedWhileSettling] using hg)) h
  | purchaseRepeated t => exact stands_of_ok (by simp [Idle, hs]) h
  | _ => simp [fromQuoted] at h

theorem redeliver_cases {deadlineAt : Option Int} {giveUp : DeadlineKind}
    (h : redeliver o t deadlineAt giveUp = .ok (b, gx)) :
    (∃ attempt delayMs, b = o ∧ gx = [.redeliverOrder attempt delayMs]) ∨
      resolveFulfillmentFailure o (.deadlineExpired giveUp) = .ok (b, gx) := by
  unfold redeliver at h
  split at h
  · next attempt delayMs _ =>
    obtain ⟨rfl, rfl⟩ := ok_eq_ok.1 h
    exact .inl ⟨attempt, delayMs, rfl, rfl⟩
  · exact .inr h

theorem fromAwaitingConfirmation_move (hs : o.state = .awaitingConfirmation) (hb : o.Sound)
    (h : fromAwaitingConfirmation o e = .ok (b, gx)) : Move o (.state e) b gx := by
  simp only [Order.Sound, hs] at hb
  obtain ⟨hp, -⟩ := hb
  cases e with
  | handlerAccepted t =>
    obtain ⟨rfl, rfl⟩ := h
    exact .confirms hs
  | handlerRefused t code message =>
    obtain ⟨rfl, rfl⟩ := h
    exact .closes (.declined (.inl hs) hp (.handler t)) onlyWords_nil
  | refuseCalled t code message =>
    obtain ⟨rfl, rfl⟩ := h
    exact .closes (.declined (.inl hs) hp (.call t)) (onlyAnswers_singleton _).words
  | handlerUndelivered t =>
    rcases redeliver_cases h with ⟨attempt, delayMs, rfl, rfl⟩ | h
    · exact .asksOnceMore hs
    · simp only [resolveFulfillmentFailure, hp, reduceCtorEq, if_false, ok_eq_ok] at h
      obtain ⟨rfl, rfl⟩ := h
      exact .closes (.unreached hs) onlyWords_nil
  | confirmationDispatched t =>
    obtain ⟨rfl, rfl⟩ := h
    exact .asksAgain hs
  | merchantDeparted t => exact onDeparture_move (by simp [hs]) hp h
  | purchaseRepeated t => exact stands_of_ok (by simp [Idle, hs]) h
  | _ => simp [fromAwaitingConfirmation] at h

theorem fromConfirmed_move (hs : o.state = .confirmed) (hb : o.Sound)
    (hg : o.payment = .settling → allowedWhileSettling o e) (h : fromConfirmed o e = .ok (b, gx)) :
    Move o (.state e) b gx := by
  simp only [Order.Sound, hs] at hb
  have hwait := hb.1
  cases e with
  | paymentVerified t =>
    have hp := hwait.none (by simpa [allowedWhileSettling] using hg)
    cases hm : o.mode.settle <;>
      simp only [fromConfirmed, hm, enterPaid, startSettle, ok_eq_ok, getD_none] at h <;>
      obtain ⟨rfl, rfl⟩ := h
    · exact .charges (.inr hs) hp hm
    · exact .clears (.inr hs) hp hm
  | paymentSettled t =>
    simp only [fromConfirmed] at h
    split at h
    · next hp =>
      obtain ⟨rfl, rfl⟩ := h
      exact .charged (.inr hs) hp
    · exact absurd h notApplicable_ne_ok
  | paymentVerificationFailed t reason =>
    obtain ⟨rfl, rfl⟩ := h
    have hp := hwait.none (by simpa [allowedWhileSettling] using hg)
    exact .closes (.unverified (.inr hs) hp) onlyWords_unpaid
  | paymentSettleFailed t =>
    simp only [fromConfirmed] at h
    split at h
    · next hp =>
      obtain ⟨rfl, rfl⟩ := h
      exact .chargeFails (.inr hs) hp onlyWords_unpaid
    · exact absurd h notApplicable_ne_ok
  | refuseCalled t code message =>
    obtain ⟨rfl, rfl⟩ := h
    have hp := hwait.none (by simpa [allowedWhileSettling, hs] using hg)
    exact .closes (.declined (.inr hs) hp (.call t)) (onlyAnswers_singleton _).words
  | handlerRefused t code message =>
    obtain ⟨rfl, rfl⟩ := h
    have hp := hwait.none (by simpa [allowedWhileSettling] using hg)
    exact .closes (.declined (.inr hs) hp (.handler t)) onlyWords_nil
  | merchantDeparted t =>
    exact onDeparture_move (by simp [hs]) (hwait.none (by simpa [allowedWhileSettling] using hg)) h
  | purchaseRepeated t => exact stands_of_ok (by simp [Idle, hs]) h
  | _ => simp [fromConfirmed] at h

theorem fromDispatched_undelivered (held : Order) (t : Int) : fromDispatched held (.handlerUndelivered t) =
      redeliver held t ((fulfillmentDeadline held).head?.map (·.at)) held.mode.settle.goodsDeadline := by
  simp only [fromDispatched]
  congr 1
  unfold fulfillmentDeadline
  split <;> cases held.mode.settle <;> rfl

theorem deliverGoods_move {held : Order} {extra : List Effect} (hh : InHand o held) (hd : Delivers ev)
    (he : o.mode.settle = .afterFulfillment → ev = .state (.handlerDelivered t) ∧ extra = [])
    (hx : OnlyAnswers extra) (h : deliverGoods held t extra = .ok (b, gx)) : Move o ev b gx := by
  have hmode : held.mode = o.mode := by rw [hh.eq]
  unfold deliverGoods at h
  cases hm : o.mode.settle with
  | afterFulfillment =>
    obtain ⟨rfl, rfl⟩ := he hm
    simp only [hmode, hm, startSettle, ok, bind, Except.bind, getD_some, append_nil,
      Except.ok.injEq, Prod.mk.injEq] at h
    obtain ⟨rfl, rfl⟩ := h
    exact .fulfils hh hm
  | onPurchase =>
    simp only [hmode, hm, ok_eq_ok] at h
    obtain ⟨rfl, rfl⟩ := h
    exact .delivers hh hm hd hx

/-- The answers of a merchant who holds the order, whether or not the record of the hand-over has
landed. -/
theorem fromDispatched_handler_move {held : Order} (hh : InHand o held)
    (hd : held.state = .dispatched) (hp : o.payment = o.mode.settle.paidStage)
    (he : e.kind ∈ [.handlerAccepted, .handlerDelivered, .handlerRefused, .handlerUndelivered])
    (h : fromDispatched held e = .ok (b, gx)) : Move o (.state e) b gx := by
  cases e with
  | handlerAccepted t =>
    obtain ⟨rfl, rfl⟩ := h
    exact .accepts hh hd
  | handlerDelivered t => exact deliverGoods_move hh (.handler t) (fun _ => ⟨rfl, rfl⟩) onlyAnswers_nil h
  | handlerRefused t code message => exact resolveFulfillmentFailure_move hh hp (.refused (.handler t)) nofun h
  | handlerUndelivered t =>
    rw [fromDispatched_undelivered] at h
    rcases redeliver_cases h with ⟨attempt, delayMs, rfl, rfl⟩ | h
    · exact .redelivers hh hd
    · have hmode : held.mode = o.mode := by rw [hh.eq]
      rw [hmode] at h
      exact resolveFulfillmentFailure_move hh hp (.overdue (.undelivered t)) nofun h
  | _ => simp [StateEvent.kind] at he

theorem fromDispatched_call_move {held : Order} (hh : InHand o held) (hp : o.payment = o.mode.settle.paidStage)
    (hm : o.mode.settle = .onPurchase) (he : e.kind ∈ [.deliverCalled, .refuseCalled])
    (h : fromDispatched held e = .ok (b, gx)) : Move o (.state e) b gx := by
  have hmode : held.mode = o.mode := by rw [hh.eq]
  cases e with
  | deliverCalled t =>
    simp only [fromDispatched, hmode, hm] at h
    exact deliverGoods_move hh (.call t) (fun ha => by simp [hm] at ha) (onlyAnswers_singleton _) h
  | refuseCalled t code message =>
    have hpay : held.payment = .settled := by rw [hh.eq]; rw [hm] at hp; exact hp
    simp only [fromDispatched, hmode, hm, resolveFulfillmentFailure_settled hpay, ok, bind,
      Except.bind, Except.ok.injEq, Prod.mk.injEq] at h
    obtain ⟨rfl, rfl⟩ := h
    exact .owes hh hm (.refused (.call t)) (onlyAnswers_singleton _)
  | _ => simp [StateEvent.kind] at he

theorem fromPaid_move (hs : o.state = .paid) (hb : o.Sound) (h : fromPaid o e = .ok (b, gx)) :
    Move o (.state e) b gx := by
  simp only [Order.Sound, hs] at hb
  obtain ⟨hp, -⟩ := hb
  cases e with
  | orderDispatched t =>
    obtain ⟨rfl, rfl⟩ := h
    exact .dispatches hs
  | deliverCalled t | refuseCalled t code message =>
    simp only [fromPaid] at h
    cases hm : o.mode.settle with
    | afterFulfillment =>
      simp only [hm, answer_eq_ok] at h
      obtain ⟨rfl, rfl⟩ := h
      exact .stands (by simp [Idle]) (onlyAnswers_singleton _)
    | onPurchase =>
      simp only [hm] at h
      exact fromDispatched_call_move (.called hs) hp hm (by simp [StateEvent.kind]) h
  | handlerAccepted t | handlerDelivered t | handlerRefused t code message
  | handlerUndelivered t => exact fromDispatched_handler_move (.answered hs) rfl hp (by simp [StateEvent.kind]) h
  | merchantDeparted t => exact onDeparture_held_move (.inl hs) hp h
  | purchaseRepeated t => exact stands_of_ok (by simp [Idle, hs]) h
  | _ => simp [fromPaid] at h

theorem fromDispatched_move (hs : o.state = .dispatched) (hb : o.Sound)
    (h : fromDispatched o e = .ok (b, gx)) : Move o (.state e) b gx := by
  simp only [Order.Sound, hs] at hb
  obtain ⟨hp, -⟩ := hb
  have hh : InHand o o := .recorded (.inr hs)
  cases e with
  | handlerAccepted t | handlerDelivered t | handlerRefused t code message
  | handlerUndelivered t => exact fromDispatched_handler_move hh hs hp (by simp [StateEvent.kind]) h
  | deliverCalled t | refuseCalled t code message =>
    cases hm : o.mode.settle with
    | afterFulfillment =>
      simp only [fromDispatched, hm, answer_eq_ok] at h
      obtain ⟨rfl, rfl⟩ := h
      exact .stands (by simp [Idle]) (onlyAnswers_singleton _)
    | onPurchase => exact fromDispatched_call_move hh hp hm (by simp [StateEvent.kind]) h
  | orderDispatched t =>
    obtain ⟨rfl, rfl⟩ := h
    exact .dispatchesAgain hs
  | merchantDeparted t => exact onDeparture_held_move (.inr hs) hp h
  | purchaseRepeated t => exact stands_of_ok (by simp [Idle, hs]) h
  | _ => simp [fromDispatched] at h

theorem fromFulfilled_move (hs : o.state = .fulfilled) (h : fromFulfilled o e = .ok (b, gx)) :
    Move o (.state e) b gx := by
  cases e with
  | paymentSettled t =>
    simp only [fromFulfilled] at h
    split at h
    · obtain ⟨rfl, rfl⟩ := ok_eq_ok.1 h
      exact .settles hs
    · exact absurd h notApplicable_ne_ok
  | paymentSettleFailed t =>
    simp only [fromFulfilled] at h
    split at h
    · obtain ⟨rfl, rfl⟩ := ok_eq_ok.1 h
      exact .staysUnpaid hs
    · exact absurd h notApplicable_ne_ok
  | deliverCalled t | handlerDelivered t | refuseCalled t code message =>
    exact stands_of_answer (by simp [Idle]) h
  | purchaseRepeated t => exact stands_of_ok (by simp [Idle, hs]) h
  | _ => simp [fromFulfilled] at h

theorem fromDelivered_move (hs : o.state = .delivered) (h : fromDelivered o e = .ok (b, gx)) :
    Move o (.state e) b gx := by
  cases e with
  | deliverCalled t | handlerDelivered t | handlerAccepted t | refuseCalled t code message =>
    exact stands_of_answer (by simp [Idle]) h
  | merchantDeparted t | purchaseRepeated t => exact stands_of_ok (by simp [Idle, hs]) h
  | _ => simp [fromDelivered] at h

theorem fromDeliveredUnpaid_move (hs : o.state = .deliveredUnpaid) (hb : o.Sound)
    (hg : o.payment = .settling → allowedWhileSettling o e)
    (h : fromDeliveredUnpaid o e = .ok (b, gx)) : Move o (.state e) b gx := by
  simp only [Order.Sound, hs] at hb
  obtain ⟨-, -, -, hp, -⟩ := hb
  cases e with
  | purchaseRepeated t =>
    simp only [fromDeliveredUnpaid] at h
    split at h
    · exact absurd h reject_ne_ok
    · next hu =>
      obtain ⟨rfl, rfl⟩ := ok_eq_ok.1 h
      have hn : o.payment ≠ .settling := by simpa [allowedWhileSettling] using hg
      exact .repeats hs (by simpa [hu, hn] using hp)
  | paymentVerified t =>
    simp only [fromDeliveredUnpaid] at h
    split at h
    · next hn =>
      obtain ⟨rfl, rfl⟩ := ok_eq_ok.1 h
      rw [getD_none, hs]
      exact .retries hs hn
    · exact absurd h notApplicable_ne_ok
  | paymentSettled t =>
    simp only [fromDeliveredUnpaid] at h
    split at h
    · next hout =>
      obtain ⟨rfl, rfl⟩ := ok_eq_ok.1 h
      exact .settlesLate hs hout
    · exact absurd h notApplicable_ne_ok
  | paymentSettleFailed t =>
    simp only [fromDeliveredUnpaid] at h
    split at h
    · next hout =>
      obtain ⟨rfl, rfl⟩ := ok_eq_ok.1 h
      exact .failsAgain hs hout
    · exact absurd h notApplicable_ne_ok
  | deliverCalled t | handlerDelivered t | refuseCalled t code message =>
    exact stands_of_answer (by simp [Idle]) h
  | merchantDeparted t | paymentVerificationFailed t reason => exact stands_of_ok (by simp [Idle]) h
  | _ => simp [fromDeliveredUnpaid] at h

theorem fromRefundDue_move (hs : o.state = .refundDue) (h : fromRefundDue o e = .ok (b, gx)) :
    Move o (.state e) b gx := by
  cases e with
  | deliverCalled t =>
    obtain ⟨rfl, rfl⟩ := ok_eq_ok.1 h
    exact .closesDebt hs (.call t) (onlyAnswers_singleton (.success .debtClosedByDelivery))
  | handlerDelivered t =>
    obtain ⟨rfl, rfl⟩ := ok_eq_ok.1 h
    exact .closesDebt hs (.handler t) onlyAnswers_nil
  | refundSettled t =>
    obtain ⟨rfl, rfl⟩ := ok_eq_ok.1 h
    exact .refunds hs
  | refuseCalled t code message => exact stands_of_answer (by simp [Idle]) h
  | handlerRefused t code message | handlerAccepted t | handlerUndelivered t | orderDispatched t
  | purchaseRepeated t | merchantDeparted t => exact stands_of_ok (by simp [Idle, hs]) h
  | _ => simp [fromRefundDue] at h

theorem fromRefunded_move (hs : o.state = .refunded) (h : fromRefunded o e = .ok (b, gx)) :
    Move o (.state e) b gx := by
  cases e with
  | deliverCalled t | handlerDelivered t | refuseCalled t code message =>
    exact stands_of_answer (by simp [Idle]) h
  | merchantDeparted t | purchaseRepeated t => exact stands_of_ok (by simp [Idle, hs]) h
  | _ => simp [fromRefunded] at h

theorem fromFailed_move (hs : o.state = .failed) (h : fromFailed o e = .ok (b, gx)) : Move o (.state e) b gx := by
  cases e with
  | deliverCalled t | refuseCalled t code message => exact stands_of_answer (by simp [Idle]) h
  | merchantDeparted t | purchaseRepeated t => exact stands_of_ok (by simp [Idle, hs]) h
  | _ => simp [fromFailed] at h

theorem fromExpired_move (hs : o.state = .expired) (h : fromExpired o e = .ok (b, gx)) : Move o (.state e) b gx := by
  cases e with
  | handlerDelivered t =>
    simp only [fromExpired] at h
    split at h
    · exact absurd h notApplicable_ne_ok
    · next ha =>
      split at h
      · obtain ⟨rfl, rfl⟩ := ok_eq_ok.1 h
        exact .stands (by simp [Idle]) (onlyAnswers_singleton _)
      · next hn =>
        obtain ⟨rfl, rfl⟩ := ok_eq_ok.1 h
        exact .holds hs (by simpa using ha) (by simpa using hn)
  | purchaseRepeated t =>
    simp only [fromExpired] at h
    split at h
    · next hheld =>
      obtain ⟨rfl, rfl⟩ := ok_eq_ok.1 h
      exact .reclaims hs hheld
    · next hn => exact stands_of_ok (by simp [Idle, hs, hn]) h
  | paymentVerified t =>
    simp only [fromExpired] at h
    split at h
    · next hheld =>
      obtain ⟨rfl, rfl⟩ := ok_eq_ok.1 h
      simp only [Bool.and_eq_true, decide_eq_true_eq] at hheld
      exact .revives hs hheld.1 hheld.2
    · exact absurd h notApplicable_ne_ok
  | paymentVerificationFailed t reason =>
    simp only [fromExpired] at h
    split at h
    · exact stands_of_ok (by simp [Idle]) h
    · exact absurd h notApplicable_ne_ok
  | deliverCalled t | refuseCalled t code message => exact stands_of_answer (by simp [Idle]) h
  | merchantDeparted t => exact stands_of_ok (by simp [Idle]) h
  | _ => simp [fromExpired] at h

/-- Only `rejected` is ever closed on the silence of a charge. -/
theorem Order.Sound.rejected_of_unknown (hb : o.Sound)
    (hs : o.state = .rejected ∨ o.state = .declined ∨ o.state = .cancelled)
    (hc : o.closure = some .paymentOutcomeUnknown) : o.state = .rejected := by
  rcases hs with hs | hs | hs
  · exact hs
  · simp [Order.Sound, hs, Order.RefusedByMerchant, hc] at hb
  · simp [Order.Sound, hs, hc] at hb

theorem fromClosedWithoutMoney_move (hs : o.state = .rejected ∨ o.state = .declined ∨ o.state = .cancelled)
    (hb : o.Sound) (h : fromClosedWithoutMoney o e = .ok (b, gx)) : Move o (.state e) b gx := by
  cases e with
  | deliverCalled t | refuseCalled t code message => exact stands_of_answer (by simp [Idle]) h
  | paymentSettled t =>
    simp only [fromClosedWithoutMoney] at h
    split at h
    · next hc =>
      obtain ⟨rfl, rfl⟩ := ok_eq_ok.1 h
      exact .owesAfterAll (hb.rejected_of_unknown hs hc) hc
    · exact absurd h notApplicable_ne_ok
  | paymentSettleFailed t =>
    simp only [fromClosedWithoutMoney] at h
    split at h
    · next hc =>
      obtain ⟨rfl, rfl⟩ := ok_eq_ok.1 h
      exact .provesUnpaid (hb.rejected_of_unknown hs hc) hc
    · exact absurd h notApplicable_ne_ok
  | merchantDeparted t => exact stands_of_ok (by simp [Idle]) h
  | purchaseRepeated t => exact stands_of_ok (by rcases hs with hs | hs | hs <;> simp [Idle, hs]) h
  | _ => simp [fromClosedWithoutMoney] at h

/-! ## Deadlines -/

section

variable (hb : o.Sound)
include hb

theorem onSilentSettle_move (hp : o.payment = .settling)
    (h : onSilentSettle o = .ok (b, gx)) : Move o (.deadlineExpired t .settleResponse) b gx := by
  simp only [onSilentSettle] at h
  split at h
  · next hs =>
    obtain ⟨rfl, rfl⟩ := ok_eq_ok.1 h
    exact .fulfilledSilent hs
  · next hf =>
    split at h
    · next hs =>
      obtain ⟨rfl, rfl⟩ := ok_eq_ok.1 h
      exact .unpaidSilent hs hp
    · next hu =>
      have hs : o.state = .quoted ∨ o.state = .confirmed := hb.charging hp hf hu
      split at h
      · obtain ⟨rfl, rfl⟩ := ok_eq_ok.1 h
        exact .chargeSilent hs hp onlyWords_unpaid
      · obtain ⟨rfl, rfl⟩ := ok_eq_ok.1 h
        exact .chargeSilent hs hp onlyWords_nil

theorem expire_move {t' : Int} {kind : DeadlineKind} (hr : Running o ⟨kind, t'⟩)
    (h : expire o t kind = .ok (b, gx)) : Move o (.deadlineExpired t kind) b gx := by
  cases hr with
  | settle hp _ => exact onSilentSettle_move hb hp h
  | price hs _ => exact onQuoteSilence_move hs .overdue h
  | quote hs hp _ =>
    obtain ⟨rfl, rfl⟩ := ok_eq_ok.1 h
    exact .closes (.overdue (.inl ⟨hs, rfl⟩) hp) onlyWords_nil
  | confirmation hs hp _ =>
    obtain ⟨rfl, rfl⟩ := ok_eq_ok.1 h
    exact .closes (.overdue (.inr (.inl ⟨hs, rfl⟩)) hp) onlyWords_nil
  | payment hs hp _ =>
    obtain ⟨rfl, rfl⟩ := ok_eq_ok.1 h
    exact .closes (.overdue (.inr (.inr ⟨hs, rfl⟩)) hp) onlyWords_unpaid
  | goods hs hp _ =>
    have hf : resolveFulfillmentFailure o (.deadlineExpired o.mode.settle.goodsDeadline) =
        .ok (b, gx) := by
      rw [← h]
      cases o.mode.settle <;> rfl
    exact resolveFulfillmentFailure_move (.recorded hs) hp (.overdue (.expired t)) nofun hf

theorem onDeadline_ok {kind : DeadlineKind} (h : onDeadline o t kind = .ok (b, gx)) :
    ∃ t', Running o ⟨kind, t'⟩ ∧ t' ≤ t ∧ expire o t kind = .ok (b, gx) := by
  simp only [onDeadline] at h
  split at h
  · exact absurd h reject_ne_ok
  · next armed hfind =>
    split at h
    · exact absurd h reject_ne_ok
    · next hdue =>
      have hk : armed.kind = kind := by simpa using find?_some hfind
      have hr : Running o armed := (mem_deadlines hb).1 (mem_of_find?_eq_some hfind)
      subst hk
      exact ⟨armed.at, hr, Int.not_lt.1 hdue, h⟩

/-! ## The transition -/

theorem fromState_move (hg : o.payment = .settling → allowedWhileSettling o e)
    (h : fromState o e = .ok (b, gx)) : Move o (.state e) b gx := by
  unfold fromState at h
  split at h
  · next hs => exact fromCreated_move hs hb h
  · next hs => exact fromQuoted_move hs hb hg h
  · next hs => exact fromAwaitingConfirmation_move hs hb h
  · next hs => exact fromConfirmed_move hs hb hg h
  · next hs => exact fromPaid_move hs hb h
  · next hs => exact fromDispatched_move hs hb h
  · next hs => exact fromFulfilled_move hs h
  · next hs => exact fromDelivered_move hs h
  · next hs => exact fromDeliveredUnpaid_move hs hb hg h
  · next hs => exact fromRefundDue_move hs h
  · next hs => exact fromRefunded_move hs h
  · next hs => exact fromFailed_move hs h
  · next hs => exact fromExpired_move hs h
  · next hs => exact fromClosedWithoutMoney_move (.inl hs) hb h
  · next hs => exact fromClosedWithoutMoney_move (.inr (.inl hs)) hb h
  · next hs => exact fromClosedWithoutMoney_move (.inr (.inr hs)) hb h

/-- **Every accepted event is a move.** -/
theorem transition_move {ev : OrderEvent} (h : transition o ev = .ok (b, gx)) : Move o ev b gx := by
  cases ev with
  | deadlineExpired t kind =>
    obtain ⟨t', hr, -, hx⟩ := onDeadline_ok hb h
    exact expire_move hb hr hx
  | state e =>
    simp only [transition] at h
    split at h
    · exact absurd h reject_ne_ok
    · next hg => exact fromState_move hb (fun hp => by simpa [hp] using hg) h

end

end

end Coinslot
