import Coinslot.Orders.Charging

/-!
# Come back later

The one refusal that asks for a repeat is `settle_in_flight`, and an order gives it only while a charge is
out on it (`Order.ChargeOut`): one that is being executed, or one that was executed for all we know. The
report of a charge ends it, whatever the report says, and no charge is out again before another is
executed, so that a refusal of this kind is not repeated for ever (`Birth.refusals_end`). A payment that
was taken is taken again only after the purchase is repeated.
-/

namespace Coinslot

/-- A charge is out on the order: it is being executed, or nobody knows how it ended. -/
def Order.ChargeOut (o : Order) : Prop := o.payment = .settling ∨ o.payment = .outcomeUnknown

/-- The report of a charge: the money moved, or it did not. -/
inductive ReportsCharge : StateEvent → Prop
  | settled (t : Int) : ReportsCharge (.paymentSettled t)
  | failed (t : Int) : ReportsCharge (.paymentSettleFailed t)

/-- The answer does not ask to come back later. -/
def ForGood (result : TransitionResult) : Prop :=
  ∀ rejection, result = .error rejection → rejection.code ≠ .settleInFlight

section
variable {o o' : Order} {e : OrderEvent} {event : StateEvent} {fx : List Effect}

/-! ## Who asks to come back -/

@[simp] theorem forGood_ok : ForGood (ok o fx) := by
  rintro rejection h
  cases h

@[simp] theorem forGood_answer {m : MerchantAnswer} : ForGood (answer o m) := forGood_ok

theorem forGood_reject {k : OrderEventKind} {c : TransitionRejectionCode} {m : String}
    (hc : c ≠ .settleInFlight) : ForGood (reject o k c m) := by
  rintro rejection h
  cases h
  exact hc

@[simp] theorem forGood_notApplicable : ForGood (notApplicable o event) := forGood_reject nofun

@[simp] theorem forGood_closedToMerchant : ForGood (closedToMerchant o) := forGood_answer

theorem ForGood.bind {result : TransitionResult} {f : Order × List Effect → TransitionResult}
    (h : ForGood result) (hf : ∀ came, ForGood (f came)) : ForGood (result >>= f) := by
  cases result with
  | error rejection => exact h
  | ok came => exact hf came

variable {t : Int}

theorem forGood_onQuoteSilence : ForGood (onQuoteSilence o t) := by
  unfold onQuoteSilence enterQuoted
  split <;> exact forGood_ok

theorem forGood_onDeparture : ForGood (onDeparture o) := by
  unfold onDeparture
  split <;> exact forGood_ok

theorem forGood_resolveFulfillmentFailure {closure : Closure} : ForGood (resolveFulfillmentFailure o closure) := by
  unfold resolveFulfillmentFailure
  split <;> exact forGood_ok

theorem forGood_redeliver {deadlineAt : Option Int} {giveUp : DeadlineKind} :
    ForGood (redeliver o t deadlineAt giveUp) := by
  unfold redeliver
  split
  · exact forGood_ok
  · exact forGood_resolveFulfillmentFailure

theorem forGood_deliverGoods : ForGood (deliverGoods o t fx) := by
  unfold deliverGoods
  split <;> exact forGood_ok

theorem forGood_onSilentSettle : ForGood (onSilentSettle o) := by
  unfold onSilentSettle
  split
  · exact forGood_ok
  · split
    · exact forGood_ok
    · split <;> exact forGood_ok

theorem forGood_onDeadline {deadline : DeadlineKind} : ForGood (onDeadline o t deadline) := by
  unfold onDeadline
  split
  · exact forGood_reject nofun
  · split
    · exact forGood_reject nofun
    · unfold expire
      split
      · exact forGood_onQuoteSilence
      · exact forGood_ok
      · exact forGood_ok
      · exact forGood_onSilentSettle
      · exact forGood_ok
      · exact forGood_resolveFulfillmentFailure
      · exact forGood_resolveFulfillmentFailure

theorem forGood_fromDispatched : ForGood (fromDispatched o event) := by
  unfold fromDispatched
  split
  · exact forGood_ok
  · exact forGood_deliverGoods
  · exact forGood_resolveFulfillmentFailure
  · exact forGood_redeliver
  · split
    · exact forGood_answer
    · exact forGood_deliverGoods
  · split
    · exact forGood_answer
    · exact forGood_resolveFulfillmentFailure.bind fun _ => forGood_ok
  · exact forGood_ok
  · exact forGood_onDeparture
  · exact forGood_ok
  · exact forGood_notApplicable

theorem forGood_fromPaid : ForGood (fromPaid o event) := by
  unfold fromPaid
  split
  · exact forGood_ok
  · split
    · exact forGood_answer
    · exact forGood_fromDispatched
  · split
    · exact forGood_answer
    · exact forGood_fromDispatched
  all_goals first | exact forGood_fromDispatched | exact forGood_onDeparture | simp

theorem forGood_fromState (hs : o.state ≠ .deliveredUnpaid) : ForGood (fromState o event) := by
  unfold fromState
  split
  · unfold fromCreated enterQuoted
    split
    · exact forGood_ok
    · split
      · exact forGood_reject nofun
      · exact forGood_ok
    · exact forGood_onQuoteSilence
    · exact forGood_onDeparture
    · exact forGood_ok
    · exact forGood_notApplicable
  · unfold fromQuoted enterPaid startSettle
    split <;> repeat' split
    all_goals first | exact forGood_onDeparture | simp
  · unfold fromAwaitingConfirmation
    split
    all_goals first
      | exact forGood_redeliver | exact forGood_onDeparture | exact forGood_reject nofun | simp
  · unfold fromConfirmed enterPaid startSettle
    split <;> repeat' split
    all_goals first | exact forGood_onDeparture | simp
  · exact forGood_fromPaid
  · exact forGood_fromDispatched
  · unfold fromFulfilled
    split <;> repeat' split
    all_goals simp
  · unfold fromDelivered
    split <;> simp
  · next hd => exact absurd hd hs
  · unfold fromRefundDue
    split <;> simp
  · unfold fromRefunded
    split <;> simp
  · unfold fromFailed
    split <;> simp
  · unfold fromExpired startSettle
    split <;> repeat' split
    all_goals simp
  all_goals
    unfold fromClosedWithoutMoney
    split <;> repeat' split
    all_goals simp

theorem forGood_fromDeliveredUnpaid (hp : o.payment ≠ .outcomeUnknown) : ForGood (fromDeliveredUnpaid o event) := by
  unfold fromDeliveredUnpaid startSettle
  split
  · rw [if_neg hp]
    exact forGood_ok
  all_goals repeat' split
  all_goals simp

/-- **Only a charge that is out asks to come back later.** -/
theorem chargeOut_of_settleInFlight {rejection : TransitionRejection}
    (h : transition o e = .error rejection) (hc : rejection.code = .settleInFlight) : o.ChargeOut := by
  by_contra hn
  obtain ⟨hset, hunknown⟩ := not_or.1 hn
  suffices hgood : ForGood (transition o e) from hgood rejection h hc
  cases e with
  | deadlineExpired t deadline => exact forGood_onDeadline
  | state event =>
    rw [transition, if_neg fun hw => hset hw.1]
    by_cases hs : o.state = .deliveredUnpaid
    · simp only [fromState, hs]
      exact forGood_fromDeliveredUnpaid hunknown
    · exact forGood_fromState hs

/-! ## The report of a charge -/

theorem InHand.charge_in {held : Order} (hh : InHand o held) (hb : o.Sound) : ¬ held.ChargeOut := by
  rw [Order.ChargeOut, hh.payment, hh.paidStage hb]
  simp

theorem Move.charge_reported (hm : Move o (.state event) o' fx) (hr : ReportsCharge event) : ¬ o'.ChargeOut := by
  cases hr with
  | settled t =>
    cases hm with
    | stands hi _ => exact hi.elim
    | sellsOnSilence _ hq => cases hq
    | closes hc _ =>
      cases hc with
      | silent _ hq _ => cases hq
      | declined _ _ hr => cases hr
    | delivers _ _ hd _ | closesDebt _ hd _ => cases hd
    | fails _ _ hf | owes _ _ hf _ =>
      cases hf with
      | refused hr => cases hr
      | overdue hg => cases hg
    | charged _ _ | settles _ | settlesLate _ _ | owesAfterAll _ _ => simp [Order.ChargeOut, paidOrder]
  | failed t =>
    cases hm with
    | stands hi _ => exact hi.elim
    | sellsOnSilence _ hq => cases hq
    | closes hc _ =>
      cases hc with
      | silent _ hq _ => cases hq
      | declined _ _ hr => cases hr
    | delivers _ _ hd _ | closesDebt _ hd _ => cases hd
    | fails _ _ hf | owes _ _ hf _ =>
      cases hf with
      | refused hr => cases hr
      | overdue hg => cases hg
    | chargeFails _ _ _ | staysUnpaid _ | failsAgain _ _ | provesUnpaid _ _ => simp [Order.ChargeOut]

theorem Move.charge_in (hm : Move o e o' fx) (hb : o.Sound) (hn : ¬ o.ChargeOut)
    (hfx : .executePayment ∉ fx) : ¬ o'.ChargeOut := by
  cases hm with
  | charges _ _ _ | retries _ _ | revives _ _ _ | fulfils _ _ => exact absurd (List.mem_singleton_self _) hfx
  | chargeSilent _ hp _ | unpaidSilent _ hp => exact absurd (.inl hp) hn
  | fulfilledSilent hs => exact absurd (.inl (hb.fulfilled_settling hs)) hn
  | accepts hh _ | redelivers hh _ | delivers hh _ _ _ | fails hh _ _ | owes hh _ _ _ => exact hh.charge_in hb
  | clears _ _ _ | charged _ _ | chargeFails _ _ _ | settles _ | staysUnpaid _ | repeats _ _ | settlesLate _ _
  | failsAgain _ _ | reclaims _ _ | owesAfterAll _ _ | provesUnpaid _ _ => simp [Order.ChargeOut, paidOrder]
  | _ => exact hn

/-! ## A payment that was taken -/

theorem Move.takes (hm : Move o (.state (.paymentVerified t)) o' fx) :
    o.payment = .none ∧ o'.payment ≠ .none := by
  cases hm with
  | stands hi _ => exact hi.elim
  | sellsOnSilence _ hq => cases hq
  | closes hc _ =>
    cases hc with
    | silent _ hq _ => cases hq
    | declined _ _ hr => cases hr
  | delivers _ _ hd _ | closesDebt _ hd _ => cases hd
  | fails _ _ hf | owes _ _ hf _ =>
    cases hf with
    | refused hr => cases hr
    | overdue hg => cases hg
  | clears _ hp _ | charges _ hp _ | retries _ hp | revives _ _ hp => exact ⟨hp, by simp [paidOrder, settlingOrder]⟩

theorem Move.keeps_taken (hm : Move o e o' fx) (hp : o.payment ≠ .none) (he : e.kind ≠ .purchaseRepeated) :
    o'.payment ≠ .none := by
  cases hm with
  | repeats _ _ | reclaims _ _ => exact absurd rfl he
  | accepts hh _ | redelivers hh _ | delivers hh _ _ _ | fails hh _ _ | owes hh _ _ _ =>
    rw [← hh.payment] at hp
    exact hp
  | clears _ _ _ | charges _ _ _ | charged _ _ | chargeFails _ _ _ | chargeSilent _ _ _ | fulfils _ _ | settles _
  | staysUnpaid _ | fulfilledSilent _ | retries _ _ | settlesLate _ _ | failsAgain _ _ | unpaidSilent _ _
  | revives _ _ _ | owesAfterAll _ _ | provesUnpaid _ _ => simp [paidOrder, settlingOrder, closeWithoutMoney]
  | _ => exact hp

/-! ## The runs -/

theorem run_charge_in (hb : o.Sound) (hn : ¬ o.ChargeOut) (events : List OrderEvent)
    (hfx : .executePayment ∉ emissions (orderMachine.log o events)) : ¬ (orderMachine.run o events).ChargeOut := by
  refine (orderMachine.log_induction (l := [])
    (P := fun o log => o.Sound ∧ (.executePayment ∉ emissions log → ¬ o.ChargeOut))
    ?_ ⟨hb, fun _ => hn⟩ events).2 hfx
  rintro o log e o' fx ⟨hb, ih⟩ h
  have hm := transition_move hb h
  refine ⟨hm.sound hb, fun hquiet => ?_⟩
  rw [emissions_append, emissions_stepLog, List.mem_append, not_or] at hquiet
  exact hm.charge_in hb (ih hquiet.1) hquiet.2

theorem run_keeps_taken (hb : o.Sound) (hp : o.payment ≠ .none) (events : List OrderEvent)
    (hrep : .purchaseRepeated ∉ acceptedKinds (orderMachine.log o events)) :
    (orderMachine.run o events).payment ≠ .none := by
  refine (orderMachine.log_induction (l := [])
    (P := fun o log => o.Sound ∧ (.purchaseRepeated ∉ acceptedKinds log → o.payment ≠ .none))
    ?_ ⟨hb, fun _ => hp⟩ events).2 hrep
  rintro o log e o' fx ⟨hb, ih⟩ h
  have hm := transition_move hb h
  refine ⟨hm.sound hb, fun hrep => ?_⟩
  rw [acceptedKinds_append, List.mem_append, not_or, Reactor.stepLog, acceptedKinds_cons rfl, List.mem_cons, not_or]
    at hrep
  exact hm.keeps_taken (ih hrep.1) (Ne.symm hrep.2.1)

/-- **A refusal that asks to come back later is not for ever.** Once a charge is reported, one way or the
other, none is out, and no event is told to come back later before another charge is executed. And a
payment that was taken is refused when it is sent again, before the purchase is repeated. -/
theorem Birth.refusals_end (birth : Birth) (before after : List OrderEvent) :
    (∀ report settled fx, ReportsCharge report →
      transition (birth.run before) (.state report) = .ok (settled, fx) →
        ¬ settled.ChargeOut ∧
          (.executePayment ∉ emissions (orderMachine.log settled after) →
            ∀ event rejection, transition (orderMachine.run settled after) event = .error rejection →
              rejection.code ≠ .settleInFlight)) ∧
      ∀ t paid fx, transition (birth.run before) (.state (.paymentVerified t)) = .ok (paid, fx) →
        .purchaseRepeated ∉ acceptedKinds (orderMachine.log paid after) →
          ∀ again, ∃ rejection,
            transition (orderMachine.run paid after) (.state (.paymentVerified again)) = .error rejection := by
  have hb := birth.run_sound before
  constructor
  · intro report settled fx hr h
    have hm := transition_move hb h
    have hin := hm.charge_reported hr
    refine ⟨hin, fun hfx event rejection hrefused hcode => ?_⟩
    exact run_charge_in (hm.sound hb) hin after hfx (chargeOut_of_settleInFlight hrefused hcode)
  · intro t paid fx h hrep again
    have hm := transition_move hb h
    have htaken := run_keeps_taken (hm.sound hb) hm.takes.2 after hrep
    cases hagain : transition (orderMachine.run paid after) (.state (.paymentVerified again)) with
    | error rejection => exact ⟨rejection, rfl⟩
    | ok came => exact absurd (transition_move ((hm.sound hb).run after) hagain).takes.1 htaken

/-- An order whose hand-over meets the charge in flight: once the charge is reported the hand-over is
refused for good, or taken, and the payment is not taken twice. -/
theorem async_refusals_end :
    let birth := sampleBirth .async
    let settling := birth.run [.state (.paymentVerified 1)]
    let paid := birth.run [.state (.paymentVerified 1), .state (.paymentSettled 2)]
    (∃ rejection, transition settling (.state (.orderDispatched 2)) = .error rejection ∧
      rejection.code = .settleInFlight) ∧
    (∀ event rejection, transition (orderMachine.run paid [.state (.orderDispatched 3)]) event = .error rejection →
      rejection.code ≠ .settleInFlight) ∧
    ∃ rejection, transition (orderMachine.run settling [.state (.paymentSettled 2)]) (.state (.paymentVerified 4)) =
      .error rejection :=
  ⟨⟨_, rfl, rfl⟩,
    (((sampleBirth .async).refusals_end [.state (.paymentVerified 1)] [.state (.orderDispatched 3)]).1
      _ _ _ (.settled 2) rfl).2 (by decide),
    ((sampleBirth .async).refusals_end [] [.state (.paymentSettled 2)]).2 1 _ _ rfl (by decide) 4⟩

end

end Coinslot
