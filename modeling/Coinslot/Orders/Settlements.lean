import Coinslot.Orders.Modes

/-!
# When the money moved

The instants at which the charge of an order was reported settled, told by the events it accepted, and
what the order itself carries of them (`Order.Dated`). The charge is reported once. The instant the
order entered `paid` is that one where the money moves at the purchase, unless nobody knew of the
money at first: such an order never entered `paid`, and carries no instant of its money at all.
-/

namespace Coinslot

/-- The instants an event reports the charge settled at. -/
def OrderEvent.settledAt : OrderEvent → List Int
  | .state (.paymentSettled t) => [t]
  | _ => []

/-- What an order carries of the instants its charge was reported settled at. -/
structure Order.Dated (o : Order) (instants : List Int) : Prop where
  unsettled : o.payment ≠ .settled → instants = []
  unpaid : o.payment ≠ .settled → o.mode.settle = .onPurchase → o.timestamps.paidAt = none
  settled : o.payment = .settled → ∃ t, instants = [t] ∧
    (o.mode.settle = .onPurchase → ∀ p, o.timestamps.paidAt = some p → p = t)

section
variable {o o' : Order} {e : OrderEvent} {fx : List Effect} {instants : List Int}

section

variable (h : o.Dated instants)
include h

theorem Order.Dated.kept (hmode : o'.mode = o.mode) (hpaid : o'.timestamps.paidAt = o.timestamps.paidAt)
    (hpayment : o'.payment = .settled ↔ o.payment = .settled) : o'.Dated instants := by
  refine ⟨fun hp => h.unsettled (mt hpayment.2 hp), fun hp hm => ?_, fun hp => ?_⟩
  · rw [hpaid]
    exact h.unpaid (mt hpayment.2 hp) (by rwa [← hmode])
  · rw [hmode, hpaid]
    exact h.settled (hpayment.1 hp)

theorem Order.Dated.settles {t : Int} (hp : o.payment ≠ .settled) (hp' : o'.payment = .settled)
    (hpaid : o'.mode.settle = .onPurchase → ∀ p, o'.timestamps.paidAt = some p → p = t) :
    o'.Dated (instants ++ [t]) := by
  rw [h.unsettled hp]
  exact ⟨fun hn => absurd hp' hn, fun hn => absurd hp' hn, fun _ => ⟨t, rfl, hpaid⟩⟩

theorem Order.Dated.stays (hp : o.payment ≠ .settled)
    (hp' : o'.payment ≠ .settled) (hmode : o'.mode.settle = .afterFulfillment) : o'.Dated instants := by
  refine ⟨fun _ => h.unsettled hp, fun _ hm => ?_, fun hn => absurd hn hp'⟩
  rw [hmode] at hm
  cases hm

end

theorem QuoteSilence.settledAt {t : Int} (h : QuoteSilence t e) : e.settledAt = [] := by cases h <;> rfl

theorem Delivers.settledAt (h : Delivers e) : e.settledAt = [] := by cases h <;> rfl

theorem Refuses.settledAt {code message : String} (h : Refuses code message e) : e.settledAt = [] := by
  cases h <;> rfl

variable {state : OrderState} {closure : Closure}

theorem Closes.settledAt (h : Closes o e state closure) :
    e.settledAt = [] := by
  cases h with
  | silent _ hq _ => exact hq.settledAt
  | declined _ _ hr => exact hr.settledAt
  | _ => rfl

theorem Fails.settledAt (h : Fails o e state closure) :
    e.settledAt = [] := by
  cases h with
  | refused hr => exact hr.settledAt
  | overdue hg => cases hg <;> rfl
  | departed => rfl

theorem Idle.settledAt {e : StateEvent} (h : Idle o e) : (OrderEvent.state e).settledAt = [] := by
  cases e <;> first | rfl | exact h.elim

/-- **The step lemma.** -/
theorem Move.dated (hb : o.Sound) (hm : Move o e o' fx) (h : o.Dated instants) :
    o'.Dated (instants ++ e.settledAt) := by
  have quiet {next : Order} (he : e.settledAt = []) (hn : next.Dated instants) :
      next.Dated (instants ++ e.settledAt) := by
    rw [he, List.append_nil]
    exact hn
  cases hm with
  | stands hi _ => exact quiet hi.settledAt h
  | quotes _ _ => exact quiet rfl (h.kept rfl rfl Iff.rfl)
  | sellsOnSilence _ hq => exact quiet hq.settledAt (h.kept rfl rfl Iff.rfl)
  | closes hc _ => exact quiet hc.settledAt (h.kept rfl rfl Iff.rfl)
  | asks _ _ _ | asksAgain _ | confirms _ | dispatches _ | dispatchesAgain _ | holds _ _ _
  | refunds _ => exact quiet rfl (h.kept rfl rfl Iff.rfl)
  | asksOnceMore _ => exact quiet rfl h
  | clears _ hp hmode => exact quiet rfl (h.stays (by simp [hp]) (by simp [paidOrder]) hmode)
  | charges _ hp _ | retries _ hp | revives _ _ hp =>
    exact quiet rfl (h.kept rfl rfl (by simp [hp, settlingOrder]))
  | charged _ hp =>
    refine h.settles (by simp [hp]) rfl fun _ p hpaid => ?_
    cases hpaid
    rfl
  | chargeFails _ hp _ | chargeSilent _ hp _ => exact quiet rfl (h.kept rfl rfl (by simp [hp, closeWithoutMoney]))
  | unpaidSilent _ hp => exact quiet rfl (h.kept rfl rfl (by simp [hp]))
  | accepts hh _ | redelivers hh _ =>
    rw [hh.eq]
    exact quiet rfl (h.kept rfl rfl Iff.rfl)
  | delivers hh _ hd _ =>
    rw [hh.eq]
    exact quiet hd.settledAt (h.kept rfl rfl Iff.rfl)
  | fulfils hh hmode =>
    have hp : o.payment ≠ .settled := by
      rw [hh.paidStage hb, hmode]
      simp [SettleTiming.paidStage]
    rw [hh.eq]
    exact quiet rfl (h.kept rfl rfl (iff_of_false (by simp [settlingOrder]) hp))
  | fails hh _ hf =>
    rw [hh.eq]
    exact quiet hf.settledAt (h.kept rfl rfl Iff.rfl)
  | owes hh _ hf _ =>
    rw [hh.eq]
    exact quiet hf.settledAt (h.kept rfl rfl Iff.rfl)
  | settles hs =>
    have hsound := hb
    simp only [Order.Sound, hs] at hsound
    refine h.settles (by simp [hsound.1]) rfl fun hmode => ?_
    cases hmode.symm.trans hsound.2.2.1
  | staysUnpaid hs | fulfilledSilent hs =>
    have hp := hb.fulfilled_settling hs
    exact quiet rfl (h.kept rfl rfl (by simp [hp]))
  | repeats _ hp => exact quiet rfl (h.kept rfl rfl (by rcases hp with hp | hp <;> simp [hp]))
  | settlesLate hs hp =>
    simp only [Order.Sound, hs] at hb
    refine h.settles (by rcases hp with hp | hp <;> simp [hp]) rfl fun hmode => ?_
    cases hmode.symm.trans hb.1
  | failsAgain _ hp => exact quiet rfl (h.kept rfl rfl (by rcases hp with hp | hp <;> simp [hp]))
  | reclaims hs _ =>
    have hp := hb.expired_uncharged hs
    exact quiet rfl (h.kept rfl rfl (by rcases hp with hp | hp <;> simp [hp]))
  | closesDebt _ hd _ => exact quiet hd.settledAt (h.kept rfl rfl Iff.rfl)
  | owesAfterAll hs hc =>
    obtain ⟨hp, hmode, -⟩ := hb.unaccounted hs hc
    have hn : o.payment ≠ .settled := by simp [hp]
    refine h.settles hn rfl fun _ p hpaid => ?_
    cases (h.unpaid hn hmode).symm.trans hpaid
  | provesUnpaid hs hc =>
    obtain ⟨hp, -, -⟩ := hb.unaccounted hs hc
    exact quiet rfl (h.kept rfl rfl (by simp [hp]))

theorem Move.settled_once (hb : o.Sound) (hm : Move o e o' fx) (h : o.Dated instants)
    (hp : o.payment = .settled) : e.settledAt = [] := by
  obtain ⟨t, hone, -⟩ := h.settled hp
  obtain ⟨t', hstill, -⟩ := (hm.dated hb h).settled (hm.settled_stays hb hp)
  rw [hone] at hstill
  exact (List.cons.inj hstill).2

/-- Which orders are delivered, and what their money did on the way: it moved in this very step, on an
order charged after its goods, or it had moved before, on an order charged at the purchase. -/
theorem Move.delivered (hb : o.Sound) (hm : Move o e o' fx) (hs : o.state ≠ .delivered)
    (hd : o'.state = .delivered) : o'.timestamps = o.timestamps ∧ o'.payment = .settled ∧
      ((o.mode.settle = .afterFulfillment ∧ o.payment ≠ .settled ∧ ∃ t, e = .state (.paymentSettled t)) ∨
        (o.mode.settle = .onPurchase ∧ o.payment = .settled ∧ Delivers e)) := by
  have hp' : o'.payment = .settled := by
    have hb' := hm.sound hb
    simp only [Order.Sound, hd] at hb'
    exact hb'.1
  cases hm with
  | delivers hh hmode hdel _ =>
    refine ⟨?_, hp', .inr ⟨hmode, hh.payment.symm.trans hp', hdel⟩⟩
    rw [hh.eq]
    rfl
  | closesDebt hdue hdel _ =>
    simp only [Order.Sound, hdue] at hb
    exact ⟨rfl, hp', .inr ⟨hb.2.1, hb.1, hdel⟩⟩
  | settles hf =>
    simp only [Order.Sound, hf] at hb
    exact ⟨rfl, hp', .inl ⟨hb.2.2.1, by simp [hb.1], _, rfl⟩⟩
  | settlesLate hu hp =>
    simp only [Order.Sound, hu] at hb
    exact ⟨rfl, hp', .inl ⟨hb.1, by rcases hp with hp | hp <;> simp [hp], _, rfl⟩⟩
  | accepts hh hh' | redelivers hh hh' => cases hh'.symm.trans hd
  | closes hc _ => cases hc <;> cases hd
  | fails _ _ hf => cases hf <;> cases hd
  | _ => first
    | exact absurd hd hs
    | cases hd

end

end Coinslot
