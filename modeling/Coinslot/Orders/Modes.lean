import Coinslot.Orders.Runs

/-!
# The two settlement modes stay apart

Most handlers serve both modes and branch on the payment or on the mode deep inside. Over a run the
two modes share no ending that concerns money: where the charge comes after the goods there is never
a debt, and where it comes before them the goods are never out unpaid (`Birth.modes_apart`).
-/

namespace Coinslot

/-- The states of an order whose money was taken at the purchase. -/
def takenStates : List OrderState := [.paid, .dispatched, .delivered, .refundDue, .refunded]

section
variable {o o' : Order} {e : OrderEvent} {fx : List Effect} {closure : Closure}

def NoDebt (effects : List Effect) : Prop := ∀ c, .markRefundDue c ∉ effects

theorem OnlyWords.noDebt (h : OnlyWords fx) : NoDebt fx := fun c hm => by
  rcases h _ hm with ⟨a, ha⟩ | ha <;> cases ha

theorem OnlyAnswers.noDebt (h : OnlyAnswers fx) : NoDebt fx := h.words.noDebt

theorem effectsOnQuoted_noDebt (mode : OrderMode) : NoDebt (effectsOnQuoted mode) := by
  intro c hm
  rcases mem_effectsOnQuoted hm with h | h <;> cases h

section

variable (hb : o.Sound)
include hb

theorem Move.noDebt (hm : Move o e o' fx) (hmode : o.mode.settle = .afterFulfillment) : NoDebt fx := by
  cases hm with
  | stands _ hfx => exact hfx.noDebt
  | quotes _ _ | sellsOnSilence _ _ => exact effectsOnQuoted_noDebt _
  | closes _ hfx | chargeFails _ _ hfx | chargeSilent _ _ hfx => exact hfx.noDebt
  | delivers hh hm _ _ | owes hh hm _ _ =>
    rw [hmode] at hm
    cases hm
  | closesDebt hs _ _ =>
    simp only [Order.Sound, hs] at hb
    cases hmode.symm.trans hb.2.1
  | owesAfterAll hs hc => cases hmode.symm.trans (hb.unaccounted hs hc).2.1
  | confirms _ | accepts _ _ => simp [NoDebt, acceptanceLanded]
  | _ => simp [NoDebt]

theorem Move.settled_stays (hm : Move o e o' fx) (hp : o.payment = .settled) : o'.payment = .settled := by
  cases hm with
  | clears _ hp' _ | charges _ hp' _ | retries _ hp' | revives _ _ hp' => simp [hp] at hp'
  | chargeFails _ hp' _ | chargeSilent _ hp' _ | unpaidSilent _ hp' => simp [hp] at hp'
  | repeats _ hp' | failsAgain _ hp' => simp [hp] at hp'
  | staysUnpaid hs | fulfilledSilent hs => cases hp.symm.trans (hb.fulfilled_settling hs)
  | reclaims hs _ => rcases hb.expired_uncharged hs with hp' | hp' <;> cases hp.symm.trans hp'
  | provesUnpaid hs hc => cases hp.symm.trans (hb.unaccounted hs hc).1
  | fulfils hh hm =>
    rw [hh.paidStage hb, hm] at hp
    cases hp
  | accepts hh _ | redelivers hh _ | delivers hh _ _ _ | fails hh _ _ | owes hh _ _ _ => exact hh.payment.trans hp
  | charged _ _ | settles _ | settlesLate _ _ | owesAfterAll _ _ => rfl
  | _ => exact hp

theorem Order.Sound.no_debt (hmode : o.mode.settle = .afterFulfillment) :
    o.state ≠ .refundDue ∧ o.state ≠ .refunded := by
  constructor <;> intro hs <;> simp only [Order.Sound, hs] at hb <;>
    cases hmode.symm.trans hb.2.1

theorem Order.Sound.never_unpaid (hmode : o.mode.settle = .onPurchase) :
    o.state ≠ .fulfilled ∧ o.state ≠ .deliveredUnpaid ∧ o.state ≠ .failed ∧ o.heldFulfillment = false := by
  unfold Order.Sound at hb
  split at hb <;> simp_all [Order.Unbroken, Order.RanOut]

theorem Order.Sound.taken (hp : o.payment = .settled) : o.state ∈ takenStates := by
  unfold Order.Sound at hb
  split at hb <;> simp_all [takenStates, Order.AwaitsPayment, Order.RanOut]

end

theorem Birth.run_mode (birth : Birth) (events : List OrderEvent) : (birth.run events).mode = birth.input.mode :=
  run_keeps (P := fun o => o.mode = birth.input.mode)
    (fun _ h hm => hm.keeps.2.1.trans h) birth.sound
    (by rcases birth.shape with ⟨h, -⟩ | ⟨h, -⟩ <;> rw [h] <;> rfl) events

theorem Birth.log_noDebt (birth : Birth) (events : List OrderEvent)
    (hmode : birth.input.mode.settle = .afterFulfillment) : NoDebt (emissions (birth.log events)) := by
  refine (birth.log_keeps (P := fun o log => o.mode = birth.input.mode ∧ NoDebt (emissions log)) ?_ ?_ events).2
  · rintro o e o' fx log hb ⟨hm, hnone⟩ hmove
    refine ⟨hmove.keeps.2.1.trans hm, fun c hc => ?_⟩
    rw [emissions_append, emissions_stepLog] at hc
    rcases List.mem_append.1 hc with hc | hc
    · exact hnone c hc
    · exact hmove.noDebt hb (by rw [hm]; exact hmode) c hc
  · refine ⟨birth.run_mode [], fun c hc => ?_⟩
    rw [emissions_map] at hc
    rcases birth.effects_quiet _ hc with h | h | h <;> cases h

end

/-- **The two settlement modes stay apart.** Over every run, an order charged after its goods never
reaches `refund_due` or `refunded` and no debt is recorded on the way; an order charged at the
purchase never reaches `fulfilled`, `delivered_unpaid` or `failed` and never holds goods, and once its
payment is settled it is in one of the states of taken money ever after. -/
theorem Birth.modes_apart (birth : Birth) (events : List OrderEvent) :
    (birth.input.mode.settle = .afterFulfillment →
      (birth.run events).state ≠ .refundDue ∧ (birth.run events).state ≠ .refunded ∧
        ∀ closure, .markRefundDue closure ∉ emissions (birth.log events)) ∧
      (birth.input.mode.settle = .onPurchase →
        (birth.run events).state ≠ .fulfilled ∧ (birth.run events).state ≠ .deliveredUnpaid ∧
          (birth.run events).state ≠ .failed ∧ (birth.run events).heldFulfillment = false ∧
          ∀ more, (birth.run events).payment = .settled →
            (birth.run (events ++ more)).state ∈ [.paid, .dispatched, .delivered, .refundDue, .refunded]) := by
  have hb := birth.run_sound events
  have hmode := birth.run_mode events
  refine ⟨fun hsettle => ?_, fun hsettle => ?_⟩
  · obtain ⟨hdue, hpaid⟩ := hb.no_debt (by rw [hmode]; exact hsettle)
    exact ⟨hdue, hpaid, birth.log_noDebt events hsettle⟩
  · obtain ⟨hf, hu, hfail, hheld⟩ := hb.never_unpaid (by rw [hmode]; exact hsettle)
    refine ⟨hf, hu, hfail, hheld, fun more hp => ?_⟩
    rw [birth.run_append]
    have hp' := run_keeps (P := fun o => o.payment = .settled) (fun hb h hm => hm.settled_stays hb h) hb hp more
    exact (hb.run more).taken hp'

end Coinslot
