import Coinslot.Gateway.CardClocks
import Coinslot.Gateway.Writes
import Coinslot.Orders.Modes

/-!
# How long an agent is waited for

An agent who pays for a synchronous purchase is parked for what is left of the promised ceiling
(`payPurchase`, `apps/gateway/src/app/gateway.ts`), and the ceiling is counted from the instant his payment
checked out. The clocks of the order are counted from the instant the payment is presented, which a later
reading says. So the agent is waited for as long as the order may still be decided exactly where the ceiling
leaves room for the time between the two readings (`park_outlasts_iff`), and the timer takes the wait.
-/

namespace Coinslot

/-- The longest wait a timer takes, in milliseconds. -/
def longestTimer : Int := 2147483647

/-- What a timer makes of a wait: one it does not take is a wait of a millisecond (`setTimeout`). -/
def timerMs (waitMs : Int) : Int := if 1 ≤ waitMs ∧ waitMs ≤ longestTimer then waitMs else 1

/-- The instants a call of `payPurchase` comes by: the payment checked out, what is left is reckoned, the agent
is parked, and the payment is presented. -/
structure PayReadings where
  checkedOutAt : Int
  reckonedAt : Int
  parkedAt : Int
  presentedAt : Int

/-- The clock does not go back between them. -/
structure PayReadings.Forward (r : PayReadings) : Prop where
  reckoned : r.checkedOutAt ≤ r.reckonedAt
  parked : r.reckonedAt ≤ r.parkedAt
  presented : r.parkedAt ≤ r.presentedAt

/-- The last instant at which an order that was paid at an instant may still be decided. -/
def Order.decidedBy (o : Order) (paidAt : Int) : Int :=
  paidAt + o.policy.deadlines.syncResponseMs + o.policy.deadlines.settleResponseMs

namespace DeadlineConfig

variable (config : DeadlineConfig) (r : PayReadings)

def left : Int := max (config.syncBudgetMs - (r.reckonedAt - r.checkedOutAt)) 0

def givesUpAt : Int := r.parkedAt + timerMs (config.left r)

/-- What the ceiling has over the two waits inside it. -/
def slack : Int := config.syncBudgetMs - (config.syncResponseMs + config.settleResponseMs)

/-- The timer takes what is left, and the order was paid no later after the payment checked out than the ceiling
and the time before the agent is parked leave room for. What the timer does not take is a wait of a
millisecond, and the two waits are over by then. -/
def Covers (paidAt : Int) : Prop :=
  if 1 ≤ config.left r ∧ config.left r ≤ longestTimer then
    paidAt - r.checkedOutAt ≤ config.slack + (r.parkedAt - r.reckonedAt)
  else paidAt + config.syncResponseMs + config.settleResponseMs ≤ r.parkedAt + 1

end DeadlineConfig

section
variable {o o' : Order} {fx : List Effect}

theorem Birth.run_policy (birth : Birth) (events : List OrderEvent) :
    (birth.run events).policy = birth.input.policy :=
  run_keeps (P := fun o => o.policy = birth.input.policy)
    (fun _ h hm => hm.keeps.2.2.1.trans h) birth.sound
    (by rcases birth.shape with ⟨h, -⟩ | ⟨h, -⟩ <;> rw [h] <;> rfl) events

theorem driven_paidAt {t : Int} (hb : o.Sound) (hmode : o.mode.settle = .afterFulfillment)
    (hs : o.state = .quoted ∨ o.state = .confirmed)
    (h : driven o (eventsForVerifiedPayment o t) = .ok (o', fx)) : o'.timestamps.paidAt = some t := by
  have hevents : eventsForVerifiedPayment o t = [.paymentVerified t] := by
    rcases hs with hs | hs <;> simp [eventsForVerifiedPayment, hs]
  rw [hevents] at h
  obtain ⟨mid, fx₁, fx₂, hm, hd, -⟩ := driven_cons h
  cases hd
  cases transition_move hb hm with
  | stands hi _ => exact hi.elim
  | sellsOnSilence _ hq => cases hq
  | closes hc _ =>
    cases hc with
    | silent _ hq _ => cases hq
    | declined _ _ hr => cases hr
  | delivers _ _ hd _ | closesDebt _ hd _ => cases hd
  | fails _ _ hf | owes _ _ hf _ =>
    cases hf with
    | refused hr => cases hr
    | overdue hg => cases hg
  | charges _ _ hcharged => rw [hmode] at hcharged; cases hcharged
  | retries hs' _ | revives hs' _ _ => rcases hs with hs | hs <;> rw [hs] at hs' <;> cases hs'
  | clears _ _ _ => rfl

variable {config : DeadlineConfig} {r : PayReadings}

theorem covers_iff {paidAt : Int} :
    paidAt + config.syncResponseMs + config.settleResponseMs ≤ config.givesUpAt r ↔ config.Covers r paidAt := by
  unfold DeadlineConfig.Covers DeadlineConfig.givesUpAt timerMs
  split
  · next hfits =>
    unfold DeadlineConfig.left at hfits ⊢
    unfold DeadlineConfig.slack
    omega
  · rfl

theorem loads_waits (h : config.loads = true) :
    0 < config.syncResponseMs ∧ 0 < config.settleResponseMs := by
  simp only [DeadlineConfig.loads, Bool.and_eq_true, List.all_cons, decide_eq_true_eq] at h
  obtain ⟨⟨-, -, hsettle, hsync, -⟩, -⟩ := h
  exact ⟨hsync, hsettle⟩

theorem covers_presented (hconfig : config.loads = true) (hforward : r.Forward) :
    config.Covers r r.presentedAt ↔ config.left r ≤ longestTimer ∧
      r.presentedAt - r.checkedOutAt ≤ config.slack + (r.parkedAt - r.reckonedAt) := by
  obtain ⟨hsync, hsettle⟩ := loads_waits hconfig
  have hpresented := hforward.presented
  unfold DeadlineConfig.Covers
  split
  · next hfits => exact ⟨fun h => ⟨hfits.2, h⟩, fun h => h.2⟩
  · next hfits =>
    refine iff_of_false (by omega) ?_
    rintro ⟨hlong, hroom⟩
    have hspent : config.left r < 1 := by omega
    unfold DeadlineConfig.left at hspent
    unfold DeadlineConfig.slack at hroom
    omega

/-- **How long an agent is waited for.** Where a synchronous order takes the payment a call presents, the agent
is given up on no earlier than the order may still be decided exactly where the ceiling covers the instant the
order was paid at. That is the instant the payment is presented, for an order that waited for its payment; and
then the ceiling covers it exactly where the timer takes what is left, and the time from the check to that
instant is no more than the ceiling has over the two waits inside it, and than what passes before the agent is
parked. -/
theorem park_outlasts_iff (birth : Birth) (events : List OrderEvent) (card : CardClocks) (config : DeadlineConfig)
    (r : PayReadings) (hconfig : config.loads = true) (hforward : r.Forward)
    (hpolicy : birth.input.policy = policyFor card config birth.input.policy.redelivery)
    (hmode : birth.input.mode.settle = .afterFulfillment) (paid : Order) (fx : List Effect) (paidAt : Int)
    (htaken : driven (birth.run events) (eventsForVerifiedPayment (birth.run events) r.presentedAt) = .ok (paid, fx))
    (hpaid : paid.timestamps.paidAt = some paidAt) :
    (paid.decidedBy paidAt ≤ config.givesUpAt r ↔ config.Covers r paidAt) ∧
      ((birth.run events).state = .quoted ∨ (birth.run events).state = .confirmed →
        paidAt = r.presentedAt ∧ (config.Covers r paidAt ↔ config.left r ≤ longestTimer ∧
          r.presentedAt - r.checkedOutAt ≤ config.slack + (r.parkedAt - r.reckonedAt))) := by
  have hb := birth.run_sound events
  refine ⟨?_, fun hs => ?_⟩
  · have hkept : paid.policy = birth.input.policy :=
      (driven_keeps (P := fun o => o.policy = birth.input.policy)
        (fun _ h hm => hm.keeps.2.2.1.trans h) hb (birth.run_policy events) htaken).2
    rw [Order.decidedBy, hkept, hpolicy]
    exact covers_iff
  · have hstamped := driven_paidAt hb (by rw [birth.run_mode]; exact hmode) hs htaken
    obtain rfl : r.presentedAt = paidAt := Option.some.inj (hstamped.symm.trans hpaid)
    exact ⟨rfl, covers_presented hconfig hforward⟩

end

/-- A synchronous purchase under the waits a deployment is configured with that says nothing of them. -/
def defaultSync : Birth where
  input :=
    { (sampleBirth .sync).input with
      policy := policyFor ⟨.sync, none, none, none⟩ defaultDeadlines (sampleBirth .sync).input.policy.redelivery }
  order := _
  effects := _
  accepted := rfl

/-- A call in which no time passes. -/
theorem instant_park_outlasts :
    (paidOrder defaultSync.order 5 .verified).decidedBy 5 ≤ defaultDeadlines.givesUpAt ⟨5, 5, 5, 5⟩ :=
  (park_outlasts_iff defaultSync [] ⟨.sync, none, none, none⟩ defaultDeadlines ⟨5, 5, 5, 5⟩ (by decide +kernel)
    ⟨by decide, by decide, by decide⟩ rfl rfl (paidOrder defaultSync.order 5 .verified) [.dispatchOrder] 5 rfl
    rfl).1.2 (by unfold DeadlineConfig.Covers; decide +kernel)

/-- A call in which a millisecond passes before the payment is presented: the agent is given up on a
millisecond before the order may be decided for the last time. -/
theorem millisecond_park_short :
    driven (defaultSync.run []) (eventsForVerifiedPayment (defaultSync.run []) 6) =
        .ok (paidOrder defaultSync.order 6 .verified, [.dispatchOrder]) ∧
      defaultDeadlines.loads = true ∧ PayReadings.Forward ⟨5, 5, 5, 6⟩ ∧
      ¬ (paidOrder defaultSync.order 6 .verified).decidedBy 6 ≤ defaultDeadlines.givesUpAt ⟨5, 5, 5, 6⟩ :=
  ⟨rfl, by decide +kernel, ⟨by decide, by decide, by decide⟩, by decide +kernel⟩

end Coinslot
