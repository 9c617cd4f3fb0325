import Coinslot.Orders.Sound

/-!
# The clock of a sound order

A sound order has one clock while it waits for somebody and none otherwise. `Running` says which one
and when it runs out, off the instants the order records; `mem_deadlines` reads `deadlines` as it.
-/

namespace Coinslot

open List Option

/-- How long the merchant has for the goods, by the mode. -/
def Order.goodsMs (o : Order) : Int :=
  match o.mode.settle with
  | .afterFulfillment => o.policy.deadlines.syncResponseMs
  | .onPurchase => o.policy.deadlines.asyncFulfillmentMs

/-- The clock that runs on an order, and the instant it runs out at. -/
inductive Running (o : Order) : Deadline → Prop
  | settle {t : Int} : o.payment = .settling → o.timestamps.settleStartedAt = some t →
      Running o ⟨.settleResponse, t + o.policy.deadlines.settleResponseMs⟩
  | price : o.state = .created → o.payment = .none →
      Running o ⟨.quoteResponse, o.timestamps.createdAt + o.policy.deadlines.quoteResponseMs⟩
  | quote {t : Int} : o.state = .quoted → o.payment = .none → o.timestamps.quotedAt = some t →
      Running o ⟨.quoteExpiry, t + o.policy.deadlines.quoteTtlMs⟩
  | confirmation {t : Int} : o.state = .awaitingConfirmation → o.payment = .none →
      o.timestamps.confirmationRequestedAt = some t →
      Running o ⟨.confirmationResponse, t + o.policy.deadlines.confirmationResponseMs⟩
  | payment {t : Int} : o.state = .confirmed → o.payment = .none →
      o.timestamps.confirmedAt = some t →
      Running o ⟨.paymentAfterConfirmation, t + o.policy.deadlines.paymentAfterConfirmationMs⟩
  | goods {t : Int} : o.state = .paid ∨ o.state = .dispatched →
      o.payment = o.mode.settle.paidStage → o.timestamps.paidAt = some t →
      Running o ⟨o.mode.settle.goodsDeadline, t + o.goodsMs⟩

def waitingStates : List OrderState :=
  [.created, .quoted, .awaitingConfirmation, .confirmed, .paid, .dispatched, .fulfilled]

/-- The order waits for somebody: for the next step of the purchase, or for its charge. -/
def Order.Waits (o : Order) : Prop := o.state ∈ waitingStates ∨ o.payment = .settling

instance (o : Order) : Decidable o.Waits := inferInstanceAs (Decidable (_ ∨ _))

section
variable {o : Order} {d : Deadline}

theorem fulfillmentDeadline_eq {t : Int} (h : o.timestamps.paidAt = some t) :
    fulfillmentDeadline o = [⟨o.mode.settle.goodsDeadline, t + o.goodsMs⟩] := by
  unfold fulfillmentDeadline Order.goodsMs
  rw [h]
  cases o.mode.settle <;> rfl

theorem Running.deadlines (h : Running o d) : deadlines o = [d] := by
  cases h with
  | settle hp ht => simp [Coinslot.deadlines, hp, ht]
  | price hs hp => simp [Coinslot.deadlines, hs, hp]
  | quote hs hp ht => simp [Coinslot.deadlines, hs, hp, ht]
  | confirmation hs hp ht => simp [Coinslot.deadlines, hs, hp, ht]
  | payment hs hp ht => simp [Coinslot.deadlines, hs, hp, ht]
  | goods hs hp ht => rcases hs with hs | hs <;> simp [Coinslot.deadlines, hs, hp, fulfillmentDeadline_eq ht]

theorem Order.Sound.running (hb : o.Sound) (hw : o.Waits) : ∃ d, Running o d := by
  by_cases hp : o.payment = .settling
  · obtain ⟨t, ht⟩ := isSome_iff_exists.1 (hb.started hp)
    exact ⟨_, .settle hp ht⟩
  have hs : o.state ∈ waitingStates := hw.resolve_right hp
  simp only [waitingStates, mem_cons, not_mem_nil, or_false] at hs
  rcases hs with hs | hs | hs | hs | hs | hs | hs <;> simp only [Order.Sound, hs] at hb
  · exact ⟨_, .price hs hb.1⟩
  · obtain ⟨t, ht⟩ := isSome_iff_exists.1 hb.2.1
    exact ⟨_, .quote hs (hb.1.none hp) ht⟩
  · obtain ⟨t, ht⟩ := isSome_iff_exists.1 hb.2.1
    exact ⟨_, .confirmation hs hb.1 ht⟩
  · obtain ⟨t, ht⟩ := isSome_iff_exists.1 hb.2.1
    exact ⟨_, .payment hs (hb.1.none hp) ht⟩
  · obtain ⟨t, ht⟩ := isSome_iff_exists.1 hb.2.1
    exact ⟨_, .goods (.inl hs) hb.1 ht⟩
  · obtain ⟨t, ht⟩ := isSome_iff_exists.1 hb.2.1
    exact ⟨_, .goods (.inr hs) hb.1 ht⟩
  · exact absurd hb.1 hp

theorem deadlines_of_not_waits (hw : ¬ o.Waits) : deadlines o = [] := by
  simp only [Order.Waits, not_or] at hw
  unfold deadlines
  have hs := hw.1
  cases h : o.state <;> simp_all [waitingStates]

theorem mem_deadlines (hb : o.Sound) : d ∈ deadlines o ↔ Running o d := by
  constructor
  · intro hd
    by_cases hw : o.Waits
    · obtain ⟨d', hr⟩ := hb.running hw
      rw [hr.deadlines, mem_singleton] at hd
      exact hd ▸ hr
    · rw [deadlines_of_not_waits hw] at hd
      cases hd
  · intro hr
    rw [hr.deadlines]
    exact mem_singleton.2 rfl

end

end Coinslot
