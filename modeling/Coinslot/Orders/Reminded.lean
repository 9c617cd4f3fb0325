import Coinslot.Orders.Promises

/-!
# What the reminders do to an order

The gateway reminds itself of two things: of a deadline that ran out, and of a hand-over nobody answered. On an
order whose price has come back neither starts a clock (`Reminds.clocks`), so a deadline that no longer runs there
never runs again while nothing but reminders comes to it (`Spent.stays`). An expiry that is taken leaves its
deadline so (`spent_of_expired`), and one that comes after it is refused (`Spent.refuses`): the second reminder of a
deadline does nothing.
-/

namespace Coinslot

open OrderState

/-- The events a reminder is turned into. -/
inductive Reminds : OrderEvent → Prop
  | expiry (t : Int) (kind : DeadlineKind) : Reminds (.deadlineExpired t kind)
  | unanswered (t : Int) : Reminds (.state (.handlerUndelivered t))

section
variable {o o' : Order} {e : OrderEvent} {fx : List Effect} {d : Deadline}

theorem InHand.deadlines_eq {held : Order} (hh : InHand o held) : deadlines held = deadlines o := by
  cases hh with
  | recorded _ => rfl
  | answered hs =>
    simp only [deadlines, handedOver, hs]
    rfl
  | called hs =>
    simp only [deadlines, hs]
    rfl

theorem not_undelivered_of_created (hb : o.Sound) (hs : o.state = .created) (t : Int) :
    transition o (.state (.handlerUndelivered t)) ≠ .ok (o', fx) := by
  have hp : o.payment = .none := by
    simp only [Order.Sound, hs] at hb
    exact hb.1
  simp [transition, hp, fromState, hs, fromCreated]

/-- A reminder that is taken leaves the order past the check of its price, with no clock it did not have, but for
the one that starts when the price is in. -/
theorem Reminds.clocks (he : Reminds e) (hb : o.Sound) (h : transition o e = .ok (o', fx)) :
    o'.state ≠ .created ∧ (o.state ≠ .created → ∀ d ∈ deadlines o', d ∈ deadlines o) := by
  have hm := transition_move hb h
  have quiet (hw : ¬ o'.Waits) : ∀ d ∈ deadlines o', d ∈ deadlines o := by
    rw [deadlines_of_not_waits hw]
    exact nofun
  cases he with
  | expiry t kind =>
    refine ⟨?_, fun hs => ?_⟩
    · cases hm with
      | sellsOnSilence | fulfilledSilent | owes => exact noConfusion
      | chargeSilent _ _ _ => exact noConfusion
      | closes hc _ => cases hc <;> exact noConfusion
      | fails _ _ hf => cases hf <;> exact noConfusion
      | unpaidSilent hs _ => rw [hs]; exact noConfusion
      | delivers _ _ hd _ | closesDebt _ hd _ => cases hd
    · rcases hm.lapses hb with hw | ⟨hc, -⟩
      · exact quiet hw
      · exact absurd hc hs
  | unanswered t =>
    have hcreated : o.state ≠ .created := fun hs => not_undelivered_of_created hb hs t h
    cases hm with
    | stands _ _ => exact ⟨hcreated, fun _ d hd => hd⟩
    | sellsOnSilence _ hq => cases hq
    | @closes _ state closure _ hc _ =>
      have hp : (closeWithoutMoney o state closure).payment = .none := hc.unpaid hb
      cases hc with
      | silent _ hq _ => cases hq
      | declined _ _ hr => cases hr
      | unreached _ =>
        exact ⟨noConfusion, fun _ => quiet (not_waits (by simp [hp]) (by simp [closeWithoutMoney, waitingStates]))⟩
    | asksOnceMore _ => exact ⟨hcreated, fun _ d hd => hd⟩
    | redelivers hh hs =>
      refine ⟨by rw [hs]; exact noConfusion, fun _ d hd => ?_⟩
      rwa [hh.deadlines_eq] at hd
    | @fails _ held state closure hh _ hf =>
      have hp : (closeWithoutMoney held state closure).payment = o.mode.settle.paidStage :=
        hh.payment.trans (hh.paidStage hb)
      refine ⟨by cases hf <;> exact noConfusion, fun _ => quiet (not_waits (by simp [hp]) ?_)⟩
      cases hf <;> simp [closeWithoutMoney, waitingStates]
    | @owes _ held state closure extra hh _ _ _ =>
      have hp : (closeWithoutMoney held .refundDue closure).payment = o.mode.settle.paidStage :=
        hh.payment.trans (hh.paidStage hb)
      exact ⟨noConfusion, fun _ => quiet (not_waits (by simp [hp]) (by simp [closeWithoutMoney, waitingStates]))⟩
    | delivers _ _ hd _ | closesDebt _ hd _ => cases hd

/-! ## A deadline that is done with -/

/-- A deadline that does not run on an order whose price has come back: nothing is left for its reminder. -/
structure Spent (o : Order) (d : Deadline) : Prop where
  priced : o.state ≠ .created
  idle : ∀ d' ∈ deadlines o, d'.kind = d.kind → d.at < d'.at

theorem Spent.refuses (h : Spent o d) (hb : o.Sound) :
    transition o (.deadlineExpired d.at d.kind) ≠ .ok (o', fx) := by
  intro hok
  obtain ⟨d', hd', hkind, hle⟩ := (expiry_accepted_iff hb d.at d.kind).1 ⟨o', fx, hok⟩
  have := h.idle d' hd' hkind
  omega

theorem Spent.stays (h : Spent o d) (he : Reminds e) (hb : o.Sound) (ht : transition o e = .ok (o', fx)) :
    Spent o' d :=
  have hclocks := he.clocks hb ht
  ⟨hclocks.1, fun d' hd' => h.idle d' (hclocks.2 h.priced d' hd')⟩

theorem spent_of_expired (hb : o.Sound) (hd : d ∈ deadlines o) {t : Int} {kind : DeadlineKind}
    (ht : transition o (.deadlineExpired t kind) = .ok (o', fx)) : Spent o' d := by
  refine ⟨((Reminds.expiry t kind).clocks hb ht).1, fun d' hd' hkind => ?_⟩
  obtain ⟨running, hr, hrkind, -⟩ := (expiry_accepted_iff hb t kind).1 ⟨o', fx, ht⟩
  have hstops := Move.stops hb ht hd'
  have hone := (mem_deadlines hb).1 hd
  rw [hone.deadlines, List.mem_singleton] at hr
  rw [hkind, ← hr, hrkind] at hstops
  exact absurd rfl hstops

end

end Coinslot
