import Coinslot.Orders.Runs

/-!
# The hand-over record and the worker's answer commute

The poll writes the hand-over down and the worker answers, and either write may land first: an answer
taken on an order that is still `paid` stands for the hand-over it proves. The handlers of `dispatched`
answer by everything but the instant of the hand-over (`fromDispatched_handedAt`), and the record that
lands after an answer changes nothing but that instant (`HandlerAnswer.recorded_late`), so the two
orders of the writes meet (`Birth.handover_commutes`).
-/

namespace Coinslot

/-- What a worker answers an order handed to it with. -/
inductive HandlerAnswer where
  | accepted
  | delivered
  | refused (code message : String)
  | undelivered
  deriving DecidableEq, Repr

/-- The event an answer is, at its instant. -/
def HandlerAnswer.event (t : Int) : HandlerAnswer → StateEvent
  | .accepted => .handlerAccepted t
  | .delivered => .handlerDelivered t
  | .refused code message => .handlerRefused t code message
  | .undelivered => .handlerUndelivered t

/-- The order with another instant recorded for its hand-over. -/
def Order.handedAt (order : Order) (instant : Option Int) : Order :=
  { order with timestamps := { order.timestamps with dispatchedAt := instant } }

section
variable {o b : Order} {fx : List Effect} {t : Int}

@[simp] theorem handedAt_handedAt (o : Order) (i j : Option Int) : (o.handedAt i).handedAt j = o.handedAt j := rfl

/-- A result with another instant recorded for the hand-over. -/
def withHandedAt (instant : Option Int) (result : TransitionResult) : TransitionResult :=
  result.map fun (order, effects) => (order.handedAt instant, effects)

section

variable (o : Order)

theorem resolveFulfillmentFailure_handedAt (i : Option Int) (closure : Closure) :
    resolveFulfillmentFailure (o.handedAt i) closure = withHandedAt i (resolveFulfillmentFailure o closure) := by
  unfold resolveFulfillmentFailure
  split
  · next hp => rw [if_pos (show o.payment = .settled from hp)]; rfl
  · next hp => rw [if_neg (show o.payment ≠ .settled from hp)]; rfl

theorem deliverGoods_handedAt (i : Option Int) (t : Int) :
    deliverGoods (o.handedAt i) t = withHandedAt i (deliverGoods o t) := by
  cases hm : o.mode.settle <;> simp only [deliverGoods, Order.handedAt, hm] <;> rfl

theorem redeliver_handedAt (i : Option Int) (t : Int) (deadlineAt : Option Int) (giveUp : DeadlineKind) :
    redeliver (o.handedAt i) t deadlineAt giveUp = withHandedAt i (redeliver o t deadlineAt giveUp) := by
  cases hr : nextRedelivery ⟨o.dispatch.attempts, t, deadlineAt, o.policy.redelivery⟩ with
  | retry attempt delayMs => simp only [redeliver, Order.handedAt, hr]; rfl
  | giveUp reason =>
    have hfails := resolveFulfillmentFailure_handedAt o i (.deadlineExpired giveUp)
    simp only [redeliver, Order.handedAt, hr] at hfails ⊢
    exact hfails

/-- **The handlers of `dispatched` do not look at the instant of the hand-over.** -/
theorem fromDispatched_handedAt (i : Option Int) (t : Int) (h : HandlerAnswer) :
    fromDispatched (o.handedAt i) (h.event t) = withHandedAt i (fromDispatched o (h.event t)) := by
  cases h with
  | accepted => rfl
  | delivered => exact deliverGoods_handedAt o i t
  | refused code message => exact resolveFulfillmentFailure_handedAt o i _
  | undelivered => exact redeliver_handedAt o i t _ _

end

/-! ## The record that lands late -/

/-- The record of the hand-over on an order that was taken up on its answer: the instant is all it
adds. -/
theorem recorded_dispatched (hs : o.state = .dispatched) (hp : o.payment ≠ .settling)
    (hn : o.timestamps.dispatchedAt = none) :
    orderMachine.next o (.state (.orderDispatched t)) = o.handedAt (some t) := by
  have h : transition o (.state (.orderDispatched t)) = .ok (o.handedAt (some t), []) := by
    simp [transition, hp, fromState, hs, fromDispatched, hn, ok, Order.handedAt]
  exact orderMachine_next h

/-- The record of the hand-over on an order that has moved on: it is refused, or it changes
nothing. -/
theorem recorded_moved_on (h : o.payment = .settling ∨ o.state ∈ [.delivered, .failed, .expired, .refundDue]) :
    orderMachine.next o (.state (.orderDispatched t)) = o := by
  cases ht : transition o (.state (.orderDispatched t)) with
  | error r => exact Reactor.next_of_error orderMachine (s := o) ht
  | ok res =>
    obtain ⟨b, fx⟩ := res
    rw [orderMachine_next ht]
    simp only [transition] at ht
    split at ht
    · exact absurd ht reject_ne_ok
    · next hg =>
      have hs := h.resolve_left fun hp => hg ⟨hp, by simp [allowedWhileSettling]⟩
      simp only [List.mem_cons, List.not_mem_nil, or_false] at hs
      rcases hs with hs | hs | hs | hs <;> simp only [fromState, hs] at ht
      · exact absurd ht notApplicable_ne_ok
      · exact absurd ht notApplicable_ne_ok
      · exact absurd ht notApplicable_ne_ok
      · exact (ok_eq_ok.1 ht).1.symm

theorem resolveFulfillmentFailure_moved_on {closure : Closure}
    (h : resolveFulfillmentFailure o closure = .ok (b, fx)) :
    b.state ∈ [.delivered, .failed, .expired, .refundDue] := by
  unfold resolveFulfillmentFailure at h
  split at h
  · obtain ⟨rfl, -⟩ := ok_eq_ok.1 h
    simp [closeWithoutMoney]
  · obtain ⟨rfl, -⟩ := ok_eq_ok.1 h
    cases closure <;> simp [closeWithoutMoney]

theorem deliverGoods_moved_on (h : deliverGoods o t = .ok (b, fx)) :
    b.payment = .settling ∨ b.state ∈ [.delivered, .failed, .expired, .refundDue] := by
  unfold deliverGoods at h
  split at h
  · obtain ⟨rfl, -⟩ := ok_eq_ok.1 h
    exact .inl rfl
  · obtain ⟨rfl, -⟩ := ok_eq_ok.1 h
    exact .inr (by simp [deliveredOrder])

section

variable (h : HandlerAnswer)
include h

theorem HandlerAnswer.after {tH : Int} (hok : fromDispatched o (h.event tH) = .ok (b, fx)) :
    (b.state = o.state ∧ b.payment = o.payment ∧ b.timestamps.dispatchedAt = o.timestamps.dispatchedAt) ∨
      b.payment = .settling ∨ b.state ∈ [.delivered, .failed, .expired, .refundDue] := by
  cases h with
  | accepted =>
    obtain ⟨rfl, -⟩ := ok_eq_ok.1 hok
    exact .inl ⟨rfl, rfl, rfl⟩
  | delivered => exact .inr (deliverGoods_moved_on hok)
  | refused code message => exact .inr (.inr (resolveFulfillmentFailure_moved_on hok))
  | undelivered =>
    rcases redeliver_cases hok with ⟨_, _, rfl, -⟩ | hx
    · exact .inl ⟨rfl, rfl, rfl⟩
    · exact .inr (.inr (resolveFulfillmentFailure_moved_on hx))

/-- The record that lands after the answer leaves the order of the answer, but for the instant of the
hand-over. -/
theorem HandlerAnswer.recorded_late {tH : Int} (hb : o.Sound)
    (hs : o.state = .paid) (hok : fromDispatched (handedOver o) (h.event tH) = .ok (b, fx)) :
    (orderMachine.next b (.state (.orderDispatched t))).handedAt none = b.handedAt none := by
  simp only [Order.Sound, hs] at hb
  rcases h.after hok with ⟨hs', hp', hd'⟩ | hmoved
  · rw [recorded_dispatched hs' (by simp [hp', handedOver, hb.1]) (by rw [hd']; exact hb.2.2.2.2.1)]
    rfl
  · rw [recorded_moved_on hmoved]

theorem HandlerAnswer.answered (o : Order) (t : Int) : ∃ b fx, fromDispatched o (h.event t) = .ok (b, fx) := by
  have hfails : ∀ closure, ∃ b fx, resolveFulfillmentFailure o closure = .ok (b, fx) := by
    intro closure
    unfold resolveFulfillmentFailure
    split <;> exact ⟨_, _, rfl⟩
  cases h with
  | accepted => exact ⟨_, _, rfl⟩
  | delivered =>
    simp only [HandlerAnswer.event, fromDispatched, deliverGoods]
    split <;> exact ⟨_, _, rfl⟩
  | refused code message => exact hfails _
  | undelivered =>
    rw [HandlerAnswer.event, fromDispatched_undelivered, redeliver]
    split
    · exact ⟨_, _, rfl⟩
    · exact hfails _

theorem HandlerAnswer.transition (hp : o.payment ≠ .settling) :
    transition o (.state (h.event t)) = fromState o (h.event t) := by
  simp [Coinslot.transition, hp]

end

/-- On a paid order the record of the hand-over is the hand-over its worker's answer proves, with its
instant. -/
theorem dispatchedOrder_eq (hb : o.Sound) (hs : o.state = .paid) :
    dispatchedOrder o t = (handedOver o).handedAt (some t) := by
  simp only [Order.Sound, hs] at hb
  simp [dispatchedOrder, handedOver, Order.handedAt, hb.2.2.2.2.2]

end

/-- **The hand-over record and the worker's answer commute.** On every paid order of every run, for
every instant of the record and every answer at its own instant: the record is accepted, so is the
answer after it or without it, with the same effects, and the record that follows the answer, kept
out where it is refused, leaves the order the answer after the record leaves, but for the instant of
the hand-over. -/
theorem Birth.handover_commutes (birth : Birth) (events : List OrderEvent)
    (hpaid : (birth.run events).state = .paid) (t tH : Int) (h : HandlerAnswer) :
    ∃ handed answeredAfter answeredFirst fx,
      transition (birth.run events) (.state (.orderDispatched t)) = .ok (handed, []) ∧
        transition handed (.state (h.event tH)) = .ok (answeredAfter, fx) ∧
        transition (birth.run events) (.state (h.event tH)) = .ok (answeredFirst, fx) ∧
        answeredAfter.handedAt none =
          (orderMachine.next answeredFirst (.state (.orderDispatched t))).handedAt none := by
  have hb := birth.run_sound events
  generalize birth.run events = o at *
  have hp : o.payment ≠ .settling := by
    simp only [Order.Sound, hpaid] at hb
    simp [hb.1]
  obtain ⟨b, fx, hok⟩ := h.answered (handedOver o) tH
  refine ⟨dispatchedOrder o t, b.handedAt (some t), b, fx, ?_, ?_, ?_, ?_⟩
  · simp [transition, hp, fromState, hpaid, fromPaid, ok]
  · rw [h.transition (by exact hp), dispatchedOrder_eq hb hpaid]
    show fromDispatched ((handedOver o).handedAt (some t)) (h.event tH) = _
    rw [fromDispatched_handedAt, hok]
    rfl
  · rw [h.transition hp, ← hok]
    simp only [fromState, hpaid]
    cases h <;> rfl
  · rw [handedAt_handedAt, h.recorded_late hb hpaid hok]

/-- A sync order paid at instant 1, handed over at 2 and delivered at 3. -/
theorem Birth.handover_commutes_sync :
    ((sampleBirth .sync).run [.state (.paymentVerified 1)]).state = .paid ∧
      ∃ handed answeredAfter answeredFirst fx,
        transition ((sampleBirth .sync).run [.state (.paymentVerified 1)])
            (.state (.orderDispatched 2)) = .ok (handed, []) ∧
          transition handed (.state (.handlerDelivered 3)) = .ok (answeredAfter, fx) ∧
          transition ((sampleBirth .sync).run [.state (.paymentVerified 1)])
            (.state (.handlerDelivered 3)) = .ok (answeredFirst, fx) ∧
          answeredAfter.handedAt none =
            (orderMachine.next answeredFirst (.state (.orderDispatched 2))).handedAt none :=
  ⟨rfl, (sampleBirth .sync).handover_commutes [.state (.paymentVerified 1)] rfl 2 3 .delivered⟩

end Coinslot
