import Coinslot.Orders.Money

/-!
# How an order ends, and what its agent is told

`outcomeFor` (`packages/core/src/orders/outcome.ts`) folds the state and the payment of an order into
the one word its agent is told. An order that is closed is left as it is by almost every event, and
the few that move it are listed here state by state (`Move.of_final`, `Move.of_rejected`,
`Move.of_refundDue`, `Move.of_expired`); from them, the word moves only forward
(`Birth.outcome_moves_forward`). The reason a closed order carries fits the way it closed
(`Birth.closure_fits`).
-/

namespace Coinslot

open List

/-- What the agent is told (`ORDER_OUTCOMES`). -/
inductive OrderOutcome where
  | inProgress
  | delivered
  | rejected
  | paymentUnresolved
  | declined
  | expired
  | cancelled
  | refundDue
  | refunded
  | deliveredUnpaid
  deriving DecidableEq, Repr

/-- What the agent is told about an order. A charge nobody answered outranks the state. -/
def outcomeFor (order : Order) : OrderOutcome :=
  if order.payment = .outcomeUnknown then if isOpen order.state then .inProgress else .paymentUnresolved
  else
    match order.state with
    | .created | .quoted | .awaitingConfirmation | .confirmed | .paid | .dispatched | .fulfilled => .inProgress
    | .delivered => .delivered
    | .deliveredUnpaid => .deliveredUnpaid
    | .refundDue => .refundDue
    | .refunded => .refunded
    | .failed => .rejected
    | .rejected => .rejected
    | .declined => .declined
    | .expired => .expired
    | .cancelled => .cancelled

section
variable {o o' : Order} {e : OrderEvent} {fx : List Effect}

/-! ## The moves of a closed order -/

/-- A rejected order is left as it is, unless it was closed on the silence of its charge and the
answer comes late. -/
theorem Move.of_rejected (hb : o.Sound) (hm : Move o e o' fx) (hs : o.state = .rejected) :
    (o' = o ∧ OnlyAnswers fx) ∨ o.payment = .outcomeUnknown ∧ (o'.state = .refundDue ∧ o'.payment = .settled ∨
          o'.state = .rejected ∧ o'.payment = .settleFailed) := by
  cases hm with
  | stands _ hfx => exact .inl ⟨rfl, hfx⟩
  | closes hc _ => simpa [hs] using hc.early
  | accepts hh _ | redelivers hh _ | delivers hh _ _ _ | fulfils hh _ | fails hh _ _
  | owes hh _ _ _ => simpa [hs] using hh.was
  | owesAfterAll _ hc => exact .inr ⟨(hb.unaccounted hs hc).1, .inl ⟨rfl, rfl⟩⟩
  | provesUnpaid _ hc => exact .inr ⟨(hb.unaccounted hs hc).1, .inr ⟨hs, rfl⟩⟩
  | _ => simp_all

theorem Move.of_refundDue (hm : Move o e o' fx) (hs : o.state = .refundDue) :
    o'.payment = o.payment ∧ o'.state ∈ [.refundDue, .delivered, .refunded] := by
  cases hm with
  | stands _ _ => simp [hs]
  | closes hc _ => simpa [hs] using hc.early
  | accepts hh _ | redelivers hh _ | delivers hh _ _ _ | fulfils hh _ | fails hh _ _
  | owes hh _ _ _ => simpa [hs] using hh.was
  | closesDebt _ _ _ => simp [deliveredOrder]
  | refunds _ => simp
  | _ => simp_all

/-- An expired order stays expired, unless its goods are held, its purchase was repeated and a new
payment checks out. -/
theorem Move.of_expired (hm : Move o e o' fx) (hs : o.state = .expired) : o'.state = .expired ∨
      (∃ t, e = .state (.paymentVerified t)) ∧ o.heldFulfillment = true ∧ o.payment = .none := by
  cases hm with
  | stands _ _ => exact .inl hs
  | closes hc _ => simpa [hs] using hc.early
  | accepts hh _ | redelivers hh _ | delivers hh _ _ _ | fulfils hh _ | fails hh _ _
  | owes hh _ _ _ => simpa [hs] using hh.was
  | holds _ _ _ | reclaims _ _ => exact .inl hs
  | revives _ hheld hp => exact .inr ⟨⟨_, rfl⟩, hheld, hp⟩
  | _ => simp_all

/-- The order expired with goods held, and its purchase was repeated since. -/
def Order.Reclaimed (o : Order) : Prop := o.state = .expired ∧ o.heldFulfillment = true ∧ o.payment = .none

/-- An order comes to be reclaimed by a repeat of its purchase, on an expired order with goods
held. -/
theorem Move.reclaimed (hb : o.Sound) (hm : Move o e o' fx) (h : ¬ o.Reclaimed) (h' : o'.Reclaimed) :
    (∃ t, e = .state (.purchaseRepeated t)) ∧ o.state = .expired ∧ o.heldFulfillment = true := by
  obtain ⟨hs', hheld', hp'⟩ := h'
  cases hm with
  | stands _ _ => exact absurd ⟨hs', hheld', hp'⟩ h
  | closes hc _ => cases (hb.unheld hc.early).symm.trans hheld'
  | fails hh _ _ => cases (hh.row hb).2.2.2.2.symm.trans hheld'
  | holds hs ha hn =>
    -- Goods are held over a payment that was verified: without one nothing was awaited.
    simp only [Order.Sound, hs] at hb
    simp only [awaitedLateGoods, Bool.and_eq_true, decide_eq_true_eq] at ha
    obtain ⟨-, -, hp | ⟨-, hheld⟩⟩ | ⟨⟨d, hc, hd⟩, -⟩ := hb.1
    · cases hp.symm.trans hp'
    · cases hn.symm.trans hheld
    · cases hc.symm.trans ha.2
      exact absurd rfl hd
  | reclaims hs hheld => exact ⟨⟨_, rfl⟩, hs, hheld⟩
  | accepts hh hd | redelivers hh hd => cases hd.symm.trans hs'
  | repeats hs _ | failsAgain hs _ | unpaidSilent hs _ | asksAgain hs | asksOnceMore hs
  | dispatchesAgain hs | provesUnpaid hs _ => cases hs.symm.trans hs'
  | charges _ _ _ => cases hp'
  | _ => cases hs'

/-! ## The words of the states -/

theorem outcomeFor_of_state {outcome : OrderOutcome} (h : outcomeFor o = outcome)
    (hn : outcome ≠ .inProgress) (hu : outcome ≠ .paymentUnresolved) : o.payment ≠ .outcomeUnknown := by
  intro hp
  rw [outcomeFor, if_pos hp] at h
  split at h
  · exact hn h.symm
  · exact hu h.symm

theorem outcomeFor_delivered (h : outcomeFor o = .delivered) : o.state = .delivered := by
  rw [outcomeFor, if_neg (outcomeFor_of_state h (by simp) (by simp))] at h
  cases hs : o.state <;> simp [hs] at h
  rfl

def toldUncharged : List OrderOutcome := [.rejected, .declined, .cancelled]

theorem Move.of_uncharged (hb : o.Sound) (h : outcomeFor o ∈ toldUncharged)
    (hm : Move o e o' fx) : o' = o ∧ OnlyAnswers fx := by
  have hp : o.payment ≠ .outcomeUnknown := by
    simp only [toldUncharged, mem_cons, not_mem_nil, or_false] at h
    rcases h with h | h | h <;> exact outcomeFor_of_state h nofun nofun
  rw [outcomeFor, if_neg hp] at h
  cases hs : o.state <;> simp only [hs, toldUncharged] at h
  case rejected => exact (hm.of_rejected hb hs).resolve_right fun h => hp h.1
  case failed | declined | cancelled => exact hm.of_final (by simp [hs, finalStates])
  all_goals simp at h

theorem uncharged_not_settled (hb : o.Sound) (h : outcomeFor o ∈ toldUncharged) : o.payment ≠ .settled := by
  intro hp
  rw [outcomeFor, hp, if_neg nofun] at h
  cases hs : o.state <;> simp [hs, toldUncharged] at h <;> simp [Order.Sound, hs, hp] at hb

theorem Move.of_done (h : outcomeFor o ∈ [.delivered, .refunded]) (hm : Move o e o' fx) :
    o' = o ∧ OnlyAnswers fx := by
  have hp : o.payment ≠ .outcomeUnknown := by
    simp only [mem_cons, not_mem_nil, or_false] at h
    rcases h with h | h <;> exact outcomeFor_of_state h nofun nofun
  rw [outcomeFor, if_neg hp] at h
  cases hs : o.state <;> simp only [hs] at h
  case delivered | refunded => exact hm.of_final (by simp [hs, finalStates])
  all_goals simp at h

theorem Move.of_unresolved (hb : o.Sound) (h : outcomeFor o = .paymentUnresolved)
    (hm : Move o e o' fx) : outcomeFor o' ∈ [.paymentUnresolved, .rejected, .refundDue] := by
  have hp : o.payment = .outcomeUnknown := by
    by_contra hp
    rw [outcomeFor, if_neg hp] at h
    split at h <;> cases h
  have hs : o.state = .rejected := by
    have := hb.honest.unknown hp
    simp only [mayBeUnaccounted, mem_cons, not_mem_nil, or_false] at this
    refine this.resolve_right fun hs => ?_
    rw [outcomeFor, if_pos hp, hs] at h
    cases h
  rcases hm.of_rejected hb hs with ⟨rfl, -⟩ | ⟨-, ⟨hs', hp'⟩ | ⟨hs', hp'⟩⟩
  · simp [h]
  · simp [outcomeFor, hs', hp']
  · simp [outcomeFor, hs', hp']

theorem Move.of_owed (hb : o.Sound) (h : outcomeFor o = .refundDue) (hm : Move o e o' fx) :
    outcomeFor o' ∈ [.refundDue, .delivered, .refunded] := by
  have hs : o.state = .refundDue := by
    rw [outcomeFor, if_neg (outcomeFor_of_state h nofun nofun)] at h
    split at h <;> first | assumption | cases h
  have hp : o.payment = .settled := hb.honest.debt (by simp [hs, recordsADebt])
  obtain ⟨hp', hs'⟩ := hm.of_refundDue hs
  rw [hp] at hp'
  simp only [mem_cons, not_mem_nil, or_false] at hs'
  rcases hs' with hs' | hs' | hs' <;> simp [outcomeFor, hs', hp']

/-- The word `expired` is the state's own. -/
theorem outcomeFor_expired (hb : o.Sound) : outcomeFor o = .expired ↔ o.state = .expired := by
  constructor
  · intro h
    rw [outcomeFor, if_neg (outcomeFor_of_state h nofun nofun)] at h
    split at h <;> first | assumption | cases h
  · intro hs
    have hp : o.payment ≠ .outcomeUnknown := by rcases hb.expired_uncharged hs with hp | hp <;> simp [hp]
    simp [outcomeFor, hp, hs]

/-- An order that is reclaimed at the end of a run was so by a repeat of its purchase, accepted on it
while it was expired with goods held, and has been expired since. -/
theorem Birth.reclaimed_by_repeat {birth : Birth} {events : List OrderEvent} (h : (birth.run events).Reclaimed) :
    ∃ before t after, events = before ++ .state (.purchaseRepeated t) :: after ∧
      (birth.run before).state = .expired ∧ (birth.run before).heldFulfillment = true ∧
      (∃ o fx, transition (birth.run before) (.state (.purchaseRepeated t)) = .ok (o, fx)) ∧ ∀ fs, fs <+: after →
        (birth.run (before ++ .state (.purchaseRepeated t) :: fs)).state = .expired := by
  have hborn : ¬ birth.order.Reclaimed := by
    rintro ⟨hs, -⟩
    rcases birth.shape with ⟨h, -⟩ | ⟨h, -⟩ <;> rw [h] at hs <;> cases hs
  obtain ⟨before, e, after, o', fx, rfl, hn, hr, hsince⟩ := orderMachine.exists_entry hborn h
  have hb := birth.run_sound before
  have ht : transition (birth.run before) e = .ok (o', fx) := hr
  obtain ⟨⟨t, rfl⟩, hs, hheld⟩ := (transition_move hb ht).reclaimed hb hn (hsince [] nil_prefix)
  refine ⟨before, t, after, rfl, hs, hheld, ⟨o', fx, ht⟩, fun fs hfs => ?_⟩
  rw [birth.run_append, Reactor.run_cons, orderMachine_next ht]
  exact (hsince fs hfs).1

end

/-- **The answer an agent is given moves only forward.** Along every run, an agent who was told that
nothing was charged is told so for good, his payment never settles and its execution is never asked
for again; `delivered` and `refunded` are for good too; `payment_unresolved` changes only to
`rejected` or `refund_due`, and `refund_due` only to `delivered` or `refunded`; and `expired` changes
only on an order with goods held, by an accepted verification that follows an accepted repeat of the
purchase, with the order expired all the while. -/
theorem Birth.outcome_moves_forward (birth : Birth) (events : List OrderEvent) :
    (outcomeFor (birth.run events) ∈ [.rejected, .declined, .cancelled] →
      ∀ more, outcomeFor (birth.run (events ++ more)) = outcomeFor (birth.run events) ∧
        (birth.run (events ++ more)).payment ≠ .settled ∧
        .executePayment ∉ emissions (orderMachine.log (birth.run events) more)) ∧
      (outcomeFor (birth.run events) ∈ [.delivered, .refunded] →
        ∀ more, outcomeFor (birth.run (events ++ more)) = outcomeFor (birth.run events)) ∧
      ∀ e o' fx, transition (birth.run events) e = .ok (o', fx) →
        (outcomeFor (birth.run events) = .paymentUnresolved →
          outcomeFor o' ∈ [.paymentUnresolved, .rejected, .refundDue]) ∧
        (outcomeFor (birth.run events) = .refundDue → outcomeFor o' ∈ [.refundDue, .delivered, .refunded]) ∧
        (outcomeFor (birth.run events) = .expired → outcomeFor o' ≠ .expired →
          (birth.run events).heldFulfillment = true ∧ (∃ t, e = .state (.paymentVerified t)) ∧
          ∃ before t after, events = before ++ .state (.purchaseRepeated t) :: after ∧
            outcomeFor (birth.run before) = .expired ∧
            (birth.run before).heldFulfillment = true ∧
            (∃ o₁ fx₁, transition (birth.run before) (.state (.purchaseRepeated t)) = .ok (o₁, fx₁)) ∧
            ∀ fs, fs <+: after →
              outcomeFor (birth.run (before ++ .state (.purchaseRepeated t) :: fs)) = .expired) := by
  have hb := birth.run_sound events
  refine ⟨fun h more => ?_, fun h more => ?_, fun e o' fx ht => ?_⟩
  · obtain ⟨hrun, hlog⟩ := run_stands hb (fun hm => hm.of_uncharged hb h) more
    rw [birth.run_append, hrun]
    refine ⟨rfl, uncharged_not_settled hb h, fun hx => ?_⟩
    obtain ⟨a, ha⟩ := hlog _ hx
    cases ha
  · rw [birth.run_append, (run_stands hb (fun hm => hm.of_done h) more).1]
  · have hm := transition_move hb ht
    refine ⟨hm.of_unresolved hb, hm.of_owed hb, fun h h' => ?_⟩
    have hs := (outcomeFor_expired hb).1 h
    obtain hs' | ⟨he, hheld, hp⟩ := hm.of_expired hs
    · exact absurd ((outcomeFor_expired (hm.sound hb)).2 hs') h'
    · refine ⟨hheld, he, ?_⟩
      obtain ⟨before, t, after, hev, hsb, hheldb, hok, hsince⟩ :=
        Birth.reclaimed_by_repeat ⟨hs, hheld, hp⟩
      exact ⟨before, t, after, hev, (outcomeFor_expired (birth.run_sound _)).2 hsb, hheldb, hok,
        fun fs hfs => (outcomeFor_expired (birth.run_sound _)).2 (hsince fs hfs)⟩

/-- **The reason a closed order carries fits how it closed.** On every order of every run. -/
theorem Birth.closure_fits (birth : Birth) (events : List OrderEvent) :
    let o := birth.run events
    (o.state = .delivered ∨ o.state = .deliveredUnpaid → o.closure = none) ∧
      (o.state = .declined ∨ o.state = .failed → ∃ code message, o.closure = some (.merchantRefused code message)) ∧
      (o.state = .expired → ∃ deadline, o.closure = some (.deadlineExpired deadline)) ∧
      (o.state = .cancelled → o.closure = some .merchantDeparted) ∧
      (o.state = .rejected →
        o.closure = some .unavailable ∨ o.closure = some .quoteSilent ∨
          (∃ reason, o.closure = some (.paymentNotVerified reason)) ∨
          o.closure = some .paymentNotSettled ∨ o.closure = some .paymentOutcomeUnknown) ∧
      (o.state = .refundDue ∨ o.state = .refunded →
        (∃ code message, o.closure = some (.merchantRefused code message)) ∨
          (∃ deadline, o.closure = some (.deadlineExpired deadline)) ∨
          o.closure = some .merchantDeparted ∨ o.closure = some .paymentOutcomeUnknown) ∧
      (o.state = .rejected → (o.payment = .outcomeUnknown ↔ o.closure = some .paymentOutcomeUnknown)) := by
  intro o
  have hb : o.Sound := birth.run_sound events
  refine ⟨fun hs => ?_, fun hs => ?_, fun hs => ?_, fun hs => ?_, fun hs => ?_, fun hs => ?_, fun hs => ?_⟩
  · rcases hs with hs | hs <;> simp only [Order.Sound, hs] at hb <;> exact hb.2.1
  · rcases hs with hs | hs <;> simp only [Order.Sound, hs] at hb
    · exact hb.2.1
    · exact hb.2.2.1
  · simp only [Order.Sound, hs] at hb
    obtain ⟨hc, -⟩ | ⟨⟨d, hc, -⟩, -⟩ := hb.1 <;> exact ⟨_, hc⟩
  · simp only [Order.Sound, hs] at hb
    exact hb.1
  · simp only [Order.Sound, hs] at hb
    obtain ⟨-, ⟨hc, -⟩ | ⟨⟨c, hr, hc⟩, -⟩⟩ := hb
    · simp [hc]
    · cases hr <;> simp [hc]
  · have hc : ∃ c, c.OwesMoney ∧ o.closure = some c := by
      rcases hs with hs | hs <;> simp only [Order.Sound, hs] at hb <;> exact hb.2.2.1
    obtain ⟨c, ho, hc⟩ := hc
    cases ho <;> simp [hc]
  · refine ⟨fun hp => ?_, fun hc => (hb.unaccounted hs hc).1⟩
    simp only [Order.Sound, hs, hp] at hb
    obtain ⟨-, ⟨hc, -⟩ | ⟨-, hn⟩⟩ := hb
    · exact hc
    · simp at hn

end Coinslot
