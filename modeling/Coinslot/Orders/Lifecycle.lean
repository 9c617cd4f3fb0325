import Coinslot.Orders.Retries
import Coinslot.Orders.Endings
import Coinslot.Lib.Climbs

/-!
# The life of an order

The states of an order stand in a line: `OrderState.stage` says how far along it each of them is, and a
move keeps the state or takes the order further along (`Move.climbs`). An order so changes its state nine
times at the most and never comes back to a state it left (`Birth.life_goes_on`). An event that is
delivered again finds its work done: a move by the event takes it in (`TakenIn`), and all such an event does
is answer the merchant, or have a payment looked at once more (`Birth.redelivery_harmless`).
-/

namespace Coinslot

open OrderState

/-- How far along its life an order in the state is. -/
def OrderState.stage : OrderState → Nat
  | .created => 0
  | .quoted => 1
  | .awaitingConfirmation => 2
  | .confirmed => 3
  | .paid => 4
  | .dispatched => 5
  | .rejected | .declined | .expired | .cancelled | .failed => 6
  | .fulfilled => 7
  | .deliveredUnpaid | .refundDue => 8
  | .delivered | .refunded => 9

theorem OrderState.stage_le (state : OrderState) : state.stage ≤ 9 := by
  cases state <;> decide

section
variable {o o' held : Order} {e : OrderEvent} {fx : List Effect} {state : OrderState} {closure : Closure}

/-! ## Moves climb -/

theorem stage_lt {was : OrderState} (hs : o.state = was) (h : was.stage.blt state.stage = true) :
    o.state.stage < state.stage := by
  rw [hs]
  exact Nat.le_of_ble_eq_true h

theorem InHand.stage_lt (hh : InHand o held) (h : Nat.blt 5 state.stage = true) : o.state.stage < state.stage := by
  have h := Nat.le_of_ble_eq_true h
  rcases hh.was with hs | hs <;> rw [hs]
  · exact Nat.lt_trans (by decide) h
  · exact h

theorem Closes.stage_lt (hc : Closes o e state closure) : o.state.stage < state.stage := by
  have hearly : o.state.stage < 6 := by
    have := hc.early
    simp only [List.mem_cons, List.not_mem_nil, or_false] at this
    rcases this with hs | hs | hs | hs <;> rw [hs] <;> decide
  cases hc <;> exact hearly

/-- A move keeps the state of the order, or takes it further along its life. -/
theorem Move.climbs (hm : Move o e o' fx) : Reactor.Climbs Order.state stage o o' := by
  cases hm with
  | closes hc _ => exact .inr hc.stage_lt
  | accepts hh _ | redelivers hh _ =>
    cases hh with
    | recorded _ => exact .inl rfl
    | answered hs | called hs => exact .inr (stage_lt hs rfl)
  | delivers hh _ _ _ | fulfils hh _ | owes hh _ _ _ => exact .inr (hh.stage_lt rfl)
  | fails hh _ hf => cases hf <;> exact .inr (hh.stage_lt rfl)
  | clears hs _ _ | charged hs _ | chargeFails hs _ _ | chargeSilent hs _ _ =>
    rcases hs with hs | hs <;> exact .inr (stage_lt hs rfl)
  | stands _ _ | asksAgain _ | asksOnceMore _ | charges _ _ _ | dispatchesAgain _ | repeats _ _
  | failsAgain _ _ | unpaidSilent _ _ | holds _ _ _ | reclaims _ _ | provesUnpaid _ _ => exact .inl rfl
  | retries hs _ => exact .inl hs.symm
  | quotes hs _ | sellsOnSilence hs _ | asks hs _ _ | confirms hs | dispatches hs | settles hs
  | staysUnpaid hs | fulfilledSilent hs | settlesLate hs _ | revives hs _ _ | closesDebt hs _ _
  | refunds hs | owesAfterAll hs _ => exact .inr (stage_lt hs rfl)

theorem Order.Sound.climbs (hb : o.Sound) (events : List OrderEvent) :
    Reactor.Climbs Order.state stage o (orderMachine.run o events) :=
  orderMachine.climbs_run (fun hs h => (transition_move hs h).sound hs) (fun hs h => (transition_move hs h).climbs)
    hb events

theorem Order.Sound.changes_le (hb : o.Sound) (events : List OrderEvent) :
    o.state.stage + orderMachine.changes Order.state o events ≤ (orderMachine.run o events).state.stage :=
  orderMachine.changes_le (fun hs h => (transition_move hs h).sound hs) (fun hs h => (transition_move hs h).climbs)
    hb events

/-- **The life of an order goes on.** However long a run is, it changes the state of the order nine times
at the most, and the order does not come back to a state it left. -/
theorem Birth.life_goes_on (birth : Birth) :
    (∀ events, orderMachine.changes Order.state birth.order events ≤ 9) ∧
      ∀ past more rest, (birth.run (past ++ more)).state = (birth.run past).state ∨
        (birth.run (past ++ more ++ rest)).state ≠ (birth.run past).state := by
  refine ⟨fun events => ?_, fun past more rest => ?_⟩
  · have hle := birth.sound.changes_le events
    have := stage_le (orderMachine.run birth.order events).state
    omega
  · by_cases hsame : (birth.run (past ++ more)).state = (birth.run past).state
    · exact .inl hsame
    · right
      have hmore := (birth.run_sound past).climbs more
      have hrest := (birth.run_sound (past ++ more)).climbs rest
      rw [← Birth.run_append] at hmore hrest
      exact hmore.left hrest hsame

/-! ## An event that is delivered again -/

/-- The work of the event is done, as far as the order goes: no further delivery of it moves the order. A
report that the merchant was not reached is never done with: enough of them give the order up. -/
def TakenIn (o : Order) : OrderEvent → Prop
  | .state (.quoteAnswered _ _) | .state (.quoteSilent _) | .deadlineExpired _ .quoteResponse =>
    0 < o.state.stage
  | .state (.confirmationDispatched _) => 1 < o.state.stage
  | .state (.orderDispatched _) => 4 < o.state.stage
  | .state (.handlerAccepted _) => o.state ≠ .awaitingConfirmation ∧ o.state ≠ .paid
  | .state (.handlerDelivered _) | .state (.deliverCalled _) =>
    5 < o.state.stage ∧ o.state ≠ .refundDue ∧ (o.state = .expired → o.heldFulfillment = true)
  | .state (.refundSettled _) => 8 < o.state.stage
  | .state (.paymentVerified _) => o.payment ≠ .none
  | .state (.paymentSettled _) | .state (.paymentSettleFailed _) => ¬ o.ChargeOut
  | .deadlineExpired _ .settleResponse => o.payment ≠ .settling
  | .state (.purchaseRepeated _) => o.payment = .none
  | .state (.handlerUndelivered _) => False
  | _ => 5 < o.state.stage

/-- The order is what it was, but for the count of its deliveries and its times. -/
def Order.Alike (o o' : Order) : Prop := o' = { o with dispatch := o'.dispatch, timestamps := o'.timestamps }

/-- The effects are nothing but answers to the merchant, or that the payment is looked at once more. -/
def Harmless (fx : List Effect) : Prop := ∀ f ∈ fx, (∃ a, f = .answerMerchant a) ∨ f = .verifyPayment

theorem Order.Alike.refl (o : Order) : o.Alike o := rfl

theorem Order.Alike.trans {o'' : Order} (h : o.Alike o') (h' : o'.Alike o'') : o.Alike o'' := by
  rw [Order.Alike] at h h' ⊢
  rw [h', h]

theorem Closes.takesIn (hc : Closes o e state closure) (hk : e.kind ≠ .handlerUndelivered) :
    TakenIn (closeWithoutMoney o state closure) e := by
  cases hc with
  | unavailable _ | unverified _ _ | departed _ _ => exact Nat.le_of_ble_eq_true rfl
  | silent _ hq _ => cases hq <;> exact Nat.le_of_ble_eq_true rfl
  | declined _ _ hr => cases hr <;> exact Nat.le_of_ble_eq_true rfl
  | overdue hs _ => rcases hs with ⟨-, rfl⟩ | ⟨-, rfl⟩ | ⟨-, rfl⟩ <;> exact Nat.le_of_ble_eq_true rfl
  | unreached _ => exact absurd rfl hk

theorem InHand.not_over (hh : InHand o held) : ¬ 5 < o.state.stage := by
  rcases hh.was with hs | hs <;> rw [hs] <;> decide

theorem Closes.not_takenIn (hc : Closes o e state closure) : ¬ TakenIn o e := by
  have hearly := hc.early
  simp only [List.mem_cons, List.not_mem_nil, or_false] at hearly
  cases hc with
  | unavailable hs => simp [TakenIn, hs, stage]
  | silent hs hq _ => cases hq <;> simp [TakenIn, hs, stage]
  | unreached _ => exact id
  | declined _ _ hr => cases hr <;> rcases hearly with h | h | h | h <;> simp [TakenIn, h, stage]
  | overdue hs _ => rcases hs with ⟨h, rfl⟩ | ⟨h, rfl⟩ | ⟨h, rfl⟩ <;> simp [TakenIn, h, stage]
  | unverified _ _ | departed _ _ => rcases hearly with h | h | h | h <;> simp [TakenIn, h, stage]

theorem Fails.not_takenIn (hf : Fails o e state closure) (hh : InHand o held) : ¬ TakenIn o e := by
  cases hf with
  | refused hr => cases hr <;> exact hh.not_over
  | departed => exact hh.not_over
  | overdue hg =>
    cases hg with
    | expired t => cases hm : o.mode.settle <;> exact hh.not_over
    | undelivered t => exact id

theorem Fails.takesIn {s : OrderState} (hf : Fails o e state closure) (hk : e.kind ≠ .handlerUndelivered)
    (hs : 5 < s.stage) : TakenIn (closeWithoutMoney held s closure) e := by
  cases hf with
  | refused hr => cases hr <;> exact hs
  | departed => exact hs
  | overdue hg =>
    cases hg with
    | expired t =>
      cases hm : o.mode.settle <;> rw [SettleTiming.goodsDeadline] <;> exact hs
    | undelivered t => exact absurd rfl hk

/-- **An accepted event is taken in**, unless it left the order as it was. -/
theorem Move.takesIn (hm : Move o e o' fx) (hk : e.kind ≠ .handlerUndelivered) :
    o' = o ∧ OnlyAnswers fx ∨ TakenIn o' e := by
  cases hm with
  | stands _ hfx => exact .inl ⟨rfl, hfx⟩
  | asksOnceMore _ | redelivers _ _ => exact absurd rfl hk
  | closes hc _ => exact .inr (hc.takesIn hk)
  | fails _ _ hf =>
    refine .inr (hf.takesIn hk ?_)
    cases hf <;> decide
  | owes _ _ hf _ => exact .inr (hf.takesIn hk (by decide))
  | sellsOnSilence _ hq => right; cases hq <;> exact Nat.le_of_ble_eq_true rfl
  | delivers _ _ hd _ | closesDebt _ hd _ =>
    right
    cases hd <;> exact ⟨Nat.le_of_ble_eq_true rfl, nofun, nofun⟩
  | fulfils _ _ => exact .inr ⟨Nat.le_of_ble_eq_true rfl, nofun, nofun⟩
  | holds hs _ _ => exact .inr ⟨by rw [hs]; decide, by simp [hs], fun _ => rfl⟩
  | accepts _ hd => exact .inr ⟨by simp [hd], by simp [hd]⟩
  | confirms _ => exact .inr ⟨nofun, nofun⟩
  | asksAgain hs | dispatchesAgain hs => right; simp [TakenIn, hs, stage]
  | clears _ _ _ | charges _ _ _ | retries _ _ | revives _ _ _ => right; simp [TakenIn, paidOrder, settlingOrder]
  | charged _ _ | chargeFails _ _ _ | settles _ | staysUnpaid _ | settlesLate _ _ | failsAgain _ _
  | owesAfterAll _ _ | provesUnpaid _ _ => right; simp [TakenIn, Order.ChargeOut, paidOrder]
  | chargeSilent _ _ _ | fulfilledSilent _ | unpaidSilent _ _ => right; simp [TakenIn, closeWithoutMoney]
  | repeats _ _ | reclaims _ _ => exact .inr rfl
  | quotes _ _ | asks _ _ _ | dispatches _ | refunds _ => exact .inr (Nat.le_of_ble_eq_true rfl)

theorem onlyAnswers_harmless (h : OnlyAnswers fx) : Harmless fx := fun f hf => .inl (h f hf)

/-- **An event taken in is harmless**, and stays taken in. -/
theorem Move.of_takenIn (hb : o.Sound) (hm : Move o e o' fx) (h : TakenIn o e) :
    o.Alike o' ∧ Harmless fx ∧ TakenIn o' e := by
  cases hm with
  | stands _ hfx => exact ⟨.refl o, onlyAnswers_harmless hfx, h⟩
  | asksOnceMore _ | redelivers _ _ => exact h.elim
  | quotes hs _ | asks hs _ _ | dispatches hs | refunds hs => simp [TakenIn, hs, stage] at h
  | sellsOnSilence hs hq => cases hq <;> simp [TakenIn, hs, stage] at h
  | closes hc _ => exact absurd h hc.not_takenIn
  | fails hh _ hf | owes hh _ hf _ => exact absurd h (hf.not_takenIn hh)
  | delivers hh _ hd _ => cases hd <;> exact absurd h.1 hh.not_over
  | fulfils hh _ => exact absurd h.1 hh.not_over
  | closesDebt hs hd _ => cases hd <;> exact absurd hs h.2.1
  | holds hs _ hn => exact absurd (h.2.2 hs) (by simp [hn])
  | confirms hs => exact absurd hs h.1
  | accepts hh _ =>
    cases hh with
    | recorded _ => exact ⟨rfl, onlyAnswers_harmless (onlyAnswers_singleton _), h⟩
    | answered hs | called hs => exact absurd hs h.2
  | asksAgain _ | dispatchesAgain _ => exact ⟨rfl, nofun, h⟩
  | clears _ hp _ | charges _ hp _ | retries _ hp | revives _ _ hp => exact absurd hp h
  | charged _ hp | chargeFails _ hp _ => exact absurd (.inl hp) h
  | settles hs | staysUnpaid hs => exact absurd (.inl (hb.fulfilled_settling hs)) h
  | settlesLate _ hp | failsAgain _ hp => exact absurd hp h
  | owesAfterAll hs hc | provesUnpaid hs hc => exact absurd (.inr (hb.unaccounted hs hc).1) h
  | chargeSilent _ hp _ | unpaidSilent _ hp => exact absurd hp h
  | fulfilledSilent hs => exact absurd (hb.fulfilled_settling hs) h
  | repeats _ _ | reclaims _ _ =>
    have hsame : { o with payment := .none } = o := by rw [← show o.payment = .none from h]
    exact ⟨by rw [hsame]; exact .refl o, by simp [Harmless], rfl⟩

/-- The event is done with: it is taken in, or all it does there is answer the merchant. -/
def DoneWith (e : OrderEvent) (o : Order) : Prop :=
  TakenIn o e ∨ ∀ o' fx, transition o e = .ok (o', fx) → o' = o ∧ OnlyAnswers fx

theorem Order.Sound.next_doneWith (hb : o.Sound) (hk : e.kind ≠ .handlerUndelivered) :
    DoneWith e (orderMachine.next o e) := by
  cases hr : transition o e with
  | error rejection =>
    have hnext : orderMachine.next o e = o := Reactor.next_of_error orderMachine (s := o) hr
    rw [hnext]
    exact .inr fun o' fx h => by cases hr.symm.trans h
  | ok came =>
    obtain ⟨o', fx⟩ := came
    rw [orderMachine_next hr]
    rcases (transition_move hb hr).takesIn hk with ⟨rfl, hfx⟩ | htaken
    · exact .inr fun o'' gx h => by cases hr.symm.trans h; exact ⟨rfl, hfx⟩
    · exact .inl htaken

theorem DoneWith.step (h : DoneWith e o) (hb : o.Sound) (hr : transition o e = .ok (o', fx)) :
    o.Alike o' ∧ Harmless fx ∧ DoneWith e o' := by
  rcases h with htaken | hidle
  · obtain ⟨halike, hfx, htaken⟩ := (transition_move hb hr).of_takenIn hb htaken
    exact ⟨halike, hfx, .inl htaken⟩
  · obtain ⟨rfl, hfx⟩ := hidle o' fx hr
    exact ⟨.refl o', onlyAnswers_harmless hfx, .inr hidle⟩

theorem DoneWith.again (h : DoneWith e o) (hb : o.Sound) (n : Nat) :
    o.Alike (orderMachine.run o (List.replicate n e)) ∧
      Harmless (emissions (orderMachine.log o (List.replicate n e))) := by
  have hmeets : orderMachine.Meets (fun _ f => f = e) o (List.replicate n e) :=
    orderMachine.meets_of_mem (fun _ hf _ => List.eq_of_mem_replicate hf) o
  refine (orderMachine.log_induction_meeting (l := [])
    (P := fun s l => (s.Sound ∧ DoneWith e s) ∧ o.Alike s ∧ Harmless (emissions l))
    ?_ ⟨⟨hb, h⟩, .refl o, nofun⟩ _ hmeets).2
  rintro s l e s' fx ⟨⟨hs, hdone⟩, halike, hl⟩ rfl hr
  obtain ⟨hstep, hfx, hdone'⟩ := hdone.step hs hr
  refine ⟨⟨(transition_move hs hr).sound hs, hdone'⟩, halike.trans hstep, fun f hf => ?_⟩
  rw [emissions_append, emissions_stepLog] at hf
  exact (List.mem_append.1 hf).elim (hl f) (hfx f)

end

end Coinslot
