import Coinslot.Orders.Runs

/-!
# No order hangs, and no clock is extended

The clock of an order is derived from its state and its instants, and its expiry is answered by a
dispatch of its own. The two agree on every order of every run: one deadline runs while the order
waits for somebody and none otherwise, an expiry is accepted exactly where its deadline is running
and due, and letting the clocks run out ends the waiting in two steps (`Birth.never_hangs`).

A step writes one instant at most, and only one its order was not yet running by (`Stamps`), so a
deadline that runs before and after a step runs out at the same instant (`Birth.no_extension`).
-/

namespace Coinslot

/-- The order after the clock that runs on it has run out, at its own instant. -/
def lapse (order : Order) : Order :=
  match deadlines order with
  | [] => order
  | deadline :: _ => orderMachine.next order (.deadlineExpired deadline.at deadline.kind)

/-- The instant a clock runs from, by its kind. -/
def clockBase (order : Order) : DeadlineKind → Option Int
  | .quoteResponse => some order.timestamps.createdAt
  | .quoteExpiry => order.timestamps.quotedAt
  | .settleResponse => order.timestamps.settleStartedAt
  | .confirmationResponse => order.timestamps.confirmationRequestedAt
  | .paymentAfterConfirmation => order.timestamps.confirmedAt
  | .syncResponse | .asyncFulfillment => order.timestamps.paidAt

/-- How long a clock runs, by its kind. -/
def clockMs (policy : DeadlinePolicy) : DeadlineKind → Int
  | .quoteResponse => policy.quoteResponseMs
  | .quoteExpiry => policy.quoteTtlMs
  | .settleResponse => policy.settleResponseMs
  | .confirmationResponse => policy.confirmationResponseMs
  | .paymentAfterConfirmation => policy.paymentAfterConfirmationMs
  | .syncResponse => policy.syncResponseMs
  | .asyncFulfillment => policy.asyncFulfillmentMs

/-- Where an order is when a clock of a kind runs on it. -/
def ClockPlace (order : Order) : DeadlineKind → Prop
  | .quoteResponse => order.state = .created
  | .quoteExpiry => order.state = .quoted
  | .settleResponse => order.payment = .settling
  | .confirmationResponse => order.state = .awaitingConfirmation
  | .paymentAfterConfirmation => order.state = .confirmed
  | .syncResponse | .asyncFulfillment => order.state = .paid ∨ order.state = .dispatched

/-- The instants a step leaves on its order: it writes one at most, and the base of a clock only in
a state in which no clock runs from it. -/
inductive Stamps (o : Order) : OrderTimestamps → Prop
  | nothing : Stamps o o.timestamps
  | quoted {t : Int} : o.state = .created → Stamps o { o.timestamps with quotedAt := some t }
  | confirmationRequested {t : Int} : o.state = .quoted →
      Stamps o { o.timestamps with confirmationRequestedAt := some t }
  | confirmed {t : Int} : o.state = .awaitingConfirmation →
      Stamps o { o.timestamps with confirmedAt := some t }
  | settleStarted {t : Int} : o.payment ≠ .settling →
      Stamps o { o.timestamps with settleStartedAt := some t }
  | paid {t : Int} : o.state = .quoted ∨ o.state = .confirmed →
      Stamps o { o.timestamps with paidAt := some t }
  | dispatched {t : Int} : Stamps o { o.timestamps with dispatchedAt := some t }

section
variable {o o' : Order} {e : OrderEvent} {fx : List Effect} {d d' : Deadline}

/-! ## What runs, and when it runs out -/

theorem Running.place (h : Running o d) :
    ClockPlace o d.kind ∧ (clockBase o d.kind).map (· + clockMs o.policy.deadlines d.kind) = some d.at := by
  cases h with
  | settle hp ht => exact ⟨hp, by simp [clockBase, clockMs, ht]⟩
  | price hs _ => exact ⟨hs, rfl⟩
  | quote hs _ ht => exact ⟨hs, by simp [clockBase, clockMs, ht]⟩
  | confirmation hs _ ht => exact ⟨hs, by simp [clockBase, clockMs, ht]⟩
  | payment hs _ ht => exact ⟨hs, by simp [clockBase, clockMs, ht]⟩
  | goods hs _ ht =>
    unfold Order.goodsMs
    cases o.mode.settle
    · exact ⟨hs, by simp [clockBase, clockMs, ht, SettleTiming.goodsDeadline]⟩
    · exact ⟨hs, by simp [clockBase, clockMs, ht, SettleTiming.goodsDeadline]⟩

theorem expire_accepts (o : Order) (t : Int) (kind : DeadlineKind) : ∃ o' fx, expire o t kind = .ok (o', fx) := by
  have hsilence : ∃ o' fx, onQuoteSilence o t = .ok (o', fx) := by
    unfold onQuoteSilence enterQuoted
    split <;> exact ⟨_, _, rfl⟩
  have hsettle : ∃ o' fx, onSilentSettle o = .ok (o', fx) := by
    simp only [onSilentSettle]
    split
    · exact ⟨_, _, rfl⟩
    · split
      · exact ⟨_, _, rfl⟩
      · split <;> exact ⟨_, _, rfl⟩
  have hgoods : ∃ o' fx, resolveFulfillmentFailure o (.deadlineExpired kind) = .ok (o', fx) := by
    unfold resolveFulfillmentFailure
    split <;> exact ⟨_, _, rfl⟩
  cases kind with
  | quoteResponse => exact hsilence
  | settleResponse => exact hsettle
  | syncResponse | asyncFulfillment => exact hgoods
  | _ => exact ⟨_, _, rfl⟩

theorem expiry_accepted_iff (hb : o.Sound) (t : Int) (kind : DeadlineKind) :
    (∃ o' fx, transition o (.deadlineExpired t kind) = .ok (o', fx)) ↔
      ∃ d ∈ deadlines o, d.kind = kind ∧ d.at ≤ t := by
  constructor
  · rintro ⟨o', fx, h⟩
    obtain ⟨t', hr, hle, -⟩ := onDeadline_ok hb h
    exact ⟨⟨kind, t'⟩, (mem_deadlines hb).2 hr, rfl, hle⟩
  · rintro ⟨d, hd, rfl, hle⟩
    have hr := (mem_deadlines hb).1 hd
    obtain ⟨o', fx, hx⟩ := expire_accepts o t d.kind
    refine ⟨o', fx, ?_⟩
    have hfind : (deadlines o).find? (·.kind = d.kind) = some d := by
      rw [hr.deadlines]
      exact List.find?_cons_of_pos (by simp)
    simp only [transition, onDeadline, hfind, if_neg (Int.not_lt.2 hle), hx]

/-! ## The waiting ends -/

theorem not_waits (hp : o.payment ≠ .settling) (hs : o.state ∉ waitingStates) : ¬ o.Waits := not_or.2 ⟨hs, hp⟩

/-- A clock that runs out ends the waiting, but for the price check that fails open: there the order
is priced off its card and waits for its payment. -/
theorem Move.lapses {t : Int} {kind : DeadlineKind} (hb : o.Sound) (hm : Move o (.deadlineExpired t kind) o' fx) :
    ¬ o'.Waits ∨ o.state = .created ∧ o'.state = .quoted := by
  cases hm with
  | sellsOnSilence hs _ => exact .inr ⟨hs, rfl⟩
  | @closes _ state closure fx hc _ =>
    have hp : (closeWithoutMoney o state closure).payment = .none := hc.unpaid hb
    exact .inl (not_waits (by simp [hp]) (by cases hc <;> simp [closeWithoutMoney, waitingStates]))
  | chargeSilent _ _ _ => exact .inl (not_waits (by rintro ⟨⟩) (by simp [waitingStates, closeWithoutMoney]))
  | fulfilledSilent _ => exact .inl (not_waits (by rintro ⟨⟩) (by simp [waitingStates]))
  | unpaidSilent hs _ => exact .inl (not_waits (by rintro ⟨⟩) (by simp [waitingStates, hs]))
  | @fails _ held state closure hh _ hf =>
    have hp : (closeWithoutMoney held state closure).payment = o.mode.settle.paidStage :=
      hh.payment.trans (hh.paidStage hb)
    exact .inl (not_waits (by simp [hp]) (by cases hf <;> simp [closeWithoutMoney, waitingStates]))
  | @owes _ held state closure extra hh _ _ _ =>
    have hp : (closeWithoutMoney held .refundDue closure).payment = o.mode.settle.paidStage :=
      hh.payment.trans (hh.paidStage hb)
    exact .inl (not_waits (by simp [hp]) (by simp [closeWithoutMoney, waitingStates]))
  | delivers _ _ he _ => cases he
  | closesDebt _ he _ => cases he

theorem Move.stops {t : Int} {kind : DeadlineKind} (hb : o.Sound)
    (h : transition o (.deadlineExpired t kind) = .ok (o', fx)) (hd : d ∈ deadlines o') : d.kind ≠ kind := by
  have hm := transition_move hb h
  obtain ⟨t', hr, -, -⟩ := onDeadline_ok hb h
  have hplace := hr.place.1
  rintro rfl
  have hplace' := ((mem_deadlines (hm.sound hb)).1 hd).place.1
  rcases hm.lapses hb with hw | ⟨hs, hs'⟩
  · rw [deadlines_of_not_waits hw] at hd
    cases hd
  · have hunpaid : o.payment = .none := by
      simp only [Order.Sound, hs] at hb
      exact hb.1
    -- The price check is the one clock that runs before the price, and it does not run after it.
    cases hk : d.kind <;> simp_all [ClockPlace]

theorem lapse_of_not_waits (hw : ¬ o.Waits) : lapse o = o := by simp only [lapse, deadlines_of_not_waits hw]

section

variable (hb : o.Sound)
include hb

theorem Running.lapse (h : Running o d) : ∃ fx, transition o (.deadlineExpired d.at d.kind) = .ok (lapse o, fx) := by
  obtain ⟨o', fx, hx⟩ := (expiry_accepted_iff hb d.at d.kind).2 ⟨d, (mem_deadlines hb).2 h, rfl, Int.le_refl _⟩
  refine ⟨fx, ?_⟩
  rw [hx]
  simp only [Coinslot.lapse, h.deadlines, orderMachine_next hx]

theorem lapse_once : (lapse o).Sound ∧ (¬ (lapse o).Waits ∨ o.state = .created ∧ (lapse o).state = .quoted) := by
  by_cases hw : o.Waits
  · obtain ⟨d, hr⟩ := hb.running hw
    obtain ⟨fx, h⟩ := hr.lapse hb
    have hm := transition_move hb h
    exact ⟨hm.sound hb, hm.lapses hb⟩
  · rw [lapse_of_not_waits hw]
    exact ⟨hb, .inl hw⟩

/-- **Two lapses end the waiting.** -/
theorem lapse_twice : deadlines (lapse (lapse o)) = [] := by
  apply deadlines_of_not_waits
  obtain ⟨hb', hw | ⟨-, hs⟩⟩ := lapse_once hb
  · rw [lapse_of_not_waits hw]
    exact hw
  · obtain ⟨-, hw | ⟨hs', -⟩⟩ := lapse_once hb'
    · exact hw
    · rw [hs] at hs'
      cases hs'

theorem deadlines_length : (deadlines o).length = if o.Waits then 1 else 0 := by
  split
  · next hw =>
    obtain ⟨d, hr⟩ := hb.running hw
    rw [hr.deadlines]
    rfl
  · next hw =>
    rw [deadlines_of_not_waits hw]
    rfl

/-! ## No clock is extended -/

theorem Move.stamps (hm : Move o e o' fx) : Stamps o o'.timestamps := by
  cases hm with
  | quotes hs _ | sellsOnSilence hs _ => exact .quoted hs
  | asks hs _ _ => exact .confirmationRequested hs
  | confirms hs => exact .confirmed hs
  | clears hs _ _ | charged hs _ => exact .paid hs
  | charges _ hp _ | retries _ hp | revives _ _ hp => exact .settleStarted (by simp [hp])
  | fulfils hh _ =>
    rw [hh.eq]
    exact .settleStarted (by simp [hh.paidStage hb])
  | dispatches _ | dispatchesAgain _ => exact .dispatched
  | accepts hh _ | redelivers hh _ | delivers hh _ _ _ | fails hh _ _ | owes hh _ _ _ =>
    rw [hh.eq]
    exact .nothing
  | _ => exact .nothing

end

theorem Stamps.base {kind : DeadlineKind} (h : Stamps o o'.timestamps) (hp : ClockPlace o kind) :
    clockBase o' kind = clockBase o kind := by
  generalize hts : o'.timestamps = ts at h
  cases h with
  | nothing | dispatched => cases kind <;> simp only [clockBase, hts]
  | quoted hs | confirmationRequested hs | confirmed hs | settleStarted hs =>
    -- The one clock that runs from the instant just written does not run where it is written.
    cases kind <;> simp_all [ClockPlace, clockBase]
  | paid hs => rcases hs with hs | hs <;> cases kind <;> simp_all [ClockPlace, clockBase]

/-- **A clock keeps its instant.** Two clocks of one kind, before and after a step, run out at one
instant. -/
theorem Move.same_clock (hb : o.Sound) (hm : Move o e o' fx) (h : Running o d) (h' : Running o' d')
    (hk : d.kind = d'.kind) : d.at = d'.at := by
  obtain ⟨hplace, hat⟩ := h.place
  obtain ⟨-, hat'⟩ := h'.place
  obtain ⟨-, -, hpolicy, -⟩ := hm.keeps
  rw [← hk, (hm.stamps hb).base hplace, hpolicy, hat] at hat'
  exact Option.some.inj hat'

theorem clock_stays (hb : o.Sound) (events : List OrderEvent) (hd : d ∈ deadlines o)
    (hruns : ∀ fs, fs <+: events → ∃ d' ∈ deadlines (orderMachine.run o fs), d.kind = d'.kind) :
    d ∈ deadlines (orderMachine.run o events) := by
  induction events generalizing o with
  | nil => exact hd
  | cons e events ih =>
    have hnext : (orderMachine.next o e).Sound ∧ d ∈ deadlines (orderMachine.next o e) := by
      obtain ⟨d', hd', hk⟩ := hruns [e] (by simp)
      cases h : transition o e with
      | error r => rw [Reactor.next_of_error orderMachine (s := o) h]; exact ⟨hb, hd⟩
      | ok res =>
        have hm := transition_move hb h
        rw [Reactor.run_cons, Reactor.run_nil, orderMachine_next h] at hd'
        rw [orderMachine_next h]
        refine ⟨hm.sound hb, ?_⟩
        have hat := hm.same_clock hb ((mem_deadlines hb).1 hd) ((mem_deadlines (hm.sound hb)).1 hd') hk
        obtain ⟨kind, t⟩ := d
        obtain ⟨kind', t'⟩ := d'
        cases hk
        cases hat
        exact hd'
    exact ih hnext.1 hnext.2 fun fs hfs => hruns (e :: fs) (List.cons_prefix_cons.2 ⟨rfl, hfs⟩)

end

/-- **No hanging order.** On every order of every run one deadline runs while the order waits for
somebody and none otherwise; an expiry is accepted exactly where a deadline of its kind is running
and its instant is not before the deadline's; and letting whatever clock runs expire at its own
instant, twice at most, leads to an order on which none runs. -/
theorem Birth.never_hangs (birth : Birth) (events : List OrderEvent) :
    ((deadlines (birth.run events)).length =
        if (birth.run events).state ∈
              [.created, .quoted, .awaitingConfirmation, .confirmed, .paid, .dispatched, .fulfilled] ∨
            (birth.run events).payment = .settling
        then 1 else 0) ∧
      (∀ t kind,
        (∃ o' fx, transition (birth.run events) (.deadlineExpired t kind) = .ok (o', fx)) ↔
          ∃ d ∈ deadlines (birth.run events), d.kind = kind ∧ d.at ≤ t) ∧
      deadlines (lapse (lapse (birth.run events))) = [] :=
  have hb := birth.run_sound events
  ⟨deadlines_length hb, expiry_accepted_iff hb, lapse_twice hb⟩

/-- **No extension of a clock.** On every accepted event of every run, a deadline that is running
before the event and a deadline of the same kind that is running after it run out at the same
instant; so a deadline whose kind runs all through a run runs out when it did from the start. -/
theorem Birth.no_extension (birth : Birth) (events : List OrderEvent) :
    (∀ e o' fx, transition (birth.run events) e = .ok (o', fx) →
      ∀ d ∈ deadlines (birth.run events), ∀ d' ∈ deadlines o', d.kind = d'.kind → d.at = d'.at) ∧
      ∀ more, ∀ d ∈ deadlines (birth.run events),
        (∀ fs, fs <+: more → ∃ d' ∈ deadlines (birth.run (events ++ fs)), d.kind = d'.kind) →
        d ∈ deadlines (birth.run (events ++ more)) := by
  have hb := birth.run_sound events
  refine ⟨fun e o' fx h d hd d' hd' hk => ?_, fun more d hd hruns => ?_⟩
  · have hm := transition_move hb h
    exact hm.same_clock hb ((mem_deadlines hb).1 hd) ((mem_deadlines (hm.sound hb)).1 hd') hk
  · simp only [birth.run_append] at hruns ⊢
    exact clock_stays hb more hd hruns

end Coinslot
