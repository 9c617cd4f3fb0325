import Mathlib.Algebra.Order.Ring.Rat
import Coinslot.Orders.Charging

/-!
# Redelivery keeps its term and its budget

An order its merchant did not answer on is delivered again, or ended (`Undelivered`): another delivery is
within the policy's attempts and its ceiling and comes before the deadline that is running, and where
there is none the order closes with that deadline, as a debt where the money has moved. An order that is a
debt already is left as it is. The waits grow over a round of deliveries; the round of the order starts
with its counters fresh after the round of its confirmation.
-/

namespace Coinslot

open List Option

/-- The wait before the redelivery an effect asks for, if it asks for one. -/
def Effect.delay : Effect → Option Rat
  | .redeliverOrder _ delayMs => some delayMs
  | _ => none

/-- The waits before the redeliveries asked for, in their order. -/
def delays (effects : List Effect) : List Rat := effects.filterMap Effect.delay

/-- How an order that was not answered on goes on under the deadline running on it. -/
inductive Undelivered (o : Order) (t : Int) (running : Deadline) : Order → List Effect → Prop
  | again {next : Order} {attempt : Nat} {delayMs : Rat} :
      (attempt : Int) ≤ o.policy.redelivery.maxAttempts → delayMs ≤ o.policy.redelivery.maxDelayMs →
      t + delayMs < running.at →
      Undelivered o t running next [.redeliverOrder attempt delayMs]
  | ends {next : Order} {fx : List Effect} : delays fx = [] →
      next.closure = some (.deadlineExpired running.kind) → next.state ∈ [.refundDue, .expired] →
      (next.state = .refundDue ↔ o.payment = .settled) →
      Undelivered o t running next fx

section
variable {o o' held : Order} {e : OrderEvent} {fx : List Effect} {t : Int}

@[simp] theorem delays_append (fx gx : List Effect) : delays (fx ++ gx) = delays fx ++ delays gx :=
  filterMap_append

theorem delays_nil_of_words (h : OnlyWords fx) : delays fx = [] := by
  refine filterMap_eq_nil_iff.2 fun f hf => ?_
  rcases h f hf with ⟨a, rfl⟩ | rfl <;> rfl

theorem delays_effectsOnQuoted (mode : OrderMode) : delays (effectsOnQuoted mode) = [] := by
  refine filterMap_eq_nil_iff.2 fun f hf => ?_
  rcases mem_effectsOnQuoted hf with rfl | rfl <;> rfl

/-! ## One redelivery -/

theorem redeliveryDelay_le (policy : RedeliveryPolicy) (attempts : Nat) :
    redeliveryDelay policy attempts ≤ policy.maxDelayMs := by
  unfold redeliveryDelay
  dsimp only
  split
  · next h => exact h
  · exact le_rfl

theorem redeliveryDelay_mono {policy : RedeliveryPolicy} (hfactor : 1 ≤ policy.factor)
    (hbase : 0 ≤ policy.baseDelayMs) {m n : Nat} (h : m ≤ n) :
    redeliveryDelay policy m ≤ redeliveryDelay policy n := by
  have hgrown : (policy.baseDelayMs : Rat) * policy.factor ^ max (m - 1) 0 ≤
      policy.baseDelayMs * policy.factor ^ max (n - 1) 0 := by
    refine mul_le_mul_of_nonneg_left (pow_le_pow_right₀ hfactor ?_) (by exact_mod_cast hbase)
    omega
  unfold redeliveryDelay
  dsimp only
  split
  · split
    · exact hgrown
    · next h _ => exact h
  · next h => rw [if_neg fun hn => h (le_trans hgrown hn)]

theorem redeliver_undelivered {running : Deadline} (hpolicy : held.policy = o.policy)
    (hpayment : held.payment = o.payment) (h : redeliver held t (some running.at) running.kind = .ok (o', fx)) :
    Undelivered o t running o' fx ∧ (delays fx = [] ∨
        o' = held ∧ delays fx = [redeliveryDelay o.policy.redelivery held.dispatch.attempts]) := by
  unfold redeliver at h
  rw [hpolicy] at h
  have hends (h : resolveFulfillmentFailure held (.deadlineExpired running.kind) = .ok (o', fx)) :
      Undelivered o t running o' fx ∧ delays fx = [] := by
    unfold resolveFulfillmentFailure at h
    rw [hpayment] at h
    split at h
    · next hp =>
      obtain ⟨rfl, rfl⟩ := h
      exact ⟨.ends rfl rfl (by simp [closeWithoutMoney]) (by simp [closeWithoutMoney, hp]), rfl⟩
    · next hp =>
      obtain ⟨rfl, rfl⟩ := h
      exact ⟨.ends rfl rfl (by simp [closeWithoutMoney]) (by simp [closeWithoutMoney, hp]), rfl⟩
  by_cases hspent : (held.dispatch.attempts : Int) ≥ o.policy.redelivery.maxAttempts
  · simp only [nextRedelivery, if_pos hspent] at h
    exact ⟨(hends h).1, .inl (hends h).2⟩
  · by_cases hlate : t + redeliveryDelay o.policy.redelivery held.dispatch.attempts ≥ running.at
    · simp only [nextRedelivery, if_neg hspent, if_pos hlate] at h
      exact ⟨(hends h).1, .inl (hends h).2⟩
    · simp only [nextRedelivery, if_neg hspent, if_neg hlate, ok_eq_ok] at h
      obtain ⟨rfl, rfl⟩ := h
      refine ⟨.again ?_ (redeliveryDelay_le ..) (not_le.1 hlate), .inr ⟨rfl, rfl⟩⟩
      push_cast
      omega

theorem InHand.running (hh : InHand o held) (hb : o.Sound) :
    ∃ running, deadlines o = [running] ∧ fulfillmentDeadline held = [running] := by
  have hfulfillment : fulfillmentDeadline held = fulfillmentDeadline o := by rw [hh.eq]; rfl
  have hrunning : deadlines o = fulfillmentDeadline o := by
    have hp := hh.paidStage hb
    have hn : o.payment ≠ .settling := by simp [hp]
    rcases hh.was with hs | hs <;> simp [deadlines, hn, hs]
  obtain ⟨paidAt, hpaid⟩ := isSome_iff_exists.1 (hh.row hb).2.1
  obtain ⟨running, hone⟩ : ∃ running, fulfillmentDeadline held = [running] := by
    cases hm : held.mode.settle <;> simp [fulfillmentDeadline, hpaid, hm]
  exact ⟨running, by rw [hrunning, ← hfulfillment, hone], hone⟩

/-- **The answer to an order that was not answered on.** -/
theorem transition_undelivered (hb : o.Sound) (h : transition o (.state (.handlerUndelivered t)) = .ok (o', fx)) :
    (o.state = .refundDue ∧ o' = o ∧ fx = []) ∨ ∃ running, deadlines o = [running] ∧ Undelivered o t running o' fx ∧
        (delays fx = [] ∨ delays fx = [redeliveryDelay o'.policy.redelivery o'.dispatch.attempts]) := by
  have hheld {held : Order} (hh : InHand o held)
      (h : fromDispatched held (.handlerUndelivered t) = .ok (o', fx)) :
      ∃ running, deadlines o = [running] ∧ Undelivered o t running o' fx ∧
        (delays fx = [] ∨ delays fx = [redeliveryDelay o'.policy.redelivery o'.dispatch.attempts]) := by
    obtain ⟨running, hdeadlines, hgoods⟩ := hh.running hb
    simp only [fromDispatched, hgoods, head?_cons, map_some, getD_some] at h
    have hpolicy : held.policy = o.policy := by rw [hh.eq]
    obtain ⟨hcame, hdelays⟩ := redeliver_undelivered hpolicy hh.payment h
    refine ⟨running, hdeadlines, hcame, hdelays.imp_right ?_⟩
    rintro ⟨rfl, hdelay⟩
    rw [hpolicy]
    exact hdelay
  have hn : o.payment ≠ .settling := by
    intro hp
    rw [transition, if_pos ⟨hp, by simp [allowedWhileSettling]⟩] at h
    exact reject_ne_ok h
  rw [transition, if_neg fun hw => hn hw.1] at h
  cases hs : o.state with
  | awaitingConfirmation =>
    right
    have hsound := hb
    simp only [Order.Sound, hs] at hsound
    obtain ⟨requestedAt, hrequested⟩ := isSome_iff_exists.1 hsound.2.1
    simp only [fromState, hs, fromAwaitingConfirmation, hrequested, map_some] at h
    obtain ⟨running, hrunning⟩ : ∃ running : Deadline, running =
        ⟨.confirmationResponse, requestedAt + o.policy.deadlines.confirmationResponseMs⟩ := ⟨_, rfl⟩
    have hredeliver : redeliver o t (some running.at) running.kind = .ok (o', fx) := by
      rw [hrunning]
      exact h
    obtain ⟨hcame, hdelays⟩ := redeliver_undelivered rfl rfl hredeliver
    refine ⟨running, ?_, hcame, hdelays.imp_right ?_⟩
    · simp [deadlines, hs, hsound.1, hrequested, hrunning]
    · rintro ⟨rfl, hdelay⟩
      exact hdelay
  | paid =>
    simp only [fromState, hs, fromPaid] at h
    exact .inr (hheld (.answered hs) h)
  | dispatched =>
    simp only [fromState, hs] at h
    exact .inr (hheld (.recorded (.inr hs)) h)
  | refundDue =>
    simp only [fromState, hs, fromRefundDue, ok_eq_ok] at h
    exact .inl ⟨rfl, h.1.symm, h.2.symm⟩
  | _ =>
    simp [fromState, hs, fromCreated, fromQuoted, fromConfirmed, fromFulfilled, fromDelivered, fromDeliveredUnpaid,
      fromRefunded, fromFailed, fromExpired, fromClosedWithoutMoney] at h

/-! ## A round of deliveries -/

/-- An order that is not sent out was delivered to nobody. -/
def Order.Unsent (o : Order) : Prop := o.state ∈ [.created, .quoted] → o.dispatch.attempts = 0

theorem Move.unsent (hm : Move o e o' fx) (h : o.Unsent) : o'.Unsent := by
  cases hm with
  | stands _ _ | asksOnceMore _ | charges _ _ _ => exact h
  | quotes hs _ | sellsOnSilence hs _ => exact fun _ => h (by simp [hs])
  | closes hc _ => cases hc <;> simp [Order.Unsent, closeWithoutMoney]
  | fails _ _ hf | owes _ _ hf _ => cases hf <;> simp [Order.Unsent, closeWithoutMoney]
  | accepts _ hd | redelivers _ hd => simp [Order.Unsent, hd]
  | asksAgain hs | dispatchesAgain hs | repeats hs _ | retries hs _ | failsAgain hs _ | unpaidSilent hs _
  | holds hs _ _ | reclaims hs _ | provesUnpaid hs _ => simp [Order.Unsent, hs, settlingOrder]
  | _ => simp [Order.Unsent, paidOrder, settlingOrder, closeWithoutMoney, deliveredOrder, dispatchedOrder]

theorem transition_delays (hb : o.Sound) (h : transition o e = .ok (o', fx)) :
    delays fx = [] ∨ delays fx = [redeliveryDelay o'.policy.redelivery o'.dispatch.attempts] := by
  have hundelivered {t : Int} (he : e = .state (.handlerUndelivered t)) :
      delays fx = [] ∨ delays fx = [redeliveryDelay o'.policy.redelivery o'.dispatch.attempts] := by
    rw [he] at h
    rcases transition_undelivered hb h with ⟨-, -, rfl⟩ | ⟨_, -, -, hdelays⟩
    · exact .inl rfl
    · exact hdelays
  cases transition_move hb h with
  | asksOnceMore _ | redelivers _ _ => exact hundelivered rfl
  | stands _ hfx => exact .inl (delays_nil_of_words hfx.words)
  | closes _ hfx | chargeFails _ _ hfx | chargeSilent _ _ hfx => exact .inl (delays_nil_of_words hfx)
  | quotes _ _ | sellsOnSilence _ _ => exact .inl (delays_effectsOnQuoted _)
  | delivers _ _ _ hx | owes _ _ _ hx | closesDebt _ _ hx =>
    rw [delays_append, delays_nil_of_words hx.words]
    exact .inl rfl
  | _ => exact .inl rfl

theorem dispatched_attempts (hb : o.Sound) (hs : o.state = .dispatched)
    (h : transition o (.state (.orderDispatched t)) = .ok (o', fx)) :
    o.dispatch.attempts ≤ o'.dispatch.attempts := by
  have hn : o.payment ≠ .settling := by
    simp only [Order.Sound, hs] at hb
    simp [hb.1]
  rw [transition, if_neg fun hw => hn hw.1] at h
  simp only [fromState, hs, fromDispatched, ok_eq_ok] at h
  obtain ⟨rfl, -⟩ := h
  dsimp only
  split
  · omega
  · exact le_rfl

theorem transition_attempts (hb : o.Sound) (hunsent : o.Unsent) (h : transition o e = .ok (o', fx))
    (hround : .dispatchOrder ∉ fx) : o.dispatch.attempts ≤ o'.dispatch.attempts := by
  have hheld {held : Order} (hh : InHand o held) : o.dispatch.attempts ≤ held.dispatch.attempts := by
    cases hh with
    | recorded _ | called _ => exact le_rfl
    | answered _ => exact le_max_left ..
  cases transition_move hb h with
  | clears _ _ _ | charged _ _ => exact absurd (mem_singleton_self _) hround
  | asks hs _ _ =>
    rw [hunsent (by simp [hs])]
    exact Nat.zero_le _
  | dispatchesAgain hs => exact dispatched_attempts hb hs h
  | accepts hh _ | redelivers hh _ | delivers hh _ _ _ | fulfils hh _ | fails hh _ _ | owes hh _ _ _ =>
    have hle := hheld hh
    exact hle
  | asksAgain _ | dispatches _ => exact Nat.le_succ _
  | _ => exact le_rfl

/-- **The waits of a round grow.** -/
theorem run_delays (hb : o.Sound) (hunsent : o.Unsent) (hfactor : 1 ≤ o.policy.redelivery.factor)
    (hbase : 0 ≤ o.policy.redelivery.baseDelayMs) (events : List OrderEvent)
    (hround : .dispatchOrder ∉ emissions (orderMachine.log o events)) :
    (delays (emissions (orderMachine.log o events))).Pairwise (· ≤ ·) := by
  refine ((orderMachine.log_induction (l := [])
    (P := fun s log => s.Sound ∧ s.Unsent ∧ s.policy = o.policy ∧ (.dispatchOrder ∉ emissions log →
      (delays (emissions log)).Pairwise (· ≤ ·) ∧
        ∀ d ∈ delays (emissions log), d ≤ redeliveryDelay o.policy.redelivery s.dispatch.attempts))
    ?_ ⟨hb, hunsent, rfl, fun _ => ⟨.nil, nofun⟩⟩ events).2.2.2 hround).1
  rintro s log e s' fx ⟨hs, hunsent, hpolicy, ih⟩ h
  have hm := transition_move hs h
  have hpolicy' : s'.policy = o.policy := hm.keeps.2.2.1.trans hpolicy
  refine ⟨hm.sound hs, hm.unsent hunsent, hpolicy', fun hround => ?_⟩
  rw [emissions_append, emissions_stepLog, mem_append, not_or] at hround
  obtain ⟨hgrow, hbelow⟩ := ih hround.1
  have hmono := redeliveryDelay_mono hfactor hbase (transition_attempts hs hunsent h hround.2)
  have hbefore : ∀ d ∈ delays (emissions log), d ≤ redeliveryDelay o.policy.redelivery s'.dispatch.attempts :=
    fun d hd => le_trans (hbelow d hd) hmono
  rw [emissions_append, emissions_stepLog, delays_append]
  rcases transition_delays hs h with hnone | hone
  · rw [hnone, append_nil]
    exact ⟨hgrow, hbefore⟩
  · rw [hpolicy'] at hone
    rw [hone]
    refine ⟨pairwise_append.2 ⟨hgrow, pairwise_singleton .., fun d hd d' hd' => ?_⟩, fun d hd => ?_⟩
    · rw [mem_singleton.1 hd']
      exact hbefore d hd
    · rcases mem_append.1 hd with hd | hd
      · exact hbefore d hd
      · rw [mem_singleton.1 hd]

theorem Birth.run_unsent (birth : Birth) (events : List OrderEvent) : (birth.run events).Unsent := by
  refine run_keeps (fun _ hunsent hm => hm.unsent hunsent) birth.sound ?_ events
  rcases birth.shape with ⟨h, -⟩ | ⟨h, -⟩ <;> rw [h] <;> exact fun _ => rfl

/-- **Redelivery keeps its term and its budget.** An order that was not answered on is a debt already and is
left as it is, or it goes on under the deadline running on it, as `Undelivered` says; and over a round of
deliveries the waits grow, where the factor stretches them. -/
theorem Birth.redeliveries_bounded (birth : Birth) (before : List OrderEvent) :
    (∀ t next fx, transition (birth.run before) (.state (.handlerUndelivered t)) = .ok (next, fx) →
      ((birth.run before).state = .refundDue ∧ next = birth.run before ∧ fx = []) ∨
        ∃ running, deadlines (birth.run before) = [running] ∧ Undelivered (birth.run before) t running next fx) ∧
      (1 ≤ (birth.run before).policy.redelivery.factor →
        0 ≤ (birth.run before).policy.redelivery.baseDelayMs →
        ∀ after, .dispatchOrder ∉ emissions (orderMachine.log (birth.run before) after) →
          (delays (emissions (orderMachine.log (birth.run before) after))).Pairwise (· ≤ ·)) := by
  have hb := birth.run_sound before
  refine ⟨fun t next fx h => ?_, fun hfactor hbase after hround =>
    run_delays hb (birth.run_unsent before) hfactor hbase after hround⟩
  rcases transition_undelivered hb h with hdebt | ⟨running, hrunning, hcame, -⟩
  · exact .inl hdebt
  · exact .inr ⟨running, hrunning, hcame⟩

/-- An order that is not answered on twice, and then no more. -/
def twiceUndelivered : List OrderEvent :=
  [.state (.orderDispatched 3), .state (.handlerUndelivered 4), .state (.orderDispatched 5),
    .state (.handlerUndelivered 6)]

/-- A purchase delivered twice: the second wait is no shorter than the first. -/
theorem async_redeliveries_bounded :
    let paid := (sampleBirth .async).run [.state (.paymentVerified 1), .state (.paymentSettled 2)]
    let handed := orderMachine.run paid [.state (.orderDispatched 3)]
    (∃ running, deadlines handed = [running] ∧ Undelivered handed 4 running handed [.redeliverOrder 2 1]) ∧
    delays (emissions (orderMachine.log paid twiceUndelivered)) = [1, 2] ∧
    (delays (emissions (orderMachine.log paid twiceUndelivered))).Pairwise (· ≤ ·) := by
  refine ⟨?_, by decide +kernel, ?_⟩
  · have hmain := ((sampleBirth .async).redeliveries_bounded
      [.state (.paymentVerified 1), .state (.paymentSettled 2), .state (.orderDispatched 3)]).1 4
      ((sampleBirth .async).run
        [.state (.paymentVerified 1), .state (.paymentSettled 2), .state (.orderDispatched 3)])
      [.redeliverOrder 2 1] (by decide +kernel)
    exact hmain.resolve_left fun hdebt => by cases hdebt.1
  · exact ((sampleBirth .async).redeliveries_bounded
      [.state (.paymentVerified 1), .state (.paymentSettled 2)]).2 (by decide +kernel) (by decide +kernel) _
      (by decide +kernel)

/-- The round of a confirmation, and of the order after it. -/
def bothRounds : List OrderEvent :=
  [.state (.confirmationDispatched 1), .state (.handlerUndelivered 2), .state (.confirmationDispatched 3),
    .state (.handlerUndelivered 4), .state (.handlerAccepted 5), .state (.paymentVerified 6),
    .state (.paymentSettled 7), .state (.orderDispatched 8), .state (.handlerUndelivered 9)]

/-- An order its merchant refused after it was paid. -/
def refusedDebt : List OrderEvent :=
  [.state (.paymentVerified 1), .state (.paymentSettled 2), .state (.orderDispatched 3),
    .state (.handlerRefused 4 "sold_out" "none are left")]

/-- A purchase whose policy has its first wait below zero. -/
def shrinkingBirth : Birth where
  input :=
    { (sampleBirth .async).input with
      policy :=
        { (sampleBirth .async).input.policy with
          redelivery := { baseDelayMs := -1, factor := 2, maxDelayMs := 8, maxAttempts := 3 } } }
  order := _
  effects := _
  accepted := rfl

/-- A debt that is not answered on stays as it was closed; the round of an order begins with a shorter wait
than the round of its confirmation ended with; and where the first wait is below zero the waits shrink. -/
theorem redelivery_starts_over :
    (transition ((sampleBirth .async).run refusedDebt) (.state (.handlerUndelivered 5)) =
        .ok ((sampleBirth .async).run refusedDebt, []) ∧
      ((sampleBirth .async).run refusedDebt).closure = some (.merchantRefused "sold_out" "none are left")) ∧
    delays (emissions ((sampleBirth .confirm).log bothRounds)) = [1, 2, 1] ∧
    delays (emissions (shrinkingBirth.log
      ([.state (.paymentVerified 1), .state (.paymentSettled 2)] ++ twiceUndelivered))) = [-1, -2] := by
  refine ⟨⟨by decide +kernel, by decide +kernel⟩, by decide +kernel, by decide +kernel⟩

end

end Coinslot
