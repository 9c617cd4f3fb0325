import Coinslot.Gateway.Effects

/-!
# What an order may spend of its deliveries

Every order envelope is asked for by a transition: the one that takes the order into its merchant's
queue, and each silence on a hand-over that is worth another delivery. `Order.Spends` bounds how many
were asked for by the attempts the machine counts: an order its merchant holds has one attempt for each
envelope, and one more while it waits on a hand-over, since it is the hand-over that is counted. The
machine gives no further delivery once the attempts reach the policy's limit (`redeliver_within`), so no
order spends more than the limit, or the one envelope it is put in the queue with.
-/

namespace Coinslot

open List

section
variable {o o' : Order} {e : OrderEvent} {fx : List Effect}

/-- The states of an order that no envelope is asked for in. -/
def spentStates : List OrderState :=
  [.fulfilled, .delivered, .deliveredUnpaid, .refundDue, .refunded, .failed, .expired, .rejected,
    .declined, .cancelled]

/-- How many envelopes an order has asked for, by where it stands: none before it is in its merchant's
queue, and one more than its attempts at most while he holds it, the hand-over it waits on counted. -/
def Order.Spends (order : Order) (waiting : Bool) (spent : Nat) : Prop :=
  (spent : Int) ≤ max 1 order.policy.redelivery.maxAttempts ∧
    match order.state with
    | .created | .quoted => spent = 0 ∧ waiting = false
    | .awaitingConfirmation | .confirmed => False
    | .paid => spent ≤ 1 ∧ waiting = false
    | .dispatched =>
      match order.timestamps.dispatchedAt with
      | none => spent ≤ 1 ∧ 1 ≤ order.dispatch.attempts ∧ waiting = false
      | some _ => spent + waiting.toNat ≤ order.dispatch.attempts + 1
    | _ => True

/-- What an event makes of the hand-over an order waits on: a hand-over is a new one to wait on, a
silence counts while the order waits and ends the waiting, and nothing else begins it. -/
inductive KeepsWaiting : OrderEvent → Bool → Bool → Prop
  | handsOver (t : Int) (waiting : Bool) : KeepsWaiting (.state (.orderDispatched t)) waiting true
  | silence (t : Int) : KeepsWaiting (.state (.handlerUndelivered t)) true false
  | other {e : OrderEvent} {waiting waiting' : Bool} :
      e.kind ∉ [.orderDispatched, .handlerUndelivered, .confirmationDispatched] →
      (waiting' = true → waiting = true) → KeepsWaiting e waiting waiting'

theorem Order.Spends.of_spent {waiting : Bool} {spent : Nat}
    (hle : (spent : Int) ≤ max 1 o.policy.redelivery.maxAttempts) (hs : o.state ∈ spentStates) :
    o.Spends waiting spent := by
  refine ⟨hle, ?_⟩
  simp only [spentStates, mem_cons, not_mem_nil, or_false] at hs
  rcases hs with hs | hs | hs | hs | hs | hs | hs | hs | hs | hs <;> simp only [hs]

theorem Order.Spends.weaken {waiting waiting' : Bool} {spent : Nat} (h : o.Spends waiting spent)
    (hw : waiting' = true → waiting = true) : o.Spends waiting' spent := by
  obtain ⟨hle, h⟩ := h
  have hnot (hf : waiting = false) : waiting' = false := by
    rw [← Bool.not_eq_true] at hf ⊢
    exact fun h' => hf (hw h')
  have hnat : waiting'.toNat ≤ waiting.toNat := by
    cases waiting' with
    | false => exact Nat.zero_le _
    | true => rw [hw rfl]
  refine ⟨hle, ?_⟩
  cases hs : o.state <;> simp only [hs] at h ⊢
  case created | quoted | paid => exact ⟨h.1, hnot h.2⟩
  case dispatched =>
    split
    · next hn =>
      rw [hn] at h
      exact ⟨h.1, h.2.1, hnot h.2.2⟩
    · next t hn =>
      rw [hn] at h
      omega

/-! ## The events the count turns on -/

variable {t : Int}

/-- **The limit.** Another delivery is asked for only while the attempts are under it. -/
theorem redeliver_within {deadlineAt : Option Int} {giveUp : DeadlineKind} {attempt : Nat} {delayMs : Rat}
    (h : redeliver o t deadlineAt giveUp = .ok (o', .redeliverOrder attempt delayMs :: fx)) :
    (o.dispatch.attempts : Int) < o.policy.redelivery.maxAttempts := by
  unfold redeliver nextRedelivery at h
  dsimp only at h
  split at h
  · next hretry =>
    split at hretry
    · cases hretry
    · omega
  · unfold resolveFulfillmentFailure at h
    split at h
    · cases (ok_eq_ok.1 h).2
    · cases (ok_eq_ok.1 h).2

/-- The order its merchant has, handed to him once more: the attempt is a new one where the hand-over
before it was recorded. -/
def handedOverAgain (o : Order) (t : Int) : Order :=
  { o with
    dispatch := { o.dispatch with
      attempts := if o.timestamps.dispatchedAt.isSome then o.dispatch.attempts + 1 else o.dispatch.attempts }
    timestamps := { o.timestamps with dispatchedAt := some t } }

/-- What the record of a hand-over comes to: the order is out with its merchant, for the first time or
once more, or it owes a refund and stays as it is. -/
theorem transition_orderDispatched (h : transition o (.state (.orderDispatched t)) = .ok (o', fx)) :
    fx = [] ∧ (o.state = .paid ∧ o' = dispatchedOrder o t ∨
      o.state = .dispatched ∧ o' = handedOverAgain o t ∨ o.state = .refundDue ∧ o' = o) := by
  simp only [transition] at h
  split at h
  · exact absurd h reject_ne_ok
  · unfold fromState at h
    split at h
    · exact absurd h notApplicable_ne_ok
    · exact absurd h notApplicable_ne_ok
    · exact absurd h notApplicable_ne_ok
    · exact absurd h notApplicable_ne_ok
    · next hs =>
      obtain ⟨rfl, rfl⟩ := ok_eq_ok.1 h
      exact ⟨rfl, .inl ⟨hs, rfl⟩⟩
    · next hs =>
      obtain ⟨rfl, rfl⟩ := ok_eq_ok.1 h
      exact ⟨rfl, .inr (.inl ⟨hs, rfl⟩)⟩
    · exact absurd h notApplicable_ne_ok
    · exact absurd h notApplicable_ne_ok
    · exact absurd h notApplicable_ne_ok
    · next hs =>
      obtain ⟨rfl, rfl⟩ := ok_eq_ok.1 h
      exact ⟨rfl, .inr (.inr ⟨hs, rfl⟩)⟩
    all_goals exact absurd h notApplicable_ne_ok

theorem transition_handlerAccepted (hs : o.state = .paid)
    (h : transition o (.state (.handlerAccepted t)) = .ok (o', fx)) :
    o'.state = .dispatched ∧ o'.timestamps = o.timestamps ∧ 1 ≤ o'.dispatch.attempts := by
  simp only [transition] at h
  split at h
  · exact absurd h reject_ne_ok
  · simp only [fromState, hs] at h
    obtain ⟨rfl, -⟩ := ok_eq_ok.1 h
    exact ⟨rfl, rfl, Nat.le_max_right _ _⟩

/-- A silence on an order its merchant has: another delivery, under the limit, or the end of the
purchase. -/
theorem transition_handlerUndelivered (hs : o.state = .dispatched)
    (h : transition o (.state (.handlerUndelivered t)) = .ok (o', fx)) :
    (∃ attempt delayMs, o' = o ∧ fx = [.redeliverOrder attempt delayMs] ∧
        (o.dispatch.attempts : Int) < o.policy.redelivery.maxAttempts) ∨
      o'.state ∈ [.refundDue, .expired] ∧ o'.closure.isSome ∧ fx.countP Effect.handsOver = 0 := by
  simp only [transition] at h
  split at h
  · exact absurd h reject_ne_ok
  · simp only [fromState, hs, fromDispatched_undelivered] at h
    rcases redeliver_cases h with ⟨attempt, delayMs, rfl, rfl⟩ | hfails
    · exact .inl ⟨attempt, delayMs, rfl, rfl, redeliver_within h⟩
    · unfold resolveFulfillmentFailure at hfails
      split at hfails
      · obtain ⟨rfl, rfl⟩ := ok_eq_ok.1 hfails
        exact .inr ⟨by simp [closeWithoutMoney], rfl, rfl⟩
      · obtain ⟨rfl, rfl⟩ := ok_eq_ok.1 hfails
        exact .inr ⟨by simp [closeWithoutMoney], rfl, rfl⟩

/-! ## The step -/

variable {state : OrderState} {closure : Closure}

theorem Closes.spent (h : Closes o e state closure) :
    state ∈ spentStates := by
  cases h <;> decide

theorem Fails.spent (h : Fails o e state closure) :
    state ∈ spentStates := by
  cases h <;> decide

theorem Move.from_spent (hm : Move o e o' fx) (hs : o.state ∈ spentStates) :
    o'.state ∈ spentStates ∧ fx.countP Effect.handsOver = 0 := by
  have held {b : Order} (hh : InHand o b) : False := by rcases hh.was with h | h <;> simp [h, spentStates] at hs
  cases hm with
  | stands _ hfx => exact ⟨hs, hfx.words.handsOver⟩
  | closes hc hfx => exact ⟨hc.spent, hfx.handsOver⟩
  | accepts hh _ | redelivers hh _ | delivers hh _ _ _ | fulfils hh _ | fails hh _ _
  | owes hh _ _ _ => exact (held hh).elim
  | clears h _ _ | charges h _ _ | charged h _ | chargeFails h _ _ | chargeSilent h _ _ =>
    rcases h with h | h <;> simp [h, spentStates] at hs
  | quotes h _ | sellsOnSilence h _ | asks h _ _ | asksAgain h | confirms h | asksOnceMore h
  | dispatches h | dispatchesAgain h => simp [h, spentStates] at hs
  | closesDebt _ _ hx =>
    refine ⟨by simp [deliveredOrder, spentStates], ?_⟩
    rw [countP_append, hx.words.handsOver]
    rfl
  | repeats _ _ | failsAgain _ _ | unpaidSilent _ _ | holds _ _ _ | reclaims _ _
  | provesUnpaid _ _ => exact ⟨hs, rfl⟩
  | settles _ | staysUnpaid _ | fulfilledSilent _ | retries _ _ | settlesLate _ _ | revives _ _ _
  | refunds _ | owesAfterAll _ _ => exact ⟨by simp [settlingOrder, spentStates], rfl⟩

variable {waiting waiting' : Bool} {spent : Nat}

theorem Order.Spends.handsOver (h : o.Spends waiting spent)
    (ht : transition o (.state (.orderDispatched t)) = .ok (o', fx)) :
    o'.Spends true (spent + fx.countP Effect.handsOver) := by
  obtain ⟨hle, h⟩ := h
  obtain ⟨rfl, ⟨hs, rfl⟩ | ⟨hs, rfl⟩ | ⟨hs, rfl⟩⟩ := transition_orderDispatched ht
  · simp only [hs] at h
    refine ⟨hle, ?_⟩
    show spent + 0 + 1 ≤ o.dispatch.attempts + 1 + 1
    omega
  · simp only [hs] at h
    refine ⟨hle, ?_⟩
    have hstate : (handedOverAgain o t).state = .dispatched := hs
    rw [hstate]
    show spent + 0 + 1 ≤ (if o.timestamps.dispatchedAt.isSome then o.dispatch.attempts + 1
      else o.dispatch.attempts) + 1
    cases hat : o.timestamps.dispatchedAt with
    | none =>
      simp only [hat] at h
      rw [if_neg (by simp)]
      omega
    | some at' =>
      simp only [hat] at h
      rw [if_pos (by simp)]
      omega
  · exact .of_spent hle (by simp [hs, spentStates])

theorem Order.Spends.silence (h : o.Spends true spent) (hb : o.Sound)
    (ht : transition o (.state (.handlerUndelivered t)) = .ok (o', fx)) :
    o'.Spends false (spent + fx.countP Effect.handsOver) := by
  have hm := transition_move hb ht
  have hkept : o'.policy = o.policy := hm.keeps.2.2.1
  obtain ⟨hle, h⟩ := h
  have ends (hs : o'.state ∈ spentStates) (hfx : fx.countP Effect.handsOver = 0) :
      o'.Spends false (spent + fx.countP Effect.handsOver) := by
    rw [hfx]
    exact .of_spent (by rwa [hkept]) hs
  cases hs : o.state <;> simp only [hs] at h
  case created | quoted | paid => cases h.2
  case dispatched =>
    rcases transition_handlerUndelivered hs ht with
      ⟨attempt, delayMs, rfl, rfl, hlt⟩ | ⟨hs', -, hfx⟩
    · cases hat : o'.timestamps.dispatchedAt with
      | none =>
        simp only [hat] at h
        cases h.2.2
      | some at' =>
        simp only [hat, Bool.toNat_true] at h
        refine ⟨?_, ?_⟩
        · show ((spent + 1 : Nat) : Int) ≤ _
          omega
        · simp only [hs, hat]
          show spent + 1 + 0 ≤ _
          omega
    · refine ends ?_ hfx
      simp only [mem_cons, not_mem_nil, or_false] at hs'
      rcases hs' with hs' | hs' <;> simp [hs', spentStates]
  all_goals
    obtain ⟨hs', hfx⟩ := hm.from_spent (by simp [hs, spentStates])
    exact ends hs' hfx

theorem Move.undelivered_spent (hm : Move o (.state (.handlerUndelivered t)) o' fx)
    (hs : o.state ∈ spentStates) : o' = o := by
  have held {b : Order} {goal : Prop} (hh : InHand o b) : goal := by
    rcases hh.was with h | h <;> simp [h, spentStates] at hs
  cases hm with
  | stands _ _ => rfl
  | closes hc _ =>
    cases hc with
    | silent _ hq _ => cases hq
    | declined _ _ hr => cases hr
    | unreached h => simp [h, spentStates] at hs
  | sellsOnSilence _ hq => cases hq
  | asksOnceMore h => simp [h, spentStates] at hs
  | redelivers hh _ => exact held hh
  | delivers hh _ _ _ => exact held hh
  | fails hh _ _ => exact held hh
  | owes hh _ _ _ => exact held hh
  | closesDebt _ hd _ => cases hd

/-- **What a silence comes to.** The order stands and is sent out once more at most, or it is closed and
sent to nobody. -/
theorem Order.Spends.silent (h : o.Spends true spent) (hb : o.Sound)
    (ht : transition o (.state (.handlerUndelivered t)) = .ok (o', fx)) : o' = o ∧ fx.countP Effect.handsOver ≤ 1 ∨
      o'.state ∈ [.refundDue, .expired] ∧ o'.closure.isSome ∧ fx.countP Effect.handsOver = 0 := by
  have hm := transition_move hb ht
  obtain ⟨-, h⟩ := h
  cases hs : o.state <;> simp only [hs] at h
  case created | quoted | paid => cases h.2
  case dispatched =>
    rcases transition_handlerUndelivered hs ht with ⟨attempt, delayMs, rfl, rfl, -⟩ | hclosed
    · exact .inl ⟨rfl, Nat.le_refl 1⟩
    · exact .inr hclosed
  all_goals exact .inl ⟨hm.undelivered_spent (by simp [hs, spentStates]), hm.handsOver⟩

section

variable (h : o.Spends waiting spent)
include h

/-- Any other event asks for an envelope only where it brings the order into its merchant's queue. -/
theorem Order.Spends.other (hb : o.Sound) (ht : transition o e = .ok (o', fx))
    (hk : e.kind ∉ [.orderDispatched, .handlerUndelivered, .confirmationDispatched])
    (hw : waiting' = true → waiting = true) : o'.Spends waiting' (spent + fx.countP Effect.handsOver) := by
  have hm := transition_move hb ht
  have hkept : o'.policy = o.policy := hm.keeps.2.2.1
  have hstill := h.weaken hw
  obtain ⟨hle, h⟩ := h
  have ends (hs : o'.state ∈ spentStates) (hfx : fx.countP Effect.handsOver = 0) :
      o'.Spends waiting' (spent + fx.countP Effect.handsOver) := by
    rw [hfx]
    exact .of_spent (by rwa [hkept]) hs
  have hnot (hf : waiting = false) : waiting' = false := by
    rw [← Bool.not_eq_true] at hf ⊢
    exact fun h' => hf (hw h')
  by_cases hspent : o.state ∈ spentStates
  · obtain ⟨hs, hfx⟩ := hm.from_spent hspent
    exact ends hs hfx
  cases hm with
  | stands _ hfx =>
    rw [hfx.words.handsOver]
    exact hstill
  | closes hc hfx => exact ends hc.spent hfx.handsOver
  | asks _ _ _ | asksAgain _ | asksOnceMore _ | dispatches _ | dispatchesAgain _
  | redelivers _ _ => exact absurd (by simp [OrderEvent.kind, StateEvent.kind]) hk
  | quotes hs _ | sellsOnSilence hs _ =>
    simp only [hs] at h
    rw [effectsOnQuoted_handsOver]
    exact ⟨hle, h.1, hnot h.2⟩
  | confirms hs => simp only [hs] at h
  | clears hs _ _ | charged hs _ =>
    rcases hs with hs | hs <;> simp only [hs] at h
    obtain ⟨rfl, hf⟩ := h
    have hone (attempts : Int) : ((0 + 1 : Nat) : Int) ≤ max 1 attempts := by omega
    exact ⟨hone _, Nat.le_refl 1, hnot hf⟩
  | charges hs _ _ =>
    rcases hs with hs | hs <;> simp only [hs] at h
    refine ⟨hle, ?_⟩
    simp only [settlingOrder, hs]
    exact ⟨h.1, hnot h.2⟩
  | chargeFails _ _ hfx | chargeSilent _ _ hfx =>
    exact ends (by simp [closeWithoutMoney, spentStates]) hfx.handsOver
  | @accepts _ held hh hheld =>
    rcases hh.was with hs | hs <;> simp only [hs] at h
    · obtain ⟨-, htimes, hcount⟩ := transition_handlerAccepted hs ht
      have htimes : held.timestamps = o.timestamps := htimes
      refine ⟨by rwa [hkept], ?_⟩
      simp only [hheld, htimes]
      have hf := hnot h.2
      cases hat : o.timestamps.dispatchedAt with
      | none => exact ⟨h.1, hcount, hf⟩
      | some at' =>
        rw [hf]
        show spent + 0 + 0 ≤ _
        omega
    · cases hh with
      | recorded _ => exact ⟨hle, hstill.2⟩
      | answered hs' | called hs' => simp [hs] at hs'
  | fails hh _ hf => exact ends hf.spent rfl
  | owes hh _ _ hx =>
    refine ends (by simp [closeWithoutMoney, spentStates]) ?_
    rw [countP_append, hx.words.handsOver]
    rfl
  | delivers hh _ _ hx =>
    refine ends (by simp [deliveredOrder, spentStates]) ?_
    rw [countP_append, hx.words.handsOver]
    rfl
  | fulfils hh _ => exact ends (by simp [settlingOrder, spentStates]) rfl
  | closesDebt hs _ _ | settles hs | staysUnpaid hs | fulfilledSilent hs | repeats hs _
  | retries hs _ | settlesLate hs _ | failsAgain hs _ | unpaidSilent hs _ | holds hs _ _
  | reclaims hs _ | revives hs _ _ | refunds hs | owesAfterAll hs _ | provesUnpaid hs _ =>
    exact absurd (by simp [hs, spentStates]) hspent

/-- **The step.** What an order spends, and what it waits on, go together through every event. -/
theorem Order.Spends.step (hb : o.Sound) (ht : transition o e = .ok (o', fx)) (hw : KeepsWaiting e waiting waiting') :
    o'.Spends waiting' (spent + fx.countP Effect.handsOver) := by
  cases hw with
  | handsOver t _ => exact h.handsOver ht
  | silence t => exact h.silence hb ht
  | other hk hw => exact h.other hb ht hk hw

theorem Order.Spends.driven {events : List StateEvent} (hb : o.Sound) (hd : driven o events = .ok (o', fx))
    (hk : ∀ event ∈ events, event.kind ∉ [.orderDispatched, .handlerUndelivered, .confirmationDispatched]) :
    o'.Spends waiting (spent + fx.countP Effect.handsOver) := by
  induction events generalizing o fx spent with
  | nil =>
    cases hd
    exact h
  | cons event rest ih =>
    obtain ⟨mid, fx₁, fx₂, hm, hrest, rfl⟩ := driven_cons hd
    rw [countP_append, ← Nat.add_assoc]
    exact ih (h.other hb hm (hk event (by simp)) fun h => h) ((transition_move hb hm).sound hb) hrest
      fun event' hin => hk event' (by simp [hin])

end

end

theorem Birth.spends (birth : Birth) : birth.order.Spends false 0 := by
  refine ⟨?_, ?_⟩
  · omega
  · rcases birth.shape with ⟨ho, -⟩ | ⟨ho, -⟩ <;> rw [ho] <;> exact ⟨rfl, rfl⟩

end Coinslot
