import Coinslot.Orders.Runs
import Coinslot.Spec.Charge

/-!
# No order is charged twice

The log of an order keeps to the protocol of a charge (`Coinslot.Spec.chargeProtocol`): the order's
payment says where the charge stands (`ChargeAt`), and every move of a sound order is read by the
protocol from the one stage to the other (`Move.charge`). What the protocol promises of every word it
reads is then true of every run (`never_charged_twice`).
-/

namespace Coinslot

open List

open Spec (ChargeWord ChargeStage chargeProtocol said)

/-- What an entry of the log says about the charge. -/
def chargeWord : OrderEntry → Option ChargeWord
  | .emitted .executePayment => some .execute
  | .accepted event =>
    match event.kind with
    | .paymentVerified => some .verified
    | .paymentSettled => some .settled
    | .paymentSettleFailed => some .failed
    | .purchaseRepeated => some .repeated
    | _ => none
  | .emitted _ => none

/-- Where the charge of an order stands. Goods that were made and not paid for have had their
execution fail, and so has the payment their buyer repeated the purchase over. -/
def ChargeAt (o : Order) (stage : ChargeStage) : Prop :=
  match o.payment with
  | .none => if o.state = .deliveredUnpaid then stage = .reopened else stage = .fresh ∨ stage = .cleared
  | .verified => stage = .cleared
  | .settling | .outcomeUnknown => stage = .charging
  | .settled => stage = .captured
  | .settleFailed => stage = .refused ∨ stage = .reopened

section
variable {o o' : Order} {e : OrderEvent} {fx : List Effect} {q : ChargeStage}

theorem reads_quiet (h : .executePayment ∉ fx) :
    (chargeProtocol.along chargeWord).reads q (fx.map .emitted) = some q := by
  induction fx with
  | nil => rfl
  | cons f fx ih =>
    have hw : chargeWord (.emitted f) = none := by cases f <;> first | rfl | simp at h
    rw [map_cons, Monitor.reads_cons, chargeProtocol.along_next_none hw]
    exact ih fun hm => h (mem_cons_of_mem _ hm)

theorem reads_step_quiet (h : .executePayment ∉ fx) :
    (chargeProtocol.along chargeWord).reads q (Reactor.stepLog e fx) =
      (chargeProtocol.along chargeWord).next q (.accepted e) := by
  rw [Reactor.stepLog, Monitor.reads_cons]
  cases (chargeProtocol.along chargeWord).next q (.accepted e) with
  | none => rfl
  | some q' => exact reads_quiet h

theorem reads_execution (he : e.kind = .paymentVerified) (hq : q = .fresh ∨ q = .cleared ∨ q = .reopened) :
    (chargeProtocol.along chargeWord).reads q (Reactor.stepLog e [.executePayment]) = some .charging := by
  have hw : chargeWord (.accepted e) = some .verified := by simp [chargeWord, he]
  rw [Reactor.stepLog, Monitor.reads_cons, chargeProtocol.along_next_some hw]
  rcases hq with rfl | rfl | rfl <;> rfl

theorem OnlyWords.quiet (h : OnlyWords fx) : .executePayment ∉ fx := fun hm => by
  rcases h _ hm with ⟨a, ha⟩ | ha <;> cases ha

theorem OnlyAnswers.quiet (h : OnlyAnswers fx) : .executePayment ∉ fx := h.words.quiet

theorem effectsOnQuoted_quiet (mode : OrderMode) : .executePayment ∉ effectsOnQuoted mode := by
  intro hm
  rcases mem_effectsOnQuoted hm with h | h <;> cases h

/-! ## The events that say nothing -/

theorem QuoteSilence.wordless {t : Int} (h : QuoteSilence t e) : chargeWord (.accepted e) = none := by
  cases h <;> rfl

theorem Refuses.wordless {code message : String} (h : Refuses code message e) : chargeWord (.accepted e) = none := by
  cases h <;> rfl

theorem Delivers.wordless (h : Delivers e) : chargeWord (.accepted e) = none := by cases h <;> rfl

variable {state : OrderState} {closure : Closure} {b : OrderEntry}

theorem Closes.wordless (h : Closes o e state closure) :
    chargeWord (.accepted e) = none := by
  cases h with
  | silent _ he _ => exact he.wordless
  | declined _ _ he => exact he.wordless
  | _ => rfl

theorem Fails.wordless (h : Fails o e state closure) :
    chargeWord (.accepted e) = none := by
  cases h with
  | refused he => exact he.wordless
  | overdue he => cases he <;> rfl
  | departed => rfl

/-! ## The stages of the moves -/

section

variable (h : ChargeAt o q)
include h

theorem ChargeAt.congr (hp : o'.payment = o.payment)
    (hs : o.state ≠ .deliveredUnpaid) (hs' : o'.state ≠ .deliveredUnpaid) : ChargeAt o' q := by
  simpa only [ChargeAt, hp, hs, hs'] using h

theorem ChargeAt.awaits (hp : o.payment = .none) (hs : o.state ≠ .deliveredUnpaid) : q = .fresh ∨ q = .cleared := by
  simpa only [ChargeAt, hp, if_neg hs] using h

theorem ChargeAt.reopened (hp : o.payment = .none) (hs : o.state = .deliveredUnpaid) : q = .reopened := by
  simpa only [ChargeAt, hp, if_pos hs] using h

theorem ChargeAt.verified (hp : o.payment = .verified) : q = .cleared := by simpa only [ChargeAt, hp] using h

theorem ChargeAt.charging (hp : o.payment = .settling ∨ o.payment = .outcomeUnknown) : q = .charging := by
  rcases hp with hp | hp <;> simpa only [ChargeAt, hp] using h

theorem ChargeAt.captured (hp : o.payment = .settled) : q = .captured := by simpa only [ChargeAt, hp] using h

theorem ChargeAt.repeated (hs : o.state ≠ .deliveredUnpaid) :
    ∃ q', chargeProtocol.next q .repeated = some q' ∧ ChargeAt o q' := by
  cases hp : o.payment with
  | none =>
    have hat : ∀ {q'}, q' = .fresh ∨ q' = .cleared → ChargeAt o q' := fun hq' => by
      simpa only [ChargeAt, hp, if_neg hs] using hq'
    rcases h.awaits hp hs with rfl | rfl
    · exact ⟨.fresh, rfl, hat (.inl rfl)⟩
    · exact ⟨.cleared, rfl, hat (.inr rfl)⟩
  | verified => exact ⟨q, by rw [h.verified hp]; rfl, h⟩
  | settling => exact ⟨q, by rw [h.charging (.inl hp)]; rfl, h⟩
  | outcomeUnknown => exact ⟨q, by rw [h.charging (.inr hp)]; rfl, h⟩
  | settled => exact ⟨q, by rw [h.captured hp]; rfl, h⟩
  | settleFailed =>
    have hq : q = .refused ∨ q = .reopened := by simpa only [ChargeAt, hp] using h
    refine ⟨.reopened, ?_, by simp only [ChargeAt, hp, or_true]⟩
    rcases hq with rfl | rfl <;> rfl

end

theorem charge_silent (hw : chargeWord (.accepted e) = none) (hx : .executePayment ∉ fx) (h : ChargeAt o' q) :
    ∃ q', (chargeProtocol.along chargeWord).reads q (Reactor.stepLog e fx) = some q' ∧ ChargeAt o' q' :=
  ⟨q, by rw [reads_step_quiet hx, chargeProtocol.along_next_none hw], h⟩

theorem charge_spoken (word : ChargeWord) (q' : ChargeStage) (hw : chargeWord (.accepted e) = some word)
    (hx : .executePayment ∉ fx) (hq : chargeProtocol.next q word = some q') (h : ChargeAt o' q') :
    ∃ q', (chargeProtocol.along chargeWord).reads q (Reactor.stepLog e fx) = some q' ∧ ChargeAt o' q' :=
  ⟨q', by rw [reads_step_quiet hx, chargeProtocol.along_next_some hw, hq], h⟩

theorem charge_executed (hp : o'.payment = .settling)
    (hq : e.kind = .paymentVerified ∧ (q = .fresh ∨ q = .cleared ∨ q = .reopened) ∨
      chargeWord (.accepted e) = none ∧ q = .cleared) :
    ∃ q', (chargeProtocol.along chargeWord).reads q (Reactor.stepLog e [.executePayment]) = some q' ∧
      ChargeAt o' q' := by
  refine ⟨.charging, ?_, by simp [ChargeAt, hp]⟩
  rcases hq with ⟨he, hq⟩ | ⟨hw, rfl⟩
  · exact reads_execution he hq
  · rw [Reactor.stepLog, Monitor.reads_cons, chargeProtocol.along_next_none hw]
    rfl

/-- **The step lemma.** Every move of a sound order is read by the protocol of a charge. -/
theorem Move.charge (hb : o.Sound) (hm : Move o e o' fx) (h : ChargeAt o q) :
    ∃ q', (chargeProtocol.along chargeWord).reads q (Reactor.stepLog e fx) = some q' ∧ ChargeAt o' q' := by
  cases hm with
  | @stands ev fx hidle hfx =>
    cases ev with
    | purchaseRepeated t =>
      obtain ⟨q', hq', h'⟩ := h.repeated hidle.1
      exact charge_spoken .repeated q' rfl hfx.quiet hq' h'
    | quoteAnswered | quoteSilent | paymentVerified | paymentSettled | paymentSettleFailed
    | confirmationDispatched | refundSettled => cases hidle
    | _ => exact charge_silent rfl hfx.quiet h
  | quotes hs _ => exact charge_silent rfl (effectsOnQuoted_quiet _) (h.congr rfl (by simp [hs]) nofun)
  | sellsOnSilence hs he =>
    exact charge_silent he.wordless (effectsOnQuoted_quiet _) (h.congr rfl (by simp [hs]) nofun)
  | closes hc hfx =>
    have hs : o.state ≠ .deliveredUnpaid := fun hs => by simpa [hs] using hc.early
    exact charge_silent hc.wordless hfx.quiet (h.congr rfl hs (by cases hc <;> nofun))
  | asks hs _ _ => exact charge_silent rfl nofun (h.congr rfl (by simp [hs]) nofun)
  | asksAgain hs => exact charge_silent rfl nofun (h.congr rfl (by simp [hs]) (by simp [hs]))
  | confirms hs => exact charge_silent rfl (by simp [acceptanceLanded]) (h.congr rfl (by simp [hs]) nofun)
  | asksOnceMore hs => exact charge_silent rfl (by simp) h
  | clears hs hp _ =>
    have hq := h.awaits hp (by rcases hs with hs | hs <;> simp [hs])
    exact charge_spoken .verified .cleared rfl (by simp) (by rcases hq with rfl | rfl <;> rfl) rfl
  | charges hs hp _ =>
    have hq := h.awaits hp (by rcases hs with hs | hs <;> simp [hs])
    exact charge_executed rfl (.inl ⟨rfl, hq.imp_right .inl⟩)
  | charged _ hp => exact charge_spoken .settled .captured rfl (by simp) (h.charging (.inl hp) ▸ rfl) rfl
  | chargeFails _ hp hfx =>
    exact charge_spoken .failed .refused rfl hfx.quiet (h.charging (.inl hp) ▸ rfl) (.inl rfl)
  | chargeSilent _ hp hfx => exact charge_silent rfl hfx.quiet (h.charging (.inl hp))
  | dispatches hs => exact charge_silent rfl nofun (h.congr rfl (by simp [hs]) nofun)
  | dispatchesAgain hs => exact charge_silent rfl nofun (h.congr rfl (by simp [hs]) (by simp [hs]))
  | accepts hh hd =>
    exact charge_silent rfl (by simp [acceptanceLanded]) (h.congr hh.payment (hh.state_ne (by decide)) (by simp [hd]))
  | redelivers hh hd =>
    exact charge_silent rfl (by simp) (h.congr hh.payment (hh.state_ne (by decide)) (by simp [hd]))
  | delivers hh _ he hx =>
    exact charge_silent he.wordless (by simp [hx.quiet]) (h.congr hh.payment (hh.state_ne (by decide)) nofun)
  | fulfils hh hm =>
    have hp : o.payment = .verified := by rw [hh.paidStage hb, hm]; rfl
    exact charge_executed rfl (.inr ⟨rfl, h.verified hp⟩)
  | fails hh _ hf =>
    exact charge_silent hf.wordless nofun (h.congr hh.payment (hh.state_ne (by decide)) (by cases hf <;> nofun))
  | owes hh _ hf hx =>
    exact charge_silent hf.wordless (by simp [debtEffects, hx.quiet])
      (h.congr hh.payment (hh.state_ne (by decide)) nofun)
  | settles hs =>
    have hp := hb.fulfilled_settling hs
    exact charge_spoken .settled .captured rfl (by simp) (h.charging (.inl hp) ▸ rfl) rfl
  | staysUnpaid hs =>
    have hp := hb.fulfilled_settling hs
    exact charge_spoken .failed .refused rfl (by simp) (h.charging (.inl hp) ▸ rfl) (.inl rfl)
  | fulfilledSilent hs => exact charge_silent rfl (by simp) (h.charging (.inl (hb.fulfilled_settling hs)))
  | repeats hs hp =>
    have hq : q = .refused ∨ q = .reopened := by
      rcases hp with hp | hp
      · exact .inr (h.reopened hp hs)
      · simpa only [ChargeAt, hp] using h
    exact charge_spoken .repeated .reopened rfl (by simp)
      (by rcases hq with rfl | rfl <;> rfl) (by simp [ChargeAt, hs])
  | retries hs hp => exact charge_executed rfl (.inl ⟨rfl, .inr (.inr (h.reopened hp hs))⟩)
  | settlesLate hs hp => exact charge_spoken .settled .captured rfl (by simp) (h.charging hp ▸ rfl) rfl
  | failsAgain hs hp => exact charge_spoken .failed .refused rfl (by simp) (h.charging hp ▸ rfl) (.inl rfl)
  | unpaidSilent hs hp => exact charge_silent rfl nofun (h.charging (.inl hp))
  | holds hs _ _ => exact charge_silent rfl (by simp) (h.congr rfl (by simp [hs]) (by simp [hs]))
  | reclaims hs _ =>
    have hq : q = .fresh ∨ q = .cleared := by
      rcases hb.expired_uncharged hs with hp | hp
      · exact .inr (h.verified hp)
      · exact h.awaits hp (by simp [hs])
    exact charge_spoken .repeated q rfl (by simp)
      (by rcases hq with rfl | rfl <;> rfl) (by simpa [ChargeAt, hs] using hq)
  | revives hs _ hp =>
    exact charge_executed rfl (.inl ⟨rfl, (h.awaits hp (by simp [hs])).imp_right .inl⟩)
  | closesDebt hs he hx => exact charge_silent he.wordless (by simp [hx.quiet]) (h.congr rfl (by simp [hs]) nofun)
  | refunds hs => exact charge_silent rfl nofun (h.congr rfl (by simp [hs]) nofun)
  | owesAfterAll hs hc =>
    obtain ⟨hp, -⟩ := hb.unaccounted hs hc
    exact charge_spoken .settled .captured rfl (by simp [debtEffects]) (h.charging (.inr hp) ▸ rfl) rfl
  | provesUnpaid hs hc =>
    obtain ⟨hp, -⟩ := hb.unaccounted hs hc
    exact charge_spoken .failed .refused rfl nofun (h.charging (.inr hp) ▸ rfl) (.inl rfl)

/-! ## The runs -/

theorem Birth.charge (birth : Birth) :
    (chargeProtocol.along chargeWord).reads .fresh (birth.effects.map .emitted) = some .fresh ∧
      ChargeAt birth.order .fresh := by
  refine ⟨reads_quiet fun hm => ?_, ?_⟩
  · rcases birth.effects_quiet _ hm with h | h | h <;> cases h
  · rcases birth.shape with ⟨h, -⟩ | ⟨h, -⟩ <;> rw [h] <;> exact .inl rfl

/-- **The log of every run is a word of the protocol**, read to where its charge stands. -/
theorem Birth.log_charge (birth : Birth) (events : List OrderEvent) :
    ∃ q, (chargeProtocol.along chargeWord).reads .fresh (birth.log events) = some q ∧
      ChargeAt (birth.run events) q := by
  refine birth.log_keeps
    (P := fun o log => ∃ q, (chargeProtocol.along chargeWord).reads .fresh log = some q ∧
      ChargeAt o q) ?_ ⟨.fresh, birth.charge⟩ events
  rintro o e o' fx log hb ⟨q, hq, hat⟩ hm
  obtain ⟨q', hq', hat'⟩ := hm.charge hb hat
  refine ⟨q', ?_, hat'⟩
  rw [Monitor.reads_append, hq]
  exact hq'

theorem ChargeAt.charging_iff (h : ChargeAt o q) :
    q = .charging ↔ o.payment = .settling ∨ o.payment = .outcomeUnknown := by
  refine ⟨fun hq => ?_, h.charging⟩
  unfold ChargeAt at h
  split at h <;> simp_all

theorem chargeWord_execute : chargeWord b = some .execute ↔ b = .emitted .executePayment := by
  cases b with
  | accepted e => simp only [chargeWord]; split <;> simp
  | emitted f => cases f <;> simp [chargeWord]

/-- The words said about a charge by accepted events, and the kinds of the events that say them. -/
inductive SaidBy : ChargeWord → OrderEventKind → Prop
  | verified : SaidBy .verified .paymentVerified
  | settled : SaidBy .settled .paymentSettled
  | failed : SaidBy .failed .paymentSettleFailed
  | repeated : SaidBy .repeated .purchaseRepeated

theorem chargeWord_accepted {word : ChargeWord} {kind : OrderEventKind} (h : SaidBy word kind) :
    chargeWord b = some word ↔ acceptedKind b = some kind := by
  cases b with
  | accepted e => cases h <;> simp only [chargeWord, acceptedKind] <;> split <;> simp_all
  | emitted f => cases h <;> cases f <;> simp [chargeWord, acceptedKind]

theorem said_execute (log : List OrderEntry) :
    said chargeWord .execute log = (emissions log).count .executePayment := by
  rw [said, List.count, emissions, countP_filterMap]
  refine countP_congr fun b _ => ?_
  rw [decide_eq_true_iff, chargeWord_execute]
  cases b <;> simp [emission]

theorem said_accepted {word : ChargeWord} {kind : OrderEventKind} (h : SaidBy word kind)
    (log : List OrderEntry) : said chargeWord word log = (acceptedKinds log).count kind := by
  rw [said, List.count, acceptedKinds, countP_filterMap]
  refine countP_congr fun b _ => ?_
  rw [decide_eq_true_iff, chargeWord_accepted h]
  cases acceptedKind b <;> simp

theorem sublist_later {kind : OrderEventKind} {l w₁ w₂ : List OrderEventKind} (h : l.Sublist w₂) :
    (kind :: l).Sublist (w₁ ++ kind :: w₂) :=
  (h.cons_cons kind).trans (sublist_append_right w₁ _)

end

/-- **No double charge.** At every point of every run the executions asked for exceed the answers to
them by one while the payment is being executed or its outcome is not known, and by none otherwise;
none is asked for after the payment settled; between any two of them lie an accepted failure, an
accepted repeat of the purchase and an accepted verification, in this order; and there are no more of
them than accepted verifications. -/
theorem Birth.never_charged_twice (birth : Birth) (events : List OrderEvent) :
    ((emissions (birth.log events)).count .executePayment =
        (acceptedKinds (birth.log events)).count .paymentSettled +
          (acceptedKinds (birth.log events)).count .paymentSettleFailed +
          if (birth.run events).payment = .settling ∨ (birth.run events).payment = .outcomeUnknown
          then 1 else 0) ∧
      (∀ before after, birth.log events = before ++ .emitted .executePayment :: after →
        .paymentSettled ∉ acceptedKinds before) ∧
      (∀ before between after,
        birth.log events = before ++ .emitted .executePayment :: (between ++ .emitted .executePayment :: after) →
        [.paymentSettleFailed, .purchaseRepeated, .paymentVerified].Sublist (acceptedKinds between)) ∧
      (emissions (birth.log events)).count .executePayment ≤
        (acceptedKinds (birth.log events)).count .paymentVerified := by
  obtain ⟨q, hq, hat⟩ := birth.log_charge events
  refine ⟨?_, fun before after hlog hset => ?_, fun before between after hlog => ?_, ?_⟩
  · rw [← said_execute, ← said_accepted .settled, ← said_accepted .failed, Spec.inFlight_count hq]
    simp only [hat.charging_iff]
  · obtain ⟨x, hx, hk⟩ := List.mem_filterMap.1 hset
    rw [hlog] at hq
    exact Spec.settled_last hq (chargeWord_execute.2 rfl) hx ((chargeWord_accepted .settled).2 hk)
  · rw [hlog] at hq
    obtain ⟨w₁, a, w₂, b, w₃, c, w₄, rfl, ha, hb, hc⟩ :=
      Spec.executions_apart hq (chargeWord_execute.2 rfl) (chargeWord_execute.2 rfl)
    rw [chargeWord_accepted .failed] at ha
    rw [chargeWord_accepted .repeated] at hb
    rw [chargeWord_accepted .verified] at hc
    simp only [acceptedKinds_append, acceptedKinds_cons ha, acceptedKinds_cons hb, acceptedKinds_cons hc]
    exact sublist_later (sublist_later (sublist_later (List.nil_sublist _)))
  · rw [← said_execute, ← said_accepted .verified]
    exact Spec.executions_le_verified hq

end Coinslot
