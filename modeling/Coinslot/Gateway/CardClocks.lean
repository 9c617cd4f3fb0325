import Coinslot.Gateway.Cards
import Coinslot.Gateway.Runner
import Coinslot.Orders.Promises

/-!
# The clocks a card names

A card names how long its merchant takes to deliver, in whole seconds (`CardSchema`,
`packages/contracts/src/card.ts`), and the deployment how long everything else may take, in milliseconds
(`apps/gateway/src/config.ts`). Both become the policy of the card's orders (`policyFor`,
`apps/gateway/src/app/runtime.ts`), the policy is added to instants of the order, and what comes out is handed to the
queue as the wait before a reminder (`arm`), which makes a date of it (`remind`,
`apps/gateway/src/adapters/pgboss/queue.ts`). A date reaches no further than `maxDate`, and what lies beyond cannot be
printed: the queue throws, and the transition that was to start the clock is not written down.

Neither the schema nor the configuration knows of that bound. The clocks of a card can be kept whenever they are
started exactly where none of the waits that may run on its orders reaches beyond it from the last instant of the year
9999 (`clocks_kept_iff`).

Numbers are integers here. Those of the source are floating-point, which are exact up to `maxSafeInteger`, and
`maxDate` is less: a sum that is in range is exact, and one that is not is rounded to one that is not.
-/

namespace Coinslot

open List

/-! ## What a card and a deployment say -/

/-- A card, as far as its clocks are concerned. -/
structure CardClocks where
  fulfillment : FulfillmentMode
  priceCheck : Option PriceSource
  confirmDeadlineSeconds : Option Int
  fulfillDeadlineSeconds : Option Int
  deriving DecidableEq, Repr

/-- The source's word for a mode. -/
def FulfillmentMode.word : FulfillmentMode → String
  | .sync => "sync"
  | .async => "async"
  | .confirm => "confirm"

/-- A whole positive number, as far as the wire carries them. -/
def isPositiveInt (n : Int) : Bool := 0 < n && n ≤ maxSafeInteger

namespace CardClocks

variable (card : CardClocks)

/-- What the rules between the fields find (`superRefine`). -/
def refine : List Problem :=
  if card.fulfillment = .confirm then
    [⟨["fulfillment"], "custom",
      "a card cannot be published as \"confirm\" during the pilot: the confirmation request has no shape on the " ++
        "wire yet, so a handler could not tell one from a paid order"⟩]
  else
    (if card.confirmDeadlineSeconds.isSome then
      [⟨["confirm_deadline_seconds"], "custom",
        s!"only a card with fulfillment \"confirm\" is asked to confirm; this one is \"{card.fulfillment.word}\""⟩]
    else []) ++
    if card.fulfillment = .sync ∧ card.fulfillDeadlineSeconds.isSome then
      [⟨["fulfill_deadline_seconds"], "custom",
        "a synchronous card delivers inside the system-wide response budget and sets no delivery deadline; " ++
          "\"async\" and \"confirm\" do"⟩]
    else []

def accepted : Bool :=
  card.confirmDeadlineSeconds.all isPositiveInt && card.fulfillDeadlineSeconds.all isPositiveInt && card.refine = []

/-- Whether the merchant is asked what the product costs (`priceCheckOf`). -/
def priceCheckOf : PriceCheck := if card.priceCheck.isNone then .none else .merchant

end CardClocks

/-- The waits a deployment is configured with. -/
structure DeadlineConfig where
  quoteResponseMs : Int
  quoteTtlMs : Int
  settleResponseMs : Int
  syncResponseMs : Int
  syncBudgetMs : Int
  paymentAfterConfirmationMs : Int
  defaultConfirmationResponseMs : Int
  defaultAsyncFulfillmentMs : Int
  deriving DecidableEq, Repr

namespace DeadlineConfig

variable (config : DeadlineConfig)

/-- What is wrong between the numbers. -/
def arithmeticProblems : List String :=
  let worstCase := config.syncResponseMs + config.settleResponseMs
  if worstCase > config.syncBudgetMs then
    [s!"the synchronous budget is {config.syncBudgetMs}ms and the answer ({config.syncResponseMs}ms) and " ++
      s!"the charge ({config.settleResponseMs}ms) inside it come to {worstCase}ms"]
  else []

/-- Whether the configuration is loaded: every wait is above zero, and nothing is wrong between them. -/
def loads : Bool :=
  [config.quoteResponseMs, config.quoteTtlMs, config.settleResponseMs, config.syncResponseMs, config.syncBudgetMs,
      config.paymentAfterConfirmationMs, config.defaultConfirmationResponseMs,
      config.defaultAsyncFulfillmentMs].all (0 < ·) &&
    config.arithmeticProblems = []

end DeadlineConfig

/-- The policy the orders of a card live under. -/
def policyFor (card : CardClocks) (config : DeadlineConfig) (redelivery : RedeliveryPolicy) : OrderPolicy :=
  { deadlines :=
      { quoteResponseMs := config.quoteResponseMs
        quoteTtlMs := config.quoteTtlMs
        settleResponseMs := config.settleResponseMs
        syncResponseMs := config.syncResponseMs
        paymentAfterConfirmationMs := config.paymentAfterConfirmationMs
        confirmationResponseMs :=
          match card.confirmDeadlineSeconds with
          | none => config.defaultConfirmationResponseMs
          | some seconds => seconds * 1000
        asyncFulfillmentMs :=
          match card.fulfillDeadlineSeconds with
          | none => config.defaultAsyncFulfillmentMs
          | some seconds => seconds * 1000 }
    redelivery := redelivery }

/-! ## Dates -/

/-- The last instant a date can represent. -/
def maxDate : Int := 8640000000000000

def lastInstant : Int := 253402300799999

/-- Whether a number is an instant that a date can represent. -/
def IsDate (t : Int) : Prop := -maxDate ≤ t ∧ t ≤ maxDate

instance (t : Int) : Decidable (IsDate t) := inferInstanceAs (Decidable (_ ∧ _))

/-- When a reminder is to be delivered that is asked for now (`remind`). -/
def startAfter (now afterMs : Int) : Int := now + max afterMs 0

/-! ## The clocks of a card's orders -/

/-- An order of a card. -/
structure Birth.OfCard (birth : Birth) (card : CardClocks) (config : DeadlineConfig) : Prop where
  mode : birth.input.mode = modeOf card.fulfillment
  policy : birth.input.policy = policyFor card config birth.input.policy.redelivery
  asks : birth.input.priceCheck = card.priceCheckOf

/-- Whether an order was opened, and everything happened to it, between two instants. -/
def Birth.Within (birth : Birth) (events : List OrderEvent) (lo hi : Int) : Prop :=
  (lo ≤ birth.input.at ∧ birth.input.at ≤ hi) ∧ ∀ e ∈ events, lo ≤ e.at ∧ e.at ≤ hi

/-- Whether every deadline of a card's orders can be kept: its instant is one, and a reminder of it is to be delivered
at one, whenever it is asked for between the last event and the end of the year 9999; and a charge that is out may be
reported as settled. -/
def ClocksKept (card : CardClocks) (config : DeadlineConfig) : Prop :=
  ∀ (birth : Birth) (events : List OrderEvent), birth.OfCard card config → birth.Within events 0 lastInstant →
    (∀ d ∈ deadlines (birth.run events), IsDate d.at) ∧
      (∀ (before : List Deadline) (orderId : String) (clock now : Int) (reminder : Reminder) (afterMs : Int),
        birth.Within events 0 clock → clock ≤ now → now ≤ lastInstant →
        (reminder, afterMs) ∈ arm before (deadlines (birth.run events)) orderId clock →
        IsDate (startAfter now afterMs)) ∧
      ((birth.run events).payment = .settling →
        ∀ t, ∃ o fx, transition (birth.run events) (.state (.paymentSettled t)) = .ok (o, fx))

/-- The kinds of the clocks that may run on an order of a card. -/
def CardClocks.kinds (card : CardClocks) : List DeadlineKind :=
  (if card.priceCheckOf = .merchant then [.quoteResponse] else []) ++
    [.quoteExpiry, .settleResponse, (modeOf card.fulfillment).settle.goodsDeadline]

section Runs

variable {o o' : Order} {e : OrderEvent} {fx : List Effect} {d : Deadline} {kind : DeadlineKind} {t lo hi : Int}
  {card : CardClocks} {config : DeadlineConfig} {birth : Birth} {events : List OrderEvent}

theorem Move.clockBase_eq (hm : Move o e o' fx) (h : clockBase o' kind = some t) :
    clockBase o kind = some t ∨ t = e.at := by
  cases hm with
  | quotes _ _ => cases kind <;> first | exact .inl h | exact .inr (Option.some.inj h).symm
  | sellsOnSilence _ hsilent =>
    have hat : ∀ t', QuoteSilence t' e → t' = e.at := by rintro t' (_ | _) <;> rfl
    cases kind <;> first | exact .inl h | exact .inr ((Option.some.inj h).symm.trans (hat _ hsilent))
  | asks _ _ _ | confirms _ | clears _ _ _ | charged _ _ | charges _ _ _ | retries _ _ | revives _ _ _ =>
    cases kind <;> first | exact .inl h | exact .inr (Option.some.inj h).symm
  | fulfils hh _ =>
    rw [hh.eq] at h
    cases kind <;> first | exact .inl h | exact .inr (Option.some.inj h).symm
  | accepts hh _ | redelivers hh _ | delivers hh _ _ _ | fails hh _ _ | owes hh _ _ _ =>
    rw [hh.eq] at h
    cases kind <;> exact .inl h
  | _ => cases kind <;> exact .inl h

/-- An order of a mode without a confirmation round never comes to one, and no order comes back to where its price is
asked. -/
theorem Move.states (hm : Move o e o' fx) (hmode : o.mode.needsConfirmation = false)
    (h : o.state ≠ .awaitingConfirmation ∧ o.state ≠ .confirmed) :
    (o'.state = .created → o.state = .created) ∧ o'.state ≠ .awaitingConfirmation ∧ o'.state ≠ .confirmed := by
  cases hm with
  | stands _ _ | charges _ _ _ | repeats _ _ | reclaims _ _ | holds _ _ _ | failsAgain _ _ | unpaidSilent _ _
  | provesUnpaid _ _ | dispatchesAgain _ => exact ⟨id, h⟩
  | asks _ _ hconfirms => cases hmode.symm.trans hconfirms
  | asksAgain hs | confirms hs | asksOnceMore hs => exact absurd hs h.1
  | closes hc _ => cases hc <;> exact ⟨nofun, nofun, nofun⟩
  | fails _ _ hf => cases hf <;> exact ⟨nofun, nofun, nofun⟩
  | accepts _ hs | redelivers _ hs =>
    exact ⟨fun hc => (nomatch hs.symm.trans hc), fun hc => (nomatch hs.symm.trans hc),
      fun hc => (nomatch hs.symm.trans hc)⟩
  | _ => exact ⟨nofun, nofun, nofun⟩

/-- What holds of the clocks of an order of a card, whose instants lie between two. -/
structure Order.Timed (card : CardClocks) (policy : OrderPolicy) (lo hi : Int) (o : Order) : Prop where
  mode : o.mode = modeOf card.fulfillment
  policy : o.policy = policy
  asked : o.state = .created → card.priceCheckOf = .merchant
  unconfirmed : o.state ≠ .awaitingConfirmation ∧ o.state ≠ .confirmed
  instants : ∀ kind t, clockBase o kind = some t → lo ≤ t ∧ t ≤ hi

theorem Order.Timed.move {policy : OrderPolicy} (h : o.Timed card policy lo hi)
    (hmode : (modeOf card.fulfillment).needsConfirmation = false) (hat : lo ≤ e.at ∧ e.at ≤ hi)
    (hm : Move o e o' fx) : o'.Timed card policy lo hi := by
  obtain ⟨-, hsame, hpolicy, -⟩ := hm.keeps
  obtain ⟨hcreated, hunconfirmed⟩ := hm.states (by rw [h.mode]; exact hmode) h.unconfirmed
  refine ⟨hsame.trans h.mode, hpolicy.trans h.policy, fun hs => h.asked (hcreated hs), hunconfirmed,
    fun kind t ht => ?_⟩
  rcases hm.clockBase_eq ht with hbase | rfl
  · exact h.instants kind t hbase
  · exact hat

theorem Birth.timed (hof : birth.OfCard card config) (h : lo ≤ birth.input.at ∧ birth.input.at ≤ hi) :
    birth.order.Timed card birth.input.policy lo hi := by
  have hbase {order : Order} {kind : DeadlineKind} {t : Int} (hthere : order.timestamps = (bareOrder birth.input).timestamps ∨
      order.timestamps = { (bareOrder birth.input).timestamps with quotedAt := some birth.input.at })
      (ht : clockBase order kind = some t) : lo ≤ t ∧ t ≤ hi := by
    rcases hthere with hthere | hthere <;> cases kind <;> simp only [clockBase, hthere] at ht <;> cases ht <;> exact h
  obtain ⟨input, order, effects, haccepted⟩ := birth
  have hasks : input.priceCheck = card.priceCheckOf := hof.asks
  unfold createOrder at haccepted
  split at haccepted
  · cases haccepted
  · cases haccepted
  · split at haccepted
    · next hmerchant =>
      cases haccepted
      refine ⟨hof.mode, rfl, fun _ => hasks.symm.trans hmerchant, ⟨?_, ?_⟩, fun _ _ => hbase (.inl rfl)⟩ <;>
        exact OrderState.noConfusion
    · cases haccepted
      refine ⟨hof.mode, rfl, fun hs => OrderState.noConfusion hs, ⟨?_, ?_⟩, fun _ _ => hbase (.inr rfl)⟩ <;>
        exact OrderState.noConfusion

theorem Birth.run_timed (hmode : (modeOf card.fulfillment).needsConfirmation = false) (hof : birth.OfCard card config)
    (h : birth.Within events lo hi) :
    (birth.run events).Sound ∧ (birth.run events).Timed card birth.input.policy lo hi :=
  orderMachine.run_induction_meeting (P := fun o => o.Sound ∧ o.Timed card birth.input.policy lo hi)
    (A := fun _ e => lo ≤ e.at ∧ e.at ≤ hi)
    (fun hs hat hstep =>
      have hm := transition_move hs.1 hstep
      ⟨hm.sound hs.1, hs.2.move hmode hat hm⟩)
    ⟨birth.sound, birth.timed hof h.1⟩ events
    (orderMachine.meets_of_mem (fun e he _ => h.2 e he) _)

theorem Birth.deadline_of_card (hmode : (modeOf card.fulfillment).needsConfirmation = false)
    (hof : birth.OfCard card config) (h : birth.Within events lo hi) (hd : d ∈ deadlines (birth.run events)) :
    d.kind ∈ card.kinds ∧ ∃ t, lo ≤ t ∧ t ≤ hi ∧ d.at = t + clockMs birth.input.policy.deadlines d.kind := by
  obtain ⟨hsound, htimed⟩ := Birth.run_timed hmode hof h
  have hrunning := (mem_deadlines hsound).1 hd
  obtain ⟨-, hat⟩ := hrunning.place
  obtain ⟨t, hbase, ht⟩ := Option.map_eq_some_iff.1 hat
  obtain ⟨hlo, hhi⟩ := htimed.instants _ t hbase
  refine ⟨?_, t, hlo, hhi, by rw [← htimed.policy]; exact ht.symm⟩
  unfold CardClocks.kinds
  cases hrunning with
  | settle _ _ => simp
  | price hs _ => simp [htimed.asked hs]
  | quote _ _ _ => simp
  | confirmation hs _ _ => exact absurd hs htimed.unconfirmed.1
  | payment hs _ _ => exact absurd hs htimed.unconfirmed.2
  | goods _ _ _ => simp [htimed.mode]

/-! ## The bound -/

def CardClocks.waitMs (card : CardClocks) (config : DeadlineConfig) (kind : DeadlineKind) : Int :=
  clockMs (policyFor card config ⟨0, 0, 0, 0⟩).deadlines kind

theorem clockMs_of_card (hof : birth.OfCard card config) (kind : DeadlineKind) :
    clockMs birth.input.policy.deadlines kind = card.waitMs config kind := by
  rw [hof.policy]
  rfl

theorem CardClocks.accepted_unconfirmed (h : card.accepted = true) :
    (modeOf card.fulfillment).needsConfirmation = false := by
  cases hmode : card.fulfillment with
  | sync => rfl
  | async => rfl
  | confirm => simp [accepted, refine, hmode] at h

theorem waitMs_pos (hcard : card.accepted = true) (hconfig : config.loads = true) (kind : DeadlineKind) :
    0 < card.waitMs config kind := by
  simp only [DeadlineConfig.loads, all_cons, all_nil, Bool.and_true, Bool.and_eq_true, decide_eq_true_eq] at hconfig
  simp only [CardClocks.accepted, Bool.and_eq_true, Option.all_eq_true, isPositiveInt, decide_eq_true_eq] at hcard
  obtain ⟨⟨hconfirm, hfulfill⟩, -⟩ := hcard
  unfold CardClocks.waitMs clockMs policyFor
  cases kind with
  | confirmationResponse =>
    dsimp only
    split
    · omega
    · next seconds hseconds => have := hconfirm seconds hseconds; omega
  | asyncFulfillment =>
    dsimp only
    split
    · omega
    · next seconds hseconds => have := hfulfill seconds hseconds; omega
  | _ => dsimp only; omega

theorem Order.Sound.takes_settlement (hb : o.Sound) (hp : o.payment = .settling) (t : Int) :
    ∃ o' fx, transition o (.state (.paymentSettled t)) = .ok (o', fx) := by
  have hanswers : transition o (.state (.paymentSettled t)) = fromState o (.paymentSettled t) := by
    simp [transition, allowedWhileSettling]
  rw [hanswers]
  by_cases hf : o.state = .fulfilled
  · exact ⟨_, _, by simp only [fromState, hf, fromFulfilled, hp, if_pos]; rfl⟩
  · by_cases hu : o.state = .deliveredUnpaid
    · exact ⟨_, _, by simp only [fromState, hu, fromDeliveredUnpaid, hp, true_or, if_pos]; rfl⟩
    · rcases hb.charging hp hf hu with hs | hs
      · exact ⟨_, _, by simp only [fromState, hs, fromQuoted, hp, if_pos]; rfl⟩
      · exact ⟨_, _, by simp only [fromState, hs, fromConfirmed, hp, if_pos]; rfl⟩

theorem clocksKept_of_bound (hcard : card.accepted = true) (hconfig : config.loads = true)
    (hbound : ∀ kind ∈ card.kinds, lastInstant + card.waitMs config kind ≤ maxDate) : ClocksKept card config := by
  have hmode := card.accepted_unconfirmed hcard
  have hrange : 0 ≤ lastInstant ∧ lastInstant ≤ maxDate := by decide
  intro birth events hof hwithin
  refine ⟨?_, ?_, fun hsettling t => (birth.run_sound events).takes_settlement hsettling t⟩
  · intro d hd
    obtain ⟨hkind, t, hlo, hhi, hat⟩ := Birth.deadline_of_card hmode hof hwithin hd
    rw [clockMs_of_card hof] at hat
    have hmost := hbound d.kind hkind
    have hleast := waitMs_pos hcard hconfig d.kind
    unfold IsDate
    omega
  · intro before orderId clock now reminder afterMs hclock hnow hlast harmed
    obtain ⟨d, hd, heq⟩ := mem_map.1 harmed
    cases heq
    obtain ⟨hkind, t, hlo, hhi, hat⟩ := Birth.deadline_of_card hmode hof hclock (mem_of_mem_filter hd)
    rw [clockMs_of_card hof] at hat
    have hmost := hbound d.kind hkind
    have hleast := waitMs_pos hcard hconfig d.kind
    have hclock := hclock.1
    unfold IsDate startAfter
    omega

/-! ## Runs that start each clock at the last instant -/

section

variable (card : CardClocks)

/-- An order of a card, opened at the last instant. -/
def lastInput (config : DeadlineConfig) : CreateOrderInput where
  id := "ord_1"
  «at» := lastInstant
  mode := modeOf card.fulfillment
  policy := policyFor card config ⟨0, 0, 0, 0⟩
  priceCheck := card.priceCheckOf
  cardPrice := ⟨"1.00", "USDC", lastInstant⟩
  test := false
  selling := .open

/-- The price is named, where it is asked for. -/
def toQuoted : List OrderEvent :=
  if card.priceCheckOf = .merchant then [.state (.quoteAnswered lastInstant (some ⟨"1.00", "USDC", lastInstant⟩))]
  else []

/-- What happens at the last instant before a clock of a kind is started. -/
def startingAtLast : DeadlineKind → List OrderEvent
  | .quoteExpiry => toQuoted card
  | .settleResponse =>
    toQuoted card ++ [.state (.paymentVerified lastInstant)] ++
      match (modeOf card.fulfillment).settle with
      | .onPurchase => []
      | .afterFulfillment => [.state (.orderDispatched lastInstant), .state (.handlerDelivered lastInstant)]
  | .syncResponse => toQuoted card ++ [.state (.paymentVerified lastInstant)]
  | .asyncFulfillment =>
    toQuoted card ++ [.state (.paymentVerified lastInstant), .state (.paymentSettled lastInstant)]
  | _ => []

end

theorem startingAtLast_at {e : OrderEvent} (he : e ∈ startingAtLast card kind) : e.at = lastInstant := by
  have hquoted (he : e ∈ toQuoted card) : e.at = lastInstant := by
    unfold toQuoted at he
    split at he
    · rw [mem_singleton.1 he]; rfl
    · cases he
  cases kind with
  | quoteExpiry => exact hquoted he
  | settleResponse =>
    simp only [startingAtLast] at he
    split at he <;> simp at he <;> rcases he with he | he <;> grind [OrderEvent.at, StateEvent.at]
  | syncResponse =>
    simp only [startingAtLast, mem_append, mem_singleton] at he
    rcases he with he | rfl
    · exact hquoted he
    · rfl
  | asyncFulfillment =>
    simp only [startingAtLast, mem_append, mem_cons, not_mem_nil, or_false] at he
    rcases he with he | rfl | rfl
    · exact hquoted he
    · rfl
    · rfl
  | _ => cases he

theorem starts_at_last (hcard : card.accepted = true) (config : DeadlineConfig) {kind : DeadlineKind}
    (hkind : kind ∈ card.kinds) : ∃ (birth : Birth) (events : List OrderEvent), birth.OfCard card config ∧
      birth.Within events lastInstant lastInstant ∧
      ⟨kind, lastInstant + card.waitMs config kind⟩ ∈ deadlines (birth.run events) := by
  have hmode := card.accepted_unconfirmed hcard
  have hwithin (birth : Birth) (hat : birth.input.at = lastInstant) :
      birth.Within (startingAtLast card kind) lastInstant lastInstant := by
    refine ⟨by omega, fun e he => ?_⟩
    rw [startingAtLast_at he]
    omega
  obtain ⟨fulfillment, priceCheck, confirmSeconds, fulfillSeconds⟩ := card
  cases fulfillment with
  | confirm => cases hmode
  | sync =>
    cases priceCheck with
    | none =>
      refine ⟨⟨lastInput _ config, _, _, rfl⟩, startingAtLast _ kind, ⟨rfl, rfl, rfl⟩, hwithin _ rfl, ?_⟩
      have hkinds : kind = .quoteExpiry ∨ kind = .settleResponse ∨ kind = .syncResponse := by
        simpa [CardClocks.kinds, CardClocks.priceCheckOf, modeOf, SettleTiming.goodsDeadline] using hkind
      rcases hkinds with rfl | rfl | rfl <;> exact mem_singleton_self _
    | some source =>
      refine ⟨⟨lastInput _ config, _, _, rfl⟩, startingAtLast _ kind, ⟨rfl, rfl, rfl⟩, hwithin _ rfl, ?_⟩
      have hkinds : kind = .quoteResponse ∨ kind = .quoteExpiry ∨ kind = .settleResponse ∨ kind = .syncResponse := by
        simpa [CardClocks.kinds, CardClocks.priceCheckOf, modeOf, SettleTiming.goodsDeadline] using hkind
      rcases hkinds with rfl | rfl | rfl | rfl <;> exact mem_singleton_self _
  | async =>
    cases priceCheck with
    | none =>
      refine ⟨⟨lastInput _ config, _, _, rfl⟩, startingAtLast _ kind, ⟨rfl, rfl, rfl⟩, hwithin _ rfl, ?_⟩
      have hkinds : kind = .quoteExpiry ∨ kind = .settleResponse ∨ kind = .asyncFulfillment := by
        simpa [CardClocks.kinds, CardClocks.priceCheckOf, modeOf, SettleTiming.goodsDeadline] using hkind
      rcases hkinds with rfl | rfl | rfl <;> exact mem_singleton_self _
    | some source =>
      refine ⟨⟨lastInput _ config, _, _, rfl⟩, startingAtLast _ kind, ⟨rfl, rfl, rfl⟩, hwithin _ rfl, ?_⟩
      have hkinds : kind = .quoteResponse ∨ kind = .quoteExpiry ∨ kind = .settleResponse ∨ kind = .asyncFulfillment := by
        simpa [CardClocks.kinds, CardClocks.priceCheckOf, modeOf, SettleTiming.goodsDeadline] using hkind
      rcases hkinds with rfl | rfl | rfl | rfl <;> exact mem_singleton_self _

theorem bound_of_clocksKept (hcard : card.accepted = true) (h : ClocksKept card config) :
    ∀ kind ∈ card.kinds, lastInstant + card.waitMs config kind ≤ maxDate := by
  intro kind hkind
  obtain ⟨birth, events, hof, hwithin, hd⟩ := starts_at_last hcard config hkind
  have hrange : (0 : Int) ≤ lastInstant := by decide
  have hlater : birth.Within events 0 lastInstant :=
    ⟨⟨Int.le_trans hrange hwithin.1.1, hwithin.1.2⟩,
      fun e he => ⟨Int.le_trans hrange (hwithin.2 e he).1, (hwithin.2 e he).2⟩⟩
  exact ((h birth events hof hlater).1 _ hd).2

/-- **The clocks of a card can be kept** exactly where every wait that may run on its orders leads from the last instant
of the year 9999 to a date. -/
theorem clocks_kept_iff (card : CardClocks) (config : DeadlineConfig) (hcard : card.accepted = true)
    (hconfig : config.loads = true) :
    ClocksKept card config ↔ ∀ kind ∈ card.kinds, lastInstant + card.waitMs config kind ≤ maxDate :=
  ⟨bound_of_clocksKept hcard, clocksKept_of_bound hcard hconfig⟩

/-- The waits a deployment is configured with that says nothing of them. -/
def defaultDeadlines : DeadlineConfig where
  quoteResponseMs := 5000
  quoteTtlMs := 30000
  settleResponseMs := 2000
  syncResponseMs := 8000
  syncBudgetMs := 10000
  paymentAfterConfirmationMs := 300000
  defaultConfirmationResponseMs := 3600000
  defaultAsyncFulfillmentMs := 86400000

def deliveredWithin (seconds : Int) : CardClocks := ⟨.async, some .handler, none, some seconds⟩

/-- A week can be kept. -/
theorem week_kept : ClocksKept (deliveredWithin 604800) defaultDeadlines ↔
    ∀ kind ∈ (deliveredWithin 604800).kinds,
      lastInstant + (deliveredWithin 604800).waitMs defaultDeadlines kind ≤ maxDate :=
  clocks_kept_iff (deliveredWithin 604800) defaultDeadlines (by decide +kernel) (by decide +kernel)

/-- The longest wait that a card may name cannot. -/
theorem longest_wait_not_kept : ¬ ∀ (card : CardClocks) (config : DeadlineConfig), card.accepted = true →
    config.loads = true → ClocksKept card config := by
  intro h
  have hkept : ClocksKept (deliveredWithin maxSafeInteger) defaultDeadlines :=
    h _ _ (by decide +kernel) (by decide +kernel)
  have hbound := bound_of_clocksKept (by decide +kernel) hkept .asyncFulfillment (by decide +kernel)
  exact absurd hbound (by decide +kernel)

end Runs

end Coinslot
