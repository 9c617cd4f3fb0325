import Coinslot.Gateway.Commits
import Coinslot.Gateway.Ownership
import Coinslot.Orders.Goods

/-!
# Effects are carried out once

The effects of a committed transition go two ways: some are written down with the order, in one store
write, and the others are handed to the run of effects that comes after it. `EffectStep` says once what
a step does to the orders, the receipts and the streams; from it come the receipt of every delivered
order, and the count of the envelopes that hand an order over.
-/

namespace Coinslot

open List Dict

variable {Doc : Type} {R : Runtime} {w w' : World Doc} {out : List (Notice Doc)}

/-! ## What is written with an order -/

/-- What an effect is written down as. -/
def WrittenAs (record : StoredOrder Doc) (before : Order) (t : Int) (effect : Effect)
    (write : WithTheOrder Doc) : Prop :=
  ∃ id, writeWithTheOrder record before id t effect = .ok (some write)

variable {record : StoredOrder Doc} {before : Order} {id : String} {t : Int} {effect : Effect}

theorem writeWithTheOrder_some {write : Option (WithTheOrder Doc)}
    (h : writeWithTheOrder record before id t effect = .ok write) : write.isSome = !carriedOutAfterwards effect := by
  cases effect with
  | dispatchOrder | redeliverOrder _ _ =>
    cases hr : orderEnvelope record id t with
    | error words => simp [writeWithTheOrder, hr, Except.map] at h
    | ok envelope =>
      simp only [writeWithTheOrder, hr, Except.map, Except.ok.injEq] at h
      subst h
      rfl
  | emitMerchantEvent event =>
    cases hr : eventEnvelope record event id t with
    | error words => simp [writeWithTheOrder, hr, Except.map] at h
    | ok envelope =>
      simp only [writeWithTheOrder, hr, Except.map, Except.ok.injEq] at h
      subst h
      rfl
  | issueReceipt =>
    cases hr : receiptFor record before id t with
    | error words => simp [writeWithTheOrder, hr, Except.map] at h
    | ok receipt =>
      simp only [writeWithTheOrder, hr, Except.map, Except.ok.injEq] at h
      subst h
      rfl
  | requestQuote | verifyPayment | executePayment | invitePayment | dispatchConfirmationRequest
  | releaseGoodsToAgent | holdFulfillment | markRefundDue _ | answerMerchant _ =>
    simp only [writeWithTheOrder, carriedOutAfterwards, if_true, Except.ok.injEq] at h
    subst h
    rfl

variable {fresh : Nat → String} {effects : List Effect} {alongside : List (WithTheOrder Doc)}

/-- **What lands with an order.** One write for each effect that is not carried out afterwards, in
their order. -/
theorem writesWithTheOrder_written (h : writesWithTheOrder record before t fresh effects = .ok alongside) :
    List.Forall₂ (WrittenAs record before t)
      (effects.filter fun effect => !carriedOutAfterwards effect) alongside := by
  induction effects generalizing fresh alongside with
  | nil =>
    cases h
    exact .nil
  | cons effect rest ih =>
    rw [writesWithTheOrder] at h
    split at h
    · cases h
    · next write hw =>
      cases hr : writesWithTheOrder record before t (fun n => fresh (n + 1)) rest with
      | error words => simp [hr, Except.map] at h
      | ok writes =>
        simp only [hr, Except.map, Except.ok.injEq] at h
        subst h
        have hsome := writeWithTheOrder_some hw
        cases write with
        | none =>
          rw [filter_cons_of_neg (by simpa using hsome)]
          exact ih hr
        | some write =>
          rw [filter_cons_of_pos (by simpa using hsome)]
          exact .cons ⟨_, hw⟩ (ih hr)

/-! ## Envelopes that hand an order over -/

/-- An effect that asks for the order to be handed to its merchant. -/
def Effect.handsOver : Effect → Bool
  | .dispatchOrder | .redeliverOrder .. => true
  | _ => false

/-- A write that puts an order on its merchant's stream. -/
def WithTheOrder.handsOver : WithTheOrder Doc → Bool
  | .envelope _ (.order ..) _ => true
  | _ => false

/-- An order put on its merchant's stream. -/
def Notice.handsOver : Notice Doc → Bool
  | .published _ (.order ..) _ => true
  | _ => false

theorem WrittenAs.handsOver {write : WithTheOrder Doc} (h : WrittenAs record before t effect write) :
    write.handsOver = effect.handsOver := by
  obtain ⟨id, h⟩ := h
  cases effect with
  | dispatchOrder | redeliverOrder _ _ =>
    unfold writeWithTheOrder orderEnvelope at h
    cases hd : orderDocumentOf record with
    | error words => simp [hd, Except.map] at h
    | ok document =>
      simp only [hd, Except.map, Except.ok.injEq, Option.some.injEq] at h
      subst h
      rfl
  | emitMerchantEvent event =>
    unfold writeWithTheOrder eventEnvelope at h
    cases event with
    | refundDue =>
      dsimp only at h
      split at h
      · cases h
      · cases hr : refundReasonOf record.order with
        | error words => simp [hr, Except.map] at h
        | ok reason =>
          simp only [hr, Except.map, Except.ok.injEq, Option.some.injEq] at h
          subst h
          rfl
    | unpaidAfterConfirmation | paymentFailedAfterDelivery =>
      simp only [Except.map, Except.ok.injEq, Option.some.injEq] at h
      subst h
      rfl
  | issueReceipt =>
    cases hr : receiptFor record before id t with
    | error words => simp [writeWithTheOrder, hr, Except.map] at h
    | ok receipt =>
      simp only [writeWithTheOrder, hr, Except.map, Except.ok.injEq, Option.some.injEq] at h
      subst h
      rfl
  | requestQuote | verifyPayment | executePayment | invitePayment | dispatchConfirmationRequest
  | releaseGoodsToAgent | holdFulfillment | markRefundDue _ | answerMerchant _ =>
    simp [writeWithTheOrder, carriedOutAfterwards] at h

theorem countP_handsOver_alongside (h : writesWithTheOrder record before t fresh effects = .ok alongside) :
    alongside.countP WithTheOrder.handsOver = effects.countP Effect.handsOver := by
  have hwritten := writesWithTheOrder_written h
  have hsame : ∀ {es : List Effect} {ws : List (WithTheOrder Doc)},
      List.Forall₂ (WrittenAs record before t) es ws →
      ws.countP WithTheOrder.handsOver = es.countP Effect.handsOver := by
    intro es ws hes
    induction hes with
    | nil => rfl
    | cons hw _ ih => rw [countP_cons, countP_cons, ih, hw.handsOver]
  rw [hsame hwritten, countP_filter]
  refine countP_congr fun effect _ => ?_
  cases effect <;> simp [Effect.handsOver, carriedOutAfterwards]

theorem countP_handsOver_publishings (alongside : List (WithTheOrder Doc)) :
    (publishings alongside).countP Notice.handsOver = alongside.countP WithTheOrder.handsOver := by
  unfold publishings
  rw [countP_filterMap]
  refine countP_congr fun write _ => ?_
  cases write with
  | envelope merchantId envelope afterMs => cases envelope <;> rfl
  | receipt merchantId receipt => rfl

variable {fx : List Effect}

theorem OnlyWords.handsOver (h : OnlyWords fx) : fx.countP Effect.handsOver = 0 := by
  refine countP_eq_zero.2 fun f hf => ?_
  rcases h f hf with ⟨a, rfl⟩ | rfl <;> simp [Effect.handsOver]

theorem effectsOnQuoted_handsOver (mode : OrderMode) : (effectsOnQuoted mode).countP Effect.handsOver = 0 := by
  refine countP_eq_zero.2 fun f hf => ?_
  rcases mem_effectsOnQuoted hf with rfl | rfl <;> simp [Effect.handsOver]

variable {o o' : Order} {e : OrderEvent} {merchantId : String} {events : List StateEvent} {notice : Notice Doc}

/-- **When an order is handed over.** A transition asks for a hand-over where the order comes into its
merchant's queue, or on a silence, and then for one. -/
theorem Move.hands (hm : Move o e o' fx) :
    fx.countP Effect.handsOver = 0 ∨ fx.countP Effect.handsOver = 1 ∧
      (o'.state = .paid ∧ o.state ∈ [.quoted, .confirmed] ∨ e.kind = .handlerUndelivered) := by
  have after {fx gx : List Effect} (h : OnlyAnswers gx) (hfx : fx.countP Effect.handsOver = 0) :
      (fx ++ gx).countP Effect.handsOver = 0 := by
    rw [countP_append, hfx, h.words.handsOver]
  cases hm with
  | stands _ hfx => exact .inl hfx.words.handsOver
  | closes _ hfx | chargeFails _ _ hfx | chargeSilent _ _ hfx => exact .inl hfx.handsOver
  | quotes _ _ | sellsOnSilence _ _ => exact .inl (effectsOnQuoted_handsOver _)
  | delivers _ _ _ hx | closesDebt _ _ hx => exact .inl (after hx rfl)
  | owes _ _ _ hx => exact .inl (after hx rfl)
  | clears hs _ _ | charged hs _ => exact .inr ⟨rfl, .inl ⟨rfl, by simpa using hs⟩⟩
  | asksOnceMore _ | redelivers _ _ => exact .inr ⟨rfl, .inr rfl⟩
  | asks _ _ _ | asksAgain _ | confirms _ | charges _ _ _ | dispatches _ | dispatchesAgain _
  | accepts _ _ | fulfils _ _ | fails _ _ _ | settles _ | staysUnpaid _ | fulfilledSilent _
  | repeats _ _ | retries _ _ | settlesLate _ _ | failsAgain _ _ | unpaidSilent _ _ | holds _ _ _
  | reclaims _ _ | revives _ _ _ | refunds _ | owesAfterAll _ _ | provesUnpaid _ _ => exact .inl rfl

theorem Move.handsOver (hm : Move o e o' fx) : fx.countP Effect.handsOver ≤ 1 := by
  rcases hm.hands with h | ⟨h, -⟩ <;> omega

/-! ## Receipts -/

theorem Store.putReceipts_receipts (store : Store Doc) (writes : List (WithTheOrder Doc))
    (h : store.receipts.has id = true) : (store.putReceipts writes).receipts.has id := by
  induction writes generalizing store with
  | nil => exact h
  | cons write rest ih =>
    cases write with
    | envelope merchantId envelope afterMs => exact ih store h
    | receipt merchantId receipt =>
      refine ih (store.putReceipt merchantId receipt) ?_
      simp only [Dict.has, Store.putReceipt, get_set] at h ⊢
      split
      · rfl
      · exact h

theorem Store.putReceipts_receipt {store : Store Doc} {writes : List (WithTheOrder Doc)} {receipt : Receipt}
    (h : .receipt merchantId receipt ∈ writes) :
    (store.putReceipts writes).receipts.has receipt.orderId := by
  induction writes generalizing store with
  | nil => cases h
  | cons write rest ih =>
    cases h with
    | head =>
      refine Store.putReceipts_receipts (store.putReceipt merchantId receipt) rest ?_
      simp only [Dict.has, Store.putReceipt, get_set_self, Option.isSome_some]
    | tail _ hrest =>
      cases write with
      | envelope _ _ _ => exact ih hrest
      | receipt _ _ => exact ih hrest

@[simp] theorem Store.saveOrder_receipts (store : Store Doc) (id : String)
    (found : StoredOrder Doc) (save : Option (StoredOrder Doc)) :
    (store.saveOrder id found save).receipts = store.receipts := by
  unfold Store.saveOrder
  split <;> rfl

theorem exists_written (h : List.Forall₂ (WrittenAs record before t) effects alongside) (he : effect ∈ effects) :
    ∃ write ∈ alongside, WrittenAs record before t effect write := by
  induction h with
  | nil => cases he
  | cons hw _ ih =>
    cases he with
    | head => exact ⟨_, mem_cons_self .., hw⟩
    | tail _ hrest =>
      obtain ⟨write, hm, hw'⟩ := ih hrest
      exact ⟨write, mem_cons_of_mem _ hm, hw'⟩

theorem exists_asked {write : WithTheOrder Doc}
    (h : List.Forall₂ (WrittenAs record before t) effects alongside) (hw : write ∈ alongside) :
    ∃ effect ∈ effects, WrittenAs record before t effect write := by
  induction h with
  | nil => cases hw
  | cons he _ ih =>
    cases hw with
    | head => exact ⟨_, mem_cons_self .., he⟩
    | tail _ hrest =>
      obtain ⟨effect, hm, he'⟩ := ih hrest
      exact ⟨effect, mem_cons_of_mem _ hm, he'⟩

theorem WrittenAs.document {envelopeId : String} {at' : Timestamp} {document : OrderDocument Doc}
    {afterMs : Option Rat}
    (h : WrittenAs record before t effect (.envelope merchantId (.order envelopeId at' document) afterMs)) :
    document.id = record.order.id := by
  obtain ⟨id, h⟩ := h
  cases effect with
  | dispatchOrder | redeliverOrder _ _ =>
    unfold writeWithTheOrder orderEnvelope orderDocumentOf at h
    cases hp : salePriceOf record with
    | none => simp [hp, Except.map] at h
    | some price =>
      simp only [hp, Except.map, Except.ok.injEq, Option.some.injEq, WithTheOrder.envelope.injEq,
        WorkerEnvelope.order.injEq] at h
      rw [← h.2.1.2.2]
  | emitMerchantEvent event =>
    unfold writeWithTheOrder eventEnvelope at h
    cases event with
    | refundDue =>
      dsimp only at h
      split at h
      · simp [Except.map] at h
      · cases hr : refundReasonOf record.order <;> simp [hr, Except.map] at h
    | unpaidAfterConfirmation | paymentFailedAfterDelivery => simp [Except.map] at h
  | issueReceipt => cases hr : receiptFor record before id t <;> simp [writeWithTheOrder, hr, Except.map] at h
  | requestQuote | verifyPayment | executePayment | invitePayment | dispatchConfirmationRequest
  | releaseGoodsToAgent | holdFulfillment | markRefundDue _ | answerMerchant _ =>
    simp [writeWithTheOrder, carriedOutAfterwards] at h

theorem receiptFor_orderId {receipt : Receipt} (h : receiptFor record before id t = .ok receipt) :
    receipt.orderId = record.order.id := by
  unfold receiptFor at h
  split at h
  · cases h
  · cases ho : receiptOutcomeOf record.order with
    | error words => simp [ho, Except.map] at h
    | ok outcome =>
      simp only [ho, Except.map, Except.ok.injEq] at h
      rw [← h]

theorem issueReceipt_written (h : writesWithTheOrder record before t fresh effects = .ok alongside)
    (hi : .issueReceipt ∈ effects) : ∃ receipt, .receipt record.merchantId receipt ∈ alongside ∧
      receipt.orderId = record.order.id := by
  obtain ⟨write, hm, id, hwrite⟩ := exists_written (writesWithTheOrder_written h) (mem_filter.2 ⟨hi, rfl⟩)
  cases hr : receiptFor record before id t with
  | error words => simp [writeWithTheOrder, hr, Except.map] at hwrite
  | ok receipt =>
    simp only [writeWithTheOrder, hr, Except.map, Except.ok.injEq, Option.some.injEq] at hwrite
    subst hwrite
    exact ⟨receipt, hm, receiptFor_orderId hr⟩

/-! ## What a step does with the effects -/

/-- An action that may put an order on its merchant's stream again. -/
def Action.putsBack : Action Doc → Bool
  | .sweepOpen .. => true
  | _ => false

def World.Runs (w : World Doc) (frame : Frame Doc) : Prop :=
  ∃ k frames, w.tasks.get k = some ⟨none, frame :: frames⟩

/-- What a step does to the orders and the receipts, with what it lets out. -/
inductive EffectStep (R : Runtime) (w w' : World Doc) (out : List (Notice Doc)) :
    Action Doc → Prop
  | stands {action : Action Doc} : w'.store.orders = w.store.orders →
      w'.store.receipts = w.store.receipts → (∀ notice ∈ out, notice.Quiet) →
      EffectStep R w w' out action
  | receipts {k : Nat} {id : String} {sweep : Sweep Doc} {record : StoredOrder Doc}
      {rest : List (StoredOrder Doc)} {receipt : Receipt} : w.sweeps.get k = some sweep →
      sweep.unreceipted = some (record :: rest) →
      w'.store = w.store.putReceipt record.merchantId receipt → (∀ notice ∈ out, notice.Quiet) →
      EffectStep R w w' out (.sweepReceipt k id)
  | puts {k : Nat} {holdsOrder : Bool} {id : String} : w'.store = w.store →
      (∀ notice ∈ out, notice.Quiet ∨ ∃ m e a, notice = .published m e a) →
      EffectStep R w w' out (.sweepOpen k holdsOrder id)
  | opens {action : Action Doc} {now : Int} (sale : Sale Doc) :
      w.store.orderById sale.record.order.id = none →
      w'.store = { w.store with
        orders := w.store.orders.set sale.record.order.id sale.record } →
      out = remindings (arm [] (deadlines sale.record.order) sale.record.order.id now) →
      EffectStep R w w' out action
  | notes {action : Action Doc} {id : String} {word : PaymentWord} {found : StoredOrder Doc} :
      w.store.orderById id = some found →
      w'.store = { w.store with orders := w.store.orders.set id (alsoSaid R.config found word) } →
      (∀ notice ∈ out, notice.Quiet) → EffectStep R w w' out action
  | applies {action : Action Doc} {call : ApplyCall Doc} {found : StoredOrder Doc} {order : Order}
      {effects : List Effect} {alongside : List (WithTheOrder Doc)} {now : Int}
      {fresh : Nat → String} : action.putsBack = false →
      w.store.orderById call.orderId = some found →
      transition found.order call.event = .ok (order, effects) →
      writesWithTheOrder (appliedRecord R.config call found order effects) found.order call.event.at
        fresh effects = .ok alongside →
      w'.store = (w.writes call.orderId found (appliedRecord R.config call found order effects)
        alongside).store →
      out = remindings (arm (deadlines found.order) (deadlines order) call.orderId now) ++
        publishings alongside ++ [.applied call (some (.decided (.ok (order, effects))
          (appliedRecord R.config call found order effects)))] →
      w'.Runs ⟨appliedRecord R.config call found order effects,
        effects.filter carriedOutAfterwards, call.event.at⟩ → EffectStep R w w' out action
  | takes {k task : Nat} {t now : Int} {fresh : Nat → String} {cut : Option Nat} {call : PayCall}
      {charge : Charge} {owner : String} {found : StoredOrder Doc} {order : Order}
      {effects : List Effect} {alongside : List (WithTheOrder Doc)} :
      w.store.orderById call.orderId = some found →
      found.paidBy = none ∨ found.paidBy = some owner →
      eventsForVerifiedPayment found.order t ≠ [] →
      driven found.order (eventsForVerifiedPayment found.order t) = .ok (order, effects) →
      writesWithTheOrder (presentedRecord R.config (call.presentation charge owner) t found order)
        found.order t fresh effects = .ok alongside →
      w'.store = (w.writes call.orderId found
        (presentedRecord R.config (call.presentation charge owner) t found order) alongside).store →
      out = remindings (arm (deadlines found.order) (deadlines order) call.orderId now) ++
        publishings alongside ++ [.presented (call.presentation charge owner)
          (some (.took (presentedRecord R.config (call.presentation charge owner) t found order)
            effects))] →
      w'.tasks.get task =
        some ⟨none, [⟨presentedRecord R.config (call.presentation charge owner) t found order,
          runnableEffects effects, t⟩]⟩ → EffectStep R w w' out (.present k task t now fresh cut)

variable {action : Action Doc}

theorem World.Applies.effectStep {call : ApplyCall Doc} {now : Int}
    {came : World Doc × List (Notice Doc) × Aftermath Doc}
    (h : w.Applies R call now fresh came) (hback : action.putsBack = false)
    (hstore : w'.store = came.1.store) (hruns : ∀ frame, came.2.2 = .runs frame → w'.Runs frame) :
    EffectStep R w w' came.2.1 action := by
  have same {out : List (Notice Doc)} (hs : w'.store = w.store)
      (hq : ∀ notice ∈ out, notice.Quiet) : EffectStep R w w' out action :=
    .stands (by rw [hs]) (by rw [hs]) hq
  cases h with
  | lost hq => exact same hstore hq
  | notFound _ => exact same hstore (quiet_singleton trivial)
  | movedOn _ _ _ => exact same hstore (quiet_singleton trivial)
  | refused _ _ _ => exact same hstore (quiet_singleton trivial)
  | moved hf _ _ ht hw => exact .applies hback hf ht hw hstore rfl (hruns _ rfl)

theorem World.carryOut_quiet (w : World Doc) (k : Nat) (frame : Frame Doc) (rest : List (Frame Doc)) :
    (w.carryOut k frame rest).1.store = w.store ∧ ∀ notice ∈ (w.carryOut k frame rest).2, notice.Quiet := by
  unfold World.carryOut
  split
  · have hwake : ∀ notice ∈ wakeTheAgent frame.record, notice.Quiet := by
      intro notice hn
      unfold wakeTheAgent at hn
      split at hn
      · cases hn
      · split at hn
        · rw [mem_singleton.1 hn]
          trivial
        · cases hn
    refine ⟨?_, hwake⟩
    unfold World.returns
    split <;> rfl
  · split
    · split <;> exact ⟨rfl, quiet_singleton trivial⟩
    all_goals first
      | exact ⟨rfl, quiet_singleton trivial⟩
      | exact ⟨rfl, quiet_nil⟩

theorem World.settle_effectStep (w : World Doc) (k : Nat) (frame : Frame Doc)
    (rest : List (Frame Doc)) (outcome : SettleOutcome) (now : Int) (fresh : Nat → String) (cut : Option Nat) :
    EffectStep R w (w.settle R k frame rest outcome now fresh cut).1
      (w.settle R k frame rest outcome now fresh cut).2 (.settle k outcome now fresh cut) := by
  unfold World.settle
  split
  · next call _ =>
    have happlies := w.apply_applies R call now fresh cut
    generalize w.apply R call now fresh cut = came at happlies
    dsimp only
    split
    · next hr => exact happlies.effectStep rfl rfl fun f hf => by cases hr.symm.trans hf
    · next hr => exact happlies.effectStep rfl rfl fun f hf => by cases hr.symm.trans hf
    · next inner hr =>
      refine happlies.effectStep rfl rfl fun f hf => ⟨k, frame :: rest, ?_⟩
      cases hr.symm.trans hf
      exact get_set_self _ _ _
  · next orderId word _ =>
    have hholds := w.hold_holdsTo cut orderId none (writeDownDecision R.config word)
    generalize w.hold cut orderId none (writeDownDecision R.config word) = came at hholds
    have same {w' : World Doc} {out : List (Notice Doc)} (hs : w'.store = w.store)
        (hq : ∀ notice ∈ out, notice.Quiet) :
        EffectStep R w w' out (.settle k outcome now fresh cut) :=
      .stands (by rw [hs]) (by rw [hs]) hq
    cases hholds with
    | cutBefore => exact same rfl quiet_nil
    | cutOff _ => exact same rfl (quiet_remindings _)
    | notFound _ => exact same rfl quiet_nil
    | threw _ _ ho => cases ho
    | decided hf _ hc =>
      cases hc
      exact .notes hf rfl quiet_nil

theorem World.create_effectStep (w : World Doc) (task : Nat) (sale : Sale Doc) (now : Int)
    (fresh : Nat → String) (cut : Option Nat) :
    EffectStep R w (w.create task sale now fresh cut).1 (w.create task sale now fresh cut).2
      (.create task sale now fresh cut) := by
  have same {w' : World Doc} {out : List (Notice Doc)} (hs : w'.store = w.store)
      (hq : ∀ notice ∈ out, notice.Quiet) :
      EffectStep R w w' out (.create task sale now fresh cut) :=
    .stands (by rw [hs]) (by rw [hs]) hq
  unfold World.create
  dsimp only
  split
  · exact same rfl (quiet_singleton trivial)
  · exact same rfl (quiet_remindings _)
  · split
    · exact same rfl (quiet_append (quiet_remindings _) (quiet_singleton trivial))
    · split
      · exact same rfl (quiet_append (quiet_remindings _) (quiet_singleton trivial))
      · next store ha =>
        unfold Store.addOrder at ha
        split at ha
        · cases ha
        · next hn =>
          cases ha
          have hnew : w.store.orderById sale.record.order.id = none := by
            simpa [Dict.has, Store.orderById] using hn
          exact .opens sale hnew rfl rfl
    · exact same rfl (quiet_append (quiet_remindings _) (quiet_singleton trivial))

/-- **The step, for the effects.** -/
theorem World.Performs.effectStep {came : World Doc × List (Notice Doc)}
    (h : w.Performs R action came) : EffectStep R w came.1 came.2 action := by
  have same {w' : World Doc} {out : List (Notice Doc)} {action : Action Doc}
      (ho : w'.store.orders = w.store.orders) (hr : w'.store.receipts = w.store.receipts)
      (hq : ∀ notice ∈ out, notice.Quiet) : EffectStep R w w' out action :=
    .stands ho hr hq
  cases h with
  | create task sale now fresh cut _ => exact w.create_effectStep task sale now fresh cut
  | apply task call now fresh cut _ =>
    have happlies := w.apply_applies R call now fresh cut
    unfold World.applyAlone
    generalize w.apply R call now fresh cut = came at happlies
    dsimp only
    split
    · next frame hr =>
      refine happlies.effectStep rfl rfl fun f hf => ⟨task, [], ?_⟩
      cases hr.symm.trans hf
      exact get_set_self _ _ _
    · next hr => exact happlies.effectStep rfl rfl fun f hf => by cases hr.symm.trans hf
    · next hr => exact happlies.effectStep rfl rfl fun f hf => by cases hr.symm.trans hf
  | pay k orderId payment fingerprint =>
    unfold World.pay
    split
    · exact same rfl rfl (quiet_singleton trivial)
    · split
      · exact same rfl rfl (quiet_singleton trivial)
      · exact same rfl rfl quiet_nil
  | readWallet _ _ => exact same rfl rfl quiet_nil
  | verify _ _ outcome => cases outcome <;> exact same rfl rfl (quiet_singleton trivial)
  | @claim k call charge owner _ _ now =>
    have horders := w.store.claimPayment_orders call.fingerprint call.orderId now
    have hreceipts : (w.store.claimPayment call.fingerprint call.orderId now).1.receipts =
        w.store.receipts := by
      unfold Store.claimPayment
      split <;> rfl
    unfold World.claim
    dsimp only
    split <;> exact same horders hreceipts quiet_nil
  | readHolder _ _ => exact same rfl rfl (quiet_singleton trivial)
  | @present k call charge owner _ _ task t now fresh cut _ =>
    have hpresents := w.present_presents R k task call charge owner t now fresh cut
    generalize w.present R k task call charge owner t now fresh cut = came at hpresents
    cases hpresents with
    | hangsUp hq => exact same rfl rfl hq
    | turnsAway hq => exact same rfl rfl hq
    | took hf hown hne hd hw => exact .takes hf hown hne hd hw rfl rfl (get_set_self _ _ _)
  | @release k call answer _ _ =>
    have horders := w.store.releaseClaim_orders call.fingerprint call.orderId
    have hreceipts : (w.store.releaseClaim call.fingerprint call.orderId).receipts =
        w.store.receipts := by
      unfold Store.releaseClaim
      split <;> rfl
    exact same horders hreceipts (quiet_singleton trivial)
  | hangUp k => exact same rfl rfl quiet_nil
  | @carryOut k frame rest _ =>
    obtain ⟨hstore, hq⟩ := w.carryOut_quiet k frame rest
    exact same (by rw [hstore]) (by rw [hstore]) hq
  | @settle k _ frame rest _ outcome now fresh cut => exact w.settle_effectStep k frame rest outcome now fresh cut
  | drop k => exact same rfl rfl quiet_nil
  | movePayoutWallet merchantId wallet => exact same rfl rfl quiet_nil
  | forgetClaims instant => exact same rfl rfl quiet_nil
  | beginSweep k now =>
    unfold World.beginSweep
    split <;> exact same rfl rfl quiet_nil
  | @sweepOpen k sweep record rest _ _ holdsOrder id =>
    unfold World.sweepOpen
    split
    · exact same rfl rfl (quiet_singleton trivial)
    · next envelope _ =>
      refine .puts rfl fun notice hn => ?_
      rcases mem_append.1 hn with hn | hn
      · obtain ⟨e, -, rfl⟩ := mem_map.1 (Option.toList_map .. ▸ hn)
        exact .inr ⟨_, _, _, rfl⟩
      · exact .inl (quiet_remindings _ _ hn)
  | sweepDelivered _ _ => exact same rfl rfl quiet_nil
  | @sweepReceipt k sweep record rest hsweep hun id =>
    unfold World.sweepReceipt
    split
    · exact same rfl rfl (quiet_singleton trivial)
    · exact .receipts hsweep hun.2 rfl quiet_nil
  | stopSweep k => exact same rfl rfl quiet_nil
  | loseTheName => exact same rfl rfl quiet_nil

/-! ## Every delivered order has its receipt -/

/-- Every stored order that is delivered has a receipt. -/
def World.Receipted (w : World Doc) : Prop :=
  ∀ id record, w.store.orderById id = some record → record.order.state = .delivered →
    w.store.receipts.has id = true

theorem driven_receipted (hb : o.Sound) (hs : o.state ≠ .delivered) (h : driven o events = .ok (o', fx))
    (hd : o'.state = .delivered) : .issueReceipt ∈ fx := by
  induction events generalizing o fx with
  | nil =>
    cases h
    exact absurd hd hs
  | cons event rest ih =>
    obtain ⟨mid, fx₁, fx₂, hm, hrest, rfl⟩ := driven_cons h
    have hmv := transition_move hb hm
    cases hmv.handover hb with
    | hands extra _ _ _ _ => simp
    | keeps _ hiff => exact mem_append_right _ (ih (hmv.sound hb) (fun hmid => hs (hiff.1 hmid)) hrest)

theorem World.Receipted.writes {found next : StoredOrder Doc} (h : w.Receipted)
    (alongside : List (WithTheOrder Doc)) (hf : w.store.orderById id = some found)
    (hm : next.merchantId = found.merchantId) (hid : next.order.id = id)
    (hreceipt : next.order.state = .delivered → found.order.state = .delivered ∨
      ∃ merchantId receipt, .receipt merchantId receipt ∈ alongside ∧ receipt.orderId = next.order.id) :
    (w.writes id found next alongside).Receipted := by
  have hsave : (w.writes id found next alongside).store.orders = w.store.orders.set id next :=
    w.store.saveOrder_orders alongside id hm
  have hold : ∀ {key}, w.store.receipts.has key = true →
      (w.writes id found next alongside).store.receipts.has key = true := by
    intro key hk
    show ((w.store.putReceipts alongside).saveOrder id found (some next)).receipts.has key = true
    exact w.store.putReceipts_receipts alongside hk
  intro key record hr hs
  rcases orderById_of_set hsave hr with ⟨rfl, rfl⟩ | hbefore
  · rcases hreceipt hs with hd | ⟨merchantId, receipt, hin, hkey⟩
    · exact hold (h _ _ hf hd)
    · show ((w.store.putReceipts alongside).saveOrder key found (some record)).receipts.has key = true
      rw [Store.saveOrder_receipts, ← hid, ← hkey]
      exact Store.putReceipts_receipt hin
  · exact hold (h _ _ hbefore hs)

/-- **A delivered order is receipted in the write that delivers it.** -/
theorem World.Receipted.step {log : GatewayLog Doc} (h : w.Receipted)
    (hw : w.Owned log) (hstep : EffectStep R w w' out action) : w'.Receipted := by
  cases hstep with
  | stands ho hr _ =>
    intro id record hrec hs
    rw [hr]
    exact h _ _ ((orderById_eq ho id).symm.trans hrec) hs
  | @receipts _ _ _ swept _ receipt _ _ hs _ =>
    intro id record hrec hst
    rw [hs] at hrec ⊢
    exact w.store.putReceipts_receipts [.receipt swept.merchantId receipt] (h _ _ hrec hst)
  | puts hs _ =>
    intro id record hrec hst
    rw [hs] at hrec ⊢
    exact h _ _ hrec hst
  | opens sale hn hs _ =>
    intro id record hrec hst
    have ho : w'.store.orders = w.store.orders.set sale.record.order.id sale.record := by rw [hs]
    rcases orderById_of_set ho hrec with ⟨rfl, rfl⟩ | hbefore
    · exact absurd hst sale.birth.undelivered
    · rw [hs]
      exact h _ _ hbefore hst
  | @notes _ key word found hf hs _ =>
    intro id record hrec hst
    have ho : w'.store.orders = w.store.orders.set key (alsoSaid R.config found word) := by rw [hs]
    rw [hs]
    rcases orderById_of_set ho hrec with ⟨rfl, rfl⟩ | hbefore
    · exact h _ _ hf hst
    · exact h _ _ hbefore hst
  | @applies _ call found order effects alongside now fresh _ hf ht hwrites hs _ _ =>
    obtain ⟨hid, hb, -⟩ := hw.records hf
    have hmv := transition_move hb ht
    have hw' := h.writes alongside hf
      (appliedRecord_merchantId R.config found order call effects) (hmv.keeps.1.trans hid) fun hd => by
        cases hmv.handover hb with
        | hands extra _ _ _ _ =>
          obtain ⟨receipt, hin, hkey⟩ := issueReceipt_written hwrites (by simp)
          exact .inr ⟨_, receipt, hin, hkey⟩
        | keeps _ hiff => exact .inl (hiff.1 hd)
    intro id record
    rw [hs]
    exact hw' id record
  | @takes k task t now fresh cut call charge owner found order effects alongside hf hown hne hd
      hwrites hs _ _ =>
    obtain ⟨hid, hb, -⟩ := hw.records hf
    have hfol := presentedRecord_follows R.config (call.presentation charge owner) hb hown hd
    have hw' := h.writes alongside hf
      (presentedRecord_merchantId R.config found order (call.presentation charge owner) t)
      (hfol.1.id.trans hid) fun hdel => by
        by_cases hwas : found.order.state = .delivered
        · exact .inl hwas
        · obtain ⟨receipt, hin, hkey⟩ := issueReceipt_written hwrites (driven_receipted hb hwas hd hdel)
          exact .inr ⟨_, receipt, hin, hkey⟩
    intro id record
    rw [hs]
    exact hw' id record

/-! ## Every envelope was asked for -/

/-- What the events of a payment ask for, event by event. -/
def drivenEffects (order : Order) : List StateEvent → List (List Effect)
  | [] => []
  | event :: rest =>
    match transition order (.state event) with
    | .error _ => []
    | .ok (moved, effects) => effects :: drivenEffects moved rest

/-- The transitions a write of an order commits, each with the effects it asks for. -/
def Notice.transitions (w : World Doc) (action : Action Doc) : Notice Doc → List (List Effect)
  | .applied _ (some (.decided (.ok (_, effects)) _)) => [effects]
  | .presented shown (some (.took ..)) =>
    match action, w.store.orderById shown.orderId with
    | .present _ _ t _ _ _, some found => drivenEffects found.order (eventsForVerifiedPayment found.order t)
    | _, _ => []
  | _ => []

/-- The order envelopes a step puts on a stream, leaving aside those a sweep puts back. -/
def envelopesPut (_ : World Doc) (action : Action Doc) (came : World Doc × List (Notice Doc)) : Nat :=
  if action.putsBack then 0 else came.2.countP Notice.handsOver

/-- The transitions a step commits that ask for the order to be handed over. -/
def handOversAsked (w : World Doc) (action : Action Doc) (came : World Doc × List (Notice Doc)) : Nat :=
  (came.2.flatMap (Notice.transitions w action)).countP fun effects => effects.any Effect.handsOver

theorem Notice.Quiet.transitions (h : notice.Quiet) (w : World Doc) (action : Action Doc) :
    notice.transitions w action = [] := by
  unfold Notice.transitions
  split
  · exact h.elim
  · exact h.elim
  · rfl

theorem Notice.Quiet.handsOver (h : notice.Quiet) : ¬ notice.handsOver = true := by
  intro hn
  unfold Notice.handsOver at hn
  split at hn
  · exact h.elim
  · cases hn

theorem quiet_transitions (h : ∀ notice ∈ out, notice.Quiet) (w : World Doc)
    (action : Action Doc) : out.flatMap (Notice.transitions w action) = [] := by
  rw [flatMap_eq_nil_iff]
  exact fun notice hn => (h notice hn).transitions w action

theorem quiet_handsOver (h : ∀ notice ∈ out, notice.Quiet) : out.countP Notice.handsOver = 0 :=
  countP_eq_zero.2 fun notice hn => (h notice hn).handsOver

theorem publishings_transitions (alongside : List (WithTheOrder Doc)) (w : World Doc)
    (action : Action Doc) : (publishings alongside).flatMap (Notice.transitions w action) = [] := by
  rw [flatMap_eq_nil_iff]
  intro notice hn
  obtain ⟨write, -, hw⟩ := mem_filterMap.1 hn
  cases write with
  | envelope merchantId envelope afterMs =>
    cases hw
    rfl
  | receipt merchantId receipt => cases hw

theorem countP_of_le_one {α : Type} {p : α → Bool} {l : List α} (h : l.countP p ≤ 1) :
    l.countP p = if l.any p then 1 else 0 := by
  split
  · next ha =>
    obtain ⟨a, hm, hp⟩ := any_eq_true.1 ha
    have := countP_pos_iff.2 ⟨a, hm, hp⟩
    omega
  · next ha =>
    refine countP_eq_zero.2 fun a hm hp => ha ?_
    exact any_eq_true.2 ⟨a, hm, hp⟩

theorem countP_drivenEffects (hb : o.Sound) (h : driven o events = .ok (o', fx)) :
    ((drivenEffects o events).countP fun effects => effects.any Effect.handsOver) = fx.countP Effect.handsOver := by
  induction events generalizing o fx with
  | nil =>
    cases h
    rfl
  | cons event rest ih =>
    obtain ⟨mid, fx₁, fx₂, hm, hrest, rfl⟩ := driven_cons h
    have hmv := transition_move hb hm
    rw [drivenEffects, hm, countP_append, countP_cons, ih (hmv.sound hb) hrest, countP_of_le_one hmv.handsOver]
    omega

theorem EffectStep.envelopes {log : GatewayLog Doc} (hw : w.Owned log) (h : EffectStep R w w' out action) :
    envelopesPut w action (w', out) = handOversAsked w action (w', out) := by
  have quiet (hq : ∀ notice ∈ out, notice.Quiet) :
      envelopesPut w action (w', out) = handOversAsked w action (w', out) := by
    unfold envelopesPut handOversAsked
    rw [quiet_transitions hq, quiet_handsOver hq]
    split <;> rfl
  have written {armed : List (Reminder × Int)} {alongside : List (WithTheOrder Doc)}
      {last : Notice Doc} (hout : out = remindings armed ++ publishings alongside ++ [last])
      (hback : action.putsBack = false) (hlast : last.handsOver = false)
      (hcount : alongside.countP WithTheOrder.handsOver =
        (last.transitions w action).countP fun effects => effects.any Effect.handsOver) :
      envelopesPut w action (w', out) = handOversAsked w action (w', out) := by
    unfold envelopesPut handOversAsked
    rw [hback, hout, flatMap_append, flatMap_append,
      quiet_transitions (quiet_remindings armed), publishings_transitions, countP_append,
      countP_append, quiet_handsOver (quiet_remindings armed), countP_handsOver_publishings,
      hcount]
    simp [hlast]
  cases h with
  | stands _ _ hq => exact quiet hq
  | receipts _ _ _ hq => exact quiet hq
  | @puts k holdsOrder id _ hq =>
    unfold envelopesPut handOversAsked
    have hnil : out.flatMap (Notice.transitions w (.sweepOpen k holdsOrder id)) = [] := by
      rw [flatMap_eq_nil_iff]
      intro notice hn
      rcases hq notice hn with hquiet | ⟨m, e, a, rfl⟩
      · exact hquiet.transitions w _
      · rfl
    rw [hnil]
    rfl
  | opens _ _ _ hout => exact quiet (hout ▸ quiet_remindings _)
  | notes _ _ hq => exact quiet hq
  | @applies _ call found order effects alongside now fresh hback hf ht hwrites _ hout _ =>
    have hmv := transition_move (hw.records hf).2.1 ht
    refine written hout hback rfl ?_
    rw [countP_handsOver_alongside hwrites, countP_of_le_one hmv.handsOver, Notice.transitions, countP_singleton]
  | @takes k task t now fresh cut call charge owner found order effects alongside hf hown hne hd
      hwrites _ hout _ =>
    refine written hout rfl rfl ?_
    have hlast : (Notice.presented (call.presentation charge owner)
        (some (.took (presentedRecord R.config (call.presentation charge owner) t found order)
          effects))).transitions w (.present k task t now fresh cut) =
        drivenEffects found.order (eventsForVerifiedPayment found.order t) := by
      have hid : w.store.orderById (call.presentation charge owner).orderId = some found := hf
      unfold Notice.transitions
      simp only [hid]
    rw [countP_handsOver_alongside hwrites, hlast, countP_drivenEffects (hw.records hf).2.1 hd]

end Coinslot
