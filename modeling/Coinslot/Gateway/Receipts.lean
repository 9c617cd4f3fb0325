import Coinslot.Gateway.CarriedOut
import Coinslot.Orders.Settlements

/-!
# What a receipt says of the money

The instant a receipt says the money moved at, against the instants at which the charge of its order was
reported settled (`settledInstants`). A receipt is written in the write that delivers its order, and by
nothing else: a sweep finds every delivered order receipted. `Order.KnowsItsMoney` is when the receipt
that is written, and the one a sweep would write, tell the truth (`receipt_truthful`): an order that is
charged at the purchase has to have entered `paid` by that charge, and an order that is charged after
its goods to have been paid for in the instant it is settled at.
-/

namespace Coinslot

open List Option Dict

variable {Doc : Type} {R : Runtime} {w w' : World Doc} {out : List (Notice Doc)}

/-! ## When an order's charge was reported settled -/

/-- The instants a notice reports the charge of an order settled at. -/
def Notice.settledAt (id : String) : Notice Doc → List Int
  | .applied call (some (.decided (.ok _) _)) => if call.orderId = id then call.event.settledAt else []
  | _ => []

/-- The instants the charge of an order was reported settled at, and the order took it. -/
def settledInstants (id : String) (log : GatewayLog Doc) : List Int :=
  log.flatMap fun
    | .emitted notice => notice.settledAt id
    | .accepted _ => []

theorem settledInstants_stepLog (id : String) (log : GatewayLog Doc) (action : Action Doc)
    (out : List (Notice Doc)) : settledInstants id (log ++ Reactor.stepLog action out) =
      settledInstants id log ++ out.flatMap (Notice.settledAt id) := by
  unfold settledInstants Reactor.stepLog
  rw [flatMap_append, flatMap_cons, nil_append, flatMap_map]

theorem Notice.Quiet.settledAt {notice : Notice Doc} (h : notice.Quiet) (id : String) :
    notice.settledAt id = [] := by
  unfold Notice.settledAt
  split
  · exact h.elim
  · rfl

theorem quiet_settledAt (h : ∀ notice ∈ out, notice.Quiet) (id : String) :
    out.flatMap (Notice.settledAt id) = [] := by
  rw [flatMap_eq_nil_iff]
  exact fun notice hn => (h notice hn).settledAt id

theorem written_settledAt (armed : List (Reminder × Int)) (alongside : List (WithTheOrder Doc))
    (last : Notice Doc) (id : String) :
    (remindings armed ++ publishings alongside ++ [last]).flatMap (Notice.settledAt id) = last.settledAt id := by
  have hpublished : (publishings alongside).flatMap (Notice.settledAt id) = [] := by
    rw [flatMap_eq_nil_iff]
    intro notice hn
    obtain ⟨write, -, hw⟩ := mem_filterMap.1 hn
    cases write with
    | envelope merchantId envelope afterMs =>
      cases hw
      rfl
    | receipt merchantId receipt => cases hw
  rw [flatMap_append, flatMap_append, quiet_settledAt (quiet_remindings _) id, hpublished]
  simp

/-- Every stored order carries what was reported of its charge, and an order that is not stored had
nothing reported. -/
structure World.Dated (w : World Doc) (log : GatewayLog Doc) : Prop where
  records {id : String} {record : StoredOrder Doc} : w.store.orderById id = some record →
    record.order.Dated (settledInstants id log)
  strangers {id : String} : w.store.orderById id = none → settledInstants id log = []

theorem Birth.dated (birth : Birth) : birth.order.Dated [] := by
  rcases birth.shape with ⟨h, -⟩ | ⟨h, -⟩ <;> rw [h] <;>
    exact ⟨fun _ => rfl, fun _ _ => rfl, by rintro ⟨⟩⟩

variable {fx : List Effect} {instants : List Int}

variable {o o' : Order} {events : List StateEvent} {alongside : List (WithTheOrder Doc)} {k : Nat} {now : Int}
  {record' : StoredOrder Doc}

theorem driven_dated (hb : o.Sound) (hd : o.Dated instants)
    (hquiet : ∀ event ∈ events, (OrderEvent.state event).settledAt = []) (h : driven o events = .ok (o', fx)) :
    o'.Dated instants := by
  induction events generalizing o fx with
  | nil =>
    cases h
    exact hd
  | cons event rest ih =>
    obtain ⟨mid, fx₁, fx₂, hm, hrest, -⟩ := driven_cons h
    have hmv := transition_move hb hm
    have hmid := hmv.dated hb hd
    rw [hquiet event (mem_cons_self ..), append_nil] at hmid
    exact ih (hmv.sound hb) hmid (fun e he => hquiet e (mem_cons_of_mem _ he)) hrest

theorem eventsForVerifiedPayment_settledAt (order : Order) (t : Int) :
    ∀ event ∈ eventsForVerifiedPayment order t, (OrderEvent.state event).settledAt = [] := by
  intro event he
  rcases mem_eventsForVerifiedPayment he with rfl | rfl <;> rfl

variable {log : GatewayLog Doc} {action : Action Doc}

theorem World.Dated.writes (h : w.Dated log) {key : String} {found next : StoredOrder Doc}
    (hf : w.store.orderById key = some found) (hs : w'.store.orders = w.store.orders.set key next) (more : List Int)
    (hkey : out.flatMap (Notice.settledAt key) = more)
    (hother : ∀ id, id ≠ key → out.flatMap (Notice.settledAt id) = [])
    (hnext : next.order.Dated (settledInstants key log ++ more)) : w'.Dated (log ++ Reactor.stepLog action out) := by
  constructor
  · intro id record hr
    rw [settledInstants_stepLog]
    by_cases hid : id = key
    · subst hid
      rcases orderById_of_set hs hr with ⟨-, rfl⟩ | hbefore
      · rw [hkey]
        exact hnext
      · rw [orderById_eq hs, get_set_self] at hr
        cases hr
        rw [hkey]
        exact hnext
    · rcases orderById_of_set hs hr with ⟨hsame, -⟩ | hbefore
      · exact absurd hsame hid
      · rw [hother id hid, append_nil]
        exact h.records hbefore
  · intro id hn
    have hid : id ≠ key := by
      rintro rfl
      rw [orderById_eq hs, get_set_self] at hn
      cases hn
    rw [orderById_eq hs, get_set_ne _ _ hid] at hn
    rw [settledInstants_stepLog, hother id hid, append_nil]
    exact h.strangers hn

/-- **The step keeps the instants.** -/
theorem World.Dated.step (h : w.Dated log) (hw : w.Owned log) (hstep : EffectStep R w w' out action) :
    w'.Dated (log ++ Reactor.stepLog action out) := by
  have stands (ho : w'.store.orders = w.store.orders)
      (hq : ∀ id, out.flatMap (Notice.settledAt id) = []) :
      w'.Dated (log ++ Reactor.stepLog action out) := by
    constructor
    · intro id record hr
      rw [settledInstants_stepLog, hq, append_nil]
      exact h.records ((orderById_eq ho id).symm.trans hr)
    · intro id hn
      rw [settledInstants_stepLog, hq, append_nil]
      exact h.strangers ((orderById_eq ho id).symm.trans hn)
  cases hstep with
  | stands ho _ hq => exact stands ho (quiet_settledAt hq)
  | receipts _ _ hs hq => exact stands (by rw [hs]; rfl) (quiet_settledAt hq)
  | puts hs hq =>
    refine stands (by rw [hs]) fun id => ?_
    rw [flatMap_eq_nil_iff]
    intro notice hn
    rcases hq notice hn with hquiet | ⟨m, e, a, rfl⟩
    · exact hquiet.settledAt id
    · rfl
  | opens sale hn hs hout =>
    have hq : ∀ notice ∈ out, notice.Quiet := hout ▸ quiet_remindings _
    have ho : w'.store.orders = w.store.orders.set sale.record.order.id sale.record := by rw [hs]
    constructor
    · intro id record hr
      rw [settledInstants_stepLog, quiet_settledAt hq, append_nil]
      rcases orderById_of_set ho hr with ⟨rfl, rfl⟩ | hbefore
      · rw [h.strangers hn]
        exact sale.birth.dated
      · exact h.records hbefore
    · intro id hnone
      rw [settledInstants_stepLog, quiet_settledAt hq, append_nil]
      refine h.strangers ?_
      rw [orderById_eq ho, get_set] at hnone
      split at hnone
      · cases hnone
      · exact hnone
  | @notes _ key word found hf hs hq =>
    refine h.writes hf (by rw [hs]) [] (quiet_settledAt hq key) (fun id _ => quiet_settledAt hq id) ?_
    rw [append_nil]
    have hdated : found.order.Dated (settledInstants key log) := h.records hf
    exact hdated
  | @applies _ call found order effects alongside now fresh _ hf ht hwrites hs hout _ =>
    have hreports (id : String) : out.flatMap (Notice.settledAt id) =
        if call.orderId = id then call.event.settledAt else [] := by
      rw [hout]
      exact written_settledAt _ _ _ id
    refine h.writes hf ((congrArg Store.orders hs).trans (w.store.saveOrder_orders alongside
        call.orderId (appliedRecord_merchantId R.config found order call effects)))
      call.event.settledAt ((hreports _).trans (if_pos rfl)) (fun id hid => ?_) ?_
    · rw [hreports, if_neg (Ne.symm hid)]
    · exact (transition_move (hw.records hf).2.1 ht).dated (hw.records hf).2.1 (h.records hf)
  | @takes k task t now fresh cut call charge owner found order effects alongside hf hown hne hd
      hwrites hs hout htask =>
    have hreports (id : String) : out.flatMap (Notice.settledAt id) = [] := by
      rw [hout]
      exact written_settledAt _ _ _ id
    refine h.writes hf ((congrArg Store.orders hs).trans (w.store.saveOrder_orders alongside
        call.orderId
        (presentedRecord_merchantId R.config found order (call.presentation charge owner) t)))
      [] (hreports _) (fun id _ => hreports id) ?_
    rw [append_nil]
    exact driven_dated (hw.records hf).2.1 (h.records hf) (eventsForVerifiedPayment_settledAt found.order t) hd

theorem gatewayRun_dated (R : Runtime) (actions : List (Action Doc)) :
    (gatewayRun R actions).Dated (gatewayLog R actions) := by
  refine ((gatewayMachine R Doc).log_induction (P := fun w log => w.Owned log ∧ w.Dated log)
    (fun hP hstep => ⟨hP.1.step hstep, hP.2.step hP.1 (World.step_performs hstep).effectStep⟩)
    (l := []) ⟨gatewayRun_owned R [], ?_⟩ actions).2
  constructor
  · rintro id record ⟨⟩
  · intro id _
    rfl

/-! ## What a receipt says -/

/-- The instant a receipt names for the money of an order that is now as it stands after a step. -/
def moneyMovedAt (before after : Order) (t : Int) : Int :=
  if before.payment ≠ .settled && after.payment = .settled then t else after.timestamps.paidAt.getD t

variable {record : StoredOrder Doc} {before : Order} {id : String} {t : Int} {receipt : Receipt}

theorem receiptFor_again (h : receiptFor record before id t = .ok receipt) (before' : Order)
    (id' : String) (t' : Int) : receipt.paidAt = asTimestamp (moneyMovedAt before record.order t) ∧
      receiptFor record before' id' t' = .ok { receipt with
          id := id'
          paidAt := asTimestamp (moneyMovedAt before' record.order t') } := by
  unfold receiptFor at h ⊢
  cases hp : record.order.price with
  | none => simp [hp] at h
  | some price =>
    cases ho : receiptOutcomeOf record.order with
    | error words => simp [hp, ho, Except.map] at h
    | ok outcome =>
      simp only [hp, ho, Except.map, Except.ok.injEq] at h
      subst h
      exact ⟨rfl, rfl⟩

/-- The order carries the instant its money moves at, where an event at `t` delivers it: it entered
`paid` by its charge, or is settled in the instant it was paid for. -/
def Order.KnowsItsMoney (o : Order) (t : Int) : Prop :=
  match o.mode.settle with
  | .onPurchase => o.timestamps.paidAt.isSome
  | .afterFulfillment => o.timestamps.paidAt = some t

theorem isSome_of_getD {paidAt : Option Int} (h : ∀ now, paidAt.getD now = t) : paidAt = some t := by
  cases paidAt with
  | none =>
    have h₀ : (0 : Int) = t := h 0
    have h₁ : (1 : Int) = t := h 1
    omega
  | some p => rw [← h 0, getD_some]

/-- **When a receipt tells the truth.** In the step that delivers an order, the instant its receipt
names is the one at which the charge was reported settled, and the one a sweep would name whenever it
came, exactly where the order knows its money. -/
theorem Move.tells_truth {e : OrderEvent} (hb : o.Sound) (hm : Move o e o' fx) (hdated : o.Dated instants)
    (hs : o.state ≠ .delivered) (hd : o'.state = .delivered) :
    ((∃ t, instants ++ e.settledAt = [t] ∧ moneyMovedAt o o' e.at = t) ∧
        ∀ now, moneyMovedAt o' o' now = moneyMovedAt o o' e.at) ↔ o.KnowsItsMoney e.at := by
  obtain ⟨hts, hp', ⟨hmode, hp, t, rfl⟩ | ⟨hmode, hp, hdel⟩⟩ := hm.delivered hb hs hd
  · have hnow : moneyMovedAt o o' (OrderEvent.state (.paymentSettled t)).at = t := by
      simp [moneyMovedAt, hp, hp', OrderEvent.at, StateEvent.at]
    have hlater (now : Int) : moneyMovedAt o' o' now = o.timestamps.paidAt.getD now := by
      simp [moneyMovedAt, hp', hts]
    simp only [hnow, hlater, Order.KnowsItsMoney, hmode]
    constructor
    · intro h
      exact isSome_of_getD h.2
    · intro h
      have hat : o.timestamps.paidAt = some t := h
      refine ⟨⟨t, ?_, rfl⟩, fun now => ?_⟩
      · rw [hdated.unsettled hp]
        rfl
      · rw [hat, getD_some]
  · have hthen (before : Order) (hbefore : before.payment = .settled) (now : Int) :
        moneyMovedAt before o' now = o.timestamps.paidAt.getD now := by
      simp [moneyMovedAt, hbefore, hts]
    simp only [hthen o hp, hthen o' hp', Order.KnowsItsMoney, hmode]
    obtain ⟨t, hone, hcarried⟩ := hdated.settled hp
    rw [hdel.settledAt, append_nil, hone]
    constructor
    · intro h
      rw [isSome_of_getD h.2]
      rfl
    · intro h
      obtain ⟨p, hpaid⟩ := isSome_iff_exists.1 h
      refine ⟨⟨t, rfl, ?_⟩, fun now => ?_⟩
      · rw [hpaid, getD_some]
        exact hcarried hmode p hpaid
      · rw [hpaid, getD_some, getD_some]

/-! ## Which receipts are written -/

variable {fresh : Nat → String} {effects : List Effect}

theorem receipt_asked (h : writesWithTheOrder record before t fresh effects = .ok alongside) {merchantId : String}
    (hr : .receipt merchantId receipt ∈ alongside) :
    .issueReceipt ∈ effects ∧ ∃ id, receiptFor record before id t = .ok receipt := by
  obtain ⟨effect, hin, id, hw⟩ := exists_asked (writesWithTheOrder_written h) hr
  cases effect with
  | issueReceipt =>
    cases hrc : receiptFor record before id t with
    | error words => simp [writeWithTheOrder, hrc, Except.map] at hw
    | ok own =>
      simp only [writeWithTheOrder, hrc, Except.map, Except.ok.injEq, Option.some.injEq,
        WithTheOrder.receipt.injEq] at hw
      exact ⟨(mem_filter.1 hin).1, id, hrc.trans (congrArg Except.ok hw.2)⟩
  | dispatchOrder | redeliverOrder _ _ =>
    cases he : orderEnvelope record id t with
    | error words => simp [writeWithTheOrder, he, Except.map] at hw
    | ok envelope => simp [writeWithTheOrder, he, Except.map] at hw
  | emitMerchantEvent event =>
    cases he : eventEnvelope record event id t with
    | error words => simp [writeWithTheOrder, he, Except.map] at hw
    | ok envelope => simp [writeWithTheOrder, he, Except.map] at hw
  | requestQuote | verifyPayment | executePayment | invitePayment | dispatchConfirmationRequest
  | releaseGoodsToAgent | holdFulfillment | markRefundDue _ | answerMerchant _ =>
    simp [writeWithTheOrder, carriedOutAfterwards] at hw

theorem Store.putReceipts_get (store : Store Doc) (writes : List (WithTheOrder Doc)) (key : String) :
    (store.putReceipts writes).receipts.get key = store.receipts.get key ∧
        (∀ merchantId receipt, .receipt merchantId receipt ∈ writes → receipt.orderId ≠ key) ∨
      ∃ held merchantId receipt, .receipt merchantId receipt ∈ writes ∧ receipt.orderId = key ∧
        (store.putReceipts writes).receipts.get key = some held ∧ held.receipt = receipt := by
  induction writes generalizing store with
  | nil => exact .inl ⟨rfl, by rintro _ _ ⟨⟩⟩
  | cons write rest ih =>
    cases write with
    | envelope m e a =>
      rcases ih store with ⟨hsame, hnone⟩ | ⟨held, merchantId, receipt, hin, hrest⟩
      · refine .inl ⟨hsame, fun merchantId receipt hin => ?_⟩
        cases hin with
        | tail _ hin => exact hnone merchantId receipt hin
      · exact .inr ⟨held, merchantId, receipt, mem_cons_of_mem _ hin, hrest⟩
    | receipt m r =>
      rcases ih (store.putReceipt m r) with ⟨hsame, hnone⟩ | ⟨held, merchantId, receipt, hin, hrest⟩
      · by_cases hkey : r.orderId = key
        · refine .inr ⟨⟨((store.receipts.get r.orderId).map (·.merchantId)).getD m, r⟩, m, r,
            mem_cons_self .., hkey, hsame.trans ?_, rfl⟩
          rw [Store.putReceipt, ← hkey]
          exact get_set_self _ _ _
        · refine .inl ⟨hsame.trans ?_, fun merchantId receipt hin => ?_⟩
          · exact get_set_ne _ _ (Ne.symm hkey)
          · cases hin with
            | head => exact hkey
            | tail _ hin => exact hnone merchantId receipt hin
      · exact .inr ⟨held, merchantId, receipt, mem_cons_of_mem _ hin, hrest⟩

theorem World.writes_receipts {found next : StoredOrder Doc}
    (h : writesWithTheOrder next before t fresh effects = .ok alongside)
    (hs : w'.store = (w.writes id found next alongside).store) (key : String) :
    (key = next.order.id ∧ .issueReceipt ∈ effects ∧ ∃ held rcp,
        w'.store.receipts.get key = some held ∧ receiptFor next before rcp t = .ok held.receipt) ∨
      (key = next.order.id → .issueReceipt ∉ effects) ∧ w'.store.receipts.get key = w.store.receipts.get key := by
  have hreceipts : w'.store.receipts = (w.store.putReceipts alongside).receipts := by
    rw [hs]
    exact Store.saveOrder_receipts _ _ _ _
  rw [hreceipts]
  rcases w.store.putReceipts_get alongside key with
    ⟨hsame, hnone⟩ | ⟨held, merchantId, receipt, hin, hkey, hget, hheld⟩
  · refine .inr ⟨fun hk hi => ?_, hsame⟩
    obtain ⟨receipt, hin, hid⟩ := issueReceipt_written h hi
    exact hnone _ _ hin (hid.trans hk.symm)
  · obtain ⟨hi, rcp, hr⟩ := receipt_asked h hin
    refine .inl ⟨?_, hi, held, rcp, hget, ?_⟩
    · rw [← hkey, receiptFor_orderId hr]
    · rw [hheld]
      exact hr

/-! ## A sweep finds nothing to receipt -/

/-- No sweep that is under way has an order to receipt. -/
def World.Swept (w : World Doc) : Prop :=
  ∀ k sweep, w.sweeps.get k = some sweep →
    sweep.unreceipted = none ∨ sweep.unreceipted = some []

theorem World.Swept.of_eq (h : w.Swept) (hs : w'.sweeps = w.sweeps) : w'.Swept := by
  intro k sweep hk
  rw [hs] at hk
  exact h k sweep hk

theorem World.Swept.set (h : w.Swept) {sweep : Sweep Doc}
    (hnew : sweep.unreceipted = none ∨ sweep.unreceipted = some []) (hs : w'.sweeps = w.sweeps.set k sweep) :
    w'.Swept := by
  intro j other hj
  rw [hs, get_set] at hj
  split at hj
  · cases hj
    exact hnew
  · exact h j other hj

theorem World.Receipted.none_left (h : w.Receipted) (hw : w.Owned log) : w.store.deliveredWithoutReceipt = [] := by
  rw [Store.deliveredWithoutReceipt, filter_eq_nil_iff]
  intro record hin hleft
  obtain ⟨id, hr⟩ := exists_get_of_mem hin
  have hid : record.order.id = id := (hw.records hr).1
  simp only [Bool.and_eq_true, decide_eq_true_eq, Bool.not_eq_true'] at hleft
  have hhas := h id record hr hleft.1
  rw [hid, hhas] at hleft
  cases hleft.2

theorem World.Applies.sweeps {call : ApplyCall Doc} {came : World Doc × List (Notice Doc) × Aftermath Doc}
    (h : w.Applies R call now fresh came) :
    came.1.sweeps = w.sweeps := by
  cases h <;> rfl

theorem World.Presents.sweeps {task : Nat} {call : PayCall} {charge : Charge} {owner : String}
    {came : World Doc × List (Notice Doc)} (h : w.Presents R k task call charge owner t now fresh came) :
    came.1.sweeps = w.sweeps := by
  cases h <;> rfl

theorem World.carryOut_sweeps (w : World Doc) (k : Nat) (frame : Frame Doc)
    (rest : List (Frame Doc)) : (w.carryOut k frame rest).1.sweeps = w.sweeps := by
  unfold World.carryOut
  split
  · unfold World.returns
    split <;> rfl
  · dsimp only
    split
    · split <;> rfl
    all_goals rfl

theorem World.settle_sweeps (R : Runtime) (w : World Doc) (k : Nat) (frame : Frame Doc)
    (rest : List (Frame Doc)) (outcome : SettleOutcome) (now : Int) (fresh : Nat → String)
    (cut : Option Nat) : (w.settle R k frame rest outcome now fresh cut).1.sweeps = w.sweeps := by
  unfold World.settle
  split
  · next call _ =>
    have hsame := (w.apply_applies R call now fresh cut).sweeps
    dsimp only
    split <;> exact hsame
  · next orderId word _ =>
    have hholds := w.hold_holdsTo cut orderId none (writeDownDecision R.config word)
    generalize w.hold cut orderId none (writeDownDecision R.config word) = came at hholds
    cases hholds <;> rfl

/-- **The step, for the sweeps.** -/
theorem World.Swept.step {came : World Doc × List (Notice Doc)} (h : w.Swept) (hw : w.Owned log) (hr : w.Receipted)
    (hstep : w.Performs R action came) : came.1.Swept := by
  cases hstep with
  | create task sale now fresh cut _ =>
    refine h.of_eq ?_
    unfold World.create
    dsimp only
    split
    · rfl
    · rfl
    · split
      · rfl
      · split <;> rfl
      · rfl
  | apply task call now fresh cut _ =>
    refine h.of_eq ?_
    have hsame := (w.apply_applies R call now fresh cut).sweeps
    unfold World.applyAlone
    dsimp only
    split <;> exact hsame
  | pay k orderId payment fingerprint =>
    refine h.of_eq ?_
    unfold World.pay
    split
    · rfl
    · split <;> rfl
  | readWallet _ _ | release _ _ | hangUp _ | drop _ | movePayoutWallet _ _ | forgetClaims _
  | readHolder _ _ | loseTheName => exact h.of_eq rfl
  | verify _ _ outcome => exact h.of_eq (by cases outcome <;> rfl)
  | claim _ _ now =>
    refine h.of_eq ?_
    unfold World.claim
    dsimp only
    split <;> rfl
  | @present k call charge owner _ _ task t now fresh cut _ =>
    exact h.of_eq (w.present_presents R k task call charge owner t now fresh cut).sweeps
  | @carryOut k frame rest _ => exact h.of_eq (w.carryOut_sweeps k frame rest)
  | @settle k _ frame rest _ outcome now fresh cut =>
    exact h.of_eq (w.settle_sweeps R k frame rest outcome now fresh cut)
  | beginSweep k now =>
    unfold World.beginSweep
    split
    · exact h
    · exact h.set (k := k) (.inl rfl) rfl
  | @sweepOpen k sweep record rest hk _ holdsOrder id =>
    have hkept : ({ sweep with unlooked := rest } : Sweep Doc).unreceipted = none ∨
        ({ sweep with unlooked := rest } : Sweep Doc).unreceipted = some [] := h k sweep hk
    unfold World.sweepOpen
    dsimp only
    split <;> exact h.set (k := k) hkept rfl
  | @sweepDelivered k sweep _ _ =>
    refine h.set (k := k) (.inr ?_) rfl
    exact congrArg some (hr.none_left hw)
  | @sweepReceipt k sweep record rest hk hun id =>
    rcases h k sweep hk with hnone | hnone <;> rw [hun.2] at hnone <;> cases hnone
  | stopSweep k =>
    intro j sweep hj
    have hdel : (w.stopSweep k).sweeps.get j = if j = k then none else w.sweeps.get j := get_delete _ _ _
    rw [hdel] at hj
    split at hj
    · cases hj
    · exact h j sweep hj

/-! ## The truth about the money -/

/-- A receipt tells the truth about the money of a stored order: it names the one instant at which the
charge was reported settled, and whatever a sweep would write for the order, whenever it came, is this
receipt under another identifier. -/
def Receipt.TellsTruth (receipt : Receipt) (record : StoredOrder Doc) (instants : List Int) : Prop :=
  (∃ t, instants = [t] ∧ receipt.paidAt = asTimestamp t) ∧
    ∀ id now, receiptFor record record.order id now = .ok { receipt with id := id }

theorem Receipt.tellsTruth_iff (h : receiptFor record before id t = .ok receipt) :
    receipt.TellsTruth record instants ↔ (∃ moved, instants = [moved] ∧ moneyMovedAt before record.order t = moved) ∧
        ∀ now, moneyMovedAt record.order record.order now = moneyMovedAt before record.order t := by
  have hpaid := (receiptFor_again h record.order id t).1
  constructor
  · rintro ⟨⟨moved, hone, hat⟩, hsweep⟩
    refine ⟨⟨moved, hone, ?_⟩, fun now => ?_⟩
    · rw [hpaid] at hat
      exact congrArg Timestamp.instant hat
    · have hsame := (receiptFor_again h record.order id now).2.symm.trans (hsweep id now)
      have hat := congrArg Receipt.paidAt (Except.ok.inj hsame)
      dsimp only at hat
      rw [hpaid] at hat
      exact congrArg Timestamp.instant hat
  · rintro ⟨⟨moved, hone, hat⟩, hsweep⟩
    refine ⟨⟨moved, hone, ?_⟩, fun id' now => ?_⟩
    · rw [hpaid, hat]
    · rw [(receiptFor_again h record.order id' now).2, hsweep now, ← hpaid]

theorem receiptFor_same (ho : record'.order = record.order) (hi : record'.itemId = record.itemId)
    (h : receiptFor record before id t = .ok receipt) :
    receiptFor record' before id t = .ok { receipt with priceId := record'.priceId } := by
  unfold receiptFor at h ⊢
  rw [ho, hi]
  cases hp : record.order.price with
  | none => simp [hp] at h
  | some price =>
    cases houtcome : receiptOutcomeOf record.order with
    | error words => simp [hp, houtcome, Except.map] at h
    | ok outcome =>
      simp only [hp, houtcome, Except.map, Except.ok.injEq] at h
      subst h
      rfl

@[simp] theorem withFacts_itemId (config : Config) (found : StoredOrder Doc)
    (facts : OrderFacts Doc) : (withFacts config found facts).itemId = found.itemId := by
  unfold withFacts
  split <;> rfl

/-- **The step that delivers an order.** Its receipt is stored, and tells the truth exactly where the
order knows its money. -/
theorem EffectStep.tells_truth (hw : w.Owned log)
    (hdated : w.Dated log) (h : EffectStep R w w' out action) {call : ApplyCall Doc} {order : Order}
    {known found : StoredOrder Doc} (hin : .applied call (some (.decided (.ok (order, effects)) known)) ∈ out)
    (hf : w.store.orderById call.orderId = some found) (hs : found.order.state ≠ .delivered)
    (hd : order.state = .delivered) : ∃ held, w'.store.receipts.get call.orderId = some held ∧
      (held.receipt.TellsTruth known (settledInstants call.orderId (log ++ Reactor.stepLog action out)) ↔
        found.order.KnowsItsMoney call.event.at) := by
  cases h with
  | stands _ _ hq => exact (hq _ hin).elim
  | receipts _ _ _ hq => exact (hq _ hin).elim
  | puts _ hq =>
    rcases hq _ hin with hq | ⟨m, e, a, ⟨⟩⟩
    exact hq.elim
  | opens _ _ _ hout =>
    rw [hout] at hin
    exact (quiet_remindings _ _ hin).elim
  | notes _ _ hq => exact (hq _ hin).elim
  | takes _ _ _ _ _ _ hout _ =>
    rw [hout] at hin
    cases mem_written (by rintro ⟨⟩) (by rintro _ _ _ ⟨⟩) hin
  | @applies _ call' found' order' effects' alongside now fresh _ hf' ht hwrites hstore hout _ =>
    rw [hout] at hin
    cases mem_written (by rintro ⟨⟩) (by rintro _ _ _ ⟨⟩) hin
    cases hf.symm.trans hf'
    obtain ⟨hid, hb, -⟩ := hw.records hf
    have hmv := transition_move hb ht
    have hissue : .issueReceipt ∈ effects := by
      cases hmv.handover hb with
      | hands extra _ _ _ _ => simp
      | keeps _ hiff => exact absurd (hiff.1 hd) hs
    have hkey : call.orderId = order.id := (hmv.keeps.1.trans hid).symm
    rcases World.writes_receipts hwrites hstore call.orderId with
      ⟨-, -, held, rcp, hget, hr⟩ | ⟨hnone, -⟩
    · refine ⟨held, hget, ?_⟩
      have hreports : out.flatMap (Notice.settledAt call.orderId) = call.event.settledAt := by
        rw [hout, written_settledAt]
        exact if_pos rfl
      rw [settledInstants_stepLog, hreports, Receipt.tellsTruth_iff hr]
      exact hmv.tells_truth hb (hdated.records hf) hs hd
    · exact absurd hissue (hnone hkey)

theorem driven_undelivered (hb : o.Sound) (hs : o.state ≠ .delivered)
    (hevents : ∀ event ∈ events, event = .purchaseRepeated t ∨ event = .paymentVerified t)
    (h : driven o events = .ok (o', fx)) : o'.state ≠ .delivered := by
  induction events generalizing o fx with
  | nil =>
    cases h
    exact hs
  | cons event rest ih =>
    obtain ⟨mid, fx₁, fx₂, hm, hrest, -⟩ := driven_cons h
    have hmv := transition_move hb hm
    refine ih (hmv.sound hb) (fun hmid => ?_) (fun e he => hevents e (mem_cons_of_mem _ he)) hrest
    obtain ⟨-, -, ⟨-, -, t', he⟩ | ⟨-, -, hdel⟩⟩ := hmv.delivered hb hs hmid
    · rcases hevents event (mem_cons_self ..) with rfl | rfl <;> cases he
    · rcases hevents event (mem_cons_self ..) with rfl | rfl <;> cases hdel

theorem taken_undelivered (hb : o.Sound) (hne : eventsForVerifiedPayment o t ≠ [])
    (h : driven o (eventsForVerifiedPayment o t) = .ok (o', fx)) : o'.state ≠ .delivered := by
  refine driven_undelivered hb (fun hs => hne ?_) (fun _ he => mem_eventsForVerifiedPayment he) h
  simp [eventsForVerifiedPayment, hs]

/-- The receipt of the order under an identifier, where it is delivered, is stored and tells the truth;
the price's identifier is the one stored with the order now. -/
def World.Truthful (w : World Doc) (log : GatewayLog Doc) : Prop :=
  ∀ id record, w.store.orderById id = some record → record.order.state = .delivered →
    ∃ held, w.store.receipts.get id = some held ∧
      ({ held.receipt with priceId := record.priceId } : Receipt).TellsTruth record
        (settledInstants id log)

/-- Whatever a step delivers knows its money. -/
def KnowsWhatItDelivers (R : Runtime) (w : World Doc) (action : Action Doc) : Prop :=
  ∀ w' out call order effects known found, w.step R action = .ok (w', out) →
    .applied call (some (.decided (.ok (order, effects)) known)) ∈ out →
    w.store.orderById call.orderId = some found → found.order.state ≠ .delivered →
    order.state = .delivered → found.order.KnowsItsMoney call.event.at

theorem Receipt.TellsTruth.again (h : receipt.TellsTruth record instants) (ho : record'.order = record.order)
    (hi : record'.itemId = record.itemId) :
    ({ receipt with priceId := record'.priceId } : Receipt).TellsTruth record' instants := by
  refine ⟨h.1, fun id now => ?_⟩
  rw [ho]
  exact receiptFor_same ho hi (h.2 id now)

/-- **The step keeps the receipts truthful**, where what it delivers knows its money. -/
theorem World.Truthful.step (h : w.Truthful log) (hw : w.Owned log) (hdated : w.Dated log) (hswept : w.Swept)
    (hstep : EffectStep R w w' out action) (hknows : ∀ call order effects known found,
      .applied call (some (.decided (.ok (order, effects)) known)) ∈ out →
      w.store.orderById call.orderId = some found → found.order.state ≠ .delivered →
      order.state = .delivered → found.order.KnowsItsMoney call.event.at) :
    w'.Truthful (log ++ Reactor.stepLog action out) := by
  -- What was delivered before the step, and is stored as it was but for what does not matter.
  have kept {id : String} {before after : StoredOrder Doc}
      (hb : w.store.orderById id = some before) (ha : w'.store.orderById id = some after)
      (ho : after.order = before.order) (hi : after.itemId = before.itemId)
      (hr : w'.store.receipts.get id = w.store.receipts.get id)
      (hd : after.order.state = .delivered) (hquiet : out.flatMap (Notice.settledAt id) = []) :
      ∃ held, w'.store.receipts.get id = some held ∧
        ({ held.receipt with priceId := after.priceId } : Receipt).TellsTruth after
          (settledInstants id (log ++ Reactor.stepLog action out)) := by
    obtain ⟨held, hheld, htells⟩ := h id before hb (ho ▸ hd)
    refine ⟨held, hr.trans hheld, ?_⟩
    rw [settledInstants_stepLog, hquiet, append_nil]
    exact htells.again ho hi
  cases hstep with
  | stands ho hr hq =>
    intro id record hrec hd
    have hb : w.store.orderById id = some record := (orderById_eq ho id).symm.trans hrec
    exact kept hb hrec rfl rfl (by rw [hr]) hd (quiet_settledAt hq id)
  | receipts hk hun _ _ => rcases hswept _ _ hk with hnone | hnone <;> rw [hun] at hnone <;> cases hnone
  | puts hs hq =>
    intro id record hrec hd
    have hb : w.store.orderById id = some record := by rwa [hs] at hrec
    refine kept hb hrec rfl rfl (by rw [hs]) hd ?_
    rw [flatMap_eq_nil_iff]
    intro notice hn
    rcases hq notice hn with hquiet | ⟨m, e, a, rfl⟩
    · exact hquiet.settledAt id
    · rfl
  | opens sale hn hs hout =>
    have hq : ∀ notice ∈ out, notice.Quiet := hout ▸ quiet_remindings _
    intro id record hrec hd
    have ho : w'.store.orders = w.store.orders.set sale.record.order.id sale.record := by rw [hs]
    rcases orderById_of_set ho hrec with ⟨rfl, rfl⟩ | hbefore
    · exact absurd hd sale.birth.undelivered
    · exact kept hbefore hrec rfl rfl (by rw [hs]) hd (quiet_settledAt hq id)
  | @notes _ key word found hf hs hq =>
    intro id record hrec hd
    have ho : w'.store.orders = w.store.orders.set key (alsoSaid R.config found word) := by rw [hs]
    rcases orderById_of_set ho hrec with ⟨rfl, rfl⟩ | hbefore
    · exact kept hf hrec rfl rfl (by rw [hs]) hd (quiet_settledAt hq id)
    · exact kept hbefore hrec rfl rfl (by rw [hs]) hd (quiet_settledAt hq id)
  | @applies _ call found order effects alongside now fresh hback hf ht hwrites hs hout hruns =>
    intro id record hrec hd
    obtain ⟨hid, hb, -⟩ := hw.records hf
    have hmv := transition_move hb ht
    have hnext : order.id = call.orderId := hmv.keeps.1.trans hid
    have ho : w'.store.orders = w.store.orders.set call.orderId
        (appliedRecord R.config call found order effects) := by
      rw [hs]
      exact w.store.saveOrder_orders alongside call.orderId
        (appliedRecord_merchantId R.config found order call effects)
    have hreports : out.flatMap (Notice.settledAt id) =
        if call.orderId = id then call.event.settledAt else [] := by
      rw [hout]
      exact written_settledAt _ _ _ id
    have hin : .applied call (some (.decided (.ok (order, effects))
        (appliedRecord R.config call found order effects))) ∈ out := by
      rw [hout]
      exact mem_append_right _ (mem_singleton.2 rfl)
    by_cases hkey : id = call.orderId
    · subst hkey
      obtain rfl : record = appliedRecord R.config call found order effects := by
        rcases orderById_of_set ho hrec with ⟨-, hr⟩ | -
        · exact hr
        · rw [orderById_eq ho, get_set_self] at hrec
          exact (Option.some.inj hrec).symm
      by_cases hwas : found.order.state = .delivered
      · -- It was delivered before: only its answers go on.
        have hquiet : call.event.settledAt = [] := by
          refine hmv.settled_once hb (hdated.records hf) ?_
          simp only [Order.Sound, hwas] at hb
          exact hb.1
        obtain ⟨rfl, hanswers⟩ := hmv.of_delivered hwas
        refine kept hf hrec rfl (withFacts_itemId _ _ _) ?_ hd ?_
        · rcases World.writes_receipts hwrites hs call.orderId with ⟨-, hissue, -⟩ | ⟨-, hsame⟩
          · exact absurd rfl (hanswers.noGoods _ hissue).2
          · exact hsame
        · rw [hreports, if_pos rfl, hquiet]
      · obtain ⟨held, hget, hiff⟩ := EffectStep.tells_truth (R := R) hw hdated
          (.applies hback hf ht hwrites hs hout hruns) hin hf hwas hd
        exact ⟨held, hget, (hiff.2 (hknows _ _ _ _ _ hin hf hwas hd)).again rfl rfl⟩
    · have hbefore : w.store.orderById id = some record := by
        rcases orderById_of_set ho hrec with ⟨hsame, -⟩ | hbefore
        · exact absurd hsame hkey
        · exact hbefore
      refine kept hbefore hrec rfl rfl ?_ hd ?_
      · rcases World.writes_receipts hwrites hs id with ⟨hown, -, -⟩ | ⟨-, hsame⟩
        · exact absurd (hown.trans hnext) hkey
        · exact hsame
      · rw [hreports, if_neg (Ne.symm hkey)]
  | @takes k task t now fresh cut call charge owner found order effects alongside hf hown hne hdr
      hwrites hs hout htask =>
    intro id record hrec hd
    obtain ⟨hid, hb, -⟩ := hw.records hf
    have hfol := presentedRecord_follows R.config (call.presentation charge owner) hb hown hdr
    have hnext : order.id = call.orderId := hfol.1.id.trans hid
    have ho : w'.store.orders = w.store.orders.set call.orderId
        (presentedRecord R.config (call.presentation charge owner) t found order) := by
      rw [hs]
      exact w.store.saveOrder_orders alongside call.orderId
        (presentedRecord_merchantId R.config found order (call.presentation charge owner) t)
    rcases orderById_of_set ho hrec with ⟨rfl, rfl⟩ | hbefore
    · exact absurd hd (taken_undelivered hb hne hdr)
    · by_cases hkey : id = call.orderId
      · rw [hkey, orderById_eq ho, get_set_self] at hrec
        cases hrec
        exact absurd hd (taken_undelivered hb hne hdr)
      · refine kept hbefore hrec rfl rfl ?_ hd ?_
        · rcases World.writes_receipts hwrites hs id with ⟨hown', -, -⟩ | ⟨-, hsame⟩
          · exact absurd (hown'.trans hnext) hkey
          · exact hsame
        · rw [hout, written_settledAt]
          rfl

theorem gatewayRun_truthful (R : Runtime) (actions : List (Action Doc))
    (h : (gatewayMachine R Doc).Meets (KnowsWhatItDelivers R) .empty actions) :
    (gatewayRun R actions).Truthful (gatewayLog R actions) := by
  refine ((gatewayMachine R Doc).log_induction_meeting
    (P := fun w log => w.Owned log ∧ w.Receipted ∧ w.Swept ∧ w.Dated log ∧ w.Truthful log)
    ?_ (l := []) ⟨gatewayRun_owned R [], ?_, ?_, ?_, ?_⟩ actions h).2.2.2.2
  · rintro w log action w' out ⟨hw, hr, hswept, hdated, htruth⟩ hknows hstep
    have hperforms := World.step_performs hstep
    have heffects := hperforms.effectStep
    exact ⟨hw.step hstep, hr.step hw heffects, hswept.step hw hr hperforms,
      hdated.step hw heffects, htruth.step hw hdated hswept heffects
        fun call order effects known found => hknows w' out call order effects known found hstep⟩
  · rintro id record ⟨⟩
  · rintro k sweep ⟨⟩
  · constructor
    · rintro id record ⟨⟩
    · intro id _
      rfl
  · rintro id record ⟨⟩

/-- **A receipt and the money.** Over every run of the gateway an order is delivered by an event, never
by a payment that is presented; the receipt is stored in the step that delivers it, and it names the one
instant at which the order's charge was reported settled, with a sweep writing the same receipt but for
its identifier, exactly where the order knows its money: where it entered `paid` by its charge, if it
is charged at the purchase, and where it is settled in the instant it was paid for, if it is charged
after its goods. Where that is so of every delivery of a run, every delivered order it comes to has a
receipt that tells the truth. -/
theorem receipt_and_money (R : Runtime) (actions : List (Action Doc)) :
    (∀ action w' out, (gatewayRun R actions).step R action = .ok (w', out) →
      (∀ id before after, (gatewayRun R actions).store.orderById id = some before →
        w'.store.orderById id = some after → before.order.state ≠ .delivered →
        after.order.state = .delivered →
        ∃ call effects, call.orderId = id ∧
          .applied call (some (.decided (.ok (after.order, effects)) after)) ∈ out) ∧
      ∀ call order effects known found,
        .applied call (some (.decided (.ok (order, effects)) known)) ∈ out →
        (gatewayRun R actions).store.orderById call.orderId = some found →
        found.order.state ≠ .delivered → order.state = .delivered →
        ∃ held, w'.store.receipts.get call.orderId = some held ∧
          (held.receipt.TellsTruth known
              (settledInstants call.orderId (gatewayLog R actions ++ Reactor.stepLog action out)) ↔
            found.order.KnowsItsMoney call.event.at)) ∧
    ((gatewayMachine R Doc).Meets (KnowsWhatItDelivers R) .empty actions →
      (gatewayRun R actions).Truthful (gatewayLog R actions)) := by
  have hw := gatewayRun_owned R actions
  refine ⟨fun action w' out hstep => ?_, gatewayRun_truthful R actions⟩
  have heffects := (World.step_performs hstep).effectStep
  refine ⟨fun id before after hb ha hs hd => ?_, fun call order effects known found hin hf hs hd =>
    heffects.tells_truth hw (gatewayRun_dated R actions) hin hf hs hd⟩
  have hne : after.order ≠ before.order := fun hsame => hs (hsame ▸ hd)
  rcases heffects.reported hb ha hne with hevent | ⟨shown, effects, rfl, hin⟩
  · exact hevent
  · obtain ⟨found, t, hf, hdr, -⟩ := heffects.presented hin
    cases hf.symm.trans hb
    exact absurd hd (driven_undelivered (hw.records hb).2.1 hs (fun _ he => mem_eventsForVerifiedPayment he) hdr)

/-! ## A receipt that does not tell the truth -/

/-- The charge of an order does not report back in time, and the order is closed on the guess that
nothing was taken; then it reports that it went through, and the order is a debt. -/
def sampleDebt : List (Action String) :=
  [.movePayoutWallet "mrc_1" (some "0xshop"),
    .create 0 chargedFirst 0 (fun _ => "env_0") none] ++
  samplePayment 0 "signed-1" "print-1" 4 ++
  [.present 0 1 5 5 (fun _ => "env_1") none,
    .carryOut 1,
    .apply 2
      { orderId := "ord_1", event := .deadlineExpired 35 .settleResponse } 35 (fun _ => "env_2") none,
    .settle 1 (.settled "txn_1") 40 (fun _ => "env_3") none]

/-- The merchant delivers against a debt nobody knew of when the order was paid for, and the receipt
says the money moved when the goods did. -/
theorem receipt_dated_by_delivery :
    ¬ ∀ (actions : List (Action String)) (action : Action String) (w' : World String)
      (out : List (Notice String)) (call : ApplyCall String) (order : Order) (effects : List Effect)
      (known found : StoredOrder String) (held : HeldReceipt),
      (gatewayRun sampleRuntime actions).step sampleRuntime action = .ok (w', out) →
      .applied call (some (.decided (.ok (order, effects)) known)) ∈ out →
      (gatewayRun sampleRuntime actions).store.orderById call.orderId = some found →
      found.order.state ≠ .delivered → order.state = .delivered →
      w'.store.receipts.get call.orderId = some held →
      held.receipt.TellsTruth known
        (settledInstants call.orderId (gatewayLog sampleRuntime actions ++ Reactor.stepLog action out)) := by
  intro h
  obtain ⟨⟨t, hone, hat⟩, -⟩ := h sampleDebt
    (.apply 3
      { orderId := "ord_1"
        event := .state (.deliverCalled 50)
        facts := { delivery := some "goods", openDeliveryId := some none }
        scope := some "mrc_1" } 50 (fun _ => "rcp_1") none)
    _ _ _ _ _ _ _ _ rfl (List.mem_append_right _ (List.mem_singleton.2 rfl)) rfl (by decide) rfl rfl
  have hsettled : [5] = [t] := hone
  have hpaid : asTimestamp 50 = asTimestamp t := hat
  cases hsettled
  exact absurd hpaid (by decide)

end Coinslot
