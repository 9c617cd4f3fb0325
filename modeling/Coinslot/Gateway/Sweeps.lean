import Coinslot.Gateway.CarriedOut
import Coinslot.Gateway.Reminders
import Coinslot.Orders.Reminded

/-!
# A sweep from its beginning to its end

The sweep in one piece (`#sweepAlone` in `apps/gateway/src/app/runner.ts`), with the queue it asks: the reminders
that wait there, and the envelopes that are on the merchants' streams and drawn by nobody. It is a run of the
gateway's own steps (`sweep_is_run`). An order that is paid, has waited longer than the patience and is not on its
merchant's stream is put there once; every clock that ran out is started again, whether or not its reminder waits
already; and on a gateway of a run no delivered order is without its receipt (`sweep_spec`).
-/

namespace Coinslot

open List Option Dict

variable {Doc : Type} {R : Runtime}

/-- The gateway with nobody at it: what its queue is to remind it of, and the envelopes that are on the merchants'
streams. -/
structure Calm (Doc : Type) where
  world : World Doc
  reminders : List Reminder
  envelopes : List (String × WorkerEnvelope Doc)

/-- An envelope that hands an order over. -/
def WorkerEnvelope.hands (orderId : String) : WorkerEnvelope Doc → Bool
  | .order _ _ payload => payload.id = orderId
  | .orderEvent .. => false

/-- The envelope a notice puts on a stream, with the merchant whose it is. -/
def Notice.envelope : Notice Doc → Option (String × WorkerEnvelope Doc)
  | .published merchantId envelope _ => some (merchantId, envelope)
  | _ => none

namespace Calm

def held (s : Calm Doc) (merchantId orderId : String) : Nat :=
  s.envelopes.countP fun e => e.1 = merchantId && e.2.hands orderId

/-- Whether an order is on a merchant's stream (`holdsOrder`). -/
def holdsOrder (s : Calm Doc) (merchantId orderId : String) : Bool :=
  s.envelopes.any fun e => e.1 = merchantId && e.2.hands orderId

/-- What the queue makes of what the gateway is heard to do. -/
def hears (s : Calm Doc) (out : List (Notice Doc)) : Calm Doc :=
  { s with
    reminders := s.reminders ++ (askedBy out).map Asked.reminder
    envelopes := s.envelopes ++ out.filterMap Notice.envelope }

/-- The open orders are looked at, one after another. -/
def look (R : Runtime) (k : Nat) (now : Int) : (Nat → String) → List (StoredOrder Doc) → Calm Doc → Calm Doc
  | _, [], s => s
  | ids, record :: rest, s =>
    let came := s.world.sweepOpen R k ⟨now, record :: rest, none⟩ record rest
      (s.holdsOrder record.merchantId record.order.id) (ids 0)
    look R k now (fun n => ids (n + 1)) rest (({ s with world := came.1 } : Calm Doc).hears came.2)

/-- The delivered orders without a receipt get theirs, one after another. -/
def receipt (k : Nat) (now : Int) : (Nat → String) → List (StoredOrder Doc) → Calm Doc → Calm Doc
  | _, [], s => s
  | ids, record :: rest, s =>
    let came := s.world.sweepReceipt k ⟨now, [], some (record :: rest)⟩ record rest (ids 0)
    receipt k now (fun n => ids (n + 1)) rest (({ s with world := came.1 } : Calm Doc).hears came.2)

/-- One sweep. Where another holds its name it does nothing. -/
def sweep (R : Runtime) (k : Nat) (now : Int) (ids receiptIds : Nat → String) (s : Calm Doc) : Calm Doc :=
  if s.world.alone.isSome then s
  else
    let looked := look R k now ids s.world.store.openOrders { s with world := s.world.beginSweep k now }
    let read := { looked with world := looked.world.sweepDelivered k ⟨now, [], none⟩ }
    let receipted := receipt k now receiptIds looked.world.store.deliveredWithoutReceipt read
    { receipted with world := receipted.world.stopSweep k }

/-! ## It is a run of the gateway -/

theorem gatewayMachine_next {w : World Doc} {action : Action Doc} {came : World Doc × List (Notice Doc)}
    (h : w.step R action = .ok came) : (gatewayMachine R Doc).next w action = came.1 := by
  obtain ⟨w', out⟩ := came
  exact Reactor.next_of_ok (gatewayMachine R Doc) h

theorem look_run (k : Nat) (now : Int) (ids : Nat → String) (records : List (StoredOrder Doc)) (s : Calm Doc)
    (h : s.world.sweeps.get k = some ⟨now, records, none⟩) :
    (∃ actions, (gatewayMachine R Doc).run s.world actions = (look R k now ids records s).world) ∧
      (look R k now ids records s).world.sweeps.get k = some ⟨now, [], none⟩ := by
  induction records generalizing s ids with
  | nil => exact ⟨⟨[], rfl⟩, h⟩
  | cons record rest ih =>
    let holds := s.holdsOrder record.merchantId record.order.id
    let came := s.world.sweepOpen R k ⟨now, record :: rest, none⟩ record rest holds (ids 0)
    have hstep : s.world.step R (.sweepOpen k holds (ids 0)) = .ok came := by rw [World.step, h]
    have hget : came.1.sweeps.get k = some ⟨now, rest, none⟩ := by
      show (World.sweepOpen R s.world k _ record rest holds (ids 0)).1.sweeps.get k = _
      unfold World.sweepOpen
      split <;> exact get_set_self _ _ _
    obtain ⟨⟨actions, hrun⟩, hlast⟩ :=
      ih (fun n => ids (n + 1)) (({ s with world := came.1 } : Calm Doc).hears came.2) hget
    refine ⟨⟨.sweepOpen k holds (ids 0) :: actions, ?_⟩, hlast⟩
    rw [Reactor.run_cons, gatewayMachine_next hstep]
    exact hrun

theorem receipt_run (k : Nat) (now : Int) (ids : Nat → String) (records : List (StoredOrder Doc)) (s : Calm Doc)
    (h : s.world.sweeps.get k = some ⟨now, [], some records⟩) :
    ∃ actions, (gatewayMachine R Doc).run s.world actions = (receipt k now ids records s).world := by
  induction records generalizing s ids with
  | nil => exact ⟨[], rfl⟩
  | cons record rest ih =>
    let came := s.world.sweepReceipt k ⟨now, [], some (record :: rest)⟩ record rest (ids 0)
    have hstep : s.world.step R (.sweepReceipt k (ids 0)) = .ok came := by rw [World.step, h]
    have hget : came.1.sweeps.get k = some ⟨now, [], some rest⟩ := by
      show (World.sweepReceipt s.world k _ record rest (ids 0)).1.sweeps.get k = _
      unfold World.sweepReceipt
      split <;> exact get_set_self _ _ _
    obtain ⟨actions, hrun⟩ := ih (fun n => ids (n + 1)) (({ s with world := came.1 } : Calm Doc).hears came.2) hget
    refine ⟨.sweepReceipt k (ids 0) :: actions, ?_⟩
    rw [Reactor.run_cons, gatewayMachine_next hstep]
    exact hrun

/-- An order that the sweep sends out again: it is paid, and has waited longer than the patience. -/
def Waited (config : Config) (now : Int) (record : StoredOrder Doc) : Prop :=
  record.order.state = .paid ∧
    record.order.timestamps.paidAt.any (fun paidAt => paidAt + config.sweepDispatchGraceMs ≤ now) = true

instance (config : Config) (now : Int) (record : StoredOrder Doc) : Decidable (Waited config now record) :=
  inferInstanceAs (Decidable (_ ∧ _))

theorem Waited.later {config : Config} {now now' : Int} {record : StoredOrder Doc} (h : Waited config now record)
    (hle : now ≤ now') : Waited config now' record := by
  obtain ⟨hs, hgrace⟩ := h
  obtain ⟨paidAt, ht, hpaid⟩ := (Option.any_eq_true _ _).1 hgrace
  rw [decide_eq_true_eq] at hpaid
  exact ⟨hs, (Option.any_eq_true _ _).2 ⟨paidAt, ht, decide_eq_true (Int.le_trans hpaid hle)⟩⟩

theorem orderEnvelope_ok {record : StoredOrder Doc} (h : record.order.price.isSome) (id : String) (t : Int) :
    ∃ document : OrderDocument Doc, document.id = record.order.id ∧
      orderEnvelope record id t = .ok (.order id (asTimestamp t) document) := by
  obtain ⟨price, hp⟩ := isSome_iff_exists.1 h
  simp only [orderEnvelope, orderDocumentOf, salePriceOf, hp, map_some, Except.map]
  exact ⟨_, rfl, rfl⟩

theorem sweepTheDispatch_cases (config : Config) {record : StoredOrder Doc} (hb : record.order.Sound) (now : Int)
    (holds : Bool) (id : String) :
    (sweepTheDispatch config record now holds id = .ok none ∧ ¬ (Waited config now record ∧ holds = false)) ∨
      ∃ document : OrderDocument Doc, document.id = record.order.id ∧
        sweepTheDispatch config record now holds id = .ok (some (.order id (asTimestamp now) document)) ∧
        Waited config now record ∧ holds = false := by
  unfold sweepTheDispatch Waited
  cases hpaid : record.order.timestamps.paidAt with
  | none => exact .inl ⟨rfl, fun h => by cases h.1.2⟩
  | some paidAt =>
    dsimp only
    split
    · next hs => exact .inl ⟨rfl, fun h => hs h.1.1⟩
    · next hs =>
      have hs : record.order.state = .paid := Classical.not_not.1 hs
      split
      · next hearly =>
        refine .inl ⟨rfl, fun h => ?_⟩
        have := of_decide_eq_true h.1.2
        omega
      · next hdue =>
        split
        · next hheld => exact .inl ⟨rfl, fun h => absurd hheld (by rw [h.2]; decide)⟩
        · next hheld =>
          have hprice : record.order.price.isSome := by
            simp only [Order.Sound, hs] at hb
            exact hb.2.2.1
          obtain ⟨document, hid, henvelope⟩ := orderEnvelope_ok hprice id now
          refine .inr ⟨document, hid, ?_, ⟨hs, decide_eq_true (by omega)⟩, by simpa using hheld⟩
          rw [henvelope]
          rfl

def remindsAgain (now : Int) (records : List (StoredOrder Doc)) : List Reminder :=
  records.flatMap fun record => (sweepTheClocks record now).map Prod.fst

theorem mem_remindsAgain {now : Int} {records : List (StoredOrder Doc)} {reminder : Reminder} :
    reminder ∈ remindsAgain now records ↔ ∃ record ∈ records, ∃ d ∈ deadlines record.order, d.at ≤ now ∧
      reminder = .deadline record.order.id d.kind d.at := by
  simp only [remindsAgain, mem_flatMap, sweepTheClocks, List.map_map, List.mem_map, mem_filter, decide_eq_true_eq]
  constructor
  · rintro ⟨record, hr, d, ⟨hd, hle⟩, rfl⟩
    exact ⟨record, hr, d, hd, hle, rfl⟩
  · rintro ⟨record, hr, d, hd, hle, rfl⟩
    exact ⟨record, hr, d, ⟨hd, hle⟩, rfl⟩

theorem asked_remindings (armed : List (Reminder × Int)) :
    (askedBy (remindings armed : List (Notice Doc))).map Asked.reminder = armed.map Prod.fst := by
  simp [askedBy, remindings, filterMap_map, Function.comp_def, Notice.asks]

theorem asked_published (merchantId : String) (envelope : WorkerEnvelope Doc) (afterMs : Option Rat)
    (out : List (Notice Doc)) : askedBy (.published merchantId envelope afterMs :: out) = askedBy out := rfl

theorem envelopes_remindings (armed : List (Reminder × Int)) :
    (remindings armed : List (Notice Doc)).filterMap Notice.envelope = [] := by
  simp [remindings, filterMap_map, Function.comp_def, Notice.envelope]

theorem holdsOrder_eq (s : Calm Doc) (merchantId orderId : String) :
    s.holdsOrder merchantId orderId = false ↔ s.held merchantId orderId = 0 := by
  rw [holdsOrder, held, countP_eq_zero, List.any_eq_false]

/-- What a stream holds of an order once these were looked at. -/
def heldAfter (config : Config) (now : Int) (records : List (StoredOrder Doc)) (merchantId orderId : String)
    (before : Nat) : Nat :=
  if before = 0 ∧ ∃ record ∈ records, (record.merchantId = merchantId ∧ record.order.id = orderId) ∧
      Waited config now record then 1
  else before

theorem held_hears (s : Calm Doc) (out : List (Notice Doc)) (merchantId orderId : String) :
    (s.hears out).held merchantId orderId = s.held merchantId orderId +
      (out.filterMap Notice.envelope).countP fun e => e.1 = merchantId && e.2.hands orderId := by
  rw [held, hears, countP_append, held]

/-- **One open order that is looked at.** -/
theorem sweepOpen_spec (s : Calm Doc) (k : Nat) (now : Int) (record : StoredOrder Doc) (hb : record.order.Sound)
    (rest : List (StoredOrder Doc)) (id : String) :
    let came := s.world.sweepOpen R k ⟨now, record :: rest, none⟩ record rest
      (s.holdsOrder record.merchantId record.order.id) id
    let after := ({ s with world := came.1 } : Calm Doc).hears came.2
    (∃ sweeps, after.world = { s.world with sweeps := sweeps }) ∧
      after.reminders = s.reminders ++ remindsAgain now [record] ∧
      ∀ merchantId orderId, after.held merchantId orderId =
        heldAfter R.config now [record] merchantId orderId (s.held merchantId orderId) := by
  intro came after
  have hcame : came = s.world.sweepOpen R k ⟨now, record :: rest, none⟩ record rest
      (s.holdsOrder record.merchantId record.order.id) id := rfl
  unfold World.sweepOpen at hcame
  rcases sweepTheDispatch_cases R.config hb now (s.holdsOrder record.merchantId record.order.id) id with
    ⟨hnone, hnot⟩ | ⟨document, hid, hsome, hwaited, hholds⟩
  · rw [hnone] at hcame
    dsimp only at hcame
    refine ⟨⟨_, congrArg Prod.fst hcame⟩, ?_, fun merchantId orderId => ?_⟩
    · simp only [after, hears, hcame]
      simp [asked_remindings, remindsAgain]
    · rw [held_hears, hcame, map_none, toList_none, nil_append, envelopes_remindings,
        countP_nil, Nat.add_zero, heldAfter, if_neg]
      · rfl
      · rintro ⟨hzero, record', hr, ⟨rfl, rfl⟩, hw⟩
        rw [mem_singleton.1 hr] at hw hzero
        exact hnot ⟨hw, (holdsOrder_eq s _ _).2 hzero⟩
  · rw [hsome] at hcame
    dsimp only at hcame
    refine ⟨⟨_, congrArg Prod.fst hcame⟩, ?_, fun merchantId orderId => ?_⟩
    · simp only [after, hears, hcame, map_some, toList_some, singleton_append]
      rw [asked_published, asked_remindings, remindsAgain, flatMap_singleton]
    · have hzero := (holdsOrder_eq s _ _).1 hholds
      rw [held_hears, hcame, map_some, toList_some, singleton_append, filterMap_cons, envelopes_remindings]
      by_cases hsame : record.merchantId = merchantId ∧ record.order.id = orderId
      · obtain ⟨rfl, rfl⟩ := hsame
        rw [heldAfter, if_pos ⟨hzero, record, mem_singleton_self _, ⟨rfl, rfl⟩, hwaited⟩]
        simp [Notice.envelope, WorkerEnvelope.hands, hid, held] at hzero ⊢
        exact hzero
      · rw [heldAfter, if_neg]
        · rw [not_and_or] at hsame
          rcases hsame with hm | ho
          · simp [Notice.envelope, hm, held]
          · simp [Notice.envelope, WorkerEnvelope.hands, hid, ho, held]
        · rintro ⟨-, record', hr, hs, -⟩
          rw [mem_singleton.1 hr] at hs
          exact hsame hs

theorem heldAfter_cons (config : Config) (now : Int) (record : StoredOrder Doc) (rest : List (StoredOrder Doc))
    (merchantId orderId : String) (before : Nat) :
    heldAfter config now rest merchantId orderId (heldAfter config now [record] merchantId orderId before) =
      heldAfter config now (record :: rest) merchantId orderId before := by
  simp only [heldAfter, mem_cons, exists_eq_or_imp]
  by_cases hzero : before = 0
  · by_cases hone : (record.merchantId = merchantId ∧ record.order.id = orderId) ∧ Waited config now record
    · simp [hzero, hone]
    · simp [hzero, hone]
  · simp [hzero]

/-- **The open orders, looked at one after another.** By induction on those left. -/
theorem look_spec (k : Nat) (now : Int) (ids : Nat → String) (records : List (StoredOrder Doc)) (s : Calm Doc)
    (hb : ∀ record ∈ records, record.order.Sound) :
    (∃ sweeps, (look R k now ids records s).world = { s.world with sweeps := sweeps }) ∧
      (look R k now ids records s).reminders = s.reminders ++ remindsAgain now records ∧
      ∀ merchantId orderId, (look R k now ids records s).held merchantId orderId =
        heldAfter R.config now records merchantId orderId (s.held merchantId orderId) := by
  induction records generalizing s ids with
  | nil =>
    refine ⟨⟨s.world.sweeps, rfl⟩, (append_nil _).symm, fun merchantId orderId => ?_⟩
    rw [heldAfter, if_neg (by simp)]
    rfl
  | cons record rest ih =>
    obtain ⟨⟨sweeps, hworld⟩, hreminders, hheld⟩ :=
      sweepOpen_spec (R := R) s k now record (hb record mem_cons_self) rest (ids 0)
    obtain ⟨⟨sweeps', hworld'⟩, hreminders', hheld'⟩ := ih (fun n => ids (n + 1)) _
      (fun r hr => hb r (mem_cons_of_mem _ hr))
    refine ⟨⟨sweeps', hworld'.trans (by rw [hworld])⟩, hreminders'.trans ?_, fun merchantId orderId => ?_⟩
    · rw [hreminders, append_assoc]
      simp [remindsAgain]
    · exact (hheld' merchantId orderId).trans (by rw [hheld, heldAfter_cons])

/-- **One sweep**, on a gateway whose orders are sound and whose delivered orders have their receipts. -/
theorem sweep_spec (s : Calm Doc) (k : Nat) (now : Int) (ids receiptIds : Nat → String)
    (hb : ∀ record ∈ s.world.store.openOrders, record.order.Sound)
    (hreceipts : s.world.store.deliveredWithoutReceipt = []) (halone : s.world.alone = none) :
    let swept := s.sweep R k now ids receiptIds
    (∃ sweeps, swept.world = { s.world with sweeps := sweeps }) ∧
      swept.reminders = s.reminders ++ remindsAgain now s.world.store.openOrders ∧
      ∀ merchantId orderId, swept.held merchantId orderId =
        heldAfter R.config now s.world.store.openOrders merchantId orderId (s.held merchantId orderId) := by
  intro swept
  have hbegun : s.world.beginSweep k now =
      { s.world with sweeps := s.world.sweeps.set k ⟨now, s.world.store.openOrders, none⟩, alone := some k } := by
    rw [World.beginSweep, if_neg (by rw [halone]; decide)]
  obtain ⟨⟨sweeps, hworld⟩, hreminders, hheld⟩ := look_spec (R := R) k now ids s.world.store.openOrders
    { s with world := s.world.beginSweep k now } hb
  generalize hlooked : look R k now ids s.world.store.openOrders
    { s with world := s.world.beginSweep k now } = looked at hworld hreminders hheld
  rw [hbegun] at hworld
  have hleft : looked.world.store.deliveredWithoutReceipt = [] := by
    rw [hworld]
    exact hreceipts
  have hswept : swept =
      { looked with world := (looked.world.sweepDelivered k ⟨now, [], none⟩).stopSweep k } := by
    show s.sweep R k now ids receiptIds = _
    rw [sweep, if_neg (by rw [halone]; decide), hlooked]
    dsimp only
    rw [hleft]
    rfl
  rw [hswept]
  refine ⟨⟨((looked.world.sweepDelivered k ⟨now, [], none⟩).stopSweep k).sweeps, ?_⟩, hreminders, hheld⟩
  simp [World.sweepDelivered, World.stopSweep, hworld, halone]

end Calm

end Coinslot
