import Coinslot.Gateway.Receipts
import Coinslot.Gateway.Sweeps

/-!
# Sweeping twice

The reminders of a calm gateway are delivered one after another, in any order, until none is left
(`Calm.Drains`). A second sweep asks for no reminder but again, and puts no envelope where the first put one.
So whatever can come of two sweeps can come of the second alone, and the other way round (`sweeping_twice`): the
spare reminders are refused, because the deadline of each is done with once the first of its kind was delivered
(`Calm.Shadows.delivers`).
-/

namespace Coinslot

open List Dict

variable {Doc : Type} {R : Runtime}

/-! ## What a reminder comes to -/

theorem onReminder_reminds (now : Int) (reminder : Reminder) :
    Reminds (onReminder now reminder : ApplyCall Doc).event := by
  cases reminder with
  | deadline orderId kind t => exact .expiry t kind
  | deliveryUnanswered orderId handOver => exact .unanswered now

/-- The order a reminder is about. -/
def Reminder.orderId : Reminder → String
  | .deadline orderId _ _ => orderId
  | .deliveryUnanswered orderId _ => orderId

theorem onReminder_orderId (now : Int) (reminder : Reminder) :
    (onReminder now reminder : ApplyCall Doc).orderId = reminder.orderId := by
  cases reminder <;> rfl

theorem onReminder_scope (now : Int) (reminder : Reminder) :
    (onReminder now reminder : ApplyCall Doc).scope = none := by
  cases reminder <;> rfl

/-- What a reminder asks of the gateway: nothing that charges anybody, and nothing that cannot be written. -/
inductive Mild (o' : Order) : Effect → Prop
  | answer (a : MerchantAnswer) : Mild o' (.answerMerchant a)
  | verify : Mild o' .verifyPayment
  | confirmation : Mild o' .dispatchConfirmationRequest
  | debt (closure : Closure) : Mild o' (.markRefundDue closure)
  | redelivery {attempt : Nat} {delayMs : Rat} : o'.price.isSome → Mild o' (.redeliverOrder attempt delayMs)
  | unpaid : Mild o' (.emitMerchantEvent .unpaidAfterConfirmation)
  | unsettled : Mild o' (.emitMerchantEvent .paymentFailedAfterDelivery)
  | refund : o'.state = .refundDue → Mild o' (.emitMerchantEvent .refundDue)

section
variable {o o' : Order} {e : OrderEvent} {fx : List Effect}

theorem OnlyWords.mild (h : OnlyWords fx) : ∀ f ∈ fx, Mild o' f := by
  intro f hf
  rcases h f hf with ⟨a, rfl⟩ | rfl
  · exact .answer a
  · exact .unpaid

theorem mild_quoted (mode : OrderMode) : ∀ f ∈ effectsOnQuoted mode, Mild o' f := by
  unfold effectsOnQuoted
  split <;> intro f hf <;> rw [mem_singleton.1 hf]
  · exact .confirmation
  · exact .verify

/-- **What a reminder that is taken asks for.** -/
theorem Reminds.mild (he : Reminds e) (hb : o.Sound) (hm : Move o e o' fx) : ∀ f ∈ fx, Mild o' f := by
  have hb' := hm.sound hb
  have debts {held : Order} {closure : Closure} {extra : List Effect} (hx : OnlyAnswers extra) :
      ∀ f ∈ debtEffects closure ++ extra, Mild (closeWithoutMoney held .refundDue closure) f := by
    intro f hf
    rcases mem_append.1 hf with hf | hf
    · simp only [debtEffects, mem_cons, not_mem_nil, or_false] at hf
      rcases hf with rfl | rfl
      · exact .debt closure
      · exact .refund rfl
    · exact hx.words.mild f hf
  cases he with
  | expiry t kind =>
    cases hm with
    | sellsOnSilence _ _ => exact mild_quoted _
    | closes _ hx | chargeSilent _ _ hx => exact hx.mild
    | fulfilledSilent _ =>
      intro f hf
      rw [mem_singleton.1 hf]
      exact .unsettled
    | unpaidSilent _ _ | fails _ _ _ =>
      intro f hf
      cases hf
    | owes _ _ _ hx => exact debts hx
    | delivers _ _ hd _ | closesDebt _ hd _ => cases hd
  | unanswered t =>
    cases hm with
    | stands _ hx => exact hx.words.mild
    | sellsOnSilence _ hq => cases hq
    | closes _ hx => exact hx.mild
    | asksOnceMore hs =>
      intro f hf
      rw [mem_singleton.1 hf]
      simp only [Order.Sound, hs] at hb
      exact .redelivery hb.2.2.1
    | redelivers hh hs =>
      intro f hf
      rw [mem_singleton.1 hf]
      simp only [Order.Sound, hs] at hb'
      exact .redelivery hb'.2.2.1
    | fails _ _ _ =>
      intro f hf
      cases hf
    | owes _ _ _ hx => exact debts hx
    | delivers _ _ hd _ | closesDebt _ hd _ => cases hd

theorem Reminds.charges_nothing (he : Reminds e) (hb : o.Sound) (h : transition o e = .ok (o', fx)) :
    .executePayment ∉ fx := fun hf => by cases he.mild hb (transition_move hb h) _ hf

end

theorem Mild.writes {record : StoredOrder Doc} (hb : record.order.Sound) {f : Effect} (h : Mild record.order f)
    (before : Order) (id : String) (t : Int) : ∃ write, writeWithTheOrder record before id t f = .ok write := by
  cases h with
  | answer | verify | confirmation | debt => exact ⟨_, rfl⟩
  | redelivery hp =>
    obtain ⟨document, -, henvelope⟩ := Calm.orderEnvelope_ok hp id t
    exact ⟨_, by rw [writeWithTheOrder, henvelope]; rfl⟩
  | unpaid | unsettled => exact ⟨_, rfl⟩
  | refund hs =>
    simp only [Order.Sound, hs] at hb
    obtain ⟨-, -, ⟨closure, howes, hclosure⟩, hprice, -⟩ := hb
    obtain ⟨price, hp⟩ := Option.isSome_iff_exists.1 hprice
    cases howes <;>
      exact ⟨_, by simp [writeWithTheOrder, eventEnvelope, refundReasonOf, hp, hclosure, Except.map]; rfl⟩

theorem writesWithTheOrder_ok {record : StoredOrder Doc} {before : Order} {t : Int} {effects : List Effect}
    (h : ∀ f ∈ effects, ∀ id, ∃ write, writeWithTheOrder record before id t f = .ok write) (fresh : Nat → String) :
    ∃ alongside, writesWithTheOrder record before t fresh effects = .ok alongside := by
  induction effects generalizing fresh with
  | nil => exact ⟨[], rfl⟩
  | cons f rest ih =>
    obtain ⟨write, hw⟩ := h f mem_cons_self (fresh 0)
    obtain ⟨writes, hws⟩ := ih (fun g hg => h g (mem_cons_of_mem _ hg)) fun n => fresh (n + 1)
    exact ⟨write.toList ++ writes, by simp only [writesWithTheOrder, hw, hws, Except.map]⟩

theorem reminder_decides (config : Config) {found : StoredOrder Doc} (hb : found.order.Sound) (t now : Int)
    (reminder : Reminder) (fresh : Nat → String) :
    ∃ change, (applyDecision config (onReminder t reminder) now fresh found).outcome = .ok change := by
  have hd := applyDecision_decides config (onReminder t reminder) now fresh found
  have he := @onReminder_reminds Doc t reminder
  generalize applyDecision config (onReminder t reminder) now fresh found = decision at hd
  cases hd with
  | movedOn | refused | moved => exact ⟨_, rfl⟩
  | impossible _ ht hi =>
    have hviolations := ((transition_move hb ht).sound hb).honest.violations
    rw [refuseToWriteAnImpossibleOrder, hviolations] at hi
    cases hi
  | @unwritten order effects _ _ ht hw =>
    have hm := transition_move hb ht
    have hwrites : ∀ f ∈ effects, ∀ id, ∃ write,
        writeWithTheOrder (appliedRecord config (onReminder t reminder) found order effects) found.order id
          (onReminder t reminder : ApplyCall Doc).event.at f = .ok write :=
      fun f hf id => (he.mild hb hm f hf).writes (hm.sound hb) found.order id _
    obtain ⟨alongside, hok⟩ := writesWithTheOrder_ok hwrites fresh
    rw [hok] at hw
    cases hw

/-! ## Delivering -/

/-- A reminder that is delivered, what the clock says then, and the identifiers that are minted. -/
structure Delivery where
  reminder : Reminder
  now : Int
  fresh : Nat → String

/-- The gateway knows its orders. -/
def Store.Sound (store : Store Doc) : Prop := ∀ id record, store.orderById id = some record → record.order.Sound

/-- What the delivery of a reminder does to the gateway: its handler feeds the runner one event. What is carried
out after the hold writes nothing and charges nobody (`Reminds.charges_nothing`). -/
def Delivery.came (R : Runtime) (w : World Doc) (d : Delivery) : World Doc × List (Notice Doc) × Aftermath Doc :=
  w.apply R (onReminder d.now d.reminder) d.now d.fresh none

section
variable {w : World Doc} {d : Delivery}

theorem Delivery.not_lost (hb : w.store.Sound) (d : Delivery) : (d.came R w).2.2 ≠ .lost := by
  rw [came, World.apply]
  simp only [World.hold, Store.withOrder, onReminder_scope, Option.any_none, Bool.false_eq_true, if_false]
  cases hf : w.store.orderById (onReminder d.now d.reminder : ApplyCall Doc).orderId with
  | none => rintro ⟨⟩
  | some found =>
    obtain ⟨change, hchange⟩ := reminder_decides R.config (hb _ found hf) d.now d.now d.reminder d.fresh
    dsimp only
    rw [hchange]
    dsimp only
    unfold Decided.aftermath
    split <;> rintro ⟨⟩

/-- **What a delivery comes to.** Nothing happens, or one order takes its event. -/
inductive Delivery.Comes (R : Runtime) (w : World Doc) (d : Delivery) :
    World Doc × List (Notice Doc) × Aftermath Doc → Prop
  | nothing {came : Option (Decided Doc)} {call : ApplyCall Doc}
      (refused : ∀ id kind t record, d.reminder = .deadline id kind t → w.store.orderById id = some record →
        ∀ o' fx, transition record.order (.deadlineExpired t kind) ≠ .ok (o', fx)) :
      Comes R w d (w, [.applied call came], .finished)
  | taken {found : StoredOrder Doc} {order : Order} {effects : List Effect} {next : StoredOrder Doc}
      {w' : World Doc} {alongside : List (WithTheOrder Doc)} {notice : Notice Doc} {aftermath : Aftermath Doc}
      (hf : w.store.orderById d.reminder.orderId = some found)
      (ht : transition found.order (onReminder d.now d.reminder : ApplyCall Doc).event = .ok (order, effects))
      (hnext : next.order = order) (hs : w'.store.orders = w.store.orders.set d.reminder.orderId next)
      (hnotice : notice.asks = none) :
      Comes R w d (w', remindings (arm (deadlines found.order) (deadlines order) d.reminder.orderId d.now) ++
        publishings alongside ++ [notice], aftermath)

theorem Delivery.comes (hb : w.store.Sound) (d : Delivery) : d.Comes R w (d.came R w) := by
  have happlies := w.apply_applies R (onReminder d.now d.reminder) d.now d.fresh none
  have hlost := d.not_lost (R := R) hb
  unfold came at hlost ⊢
  have hid := @onReminder_orderId Doc d.now d.reminder
  generalize w.apply R (onReminder d.now d.reminder) d.now d.fresh none = came at happlies hlost
  cases happlies with
  | lost _ => exact absurd rfl hlost
  | notFound hn =>
    refine .nothing fun id kind t record hreminder hr => ?_
    obtain ⟨merchantId, hscope, -⟩ := hn record (by rw [hid, hreminder]; exact hr)
    rw [onReminder_scope] at hscope
    cases hscope
  | movedOn _ _ hm =>
    refine .nothing fun id kind t record hreminder => ?_
    obtain ⟨handOver, hwaits, -⟩ := hm
    rw [hreminder] at hwaits
    cases hwaits
  | refused hf _ ht =>
    refine .nothing fun id kind t record hreminder hr o' fx hok => ?_
    rw [hid, hreminder] at hf
    cases hf.symm.trans hr
    rw [hreminder] at ht
    cases ht.symm.trans hok
  | @moved found order effects alongside hf _ _ ht _ =>
    rw [hid] at hf ⊢
    have hnext : (appliedRecord R.config (onReminder d.now d.reminder) found order effects).order = order := rfl
    refine .taken hf ht hnext ?_ rfl
    exact w.store.saveOrder_orders alongside d.reminder.orderId
      (appliedRecord_merchantId R.config found order (onReminder d.now d.reminder) effects)

variable {came : World Doc × List (Notice Doc) × Aftermath Doc} {id key : String} {dl : Deadline}

section

variable (h : d.Comes R w came)
include h

theorem Delivery.Comes.record {record : StoredOrder Doc} (hr : came.1.store.orderById id = some record) :
    w.store.orderById id = some record ∨ ∃ found fx, id = d.reminder.orderId ∧ w.store.orderById id = some found ∧
        transition found.order (onReminder d.now d.reminder : ApplyCall Doc).event = .ok (record.order, fx) := by
  cases h with
  | nothing _ => exact .inl hr
  | taken hf ht hnext hs _ =>
    rcases orderById_of_set hs hr with ⟨rfl, rfl⟩ | hold
    · exact .inr ⟨_, _, rfl, hf, by rw [hnext]; exact ht⟩
    · exact .inl hold

section

variable (hb : w.store.Sound)
include hb

theorem Delivery.Comes.sound : came.1.store.Sound := by
  intro id record hr
  rcases h.record hr with hold | ⟨found, fx, -, hf, ht⟩
  · exact hb id record hold
  · exact (transition_move (hb id found hf) ht).sound (hb id found hf)

/-- A deadline nothing is left of: its order is past it, where there is such an order. -/
def Store.Spent (store : Store Doc) (id : String) (dl : Deadline) : Prop :=
  ∀ record, store.orderById id = some record → Coinslot.Spent record.order dl

def Store.Runs (store : Store Doc) (id : String) (dl : Deadline) : Prop :=
  ∃ record, store.orderById id = some record ∧ dl ∈ deadlines record.order

theorem Delivery.Comes.spent (hspent : w.store.Spent id dl) : came.1.store.Spent id dl := by
  intro record hr
  rcases h.record hr with hold | ⟨found, fx, -, hf, ht⟩
  · exact hspent record hold
  · exact (hspent found hf).stays (onReminder_reminds d.now d.reminder) (hb id found hf) ht

theorem Delivery.Comes.runs (hruns : w.store.Runs id dl) : came.1.store.Runs id dl ∨ came.1.store.Spent id dl := by
  obtain ⟨found, hf, hdl⟩ := hruns
  have hsound := hb id found hf
  by_cases hspent : came.1.store.Spent id dl
  · exact .inr hspent
  · simp only [Store.Spent, not_forall] at hspent
    obtain ⟨record, hr, hnot⟩ := hspent
    refine .inl ⟨record, hr, ?_⟩
    rcases h.record hr with hold | ⟨found', fx, -, hf', ht⟩
    · cases hf.symm.trans hold
      exact hdl
    · cases hf.symm.trans hf'
      refine Classical.byContradiction fun hgone => hnot ?_
      have he := @onReminder_reminds Doc d.now d.reminder
      generalize (onReminder d.now d.reminder : ApplyCall Doc).event = e at he ht
      by_cases hs : found.order.state = .created
      · cases he with
        | expiry t kind => exact spent_of_expired hsound hdl ht
        | unanswered t => exact absurd ht (not_undelivered_of_created hsound hs t)
      · obtain ⟨hpriced, hclocks⟩ := he.clocks hsound ht
        refine ⟨hpriced, fun d' hd' _ => ?_⟩
        have hone := hclocks hs d' hd'
        rw [((mem_deadlines hsound).1 hdl).deadlines, mem_singleton] at hone
        exact absurd (hone ▸ hd') hgone

/-- **The reminder of a deadline that runs ends it.** -/
theorem Delivery.Comes.ends (hruns : w.store.Runs id dl)
    (hd : d.reminder = .deadline id dl.kind dl.at) : came.1.store.Spent id dl := by
  obtain ⟨found, hf, hdl⟩ := hruns
  have hsound := hb id found hf
  obtain ⟨o', fx, hok⟩ := (expiry_accepted_iff hsound dl.at dl.kind).2 ⟨dl, hdl, rfl, Int.le_refl _⟩
  cases h with
  | nothing hrefused => exact absurd hok (hrefused id dl.kind dl.at found hd hf o' fx)
  | taken hf' ht hnext hs _ =>
    intro record hr
    have hid : d.reminder.orderId = id := by rw [hd]; rfl
    rw [hid] at hf' hs
    cases hf.symm.trans hf'
    rw [orderById_eq hs, get_set_self] at hr
    cases hr
    rw [hd] at ht
    rw [hnext]
    exact spent_of_expired hsound hdl ht

/-- **The reminder of a deadline that is done with does nothing.** -/
theorem Delivery.Comes.idles (hspent : w.store.Spent id dl)
    (hd : d.reminder = .deadline id dl.kind dl.at) : ∃ call c, came = (w, [.applied call c], .finished) := by
  cases h with
  | nothing _ => exact ⟨_, _, rfl⟩
  | taken hf ht _ _ _ =>
    rw [hd] at hf ht
    exact absurd ht ((hspent _ hf).refuses (hb _ _ hf))

end

end

end

theorem Delivery.came_congr {w w' : World Doc} (h : w'.store = w.store) (d : Delivery) :
    (d.came R w').1.store = (d.came R w).1.store ∧ (d.came R w').2.1 = (d.came R w).2.1 := by
  simp only [Delivery.came, World.apply, World.hold, h]
  generalize w.store.withOrder _ _ _ = held
  obtain ⟨store, armed, outcome⟩ := held
  cases outcome <;> exact ⟨rfl, rfl⟩

/-! ## Until none is left -/

namespace Calm

/-- A reminder is delivered: it is off the queue, and what its delivery asks for is on it. -/
def deliver (R : Runtime) (s : Calm Doc) (d : Delivery) : Calm Doc :=
  let came := d.came R s.world
  ({ s with world := came.1, reminders := s.reminders.erase d.reminder } : Calm Doc).hears came.2.1

/-- Reminders are delivered, in whatever order, until none is left. -/
inductive Drains (R : Runtime) : Calm Doc → List Delivery → Calm Doc → Prop
  | done {s : Calm Doc} (h : s.reminders = []) : Drains R s [] s
  | next {s last : Calm Doc} {d : Delivery} {rest : List Delivery} (h : d.reminder ∈ s.reminders)
      (hrest : Drains R (s.deliver R d) rest last) : Drains R s (d :: rest) last

/-- The same orders, the same receipts, and the same number of envelopes of each order. -/
structure Agrees (s s' : Calm Doc) : Prop where
  orders : s.world.store.orders = s'.world.store.orders
  receipts : s.world.store.receipts = s'.world.store.receipts
  held : ∀ merchantId orderId, s.held merchantId orderId = s'.held merchantId orderId

/-- A gateway beside another that has spare reminders: each of a deadline that is done with, or that runs and has
its reminder on the other's queue as well. -/
structure Shadows (once twice : Calm Doc) (spare : List Reminder) : Prop where
  store : twice.world.store = once.world.store
  sound : once.world.store.Sound
  held : ∀ merchantId orderId, twice.held merchantId orderId = once.held merchantId orderId
  reminders : twice.reminders.Perm (once.reminders ++ spare)
  spares : ∀ r ∈ spare, ∃ id dl, r = .deadline id dl.kind dl.at ∧
    (once.world.store.Spent id dl ∨ once.world.store.Runs id dl ∧ r ∈ once.reminders)

section
variable {once twice last : Calm Doc} {spare : List Reminder} {d : Delivery} {ds : List Delivery}

section

variable (h : Shadows once twice spare)
include h

theorem Shadows.agrees : Agrees twice once where
  orders := by rw [h.store]
  receipts := by rw [h.store]
  held := h.held

/-- **A reminder both have**, delivered to both. -/
theorem Shadows.delivers (hd : d.reminder ∈ once.reminders) :
    Shadows (once.deliver R d) (twice.deliver R d) spare := by
  obtain ⟨hstore, hout⟩ := d.came_congr (R := R) h.store
  have hcomes := d.comes (R := R) h.sound
  refine ⟨hstore, hcomes.sound h.sound, fun merchantId orderId => ?_, ?_, fun r hr => ?_⟩
  · simp only [deliver, held_hears, hout]
    exact congrArg (· + _) (h.held merchantId orderId)
  · have herased : (twice.reminders.erase d.reminder).Perm (once.reminders.erase d.reminder ++ spare) := by
      rw [← erase_append_left _ hd]
      exact h.reminders.erase _
    simp only [deliver, hears, hout]
    refine (herased.append_right _).trans ?_
    rw [append_assoc, append_assoc]
    exact perm_append_comm.append_left _
  · obtain ⟨id, dl, hdl, hspent | ⟨hruns, hin⟩⟩ := h.spares r hr
    · exact ⟨id, dl, hdl, .inl (hcomes.spent h.sound hspent)⟩
    · refine ⟨id, dl, hdl, ?_⟩
      by_cases hsame : d.reminder = r
      · exact .inl (hcomes.ends h.sound hruns (hsame.trans hdl))
      · rcases hcomes.runs h.sound hruns with hruns | hspent
        · exact .inr ⟨hruns, mem_append_left _ ((mem_erase_of_ne (Ne.symm hsame)).2 hin)⟩
        · exact .inl hspent

/-- **A spare reminder of a deadline that is done with** changes nothing. -/
theorem Shadows.idles (hd : d.reminder ∈ spare) {id : String} {dl : Deadline}
    (hspent : once.world.store.Spent id dl) (hdl : d.reminder = .deadline id dl.kind dl.at) :
    Shadows once (twice.deliver R d) (spare.erase d.reminder) := by
  have hsound : twice.world.store.Sound := by rw [h.store]; exact h.sound
  obtain ⟨call, c, hcame⟩ := (d.comes (R := R) hsound).idles hsound (by rw [h.store]; exact hspent) hdl
  refine ⟨?_, h.sound, fun merchantId orderId => ?_, ?_, fun r hr => h.spares r (mem_of_mem_erase hr)⟩
  · simp only [deliver, hcame, hears]
    exact h.store
  · simp only [deliver, hcame, held_hears]
    exact h.held merchantId orderId
  · simp only [deliver, hcame, hears]
    have herased : (twice.reminders.erase d.reminder).Perm (once.reminders ++ spare.erase d.reminder) := by
      refine (h.reminders.trans perm_append_comm).erase _ |>.trans ?_
      rw [erase_append_left _ hd]
      exact perm_append_comm
    exact (append_nil _).symm ▸ herased

end

/-- **Whatever comes with the spare reminders comes without them.** By induction on the deliveries. -/
theorem Shadows.drains_once (hd : Drains R twice ds last) (h : Shadows once twice spare) :
    ∃ ds' last', Drains R once ds' last' ∧ ds'.Sublist ds ∧ Agrees last last' := by
  induction hd generalizing once spare with
  | done hnone =>
    have hperm := h.reminders
    rw [hnone, nil_perm, append_eq_nil_iff] at hperm
    exact ⟨[], once, .done hperm.1, .slnil, h.agrees⟩
  | @next twice last d rest hin _ ih =>
    by_cases honce : d.reminder ∈ once.reminders
    · obtain ⟨ds', last', hdrains, hsub, hagrees⟩ := ih (h.delivers honce)
      exact ⟨d :: ds', last', .next honce hdrains, hsub.cons_cons d, hagrees⟩
    · have hspare : d.reminder ∈ spare := (mem_append.1 (h.reminders.mem_iff.1 hin)).resolve_left honce
      obtain ⟨id, dl, hdl, hspent | ⟨-, hboth⟩⟩ := h.spares _ hspare
      · obtain ⟨ds', last', hdrains, hsub, hagrees⟩ := ih (h.idles hspare hspent hdl)
        exact ⟨ds', last', hdrains, hsub.cons d, hagrees⟩
      · exact absurd hboth honce

theorem Shadows.drains_spares (h : Shadows once twice spare) (hnone : once.reminders = []) :
    ∃ ds last, Drains R twice ds last ∧ Agrees last once := by
  induction hlen : spare.length generalizing twice spare with
  | zero =>
    rw [length_eq_zero_iff] at hlen
    have hperm := h.reminders
    rw [hnone, hlen, append_nil, perm_nil] at hperm
    exact ⟨[], twice, .done hperm, h.agrees⟩
  | succ n ih =>
    obtain ⟨r, rest, rfl⟩ := exists_cons_of_length_eq_add_one hlen
    obtain ⟨id, dl, hdl, hspent | ⟨-, hin⟩⟩ := h.spares r mem_cons_self
    · let d : Delivery := ⟨r, 0, fun _ => ""⟩
      have hidle := h.idles (R := R) (d := d) mem_cons_self hspent hdl
      obtain ⟨ds, last, hdrains, hagrees⟩ := ih hidle (by rw [erase_cons_head]; simpa using hlen)
      refine ⟨d :: ds, last, .next (h.reminders.mem_iff.2 ?_) hdrains, hagrees⟩
      exact mem_append_right _ mem_cons_self
    · rw [hnone] at hin
      cases hin

/-- **Whatever comes without the spare reminders comes with them.** By induction on the deliveries. -/
theorem Shadows.drains_twice (hd : Drains R once ds last) (h : Shadows once twice spare) :
    ∃ ds' last', Drains R twice ds' last' ∧ ds.Sublist ds' ∧ Agrees last' last := by
  induction hd generalizing twice with
  | done hnone =>
    obtain ⟨ds', last', hdrains, hagrees⟩ := h.drains_spares hnone
    exact ⟨ds', last', hdrains, nil_sublist _, hagrees⟩
  | @next once last d rest hin _ ih =>
    obtain ⟨ds', last', hdrains, hsub, hagrees⟩ := ih (h.delivers hin)
    exact ⟨d :: ds', last', .next (h.reminders.mem_iff.2 (mem_append_left _ hin)) hdrains, hsub.cons_cons d, hagrees⟩

end

/-! ## There is an end -/

/-- The price of a reminder's order has come back, where there is such an order. -/
def Priced (store : Store Doc) (r : Reminder) : Prop :=
  ∀ record, store.orderById r.orderId = some record → record.order.state ≠ .created

section
variable {w : World Doc} {d : Delivery} {came : World Doc × List (Notice Doc) × Aftermath Doc}

theorem priced_comes (h : d.Comes R w came) (hb : w.store.Sound) {r : Reminder} (hr : Priced w.store r) :
    Priced came.1.store r := by
  intro record hrecord
  rcases h.record hrecord with hold | ⟨found, fx, -, hf, ht⟩
  · exact hr record hold
  · exact ((onReminder_reminds d.now d.reminder).clocks (hb _ found hf) ht).1

theorem asked_publishings (alongside : List (WithTheOrder Doc)) :
    askedBy (publishings alongside : List (Notice Doc)) = [] := by
  rw [askedBy, filterMap_eq_nil_iff]
  intro notice hn
  obtain ⟨write, -, hw⟩ := mem_filterMap.1 hn
  cases write with
  | envelope => cases hw; rfl
  | receipt => cases hw

theorem asked_comes (h : d.Comes R w came) (hb : w.store.Sound) :
    (∀ r ∈ (askedBy came.2.1).map Asked.reminder, Priced came.1.store r) ∧
      (Priced w.store d.reminder → askedBy came.2.1 = []) := by
  cases h with
  | nothing _ => exact ⟨fun r hr => absurd hr not_mem_nil, fun _ => rfl⟩
  | @taken found order effects next w' alongside notice aftermath hf ht hnext hs hnotice =>
    have hclocks := (onReminder_reminds d.now d.reminder).clocks (hb _ found hf) ht
    have hasked : (askedBy (remindings (arm (deadlines found.order) (deadlines order) d.reminder.orderId d.now) ++
        publishings alongside ++ [notice])).map Asked.reminder =
        (arm (deadlines found.order) (deadlines order) d.reminder.orderId d.now).map Prod.fst := by
      rw [askedBy, filterMap_append, filterMap_append, ← askedBy, ← askedBy, asked_publishings,
        map_append, map_append, asked_remindings]
      simp [hnotice]
    refine ⟨fun r hr record hrecord => ?_, fun hpriced => ?_⟩
    · rw [hasked] at hr
      obtain ⟨⟨reminder, wait⟩, harmed, rfl⟩ := mem_map.1 hr
      obtain ⟨dl, -, heq⟩ := mem_map.1 harmed
      cases heq
      have hget : w'.store.orderById d.reminder.orderId = some record := hrecord
      rw [orderById_eq hs, get_set_self] at hget
      cases hget
      rw [hnext]
      exact hclocks.1
    · have harm : arm (deadlines found.order) (deadlines order) d.reminder.orderId d.now = [] := by
        rw [arm, map_eq_nil_iff, filter_eq_nil_iff]
        intro dl hdl hnew
        have hold := hclocks.2 (hpriced found hf) dl hdl
        rw [Bool.not_eq_true', any_eq_false] at hnew
        exact hnew dl hold (by simp)
      exact map_eq_nil_iff.1 (hasked.trans (congrArg (List.map Prod.fst) harm))

end

/-- Where the price of every order that is reminded of is in, each delivery takes one reminder off the queue. By
induction on how many are on it. -/
theorem drains_priced (s : Calm Doc) (hb : s.world.store.Sound) (hp : ∀ r ∈ s.reminders, Priced s.world.store r) :
    ∃ ds last, Drains R s ds last := by
  induction hlen : s.reminders.length generalizing s with
  | zero => exact ⟨[], s, .done (length_eq_zero_iff.1 hlen)⟩
  | succ n ih =>
    obtain ⟨r, rest, hr⟩ := exists_cons_of_length_eq_add_one hlen
    have hin : r ∈ s.reminders := by rw [hr]; exact mem_cons_self
    let d : Delivery := ⟨r, 0, fun _ => ""⟩
    have hcomes := d.comes (R := R) hb
    have hnone : askedBy (d.came R s.world).2.1 = [] := (asked_comes hcomes hb).2 (hp r hin)
    have hqueue : (s.deliver R d).reminders = rest := by
      simp only [deliver, hears, hnone, map_nil, append_nil, hr]
      exact erase_cons_head _ _
    have hleft : ∀ r' ∈ rest, r' ∈ s.reminders := fun r' hr' => by rw [hr]; exact mem_cons_of_mem _ hr'
    obtain ⟨ds, last, hdrains⟩ := ih (s.deliver R d) (hcomes.sound hb)
      (fun r' hr' => priced_comes hcomes hb (hp r' (hleft r' (by rwa [hqueue] at hr'))))
      (by rw [hqueue]; simpa [hr] using hlen)
    exact ⟨d :: ds, last, .next hin hdrains⟩

/-- **Every queue can be drained.** The reminders that are there are delivered first; what those ask for is of
orders whose price is in. By induction on the first. -/
theorem drains_all (first later : List Reminder) (s : Calm Doc) (hs : s.reminders = first ++ later)
    (hb : s.world.store.Sound) (hp : ∀ r ∈ later, Priced s.world.store r) : ∃ ds last, Drains R s ds last := by
  induction first generalizing s later with
  | nil => exact drains_priced s hb (by rwa [hs])
  | cons r rest ih =>
    let d : Delivery := ⟨r, 0, fun _ => ""⟩
    have hcomes := d.comes (R := R) hb
    obtain ⟨ds, last, hdrains⟩ := ih (later ++ (askedBy (d.came R s.world).2.1).map Asked.reminder) (s.deliver R d)
      (by
        simp only [deliver, hears, hs, d, cons_append, erase_cons_head]
        rw [append_assoc])
      (hcomes.sound hb)
      (fun r' hr' => (mem_append.1 hr').elim (fun h => priced_comes hcomes hb (hp r' h))
        ((asked_comes hcomes hb).1 r'))
    exact ⟨d :: ds, last, .next (by rw [hs]; exact mem_cons_self) hdrains⟩

end Calm

open Calm

/-- A gateway of a run, with any reminders on its queue and any envelopes on its streams. -/
def calmRun (R : Runtime) (actions : List (Action Doc)) (reminders : List Reminder)
    (envelopes : List (String × WorkerEnvelope Doc)) : Calm Doc :=
  ⟨gatewayRun R actions, reminders, envelopes⟩

section
variable (actions : List (Action Doc)) (reminders : List Reminder) (envelopes : List (String × WorkerEnvelope Doc))

theorem calmRun_sound : (calmRun R actions reminders envelopes).world.store.Sound := fun _ _ hr =>
  ((gatewayRun_owned R actions).records hr).2.1

variable {now now' : Int}

theorem heldAfter_twice (config : Config) (hle : now ≤ now') (records : List (StoredOrder Doc))
    (merchantId orderId : String) (before : Nat) :
    heldAfter config now' records merchantId orderId (heldAfter config now records merchantId orderId before) =
      heldAfter config now' records merchantId orderId before := by
  by_cases hput : before = 0 ∧ ∃ record ∈ records, (record.merchantId = merchantId ∧ record.order.id = orderId) ∧
      Waited config now record
  · obtain ⟨hzero, record, hr, hsame, hwaited⟩ := hput
    have hlater : before = 0 ∧ ∃ record ∈ records, (record.merchantId = merchantId ∧ record.order.id = orderId) ∧
        Waited config now' record := ⟨hzero, record, hr, hsame, hwaited.later hle⟩
    rw [heldAfter, if_neg, heldAfter, if_pos ⟨hzero, record, hr, hsame, hwaited⟩, heldAfter, if_pos hlater]
    rw [heldAfter, if_pos ⟨hzero, record, hr, hsame, hwaited⟩]
    exact fun h => Nat.one_ne_zero h.1
  · rw [heldAfter.eq_def config now, if_neg hput]

/-- **The second of two sweeps beside the same sweep alone**: nothing tells the two but reminders that are there
already. -/
theorem shadows_twice (k k' : Nat) (hle : now ≤ now') (ids ids' receiptIds receiptIds' : Nat → String) :
    let s := calmRun R actions reminders envelopes
    ∃ spare, Shadows (s.sweep R k' now' ids' receiptIds')
      ((s.sweep R k now ids receiptIds).sweep R k' now' ids' receiptIds') spare := by
  intro s
  have hsound : s.world.store.Sound := calmRun_sound actions reminders envelopes
  have howned := gatewayRun_owned R actions
  have hreceipts : s.world.store.deliveredWithoutReceipt = [] := (gatewayRun_receipted R actions).none_left howned
  have hstored : ∀ record ∈ s.world.store.openOrders, s.world.store.orderById record.order.id = some record := by
    intro record hr
    obtain ⟨id, hid⟩ := exists_get_of_mem (mem_of_mem_filter hr)
    rw [(howned.records hid).1]
    exact hid
  have hopen : ∀ record ∈ s.world.store.openOrders, record.order.Sound :=
    fun record hr => hsound _ record (hstored record hr)
  cases halone : s.world.alone with
  | some held =>
    have hidle (k : Nat) (now : Int) (ids receiptIds : Nat → String) : s.sweep R k now ids receiptIds = s := by
      rw [sweep, if_pos (by rw [halone]; rfl)]
    rw [hidle, hidle, hidle]
    exact ⟨[], rfl, hsound, fun _ _ => rfl, by rw [append_nil], fun r hr => absurd hr not_mem_nil⟩
  | none =>
    obtain ⟨⟨sweeps, hworld⟩, hreminders, hheld⟩ := s.sweep_spec (R := R) k now ids receiptIds hopen hreceipts halone
    obtain ⟨⟨once, honce⟩, hreminders', hheld'⟩ :=
      s.sweep_spec (R := R) k' now' ids' receiptIds' hopen hreceipts halone
    generalize s.sweep R k now ids receiptIds = first at hworld hreminders hheld
    have hstore : first.world.store = s.world.store := by rw [hworld]
    obtain ⟨⟨twice, htwice⟩, hagain, hheldAgain⟩ := first.sweep_spec (R := R) k' now' ids' receiptIds'
      (by rw [hstore]; exact hopen) (by rw [hstore]; exact hreceipts) (by rw [hworld]; exact halone)
    rw [hstore] at hagain hheldAgain
    refine ⟨remindsAgain now s.world.store.openOrders, ?_, ?_, fun merchantId orderId => ?_, ?_, fun r hr => ?_⟩
    · rw [htwice, honce, hworld]
    · rw [honce]
      exact hsound
    · rw [hheldAgain, hheld', hheld, heldAfter_twice R.config hle]
    · rw [hagain, hreminders, hreminders', append_assoc, append_assoc]
      exact perm_append_comm.append_left _
    · obtain ⟨record, hin, d, hd, hdue, rfl⟩ := mem_remindsAgain.1 hr
      refine ⟨record.order.id, d, rfl, .inr ⟨⟨record, ?_, hd⟩, ?_⟩⟩
      · rw [honce]
        exact hstored record hin
      · rw [hreminders']
        exact mem_append_right _ (mem_remindsAgain.2 ⟨record, hin, d, hd, Int.le_trans hdue hle, rfl⟩)

/-- **Sweeping twice is sweeping once.** On every gateway of a run, whatever reminders are left on its queue and
whatever envelopes on its streams: where one sweep follows another with nothing in between, everything that can come
of delivering the reminders, in any order and with those they ask for, can come of the second sweep alone, by
deliveries that are among those, and the other way round; and there is such a delivery. -/
theorem sweeping_twice (R : Runtime) (k k' : Nat) {now now' : Int} (hle : now ≤ now')
    (ids ids' receiptIds receiptIds' : Nat → String) :
    let s := calmRun R actions reminders envelopes
    let once := s.sweep R k' now' ids' receiptIds'
    let twice := (s.sweep R k now ids receiptIds).sweep R k' now' ids' receiptIds'
    (∃ ds last, Drains R twice ds last) ∧
      (∀ ds last, Drains R twice ds last →
        ∃ ds' last', Drains R once ds' last' ∧ ds'.Sublist ds ∧ Agrees last last') ∧
      ∀ ds last, Drains R once ds last →
        ∃ ds' last', Drains R twice ds' last' ∧ ds.Sublist ds' ∧ Agrees last' last := by
  intro s once twice
  obtain ⟨spare, h⟩ :=
    shadows_twice (R := R) actions reminders envelopes k k' hle ids ids' receiptIds receiptIds'
  refine ⟨?_, fun ds last hd => h.drains_once hd, fun ds last hd => h.drains_twice hd⟩
  exact drains_all twice.reminders [] twice (List.append_nil _).symm (by rw [h.store]; exact h.sound)
    fun r hr => absurd hr List.not_mem_nil

/-- A synchronous order whose merchant works on it, on a gateway that lost its reminder. -/
theorem sweeping_twice_lost :
    let s := calmRun sampleRuntime (sampleReopening.take 7) [] []
    let once := s.sweep sampleRuntime 1 30 (fun _ => "env_8") fun _ => "rct_8"
    let twice := (s.sweep sampleRuntime 0 25 (fun _ => "env_7") fun _ => "rct_7").sweep sampleRuntime 1 30
      (fun _ => "env_8") fun _ => "rct_8"
    (∃ ds last, Drains sampleRuntime twice ds last) ∧
      (∀ ds last, Drains sampleRuntime twice ds last →
        ∃ ds' last', Drains sampleRuntime once ds' last' ∧ ds'.Sublist ds ∧ Agrees last last') ∧
      ∀ ds last, Drains sampleRuntime once ds last →
        ∃ ds' last', Drains sampleRuntime twice ds' last' ∧ ds.Sublist ds' ∧ Agrees last' last :=
  sweeping_twice (sampleReopening.take 7) [] [] sampleRuntime 0 1 (by decide) _ _ _ _

end

end Coinslot
