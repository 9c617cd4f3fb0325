import Coinslot.Gateway.Effects
import Coinslot.Orders.Promises

/-!
# The reminders

The gateway with the queue of the reminders it leaves itself (`apps/gateway/src/ports/queue.ts`,
`#onReminder` in `apps/gateway/src/app/gateway.ts`). A reminder that is asked for stands on the queue
until its handler returns; until then it may fire any number of times, at any time. A handler feeds the
runner one event, and is heard to return only after that; where it was cut off or thrown out of, the
reminder stands as it stood.

Whatever a step does to an order, the reminder of its running deadline stands (`Timed.Clocked`): a clock
that starts is armed in the step that starts it, and a reminder is done with only by an expiry the
machine took, after which no deadline of its kind runs, or refused, because its deadline was not
running.
-/

namespace Coinslot

open List

variable {Doc : Type} {R : Runtime}

/-! ## The queue -/

/-- How far a reminder on the queue has got: it waits for its handler to come to a decision, the
handler came to one, or the handler returned and the queue has let it go. -/
inductive ReminderStage where
  | waiting
  | handled
  | returned
  deriving DecidableEq, Repr

/-- A reminder the queue was asked for. -/
structure Asked where
  reminder : Reminder
  stage : ReminderStage
  deriving DecidableEq, Repr

/-- The gateway, with every reminder its queue was asked for. -/
structure Timed (Doc : Type) where
  world : World Doc
  reminders : List Asked

/-- A gateway nothing has happened to, and an empty queue. -/
def Timed.empty : Timed Doc := { world := .empty, reminders := [] }

/-- What a notice asks of the queue. -/
def Notice.asks : Notice Doc → Option Asked
  | .reminded reminder _ => some ⟨reminder, .waiting⟩
  | _ => none

def askedBy (out : List (Notice Doc)) : List Asked := out.filterMap Notice.asks

/-- The event a reminder is turned into (`#onReminder`). An expiry is dated by the reminder and not by
the clock; a silence counts only against the hand-over it was left for, and ends it. -/
def onReminder (now : Int) : Reminder → ApplyCall Doc
  | .deadline orderId deadline t => { orderId := orderId, event := .deadlineExpired t deadline }
  | .deliveryUnanswered orderId handOver =>
    { orderId := orderId
      event := .state (.handlerUndelivered now)
      facts := { openDeliveryId := some none }
      whileWaitingOn := some handOver }

/-- A call of `apply` that came to a decision. -/
def Aftermath.cameBack : Aftermath Doc → Bool
  | .lost => false
  | .finished | .runs _ => true

section

variable (R : Runtime)

/-- A reminder fires: its handler feeds the runner one event. Where that came to nothing the reminder
stands as it stood. -/
def Timed.fire (s : Timed Doc) (n : Nat) (reminder : Reminder) (task : Nat) (now : Int)
    (fresh : Nat → String) (cut : Option Nat) : Timed Doc × List (Notice Doc) :=
  let call := onReminder now reminder
  let came := s.world.applyAlone R task call now fresh cut
  let reminders :=
    if (s.world.apply R call now fresh cut).2.2.cameBack then s.reminders.set n ⟨reminder, .handled⟩
    else s.reminders
  ({ world := came.1, reminders := reminders ++ askedBy came.2 }, came.2)

/-- What can happen next to the gateway and its queue: anything that happens to the gateway, a reminder
that fires, or the handler of one that returns. -/
inductive Tick (Doc : Type) where
  | act (action : Action Doc)
  | fire (n task : Nat) (now : Int) (fresh : Nat → String) (cut : Option Nat)
  | returns (n : Nat)

/-- One step of the gateway and its queue. -/
def Timed.step (s : Timed Doc) : Tick Doc → Except NotOn (Timed Doc × List (Notice Doc))
  | .act action =>
    (s.world.step R action).map fun (world, out) =>
      ({ world := world, reminders := s.reminders ++ askedBy out }, out)
  | .fire n task now fresh cut =>
    match s.reminders[n]? with
    | some ⟨reminder, .waiting⟩ | some ⟨reminder, .handled⟩ =>
      if s.world.tasks.has task then .error .notOn
      else .ok (s.fire R n reminder task now fresh cut)
    | _ => .error .notOn
  | .returns n =>
    match s.reminders[n]? with
    | some ⟨reminder, .handled⟩ => .ok ({ s with reminders := s.reminders.set n ⟨reminder, .returned⟩ }, [])
    | _ => .error .notOn

def timedMachine (Doc : Type) : Reactor (Timed Doc) (Tick Doc) (Notice Doc) NotOn := ⟨Timed.step R⟩

/-- The gateway and the queue a list of steps leads to. -/
def timedRun (ticks : List (Tick Doc)) : Timed Doc := (timedMachine R Doc).run .empty ticks

end

/-- Everything a step of the gateway and its queue performs. -/
inductive Timed.Performs (R : Runtime) (s : Timed Doc) :
    Tick Doc → Timed Doc × List (Notice Doc) → Prop
  | act {action : Action Doc} {world : World Doc} {out : List (Notice Doc)} :
      s.world.step R action = .ok (world, out) →
      Performs R s (.act action) (⟨world, s.reminders ++ askedBy out⟩, out)
  | fire {n : Nat} {reminder : Reminder} {stage : ReminderStage} {task : Nat} (now : Int)
      (fresh : Nat → String) (cut : Option Nat) : s.reminders[n]? = some ⟨reminder, stage⟩ →
      s.world.tasks.has task = false →
      Performs R s (.fire n task now fresh cut) (s.fire R n reminder task now fresh cut)
  | returns {n : Nat} {reminder : Reminder} : s.reminders[n]? = some ⟨reminder, .handled⟩ →
      Performs R s (.returns n)
        ({ s with reminders := s.reminders.set n ⟨reminder, .returned⟩ }, [])

variable {s : Timed Doc} {tick : Tick Doc}

theorem Timed.step_performs {came : Timed Doc × List (Notice Doc)} (h : s.step R tick = .ok came) :
    s.Performs R tick came := by
  cases tick with
  | act action =>
    simp only [Timed.step] at h
    cases hw : s.world.step R action with
    | error r => simp [hw, Except.map] at h
    | ok res =>
      obtain ⟨world, out⟩ := res
      simp only [hw, Except.map, Except.ok.injEq] at h
      subst h
      exact .act hw
  | fire n task now fresh cut =>
    have fires {reminder : Reminder} {stage : ReminderStage}
        (hn : s.reminders[n]? = some ⟨reminder, stage⟩)
        (h : (if s.world.tasks.has task then Except.error NotOn.notOn
          else .ok (s.fire R n reminder task now fresh cut)) = .ok came) :
        s.Performs R (.fire n task now fresh cut) came := by
      split at h
      · cases h
      · next ht =>
        cases h
        exact .fire now fresh cut hn (by simpa using ht)
    simp only [Timed.step] at h
    split at h
    · next hn => exact fires hn h
    · next hn => exact fires hn h
    · cases h
  | returns n =>
    simp only [Timed.step] at h
    split at h
    · next hn =>
      cases h
      exact .returns hn
    · cases h

theorem timedMachine_within (R : Runtime) (Doc : Type) :
    (timedMachine R Doc).Within (gatewayMachine R Doc) Timed.world := by
  intro s tick s' out h
  have hp := Timed.step_performs h
  cases hp with
  | act hw => exact .inr ⟨_, _, hw⟩
  | @fire n reminder stage task now fresh cut _ ht =>
    refine .inr ⟨.apply task (onReminder now reminder) now fresh cut,
      (s.world.applyAlone R task (onReminder now reminder) now fresh cut).2, ?_⟩
    simp only [gatewayMachine, World.step, ht, Bool.false_eq_true, if_false]
  | returns _ => exact .inl rfl

/-! ## Every clock has its reminder -/

/-- Every deadline that runs on a stored order has a reminder waiting. -/
def World.ClockedBy (w : World Doc) (reminders : List Asked) : Prop :=
  ∀ id record d, w.store.orderById id = some record → d ∈ deadlines record.order →
    ⟨.deadline id d.kind d.at, .waiting⟩ ∈ reminders

section
variable {w w' : World Doc} {out : List (Notice Doc)} {reminders : List Asked}

theorem mem_arm {before after : List Deadline} {d : Deadline} (orderId : String) (now : Int) (h : d ∈ after) :
    d ∈ before ∨ (.deadline orderId d.kind d.at, max (d.at - now) 0) ∈ arm before after orderId now := by
  by_cases hb : d ∈ before
  · exact .inl hb
  · refine .inr (mem_map.2 ⟨d, mem_filter.2 ⟨h, ?_⟩, rfl⟩)
    rw [Bool.not_eq_true', any_eq_false]
    intro was hwas hsame
    simp only [Bool.and_eq_true, decide_eq_true_eq] at hsame
    obtain ⟨hk, ht⟩ := hsame
    refine hb ?_
    obtain ⟨kind, t⟩ := d
    obtain ⟨kind', t'⟩ := was
    dsimp only at hk ht
    rwa [← hk, ← ht]

theorem mem_askedBy {armed : List (Reminder × Int)} {reminder : Reminder} {afterMs : Int}
    (rest : List (Notice Doc)) (h : (reminder, afterMs) ∈ armed) :
    ⟨reminder, .waiting⟩ ∈ askedBy (remindings armed ++ rest) :=
  mem_filterMap.2 ⟨.reminded reminder afterMs, mem_append_left _ (mem_map.2 ⟨_, h, rfl⟩), rfl⟩

theorem World.ClockedBy.writes (h : w.ClockedBy reminders) {id : String}
    {next : StoredOrder Doc} {before : List Deadline} {now : Int} {rest : List (Notice Doc)}
    (hs : w'.store.orders = w.store.orders.set id next)
    (hbefore : ∀ d ∈ before, ⟨.deadline id d.kind d.at, .waiting⟩ ∈ reminders)
    (hout : out = remindings (arm before (deadlines next.order) id now) ++ rest) :
    w'.ClockedBy (reminders ++ askedBy out) := by
  intro key record d hr hd
  rcases orderById_of_set hs hr with ⟨rfl, rfl⟩ | hold
  · rcases mem_arm key now hd with hb | harmed
    · exact mem_append_left _ (hbefore d hb)
    · rw [hout]
      exact mem_append_right _ (mem_askedBy rest harmed)
  · exact mem_append_left _ (h key record d hold hd)

/-- **The step of the gateway arms the clocks it starts.** -/
theorem EffectStep.clocked {action : Action Doc} (hstep : EffectStep R w w' out action)
    (h : w.ClockedBy reminders) : w'.ClockedBy (reminders ++ askedBy out) := by
  have stands (ho : w'.store.orders = w.store.orders) :
      w'.ClockedBy (reminders ++ askedBy out) := by
    intro id record d hr hd
    rw [orderById_eq ho] at hr
    exact mem_append_left _ (h id record d hr hd)
  cases hstep with
  | stands ho _ _ => exact stands ho
  | receipts _ _ hs _ => exact stands (by rw [hs]; rfl)
  | puts hs _ => exact stands (by rw [hs])
  | @opens _ now sale _ hs hout =>
    have ho : w'.store.orders = w.store.orders.set sale.record.order.id sale.record := by rw [hs]
    refine h.writes ho ?_ (hout.trans (append_nil _).symm)
    rintro d ⟨⟩
  | @notes _ key word found hf hs _ =>
    have ho : w'.store.orders = w.store.orders.set key (alsoSaid R.config found word) := by rw [hs]
    intro id record d hr hd
    rcases orderById_of_set ho hr with ⟨rfl, rfl⟩ | hold
    · exact mem_append_left _ (h id found d hf hd)
    · exact mem_append_left _ (h id record d hold hd)
  | @applies _ call found order effects alongside now fresh _ hf ht hwrites hs hout _ =>
    exact h.writes ((congrArg Store.orders hs).trans (w.store.saveOrder_orders alongside
      call.orderId (appliedRecord_merchantId R.config found order call effects)))
      (fun d hd => h call.orderId found d hf hd) (hout.trans (append_assoc _ _ _))
  | @takes k task t now fresh cut call charge owner found order effects alongside hf hown hne hd
      hwrites hs hout htask =>
    exact h.writes ((congrArg Store.orders hs).trans (w.store.saveOrder_orders alongside
      call.orderId
      (presentedRecord_merchantId R.config found order (call.presentation charge owner) t)))
      (fun d hd => h call.orderId found d hf hd) (hout.trans (append_assoc _ _ _))

end

/-! ## A reminder that is done with -/

section
variable {w : World Doc}

theorem World.Applies.spends {log : GatewayLog Doc} (hw : w.Owned log) {id : String} {kind : DeadlineKind}
    {t now now' : Int} {fresh : Nat → String} {came : World Doc × List (Notice Doc) × Aftermath Doc}
    (h : w.Applies R (onReminder now (.deadline id kind t)) now' fresh came) (hcame : came.2.2.cameBack = true)
    {record : StoredOrder Doc} {d : Deadline} (hr : came.1.store.orderById id = some record)
    (hd : d ∈ deadlines record.order) :
    Reminder.deadline id kind t ≠ .deadline id d.kind d.at := by
  intro hsame
  injection hsame with _ hkind hat
  cases h with
  | lost _ => cases hcame
  | notFound hn =>
    obtain ⟨merchantId, hscope, -⟩ := hn record hr
    cases hscope
  | movedOn _ _ hm =>
    obtain ⟨handOver, hwaits, -⟩ := hm
    cases hwaits
  | @refused found known rejection hf _ ht =>
    cases hf.symm.trans hr
    have hb := (hw.records hf).2.1
    obtain ⟨o', fx, hok⟩ := (expiry_accepted_iff hb t kind).2 ⟨d, hd, hkind.symm, Int.le_of_eq hat.symm⟩
    cases ht.symm.trans hok
  | @moved found order effects alongside hf _ _ ht _ =>
    have hb := (hw.records hf).2.1
    have hwritten : (w.writes id found (appliedRecord R.config (onReminder now (.deadline id kind t))
        found order effects) alongside).store.orders = w.store.orders.set id _ :=
      w.store.saveOrder_orders alongside id
        (appliedRecord_merchantId R.config found order (onReminder now (.deadline id kind t)) effects)
    have hrecord : record = appliedRecord R.config (onReminder now (.deadline id kind t)) found order
        effects := by
      have hget := (orderById_eq hwritten id).symm.trans hr
      rw [Dict.get_set_self] at hget
      exact (Option.some.inj hget).symm
    subst hrecord
    exact Move.stops hb ht hd hkind.symm

theorem World.ClockedBy.handled {reminders more : List Asked} (h : w.ClockedBy (reminders ++ more))
    {n : Nat} {was : Asked} (next : Asked) (hn : reminders[n]? = some was)
    (hdone : ∀ id record d, w.store.orderById id = some record → d ∈ deadlines record.order →
      was ≠ ⟨.deadline id d.kind d.at, .waiting⟩) : w.ClockedBy (reminders.set n next ++ more) := by
  intro id record d hr hd
  rcases mem_append.1 (h id record d hr hd) with hin | hin
  · obtain ⟨i, hi⟩ := mem_iff_getElem?.1 hin
    refine mem_append_left _ (mem_iff_getElem?.2 ⟨i, ?_⟩)
    have hne : n ≠ i := by
      rintro rfl
      rw [hn] at hi
      exact hdone id record d hr hd (Option.some.inj hi)
    rw [getElem?_set_ne hne]
    exact hi
  · exact mem_append_right _ hin

end

/-- Every deadline that runs on a stored order has a reminder waiting on the queue. -/
def Timed.Clocked (s : Timed Doc) : Prop := s.world.ClockedBy s.reminders

/-- **The step keeps the clocks.** -/
theorem Timed.Clocked.step {s' : Timed Doc} {out : List (Notice Doc)} {log : GatewayLog Doc} (h : s.Clocked)
    (hw : s.world.Owned log) (hstep : s.step R tick = .ok (s', out)) : s'.Clocked := by
  have hp := Timed.step_performs hstep
  cases hp with
  | act hact => exact (World.step_performs hact).effectStep.clocked h
  | @fire n reminder stage task now fresh cut hn ht =>
    have happlies := s.world.apply_applies R (onReminder now reminder) now fresh cut
    have hact : s.world.step R (.apply task (onReminder now reminder) now fresh cut) =
        .ok (s.world.applyAlone R task (onReminder now reminder) now fresh cut) := by
      simp only [World.step, ht, Bool.false_eq_true, if_false]
    have harmed := (World.step_performs hact).effectStep.clocked h
    have hstore : (s.world.applyAlone R task (onReminder now reminder) now fresh cut).1.store =
        (s.world.apply R (onReminder now reminder) now fresh cut).1.store := by
      unfold World.applyAlone
      dsimp only
      split <;> rfl
    unfold Timed.Clocked
    split
    · next hcame =>
      refine harmed.handled _ hn fun id record d hr hd hsame => ?_
      injection hsame with hreminder _
      subst hreminder
      have hr' : (s.world.apply R (onReminder now (.deadline id d.kind d.at)) now fresh
          cut).1.store.orderById id = some record := by rwa [hstore] at hr
      exact happlies.spends hw hcame hr' hd rfl
    · exact harmed
  | @returns n reminder hn =>
    intro id record d hr hd
    have hall : s.world.ClockedBy (s.reminders ++ []) := by
      rw [append_nil]
      exact h
    have hkept := hall.handled ⟨reminder, .returned⟩ hn (by rintro _ _ _ _ _ ⟨⟩) id record d hr hd
    rwa [append_nil] at hkept

/-- **No order loses its clock.** Where the queue keeps a reminder until its handler returns, every
order of every run that has a deadline running has a reminder waiting for it, for exactly that order,
that kind and that instant: whatever events and payments come to it, in whatever order its reminders
fire, as often as they do, and wherever a write breaks off between the clocks it armed and its
commit. -/
theorem no_order_loses_its_clock (R : Runtime) (ticks : List (Tick Doc)) (id : String)
    (record : StoredOrder Doc) (d : Deadline)
    (hr : (timedRun R ticks).world.store.orderById id = some record)
    (hd : d ∈ deadlines record.order) :
    ∃ n : Nat, (timedRun R ticks).reminders[n]? = some ⟨.deadline id d.kind d.at, .waiting⟩ := by
  have hclocked := ((timedMachine R Doc).run_induction
    (P := fun s => (∃ log, s.world.Owned log) ∧ s.Clocked) (s := .empty) ?_ ?_ ticks).2
  · exact List.mem_iff_getElem?.1 (hclocked id record d hr hd)
  · rintro s tick s' out ⟨⟨log, hw⟩, hc⟩ hstep
    refine ⟨?_, hc.step hw hstep⟩
    rcases timedMachine_within R Doc s tick s' out hstep with hsame | ⟨action, out', hact⟩
    · rw [hsame]
      exact ⟨log, hw⟩
    · exact ⟨_, hw.step hact⟩
  · refine ⟨⟨[], gatewayRun_owned R []⟩, ?_⟩
    rintro id record d ⟨⟩

/-- The buyer pays, his order waits for its charge, and the reminder of the clock it no longer runs on
fires: it is done with, and the clock of the charge has its own. -/
def sampleStaleReminder : List (Tick String) :=
  [.act (.movePayoutWallet "mrc_1" (some "0xshop")),
    .act (.create 0 chargedFirst 0 (fun _ => "env_0") none)] ++
  (samplePayment 0 "signed-1" "print-1" 4).map Tick.act ++
  [.act (.present 0 1 5 5 (fun _ => "env_1") none),
    .fire 0 2 60 (fun _ => "env_2") none, .returns 0]

theorem stale_reminder_spares_clock :
    ∃ n : Nat, (timedRun sampleRuntime sampleStaleReminder).reminders[n]? =
      some ⟨.deadline "ord_1" .settleResponse 35, .waiting⟩ := by
  obtain ⟨record, hr, hd⟩ : ∃ record,
      (timedRun sampleRuntime sampleStaleReminder).world.store.orderById "ord_1" = some record ∧
        ⟨.settleResponse, 35⟩ ∈ deadlines record.order :=
    ⟨_, rfl, List.mem_singleton.2 rfl⟩
  exact no_order_loses_its_clock sampleRuntime sampleStaleReminder "ord_1" record _ hr hd

end Coinslot
