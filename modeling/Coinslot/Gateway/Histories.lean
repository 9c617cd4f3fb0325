import Coinslot.Gateway.Served
import Coinslot.Orders.Lifecycle

/-!
# The desk runs the machine of the orders

Whatever comes to the desk (calls of agents, answers and calls of merchants, outcomes of charges, reminders
and sweeps, in any order), what it stores of an order is what the machine of `packages/core` makes of it:
every stored order is a run of the machine from the order's birth, and what the desk makes of it later
continues the run (`order_history`). What is known of the runs of the machine is so known of the orders in
the store; in particular no stored order comes back to a state it left (`stored_orders_go_on`).
-/

namespace Coinslot

variable {D : DeskRuntime} {found next record later : StoredOrder Document} {id : String}

theorem driven_run {order moved : Order} {events : List StateEvent} {effects : List Effect}
    (h : driven order events = .ok (moved, effects)) : moved = orderMachine.run order (events.map .state) := by
  induction events generalizing order effects with
  | nil => cases h; rfl
  | cons event rest ih =>
    simp only [driven] at h
    split at h
    · cases h
    · next after fx hstep =>
      split at h
      · cases h
      · obtain ⟨⟨last, more⟩, hrest, heq⟩ := Except.map_eq_ok_iff.1 h
        cases heq
        rw [List.map_cons, Reactor.run_cons, orderMachine_next hstep]
        exact ih hrest

/-- What the desk makes of an order in one step is a run of the machine. -/
theorem Treats.run (h : Treats D found next) : ∃ events, next.order = orderMachine.run found.order events := by
  cases h with
  | notes word => exact ⟨[], rfl⟩
  | feeds _ _ ht => exact ⟨[_], (orderMachine_next ht).symm⟩
  | takes _ hd => exact ⟨_, driven_run hd⟩

theorem treated_run (h : Relation.ReflTransGen (Treats D) record later) :
    ∃ events, later.order = orderMachine.run record.order events := by
  induction h with
  | refl => exact ⟨[], rfl⟩
  | tail _ ht ih =>
    obtain ⟨past, hpast⟩ := ih
    obtain ⟨events, hevents⟩ := ht.run
    exact ⟨past ++ events, by rw [hevents, hpast, orderMachine.run_append]⟩

theorem treated_keeps (h : Relation.ReflTransGen (Treats D) record later) :
    later.merchantId = record.merchantId ∧ later.itemId = record.itemId := by
  induction h with
  | refl => exact ⟨rfl, rfl⟩
  | tail _ ht ih => exact ⟨ht.keeps.1.trans ih.1, ht.keeps.2.trans ih.2⟩

/-- The second is what the machine makes of the first as its run goes on: both are runs from the birth of one
order under the id. -/
def Continues (id : String) (record later : StoredOrder Document) : Prop :=
  (later.merchantId = record.merchantId ∧ later.itemId = record.itemId) ∧
    ∃ (birth : Birth) (events since : List OrderEvent), birth.order.id = id ∧
      record.order = birth.run events ∧ later.order = birth.run (events ++ since)

/-- **The desk runs the machine of the orders.** In every run of the desk, an order in the store is what the
machine makes of an order that was created under its id; and however the run goes on, the order is still
there, for the same merchant and item, and is what the machine makes of the same order by the same events
and those that came since. -/
theorem order_history (D : DeskRuntime) (actions more : List DeskAction)
    (h : (deskRun D actions).orderById id = some record) :
    ∃ later, (deskRun D (actions ++ more)).orderById id = some later ∧ Continues id record later := by
  obtain ⟨birth, hid, events, hevents⟩ := deskRun_orders (D := D)
    (P := fun id record => ∃ birth : Birth, birth.order.id = id ∧ ∃ events, record.order = birth.run events)
    (fun sale => ⟨sale.birth, rfl, [], rfl⟩)
    (fun id found next ⟨birth, hid, events, hevents⟩ ht => by
      obtain ⟨since, hsince⟩ := ht.run
      exact ⟨birth, hid, events ++ since, by rw [hsince, hevents, Birth.run_append]⟩) actions h
  obtain ⟨later, hlater, htreats⟩ := deskRun_treats actions more h
  obtain ⟨since, hsince⟩ := treated_run htreats
  refine ⟨later, hlater, treated_keeps htreats, birth, events, since, hid, hevents, ?_⟩
  rw [hsince, hevents, Birth.run_append]

/-- A purchase that was paid, and its delivery. -/
theorem order_history_delivered :
    ∃ record, (deskRun sampleDesk (samplePurchase .sync)).orderById "ord_1" = some record ∧
      ∃ later, (deskRun sampleDesk (samplePurchase .sync ++ sampleDelivery.drop 7)).orderById "ord_1" =
        some later ∧ Continues "ord_1" record later := by
  obtain ⟨record, hr⟩ : ∃ record, (deskRun sampleDesk (samplePurchase .sync)).orderById "ord_1" = some record :=
    ⟨_, rfl⟩
  exact ⟨record, hr, order_history _ _ _ hr⟩

/-- **No stored order goes back.** An order that the store shows in a state, and later in another, is never
again shown in the first. -/
theorem stored_orders_go_on (D : DeskRuntime) (actions more rest : List DeskAction)
    (h : (deskRun D actions).orderById id = some record) :
    ∃ later last : StoredOrder Document, (deskRun D (actions ++ more)).orderById id = some later ∧
      (deskRun D (actions ++ more ++ rest)).orderById id = some last ∧
      (later.order.state = record.order.state ∨ last.order.state ≠ record.order.state) := by
  obtain ⟨later, hlater, hmore⟩ := deskRun_treats actions more h
  obtain ⟨last, hlast, hrest⟩ := deskRun_treats (actions ++ more) rest hlater
  refine ⟨later, last, hlater, hlast, ?_⟩
  by_cases hsame : later.order.state = record.order.state
  · exact .inl hsame
  · obtain ⟨events, hevents⟩ := treated_run hmore
    obtain ⟨since, hsince⟩ := treated_run hrest
    have hup := (deskRun_sound actions h).2.climbs events
    have hon := (deskRun_sound (actions ++ more) hlater).2.climbs since
    rw [← hevents] at hup
    rw [← hsince] at hon
    exact .inr (hup.left hon hsame)

/-- On the same purchase. -/
theorem stored_orders_go_on_delivered :
    ∃ record, (deskRun sampleDesk (samplePurchase .sync)).orderById "ord_1" = some record ∧
      ∃ later last : StoredOrder Document,
        (deskRun sampleDesk (samplePurchase .sync ++ sampleDelivery.drop 7)).orderById "ord_1" = some later ∧
          (deskRun sampleDesk (samplePurchase .sync ++ sampleDelivery.drop 7 ++
            [.handIn 0 (sampleTurn 4 8)])).orderById "ord_1" = some last ∧
          (later.order.state = record.order.state ∨ last.order.state ≠ record.order.state) := by
  obtain ⟨record, hr⟩ : ∃ record, (deskRun sampleDesk (samplePurchase .sync)).orderById "ord_1" = some record :=
    ⟨_, rfl⟩
  exact ⟨record, hr, stored_orders_go_on _ _ _ _ hr⟩

end Coinslot
