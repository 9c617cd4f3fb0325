import Coinslot.Gateway.Steps

/-!
# Who an order belongs to, and what it is charged

The invariant of the purchases (`World.Owned`): a stored order that carries a payment was presented by
its owner, with a payment the payment layer vouched for at the price the order still has; a call of
`payPurchase` that has got past the verification has it in the log; and a run of effects works on a
record whose owner and price are still those of the stored order (`StoredOrder.Follows`). A charge is
built out of such a record, so it was verified before it is asked for.
-/

namespace Coinslot

open List Dict

variable {Doc : Type} {R : Runtime} {w w' : World Doc} {out : List (Notice Doc)}

abbrev GatewayLog (Doc : Type) := List (Happening (Action Doc) (Notice Doc))

/-- The payment layer vouched for a charge, and this is who paid. -/
def Vouched (log : GatewayLog Doc) (charge : Charge) (owner : String) : Prop :=
  .emitted (.verified charge owner) ∈ log

variable {log : GatewayLog Doc}

theorem Vouched.mono {more : GatewayLog Doc} {charge : Charge} {owner : String}
    (h : Vouched log charge owner) : Vouched (log ++ more) charge owner :=
  mem_append_left _ h

/-- A later reading of an order: its owner and its price, once there, are the same. -/
structure StoredOrder.Follows (a b : StoredOrder Doc) : Prop where
  id : b.order.id = a.order.id
  owner : ∀ {owner}, a.paidBy = some owner → b.paidBy = some owner
  price : ∀ {price}, a.order.price = some price → b.order.price = some price

theorem StoredOrder.Follows.refl (a : StoredOrder Doc) : a.Follows a := ⟨rfl, fun h => h, fun h => h⟩

variable {a : StoredOrder Doc}

variable {b : StoredOrder Doc}

theorem StoredOrder.Follows.trans {c : StoredOrder Doc} (h₁ : a.Follows b) (h₂ : b.Follows c) : a.Follows c :=
  ⟨h₂.id.trans h₁.id, fun h => h₂.owner (h₁.owner h), fun h => h₂.price (h₁.price h)⟩

/-- The payment a record carries was vouched for, at the price the order has, and the order belongs to
who paid. -/
def Authorised (log : GatewayLog Doc) (record : StoredOrder Doc) : Prop :=
  ∀ payment, record.payment = some payment →
    ∃ owner price, record.paidBy = some owner ∧ record.order.price = some price ∧
      Vouched log ⟨record.order.id, price.amount, price.currency, payment, record.payTo⟩ owner

variable {record : StoredOrder Doc}

theorem Authorised.mono {more : GatewayLog Doc} (h : Authorised log record) : Authorised (log ++ more) record := by
  intro payment hp
  obtain ⟨owner, price, ho, hpr, hv⟩ := h payment hp
  exact ⟨owner, price, ho, hpr, hv.mono⟩

theorem Authorised.of_follows (h : Authorised log a) (hf : a.Follows b) (hp : b.payment = a.payment)
    (ht : b.payTo = a.payTo) : Authorised log b := by
  intro payment hb
  obtain ⟨owner, price, ho, hpr, hv⟩ := h payment (hp ▸ hb)
  refine ⟨owner, price, hf.owner ho, hf.price hpr, ?_⟩
  rw [hf.id, ht]
  exact hv

theorem Authorised.charge {log : GatewayLog Doc} {record : StoredOrder Doc} {charge : Charge}
    (h : Authorised log record) (hc : chargeOf record = .ok charge) :
    ∃ owner price, Vouched log charge owner ∧ charge.orderId = record.order.id ∧
      record.paidBy = some owner ∧ record.order.price = some price ∧
      charge.amount = price.amount ∧ charge.currency = price.currency := by
  unfold chargeOf at hc
  split at hc
  · next payment price hp hpr =>
    cases hc
    obtain ⟨owner, price', ho, hpr', hv⟩ := h payment hp
    cases hpr.symm.trans hpr'
    exact ⟨owner, price, hv, rfl, ho, hpr, rfl, rfl⟩
  · cases hc

def World.Priced (w : World Doc) (id : String) (price : Price) : Prop :=
  ∃ record, w.store.orderById id = some record ∧ record.order.price = some price

/-- The payment layer is asked about a call's payment, for the order it names at the price stored. -/
def PayCall.Asks (w : World Doc) (call : PayCall) (charge : Charge) : Prop :=
  ∃ price payTo, w.Priced call.orderId price ∧
    charge = ⟨call.orderId, price.amount, price.currency, call.payment, payTo⟩

/-- What a call of `payPurchase` knows, by how far it has got. -/
def PayCall.Knows (w : World Doc) (log : GatewayLog Doc) (call : PayCall) : Prop :=
  match call.stage with
  | .read _ price => w.Priced call.orderId price
  | .asking charge => call.Asks w charge
  | .checkedOut charge owner | .claimed charge owner => call.Asks w charge ∧ Vouched log charge owner
  | .spent _ | .turnedAway _ => True

/-- The invariant of the purchases. -/
structure World.Owned (w : World Doc) (log : GatewayLog Doc) : Prop where
  records : ∀ {id record}, w.store.orderById id = some record →
    record.order.id = id ∧ record.order.Sound ∧ Authorised log record
  calls : ∀ {k call}, w.calls.get k = some call → call.Knows w log
  frames : ∀ {k task}, w.tasks.get k = some task → ∀ frame ∈ task.frames,
    Authorised log frame.record ∧
      ∃ stored, w.store.orderById frame.record.order.id = some stored ∧ frame.record.Follows stored

/-! ## What a write keeps -/

section

variable (config : Config)

theorem alsoSaid_follows (found : StoredOrder Doc) (word : PaymentWord) :
    found.Follows (alsoSaid config found word) :=
  ⟨rfl, fun h => h, fun h => h⟩

variable {effects : List Effect}

theorem appliedRecord_follows {call : ApplyCall Doc} {found : StoredOrder Doc} {order : Order}
    (hb : found.order.Sound) (ht : transition found.order call.event = .ok (order, effects)) :
    found.Follows (appliedRecord config call found order effects) ∧ order.Sound := by
  have hm := transition_move hb ht
  refine ⟨⟨hm.keeps.1, fun ho => ?_, fun hp => hm.keeps_price hb hp⟩, hm.sound hb⟩
  rw [appliedRecord, withFacts_paidBy]
  exact ho

theorem presentedRecord_follows (presented : Presentation) {t : Int} {found : StoredOrder Doc} {order : Order}
    (hb : found.order.Sound) (hown : found.paidBy = none ∨ found.paidBy = some presented.owner)
    (hd : driven found.order (eventsForVerifiedPayment found.order t) = .ok (order, effects)) :
    found.Follows (presentedRecord config presented t found order) ∧ order.Sound := by
  have hid := driven_keeps (P := fun o => o.id = found.order.id) (fun _ h hm => hm.keeps.1.trans h) hb rfl hd
  refine ⟨⟨hid.2, fun {owner} ho => ?_, fun {price} hp => ?_⟩, hid.1⟩
  · rcases hown with hn | hs
    · cases hn.symm.trans ho
    · cases hs.symm.trans ho
      rfl
  · exact (driven_keeps (P := fun o => o.price = some price) (fun hs h hm => hm.keeps_price hs h) hb hp hd).2

end

variable {id : String}

theorem OrdersStep.follows (h : OrdersStep R w w' out) (hw : w.Owned log) (ha : w.store.orderById id = some a) :
    ∃ b, w'.store.orderById id = some b ∧ a.Follows b := by
  have one {key : String} {found next : StoredOrder Doc}
      (hf : w.store.orderById key = some found) (hfol : found.Follows next)
      (hs : w'.store.orders = w.store.orders.set key next) :
      ∃ b, w'.store.orderById id = some b ∧ a.Follows b := by
    by_cases hid : id = key
    · subst hid
      cases hf.symm.trans ha
      exact ⟨next, by rw [orderById_eq hs, get_set_self], hfol⟩
    · exact ⟨a, by rw [orderById_eq hs, get_set_ne _ _ hid]; exact ha, .refl a⟩
  cases h with
  | stand hs => exact ⟨a, (orderById_eq hs id).trans ha, .refl a⟩
  | opens sale hn hs =>
    have hne : id ≠ sale.record.order.id := by
      rintro rfl
      cases hn.symm.trans ha
    exact ⟨a, by rw [orderById_eq hs, get_set_ne _ _ hne]; exact ha, .refl a⟩
  | applies hf ht hs => exact one hf (appliedRecord_follows R.config (hw.records hf).2.1 ht).1 hs
  | notes hf hs => exact one hf (alsoSaid_follows _ _ _) hs
  | takes _ _ hf hown _ hd hs _ =>
    exact one hf (presentedRecord_follows R.config _ (hw.records hf).2.1 hown hd).1 hs

/-! ## The invariant -/

theorem World.Priced.step {price : Price} (h : w.Priced id price) (hw : w.Owned log) (hs : OrdersStep R w w' out) :
    w'.Priced id price := by
  obtain ⟨a, ha, hp⟩ := h
  obtain ⟨b, hb, hf⟩ := hs.follows hw ha
  exact ⟨b, hb, hf.price hp⟩

theorem PayCall.Asks.step {call : PayCall} {charge : Charge}
    (h : call.Asks w charge) (hw : w.Owned log) (hs : OrdersStep R w w' out) : call.Asks w' charge := by
  obtain ⟨price, payTo, hp, hc⟩ := h
  exact ⟨price, payTo, hp.step hw hs, hc⟩

theorem OrdersStep.records (h : OrdersStep R w w' out) (hw : w.Owned log) (more : GatewayLog Doc)
    (hr : w'.store.orderById id = some record) :
    record.order.id = id ∧ record.order.Sound ∧ Authorised (log ++ more) record := by
  have old (ho : w.store.orderById id = some record) :
      record.order.id = id ∧ record.order.Sound ∧ Authorised (log ++ more) record :=
    have ⟨hid, hb, ha⟩ := hw.records ho
    ⟨hid, hb, ha.mono⟩
  have one {key : String} {next : StoredOrder Doc}
      (hs : w'.store.orders = w.store.orders.set key next)
      (hn : next.order.id = key ∧ next.order.Sound ∧ Authorised (log ++ more) next) :
      record.order.id = id ∧ record.order.Sound ∧ Authorised (log ++ more) record := by
    rcases orderById_of_set hs hr with ⟨rfl, rfl⟩ | ho
    · exact hn
    · exact old ho
  cases h with
  | stand hs => exact old ((orderById_eq hs id).symm.trans hr)
  | opens sale _ hs =>
    refine one hs ⟨rfl, sale.birth.sound, ?_⟩
    rintro payment ⟨⟩
  | @applies call found order effects hf ht hs =>
    obtain ⟨hid, hb, ha⟩ := hw.records hf
    obtain ⟨hfol, hb'⟩ := appliedRecord_follows R.config hb ht
    exact one hs ⟨hfol.id.trans hid, hb', ha.mono.of_follows hfol (withFacts_payment _ _ _) (withFacts_payTo _ _ _)⟩
  | notes hf hs =>
    obtain ⟨hid, hb, ha⟩ := hw.records hf
    exact one hs ⟨hid, hb, ha.mono⟩
  | @takes k call charge owner t found order effects hc hst hf hown _ hd hs _ =>
    obtain ⟨hid, hb, -⟩ := hw.records hf
    obtain ⟨hfol, hb'⟩ := presentedRecord_follows R.config (call.presentation charge owner) hb hown hd
    refine one hs ⟨hfol.id.trans hid, hb', ?_⟩
    -- The price the payment was checked against is the price the order still has.
    have hk := hw.calls hc
    simp only [PayCall.Knows, hst] at hk
    obtain ⟨⟨price, payTo, ⟨stored, hstored, hprice⟩, rfl⟩, hv⟩ := hk
    cases hstored.symm.trans hf
    rintro payment ⟨⟩
    refine ⟨owner, price, rfl, hfol.price hprice, ?_⟩
    rw [hfol.id, hid]
    exact hv.mono

theorem CallStep.knows {more : GatewayLog Doc} {k : Nat} {call : PayCall}
    (h : CallStep w out k call) (hw : w.Owned log) (hs : OrdersStep R w w' out)
    (hmore : ∀ notice ∈ out, .emitted notice ∈ more) : call.Knows w' (log ++ more) := by
  cases h with
  | kept hc =>
    have hk := hw.calls hc
    unfold PayCall.Knows at hk ⊢
    split at hk
    · exact hk.step hw hs
    · exact hk.step hw hs
    · exact ⟨hk.1.step hw hs, hk.2.mono⟩
    · exact ⟨hk.1.step hw hs, hk.2.mono⟩
    · trivial
    · trivial
  | begins hf hp => exact World.Priced.step ⟨_, hf, hp⟩ hw hs
  | asks hc hst =>
    have hk := hw.calls hc
    simp only [PayCall.Knows, hst] at hk
    exact ⟨_, _, hk.step hw hs, rfl⟩
  | checksOut hc hst hout =>
    have hk := hw.calls hc
    simp only [PayCall.Knows, hst] at hk
    exact ⟨hk.step hw hs, mem_append_right _ (hmore _ hout)⟩
  | claims hc hst =>
    have hk := hw.calls hc
    simp only [PayCall.Knows, hst] at hk
    exact ⟨hk.1.step hw hs, hk.2.mono⟩
  | isSpent _ => trivial
  | isTurnedAway _ => trivial

/-- **The invariant is kept.** -/
theorem World.Owned.step {action : Action Doc} (hw : w.Owned log)
    (h : w.step R action = .ok (w', out)) : w'.Owned (log ++ Reactor.stepLog action out) := by
  have hs := World.step_stepped h
  have hmore : ∀ notice ∈ out, .emitted notice ∈ Reactor.stepLog action out :=
    fun notice hn => mem_cons_of_mem _ (mem_map_of_mem hn)
  refine ⟨hs.orders.records hw _, fun hc => (hs.calls hc).knows hw hs.orders hmore, ?_⟩
  intro k task ht frame hf
  rcases hs.frames ht frame hf with ⟨j, was, before, hj, hb, hrec⟩ | ⟨id, hid⟩
  · obtain ⟨ha, stored, hst, hfol⟩ := hw.frames hj before hb
    rw [hrec] at ha hst hfol
    obtain ⟨later, hl, hfol'⟩ := hs.orders.follows hw hst
    exact ⟨ha.mono, later, hl, hfol.trans hfol'⟩
  · obtain ⟨hkey, -, ha⟩ := hs.orders.records hw (Reactor.stepLog action out) hid
    refine ⟨ha, frame.record, ?_, .refl _⟩
    rw [hkey]
    exact hid

theorem gatewayRun_owned (R : Runtime) (actions : List (Action Doc)) :
    (gatewayRun R actions).Owned (gatewayLog R actions) := by
  refine (gatewayMachine R Doc).log_induction (P := fun w log => w.Owned log) (l := [])
    (fun hw h => hw.step h) ⟨?_, ?_, ?_⟩ actions
  · rintro id record ⟨⟩
  · rintro k call ⟨⟩
  · rintro k task ⟨⟩

/-! ## What follows for the runs -/

theorem gatewayRun_follows (R : Runtime) (actions more : List (Action Doc))
    (h : (gatewayRun R actions).store.orderById id = some record) :
    ∃ later, (gatewayRun R (actions ++ more)).store.orderById id = some later ∧ record.Follows later := by
  have := (gatewayMachine R Doc).log_induction
    (P := fun w log => w.Owned log ∧ ∃ later, w.store.orderById id = some later ∧ record.Follows later)
    (fun ⟨hw, later, hl, hf⟩ hstep => by
      obtain ⟨last, hlast, hf'⟩ := (World.step_stepped hstep).orders.follows hw hl
      exact ⟨hw.step hstep, last, hlast, hf.trans hf'⟩)
    ⟨gatewayRun_owned R actions, record, h, .refl record⟩ more
  rw [gatewayRun, Reactor.run_append]
  exact this.2

/-- A charge was vouched for in what happened before, for the owner of its order and at the price the
order has. -/
def World.Accounts (w : World Doc) (before : GatewayLog Doc) (charge : Charge) : Prop :=
  ∃ owner price record, Vouched before charge owner ∧
    w.store.orderById charge.orderId = some record ∧ record.paidBy = some owner ∧
    record.order.price = some price ∧ charge.amount = price.amount ∧
    charge.currency = price.currency

theorem World.Accounts.step {before : GatewayLog Doc} {charge : Charge}
    (h : w.Accounts before charge) (hw : w.Owned log) (hs : OrdersStep R w w' out) : w'.Accounts before charge := by
  obtain ⟨owner, price, record, hv, hr, ho, hp, ha, hc⟩ := h
  obtain ⟨later, hl, hf⟩ := hs.follows hw hr
  exact ⟨owner, price, later, hv, hl, hf.owner ho, hf.price hp, ha, hc⟩

theorem Stepped.accounts {log : GatewayLog Doc} {charge : Charge} (h : Stepped R w w' out)
    (hw : w.Owned log) (hc : .settleCalled charge ∈ out) : w.Accounts log charge := by
  obtain ⟨k, task, frame, ht, hf, hcharge⟩ := h.charges hc
  obtain ⟨ha, stored, hst, hfol⟩ := hw.frames ht frame hf
  obtain ⟨owner, price, hv, hid, ho, hp, hamount, hcurrency⟩ := ha.charge hcharge
  refine ⟨owner, price, stored, hv, ?_, hfol.owner ho, hfol.price hp, hamount, hcurrency⟩
  rw [hid]
  exact hst

theorem gatewayRun_accounts (R : Runtime) (actions : List (Action Doc)) : ∀ before after charge,
      gatewayLog R actions = before ++ .emitted (.settleCalled charge) :: after →
      (gatewayRun R actions).Accounts before charge := by
  refine ((gatewayMachine R Doc).log_induction
    (P := fun w log => w.Owned log ∧ ∀ before after charge,
      log = before ++ .emitted (.settleCalled charge) :: after → w.Accounts before charge)
    (l := []) ?_ ⟨gatewayRun_owned R [], ?_⟩ actions).2
  · rintro w log action w' out ⟨hw, hlog⟩ hstep
    have hs := World.step_stepped hstep
    refine ⟨hw.step hstep, fun before after charge heq => ?_⟩
    rcases Reactor.emitted_before_or_by heq with ⟨mid, hmid⟩ | ⟨mid, rfl, hout⟩
    · exact (hlog before mid charge hmid).step hw hs.orders
    · obtain ⟨owner, price, record, hv, hrest⟩ := (hs.accounts hw hout).step hw hs.orders
      exact ⟨owner, price, record, hv.mono, hrest⟩
  · intro before after charge heq
    exact absurd heq (by simp)

/-- The one write that changes the payment of an order whose payment is verified: the order ran out of
time with its goods held, its owner presents a verified payment, and the write that takes it sends the
order to its charge. -/
def Reopens (out : List (Notice Doc)) (before after : StoredOrder Doc) : Prop :=
  before.order.state = .expired ∧ before.order.heldFulfillment = true ∧
    after.order.state = .fulfilled ∧ after.order.payment = .settling ∧
    ∃ presented effects, .presented presented (some (.took after effects)) ∈ out ∧
      presented.orderId = before.order.id ∧ after.paidBy = some presented.owner ∧
      (before.paidBy = none ∨ before.paidBy = some presented.owner)

/-- What a step does to the payment of a stored order: nothing, unless the order had none or one that
did not go through, or is reopened. -/
theorem OrdersStep.payment (h : OrdersStep R w w' out) (hw : w.Owned log) (ha : w.store.orderById id = some a)
    (hb : w'.store.orderById id = some b) :
    (b.payment = a.payment ∧ b.payTo = a.payTo) ∨ a.order.payment = .none ∨
      a.order.payment = .settleFailed ∨ Reopens out a b := by
  have one {key : String} {found next : StoredOrder Doc}
      (hf : w.store.orderById key = some found)
      (hs : w'.store.orders = w.store.orders.set key next) :
      a = b ∨ (a = found ∧ b = next ∧ id = key) := by
    rcases orderById_of_set hs hb with ⟨rfl, rfl⟩ | hold
    · cases hf.symm.trans ha
      exact .inr ⟨rfl, rfl, rfl⟩
    · cases ha.symm.trans hold
      exact .inl rfl
  cases h with
  | stand hs =>
    cases ha.symm.trans ((orderById_eq hs id).symm.trans hb)
    exact .inl ⟨rfl, rfl⟩
  | opens sale hn hs =>
    rcases orderById_of_set hs hb with ⟨rfl, -⟩ | hold
    · cases hn.symm.trans ha
    · cases ha.symm.trans hold
      exact .inl ⟨rfl, rfl⟩
  | applies hf _ hs =>
    rcases one hf hs with rfl | ⟨rfl, rfl, -⟩
    · exact .inl ⟨rfl, rfl⟩
    · exact .inl ⟨withFacts_payment _ _ _, withFacts_payTo _ _ _⟩
  | notes hf hs => rcases one hf hs with rfl | ⟨rfl, rfl, -⟩ <;> exact .inl ⟨rfl, rfl⟩
  | takes _ _ hf hown hne hd hs hin =>
    rcases one hf hs with rfl | ⟨rfl, rfl, rfl⟩
    · exact .inl ⟨rfl, rfl⟩
    · obtain ⟨hid, hsound, -⟩ := hw.records ha
      rcases driven_verified hsound hne hd with hp | hp | ⟨hst, hheld, hst', hp'⟩
      · exact .inr (.inl hp)
      · exact .inr (.inr (.inl hp))
      · exact .inr (.inr (.inr ⟨hst, hheld, hst', hp', _, _, hin, hid.symm, rfl, hown⟩))

theorem OrdersStep.unowned (h : OrdersStep R w w' out)
    (hn : w.store.orderById id = none) (hr : w'.store.orderById id = some record) : record.paidBy = none := by
  have one {key : String} {found next : StoredOrder Doc}
      (hf : w.store.orderById key = some found)
      (hs : w'.store.orders = w.store.orders.set key next) : record.paidBy = none := by
    rcases orderById_of_set hs hr with ⟨rfl, -⟩ | hold
    · cases hn.symm.trans hf
    · cases hn.symm.trans hold
  cases h with
  | stand hs => cases ((orderById_eq hs id).symm.trans hr).symm.trans hn
  | opens sale _ hs =>
    rcases orderById_of_set hs hr with ⟨-, rfl⟩ | hold
    · rfl
    · cases hn.symm.trans hold
  | applies hf _ hs => exact one hf hs
  | notes hf hs => exact one hf hs
  | takes _ _ hf _ _ _ hs _ => exact one hf hs

/-- **An order's owner and what it is charged.** In every run of the gateway: an order is stored
without an owner, and once it has one it keeps it; a presentation that turns the payment away leaves
the store as it was; the payment and its address stand while the payment is out for execution or
unaccounted for, and while it is verified they change in no write but the one that reopens the order
for its owner; and every charge that is asked for was vouched for before, as it is, for the owner of
its order and at the order's price. -/
theorem owner_and_charge (R : Runtime) (actions : List (Action Doc)) :
    (∀ more id record owner, (gatewayRun R actions).store.orderById id = some record →
      record.paidBy = some owner →
      ∃ later, (gatewayRun R (actions ++ more)).store.orderById id = some later ∧ later.paidBy = some owner) ∧
    (∀ action w' out, (gatewayRun R actions).step R action = .ok (w', out) →
      (∀ id after, (gatewayRun R actions).store.orderById id = none →
        w'.store.orderById id = some after → after.paidBy = none) ∧
      (∀ presented came, .presented presented (some came) ∈ out → came.TurnsAway →
        w'.store = (gatewayRun R actions).store) ∧
      (∀ id before after, (gatewayRun R actions).store.orderById id = some before →
        w'.store.orderById id = some after →
        (before.order.payment ∈ [.settling, .outcomeUnknown] →
          after.payment = before.payment ∧ after.payTo = before.payTo) ∧
        (before.order.payment = .verified →
          (after.payment = before.payment ∧ after.payTo = before.payTo) ∨ Reopens out before after))) ∧
    (∀ before after charge,
      gatewayLog R actions = before ++ .emitted (.settleCalled charge) :: after →
      (gatewayRun R actions).Accounts before charge) := by
  have hw := gatewayRun_owned R actions
  refine ⟨fun more id record owner hr ho => ?_, fun action w' out hstep => ?_, gatewayRun_accounts R actions⟩
  · obtain ⟨later, hl, hf⟩ := gatewayRun_follows R actions more hr
    exact ⟨later, hl, hf.owner ho⟩
  · have hs := World.step_stepped hstep
    refine ⟨fun id after hn ha => hs.orders.unowned hn ha, fun presented came hp ht =>
      hs.answers hp ht, fun id before after hb ha => ?_⟩
    rcases hs.orders.payment hw hb ha with hsame | hp | hp | hre
    · exact ⟨fun _ => hsame, fun _ => .inl hsame⟩
    · exact ⟨fun h => by simp [hp] at h, fun h => by simp [hp] at h⟩
    · exact ⟨fun h => by simp [hp] at h, fun h => by simp [hp] at h⟩
    · refine ⟨fun h => ?_, fun _ => .inr hre⟩
      -- An order that ran out of time was not charged.
      rcases (hw.records hb).2.1.expired_uncharged hre.1 with hp | hp <;> simp [hp] at h

/-! ## A verified payment that is replaced -/

/-- A gateway to try the statements on, for addresses that are in lower case. -/
def sampleRuntime : Runtime :=
  { config := { paymentWordsKept := 20, sweepDispatchGraceMs := 3600000 }
    toLowerCase := fun s => s }

/-- A synchronous purchase to try the statements on. -/
def sampleSale : Sale String :=
  { birth := sampleBirth .sync
    merchantId := "mrc_1"
    itemId := "itm_1"
    merchantItemId := "sku-1"
    params := "none" }

/-- A purchase that is charged before its goods, to try the statements on. -/
def chargedFirst : Sale String := { sampleSale with birth := sampleBirth .async }

/-- The buyer pays for the order, up to the moment his verified payment is presented. -/
def samplePayment (k : Nat) (payment fingerprint : String) (now : Int) : List (Action String) :=
  [.pay k "ord_1" payment fingerprint, .readWallet k, .verify k (.verified (some "0xbuyer")),
    .claim k now]

/-- A synchronous order runs out of time while its merchant works on it, the goods come late and are
held, the merchant moves his wallet, and the buyer pays once more. -/
def sampleReopening : List (Action String) :=
  [.movePayoutWallet "mrc_1" (some "0xshop"),
    .create 0 sampleSale 0 (fun _ => "env_0") none] ++
  samplePayment 0 "signed-1" "print-1" 4 ++
  [.present 0 1 5 5 (fun _ => "env_1") none,
    .apply 2
      { orderId := "ord_1"
        event := .state (.orderDispatched 6)
        facts := { openDeliveryId := some (some "dlv_1") }
        scope := some "mrc_1" } 6 (fun _ => "env_2") none,
    .apply 3
      { orderId := "ord_1", event := .deadlineExpired 25 .syncResponse } 25 (fun _ => "env_3") none,
    .apply 4
      { orderId := "ord_1"
        event := .state (.handlerDelivered 30)
        facts := { delivery := some "goods", openDeliveryId := some none }
        scope := some "mrc_1" } 30 (fun _ => "env_4") none,
    .movePayoutWallet "mrc_1" (some "0xnewshop")] ++
  samplePayment 1 "signed-2" "print-2" 31

/-- The payment of an order and its address can change while it is verified: the owner's second payment
takes the place of the first in the write that sends the order to its charge. -/
theorem verified_payment_replaced :
    ¬ ∀ (actions : List (Action String)) (action : Action String) (w' : World String)
      (out : List (Notice String)) (id : String) (before after : StoredOrder String),
      (gatewayRun sampleRuntime actions).step sampleRuntime action = .ok (w', out) →
      (gatewayRun sampleRuntime actions).store.orderById id = some before →
      w'.store.orderById id = some after →
      before.order.payment ∈ [.verified, .settling, .outcomeUnknown] →
      after.order.payment ∈ [.verified, .settling, .outcomeUnknown] →
      after.payment = before.payment ∧ after.payTo = before.payTo := by
  intro h
  have hpay := (h sampleReopening (.present 1 5 32 32 (fun _ => "env_5") none) _ _ "ord_1" _ _ rfl
    rfl rfl (by decide) (by decide)).1
  exact absurd hpay (by decide)

end Coinslot
