import Coinslot.Gateway.Writes

/-!
# What a step of the gateway does

`Stepped` says once what a step can do to the stored orders, to the calls and the runs of effects
under way, and when a charge is asked for or a presentation answered; `step_stepped` reads every step
so. The invariants of the gateway are derived from it, and none of them unfolds a step.
-/

namespace Coinslot

open List Dict World

variable {Doc α : Type} {R : Runtime} {w w' : World Doc} {out : List (Notice Doc)}

/-! ## What is performed -/

/-- What each action performs, and what it is performed on. -/
inductive World.Performs (R : Runtime) (w : World Doc) :
    Action Doc → World Doc × List (Notice Doc) → Prop
  | create (task : Nat) (sale : Sale Doc) (now : Int) (fresh : Nat → String) (cut : Option Nat) :
      w.tasks.has task = false → Performs R w (.create task sale now fresh cut) (w.create task sale now fresh cut)
  | apply (task : Nat) (call : ApplyCall Doc) (now : Int) (fresh : Nat → String)
      (cut : Option Nat) : w.tasks.has task = false →
      Performs R w (.apply task call now fresh cut) (w.applyAlone R task call now fresh cut)
  | pay (k : Nat) (orderId payment fingerprint : String) :
      Performs R w (.pay k orderId payment fingerprint) (w.pay k orderId payment fingerprint)
  | readWallet {k : Nat} {call : PayCall} {merchantId : String} {price : Price} :
      w.calls.get k = some call → call.stage = .read merchantId price →
      Performs R w (.readWallet k) (w.readWallet k call merchantId price)
  | verify {k : Nat} {call : PayCall} {charge : Charge} : w.calls.get k = some call →
      call.stage = .asking charge → (outcome : VerifyOutcome) →
      Performs R w (.verify k outcome) (w.verify R k call charge outcome)
  | claim {k : Nat} {call : PayCall} {charge : Charge} {owner : String} :
      w.calls.get k = some call → call.stage = .checkedOut charge owner → (now : Int) →
      Performs R w (.claim k now) (w.claim k call charge owner now)
  | readHolder {k : Nat} {call : PayCall} {holder : String} : w.calls.get k = some call →
      call.stage = .spent holder → Performs R w (.readHolder k) (w.readHolder k call holder)
  | present {k : Nat} {call : PayCall} {charge : Charge} {owner : String} :
      w.calls.get k = some call → call.stage = .claimed charge owner → (task : Nat) →
      (t now : Int) → (fresh : Nat → String) → (cut : Option Nat) →
      w.tasks.has task = false → Performs R w (.present k task t now fresh cut)
        (w.present R k task call charge owner t now fresh cut)
  | release {k : Nat} {call : PayCall} {answer : PurchaseAnswer} : w.calls.get k = some call →
      call.stage = .turnedAway answer → Performs R w (.release k) (w.release k call answer)
  | hangUp (k : Nat) : Performs R w (.hangUp k) (w.hangUp k, [])
  | carryOut {k : Nat} {frame : Frame Doc} {rest : List (Frame Doc)} :
      w.tasks.get k = some ⟨none, frame :: rest⟩ →
      Performs R w (.carryOut k) (w.carryOut k frame rest)
  | settle {k : Nat} {charge : Charge} {frame : Frame Doc} {rest : List (Frame Doc)} :
      w.tasks.get k = some ⟨some charge, frame :: rest⟩ → (outcome : SettleOutcome) →
      (now : Int) → (fresh : Nat → String) → (cut : Option Nat) →
      Performs R w (.settle k outcome now fresh cut)
        (w.settle R k frame rest outcome now fresh cut)
  | drop (k : Nat) : Performs R w (.drop k) (w.drop k, [])
  | movePayoutWallet (merchantId : String) (wallet : Option String) :
      Performs R w (.movePayoutWallet merchantId wallet)
        ({ w with store := w.store.movePayoutWallet merchantId wallet }, [])
  | forgetClaims (instant : Int) :
      Performs R w (.forgetClaims instant)
        ({ w with store := w.store.forgetClaimsBefore instant }, [])
  | beginSweep (k : Nat) (now : Int) :
      Performs R w (.beginSweep k now) (w.beginSweep k now, [])
  | sweepOpen {k : Nat} {sweep : Sweep Doc} {record : StoredOrder Doc}
      {rest : List (StoredOrder Doc)} : w.sweeps.get k = some sweep →
      sweep.unlooked = record :: rest → (holdsOrder : Bool) → (id : String) →
      Performs R w (.sweepOpen k holdsOrder id)
        (w.sweepOpen R k sweep record rest holdsOrder id)
  | sweepDelivered {k : Nat} {sweep : Sweep Doc} : w.sweeps.get k = some sweep →
      sweep.unlooked = [] ∧ sweep.unreceipted = none →
      Performs R w (.sweepDelivered k) (w.sweepDelivered k sweep, [])
  | sweepReceipt {k : Nat} {sweep : Sweep Doc} {record : StoredOrder Doc}
      {rest : List (StoredOrder Doc)} : w.sweeps.get k = some sweep →
      sweep.unlooked = [] ∧ sweep.unreceipted = some (record :: rest) → (id : String) →
      Performs R w (.sweepReceipt k id) (w.sweepReceipt k sweep record rest id)
  | stopSweep (k : Nat) : Performs R w (.stopSweep k) (w.stopSweep k, [])
  | loseTheName : Performs R w .loseTheName ({ w with alone := none }, [])

variable {action : Action Doc} {j : Nat} {c : PayCall} {now task : Task Doc} {tasks : Dict Nat (Task Doc)}
  {waiting : Option Charge}

/-- **The step, read as what it performs.** -/
theorem World.step_performs {came : World Doc × List (Notice Doc)} (h : w.step R action = .ok came) :
    w.Performs R action came := by
  have performed {action : Action Doc} {came' : World Doc × List (Notice Doc)}
      (hp : w.Performs R action came') (h : (Except.ok came' : Except NotOn _) = .ok came) :
      w.Performs R action came := by
    cases h
    exact hp
  cases action with
  | create task sale now fresh cut =>
    simp only [World.step] at h
    split at h
    · cases h
    · next ht => exact performed (.create task sale now fresh cut (by simpa using ht)) h
  | apply task call now fresh cut =>
    simp only [World.step] at h
    split at h
    · cases h
    · next ht => exact performed (.apply task call now fresh cut (by simpa using ht)) h
  | pay k orderId payment fingerprint =>
    simp only [World.step] at h
    split at h
    · cases h
    · exact performed (.pay k orderId payment fingerprint) h
  | readWallet k =>
    simp only [World.step] at h
    split at h
    · next hc => exact performed (.readWallet hc rfl) h
    · cases h
  | verify k outcome =>
    simp only [World.step] at h
    split at h
    · next hc => exact performed (.verify hc rfl outcome) h
    · cases h
  | claim k now =>
    simp only [World.step] at h
    split at h
    · next hc => exact performed (.claim hc rfl now) h
    · cases h
  | readHolder k =>
    simp only [World.step] at h
    split at h
    · next hc => exact performed (.readHolder hc rfl) h
    · cases h
  | present k task t now fresh cut =>
    simp only [World.step] at h
    split at h
    · next hc =>
      split at h
      · cases h
      · next ht => exact performed (.present hc rfl task t now fresh cut (by simpa using ht)) h
    · cases h
  | release k =>
    simp only [World.step] at h
    split at h
    · next hc => exact performed (.release hc rfl) h
    · cases h
  | hangUp k => exact performed (.hangUp k) h
  | carryOut k =>
    simp only [World.step] at h
    split at h
    · next ht => exact performed (.carryOut ht) h
    · cases h
  | settle k outcome now fresh cut =>
    simp only [World.step] at h
    split at h
    · next ht => exact performed (.settle ht outcome now fresh cut) h
    · cases h
  | drop k => exact performed (.drop k) h
  | movePayoutWallet merchantId wallet => exact performed (.movePayoutWallet merchantId wallet) h
  | forgetClaims instant => exact performed (.forgetClaims instant) h
  | beginSweep k now =>
    simp only [World.step] at h
    split at h
    · cases h
    · exact performed (.beginSweep k now) h
  | sweepOpen k holdsOrder id =>
    simp only [World.step] at h
    split at h
    · next hs => exact performed (.sweepOpen hs rfl holdsOrder id) h
    · cases h
  | sweepDelivered k =>
    simp only [World.step] at h
    split at h
    · next hs => exact performed (.sweepDelivered hs ⟨rfl, rfl⟩) h
    · cases h
  | sweepReceipt k id =>
    simp only [World.step] at h
    split at h
    · next hs => exact performed (.sweepReceipt hs ⟨rfl, rfl⟩ id) h
    · cases h
  | stopSweep k => exact performed (.stopSweep k) h
  | loseTheName => exact performed .loseTheName h

/-! ## What is written, and what is under way -/

/-- What a step does to the stored orders: nothing, or one write, of an order that is opened, of an
order an event moved, of an order the payment layer said something about, or of an order that took a
payment. -/
inductive OrdersStep (R : Runtime) (w w' : World Doc) (out : List (Notice Doc)) : Prop
  | stand : w'.store.orders = w.store.orders → OrdersStep R w w' out
  | opens (sale : Sale Doc) : w.store.orderById sale.record.order.id = none →
      w'.store.orders = w.store.orders.set sale.record.order.id sale.record → OrdersStep R w w' out
  | applies {call : ApplyCall Doc} {found : StoredOrder Doc} {order : Order}
      {effects : List Effect} : w.store.orderById call.orderId = some found →
      transition found.order call.event = .ok (order, effects) →
      w'.store.orders = w.store.orders.set call.orderId
        (appliedRecord R.config call found order effects) → OrdersStep R w w' out
  | notes {id : String} {word : PaymentWord} {found : StoredOrder Doc} :
      w.store.orderById id = some found →
      w'.store.orders = w.store.orders.set id (alsoSaid R.config found word) →
      OrdersStep R w w' out
  | takes {k : Nat} {call : PayCall} {charge : Charge} {owner : String} {t : Int}
      {found : StoredOrder Doc} {order : Order} {effects : List Effect} :
      w.calls.get k = some call → call.stage = .claimed charge owner →
      w.store.orderById call.orderId = some found →
      found.paidBy = none ∨ found.paidBy = some owner →
      eventsForVerifiedPayment found.order t ≠ [] →
      driven found.order (eventsForVerifiedPayment found.order t) = .ok (order, effects) →
      w'.store.orders = w.store.orders.set call.orderId
        (presentedRecord R.config (call.presentation charge owner) t found order) →
      .presented (call.presentation charge owner)
        (some (.took (presentedRecord R.config (call.presentation charge owner) t found order)
          effects)) ∈ out → OrdersStep R w w' out

theorem orderById_eq {orders : Dict String (StoredOrder Doc)} (h : w.store.orders = orders)
    (id : String) : w.store.orderById id = orders.get id := by
  rw [Store.orderById, h]

theorem orderById_of_set {key id : String} {next record : StoredOrder Doc}
    (hs : w'.store.orders = w.store.orders.set key next) (hr : w'.store.orderById id = some record) :
    (id = key ∧ record = next) ∨ w.store.orderById id = some record := by
  rw [orderById_eq hs, get_set] at hr
  split at hr
  · next hid =>
    cases hr
    exact .inl ⟨hid, rfl⟩
  · exact .inr hr

/-- How a call of `payPurchase` came to stand where it stands after a step. -/
inductive CallStep (w : World Doc) (out : List (Notice Doc)) (k : Nat) : PayCall → Prop
  | kept {call : PayCall} : w.calls.get k = some call → CallStep w out k call
  | begins {orderId payment fingerprint : String} {before : StoredOrder Doc} {price : Price} :
      w.store.orderById orderId = some before → before.order.price = some price →
      CallStep w out k ⟨orderId, payment, fingerprint, .read before.merchantId price⟩
  | asks {call : PayCall} {merchantId : String} {price : Price} {payTo : Option String} :
      w.calls.get k = some call → call.stage = .read merchantId price →
      CallStep w out k { call with
        stage := .asking ⟨call.orderId, price.amount, price.currency, call.payment, payTo⟩ }
  | checksOut {call : PayCall} {charge : Charge} {owner : String} :
      w.calls.get k = some call → call.stage = .asking charge → .verified charge owner ∈ out →
      CallStep w out k { call with stage := .checkedOut charge owner }
  | claims {call : PayCall} {charge : Charge} {owner : String} :
      w.calls.get k = some call → call.stage = .checkedOut charge owner →
      CallStep w out k { call with stage := .claimed charge owner }
  | isSpent {call : PayCall} {holder : String} : w.calls.get k = some call →
      CallStep w out k { call with stage := .spent holder }
  | isTurnedAway {call : PayCall} {answer : PurchaseAnswer} : w.calls.get k = some call →
      CallStep w out k { call with stage := .turnedAway answer }

/-- How a frame of effects came to be under way: its record was under way before the step, or is what
is stored after it. -/
def FrameStep (w w' : World Doc) (frame : Frame Doc) : Prop :=
  (∃ k task was, w.tasks.get k = some task ∧ was ∈ task.frames ∧ was.record = frame.record) ∨
    ∃ id, w'.store.orderById id = some frame.record

/-- A presentation that did not take the payment. -/
def PresentDecided.TurnsAway : PresentDecided Doc → Prop
  | .took .. => False
  | .alreadyYours _ | .notOwner _ | .refused _ => True

/-- Everything a step of the gateway can do. -/
structure Stepped (R : Runtime) (w w' : World Doc) (out : List (Notice Doc)) : Prop where
  orders : OrdersStep R w w' out
  calls : ∀ {k call}, w'.calls.get k = some call → CallStep w out k call
  frames : ∀ {k task}, w'.tasks.get k = some task → ∀ frame ∈ task.frames, FrameStep w w' frame
  charges : ∀ {charge}, .settleCalled charge ∈ out →
    ∃ k task frame, w.tasks.get k = some task ∧ frame ∈ task.frames ∧
      chargeOf frame.record = .ok charge
  answers : ∀ {presented came}, .presented presented (some came) ∈ out → came.TurnsAway →
    w'.store = w.store

/-! ## What goes on under way -/

/-- A notice that neither asks for a charge nor answers a presentation. -/
def Notice.Plain : Notice Doc → Prop
  | .settleCalled _ | .presented .. => False
  | _ => True

theorem Stepped.of_plain (horders : OrdersStep R w w' out)
    (hcalls : ∀ {k call}, w'.calls.get k = some call → CallStep w out k call)
    (hframes : ∀ {k task}, w'.tasks.get k = some task → ∀ frame ∈ task.frames, FrameStep w w' frame)
    (hout : ∀ notice ∈ out, notice.Plain) : Stepped R w w' out where
  orders := horders
  calls := hcalls
  frames := hframes
  charges hc := (hout _ hc).elim
  answers hp _ := (hout _ hp).elim

theorem plain_remindings (armed : List (Reminder × Int)) :
    ∀ notice ∈ (remindings armed : List (Notice Doc)), notice.Plain := by
  intro notice hn
  obtain ⟨reminder, -, rfl⟩ := mem_map.1 hn
  trivial

theorem plain_append {out₁ out₂ : List (Notice Doc)} (h₁ : ∀ notice ∈ out₁, notice.Plain)
    (h₂ : ∀ notice ∈ out₂, notice.Plain) : ∀ notice ∈ out₁ ++ out₂, notice.Plain :=
  forall_mem_append.2 ⟨h₁, h₂⟩

theorem plain_singleton {notice : Notice Doc} (h : notice.Plain) : ∀ n ∈ [notice], n.Plain := by
  intro n hn
  rw [mem_singleton.1 hn]
  exact h

theorem World.hold_plain (w : World Doc) (cut : Option Nat) (id : String) (scope : Option String)
    (decide : StoredOrder Doc → Decision Doc α) : ∀ notice ∈ (w.hold cut id scope decide).2.1, notice.Plain := by
  intro notice hn
  rcases hold_out hn with ⟨_, _, rfl⟩ | ⟨_, _, _, rfl⟩ <;> trivial

variable {k : Nat} {call : PayCall}

theorem calls_set {calls : Dict Nat PayCall} (hw : w.calls = calls) (h : CallStep w out k call)
    (hc : (calls.set k call).get j = some c) :
    CallStep w out j c := by
  rcases of_get_set hc with ⟨hj, rfl⟩ | ⟨-, hc⟩
  · rw [hj]
    exact h
  · exact .kept (hw ▸ hc)

theorem calls_delete {calls : Dict Nat PayCall} (hw : w.calls = calls) (hc : (calls.delete k).get j = some c) :
    CallStep w out j c := by
  exact .kept (hw ▸ (of_get_delete hc).2)

theorem FrameStep.kept (h : w.tasks.get k = some task) :
    ∀ frame ∈ task.frames, FrameStep w w' frame :=
  fun frame hf => .inl ⟨k, task, frame, h, hf, rfl⟩

theorem frames_set (hw : w.tasks = tasks) (h : ∀ frame ∈ task.frames, FrameStep w w' frame)
    (hn : (tasks.set k task).get j = some now) : ∀ frame ∈ now.frames, FrameStep w w' frame := by
  rw [get_set] at hn
  split at hn
  · cases hn
    exact h
  · exact FrameStep.kept (hw ▸ hn)

theorem frames_delete (hw : w.tasks = tasks) (hn : (tasks.delete k).get j = some now) :
    ∀ frame ∈ now.frames, FrameStep w w' frame := by
  exact FrameStep.kept (hw ▸ (of_get_delete hn).2)

theorem Stepped.of_reads (horders : w'.store.orders = w.store.orders) (htasks : w.tasks = w'.tasks)
    (hcalls : ∀ {k call}, w'.calls.get k = some call → CallStep w out k call)
    (hout : ∀ notice ∈ out, notice.Plain) : Stepped R w w' out :=
  .of_plain (.stand horders) hcalls (fun ht => FrameStep.kept (htasks ▸ ht)) hout

theorem Stepped.of_rest (horders : w'.store.orders = w.store.orders) (hcalls : w.calls = w'.calls)
    (htasks : w.tasks = w'.tasks) (hout : ∀ notice ∈ out, notice.Plain) : Stepped R w w' out :=
  .of_reads horders htasks (fun h => .kept (hcalls ▸ h)) hout

theorem OrdersStep.congr {v : World Doc} {more : List (Notice Doc)} (h : OrdersStep R w w' out)
    (hv : v.store.orders = w'.store.orders) (hout : ∀ notice ∈ out, notice ∈ more) : OrdersStep R w v more := by
  cases h with
  | stand hs => exact .stand (hv.trans hs)
  | opens sale hn hs => exact .opens sale hn (hv.trans hs)
  | applies hf ht hs => exact .applies hf ht (hv.trans hs)
  | notes hf hs => exact .notes hf (hv.trans hs)
  | takes hc hst hf ho hne hd hs hin => exact .takes hc hst hf ho hne hd (hv.trans hs) (hout _ hin)

/-! ## The steps -/

theorem World.create_stepped (w : World Doc) (k : Nat) (sale : Sale Doc) (now : Int)
    (fresh : Nat → String) (cut : Option Nat) :
    Stepped R w (w.create k sale now fresh cut).1 (w.create k sale now fresh cut).2 := by
  have harmed : ∀ notice ∈ (remindings
      (arm [] (deadlines sale.record.order) sale.record.order.id now) : List (Notice Doc)),
      notice.Plain :=
    plain_remindings _
  unfold World.create
  dsimp only
  split
  · exact .of_rest rfl rfl rfl (plain_singleton trivial)
  · exact .of_rest rfl rfl rfl (plain_remindings _)
  · split
    · exact .of_rest rfl rfl rfl (plain_append harmed (plain_singleton trivial))
    · split
      · exact .of_rest rfl rfl rfl (plain_append harmed (plain_singleton trivial))
      · next store ha =>
        unfold Store.addOrder at ha
        split at ha
        · cases ha
        · next hn =>
          cases ha
          have hnew : w.store.orderById sale.record.order.id = none := by
            simpa [Dict.has, Store.orderById] using hn
          refine .of_plain (.opens sale hnew rfl) (fun h => .kept h) (frames_set rfl fun frame hf => ?_) harmed
          rw [mem_singleton.1 hf]
          exact .inr ⟨sale.record.order.id, get_set_self _ _ _⟩
    · exact .of_rest rfl rfl rfl (plain_append harmed (plain_singleton trivial))

/-- **The rule of `apply`.** It goes on with nothing but a frame of what it saved. -/
theorem World.apply_spec {call : ApplyCall Doc} {now : Int} {fresh : Nat → String}
    {cut : Option Nat} {after : Aftermath Doc} (h : w.apply R call now fresh cut = (w', out, after)) :
    OrdersStep R w w' out ∧ w.calls = w'.calls ∧ w.tasks = w'.tasks ∧ (∀ notice ∈ out, notice.Plain) ∧
      ∀ frame, after = .runs frame → w'.store.orderById call.orderId = some frame.record := by
  have hplain := w.hold_plain cut call.orderId call.scope (applyDecision R.config call now fresh)
  unfold World.apply at h
  cases hh : w.hold cut call.orderId call.scope (applyDecision R.config call now fresh) with
  | mk v res =>
    obtain ⟨notices, held⟩ := res
    rw [hh] at hplain
    simp only [hh] at h
    rcases hold_spec hh with ⟨rfl, hnot⟩ | ⟨found, change, hf, hc, rfl, rfl⟩
    · split at h
      · cases h
        exact ⟨.stand rfl, rfl, rfl, hplain, by rintro frame ⟨⟩⟩
      · cases h
        exact ⟨.stand rfl, rfl, rfl, plain_append hplain (plain_singleton trivial), by rintro frame ⟨⟩⟩
      · cases h
        exact ⟨.stand rfl, rfl, rfl, plain_append hplain (plain_singleton trivial), by rintro frame ⟨⟩⟩
      · next change => exact absurd rfl (hnot change)
    · cases h
      have hout : ∀ notice ∈ notices ++ [.applied call (some change.result)], notice.Plain :=
        plain_append hplain (plain_singleton trivial)
      cases applyDecision_change hc with
      | movedOn => exact ⟨.stand (Store.putReceipts_orders _ _), rfl, rfl, hout, by rintro frame ⟨⟩⟩
      | refused _ => exact ⟨.stand (Store.putReceipts_orders _ _), rfl, rfl, hout, by rintro frame ⟨⟩⟩
      | @moved order effects alongside ht hw =>
        have hsave := w.store.saveOrder_orders alongside call.orderId
          (appliedRecord_merchantId R.config found order call effects)
        refine ⟨.applies hf ht hsave, rfl, rfl, hout, ?_⟩
        rintro frame ⟨⟩
        simp only [Store.orderById, hsave, get_set_self]

theorem World.applyAlone_stepped (w : World Doc) (k : Nat) (call : ApplyCall Doc) (now : Int)
    (fresh : Nat → String) (cut : Option Nat) :
    Stepped R w (w.applyAlone R k call now fresh cut).1 (w.applyAlone R k call now fresh cut).2 := by
  unfold applyAlone
  cases ha : w.apply R call now fresh cut with
  | mk v res =>
    obtain ⟨notices, after⟩ := res
    obtain ⟨horders, hcalls, htasks, hplain, hframe⟩ := apply_spec ha
    cases after with
    | runs frame =>
      refine .of_plain (horders.congr rfl fun _ hn => hn) (fun h => .kept (hcalls ▸ h))
        (frames_set htasks fun f hf => ?_) hplain
      rw [mem_singleton.1 hf]
      exact .inr ⟨call.orderId, hframe frame rfl⟩
    | lost | finished =>
      exact .of_plain horders (fun h => .kept (hcalls ▸ h)) (fun h => FrameStep.kept (htasks ▸ h)) hplain

theorem World.pay_stepped (w : World Doc) (k : Nat) (orderId payment fingerprint : String) :
    Stepped R w (w.pay k orderId payment fingerprint).1 (w.pay k orderId payment fingerprint).2 := by
  unfold World.pay
  split
  · exact .of_rest rfl rfl rfl (plain_singleton trivial)
  · next before hf =>
    split
    · exact .of_rest rfl rfl rfl (plain_singleton trivial)
    · next price hp => exact .of_reads rfl rfl (calls_set rfl (.begins hf hp)) (by rintro notice ⟨⟩)

theorem World.verify_stepped {charge : Charge}
    (hc : w.calls.get k = some call) (hs : call.stage = .asking charge) (outcome : VerifyOutcome) :
    Stepped R w (w.verify R k call charge outcome).1 (w.verify R k call charge outcome).2 := by
  cases outcome with
  | verified payer =>
    refine .of_reads rfl rfl (calls_set rfl (.checksOut hc hs ?_)) (plain_singleton trivial)
    exact mem_singleton.2 rfl
  | notVerified reason message => exact .of_reads rfl rfl (calls_delete rfl) (plain_singleton trivial)
  | unknown message => exact .of_reads rfl rfl (calls_delete rfl) (plain_singleton trivial)

theorem Store.claimPayment_orders (store : Store Doc) (fingerprint orderId : String) (now : Int) :
    (store.claimPayment fingerprint orderId now).1.orders = store.orders := by
  unfold Store.claimPayment
  split <;> rfl

theorem Store.releaseClaim_orders (store : Store Doc) (fingerprint orderId : String) :
    (store.releaseClaim fingerprint orderId).orders = store.orders := by
  unfold Store.releaseClaim
  split <;> rfl

theorem World.claim_stepped {charge : Charge} {owner : String}
    (hc : w.calls.get k = some call) (hs : call.stage = .checkedOut charge owner) (now : Int) :
    Stepped R w (w.claim k call charge owner now).1 (w.claim k call charge owner now).2 := by
  have horders := w.store.claimPayment_orders call.fingerprint call.orderId now
  unfold World.claim
  dsimp only
  split
  · exact .of_reads horders rfl (calls_set rfl (.claims hc hs)) (by rintro notice ⟨⟩)
  · exact .of_reads horders rfl (calls_set rfl (.isSpent hc)) (by rintro notice ⟨⟩)

theorem World.readHolder_stepped (w : World Doc) (k : Nat) (call : PayCall) (holder : String) :
    Stepped R w (w.readHolder k call holder).1 (w.readHolder k call holder).2 :=
  .of_reads rfl rfl (calls_delete rfl) (plain_singleton trivial)

theorem World.release_stepped (w : World Doc) (k : Nat) (call : PayCall) (answer : PurchaseAnswer) :
    Stepped R w (w.release k call answer).1 (w.release k call answer).2 := by
  have horders := w.store.releaseClaim_orders call.fingerprint call.orderId
  dsimp only [World.release, World.hangUp]
  exact .of_reads horders rfl (calls_delete rfl) (plain_singleton trivial)

theorem Stepped.of_answer {notices more : List (Notice Doc)} {presented : Presentation}
    {came : Option (PresentDecided Doc)} (horders : OrdersStep R w w' (notices ++ .presented presented came :: more))
    (hcalls : ∀ {k call}, w'.calls.get k = some call →
      CallStep w (notices ++ .presented presented came :: more) k call)
    (hframes : ∀ {k task}, w'.tasks.get k = some task → ∀ frame ∈ task.frames, FrameStep w w' frame)
    (hnotices : ∀ notice ∈ notices, notice.Plain) (hmore : ∀ notice ∈ more, notice.Plain)
    (hstore : ∀ c, came = some c → c.TurnsAway → w'.store = w.store) :
    Stepped R w w' (notices ++ .presented presented came :: more) where
  orders := horders
  calls := hcalls
  frames := hframes
  charges hc := by
    rcases mem_append.1 hc with hc | hc
    · exact (hnotices _ hc).elim
    · rcases mem_cons.1 hc with hc | hc
      · cases hc
      · exact (hmore _ hc).elim
  answers hp ht := by
    rcases mem_append.1 hp with hp | hp
    · exact (hnotices _ hp).elim
    · rcases mem_cons.1 hp with hp | hp
      · cases hp
        exact hstore _ rfl ht
      · exact (hmore _ hp).elim

theorem World.present_stepped {charge : Charge} {owner : String}
    (hcall : w.calls.get k = some call) (hstage : call.stage = .claimed charge owner) (task : Nat)
    (t now : Int) (fresh : Nat → String) (cut : Option Nat) :
    Stepped R w (w.present R k task call charge owner t now fresh cut).1
      (w.present R k task call charge owner t now fresh cut).2 := by
  have hplain := w.hold_plain cut call.orderId none
    (presentDecision R.config (call.presentation charge owner) t now fresh)
  have hnil : ∀ notice ∈ ([] : List (Notice Doc)), notice.Plain := by rintro notice ⟨⟩
  unfold World.present
  cases hh : w.hold cut call.orderId none (presentDecision R.config (call.presentation charge owner) t now fresh) with
  | mk v res =>
    obtain ⟨notices, held⟩ := res
    rw [hh] at hplain
    have hid : (call.presentation charge owner).orderId = call.orderId := rfl
    simp only [hid, hh]
    rcases hold_spec hh with ⟨rfl, hnot⟩ | ⟨found, change, hf, hdec, rfl, rfl⟩
    · cases held with
      | none => exact .of_reads rfl rfl (calls_delete rfl) hplain
      | some held =>
        cases held with
        | threw words =>
          exact .of_reads rfl rfl (calls_delete rfl) (plain_append hplain (plain_singleton trivial))
        | notFound =>
          exact .of_answer (.stand rfl) (calls_set rfl (.isTurnedAway hcall)) FrameStep.kept
            hplain hnil (by rintro c ⟨⟩)
        | decided change => exact absurd rfl (hnot change)
    · cases presentDecision_change hdec with
      | notOwner _ _ =>
        exact .of_answer (.stand rfl) (calls_set rfl (.isTurnedAway hcall)) FrameStep.kept
          hplain hnil fun _ _ _ => rfl
      | alreadyYours _ =>
        exact .of_answer (.stand rfl) (calls_delete rfl) FrameStep.kept hplain hnil fun _ _ _ => rfl
      | refused _ =>
        dsimp only
        rw [append_assoc]
        exact .of_answer (.stand rfl) (calls_delete rfl) FrameStep.kept hplain
          (plain_singleton trivial) fun _ _ _ => rfl
      | @took order effects alongside hown hne hd hw =>
        have hsave := w.store.saveOrder_orders alongside call.orderId
          (presentedRecord_merchantId R.config found order (call.presentation charge owner) t)
        dsimp only [World.hangUp]
        refine .of_answer (.takes hcall hstage hf hown hne hd hsave ?_) (calls_delete rfl)
          (frames_set rfl fun frame hfr => ?_) hplain hnil ?_
        · exact mem_append_right _ (mem_singleton.2 rfl)
        · rw [mem_singleton.1 hfr]
          refine .inr ⟨call.orderId, ?_⟩
          show ((w.store.putReceipts alongside).saveOrder call.orderId found (some _)).orders.get _ = some _
          rw [hsave, get_set_self]
        · rintro c ⟨⟩ ht
          exact ht.elim

/-! ## Effects are carried out -/

variable {frame : Frame Doc} {rest : List (Frame Doc)}

theorem frames_behind (h : w.tasks.get k = some ⟨waiting, frame :: rest⟩) {effects : List Effect} :
    ∀ f ∈ { frame with effects := effects } :: rest, FrameStep w w' f := by
  intro f hf
  rcases mem_cons.1 hf with rfl | hf
  · exact .inl ⟨k, _, frame, h, mem_cons_self .., rfl⟩
  · exact .inl ⟨k, _, f, h, mem_cons_of_mem _ hf, rfl⟩

theorem Stepped.of_tasks (horders : w'.store.orders = w.store.orders) (hcalls : w.calls = w'.calls)
    (hframes : ∀ {k task}, w'.tasks.get k = some task → ∀ frame ∈ task.frames, FrameStep w w' frame)
    (hout : ∀ notice ∈ out, notice.Plain) : Stepped R w w' out :=
  .of_plain (.stand horders) (fun h => .kept (hcalls ▸ h)) hframes hout

theorem plain_wakeTheAgent (record : StoredOrder Doc) : ∀ notice ∈ wakeTheAgent record, notice.Plain := by
  intro notice hn
  unfold wakeTheAgent at hn
  split at hn
  · cases hn
  · split at hn
    · rw [mem_singleton.1 hn]
      trivial
    · cases hn

theorem World.carryOut_stepped (h : w.tasks.get k = some ⟨none, frame :: rest⟩) :
    Stepped R w (w.carryOut k frame rest).1 (w.carryOut k frame rest).2 := by
  have hbehind {w' : World Doc} : ∀ f ∈ rest, FrameStep w w' f :=
    fun f hf => .inl ⟨k, _, f, h, mem_cons_of_mem _ hf, rfl⟩
  obtain ⟨record, effects, t⟩ := frame
  unfold World.carryOut
  cases effects with
  | nil =>
    dsimp only [World.returns]
    split
    · exact .of_tasks rfl rfl (frames_delete rfl) (plain_wakeTheAgent record)
    · exact .of_tasks rfl rfl (frames_set rfl hbehind) (plain_wakeTheAgent record)
  | cons effect more =>
    cases effect with
    | executePayment =>
      dsimp only
      split
      · exact .of_tasks rfl rfl (frames_delete rfl) (plain_singleton trivial)
      · next charge hcharge =>
        refine ⟨.stand rfl, fun h => .kept h, frames_set rfl (frames_behind h), fun hc => ?_, fun hp _ => ?_⟩
        · cases mem_singleton.1 hc
          exact ⟨k, _, _, h, mem_cons_self .., hcharge⟩
        · cases mem_singleton.1 hp
    | dispatchOrder | redeliverOrder _ _ | emitMerchantEvent _ | issueReceipt | invitePayment
    | dispatchConfirmationRequest => exact .of_tasks rfl rfl (frames_delete rfl) (plain_singleton trivial)
    | answerMerchant _ => exact .of_tasks rfl rfl (frames_set rfl (frames_behind h)) (plain_singleton trivial)
    | requestQuote | verifyPayment | markRefundDue _ | releaseGoodsToAgent | holdFulfillment =>
      exact .of_tasks rfl rfl (frames_set rfl (frames_behind h)) (by rintro notice ⟨⟩)

theorem World.settle_stepped (h : w.tasks.get k = some ⟨waiting, frame :: rest⟩) (outcome : SettleOutcome)
    (now : Int) (fresh : Nat → String) (cut : Option Nat) :
    Stepped R w (w.settle R k frame rest outcome now fresh cut).1
      (w.settle R k frame rest outcome now fresh cut).2 := by
  have hbehind {w' : World Doc} : ∀ f ∈ frame :: rest, FrameStep w w' f := FrameStep.kept h
  unfold World.settle
  split
  · next call _ =>
    cases ha : w.apply R call now fresh cut with
    | mk v res =>
      obtain ⟨notices, after⟩ := res
      obtain ⟨horders, hcalls, htasks, hplain, hframe⟩ := apply_spec ha
      cases after with
      | lost =>
        exact .of_plain (horders.congr rfl fun _ hn => hn) (fun hc => .kept (hcalls ▸ hc))
          (frames_delete htasks) hplain
      | finished =>
        exact .of_plain (horders.congr rfl fun _ hn => hn) (fun hc => .kept (hcalls ▸ hc))
          (frames_set htasks hbehind) hplain
      | runs inner =>
        refine .of_plain (horders.congr rfl fun _ hn => hn) (fun hc => .kept (hcalls ▸ hc))
          (frames_set htasks fun f hf => ?_) hplain
        rcases mem_cons.1 hf with rfl | hf
        · exact .inr ⟨call.orderId, hframe _ rfl⟩
        · exact hbehind f hf
  · next orderId word _ =>
    have hplain := w.hold_plain cut orderId none (writeDownDecision R.config word)
    cases hh : w.hold cut orderId none (writeDownDecision R.config word) with
    | mk v res =>
      obtain ⟨notices, held⟩ := res
      rw [hh] at hplain
      rcases hold_spec hh with ⟨rfl, hnot⟩ | ⟨found, change, hf, hc, rfl, rfl⟩
      · cases held with
        | none => exact .of_tasks rfl rfl (frames_delete rfl) hplain
        | some held => exact .of_tasks rfl rfl (frames_set rfl hbehind) hplain
      · cases hc
        have hsave := w.store.saveOrder_orders [] orderId (alsoSaid_merchantId R.config found word)
        exact .of_plain (.notes hf hsave) (fun h => .kept h) (frames_set rfl hbehind) hplain

/-! ## Every step -/

theorem World.sweepOpen_stepped (w : World Doc) (k : Nat) (sweep : Sweep Doc)
    (record : StoredOrder Doc) (rest : List (StoredOrder Doc)) (holdsOrder : Bool) (id : String) :
    Stepped R w (w.sweepOpen R k sweep record rest holdsOrder id).1
      (w.sweepOpen R k sweep record rest holdsOrder id).2 := by
  unfold World.sweepOpen
  split
  · exact .of_rest rfl rfl rfl (plain_singleton trivial)
  · next envelope _ =>
    refine .of_rest rfl rfl rfl (plain_append ?_ (plain_remindings _))
    cases envelope with
    | none => rintro notice ⟨⟩
    | some envelope => exact plain_singleton trivial

theorem World.sweepReceipt_stepped (w : World Doc) (k : Nat) (sweep : Sweep Doc)
    (record : StoredOrder Doc) (rest : List (StoredOrder Doc)) (id : String) :
    Stepped R w (w.sweepReceipt k sweep record rest id).1 (w.sweepReceipt k sweep record rest id).2 := by
  unfold World.sweepReceipt
  split
  · exact .of_rest rfl rfl rfl (plain_singleton trivial)
  · exact .of_rest rfl rfl rfl (by rintro notice ⟨⟩)

/-- **The step of the gateway.** -/
theorem World.step_stepped (h : w.step R action = .ok (w', out)) : Stepped R w w' out := by
  have hnil : ∀ notice ∈ ([] : List (Notice Doc)), notice.Plain := by rintro notice ⟨⟩
  suffices hs : ∀ {came}, w.Performs R action came → Stepped R w came.1 came.2 from
    hs (step_performs h)
  intro came hperforms
  cases hperforms with
  | create task sale now fresh cut _ => exact w.create_stepped task sale now fresh cut
  | apply task call now fresh cut _ => exact w.applyAlone_stepped task call now fresh cut
  | pay k orderId payment fingerprint => exact w.pay_stepped k orderId payment fingerprint
  | readWallet hc hs => exact .of_reads rfl rfl (calls_set rfl (.asks hc hs)) hnil
  | verify hc hs outcome => exact verify_stepped hc hs outcome
  | claim hc hs now => exact claim_stepped hc hs now
  | readHolder hc hs => exact w.readHolder_stepped _ _ _
  | present hc hs task t now fresh cut _ => exact present_stepped hc hs task t now fresh cut
  | release hc hs => exact w.release_stepped _ _ _
  | hangUp k => exact .of_reads rfl rfl (calls_delete rfl) hnil
  | carryOut ht => exact carryOut_stepped ht
  | settle ht outcome now fresh cut => exact settle_stepped ht outcome now fresh cut
  | drop k => exact .of_tasks rfl rfl (frames_delete rfl) hnil
  | movePayoutWallet merchantId wallet => exact .of_rest rfl rfl rfl hnil
  | forgetClaims instant => exact .of_rest rfl rfl rfl hnil
  | beginSweep k now =>
    unfold World.beginSweep
    split <;> exact .of_rest rfl rfl rfl hnil
  | sweepOpen hs hun holdsOrder id => exact w.sweepOpen_stepped _ _ _ _ holdsOrder id
  | sweepDelivered hs hun => exact .of_rest rfl rfl rfl hnil
  | sweepReceipt hs hun id => exact w.sweepReceipt_stepped _ _ _ _ id
  | stopSweep k => exact .of_rest rfl rfl rfl hnil
  | loseTheName => exact .of_rest rfl rfl rfl hnil

end Coinslot
