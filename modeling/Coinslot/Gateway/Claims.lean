import Coinslot.Gateway.Ownership

/-!
# One authorisation buys one order

A claim binds a payment to an order before the order is asked to take it, and goes back where the order
turns the payment away. `ClaimStep` says once what a step does to the claims and to the calls that make
them, and `World.Bound` is what holds of them on every run of a payment layer that is consistent about
who paid (`Attested`): a call that holds a claim holds it still, or comes to an order that belongs to
somebody else and will turn it away; and a payment an order took is claimed for that order.
-/

namespace Coinslot

open List Option Dict World

variable {Doc α : Type} {R : Runtime} {w w' : World Doc} {out : List (Notice Doc)}

/-! ## What a step does to the claims -/

@[simp] theorem Store.putReceipts_paymentClaims (store : Store Doc) (writes : List (WithTheOrder Doc)) :
    (store.putReceipts writes).paymentClaims = store.paymentClaims := by
  induction writes generalizing store with
  | nil => rfl
  | cons write rest ih =>
    cases write with
    | envelope merchantId envelope afterMs => exact ih store
    | receipt merchantId receipt => exact ih (store.putReceipt merchantId receipt)

@[simp] theorem Store.saveOrder_paymentClaims (store : Store Doc) (id : String)
    (found : StoredOrder Doc) (save : Option (StoredOrder Doc)) :
    (store.saveOrder id found save).paymentClaims = store.paymentClaims := by
  unfold Store.saveOrder
  split <;> rfl

theorem World.hold_frame (w : World Doc) (cut : Option Nat) (id : String) (scope : Option String)
    (decide : StoredOrder Doc → Decision Doc α) :
    (w.hold cut id scope decide).1.store.paymentClaims = w.store.paymentClaims ∧
      (w.hold cut id scope decide).1.calls = w.calls := by
  cases hh : w.hold cut id scope decide with
  | mk v res =>
    obtain ⟨notices, held⟩ := res
    rcases hold_spec hh with ⟨rfl, -⟩ | ⟨found, change, -, -, -, rfl⟩
    · exact ⟨rfl, rfl⟩
    · refine ⟨?_, rfl⟩
      rw [Store.saveOrder_paymentClaims, Store.putReceipts_paymentClaims]

theorem World.apply_fst (R : Runtime) (w : World Doc) (call : ApplyCall Doc) (now : Int)
    (fresh : Nat → String) (cut : Option Nat) : (w.apply R call now fresh cut).1 =
      (w.hold cut call.orderId call.scope (applyDecision R.config call now fresh)).1 := by
  unfold World.apply
  dsimp only
  split <;> rfl

theorem World.apply_frame (R : Runtime) (w : World Doc) (call : ApplyCall Doc) (now : Int)
    (fresh : Nat → String) (cut : Option Nat) :
    (w.apply R call now fresh cut).1.store.paymentClaims = w.store.paymentClaims ∧
      (w.apply R call now fresh cut).1.calls = w.calls := by
  rw [apply_fst]
  exact w.hold_frame cut call.orderId call.scope _

/-- The order under this identifier belongs to somebody else. -/
def World.Bars (w : World Doc) (id owner : String) : Prop :=
  ∃ record other, w.store.orderById id = some record ∧ record.paidBy = some other ∧ other ≠ owner

/-- Everything a step can do to the claims and to the calls of `payPurchase`. -/
inductive ClaimStep (R : Runtime) (w w' : World Doc) : Action Doc → Prop
  | stands {action : Action Doc} : w'.store.paymentClaims = w.store.paymentClaims →
      w'.calls = w.calls → ClaimStep R w w' action
  | begins {k : Nat} {orderId payment fingerprint merchantId : String} {price : Price} :
      w'.store.paymentClaims = w.store.paymentClaims →
      w'.calls = w.calls.set k ⟨orderId, payment, fingerprint, .read merchantId price⟩ →
      ClaimStep R w w' (.pay k orderId payment fingerprint)
  | goesOn {action : Action Doc} {k : Nat} {call : PayCall} {stage : PayStage} :
      w.calls.get k = some call → w'.store.paymentClaims = w.store.paymentClaims →
      (∃ charge, stage = .asking charge) ∨ (∃ holder, stage = .spent holder) →
      w'.calls = w.calls.set k { call with stage := stage } → ClaimStep R w w' action
  | vouches {k : Nat} {call : PayCall} {charge : Charge} {payer : Option String} :
      w.calls.get k = some call → w'.store.paymentClaims = w.store.paymentClaims →
      w'.calls = w.calls.set k { call with
        stage := .checkedOut charge ((walletThatPaid R payer).getD call.fingerprint) } →
      ClaimStep R w w' (.verify k (.verified payer))
  | claims {k : Nat} {call : PayCall} {charge : Charge} {owner : String} {now : Int} :
      w.calls.get k = some call → call.stage = .checkedOut charge owner →
      (w.store.claimPayment call.fingerprint call.orderId now).2 = .claimed →
      w'.store.paymentClaims =
        (w.store.claimPayment call.fingerprint call.orderId now).1.paymentClaims →
      w'.calls = w.calls.set k { call with stage := .claimed charge owner } →
      ClaimStep R w w' (.claim k now)
  | turnsAway {action : Action Doc} {k : Nat} {call : PayCall} {charge : Charge} {owner : String}
      {answer : PurchaseAnswer} :
      w.calls.get k = some call → call.stage = .claimed charge owner →
      w.store.orderById call.orderId = none ∨ w.Bars call.orderId owner →
      w'.store.paymentClaims = w.store.paymentClaims →
      w'.calls = w.calls.set k { call with stage := .turnedAway answer } → ClaimStep R w w' action
  | releases {k : Nat} {call : PayCall} {answer : PurchaseAnswer} :
      w.calls.get k = some call → call.stage = .turnedAway answer →
      w'.store.paymentClaims =
        (w.store.releaseClaim call.fingerprint call.orderId).paymentClaims →
      w'.calls = w.calls.delete k → ClaimStep R w w' (.release k)
  | hangsUp {action : Action Doc} {k : Nat} : w'.store.paymentClaims = w.store.paymentClaims →
      w'.calls = w.calls.delete k → ClaimStep R w w' action
  | forgets {instant : Int} :
      w'.store.paymentClaims = (w.store.forgetClaimsBefore instant).paymentClaims →
      w'.calls = w.calls → ClaimStep R w w' (.forgetClaims instant)

variable {k : Nat} {payerOf : String → Option String} {actions : List (Action Doc)}

theorem World.verify_claimStep {call : PayCall} {charge : Charge} (hc : w.calls.get k = some call)
    (outcome : VerifyOutcome) :
    ClaimStep R w (w.verify R k call charge outcome).1 (.verify k outcome) := by
  cases outcome with
  | verified payer => exact .vouches hc rfl rfl
  | notVerified reason message => exact .hangsUp rfl rfl
  | unknown message => exact .hangsUp rfl rfl

theorem Store.claimPayment_heldBy {store : Store Doc} {fingerprint orderId holder : String}
    {now : Int} (h : (store.claimPayment fingerprint orderId now).2 = .heldBy holder) :
    (store.claimPayment fingerprint orderId now).1 = store := by
  unfold Store.claimPayment at h ⊢
  split
  · next hn => simp [hn] at h
  · rfl

theorem World.claim_claimStep {call : PayCall} {charge : Charge} {owner : String} (hc : w.calls.get k = some call)
    (hs : call.stage = .checkedOut charge owner) (now : Int) :
    ClaimStep R w (w.claim k call charge owner now).1 (.claim k now) := by
  unfold World.claim
  dsimp only
  split
  · next h => exact .claims hc hs h rfl rfl
  · next holder h =>
    refine .goesOn hc ?_ (.inr ⟨holder, rfl⟩) rfl
    show (w.store.claimPayment call.fingerprint call.orderId now).1.paymentClaims = _
    rw [Store.claimPayment_heldBy h]

theorem World.present_claimStep {call : PayCall} {charge : Charge} {owner : String} (hc : w.calls.get k = some call)
    (hs : call.stage = .claimed charge owner) (task : Nat) (t now : Int) (fresh : Nat → String) (cut : Option Nat) :
    ClaimStep R w (w.present R k task call charge owner t now fresh cut).1 (.present k task t now fresh cut) := by
  have hholds := w.hold_holdsTo cut call.orderId none
    (presentDecision R.config (call.presentation charge owner) t now fresh)
  have hframe := w.hold_frame cut call.orderId none
    (presentDecision R.config (call.presentation charge owner) t now fresh)
  have hid : (call.presentation charge owner).orderId = call.orderId := rfl
  unfold World.present
  simp only [hid]
  generalize w.hold cut call.orderId none
    (presentDecision R.config (call.presentation charge owner) t now fresh) = came at hholds hframe
  obtain ⟨v, notices, held⟩ := came
  obtain ⟨hclaims, hcalls⟩ : v.store.paymentClaims = w.store.paymentClaims ∧ v.calls = w.calls := hframe
  have hset (answer : PurchaseAnswer) : (v.goesOn k call (.turnedAway answer)).calls =
      w.calls.set k { call with stage := .turnedAway answer } := by
    rw [← hcalls]
    rfl
  have hdel : (v.hangUp k).calls = w.calls.delete k := by
    rw [← hcalls]
    rfl
  cases hholds with
  | cutBefore | cutOff _ | threw _ _ _ => exact .hangsUp hclaims hdel
  | notFound hn =>
    refine .turnsAway hc hs (.inl ?_) hclaims (hset _)
    cases hf : w.store.orderById call.orderId with
    | none => rfl
    | some found =>
      obtain ⟨merchantId, hm, -⟩ := hn found hf
      cases hm
  | decided hf _ hdec =>
    cases presentDecision_change hdec with
    | notOwner hn ho =>
      refine .turnsAway hc hs (.inr ?_) hclaims (hset _)
      obtain ⟨other, hother⟩ := ne_none_iff_exists'.1 hn
      exact ⟨_, other, hf, hother, fun h => ho (by rw [hother, h]; rfl)⟩
    | alreadyYours _ => exact .hangsUp hclaims hdel
    | refused _ => exact .hangsUp hclaims hdel
    | took _ _ _ _ => exact .hangsUp hclaims hdel

theorem World.carryOut_frame (w : World Doc) (k : Nat) (frame : Frame Doc) (rest : List (Frame Doc)) :
    (w.carryOut k frame rest).1.store.paymentClaims = w.store.paymentClaims ∧
      (w.carryOut k frame rest).1.calls = w.calls := by
  unfold carryOut
  split
  · unfold World.returns
    split <;> exact ⟨rfl, rfl⟩
  · split
    · split <;> exact ⟨rfl, rfl⟩
    all_goals exact ⟨rfl, rfl⟩

theorem World.settle_frame (w : World Doc) (k : Nat) (frame : Frame Doc) (rest : List (Frame Doc))
    (outcome : SettleOutcome) (now : Int) (fresh : Nat → String) (cut : Option Nat) :
    (w.settle R k frame rest outcome now fresh cut).1.store.paymentClaims = w.store.paymentClaims ∧
      (w.settle R k frame rest outcome now fresh cut).1.calls = w.calls := by
  unfold World.settle
  split
  · next call _ =>
    have hframe := w.apply_frame R call now fresh cut
    dsimp only
    split <;> exact hframe
  · next orderId word _ =>
    have hframe := w.hold_frame cut orderId none (writeDownDecision R.config word)
    dsimp only
    split <;> exact hframe

theorem World.create_frame (w : World Doc) (task : Nat) (sale : Sale Doc) (now : Int)
    (fresh : Nat → String) (cut : Option Nat) :
    (w.create task sale now fresh cut).1.store.paymentClaims = w.store.paymentClaims ∧
      (w.create task sale now fresh cut).1.calls = w.calls := by
  unfold World.create
  dsimp only
  split
  · exact ⟨rfl, rfl⟩
  · exact ⟨rfl, rfl⟩
  · split
    · exact ⟨rfl, rfl⟩
    · split
      · exact ⟨rfl, rfl⟩
      · next store ha =>
        unfold Store.addOrder at ha
        split at ha
        · cases ha
        · cases ha
          exact ⟨rfl, rfl⟩
    · exact ⟨rfl, rfl⟩

/-- **The step, for the claims.** -/
theorem World.Performs.claimStep {action : Action Doc} {came : World Doc × List (Notice Doc)}
    (h : w.Performs R action came) : ClaimStep R w came.1 action := by
  cases h with
  | create task sale now fresh cut _ =>
    have hframe := w.create_frame task sale now fresh cut
    exact .stands hframe.1 hframe.2
  | apply task call now fresh cut _ =>
    have hframe := w.apply_frame R call now fresh cut
    unfold applyAlone
    dsimp only
    split <;> exact .stands hframe.1 hframe.2
  | pay k orderId payment fingerprint =>
    unfold World.pay
    split
    · exact .stands rfl rfl
    · split
      · exact .stands rfl rfl
      · exact .begins rfl rfl
  | readWallet hc _ => exact .goesOn hc rfl (.inl ⟨_, rfl⟩) rfl
  | verify hc _ outcome => exact verify_claimStep hc outcome
  | claim hc hs now => exact claim_claimStep hc hs now
  | readHolder _ _ => exact .hangsUp rfl rfl
  | present hc hs task t now fresh cut _ => exact present_claimStep hc hs task t now fresh cut
  | release hc hs => exact .releases hc hs rfl rfl
  | hangUp k => exact .hangsUp rfl rfl
  | @carryOut k frame rest _ =>
    have hframe := w.carryOut_frame k frame rest
    exact .stands hframe.1 hframe.2
  | @settle k _ frame rest _ outcome now fresh cut =>
    have hframe := w.settle_frame (R := R) k frame rest outcome now fresh cut
    exact .stands hframe.1 hframe.2
  | drop k => exact .stands rfl rfl
  | movePayoutWallet merchantId wallet => exact .stands rfl rfl
  | forgetClaims instant => exact .forgets rfl rfl
  | beginSweep k now =>
    unfold World.beginSweep
    split <;> exact .stands rfl rfl
  | sweepOpen _ _ holdsOrder id =>
    unfold World.sweepOpen
    split <;> exact .stands rfl rfl
  | sweepDelivered _ _ => exact .stands rfl rfl
  | sweepReceipt _ _ id =>
    unfold World.sweepReceipt
    split <;> exact .stands rfl rfl
  | stopSweep k => exact .stands rfl rfl
  | loseTheName => exact .stands rfl rfl

/-! ## A consistent payment layer -/

section
variable (fingerprintOf : String → String) (payerOf : String → Option String)

/-- Who an order paid for with a payment of this fingerprint belongs to: the wallet the payment layer
names, or the fingerprint itself. -/
def ownerNamed (fingerprint : String) : String := (payerOf fingerprint).getD fingerprint

/-- A payment comes with its own fingerprint, the payment layer names the same payer every time it
verifies it, and no claim reaches its retention limit. -/
def Attested (R : Runtime) (w : World Doc) : Action Doc → Prop
  | .pay _ _ payment fingerprint => fingerprint = fingerprintOf payment
  | .verify k (.verified payer) => ∀ call ∈ w.calls.get k, walletThatPaid R payer = payerOf call.fingerprint
  | .forgetClaims instant => ∀ e ∈ w.store.paymentClaims.entries, instant ≤ e.2.at
  | _ => True

section

variable (w : World Doc)

def World.Binds (fingerprint id : String) : Prop :=
  ∃ held, w.store.paymentClaims.get fingerprint = some held ∧ held.orderId = id

def World.BelongsTo (id owner : String) : Prop :=
  ∃ record, w.store.orderById id = some record ∧ record.paidBy = some owner

/-- The payment is claimed for the order, and the order belongs to whoever paid with it. -/
def World.Keeps (id payment : String) : Prop :=
  w.Binds (fingerprintOf payment) id ∧
    w.BelongsTo id (ownerNamed payerOf (fingerprintOf payment))

/-- What holds of a call, by how far it has got. -/
def PayCall.Bound (call : PayCall) : Prop :=
  call.fingerprint = fingerprintOf call.payment ∧
    match call.stage with
    | .read .. | .asking _ | .spent _ => True
    | .checkedOut _ owner => owner = ownerNamed payerOf call.fingerprint
    | .claimed _ owner =>
      owner = ownerNamed payerOf call.fingerprint ∧
        (w.Binds call.fingerprint call.orderId ∨ w.Bars call.orderId owner)
    | .turnedAway _ => w.Bars call.orderId (ownerNamed payerOf call.fingerprint)

end

/-- The invariant of the claims. -/
structure World.Bound (w : World Doc) (log : GatewayLog Doc) : Prop where
  records : ∀ {id record payment}, w.store.orderById id = some record →
    record.payment = some payment → w.Keeps fingerprintOf payerOf id payment
  frames : ∀ {k task}, w.tasks.get k = some task → ∀ frame ∈ task.frames, ∀ {payment},
    frame.record.payment = some payment →
      w.Keeps fingerprintOf payerOf frame.record.order.id payment
  charges : ∀ {charge}, .emitted (.settleCalled charge) ∈ log →
    w.Keeps fingerprintOf payerOf charge.orderId charge.payment
  calls : ∀ {k call}, w.calls.get k = some call → call.Bound fingerprintOf payerOf w

end

section
variable {fingerprintOf : String → String} {payerOf : String → Option String}
  {log : GatewayLog Doc} {action : Action Doc} {id owner fingerprint payment : String}

theorem World.BelongsTo.not_bars (h : w.BelongsTo id owner) : ¬ w.Bars id owner := by
  rintro ⟨record', other, hr', hother, hne⟩
  obtain ⟨record, hr, howner⟩ := h
  cases hr.symm.trans hr'
  cases howner.symm.trans hother
  exact hne rfl

theorem World.BelongsTo.step (h : w.BelongsTo id owner) (hw : w.Owned log)
    (hs : OrdersStep R w w' out) : w'.BelongsTo id owner := by
  obtain ⟨record, hr, howner⟩ := h
  obtain ⟨later, hl, hf⟩ := hs.follows hw hr
  exact ⟨later, hl, hf.owner howner⟩

theorem World.Bars.step (h : w.Bars id owner) (hw : w.Owned log) (hs : OrdersStep R w w' out) :
    w'.Bars id owner := by
  obtain ⟨record, other, hr, hother, hne⟩ := h
  obtain ⟨later, hl, hf⟩ := hs.follows hw hr
  exact ⟨later, other, hl, hf.owner hother, hne⟩

variable {store : Store Doc}

variable {now : Int}

theorem Store.claimPayment_get {orderId : String} (h : (store.claimPayment fingerprint orderId now).2 = .claimed) :
    ∃ held, (store.claimPayment fingerprint orderId now).1.paymentClaims.get fingerprint =
      some held ∧ held.orderId = orderId := by
  unfold Store.claimPayment at h ⊢
  cases hc : store.paymentClaims.get fingerprint with
  | none => exact ⟨⟨orderId, now⟩, get_set_self _ _ _, rfl⟩
  | some held =>
    refine ⟨held, hc, ?_⟩
    by_contra hne
    simp [hc, hne] at h

theorem Store.claimPayment_keeps {key orderId : String} {held : HeldClaim}
    (h : store.paymentClaims.get key = some held) :
    (store.claimPayment fingerprint orderId now).1.paymentClaims.get key = some held := by
  unfold Store.claimPayment
  cases hc : store.paymentClaims.get fingerprint with
  | none =>
    have hne : key ≠ fingerprint := by
      rintro rfl
      cases h.symm.trans hc
    exact (get_set_ne _ _ hne).trans h
  | some held => exact h

theorem Store.releaseClaim_keeps {key orderId : String} {held : HeldClaim}
    (h : store.paymentClaims.get key = some held) (hne : key = fingerprint → held.orderId ≠ orderId) :
    (store.releaseClaim fingerprint orderId).paymentClaims.get key = some held := by
  unfold Store.releaseClaim
  split
  · next hheld =>
    have hkey : key ≠ fingerprint := by
      rintro rfl
      rw [h] at hheld
      exact hne rfl (Option.some.inj hheld)
    rw [get_delete, if_neg hkey]
    exact h
  · exact h

theorem Store.forgetClaimsBefore_stands {instant : Int} (h : ∀ e ∈ store.paymentClaims.entries, instant ≤ e.2.at) :
    store.forgetClaimsBefore instant = store := by
  have hall : store.paymentClaims.entries.filter (fun e => ¬ e.2.at < instant) =
      store.paymentClaims.entries := by
    rw [filter_eq_self]
    intro e he
    have := h e he
    simpa using this
  unfold Store.forgetClaimsBefore
  simp only [hall]

theorem World.Binds.step (h : w.Binds fingerprint id) (hbar : ¬ w.Bars id (ownerNamed payerOf fingerprint))
    (hcalls : ∀ {k call}, w.calls.get k = some call → call.Bound fingerprintOf payerOf w)
    (hs : ClaimStep R w w' action) (ha : Attested fingerprintOf payerOf R w action) : w'.Binds fingerprint id := by
  obtain ⟨held, hheld, hid⟩ := h
  refine ⟨held, ?_, hid⟩
  cases hs with
  | stands hc _ | begins hc _ | goesOn _ hc _ _ | vouches _ hc _ | turnsAway _ _ _ hc _
  | hangsUp hc _ =>
    rw [hc]
    exact hheld
  | claims _ _ _ hc _ =>
    rw [hc]
    exact Store.claimPayment_keeps hheld
  | releases hcall hstage hc _ =>
    rw [hc]
    refine Store.releaseClaim_keeps hheld fun hkey hsame => hbar ?_
    -- Whoever gives the claim back was turned away by the order's owner.
    have hb := (hcalls hcall).2
    rw [hstage] at hb
    rw [hkey, ← hid, hsame]
    exact hb
  | forgets hc _ =>
    rw [hc, Store.forgetClaimsBefore_stands ha]
    exact hheld

theorem World.Keeps.step (h : w.Keeps fingerprintOf payerOf id payment) (hw : w.Owned log)
    (hbound : w.Bound fingerprintOf payerOf log) (ho : OrdersStep R w w' out)
    (hs : ClaimStep R w w' action) (ha : Attested fingerprintOf payerOf R w action) :
    w'.Keeps fingerprintOf payerOf id payment :=
  ⟨h.1.step h.2.not_bars hbound.calls hs ha, h.2.step hw ho⟩

theorem PayCall.Bound.step {call : PayCall} (h : call.Bound fingerprintOf payerOf w)
    (hw : w.Owned log) (hbound : w.Bound fingerprintOf payerOf log) (ho : OrdersStep R w w' out)
    (hs : ClaimStep R w w' action) (ha : Attested fingerprintOf payerOf R w action) :
    call.Bound fingerprintOf payerOf w' := by
  obtain ⟨hfp, hstage⟩ := h
  refine ⟨hfp, ?_⟩
  split at hstage
  · trivial
  · trivial
  · trivial
  · exact hstage
  · obtain ⟨rfl, hheld⟩ := hstage
    refine ⟨rfl, ?_⟩
    by_cases hbar : w.Bars call.orderId (ownerNamed payerOf call.fingerprint)
    · exact .inr (hbar.step hw ho)
    · exact .inl ((hheld.resolve_right hbar).step hbar hbound.calls hs ha)
  · exact hstage.step hw ho

section

variable (hbound : w.Bound fingerprintOf payerOf log)
include hbound

theorem World.Bound.calls_step (hw : w.Owned log) (ho : OrdersStep R w w' out) (hs : ClaimStep R w w' action)
    (ha : Attested fingerprintOf payerOf R w action) {k : Nat} {call : PayCall}
    (hc : w'.calls.get k = some call) : call.Bound fingerprintOf payerOf w' := by
  have old {j : Nat} {c : PayCall} (h : w.calls.get j = some c) :
      c.Bound fingerprintOf payerOf w' := (hbound.calls h).step hw hbound ho hs ha
  have set {j : Nat} {c : PayCall} (hcalls : w'.calls = w.calls.set j c)
      (hnew : c.Bound fingerprintOf payerOf w') : call.Bound fingerprintOf payerOf w' := by
    rw [hcalls, get_set] at hc
    split at hc
    · cases hc
      exact hnew
    · exact old hc
  have deleted {j : Nat} (hcalls : w'.calls = w.calls.delete j) :
      call.Bound fingerprintOf payerOf w' := by
    rw [hcalls, get_delete] at hc
    split at hc
    · cases hc
    · exact old hc
  cases hs with
  | stands _ hcalls | forgets _ hcalls =>
    rw [hcalls] at hc
    exact old hc
  | begins _ hcalls => exact set hcalls ⟨ha, trivial⟩
  | goesOn hwas _ hstage hcalls =>
    refine set hcalls ⟨(old hwas).1, ?_⟩
    rcases hstage with ⟨charge, rfl⟩ | ⟨holder, rfl⟩ <;> trivial
  | vouches hwas _ hcalls =>
    refine set hcalls ⟨(old hwas).1, ?_⟩
    rw [ha _ (mem_def.2 hwas)]
    rfl
  | claims hwas hstage hclaimed hclaims hcalls =>
    have hb := old hwas
    unfold PayCall.Bound at hb
    rw [hstage] at hb
    refine set hcalls ⟨hb.1, hb.2, .inl ?_⟩
    obtain ⟨held, hheld, hid⟩ := Store.claimPayment_get hclaimed
    exact ⟨held, by rw [hclaims]; exact hheld, hid⟩
  | turnsAway hwas hstage hbars _ hcalls =>
    have hb := old hwas
    unfold PayCall.Bound at hb
    rw [hstage] at hb
    refine set hcalls ⟨hb.1, ?_⟩
    rcases hbars with hnone | hbars
    · -- The order a claim was made for is stored.
      have hk := hw.calls hwas
      simp only [PayCall.Knows, hstage] at hk
      obtain ⟨⟨price, payTo, ⟨record, hr, -⟩, -⟩, -⟩ := hk
      cases hnone.symm.trans hr
    · exact hb.2.1 ▸ hbars.step hw ho
  | releases _ _ _ hcalls | hangsUp _ hcalls => exact deleted hcalls

theorem World.Bound.records_step (hw : w.Owned log) (ho : OrdersStep R w w' out) (hs : ClaimStep R w w' action)
    (ha : Attested fingerprintOf payerOf R w action) {record : StoredOrder Doc}
    (hr : w'.store.orderById id = some record) (hp : record.payment = some payment) :
    w'.Keeps fingerprintOf payerOf id payment := by
  have old {before : StoredOrder Doc} (h : w.store.orderById id = some before)
      (hb : before.payment = some payment) : w'.Keeps fingerprintOf payerOf id payment :=
    (hbound.records h hb).step hw hbound ho hs ha
  have ho' := ho
  cases ho with
  | stand hst => exact old ((orderById_eq hst id).symm.trans hr) hp
  | opens sale _ hst =>
    rcases orderById_of_set hst hr with ⟨-, rfl⟩ | hold
    · cases hp
    · exact old hold hp
  | applies hf _ hst =>
    rcases orderById_of_set hst hr with ⟨rfl, rfl⟩ | hold
    · exact old hf ((withFacts_payment _ _ _).symm.trans hp)
    · exact old hold hp
  | notes hf hst =>
    rcases orderById_of_set hst hr with ⟨rfl, rfl⟩ | hold
    · exact old hf hp
    · exact old hold hp
  | @takes k call charge owner t found order effects hcall hstage hf hown _ _ hst _ =>
    rcases orderById_of_set hst hr with ⟨rfl, rfl⟩ | hold
    · -- The order takes the payment of a call that holds its claim.
      have hb := hbound.calls hcall
      unfold PayCall.Bound at hb
      rw [hstage] at hb
      obtain ⟨hfp, rfl, hheld⟩ := hb
      have hbar : ¬ w.Bars call.orderId (ownerNamed payerOf call.fingerprint) := by
        rintro ⟨record, other, hr', hother, hne⟩
        cases hf.symm.trans hr'
        rcases hown with hn | hs
        · cases hn.symm.trans hother
        · cases hs.symm.trans hother
          exact hne rfl
      cases hp
      show w'.Binds (fingerprintOf call.payment) call.orderId ∧
        w'.BelongsTo call.orderId (ownerNamed payerOf (fingerprintOf call.payment))
      rw [← hfp]
      exact ⟨(hheld.resolve_right hbar).step hbar hbound.calls hs ha, _, hr, rfl⟩
    · exact old hold hp

/-- **The invariant is kept.** -/
theorem World.Bound.step (hw : w.Owned log)
    (ha : Attested fingerprintOf payerOf R w action) (h : w.step R action = .ok (w', out)) :
    w'.Bound fingerprintOf payerOf (log ++ Reactor.stepLog action out) := by
  have hstepped := step_stepped h
  have hs : ClaimStep R w w' action := (step_performs h).claimStep
  have kept {key : String} {payment : String}
      (hk : w.Keeps fingerprintOf payerOf key payment) : w'.Keeps fingerprintOf payerOf key payment :=
    hk.step hw hbound hstepped.orders hs ha
  refine
    { records := fun hr hp => hbound.records_step hw hstepped.orders hs ha hr hp
      frames := ?_
      charges := ?_
      calls := fun hc => hbound.calls_step hw hstepped.orders hs ha hc }
  · intro k task ht frame hf payment hp
    rcases hstepped.frames ht frame hf with ⟨j, was, before, hj, hb, hrec⟩ | ⟨key, hkey⟩
    · rw [← hrec] at hp ⊢
      exact kept (hbound.frames hj before hb hp)
    · have hid := ((hw.step h).records hkey).1
      rw [hid]
      exact hbound.records_step hw hstepped.orders hs ha hkey hp
  · intro charge hc
    rcases mem_append.1 hc with hc | hc
    · exact kept (hbound.charges hc)
    · have hout : .settleCalled charge ∈ out := by simpa [Reactor.stepLog] using hc
      obtain ⟨k, task, frame, ht, hf, hcharge⟩ := hstepped.charges hout
      unfold chargeOf at hcharge
      split at hcharge
      · next payment price hp _ =>
        cases hcharge
        exact kept (hbound.frames ht frame hf hp)
      · cases hcharge

end

end

/-! ## The runs -/

theorem gatewayRun_bound (R : Runtime) {fingerprintOf : String → String}
    (h : (gatewayMachine R Doc).Meets (Attested fingerprintOf payerOf R) .empty actions) :
    (gatewayRun R actions).Bound fingerprintOf payerOf (gatewayLog R actions) := by
  refine ((gatewayMachine R Doc).log_induction_meeting
    (P := fun w log => w.Owned log ∧ w.Bound fingerprintOf payerOf log)
    (fun hP ha hstep => ⟨hP.1.step hstep, hP.2.step hP.1 ha hstep⟩) (l := []) ⟨?_, ?_⟩ actions h).2
  · exact gatewayRun_owned R []
  · constructor
    · rintro id record payment ⟨⟩
    · rintro k task ⟨⟩
    · rintro charge ⟨⟩
    · rintro k call ⟨⟩

theorem gatewayRun_keeps (R : Runtime) {fingerprintOf : String → String} {more : List (Action Doc)}
    {id payment : String}
    (h : (gatewayMachine R Doc).Meets (Attested fingerprintOf payerOf R) .empty (actions ++ more))
    (hk : (gatewayRun R actions).Keeps fingerprintOf payerOf id payment) :
    (gatewayRun R (actions ++ more)).Keeps fingerprintOf payerOf id payment := by
  have hbound := gatewayRun_bound R (((gatewayMachine R Doc).meets_append).1 h).1
  have := ((gatewayMachine R Doc).log_induction_meeting
    (P := fun w log => w.Owned log ∧ w.Bound fingerprintOf payerOf log ∧ w.Keeps fingerprintOf payerOf id payment)
    (fun hP ha hstep => ⟨hP.1.step hstep, hP.2.1.step hP.1 ha hstep,
      hP.2.2.step hP.1 hP.2.1 (step_stepped hstep).orders (step_performs hstep).claimStep ha⟩)
    ⟨gatewayRun_owned R actions, hbound, hk⟩ more (((gatewayMachine R Doc).meets_append).1 h).2).2.2
  rw [gatewayRun, Reactor.run_append]
  exact this

/-- The order under this identifier carries the payment, or was charged it. -/
def Uses (R : Runtime) (actions : List (Action Doc)) (id payment : String) : Prop :=
  (∃ record, (gatewayRun R actions).store.orderById id = some record ∧
    record.payment = some payment) ∨
  ∃ charge, .emitted (.settleCalled charge) ∈ gatewayLog R actions ∧ charge.orderId = id ∧
    charge.payment = payment

/-- **One authorisation buys one order.** Where the payment layer names the same payer every time it
verifies the same payment and no claim reaches its retention limit, no two orders ever carry, or are
charged, payments of one fingerprint: whatever calls of `payPurchase` there are, in whatever order
their claims, their presentations and their releases come, and wherever any of them stops. -/
theorem one_authorisation_one_order (R : Runtime) (fingerprintOf : String → String)
    (payerOf : String → Option String) (actions : List (Action Doc))
    (h : (gatewayMachine R Doc).Meets (Attested fingerprintOf payerOf R) .empty actions) :
    ∀ early late id₁ id₂ payment₁ payment₂, early <+: actions → late <+: actions →
      Uses R early id₁ payment₁ → Uses R late id₂ payment₂ →
      fingerprintOf payment₁ = fingerprintOf payment₂ → id₁ = id₂ := by
  -- Whatever an order used at some point, it keeps to the end.
  have kept {some_actions : List (Action Doc)} {id payment : String}
      (hpre : some_actions <+: actions) (hu : Uses R some_actions id payment) :
      (gatewayRun R actions).Keeps fingerprintOf payerOf id payment := by
    obtain ⟨more, rfl⟩ := hpre
    have hbound := gatewayRun_bound R (((gatewayMachine R Doc).meets_append).1 h).1
    refine gatewayRun_keeps R h ?_
    rcases hu with ⟨record, hr, hp⟩ | ⟨charge, hc, rfl, rfl⟩
    · exact hbound.records hr hp
    · exact hbound.charges hc
  intro early late id₁ id₂ payment₁ payment₂ he hl hu₁ hu₂ hsame
  obtain ⟨held₁, hheld₁, rfl⟩ := (kept he hu₁).1
  obtain ⟨held₂, hheld₂, rfl⟩ := (kept hl hu₂).1
  rw [hsame] at hheld₁
  cases hheld₁.symm.trans hheld₂
  rfl

/-! ## One payment, two orders -/

/-- A second purchase to try the statements on. -/
def otherSale : Sale String :=
  { sampleSale with
    birth :=
      { input := { (sampleBirth .sync).input with id := "ord_2" }
        order := _
        effects := _
        accepted := rfl } }

/-- The buyer signs once and presents it for two orders: the first takes it, and the second is told
where it went. -/
def sampleContest : List (Action String) :=
  [.create 0 sampleSale 0 (fun _ => "env_0") none,
    .create 1 otherSale 0 (fun _ => "env_1") none,
    .pay 0 "ord_1" "signed-1" "print of signed-1",
    .pay 1 "ord_2" "signed-1" "print of signed-1",
    .readWallet 0, .readWallet 1,
    .verify 0 (.verified (some "0xbuyer")), .verify 1 (.verified (some "0xbuyer")),
    .claim 0 4, .claim 1 4,
    .present 0 2 5 5 (fun _ => "env_2") none,
    .readHolder 1]

/-- The payment is the first order's, whatever happens to the second. -/
theorem one_authorisation_contested :
    Uses sampleRuntime sampleContest "ord_1" "signed-1" ∧
      ∀ id, Uses sampleRuntime sampleContest id "signed-1" → id = "ord_1" := by
  have hfirst : Uses sampleRuntime sampleContest "ord_1" "signed-1" := .inl ⟨_, rfl, rfl⟩
  refine ⟨hfirst, fun id hid => ?_⟩
  refine one_authorisation_one_order sampleRuntime (fun payment => s!"print of {payment}")
    (fun _ => some "0xbuyer") sampleContest ?_ sampleContest sampleContest id "ord_1" _ _
    (List.prefix_refl _) (List.prefix_refl _) hid hfirst rfl
  refine ⟨trivial, trivial, rfl, rfl, trivial, trivial, ?_, ?_, trivial, trivial, trivial, trivial, trivial⟩
  · rintro call ⟨⟩
    rfl
  · rintro call ⟨⟩
    rfl

end Coinslot
