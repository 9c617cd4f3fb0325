import Coinslot.Gateway.Claims
import Mathlib.Data.List.Infix

/-!
# The claims that stay

A call of `payPurchase` claims a payment before the order is asked to take it, and what it does with the
claim is decided by what the order answers. Where the order is somebody else's, or is gone, the claim
goes back; where the order takes the payment, it stays with it. A payment the machine refuses keeps its
claim on purpose, because some of these have moved money. `World.Backs` is what stands behind every other
claim while its call is under way.
-/

namespace Coinslot

open List Dict

/-- The call has claimed its payment, and has not let go of the claim. -/
def PayCall.Holds (call : PayCall) : Prop :=
  match call.stage with
  | .claimed .. | .turnedAway _ => True
  | .read .. | .asking _ | .checkedOut .. | .spent _ => False

section
variable {Doc : Type} {R : Runtime} {w w' : World Doc} {out : List (Notice Doc)}
  {fingerprint id : String}

/-- A call under way holds the claim of this payment for this order. -/
def World.Backs (w : World Doc) (fingerprint id : String) : Prop :=
  ∃ k call, w.calls.get k = some call ∧ call.Holds ∧ call.fingerprint = fingerprint ∧ call.orderId = id

/-- Everything a presentation can come to, for the call that makes it: it is lost, the order turns the
payment away and the claim will go back, the order takes the payment, or it neither takes it nor turns it
away. -/
inductive World.Weighs (w : World Doc) (k : Nat) (call : PayCall) (charge : Charge) (owner : String)
    (cut : Option Nat) (came : World Doc × List (Notice Doc)) : Prop
  | lost : cut.isSome ∨ (∃ words, .threw words ∈ came.2) → came.1.calls = w.calls.delete k →
      Weighs w k call charge owner cut came
  | turnsAway {answer : PurchaseAnswer} :
      came.1.calls = w.calls.set k { call with stage := .turnedAway answer } →
      Weighs w k call charge owner cut came
  | takes {record : StoredOrder Doc} : came.1.calls = w.calls.delete k →
      came.1.store.orderById call.orderId = some record → record.payment = some call.payment →
      Weighs w k call charge owner cut came
  | declines {state : OrderState} : came.1.calls = w.calls.delete k →
      .presented (call.presentation charge owner) (some (.alreadyYours state)) ∈ came.2 →
      Weighs w k call charge owner cut came
  | refuses {rejection : TransitionRejection} : came.1.calls = w.calls.delete k →
      .presented (call.presentation charge owner) (some (.refused rejection)) ∈ came.2 →
      Weighs w k call charge owner cut came

/-- **The rule of a presentation, for its claim.** -/
theorem World.present_weighs (R : Runtime) (w : World Doc) (k task : Nat) (call : PayCall)
    (charge : Charge) (owner : String) (t now : Int) (fresh : Nat → String) (cut : Option Nat) :
    w.Weighs k call charge owner cut (w.present R k task call charge owner t now fresh cut) := by
  have hholds := w.hold_holdsTo cut call.orderId none
    (presentDecision R.config (call.presentation charge owner) t now fresh)
  have hid : (call.presentation charge owner).orderId = call.orderId := rfl
  unfold World.present
  simp only [hid]
  generalize w.hold cut call.orderId none
    (presentDecision R.config (call.presentation charge owner) t now fresh) = came at hholds
  cases hholds with
  | cutBefore => exact .lost (.inl rfl) rfl
  | cutOff _ => exact .lost (.inl rfl) rfl
  | notFound _ => exact .turnsAway rfl
  | threw _ _ _ => exact .lost (.inr ⟨_, mem_append_right _ (mem_singleton.2 rfl)⟩) rfl
  | @decided found change hf _ hdec =>
    cases presentDecision_change hdec with
    | notOwner _ _ => exact .turnsAway rfl
    | alreadyYours _ => exact .declines rfl (mem_append_right _ (mem_singleton.2 rfl))
    | refused _ =>
      exact .refuses rfl (mem_append_left _ (mem_append_right _ (mem_singleton.2 rfl)))
    | @took order effects alongside _ _ _ _ =>
      have horders := w.store.saveOrder_orders alongside call.orderId
        (presentedRecord_merchantId R.config found order (call.presentation charge owner) t)
      exact .takes rfl ((congrArg (Dict.get · call.orderId) horders).trans (get_set_self _ _ _)) rfl

variable {k : Nat} {action : Action Doc}

theorem World.Weighs.calls {call : PayCall} {charge : Charge} {owner : String} {cut : Option Nat}
    {came : World Doc × List (Notice Doc)} (h : w.Weighs k call charge owner cut came) :
    came.1.calls = w.calls.delete k ∨ ∃ after, came.1.calls = w.calls.set k after := by
  cases h with
  | lost _ hs | takes hs _ _ | declines hs _ | refuses hs _ => exact .inl hs
  | turnsAway hs => exact .inr ⟨_, hs⟩

/-- A call that holds a claim is touched by nobody else: it presents its payment, lets go of the claim,
or is cut off, or its number is given to another. -/
theorem World.Performs.holds {came : World Doc × List (Notice Doc)} {call : PayCall} (h : w.Performs R action came)
    (hc : w.calls.get k = some call) (hh : call.Holds) :
    came.1.calls.get k = some call ∨ action = .hangUp k ∨ action = .release k ∨
      (∃ task t now fresh cut, action = .present k task t now fresh cut) ∨
      ∃ orderId payment fingerprint, action = .pay k orderId payment fingerprint := by
  -- The call of another action is at a stage where it holds nothing, so it is another call.
  have other {j : Nat} {by_ : PayCall} (hj : w.calls.get j = some by_) (hn : ¬ by_.Holds) : k ≠ j := by
    rintro rfl
    cases hc.symm.trans hj
    exact hn hh
  have elsewhere {j : Nat} (calls : Dict Nat PayCall) (call' : PayCall) (hne : k ≠ j)
      (hs : calls = w.calls.set j call') : calls.get k = some call := by
    rw [hs, get_set_ne _ _ hne]
    exact hc
  have gone {j : Nat} (calls : Dict Nat PayCall) (hne : k ≠ j) (hs : calls = w.calls.delete j) :
      calls.get k = some call := by
    rw [hs, get_delete, if_neg hne]
    exact hc
  cases h with
  | create task sale now fresh cut _ =>
    left
    rw [(w.create_frame task sale now fresh cut).2]
    exact hc
  | apply task made now fresh cut _ =>
    left
    have hframe := (w.apply_frame R made now fresh cut).2
    unfold World.applyAlone
    dsimp only
    split <;> exact (congrArg (Dict.get · k) hframe).trans hc
  | pay j orderId payment fingerprint =>
    by_cases hj : j = k
    · subst hj
      exact .inr (.inr (.inr (.inr ⟨_, _, _, rfl⟩)))
    · left
      unfold World.pay
      split
      · exact hc
      · split
        · exact hc
        · exact elsewhere _ _ (Ne.symm hj) rfl
  | readWallet hj hs => exact .inl (elsewhere _ _ (other hj (by simp [PayCall.Holds, hs])) rfl)
  | @verify j verifying charge hj hs outcome =>
    have hne := other hj (by simp [PayCall.Holds, hs])
    left
    cases outcome with
    | verified payer => exact elsewhere _ _ hne rfl
    | notVerified reason message => exact gone _ hne rfl
    | unknown message => exact gone _ hne rfl
  | @claim j claiming charge owner hj hs now =>
    have hne := other hj (by simp [PayCall.Holds, hs])
    left
    unfold World.claim
    dsimp only
    split <;> exact elsewhere _ _ hne rfl
  | readHolder hj hs => exact .inl (gone _ (other hj (by simp [PayCall.Holds, hs])) rfl)
  | @present j presenting charge owner hj hs task t now fresh cut _ =>
    by_cases hjk : j = k
    · subst hjk
      exact .inr (.inr (.inr (.inl ⟨_, _, _, _, _, rfl⟩)))
    · left
      rcases (w.present_weighs R j task presenting charge owner t now fresh cut).calls with
        hs | ⟨after, hs⟩
      · exact gone _ (Ne.symm hjk) hs
      · exact elsewhere _ _ (Ne.symm hjk) hs
  | @release j releasing answer hj hs =>
    by_cases hjk : j = k
    · subst hjk
      exact .inr (.inr (.inl rfl))
    · exact .inl (gone _ (Ne.symm hjk) rfl)
  | hangUp j =>
    by_cases hjk : j = k
    · subst hjk
      exact .inr (.inl rfl)
    · exact .inl (gone _ (Ne.symm hjk) rfl)
  | @carryOut j frame rest _ =>
    left
    rw [(w.carryOut_frame j frame rest).2]
    exact hc
  | @settle j _ frame rest _ outcome now fresh cut =>
    left
    rw [(w.settle_frame (R := R) j frame rest outcome now fresh cut).2]
    exact hc
  | drop j => exact .inl hc
  | movePayoutWallet merchantId wallet => exact .inl hc
  | forgetClaims instant => exact .inl hc
  | beginSweep j now =>
    left
    unfold World.beginSweep
    split <;> exact hc
  | sweepOpen _ _ holdsOrder id =>
    left
    unfold World.sweepOpen
    dsimp only
    split <;> exact hc
  | sweepDelivered _ _ => exact .inl hc
  | sweepReceipt _ _ id =>
    left
    unfold World.sweepReceipt
    dsimp only
    split <;> exact hc
  | stopSweep j => exact .inl hc
  | loseTheName => exact .inl hc

/-- A claim that is there after a step was there before it, or a call that is under way stands behind
it. -/
theorem ClaimStep.claimed {held : HeldClaim} (h : ClaimStep R w w' action)
    (hheld : w'.store.paymentClaims.get fingerprint = some held) :
    w.store.paymentClaims.get fingerprint = some held ∨ w'.Backs fingerprint held.orderId := by
  cases h with
  | stands hs _ | begins hs _ | goesOn _ hs _ _ | vouches _ hs _ | turnsAway _ _ _ hs _
  | hangsUp hs _ =>
    rw [hs] at hheld
    exact .inl hheld
  | @claims k call charge owner now hc hstage hclaimed hs hcalls =>
    rw [hs] at hheld
    unfold Store.claimPayment at hheld
    cases hget : w.store.paymentClaims.get call.fingerprint with
    | some held' =>
      simp only [hget] at hheld
      exact .inl hheld
    | none =>
      simp only [hget] at hheld
      rcases of_get_set hheld with ⟨hf, rfl⟩ | ⟨-, hheld⟩
      · refine .inr ⟨k, { call with stage := .claimed charge owner }, ?_, trivial, hf.symm, rfl⟩
        rw [hcalls]
        exact get_set_self _ _ _
      · exact .inl hheld
  | @releases k call answer _ _ hs _ =>
    left
    rw [hs] at hheld
    unfold Store.releaseClaim at hheld
    split at hheld
    · exact (of_get_delete hheld).2
    · exact hheld
  | @forgets instant hs _ =>
    rw [hs] at hheld
    have hin := mem_of_mem_filter (get_eq_some_iff.1 hheld)
    exact .inl (get_eq_some_iff.2 hin)

end

/-! ## Calls that return -/

section
variable {Doc : Type} (fingerprintOf : String → String)

/-- A call of `payPurchase` returns: it comes with the fingerprint of its payment, it is cut off nowhere,
and its presentation is not thrown. -/
def Returns (R : Runtime) (w : World Doc) : Action Doc → Prop
  | .pay _ _ payment fingerprint => fingerprint = fingerprintOf payment
  | .hangUp _ => False
  | .present k task t now fresh cut =>
    cut = none ∧ ∀ came words, w.step R (.present k task t now fresh cut) = .ok came →
      .threw words ∉ came.2
  | _ => True

/-- The order carries a payment of this fingerprint. -/
def World.Carries (w : World Doc) (fingerprint id : String) : Prop :=
  ∃ record payment, w.store.orderById id = some record ∧ record.payment = some payment ∧
    fingerprintOf payment = fingerprint

/-- A payment of this fingerprint was presented for this order, and it came to this. -/
def PresentedTo (came : PresentDecided Doc → Prop) (fingerprint id : String) (notice : Notice Doc) : Prop :=
  ∃ presentation decided, notice = .presented presentation (some decided) ∧ came decided ∧
    presentation.orderId = id ∧ fingerprintOf presentation.payment = fingerprint

/-- The machine refused the payment. -/
def PresentDecided.Refused : PresentDecided Doc → Prop
  | .refused _ => True
  | .took .. | .alreadyYours _ | .notOwner _ => False

/-- The order had nothing to do with the payment, and its agent was told where it stands. -/
def PresentDecided.AlreadyYours : PresentDecided Doc → Prop
  | .alreadyYours _ => True
  | .took .. | .refused _ | .notOwner _ => False

end

section
variable {Doc : Type} {fingerprintOf : String → String} {R : Runtime} {w w' : World Doc}
  {out : List (Notice Doc)} {action : Action Doc} {fingerprint id : String}

def World.Fingerprinted (fingerprintOf : String → String) (w : World Doc) : Prop :=
  ∀ k call, w.calls.get k = some call → call.fingerprint = fingerprintOf call.payment

theorem World.Fingerprinted.step (h : w.Fingerprinted fingerprintOf)
    (hret : Returns fingerprintOf R w action) (hstep : ClaimStep R w w' action) :
    w'.Fingerprinted fingerprintOf := by
  have sets {j : Nat} {after : PayCall} (hs : w'.calls = w.calls.set j after)
      (hafter : after.fingerprint = fingerprintOf after.payment) : w'.Fingerprinted fingerprintOf := by
    intro k call hc
    rw [hs, get_set] at hc
    split at hc
    · cases hc
      exact hafter
    · exact h k call hc
  have deletes {j : Nat} (hs : w'.calls = w.calls.delete j) : w'.Fingerprinted fingerprintOf := by
    intro k call hc
    rw [hs, get_delete] at hc
    split at hc
    · cases hc
    · exact h k call hc
  cases hstep with
  | stands _ hs | forgets _ hs =>
    intro k call hc
    rw [hs] at hc
    exact h k call hc
  | begins _ hs => exact sets hs hret
  | goesOn hc _ _ hs | vouches hc _ hs | claims hc _ _ _ hs | turnsAway hc _ _ _ hs =>
    have hprint := h _ _ hc
    exact sets hs hprint
  | releases _ _ _ hs | hangsUp _ hs => exact deletes hs

/-- **What becomes of a claim in a step.** A call stands behind it, the order carries its payment, the
payment was declined without being turned away, or the claim was there before with no call behind it. -/
theorem World.claim_step (hprint : w.Fingerprinted fingerprintOf)
    (hret : Returns fingerprintOf R w action) (h : w.step R action = .ok (w', out)) {held : HeldClaim}
    (hheld : w'.store.paymentClaims.get fingerprint = some held) :
    w'.Backs fingerprint held.orderId ∨ w'.Carries fingerprintOf fingerprint held.orderId ∨ (∃ notice ∈ out,
        PresentedTo fingerprintOf PresentDecided.AlreadyYours fingerprint held.orderId notice) ∨ (∃ notice ∈ out,
        PresentedTo fingerprintOf PresentDecided.Refused fingerprint held.orderId notice) ∨
      (w.store.paymentClaims.get fingerprint = some held ∧ ¬ w.Backs fingerprint held.orderId) := by
  have hperforms := World.step_performs h
  rcases (hperforms.claimStep).claimed hheld with hwas | hbacks
  swap
  · exact .inl hbacks
  by_cases hb : w.Backs fingerprint held.orderId
  swap
  · exact .inr (.inr (.inr (.inr ⟨hwas, hb⟩)))
  obtain ⟨k, call, hc, hh, rfl, hid⟩ := hb
  rcases hperforms.holds hc hh with hsame | rfl | rfl | ⟨task, t, now, fresh, cut, rfl⟩ |
    ⟨orderId, payment, fingerprint, rfl⟩
  · exact .inl ⟨k, call, hsame, hh, rfl, hid⟩
  · exact hret.elim
  · -- The claim that goes back is this one.
    generalize hcame : (w', out) = came at hperforms
    cases hperforms with
    | @release _ releasing answer hk _ =>
      cases hk.symm.trans hc
      cases hcame
      have hgone : (w.store.releaseClaim call.fingerprint call.orderId).paymentClaims.get
          call.fingerprint = none := by
        unfold Store.releaseClaim
        rw [if_pos (by rw [hwas, Option.map_some, hid])]
        exact (get_delete _ _ _).trans (if_pos rfl)
      cases hgone.symm.trans hheld
  · obtain ⟨rfl, hthrow⟩ := hret
    have hquiet := hthrow (w', out)
    generalize hcame : (w', out) = came at hperforms
    cases hperforms with
    | @present _ presenting charge owner hk hs _ _ _ _ _ _ =>
      cases hk.symm.trans hc
      have hprinted := hprint k call hc
      have hweighs := w.present_weighs R k task call charge owner t now fresh none
      rw [← hcame] at hweighs
      cases hweighs with
      | lost hwhy _ =>
        rcases hwhy with hcut | ⟨words, hin⟩
        · cases hcut
        · exact absurd hin (hquiet words h)
      | @turnsAway answer hcalls =>
        refine .inl ⟨k, { call with stage := .turnedAway answer }, ?_, trivial, rfl, hid⟩
        rw [hcalls]
        exact get_set_self _ _ _
      | takes _ hrecord hpayment =>
        rw [hid] at hrecord
        exact .inr (.inl ⟨_, call.payment, hrecord, hpayment, hprinted.symm⟩)
      | declines _ hin => exact .inr (.inr (.inl ⟨_, hin, _, _, rfl, trivial, hid, hprinted.symm⟩))
      | refuses _ hin => exact .inr (.inr (.inr (.inl ⟨_, hin, _, _, rfl, trivial, hid, hprinted.symm⟩)))
  · rw [World.step] at h
    split at h
    · cases h
    · next hfree =>
      rw [Dict.has, hc] at hfree
      exact absurd rfl hfree

/-! ## The runs -/

/-- The log tells that a payment of this fingerprint was presented for this order, and came to this. -/
def LogTells (fingerprintOf : String → String) (log : GatewayLog Doc)
    (came : PresentDecided Doc → Prop) (fingerprint id : String) : Prop :=
  ∃ notice, .emitted notice ∈ log ∧ PresentedTo fingerprintOf came fingerprint id notice

/-- At some time of the run the order carried a payment of this fingerprint. -/
def Carried (R : Runtime) (fingerprintOf : String → String) (actions : List (Action Doc))
    (fingerprint id : String) : Prop :=
  ∃ before, before <+: actions ∧ (gatewayRun R before).Carries fingerprintOf fingerprint id

/-- **What stands behind a claim.** By induction on the run. -/
theorem gatewayRun_claims (actions : List (Action Doc))
    (h : (gatewayMachine R Doc).Meets (Returns fingerprintOf R) .empty actions) :
    (gatewayRun R actions).Fingerprinted fingerprintOf ∧ ∀ fingerprint held,
        (gatewayRun R actions).store.paymentClaims.get fingerprint = some held →
        (gatewayRun R actions).Backs fingerprint held.orderId ∨
          Carried R fingerprintOf actions fingerprint held.orderId ∨
          LogTells fingerprintOf (gatewayLog R actions) PresentDecided.AlreadyYours fingerprint held.orderId ∨
          LogTells fingerprintOf (gatewayLog R actions) PresentDecided.Refused fingerprint held.orderId := by
  induction actions using List.reverseRecOn with
  | nil => exact ⟨by rintro k call ⟨⟩, by rintro fingerprint held ⟨⟩⟩
  | append_singleton actions action ih =>
    rw [Reactor.meets_append] at h
    obtain ⟨hprint, hclaims⟩ := ih h.1
    have hret := h.2.1
    have hrun : gatewayRun R (actions ++ [action]) =
        (gatewayMachine R Doc).next (gatewayRun R actions) action := by
      rw [gatewayRun, Reactor.run_append]
      rfl
    have hlog : gatewayLog R (actions ++ [action]) = gatewayLog R actions ++
        (gatewayMachine R Doc).entries (gatewayRun R actions) action := by
      rw [gatewayLog, Reactor.log_append, Reactor.log_cons, Reactor.log_nil, append_nil]
      rfl
    have earlier {fingerprint id : String} (hc : Carried R fingerprintOf actions fingerprint id) :
        Carried R fingerprintOf (actions ++ [action]) fingerprint id := by
      obtain ⟨before, hpre, hcarries⟩ := hc
      exact ⟨before, hpre.trans (prefix_append ..), hcarries⟩
    have told {came : PresentDecided Doc → Prop} {fingerprint id : String}
        (ht : LogTells fingerprintOf (gatewayLog R actions) came fingerprint id) :
        LogTells fingerprintOf (gatewayLog R (actions ++ [action])) came fingerprint id := by
      obtain ⟨notice, hin, hpresented⟩ := ht
      rw [hlog]
      exact ⟨notice, mem_append_left _ hin, hpresented⟩
    cases hreact : (gatewayMachine R Doc).react (gatewayRun R actions) action with
    | error r =>
      rw [hrun, Reactor.next_of_error _ hreact]
      refine ⟨hprint, fun fingerprint held hheld => ?_⟩
      rcases hclaims fingerprint held hheld with hb | hc | ht | ht
      · exact .inl hb
      · exact .inr (.inl (earlier hc))
      · exact .inr (.inr (.inl (told ht)))
      · exact .inr (.inr (.inr (told ht)))
    | ok came =>
      obtain ⟨w', out⟩ := came
      have hnext : gatewayRun R (actions ++ [action]) = w' := by rw [hrun, Reactor.next_of_ok _ hreact]
      have hentries : ∀ notice ∈ out, .emitted notice ∈ gatewayLog R (actions ++ [action]) := by
        intro notice hin
        rw [hlog, Reactor.entries_of_ok _ hreact]
        exact mem_append_right _ (mem_cons_of_mem _ (mem_map.2 ⟨notice, hin, rfl⟩))
      refine ⟨hnext ▸ hprint.step hret (World.step_performs hreact).claimStep, fun fingerprint held hheld => ?_⟩
      rw [hnext] at hheld ⊢
      rcases World.claim_step hprint hret hreact hheld with
        hb | hc | ⟨notice, hin, hp⟩ | ⟨notice, hin, hp⟩ | ⟨hwas, hnone⟩
      · exact .inl hb
      · exact .inr (.inl ⟨_, prefix_rfl, hnext ▸ hc⟩)
      · exact .inr (.inr (.inl ⟨notice, hentries notice hin, hp⟩))
      · exact .inr (.inr (.inr ⟨notice, hentries notice hin, hp⟩))
      · rcases hclaims fingerprint held hwas with hb | hc | ht | ht
        · exact absurd hb hnone
        · exact .inr (.inl (earlier hc))
        · exact .inr (.inr (.inl (told ht)))
        · exact .inr (.inr (.inr (told ht)))

/-- **A payment that bought nothing is let go.** Where every call of `payPurchase` returned, a payment
that stays claimed by an order was carried by it at some time of the run, or the machine refused it when
it was presented, in which case its claim is kept on purpose: for every payment that no order answered as
one it has nothing to do with. -/
theorem claims_go_back (R : Runtime) (fingerprintOf : String → String) (actions : List (Action Doc))
    (h : (gatewayMachine R Doc).Meets (Returns fingerprintOf R) .empty actions)
    (hover : ∀ k, (gatewayRun R actions).calls.get k = none) (fingerprint : String) (held : HeldClaim)
    (hheld : (gatewayRun R actions).store.paymentClaims.get fingerprint = some held)
    (hown : ¬ LogTells fingerprintOf (gatewayLog R actions) PresentDecided.AlreadyYours fingerprint held.orderId) :
    Carried R fingerprintOf actions fingerprint held.orderId ∨
      LogTells fingerprintOf (gatewayLog R actions) PresentDecided.Refused fingerprint held.orderId := by
  rcases (gatewayRun_claims actions h).2 fingerprint held hheld with
    ⟨k, call, hc, -, -, -⟩ | hc | ht | ht
  · cases (hover k).symm.trans hc
  · exact .inl hc
  · exact absurd ht hown
  · exact .inr ht

end

/-! ## A claim that stays -/

/-- The buyer pays for an order that is charged first, and while the charge is executed pays once more
with another authorisation. The first is charged, and the merchant delivers. -/
def sampleSecondPayment : List (Action String) :=
  [.create 0 chargedFirst 0 (fun _ => "env_0") none] ++
  samplePayment 0 "signed-1" "print of signed-1" 4 ++
  [.present 0 1 5 5 (fun _ => "env_1") none] ++
  samplePayment 1 "signed-2" "print of signed-2" 6 ++
  [.present 1 2 7 7 (fun _ => "env_2") none, .carryOut 1,
    .settle 1 (.settled "txn_1") 8 (fun _ => "env_3") none,
    .apply 3
      { orderId := "ord_1"
        event := .state (.deliverCalled 9)
        facts := { delivery := some "goods", openDeliveryId := some none }
        scope := some "mrc_1" } 9 (fun _ => "env_4") none]

/-- Whether a call was thrown out of. -/
def Notice.throws {Doc : Type} : Notice Doc → Bool
  | .threw _ => true
  | _ => false

theorem threw_not_mem {Doc : Type} {out : List (Notice Doc)} (h : out.any Notice.throws = false) (words : String) :
    .threw words ∉ out := by
  intro hin
  exact Bool.false_ne_true (h.symm.trans (any_eq_true.2 ⟨_, hin, rfl⟩))

theorem sampleSecondPayment_returns : (gatewayMachine sampleRuntime String).Meets
      (Returns (fun payment => s!"print of {payment}") sampleRuntime) .empty sampleSecondPayment := by
  refine ⟨trivial, rfl, trivial, trivial, trivial, ⟨rfl, ?_⟩, rfl, trivial, trivial, trivial,
    ⟨rfl, ?_⟩, trivial, trivial, trivial, trivial⟩
  · rintro came words hstep
    cases hstep
    exact threw_not_mem rfl words
  · rintro came words hstep
    cases hstep
    exact threw_not_mem rfl words

theorem sampleSecondPayment_over (k : Nat) : (gatewayRun sampleRuntime sampleSecondPayment).calls.get k = none := by
  have hcalls : (gatewayRun sampleRuntime sampleSecondPayment).calls = .empty := eq_of_entries rfl
  rfl

/-- Whether a happening is the word that an order is its buyer's already. -/
def tellsAlreadyYours : Happening (Action String) (Notice String) → Bool
  | .emitted (.presented _ (some (.alreadyYours _))) => true
  | _ => false

/-- The first stays with the order that carries it. -/
theorem charged_payment_stays_claimed :
    Carried sampleRuntime (fun payment => s!"print of {payment}") sampleSecondPayment
        "print of signed-1" "ord_1" ∨
      LogTells (fun payment => s!"print of {payment}") (gatewayLog sampleRuntime sampleSecondPayment)
        PresentDecided.Refused "print of signed-1" "ord_1" := by
  refine claims_go_back sampleRuntime _ sampleSecondPayment sampleSecondPayment_returns
    sampleSecondPayment_over "print of signed-1" ⟨"ord_1", 4⟩ rfl ?_
  rintro ⟨notice, hin, presentation, decided, rfl, hown, -, -⟩
  have hnone : (gatewayLog sampleRuntime sampleSecondPayment).any tellsAlreadyYours = false := rfl
  have hno := List.any_eq_false.1 hnone _ hin
  cases decided with
  | alreadyYours state => exact absurd rfl hno
  | took known effects => exact hown
  | notOwner state => exact hown
  | refused rejection => exact hown

/-- The second is refused, and stays claimed by an order that is closed and never carried it. -/
theorem refused_payment_stays_claimed :
    ¬ ∀ (actions : List (Action String)),
      (gatewayMachine sampleRuntime String).Meets
        (Returns (fun payment => s!"print of {payment}") sampleRuntime) .empty actions →
      (∀ k, (gatewayRun sampleRuntime actions).calls.get k = none) →
      ¬ ∃ fingerprint held record,
        (gatewayRun sampleRuntime actions).store.paymentClaims.get fingerprint = some held ∧
        (gatewayRun sampleRuntime actions).store.orderById held.orderId = some record ∧
        isOpen record.order.state = false ∧
        ¬ Carried sampleRuntime (fun payment => s!"print of {payment}") actions fingerprint held.orderId := by
  intro h
  refine h sampleSecondPayment sampleSecondPayment_returns sampleSecondPayment_over
    ⟨"print of signed-2", ⟨"ord_1", 6⟩, _, rfl, rfl, ?_, ?_⟩
  · decide +kernel
  · rintro ⟨before, hpre, record, payment, hr, hp, hprint⟩
    have hall : ∀ before ∈ sampleSecondPayment.inits,
        (((gatewayRun sampleRuntime before).store.orderById "ord_1").bind StoredOrder.payment).map
          (fun payment => s!"print of {payment}") ≠ some "print of signed-2" := by
      decide +kernel
    refine hall before ((List.mem_inits ..).2 hpre) ?_
    rw [hr, Option.bind_some, hp, Option.map_some]
    exact congrArg some hprint

end Coinslot
