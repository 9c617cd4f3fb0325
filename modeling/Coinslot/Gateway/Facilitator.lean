import Coinslot.Contract.Refusals
import Coinslot.Gateway.CarriedOut
import Coinslot.Gateway.Payments

/-!
# The payment layer behind the gateway

The two questions the gateway asks about money, as they are put to the facilitator
(`apps/gateway/src/adapters/x402/facilitator.ts`). What its client answers or throws is turned into one of three
outcomes: yes, no, and nobody knows. A no is an answer that says so, or the client's structured error with a status
that refuses the request; everything else is a silence, and what cannot be rebuilt on our side is never asked.

`facilitatedMachine` is the gateway with this in front of it: what used to come in as an outcome is computed from what
the client did. It runs within the gateway (`facilitated_within`), so that the gateway's invariants are its own.
-/

namespace Coinslot

open List Option Dict World

open Contract (VerifyResponse shapeOf verdictOn)

variable {Doc : Type}

/-! ## What comes from the client -/

/-- What is thrown at a call. Of the client's own errors, the structured ones carry the status of the answer. -/
inductive ClientThrew where
  | verifyError (message : String) (statusCode : Int) (invalidReason invalidMessage : Option String)
  | settleError (message : String) (statusCode : Int) (errorReason errorMessage : Option String)
  /-- Any other error: a timeout, a connection that was never made, an answer that could not be read. -/
  | error (message : String)
  /-- Something that is no error, with what it is written as, where it can be written. -/
  | other (written : Option String)

/-- `SettleResponse`. -/
structure SettleResponse where
  success : Bool
  txn : String
  errorReason : Option String
  errorMessage : Option String

/-- A field of something that was parsed and never checked. -/
inductive Unchecked where
  | undefined
  | null
  | text (s : String)
  /-- Anything else, with what it is written as, where it can be written. -/
  | other (written : Option String)
  deriving DecidableEq

/-- What a payment says it accepted. -/
inductive AcceptedOffer where
  | undefined
  | null
  | terms (amount asset network payTo orderId : Unchecked)

/-- The parts of the payment layer that come from elsewhere. -/
structure X402Facilitator where
  edge : PaymentEdge
  /-- `decodePaymentSignatureHeader`: what the payment accepted, where it is a payment at all. -/
  decoded : String → Option AcceptedOffer
  toLowerCase : String → String

/-- What is thrown inside one of the calls. -/
inductive CallThrew where
  | error (message : String)
  deriving DecidableEq, Repr

/-- Whether a status carries the facilitator's own decision about this request. -/
def refused (status : Int) : Bool := status ≥ 400 && status < 500

/-- What was thrown, in words. -/
def describe : ClientThrew → Except CallThrew String
  | .verifyError message .. | .settleError message .. | .error message => .ok message
  | .other (some written) => .ok written
  | .other none => .error (.error "Cannot convert object to primitive value")

/-! ## The offer -/

/-- A field, in a sentence. -/
def Unchecked.written : Unchecked → Except CallThrew String
  | .undefined | .null => .ok "nothing"
  | .text s => .ok s
  | .other (some written) => .ok written
  | .other none => .error (.error "Cannot convert object to primitive value")

namespace X402Facilitator

variable (F : X402Facilitator)

/-- Whether two addresses on the chain are the same address. -/
def sameAddress (theirs : Unchecked) (ours : String) : Except CallThrew Bool :=
  match theirs with
  | .undefined => .ok false
  | .text theirs => .ok (F.toLowerCase theirs = F.toLowerCase ours)
  | .null => .error (.error "Cannot read properties of null (reading 'toLowerCase')")
  | .other _ => .error (.error "theirs.toLowerCase is not a function")

/-- What an agent accepted, against what we asked for: what is wrong with it, where something is. -/
def wrongOffer (accepted : AcceptedOffer) (ours : PaymentRequirements) : Except CallThrew (Option String) :=
  match accepted with
  | .undefined => .ok (some "the payment names no offer, so there is nothing to check it against")
  | .null => .error (.error "Cannot read properties of null (reading 'amount')")
  | .terms amount asset network payTo orderId =>
    if amount ≠ .text ours.amount then do
      let written ← amount.written
      .ok (some s!"this order is priced at {ours.amount} and the payment was made for {written}")
    else do
      let sameAsset ← F.sameAddress asset ours.asset
      if sameAsset = false ∨ network ≠ .text ours.network then
        .ok (some ("the payment was made in a different asset or on a different chain from the one " ++
          "asked for"))
      else do
        let samePayee ← F.sameAddress payTo ours.payTo
        if samePayee = false then
          .ok (some "the payment was made out to a different address from the one asked for")
        else if some orderId ≠ (ours.extra.lookup "order_id").map Unchecked.text then
          .ok (some ("the payment was made against a different order from the one it was presented " ++
            "for"))
        else .ok none

section

variable (charge : Charge)

/-- What this payment should have been paid against, rebuilt from our own order. -/
def requirements : Except String PaymentRequirements :=
  F.edge.requirementsFor ⟨charge.amount, charge.currency⟩ (some charge.orderId) charge.payTo

/-! ## The two questions -/

/-- A payment is checked, with what the client does where it is asked. -/
def verify (client : Except ClientThrew VerifyResponse) : Except CallThrew VerifyOutcome :=
  match F.decoded charge.payment with
  | none => .ok (.notVerified .signature "the payment presented could not be read as a payment at all")
  | some accepted =>
    match F.requirements charge with
    | .error message => .ok (.unknown message)
    | .ok ours =>
      match F.wrongOffer accepted ours with
      | .error thrown => .error thrown
      | .ok (some mismatch) => .ok (.notVerified .priceStale mismatch)
      | .ok none =>
        match client with
        | .error (.verifyError message status invalidReason invalidMessage) =>
          if refused status then
            .ok (.notVerified (shapeOf F.toLowerCase invalidReason)
              ((invalidMessage.or invalidReason).getD "no reason was given"))
          else (describe (.verifyError message status invalidReason invalidMessage)).map .unknown
        | .error thrown => (describe thrown).map .unknown
        | .ok answered => .ok (verdictOn F.toLowerCase answered)

/-- A charge is executed, with what the client does where it is asked. -/
def settle (client : Except ClientThrew SettleResponse) : Except CallThrew SettleOutcome :=
  match F.decoded charge.payment with
  | none =>
    .error (.error (s!"the charge on {charge.orderId} was to be executed and the payment kept for it " ++
      "cannot be read"))
  | some _ =>
    match F.requirements charge with
    | .error message => .error (.error message)
    | .ok _ =>
      match client with
      | .error (.settleError message status errorReason errorMessage) =>
        if refused status then .ok (.failed ((errorMessage.or errorReason).getD "no reason was given"))
        else (describe (.settleError message status errorReason errorMessage)).map .unknown
      | .error thrown => (describe thrown).map .unknown
      | .ok answered =>
        if answered.success then .ok (.settled answered.txn)
        else .ok (.failed ((answered.errorMessage.or answered.errorReason).getD "no reason was given"))

end

end X402Facilitator

/-! ## The gateway with the payment layer in front -/

/-- An event that tells of a charge. No caller of `apply` hands one over but the answer to a charge itself. -/
def OrderEvent.tellsOfCharge : OrderEvent → Bool
  | .state (.paymentSettled _) | .state (.paymentSettleFailed _) => true
  | _ => false

/-- What can happen next, where what the payment layer answers comes of its client. -/
inductive FacilitatedAction (Doc : Type) where
  | gateway (action : Action Doc)
  /-- The client answers the question whether a payment is good. -/
  | verifyReturns (k : Nat) (client : Except ClientThrew VerifyResponse)
  /-- The client answers a charge. -/
  | settleReturns (k : Nat) (client : Except ClientThrew SettleResponse) (now : Int) (fresh : Nat → String)
      (cut : Option Nat)

/-- An action of the gateway that no client has a part in. -/
def Action.isOwn : Action Doc → Bool
  | .verify .. | .settle .. => false
  | .apply _ call .. => !call.event.tellsOfCharge
  | _ => true

section

variable (F : X402Facilitator)

/-- What an action comes to at the gateway: with what the payment layer makes of its client's answer, or with the call
or the run that waits on it thrown out of. -/
def X402Facilitator.comesTo (w : World Doc) : FacilitatedAction Doc → Option (Action Doc × List (Notice Doc))
  | .gateway action => if action.isOwn then some (action, []) else none
  | .verifyReturns k client =>
    match w.calls.get k with
    | some ⟨_, _, _, .asking charge⟩ =>
      match F.verify charge client with
      | .ok outcome => some (.verify k outcome, [])
      | .error (.error words) => some (.hangUp k, [.threw words])
    | _ => none
  | .settleReturns k client now fresh cut =>
    match w.tasks.get k with
    | some ⟨some charge, _ :: _⟩ =>
      match F.settle charge client with
      | .ok outcome => some (.settle k outcome now fresh cut, [])
      | .error (.error words) => some (.drop k, [.threw words])
    | _ => none

/-- One step of the gateway with the payment layer in front of it. -/
def X402Facilitator.step (R : Runtime) (w : World Doc) (e : FacilitatedAction Doc) :
    Except NotOn (World Doc × List (Notice Doc)) :=
  match F.comesTo w e with
  | none => .error .notOn
  | some (action, thrown) => (w.step R action).map fun came => (came.1, came.2 ++ thrown)

/-- The gateway with the payment layer in front of it, as a reactor. -/
def facilitatedMachine (R : Runtime) (Doc : Type) : Reactor (World Doc) (FacilitatedAction Doc) (Notice Doc) NotOn :=
  ⟨F.step R⟩

def facilitatedRun (R : Runtime) (actions : List (FacilitatedAction Doc)) : World Doc :=
  (facilitatedMachine F R Doc).run .empty actions

/-! ## What the payment layer makes of an answer -/

/-- A charge that can be put to the facilitator: its payment can be read, and what it is checked against be rebuilt. -/
def X402Facilitator.Rebuilds (charge : Charge) : Prop :=
  ∃ accepted ours, F.decoded charge.payment = some accepted ∧ F.requirements charge = .ok ours

/-- What was accepted is what is asked for: the amount, the network and the order exactly, the asset and the address
up to the case of their letters. -/
def X402Facilitator.Agrees (accepted : AcceptedOffer) (ours : PaymentRequirements) : Prop :=
  ∃ asset payTo orderId, accepted = .terms (.text ours.amount) (.text asset) (.text ours.network) (.text payTo)
      (.text orderId) ∧
    F.toLowerCase asset = F.toLowerCase ours.asset ∧ F.toLowerCase payTo = F.toLowerCase ours.payTo ∧
    ours.extra.lookup "order_id" = some orderId

end

def Charged (client : Except ClientThrew SettleResponse) : Prop :=
  ∃ answered, client = .ok answered ∧ answered.success = true

/-- The client answered that the charge did not go through, or threw its structured error with a status of the
four hundreds. -/
def TurnsDown (client : Except ClientThrew SettleResponse) : Prop :=
  (∃ answered, client = .ok answered ∧ answered.success = false) ∨
    ∃ message status errorReason errorMessage,
      client = .error (.settleError message status errorReason errorMessage) ∧ 400 ≤ status ∧ status < 500

section
variable {F : X402Facilitator} {charge : Charge}

theorem bind_eq_ok {α β : Type} {x : Except CallThrew α} {f : α → Except CallThrew β} {b : β}
    (h : (x >>= f) = .ok b) : ∃ a, x = .ok a ∧ f a = .ok b := by
  cases x with
  | error thrown => cases h
  | ok a => exact ⟨a, rfl, h⟩

theorem refused_iff {status : Int} : refused status = true ↔ 400 ≤ status ∧ status < 500 := by
  rw [refused, Bool.and_eq_true, decide_eq_true_iff, decide_eq_true_iff]

theorem sameAddress_eq_true {theirs : Unchecked} {ours : String} (h : F.sameAddress theirs ours = .ok true) :
    ∃ written, theirs = .text written ∧ F.toLowerCase written = F.toLowerCase ours := by
  cases theirs with
  | undefined => cases h
  | null => cases h
  | text written =>
    simp only [X402Facilitator.sameAddress, Except.ok.injEq, decide_eq_true_iff] at h
    exact ⟨written, rfl, h⟩
  | other written => cases h

theorem agrees_of_wrongOffer {accepted : AcceptedOffer} {ours : PaymentRequirements}
    (h : F.wrongOffer accepted ours = .ok none) : F.Agrees accepted ours := by
  cases accepted with
  | undefined => cases h
  | null => cases h
  | terms amount asset network payTo orderId =>
    simp only [X402Facilitator.wrongOffer] at h
    split at h
    · cases hw : amount.written <;> rw [hw] at h <;> cases h
    · next hamount =>
      rw [not_not] at hamount
      obtain ⟨sameAsset, hasset, h⟩ := bind_eq_ok h
      split at h
      · cases h
      · next hnetwork =>
        rw [not_or, not_not, Bool.not_eq_false] at hnetwork
        obtain ⟨samePayee, hpayee, h⟩ := bind_eq_ok h
        split at h
        · cases h
        · next hsame =>
          rw [Bool.not_eq_false] at hsame
          split at h
          · cases h
          · next horder =>
            rw [not_not] at horder
            rw [hnetwork.1] at hasset
            rw [hsame] at hpayee
            obtain ⟨asset', rfl, hcase⟩ := sameAddress_eq_true hasset
            obtain ⟨payTo', rfl, hpayTo⟩ := sameAddress_eq_true hpayee
            obtain ⟨orderId', hlookup, rfl⟩ := map_eq_some_iff.mp horder.symm
            exact ⟨asset', payTo', orderId', by rw [hamount, hnetwork.2], hcase, hpayTo, hlookup⟩

theorem verify_verified {client : Except ClientThrew VerifyResponse} {payer : Option String}
    (h : F.verify charge client = .ok (.verified payer)) :
    ∃ answered accepted ours, client = .ok answered ∧ answered.isValid = true ∧
      F.decoded charge.payment = some accepted ∧ F.requirements charge = .ok ours ∧ F.Agrees accepted ours := by
  unfold X402Facilitator.verify at h
  split at h
  · cases h
  · next accepted hdecoded =>
    split at h
    · cases h
    · next ours hours =>
      split at h
      · cases h
      · cases h
      · next hoffer =>
        split at h
        · next message status invalidReason invalidMessage =>
          split at h
          · cases h
          · cases h
        · next thrown _ => cases hd : describe thrown <;> rw [hd] at h <;> cases h
        · next answered =>
          have hvalid : answered.isValid = true := by
            unfold verdictOn at h
            split at h
            · assumption
            · cases h
          exact ⟨answered, accepted, ours, rfl, hvalid, hdecoded, hours, agrees_of_wrongOffer hoffer⟩

theorem settle_outcome {client : Except ClientThrew SettleResponse} {outcome : SettleOutcome}
    (h : F.settle charge client = .ok outcome) : F.Rebuilds charge ∧
      ((∃ txn, outcome = .settled txn) ∧ Charged client ∨ (∃ reason, outcome = .failed reason) ∧ TurnsDown client ∨
        (∃ reason, outcome = .unknown reason) ∧ ¬ (Charged client ∨ TurnsDown client)) := by
  unfold X402Facilitator.settle at h
  split at h
  · cases h
  · next accepted hdecoded =>
    split at h
    · cases h
    · next ours hours =>
      refine ⟨⟨accepted, ours, hdecoded, hours⟩, ?_⟩
      split at h
      · next message status errorReason errorMessage =>
        split at h
        · next hrefused =>
          cases h
          exact .inr (.inl ⟨⟨_, rfl⟩, .inr ⟨_, _, _, _, rfl, refused_iff.mp hrefused⟩⟩)
        · next hrefused =>
          cases h
          refine .inr (.inr ⟨⟨_, rfl⟩, ?_⟩)
          rintro (⟨answered, ⟨⟩, -⟩ | ⟨answered, ⟨⟩, -⟩ | ⟨_, _, _, _, heq, hstatus⟩)
          cases heq
          exact hrefused (refused_iff.mpr hstatus)
      · next thrown hother =>
        cases hd : describe thrown with
        | error words =>
          rw [hd] at h
          cases h
        | ok words =>
          rw [hd] at h
          cases h
          refine .inr (.inr ⟨⟨words, rfl⟩, ?_⟩)
          rintro (⟨answered, ⟨⟩, -⟩ | ⟨answered, ⟨⟩, -⟩ | ⟨_, _, _, _, heq, -⟩)
          cases heq
          exact hother _ _ _ _ rfl
      · next answered =>
        split at h
        · next hsuccess =>
          cases h
          exact .inl ⟨⟨_, rfl⟩, answered, rfl, hsuccess⟩
        · next hsuccess =>
          cases h
          exact .inr (.inl ⟨⟨_, rfl⟩, .inl ⟨answered, rfl, Bool.not_eq_true _ ▸ hsuccess⟩⟩)

end

/-! ## What is heard of a payment -/

section
variable {R : Runtime} {w w' : World Doc} {out : List (Notice Doc)}

/-- Where a notice about a payment comes from. -/
def World.Heard (w : World Doc) (action : Action Doc) : Notice Doc → Prop
  | .verified charge _ => ∃ k payer call, action = .verify k (.verified payer) ∧ w.calls.get k = some call ∧
      call.stage = .asking charge
  | .settleCalled charge => ∃ k frame rest, action = .carryOut k ∧ w.tasks.get k = some ⟨none, frame :: rest⟩ ∧
      frame.effects.head? = some .executePayment ∧ chargeOf frame.record = .ok charge
  | .presented shown _ => ∃ k task t now fresh cut call charge owner, action = .present k task t now fresh cut ∧
      w.calls.get k = some call ∧ call.stage = .claimed charge owner ∧ shown = call.presentation charge owner
  | .applied call _ => (∃ task now fresh cut, action = .apply task call now fresh cut) ∨
      ∃ k charge frame rest outcome now fresh cut, action = .settle k outcome now fresh cut ∧
        w.tasks.get k = some ⟨some charge, frame :: rest⟩ ∧ afterSettle frame.record frame.at outcome = .apply call
  | _ => True

variable {action : Action Doc}

theorem heard_remindings (armed : List (Reminder × Int)) :
    ∀ notice ∈ (remindings armed : List (Notice Doc)), w.Heard action notice := by
  intro notice hn
  obtain ⟨reminder, -, rfl⟩ := List.mem_map.1 hn
  trivial

theorem heard_singleton {notice : Notice Doc} (h : w.Heard action notice) : ∀ n ∈ [notice], w.Heard action n := by
  intro n hn
  rw [mem_singleton.1 hn]
  exact h

theorem heard_append {out₁ out₂ : List (Notice Doc)} (h₁ : ∀ n ∈ out₁, w.Heard action n)
    (h₂ : ∀ n ∈ out₂, w.Heard action n) : ∀ n ∈ out₁ ++ out₂, w.Heard action n :=
  forall_mem_append.2 ⟨h₁, h₂⟩

theorem heard_nil : ∀ n ∈ ([] : List (Notice Doc)), w.Heard action n := fun _ hn => absurd hn not_mem_nil

variable {α : Type} {now : Int} {cut : Option Nat} {k task : Nat}

theorem World.hold_heard (w₀ : World Doc) (cut : Option Nat) (id : String) (scope : Option String)
    (decide : StoredOrder Doc → Decision Doc α) :
    ∀ notice ∈ (w.hold cut id scope decide).2.1, w₀.Heard action notice := by
  intro notice hn
  rcases hold_out hn with ⟨_, _, rfl⟩ | ⟨_, _, _, rfl⟩ <;> trivial

/-- A call of `apply` is heard of as itself. -/
theorem World.apply_heard {call : ApplyCall Doc} {fresh : Nat → String}
    (h : ∀ came, w.Heard action (.applied call came)) :
    ∀ notice ∈ (w.apply R call now fresh cut).2.1, w.Heard action notice := by
  have hhold : ∀ notice ∈ (w.hold cut call.orderId call.scope (applyDecision R.config call now fresh)).2.1,
      w.Heard action notice := w.hold_heard w cut _ _ _
  unfold World.apply
  dsimp only
  split
  · exact hhold
  · exact heard_append hhold (heard_singleton trivial)
  · exact heard_append hhold (heard_singleton (h none))
  · next change _ => exact heard_append hhold (heard_singleton (h (some change.result)))

theorem World.applyAlone_heard {call : ApplyCall Doc} {fresh : Nat → String} :
    ∀ notice ∈ (w.applyAlone R task call now fresh cut).2, w.Heard (.apply task call now fresh cut) notice := by
  have happly : ∀ notice ∈ (w.apply R call now fresh cut).2.1,
      w.Heard (.apply task call now fresh cut) notice :=
    w.apply_heard fun _ => .inl ⟨task, now, fresh, cut, rfl⟩
  unfold applyAlone
  dsimp only
  split <;> exact happly

theorem World.settle_heard {charge : Charge} {frame : Frame Doc} {rest : List (Frame Doc)}
    (ht : w.tasks.get k = some ⟨some charge, frame :: rest⟩) (outcome : SettleOutcome) (now : Int)
    (fresh : Nat → String) (cut : Option Nat) : ∀ notice ∈ (w.settle R k frame rest outcome now fresh cut).2,
      w.Heard (.settle k outcome now fresh cut) notice := by
  unfold World.settle
  split
  · next call hcall =>
    have happly : ∀ notice ∈ (w.apply R call now fresh cut).2.1,
        w.Heard (.settle k outcome now fresh cut) notice :=
      w.apply_heard fun _ => .inr ⟨k, charge, frame, rest, outcome, now, fresh, cut, rfl, ht, hcall⟩
    dsimp only
    split <;> exact happly
  · dsimp only
    split <;> exact w.hold_heard w cut _ none _

theorem World.present_heard {call : PayCall} {charge : Charge} {owner : String} (hc : w.calls.get k = some call)
    (hstage : call.stage = .claimed charge owner) (t now : Int) (fresh : Nat → String) (cut : Option Nat) :
    ∀ notice ∈ (w.present R k task call charge owner t now fresh cut).2,
      w.Heard (.present k task t now fresh cut) notice := by
  have hshown : ∀ came, w.Heard (.present k task t now fresh cut)
      (.presented (call.presentation charge owner) came) :=
    fun _ => ⟨k, task, t, now, fresh, cut, call, charge, owner, rfl, hc, hstage, rfl⟩
  have hhold : ∀ notice ∈
      (w.hold cut call.orderId none (presentDecision R.config (call.presentation charge owner) t now fresh)).2.1,
      w.Heard (.present k task t now fresh cut) notice := w.hold_heard w cut _ _ _
  unfold World.present
  dsimp only
  split
  · exact hhold
  · exact heard_append hhold (heard_singleton trivial)
  · exact heard_append hhold (heard_singleton (hshown none))
  · next change _ =>
    have hall := heard_append hhold (heard_singleton (hshown (some change.result)))
    split
    · exact hall
    · exact hall
    · exact hall
    · exact heard_append hall (heard_singleton trivial)

theorem World.carryOut_heard {frame : Frame Doc} {rest : List (Frame Doc)}
    (ht : w.tasks.get k = some ⟨none, frame :: rest⟩) :
    ∀ notice ∈ (w.carryOut k frame rest).2, w.Heard (.carryOut k) notice := by
  unfold World.carryOut
  split
  · intro notice hn
    unfold wakeTheAgent at hn
    split at hn
    · cases hn
    · split at hn
      · rw [mem_singleton.1 hn]
        trivial
      · cases hn
  · next effect more heffects =>
    split
    · split
      · exact heard_singleton trivial
      · next charge hcharge => exact heard_singleton ⟨k, frame, rest, rfl, ht, by rw [heffects]; rfl, hcharge⟩
    all_goals first
      | exact heard_singleton trivial
      | exact heard_nil

theorem World.create_heard (task : Nat) (sale : Sale Doc) (now : Int) (fresh : Nat → String)
    (cut : Option Nat) : ∀ notice ∈ (w.create task sale now fresh cut).2, w.Heard action notice := by
  have harmed : ∀ armed, ∀ notice ∈ (remindings armed : List (Notice Doc)), w.Heard action notice :=
    heard_remindings
  unfold World.create
  dsimp only
  split
  · exact heard_singleton trivial
  · exact harmed _
  · split
    · exact heard_append (harmed _) (heard_singleton trivial)
    · split
      · exact heard_append (harmed _) (heard_singleton trivial)
      · exact harmed _
    · exact heard_append (harmed _) (heard_singleton trivial)

variable {came : World Doc × List (Notice Doc)}

/-- **Where the notices about payments come from.** -/
theorem World.Performs.heard (h : w.Performs R action came) : ∀ notice ∈ came.2, w.Heard action notice := by
  cases h with
  | create task sale now fresh cut _ => exact w.create_heard task sale now fresh cut
  | apply task call now fresh cut _ => exact w.applyAlone_heard
  | pay k orderId payment fingerprint =>
    unfold World.pay
    split
    · exact heard_singleton trivial
    · split
      · exact heard_singleton trivial
      · exact heard_nil
  | readWallet _ _ => exact heard_nil
  | @verify k call charge hc hstage outcome =>
    cases outcome with
    | verified payer => exact heard_singleton ⟨k, payer, call, rfl, hc, hstage⟩
    | notVerified reason message => exact heard_singleton trivial
    | unknown message => exact heard_singleton trivial
  | claim _ _ now =>
    unfold World.claim
    dsimp only
    split <;> exact heard_nil
  | readHolder _ _ => exact heard_singleton trivial
  | present hc hstage task t now fresh cut _ => exact w.present_heard hc hstage t now fresh cut
  | release _ _ => exact heard_singleton trivial
  | hangUp k => exact heard_nil
  | carryOut ht => exact w.carryOut_heard ht
  | settle ht outcome now fresh cut => exact w.settle_heard ht outcome now fresh cut
  | drop k => exact heard_nil
  | movePayoutWallet merchantId wallet => exact heard_nil
  | forgetClaims instant => exact heard_nil
  | beginSweep k now => exact heard_nil
  | sweepOpen _ _ holdsOrder id =>
    unfold World.sweepOpen
    split
    · exact heard_singleton trivial
    · next envelope _ =>
      refine heard_append (fun notice hn => ?_) (heard_remindings _)
      cases envelope with
      | none => cases hn
      | some envelope =>
        rw [map_some, toList_some, mem_singleton] at hn
        rw [hn]
        trivial
  | sweepDelivered _ _ => exact heard_nil
  | sweepReceipt _ _ id =>
    unfold World.sweepReceipt
    split
    · exact heard_singleton trivial
    · exact heard_nil
  | stopSweep k => exact heard_nil
  | loseTheName => exact heard_nil

/-! ## The charge a run waits on -/

/-- A run that waits on a charge waits on the one its record asks for. -/
def Waits (tasks : Dict Nat (Task Doc)) : Prop :=
  ∀ k charge frames, tasks.get k = some ⟨some charge, frames⟩ →
    ∃ frame rest, frames = frame :: rest ∧ chargeOf frame.record = .ok charge

variable {tasks : Dict Nat (Task Doc)}

theorem Waits.set (h : Waits tasks) (k : Nat) {task : Task Doc} (htask : ∀ charge, task.waiting = some charge →
      ∃ frame rest, task.frames = frame :: rest ∧ chargeOf frame.record = .ok charge) : Waits (tasks.set k task) := by
  intro j charge frames hget
  rw [get_set] at hget
  split at hget
  · cases hget
    exact htask charge rfl
  · exact h j charge frames hget

theorem Waits.go (h : Waits tasks) (k : Nat) (frames : List (Frame Doc)) : Waits (tasks.set k ⟨none, frames⟩) :=
  h.set k fun charge hwaiting => by cases hwaiting

theorem Waits.delete (h : Waits tasks) (k : Nat) : Waits (tasks.delete k) := by
  intro j charge frames hget
  exact h j charge frames (of_get_delete hget).2

theorem World.carryOut_waits (h : Waits w.tasks) (k : Nat) (frame : Frame Doc) (rest : List (Frame Doc)) :
    Waits (w.carryOut k frame rest).1.tasks := by
  unfold World.carryOut
  split
  · unfold World.returns
    split
    · exact h.delete k
    · exact h.go k rest
  · split
    · split
      · exact h.delete k
      · next charge hcharge =>
        refine h.set k fun waiting hwaiting => ?_
        cases hwaiting
        exact ⟨_, rest, rfl, hcharge⟩
    all_goals first
      | exact h.delete k
      | exact h.go k _

theorem World.apply_tasks (call : ApplyCall Doc) (now : Int) (fresh : Nat → String) (cut : Option Nat) :
    (w.apply R call now fresh cut).1.tasks = w.tasks :=
  (World.Applies.handed (w.apply_applies R call now fresh cut)).2

theorem World.hold_tasks (w : World Doc) (cut : Option Nat) (id : String) (scope : Option String)
    (decide : StoredOrder Doc → Decision Doc α) : (w.hold cut id scope decide).1.tasks = w.tasks := by
  unfold hold
  split <;> rfl

/-- **What a run waits on stays what its record asks for.** -/
theorem World.Performs.waits (h : w.Performs R action came) (hw : Waits w.tasks) : Waits came.1.tasks := by
  cases h with
  | create task sale now fresh cut _ =>
    unfold World.create
    dsimp only
    split
    · exact hw
    · exact hw
    · split
      · exact hw
      · split
        · exact hw
        · exact hw.go task _
      · exact hw
  | apply task call now fresh cut _ =>
    have htasks := w.apply_tasks (R := R) call now fresh cut
    unfold applyAlone
    dsimp only
    split
    · rw [htasks]
      exact hw.go task _
    · rwa [htasks]
    · rwa [htasks]
  | pay k orderId payment fingerprint =>
    unfold World.pay
    split
    · exact hw
    · split <;> exact hw
  | readWallet _ _ => exact hw
  | verify _ _ outcome => cases outcome <;> exact hw
  | claim _ _ now =>
    unfold World.claim
    dsimp only
    split <;> exact hw
  | readHolder _ _ => exact hw
  | @present k call charge owner _ _ task t now fresh cut _ =>
    have htasks := w.hold_tasks cut call.orderId none
      (presentDecision R.config (call.presentation charge owner) t now fresh)
    rw [← htasks] at hw
    unfold World.present
    dsimp only
    split
    · exact hw
    · exact hw
    · exact hw
    · split
      · exact hw.go task _
      · exact hw
      · exact hw
      · exact hw
  | release _ _ => exact hw
  | hangUp k => exact hw
  | @carryOut k frame rest _ => exact w.carryOut_waits hw k frame rest
  | @settle k charge frame rest _ outcome now fresh cut =>
    unfold World.settle
    split
    · next call _ =>
      rw [← w.apply_tasks (R := R) call now fresh cut] at hw
      dsimp only
      split
      · exact hw.delete k
      · exact hw.go k _
      · exact hw.go k _
    · next orderId word _ =>
      rw [← w.hold_tasks cut orderId none (writeDownDecision R.config word)] at hw
      dsimp only
      split
      · exact hw.delete k
      · exact hw.go k _
  | drop k => exact hw.delete k
  | movePayoutWallet merchantId wallet => exact hw
  | forgetClaims instant => exact hw
  | beginSweep k now =>
    unfold World.beginSweep
    split <;> exact hw
  | sweepOpen _ _ holdsOrder id =>
    unfold World.sweepOpen
    split <;> exact hw
  | sweepDelivered _ _ => exact hw
  | sweepReceipt _ _ id =>
    unfold World.sweepReceipt
    split <;> exact hw
  | stopSweep k => exact hw
  | loseTheName => exact hw

theorem gatewayRun_waits (R : Runtime) (actions : List (Action Doc)) : Waits (gatewayRun R actions).tasks :=
  (gatewayMachine R Doc).run_induction (P := fun w => Waits w.tasks)
    (fun hw h => (step_performs h).waits hw) (fun _ _ _ hget => by cases hget) actions

/-! ## A charge nobody knows of -/

theorem World.settle_unknown (k : Nat) (frame : Frame Doc) (rest : List (Frame Doc)) (reason : String) (now : Int)
    (fresh : Nat → String) (cut : Option Nat) : (w.settle R k frame rest (.unknown reason) now fresh cut).2 = [] ∧
      (∀ id before, w.store.orderById id = some before →
        ∃ after, (w.settle R k frame rest (.unknown reason) now fresh cut).1.store.orderById id = some after ∧
          after.order = before.order) ∧
      ((w.settle R k frame rest (.unknown reason) now fresh cut).1.tasks.get k = none ∨
        (w.settle R k frame rest (.unknown reason) now fresh cut).1.tasks.get k = some ⟨none, frame :: rest⟩) := by
  unfold World.settle
  dsimp only [afterSettle]
  have hholds := w.hold_holdsTo cut frame.record.order.id none
    (writeDownDecision R.config ⟨frame.at, .settle, reason⟩)
  generalize w.hold cut frame.record.order.id none
    (writeDownDecision R.config ⟨frame.at, .settle, reason⟩) = came at hholds
  have hgone : (w.drop k).tasks.get k = none := (get_delete _ _ _).trans (if_pos rfl)
  cases hholds with
  | cutBefore => exact ⟨rfl, fun id before h => ⟨before, h, rfl⟩, .inl hgone⟩
  | cutOff _ => exact ⟨by simp [writeDownDecision, remindings], fun id before h => ⟨before, h, rfl⟩, .inl hgone⟩
  | notFound _ => exact ⟨rfl, fun id before h => ⟨before, h, rfl⟩, .inr (get_set_self _ _ _)⟩
  | threw _ _ ho => cases ho
  | @decided found change hf _ hc =>
    cases hc
    refine ⟨rfl, fun id before h => ?_, .inr (get_set_self _ _ _)⟩
    by_cases hid : id = frame.record.order.id
    · subst hid
      cases hf.symm.trans h
      exact ⟨_, get_set_self _ _ _, rfl⟩
    · exact ⟨before, (get_set_ne _ _ hid).trans h, rfl⟩

/-! ## Charges that are asked for -/

/-- A charge that is asked for. -/
def Notice.isSettleCall : Notice Doc → Bool
  | .settleCalled _ => true
  | _ => false

def isExecutePayment (effect : Effect) : Bool := effect = .executePayment

theorem World.Performs.settleCalls_le (h : w.Performs R action came) :
    came.2.countP Notice.isSettleCall ≤ effectsCarriedOut isExecutePayment w action came := by
  have hheard := h.heard
  have hnone (hother : ∀ k, action ≠ .carryOut k) :
      came.2.countP Notice.isSettleCall ≤ effectsCarriedOut isExecutePayment w action came := by
    rw [countP_eq_zero.mpr]
    · exact Nat.zero_le _
    intro notice hn hcall
    cases notice with
    | settleCalled charge =>
      obtain ⟨k, frame, rest, heq, -⟩ := hheard _ hn
      exact hother k heq
    | _ => cases hcall
  cases h with
  | @carryOut k frame rest ht =>
    unfold effectsCarriedOut carriedOutAt nextEffect
    dsimp only
    rw [ht]
    unfold World.carryOut
    split
    · rw [countP_eq_zero.mpr]
      · exact Nat.zero_le _
      intro notice hn hcall
      unfold wakeTheAgent at hn
      split at hn
      · cases hn
      · split at hn
        · rw [mem_singleton.1 hn] at hcall
          cases hcall
        · cases hn
    · next effect more heffects =>
      dsimp only
      split
      · split
        · exact Nat.zero_le _
        · next charge _ =>
          have hgoes : (w.proceeds k (some charge) ({ frame with effects := more } :: rest)).tasks.has k = true := by
            unfold proceeds Dict.has
            rw [get_set_self]
            rfl
          rw [if_pos hgoes, heffects]
          exact Nat.le_refl _
      all_goals exact Nat.zero_le _
  | _ => exact hnone fun k heq => by cases heq

end

/-! ## Runs -/

section
variable {F : X402Facilitator} {R : Runtime} {w w' : World Doc} {out : List (Notice Doc)}

variable {e : FacilitatedAction Doc}

theorem X402Facilitator.step_cases (h : F.step R w e = .ok (w', out)) :
    ∃ action thrown said, F.comesTo w e = some (action, thrown) ∧ w.step R action = .ok (w', said) ∧
      out = said ++ thrown := by
  unfold X402Facilitator.step at h
  split at h
  · cases h
  · next action thrown hcomes =>
    obtain ⟨came, hcame, hsame⟩ := Except.map_eq_ok_iff.1 h
    cases hsame
    exact ⟨action, thrown, came.2, hcomes, hcame, rfl⟩

/-- **The gateway with the payment layer in front runs within the gateway.** -/
theorem facilitated_within (F : X402Facilitator) (R : Runtime) :
    (facilitatedMachine F R Doc).Within (gatewayMachine R Doc) id := by
  intro w e w' out h
  obtain ⟨action, thrown, said, -, hstep, -⟩ := F.step_cases h
  exact .inr ⟨action, said, hstep⟩

theorem facilitatedRun_gateway (F : X402Facilitator) (R : Runtime) (actions : List (FacilitatedAction Doc)) :
    ∃ moves, facilitatedRun F R actions = gatewayRun R moves :=
  (facilitated_within F R).run .empty actions

theorem X402Facilitator.comesTo_cases {action : Action Doc} {thrown : List (Notice Doc)}
    (h : F.comesTo w e = some (action, thrown)) : (e = .gateway action ∧ action.isOwn = true ∧ thrown = []) ∨
    (∃ k client call charge, e = .verifyReturns k client ∧ w.calls.get k = some call ∧ call.stage = .asking charge ∧
      ((∃ outcome, F.verify charge client = .ok outcome ∧ action = .verify k outcome ∧ thrown = []) ∨
        ∃ words, action = .hangUp k ∧ thrown = [.threw words])) ∨
    ∃ k client now fresh cut charge frame rest, e = .settleReturns k client now fresh cut ∧
      w.tasks.get k = some ⟨some charge, frame :: rest⟩ ∧
      ((∃ outcome, F.settle charge client = .ok outcome ∧ action = .settle k outcome now fresh cut ∧ thrown = []) ∨
        ∃ words, F.settle charge client = .error (.error words) ∧ action = .drop k ∧ thrown = [.threw words]) := by
  unfold X402Facilitator.comesTo at h
  split at h
  · next own =>
    split at h
    · next hown =>
      cases h
      exact .inl ⟨rfl, hown, rfl⟩
    · cases h
  · next k client =>
    split at h
    · next o p f charge hcall =>
      refine .inr (.inl ⟨k, client, _, charge, rfl, hcall, rfl, ?_⟩)
      split at h
      · next outcome hverify =>
        cases h
        exact .inl ⟨outcome, hverify, rfl, rfl⟩
      · next words _ =>
        cases h
        exact .inr ⟨words, rfl, rfl⟩
    · cases h
  · next k client now fresh cut =>
    split at h
    · next charge frame rest htask =>
      refine .inr (.inr ⟨k, client, now, fresh, cut, charge, frame, rest, rfl, htask, ?_⟩)
      split at h
      · next outcome hsettle =>
        cases h
        exact .inl ⟨outcome, hsettle, rfl, rfl⟩
      · next words hsettle =>
        cases h
        exact .inr ⟨words, hsettle, rfl, rfl⟩
    · cases h

/-- The payment layer's client said, earlier in a run, that the payment of a charge is good, when it was asked about
this very charge; and what the payment accepted is what the charge is rebuilt to. -/
def Vouches (F : X402Facilitator) (R : Runtime) (actions : List (FacilitatedAction Doc)) (charge : Charge) : Prop :=
  ∃ earlier k answered later call accepted ours, actions = earlier ++ .verifyReturns k (.ok answered) :: later ∧
    (facilitatedRun F R earlier).calls.get k = some call ∧ call.stage = .asking charge ∧ answered.isValid = true ∧
    F.decoded charge.payment = some accepted ∧ F.requirements charge = .ok ours ∧ F.Agrees accepted ours

theorem Vouches.more {actions : List (FacilitatedAction Doc)} {charge : Charge} (h : Vouches F R actions charge)
    (e : FacilitatedAction Doc) : Vouches F R (actions ++ [e]) charge := by
  obtain ⟨earlier, k, answered, later, call, accepted, ours, rfl, hrest⟩ := h
  exact ⟨earlier, k, answered, later ++ [e], call, accepted, ours, by
    rw [append_assoc, cons_append], hrest⟩

theorem facilitatedRun_concat (actions : List (FacilitatedAction Doc)) (e : FacilitatedAction Doc) :
    facilitatedRun F R (actions ++ [e]) = (facilitatedMachine F R Doc).next (facilitatedRun F R actions) e := by
  rw [facilitatedRun, Reactor.run_append]
  rfl

theorem facilitatedRun_vouched (F : X402Facilitator) (R : Runtime) (actions : List (FacilitatedAction Doc)) :
    ∀ k call charge owner, (facilitatedRun F R actions).calls.get k = some call →
      call.stage = .checkedOut charge owner ∨ call.stage = .claimed charge owner → Vouches F R actions charge := by
  induction actions using List.reverseRecOn with
  | nil => exact fun k call charge owner hcall => by cases hcall
  | append_singleton actions e ih =>
    intro k call charge owner hcall hstage
    rw [facilitatedRun_concat] at hcall
    cases hr : F.step R (facilitatedRun F R actions) e with
    | error r =>
      rw [Reactor.next_of_error _ hr] at hcall
      exact (ih k call charge owner hcall hstage).more e
    | ok came =>
      obtain ⟨w', out⟩ := came
      rw [Reactor.next_of_ok _ hr] at hcall
      obtain ⟨action, thrown, said, hcomes, hstep, -⟩ := F.step_cases hr
      cases (step_stepped hstep).calls hcall with
      | kept hkept => exact (ih k call charge owner hkept hstage).more e
      | begins _ _ => rcases hstage with h | h <;> cases h
      | asks _ _ => rcases hstage with h | h <;> cases h
      | @checksOut before charge' _ hbefore hasks hin =>
        have hsame : charge = charge' := by
          rcases hstage with h | h
          · cases h
            rfl
          · cases h
        subst hsame
        obtain ⟨j, payer, asking, rfl, hget, hasking⟩ := (step_performs hstep).heard _ hin
        rcases F.comesTo_cases hcomes with ⟨-, hown, -⟩ | ⟨i, client, now, other, rfl, hnow, hother, hcame⟩ |
          ⟨_, _, _, _, _, _, _, _, -, -, ⟨_, -, hact, -⟩ | ⟨_, -, hact, -⟩⟩
        · cases hown
        · rcases hcame with ⟨outcome, hverify, hact, -⟩ | ⟨_, hact, -⟩
          · cases hact
            cases hget.symm.trans hnow
            cases hasking.symm.trans hother
            obtain ⟨answered, accepted, ours, rfl, hrest⟩ := verify_verified hverify
            exact ⟨actions, j, answered, [], asking, accepted, ours, rfl, hget, hasking, hrest⟩
          · cases hact
        · cases hact
        · cases hact
      | @claims before charge' _ hbefore hchecked =>
        have hsame : charge = charge' := by
          rcases hstage with h | h
          · cases h
          · cases h
            rfl
        subst hsame
        exact (ih k before _ _ hbefore (.inl hchecked)).more e
      | isSpent _ => rcases hstage with h | h <;> cases h
      | isTurnedAway _ => rcases hstage with h | h <;> cases h

theorem settle_silent {charge : Charge} {client : Except ClientThrew SettleResponse}
    (h : ¬ (F.Rebuilds charge ∧ (Charged client ∨ TurnsDown client))) :
    (∃ reason, F.settle charge client = .ok (.unknown reason)) ∨ ∃ words, F.settle charge client = .error (.error words) := by
  cases hsettle : F.settle charge client with
  | error thrown =>
    obtain ⟨words⟩ := thrown
    exact .inr ⟨words, rfl⟩
  | ok outcome =>
    obtain ⟨hrebuilds, hcases⟩ := settle_outcome hsettle
    rcases hcases with ⟨-, hyes⟩ | ⟨-, hno⟩ | ⟨⟨reason, rfl⟩, -⟩
    · exact absurd ⟨hrebuilds, .inl hyes⟩ h
    · exact absurd ⟨hrebuilds, .inr hno⟩ h
    · exact .inl ⟨reason, rfl⟩

theorem X402Facilitator.told_of_charge (h : F.step R w e = .ok (w', out))
    (hw : Waits w.tasks) {call : ApplyCall Doc} {came : Option (Decided Doc)} (hin : .applied call came ∈ out)
    (htells : call.event.tellsOfCharge = true) :
    ∃ k client now fresh cut charge frames outcome t, e = .settleReturns k client now fresh cut ∧
      w.tasks.get k = some ⟨some charge, frames⟩ ∧ charge.orderId = call.orderId ∧
      F.settle charge client = .ok outcome ∧
      ((∃ txn, outcome = .settled txn) ∧ call.event = .state (.paymentSettled t) ∨
        (∃ reason, outcome = .failed reason) ∧ call.event = .state (.paymentSettleFailed t)) := by
  obtain ⟨action, thrown, said, hcomes, hstep, rfl⟩ := F.step_cases h
  have hsaid : .applied call came ∈ said := by
    rcases mem_append.1 hin with hin | hin
    · exact hin
    · rcases F.comesTo_cases hcomes with ⟨-, -, rfl⟩ | ⟨_, _, _, _, -, -, -, ⟨_, -, -, rfl⟩ | ⟨_, -, rfl⟩⟩ |
        ⟨_, _, _, _, _, _, _, _, -, -, ⟨_, -, -, rfl⟩ | ⟨_, -, -, rfl⟩⟩
      all_goals cases hin
      all_goals contradiction
  rcases F.comesTo_cases hcomes with ⟨rfl, hown, -⟩ | ⟨k, client, now, other, rfl, hnow, hother, hcame⟩ |
    ⟨k, client, now, fresh, cut, charge, frame, rest, rfl, htask, hcame⟩
  · rcases (step_performs hstep).heard _ hsaid with ⟨task, now, fresh, cut, rfl⟩ | ⟨_, _, _, _, _, _, _, _, rfl, -, -⟩
    · rw [Action.isOwn, htells] at hown
      cases hown
    · cases hown
  · rcases (step_performs hstep).heard _ hsaid with ⟨_, _, _, _, rfl⟩ | ⟨_, _, _, _, _, _, _, _, rfl, -, -⟩
    · rcases hcame with ⟨_, -, hact, -⟩ | ⟨_, hact, -⟩ <;> cases hact
    · rcases hcame with ⟨_, -, hact, -⟩ | ⟨_, hact, -⟩ <;> cases hact
  · rcases (step_performs hstep).heard _ hsaid with ⟨_, _, _, _, rfl⟩ |
      ⟨_, charge', frame', rest', outcome, _, _, _, rfl, hget, hafter⟩
    · rcases hcame with ⟨_, -, hact, -⟩ | ⟨_, -, hact, -⟩ <;> cases hact
    · rcases hcame with ⟨outcome', hsettle, hact, -⟩ | ⟨_, -, hact, -⟩
      · cases hact
        cases hget.symm.trans htask
        obtain ⟨_, _, heq, hcharge⟩ := hw _ _ _ htask
        cases heq
        have hid : charge.orderId = frame.record.order.id := by
          unfold chargeOf at hcharge
          split at hcharge
          · cases hcharge
            rfl
          · cases hcharge
        cases outcome with
        | settled txn =>
          cases hafter
          exact ⟨k, client, now, fresh, cut, charge, _, _, frame.at, rfl, htask, hid, hsettle, .inl ⟨⟨txn, rfl⟩, rfl⟩⟩
        | failed reason =>
          cases hafter
          exact ⟨k, client, now, fresh, cut, charge, _, _, frame.at, rfl, htask, hid, hsettle,
            .inr ⟨⟨reason, rfl⟩, rfl⟩⟩
        | unknown reason => cases hafter
      · cases hact

/-- The charges a step asks for. -/
def settleCalls (_ : World Doc) (_ : FacilitatedAction Doc) (came : World Doc × List (Notice Doc)) : Nat :=
  came.2.countP Notice.isSettleCall

/-- The effects that ask for a charge, as a step hands them to a run. -/
def chargesHanded (w : World Doc) (e : FacilitatedAction Doc) (came : World Doc × List (Notice Doc)) : Nat :=
  match e with
  | .gateway action => effectsHanded isExecutePayment w action came
  | _ => (came.2.flatMap Notice.handed).countP isExecutePayment

theorem X402Facilitator.settleCalls_covered (h : F.step R w e = .ok (w', out)) :
    settleCalls w e (w', out) + w'.pending isExecutePayment ≤
      chargesHanded w e (w', out) + w.pending isExecutePayment := by
  obtain ⟨action, thrown, said, hcomes, hstep, rfl⟩ := F.step_cases h
  have hperforms := step_performs hstep
  have hle := hperforms.settleCalls_le
  have hbalance := hperforms.balance (p := isExecutePayment)
  have hthrown : thrown.countP Notice.isSettleCall = 0 ∧ thrown.flatMap Notice.handed = [] ∧
      chargesHanded w e (w', said) = effectsHanded isExecutePayment w action (w', said) := by
    rcases F.comesTo_cases hcomes with ⟨rfl, -, rfl⟩ | ⟨_, _, _, _, rfl, -, -, ⟨_, -, rfl, rfl⟩ | ⟨_, rfl, rfl⟩⟩ |
      ⟨_, _, _, _, _, _, _, _, rfl, -, ⟨_, -, rfl, rfl⟩ | ⟨_, -, rfl, rfl⟩⟩
    · exact ⟨rfl, rfl, rfl⟩
    all_goals exact ⟨rfl, rfl, (Nat.zero_add _).symm⟩
  have hsame : chargesHanded w e (w', said ++ thrown) = chargesHanded w e (w', said) := by
    cases e <;> simp only [chargesHanded, effectsHanded, flatMap_append, hthrown.2.1, append_nil]
  rw [hsame, hthrown.2.2, settleCalls, countP_append, hthrown.1]
  dsimp only at hle hbalance ⊢
  omega

/-- **Not knowing is not taken for a no.** In every run of the gateway, whatever the facilitator's client does: an
order is told that its charge did not go through only by an answer to that charge that says so, or the structured
error with a status of the four hundreds; that it went through only by an answer that says so; after anything else
nothing is reported and no charge asked for, every order stands as it was, and the run of effects goes on behind the
charge or is thrown out of; an order takes a presented payment only where the facilitator said that it is good, of
this payment at this order's price, and what it accepted is what is rebuilt from the order; and no more charges are
asked for than effects that ask for one. -/
theorem unknown_is_not_no (F : X402Facilitator) (R : Runtime) (actions : List (FacilitatedAction Doc)) :
    (∀ e w' out, F.step R (facilitatedRun F R actions) e = .ok (w', out) →
      (∀ call came t, .applied call came ∈ out → call.event = .state (.paymentSettleFailed t) →
        ∃ k client now fresh cut charge frames, e = .settleReturns k client now fresh cut ∧
          (facilitatedRun F R actions).tasks.get k = some ⟨some charge, frames⟩ ∧ charge.orderId = call.orderId ∧
          F.Rebuilds charge ∧ TurnsDown client) ∧
      (∀ call came t, .applied call came ∈ out → call.event = .state (.paymentSettled t) →
        ∃ k client now fresh cut charge frames, e = .settleReturns k client now fresh cut ∧
          (facilitatedRun F R actions).tasks.get k = some ⟨some charge, frames⟩ ∧ charge.orderId = call.orderId ∧
          F.Rebuilds charge ∧ Charged client) ∧
      (∀ k client now fresh cut charge frames, e = .settleReturns k client now fresh cut →
        (facilitatedRun F R actions).tasks.get k = some ⟨some charge, frames⟩ →
        ¬ (F.Rebuilds charge ∧ (Charged client ∨ TurnsDown client)) →
          (∀ call came, .applied call came ∉ out) ∧ (∀ other, .settleCalled other ∉ out) ∧
          (∀ id before, (facilitatedRun F R actions).store.orderById id = some before →
            ∃ after, w'.store.orderById id = some after ∧ after.order = before.order) ∧
          (w'.tasks.get k = none ∨ w'.tasks.get k = some ⟨none, frames⟩)) ∧
      (∀ shown known effects, .presented shown (some (.took known effects)) ∈ out →
        ∃ charge record price, (facilitatedRun F R actions).store.orderById shown.orderId = some record ∧
          record.order.price = some price ∧
          charge = ⟨shown.orderId, price.amount, price.currency, shown.payment, shown.payTo⟩ ∧
          Vouches F R actions charge)) ∧
    (facilitatedMachine F R Doc).tally settleCalls .empty actions ≤
      (facilitatedMachine F R Doc).tally chargesHanded .empty actions := by
  obtain ⟨moves, hmoves⟩ := facilitatedRun_gateway F R actions
  have hwaits : Waits (facilitatedRun F R actions).tasks := hmoves ▸ gatewayRun_waits R moves
  have howned := gatewayRun_owned R moves
  rw [← hmoves] at howned
  refine ⟨fun e w' out h => ⟨fun call came t hin hevent => ?_, fun call came t hin hevent => ?_,
    fun k client now fresh cut charge frames he htask hsilent => ?_, fun shown known effects hin => ?_⟩, ?_⟩
  · obtain ⟨k, client, now, fresh, cut, charge, frames, outcome, t', rfl, htask, hid, hsettle, hcases⟩ :=
      F.told_of_charge h hwaits hin (by rw [hevent]; rfl)
    refine ⟨k, client, now, fresh, cut, charge, frames, rfl, htask, hid, ?_⟩
    obtain ⟨hrebuilds, hanswer⟩ := settle_outcome hsettle
    rcases hcases with ⟨-, hsettled⟩ | ⟨⟨reason, rfl⟩, -⟩
    · rw [hevent] at hsettled
      cases hsettled
    · rcases hanswer with ⟨⟨_, heq⟩, -⟩ | ⟨-, hno⟩ | ⟨⟨_, heq⟩, -⟩
      · cases heq
      · exact ⟨hrebuilds, hno⟩
      · cases heq
  · obtain ⟨k, client, now, fresh, cut, charge, frames, outcome, t', rfl, htask, hid, hsettle, hcases⟩ :=
      F.told_of_charge h hwaits hin (by rw [hevent]; rfl)
    refine ⟨k, client, now, fresh, cut, charge, frames, rfl, htask, hid, ?_⟩
    obtain ⟨hrebuilds, hanswer⟩ := settle_outcome hsettle
    rcases hcases with ⟨⟨txn, rfl⟩, -⟩ | ⟨-, hfailed⟩
    · rcases hanswer with ⟨-, hyes⟩ | ⟨⟨_, heq⟩, -⟩ | ⟨⟨_, heq⟩, -⟩
      · exact ⟨hrebuilds, hyes⟩
      · cases heq
      · cases heq
    · rw [hevent] at hfailed
      cases hfailed
  · subst he
    obtain ⟨frame, rest, rfl, -⟩ := hwaits _ _ _ htask
    have hcomes : F.comesTo (facilitatedRun F R actions) (.settleReturns k client now fresh cut) =
        match F.settle charge client with
        | .ok outcome => some (.settle k outcome now fresh cut, [])
        | .error (.error words) => some (.drop k, [.threw words]) := by
      rw [X402Facilitator.comesTo, htask]
    rcases settle_silent hsilent with ⟨reason, hunknown⟩ | ⟨words, hthrew⟩
    · rw [hunknown] at hcomes
      rw [X402Facilitator.step, hcomes] at h
      dsimp only at h
      rw [World.step, htask] at h
      cases h
      obtain ⟨hout, horders, htasks⟩ := (facilitatedRun F R actions).settle_unknown (R := R) k frame rest reason now
        fresh cut
      rw [hout]
      exact ⟨fun _ _ => List.not_mem_nil, fun _ => List.not_mem_nil, horders, htasks⟩
    · rw [hthrew] at hcomes
      rw [X402Facilitator.step, hcomes] at h
      cases h
      refine ⟨fun call came hin => ?_, fun other hin => ?_, fun id before hbefore => ⟨before, hbefore, rfl⟩,
        .inl ((Dict.get_delete _ _ _).trans (if_pos rfl))⟩
      · cases List.mem_singleton.1 hin
      · cases List.mem_singleton.1 hin
  · obtain ⟨action, thrown, said, hcomes, hstep, rfl⟩ := F.step_cases h
    have hsaid : .presented shown (some (.took known effects)) ∈ said := by
      rcases List.mem_append.1 hin with hin | hin
      · exact hin
      · rcases F.comesTo_cases hcomes with ⟨-, -, rfl⟩ | ⟨_, _, _, _, -, -, -, ⟨_, -, -, rfl⟩ | ⟨_, -, rfl⟩⟩ |
          ⟨_, _, _, _, _, _, _, _, -, -, ⟨_, -, -, rfl⟩ | ⟨_, -, -, rfl⟩⟩
        all_goals cases hin
        all_goals contradiction
    obtain ⟨k, task, t, now, fresh, cut, call, charge, owner, rfl, hcall, hstage, rfl⟩ :=
      (World.step_performs hstep).heard _ hsaid
    have hknows := howned.calls hcall
    simp only [PayCall.Knows, hstage] at hknows
    obtain ⟨⟨price, payTo, ⟨record, hrecord, hprice⟩, hcharge⟩, -⟩ := hknows
    refine ⟨charge, record, price, hrecord, hprice, ?_, facilitatedRun_vouched F R actions k call charge owner hcall
      (.inr hstage)⟩
    rw [PayCall.presentation, hcharge]
  · have hcovers := (facilitatedMachine F R Doc).tally_covers (fun w => w.pending isExecutePayment)
      (P := fun _ => True) (f := settleCalls) (g := chargesHanded) (fun _ _ => trivial)
      (fun _ h => F.settleCalls_covered h) (s := .empty) trivial actions
    exact Nat.le_trans (Nat.le_add_right _ _) hcovers

end

end Coinslot
