import Coinslot.Lib.Reactor
import Coinslot.Lib.Dict

/-!
# Card signals and the webhooks that attach them

The signals of cards that were set up, the receipts of the webhooks that tell of them, and who is at work on
both (`apps/web/lib/server/stripe-card-signal.ts`): deliveries of webhooks, of the same event as often as the
provider likes and any number of times at once, and owners who detach a card. A delivery takes the receipt of
its event under a lease of five minutes, reads the set-up back from the provider, and attaches the signal and
settles the receipt in one transaction. What the provider answers may be anything; every call may throw, after
it was carried out or before; and whoever is at work may stall or die between any two of them.
-/

namespace Coinslot

/-! ## The tables -/

/-- Where the receipt of an event stands. -/
inductive ReceiptStatus where
  | received
  | processed
  | failed
  deriving DecidableEq, Repr

/-- The receipt of an event (`webhook_receipts`). -/
structure WebhookReceipt where
  payloadHash : String
  status : ReceiptStatus
  processedAt : Option Int
  deriving DecidableEq, Repr

/-- Where a signal stands. -/
inductive CardSignalState where
  | notStarted
  | setupPending
  | attached
  | detached
  | failed
  deriving DecidableEq, Repr

/-- The signal of a card (`payment_signals`). -/
structure PaymentSignal where
  leadId : String
  stripeCustomerId : String
  setupIntentId : String
  paymentMethodIdCiphertext : Option String
  status : CardSignalState
  attachedAt : Option Int
  detachedAt : Option Int
  deriving DecidableEq, Repr

/-- The receipts, by the event, and the signals. -/
structure CardTables where
  receipts : Dict String WebhookReceipt
  signals : Dict String PaymentSignal

/-- An event a webhook tells of. -/
structure CardSignalWebhookEvent where
  id : String
  type : String
  setupIntentId : Option String
  deriving DecidableEq, Repr

/-- How far a set-up is. -/
inductive SetupStatus where
  | requiresPaymentMethod
  | requiresConfirmation
  | requiresAction
  | processing
  | canceled
  | succeeded
  deriving DecidableEq, Repr

/-- A set-up, as the provider has it. -/
structure SetupReadback where
  id : String
  customerId : String
  paymentMethodId : Option String
  status : SetupStatus
  usage : String
  leadId : String
  scanId : String
  deriving DecidableEq, Repr

/-- A payment method, as the provider has it. -/
structure PaymentMethodReadback where
  id : String
  customerId : Option String
  deriving DecidableEq, Repr

/-- What a delivery attaches a signal with. -/
structure CardAttachment where
  setupIntentId : String
  customerId : String
  paymentMethodId : String
  leadId : String
  scanId : String
  deriving DecidableEq, Repr

/-- How long a delivery has an event's receipt to itself. -/
def receiptLeaseMs : Int := 5 * 60000

namespace CardTables

variable (db : CardTables)

/-- Sets the receipt of an event, where there is one. -/
def setReceipt (eventId : String) (set : WebhookReceipt → WebhookReceipt) : CardTables :=
  match db.receipts.get eventId with
  | none => db
  | some receipt => { db with receipts := db.receipts.set eventId (set receipt) }

/-- Writes the receipt of an event down, unless there is one (the first statement of `registerReceipt`). -/
def insertReceipt (eventId payloadHash : String) (leaseStartedAt : Int) : CardTables × Bool :=
  if db.receipts.has eventId then (db, false)
  else
    ({ db with
        receipts := db.receipts.set eventId ⟨payloadHash, .received, some leaseStartedAt⟩ }, true)

section

variable (eventId : String)

/-- Takes the receipt of an event over whose delivery failed, or is over its lease (the last statement of
`registerReceipt`). -/
def claimReceipt (leaseStartedAt : Int) : CardTables × Bool :=
  match db.receipts.get eventId with
  | none => (db, false)
  | some receipt =>
    let stale := receipt.processedAt.all fun processedAt => processedAt < leaseStartedAt - receiptLeaseMs
    if receipt.status = .failed || receipt.status = .received && stale then
      ({ db with
          receipts := db.receipts.set eventId
            { receipt with status := .received, processedAt := some leaseStartedAt } }, true)
    else (db, false)

def completeReceipt (now : Int) : CardTables :=
  db.setReceipt eventId fun receipt => { receipt with status := .processed, processedAt := some now }

def failReceipt (now : Int) : CardTables :=
  db.setReceipt eventId fun receipt => { receipt with status := .failed, processedAt := some now }

end

/-- The signal of a set-up, with its identifier. -/
def signalOf (setupIntentId : String) : Option (String × PaymentSignal) :=
  db.signals.entries.find? fun entry => entry.2.setupIntentId = setupIntentId

/-- Attaches the signal of a set-up that was read back, and settles the receipt, in one transaction. What it
asks of the other tables, that the scan is linked to the lead, that its session is there and that the event is
stored, is `linked`. -/
def attachFromReadback (encrypt : String → String) (eventId : String) (attachment : CardAttachment)
    (linked : Except String Unit) (now : Int) : Except String CardTables :=
  match db.signalOf attachment.setupIntentId with
  | none => .error "card_signal_binding_mismatch"
  | some (id, signal) =>
    if signal.leadId ≠ attachment.leadId || signal.stripeCustomerId ≠ attachment.customerId then
      .error "card_signal_binding_mismatch"
    else
      match linked with
      | .error thrown => .error thrown
      | .ok () =>
        .ok ({ db with
          signals := db.signals.set id
            { signal with
              status := .attached
              paymentMethodIdCiphertext := some (encrypt attachment.paymentMethodId)
              attachedAt := some now
              detachedAt := none } }.completeReceipt eventId now)

/-- Notes that a signal was detached, where it is attached. -/
def detach (id : String) (now : Int) : CardTables :=
  match db.signals.get id with
  | none => db
  | some signal =>
    if signal.status = .attached then
      { db with
        signals := db.signals.set id { signal with status := .detached, detachedAt := some now } }
    else db

end CardTables

/-! ## Who is at work -/

/-- What the delivery of a webhook does next. -/
inductive DeliveryPhase where
  | inserting
  | reading (leaseStartedAt : Int)
  | claiming (leaseStartedAt : Int)
  | handling
  | completing
  | attaching (attachment : CardAttachment)
  | failing
  deriving DecidableEq, Repr

/-- Whether what is thrown now is caught, and the receipt failed. -/
def DeliveryPhase.caught : DeliveryPhase → Bool
  | handling | completing | attaching _ => true
  | _ => false

/-- The delivery of a webhook. -/
structure WebhookDelivery where
  event : CardSignalWebhookEvent
  payloadHash : String
  phase : DeliveryPhase
  deriving DecidableEq, Repr

/-- What an owner who detaches a card does next. -/
inductive DetachPhase where
  | reading (leadId : String)
  | asking (paymentMethodIdCiphertext : String)
  | noting
  deriving DecidableEq, Repr

/-- An owner who detaches a card. -/
structure Detachment where
  signalId : String
  phase : DetachPhase
  deriving DecidableEq, Repr

/-- What the provider says of a set-up and of its payment method. -/
structure SetupAnswer where
  setup : SetupReadback
  method : PaymentMethodReadback
  deriving DecidableEq, Repr

/-- Everything that can happen next. A call that is not `answered` was carried out, and counts as thrown. -/
inductive CardAction where
  | arrives (d : Nat) (event : CardSignalWebhookEvent) (payloadHash : String)
  | inserts (d : Nat) (leaseStartedAt : Int)
  | reads (d : Nat)
  | claims (d : Nat)
  | handles (d : Nat) (answer : Option SetupAnswer)
  | completes (d : Nat) (now : Int) (answered : Bool)
  | attaches (d : Nat) (linked : Except String Unit) (now : Int) (answered : Bool)
  | throws (d : Nat)
  | fails (d : Nat) (now : Int)
  | dies (d : Nat)
  | asks (o : Nat) (signalId leadId : String)
  | looks (o : Nat)
  | detaches (o : Nat) (detached readback : PaymentMethodReadback)
  | notes (o : Nat) (now : Int)
  | leaves (o : Nat)

/-- The tables, the deliveries, and the owners who detach a card. -/
structure CardDesk where
  db : CardTables
  deliveries : Dict Nat WebhookDelivery
  detachments : Dict Nat Detachment

/-- How a payment method and a ciphertext of it are made of each other. -/
structure CardCipher where
  encrypt : String → String
  decrypt : String → String

namespace CardDesk

def start (db : CardTables) : CardDesk := { db := db, deliveries := .empty, detachments := .empty }

variable (cipher : CardCipher) (s : CardDesk) (d o : Nat) (delivery : WebhookDelivery)

def goes (phase : DeliveryPhase) : CardDesk :=
  { s with deliveries := s.deliveries.set d { delivery with phase := phase } }

def ends : CardDesk := { s with deliveries := s.deliveries.delete d }

/-- A delivery looks at the receipt that was there before it. -/
def reads (leaseStartedAt : Int) : CardDesk :=
  match s.db.receipts.get delivery.event.id with
  | none => s.ends d
  | some receipt =>
    if receipt.payloadHash ≠ delivery.payloadHash then s.ends d
    else if receipt.status = .processed then s.ends d
    else s.goes d delivery (.claiming leaseStartedAt)

/-- A delivery of an event that is something else is complete; one that tells of a set-up reads it back
first. -/
def handles (answer : Option SetupAnswer) : CardDesk :=
  if delivery.event.type ≠ "setup_intent.succeeded" || delivery.event.setupIntentId.all (· = "") then
    s.goes d delivery .completing
  else
    match answer with
    | none => s.goes d delivery .failing
    | some ⟨setup, method⟩ =>
      if setup.status ≠ .succeeded || setup.usage ≠ "on_session" || setup.paymentMethodId.all (· = "") ||
          method.customerId ≠ some setup.customerId then s.goes d delivery .failing
      else
        s.goes d delivery
          (.attaching ⟨setup.id, setup.customerId, method.id, setup.leadId, setup.scanId⟩)

/-- A delivery attaches the signal. -/
def attaches (attachment : CardAttachment) (linked : Except String Unit) (now : Int) (answered : Bool) : CardDesk :=
  match s.db.attachFromReadback cipher.encrypt delivery.event.id attachment linked now with
  | .error _ => s.goes d delivery .failing
  | .ok db =>
    let s : CardDesk := { s with db := db }
    if answered then s.ends d else s.goes d delivery .failing

/-- An owner looks at the signal, which is the lead's. -/
def looks (detachment : Detachment) (leadId : String) : CardDesk :=
  let leaves : CardDesk := { s with detachments := s.detachments.delete o }
  match s.db.signals.get detachment.signalId with
  | none => leaves
  | some signal =>
    match signal.paymentMethodIdCiphertext with
    | none => leaves
    | some ciphertext =>
      if signal.leadId ≠ leadId || signal.status ≠ .attached then leaves
      else { s with detachments := s.detachments.set o { detachment with phase := .asking ciphertext } }

/-- The provider detaches the payment method, and says so when it is asked again. -/
def detaches (detachment : Detachment) (ciphertext : String) (detached readback : PaymentMethodReadback) :
    CardDesk :=
  if detached.id ≠ cipher.decrypt ciphertext || detached.customerId.isSome || readback.customerId.isSome then
    { s with detachments := s.detachments.delete o }
  else { s with detachments := s.detachments.set o { detachment with phase := .noting } }

/-- One step. -/
def step : CardAction → Except Unit (CardDesk × List Empty)
  | .arrives d event payloadHash =>
    if s.deliveries.has d then .error ()
    else .ok ({ s with deliveries := s.deliveries.set d ⟨event, payloadHash, .inserting⟩ }, [])
  | .inserts d leaseStartedAt =>
    match s.deliveries.get d with
    | some ⟨event, payloadHash, .inserting⟩ =>
      let came := s.db.insertReceipt event.id payloadHash leaseStartedAt
      .ok ({ s with db := came.1 }.goes d ⟨event, payloadHash, .inserting⟩
        (if came.2 then .handling else .reading leaseStartedAt), [])
    | _ => .error ()
  | .reads d =>
    match s.deliveries.get d with
    | some ⟨event, payloadHash, .reading leaseStartedAt⟩ =>
      .ok (s.reads d ⟨event, payloadHash, .reading leaseStartedAt⟩ leaseStartedAt, [])
    | _ => .error ()
  | .claims d =>
    match s.deliveries.get d with
    | some ⟨event, payloadHash, .claiming leaseStartedAt⟩ =>
      let came := s.db.claimReceipt event.id leaseStartedAt
      let s : CardDesk := { s with db := came.1 }
      .ok (if came.2 then s.goes d ⟨event, payloadHash, .claiming leaseStartedAt⟩ .handling else s.ends d, [])
    | _ => .error ()
  | .handles d answer =>
    match s.deliveries.get d with
    | some ⟨event, payloadHash, .handling⟩ => .ok (s.handles d ⟨event, payloadHash, .handling⟩ answer, [])
    | _ => .error ()
  | .completes d now answered =>
    match s.deliveries.get d with
    | some ⟨event, payloadHash, .completing⟩ =>
      let s : CardDesk := { s with db := s.db.completeReceipt event.id now }
      .ok (if answered then s.ends d else s.goes d ⟨event, payloadHash, .completing⟩ .failing, [])
    | _ => .error ()
  | .attaches d linked now answered =>
    match s.deliveries.get d with
    | some ⟨event, payloadHash, .attaching attachment⟩ =>
      .ok (s.attaches cipher d ⟨event, payloadHash, .attaching attachment⟩ attachment linked now answered, [])
    | _ => .error ()
  | .throws d =>
    match s.deliveries.get d with
    | some delivery => .ok (if delivery.phase.caught then s.goes d delivery .failing else s.ends d, [])
    | none => .error ()
  | .fails d now =>
    match s.deliveries.get d with
    | some ⟨event, _, .failing⟩ => .ok ({ s with db := s.db.failReceipt event.id now }.ends d, [])
    | _ => .error ()
  | .dies d => .ok (s.ends d, [])
  | .asks o signalId leadId =>
    if s.detachments.has o then .error ()
    else .ok ({ s with detachments := s.detachments.set o ⟨signalId, .reading leadId⟩ }, [])
  | .looks o =>
    match s.detachments.get o with
    | some ⟨signalId, .reading leadId⟩ => .ok (s.looks o ⟨signalId, .reading leadId⟩ leadId, [])
    | _ => .error ()
  | .detaches o detached readback =>
    match s.detachments.get o with
    | some ⟨signalId, .asking ciphertext⟩ =>
      .ok (s.detaches cipher o ⟨signalId, .asking ciphertext⟩ ciphertext detached readback, [])
    | _ => .error ()
  | .notes o now =>
    match s.detachments.get o with
    | some ⟨signalId, .noting⟩ =>
      .ok ({ s with db := s.db.detach signalId now, detachments := s.detachments.delete o }, [])
    | _ => .error ()
  | .leaves o => .ok ({ s with detachments := s.detachments.delete o }, [])

end CardDesk

def cardMachine (cipher : CardCipher) : Reactor CardDesk CardAction Empty Unit := ⟨CardDesk.step cipher⟩

def cardRun (cipher : CardCipher) (db : CardTables) (actions : List CardAction) : CardDesk :=
  (cardMachine cipher).run (.start db) actions

end Coinslot
