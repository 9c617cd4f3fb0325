import Coinslot.Lib.Reactor
import Coinslot.Lib.Tables
import Mathlib.Algebra.Group.Int.Defs
import Mathlib.Data.List.Sort

/-!
# The analytics outbox

The rows of the outbox and the consumers at work on them (`apps/scanner-worker/src/analytics-outbox.ts`, with
the delays of `packages/analytics/src/outbox.ts`). A cycle claims rows with one statement, which leaves out
the rows some other statement holds, and works on each of them by itself: it gives a row up whose time has
passed, or delivers it, and records how that went. Every statement is one transaction. What a destination
answers may be anything; a consumer may die between any two operations, and any number of cycles go on at
once.
-/

namespace Coinslot

/-! ## The table -/

/-- Where an event goes. -/
inductive DeliveryDestination where
  | posthog
  | «meta»
  | partnerTracker
  deriving DecidableEq, Repr

/-- Where a row stands. -/
inductive OutboxStatus where
  | pending
  | processing
  | delivered
  | deadLetter
  deriving DecidableEq, Repr

/-- A row that is done with. -/
def OutboxStatus.settled : OutboxStatus → Bool
  | delivered | deadLetter => true
  | _ => false

/-- What is delivered: a registration with the click it came from, the registration alone, or any other
document. -/
inductive OutboxPayload (Doc : Type) where
  | partnerRegistration (clickid : String)
  | registration
  | document (doc : Doc)

/-- The click a payload names. -/
def OutboxPayload.clickId {Doc : Type} : OutboxPayload Doc → Option String
  | partnerRegistration clickid => some clickid
  | _ => none

/-- A row of the outbox, with the instant of its event. -/
structure OutboxRow (Doc : Type) where
  id : String
  eventId : String
  destination : DeliveryDestination
  payload : OutboxPayload Doc
  status : OutboxStatus
  attempts : Nat
  nextAttemptAt : Int
  lastErrorCode : Option String
  deliveredAt : Option Int
  occurredAt : Int

variable {Doc : Type}

namespace OutboxRow

/-- A row a cycle may claim. -/
def due (destinations : List DeliveryDestination) (now : Int) (row : OutboxRow Doc) : Bool :=
  (row.status = .pending || row.status = .processing) && row.nextAttemptAt ≤ now &&
    destinations.contains row.destination

/-- Which row is claimed first. -/
def before (row other : OutboxRow Doc) : Bool :=
  row.nextAttemptAt < other.nextAttemptAt ||
    (row.nextAttemptAt = other.nextAttemptAt &&
      !other.id.toList.lex row.id.toList fun a b => a.toNat < b.toNat)

/-- A row once it is claimed: nobody claims it again for two minutes. -/
def claimed (now : Int) (row : OutboxRow Doc) : OutboxRow Doc :=
  { row with
    status := .processing
    attempts := row.attempts + 1
    nextAttemptAt := now + 120000 }

def leftPayload (row : OutboxRow Doc) : OutboxPayload Doc :=
  if row.destination = .partnerTracker then .registration else row.payload

/-- A row that was delivered. -/
def delivered (now : Int) (row : OutboxRow Doc) : OutboxRow Doc :=
  { row with
    status := .delivered
    lastErrorCode := none
    deliveredAt := some now
    payload := row.leftPayload }

/-- A row that is tried again. -/
def retried (code : String) (nextAttemptAt : Int) (row : OutboxRow Doc) : OutboxRow Doc :=
  { row with
    status := .pending
    lastErrorCode := some code
    nextAttemptAt := nextAttemptAt }

/-- A row that is given up. -/
def deadLettered (code : String) (row : OutboxRow Doc) : OutboxRow Doc :=
  { row with
    status := .deadLetter
    lastErrorCode := some code
    payload := row.leftPayload }

end OutboxRow

def outboxPkey : Rows.UniqueRule (OutboxRow Doc) := ⟨"delivery_outbox_pkey", fun row other => row.id = other.id⟩

/-- The rule that an event goes to a destination once. -/
def outboxEventDestination : Rows.UniqueRule (OutboxRow Doc) :=
  ⟨"delivery_outbox_event_destination_uidx", fun row other =>
    row.eventId = other.eventId && row.destination = other.destination⟩

/-! ## The repository -/

namespace OutboxRows

variable (rows : List (OutboxRow Doc))

/-- The rows a cycle claims: the first of those that are due, but for the ones some other statement holds. -/
def chosen (limit : Nat) (destinations : List DeliveryDestination) (locked : List String) (now : Int) :
    List (OutboxRow Doc) :=
  let due := rows.filter (OutboxRow.due destinations now)
  ((due.insertionSort fun row other => row.before other = true).filter fun row =>
    !locked.contains row.id).take limit

/-- Claims rows, and hands them back as they then are. -/
def claim (limit : Nat) (destinations : List DeliveryDestination) (locked : List String) (now : Int) :
    List (OutboxRow Doc) × List (OutboxRow Doc) :=
  let claimed := chosen rows limit destinations locked now
  (Rows.update rows (fun row => claimed.any fun other => other.id = row.id) (OutboxRow.claimed now),
    claimed.map (OutboxRow.claimed now))

def processing (id : String) (row : OutboxRow Doc) : Bool := row.id = id && row.status = .processing

def delivered (id : String) (now : Int) : List (OutboxRow Doc) :=
  Rows.update rows (processing id) (OutboxRow.delivered now)

/-- Records that a row is to be tried again. -/
def retry (id code : String) (nextAttemptAt : Int) : List (OutboxRow Doc) :=
  Rows.update rows (processing id) (OutboxRow.retried code nextAttemptAt)

/-- Records that a row is given up. -/
def deadLetter (id code : String) : List (OutboxRow Doc) :=
  Rows.update rows (processing id) (OutboxRow.deadLettered code)

end OutboxRows

/-! ## The consumers -/

/-- How a delivery went. -/
inductive DeliveryResult where
  | ok
  | failed (code : String) (retryable : Bool)

/-- What is recorded of a row. -/
inductive Recording where
  | delivered
  | retry (code : String) (nextAttemptAt : Int)
  | deadLetter (code : String)
  deriving DecidableEq

/-- How long a click is worth telling of (`PARTNER_RETRY_WINDOW_MS`). -/
def partnerRetryWindowMs : Int := 24 * 60 * 60 * 1000

/-- How long to wait before a registration is told of again (`PARTNER_RETRY_DELAYS_MS`). -/
def partnerRetryDelaysMs : List Int := [60000, 5 * 60000, 30 * 60000, 2 * 60 * 60000, 6 * 60 * 60000]

/-- How long to wait after an attempt. -/
def retryDelayMs (attempt : Nat) : Int := min (24 * 60 * 60 * 1000) (1000 * 2 ^ (attempt - 1))

def shouldDeadLetter (attempt : Nat) : Bool := 17 ≤ attempt

section

variable (row : OutboxRow Doc)

/-- A row whose click is no longer worth telling of. -/
def OutboxRow.partnerExpired (now : Int) : Bool :=
  row.destination = .partnerTracker && partnerRetryWindowMs ≤ now - row.occurredAt

/-- When a row is tried again that was worked on since an instant. -/
def OutboxRow.retryAt (now : Int) : Int :=
  if row.destination = .partnerTracker then
    min (now + partnerRetryDelaysMs.getD (min (row.attempts - 1) (partnerRetryDelaysMs.length - 1)) 0)
      (row.occurredAt + partnerRetryWindowMs)
  else now + retryDelayMs row.attempts

/-- What is recorded of a delivery that went so. -/
def OutboxRow.recordingOf (now : Int) : DeliveryResult → Recording
  | .ok => .delivered
  | .failed code retryable =>
    if !retryable || shouldDeadLetter row.attempts then .deadLetter code
    else .retry code (row.retryAt now)

end

/-- Records how it went with a row. -/
def OutboxRows.record (rows : List (OutboxRow Doc)) (id : String) (now : Int) : Recording → List (OutboxRow Doc)
  | .delivered => delivered rows id now
  | .retry code nextAttemptAt => retry rows id code nextAttemptAt
  | .deadLetter code => deadLetter rows id code

/-- What the work on a row does next. -/
inductive OutboxPhase where
  | judging
  | delivering (now : Int)
  | recording (word : Recording)
  deriving DecidableEq

/-- A row a cycle works on, as it claimed it. -/
structure OutboxWork (Doc : Type) where
  cycle : Nat
  row : OutboxRow Doc
  phase : OutboxPhase

def OutboxWork.on (cycle : Nat) (id : String) (work : OutboxWork Doc) : Bool :=
  work.cycle = cycle && work.row.id = id

/-- The outbox, and the rows that are worked on. -/
structure Outbox (Doc : Type) where
  rows : List (OutboxRow Doc)
  works : List (OutboxWork Doc)

/-- What is heard of the outbox. -/
inductive OutboxNotice where
  | claimed (cycle : Nat) (id : String)

/-- Everything that can happen next. -/
inductive OutboxAction (Doc : Type) where
  | inserts (id eventId : String) (destination : DeliveryDestination) (payload : OutboxPayload Doc)
      (occurredAt now : Int)
  | claims (cycle : Nat) (limit : Nat) (destinations : List DeliveryDestination) (locked : List String)
      (now : Int)
  | judges (cycle : Nat) (id : String) (now : Int)
  | delivers (cycle : Nat) (id : String) (result : DeliveryResult)
  | records (cycle : Nat) (id : String) (now : Int)
  | dies (cycle : Nat) (id : String)

namespace Outbox

def empty : Outbox Doc := ⟨[], []⟩

variable (s : Outbox Doc)

def moves (cycle : Nat) (id : String) (phase : OutboxPhase) : Outbox Doc :=
  { s with works := Rows.update s.works (OutboxWork.on cycle id) fun work => { work with phase := phase } }

def ends (cycle : Nat) (id : String) : Outbox Doc :=
  { s with works := Rows.delete s.works (OutboxWork.on cycle id) }

/-- An event is to be delivered somewhere. -/
def inserts (id eventId : String) (destination : DeliveryDestination) (payload : OutboxPayload Doc)
    (occurredAt now : Int) : Except Unit (Outbox Doc) :=
  match Rows.insertUnless outboxEventDestination [outboxPkey, outboxEventDestination] [] s.rows
      ⟨id, eventId, destination, payload, .pending, 0, now, none, none, occurredAt⟩ with
  | .ok (rows, _) => .ok { s with rows := rows }
  | .error _ => .error ()

/-- A cycle claims rows. -/
def claims (cycle : Nat) (limit : Nat) (destinations : List DeliveryDestination) (locked : List String)
    (now : Int) : Outbox Doc × List OutboxNotice :=
  let came := OutboxRows.claim s.rows limit destinations locked now
  ({ rows := came.1, works := s.works ++ came.2.map fun row => ⟨cycle, row, .judging⟩ },
    came.2.map fun row => .claimed cycle row.id)

/-- A cycle looks at the clock, and gives a row up whose time has passed. -/
def judges (work : OutboxWork Doc) (now : Int) : Outbox Doc :=
  if work.row.partnerExpired now then
    s.moves work.cycle work.row.id (.recording (.deadLetter "partner_tracker_retry_window_exhausted"))
  else s.moves work.cycle work.row.id (.delivering now)

/-- One step. -/
def step : OutboxAction Doc → Except Unit (Outbox Doc × List OutboxNotice)
  | .inserts id eventId destination payload occurredAt now =>
    (s.inserts id eventId destination payload occurredAt now).map fun s => (s, [])
  | .claims cycle limit destinations locked now =>
    if s.works.any fun work => work.cycle = cycle then .error ()
    else .ok (s.claims cycle limit destinations locked now)
  | .judges cycle id now =>
    match s.works.find? (OutboxWork.on cycle id) with
    | some ⟨cycle, row, .judging⟩ => .ok (s.judges ⟨cycle, row, .judging⟩ now, [])
    | _ => .error ()
  | .delivers cycle id result =>
    match s.works.find? (OutboxWork.on cycle id) with
    | some ⟨_, row, .delivering now⟩ => .ok (s.moves cycle id (.recording (row.recordingOf now result)), [])
    | _ => .error ()
  | .records cycle id now =>
    match s.works.find? (OutboxWork.on cycle id) with
    | some ⟨_, _, .recording word⟩ =>
      .ok ({ s with rows := OutboxRows.record s.rows id now word }.ends cycle id, [])
    | _ => .error ()
  | .dies cycle id => .ok (s.ends cycle id, [])

end Outbox

def outboxMachine (Doc : Type) : Reactor (Outbox Doc) (OutboxAction Doc) OutboxNotice Unit := ⟨Outbox.step⟩

def outboxRun (actions : List (OutboxAction Doc)) : Outbox Doc := (outboxMachine Doc).run .empty actions

end Coinslot
