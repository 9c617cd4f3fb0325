import Coinslot.Lib.Reactor
import Coinslot.Scanner.Observations

/-!
# Workers on browser runs

`processBrowserObservationJob` (`apps/scanner-worker/src/browser-observation-job.ts`), for any number of
workers on any observations: each waits for one call at a time, to the observations or to the provider of
browser runs, and goes on from its answer. A call to the observations is one transaction; a call to the
provider may answer anything, or be thrown. A worker may die between any two calls, and a heartbeat prolongs
its lease at any time while it lives. Beside the workers observations are queued, and a janitor reconciles
what was used and sweeps what was stored.

The tokens of leases are given out once.
-/

namespace Coinslot

/-- What a worker is set up with. -/
structure BrowserJobConfig where
  timeoutSeconds : Nat
  maxRunUsd : Rat
  dailyBudgetUsd : Rat

def BrowserJobConfig.leaseMs (config : BrowserJobConfig) : Int := max 90000 ((config.timeoutSeconds + 30) * 1000)

/-- The failure a thrown error is recorded as. -/
def safeFailureCode (message : Option String) : String :=
  match message with
  | some message =>
    if message = "apify_output_missing" ∨ message = "apify_storage_cleanup_failed" then message
    else "browser_provider_error"
  | none => "browser_provider_error"

/-- The failure a run that ended badly is recorded as. -/
def runFailureCode (status : String) : String :=
  "apify_" ++ String.ofList (status.toList.map fun c => if c = '-' then '_' else c.toLower)

/-- A run is looked for until this long after its observation was started. -/
def reconciliationMs : Int := 6 * 60 * 60 * 1000

/-- The call a worker is about to make, with the run it is about. -/
inductive WorkerPhase (Doc : Type) where
  /-- The run of an observation that was started before is looked for. -/
  | finding
  | reserving
  | starting
  | attaching (runId : String)
  /-- The attachment was refused: the run is aborted, and then cleaned up. -/
  | refusing (runId : String)
  | clearing (runId : String)
  | waiting (runId : String)
  | checking (runId status : String) (usage : Option Rat)
  | fetching (runId : String) (usage : Option Rat)
  | completing (runId : String) (output : BrowserOutput Doc) (usage : Option Rat)
  /-- A run that is still going is aborted. -/
  | timingOut (runId : String) (usage : Option Rat)
  /-- A call was thrown: the run is aborted. -/
  | aborting (runId failureCode : String) (usage : Option Rat)
  /-- The observation is given up, with a run that is cleaned up afterwards or without one. -/
  | givingUp (runId : Option String) (status : ObservationDb.GivenUp) (failureCode : String)
      (usage : Option Rat)
  | cleaning (runId : String)
  | storing (runId : String)

/-- The call a worker goes on with from what its claim handed out: the run that is known is attached, one
that was started before is looked for, and else one is to be started. -/
def ObservationClaim.goesOn {Doc : Type} (observation : ObservationClaim) : WorkerPhase Doc :=
  match observation.apifyRunId with
  | some runId => .attaching runId
  | none => if observation.resuming then .finding else .reserving

/-- A worker: what its claim handed out, and the call it is about to make. -/
structure BrowserWorker (Doc : Type) where
  observation : ObservationClaim
  phase : WorkerPhase Doc

/-- What is heard of the workers. -/
inductive FleetNotice where
  | started (observationId : String)
  | aborted (w : Nat) (observationId runId : String)
  | cleaned (w : Nat) (observationId runId : String)
  | settled (observationId : String)
  deriving DecidableEq, Repr

/-- Everything that can happen next. -/
inductive FleetAction (Doc : Type) where
  | enqueues (id operationId actorId actorBuild : String) (t : Int)
  | claims (w : Nat) (job : BrowserObservationJob) (now : Int) (leaseToken : String)
  | finds (w : Nat) (answer : Except Unit (Option String)) (now : Int)
  | reserves (w : Nat) (now : Int)
  | starts (w : Nat) (answer : Option String)
  | attaches (w : Nat) (now : Int)
  | aborts (w : Nat)
  | cleans (w : Nat) (cleaned : Bool)
  | waits (w : Nat) (answer : Except (Option String) (String × Option Rat))
  | checks (w : Nat) (now : Int)
  | fetches (w : Nat) (answer : Except (Option String) (BrowserOutput Doc × Bool))
  | completes (w : Nat) (now : Int)
  | givesUp (w : Nat) (now : Int)
  | stores (w : Nat) (now : Int)
  | beats (w : Nat) (now : Int)
  | dies (w : Nat)
  | reconciles (id runId : String) (usage : Option Rat) (t : Int)
  | settles (id : String) (t : Int)
  | sweeps (id runId : String) (t : Int)

/-- The tables, the workers, and the tokens that were given out. -/
structure BrowserFleet (Doc : Type) where
  db : ObservationDb Doc
  workers : Dict Nat (BrowserWorker Doc)
  tokens : List String

namespace BrowserFleet

variable {Doc : Type}

def empty : BrowserFleet Doc := { db := .empty, workers := .empty, tokens := [] }

variable (config : BrowserJobConfig) (s : BrowserFleet Doc) (w : Nat) (worker : BrowserWorker Doc)

/-- A worker about to make its next call. -/
def moves (phase : WorkerPhase Doc) : BrowserFleet Doc :=
  { s with workers := s.workers.set w { worker with phase := phase } }

def ends : BrowserFleet Doc := { s with workers := s.workers.delete w }

/-- A worker claims an observation, and goes on where the one before it stopped. -/
def claims (job : BrowserObservationJob) (now : Int) (leaseToken : String) : BrowserFleet Doc :=
  let came := s.db.claim job now config.leaseMs leaseToken
  let s : BrowserFleet Doc := { s with db := came.1, tokens := leaseToken :: s.tokens }
  match came.2 with
  | .claimed observation => s.moves w ⟨observation, .finding⟩ observation.goesOn
  | _ => s

/-- A worker looks for the run of an observation that was started before. -/
def finds (answer : Except Unit (Option String)) (now : Int) : BrowserFleet Doc :=
  match answer with
  | .ok (some runId) => s.moves w worker (.attaching runId)
  | _ =>
    if reconciliationMs ≤ now - worker.observation.startedAt then
      s.moves w worker (.givingUp none .failed "unknown_run_state" none)
    else s.ends w

/-- A worker reserves the price of a run. -/
def reserves (now : Int) : BrowserFleet Doc :=
  let came := s.db.reserveDailyBudget worker.observation.id worker.observation.leaseToken
    config.maxRunUsd config.dailyBudgetUsd now
  let s : BrowserFleet Doc := { s with db := came.1 }
  match came.2 with
  | .reserved => s.moves w worker .starting
  | .exhausted => s.moves w worker (.givingUp none .budgetSkipped "daily_budget_exhausted" (some 0))
  | .fenced => s.ends w

/-- A worker starts a run. One whose call was thrown may have started it all the same. -/
def starts (answer : Option String) : BrowserFleet Doc × List FleetNotice :=
  (match answer with
    | some runId => s.moves w worker (.attaching runId)
    | none => s.ends w, [.started worker.observation.id])

/-- A worker attaches its run. -/
def attaches (runId : String) (now : Int) : BrowserFleet Doc :=
  let came := s.db.attachRun worker.observation.id worker.observation.leaseToken runId now
    config.leaseMs
  let s : BrowserFleet Doc := { s with db := came.1 }
  match came.2 with
  | .attached => s.moves w worker (.waiting runId)
  | .ownedElsewhere => s.ends w
  | .fenced => s.moves w worker (.refusing runId)

def aborts (runId : String) (phase : WorkerPhase Doc) : BrowserFleet Doc × List FleetNotice :=
  (s.moves w worker phase, [.aborted w worker.observation.id runId])

/-- A worker hears that its run came to an end, or that it is not known to have. -/
def waits (runId : String) (answer : Except (Option String) (String × Option Rat)) : BrowserFleet Doc :=
  match answer with
  | .error message => s.moves w worker (.aborting runId (safeFailureCode message) none)
  | .ok (status, usage) => s.moves w worker (.checking runId status usage)

/-- A worker makes sure of its lease, and looks at how its run ended. -/
def checks (runId status : String) (usage : Option Rat) (now : Int) : BrowserFleet Doc :=
  let came := s.db.heartbeat worker.observation.id worker.observation.leaseToken now config.leaseMs
  let s : BrowserFleet Doc := { s with db := came.1 }
  if came.2 = false then s.ends w
  else if status = "RUNNING" ∨ status = "READY" then s.moves w worker (.timingOut runId usage)
  else if status ≠ "SUCCEEDED" then
    s.moves w worker (.givingUp (some runId) .failed (runFailureCode status) usage)
  else s.moves w worker (.fetching runId usage)

/-- A worker fetches what its run put out. What is no output at all is thrown when it is committed. -/
def fetches (runId : String) (usage : Option Rat)
    (answer : Except (Option String) (BrowserOutput Doc × Bool)) : BrowserFleet Doc :=
  match answer with
  | .error message => s.moves w worker (.aborting runId (safeFailureCode message) usage)
  | .ok (output, wellFormed) =>
    if output.actorBuild ≠ worker.observation.actorBuild then
      s.moves w worker (.givingUp (some runId) .failed "actor_build_mismatch" usage)
    else if !wellFormed then s.moves w worker (.aborting runId (safeFailureCode none) usage)
    else s.moves w worker (.completing runId output usage)

/-- A worker commits what its run put out. -/
def completes (runId : String) (output : BrowserOutput Doc) (usage : Option Rat) (now : Int) :
    BrowserFleet Doc × List FleetNotice :=
  let came := s.db.complete worker.observation.id worker.observation.leaseToken output usage now
  let s : BrowserFleet Doc := { s with db := came.1 }
  if came.2 then (s.moves w worker (.cleaning runId), [.settled worker.observation.id])
  else (s.ends w, [])

/-- A worker gives its observation up, and cleans up after its run where it has one. -/
def givesUp (runId : Option String) (status : ObservationDb.GivenUp) (failureCode : String)
    (usage : Option Rat) (now : Int) : BrowserFleet Doc × List FleetNotice :=
  let came := s.db.markTerminal worker.observation.id worker.observation.leaseToken status failureCode
    usage now
  let s : BrowserFleet Doc := { s with db := came.1 }
  if came.2 then
    (match runId with
      | some runId => s.moves w worker (.cleaning runId)
      | none => s.ends w, [.settled worker.observation.id])
  else (s.ends w, [])

/-- A worker cleans up after its run. -/
def cleans (runId : String) (cleaned : Bool) (last : Bool) : BrowserFleet Doc × List FleetNotice :=
  (if cleaned && last then s.moves w worker (.storing runId) else s.ends w,
    [.cleaned w worker.observation.id runId])

/-- A worker notes that what its run stored was cleaned up. -/
def stores (runId : String) (now : Int) : BrowserFleet Doc :=
  ({ s with db := (s.db.markStorageCleaned worker.observation.id runId now).1 } :
    BrowserFleet Doc).ends w

/-- A worker's lease is prolonged. -/
def beats (now : Int) : BrowserFleet Doc :=
  { s with
    db := (s.db.heartbeat worker.observation.id worker.observation.leaseToken now config.leaseMs).1 }

/-- One step. -/
def step : FleetAction Doc → Except Unit (BrowserFleet Doc × List FleetNotice)
  | .enqueues id operationId actorId actorBuild t =>
    .ok ({ s with db := s.db.enqueue id operationId actorId actorBuild t }, [])
  | .claims w job now leaseToken =>
    if s.workers.has w || s.tokens.contains leaseToken then .error ()
    else .ok (s.claims config w job now leaseToken, [])
  | .finds w answer now =>
    match s.workers.get w with
    | some ⟨observation, .finding⟩ => .ok (s.finds w ⟨observation, .finding⟩ answer now, [])
    | _ => .error ()
  | .reserves w now =>
    match s.workers.get w with
    | some ⟨observation, .reserving⟩ => .ok (s.reserves config w ⟨observation, .reserving⟩ now, [])
    | _ => .error ()
  | .starts w answer =>
    match s.workers.get w with
    | some ⟨observation, .starting⟩ => .ok (s.starts w ⟨observation, .starting⟩ answer)
    | _ => .error ()
  | .attaches w now =>
    match s.workers.get w with
    | some ⟨observation, .attaching runId⟩ =>
      .ok (s.attaches config w ⟨observation, .attaching runId⟩ runId now, [])
    | _ => .error ()
  | .aborts w =>
    match s.workers.get w with
    | some ⟨observation, .refusing runId⟩ =>
      .ok (s.aborts w ⟨observation, .refusing runId⟩ runId (.clearing runId))
    | some ⟨observation, .timingOut runId usage⟩ =>
      .ok (s.aborts w ⟨observation, .timingOut runId usage⟩ runId
        (.givingUp (some runId) .failed "apify_timeout"
          (some (max (usage.getD 0) config.maxRunUsd))))
    | some ⟨observation, .aborting runId failureCode usage⟩ =>
      .ok (s.aborts w ⟨observation, .aborting runId failureCode usage⟩ runId
        (.givingUp (some runId) .failed failureCode usage))
    | _ => .error ()
  | .cleans w cleaned =>
    match s.workers.get w with
    | some ⟨observation, .clearing runId⟩ => .ok (s.cleans w ⟨observation, .clearing runId⟩ runId cleaned false)
    | some ⟨observation, .cleaning runId⟩ => .ok (s.cleans w ⟨observation, .cleaning runId⟩ runId cleaned true)
    | _ => .error ()
  | .waits w answer =>
    match s.workers.get w with
    | some ⟨observation, .waiting runId⟩ => .ok (s.waits w ⟨observation, .waiting runId⟩ runId answer, [])
    | _ => .error ()
  | .checks w now =>
    match s.workers.get w with
    | some ⟨observation, .checking runId status usage⟩ =>
      .ok (s.checks config w ⟨observation, .checking runId status usage⟩ runId status usage now, [])
    | _ => .error ()
  | .fetches w answer =>
    match s.workers.get w with
    | some ⟨observation, .fetching runId usage⟩ =>
      .ok (s.fetches w ⟨observation, .fetching runId usage⟩ runId usage answer, [])
    | _ => .error ()
  | .completes w now =>
    match s.workers.get w with
    | some ⟨observation, .completing runId output usage⟩ =>
      .ok (s.completes w ⟨observation, .completing runId output usage⟩ runId output usage now)
    | _ => .error ()
  | .givesUp w now =>
    match s.workers.get w with
    | some ⟨observation, .givingUp runId status failureCode usage⟩ =>
      .ok (s.givesUp w ⟨observation, .givingUp runId status failureCode usage⟩ runId status
        failureCode usage now)
    | _ => .error ()
  | .stores w now =>
    match s.workers.get w with
    | some ⟨observation, .storing runId⟩ => .ok (s.stores w ⟨observation, .storing runId⟩ runId now, [])
    | _ => .error ()
  | .beats w now =>
    match s.workers.get w with
    | none => .error ()
    | some worker => .ok (s.beats config worker now, [])
  | .dies w => .ok (s.ends w, [])
  | .reconciles id runId usage t => .ok ({ s with db := (s.db.reconcileUsage id runId usage t).1 }, [])
  | .settles id t => .ok ({ s with db := (s.db.settleUsageConservatively id t).1 }, [])
  | .sweeps id runId t => .ok ({ s with db := (s.db.markStorageCleaned id runId t).1 }, [])

end BrowserFleet

def fleetMachine {Doc : Type} (config : BrowserJobConfig) :
    Reactor (BrowserFleet Doc) (FleetAction Doc) FleetNotice Unit := ⟨BrowserFleet.step config⟩

/-- The workers a list of actions leads to. -/
def fleetRun {Doc : Type} (config : BrowserJobConfig) (actions : List (FleetAction Doc)) : BrowserFleet Doc :=
  (fleetMachine config).run .empty actions

end Coinslot
