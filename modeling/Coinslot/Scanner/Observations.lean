import Mathlib.Algebra.Order.Ring.Unbundled.Rat
import Coinslot.Lib.Dict

/-!
# The observations of the scanner's browser

The table of browser observations, their findings and the daily budget they are paid from, and the
operations on them (`packages/scanner-database/src/browser-observation-repository.ts`). An observation is
taken on by whoever claims it, under a lease with a token of its own; what is written about it later is
written under that token. Each operation is one transaction.

Instants are in milliseconds, amounts exact decimals. A reported usage that is no finite number is none.
What a finding says and what was measured are documents nothing here looks into.
-/

namespace Coinslot

/-! ## The rows -/

/-- Where an observation stands. -/
inductive ObservationStatus where
  | queued
  | starting
  | running
  | completed
  | partly
  | blocked
  | failed
  | budgetSkipped
  deriving DecidableEq, Repr

namespace ObservationStatus

/-- An observation that is being made (`ACTIVE_STATUSES`). -/
def active : ObservationStatus → Bool
  | starting | running => true
  | _ => false

/-- An observation that is over (`TERMINAL_STATUSES`). -/
def terminal : ObservationStatus → Bool
  | completed | partly | blocked | failed | budgetSkipped => true
  | _ => false

theorem open_iff {status : ObservationStatus} :
    (status = .queued ∨ status.active = true) ↔ status.terminal = false := by
  cases status <;> simp [active, terminal]

theorem over_of_claimed {status : ObservationStatus} (hclaimed : status ≠ .queued)
    (hactive : status.active = false) : status.terminal = true := by
  by_contra hopen
  rcases open_iff.2 (Bool.eq_false_iff.2 hopen) with h | h
  · exact hclaimed h
  · cases hactive.symm.trans h

end ObservationStatus

/-- One thing a browser found. -/
structure BrowserFinding (Doc : Type) where
  id : String
  status : String
  summaryCode : String
  userImpactCode : Option String
  remediationCode : Option String
  evidence : Doc

/-- How a browser run ended, in its own words. -/
inductive OutputStatus where
  | completed
  | partly
  | blocked
  | failed
  deriving DecidableEq, Repr

/-- The status of an observation that ended so. -/
def OutputStatus.status : OutputStatus → ObservationStatus
  | completed => .completed
  | partly => .partly
  | blocked => .blocked
  | failed => .failed

/-- What a browser run puts out. -/
structure BrowserOutput (Doc : Type) where
  operationId : String
  actorBuild : String
  status : OutputStatus
  pagesAssessed : Nat
  requestCount : Nat
  transferredBytes : Nat
  signals : Doc
  observations : List (BrowserFinding Doc)
  totalMs : Nat

/-- An observation. -/
structure ObservationRow (Doc : Type) where
  operationId : String
  attemptNo : Nat
  actorId : String
  actorBuild : String
  status : ObservationStatus
  apifyRunId : Option String
  leaseToken : Option String
  leaseExpiresAt : Option Int
  startedAt : Option Int
  finishedAt : Option Int
  lastPolledAt : Option Int
  pagesAssessed : Nat
  requestCount : Nat
  transferredBytes : Nat
  durationMs : Option Nat
  usageUsd : Option Rat
  budgetDay : Option Int
  budgetReservedUsd : Rat
  usageReconciledAt : Option Int
  storageCleanedAt : Option Int
  failureCode : Option String
  signals : Option Doc
  updatedAt : Int

/-- What of a day's budget is reserved for runs, and what was used. -/
structure BudgetDayRow where
  reservedUsd : Rat
  usageUsd : Rat
  updatedAt : Int
  deriving DecidableEq, Repr

/-- The tables. -/
structure ObservationDb (Doc : Type) where
  observations : Dict String (ObservationRow Doc)
  findings : Dict String (List (BrowserFinding Doc))
  days : Dict Int BudgetDayRow

/-- The job of an observation. -/
structure BrowserObservationJob where
  observationId : String
  operationId : String
  attemptNo : Nat
  deriving DecidableEq, Repr

/-- What a claim hands out. -/
structure ObservationClaim where
  id : String
  operationId : String
  actorId : String
  actorBuild : String
  apifyRunId : Option String
  leaseToken : String
  startedAt : Int
  resuming : Bool
  deriving DecidableEq, Repr

/-- How a claim went. -/
inductive ClaimAnswer where
  | claimed (observation : ObservationClaim)
  | terminal
  | inProgress
  | missing
  deriving DecidableEq, Repr

/-- How the attachment of a run went. -/
inductive AttachAnswer where
  | attached
  | ownedElsewhere
  | fenced
  deriving DecidableEq, Repr

/-- How a reservation went. -/
inductive BudgetAnswer where
  | reserved
  | exhausted
  | fenced
  deriving DecidableEq, Repr

/-- How a reconciliation went. -/
inductive ReconciledState where
  | updated
  | unchanged
  | missing
  deriving DecidableEq, Repr

/-- A reconciliation, with what it added and what its day comes to. -/
structure UsageReconciliation where
  state : ReconciledState
  deltaUsd : Rat
  dayTotalUsd : Rat
  deriving DecidableEq, Repr

/-- The day an instant falls on, counted from 1970. -/
def utcBudgetDay (t : Int) : Int := t / 86400000

/-- The usage that is recorded for a reported one. -/
def actualUsageUsd (value : Option Rat) (reservedUsd : Rat) : Rat :=
  match value with
  | some value => if 0 ≤ value then min value 9999 else reservedUsd
  | none => reservedUsd

namespace ObservationDb

variable {Doc : Type}

def empty : ObservationDb Doc := { observations := .empty, findings := .empty, days := .empty }

section

variable (db : ObservationDb Doc)

/-- An observation is queued, with its scan. -/
def enqueue (id operationId actorId actorBuild : String) (t : Int) : ObservationDb Doc :=
  if db.observations.has id then db
  else
    { db with
      observations := db.observations.set id
        { operationId := operationId
          attemptNo := 1
          actorId := actorId
          actorBuild := actorBuild
          status := .queued
          apifyRunId := none
          leaseToken := none
          leaseExpiresAt := none
          startedAt := none
          finishedAt := none
          lastPolledAt := none
          pagesAssessed := 0
          requestCount := 0
          transferredBytes := 0
          durationMs := none
          usageUsd := none
          budgetDay := none
          budgetReservedUsd := 0
          usageReconciledAt := none
          storageCleanedAt := none
          failureCode := none
          signals := none
          updatedAt := t } }

def puts (id : String) (row : ObservationRow Doc) : ObservationDb Doc :=
  { db with observations := db.observations.set id row }

/-- Claims an observation that is queued, or whose lease ran out. -/
def claim (job : BrowserObservationJob) (now leaseMs : Int)
    (leaseToken : String) : ObservationDb Doc × ClaimAnswer :=
  match db.observations.get job.observationId with
  | none => (db, .missing)
  | some current =>
    if current.operationId ≠ job.operationId ∨ current.attemptNo ≠ job.attemptNo then (db, .missing)
    else if current.status.terminal then (db, .terminal)
    else if current.status.active && current.leaseExpiresAt.any (now < ·) then (db, .inProgress)
    else
      (db.puts job.observationId
        { current with
          status := .starting
          startedAt := if current.status = .queued then some now else current.startedAt
          leaseToken := some leaseToken
          leaseExpiresAt := some (now + leaseMs)
          updatedAt := now },
        .claimed
          { id := job.observationId
            operationId := current.operationId
            actorId := current.actorId
            actorBuild := current.actorBuild
            apifyRunId := current.apifyRunId
            leaseToken := leaseToken
            startedAt := current.startedAt.getD now
            resuming := current.status ≠ .queued })

/-- Attaches a run to an observation that is starting under a lease. -/
def attachRun (id leaseToken runId : String) (t leaseMs : Int) : ObservationDb Doc × AttachAnswer :=
  match db.observations.get id with
  | none => (db, .fenced)
  | some current =>
    if current.status = .starting ∧ current.leaseToken = some leaseToken then
      (db.puts id
        { current with
          status := .running
          apifyRunId := some runId
          lastPolledAt := some t
          leaseExpiresAt := some (t + leaseMs)
          updatedAt := t }, .attached)
    else if current.apifyRunId = some runId || current.status.active then (db, .ownedElsewhere)
    else (db, .fenced)

/-- Prolongs a lease that is still held. -/
def heartbeat (id leaseToken : String) (t leaseMs : Int) : ObservationDb Doc × Bool :=
  match db.observations.get id with
  | none => (db, false)
  | some current =>
    if current.leaseToken = some leaseToken && current.status.active then
      (db.puts id
        { current with
          lastPolledAt := some t
          leaseExpiresAt := some (t + leaseMs)
          updatedAt := t }, true)
    else (db, false)

def dayTotals (day t : Int) : BudgetDayRow := (db.days.get day).getD ⟨0, 0, t⟩

/-- Reserves the price of a run from the budget of the day. -/
def reserveDailyBudget (id leaseToken : String)
    (maxRunUsd dailyBudgetUsd : Rat) (t : Int) : ObservationDb Doc × BudgetAnswer :=
  match db.observations.get id with
  | none => (db, .fenced)
  | some current =>
    if !(current.leaseToken = some leaseToken && current.status.active) then (db, .fenced)
    else if 0 < current.budgetReservedUsd then (db, .reserved)
    else
      let day := utcBudgetDay t
      let totals := db.dayTotals day t
      if dailyBudgetUsd < totals.reservedUsd + totals.usageUsd + maxRunUsd then
        ({ db with days := db.days.set day totals }, .exhausted)
      else
        ({ db with
            days := db.days.set day
              { totals with reservedUsd := totals.reservedUsd + maxRunUsd, updatedAt := t }
            observations := db.observations.set id
              { current with
                budgetDay := some day
                budgetReservedUsd := maxRunUsd
                updatedAt := t } }, .reserved)

/-- A day gives back what was reserved, never below nothing, and takes on what was used. -/
def settleDay (day : Option Int) (settledUsd usageUsd : Rat) (t : Int) : Dict Int BudgetDayRow :=
  match day with
  | none => db.days
  | some day =>
    match db.days.get day with
    | none => db.days
    | some totals =>
      db.days.set day
        { reservedUsd := max 0 (totals.reservedUsd - settledUsd)
          usageUsd := totals.usageUsd + usageUsd
          updatedAt := t }

end

/-- What is left of a reservation once a usage was settled from it. -/
def remainingReservation (reservedUsd usageUsd : Rat) : Rat := max 0 (reservedUsd - min reservedUsd usageUsd)

/-- The days after an observation was settled at its end. -/
def settledAtTheEnd (db : ObservationDb Doc) (current : ObservationRow Doc) (usageUsd : Rat) (t : Int) :
    Dict Int BudgetDayRow :=
  if 0 < current.budgetReservedUsd then
    db.settleDay current.budgetDay (min current.budgetReservedUsd usageUsd) usageUsd t
  else db.days

/-- Commits what a run put out, under the lease it is held by. -/
def complete (db : ObservationDb Doc) (id leaseToken : String) (output : BrowserOutput Doc)
    (usage : Option Rat) (finishedAt : Int) : ObservationDb Doc × Bool :=
  match db.observations.get id with
  | none => (db, false)
  | some current =>
    if current.leaseToken ≠ some leaseToken ∨ current.operationId ≠ output.operationId ∨
        current.status.active = false then (db, false)
    else
      let usageUsd := actualUsageUsd usage current.budgetReservedUsd
      let remaining := remainingReservation current.budgetReservedUsd usageUsd
      ({ days := db.settledAtTheEnd current usageUsd finishedAt
         findings := db.findings.set id output.observations
         observations := db.observations.set id
          { current with
            status := output.status.status
            actorBuild := output.actorBuild
            pagesAssessed := output.pagesAssessed
            requestCount := output.requestCount
            transferredBytes := output.transferredBytes
            durationMs := some output.totalMs
            usageUsd := some usageUsd
            budgetReservedUsd := remaining
            usageReconciledAt := if 0 < remaining then none else some finishedAt
            signals := some output.signals
            failureCode := if output.status = .failed then some "actor_failed" else none
            finishedAt := some finishedAt
            lastPolledAt := some finishedAt
            leaseToken := none
            leaseExpiresAt := none
            updatedAt := finishedAt } }, true)

/-- The statuses an observation is given up with. -/
inductive GivenUp where
  | blocked
  | failed
  | budgetSkipped
  deriving DecidableEq, Repr

/-- The status of an observation that was given up so. -/
def GivenUp.status : GivenUp → ObservationStatus
  | blocked => .blocked
  | failed => .failed
  | budgetSkipped => .budgetSkipped

/-- Gives an observation up, under the lease it is held by. -/
def markTerminal (db : ObservationDb Doc) (id leaseToken : String) (status : GivenUp)
    (failureCode : String) (usage : Option Rat) (t : Int) : ObservationDb Doc × Bool :=
  match db.observations.get id with
  | none => (db, false)
  | some current =>
    if current.leaseToken ≠ some leaseToken ∨ current.status.terminal = true then (db, false)
    else
      let usageUsd := actualUsageUsd usage current.budgetReservedUsd
      let remaining := remainingReservation current.budgetReservedUsd usageUsd
      ({ db with
          days := db.settledAtTheEnd current usageUsd t
          observations := db.observations.set id
            { current with
              status := status.status
              failureCode := some (String.ofList (failureCode.toList.take 200))
              usageUsd := some usageUsd
              budgetReservedUsd := remaining
              usageReconciledAt := if 0 < remaining then none else some t
              finishedAt := some t
              leaseToken := none
              leaseExpiresAt := none
              updatedAt := t } }, true)

/-- What a day comes to, where an observation has one. -/
def dayTotalUsd (days : Dict Int BudgetDayRow) (day : Option Int) (otherwise : Rat) : Rat :=
  match day.bind days.get with
  | some totals => totals.usageUsd + totals.reservedUsd
  | none => otherwise

/-- Records the usage of an observation that is over, and gives back what is left of its reservation. -/
def reconciled (db : ObservationDb Doc) (id : String) (current : ObservationRow Doc)
    (usageUsd deltaUsd : Rat) (t : Int) : ObservationDb Doc × UsageReconciliation :=
  let days := db.settleDay current.budgetDay current.budgetReservedUsd deltaUsd t
  ({ db with
      days := days
      observations := db.observations.set id
        { current with
          usageUsd := some usageUsd
          budgetReservedUsd := 0
          usageReconciledAt := some t
          updatedAt := t } },
    { state := if 0 < deltaUsd ∨ 0 < current.budgetReservedUsd then .updated else .unchanged
      deltaUsd := deltaUsd
      dayTotalUsd := dayTotalUsd days current.budgetDay usageUsd })

def nothingToReconcile : UsageReconciliation := ⟨.missing, 0, 0⟩

section

variable (db : ObservationDb Doc)

/-- Reconciles the usage of a run with what its provider reports. -/
def reconcileUsage (id runId : String) (providerUsageUsd : Option Rat)
    (t : Int) : ObservationDb Doc × UsageReconciliation :=
  match db.observations.get id with
  | none => (db, nothingToReconcile)
  | some current =>
    if current.apifyRunId ≠ some runId ∨ current.status.terminal = false then (db, nothingToReconcile)
    else
      let usage := current.usageUsd.getD 0
      let reported := max usage (actualUsageUsd providerUsageUsd 0)
      db.reconciled id current reported (max 0 (reported - usage)) t

/-- Settles what is left of a reservation as used. -/
def settleUsageConservatively (id : String) (t : Int) : ObservationDb Doc × UsageReconciliation :=
  match db.observations.get id with
  | none => (db, nothingToReconcile)
  | some current =>
    if current.status.terminal = false then (db, nothingToReconcile)
    else
      let usage := current.usageUsd.getD 0
      db.reconciled id current (usage + current.budgetReservedUsd) current.budgetReservedUsd t

/-- Notes that what a run stored was cleaned up. -/
def markStorageCleaned (id runId : String) (t : Int) : ObservationDb Doc × Bool :=
  match db.observations.get id with
  | none => (db, false)
  | some current =>
    if current.storageCleanedAt.isNone && (current.apifyRunId.isNone || current.apifyRunId = some runId)
    then
      (db.puts id
        { current with
          apifyRunId := some runId
          storageCleanedAt := some t
          updatedAt := t }, true)
    else (db, false)

end

end ObservationDb

end Coinslot
