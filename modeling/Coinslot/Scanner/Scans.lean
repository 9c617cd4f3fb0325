import Coinslot.Lib.Reactor
import Coinslot.Lib.Dict
import Coinslot.Scanner.Checks

/-!
# Scans, and the attempts at them

The tables of scans, of their checks and of the evaluations kept for other scans of the same site
(`packages/scanner-database/src/scan-job-repository.ts`), and the deliveries of scan jobs at work on them
(`processScanJob` and `registerScanWorker`, `apps/scanner-worker/src/scan-job.ts`, with the runner it has the
site fetched by, `apps/scanner-worker/src/scan-runner.ts`). Each operation on the tables is one transaction.
The queue delivers a job as often as it likes, any number of times at once; what is fetched may be anything;
a delivery may fail, or die, between any two operations.
-/

namespace Coinslot

/-! ## The tables -/

/-- Where a scan stands. -/
inductive ScanStatus where
  | accepted
  | queued
  | running
  | completed
  | partly
  | failed
  deriving DecidableEq, Repr

/-- A scan that was decided. -/
def ScanStatus.terminal : ScanStatus → Bool
  | completed | partly | failed => true
  | _ => false

/-- The status of a scan that ended so. -/
def ScanEnding.status : ScanEnding → ScanStatus
  | completed => .completed
  | partly => .partly
  | failed => .failed

theorem ScanEnding.terminal (ending : ScanEnding) : ending.status.terminal = true := by cases ending <;> rfl

/-- A scan. -/
structure ScanRow where
  status : ScanStatus
  attemptNo : Nat
  queuedAt : Option Int
  startedAt : Option Int
  workerHeartbeatAt : Option Int
  finishedAt : Option Int
  score : Option Int
  coverage : Option Rat
  level : Option DiagnosticLevel
  applicableWeight : Option Nat
  earnedWeight : Option Nat
  cacheHit : Bool
  sourceScanId : Option String
  failureCode : Option String
  deriving DecidableEq

/-- The row of a check. -/
structure CheckRow where
  result : CheckResult
  finishedAt : Int
  deriving DecidableEq, Repr

/-- An evaluation that is kept for other scans of the same site. -/
structure SnapshotRow where
  id : String
  evaluation : ScanEvaluation
  expiresAt : Int
  invalidatedAt : Option Int

/-- The tables. -/
structure ScanDb where
  scans : Dict String ScanRow
  checks : Dict String (Dict Nat CheckRow)
  snapshots : Dict String SnapshotRow

def scanRubricVersion : String := "gtm-v1.0.0"

/-- The job of a scan. -/
structure ScanJob where
  scanId : String
  canonicalTargetUrl : String
  segment : Segment
  rubricVersion : String
  attemptNo : Nat
  deriving DecidableEq, Repr

/-- How the claim of a scan went. -/
inductive ScanClaim where
  | claimed
  | terminal
  | inProgress
  deriving DecidableEq, Repr

namespace ScanDb

variable (db : ScanDb)

def empty : ScanDb := { scans := .empty, checks := .empty, snapshots := .empty }

def checksOf (scanId : String) : Dict Nat CheckRow := (db.checks.get scanId).getD .empty

def puts (scanId : String) (row : ScanRow) : ScanDb := { db with scans := db.scans.set scanId row }

/-- A scan is accepted. -/
def accept (scanId : String) : ScanDb :=
  if db.scans.has scanId then db
  else
    db.puts scanId
      { status := .accepted
        attemptNo := 1
        queuedAt := none
        startedAt := none
        workerHeartbeatAt := none
        finishedAt := none
        score := none
        coverage := none
        level := none
        applicableWeight := none
        earnedWeight := none
        cacheHit := false
        sourceScanId := none
        failureCode := none }

/-- A scan that was accepted is queued. -/
def enqueueScan (scanId : String) (t : Int) : ScanDb :=
  match db.scans.get scanId with
  | none => db
  | some row =>
    if row.status = .accepted then db.puts scanId { row with status := .queued, queuedAt := some t }
    else db

/-- Claims a scan for an attempt. The rows of an earlier attempt go. -/
def claim (job : ScanJob) (now : Int) : Option (ScanDb × ScanClaim) :=
  match db.scans.get job.scanId with
  | none => none
  | some current =>
    if current.status.terminal then some (db, .terminal)
    else if job.attemptNo < current.attemptNo then some (db, .inProgress)
    else if current.status = .running ∧ job.attemptNo ≤ current.attemptNo then some (db, .inProgress)
    else
      some
        ({ db with
            checks := if current.attemptNo < job.attemptNo then db.checks.delete job.scanId else db.checks
            scans := db.scans.set job.scanId
              { current with
                status := .running
                attemptNo := job.attemptNo
                startedAt := some now
                workerHeartbeatAt := some now } }, .claimed)

/-- The row of a scan, where an attempt at it is still the one under way. -/
def fence (scanId : String) (attemptNo : Nat) : Option ScanRow :=
  (db.scans.get scanId).filter fun row => row.status = .running && row.attemptNo = attemptNo

/-- Notes that an attempt is alive. -/
def heartbeat (scanId : String) (attemptNo : Nat) (t : Int) : ScanDb :=
  match db.fence scanId attemptNo with
  | none => db
  | some row => db.puts scanId { row with workerHeartbeatAt := some t }

/-- Writes the result of a check, where the attempt is still the one under way. -/
def upsertCheck (scanId : String) (attemptNo : Nat) (check : CheckResult) (t : Int) : ScanDb × Bool :=
  match db.fence scanId attemptNo with
  | none => (db, false)
  | some _ => ({ db with checks := db.checks.set scanId ((db.checksOf scanId).set check.id ⟨check, t⟩) }, true)

/-- An evaluation that was kept under a key, where it covers enough, is not too old, and was not
invalidated. -/
def findReusableSnapshot (cacheKey : String) (now : Int) : Option SnapshotRow :=
  (db.snapshots.get cacheKey).filter fun snapshot =>
    now < snapshot.expiresAt && snapshot.invalidatedAt.isNone &&
      7 / 10 ≤ snapshot.evaluation.score.coverage

/-- An evaluation that was kept under a key counts as invalid. Its row stays. -/
def invalidate (cacheKey : String) (t : Int) : ScanDb :=
  match db.snapshots.get cacheKey with
  | none => db
  | some snapshot => { db with snapshots := db.snapshots.set cacheKey { snapshot with invalidatedAt := some t } }

/-- An evaluation is kept under a key, unless there is one. -/
def keep (cacheKey : String) (snapshot : SnapshotRow) : Dict String SnapshotRow :=
  if db.snapshots.has cacheKey then db.snapshots else db.snapshots.set cacheKey snapshot

/-- Commits an evaluation, where the attempt is still the one under way. -/
def commitTerminal (scanId : String) (attemptNo : Nat) (evaluation : ScanEvaluation) (cacheKey : String)
    (sourceScanId : Option String) (finishedAt : Int) : ScanDb × Bool :=
  match db.fence scanId attemptNo with
  | none => (db, false)
  | some row =>
    let score := evaluation.score
    ({ db with
        scans := db.scans.set scanId
          { row with
            status := score.terminalStatus.status
            score := score.score
            coverage := some score.coverage
            level := some score.level
            applicableWeight := some score.applicableWeight
            earnedWeight := some score.earnedWeight
            cacheHit := sourceScanId.isSome
            sourceScanId := sourceScanId
            finishedAt := some finishedAt
            workerHeartbeatAt := some finishedAt }
        snapshots :=
          if sourceScanId.isNone && score.terminalStatus ≠ .failed && 7 / 10 ≤ score.coverage &&
              score.score.isSome then
            db.keep cacheKey ⟨scanId, evaluation, finishedAt + 86400000, none⟩
          else db.snapshots }, true)

/-- Notes that an attempt failed, where it is still the one under way. -/
def markSystemFailure (scanId : String) (attemptNo : Nat) (failureCode : String) (retryable : Bool)
    (t : Int) : ScanDb :=
  match db.fence scanId attemptNo with
  | none => db
  | some row =>
    db.puts scanId <|
      if retryable then
        { row with
          status := .queued
          failureCode := some failureCode
          workerHeartbeatAt := some t }
      else
        { row with
          status := .failed
          failureCode := some failureCode
          finishedAt := some t
          level := some .incomplete
          workerHeartbeatAt := some t }

end ScanDb

/-! ## The deliveries -/

/-- What scans are made with. -/
structure ScanConfig where
  suite : CheckSuite
  cacheEnabled : Bool
  sha256 : String → String

/-- The key an evaluation is kept under. -/
def ScanConfig.cacheKeyFor (config : ScanConfig) (job : ScanJob) : String :=
  let segment :=
    match job.segment with
    | .store => "store"
    | .owner => "owner"
    | .localBusiness => "local"
  config.sha256 (job.rubricVersion ++ "\x00" ++ segment ++ "\x00" ++ job.canonicalTargetUrl)

/-- The failure a thrown error is recorded as. -/
def operationalCode (message : Option String) : String :=
  match message with
  | none => "unknown_system_error"
  | some message =>
    if message ∈ ["scan_deadline_expired", "request_budget_exhausted", "global_deadline",
        "dns_no_answers", "redirect_limit_exceeded"] then message
    else if "ssrf_blocked:".toList <+: message.toList then String.ofList (message.toList.take 64)
    else "scan_system_error"

/-- The checks told of once the robots file is known. -/
def robotsPhaseIds : List Nat := [1, 2, 3]

/-- The checks told of once the pages are fetched. -/
def pagesPhaseIds : List Nat := [4, 7, 8, 9, 10, 13, 14, 16, 17, 18]

/-- What a delivery does next. What was evaluated and is still to be written comes first. -/
inductive ScanPhase where
  | looking
  | fetchingRobots
  | fetchingPages (artifacts : ScanArtifacts) (left : List CheckResult)
  | fetchingRest (artifacts : ScanArtifacts) (evaluatedAt : Int) (left : List CheckResult)
  | evaluated (evaluation : ScanEvaluation) (left : List CheckResult)
  | writing (evaluation : ScanEvaluation) (sourceScanId : Option String) (left : List CheckResult)
  | failing (code : String)
  deriving DecidableEq

/-- What is still to be written before anything else. -/
def ScanPhase.left : ScanPhase → List CheckResult
  | fetchingPages _ left | fetchingRest _ _ left | evaluated _ left | writing _ _ left => left
  | _ => []

/-- The phase once less is left to be written. -/
def ScanPhase.withLeft (left : List CheckResult) : ScanPhase → ScanPhase
  | fetchingPages artifacts _ => .fetchingPages artifacts left
  | fetchingRest artifacts evaluatedAt _ => .fetchingRest artifacts evaluatedAt left
  | evaluated evaluation _ => .evaluated evaluation left
  | writing evaluation sourceScanId _ => .writing evaluation sourceScanId left
  | phase => phase

/-- The checks that count as told of once one more is written: the last loop keeps no count. -/
def ScanPhase.tells (id : Nat) (written : List Nat) : ScanPhase → List Nat
  | writing _ _ _ => written
  | _ => id :: written

/-- A delivery at work: its job, with the attempt it counts as, the checks it wrote while the site was fetched
(`progressivelyWritten`), and what it does next. -/
structure ScanDelivery where
  job : ScanJob
  written : List Nat
  phase : ScanPhase
  deriving DecidableEq

/-- What is heard of the deliveries. -/
inductive ScanNotice where
  | committed (scanId : String) (evaluation : ScanEvaluation)
  deriving DecidableEq

/-- Everything that can happen next. -/
inductive ScanAction where
  | accepts (scanId : String)
  | enqueues (scanId : String) (t : Int)
  | delivers (d : Nat) (job : ScanJob) (retryCount : Nat) (now : Int)
  | looks (d : Nat) (now : Int)
  | fetchesRobots (d : Nat) (canonicalTargetUrl : String) (robots : FetchArtifact) (now : Int)
  | fetchesPages (d : Nat) (pages : PhasePages) (now : Int)
  | fetchesRest (d : Nat) (oauth : List FetchArtifact) (representative : Option FetchArtifact)
      (now later : Int)
  | writes (d : Nat) (now : Int)
  | returns (d : Nat)
  | commits (d : Nat) (now : Int) (answered : Bool)
  | throws (d : Nat) (message : Option String)
  | fails (d : Nat) (now : Int)
  | beats (d : Nat) (now : Int)
  | dies (d : Nat)
  | forgets (cacheKey : String)
  | invalidates (cacheKey : String) (t : Int)

/-- The tables, and the deliveries at work. -/
structure ScanWork where
  db : ScanDb
  deliveries : Dict Nat ScanDelivery

namespace ScanWork

def empty : ScanWork := { db := .empty, deliveries := .empty }

variable (config : ScanConfig) (s : ScanWork) (d : Nat) (delivery : ScanDelivery)

def moves (phase : ScanPhase) : ScanWork :=
  { s with deliveries := s.deliveries.set d { delivery with phase := phase } }

def ends : ScanWork := { s with deliveries := s.deliveries.delete d }

/-- A job is delivered, and counts as the attempt its deliveries came to, the second at most. -/
def delivers (job : ScanJob) (retryCount : Nat) (now : Int) : Option ScanWork :=
  let job := { job with attemptNo := min 2 (job.attemptNo + retryCount) }
  (s.db.claim job now).map fun came =>
    let s : ScanWork := { s with db := came.1 }
    match came.2 with
    | .claimed =>
      { s with
        deliveries := s.deliveries.set d
          ⟨job, [], if config.cacheEnabled then .looking else .fetchingRobots⟩ }
    | _ => s

/-- A delivery looks for an evaluation to use again, and writes all of its checks. -/
def looks (now : Int) : ScanWork :=
  match s.db.findReusableSnapshot (config.cacheKeyFor delivery.job) now with
  | some snapshot =>
    s.moves d delivery (.writing snapshot.evaluation (some snapshot.id) snapshot.evaluation.checks)
  | none => s.moves d delivery .fetchingRobots

/-- The checks among those of the given identifiers that were not told of yet (`emitChecks`). -/
def emitted (artifacts : ScanArtifacts) (now : Int) (ids : List Nat) : List CheckResult :=
  (config.suite.evaluateChecks artifacts now).filter fun check =>
    ids.contains check.id && !delivery.written.contains check.id

/-- The robots file is known, and what it says is told of. -/
def fetchesRobots (canonicalTargetUrl : String) (robots : FetchArtifact) (now : Int) : ScanWork :=
  let artifacts := ScanArtifacts.skeleton delivery.job.segment canonicalTargetUrl robots
  s.moves d delivery (.fetchingPages artifacts (emitted config delivery artifacts now robotsPhaseIds))

/-- The pages are fetched, and what they say is told of. -/
def fetchesPages (artifacts : ScanArtifacts) (pages : PhasePages) (now : Int) : ScanWork :=
  let artifacts := artifacts.withPages pages
  s.moves d delivery
    (.fetchingRest artifacts now (emitted config delivery artifacts now pagesPhaseIds))

/-- Everything is fetched and evaluated, and what was not told of yet is told of. -/
def fetchesRest (artifacts : ScanArtifacts) (oauth : List FetchArtifact)
    (representative : Option FetchArtifact) (now later : Int) : ScanWork :=
  let artifacts := artifacts.withRest oauth representative
  let evaluation := config.suite.evaluateScan artifacts now
  s.moves d delivery
    (.evaluated evaluation
      (emitted config delivery artifacts later (evaluation.checks.map (·.id))))

/-- The next check is written. A delivery that is fenced off is done. -/
def writes (check : CheckResult) (left : List CheckResult) (now : Int) : ScanWork :=
  let came := s.db.upsertCheck delivery.job.scanId delivery.job.attemptNo check now
  let s : ScanWork := { s with db := came.1 }
  if came.2 then
    { s with
      deliveries := s.deliveries.set d
        { delivery with
          written := delivery.phase.tells check.id delivery.written
          phase := delivery.phase.withLeft left } }
  else s.ends d

/-- The runner is done: what it did not tell of is still to be written. -/
def returns (evaluation : ScanEvaluation) : ScanWork :=
  s.moves d delivery
    (.writing evaluation none
      (evaluation.checks.filter fun check => !delivery.written.contains check.id))

/-- An evaluation is committed. Where the answer is lost, the commit counts as thrown. -/
def commits (evaluation : ScanEvaluation) (sourceScanId : Option String) (now : Int) (answered : Bool) :
    ScanWork × List ScanNotice :=
  let came := s.db.commitTerminal delivery.job.scanId delivery.job.attemptNo evaluation
    (config.cacheKeyFor delivery.job) sourceScanId now
  let s : ScanWork := { s with db := came.1 }
  (if answered then s.ends d else s.moves d delivery (.failing (operationalCode none)),
    if came.2 then [.committed delivery.job.scanId evaluation] else [])

/-- A delivery notes its failure, and is done. -/
def fails (code : String) (now : Int) : ScanWork :=
  { s with
    db := s.db.markSystemFailure delivery.job.scanId delivery.job.attemptNo code
      (delivery.job.attemptNo < 2) now }.ends d

/-- One step. -/
def step : ScanAction → Except Unit (ScanWork × List ScanNotice)
  | .accepts scanId => .ok ({ s with db := s.db.accept scanId }, [])
  | .enqueues scanId t => .ok ({ s with db := s.db.enqueueScan scanId t }, [])
  | .delivers d job retryCount now =>
    if s.deliveries.has d then .error ()
    else
      match s.delivers config d job retryCount now with
      | none => .error ()
      | some came => .ok (came, [])
  | .looks d now =>
    match s.deliveries.get d with
    | some ⟨job, written, .looking⟩ => .ok (s.looks config d ⟨job, written, .looking⟩ now, [])
    | _ => .error ()
  | .fetchesRobots d canonicalTargetUrl robots now =>
    match s.deliveries.get d with
    | some ⟨job, written, .fetchingRobots⟩ =>
      .ok (s.fetchesRobots config d ⟨job, written, .fetchingRobots⟩ canonicalTargetUrl robots now, [])
    | _ => .error ()
  | .fetchesPages d pages now =>
    match s.deliveries.get d with
    | some ⟨job, written, .fetchingPages artifacts []⟩ =>
      .ok (s.fetchesPages config d ⟨job, written, .fetchingPages artifacts []⟩ artifacts pages now, [])
    | _ => .error ()
  | .fetchesRest d oauth representative now later =>
    match s.deliveries.get d with
    | some ⟨job, written, .fetchingRest artifacts evaluatedAt []⟩ =>
      .ok (s.fetchesRest config d ⟨job, written, .fetchingRest artifacts evaluatedAt []⟩ artifacts
        oauth representative now later, [])
    | _ => .error ()
  | .writes d now =>
    match s.deliveries.get d with
    | none => .error ()
    | some delivery =>
      match delivery.phase.left with
      | [] => .error ()
      | check :: left => .ok (s.writes d delivery check left now, [])
  | .returns d =>
    match s.deliveries.get d with
    | some ⟨job, written, .evaluated evaluation []⟩ =>
      .ok (s.returns d ⟨job, written, .evaluated evaluation []⟩ evaluation, [])
    | _ => .error ()
  | .commits d now answered =>
    match s.deliveries.get d with
    | some ⟨job, written, .writing evaluation sourceScanId []⟩ =>
      .ok (s.commits config d ⟨job, written, .writing evaluation sourceScanId []⟩ evaluation
        sourceScanId now answered)
    | _ => .error ()
  | .throws d message =>
    match s.deliveries.get d with
    | none => .error ()
    | some delivery => .ok (s.moves d delivery (.failing (operationalCode message)), [])
  | .fails d now =>
    match s.deliveries.get d with
    | some ⟨job, written, .failing code⟩ => .ok (s.fails d ⟨job, written, .failing code⟩ code now, [])
    | _ => .error ()
  | .beats d now =>
    match s.deliveries.get d with
    | none => .error ()
    | some delivery =>
      .ok ({ s with
        db := s.db.heartbeat delivery.job.scanId delivery.job.attemptNo now }, [])
  | .dies d => .ok (s.ends d, [])
  | .forgets cacheKey => .ok ({ s with db.snapshots := s.db.snapshots.delete cacheKey }, [])
  | .invalidates cacheKey t => .ok ({ s with db := s.db.invalidate cacheKey t }, [])

end ScanWork

def scanMachine (config : ScanConfig) : Reactor ScanWork ScanAction ScanNotice Unit := ⟨ScanWork.step config⟩

def scanRun (config : ScanConfig) (actions : List ScanAction) : ScanWork :=
  (scanMachine config).run .empty actions

end Coinslot
