import Coinslot.Scanner.OneAttempt

/-!
# The queue of the scans

A scan's row, the job that was sent for it and the attempt at it are three records that change at different moments.
A scan that is accepted is queued in one transaction with its job (`enqueueScanInTransaction`,
`apps/web/lib/server/queue.ts`); the queue delivers the job to a worker (`registerScanWorker`,
`apps/scanner-worker/src/scan-job.ts`), which claims the scan for an attempt and answers the job when it is done. A
job that failed, or whose worker vanished, is delivered once more (`retryLimit: 1`) and never again.

A scan that is queued or running has a job (`ScanQueue.Sound`), which waits, or is out with a worker at work, or
whose worker vanished the first time. What the last delivery leaves behind nobody takes up again: an attempt that
vanishes then leaves its scan running for good (`left_running`). Where no last attempt vanishes from a scan it still
has, no scan is left behind (`no_scan_left_behind`).
-/

namespace Coinslot

open Option Dict

/-! ## The queue -/

/-- A job that was not answered: how often it failed, and whether it is out with a worker. -/
structure QueuedScan where
  job : ScanJob
  retryCount : Nat
  out : Bool

def QueuedScan.effective (queued : QueuedScan) : ScanJob :=
  { queued.job with attemptNo := min 2 (queued.job.attemptNo + queued.retryCount) }

/-- A job that failed, as it is delivered again, if it is. -/
def QueuedScan.retried (queued : QueuedScan) : Option QueuedScan :=
  if queued.retryCount < 1 then some { queued with retryCount := queued.retryCount + 1, out := false } else none

/-- The tables and the attempts, and the jobs that are not answered. The attempt that is made of a job goes by its
number. -/
structure ScanQueue where
  work : ScanWork
  jobs : Dict Nat QueuedScan

/-- Everything that can happen next. -/
inductive ScanQueueAction where
  | accepts (scanId : String)
  | enqueues (scanId : String) (j : Nat) (canonicalTargetUrl : String) (segment : Segment) (t : Int)
  | delivers (j : Nat) (now : Int)
  | works (action : ScanAction)
  | vanishes (j : Nat)
  | redelivers (j : Nat)
  | forgets (cacheKey : String)
  | invalidates (cacheKey : String) (t : Int)

/-- The attempt that an action takes on. -/
def ScanAction.attempt : ScanAction → Option Nat
  | .looks d _ => some d
  | .fetchesRobots d _ _ _ => some d
  | .fetchesPages d _ _ => some d
  | .fetchesRest d _ _ _ _ => some d
  | .writes d _ => some d
  | .returns d => some d
  | .commits d _ _ => some d
  | .throws d _ => some d
  | .fails d _ => some d
  | .beats d _ => some d
  | _ => none

/-- Whether an attempt throws its failure on to the queue. -/
def ScanAction.rejects : ScanAction → Bool
  | .fails _ _ => true
  | _ => false

namespace ScanQueue

def empty : ScanQueue := { work := .empty, jobs := .empty }

variable (config : ScanConfig) (s : ScanQueue) (j : Nat)

/-- A job failed. -/
def fails (queued : QueuedScan) : ScanQueue :=
  match queued.retried with
  | some again => { s with jobs := s.jobs.set j again }
  | none => { s with jobs := s.jobs.delete j }

/-- A job is answered, where the attempt at it is over. -/
def answers (rejects : Bool) : ScanQueue :=
  if s.work.deliveries.has j then s
  else
    match s.jobs.get j with
    | none => s
    | some queued => if rejects then s.fails j queued else { s with jobs := s.jobs.delete j }

/-- A job is delivered. Where the scan may not be claimed, it is answered at once. -/
def delivers (queued : QueuedScan) (now : Int) : ScanQueue :=
  match s.work.delivers config j queued.job queued.retryCount now with
  | none => s.fails j queued
  | some work =>
    if work.deliveries.has j then { work := work, jobs := s.jobs.set j { queued with out := true } }
    else { work := work, jobs := s.jobs.delete j }

/-- One step. -/
def step : ScanQueueAction → Except Unit (ScanQueue × List ScanNotice)
  | .accepts scanId => .ok ({ s with work.db := s.work.db.accept scanId }, [])
  | .enqueues scanId j canonicalTargetUrl segment t =>
    match s.work.db.scans.get scanId with
    | none => .error ()
    | some row =>
      if row.status ≠ .accepted ∨ s.jobs.has j then .error ()
      else
        .ok ({ work := { s.work with db := s.work.db.enqueueScan scanId t }
               jobs := s.jobs.set j ⟨⟨scanId, canonicalTargetUrl, segment, scanRubricVersion, 1⟩, 0, false⟩ }, [])
  | .delivers j now =>
    match s.jobs.get j with
    | none => .error ()
    | some queued => if queued.out then .error () else .ok (s.delivers config j queued now, [])
  | .works action =>
    match action.attempt with
    | none => .error ()
    | some j =>
      (s.work.step config action).map fun came => (({ s with work := came.1 }).answers j action.rejects, came.2)
  | .vanishes j => .ok ({ s with work := s.work.ends j }, [])
  | .redelivers j =>
    match s.jobs.get j with
    | none => .error ()
    | some queued => if !queued.out || s.work.deliveries.has j then .error () else .ok (s.fails j queued, [])
  | .forgets cacheKey => .ok ({ s with work.db.snapshots := s.work.db.snapshots.delete cacheKey }, [])
  | .invalidates cacheKey t => .ok ({ s with work.db := s.work.db.invalidate cacheKey t }, [])

end ScanQueue

def scanQueueMachine (config : ScanConfig) : Reactor ScanQueue ScanQueueAction ScanNotice Unit :=
  ⟨ScanQueue.step config⟩

/-! ## Where an operation leaves the scans -/

/-- Whether a scan is still to be made. -/
def ScanStatus.pending : ScanStatus → Bool
  | queued | running => true
  | _ => false

theorem ScanStatus.pending_of_terminal {status : ScanStatus} (h : status.terminal = true) :
    status.pending = false := by
  cases status <;> first | rfl | cases h

namespace ScanDb

variable {db : ScanDb} {scanId : String} {attemptNo : Nat}

theorem fence_of_standing (h : db.standing scanId = some ⟨.running, attemptNo⟩) :
    ∃ row, db.fence scanId attemptNo = some row := by
  obtain ⟨row, hrow, hst⟩ := map_eq_some_iff.1 h
  obtain ⟨hrunning, hattempt⟩ := ScanStanding.mk.injEq .. ▸ hst
  exact ⟨row, filter_eq_some_iff.2 ⟨hrow, by simp [hrunning, hattempt]⟩⟩

/-- A scan under way of an attempt is settled, and nothing else changes. -/
def Settles (db db' : ScanDb) (scanId : String) (attemptNo : Nat) (status : ScanStatus) : Prop :=
  ∀ other, db'.standing other =
    if other = scanId ∧ db.standing scanId = some ⟨.running, attemptNo⟩ then some ⟨status, attemptNo⟩
    else db.standing other

theorem settles_of_not (h : db.fence scanId attemptNo = none) (status : ScanStatus) :
    db.Settles db scanId attemptNo status := by
  intro other
  rw [if_neg]
  rintro ⟨-, hst⟩
  obtain ⟨row, hrow⟩ := fence_of_standing hst
  cases h.symm.trans hrow

theorem settles_set {db' : ScanDb} {row row' : ScanRow} {status : ScanStatus}
    (h : db.fence scanId attemptNo = some row) (hscans : db'.scans = db.scans.set scanId row')
    (hattempt : row'.attemptNo = row.attemptNo) (hstatus : row'.status = status) :
    db.Settles db' scanId attemptNo status := by
  obtain ⟨hrow, -, hunder⟩ := fence_eq_some h
  intro other
  unfold standing
  rw [hscans, get_set]
  by_cases hother : other = scanId
  · rw [if_pos hother, if_pos ⟨hother, fence_standing h⟩, ← hstatus, ← hunder, ← hattempt]
    rfl
  · rw [if_neg hother, if_neg fun h => hother h.1]

theorem commitTerminal_settles (evaluation : ScanEvaluation) (cacheKey : String) (sourceScanId : Option String)
    (t : Int) : db.Settles (db.commitTerminal scanId attemptNo evaluation cacheKey sourceScanId t).1 scanId attemptNo
      evaluation.score.terminalStatus.status := by
  unfold commitTerminal
  split
  · next hfence => exact settles_of_not hfence _
  · next row hfence => exact settles_set hfence rfl rfl rfl

theorem markSystemFailure_settles (failureCode : String) (retryable : Bool) (t : Int) :
    db.Settles (db.markSystemFailure scanId attemptNo failureCode retryable t) scanId attemptNo
      (if retryable then .queued else .failed) := by
  unfold markSystemFailure
  split
  · next hfence => exact settles_of_not hfence _
  · next row hfence =>
    cases retryable with
    | true => exact settles_set hfence rfl rfl rfl
    | false => exact settles_set hfence rfl rfl rfl

theorem accept_standing (other : String) : (db.accept scanId).standing other =
    if other = scanId ∧ db.standing scanId = none then some ⟨.accepted, 1⟩ else db.standing other := by
  unfold accept
  split
  · next hthere =>
    rw [if_neg]
    rintro ⟨-, hnone⟩
    rw [Dict.has, isSome_iff_ne_none] at hthere
    exact hthere (map_eq_none_iff.1 hnone)
  · next hnew =>
    have hnone : db.standing scanId = none := by
      have hget : db.scans.get scanId = none := by simpa [Dict.has] using hnew
      rw [standing, hget]; rfl
    refine (standing_set _ _).trans ?_
    by_cases hother : other = scanId
    · rw [if_pos hother, if_pos ⟨hother, hnone⟩]
    · rw [if_neg hother, if_neg fun h => hother h.1]

theorem enqueueScan_standing {row : ScanRow} (hrow : db.scans.get scanId = some row)
    (haccepted : row.status = .accepted) (t : Int) (other : String) : (db.enqueueScan scanId t).standing other =
    if other = scanId then some ⟨.queued, row.attemptNo⟩ else db.standing other := by
  unfold enqueueScan
  rw [hrow]
  dsimp only
  rw [if_pos haccepted]
  exact standing_set _ _

theorem claim_refuses {job : ScanJob} {now : Int} {came : ScanDb × ScanClaim} (h : db.claim job now = some came)
    (hrefused : came.2 ≠ .claimed) {st : ScanStanding} (hst : db.standing job.scanId = some st) :
    st.status.terminal = true ∨ job.attemptNo < st.attemptNo ∨
      st.status = .running ∧ job.attemptNo ≤ st.attemptNo := by
  unfold claim at h
  split at h
  · cases h
  · next row hrow =>
    rw [standing_of_get hrow] at hst
    cases hst
    split at h
    · next hterminal => exact .inl hterminal
    · split at h
      · next hlater => exact .inr (.inl hlater)
      · split at h
        · next hunder => exact .inr (.inr hunder)
        · cases h; exact absurd rfl hrefused

end ScanDb

/-! ## What an attempt does -/

/-- What a step of an attempt does to the scans and to the attempts. -/
inductive AttemptMove (s : ScanWork) (j : Nat) (delivery : ScanDelivery) : ScanWork → Bool → Prop
  | goes {s' : ScanWork} (phase : ScanPhase) (written : List Nat)
      (hdeliveries : s'.deliveries = s.deliveries.set j ⟨delivery.job, written, phase⟩)
      (hdb : ∀ id, s'.db.standing id = s.db.standing id) : AttemptMove s j delivery s' false
  | beats {s' : ScanWork} (hdeliveries : s'.deliveries = s.deliveries)
      (hdb : ∀ id, s'.db.standing id = s.db.standing id) : AttemptMove s j delivery s' false
  | fenced {s' : ScanWork} (hdeliveries : s'.deliveries = s.deliveries.delete j)
      (hdb : ∀ id, s'.db.standing id = s.db.standing id)
      (hover : s.db.standing delivery.job.scanId ≠ some ⟨.running, delivery.job.attemptNo⟩) :
      AttemptMove s j delivery s' false
  | commits {s' : ScanWork} (status : ScanStatus) (answered : Bool)
      (hdeliveries : s'.deliveries = if answered then s.deliveries.delete j
        else s.deliveries.set j { delivery with phase := .failing (operationalCode none) })
      (hterminal : status.terminal = true)
      (hdb : s.db.Settles s'.db delivery.job.scanId delivery.job.attemptNo status) :
      AttemptMove s j delivery s' false
  | fails {s' : ScanWork} (hdeliveries : s'.deliveries = s.deliveries.delete j)
      (hdb : s.db.Settles s'.db delivery.job.scanId delivery.job.attemptNo
        (if delivery.job.attemptNo < 2 then .queued else .failed)) : AttemptMove s j delivery s' true

theorem ScanWork.attempt_cases {config : ScanConfig} {s s' : ScanWork} {action : ScanAction} {j : Nat}
    {out : List ScanNotice} (hattempt : action.attempt = some j) (h : s.step config action = .ok (s', out)) :
    ∃ delivery, s.deliveries.get j = some delivery ∧ AttemptMove s j delivery s' action.rejects := by
  have hmoves {delivery : ScanDelivery} (phase : ScanPhase) :
      AttemptMove s j delivery (s.moves j delivery phase) false :=
    .goes phase delivery.written rfl fun _ => rfl
  cases action with
  | accepts => cases hattempt
  | enqueues => cases hattempt
  | delivers => cases hattempt
  | dies => cases hattempt
  | forgets => cases hattempt
  | invalidates => cases hattempt
  | looks d now =>
    cases hattempt
    simp only [step] at h
    split at h
    · next job written hd =>
      cases h
      refine ⟨_, hd, ?_⟩
      unfold looks
      split
      · exact hmoves _
      · exact hmoves _
    · cases h
  | fetchesRobots d url robots now =>
    cases hattempt
    simp only [step] at h
    split at h
    · next job written hd => cases h; exact ⟨_, hd, hmoves _⟩
    · cases h
  | fetchesPages d pages now =>
    cases hattempt
    simp only [step] at h
    split at h
    · next job written artifacts hd => cases h; exact ⟨_, hd, hmoves _⟩
    · cases h
  | fetchesRest d oauth representative now later =>
    cases hattempt
    simp only [step] at h
    split at h
    · next job written artifacts evaluatedAt hd => cases h; exact ⟨_, hd, hmoves _⟩
    · cases h
  | writes d now =>
    cases hattempt
    simp only [step] at h
    split at h
    · cases h
    · next delivery hd =>
      split at h
      · cases h
      · next check left hleft =>
        cases h
        refine ⟨delivery, hd, ?_⟩
        unfold writes ScanDb.upsertCheck
        cases hfence : s.db.fence delivery.job.scanId delivery.job.attemptNo with
        | none =>
          refine .fenced rfl (fun _ => rfl) fun hst => ?_
          obtain ⟨row, hrow⟩ := ScanDb.fence_of_standing hst
          cases hfence.symm.trans hrow
        | some row => exact .goes _ _ rfl fun _ => rfl
  | returns d =>
    cases hattempt
    simp only [step] at h
    split at h
    · next job written evaluation hd => cases h; exact ⟨_, hd, hmoves _⟩
    · cases h
  | commits d now answered =>
    cases hattempt
    simp only [step] at h
    split at h
    · next job written evaluation sourceScanId hd =>
      cases h
      refine ⟨_, hd, .commits evaluation.score.terminalStatus.status answered ?_
        evaluation.score.terminalStatus.terminal ?_⟩
      · cases answered <;> rfl
      · cases answered with
        | true => exact ScanDb.commitTerminal_settles _ _ _ _
        | false => exact ScanDb.commitTerminal_settles _ _ _ _
    · cases h
  | throws d message =>
    cases hattempt
    simp only [step] at h
    split at h
    · cases h
    · next delivery hd => cases h; exact ⟨delivery, hd, hmoves _⟩
  | fails d now =>
    cases hattempt
    simp only [step] at h
    split at h
    · next job written code hd =>
      cases h
      refine ⟨_, hd, .fails rfl ?_⟩
      have hsettles : s.db.Settles (s.db.markSystemFailure job.scanId job.attemptNo code (job.attemptNo < 2) now) _ _ _ :=
        s.db.markSystemFailure_settles code (job.attemptNo < 2) now
      simp only [decide_eq_true_eq] at hsettles
      exact hsettles
    · cases h
  | beats d now =>
    cases hattempt
    simp only [step] at h
    split at h
    · cases h
    · next delivery hd =>
      cases h
      refine ⟨delivery, hd, .beats rfl fun id => ?_⟩
      cases (s.db.heartbeat_spec delivery.job.scanId delivery.job.attemptNo now).2 with
      | still hstanding _ => exact hstanding id

/-! ## Every scan has its job -/

/-- How a job stands by its scan: an attempt at it is under way, or its first worker vanished, or it waits to be
delivered. -/
inductive ScanQueue.Attends (s : ScanQueue) (j : Nat) (queued : QueuedScan) (st : ScanStanding) : Prop
  | live (delivery : ScanDelivery) (hout : queued.out = true) (hd : s.work.deliveries.get j = some delivery)
      (hst : st = ⟨.running, queued.effective.attemptNo⟩)
  | vanished (hout : queued.out = true) (hd : s.work.deliveries.get j = none) (hfirst : queued.retryCount = 0)
      (hst : st.attemptNo = 1)
  | waits (hout : queued.out = false) (hst : st.attemptNo = 1) (hfirst : queued.retryCount = 0 → st.status = .queued)

/-- The scans, their jobs and the attempts at them belong together. -/
structure ScanQueue.Sound (s : ScanQueue) : Prop where
  delivered : ∀ j delivery, s.work.deliveries.get j = some delivery →
    ∃ queued, s.jobs.get j = some queued ∧ queued.out = true ∧ delivery.job = queued.effective
  first : ∀ j queued, s.jobs.get j = some queued → queued.job.attemptNo = 1 ∧ queued.retryCount ≤ 1
  alone : ∀ j j' queued queued', s.jobs.get j = some queued → s.jobs.get j' = some queued' →
    queued.job.scanId = queued'.job.scanId → j = j'
  begun : ∀ j queued, s.jobs.get j = some queued →
    ∃ st, s.work.db.standing queued.job.scanId = some st ∧ st.status ≠ .accepted
  fresh : ∀ scanId st, s.work.db.standing scanId = some st → st.status = .accepted → st.attemptNo = 1
  attended : ∀ scanId st, s.work.db.standing scanId = some st → st.status.pending = true →
    ∃ j queued, s.jobs.get j = some queued ∧ queued.job.scanId = scanId ∧ s.Attends j queued st

/-- Whether an action leaves a scan to a later delivery: the last attempt does not vanish from a scan it still has. -/
def ScanQueue.LastAttemptStays (s : ScanQueue) : ScanQueueAction → Prop
  | .vanishes j => ∀ delivery, s.work.deliveries.get j = some delivery → 2 ≤ delivery.job.attemptNo →
      s.work.db.standing delivery.job.scanId ≠ some ⟨.running, delivery.job.attemptNo⟩
  | _ => True

namespace ScanQueue

variable {s : ScanQueue} {j : Nat} {queued : QueuedScan}

@[simp] theorem fails_work : (s.fails j queued).work = s.work := by
  unfold fails
  split <;> rfl

theorem fails_jobs (other : Nat) :
    (s.fails j queued).jobs.get other = if other = j then queued.retried else s.jobs.get other := by
  unfold fails
  split
  · next again hagain =>
    rw [hagain]
    exact get_set _ _ _ _
  · next hagain =>
    rw [hagain]
    exact get_delete _ _ _

end ScanQueue

theorem QueuedScan.of_retried {queued again : QueuedScan} (h : queued.retried = some again) :
    queued.retryCount = 0 ∧ again = { queued with retryCount := 1, out := false } := by
  unfold retried at h
  split at h
  · next hfew =>
    have hzero : queued.retryCount = 0 := by omega
    cases h
    exact ⟨hzero, by rw [hzero]⟩
  · cases h

namespace ScanQueue.Sound

variable {config : ScanConfig} {s s' : ScanQueue} {j : Nat} {queued : QueuedScan}

theorem empty : ScanQueue.empty.Sound where
  delivered j delivery h := by cases h
  first j queued h := by cases h
  alone j j' queued queued' h := by cases h
  begun j queued h := by cases h
  fresh scanId st h := by cases h
  attended scanId st h := by cases h

section

variable (h : s.Sound)
include h

theorem attends (hj : s.jobs.get j = some queued) {st : ScanStanding}
    (hst : s.work.db.standing queued.job.scanId = some st) (hpending : st.status.pending = true) :
    s.Attends j queued st := by
  obtain ⟨j', queued', hj', hsame, hattends⟩ := h.attended _ st hst hpending
  obtain rfl := h.alone j' j queued' queued hj' hj hsame
  cases hj'.symm.trans hj
  exact hattends

theorem of_same (hjobs : s'.jobs = s.jobs) (hdeliveries : ∀ j, s'.work.deliveries.get j = s.work.deliveries.get j)
    (hdb : ∀ id, s'.work.db.standing id = s.work.db.standing id) : s'.Sound := by
  refine ⟨?_, ?_, ?_, ?_, ?_, ?_⟩
  · intro j delivery hd
    rw [hdeliveries] at hd
    rw [hjobs]
    exact h.delivered j delivery hd
  · rw [hjobs]; exact h.first
  · rw [hjobs]; exact h.alone
  · intro j queued hj
    rw [hjobs] at hj
    rw [hdb]
    exact h.begun j queued hj
  · intro scanId st hst
    rw [hdb] at hst
    exact h.fresh scanId st hst
  · intro scanId st hst hpending
    rw [hdb] at hst
    obtain ⟨j, queued, hj, hscan, hattends⟩ := h.attended scanId st hst hpending
    refine ⟨j, queued, hjobs ▸ hj, hscan, ?_⟩
    cases hattends with
    | live delivery hout hd hst => exact .live delivery hout ((hdeliveries j).trans hd) hst
    | vanished hout hd hfirst hst => exact .vanished hout ((hdeliveries j).trans hd) hfirst hst
    | waits hout hst hfirst => exact .waits hout hst hfirst

/-- A job of a scan changes, and the scan with it, and nothing else does. -/
theorem of_turn (hj : s.jobs.get j = some queued) (again : Option QueuedScan)
    (hjobs : ∀ j', s'.jobs.get j' = if j' = j then again else s.jobs.get j')
    (hothers : ∀ j', j' ≠ j → s'.work.deliveries.get j' = s.work.deliveries.get j')
    (hscans : ∀ id, id ≠ queued.job.scanId → s'.work.db.standing id = s.work.db.standing id)
    (hsame : ∀ q, again = some q → q.job = queued.job ∧ q.retryCount ≤ 1)
    (hbegun : ∃ st, s'.work.db.standing queued.job.scanId = some st ∧ st.status ≠ .accepted)
    (hdelivered : ∀ delivery, s'.work.deliveries.get j = some delivery →
      ∃ q, again = some q ∧ q.out = true ∧ delivery.job = q.effective)
    (hattended : ∀ st, s'.work.db.standing queued.job.scanId = some st → st.status.pending = true →
      ∃ q, again = some q ∧ s'.Attends j q st) : s'.Sound := by
  refine ⟨?_, ?_, ?_, ?_, ?_, ?_⟩
  · intro j' delivery hd
    rw [hjobs]
    by_cases hj' : j' = j
    · subst hj'
      obtain ⟨q, hq, hout, hjob⟩ := hdelivered delivery hd
      exact ⟨q, by rw [if_pos rfl]; exact hq, hout, hjob⟩
    · rw [if_neg hj']
      rw [hothers j' hj'] at hd
      exact h.delivered j' delivery hd
  · intro j' q hq
    rw [hjobs] at hq
    split at hq
    · obtain ⟨hjob, hcount⟩ := hsame q hq
      exact ⟨hjob ▸ (h.first j queued hj).1, hcount⟩
    · exact h.first j' q hq
  · have hwas {j' : Nat} {q : QueuedScan} (hq : s'.jobs.get j' = some q) :
        ∃ was, s.jobs.get j' = some was ∧ was.job = q.job := by
      rw [hjobs] at hq
      split at hq
      · next hj' => exact ⟨queued, by rw [hj']; exact hj, (hsame q hq).1.symm⟩
      · exact ⟨q, hq, rfl⟩
    intro j₁ j₂ q₁ q₂ hq₁ hq₂ hscan
    obtain ⟨was₁, hwas₁, hjob₁⟩ := hwas hq₁
    obtain ⟨was₂, hwas₂, hjob₂⟩ := hwas hq₂
    exact h.alone j₁ j₂ was₁ was₂ hwas₁ hwas₂ (by rw [hjob₁, hjob₂]; exact hscan)
  · intro j' q hq
    rw [hjobs] at hq
    split at hq
    · rw [(hsame q hq).1]
      exact hbegun
    · next hj' =>
      obtain ⟨st, hst, hstatus⟩ := h.begun j' q hq
      have hother : q.job.scanId ≠ queued.job.scanId := fun hscan => hj' (h.alone j' j q queued hq hj hscan)
      exact ⟨st, (hscans _ hother).trans hst, hstatus⟩
  · intro scanId st hst haccepted
    by_cases hscan : scanId = queued.job.scanId
    · obtain ⟨st', hst', hstatus⟩ := hbegun
      rw [hscan, hst'] at hst
      cases hst
      exact absurd haccepted hstatus
    · rw [hscans scanId hscan] at hst
      exact h.fresh scanId st hst haccepted
  · intro scanId st hst hpending
    by_cases hscan : scanId = queued.job.scanId
    · subst hscan
      obtain ⟨q, hq, hattends⟩ := hattended st hst hpending
      exact ⟨j, q, by rw [hjobs, if_pos rfl]; exact hq, by rw [(hsame q hq).1], hattends⟩
    · rw [hscans scanId hscan] at hst
      obtain ⟨j', q, hq, hscan', hattends⟩ := h.attended scanId st hst hpending
      have hj' : j' ≠ j := by
        rintro rfl
        cases hq.symm.trans hj
        exact hscan hscan'.symm
      refine ⟨j', q, by rw [hjobs, if_neg hj']; exact hq, hscan', ?_⟩
      cases hattends with
      | live delivery hout hd hst => exact .live delivery hout (by rw [hothers j' hj']; exact hd) hst
      | vanished hout hd hfirst hst => exact .vanished hout (by rw [hothers j' hj']; exact hd) hfirst hst
      | waits hout hst hfirst => exact .waits hout hst hfirst

theorem effective (hj : s.jobs.get j = some queued) :
    queued.retryCount = 0 ∧ queued.effective.attemptNo = 1 ∨ queued.retryCount = 1 ∧ queued.effective.attemptNo = 2 := by
  obtain ⟨hattempt, hcount⟩ := h.first j queued hj
  unfold QueuedScan.effective
  dsimp only
  omega

theorem accepts (scanId : String) : { s with work.db := s.work.db.accept scanId }.Sound := by
  refine ⟨h.delivered, h.first, h.alone, fun j queued hj => ?_, fun other st hst haccepted => ?_,
    fun other st hst hpending => ?_⟩
  · obtain ⟨st, hst, hstatus⟩ := h.begun j queued hj
    refine ⟨st, ?_, hstatus⟩
    rw [ScanDb.accept_standing, if_neg]
    · exact hst
    · rintro ⟨hscan, hnone⟩
      rw [← hscan, hst] at hnone
      cases hnone
  · rw [ScanDb.accept_standing] at hst
    split at hst
    · cases hst; rfl
    · exact h.fresh other st hst haccepted
  · rw [ScanDb.accept_standing] at hst
    split at hst
    · cases hst; cases hpending
    · obtain ⟨j, queued, hj, hscan, hattends⟩ := h.attended other st hst hpending
      refine ⟨j, queued, hj, hscan, ?_⟩
      cases hattends with
      | live delivery hout hd hst => exact .live delivery hout hd hst
      | vanished hout hd hfirst hst => exact .vanished hout hd hfirst hst
      | waits hout hst hfirst => exact .waits hout hst hfirst

theorem enqueues {scanId : String} {row : ScanRow} (hrow : s.work.db.scans.get scanId = some row)
    (haccepted : row.status = .accepted) (hj : s.jobs.get j = none) (job : ScanJob) (hscan : job.scanId = scanId)
    (hattempt : job.attemptNo = 1) (t : Int) :
    ScanQueue.Sound { work := { s.work with db := s.work.db.enqueueScan scanId t },
                      jobs := s.jobs.set j ⟨job, 0, false⟩ } := by
  have hwas := ScanDb.standing_of_get hrow
  have hstanding := s.work.db.enqueueScan_standing hrow haccepted t
  have hidle {j' : Nat} {queued : QueuedScan} (hj' : s.jobs.get j' = some queued) : queued.job.scanId ≠ scanId := by
    intro hsame
    obtain ⟨st, hst, hstatus⟩ := h.begun j' queued hj'
    rw [hsame, hwas] at hst
    cases hst
    exact hstatus haccepted
  have hother {j' : Nat} {queued : QueuedScan} (hj' : s.jobs.get j' = some queued) : j' ≠ j := by
    rintro rfl
    cases hj.symm.trans hj'
  refine ⟨fun j' delivery hd => ?_, fun j' queued hq => ?_, fun j₁ j₂ q₁ q₂ hq₁ hq₂ hsame => ?_,
    fun j' queued hq => ?_, fun other st hst hstatus => ?_, fun other st hst hpending => ?_⟩
  · obtain ⟨queued, hq, hout, hjob⟩ := h.delivered j' delivery hd
    exact ⟨queued, (get_set_ne _ _ (hother hq)).trans hq, hout, hjob⟩
  · rw [get_set] at hq
    split at hq
    · cases hq; exact ⟨hattempt, Nat.zero_le _⟩
    · exact h.first j' queued hq
  · rw [get_set] at hq₁ hq₂
    split at hq₁
    · next h₁ =>
      cases hq₁
      split at hq₂
      · next h₂ => rw [h₁, h₂]
      · exact absurd (hsame.symm.trans hscan) (hidle hq₂)
    · split at hq₂
      · cases hq₂; exact absurd (hsame.trans hscan) (hidle hq₁)
      · exact h.alone j₁ j₂ q₁ q₂ hq₁ hq₂ hsame
  · rw [get_set] at hq
    rw [hstanding]
    split at hq
    · cases hq
      rw [if_pos hscan]
      exact ⟨_, rfl, nofun⟩
    · rw [if_neg (hidle hq)]
      exact h.begun j' queued hq
  · rw [hstanding] at hst
    split at hst
    · cases hst; cases hstatus
    · exact h.fresh other st hst hstatus
  · rw [hstanding] at hst
    split at hst
    · next hsame =>
      cases hst
      have hfirst : row.attemptNo = 1 := h.fresh scanId _ hwas haccepted
      exact ⟨j, ⟨job, 0, false⟩, get_set_self _ _ _, hscan.trans hsame.symm, .waits rfl hfirst fun _ => rfl⟩
    · obtain ⟨j', queued, hq, hscan', hattends⟩ := h.attended other st hst hpending
      refine ⟨j', queued, (get_set_ne _ _ (hother hq)).trans hq, hscan', ?_⟩
      cases hattends with
      | live delivery hout hd hst => exact .live delivery hout hd hst
      | vanished hout hd hfirst hst => exact .vanished hout hd hfirst hst
      | waits hout hst hfirst => exact .waits hout hst hfirst

section

variable (hj : s.jobs.get j = some queued)
include hj

theorem refused (hout : queued.out = false)
    (hidle : s.work.deliveries.get j = none) {now : Int} {came : ScanDb × ScanClaim}
    (hclaim : s.work.db.claim queued.effective now = some came) (hrefused : came.2 ≠ .claimed) :
    ScanQueue.Sound { s with jobs := s.jobs.delete j } := by
  refine h.of_turn hj none (fun j' => get_delete _ _ _) (fun _ _ => rfl) (fun _ _ => rfl) nofun
    (h.begun j queued hj) (fun delivery hd => ?_) fun st hst hpending => ?_
  · cases hidle.symm.trans hd
  · exfalso
    have hattends := h.attends hj hst hpending
    cases hattends with
    | live delivery hisout hd _ => cases hout.symm.trans hisout
    | vanished hisout hd _ _ => cases hout.symm.trans hisout
    | waits _ hattempt hfirst =>
      rcases ScanDb.claim_refuses hclaim hrefused hst with hterminal | hlater | ⟨hrunning, hearlier⟩
      · rw [ScanStatus.pending_of_terminal hterminal] at hpending
        cases hpending
      · rcases h.effective hj with ⟨-, heffective⟩ | ⟨-, heffective⟩ <;> omega
      · rcases h.effective hj with ⟨hzero, -⟩ | ⟨-, heffective⟩
        · rw [hfirst hzero] at hrunning
          cases hrunning
        · omega

variable {db : ScanDb}

theorem claimed {phase : ScanPhase}
    (hturns : s.work.db.Turns db (.taken queued.effective.scanId queued.effective.attemptNo)) :
    ScanQueue.Sound { work := { db := db, deliveries := s.work.deliveries.set j ⟨queued.effective, [], phase⟩ },
                      jobs := s.jobs.set j { queued with out := true } } := by
  cases hturns with
  | taken _ _ _ _ hstanding _ =>
    have hmine : db.standing queued.job.scanId = some ⟨.running, queued.effective.attemptNo⟩ := by
      rw [hstanding]
      exact if_pos rfl
    refine h.of_turn hj (some { queued with out := true }) (fun j' => get_set _ _ _ _)
      (fun j' hj' => get_set_ne _ _ hj') (fun id hid => ?_) (fun q hq => ?_) ⟨_, hmine, nofun⟩
      (fun delivery hd => ?_) fun st hst hpending => ?_
    · rw [hstanding]
      exact if_neg hid
    · cases hq; exact ⟨rfl, (h.first j queued hj).2⟩
    · rw [get_set_self] at hd
      cases hd
      exact ⟨_, rfl, rfl, rfl⟩
    · rw [hmine] at hst
      cases hst
      exact ⟨_, rfl, .live _ rfl (get_set_self _ _ _) rfl⟩

theorem delivers (hout : queued.out = false) (now : Int) : (s.delivers config j queued now).Sound := by
  have hidle : s.work.deliveries.get j = none := by
    refine eq_none_iff_forall_not_mem.2 fun delivery hd => ?_
    obtain ⟨q, hq, hisout, -⟩ := h.delivered j delivery hd
    cases hj.symm.trans hq
    cases hout.symm.trans hisout
  have hnothing : s.work.deliveries.has j = false := by rw [Dict.has, hidle]; rfl
  obtain ⟨st, hst, hstatus⟩ := h.begun j queued hj
  have heffective : ({ queued.job with attemptNo := min 2 (queued.job.attemptNo + queued.retryCount) } : ScanJob) =
    queued.effective := rfl
  unfold ScanQueue.delivers ScanWork.delivers
  dsimp only
  rw [heffective]
  cases hclaim : s.work.db.claim queued.effective now with
  | none =>
    -- The scan is there, so that it may be asked for.
    obtain ⟨row, hrow, -⟩ := map_eq_some_iff.1 hst
    have hrow' : s.work.db.scans.get queued.effective.scanId = some row := hrow
    unfold ScanDb.claim at hclaim
    rw [hrow'] at hclaim
    dsimp only at hclaim
    split at hclaim
    · cases hclaim
    · split at hclaim
      · cases hclaim
      · split at hclaim <;> cases hclaim
  | some came =>
    obtain ⟨-, hturns⟩ := ScanDb.claim_spec hclaim
    obtain ⟨db, claim⟩ := came
    have hrefused (hne : claim ≠ .claimed) : ScanQueue.Sound { s with jobs := s.jobs.delete j } :=
      h.refused hj hout hidle hclaim hne
    cases claim with
    | claimed =>
      have hthere (phase : ScanPhase) :
          (s.work.deliveries.set j ⟨queued.effective, [], phase⟩).has j = true := by
        rw [Dict.has, get_set_self]; rfl
      dsimp only [map_some]
      rw [hthere, if_pos rfl]
      exact h.claimed hj hturns
    | terminal =>
      dsimp only [map_some] at hturns ⊢
      subst hturns
      rw [hnothing, if_neg Bool.false_ne_true]
      exact hrefused nofun
    | inProgress =>
      dsimp only [map_some] at hturns ⊢
      subst hturns
      rw [hnothing, if_neg Bool.false_ne_true]
      exact hrefused nofun

theorem settled {delivery : ScanDelivery} (hd : s.work.deliveries.get j = some delivery) (hout : queued.out = true)
    {status : ScanStatus} (hjob : delivery.job = queued.effective)
    (hsettles : s.work.db.Settles db delivery.job.scanId delivery.job.attemptNo status) {st : ScanStanding}
    (hst : db.standing queued.job.scanId = some st) (hpending : st.status.pending = true) :
    st = ⟨status, queued.effective.attemptNo⟩ := by
  rw [hsettles, hjob] at hst
  split at hst
  · exact (Option.some.inj hst).symm
  · next hnot =>
    cases h.attends hj hst hpending with
    | live _ _ _ hrunning =>
      rw [hrunning] at hst
      exact absurd ⟨rfl, hst⟩ hnot
    | vanished _ hnone _ _ => cases hd.symm.trans hnone
    | waits hwaits _ _ => cases hout.symm.trans hwaits

end

variable {out : List ScanNotice}

/-- An attempt takes a step. -/
theorem works {action : ScanAction} {work : ScanWork} (hattempt : action.attempt = some j)
    (hstep : s.work.step config action = .ok (work, out)) :
    ({ s with work := work }.answers j action.rejects : ScanQueue).Sound := by
  obtain ⟨delivery, hd, hmove⟩ := ScanWork.attempt_cases hattempt hstep
  obtain ⟨queued, hj, hout, hjob⟩ := h.delivered j delivery hd
  have hstays {delivery' : ScanDelivery} (hd' : work.deliveries.get j = some delivery') (rejects : Bool) :
      ({ s with work := work }.answers j rejects : ScanQueue) = { s with work := work } := by
    unfold ScanQueue.answers
    rw [Dict.has, hd']
    rfl
  have hends (hd' : work.deliveries.get j = none) (rejects : Bool) :
      ({ s with work := work }.answers j rejects : ScanQueue) =
        if rejects then ({ s with work := work } : ScanQueue).fails j queued
        else { work := work, jobs := s.jobs.delete j } := by
    unfold ScanQueue.answers
    rw [if_neg (by rw [Dict.has, hd']; exact Bool.false_ne_true)]
    rw [hj]
  have hbegun {db : ScanDb} {status : ScanStatus} (hstatus : status ≠ .accepted)
      (hsettles : s.work.db.Settles db delivery.job.scanId delivery.job.attemptNo status) :
      ∃ st, db.standing queued.job.scanId = some st ∧ st.status ≠ .accepted := by
    rw [hsettles]
    split
    · exact ⟨_, rfl, hstatus⟩
    · exact h.begun j queued hj
  have hscans {db : ScanDb} {status : ScanStatus}
      (hsettles : s.work.db.Settles db delivery.job.scanId delivery.job.attemptNo status) (id : String)
      (hid : id ≠ queued.job.scanId) : db.standing id = s.work.db.standing id := by
    rw [hsettles, if_neg]
    rintro ⟨hsame, -⟩
    rw [hjob] at hsame
    exact hid hsame
  have hkept (j' : Nat) : s.jobs.get j' = if j' = j then some queued else s.jobs.get j' := by
    split
    · next hj' => rw [hj', hj]
    · rfl
  have hcount := (h.first j queued hj).2
  generalize action.rejects = rejects at hmove ⊢
  cases hmove with
  | goes phase written hdeliveries hdb =>
    have hnow : work.deliveries.get j = some ⟨delivery.job, written, phase⟩ := by
      rw [hdeliveries, get_set_self]
    rw [hstays hnow]
    refine h.of_turn hj (some queued) hkept (fun j' hj' => ?_) (fun id _ => hdb id)
      (fun q hq => by cases hq; exact ⟨rfl, hcount⟩) (by rw [hdb]; exact h.begun j queued hj)
      (fun delivery' hd' => ?_) fun st hst hpending => ?_
    · rw [hdeliveries, get_set_ne _ _ hj']
    · cases hnow.symm.trans hd'
      exact ⟨queued, rfl, hout, hjob⟩
    · rw [hdb] at hst
      cases h.attends hj hst hpending with
      | live _ _ _ hrunning => exact ⟨queued, rfl, .live _ hout hnow hrunning⟩
      | vanished _ hnone _ _ => cases hd.symm.trans hnone
      | waits hwaits _ _ => cases hout.symm.trans hwaits
  | beats hdeliveries hdb =>
    rw [hstays (hdeliveries ▸ hd)]
    exact h.of_same rfl (fun _ => by rw [hdeliveries]) hdb
  | fenced hdeliveries hdb hover =>
    have hnow : work.deliveries.get j = none := by rw [hdeliveries, get_delete, if_pos rfl]
    rw [hends hnow, if_neg Bool.false_ne_true]
    refine h.of_turn hj none (fun j' => get_delete _ _ _) (fun j' hj' => ?_) (fun id _ => hdb id) nofun
      (by rw [hdb]; exact h.begun j queued hj) (fun delivery' hd' => ?_) fun st hst hpending => ?_
    · rw [hdeliveries, get_delete, if_neg hj']
    · cases hnow.symm.trans hd'
    · exfalso
      rw [hdb] at hst
      cases h.attends hj hst hpending with
      | live _ _ _ hrunning =>
        rw [hjob, ← hrunning] at hover
        exact hover hst
      | vanished _ hnone _ _ => cases hd.symm.trans hnone
      | waits hwaits _ _ => cases hout.symm.trans hwaits
  | commits status answered hdeliveries hterminal hsettles =>
    have hstatus : status ≠ .accepted := by
      rintro rfl
      cases hterminal
    have hover {st : ScanStanding} (hst : work.db.standing queued.job.scanId = some st)
        (hpending : st.status.pending = true) : False := by
      rw [h.settled hj hd hout hjob hsettles hst hpending, ScanStatus.pending_of_terminal hterminal] at hpending
      cases hpending
    cases answered with
    | true =>
      have hnow : work.deliveries.get j = none := by rw [hdeliveries, if_pos rfl, get_delete, if_pos rfl]
      rw [hends hnow, if_neg Bool.false_ne_true]
      refine h.of_turn hj none (fun j' => get_delete _ _ _) (fun j' hj' => ?_) (hscans hsettles) nofun
        (hbegun hstatus hsettles) (fun delivery' hd' => ?_) fun st hst hpending => (hover hst hpending).elim
      · rw [hdeliveries, if_pos rfl, get_delete, if_neg hj']
      · cases hnow.symm.trans hd'
    | false =>
      have hnow : work.deliveries.get j = some { delivery with phase := .failing (operationalCode none) } := by
        rw [hdeliveries, if_neg Bool.false_ne_true, get_set_self]
      rw [hstays hnow]
      refine h.of_turn hj (some queued) hkept (fun j' hj' => ?_) (hscans hsettles)
        (fun q hq => by cases hq; exact ⟨rfl, hcount⟩) (hbegun hstatus hsettles) (fun delivery' hd' => ?_)
        fun st hst hpending => (hover hst hpending).elim
      · rw [hdeliveries, if_neg Bool.false_ne_true, get_set_ne _ _ hj']
      · cases hnow.symm.trans hd'
        exact ⟨queued, rfl, hout, hjob⟩
  | fails hdeliveries hsettles =>
    have hnow : work.deliveries.get j = none := by rw [hdeliveries, get_delete, if_pos rfl]
    rw [hends hnow, if_pos rfl]
    refine h.of_turn hj queued.retried (fun j' => ScanQueue.fails_jobs j') (fun j' hj' => ?_)
      (fun id hid => ?_) (fun q hq => ?_) ?_ (fun delivery' hd' => ?_) fun st hst hpending => ?_
    · rw [ScanQueue.fails_work, hdeliveries, get_delete, if_neg hj']
    · rw [ScanQueue.fails_work]
      exact hscans hsettles id hid
    · obtain ⟨-, rfl⟩ := QueuedScan.of_retried hq
      exact ⟨rfl, Nat.le_refl 1⟩
    · rw [ScanQueue.fails_work]
      refine hbegun ?_ hsettles
      split <;> nofun
    · rw [ScanQueue.fails_work] at hd'
      cases hnow.symm.trans hd'
    · rw [ScanQueue.fails_work] at hst
      have hnew := h.settled hj hd hout hjob hsettles hst hpending
      rcases h.effective hj with ⟨hzero, heffective⟩ | ⟨-, heffective⟩
      · refine ⟨{ queued with retryCount := 1, out := false }, ?_, .waits rfl ?_ nofun⟩
        · rw [QueuedScan.retried, if_pos (by omega), hzero]
        · rw [hnew, heffective]
      · rw [hnew, hjob, heffective] at hpending
        cases hpending

theorem vanishes (hstays : s.LastAttemptStays (.vanishes j)) : ScanQueue.Sound { s with work := s.work.ends j } := by
  cases hd : s.work.deliveries.get j with
  | none =>
    refine h.of_same rfl (fun j' => (get_delete _ _ _).trans ?_) fun _ => rfl
    split
    · next hj' => rw [hj', hd]
    · rfl
  | some delivery =>
    obtain ⟨queued, hj, hout, hjob⟩ := h.delivered j delivery hd
    have hnow : (s.work.deliveries.delete j).get j = none := by rw [get_delete, if_pos rfl]
    refine h.of_turn hj (some queued) (fun j' => ?_) (fun j' hj' => ?_) (fun _ _ => rfl)
      (fun q hq => by cases hq; exact ⟨rfl, (h.first j queued hj).2⟩) (h.begun j queued hj)
      (fun delivery' hd' => ?_) fun st hst hpending => ?_
    · split
      · next hj' => rw [hj', hj]
      · rfl
    · exact (get_delete _ _ _).trans (if_neg hj')
    · cases hnow.symm.trans hd'
    · refine ⟨queued, rfl, ?_⟩
      cases h.attends hj hst hpending with
      | live _ _ _ hrunning =>
        rcases h.effective hj with ⟨hzero, heffective⟩ | ⟨-, heffective⟩
        · exact .vanished hout hnow hzero (by rw [hrunning, heffective])
        · exfalso
          refine hstays delivery hd ?_ ?_
          · rw [hjob, heffective]
          · rw [hjob, ← hrunning]
            exact hst
      | vanished _ hnone _ _ => cases hd.symm.trans hnone
      | waits hwaits _ _ => cases hout.symm.trans hwaits

theorem redelivers (hj : s.jobs.get j = some queued) (hout : queued.out = true)
    (hnone : s.work.deliveries.get j = none) : (s.fails j queued).Sound := by
  refine h.of_turn hj queued.retried (fun j' => ScanQueue.fails_jobs j') (fun j' _ => by rw [ScanQueue.fails_work])
    (fun id _ => by rw [ScanQueue.fails_work]) (fun q hq => ?_) ?_ (fun delivery hd => ?_)
    fun st hst hpending => ?_
  · obtain ⟨-, rfl⟩ := QueuedScan.of_retried hq
    exact ⟨rfl, Nat.le_refl 1⟩
  · rw [ScanQueue.fails_work]
    exact h.begun j queued hj
  · rw [ScanQueue.fails_work] at hd
    cases hnone.symm.trans hd
  · rw [ScanQueue.fails_work] at hst
    cases h.attends hj hst hpending with
    | live _ _ hd _ => cases hnone.symm.trans hd
    | vanished _ _ hzero hattempt =>
      refine ⟨{ queued with retryCount := 1, out := false }, ?_, .waits rfl hattempt nofun⟩
      rw [QueuedScan.retried, if_pos (by omega), hzero]
    | waits hwaits _ _ => cases hout.symm.trans hwaits

theorem step {action : ScanQueueAction} (hstays : s.LastAttemptStays action)
    (hstep : s.step config action = .ok (s', out)) : s'.Sound := by
  cases action with
  | accepts scanId => cases hstep; exact h.accepts scanId
  | enqueues scanId j url segment t =>
    simp only [ScanQueue.step] at hstep
    split at hstep
    · cases hstep
    · next row hrow =>
      split at hstep
      · cases hstep
      · next hnot =>
        cases hstep
        rw [not_or, Classical.not_not] at hnot
        have hnone : s.jobs.get j = none := by simpa [Dict.has] using hnot.2
        exact h.enqueues hrow hnot.1 hnone _ rfl rfl t
  | delivers j now =>
    simp only [ScanQueue.step] at hstep
    split at hstep
    · cases hstep
    · next queued hj =>
      split at hstep
      · cases hstep
      · next hout => cases hstep; exact h.delivers hj (by simpa using hout) now
  | works action =>
    simp only [ScanQueue.step] at hstep
    split at hstep
    · cases hstep
    · next j hattempt =>
      obtain ⟨came, hwork, heq⟩ := Except.map_eq_ok_iff.1 hstep
      cases heq
      exact h.works hattempt hwork
  | vanishes j => cases hstep; exact h.vanishes hstays
  | redelivers j =>
    simp only [ScanQueue.step] at hstep
    split at hstep
    · cases hstep
    · next queued hj =>
      split at hstep
      · cases hstep
      · next hnot =>
        cases hstep
        simp only [Bool.or_eq_true, Bool.not_eq_true', not_or, Bool.not_eq_false] at hnot
        exact h.redelivers hj hnot.1 (by simpa [Dict.has] using hnot.2)
  | forgets cacheKey => cases hstep; exact h.of_same rfl (fun _ => rfl) fun _ => rfl
  | invalidates cacheKey t =>
    cases hstep
    refine h.of_same rfl (fun _ => rfl) fun id => ?_
    unfold ScanDb.standing
    rw [(s.work.db.invalidate_scans cacheKey t).1]

end

end ScanQueue.Sound

/-! ## No scan is left behind -/

/-- A scan that somebody takes care of: a live attempt is working on it, or a job for it is still to be delivered. -/
inductive ScanQueue.Attended (s : ScanQueue) (scanId : String) : Prop
  | working (j : Nat) (delivery : ScanDelivery) (hd : s.work.deliveries.get j = some delivery)
      (hscan : delivery.job.scanId = scanId)
      (hunder : s.work.db.standing scanId = some ⟨.running, delivery.job.attemptNo⟩)
  | coming (j : Nat) (queued : QueuedScan) (hj : s.jobs.get j = some queued) (hscan : queued.job.scanId = scanId)
      (hcomes : queued.out = false ∨ s.work.deliveries.get j = none ∧ queued.retryCount < 1)

/-- The queue has a job for every scan that is queued or running, and somebody takes care of it. -/
def ScanQueue.NoneLeft (s : ScanQueue) : Prop :=
  ∀ scanId st, s.work.db.standing scanId = some st → st.status.pending = true →
    s.Attended scanId ∧ ∃ j queued, s.jobs.get j = some queued ∧ queued.job.scanId = scanId

theorem ScanQueue.Sound.noneLeft {s : ScanQueue} (h : s.Sound) : s.NoneLeft := by
  intro scanId st hst hpending
  obtain ⟨j, queued, hj, hscan, hattends⟩ := h.attended scanId st hst hpending
  refine ⟨?_, j, queued, hj, hscan⟩
  cases hattends with
  | live delivery hout hd hrunning =>
    obtain ⟨queued', hj', -, hjob⟩ := h.delivered j delivery hd
    cases hj'.symm.trans hj
    exact .working j delivery hd (by rw [hjob]; exact hscan) (by rw [hst, hrunning, hjob])
  | vanished hout hd hfirst _ => exact .coming j queued hj hscan (.inr ⟨hd, by omega⟩)
  | waits hout _ _ => exact .coming j queued hj hscan (.inl hout)

/-- **No scan is left behind** in a run in which the last attempt never vanishes from a scan it still has. -/
theorem no_scan_left_behind (config : ScanConfig) (actions : List ScanQueueAction)
    (h : (scanQueueMachine config).Meets ScanQueue.LastAttemptStays .empty actions) :
    ((scanQueueMachine config).run .empty actions).NoneLeft :=
  ((scanQueueMachine config).run_induction_meeting (P := ScanQueue.Sound)
    (fun hs hstays hstep => hs.step hstays hstep) .empty actions h).noneLeft

/-- A scan whose first worker vanishes, up to the second. -/
def twiceDelivered : List ScanQueueAction :=
  [.accepts "scan", .enqueues "scan" 0 "https://example.com/" .owner 0, .delivers 0 0, .vanishes 0, .redelivers 0,
    .delivers 0 60000]

/-- The second attempt at the scan is under way. -/
theorem second_attempt_attended :
    ((scanQueueMachine sampleScanConfig).run .empty twiceDelivered).NoneLeft :=
  no_scan_left_behind sampleScanConfig twiceDelivered
    ⟨trivial, trivial, trivial, fun delivery hd hlast => by cases hd; exact absurd hlast (by decide), trivial, trivial,
      trivial⟩

/-- Where the second worker vanishes too, the scan stays running, and the queue has nothing more for it. -/
theorem left_running : ¬ ∀ (config : ScanConfig) (actions : List ScanQueueAction),
    ((scanQueueMachine config).run .empty actions).NoneLeft := by
  intro h
  obtain ⟨-, j, queued, hj, -⟩ := h sampleScanConfig (twiceDelivered ++ [.vanishes 0, .redelivers 0]) "scan"
    ⟨.running, 2⟩ (by rfl) rfl
  have hnone : ((scanQueueMachine sampleScanConfig).run .empty
      (twiceDelivered ++ [.vanishes 0, .redelivers 0])).jobs = .empty := by rfl
  rw [hnone] at hj
  cases hj

end Coinslot
