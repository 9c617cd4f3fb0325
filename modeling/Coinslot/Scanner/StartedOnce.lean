import Coinslot.Scanner.WorkerSteps

/-!
# A paid run is started once, and its result committed once

Only the claim of an observation that is queued goes on to start a run, and no observation is queued again.
So whoever may still start the run of an observation (`mayStart`) is one worker at most, and starting it
uses that up. In the same way an observation ends once (`mayEnd`), and from then on no worker changes where
it stands, what it used or what was found.
-/

namespace Coinslot

open List Standing

section
variable {Doc : Type} {config : BrowserJobConfig} {s : BrowserFleet Doc} {action : FleetAction Doc}

/-! ## What is left to do -/

/-- Whether the run of an observation that stands so is still to be started by whoever claims it first. -/
def Standing.unclaimed : Option Standing → Nat
  | none => 1
  | some st => if st.status = .queued then 1 else 0

/-- Whether an observation that stands so has still to end. -/
def Standing.unsettled : Option Standing → Nat
  | none => 1
  | some st => if st.status.terminal = true then 0 else 1

theorem Standing.unsettled_of_open {st : Standing} (h : st.status.terminal = false) :
    unsettled (some st) = 1 :=
  if_neg (by rw [h]; decide)

theorem Standing.unsettled_of_over {st : Standing} (h : st.status.terminal = true) :
    unsettled (some st) = 0 :=
  if_pos h

/-- A worker in such a phase is on its way to start a run. -/
def WorkerPhase.beforeStart : WorkerPhase Doc → Bool
  | .reserving | .starting => true
  | _ => false

theorem ObservationClaim.goesOn_beforeStart (observation : ObservationClaim)
    (h : (observation.goesOn : WorkerPhase Doc).beforeStart = true) : observation.resuming = false := by
  unfold goesOn at h
  split at h
  · cases h
  · split at h
    · cases h
    · next hresuming => exact Bool.eq_false_iff.2 hresuming

def BrowserWorker.mayStart (id : String) (worker : BrowserWorker Doc) : Nat :=
  if worker.observation.id = id ∧ worker.phase.beforeStart = true then 1 else 0

namespace BrowserFleet

/-- How often the run of an observation may still be started: by whoever claims it first, or by a worker
that is on its way. -/
def mayStart (s : BrowserFleet Doc) (id : String) : Nat :=
  Standing.unclaimed (s.db.standing id) + s.workers.total (BrowserWorker.mayStart id)

/-- How often an observation may still end. -/
def mayEnd (s : BrowserFleet Doc) (id : String) : Nat := Standing.unsettled (s.db.standing id)

variable {s s' : BrowserFleet Doc} {w : Nat} {worker : BrowserWorker Doc} {id : String}

theorem total_moves (f : BrowserWorker Doc → Nat) (hw : s.workers.get w = some worker)
    (db : ObservationDb Doc) (phase : WorkerPhase Doc) :
    ({ s with db := db }.moves w worker phase).workers.total f + f worker =
      s.workers.total f + f { worker with phase := phase } := by
  have h := s.workers.total_set f w { worker with phase := phase }
  rwa [Dict.share, hw] at h

variable {db : ObservationDb Doc}

theorem mayStart_moves (hw : s.workers.get w = some worker)
    (hdb : unclaimed (db.standing id) ≤ unclaimed (s.db.standing id))
    {phase : WorkerPhase Doc} (hphase : phase.beforeStart = true → worker.phase.beforeStart = true) :
    ({ s with db := db }.moves w worker phase).mayStart id ≤ s.mayStart id := by
  have htotal := total_moves (BrowserWorker.mayStart id) hw db phase
  have hle : BrowserWorker.mayStart id { worker with phase := phase } ≤ worker.mayStart id := by
    unfold BrowserWorker.mayStart
    split
    · next h => rw [if_pos ⟨h.1, hphase h.2⟩]
    · exact Nat.zero_le _
  have hsame : ({ s with db := db }.moves w worker phase).db = db := rfl
  unfold mayStart
  rw [hsame]
  omega

theorem mayStart_ends (hdb : unclaimed (db.standing id) ≤ unclaimed (s.db.standing id)) :
    ({ s with db := db }.ends w).mayStart id ≤ s.mayStart id := by
  have htotal := s.workers.total_delete (BrowserWorker.mayStart id) w
  have hsame : ({ s with db := db }.ends w).db = db := rfl
  unfold mayStart
  simp only [ends]
  omega

theorem mayStart_db (hdb : unclaimed (db.standing id) ≤ unclaimed (s.db.standing id)) :
    ({ s with db := db } : BrowserFleet Doc).mayStart id ≤ s.mayStart id :=
  Nat.add_le_add_right hdb _

theorem mayStart_enters (hw : s.workers.get w = none) {tokens : List String}
    (observation : ObservationClaim) (phase : WorkerPhase Doc)
    (h : unclaimed (db.standing id) + BrowserWorker.mayStart id ⟨observation, phase⟩ ≤ unclaimed (s.db.standing id)) :
    (({ s with db := db, tokens := tokens } : BrowserFleet Doc).moves w ⟨observation, .finding⟩
      phase).mayStart id ≤ s.mayStart id := by
  have htotal := s.workers.total_set (BrowserWorker.mayStart id) w ⟨observation, phase⟩
  unfold mayStart
  simp only [moves]
  omega

theorem mayStart_claims (hw : s.workers.get w = none) (job : BrowserObservationJob) (now : Int)
    (leaseToken : String) : (s.claims config w job now leaseToken).mayStart id ≤ s.mayStart id := by
  have h := (s.db.claim_spec job now config.leaseMs leaseToken).2
  unfold claims
  dsimp only
  split
  · next observation hclaimed =>
    rw [hclaimed] at h
    obtain ⟨hid, -, ⟨st, hst, hopen, hresuming⟩, hset⟩ := h
    apply mayStart_enters hw
    rw [hset]
    split
    · next hj =>
      have hzero : unclaimed (some ⟨.starting, some leaseToken⟩) = 0 := rfl
      rw [hzero, Nat.zero_add, hj, hst]
      unfold BrowserWorker.mayStart unclaimed
      split
      · next hstarts =>
        have hnew := observation.goesOn_beforeStart hstarts.2
        have hqueued : st.status = .queued := by simpa [hnew] using hresuming
        simp only [if_pos hqueued, Nat.le_refl]
      · exact Nat.zero_le _
    · next hj => rw [BrowserWorker.mayStart, if_neg (by rintro ⟨h, -⟩; exact hj (h.symm.trans hid)), Nat.add_zero]
  · next hnot =>
    have hsame : (s.db.claim job now config.leaseMs leaseToken).1 = s.db := by
      revert h
      split
      · next observation hclaimed => exact absurd hclaimed (hnot observation)
      · exact fun h => h
    rw [hsame]
    exact Nat.le_refl _

theorem unclaimed_enqueue (db : ObservationDb Doc) (new operationId actorId actorBuild : String)
    (t : Int) : unclaimed ((db.enqueue new operationId actorId actorBuild t).standing id) =
      unclaimed (db.standing id) := by
  rw [(db.enqueue_spec new operationId actorId actorBuild t).2]
  split
  · next h => rw [h.1, h.2]; rfl
  · rfl

theorem unclaimed_attachRun (id : String) (db : ObservationDb Doc) (of leaseToken runId : String)
    (t leaseMs : Int) : unclaimed ((db.attachRun of leaseToken runId t leaseMs).1.standing id) ≤
      unclaimed (db.standing id) := by
  have h := (db.attachRun_spec of leaseToken runId t leaseMs).2
  split at h
  · rw [h.2]
    split
    · exact Nat.zero_le _
    · exact Nat.le_refl _
  · rw [h]
  · rw [h.1]

theorem unclaimed_over {db' : ObservationDb Doc} {of : String} {ending : ObservationStatus}
    (hover : ending.terminal = true)
    (hset : ∀ other, db'.standing other = if other = of then some ⟨ending, none⟩ else db.standing other) :
    unclaimed (db'.standing id) ≤ unclaimed (db.standing id) := by
  rw [hset]
  split
  · rw [unclaimed, if_neg (by rintro rfl; cases hover)]
    exact Nat.zero_le _
  · exact Nat.le_refl _

section

variable (hw : s.workers.get w = some worker)
include hw

theorem mayStart_starts (hphase : worker.phase = .starting) (answer : Option String) :
    (s.starts w worker answer).2.count (.started id) + (s.starts w worker answer).1.mayStart id ≤ s.mayStart id := by
  have hcount : [FleetNotice.started worker.observation.id].count (.started id) = worker.mayStart id := by
    by_cases hid : worker.observation.id = id
    · simp [BrowserWorker.mayStart, WorkerPhase.beforeStart, hphase, hid]
    · simp [BrowserWorker.mayStart, hid]
  have hends := s.workers.total_delete (BrowserWorker.mayStart id) w
  rw [Dict.share, hw, Option.elim_some] at hends
  unfold starts
  split
  · next runId =>
    have hmoves := total_moves (BrowserWorker.mayStart id) hw s.db (.attaching runId)
    have hattaching : BrowserWorker.mayStart id
        (⟨worker.observation, .attaching runId⟩ : BrowserWorker Doc) = 0 :=
      if_neg (by rintro ⟨-, h⟩; cases h)
    unfold mayStart moves
    simp only [moves] at hmoves ⊢
    omega
  · unfold mayStart ends
    dsimp only
    omega

theorem mayStart_aborts (runId : String) {phase : WorkerPhase Doc}
    (hphase : phase.beforeStart = true → worker.phase.beforeStart = true) :
    (s.aborts w worker runId phase).2.count (.started id) +
      (s.aborts w worker runId phase).1.mayStart id ≤ s.mayStart id := by
  unfold aborts
  rw [count_eq_zero.2 (by simp), Nat.zero_add]
  exact mayStart_moves hw (Nat.le_refl _) hphase

theorem mayStart_cleans (runId : String) (cleaned last : Bool) :
    (s.cleans w worker runId cleaned last).2.count (.started id) +
      (s.cleans w worker runId cleaned last).1.mayStart id ≤ s.mayStart id := by
  unfold cleans
  rw [count_eq_zero.2 (by simp), Nat.zero_add]
  split
  · exact mayStart_moves hw (Nat.le_refl _) (by rintro ⟨⟩)
  · exact mayStart_ends (Nat.le_refl _)

end

variable {came : BrowserFleet Doc × List FleetNotice}

/-- **Starts.** A step starts the run of an observation no more often than it was still to be started. -/
theorem performs_mayStart (h : s.Performs config action came) (id : String) :
    came.2.count (.started id) + came.1.mayStart id ≤ s.mayStart id := by
  cases h with
  | enqueues new operationId actorId actorBuild t =>
    rw [count_nil, Nat.zero_add]
    exact mayStart_db (unclaimed_enqueue _ _ _ _ _ _).le
  | claims job now hw _ =>
    rw [count_nil, Nat.zero_add]
    exact mayStart_claims hw job now _
  | finds answer now hw _ =>
    rw [count_nil, Nat.zero_add]
    unfold finds
    split
    · exact mayStart_moves hw (Nat.le_refl _) (by rintro ⟨⟩)
    · split
      · exact mayStart_moves hw (Nat.le_refl _) (by rintro ⟨⟩)
      · exact mayStart_ends (Nat.le_refl _)
  | @reserves w worker now hw hphase =>
    have hdb := ((s.db.reserveDailyBudget_spec worker.observation.id worker.observation.leaseToken
      config.maxRunUsd config.dailyBudgetUsd now).2 id)
    rw [count_nil, Nat.zero_add]
    unfold reserves
    dsimp only
    split
    · exact mayStart_moves hw (by rw [hdb]) (fun _ => by rw [hphase]; rfl)
    · exact mayStart_moves hw (by rw [hdb]) (by rintro ⟨⟩)
    · exact mayStart_ends (by rw [hdb])
  | @starts w worker answer hw hphase => exact mayStart_starts hw hphase answer
  | @attaches w worker runId now hw _ =>
    have hdb := unclaimed_attachRun id s.db worker.observation.id worker.observation.leaseToken
      runId now config.leaseMs
    rw [count_nil, Nat.zero_add]
    unfold attaches
    dsimp only
    split
    · exact mayStart_moves hw hdb (by rintro ⟨⟩)
    · exact mayStart_ends hdb
    · exact mayStart_moves hw hdb (by rintro ⟨⟩)
  | abortsRefused hw _ => exact mayStart_aborts hw _ (by rintro ⟨⟩)
  | abortsGoing hw _ => exact mayStart_aborts hw _ (by rintro ⟨⟩)
  | abortsThrown hw _ => exact mayStart_aborts hw _ (by rintro ⟨⟩)
  | cleansRefused cleaned hw _ => exact mayStart_cleans hw _ cleaned false
  | cleans cleaned hw _ => exact mayStart_cleans hw _ cleaned true
  | waits answer hw _ =>
    rw [count_nil, Nat.zero_add]
    unfold waits
    split
    · exact mayStart_moves hw (Nat.le_refl _) (by rintro ⟨⟩)
    · exact mayStart_moves hw (Nat.le_refl _) (by rintro ⟨⟩)
  | @checks w worker runId status usage now hw _ =>
    have hdb := (s.db.heartbeat_spec worker.observation.id worker.observation.leaseToken now config.leaseMs).2.1 id
    rw [count_nil, Nat.zero_add]
    unfold checks
    dsimp only
    split
    · exact mayStart_ends (by rw [hdb])
    · split
      · exact mayStart_moves hw (by rw [hdb]) (by rintro ⟨⟩)
      · split
        · exact mayStart_moves hw (by rw [hdb]) (by rintro ⟨⟩)
        · exact mayStart_moves hw (by rw [hdb]) (by rintro ⟨⟩)
  | fetches answer hw _ =>
    rw [count_nil, Nat.zero_add]
    unfold fetches
    split
    · exact mayStart_moves hw (Nat.le_refl _) (by rintro ⟨⟩)
    · split
      · exact mayStart_moves hw (Nat.le_refl _) (by rintro ⟨⟩)
      · split
        · exact mayStart_moves hw (Nat.le_refl _) (by rintro ⟨⟩)
        · exact mayStart_moves hw (Nat.le_refl _) (by rintro ⟨⟩)
  | @completes w worker runId output usage now hw _ =>
    have hdb := (s.db.complete_spec worker.observation.id worker.observation.leaseToken output usage now).2
    unfold completes
    dsimp only
    split
    · next hdone =>
      rw [if_pos hdone] at hdb
      obtain ⟨-, ending, hover, hset⟩ := hdb
      rw [count_eq_zero.2 (by simp), Nat.zero_add]
      exact mayStart_moves hw (unclaimed_over hover hset) (by rintro ⟨⟩)
    · next hdone =>
      rw [if_neg hdone] at hdb
      rw [count_nil, Nat.zero_add]
      exact mayStart_ends (by rw [hdb])
  | @givesUp w worker runId status failureCode usage now hw _ =>
    have hdb := (s.db.markTerminal_spec worker.observation.id worker.observation.leaseToken status
      failureCode usage now).2
    unfold givesUp
    dsimp only
    split
    · next hdone =>
      rw [if_pos hdone] at hdb
      obtain ⟨-, ending, hover, hset⟩ := hdb
      rw [count_eq_zero.2 (by simp), Nat.zero_add]
      split
      · exact mayStart_moves hw (unclaimed_over hover hset) (by rintro ⟨⟩)
      · exact mayStart_ends (unclaimed_over hover hset)
    · next hdone =>
      rw [if_neg hdone] at hdb
      rw [count_nil, Nat.zero_add]
      exact mayStart_ends (by rw [hdb])
  | @stores w worker runId now hw _ =>
    have hdb := (s.db.markStorageCleaned_spec worker.observation.id runId now).2 id
    rw [count_nil, Nat.zero_add]
    exact mayStart_ends (by rw [hdb])
  | @beats w worker now hw =>
    have hdb := (s.db.heartbeat_spec worker.observation.id worker.observation.leaseToken now config.leaseMs).2.1 id
    rw [count_nil, Nat.zero_add]
    exact mayStart_db (by rw [hdb])
  | dies w =>
    rw [count_nil, Nat.zero_add]
    exact mayStart_ends (Nat.le_refl _)
  | reconciles of runId usage t =>
    rw [count_nil, Nat.zero_add]
    exact mayStart_db (by rw [s.db.reconcileUsage_spec])
  | settles of t =>
    rw [count_nil, Nat.zero_add]
    exact mayStart_db (by rw [s.db.settleUsageConservatively_spec])
  | sweeps of runId t =>
    rw [count_nil, Nat.zero_add]
    exact mayStart_db (by rw [(s.db.markStorageCleaned_spec of runId t).2])

/-! ## Ends -/

/-- **Ends.** A step ends an observation no more often than it had still to end. -/
theorem Happened.mayEnd {event : StandingEvent} (h : s.Happened action came event) (id : String) :
    came.2.count (.settled id) + came.1.mayEnd id ≤ s.mayEnd id := by
  rw [h.heard]
  unfold BrowserFleet.mayEnd
  cases h.turns with
  | still hsame =>
    rw [if_neg (by rintro ⟨⟩), hsame]
    omega
  | queued hnone hset =>
    rw [if_neg (by rintro ⟨⟩), hset]
    split
    · next hid => rw [hid, hnone]; decide
    · omega
  | taken hwas hopen hset =>
    rw [if_neg (by rintro ⟨⟩), hset]
    split
    · next hid =>
      rw [hid, hwas, unsettled_of_open hopen]
      exact Nat.le_refl _
    · omega
  | attached hwas hset =>
    rw [if_neg (by rintro ⟨⟩), hset]
    split
    · next hid =>
      rw [hid, hwas]
      exact Nat.le_refl _
    · omega
  | @ended of st ending hwas hopen hover hset =>
    rw [hset]
    by_cases hid : id = of
    · rw [hid, if_pos rfl, if_pos rfl, hwas, unsettled_of_open hopen, unsettled_of_over hover]
    · rw [if_neg (by rintro ⟨⟩; exact hid rfl), if_neg hid]
      omega

end BrowserFleet

/-! ## Runs -/

/-- **A paid run is started once, and its result committed once.** However workers interleave, whatever the
provider answers and whenever they die or lose their leases, the run of an observation is started at most
once, and it is committed or given up at most once; and no action, but the reconciliation of what was used,
changes what an observation that is over came to. -/
theorem started_once_settled_once (config : BrowserJobConfig) (id : String)
    (actions : List (FleetAction Doc)) :
    (fleetMachine config).tally (fun _ _ came => came.2.count (.started id)) .empty actions ≤ 1 ∧
    (fleetMachine config).tally (fun _ _ came => came.2.count (.settled id)) .empty actions ≤ 1 ∧
    ∀ action came, (fleetRun config actions).step config action = .ok came →
      action.reconciling = false → (fleetRun config actions).db.KeepsSettled came.1.db := by
  refine ⟨?_, ?_, fun action came h haction => ?_⟩
  · have h := (fleetMachine config).tally_spends (fun s => s.mayStart id) (P := fun _ => True)
      (s := .empty) (f := fun _ _ came => came.2.count (.started id)) (fun _ _ => trivial)
      (fun _ hr => BrowserFleet.performs_mayStart (BrowserFleet.step_performs hr) id) trivial actions
    exact le_trans (Nat.le_add_right _ _) h
  · have h := (fleetMachine config).tally_spends (fun s => s.mayEnd id) (P := fun _ => True)
      (s := .empty) (f := fun _ _ came => came.2.count (.settled id)) (fun _ _ => trivial)
      (fun _ hr => ?_) trivial actions
    · exact le_trans (Nat.le_add_right _ _) h
    · obtain ⟨event, hhappened⟩ := BrowserFleet.performs_happened (BrowserFleet.step_performs hr)
      exact hhappened.mayEnd id
  · obtain ⟨event, hhappened⟩ := BrowserFleet.performs_happened (BrowserFleet.step_performs h)
    exact hhappened.kept haction

end

end Coinslot
