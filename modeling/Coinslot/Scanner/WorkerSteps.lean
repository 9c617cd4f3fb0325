import Coinslot.Scanner.Leases

/-!
# Steps of the workers

An action of the workers that is accepted performs one of the steps of `Performs`. Whichever it is, it does
one thing to where observations stand (`Happened`): it queues an observation, takes a lease on one, attaches
a run, ends one, or leaves them where they are.
-/

namespace Coinslot

open List

section
variable {Doc : Type} {config : BrowserJobConfig} {s : BrowserFleet Doc} {action : FleetAction Doc}

/-! ## The step, by cases -/

/-- What a step does. -/
inductive BrowserFleet.Performs (config : BrowserJobConfig) (s : BrowserFleet Doc) :
    FleetAction Doc → BrowserFleet Doc × List FleetNotice → Prop
  | enqueues (id operationId actorId actorBuild : String) (t : Int) :
      Performs config s (.enqueues id operationId actorId actorBuild t)
        ({ s with db := s.db.enqueue id operationId actorId actorBuild t }, [])
  | claims {w : Nat} {leaseToken : String} (job : BrowserObservationJob) (now : Int) :
      s.workers.get w = none → leaseToken ∉ s.tokens →
      Performs config s (.claims w job now leaseToken) (s.claims config w job now leaseToken, [])
  | finds {w : Nat} {worker : BrowserWorker Doc} (answer : Except Unit (Option String)) (now : Int) :
      s.workers.get w = some worker → worker.phase = .finding →
      Performs config s (.finds w answer now) (s.finds w worker answer now, [])
  | reserves {w : Nat} {worker : BrowserWorker Doc} (now : Int) :
      s.workers.get w = some worker → worker.phase = .reserving →
      Performs config s (.reserves w now) (s.reserves config w worker now, [])
  | starts {w : Nat} {worker : BrowserWorker Doc} (answer : Option String) :
      s.workers.get w = some worker → worker.phase = .starting →
      Performs config s (.starts w answer) (s.starts w worker answer)
  | attaches {w : Nat} {worker : BrowserWorker Doc} {runId : String} (now : Int) :
      s.workers.get w = some worker → worker.phase = .attaching runId →
      Performs config s (.attaches w now) (s.attaches config w worker runId now, [])
  | abortsRefused {w : Nat} {worker : BrowserWorker Doc} {runId : String} :
      s.workers.get w = some worker → worker.phase = .refusing runId →
      Performs config s (.aborts w) (s.aborts w worker runId (.clearing runId))
  | abortsGoing {w : Nat} {worker : BrowserWorker Doc} {runId : String} {usage : Option Rat} :
      s.workers.get w = some worker → worker.phase = .timingOut runId usage →
      Performs config s (.aborts w) (s.aborts w worker runId
        (.givingUp (some runId) .failed "apify_timeout" (some (max (usage.getD 0) config.maxRunUsd))))
  | abortsThrown {w : Nat} {worker : BrowserWorker Doc} {runId failureCode : String}
      {usage : Option Rat} : s.workers.get w = some worker →
      worker.phase = .aborting runId failureCode usage →
      Performs config s (.aborts w)
        (s.aborts w worker runId (.givingUp (some runId) .failed failureCode usage))
  | cleansRefused {w : Nat} {worker : BrowserWorker Doc} {runId : String} (cleaned : Bool) :
      s.workers.get w = some worker → worker.phase = .clearing runId →
      Performs config s (.cleans w cleaned) (s.cleans w worker runId cleaned false)
  | cleans {w : Nat} {worker : BrowserWorker Doc} {runId : String} (cleaned : Bool) :
      s.workers.get w = some worker → worker.phase = .cleaning runId →
      Performs config s (.cleans w cleaned) (s.cleans w worker runId cleaned true)
  | waits {w : Nat} {worker : BrowserWorker Doc} {runId : String}
      (answer : Except (Option String) (String × Option Rat)) :
      s.workers.get w = some worker → worker.phase = .waiting runId →
      Performs config s (.waits w answer) (s.waits w worker runId answer, [])
  | checks {w : Nat} {worker : BrowserWorker Doc} {runId status : String} {usage : Option Rat}
      (now : Int) : s.workers.get w = some worker → worker.phase = .checking runId status usage →
      Performs config s (.checks w now) (s.checks config w worker runId status usage now, [])
  | fetches {w : Nat} {worker : BrowserWorker Doc} {runId : String} {usage : Option Rat}
      (answer : Except (Option String) (BrowserOutput Doc × Bool)) :
      s.workers.get w = some worker → worker.phase = .fetching runId usage →
      Performs config s (.fetches w answer) (s.fetches w worker runId usage answer, [])
  | completes {w : Nat} {worker : BrowserWorker Doc} {runId : String} {output : BrowserOutput Doc}
      {usage : Option Rat} (now : Int) : s.workers.get w = some worker →
      worker.phase = .completing runId output usage →
      Performs config s (.completes w now) (s.completes w worker runId output usage now)
  | givesUp {w : Nat} {worker : BrowserWorker Doc} {runId : Option String}
      {status : ObservationDb.GivenUp} {failureCode : String} {usage : Option Rat} (now : Int) :
      s.workers.get w = some worker → worker.phase = .givingUp runId status failureCode usage →
      Performs config s (.givesUp w now) (s.givesUp w worker runId status failureCode usage now)
  | stores {w : Nat} {worker : BrowserWorker Doc} {runId : String} (now : Int) :
      s.workers.get w = some worker → worker.phase = .storing runId →
      Performs config s (.stores w now) (s.stores w worker runId now, [])
  | beats {w : Nat} {worker : BrowserWorker Doc} (now : Int) : s.workers.get w = some worker →
      Performs config s (.beats w now) (s.beats config worker now, [])
  | dies (w : Nat) : Performs config s (.dies w) (s.ends w, [])
  | reconciles (id runId : String) (usage : Option Rat) (t : Int) :
      Performs config s (.reconciles id runId usage t)
        ({ s with db := (s.db.reconcileUsage id runId usage t).1 }, [])
  | settles (id : String) (t : Int) :
      Performs config s (.settles id t)
        ({ s with db := (s.db.settleUsageConservatively id t).1 }, [])
  | sweeps (id runId : String) (t : Int) :
      Performs config s (.sweeps id runId t)
        ({ s with db := (s.db.markStorageCleaned id runId t).1 }, [])

theorem BrowserFleet.step_performs {came : BrowserFleet Doc × List FleetNotice}
    (h : s.step config action = .ok came) : s.Performs config action came := by
  cases action with
  | enqueues id operationId actorId actorBuild t => cases h; exact .enqueues _ _ _ _ _
  | claims w job now leaseToken =>
    simp only [step] at h
    split at h
    · cases h
    · next hfree =>
      cases h
      simp only [Bool.or_eq_true, not_or, Bool.not_eq_true, contains_eq_mem, decide_eq_false_iff_not] at hfree
      exact .claims job now (by simpa [Dict.has] using hfree.1) hfree.2
  | finds w answer now =>
    simp only [step] at h
    split at h
    · next hw => cases h; exact .finds answer now hw rfl
    · cases h
  | reserves w now =>
    simp only [step] at h
    split at h
    · next hw => cases h; exact .reserves now hw rfl
    · cases h
  | starts w answer =>
    simp only [step] at h
    split at h
    · next hw => cases h; exact .starts answer hw rfl
    · cases h
  | attaches w now =>
    simp only [step] at h
    split at h
    · next hw => cases h; exact .attaches now hw rfl
    · cases h
  | aborts w =>
    simp only [step] at h
    split at h
    · next hw => cases h; exact .abortsRefused hw rfl
    · next hw => cases h; exact .abortsGoing hw rfl
    · next hw => cases h; exact .abortsThrown hw rfl
    · cases h
  | cleans w cleaned =>
    simp only [step] at h
    split at h
    · next hw => cases h; exact .cleansRefused cleaned hw rfl
    · next hw => cases h; exact .cleans cleaned hw rfl
    · cases h
  | waits w answer =>
    simp only [step] at h
    split at h
    · next hw => cases h; exact .waits answer hw rfl
    · cases h
  | checks w now =>
    simp only [step] at h
    split at h
    · next hw => cases h; exact .checks now hw rfl
    · cases h
  | fetches w answer =>
    simp only [step] at h
    split at h
    · next hw => cases h; exact .fetches answer hw rfl
    · cases h
  | completes w now =>
    simp only [step] at h
    split at h
    · next hw => cases h; exact .completes now hw rfl
    · cases h
  | givesUp w now =>
    simp only [step] at h
    split at h
    · next hw => cases h; exact .givesUp now hw rfl
    · cases h
  | stores w now =>
    simp only [step] at h
    split at h
    · next hw => cases h; exact .stores now hw rfl
    · cases h
  | beats w now =>
    simp only [step] at h
    split at h
    · cases h
    · next hw => cases h; exact .beats now hw
  | dies w => cases h; exact .dies w
  | reconciles id runId usage t => cases h; exact .reconciles _ _ _ _
  | settles id t => cases h; exact .settles _ _
  | sweeps id runId t => cases h; exact .sweeps _ _ _

/-! ## What a step does to where observations stand -/

/-- The usage of an observation that is over is reconciled. -/
def FleetAction.reconciling : FleetAction Doc → Bool
  | .reconciles .. | .settles .. => true
  | _ => false

namespace BrowserFleet

variable {s s' : BrowserFleet Doc} {w : Nat} {worker : BrowserWorker Doc} {id : String}
  {came : BrowserFleet Doc × List FleetNotice}

/-- What happened to where observations stand, with what is heard of it: who ended is heard of, a lease is
taken by whoever claims, from nobody whose lease is still running, and only a reconciliation changes what is
over. -/
structure Happened (s : BrowserFleet Doc) (action : FleetAction Doc)
    (came : BrowserFleet Doc × List FleetNotice) (event : StandingEvent) : Prop where
  turns : s.db.Turns came.1.db event
  heard : ∀ id, came.2.count (.settled id) = if event = .ended id then 1 else 0
  granted : ∀ {id leaseToken}, event = .taken id leaseToken →
    ∃ w job now, action = .claims w job now leaseToken ∧ job.observationId = id ∧
      ∀ row, s.db.observations.get id = some row → row.status.active = true →
        row.leaseExpiresAt.any (now < ·) = false
  kept : action.reconciling = false → s.db.KeepsSettled came.1.db

theorem Happened.still (hsame : s.db.SameStanding came.1.db)
    (hkept : action.reconciling = false → s.db.KeepsSettled came.1.db)
    (hquiet : ∀ id, FleetNotice.settled id ∉ came.2) : s.Happened action came .still where
  turns := .still hsame
  heard id := by rw [if_neg (by rintro ⟨⟩), count_eq_zero.2 (hquiet id)]
  granted := by rintro _ _ ⟨⟩
  kept := hkept

theorem Happened.nothing (hdb : came.1.db = s.db) (hquiet : ∀ id, FleetNotice.settled id ∉ came.2) :
    s.Happened action came .still :=
  .still (.of_eq hdb) (fun _ => hdb ▸ .refl _) hquiet

theorem Happened.ended (hturns : s.db.Turns came.1.db (.ended id))
    (hkept : s.db.KeepsSettled came.1.db) (hout : came.2 = [.settled id]) : s.Happened action came (.ended id) where
  turns := hturns
  heard other := by
    rw [hout]
    by_cases ho : id = other
    · subst ho; simp
    · simp [ho]
  granted := by rintro _ _ ⟨⟩
  kept _ := hkept

theorem happened_claims (job : BrowserObservationJob) (now : Int) (leaseToken : String) :
    ∃ event, s.Happened (.claims w job now leaseToken) (s.claims config w job now leaseToken, []) event := by
  have h := s.db.claim_spec job now config.leaseMs leaseToken
  unfold claims
  dsimp only
  split
  · next observation hclaimed =>
    rw [hclaimed] at h
    obtain ⟨hkept, hid, -, ⟨st, hst, hopen, -⟩, hset⟩ := h
    refine ⟨.taken job.observationId leaseToken, .taken hst hopen hset, fun _ => rfl, ?_, fun _ => hkept⟩
    rintro _ _ ⟨⟩
    exact ⟨w, job, now, rfl, rfl, fun row hrow hactive => s.db.claim_lapsed hclaimed hrow hactive⟩
  · next hnot =>
    refine ⟨.still, .nothing ?_ fun _ => not_mem_nil⟩
    have hsame := h.2
    revert hsame
    split
    · next observation hclaimed => exact absurd hclaimed (hnot observation)
    · exact fun h => h

theorem happened_completes (runId : String) (output : BrowserOutput Doc) (usage : Option Rat) (now : Int) :
    ∃ event, s.Happened action (s.completes w worker runId output usage now) event := by
  have h := s.db.complete_spec worker.observation.id worker.observation.leaseToken output usage now
  unfold completes
  dsimp only
  split
  · next hdone =>
    rw [if_pos hdone] at h
    obtain ⟨hkept, ⟨st, hst, hopen, -⟩, ending, hover, hset⟩ := h
    exact ⟨.ended worker.observation.id, .ended (.ended hst hopen hover hset) hkept rfl⟩
  · next hdone =>
    rw [if_neg hdone] at h
    exact ⟨.still, .nothing h.2 fun _ => not_mem_nil⟩

theorem happened_givesUp (runId : Option String) (status : ObservationDb.GivenUp) (failureCode : String)
    (usage : Option Rat) (now : Int) :
    ∃ event, s.Happened action (s.givesUp w worker runId status failureCode usage now) event := by
  have h := s.db.markTerminal_spec worker.observation.id worker.observation.leaseToken status failureCode usage now
  unfold givesUp
  dsimp only
  split
  · next hdone =>
    rw [if_pos hdone] at h
    obtain ⟨hkept, ⟨st, hst, hopen, -⟩, ending, hover, hset⟩ := h
    have hdb (s' : BrowserFleet Doc) : s'.db = (s.db.markTerminal worker.observation.id
        worker.observation.leaseToken status failureCode usage now).1 →
        s.Happened action (s', [.settled worker.observation.id]) (.ended worker.observation.id) := by
      rintro hs'
      exact .ended (by rw [hs']; exact .ended hst hopen hover hset) (by rw [hs']; exact hkept) rfl
    refine ⟨.ended worker.observation.id, hdb _ ?_⟩
    split
    · rfl
    · rfl
  · next hdone =>
    rw [if_neg hdone] at h
    exact ⟨.still, .nothing h.2 fun _ => not_mem_nil⟩

theorem happened_cleans {runId : String} {cleaned last : Bool} :
    s.Happened action (s.cleans w worker runId cleaned last) .still := by
  refine .nothing ?_ fun _ => by simp [cleans]
  unfold cleans
  split
  · rfl
  · rfl

/-- Every step does one thing to where observations stand. -/
theorem performs_happened (h : s.Performs config action came) : ∃ event, s.Happened action came event := by
  cases h with
  | enqueues new operationId actorId actorBuild t =>
    have hkept := (s.db.enqueue_spec new operationId actorId actorBuild t).1
    obtain ⟨event, hturns, rfl | rfl⟩ := s.db.turns_enqueue new operationId actorId actorBuild t
    · exact ⟨_, hturns, fun _ => rfl, by rintro _ _ ⟨⟩, fun _ => hkept⟩
    · exact ⟨_, hturns, fun _ => rfl, by rintro _ _ ⟨⟩, fun _ => hkept⟩
  | claims job now hw _ => exact happened_claims job now _
  | finds answer now hw _ =>
    refine ⟨.still, .nothing ?_ fun _ => not_mem_nil⟩
    unfold finds
    split
    · rfl
    · split
      · rfl
      · rfl
  | @reserves w worker now hw _ =>
    have hdb := s.db.reserveDailyBudget_spec worker.observation.id worker.observation.leaseToken
      config.maxRunUsd config.dailyBudgetUsd now
    have hsame : (s.reserves config w worker now).db = (s.db.reserveDailyBudget worker.observation.id
        worker.observation.leaseToken config.maxRunUsd config.dailyBudgetUsd now).1 := by
      unfold reserves
      dsimp only
      split <;> rfl
    exact ⟨.still, .still (hsame ▸ hdb.2) (fun _ => hsame ▸ hdb.1) fun _ => not_mem_nil⟩
  | starts answer hw _ =>
    refine ⟨.still, .nothing ?_ fun _ => by simp [starts]⟩
    unfold starts
    split
    · rfl
    · rfl
  | @attaches w worker runId now hw _ =>
    have hkept := (s.db.attachRun_spec worker.observation.id worker.observation.leaseToken runId now config.leaseMs).1
    have hsame : (s.attaches config w worker runId now).db =
        (s.db.attachRun worker.observation.id worker.observation.leaseToken runId now config.leaseMs).1 := by
      unfold attaches
      dsimp only
      split <;> rfl
    obtain ⟨event, hturns, rfl | rfl⟩ := s.db.turns_attachRun worker.observation.id
      worker.observation.leaseToken runId now config.leaseMs
    · exact ⟨_, hsame ▸ hturns, fun _ => rfl, by rintro _ _ ⟨⟩, fun _ => hsame ▸ hkept⟩
    · exact ⟨_, hsame ▸ hturns, fun _ => rfl, by rintro _ _ ⟨⟩, fun _ => hsame ▸ hkept⟩
  | abortsRefused hw _ => exact ⟨.still, .nothing rfl fun _ => by simp [aborts]⟩
  | abortsGoing hw _ => exact ⟨.still, .nothing rfl fun _ => by simp [aborts]⟩
  | abortsThrown hw _ => exact ⟨.still, .nothing rfl fun _ => by simp [aborts]⟩
  | cleansRefused cleaned hw _ => exact ⟨.still, happened_cleans⟩
  | cleans cleaned hw _ => exact ⟨.still, happened_cleans⟩
  | waits answer hw _ =>
    refine ⟨.still, .nothing ?_ fun _ => not_mem_nil⟩
    unfold waits
    split
    · rfl
    · rfl
  | @checks w worker runId status usage now hw _ =>
    have hdb := s.db.heartbeat_spec worker.observation.id worker.observation.leaseToken now config.leaseMs
    have hsame : (s.checks config w worker runId status usage now).db =
        (s.db.heartbeat worker.observation.id worker.observation.leaseToken now config.leaseMs).1 := by
      unfold checks
      dsimp only
      split
      · rfl
      · split
        · rfl
        · split <;> rfl
    exact ⟨.still, .still (hsame ▸ hdb.2.1) (fun _ => hsame ▸ hdb.1) fun _ => not_mem_nil⟩
  | fetches answer hw _ =>
    refine ⟨.still, .nothing ?_ fun _ => not_mem_nil⟩
    unfold fetches
    split
    · rfl
    · split
      · rfl
      · split <;> rfl
  | completes now hw _ => exact happened_completes _ _ _ _
  | givesUp now hw _ => exact happened_givesUp _ _ _ _ _
  | @stores w worker runId now hw _ =>
    have hdb := s.db.markStorageCleaned_spec worker.observation.id runId now
    exact ⟨.still, .still hdb.2 (fun _ => hdb.1) fun _ => not_mem_nil⟩
  | @beats w worker now hw =>
    have hdb := s.db.heartbeat_spec worker.observation.id worker.observation.leaseToken now config.leaseMs
    exact ⟨.still, .still hdb.2.1 (fun _ => hdb.1) fun _ => not_mem_nil⟩
  | dies w => exact ⟨.still, .nothing rfl fun _ => not_mem_nil⟩
  | reconciles of runId usage t =>
    exact ⟨.still, .still (s.db.reconcileUsage_spec of runId usage t) (by rintro ⟨⟩) fun _ => not_mem_nil⟩
  | settles of t =>
    exact ⟨.still, .still (s.db.settleUsageConservatively_spec of t) (by rintro ⟨⟩) fun _ => not_mem_nil⟩
  | sweeps of runId t =>
    have hdb := s.db.markStorageCleaned_spec of runId t
    exact ⟨.still, .still hdb.2 (fun _ => hdb.1) fun _ => not_mem_nil⟩

end BrowserFleet

end

end Coinslot
