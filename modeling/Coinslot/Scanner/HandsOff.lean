import Coinslot.Scanner.WorkerSteps

/-!
# A worker that lost its lease, and the run

Whoever attaches a run to an observation, commits it or gives it up does so under its lease, and what is over
has no lease. So a worker that goes on from there touches a run only once nobody else can hold it
(`BrowserWorker.Stands`). Two exits do not look: what was thrown while a run was waited for or its output
fetched aborts the run whoever holds it by then, and so does the abort of a run that is still going, where
the lease runs out right before it. In a run of the workers that takes neither (`FleetAction.Orderly`)
nobody's run is aborted or cleaned up by another (`hands_off_the_run`).
-/

namespace Coinslot

open List Dict

section
variable {Doc : Type} {config : BrowserJobConfig} {s : BrowserFleet Doc} {action : FleetAction Doc}

/-! ## Who holds what -/

/-- A worker in such a phase has seen its observation end. -/
def WorkerPhase.afterEnd : WorkerPhase Doc → Bool
  | .refusing _ | .clearing _ | .cleaning _ | .storing _ => true
  | _ => false

/-- A worker in such a phase is about to abort a run it holds. -/
def WorkerPhase.abortsHeld : WorkerPhase Doc → Bool
  | .timingOut _ _ | .aborting _ _ _ => true
  | _ => false

theorem ObservationClaim.goesOn_plain (observation : ObservationClaim) :
    (observation.goesOn : WorkerPhase Doc).afterEnd = false ∧
      (observation.goesOn : WorkerPhase Doc).abortsHeld = false := by
  unfold goesOn
  split
  · exact ⟨rfl, rfl⟩
  · split
    · exact ⟨rfl, rfl⟩
    · exact ⟨rfl, rfl⟩

def Standing.OverOrHeld (st : Standing) (leaseToken : String) : Prop :=
  st.status.terminal = true ∨ st.leaseToken = some leaseToken

/-- How a worker's observation stands: it was claimed; it is over where the worker has seen so; and it is
over or held by the worker that is about to abort its run. -/
def BrowserWorker.Stands (db : ObservationDb Doc) (worker : BrowserWorker Doc) : Prop :=
  ∃ st, db.standing worker.observation.id = some st ∧ st.status ≠ .queued ∧
    (worker.phase.afterEnd = true → st.status.terminal = true) ∧
    (worker.phase.abortsHeld = true → st.OverOrHeld worker.observation.leaseToken)

section

variable (s : BrowserFleet Doc)

/-- A worker holds the lease of an observation, with a run attached, and its lease is still running. -/
def BrowserFleet.Holds (w : Nat) (id runId : String) (now : Int) : Prop :=
  ∃ worker row, s.workers.get w = some worker ∧ worker.observation.id = id ∧
    s.db.observations.get id = some row ∧ row.leaseToken = some worker.observation.leaseToken ∧
    row.apifyRunId = some runId ∧ row.leaseExpiresAt.any (now < ·) = true

/-- What holds of leases and workers: the tokens of both were given out, no two workers have one token, only
what is being made is held under a lease, and every worker's observation stands as the worker knows. -/
structure BrowserFleet.Sound (s : BrowserFleet Doc) : Prop where
  given : ∀ {w worker}, s.workers.get w = some worker → worker.observation.leaseToken ∈ s.tokens
  held : ∀ {id st leaseToken}, s.db.standing id = some st → st.leaseToken = some leaseToken →
    leaseToken ∈ s.tokens ∧ st.status.active = true
  own : ∀ {w w' worker worker'}, s.workers.get w = some worker → s.workers.get w' = some worker' →
    worker.observation.leaseToken = worker'.observation.leaseToken → w = w'
  stands : ∀ {w worker}, s.workers.get w = some worker → worker.Stands s.db

/-- The lease of what a worker works on was not taken by another: the observation is over, or the worker
holds it. -/
def BrowserFleet.NotTakenOver (worker : BrowserWorker Doc) : Prop :=
  ∀ st, s.db.standing worker.observation.id = some st → st.OverOrHeld worker.observation.leaseToken

/-- Neither of the two exits that do not look is taken: nothing is thrown while a run is waited for, or its
output fetched and read, once another took the lease; and no lease is claimed that ran out right before its
holder aborts the run. -/
def FleetAction.Orderly : FleetAction Doc → Prop
  | .waits w (.error _) => ∀ worker, s.workers.get w = some worker → s.NotTakenOver worker
  | .fetches w (.error _) => ∀ worker, s.workers.get w = some worker → s.NotTakenOver worker
  | .fetches w (.ok (output, false)) => ∀ worker, s.workers.get w = some worker →
      output.actorBuild = worker.observation.actorBuild → s.NotTakenOver worker
  | .claims _ job now _ => ∀ w worker row, s.workers.get w = some worker →
      worker.phase.abortsHeld = true → worker.observation.id = job.observationId →
      s.db.observations.get job.observationId = some row →
      row.leaseToken = some worker.observation.leaseToken → row.leaseExpiresAt.any (now < ·) = true
  | _ => True

end

namespace BrowserWorker.Stands

variable {db db' : ObservationDb Doc} {worker : BrowserWorker Doc} {phase : WorkerPhase Doc}

theorem plain (h : worker.Stands db) (hafter : phase.afterEnd = false)
    (haborts : phase.abortsHeld = false) : Stands db ⟨worker.observation, phase⟩ := by
  obtain ⟨st, hst, hclaimed, -, -⟩ := h
  refine ⟨st, hst, hclaimed, fun h => ?_, fun h => ?_⟩
  · cases hafter.symm.trans h
  · cases haborts.symm.trans h

theorem holding (h : worker.Stands db) (hheld : ∀ st, db.standing worker.observation.id = some st →
      st.OverOrHeld worker.observation.leaseToken)
    (hafter : phase.afterEnd = false) : Stands db ⟨worker.observation, phase⟩ := by
  obtain ⟨st, hst, hclaimed, -, -⟩ := h
  refine ⟨st, hst, hclaimed, fun h => ?_, fun _ => hheld st hst⟩
  cases hafter.symm.trans h

theorem when_over {st : Standing} (hst : db.standing worker.observation.id = some st)
    (hover : st.status.terminal = true) : Stands db ⟨worker.observation, phase⟩ := by
  refine ⟨st, hst, fun hqueued => ?_, fun _ => hover, fun _ => .inl hover⟩
  rw [hqueued] at hover
  cases hover

theorem later (h : worker.Stands db) (hafter : worker.phase.afterEnd = true) :
    Stands db ⟨worker.observation, phase⟩ := by
  obtain ⟨st, hst, -, hend, -⟩ := h
  exact when_over hst (hend hafter)

theorem same (h : worker.Stands db) (hsame : db.SameStanding db') : worker.Stands db' := by
  obtain ⟨st, hst, hrest⟩ := h
  exact ⟨st, by rw [hsame]; exact hst, hrest⟩

end BrowserWorker.Stands

namespace BrowserFleet

variable {s s' : BrowserFleet Doc} {w : Nat} {worker : BrowserWorker Doc} {id : String}
  {came : BrowserFleet Doc × List FleetNotice}

/-- What a step does to the workers: one goes on, one is done, or one comes in with a token of its own. -/
inductive Goes (s : BrowserFleet Doc) (db : ObservationDb Doc) (tokens : List String) :
    Dict Nat (BrowserWorker Doc) → Prop
  | stays : s.tokens = tokens → Goes s db tokens s.workers
  | moves {w : Nat} {worker : BrowserWorker Doc} {phase : WorkerPhase Doc} : s.tokens = tokens →
      s.workers.get w = some worker → ({ worker with phase := phase } : BrowserWorker Doc).Stands db →
      Goes s db tokens (s.workers.set w { worker with phase := phase })
  | ends {w : Nat} : s.tokens = tokens → Goes s db tokens (s.workers.delete w)
  | enters {w : Nat} {worker : BrowserWorker Doc} : worker.observation.leaseToken ∉ s.tokens →
      tokens = worker.observation.leaseToken :: s.tokens → worker.Stands db →
      Goes s db tokens (s.workers.set w worker)
  | refused {leaseToken : String} : tokens = leaseToken :: s.tokens → Goes s db tokens s.workers

variable {db : ObservationDb Doc}

theorem stands_turns {event : StandingEvent} (h : worker.Stands s.db) (hturns : s.db.Turns db event)
    (htaken : ∀ leaseToken, event = .taken worker.observation.id leaseToken →
      worker.phase.abortsHeld = false) : worker.Stands db := by
  obtain ⟨st, hst, hclaimed, hafter, haborts⟩ := h
  obtain ⟨st', hst', hclaimed', hlater⟩ := hturns.stood hst hclaimed
  have hover (h : st.status.terminal = true) : st'.status.terminal = true := by
    cases hst'.symm.trans (hturns.settled hst h)
    exact h
  refine ⟨st', hst', hclaimed', fun h => hover (hafter h), fun h => ?_⟩
  rcases haborts h with hwas | hlease
  · exact .inl (hover hwas)
  · rcases hlater with hended | hsame | ⟨leaseToken, htook⟩
    · exact .inl hended
    · exact .inr (hsame.trans hlease)
    · exact absurd (htaken leaseToken htook) (by rw [h]; decide)

variable {leaseToken : String}

theorem goes_claims (job : BrowserObservationJob) (now : Int) (hfresh : leaseToken ∉ s.tokens) :
    s.Goes (s.claims config w job now leaseToken).db (s.claims config w job now leaseToken).tokens
      (s.claims config w job now leaseToken).workers := by
  have h := (s.db.claim_spec job now config.leaseMs leaseToken).2
  unfold claims
  dsimp only
  split
  · next observation hclaimed =>
    rw [hclaimed] at h
    obtain ⟨hid, rfl, -, hset⟩ := h
    obtain ⟨hafter, haborts⟩ : (observation.goesOn : WorkerPhase Doc).afterEnd = false ∧
      (observation.goesOn : WorkerPhase Doc).abortsHeld = false := observation.goesOn_plain
    refine .enters hfresh rfl ⟨⟨.starting, some observation.leaseToken⟩, ?_, by rintro ⟨⟩, ?_, ?_⟩
    · exact (hset _).trans (if_pos hid)
    · exact fun h => by cases hafter.symm.trans h
    · exact fun h => by cases haborts.symm.trans h
  · exact .refused rfl

theorem goes_cleans {runId : String} {cleaned last : Bool} (hsound : s.Sound)
    (hw : s.workers.get w = some worker) (hafter : worker.phase.afterEnd = true) :
    s.Goes (s.cleans w worker runId cleaned last).1.db (s.cleans w worker runId cleaned last).1.tokens
      (s.cleans w worker runId cleaned last).1.workers := by
  unfold cleans
  split
  · exact .moves rfl hw ((hsound.stands hw).later hafter)
  · exact .ends rfl

/-- What a step does to the workers. -/
theorem performs_goes (hsound : s.Sound) (horderly : action.Orderly s)
    (h : s.Performs config action came) : s.Goes came.1.db came.1.tokens came.1.workers := by
  cases h with
  | enqueues new operationId actorId actorBuild t => exact .stays rfl
  | claims job now _ hfresh => exact goes_claims job now hfresh
  | finds answer now hw _ =>
    have hst := hsound.stands hw
    unfold finds
    split
    · exact .moves rfl hw (hst.plain rfl rfl)
    · split
      · exact .moves rfl hw (hst.plain rfl rfl)
      · exact .ends rfl
  | @reserves w worker now hw _ =>
    have hsame := (s.db.reserveDailyBudget_spec worker.observation.id worker.observation.leaseToken
      config.maxRunUsd config.dailyBudgetUsd now).2
    have hst := (hsound.stands hw).same hsame
    unfold reserves
    dsimp only
    split
    · exact .moves rfl hw (hst.plain rfl rfl)
    · exact .moves rfl hw (hst.plain rfl rfl)
    · exact .ends rfl
  | starts answer hw _ =>
    have hst := hsound.stands hw
    unfold starts
    split
    · exact .moves rfl hw (hst.plain rfl rfl)
    · exact .ends rfl
  | @attaches w worker runId now hw _ =>
    have hst := hsound.stands hw
    have h := (s.db.attachRun_spec worker.observation.id worker.observation.leaseToken runId now config.leaseMs).2
    unfold attaches
    dsimp only
    split
    · next hattached =>
      rw [hattached] at h
      exact .moves rfl hw ((stands_turns hst (.attached h.1 h.2) (by rintro _ ⟨⟩)).plain rfl rfl)
    · exact .ends rfl
    · next hfenced =>
      rw [hfenced] at h
      obtain ⟨st, hstanding, hclaimed, -, -⟩ := hst
      have hover := ObservationStatus.over_of_claimed hclaimed (h.2 st hstanding)
      exact .moves rfl hw (.when_over ((ObservationDb.SameStanding.of_eq h.1 _).trans hstanding) hover)
  | abortsRefused hw hphase => exact .moves rfl hw ((hsound.stands hw).later (by rw [hphase]; rfl))
  | abortsGoing hw _ => exact .moves rfl hw ((hsound.stands hw).plain rfl rfl)
  | abortsThrown hw _ => exact .moves rfl hw ((hsound.stands hw).plain rfl rfl)
  | cleansRefused cleaned hw hphase => exact goes_cleans hsound hw (by rw [hphase]; rfl)
  | cleans cleaned hw hphase => exact goes_cleans hsound hw (by rw [hphase]; rfl)
  | waits answer hw _ =>
    have hst := hsound.stands hw
    unfold waits
    split
    · exact .moves rfl hw (hst.holding (horderly _ hw) rfl)
    · exact .moves rfl hw (hst.plain rfl rfl)
  | @checks w worker runId status usage now hw _ =>
    obtain ⟨-, hsame, hheld⟩ := s.db.heartbeat_spec worker.observation.id
      worker.observation.leaseToken now config.leaseMs
    have hst := (hsound.stands hw).same hsame
    unfold checks
    dsimp only
    split
    · exact .ends rfl
    · next hlost =>
      split
      · refine .moves rfl hw (hst.holding (fun st hstanding => ?_) rfl)
        obtain ⟨was, hwas, hlease⟩ := hheld (by simpa using hlost)
        rw [hsame, hwas] at hstanding
        cases hstanding
        exact .inr hlease
      · split
        · exact .moves rfl hw (hst.plain rfl rfl)
        · exact .moves rfl hw (hst.plain rfl rfl)
  | @fetches w worker runId usage answer hw _ =>
    have hst := hsound.stands hw
    unfold fetches
    split
    · exact .moves rfl hw (hst.holding (horderly _ hw) rfl)
    · next output wellFormed =>
      split
      · exact .moves rfl hw (hst.plain rfl rfl)
      · next hbuild =>
        cases wellFormed with
        | false => exact .moves rfl hw (hst.holding (horderly _ hw (not_not.1 hbuild)) rfl)
        | true => exact .moves rfl hw (hst.plain rfl rfl)
  | @completes w worker runId output usage now hw _ =>
    have h := (s.db.complete_spec worker.observation.id worker.observation.leaseToken output usage now).2
    unfold completes
    dsimp only
    split
    · next hdone =>
      rw [if_pos hdone] at h
      obtain ⟨-, ending, hover, hset⟩ := h
      exact .moves rfl hw (.when_over ((hset _).trans (if_pos rfl)) hover)
    · exact .ends rfl
  | @givesUp w worker runId status failureCode usage now hw _ =>
    have h := (s.db.markTerminal_spec worker.observation.id worker.observation.leaseToken status
      failureCode usage now).2
    unfold givesUp
    dsimp only
    split
    · next hdone =>
      rw [if_pos hdone] at h
      obtain ⟨-, ending, hover, hset⟩ := h
      split
      · exact .moves rfl hw (.when_over ((hset _).trans (if_pos rfl)) hover)
      · exact .ends rfl
    · exact .ends rfl
  | stores now hw _ => exact .ends rfl
  | beats now hw => exact .stays rfl
  | dies w => exact .ends rfl
  | reconciles of runId usage t => exact .stays rfl
  | settles of t => exact .stays rfl
  | sweeps of runId t => exact .stays rfl

variable {workers : Dict Nat (BrowserWorker Doc)}

/-- The workers after a step: one of them may be new, and comes with a token nobody had; the others were
there before, on the same observation, and one of them went on. -/
theorem goes_get {tokens : List String}
    (h : s.Goes db tokens workers) : ∃ new : Option Nat, ∀ w worker, workers.get w = some worker →
      (new ≠ some w → ∃ before, s.workers.get w = some before ∧
        before.observation = worker.observation ∧ (before = worker ∨ worker.Stands db)) ∧
      (new = some w → worker.observation.leaseToken ∉ s.tokens ∧
        worker.observation.leaseToken ∈ tokens ∧ worker.Stands db) := by
  cases h with
  | stays _ | refused _ => exact ⟨none, fun w worker hw => ⟨fun _ => ⟨worker, hw, rfl, .inl rfl⟩, by rintro ⟨⟩⟩⟩
  | @moves k moved phase _ hk hst =>
    refine ⟨none, fun w worker hw => ⟨fun _ => ?_, by rintro ⟨⟩⟩⟩
    by_cases hwk : w = k
    · subst hwk
      rw [get_set_self] at hw
      cases hw
      exact ⟨moved, hk, rfl, .inr hst⟩
    · rw [get_set_ne _ _ hwk] at hw
      exact ⟨worker, hw, rfl, .inl rfl⟩
  | @ends k _ =>
    refine ⟨none, fun w worker hw => ⟨fun _ => ?_, by rintro ⟨⟩⟩⟩
    exact ⟨worker, (of_get_delete hw).2, rfl, .inl rfl⟩
  | @enters k entered hfresh htokens hst =>
    refine ⟨some k, fun w worker hw => ⟨fun hne => ?_, fun hk => ?_⟩⟩
    · rw [get_set_ne _ _ fun h => hne (by rw [h])] at hw
      exact ⟨worker, hw, rfl, .inl rfl⟩
    · cases hk
      rw [get_set_self] at hw
      cases hw
      exact ⟨hfresh, htokens ▸ mem_cons_self .., hst⟩

theorem goes_tokens {tokens : List String} (h : s.Goes db tokens workers)
    (hgiven : leaseToken ∈ s.tokens) : leaseToken ∈ tokens := by
  cases h with
  | stays htokens => exact htokens ▸ hgiven
  | moves htokens _ _ => exact htokens ▸ hgiven
  | ends htokens => exact htokens ▸ hgiven
  | enters _ htokens _ => exact htokens ▸ mem_cons_of_mem _ hgiven
  | refused htokens => exact htokens ▸ mem_cons_of_mem _ hgiven

theorem claims_token (job : BrowserObservationJob) (now : Int) (leaseToken : String) :
    leaseToken ∈ (s.claims config w job now leaseToken).tokens := by
  unfold claims
  dsimp only
  split
  · exact mem_cons_self ..
  · exact mem_cons_self ..

section

variable (hsound : s.Sound)
include hsound

theorem untaken {event : StandingEvent} (horderly : action.Orderly s)
    (hhappened : s.Happened action came event) (hw : s.workers.get w = some worker)
    (htook : event = .taken worker.observation.id leaseToken) : worker.phase.abortsHeld = false := by
  obtain ⟨k, job, now, rfl, hjob, hlapsed⟩ := hhappened.granted htook
  obtain ⟨st, hst, -, -, haborts⟩ := hsound.stands hw
  by_contra habort
  have habort : worker.phase.abortsHeld = true := by simpa using habort
  obtain ⟨row, hrow, rfl⟩ := ObservationDb.get_of_standing hst
  rcases haborts habort with hover | hheld
  · have hturns := hhappened.turns
    rw [htook] at hturns
    cases hturns with
    | taken hwas hopen _ =>
      cases hwas.symm.trans hst
      cases hopen.symm.trans hover
  · have hrunning := horderly w worker row hw habort hjob.symm (hjob ▸ hrow) hheld
    rw [hlapsed row hrow (hsound.held hst hheld).2] at hrunning
    cases hrunning

/-- **Steps.** An orderly step keeps what holds of leases and workers. -/
theorem performs_sound (horderly : action.Orderly s) (h : s.Performs config action came) : came.1.Sound := by
  obtain ⟨event, hhappened⟩ := performs_happened h
  have hgoes := performs_goes hsound horderly h
  obtain ⟨new, hget⟩ := goes_get hgoes
  refine ⟨fun {w worker} hw => ?_, fun {id st leaseToken} hst hlease => ?_,
    fun {w w' worker worker'} hw hw' hsame => ?_, fun {w worker} hw => ?_⟩
  · by_cases hnew : new = some w
    · exact ((hget w worker hw).2 hnew).2.1
    · obtain ⟨before, hbefore, hobs, -⟩ := (hget w worker hw).1 hnew
      exact hobs ▸ goes_tokens hgoes (hsound.given hbefore)
  · rcases hhappened.turns.leased hst hlease with ⟨was, hwas, hheld, hactive⟩ | ⟨htook, hactive⟩
    · obtain ⟨hgiven, hmaking⟩ := hsound.held hwas hheld
      exact ⟨goes_tokens hgoes hgiven, hactive hmaking⟩
    · obtain ⟨k, job, now, rfl, -, -⟩ := hhappened.granted htook
      cases h
      exact ⟨claims_token job now leaseToken, hactive⟩
  · by_cases hnew : new = some w
    · by_cases hnew' : new = some w'
      · exact Option.some.inj (hnew.symm.trans hnew')
      · obtain ⟨before, hbefore, hobs, -⟩ := (hget w' worker' hw').1 hnew'
        have hgiven := hsound.given hbefore
        rw [hobs, ← hsame] at hgiven
        exact absurd hgiven ((hget w worker hw).2 hnew).1
    · obtain ⟨before, hbefore, hobs, -⟩ := (hget w worker hw).1 hnew
      by_cases hnew' : new = some w'
      · have hgiven := hsound.given hbefore
        rw [hobs, hsame] at hgiven
        exact absurd hgiven ((hget w' worker' hw').2 hnew').1
      · obtain ⟨before', hbefore', hobs', -⟩ := (hget w' worker' hw').1 hnew'
        exact hsound.own hbefore hbefore' (by rw [hobs, hobs', hsame])
  · by_cases hnew : new = some w
    · exact ((hget w worker hw).2 hnew).2.2
    · obtain ⟨before, hbefore, -, rfl | hst⟩ := (hget w worker hw).1 hnew
      · exact stands_turns (hsound.stands hbefore) hhappened.turns
          fun _ htook => untaken hsound horderly hhappened hbefore htook
      · exact hst

/-! ## Runs nobody else holds -/

/-- A worker that aborts a run, or cleans up after it, works on an observation that is over or that it
holds. -/
theorem performs_touches (h : s.Performs config action came) {runId : String}
    (htouches : .aborted w id runId ∈ came.2 ∨ .cleaned w id runId ∈ came.2) :
    ∃ worker st, s.workers.get w = some worker ∧ worker.observation.id = id ∧
      s.db.standing id = some st ∧ st.OverOrHeld worker.observation.leaseToken := by
  have hover {w : Nat} {worker : BrowserWorker Doc} (hw : s.workers.get w = some worker)
      (hafter : worker.phase.afterEnd = true) : ∃ found st, s.workers.get w = some found ∧
        found.observation.id = worker.observation.id ∧
        s.db.standing worker.observation.id = some st ∧ st.OverOrHeld found.observation.leaseToken := by
    obtain ⟨st, hst, -, hend, -⟩ := hsound.stands hw
    exact ⟨worker, st, hw, rfl, hst, .inl (hend hafter)⟩
  have hheld {w : Nat} {worker : BrowserWorker Doc} (hw : s.workers.get w = some worker)
      (haborts : worker.phase.abortsHeld = true) : ∃ found st, s.workers.get w = some found ∧
        found.observation.id = worker.observation.id ∧
        s.db.standing worker.observation.id = some st ∧ st.OverOrHeld found.observation.leaseToken := by
    obtain ⟨st, hst, -, -, hholds⟩ := hsound.stands hw
    exact ⟨worker, st, hw, rfl, hst, hholds haborts⟩
  cases h with
  | abortsRefused hw hphase =>
    obtain ⟨rfl, rfl, rfl⟩ : _ ∧ _ ∧ _ := by simpa [aborts] using htouches
    exact hover hw (by rw [hphase]; rfl)
  | abortsGoing hw hphase =>
    obtain ⟨rfl, rfl, rfl⟩ : _ ∧ _ ∧ _ := by simpa [aborts] using htouches
    exact hheld hw (by rw [hphase]; rfl)
  | abortsThrown hw hphase =>
    obtain ⟨rfl, rfl, rfl⟩ : _ ∧ _ ∧ _ := by simpa [aborts] using htouches
    exact hheld hw (by rw [hphase]; rfl)
  | cleansRefused cleaned hw hphase =>
    obtain ⟨rfl, rfl, rfl⟩ : _ ∧ _ ∧ _ := by simpa [cleans] using htouches
    exact hover hw (by rw [hphase]; rfl)
  | cleans cleaned hw hphase =>
    obtain ⟨rfl, rfl, rfl⟩ : _ ∧ _ ∧ _ := by simpa [BrowserFleet.cleans] using htouches
    exact hover hw (by rw [hphase]; rfl)
  | starts answer hw _ => simp [BrowserFleet.starts] at htouches
  | completes now hw _ =>
    unfold completes at htouches
    dsimp only at htouches
    split at htouches <;> simp at htouches
  | givesUp now hw _ =>
    unfold givesUp at htouches
    dsimp only at htouches
    split at htouches <;> simp at htouches
  | _ => simp at htouches

theorem not_holds {w' : Nat} (hne : w' ≠ w) {st : Standing}
    (hw : s.workers.get w = some worker) (hst : s.db.standing id = some st)
    (hworks : st.OverOrHeld worker.observation.leaseToken) (runId : String) (now : Int) :
    ¬ s.Holds w' id runId now := by
  rintro ⟨other, row, hother, -, hrow, hlease, -, -⟩
  cases hst.symm.trans (ObservationDb.standing_of_get hrow)
  rcases hworks with hover | hown
  · have hactive := (hsound.held hst hlease).2
    have hopen := ObservationStatus.open_iff.1 (.inr hactive)
    cases hopen.symm.trans hover
  · exact hne (hsound.own hother hw (Option.some.inj (hlease.symm.trans hown)))

end

end BrowserFleet

theorem BrowserFleet.empty_sound : (empty : BrowserFleet Doc).Sound :=
  ⟨by rintro _ _ ⟨⟩, by rintro _ _ _ ⟨⟩, by rintro _ _ _ _ ⟨⟩, by rintro _ _ ⟨⟩⟩

theorem fleetRun_sound {actions : List (FleetAction Doc)}
    (ho : (fleetMachine config).Meets (fun s action => action.Orderly s) .empty actions) :
    (fleetRun config actions).Sound := by
  refine (fleetMachine config).run_induction_meeting ?_ BrowserFleet.empty_sound actions ho
  intro s action s' out hsound horderly h
  have hperforms : s.Performs config action (s', out) := BrowserFleet.step_performs h
  exact BrowserFleet.performs_sound hsound horderly hperforms

/-- **Hands off the run.** Where nothing is thrown at a worker whose lease another took, and no lease runs out
right before its holder aborts a run, no worker aborts or cleans up a run while another holds the lease of its
observation with that run attached. -/
theorem hands_off_the_run (config : BrowserJobConfig) (actions : List (FleetAction Doc))
    (ho : (fleetMachine config).Meets (fun s action => action.Orderly s) .empty actions)
    (action : FleetAction Doc) (came : BrowserFleet Doc × List FleetNotice)
    (h : (fleetRun config actions).step config action = .ok came) (w : Nat) (id runId : String)
    (htouches : .aborted w id runId ∈ came.2 ∨ .cleaned w id runId ∈ came.2) :
    ∀ w' now, w' ≠ w → ¬ (fleetRun config actions).Holds w' id runId now := by
  have hsound := fleetRun_sound ho
  obtain ⟨worker, st, hw, -, hst, hworks⟩ :=
    BrowserFleet.performs_touches hsound (BrowserFleet.step_performs h) htouches
  exact fun w' now hne => BrowserFleet.not_holds hsound hne hw hst hworks runId now

/-- What the workers of the examples are set up with. -/
def sampleBrowserConfig : BrowserJobConfig := ⟨60, 1, 10⟩

/-- A run is started and attached to its observation. -/
def firstBrowserRun : List (FleetAction Unit) :=
  [.enqueues "obs" "op" "actor" "build" 0, .claims 0 ⟨"obs", "op", 1⟩ 0 "lease_0", .reserves 0 0,
    .starts 0 (some "run"), .attaches 0 0]

/-- A worker that still holds its lease when its wait is thrown aborts its own run. -/
theorem own_run_aborted :
    ¬ (fleetRun sampleBrowserConfig (firstBrowserRun ++ [.waits 0 (.error none)])).Holds 1 "obs" "run" 100 := by
  obtain ⟨s, hstep⟩ : ∃ s, (fleetRun sampleBrowserConfig
      (firstBrowserRun ++ [.waits 0 (.error none)])).step sampleBrowserConfig (.aborts 0) =
        .ok (s, [.aborted 0 "obs" "run"]) := by
    constructor
    with_unfolding_all rfl
  have hw : (fleetRun sampleBrowserConfig firstBrowserRun).workers.get 0 =
      some ⟨⟨"obs", "op", "actor", "build", none, "lease_0", 0, false⟩, .waiting "run"⟩ := by
    with_unfolding_all rfl
  have hst : (fleetRun sampleBrowserConfig firstBrowserRun).db.standing "obs" =
      some ⟨.running, some "lease_0"⟩ := by with_unfolding_all rfl
  refine hands_off_the_run sampleBrowserConfig (firstBrowserRun ++ [.waits 0 (.error none)]) ?_
    (.aborts 0) _ hstep 0 "obs" "run" (.inl (List.mem_singleton.2 rfl)) 1 100 (by decide)
  rw [Reactor.meets_append]
  refine ⟨⟨trivial, by rintro w worker row ⟨⟩, trivial, trivial, trivial, trivial⟩, ?_, trivial⟩
  intro worker hworker st hstanding
  cases hw.symm.trans hworker
  cases hst.symm.trans hstanding
  exact .inr rfl

/-- The lease of the first run's worker runs out while the run is waited for, and another worker goes on with
the run; then the wait of the first is thrown. -/
def takenOverRun : List (FleetAction Unit) :=
  firstBrowserRun ++
    [.claims 1 ⟨"obs", "op", 1⟩ 90000 "lease_1", .attaches 1 90000, .waits 0 (.error none)]

/-- A worker whose wait is thrown aborts the run another worker went on with. -/
theorem anothers_run_aborted :
    ¬ ∀ (actions : List (FleetAction Unit)) (action : FleetAction Unit)
      (came : BrowserFleet Unit × List FleetNotice),
      (fleetRun sampleBrowserConfig actions).step sampleBrowserConfig action = .ok came →
      ∀ (w : Nat) (id runId : String), (.aborted w id runId ∈ came.2 ∨ .cleaned w id runId ∈ came.2) →
      ∀ w' now, w' ≠ w → ¬ (fleetRun sampleBrowserConfig actions).Holds w' id runId now := by
  intro h
  obtain ⟨s, hstep⟩ : ∃ s, (fleetRun sampleBrowserConfig takenOverRun).step sampleBrowserConfig
      (.aborts 0) = .ok (s, [.aborted 0 "obs" "run"]) := by
    constructor
    with_unfolding_all rfl
  have hworker : ((fleetRun sampleBrowserConfig takenOverRun).workers.get 1).map
      (fun worker => (worker.observation.id, worker.observation.leaseToken)) =
        some ("obs", "lease_1") := by decide +kernel
  have hrow : ((fleetRun sampleBrowserConfig takenOverRun).db.observations.get "obs").map
      (fun row => (row.leaseToken, row.apifyRunId, row.leaseExpiresAt)) =
        some (some "lease_1", some "run", some 180000) := by decide +kernel
  obtain ⟨worker, hw, hworks⟩ := Option.map_eq_some_iff.1 hworker
  obtain ⟨row, hget, hheld⟩ := Option.map_eq_some_iff.1 hrow
  simp only [Prod.mk.injEq] at hworks hheld
  obtain ⟨hid, htoken⟩ := hworks
  obtain ⟨hlease, hrun, hexpires⟩ := hheld
  exact h takenOverRun (.aborts 0) _ hstep 0 "obs" "run" (.inl (List.mem_singleton.2 rfl)) 1 90001
    (by decide) ⟨worker, row, hw, hid, hget, by rw [hlease, htoken], hrun, by rw [hexpires]; decide⟩

end

end Coinslot
