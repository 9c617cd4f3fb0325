import Coinslot.Lib.Reactor
import Coinslot.Lib.Tables
import Coinslot.Scanner.Observations
import Mathlib.Data.List.Perm.Subperm

/-!
# The storage janitor

What a browser run stored is cleaned up after its observation is over
(`apps/scanner-worker/src/browser-observation-janitor.ts`): a pass lists the oldest observations whose storage is not
marked cleaned, a page of them, and cleans up the run of each; then it reconciles what the runs cost.

An observation that ended without a run has nothing to clean up and is not marked, so it is listed again and again.
A page full of such leaves no room for the others. So a pass cleans up after at least one of the observations with a
run exactly where fewer observations without one are listed before the first of them than a page holds
(`janitor_progresses_iff`).
-/

namespace Coinslot

open List Option Dict

/-! ## The pass -/

/-- What is listed of an observation: under its identifier, how to find its run. -/
structure ObservationCandidate where
  observationId : String
  operationId : String
  actorId : String
  apifyRunId : Option String
  deriving DecidableEq, Repr

/-- The provider of the runs, as it answers in one pass: the `i`-th candidate's calls. -/
structure BrowserProvider where
  findRecentRun : Nat → String → String → Int → Except String (Option String)
  abort : Nat → String → Except String Unit
  cleanup : Nat → String → Except String Unit
  getUsage : Nat → String → Except String (Option Rat)

/-- What a pass does that is seen: a run is aborted, or cleaned up, and what it reports. -/
inductive JanitorNotice where
  | aborted (runId : String)
  | cleanedUp (runId : String)
  | cleanupError (observationId : String)
  | usageError (observationId : String)
  | budgetExceeded (observationId : String) (dayTotalUsd : Rat)
  deriving DecidableEq, Repr

variable {Doc : Type}

/-- Whether an observation is over, ended so long ago, and has a column that is not filled yet. -/
def overSince (now minutes : Int) (column : ObservationRow Doc → Option Int) (row : ObservationRow Doc) : Bool :=
  row.status.terminal && (column row).isNone &&
    row.finishedAt.any fun finishedAt => finishedAt < now - minutes * 60000

def candidateOf (entry : String × ObservationRow Doc) : ObservationCandidate :=
  ⟨entry.1, entry.2.operationId, entry.2.actorId, entry.2.apifyRunId⟩

namespace ObservationDb

variable (db : ObservationDb Doc) (planner : Rows.Planner)

/-- The observations a condition holds of, those that ended first first. -/
def oldestFirst (p : ObservationRow Doc → Bool) : List (String × ObservationRow Doc) :=
  (planner.scan (db.observations.entries.filter fun entry => p entry.2)).mergeSort fun entry other =>
    entry.2.finishedAt.getD 0 ≤ other.2.finishedAt.getD 0

def pageSize (limit : Option Int) : Nat := (min 1000 (max 1 (limit.getD 100))).toNat

/-- The observations whose storage is not marked cleaned. -/
def listCleanupCandidates (now : Int) (limit : Option Int) : List ObservationCandidate :=
  ((db.oldestFirst planner (overSince now 5 ObservationRow.storageCleanedAt)).take (pageSize limit)).map candidateOf

def listUsageReconciliationCandidates (now : Int) (limit : Option Int) : List ObservationCandidate :=
  ((db.oldestFirst planner (overSince now 30 ObservationRow.usageReconciledAt)).take (pageSize limit)).map candidateOf

end ObservationDb

/-- What a pass is given. -/
structure JanitorPass where
  planner : Rows.Planner
  provider : BrowserProvider
  now : Int
  limit : Option Int := none
  usageLimit : Option Int := none
  dailyBudgetUsd : Option Rat := none

namespace JanitorPass

variable (pass : JanitorPass)

/-- The run of a candidate: the one it was given, or one the provider finds. -/
def runOf (i : Nat) (candidate : ObservationCandidate) : Except String (Option String) :=
  match candidate.apifyRunId.filter (· ≠ "") with
  | some runId => .ok (some runId)
  | none => pass.provider.findRecentRun i candidate.actorId candidate.operationId (pass.now - 24 * 60 * 60 * 1000)

/-- Cleans up after one candidate. That a run cannot be aborted is passed over. -/
def cleanUp (i : Nat) (candidate : ObservationCandidate) (db : ObservationDb Doc) :
    ObservationDb Doc × List JanitorNotice :=
  match pass.runOf i candidate with
  | .error _ => (db, [.cleanupError candidate.observationId])
  | .ok none => (db, [])
  | .ok (some runId) =>
    let aborted := match pass.provider.abort i runId with
      | .ok _ => [.aborted runId]
      | .error _ => []
    match pass.provider.cleanup i runId with
    | .error _ => (db, aborted ++ [.cleanupError candidate.observationId])
    | .ok _ => ((db.markStorageCleaned candidate.observationId runId pass.now).1, aborted ++ [.cleanedUp runId])

/-- Cleans up after a page of candidates, one after another. -/
def cleanUps : Nat → List ObservationCandidate → ObservationDb Doc → ObservationDb Doc × List JanitorNotice
  | _, [], db => (db, [])
  | i, candidate :: rest, db =>
    let first := pass.cleanUp i candidate db
    let after := cleanUps (i + 1) rest first.1
    (after.1, first.2 ++ after.2)

/-- What a run cost, as the provider reports it. -/
def usageOf (i : Nat) (candidate : ObservationCandidate) : Except String (String × Rat) := do
  match ← pass.runOf i candidate with
  | none => .error "provider_run_unavailable"
  | some runId =>
    match ← pass.provider.getUsage i runId with
    | none => .error "provider_usage_unavailable"
    | some usageUsd => .ok (runId, usageUsd)

/-- Reconciles the usage of one candidate, or settles it as used where the provider does not tell. -/
def reconcile (i : Nat) (candidate : ObservationCandidate) (db : ObservationDb Doc) :
    ObservationDb Doc × List JanitorNotice :=
  let settled := match pass.usageOf i candidate with
    | .ok (runId, usageUsd) => (db.reconcileUsage candidate.observationId runId (some usageUsd) pass.now, [])
    | .error _ =>
      (db.settleUsageConservatively candidate.observationId pass.now,
        [JanitorNotice.usageError candidate.observationId])
  let result := settled.1.2
  (settled.1.1, settled.2 ++
    if result.state ≠ .missing ∧ pass.dailyBudgetUsd.any (· < result.dayTotalUsd) then
      [.budgetExceeded candidate.observationId result.dayTotalUsd]
    else [])

/-- Reconciles a page of candidates, one after another. -/
def reconciles : Nat → List ObservationCandidate → ObservationDb Doc → ObservationDb Doc × List JanitorNotice
  | _, [], db => (db, [])
  | i, candidate :: rest, db =>
    let first := pass.reconcile i candidate db
    let after := reconciles (i + 1) rest first.1
    (after.1, first.2 ++ after.2)

/-- A pass (`cleanupBrowserObservationOrphans`). -/
def cleanupBrowserObservationOrphans (db : ObservationDb Doc) : ObservationDb Doc × List JanitorNotice :=
  let cleaned := pass.cleanUps 0 (db.listCleanupCandidates pass.planner pass.now pass.limit) db
  let reconciled := pass.reconciles 0
    (cleaned.1.listUsageReconciliationCandidates pass.planner pass.now pass.usageLimit) cleaned.1
  (reconciled.1, cleaned.2 ++ reconciled.2)

end JanitorPass

def janitor : Reactor (ObservationDb Doc) JanitorPass JanitorNotice Empty where
  react db pass := .ok (pass.cleanupBrowserObservationOrphans db)

/-! ## What is left to clean up -/

def ObservationRow.attached (row : ObservationRow Doc) : Bool := row.apifyRunId.any (· ≠ "")

/-- Whether an observation is past the cutoff, with a run whose storage is not marked cleaned. -/
def leftover (now : Int) (row : ObservationRow Doc) : Bool :=
  overSince now 5 ObservationRow.storageCleanedAt row && row.attached

/-- The observations that are left to clean up after. -/
def ObservationDb.leftovers (now : Int) (db : ObservationDb Doc) : List String :=
  (db.observations.entries.filter fun entry => leftover now entry.2).map Prod.fst

/-- The provider answers every call. -/
structure BrowserProvider.Answers (provider : BrowserProvider) : Prop where
  findRecentRun : ∀ i actorId operationId since,
    ∃ found, provider.findRecentRun i actorId operationId since = .ok found
  abort : ∀ i runId, provider.abort i runId = .ok ()
  cleanup : ∀ i runId, provider.cleanup i runId = .ok ()
  getUsage : ∀ i runId, ∃ usage, provider.getUsage i runId = .ok usage

/-- A pass cleans up after an observation that is left: its run is cleaned up, and its storage is marked cleaned. -/
def JanitorPass.CleansOne (pass : JanitorPass) (db : ObservationDb Doc) : Prop :=
  ∃ id row runId, db.observations.get id = some row ∧ leftover pass.now row = true ∧ row.apifyRunId = some runId ∧
    .cleanedUp runId ∈ (pass.cleanupBrowserObservationOrphans db).2 ∧
    ∃ row', (pass.cleanupBrowserObservationOrphans db).1.observations.get id = some row' ∧
      row'.storageCleanedAt = some pass.now

/-- Fewer observations without a run are listed before the first with one than a page holds. -/
def JanitorPass.HasRoom (pass : JanitorPass) (db : ObservationDb Doc) : Prop :=
  ((db.oldestFirst pass.planner (overSince pass.now 5 ObservationRow.storageCleanedAt)).takeWhile
    fun entry => !entry.2.attached).length < ObservationDb.pageSize pass.limit

/-- What of an observation the cleaning up is about. -/
structure StoredRun where
  status : ObservationStatus
  finishedAt : Option Int
  apifyRunId : Option String
  storageCleanedAt : Option Int
  deriving DecidableEq, Repr

def ObservationRow.storedRun (row : ObservationRow Doc) : StoredRun :=
  ⟨row.status, row.finishedAt, row.apifyRunId, row.storageCleanedAt⟩

/-- What of an observation the cleaning up is about, where there is one. -/
def ObservationDb.storedRun (db : ObservationDb Doc) (id : String) : Option StoredRun :=
  (db.observations.get id).map ObservationRow.storedRun

variable {now : Int} {row : ObservationRow Doc}

theorem leftover_congr {row' : ObservationRow Doc} (h : row.storedRun = row'.storedRun) :
    leftover now row = leftover now row' := by
  simp only [ObservationRow.storedRun, StoredRun.mk.injEq] at h
  obtain ⟨hstatus, hfinished, hrun, hcleaned⟩ := h
  simp only [leftover, overSince, ObservationRow.attached, hstatus, hfinished, hrun, hcleaned]

variable {id : String}

theorem mem_leftovers {db : ObservationDb Doc} :
    id ∈ db.leftovers now ↔ ∃ row, db.observations.get id = some row ∧ leftover now row = true := by
  simp only [ObservationDb.leftovers, List.mem_map, mem_filter, Prod.exists, exists_and_right, exists_eq_right,
    get_eq_some_iff]

theorem nodup_leftovers (now : Int) (db : ObservationDb Doc) : (db.leftovers now).Nodup :=
  db.observations.distinct.sublist (filter_sublist.map _)

/-! ## What is listed -/

variable {db : ObservationDb Doc} {pass : JanitorPass} {p : ObservationRow Doc → Bool}

variable {entry : String × ObservationRow Doc}

section

variable (planner : Rows.Planner)

theorem mem_oldestFirst :
    entry ∈ db.oldestFirst planner p ↔ db.observations.get entry.1 = some entry.2 ∧ p entry.2 = true := by
  rw [ObservationDb.oldestFirst, (mergeSort_perm _ _).mem_iff, (planner.perm _).mem_iff, mem_filter, get_eq_some_iff]

theorem nodup_oldestFirst : ((db.oldestFirst planner p).map Prod.fst).Nodup := by
  have hperm := ((mergeSort_perm (planner.scan (db.observations.entries.filter fun entry => p entry.2))
    fun entry other => decide (entry.2.finishedAt.getD 0 ≤ other.2.finishedAt.getD 0)).trans
      (planner.perm _)).map Prod.fst
  exact hperm.nodup_iff.2 (db.observations.distinct.sublist (filter_sublist.map _))

theorem sorted_oldestFirst : (db.oldestFirst planner p).Pairwise fun entry other =>
      entry.2.finishedAt.getD 0 ≤ other.2.finishedAt.getD 0 := by
  refine (pairwise_mergeSort (fun a b c hab hbc => ?_) (fun a b => ?_) _).imp of_decide_eq_true
  · simp only [decide_eq_true_eq] at hab hbc ⊢
    omega
  · simp only [Bool.or_eq_true, decide_eq_true_eq]
    omega

theorem first_attached (h : db.leftovers now ≠ []) :
    ∃ before entry after, db.oldestFirst planner (overSince now 5 ObservationRow.storageCleanedAt) =
        before ++ entry :: after ∧ (∀ other ∈ before, other.2.attached = false) ∧ entry.2.attached = true ∧
      (db.oldestFirst planner (overSince now 5 ObservationRow.storageCleanedAt)).takeWhile
        (fun entry => !entry.2.attached) = before := by
  obtain ⟨id, hid⟩ := exists_mem_of_ne_nil _ h
  obtain ⟨row, hget, hleft⟩ := mem_leftovers.1 hid
  obtain ⟨hover, hattached⟩ := Bool.and_eq_true_iff.1 hleft
  have hmem : (id, row) ∈ db.oldestFirst planner (overSince now 5 ObservationRow.storageCleanedAt) :=
    (mem_oldestFirst planner).2 ⟨hget, hover⟩
  generalize db.oldestFirst planner (overSince now 5 ObservationRow.storageCleanedAt) = listed at hmem
  induction listed with
  | nil => exact absurd hmem not_mem_nil
  | cons first listed ih =>
    cases hfirst : first.2.attached with
    | true =>
      refine ⟨[], first, listed, rfl, fun _ hother => absurd hother not_mem_nil, hfirst, ?_⟩
      rw [takeWhile_cons_of_neg (by simp [hfirst])]
    | false =>
      have hrest : (id, row) ∈ listed := by
        rcases mem_cons.1 hmem with heq | hrest
        · rw [← heq, hattached] at hfirst
          cases hfirst
        · exact hrest
      obtain ⟨before, entry, after, rfl, hbefore, hentry, htake⟩ := ih hrest
      refine ⟨first :: before, entry, after, rfl, forall_mem_cons.2 ⟨hfirst, hbefore⟩, hentry, ?_⟩
      rw [takeWhile_cons_of_pos (by simp [hfirst]), htake]

end

/-! ## What a pass changes -/

/-- An observation is as it was, or its storage is marked cleaned. -/
def Marks (now : Int) (db db' : ObservationDb Doc) (id : String) : Prop :=
  db'.storedRun id = db.storedRun id ∨
    (db.storedRun id).isSome = true ∧ ∃ stored, db'.storedRun id = some stored ∧ stored.storageCleanedAt = some now

theorem Marks.trans {db' db'' : ObservationDb Doc} (h : Marks now db db' id)
    (h' : Marks now db' db'' id) : Marks now db db'' id := by
  rcases h' with heq | ⟨hsome, hmarked⟩
  · rcases h with heq' | ⟨hsome, stored, hstored, hmarked⟩
    · exact .inl (heq.trans heq')
    · exact .inr ⟨hsome, stored, heq.trans hstored, hmarked⟩
  · rcases h with heq' | ⟨hsome', -⟩
    · exact .inr ⟨heq' ▸ hsome, hmarked⟩
    · exact .inr ⟨hsome', hmarked⟩

theorem markStorageCleaned_of_ne (db : ObservationDb Doc) {other : String} (h : other ≠ id) (runId : String)
    (t : Int) : (db.markStorageCleaned id runId t).1.observations.get other = db.observations.get other := by
  unfold ObservationDb.markStorageCleaned
  split
  · rfl
  · split
    · exact get_set_ne _ _ h
    · rfl

theorem markStorageCleaned_of_run {runId : String}
    (h : db.observations.get id = some row) (hopen : row.storageCleanedAt = none) (hrun : row.apifyRunId = some runId)
    (t : Int) : (db.markStorageCleaned id runId t).1.observations.get id =
      some { row with apifyRunId := some runId, storageCleanedAt := some t, updatedAt := t } := by
  simp only [ObservationDb.markStorageCleaned, h, hopen, hrun, isNone_none, isNone_some, Bool.false_or,
    decide_true, Bool.and_self, if_true]
  exact get_set_self _ _ _

theorem markStorageCleaned_marks (db : ObservationDb Doc) (id runId : String) (t : Int) (other : String) :
    Marks t db (db.markStorageCleaned id runId t).1 other := by
  by_cases hne : other = id
  · subst hne
    unfold ObservationDb.markStorageCleaned
    split
    · exact .inl rfl
    · next row hrow =>
      split
      · refine .inr ⟨by rw [ObservationDb.storedRun, hrow]; rfl, ?_⟩
        refine ⟨_, congrArg (Option.map ObservationRow.storedRun) (get_set_self _ _ _), rfl⟩
      · exact .inl rfl
  · exact .inl (congrArg (Option.map ObservationRow.storedRun) (markStorageCleaned_of_ne db hne runId t))

theorem cleanUp_of_ne (i : Nat) {candidate : ObservationCandidate} (h : id ≠ candidate.observationId) :
    (pass.cleanUp i candidate db).1.observations.get id = db.observations.get id := by
  unfold JanitorPass.cleanUp
  split
  · rfl
  · rfl
  · dsimp only
    split
    · rfl
    · exact markStorageCleaned_of_ne db h _ _

theorem cleanUp_marks (i : Nat) (candidate : ObservationCandidate) (id : String) :
    Marks pass.now db (pass.cleanUp i candidate db).1 id := by
  unfold JanitorPass.cleanUp
  split
  · exact .inl rfl
  · exact .inl rfl
  · dsimp only
    split
    · exact .inl rfl
    · exact markStorageCleaned_marks db _ _ _ _

theorem cleanUps_of_not_mem {page : List ObservationCandidate}
    (h : id ∉ page.map ObservationCandidate.observationId) (i : Nat) :
    (pass.cleanUps i page db).1.observations.get id = db.observations.get id := by
  induction page generalizing i db with
  | nil => rfl
  | cons candidate page ih =>
    rw [map_cons, mem_cons, not_or] at h
    exact (ih h.2 (i + 1)).trans (cleanUp_of_ne i h.1)

theorem cleanUps_marks (page : List ObservationCandidate) (i : Nat) (id : String) :
    Marks pass.now db (pass.cleanUps i page db).1 id := by
  induction page generalizing i db with
  | nil => exact .inl rfl
  | cons candidate page ih => exact (cleanUp_marks i candidate id).trans (ih (i + 1))

theorem cleanUp_attached (hanswers : pass.provider.Answers) {candidate : ObservationCandidate} {runId : String}
    (hrun : candidate.apifyRunId = some runId) (hne : runId ≠ "") (i : Nat) :
    (pass.cleanUp i candidate db).1 = (db.markStorageCleaned candidate.observationId runId pass.now).1 ∧
      .cleanedUp runId ∈ (pass.cleanUp i candidate db).2 := by
  have hown : pass.runOf i candidate = .ok (some runId) := by
    rw [JanitorPass.runOf, hrun, filter_some_pos (by simpa using hne)]
  simp only [JanitorPass.cleanUp, hown, hanswers.cleanup i runId]
  exact ⟨trivial, mem_append_right _ (mem_singleton_self _)⟩

/-- **Whoever is on the page with a run is cleaned up after.** -/
theorem cleanUps_attached (hanswers : pass.provider.Answers) {page : List ObservationCandidate}
    (hnodup : (page.map ObservationCandidate.observationId).Nodup) {candidate : ObservationCandidate}
    (hmem : candidate ∈ page) {runId : String} (hrun : candidate.apifyRunId = some runId) (hne : runId ≠ "")
    {row : ObservationRow Doc} (hget : db.observations.get candidate.observationId = some row)
    (hopen : row.storageCleanedAt = none) (hrow : row.apifyRunId = some runId) (i : Nat) :
    .cleanedUp runId ∈ (pass.cleanUps i page db).2 ∧
      ∃ row', (pass.cleanUps i page db).1.observations.get candidate.observationId = some row' ∧
        row'.storageCleanedAt = some pass.now := by
  induction page generalizing i db with
  | nil => exact absurd hmem not_mem_nil
  | cons first page ih =>
    obtain ⟨hfirst, hnodup⟩ := nodup_cons.1 hnodup
    rcases mem_cons.1 hmem with rfl | hmem
    · obtain ⟨hdb, hnotice⟩ := @cleanUp_attached _ db _ hanswers candidate _ hrun hne i
      refine ⟨mem_append_left _ hnotice,
        { row with apifyRunId := some runId, storageCleanedAt := some pass.now, updatedAt := pass.now },
        (cleanUps_of_not_mem hfirst (i + 1)).trans ?_, rfl⟩
      rw [hdb, markStorageCleaned_of_run hget hopen hrow]
    · have hother : candidate.observationId ≠ first.observationId := by
        intro heq
        exact hfirst (heq ▸ List.mem_map_of_mem hmem)
      obtain ⟨hnotice, hmarked⟩ := ih hnodup hmem ((cleanUp_of_ne i hother).trans hget) (i + 1)
      exact ⟨mem_append_right _ hnotice, hmarked⟩

theorem reconciled_storedRun (h : db.observations.get id = some row)
    (usageUsd deltaUsd : Rat) (t : Int) (other : String) :
    (db.reconciled id row usageUsd deltaUsd t).1.storedRun other = db.storedRun other := by
  by_cases hne : other = id
  · subst hne
    rw [ObservationDb.storedRun, ObservationDb.storedRun, h]
    exact (congrArg (Option.map ObservationRow.storedRun) (get_set_self _ _ _)).trans rfl
  · exact congrArg (Option.map ObservationRow.storedRun) (get_set_ne _ _ hne)

theorem reconcile_storedRun (i : Nat) (candidate : ObservationCandidate) (id : String) :
    (pass.reconcile i candidate db).1.storedRun id = db.storedRun id := by
  have hreconcile (observationId runId : String) (usageUsd : Option Rat) (t : Int) :
      (db.reconcileUsage observationId runId usageUsd t).1.storedRun id = db.storedRun id := by
    unfold ObservationDb.reconcileUsage
    split
    · rfl
    · next row hrow =>
      split
      · rfl
      · exact reconciled_storedRun hrow _ _ _ _
  have hsettle (observationId : String) (t : Int) :
      (db.settleUsageConservatively observationId t).1.storedRun id = db.storedRun id := by
    unfold ObservationDb.settleUsageConservatively
    split
    · rfl
    · next row hrow =>
      split
      · rfl
      · exact reconciled_storedRun hrow _ _ _ _
  unfold JanitorPass.reconcile
  split
  · exact hreconcile _ _ _ _
  · exact hsettle _ _

theorem reconciles_storedRun (page : List ObservationCandidate) (i : Nat) (id : String) :
    (pass.reconciles i page db).1.storedRun id = db.storedRun id := by
  induction page generalizing i db with
  | nil => rfl
  | cons candidate page ih => exact (ih (i + 1)).trans (reconcile_storedRun i candidate id)

theorem pass_marks (pass : JanitorPass) (db : ObservationDb Doc) (id : String) :
    Marks pass.now db (pass.cleanupBrowserObservationOrphans db).1 id := by
  refine (cleanUps_marks (db.listCleanupCandidates pass.planner pass.now pass.limit) 0 id).trans (.inl ?_)
  exact reconciles_storedRun _ 0 id

/-! ## Progress -/

variable {before after : List (String × ObservationRow Doc)}

/-- **Where there is room, the first observation with a run is cleaned up after.** -/
theorem pass_first (hanswers : pass.provider.Answers)
    (hlisted : db.oldestFirst pass.planner (overSince pass.now 5 ObservationRow.storageCleanedAt) =
      before ++ entry :: after) (hattached : entry.2.attached = true)
    (hroom : before.length < ObservationDb.pageSize pass.limit) :
    ∃ runId, entry.2.apifyRunId = some runId ∧ .cleanedUp runId ∈ (pass.cleanupBrowserObservationOrphans db).2 ∧
      ∃ row', (pass.cleanupBrowserObservationOrphans db).1.observations.get entry.1 = some row' ∧
        row'.storageCleanedAt = some pass.now := by
  have hmem : entry ∈ db.oldestFirst pass.planner (overSince pass.now 5 ObservationRow.storageCleanedAt) := by
    rw [hlisted]
    exact mem_append_right _ (mem_cons_self ..)
  obtain ⟨hget, hover⟩ := (mem_oldestFirst pass.planner).1 hmem
  have hopen : entry.2.storageCleanedAt = none := by
    simp only [overSince, Bool.and_eq_true, isNone_iff_eq_none] at hover
    exact hover.1.2
  obtain ⟨runId, hrun, hne⟩ := (Option.any_eq_true _ _).1 hattached
  have hne : runId ≠ "" := of_decide_eq_true hne
  have hpage : candidateOf entry ∈ db.listCleanupCandidates pass.planner pass.now pass.limit := by
    refine List.mem_map_of_mem ?_
    obtain ⟨k, hk⟩ : ∃ k, ObservationDb.pageSize pass.limit - before.length = k + 1 :=
      ⟨ObservationDb.pageSize pass.limit - before.length - 1, by omega⟩
    rw [hlisted, take_append, hk, take_succ_cons]
    exact mem_append_right _ (mem_cons_self ..)
  have hnodup : ((db.listCleanupCandidates pass.planner pass.now pass.limit).map
      ObservationCandidate.observationId).Nodup := by
    rw [ObservationDb.listCleanupCandidates, List.map_map]
    exact (nodup_oldestFirst pass.planner).sublist ((take_sublist _ _).map _)
  obtain ⟨hnotice, row', hrow', hmarked⟩ := cleanUps_attached hanswers hnodup hpage hrun hne hget hopen hrun 0
  refine ⟨runId, hrun, mem_append_left _ hnotice, ?_⟩
  -- the usage is reconciled afterwards, which leaves the mark
  have hstored : (pass.cleanupBrowserObservationOrphans db).1.storedRun entry.1 = some row'.storedRun := by
    refine (reconciles_storedRun _ 0 entry.1).trans ?_
    exact congrArg (Option.map ObservationRow.storedRun) hrow'
  obtain ⟨row'', hrow'', heq⟩ := map_eq_some_iff.1 hstored
  exact ⟨row'', hrow'', (congrArg StoredRun.storageCleanedAt heq).trans hmarked⟩

/-- **What a pass without room leaves.** No observation with a run is on a page that is full before the first. -/
theorem pass_without_room
    (hlisted : db.oldestFirst pass.planner (overSince pass.now 5 ObservationRow.storageCleanedAt) = before ++ after)
    (hbefore : ∀ other ∈ before, other.2.attached = false)
    (hroom : ObservationDb.pageSize pass.limit ≤ before.length)
    (hget : db.observations.get id = some row) (hattached : row.attached = true) :
    (pass.cleanupBrowserObservationOrphans db).1.storedRun id = db.storedRun id := by
  have hnot : id ∉ (db.listCleanupCandidates pass.planner pass.now pass.limit).map
      ObservationCandidate.observationId := by
    rw [ObservationDb.listCleanupCandidates, hlisted, take_append_of_le_length hroom, List.map_map]
    intro hmem
    obtain ⟨entry, hentry, rfl⟩ := List.mem_map.1 hmem
    have hin := mem_of_mem_take hentry
    have hheld : entry ∈ db.oldestFirst pass.planner (overSince pass.now 5 ObservationRow.storageCleanedAt) :=
      hlisted ▸ mem_append_left _ hin
    cases hget.symm.trans ((mem_oldestFirst pass.planner).1 hheld).1
    rw [hbefore entry hin] at hattached
    cases hattached
  refine (reconciles_storedRun _ 0 id).trans ?_
  exact congrArg (Option.map ObservationRow.storedRun) (cleanUps_of_not_mem hnot 0)

theorem leftovers_pass
    (h : id ∈ (pass.cleanupBrowserObservationOrphans db).1.leftovers now) : id ∈ db.leftovers now := by
  obtain ⟨row', hget', hleft⟩ := mem_leftovers.1 h
  have hstored' : (pass.cleanupBrowserObservationOrphans db).1.storedRun id = some row'.storedRun := by
    rw [ObservationDb.storedRun, hget']
    rfl
  rcases pass_marks pass db id with heq | ⟨-, stored, hstored, hmarked⟩
  · obtain ⟨row, hget, hrow⟩ := map_eq_some_iff.1 (heq.symm.trans hstored')
    exact mem_leftovers.2 ⟨row, hget, (leftover_congr hrow).trans hleft⟩
  · obtain rfl := Option.some.inj (hstored.symm.trans hstored')
    simp only [leftover, overSince, Bool.and_eq_true, isNone_iff_eq_none] at hleft
    cases hleft.1.1.2.symm.trans hmarked

theorem leftover_mono {later : Int} (hnow : now ≤ later)
    (h : leftover now row = true) : leftover later row = true := by
  simp only [leftover, overSince, Bool.and_eq_true, Option.any_eq_true, decide_eq_true_eq] at h ⊢
  obtain ⟨⟨hover, finishedAt, hfinished, hlt⟩, hattached⟩ := h
  exact ⟨⟨hover, finishedAt, hfinished, by omega⟩, hattached⟩

theorem leftovers_mono {later : Int} (hnow : now ≤ later) (hsome : db.leftovers now ≠ []) :
    db.leftovers later ≠ [] := by
  obtain ⟨id, hid⟩ := exists_mem_of_ne_nil _ hsome
  obtain ⟨row, hget, hleft⟩ := mem_leftovers.1 hid
  exact ne_nil_of_mem (mem_leftovers.2 ⟨row, hget, leftover_mono hnow hleft⟩)

theorem first_is_leftover {later : Int} (planner : Rows.Planner) (hnow : now ≤ later) (hsome : db.leftovers now ≠ [])
    (hlisted : db.oldestFirst planner (overSince later 5 ObservationRow.storageCleanedAt) = before ++ entry :: after)
    (hbefore : ∀ other ∈ before, other.2.attached = false) (hattached : entry.2.attached = true) :
    entry.1 ∈ db.leftovers now := by
  obtain ⟨id, hid⟩ := exists_mem_of_ne_nil _ hsome
  obtain ⟨row, hget, hleft⟩ := mem_leftovers.1 hid
  have hmem : (id, row) ∈ db.oldestFirst planner (overSince later 5 ObservationRow.storageCleanedAt) :=
    (mem_oldestFirst planner).2 ⟨hget, (Bool.and_eq_true_iff.1 (leftover_mono hnow hleft)).1⟩
  have hsorted := @sorted_oldestFirst _ db (overSince later 5 ObservationRow.storageCleanedAt) planner
  have hheld : entry ∈ db.oldestFirst planner (overSince later 5 ObservationRow.storageCleanedAt) := by
    rw [hlisted]
    exact mem_append_right _ (mem_cons_self ..)
  have hentry := (mem_oldestFirst planner).1 hheld
  rw [hlisted] at hmem hsorted
  have hearlier : entry.2.finishedAt.getD 0 ≤ row.finishedAt.getD 0 := by
    obtain ⟨-, hrest, -⟩ := pairwise_append.1 hsorted
    rcases mem_append.1 hmem with hin | hin
    · have := hbefore _ hin
      rw [(Bool.and_eq_true_iff.1 hleft).2] at this
      cases this
    · rcases mem_cons.1 hin with rfl | hin
      · exact Int.le_refl _
      · exact (pairwise_cons.1 hrest).1 _ hin
  refine mem_leftovers.2 ⟨entry.2, hentry.1, ?_⟩
  obtain ⟨-, hover⟩ := hentry
  simp only [leftover, overSince, Bool.and_eq_true, Option.any_eq_true, decide_eq_true_eq] at hover hleft ⊢
  obtain ⟨hover, finishedAt, hfinished, -⟩ := hover
  obtain ⟨⟨-, finishedAt', hfinished', hlt⟩, -⟩ := hleft
  rw [hfinished, hfinished'] at hearlier
  exact ⟨⟨hover, finishedAt, hfinished, Int.lt_of_le_of_lt hearlier hlt⟩, hattached⟩

/-- **A pass with room leaves over less.** -/
theorem pass_leaves_less (hanswers : pass.provider.Answers) (hnow : now ≤ pass.now)
    (hsome : db.leftovers now ≠ []) (hroom : pass.HasRoom db) :
    ((pass.cleanupBrowserObservationOrphans db).1.leftovers now).length < (db.leftovers now).length := by
  obtain ⟨before, entry, after, hlisted, hbefore, hattached, htake⟩ :=
    first_attached pass.planner (leftovers_mono hnow hsome)
  rw [JanitorPass.HasRoom, htake] at hroom
  obtain ⟨runId, -, -, row', hget', hmarked⟩ := pass_first hanswers hlisted hattached hroom
  have hgone : entry.1 ∉ (pass.cleanupBrowserObservationOrphans db).1.leftovers now := by
    intro hmem
    obtain ⟨row, hget, hleft⟩ := mem_leftovers.1 hmem
    obtain rfl := Option.some.inj (hget.symm.trans hget')
    simp only [leftover, overSince, Bool.and_eq_true, isNone_iff_eq_none] at hleft
    cases hleft.1.1.2.symm.trans hmarked
  have hnodup := nodup_cons.2 ⟨hgone, nodup_leftovers now (pass.cleanupBrowserObservationOrphans db).1⟩
  have hsubset : entry.1 :: (pass.cleanupBrowserObservationOrphans db).1.leftovers now ⊆ db.leftovers now := by
    intro id hid
    rcases mem_cons.1 hid with rfl | hid
    · exact first_is_leftover pass.planner hnow hsome hlisted hbefore hattached
    · exact leftovers_pass hid
  exact (hnodup.subperm hsubset).length_le

/-- **A pass cleans up after one exactly where there is room.** -/
theorem cleansOne_iff (pass : JanitorPass) (db : ObservationDb Doc) (hanswers : pass.provider.Answers)
    (hsome : db.leftovers pass.now ≠ []) : pass.CleansOne db ↔ pass.HasRoom db := by
  obtain ⟨before, entry, after, hlisted, hbefore, hattached, htake⟩ := first_attached pass.planner hsome
  rw [JanitorPass.HasRoom, htake]
  constructor
  · rintro ⟨id, row, runId, hget, hleft, -, -, row', hget', hmarked⟩
    by_contra hfull
    have hsame := pass_without_room hlisted hbefore (Nat.le_of_not_lt hfull) hget (Bool.and_eq_true_iff.1 hleft).2
    rw [ObservationDb.storedRun, ObservationDb.storedRun, hget, hget'] at hsame
    have hcleaned := congrArg StoredRun.storageCleanedAt (Option.some.inj hsame)
    simp only [leftover, overSince, Bool.and_eq_true, isNone_iff_eq_none] at hleft
    cases hleft.1.1.2.symm.trans (hcleaned.symm.trans hmarked)
  · intro hroom
    obtain ⟨runId, hrun, hnotice, hmarked⟩ := pass_first hanswers hlisted hattached hroom
    obtain ⟨row, hget, hleft⟩ := mem_leftovers.1
      (first_is_leftover pass.planner le_rfl hsome hlisted hbefore hattached)
    have hentry : entry ∈ db.oldestFirst pass.planner (overSince pass.now 5 ObservationRow.storageCleanedAt) :=
      hlisted ▸ mem_append_right _ (mem_cons_self ..)
    cases hget.symm.trans ((mem_oldestFirst pass.planner).1 hentry).1
    exact ⟨entry.1, entry.2, runId, hget, hleft, hrun, hnotice, hmarked⟩

/-- **Passes with room clean up after all.** -/
theorem run_cleans_all (passes : List JanitorPass) (db : ObservationDb Doc)
    (hpasses : ∀ pass ∈ passes, pass.provider.Answers ∧ now ≤ pass.now)
    (hmeets : janitor.Meets (fun db pass => db.leftovers now ≠ [] → pass.HasRoom db) db passes)
    (hfew : (db.leftovers now).length ≤ passes.length) : (janitor.run db passes).leftovers now = [] := by
  induction passes generalizing db with
  | nil => exact eq_nil_of_length_eq_zero (Nat.le_zero.1 hfew)
  | cons pass passes ih =>
    obtain ⟨⟨hanswers, hnow⟩, hpasses⟩ := forall_mem_cons.1 hpasses
    obtain ⟨hroom, hmeets⟩ := hmeets
    refine ih (pass.cleanupBrowserObservationOrphans db).1 hpasses hmeets ?_
    by_cases hsome : db.leftovers now = []
    · have hnone : (pass.cleanupBrowserObservationOrphans db).1.leftovers now = [] :=
        eq_nil_iff_forall_not_mem.2 fun id hid => not_mem_nil (hsome ▸ leftovers_pass hid)
      rw [hnone]
      exact Nat.zero_le _
    · have := pass_leaves_less hanswers hnow hsome (hroom hsome)
      rw [length_cons] at hfew
      omega

/-- **The janitor makes progress where there is room.** For every table in which an observation with a run is left,
and a provider that answers every call: a pass cleans up after at least one such observation exactly where fewer
observations without a run are listed before the first with one than a page holds. In a run of passes of which each
has room while anything is left, as many passes as there are such observations clean up after them all. -/
theorem janitor_progresses_iff :
    (∀ (pass : JanitorPass) (db : ObservationDb Doc), pass.provider.Answers → db.leftovers pass.now ≠ [] →
      (pass.CleansOne db ↔ pass.HasRoom db)) ∧
    ∀ (now : Int) (passes : List JanitorPass) (db : ObservationDb Doc),
      (∀ pass ∈ passes, pass.provider.Answers ∧ now ≤ pass.now) →
      janitor.Meets (fun db pass => db.leftovers now ≠ [] → pass.HasRoom db) db passes →
      (db.leftovers now).length ≤ passes.length → (janitor.run db passes).leftovers now = [] :=
  ⟨cleansOne_iff, fun _ => run_cleans_all⟩

/-! ## Room, and none -/

theorem oldestFirst_of_sorted {planner : Rows.Planner}
    (hscan : ∀ rows : List (String × ObservationRow Doc), planner.scan rows = rows)
    (hsorted : (db.observations.entries.filter fun entry => p entry.2).Pairwise fun entry other =>
      decide (entry.2.finishedAt.getD 0 ≤ other.2.finishedAt.getD 0) = true) :
    db.oldestFirst planner p = db.observations.entries.filter fun entry => p entry.2 := by
  rw [ObservationDb.oldestFirst, hscan, mergeSort_of_pairwise hsorted]

/-- An observation that failed, with or without a run, at an instant. -/
def failedAt (finishedAt : Int) (runId : Option String) : ObservationRow Unit where
  operationId := "op"
  attemptNo := 1
  actorId := "actor"
  actorBuild := "build"
  status := .failed
  apifyRunId := runId
  leaseToken := none
  leaseExpiresAt := none
  startedAt := none
  finishedAt := some finishedAt
  lastPolledAt := none
  pagesAssessed := 0
  requestCount := 0
  transferredBytes := 0
  durationMs := none
  usageUsd := none
  budgetDay := none
  budgetReservedUsd := 0
  usageReconciledAt := some finishedAt
  storageCleanedAt := none
  failureCode := none
  signals := none
  updatedAt := finishedAt

/-- A provider that answers every call, and knows of no run. -/
def emptyProvider : BrowserProvider where
  findRecentRun _ _ _ _ := .ok none
  abort _ _ := .ok ()
  cleanup _ _ := .ok ()
  getUsage _ _ := .ok none

theorem emptyProvider_answers : emptyProvider.Answers :=
  ⟨fun _ _ _ _ => ⟨none, rfl⟩, fun _ _ => rfl, fun _ _ => rfl, fun _ _ => ⟨none, rfl⟩⟩

/-- A pass an hour in, the database coming upon its rows as they were written. -/
def hourlyPass : JanitorPass where
  planner := ⟨fun rows => rows, fun rows => .refl rows⟩
  provider := emptyProvider
  now := 3600000

/-- An observation that failed before it had a run, and one that failed with one. -/
def twoFailed : ObservationDb Unit where
  observations := (Dict.empty.set "early" (failedAt 0 none)).set "late" (failedAt 1 (some "run"))
  findings := .empty
  days := .empty

theorem hourlyPass_hasRoom : hourlyPass.HasRoom twoFailed := by
  rw [JanitorPass.HasRoom, oldestFirst_of_sorted (fun _ => rfl) (by decide +kernel)]
  decide +kernel

/-- A pass cleans up after the one with a run. -/
theorem late_run_is_cleaned : hourlyPass.CleansOne twoFailed :=
  (janitor_progresses_iff.1 hourlyPass twoFailed emptyProvider_answers (by decide)).2 hourlyPass_hasRoom

/-- As many observations that failed without a run as a page holds, and a later one with a run. -/
def crowded : ObservationDb Unit where
  observations := ⟨(List.range 100).map (fun n => (String.ofList (List.replicate n 'x'), failedAt n none)) ++
      [("late", failedAt 100 (some "run"))], by decide +kernel⟩
  findings := .empty
  days := .empty

/-- A pass over a hundred observations without a run cleans up after none. -/
theorem crowded_out : ¬ ∀ (pass : JanitorPass) (db : ObservationDb Unit), pass.provider.Answers →
    db.leftovers pass.now ≠ [] → pass.CleansOne db := by
  intro h
  have hsome : crowded.leftovers hourlyPass.now ≠ [] := by decide +kernel
  have hroom := (cleansOne_iff hourlyPass crowded emptyProvider_answers hsome).1
    (h hourlyPass crowded emptyProvider_answers hsome)
  rw [JanitorPass.HasRoom, oldestFirst_of_sorted (fun _ => rfl) (by decide +kernel)] at hroom
  revert hroom
  decide +kernel

end Coinslot
