import Coinslot.Scanner.BrowserRuns

/-!
# Leases on observations

What the operations on an observation do to where it stands: its status, and the token of the lease it is
held under. Each is specified once, by what it answers (`claim_spec`, `attachRun_spec`, `heartbeat_spec`,
`complete_spec`, `markTerminal_spec`). None but a reconciliation changes what an observation that is over came
to (`KeepsSettled`).
-/

namespace Coinslot

open Option Dict

/-- Where an observation stands. -/
structure Standing where
  status : ObservationStatus
  leaseToken : Option String
  deriving DecidableEq, Repr

/-- What happened to where observations stand. -/
inductive StandingEvent where
  | still
  | queued (id : String)
  | taken (id leaseToken : String)
  | attached (id : String)
  | ended (id : String)
  deriving DecidableEq, Repr

/-- One row is another, but for the note that what its run stored was cleaned up. -/
def ObservationRow.SameOutcome {Doc : Type} (row row' : ObservationRow Doc) : Prop :=
  row' = { row with
    apifyRunId := row'.apifyRunId
    storageCleanedAt := row'.storageCleanedAt
    updatedAt := row'.updatedAt }

namespace ObservationDb

variable {Doc : Type} {db db' : ObservationDb Doc} {id : String} {row : ObservationRow Doc}

def standing (db : ObservationDb Doc) (id : String) : Option Standing :=
  (db.observations.get id).map fun row => ⟨row.status, row.leaseToken⟩

theorem standing_of_get (h : db.observations.get id = some row) :
    db.standing id = some ⟨row.status, row.leaseToken⟩ := by
  simp [standing, h]

theorem get_of_standing {st : Standing} (h : db.standing id = some st) :
    ∃ row, db.observations.get id = some row ∧ st = ⟨row.status, row.leaseToken⟩ := by
  obtain ⟨row, hrow, hst⟩ := map_eq_some_iff.1 h
  exact ⟨row, hrow, hst.symm⟩

variable {findings : Dict String (List (BrowserFinding Doc))} {days : Dict Int BudgetDayRow}

theorem standing_set (row : ObservationRow Doc) (other : String) :
    (⟨db.observations.set id row, findings, days⟩ : ObservationDb Doc).standing other =
      if other = id then some ⟨row.status, row.leaseToken⟩ else db.standing other := by
  unfold standing
  rw [get_set]
  split <;> rfl

/-- What is over stays as it is: its row, but for that note, and what was found. -/
def KeepsSettled (db db' : ObservationDb Doc) : Prop :=
  ∀ id row, db.observations.get id = some row → row.status.terminal = true →
    (∃ row', db'.observations.get id = some row' ∧ row.SameOutcome row') ∧
      db'.findings.get id = db.findings.get id

theorem KeepsSettled.refl (db : ObservationDb Doc) : db.KeepsSettled db :=
  fun _ row hrow _ => ⟨⟨row, hrow, rfl⟩, rfl⟩

variable {row' : ObservationRow Doc}

theorem KeepsSettled.of_open (hrow : db.observations.get id = some row) (hopen : row.status.terminal = false)
    (hfindings : ∀ other, other ≠ id → findings.get other = db.findings.get other) :
    db.KeepsSettled ⟨db.observations.set id row', findings, days⟩ := by
  intro other found hfound hover
  have hne : other ≠ id := by
    rintro rfl
    cases hrow.symm.trans hfound
    cases hopen.symm.trans hover
  exact ⟨⟨found, by rw [get_set_ne _ _ hne]; exact hfound, rfl⟩, hfindings other hne⟩

theorem KeepsSettled.of_same (hrow : db.observations.get id = some row) (hsame : row.SameOutcome row') :
    db.KeepsSettled ⟨db.observations.set id row', db.findings, days⟩ := by
  intro other found hfound _
  refine ⟨?_, rfl⟩
  by_cases hid : other = id
  · subst hid
    cases hrow.symm.trans hfound
    exact ⟨row', get_set_self _ _ _, hsame⟩
  · exact ⟨found, by rw [get_set_ne _ _ hid]; exact hfound, rfl⟩

/-! ## The operations -/

def SameStanding (db db' : ObservationDb Doc) : Prop := ∀ id, db'.standing id = db.standing id

theorem SameStanding.of_eq (h : db' = db) : db.SameStanding db' := fun id => by rw [h]

theorem SameStanding.of_same (hrow : db.observations.get id = some row) (hstatus : row'.status = row.status)
    (hlease : row'.leaseToken = row.leaseToken) : db.SameStanding ⟨db.observations.set id row', findings, days⟩ := by
  intro other
  rw [standing_set]
  split
  · next ho => rw [ho, standing_of_get hrow, hstatus, hlease]
  · rfl

theorem enqueue_spec (db : ObservationDb Doc) (id operationId actorId actorBuild : String) (t : Int) :
    db.KeepsSettled (db.enqueue id operationId actorId actorBuild t) ∧ ∀ other,
      (db.enqueue id operationId actorId actorBuild t).standing other =
        if other = id ∧ db.standing id = none then some ⟨.queued, none⟩ else db.standing other := by
  unfold enqueue
  split
  · next hhas =>
    refine ⟨.refl db, fun other => ?_⟩
    obtain ⟨row, hrow⟩ := isSome_iff_exists.1 hhas
    simp [standing_of_get hrow]
  · next hnew =>
    have hnone : db.observations.get id = none := by simpa [Dict.has] using hnew
    refine ⟨fun other found hfound _ => ?_, fun other => ?_⟩
    · have hne : other ≠ id := by
        rintro rfl
        cases hnone.symm.trans hfound
      exact ⟨⟨found, by rw [get_set_ne _ _ hne]; exact hfound, rfl⟩, rfl⟩
    · rw [standing_set]
      simp [standing, hnone]

theorem claim_spec (db : ObservationDb Doc) (job : BrowserObservationJob) (now leaseMs : Int) (leaseToken : String) :
    db.KeepsSettled (db.claim job now leaseMs leaseToken).1 ∧ match (db.claim job now leaseMs leaseToken).2 with
      | .claimed observation =>
        observation.id = job.observationId ∧ observation.leaseToken = leaseToken ∧
        (∃ st, db.standing job.observationId = some st ∧ st.status.terminal = false ∧
          observation.resuming = decide (st.status ≠ .queued)) ∧
        ∀ other, (db.claim job now leaseMs leaseToken).1.standing other =
          if other = job.observationId then some ⟨.starting, some leaseToken⟩ else db.standing other
      | _ => (db.claim job now leaseMs leaseToken).1 = db := by
  unfold claim
  split
  · exact ⟨.refl db, rfl⟩
  · next row hrow =>
    split
    · exact ⟨.refl db, rfl⟩
    · split
      · exact ⟨.refl db, rfl⟩
      · next hopen =>
        split
        · exact ⟨.refl db, rfl⟩
        · have hopen : row.status.terminal = false := by simpa using hopen
          refine ⟨.of_open hrow hopen fun _ _ => rfl, rfl, rfl, ?_, standing_set _⟩
          exact ⟨_, standing_of_get hrow, hopen, rfl⟩

theorem claim_lapsed {job : BrowserObservationJob} {now leaseMs : Int} {leaseToken : String}
    {observation : ObservationClaim} (h : (db.claim job now leaseMs leaseToken).2 = .claimed observation)
    (hrow : db.observations.get job.observationId = some row) (hactive : row.status.active = true) :
    row.leaseExpiresAt.any (now < ·) = false := by
  unfold claim at h
  rw [hrow] at h
  dsimp only at h
  split at h
  · cases h
  · split at h
    · cases h
    · split at h
      · cases h
      · next hfree => simpa [hactive] using hfree

section

variable (db : ObservationDb Doc)

/-- A run is attached to an observation that is starting under the same lease. An attachment is fenced off
where the observation is not being made. -/
theorem attachRun_spec (id leaseToken runId : String) (t leaseMs : Int) :
    db.KeepsSettled (db.attachRun id leaseToken runId t leaseMs).1 ∧
      match (db.attachRun id leaseToken runId t leaseMs).2 with
      | .attached => db.standing id = some ⟨.starting, some leaseToken⟩ ∧ ∀ other,
          (db.attachRun id leaseToken runId t leaseMs).1.standing other =
            if other = id then some ⟨.running, some leaseToken⟩ else db.standing other
      | .ownedElsewhere => (db.attachRun id leaseToken runId t leaseMs).1 = db
      | .fenced => (db.attachRun id leaseToken runId t leaseMs).1 = db ∧
          ∀ st, db.standing id = some st → st.status.active = false := by
  unfold attachRun
  split
  · next hnone =>
    refine ⟨.refl db, rfl, fun st hst => ?_⟩
    simp [standing, hnone] at hst
  · next row hrow =>
    split
    · next hheld =>
      refine ⟨.of_open hrow (by rw [hheld.1]; rfl) fun _ _ => rfl, ?_, fun other => ?_⟩
      · rw [standing_of_get hrow, hheld.1, hheld.2]
      · unfold puts
        rw [standing_set, hheld.2]
    · split
      · exact ⟨.refl db, rfl⟩
      · next hother =>
        refine ⟨.refl db, rfl, fun st hst => ?_⟩
        rw [standing_of_get hrow] at hst
        cases hst
        simp only [Bool.or_eq_true, not_or, Bool.not_eq_true] at hother
        exact hother.2

theorem heartbeat_spec (id leaseToken : String) (t leaseMs : Int) :
    db.KeepsSettled (db.heartbeat id leaseToken t leaseMs).1 ∧
      db.SameStanding (db.heartbeat id leaseToken t leaseMs).1 ∧ ((db.heartbeat id leaseToken t leaseMs).2 = true →
        ∃ st, db.standing id = some st ∧ st.leaseToken = some leaseToken) := by
  unfold heartbeat
  split
  · exact ⟨.refl db, fun _ => rfl, by rintro ⟨⟩⟩
  · next row hrow =>
    split
    · next hheld =>
      simp only [Bool.and_eq_true, decide_eq_true_eq] at hheld
      exact ⟨.of_open hrow (ObservationStatus.open_iff.1 (.inr hheld.2)) fun _ _ => rfl,
        .of_same hrow rfl rfl,
        fun _ => ⟨_, standing_of_get hrow, hheld.1⟩⟩
    · exact ⟨.refl db, fun _ => rfl, by rintro ⟨⟩⟩

theorem reserveDailyBudget_spec (id leaseToken : String) (maxRunUsd dailyBudgetUsd : Rat) (t : Int) :
    db.KeepsSettled (db.reserveDailyBudget id leaseToken maxRunUsd dailyBudgetUsd t).1 ∧
      db.SameStanding (db.reserveDailyBudget id leaseToken maxRunUsd dailyBudgetUsd t).1 := by
  unfold reserveDailyBudget
  split
  · exact ⟨.refl db, fun _ => rfl⟩
  · next row hrow =>
    split
    · exact ⟨.refl db, fun _ => rfl⟩
    · next hheld =>
      split
      · exact ⟨.refl db, fun _ => rfl⟩
      · dsimp only
        split
        · exact ⟨.refl db, fun _ => rfl⟩
        · have hactive : row.status.active = true := by
            simp only [Bool.not_eq_true, Bool.not_eq_false', Bool.and_eq_true] at hheld
            exact hheld.2
          exact ⟨.of_open hrow (ObservationStatus.open_iff.1 (.inr hactive)) fun _ _ => rfl, .of_same hrow rfl rfl⟩

/-- What a run put out is committed where the lease is held, and the observation is over; or nothing
changes. -/
theorem complete_spec (id leaseToken : String) (output : BrowserOutput Doc) (usage : Option Rat) (t : Int) :
    db.KeepsSettled (db.complete id leaseToken output usage t).1 ∧
      if (db.complete id leaseToken output usage t).2 = true then
        (∃ st, db.standing id = some st ∧ st.status.terminal = false ∧ st.leaseToken = some leaseToken) ∧
        ∃ ending : ObservationStatus, ending.terminal = true ∧ ∀ other,
          (db.complete id leaseToken output usage t).1.standing other =
            if other = id then some ⟨ending, none⟩ else db.standing other
      else (db.complete id leaseToken output usage t).1 = db := by
  unfold complete
  split
  · exact ⟨.refl db, rfl⟩
  · next row hrow =>
    split
    · exact ⟨.refl db, rfl⟩
    · next hheld =>
      simp only [not_or, not_not] at hheld
      have hopen : row.status.terminal = false := ObservationStatus.open_iff.1 (.inr (by simpa using hheld.2.2))
      refine ⟨.of_open hrow hopen fun other hne => get_set_ne _ _ hne, ?_⟩
      exact ⟨⟨_, standing_of_get hrow, hopen, hheld.1⟩, output.status.status,
        by cases output.status <;> rfl, standing_set _⟩

theorem markTerminal_spec (id leaseToken : String) (status : GivenUp)
    (failureCode : String) (usage : Option Rat) (t : Int) :
    db.KeepsSettled (db.markTerminal id leaseToken status failureCode usage t).1 ∧
      if (db.markTerminal id leaseToken status failureCode usage t).2 = true then
        (∃ st, db.standing id = some st ∧ st.status.terminal = false ∧ st.leaseToken = some leaseToken) ∧
        ∃ ending : ObservationStatus, ending.terminal = true ∧ ∀ other,
          (db.markTerminal id leaseToken status failureCode usage t).1.standing other =
            if other = id then some ⟨ending, none⟩ else db.standing other
      else (db.markTerminal id leaseToken status failureCode usage t).1 = db := by
  unfold markTerminal
  split
  · exact ⟨.refl db, rfl⟩
  · next row hrow =>
    split
    · exact ⟨.refl db, rfl⟩
    · next hheld =>
      simp only [not_or, not_not, Bool.not_eq_true] at hheld
      refine ⟨.of_open hrow hheld.2 fun _ _ => rfl, ?_⟩
      exact ⟨⟨_, standing_of_get hrow, hheld.2, hheld.1⟩, status.status, by cases status <;> rfl, standing_set _⟩

theorem reconcileUsage_spec (id runId : String) (usage : Option Rat)
    (t : Int) : db.SameStanding (db.reconcileUsage id runId usage t).1 := by
  unfold reconcileUsage
  split
  · exact fun _ => rfl
  · next row hrow =>
    split
    · exact fun _ => rfl
    · exact .of_same hrow rfl rfl

theorem settleUsageConservatively_spec (id : String) (t : Int) :
    db.SameStanding (db.settleUsageConservatively id t).1 := by
  unfold settleUsageConservatively
  split
  · exact fun _ => rfl
  · next row hrow =>
    split
    · exact fun _ => rfl
    · exact .of_same hrow rfl rfl

theorem markStorageCleaned_spec (id runId : String) (t : Int) :
    db.KeepsSettled (db.markStorageCleaned id runId t).1 ∧ db.SameStanding (db.markStorageCleaned id runId t).1 := by
  unfold markStorageCleaned
  split
  · exact ⟨.refl db, fun _ => rfl⟩
  · next row hrow =>
    split
    · exact ⟨.of_same hrow rfl, .of_same hrow rfl rfl⟩
    · exact ⟨.refl db, fun _ => rfl⟩

/-! ## What an operation does to where observations stand -/

/-- Where observations stand before and after something happened to it. -/
inductive Turns (db db' : ObservationDb Doc) : StandingEvent → Prop
  | still : db.SameStanding db' → Turns db db' .still
  | queued {id : String} : db.standing id = none →
      (∀ other, db'.standing other = if other = id then some ⟨.queued, none⟩ else db.standing other) →
      Turns db db' (.queued id)
  | taken {id leaseToken : String} {st : Standing} : db.standing id = some st →
      st.status.terminal = false →
      (∀ other, db'.standing other =
        if other = id then some ⟨.starting, some leaseToken⟩ else db.standing other) →
      Turns db db' (.taken id leaseToken)
  | attached {id leaseToken : String} : db.standing id = some ⟨.starting, some leaseToken⟩ →
      (∀ other, db'.standing other =
        if other = id then some ⟨.running, some leaseToken⟩ else db.standing other) →
      Turns db db' (.attached id)
  | ended {id : String} {st : Standing} {ending : ObservationStatus} : db.standing id = some st →
      st.status.terminal = false → ending.terminal = true →
      (∀ other, db'.standing other = if other = id then some ⟨ending, none⟩ else db.standing other) →
      Turns db db' (.ended id)

theorem turns_enqueue (id operationId actorId actorBuild : String) (t : Int) :
    ∃ event, db.Turns (db.enqueue id operationId actorId actorBuild t) event ∧
      (event = .still ∨ event = .queued id) := by
  have h := (db.enqueue_spec id operationId actorId actorBuild t).2
  cases hst : db.standing id with
  | none => exact ⟨_, .queued hst (by simpa [hst] using h), .inr rfl⟩
  | some st => exact ⟨_, .still (fun other => by simpa [hst] using h other), .inl rfl⟩

theorem turns_attachRun (id leaseToken runId : String) (t leaseMs : Int) :
    ∃ event, db.Turns (db.attachRun id leaseToken runId t leaseMs).1 event ∧
      (event = .still ∨ event = .attached id) := by
  have h := (db.attachRun_spec id leaseToken runId t leaseMs).2
  split at h
  · exact ⟨_, .attached h.1 h.2, .inr rfl⟩
  · exact ⟨.still, .still (.of_eq h), .inl rfl⟩
  · exact ⟨.still, .still (.of_eq h.1), .inl rfl⟩

end

namespace Turns

variable {event : StandingEvent}

section

variable (h : db.Turns db' event)
include h

variable {st : Standing}

theorem settled (hst : db.standing id = some st) (hover : st.status.terminal = true) : db'.standing id = some st := by
  cases h with
  | still hsame => rw [hsame]; exact hst
  | queued hnone hset =>
    rw [hset, if_neg (by rintro rfl; cases hnone.symm.trans hst)]
    exact hst
  | taken hwas hopen hset =>
    rw [hset, if_neg]
    · exact hst
    · rintro rfl
      cases hwas.symm.trans hst
      cases hopen.symm.trans hover
  | attached hwas hset =>
    rw [hset, if_neg]
    · exact hst
    · rintro rfl
      cases hwas.symm.trans hst
      cases hover
  | ended hwas hopen _ hset =>
    rw [hset, if_neg]
    · exact hst
    · rintro rfl
      cases hwas.symm.trans hst
      cases hopen.symm.trans hover

theorem stood (hst : db.standing id = some st) (hclaimed : st.status ≠ .queued) :
    ∃ st', db'.standing id = some st' ∧ st'.status ≠ .queued ∧
      (st'.status.terminal = true ∨ st'.leaseToken = st.leaseToken ∨ ∃ leaseToken, event = .taken id leaseToken) := by
  cases h with
  | still hsame => exact ⟨st, by rw [hsame]; exact hst, hclaimed, .inr (.inl rfl)⟩
  | queued hnone hset =>
    refine ⟨st, ?_, hclaimed, .inr (.inl rfl)⟩
    rw [hset, if_neg (by rintro rfl; cases hnone.symm.trans hst)]
    exact hst
  | @taken of leaseToken was hwas hopen hset =>
    by_cases hid : id = of
    · subst hid
      exact ⟨_, by rw [hset, if_pos rfl], by rintro ⟨⟩, .inr (.inr ⟨leaseToken, rfl⟩)⟩
    · exact ⟨st, by rw [hset, if_neg hid]; exact hst, hclaimed, .inr (.inl rfl)⟩
  | @attached of leaseToken hwas hset =>
    by_cases hid : id = of
    · subst hid
      cases hwas.symm.trans hst
      exact ⟨⟨.running, some leaseToken⟩, by rw [hset, if_pos rfl], by rintro ⟨⟩, .inr (.inl rfl)⟩
    · exact ⟨st, by rw [hset, if_neg hid]; exact hst, hclaimed, .inr (.inl rfl)⟩
  | @ended of was ending hwas hopen hover hset =>
    by_cases hid : id = of
    · subst hid
      refine ⟨⟨ending, none⟩, by rw [hset, if_pos rfl], fun hqueued => ?_, .inl hover⟩
      have hqueued : ending = .queued := hqueued
      rw [hqueued] at hover
      cases hover
    · exact ⟨st, by rw [hset, if_neg hid]; exact hst, hclaimed, .inr (.inl rfl)⟩

theorem leased {st' : Standing} {leaseToken : String}
    (hst : db'.standing id = some st') (hlease : st'.leaseToken = some leaseToken) :
    (∃ st, db.standing id = some st ∧ st.leaseToken = some leaseToken ∧
      (st.status.active = true → st'.status.active = true)) ∨
    event = .taken id leaseToken ∧ st'.status.active = true := by
  cases h with
  | still hsame => exact .inl ⟨st', by rw [← hsame]; exact hst, hlease, fun h => h⟩
  | queued hnone hset =>
    rw [hset] at hst
    split at hst
    · cases hst; cases hlease
    · exact .inl ⟨st', hst, hlease, fun h => h⟩
  | taken hwas hopen hset =>
    rw [hset] at hst
    split at hst
    · next hid => cases hst; cases hlease; exact .inr ⟨by rw [hid], rfl⟩
    · exact .inl ⟨st', hst, hlease, fun h => h⟩
  | @attached of held hwas hset =>
    rw [hset] at hst
    split at hst
    · next hid =>
      cases hst
      exact .inl ⟨⟨.starting, some held⟩, by rw [hid]; exact hwas, hlease, fun _ => rfl⟩
    · exact .inl ⟨st', hst, hlease, fun h => h⟩
  | ended hwas hopen hover hset =>
    rw [hset] at hst
    split at hst
    · cases hst; cases hlease
    · exact .inl ⟨st', hst, hlease, fun h => h⟩

end

end Turns

end ObservationDb

end Coinslot
