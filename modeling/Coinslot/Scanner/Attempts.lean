import Coinslot.Scanner.Scans

/-!
# What attempts do to scans

What the operations on a scan do to where it stands, and to the rows of its checks (`ScanDb.Turns`). Every
write of an attempt goes through `fence`: the scan is being made, under the attempt's number. So none
changes what was decided (`KeepsDecided`).
-/

namespace Coinslot

open Dict

/-! ## What an operation does to a scan -/

/-- Where a scan stands, and at which attempt. -/
structure ScanStanding where
  status : ScanStatus
  attemptNo : Nat
  deriving DecidableEq, Repr

/-- What happened to a scan. -/
inductive ScanEvent where
  | still
  | opened (scanId : String)
  | taken (scanId : String) (attemptNo : Nat)
  | wrote (scanId : String) (attemptNo : Nat) (row : CheckRow)
  | settled (scanId : String) (attemptNo : Nat) (status : ScanStatus)

/-- The attempt at a scan that did it, where it takes the attempt under way. -/
def ScanEvent.doneBy : ScanEvent → Option (String × Nat)
  | wrote scanId attemptNo _ | settled scanId attemptNo _ => some (scanId, attemptNo)
  | _ => none

namespace ScanDb

variable {db db' : ScanDb} {scanId : String} {attemptNo : Nat} {row : ScanRow}

def standing (db : ScanDb) (scanId : String) : Option ScanStanding :=
  (db.scans.get scanId).map fun row => ⟨row.status, row.attemptNo⟩

theorem standing_of_get (h : db.scans.get scanId = some row) :
    db.standing scanId = some ⟨row.status, row.attemptNo⟩ := by
  simp [standing, h]

variable {snapshots : Dict String SnapshotRow}

theorem standing_set {checks : Dict String (Dict Nat CheckRow)} (row : ScanRow) (other : String) :
    (⟨db.scans.set scanId row, checks, snapshots⟩ : ScanDb).standing other =
      if other = scanId then some ⟨row.status, row.attemptNo⟩ else db.standing other := by
  unfold standing
  rw [get_set]
  split <;> rfl

theorem fence_eq_some (h : db.fence scanId attemptNo = some row) :
    db.scans.get scanId = some row ∧ row.status = .running ∧ row.attemptNo = attemptNo := by
  obtain ⟨hrow, hunder⟩ := Option.filter_eq_some_iff.1 h
  simp only [Bool.and_eq_true, decide_eq_true_eq] at hunder
  exact ⟨hrow, hunder.1, hunder.2⟩

/-- What was decided stays: the row of the scan, and the rows of its checks. -/
def KeepsDecided (db db' : ScanDb) : Prop :=
  ∀ scanId row, db.scans.get scanId = some row → row.status.terminal = true →
    db'.scans.get scanId = some row ∧ db'.checks.get scanId = db.checks.get scanId

theorem KeepsDecided.refl (db : ScanDb) : db.KeepsDecided db := fun _ _ hrow _ => ⟨hrow, rfl⟩

theorem KeepsDecided.of_open {scans : Dict String ScanRow} {checks : Dict String (Dict Nat CheckRow)}
    (hopen : ∀ row, db.scans.get scanId = some row → row.status.terminal = false)
    (hscans : ∀ other, other ≠ scanId → scans.get other = db.scans.get other)
    (hchecks : ∀ other, other ≠ scanId → checks.get other = db.checks.get other) :
    db.KeepsDecided ⟨scans, checks, snapshots⟩ := by
  intro other found hfound hdecided
  have hne : other ≠ scanId := by
    rintro rfl
    cases (hopen found hfound).symm.trans hdecided
  exact ⟨(hscans other hne).trans hfound, hchecks other hne⟩

/-- Scans and their checks before and after something happened to one. -/
inductive Turns (db db' : ScanDb) : ScanEvent → Prop
  | still : (∀ id, db'.standing id = db.standing id) → (∀ id, db'.checksOf id = db.checksOf id) →
      Turns db db' .still
  | opened {scanId : String} {st : ScanStanding} :
      (∀ was, db.standing scanId = some was → was.status = .accepted ∧ st.attemptNo = was.attemptNo) →
      (∀ id, db'.standing id = if id = scanId then some st else db.standing id) →
      (∀ id, db'.checksOf id = db.checksOf id) → Turns db db' (.opened scanId)
  | taken {scanId : String} {attemptNo : Nat} {st : ScanStanding} : db.standing scanId = some st →
      st.status.terminal = false → st.attemptNo ≤ attemptNo →
      (st.status = .running → st.attemptNo < attemptNo) →
      (∀ id, db'.standing id = if id = scanId then some ⟨.running, attemptNo⟩ else db.standing id) →
      (∀ id, db'.checksOf id =
        if id = scanId ∧ st.attemptNo < attemptNo then .empty else db.checksOf id) →
      Turns db db' (.taken scanId attemptNo)
  | wrote {scanId : String} {attemptNo : Nat} {row : CheckRow} :
      db.standing scanId = some ⟨.running, attemptNo⟩ → (∀ id, db'.standing id = db.standing id) →
      (∀ id, db'.checksOf id =
        if id = scanId then (db.checksOf scanId).set row.result.id row else db.checksOf id) →
      Turns db db' (.wrote scanId attemptNo row)
  | settled {scanId : String} {attemptNo : Nat} {status : ScanStatus} :
      db.standing scanId = some ⟨.running, attemptNo⟩ → status ≠ .running →
      (∀ id, db'.standing id = if id = scanId then some ⟨status, attemptNo⟩ else db.standing id) →
      (∀ id, db'.checksOf id = db.checksOf id) → Turns db db' (.settled scanId attemptNo status)

theorem Turns.refl (db : ScanDb) : db.Turns db .still := .still (fun _ => rfl) fun _ => rfl

theorem Turns.of_eq (h : db' = db) : db.Turns db' .still := .still (fun _ => by rw [h]) fun _ => by rw [h]

theorem accept_spec (db : ScanDb) (scanId : String) :
    db.KeepsDecided (db.accept scanId) ∧ ∃ event, db.Turns (db.accept scanId) event ∧
      (event = .still ∨ event = .opened scanId) := by
  unfold accept
  split
  · exact ⟨.refl db, _, .refl db, .inl rfl⟩
  · next hnew =>
    have hnone : db.scans.get scanId = none := by simpa [Dict.has] using hnew
    have hopen (row : ScanRow) (h : db.scans.get scanId = some row) : row.status.terminal = false := by
      cases hnone.symm.trans h
    refine ⟨.of_open hopen (fun _ hne => get_set_ne _ _ hne) fun _ _ => rfl, _,
      .opened ?_ (standing_set _) fun _ => rfl, .inr rfl⟩
    intro was hwas
    simp [standing, hnone] at hwas

theorem enqueueScan_spec (db : ScanDb) (scanId : String) (t : Int) :
    db.KeepsDecided (db.enqueueScan scanId t) ∧ ∃ event, db.Turns (db.enqueueScan scanId t) event ∧
      (event = .still ∨ event = .opened scanId) := by
  unfold enqueueScan
  split
  · exact ⟨.refl db, _, .refl db, .inl rfl⟩
  · next row hrow =>
    split
    · next haccepted =>
      have hopen (found : ScanRow) (h : db.scans.get scanId = some found) :
          found.status.terminal = false := by
        cases hrow.symm.trans h
        rw [haccepted]
        rfl
      refine ⟨.of_open hopen (fun _ hne => get_set_ne _ _ hne) fun _ _ => rfl, _,
        .opened ?_ (standing_set _) fun _ => rfl, .inr rfl⟩
      intro was hwas
      cases (standing_of_get hrow).symm.trans hwas
      exact ⟨haccepted, rfl⟩
    · exact ⟨.refl db, _, .refl db, .inl rfl⟩

/-- A claim that is granted takes a scan on that is not decided, under a number no attempt under way has;
else nothing happens. -/
theorem claim_spec {job : ScanJob} {now : Int} {came : ScanDb × ScanClaim} (h : db.claim job now = some came) :
    db.KeepsDecided came.1 ∧
      if came.2 = .claimed then db.Turns came.1 (.taken job.scanId job.attemptNo) else came.1 = db := by
  unfold claim at h
  split at h
  · cases h
  · next row hrow =>
    split at h
    · cases h; exact ⟨.refl db, rfl⟩
    · next hdecided =>
      split at h
      · cases h; exact ⟨.refl db, rfl⟩
      · next hlater =>
        split at h
        · cases h; exact ⟨.refl db, rfl⟩
        · next hunder =>
          cases h
          have hopen : row.status.terminal = false := by simpa using hdecided
          refine ⟨@KeepsDecided.of_open db job.scanId _ _ _ ?_ (fun _ hne => get_set_ne _ _ hne) ?_, ?_⟩
          · intro found hfound
            cases hrow.symm.trans hfound
            exact hopen
          · intro other hne
            split
            · rw [get_delete, if_neg hne]
            · rfl
          · refine .taken (standing_of_get hrow) hopen (Nat.not_lt.1 hlater) ?_ (standing_set _) ?_
            · intro hrunning
              exact Nat.not_le.1 fun hle => hunder ⟨hrunning, hle⟩
            · intro id
              unfold checksOf
              split
              · next hgreater =>
                rw [get_delete]
                by_cases hid : id = job.scanId
                · rw [if_pos hid, if_pos ⟨hid, hgreater⟩]; rfl
                · rw [if_neg hid, if_neg fun h => hid h.1]
              · next hsame => rw [if_neg fun h => hsame h.2]

theorem invalidate_scans (db : ScanDb) (cacheKey : String) (t : Int) :
    (db.invalidate cacheKey t).scans = db.scans ∧ (db.invalidate cacheKey t).checks = db.checks := by
  unfold invalidate
  cases db.snapshots.get cacheKey with
  | none => exact ⟨rfl, rfl⟩
  | some snapshot => exact ⟨rfl, rfl⟩

theorem fence_open (h : db.fence scanId attemptNo = some row) :
    ∀ found, db.scans.get scanId = some found → found.status.terminal = false := by
  obtain ⟨hrow, hrunning, -⟩ := fence_eq_some h
  intro found hfound
  cases hrow.symm.trans hfound
  rw [hrunning]
  rfl

theorem fence_standing (h : db.fence scanId attemptNo = some row) :
    db.standing scanId = some ⟨.running, attemptNo⟩ := by
  obtain ⟨hrow, hrunning, hattempt⟩ := fence_eq_some h
  rw [standing_of_get hrow, hrunning, hattempt]

section

variable (db : ScanDb)

theorem heartbeat_spec (scanId : String) (attemptNo : Nat) (t : Int) :
    db.KeepsDecided (db.heartbeat scanId attemptNo t) ∧ db.Turns (db.heartbeat scanId attemptNo t) .still := by
  unfold heartbeat
  split
  · exact ⟨.refl db, .refl db⟩
  · next row hfence =>
    obtain ⟨hrow, -, -⟩ := fence_eq_some hfence
    refine ⟨.of_open (fence_open hfence) (fun _ hne => get_set_ne _ _ hne) fun _ _ => rfl,
      .still (fun id => ?_) fun _ => rfl⟩
    refine (standing_set _ _).trans ?_
    split
    · next hid => rw [hid, standing_of_get hrow]
    · rfl

theorem upsertCheck_spec (scanId : String) (attemptNo : Nat) (check : CheckResult) (t : Int) :
    db.KeepsDecided (db.upsertCheck scanId attemptNo check t).1 ∧
      if (db.upsertCheck scanId attemptNo check t).2 = true then
        db.Turns (db.upsertCheck scanId attemptNo check t).1 (.wrote scanId attemptNo ⟨check, t⟩)
      else (db.upsertCheck scanId attemptNo check t).1 = db := by
  unfold upsertCheck
  split
  · exact ⟨.refl db, rfl⟩
  · next row hfence =>
    refine ⟨.of_open (fence_open hfence) (fun _ _ => rfl) (fun _ hne => get_set_ne _ _ hne), ?_⟩
    refine .wrote (fence_standing hfence) (fun _ => rfl) fun id => ?_
    simp only [checksOf]
    rw [get_set]
    split <;> rfl

theorem commitTerminal_spec (scanId : String) (attemptNo : Nat)
    (evaluation : ScanEvaluation) (cacheKey : String) (sourceScanId : Option String) (t : Int) :
    let came := db.commitTerminal scanId attemptNo evaluation cacheKey sourceScanId t
    db.KeepsDecided came.1 ∧
      if came.2 = true then db.Turns came.1 (.settled scanId attemptNo evaluation.score.terminalStatus.status)
      else came.1 = db := by
  unfold commitTerminal
  split
  · exact ⟨.refl db, rfl⟩
  · next row hfence =>
    obtain ⟨-, -, hattempt⟩ := fence_eq_some hfence
    refine ⟨.of_open (fence_open hfence) (fun _ hne => get_set_ne _ _ hne) fun _ _ => rfl, ?_⟩
    refine .settled (fence_standing hfence) ?_ ?_ fun _ => rfl
    · cases evaluation.score.terminalStatus <;> simp [ScanEnding.status]
    · rw [← hattempt]
      exact standing_set _

theorem markSystemFailure_spec (scanId : String) (attemptNo : Nat) (failureCode : String)
    (retryable : Bool) (t : Int) :
    let db' := db.markSystemFailure scanId attemptNo failureCode retryable t
    db.KeepsDecided db' ∧ ∃ event, db.Turns db' event ∧
      (event = .still ∨ ∃ status, event = .settled scanId attemptNo status) := by
  unfold markSystemFailure
  split
  · exact ⟨.refl db, _, .refl db, .inl rfl⟩
  · next row hfence =>
    obtain ⟨-, -, hattempt⟩ := fence_eq_some hfence
    refine ⟨.of_open (fence_open hfence) (fun _ hne => get_set_ne _ _ hne) fun _ _ => rfl, ?_⟩
    cases retryable with
    | true =>
      refine ⟨.settled scanId attemptNo .queued, .settled (fence_standing hfence) (by decide) ?_ fun _ => rfl,
        .inr ⟨_, rfl⟩⟩
      rw [← hattempt]
      exact standing_set _
    | false =>
      refine ⟨.settled scanId attemptNo .failed, .settled (fence_standing hfence) (by decide) ?_ fun _ => rfl,
        .inr ⟨_, rfl⟩⟩
      rw [← hattempt]
      exact standing_set _

end

end ScanDb

end Coinslot
