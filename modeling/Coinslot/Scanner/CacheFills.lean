import Coinslot.Scanner.OneAttempt

/-!
# What a finished scan leaves for others

An evaluation that covers enough is kept under its key for a day, and found by whoever looks for it in that
day, where nothing is kept under the key when it is committed (`cache_filled`). Where something is, the insert
does nothing (`ScanDb.keep`), also where what is kept is out of date or counts as invalid: no row ever makes
room for another. So a key is of use for one day of its life.
-/

namespace Coinslot

open Option Dict

/-- Whether an action takes away what is kept under a key, or makes it count for nothing. -/
def ScanAction.Clears (cacheKey : String) : ScanAction → Prop
  | forgets key => key = cacheKey
  | invalidates key _ => key = cacheKey
  | _ => False

/-- What is kept under a key before and after a step, with what is heard of it. -/
inductive SnapshotTurn (clears : Prop) (was now : Option SnapshotRow) (out : List ScanNotice) : Prop
  | still : now = was → SnapshotTurn clears was now out
  | cleared : clears → (∀ snapshot, now = some snapshot → ∃ old, was = some old ∧ old.id = snapshot.id) →
      SnapshotTurn clears was now out
  | filled {scanId : String} {evaluation : ScanEvaluation} {finishedAt : Int} : was = none →
      now = some ⟨scanId, evaluation, finishedAt + 86400000, none⟩ → .committed scanId evaluation ∈ out →
      SnapshotTurn clears was now out

variable {snapshot : SnapshotRow}

theorem SnapshotTurn.kept {clears : Prop} {was now : Option SnapshotRow} {out : List ScanNotice}
    (h : SnapshotTurn clears was now out) (hclears : ¬ clears) (hwas : was = some snapshot) :
    now = some snapshot := by
  cases h with
  | still hsame => exact hsame.trans hwas
  | cleared hcleared => exact absurd hcleared hclears
  | filled hnone => cases hnone.symm.trans hwas

namespace ScanDb

variable {db : ScanDb} {scanId cacheKey : String} {attemptNo : Nat} {evaluation : ScanEvaluation}
  {sourceScanId : Option String} {finishedAt : Int}

variable {snapshot : SnapshotRow} {t : Int}

theorem keep_has (h : db.snapshots.has cacheKey = true) :
    db.keep cacheKey snapshot = db.snapshots := if_pos h

theorem keep_free (h : db.snapshots.has cacheKey = false) :
    db.keep cacheKey snapshot = db.snapshots.set cacheKey snapshot :=
  if_neg (by rw [h]; exact Bool.false_ne_true)

theorem commitTerminal_snapshots
    (h : (db.commitTerminal scanId attemptNo evaluation cacheKey sourceScanId finishedAt).2 = true) :
    (db.commitTerminal scanId attemptNo evaluation cacheKey sourceScanId finishedAt).1.snapshots =
      if sourceScanId.isNone && evaluation.score.terminalStatus ≠ .failed &&
          7 / 10 ≤ evaluation.score.coverage && evaluation.score.score.isSome then
        db.keep cacheKey ⟨scanId, evaluation, finishedAt + 86400000, none⟩
      else db.snapshots := by
  revert h
  unfold commitTerminal
  cases db.fence scanId attemptNo with
  | none => exact fun h => absurd h Bool.false_ne_true
  | some row => exact fun _ => rfl

theorem commitTerminal_turn (db : ScanDb) (scanId : String) (attemptNo : Nat) (evaluation : ScanEvaluation)
    (cacheKey : String) (sourceScanId : Option String) (finishedAt : Int) (clears : Prop) (key : String) :
    let came := db.commitTerminal scanId attemptNo evaluation cacheKey sourceScanId finishedAt
    SnapshotTurn clears (db.snapshots.get key) (came.1.snapshots.get key)
      (if came.2 then [.committed scanId evaluation] else []) := by
  intro came
  cases hdone : came.2 with
  | false =>
    have hsame := (db.commitTerminal_spec scanId attemptNo evaluation cacheKey sourceScanId finishedAt).2
    rw [if_neg (by rw [hdone]; exact Bool.false_ne_true)] at hsame
    exact .still (congrArg (fun db : ScanDb => db.snapshots.get key) hsame)
  | true =>
    rw [commitTerminal_snapshots hdone]
    split
    · cases hkey : db.snapshots.has cacheKey with
      | true => rw [keep_has hkey]; exact .still rfl
      | false =>
        rw [keep_free hkey, get_set]
        split
        · next heq =>
          rw [heq]
          exact .filled (isSome_eq_false_iff.1 hkey |> isNone_iff_eq_none.1) rfl (List.mem_singleton.2 rfl)
        · exact .still rfl
    · exact .still rfl

theorem claim_snapshots {job : ScanJob} {now : Int} {came : ScanDb × ScanClaim}
    (h : db.claim job now = some came) : came.1.snapshots = db.snapshots := by
  unfold claim at h
  split at h
  · cases h
  · split at h
    · cases h; rfl
    · split at h
      · cases h; rfl
      · split at h
        · cases h; rfl
        · cases h; rfl

theorem upsertCheck_snapshots {check : CheckResult} :
    (db.upsertCheck scanId attemptNo check t).1.snapshots = db.snapshots := by
  unfold upsertCheck
  split
  · rfl
  · rfl

theorem heartbeat_snapshots : (db.heartbeat scanId attemptNo t).snapshots = db.snapshots := by
  unfold heartbeat
  split
  · rfl
  · rfl

theorem markSystemFailure_snapshots {failureCode : String} {retryable : Bool} :
    (db.markSystemFailure scanId attemptNo failureCode retryable t).snapshots = db.snapshots := by
  unfold markSystemFailure
  split
  · rfl
  · rfl

theorem invalidate_turn (t : Int) (key : String) (out : List ScanNotice) :
    SnapshotTurn (cacheKey = key) (db.snapshots.get key) ((db.invalidate cacheKey t).snapshots.get key) out := by
  unfold invalidate
  cases hwas : db.snapshots.get cacheKey with
  | none => exact .still rfl
  | some old =>
    rw [get_set]
    split
    · next heq =>
      refine .cleared heq.symm fun snapshot hnow => ?_
      cases hnow
      exact ⟨old, by rw [heq, hwas], rfl⟩
    · exact .still rfl

theorem forget_turn (key : String) (out : List ScanNotice) :
    SnapshotTurn (cacheKey = key) (db.snapshots.get key) ((db.snapshots.delete cacheKey).get key) out := by
  rw [get_delete]
  split
  · next heq => exact .cleared heq.symm fun snapshot hnow => by cases hnow
  · exact .still rfl

end ScanDb

namespace ScanWork

variable {config : ScanConfig} {s s' : ScanWork} {action : ScanAction} {out : List ScanNotice}

theorem step_snapshot (h : s.step config action = .ok (s', out)) (key : String) :
    SnapshotTurn (action.Clears key) (s.db.snapshots.get key) (s'.db.snapshots.get key) out := by
  have still (hsame : s'.db.snapshots = s.db.snapshots) :
      SnapshotTurn (action.Clears key) (s.db.snapshots.get key) (s'.db.snapshots.get key) out :=
    .still (by rw [hsame])
  cases action with
  | accepts scanId =>
    cases h
    refine still ?_
    unfold ScanDb.accept
    split
    · rfl
    · rfl
  | enqueues scanId t =>
    cases h
    refine still ?_
    unfold ScanDb.enqueueScan
    split
    · rfl
    · split
      · rfl
      · rfl
  | delivers d job retryCount now =>
    simp only [step] at h
    split at h
    · cases h
    · split at h
      · cases h
      · next hcame =>
        cases h
        refine still ?_
        obtain ⟨came, hclaim, rfl⟩ := map_eq_some_iff.1 hcame
        have hsame : came.1.snapshots = s.db.snapshots := ScanDb.claim_snapshots hclaim
        split
        · exact hsame
        · exact hsame
  | looks d now =>
    simp only [step] at h
    split at h
    · cases h
      refine still ?_
      unfold looks
      split
      · rfl
      · rfl
    · cases h
  | fetchesRobots d canonicalTargetUrl robots now | fetchesPages d pages now
  | fetchesRest d oauth representative now later | returns d =>
    simp only [step] at h
    split at h
    · cases h; exact still rfl
    · cases h
  | writes d now =>
    simp only [step] at h
    split at h
    · cases h
    · next delivery hd =>
      split at h
      · cases h
      · next check left _ =>
        cases h
        have hsame : (s.db.upsertCheck delivery.job.scanId delivery.job.attemptNo check now).1.snapshots =
            s.db.snapshots := ScanDb.upsertCheck_snapshots
        refine still ?_
        unfold writes
        dsimp only
        split
        · exact hsame
        · exact hsame
  | commits d now answered =>
    simp only [step] at h
    split at h
    · next job written evaluation sourceScanId hd =>
      have hturn := s.db.commitTerminal_turn job.scanId job.attemptNo evaluation (config.cacheKeyFor job)
        sourceScanId now ((ScanAction.commits d now answered).Clears key) key
      cases h
      cases answered with
      | true => exact hturn
      | false => exact hturn
    · cases h
  | throws d message =>
    simp only [step] at h
    split at h
    · cases h
    · cases h; exact still rfl
  | fails d now =>
    simp only [step] at h
    split at h
    · cases h
      exact still ScanDb.markSystemFailure_snapshots
    · cases h
  | beats d now =>
    simp only [step] at h
    split at h
    · cases h
    · cases h
      exact still ScanDb.heartbeat_snapshots
  | dies d => cases h; exact still rfl
  | forgets cacheKey => cases h; exact ScanDb.forget_turn key _
  | invalidates cacheKey t => cases h; exact ScanDb.invalidate_turn t key _

/-- Every evaluation that is kept is one of a scan that was decided. -/
def KeepsOfDecided (s : ScanWork) : Prop :=
  ∀ key snapshot, s.db.snapshots.get key = some snapshot →
    ∃ row, s.db.scans.get snapshot.id = some row ∧ row.status.terminal = true

theorem step_decides (h : s.step config action = .ok (s', out)) {scanId : String}
    {evaluation : ScanEvaluation} (hcommitted : .committed scanId evaluation ∈ out) :
    ∃ row, s'.db.scans.get scanId = some row ∧ row.status.terminal = true := by
  obtain ⟨d, delivery, sourceScanId, -, -, -, hturns⟩ := step_committed h hcommitted
  cases hturns with
  | settled _ _ hstanding _ =>
    have hnow := hstanding scanId
    rw [if_pos rfl] at hnow
    obtain ⟨row, hrow, hsame⟩ := map_eq_some_iff.1 hnow
    refine ⟨row, hrow, ?_⟩
    rw [show row.status = evaluation.score.terminalStatus.status from congrArg ScanStanding.status hsame]
    exact evaluation.score.terminalStatus.terminal

theorem step_keepsOfDecided (hs : s.KeepsOfDecided) (h : s.step config action = .ok (s', out)) :
    s'.KeepsOfDecided := by
  intro key snapshot hkept
  have stays (old : SnapshotRow) (hold : s.db.snapshots.get key = some old) :
      ∃ row, s'.db.scans.get old.id = some row ∧ row.status.terminal = true := by
    obtain ⟨row, hrow, hdecided⟩ := hs key old hold
    exact ⟨row, (step_keepsDecided h _ row hrow hdecided).1, hdecided⟩
  cases step_snapshot h key with
  | still hsame => exact stays snapshot (hsame.symm.trans hkept)
  | cleared _ hold =>
    obtain ⟨old, hwas, hid⟩ := hold snapshot hkept
    exact hid ▸ stays old hwas
  | filled _ hfilled hcommitted =>
    cases hkept.symm.trans hfilled
    exact step_decides h hcommitted

end ScanWork

/-! ## Runs -/

theorem scanRun_keepsOfDecided (config : ScanConfig) (actions : List ScanAction) :
    (scanRun config actions).KeepsOfDecided :=
  (scanMachine config).run_induction (fun hs h => ScanWork.step_keepsOfDecided hs h)
    (fun _ _ hkept => by cases hkept) actions

theorem kept_through {config : ScanConfig} {s : ScanWork} {key : String}
    (hkept : s.db.snapshots.get key = some snapshot) (more : List ScanAction)
    (hclear : ∀ action ∈ more, ¬ action.Clears key) :
    ((scanMachine config).run s more).db.snapshots.get key = some snapshot :=
  (scanMachine config).run_induction_meeting
    (P := fun s => s.db.snapshots.get key = some snapshot) (A := fun _ action => ¬ action.Clears key)
    (fun hkept hclear h => (ScanWork.step_snapshot h key).kept hclear hkept) hkept more
    ((scanMachine config).meets_of_mem (fun action haction _ => hclear action haction) s)

/-- Whoever looks under a key in the day after an instant, with nothing clearing the key in between, finds
the evaluation of a scan, or of one that was committed since. -/
def FindsForADay (config : ScanConfig) (s : ScanWork) (key scanId : String) (finishedAt : Int) : Prop :=
  ∀ (more : List ScanAction) (t : Int), (∀ action ∈ more, ¬ action.Clears key) →
    finishedAt ≤ t → t < finishedAt + 86400000 →
      ∃ snapshot, ((scanMachine config).run s more).db.findReusableSnapshot key t = some snapshot ∧
        (snapshot.id = scanId ∨
          ∃ evaluation, .emitted (.committed snapshot.id evaluation) ∈ (scanMachine config).log s more)

theorem ScanEvaluation.not_failed {evaluation : ScanEvaluation}
    (hcoverage : 7 / 10 ≤ evaluation.score.coverage) : evaluation.score.terminalStatus ≠ .failed := by
  have henough : ¬ evaluation.score.coverage < 3 / 10 := not_lt.2 (le_trans (by norm_num) hcoverage)
  show (if evaluation.score.coverage < 3 / 10 then ScanEnding.failed
    else if evaluation.score.coverage < 1 then .partly else .completed) ≠ .failed
  rw [if_neg henough]
  split
  · exact ScanEnding.noConfusion
  · exact ScanEnding.noConfusion

/-- **A finished scan fills the cache where nothing is kept under its key.** After a scan is committed that was
evaluated itself, covers enough and has a score, whoever looks under its key in the day that follows finds it,
or a later one, exactly if nothing at all was kept under the key before. -/
theorem cache_filled (config : ScanConfig) (actions : List ScanAction) (d : Nat) (job : ScanJob)
    (written : List Nat) (evaluation : ScanEvaluation) (now : Int) (answered : Bool)
    (came : ScanWork × List ScanNotice)
    (hd : (scanRun config actions).deliveries.get d = some ⟨job, written, .writing evaluation none []⟩)
    (hstep : (scanRun config actions).step config (.commits d now answered) = .ok came)
    (hcommitted : .committed job.scanId evaluation ∈ came.2)
    (hcoverage : 7 / 10 ≤ evaluation.score.coverage) (hscore : evaluation.score.score.isSome = true) :
    FindsForADay config came.1 (config.cacheKeyFor job) job.scanId now ↔
      (scanRun config actions).db.snapshots.has (config.cacheKeyFor job) = false := by
  let s := scanRun config actions
  let key := config.cacheKeyFor job
  let result := s.db.commitTerminal job.scanId job.attemptNo evaluation key none now
  -- what is kept once the commit went through
  have hkept : came.1.db.snapshots =
      s.db.keep key ⟨job.scanId, evaluation, now + 86400000, none⟩ := by
    simp only [ScanWork.step, hd, ScanWork.commits] at hstep
    cases hstep
    have hdone : result.2 = true := by
      by_contra hnot
      rw [if_neg hnot] at hcommitted
      cases hcommitted
    have hsnapshots := ScanDb.commitTerminal_snapshots hdone
    rw [hscore, decide_eq_true hcoverage, decide_eq_true (evaluation.not_failed hcoverage)] at hsnapshots
    cases answered with
    | true => exact hsnapshots
    | false => exact hsnapshots
  constructor
  · intro hfinds
    by_contra hhas
    -- the row that is there is an earlier scan's, and stays
    rw [ScanDb.keep_has (by simpa using hhas)] at hkept
    obtain ⟨snapshot, hfound, hid⟩ := hfinds [] now (by rintro _ ⟨⟩) le_rfl (by omega)
    have hold : s.db.snapshots.get key = some snapshot := by
      rw [← hkept]
      exact (Option.filter_eq_some_iff.1 hfound).1
    obtain ⟨row, hrow, hdecided⟩ := scanRun_keepsOfDecided config actions key snapshot hold
    rcases hid with hid | ⟨_, hlog⟩
    · obtain ⟨_, _, _, -, -, -, hturns⟩ := ScanWork.step_committed hstep hcommitted
      cases hturns with
      | settled hunder =>
        obtain ⟨running, hrunning, hsame⟩ := Option.map_eq_some_iff.1 hunder
        cases (hid ▸ hrow).symm.trans hrunning
        have hstatus : row.status = .running := congrArg ScanStanding.status hsame
        rw [hstatus] at hdecided
        cases hdecided
    · cases hlog
  · intro hfree more t hclear hfrom huntil
    rw [ScanDb.keep_free hfree] at hkept
    have hnow : came.1.db.snapshots.get key =
        some ⟨job.scanId, evaluation, now + 86400000, none⟩ := by rw [hkept, Dict.get_set_self]
    refine ⟨⟨job.scanId, evaluation, now + 86400000, none⟩, ?_, .inl rfl⟩
    rw [ScanDb.findReusableSnapshot, kept_through hnow more hclear]
    exact Option.filter_eq_some_iff.2 ⟨rfl, by simp [huntil, hcoverage]⟩

/-- The checks of a site whose pages are to be had, and say little. -/
def assessedSuite : CheckSuite :=
  { sampleSuite with
    jsonLdPresence := fun _ _ =>
      unpassed "jsonld_absent_or_invalid" "structured_data_machine_readability" "publish_valid_jsonld"
    verticalJsonLd := fun _ _ _ =>
      unpassed "vertical_jsonld_missing" "vertical_data_gap" "publish_vertical_jsonld"
    markdownCheck := fun _ _ =>
      unpassed "markdown_negotiation_absent" "markdown_absent" "add_markdown_negotiation"
    ssrCheck := fun _ _ _ => unpassed "ssr_shell_only" "ssr_machine_readability" "render_substantive_html" }

/-- What the scans of the examples are made with, where evaluations are used again. -/
def cachingConfig : ScanConfig := ⟨assessedSuite, true, fun key => key⟩

def siteJob (scanId : String) : ScanJob := ⟨scanId, "https://example.com/", .owner, "gtm-v1.0.0", 1⟩

/-- A scan of the site is made at an instant, up to its commit. -/
def scanOfTheSite (d : Nat) (scanId : String) (t : Int) : List ScanAction :=
  [.accepts scanId, .enqueues scanId t, .delivers d (siteJob scanId) 0 t, .looks d t,
    .fetchesRobots d "https://example.com/" (fetchedArtifact "https://example.com/robots.txt" 404 "") t] ++
    List.replicate 3 (.writes d t) ++ [.fetchesPages d samplePages t] ++ List.replicate 10 (.writes d t) ++
    [.fetchesRest d [] none t t] ++ List.replicate 5 (.writes d t) ++ [.returns d]

/-- What a scan of the site comes to. -/
def siteEvaluation (t : Int) : ScanEvaluation :=
  let robots := fetchedArtifact "https://example.com/robots.txt" 404 ""
  assessedSuite.evaluateScan
    (((ScanArtifacts.skeleton .owner "https://example.com/" robots).withPages samplePages).withRest [] none)
    t

/-- The first scan of the site is found for a day. -/
theorem first_scan_found : ∃ came,
    (scanRun cachingConfig (scanOfTheSite 0 "scan_1" 1767312000000)).step cachingConfig
      (.commits 0 1767312000000 true) = .ok came ∧
    FindsForADay cachingConfig came.1 (cachingConfig.cacheKeyFor (siteJob "scan_1")) "scan_1" 1767312000000 := by
  obtain ⟨came, hstep, hout⟩ : ∃ came,
      (scanRun cachingConfig (scanOfTheSite 0 "scan_1" 1767312000000)).step cachingConfig
        (.commits 0 1767312000000 true) = .ok came ∧
      came.2 = [.committed "scan_1" (siteEvaluation 1767312000000)] := ⟨_, rfl, rfl⟩
  refine ⟨came, hstep, (cache_filled cachingConfig _ 0 (siteJob "scan_1") _
    (siteEvaluation 1767312000000) _ true came rfl hstep ?_ ?_ ?_).2 rfl⟩
  · rw [hout]; exact List.mem_singleton.2 rfl
  · decide +kernel
  · decide +kernel

/-- The second scan of the site, two days later, is found by nobody. -/
theorem second_scan_lost : ¬ ∀ (config : ScanConfig) (actions : List ScanAction) (d : Nat) (job : ScanJob)
    (written : List Nat) (evaluation : ScanEvaluation) (now : Int) (answered : Bool)
    (came : ScanWork × List ScanNotice),
    (scanRun config actions).deliveries.get d = some ⟨job, written, .writing evaluation none []⟩ →
    (scanRun config actions).step config (.commits d now answered) = .ok came →
    .committed job.scanId evaluation ∈ came.2 → 7 / 10 ≤ evaluation.score.coverage →
    evaluation.score.score.isSome = true → FindsForADay config came.1 (config.cacheKeyFor job) job.scanId now := by
  intro h
  let s := scanRun cachingConfig (scanOfTheSite 0 "scan_1" 1767312000000 ++
    [.commits 0 1767312000000 true] ++ scanOfTheSite 1 "scan_2" 1767484800000)
  let delivery : ScanDelivery := ⟨siteJob "scan_2",
    [15, 12, 11, 6, 5, 18, 17, 16, 14, 13, 10, 9, 8, 7, 4, 3, 2, 1],
    .writing (siteEvaluation 1767484800000) none []⟩
  have hd : s.deliveries.get 1 = some delivery := by decide +kernel
  have hstep : s.step cachingConfig (.commits 1 1767484800000 true) =
      .ok (s.commits cachingConfig 1 delivery (siteEvaluation 1767484800000) none 1767484800000 true) := by
    simp only [ScanWork.step, hd, delivery]
  obtain ⟨snapshot, hfound, -⟩ := h cachingConfig _ 1 (siteJob "scan_2") _ (siteEvaluation 1767484800000) _
    true _ hd hstep (by decide +kernel) (by decide +kernel) (by decide +kernel) [] 1767484800000
    (by rintro _ ⟨⟩) le_rfl (by decide)
  have hlost : (s.commits cachingConfig 1 delivery (siteEvaluation 1767484800000) none 1767484800000
      true).1.db.findReusableSnapshot (cachingConfig.cacheKeyFor (siteJob "scan_2")) 1767484800000 = none := by
    decide +kernel
  cases hlost.symm.trans hfound

end Coinslot
