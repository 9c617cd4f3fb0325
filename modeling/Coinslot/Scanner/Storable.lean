import Coinslot.Scanner.Quotes
import Coinslot.Scanner.Scans
import Coinslot.Scanner.WellFormed
import Mathlib.Algebra.Order.BigOperators.Group.List

/-!
# What a scan comes to, and what is stored of it

The checks of a scan are well formed, so their sums are in bounds, and the score they come to is one that the table
of scans accepts, its coverage rounded as it is kept (`sound_score`, `ScanDb.commit_scans`). The rows of the checks
and the evaluation that is kept are JSON with texts of the site in it. The store takes no text with a null character:
so all of it can be stored just where it takes what a scan tells of a site's texts (`stored_iff`).
-/

namespace Coinslot

open List Option Dict

/-! ## The sums -/

section

variable (checks : List CheckResult)

/-- What checks that can be assessed weigh, of those that apply. -/
def assessedWeight : Nat :=
  (checks.map fun check => if check.status.assessed then check.applicableWeight else 0).sum

/-- The score before it is held within its bounds. -/
def calculatedScore : Int :=
  if assessedWeight checks = 0 then 0
  else ⌊(100 * (checks.map (·.earnedWeight)).sum / assessedWeight checks : Rat) + 1 / 2⌋

theorem scoreChecks_score : (scoreChecks checks).score =
      if (scoreChecks checks).coverage < 3 / 10 then none else some (max 0 (min 100 (calculatedScore checks))) := rfl

end

section

variable {checks : List CheckResult} (h : ∀ check ∈ checks, check.WellFormed)

include h

theorem earned_le_assessed : (checks.map (·.earnedWeight)).sum ≤ assessedWeight checks := by
  refine sum_le_sum fun check hcheck => ?_
  split
  · exact (h check hcheck).earned_le
  · next hstatus =>
    have hnone : check.earnedWeight = 0 := by
      refine (h check hcheck).unearned (fun hpass => ?_) fun hpart => ?_
      · rw [hpass] at hstatus
        exact hstatus rfl
      · rw [hpart] at hstatus
        exact hstatus rfl
    exact hnone.le

theorem applicable_le_nominal : (checks.map (·.applicableWeight)).sum ≤ (checks.map (·.nominalWeight)).sum :=
  sum_le_sum fun check hcheck => (h check hcheck).applicable_le

/-- **The score that is calculated is within its bounds.** -/
theorem calculatedScore_bounds : 0 ≤ calculatedScore checks ∧ calculatedScore checks ≤ 100 := by
  unfold calculatedScore
  split
  · exact ⟨le_rfl, by decide⟩
  · next hsome =>
    have hpos : (0 : Rat) < assessedWeight checks := by exact_mod_cast Nat.pos_of_ne_zero hsome
    have hle : (((checks.map (·.earnedWeight)).sum : Nat) : Rat) ≤ assessedWeight checks := by
      exact_mod_cast earned_le_assessed h
    constructor
    · exact Int.floor_nonneg.2 (by positivity)
    · have hratio : (100 * ((checks.map (·.earnedWeight)).sum : Nat) / assessedWeight checks : Rat) ≤ 100 := by
        rw [div_le_iff₀ hpos]
        linarith
      have hbound : ((100 + 1 : Int) : Rat) = 101 := by norm_num
      refine Int.lt_add_one_iff.1 (Int.floor_lt.2 ?_)
      linarith

end

theorem assessed_le_applicable (checks : List CheckResult) :
    assessedWeight checks ≤ (checks.map (·.applicableWeight)).sum := by
  refine sum_le_sum fun check _ => ?_
  split
  · exact le_rfl
  · exact Nat.zero_le _

theorem part_le {part whole : Nat} (hpart : part < whole) (hwhole : whole ≤ 100) :
    (part / whole : Rat) ≤ 99 / 100 := by
  have hpos : (0 : Rat) < whole := by exact_mod_cast (Nat.zero_le part).trans_lt hpart
  have hless : (part : Rat) + 1 ≤ whole := by exact_mod_cast hpart
  have hbound : (whole : Rat) ≤ 100 := by exact_mod_cast hwhole
  rw [div_le_iff₀ hpos]
  linarith

/-- **What is covered is nothing, all, or a hundredth less at least.** -/
theorem coverage_cases {checks : List CheckResult} (hwhole : (checks.map (·.applicableWeight)).sum ≤ 100) :
    0 ≤ (scoreChecks checks).coverage ∧
      ((scoreChecks checks).coverage = 1 ∨ (scoreChecks checks).coverage ≤ 99 / 100) := by
  have hcoverage : (scoreChecks checks).coverage =
      if (checks.map (·.applicableWeight)).sum = 0 then 0
      else (assessedWeight checks / (checks.map (·.applicableWeight)).sum : Rat) := rfl
  rw [hcoverage]
  split
  · exact ⟨le_rfl, .inr (by norm_num)⟩
  · next hsome =>
    refine ⟨by positivity, ?_⟩
    rcases (assessed_le_applicable checks).eq_or_lt with heq | hlt
    · rw [heq]
      exact .inl (div_self (by exact_mod_cast hsome))
    · exact .inr (part_le hlt hwhole)

/-! ## Rounding -/

/-- A number as a column of three decimals keeps it. -/
def inThousandths (q : Rat) : Rat := ⌊q * 1000 + 1 / 2⌋ / 1000

theorem inThousandths_mono {q r : Rat} (h : q ≤ r) : inThousandths q ≤ inThousandths r := by
  unfold inThousandths
  have hfloor : ⌊q * 1000 + 1 / 2⌋ ≤ ⌊r * 1000 + 1 / 2⌋ := Int.floor_le_floor (by linarith)
  have hcast : ((⌊q * 1000 + 1 / 2⌋ : Int) : Rat) ≤ ⌊r * 1000 + 1 / 2⌋ := by exact_mod_cast hfloor
  linarith

theorem inThousandths_of (n : Int) : inThousandths (n / 1000) = n / 1000 := by
  unfold inThousandths
  have hfloor : ⌊(n / 1000 : Rat) * 1000 + 1 / 2⌋ = n := by norm_num
  rw [hfloor]

/-! ## Rows -/

/-- What the table of scans asks of a row (`packages/scanner-database/src/schema.ts`): its checks, and the width of
its columns. -/
structure ScanRow.Accepted (row : ScanRow) : Prop where
  score_range : ∀ score, row.score = some score → 0 ≤ score ∧ score ≤ 100
  coverage_range : ∀ coverage, row.coverage = some coverage →
    0 ≤ inThousandths coverage ∧ inThousandths coverage ≤ 1
  attempt_range : 1 ≤ row.attemptNo ∧ row.attemptNo ≤ 2
  weight_range : ∀ weight, row.applicableWeight = some weight ∨ row.earnedWeight = some weight → weight < 10000
  terminal_result : row.status = .completed ∨ row.status = .partly →
    row.score.isSome ∧ row.coverage.isSome ∧ row.finishedAt.isSome
  completed_coverage : row.status = .completed → ∀ coverage, row.coverage = some coverage →
    inThousandths coverage = 1
  partly_coverage : row.status = .partly → ∀ coverage, row.coverage = some coverage →
    3 / 10 ≤ inThousandths coverage ∧ inThousandths coverage < 1
  failed_level : row.status = .failed →
    row.score = none ∧ (row.level = none ∨ row.level = some .incomplete)

/-- What the table of checks asks of a row: an identifier in its range, and texts that the store takes. -/
structure CheckRow.Accepted (takes : String → Prop) (row : CheckRow) : Prop where
  id_range : 1 ≤ row.result.id ∧ row.result.id ≤ 18
  texts : ∀ text ∈ row.result.texts, takes text

/-- What the table of evaluations that are kept asks of a row. -/
structure SnapshotRow.Accepted (takes : String → Prop) (row : SnapshotRow) : Prop where
  score_range : ∃ score, row.evaluation.score.score = some score ∧ 0 ≤ score ∧ score ≤ 100
  coverage_range : 0 ≤ inThousandths row.evaluation.score.coverage ∧ inThousandths row.evaluation.score.coverage ≤ 1
  texts : ∀ check ∈ row.evaluation.checks, ∀ text ∈ check.texts, takes text

def ScanDb.ScansAccepted (db : ScanDb) : Prop := ∀ scanId row, db.scans.get scanId = some row → row.Accepted

/-- Every row of the tables is one that they accept. -/
structure ScanDb.Accepted (takes : String → Prop) (db : ScanDb) : Prop where
  scans : db.ScansAccepted
  checks : ∀ scanId id row, (db.checksOf scanId).get id = some row → row.Accepted takes
  snapshots : ∀ cacheKey row, db.snapshots.get cacheKey = some row → row.Accepted takes

/-- What the tables ask of a score, as it is committed. -/
structure ScanScore.Sound (score : ScanScore) : Prop where
  score_range : ∀ value, score.score = some value → 0 ≤ value ∧ value ≤ 100
  coverage_range : 0 ≤ inThousandths score.coverage ∧ inThousandths score.coverage ≤ 1
  weight_range : score.applicableWeight < 10000 ∧ score.earnedWeight < 10000
  scored : score.terminalStatus ≠ .failed → score.score.isSome
  completed : score.terminalStatus = .completed → inThousandths score.coverage = 1
  partly : score.terminalStatus = .partly →
    3 / 10 ≤ inThousandths score.coverage ∧ inThousandths score.coverage < 1
  failed : score.terminalStatus = .failed → score.score = none ∧ score.level = .incomplete

/-- **Checks that are well formed, and weigh a hundred at most, come to a sound score.** -/
theorem sound_score {checks : List CheckResult} (h : ∀ check ∈ checks, check.WellFormed)
    (hnominal : (checks.map (·.nominalWeight)).sum ≤ 100) : (scoreChecks checks).Sound := by
  have happlicable := (applicable_le_nominal h).trans hnominal
  obtain ⟨hnonneg, hcases⟩ := coverage_cases happlicable
  have hscore := scoreChecks_score checks
  have hstatus : (scoreChecks checks).terminalStatus =
      if (scoreChecks checks).coverage < 3 / 10 then .failed
      else if (scoreChecks checks).coverage < 1 then .partly else .completed := rfl
  have hlevel : (scoreChecks checks).level =
      levelForScore (calculatedScore checks) (scoreChecks checks).coverage := rfl
  have hweights : (scoreChecks checks).applicableWeight = (checks.map (·.applicableWeight)).sum ∧
      (scoreChecks checks).earnedWeight = (checks.map (·.earnedWeight)).sum := ⟨rfl, rfl⟩
  have hearned := (earned_le_assessed h).trans (assessed_le_applicable checks)
  generalize scoreChecks checks = score at *
  have hzero : inThousandths 0 = 0 := by simpa using inThousandths_of 0
  have hone : inThousandths 1 = 1 := by simpa using inThousandths_of 1000
  have hmost : inThousandths (99 / 100) = 99 / 100 := by
    have := inThousandths_of 990
    norm_num at this ⊢
    exact this
  have hleast : inThousandths (3 / 10) = 3 / 10 := by
    have := inThousandths_of 300
    norm_num at this ⊢
    exact this
  have hfloor : 0 ≤ inThousandths score.coverage := hzero ▸ inThousandths_mono hnonneg
  constructor
  · intro value hvalue
    rw [hscore] at hvalue
    split at hvalue
    · cases hvalue
    · cases hvalue
      omega
  · refine ⟨hfloor, ?_⟩
    rcases hcases with hall | hpart
    · rw [hall, hone]
    · exact (inThousandths_mono hpart).trans (by rw [hmost]; norm_num)
  · omega
  · intro hdecided
    rw [hscore]
    split
    · next hlow =>
      rw [hstatus, if_pos hlow] at hdecided
      exact absurd rfl hdecided
    · rfl
  · intro hcompleted
    rw [hstatus] at hcompleted
    rcases hcases with hall | hpart
    · rw [hall, hone]
    · split at hcompleted
      · cases hcompleted
      · rw [if_pos (by linarith)] at hcompleted
        cases hcompleted
  · intro hpartly
    rw [hstatus] at hpartly
    split at hpartly
    · cases hpartly
    · next henough =>
      split at hpartly
      · next hless =>
        refine ⟨hleast ▸ inThousandths_mono (not_lt.1 henough), ?_⟩
        rcases hcases with hall | hpart
        · exact absurd hall hless.ne
        · exact (inThousandths_mono hpart).trans_lt (by rw [hmost]; norm_num)
      · cases hpartly
  · intro hfailed
    rw [hstatus] at hfailed
    split at hfailed
    · next hlow =>
      refine ⟨by rw [hscore, if_pos hlow], ?_⟩
      rw [hlevel]
      exact if_pos (hlow.trans (by norm_num))
    · split at hfailed <;> cases hfailed

/-! ## Commits -/

theorem ScanEnding.status_inj {a b : ScanEnding} (h : a.status = b.status) : a = b := by
  cases a <;> cases b <;> first | rfl | cases h

namespace ScanDb

variable {takes : String → Prop} {db : ScanDb}

variable {evaluation : ScanEvaluation}

/-- **A commit of a sound score leaves the scans accepted.** -/
theorem commit_scans (hscore : evaluation.score.Sound) (h : db.ScansAccepted) (scanId : String) (attemptNo : Nat)
    (cacheKey : String) (sourceScanId : Option String) (finishedAt : Int) :
    (db.commitTerminal scanId attemptNo evaluation cacheKey sourceScanId finishedAt).1.ScansAccepted := by
  unfold commitTerminal
  cases hfence : db.fence scanId attemptNo with
  | none => exact h
  | some current =>
    have hcurrent := h scanId current (filter_eq_some_iff.1 hfence).1
    intro other row hrow
    rw [get_set] at hrow
    split at hrow
    · cases hrow
      constructor
      · exact hscore.score_range
      · rintro coverage hcoverage
        cases hcoverage
        exact hscore.coverage_range
      · exact hcurrent.attempt_range
      · rintro weight (hweight | hweight)
        · cases hweight
          exact hscore.weight_range.1
        · cases hweight
          exact hscore.weight_range.2
      · intro hended
        refine ⟨hscore.scored fun hfailed => ?_, rfl, rfl⟩
        rw [hfailed] at hended
        rcases hended with hended | hended <;> cases hended
      · rintro hcompleted coverage hcoverage
        cases hcoverage
        exact hscore.completed (ScanEnding.status_inj (b := .completed) hcompleted)
      · rintro hpartly coverage hcoverage
        cases hcoverage
        exact hscore.partly (ScanEnding.status_inj (b := .partly) hpartly)
      · intro hfailed
        have hscored := hscore.failed (ScanEnding.status_inj (b := .failed) hfailed)
        exact ⟨hscored.1, .inr (congrArg some hscored.2)⟩
    · exact h other row hrow

theorem commit_accepted (hscore : evaluation.score.Sound)
    (htexts : ∀ check ∈ evaluation.checks, ∀ text ∈ check.texts, takes text) (h : db.Accepted takes)
    (scanId : String) (attemptNo : Nat) (cacheKey : String) (sourceScanId : Option String) (finishedAt : Int) :
    (db.commitTerminal scanId attemptNo evaluation cacheKey sourceScanId finishedAt).1.Accepted takes := by
  refine ⟨commit_scans hscore h.scans scanId attemptNo cacheKey sourceScanId finishedAt, ?_, ?_⟩
  · unfold commitTerminal
    split <;> exact h.checks
  · unfold commitTerminal
    split
    · exact h.snapshots
    · dsimp only
      split
      · next hkept =>
        simp only [Bool.and_eq_true] at hkept
        obtain ⟨score, hsome⟩ := isSome_iff_exists.1 hkept.2
        unfold keep
        split
        · exact h.snapshots
        · intro other row hrow
          rcases of_get_set hrow with ⟨-, rfl⟩ | ⟨-, hrow⟩
          · exact ⟨⟨score, hsome, hscore.score_range score hsome⟩, hscore.coverage_range, htexts⟩
          · exact h.snapshots other row hrow
      · exact h.snapshots

theorem upsert_accepted {check : CheckResult} (hid : 1 ≤ check.id ∧ check.id ≤ 18)
    (htexts : ∀ text ∈ check.texts, takes text) (h : db.Accepted takes) (scanId : String) (attemptNo : Nat)
    (t : Int) : (db.upsertCheck scanId attemptNo check t).1.Accepted takes := by
  unfold upsertCheck
  split
  · exact h
  · refine ⟨h.scans, fun other id row hrow => ?_, h.snapshots⟩
    unfold checksOf at hrow
    rw [get_set] at hrow
    split at hrow
    · rw [getD_some, get_set] at hrow
      split at hrow
      · cases hrow
        exact ⟨hid, htexts⟩
      · exact h.checks scanId id row hrow
    · exact h.checks other id row hrow

end ScanDb

/-- An evaluation can be stored: whatever the tables hold that they accept, neither the row of a check of it nor its
commit is refused. -/
def ScanEvaluation.Storable (takes : String → Prop) (evaluation : ScanEvaluation) : Prop :=
  ∀ db : ScanDb, db.Accepted takes → ∀ scanId attemptNo,
    (∀ check ∈ evaluation.checks, ∀ t, (db.upsertCheck scanId attemptNo check t).1.Accepted takes) ∧
      ∀ cacheKey sourceScanId finishedAt,
        (db.commitTerminal scanId attemptNo evaluation cacheKey sourceScanId finishedAt).1.Accepted takes

/-- A scan that runs, and nothing else. -/
def ScanDb.running : ScanDb :=
  ScanDb.empty.puts "scan"
    { status := .running
      attemptNo := 1
      queuedAt := none
      startedAt := none
      workerHeartbeatAt := none
      finishedAt := none
      score := none
      coverage := none
      level := none
      applicableWeight := none
      earnedWeight := none
      cacheHit := false
      sourceScanId := none
      failureCode := none }

theorem ScanDb.running_accepted (takes : String → Prop) : ScanDb.running.Accepted takes := by
  refine ⟨fun scanId row hrow => ?_, fun _ _ _ hrow => (by cases hrow), fun _ _ hrow => (by cases hrow)⟩
  unfold running puts at hrow
  rw [get_set] at hrow
  split at hrow
  · cases hrow
    exact
      { score_range := fun _ h => (by cases h)
        coverage_range := fun _ h => (by cases h)
        attempt_range := ⟨le_rfl, Nat.le_succ 1⟩
        weight_range := fun _ h => h.elim (fun h => (by cases h)) fun h => (by cases h)
        terminal_result := fun h => h.elim (fun h => (by cases h)) fun h => (by cases h)
        completed_coverage := fun h => (by cases h)
        partly_coverage := fun h => (by cases h)
        failed_level := fun h => (by cases h) }
  · cases hrow

/-- **A sound evaluation can be stored just where the store takes all of its texts.** -/
theorem ScanEvaluation.storable_iff {takes : String → Prop} {evaluation : ScanEvaluation}
    (hscore : evaluation.score.Sound) :
    evaluation.Storable takes ↔ ∀ check ∈ evaluation.checks, ∀ text ∈ check.texts, takes text := by
  constructor
  · intro h check hcheck
    have haccepted := (h .running (ScanDb.running_accepted takes) "scan" 1).1 check hcheck 0
    have hrow : ((ScanDb.running.upsertCheck "scan" 1 check 0).1.checksOf "scan").get check.id =
        some ⟨check, 0⟩ := by
      show (((ScanDb.running.checks.set "scan" _).get "scan").getD .empty).get check.id = _
      rw [get_set_self, getD_some, get_set_self]
    exact (haccepted.checks _ _ _ hrow).texts
  · intro htexts db hdb scanId attemptNo
    refine ⟨fun check hcheck t => ScanDb.upsert_accepted ?_ (htexts check hcheck) hdb scanId attemptNo t,
      fun cacheKey sourceScanId finishedAt =>
        ScanDb.commit_accepted hscore htexts hdb scanId attemptNo cacheKey sourceScanId finishedAt⟩
    have hid : check.id ∈ CheckSuite.checkIds := evaluation.complete ▸ List.mem_map_of_mem hcheck
    rw [CheckSuite.checkIds, mem_range'_1] at hid
    omega

/-! ## Scans -/

theorem SiteReader.sound {ν : Type} (R : SiteReader ν) (noncanonicalA2aHint : Bool) (artifacts : ScanArtifacts)
    (now : Int) : ((R.suite noncanonicalA2aHint).evaluateScan artifacts now).score.Sound :=
  sound_score (R.wellFormed noncanonicalA2aHint artifacts now) (show checkWeights.sum ≤ 100 by decide)

/-- **What is evaluated of a site is well formed, and its score is one that the table of scans accepts. All of it can
be stored just where the store takes the texts of the site that it tells of.** -/
theorem stored_iff {ν : Type} (R : SiteReader ν) (noncanonicalA2aHint : Bool) {takes : String → Prop}
    (htakes : ∀ text : String, '\x00' ∉ text.toList → takes text) (artifacts : ScanArtifacts) (now : Int) :
    let evaluation := (R.suite noncanonicalA2aHint).evaluateScan artifacts now
    (evaluation.checks.map (·.id) = CheckSuite.checkIds ∧ (∀ check ∈ evaluation.checks, check.WellFormed) ∧
        (0 ≤ calculatedScore evaluation.checks ∧ calculatedScore evaluation.checks ≤ 100) ∧
        ∀ db : ScanDb, db.ScansAccepted → ∀ scanId attemptNo cacheKey sourceScanId finishedAt,
          (db.commitTerminal scanId attemptNo evaluation cacheKey sourceScanId finishedAt).1.ScansAccepted) ∧
      (evaluation.Storable takes ↔ ∀ text ∈ R.quoted artifacts, takes text) := by
  intro evaluation
  have hwell := R.wellFormed noncanonicalA2aHint artifacts now
  have hscore := R.sound noncanonicalA2aHint artifacts now
  refine ⟨⟨evaluation.complete, hwell, calculatedScore_bounds hwell, fun db hdb scanId attemptNo cacheKey sourceScanId
    finishedAt => ScanDb.commit_scans hscore hdb scanId attemptNo cacheKey sourceScanId finishedAt⟩, ?_⟩
  rw [ScanEvaluation.storable_iff hscore]
  exact R.quoted_taken noncanonicalA2aHint htakes artifacts now

/-- A reader of pages whose structured data has a node of one type, and nothing else to read. -/
def typeReader (type : String) : SiteReader Nat where
  lowerCase := lowered
  pathname _ := "/"
  parseSafeJson _ := none
  parseJsonLd body :=
    if body = "" then { nodes := [], scriptCount := 0, invalidCount := 0 }
    else { nodes := [[("@type", .string type)]], scriptCount := 1, invalidCount := 0 }
  parseSitemap _ := { valid := false, isIndex := false, urls := [], lastmods := [] }
  dateParse _ := none
  visibleText _ := ""
  htmlSignals _ :=
    { textLength := 0, hasH1 := false, hasTitle := false, hasPrice := false, productLinkCount := 0, hreflangs := [] }
  isChallenge _ _ := false
  comparableBodies body other := body = other
  stringify _ := ""
  isZero n := n = 0
  hasHeading _ := false
  hasLink _ := false
  hasFeedLink _ := false
  marksProducts _ := false

/-- An answer of a status. -/
def answered (url : String) (status : Nat) (body : String) : FetchArtifact :=
  { url := url
    status := status
    headers := []
    body := body
    decodedBytes := 80
    truncated := false
    durationMs := 20
    ttfbMs := 10
    errorCode := none }

/-- A page with structured data of a type, on a site with nothing else. -/
def typedSite (type : String) : ScanArtifacts :=
  let page := answered "https://example.com/" 200
    ("<script type=\"application/ld+json\">\x7b\"@type\":\"" ++ type ++ "\"\x7d</script>")
  let absent := answered "https://example.com/" 404 ""
  { segment := .owner
    canonicalTargetUrl := "https://example.com/"
    robots := absent
    base := some page
    representative := none
    markdown := some absent
    chatgptProbe := some page
    claudeProbe := some page
    sitemap := [absent]
    llms := some absent
    mcp := [absent]
    ucp := some absent
    oauth := []
    a2a := some absent }

/-- The evaluation of a page of a product can be stored. -/
theorem product_page_stored :
    (((typeReader "Product").suite false).evaluateScan (typedSite "Product") 0).Storable
      fun text => '\x00' ∉ text.toList := by
  refine (stored_iff (typeReader "Product") false (fun _ h => h) (typedSite "Product") 0).2.2 fun text htext => ?_
  have hquoted : (typeReader "Product").quoted (typedSite "Product") = ["Product"] := by decide +kernel
  rw [hquoted, List.mem_singleton] at htext
  rw [htext]
  decide +kernel

/-- What is evaluated of a page whose structured data has a type that is a null character. -/
def nullTyped : ScanEvaluation := ((typeReader "\x00").suite false).evaluateScan (typedSite "\\u0000") 0

/-- The commit of it is refused, by the table of the evaluations that are kept. -/
theorem null_type_refused :
    ScanDb.running.Accepted (fun text => '\x00' ∉ text.toList) ∧
      ¬(ScanDb.running.commitTerminal "scan" 1 nullTyped "key" none 0).1.Accepted
        fun text => '\x00' ∉ text.toList := by
  refine ⟨ScanDb.running_accepted _, fun haccepted => ?_⟩
  have hkept : (ScanDb.running.commitTerminal "scan" 1 nullTyped "key" none 0).1.snapshots.get "key" =
      some ⟨"scan", nullTyped, 86400000, none⟩ := by
    have hended : nullTyped.score.terminalStatus = .completed := by decide +kernel
    have hcovered : nullTyped.score.coverage = 1 := by decide +kernel
    have hscored : nullTyped.score.score.isSome = true := by decide +kernel
    generalize nullTyped = evaluation at *
    have hfence : (ScanDb.running.fence "scan" 1).isSome = true := by decide +kernel
    obtain ⟨row, hrow⟩ := Option.isSome_iff_exists.1 hfence
    unfold ScanDb.commitTerminal
    rw [hrow]
    dsimp only
    rw [hended, hcovered, hscored, if_pos (by decide +kernel)]
    exact Dict.get_set_self _ _ _
  have htexts := (haccepted.snapshots "key" _ hkept).texts
  have hquoted : "\x00" ∈ (typeReader "\x00").quoted (typedSite "\\u0000") := by decide +kernel
  exact ((typeReader "\x00").quoted_taken false (fun _ h => h) _ 0).1 htexts "\x00" hquoted (by decide +kernel)

end Coinslot
