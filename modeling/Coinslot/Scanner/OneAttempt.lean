import Coinslot.Scanner.Attempts

/-!
# A scan is decided once, by one attempt

No two deliveries have the same number for the same scan, and one with a greater number takes the rows of the
earlier one away; so all rows of a scan are those of the attempt under way (`ScanWork.Sound`).

At the commit the rows are the results of the evaluation, but for one: the sitemap is looked at while the
pages are fetched and again at the end, each time by the clock, and only the first of the two results is
written (`committed_with_another_result`). Where the clock makes no difference to it (`ScanAction.Orderly`) the
rows are exactly the results (`decided_once_by_one_attempt`).
-/

namespace Coinslot

open List Dict

/-! ## Checks of an earlier phase -/

namespace CheckSuite

variable {K : CheckSuite} {artifacts : ScanArtifacts} {check : CheckResult} {t t' : Int}

theorem id_mem_checkIds (h : check ∈ K.evaluateChecks artifacts t) : check.id ∈ checkIds :=
  K.evaluateChecks_ids artifacts t ▸ mem_map_of_mem h

theorem mem_withPages (pages : PhasePages) (h : check ∈ K.evaluateChecks artifacts t)
    (hid : check.id ∈ robotsPhaseIds) : check ∈ K.evaluateChecks (artifacts.withPages pages) t' := by
  simp only [evaluateChecks, mem_cons, not_mem_nil, or_false] at h
  simp only [robotsPhaseIds, mem_cons, not_mem_nil, or_false] at hid
  rcases h with rfl | rfl | rfl | rfl | rfl | rfl | rfl | rfl | rfl | rfl | rfl | rfl | rfl | rfl |
    rfl | rfl | rfl | rfl <;> simp [result] at hid
  all_goals simp [evaluateChecks, ScanArtifacts.withPages]

theorem sitemapCheck_same {sitemap : List FetchArtifact}
    (h : ∀ value ∈ K.lastmods sitemap, ∀ date, K.dateParse value = some date →
      (date < t - staleMs ↔ date < t' - staleMs)) : K.sitemapCheck sitemap t = K.sitemapCheck sitemap t' := by
  have hstale : K.stale (K.lastmods sitemap) t = K.stale (K.lastmods sitemap) t' := by
    refine countP_congr fun value hvalue => ?_
    cases hdate : K.dateParse value with
    | none => exact Iff.rfl
    | some date => simpa using h value hvalue date hdate
  unfold sitemapCheck
  simp only [hstale]

theorem mem_later (h : check ∈ K.evaluateChecks artifacts t)
    (hsitemap : check.id = 4 → K.sitemapCheck artifacts.sitemap t = K.sitemapCheck artifacts.sitemap t') :
    check ∈ K.evaluateChecks artifacts t' := by
  simp only [evaluateChecks, mem_cons, not_mem_nil, or_false] at h ⊢
  rcases h with h | h | h | h | h
  · exact .inl h
  · exact .inr (.inl h)
  · exact .inr (.inr (.inl h))
  · exact .inr (.inr (.inr (.inl (by rw [h, hsitemap (by rw [h]; rfl)]))))
  · exact .inr (.inr (.inr (.inr h)))

theorem mem_withRest (oauth : List FetchArtifact) (representative : Option FetchArtifact)
    (h : check ∈ K.evaluateChecks artifacts t) (hid : check.id ∈ robotsPhaseIds ++ pagesPhaseIds) :
    check ∈ K.evaluateChecks (artifacts.withRest oauth representative) t := by
  simp only [evaluateChecks, mem_cons, not_mem_nil, or_false] at h
  simp only [robotsPhaseIds, pagesPhaseIds, cons_append, nil_append, mem_cons, not_mem_nil, or_false] at hid
  unfold evaluateChecks
  -- The content is kept back, or not, before and after.
  have heffective : (artifacts.withRest oauth representative).robots = artifacts.robots ∧
      (artifacts.withRest oauth representative).canonicalTargetUrl = artifacts.canonicalTargetUrl :=
    ⟨rfl, rfl⟩
  rw [heffective.1, heffective.2]
  rcases h with rfl | rfl | rfl | rfl | rfl | rfl | rfl | rfl | rfl | rfl | rfl | rfl | rfl | rfl |
    rfl | rfl | rfl | rfl <;> simp [result] at hid
  all_goals
    split <;> simp [ScanArtifacts.withRest, ScanArtifacts.withoutContent]

end CheckSuite

/-! ## What a delivery has told of -/

/-- What was told of while the site was fetched: the checks told of are written as they were evaluated, so is
what is still to be written, and together they are those of the phases so far. -/
structure Telling (rows : Dict Nat CheckRow) (checks : List CheckResult) (ids written : List Nat)
    (left : List CheckResult) : Prop where
  told : ∀ id ∈ written, id ∈ ids ∧ ∃ row, rows.get id = some row ∧ row.result ∈ checks ∧
    row.result.id = id
  still : ∀ check ∈ left, check ∈ checks ∧ check.id ∈ ids
  covers : ∀ id ∈ ids, id ∈ written ∨ ∃ check ∈ left, check.id = id

/-- Each result of an evaluation is written, or still to be written. -/
structure Writing (rows : Dict Nat CheckRow) (evaluation : ScanEvaluation) (left : List CheckResult) :
    Prop where
  still : ∀ check ∈ left, check ∈ evaluation.checks
  covers : ∀ check ∈ evaluation.checks, check ∈ left ∨
    ∃ row, rows.get check.id = some row ∧ row.result = check

/-- What a delivery has told of, by what it does next. -/
def ScanDelivery.Told (K : CheckSuite) (delivery : ScanDelivery) (rows : Dict Nat CheckRow) : Prop :=
  match delivery.phase with
  | .looking | .fetchingRobots => delivery.written = []
  | .fetchingPages artifacts left => ∃ t, Telling rows (K.evaluateChecks artifacts t) robotsPhaseIds
      delivery.written left
  | .fetchingRest artifacts t left => Telling rows (K.evaluateChecks artifacts t)
      (robotsPhaseIds ++ pagesPhaseIds) delivery.written left
  | .evaluated evaluation left => Telling rows evaluation.checks CheckSuite.checkIds delivery.written left
  | .writing evaluation _ left => Writing rows evaluation left
  | .failing _ => True

section
variable {rows : Dict Nat CheckRow} {checks left : List CheckResult} {ids written : List Nat}
  {evaluation : ScanEvaluation} {check : CheckResult}

theorem ScanEvaluation.ext_id {other : CheckResult} (h : check ∈ evaluation.checks)
    (hother : other ∈ evaluation.checks) (hid : check.id = other.id) : check = other := by
  have hnodup : (evaluation.checks.map (·.id)).Nodup := by
    rw [evaluation.complete]
    exact nodup_range'
  exact inj_on_of_nodup_map hnodup h hother hid

theorem Telling.write (h : Telling rows checks ids written (check :: left)) (t : Int) :
    Telling (rows.set check.id ⟨check, t⟩) checks ids (check.id :: written) left where
  told id hid := by
    obtain ⟨hcheck, hids⟩ := h.still check (mem_cons_self ..)
    by_cases hsame : id = check.id
    · exact ⟨hsame ▸ hids, ⟨check, t⟩, by rw [hsame, get_set_self], hcheck, hsame.symm⟩
    · obtain ⟨hin, row, hrow, hresult⟩ := h.told id ((mem_cons.1 hid).resolve_left hsame)
      exact ⟨hin, row, by rw [get_set_ne _ _ hsame]; exact hrow, hresult⟩
  still other hother := h.still other (mem_cons_of_mem _ hother)
  covers id hid := by
    rcases h.covers id hid with hdone | ⟨other, hother, rfl⟩
    · exact .inl (mem_cons_of_mem _ hdone)
    · rcases mem_cons.1 hother with rfl | hlater
      · exact .inl (mem_cons_self ..)
      · exact .inr ⟨other, hlater, rfl⟩

theorem Writing.write (h : Writing rows evaluation (check :: left)) (t : Int) :
    Writing (rows.set check.id ⟨check, t⟩) evaluation left where
  still other hother := h.still other (mem_cons_of_mem _ hother)
  covers other hother := by
    by_cases hsame : other.id = check.id
    · have hone := ScanEvaluation.ext_id hother (h.still check (mem_cons_self ..)) hsame
      exact .inr ⟨⟨check, t⟩, by rw [hone, get_set_self], hone.symm⟩
    · rw [get_set_ne _ _ hsame]
      rcases h.covers other hother with hlater | hdone
      · rcases mem_cons.1 hlater with rfl | hlater
        · exact absurd rfl hsame
        · exact .inl hlater
      · exact .inr hdone

variable {delivery : ScanDelivery} {K : CheckSuite}

theorem telling_emitted {config : ScanConfig} {artifacts : ScanArtifacts} {now t : Int} {told : List Nat}
    (hwritten : ∀ id ∈ delivery.written, id ∈ ids ∧ ∃ row, rows.get id = some row ∧
      row.result ∈ config.suite.evaluateChecks artifacts now ∧ row.result.id = id)
    (hids : ∀ id ∈ ids, id ∈ CheckSuite.checkIds ∧ (id ∈ delivery.written ∨ id ∈ told))
    (htold : ∀ id ∈ told, id ∈ ids)
    (hsame : ∀ check ∈ config.suite.evaluateChecks artifacts t, check.id ∉ delivery.written →
      check ∈ config.suite.evaluateChecks artifacts now) :
    Telling rows (config.suite.evaluateChecks artifacts now) ids delivery.written
      (ScanWork.emitted config delivery artifacts t told) where
  told := hwritten
  still check hcheck := by
    obtain ⟨hmem, hnew⟩ := mem_filter.1 hcheck
    simp only [Bool.and_eq_true, contains_eq_mem, decide_eq_true_eq, Bool.not_eq_true',
      decide_eq_false_iff_not] at hnew
    exact ⟨hsame check hmem hnew.2, htold _ hnew.1⟩
  covers id hid := by
    by_cases hdone : id ∈ delivery.written
    · exact .inl hdone
    · obtain ⟨hcheck, hnow⟩ := hids id hid
      rw [← config.suite.evaluateChecks_ids artifacts t] at hcheck
      obtain ⟨check, hmem, rfl⟩ := mem_map.1 hcheck
      refine .inr ⟨check, mem_filter.2 ⟨hmem, ?_⟩, rfl⟩
      simpa [hdone] using hnow.resolve_left hdone

theorem Telling.mono {checks' : List CheckResult} (h : Telling rows checks ids written left)
    (hsame : ∀ check ∈ checks, check.id ∈ ids → check ∈ checks') :
    ∀ id ∈ written, id ∈ ids ∧ ∃ row, rows.get id = some row ∧ row.result ∈ checks' ∧ row.result.id = id := by
  intro id hid
  obtain ⟨hin, row, hrow, hresult, hrid⟩ := h.told id hid
  exact ⟨hin, row, hrow, hsame _ hresult (by rw [hrid]; exact hin), hrid⟩

theorem Telling.returned (h : Telling rows evaluation.checks ids written []) :
    Writing rows evaluation (evaluation.checks.filter fun check => !written.contains check.id) where
  still check hcheck := mem_of_mem_filter hcheck
  covers check hcheck := by
    by_cases hdone : check.id ∈ written
    · obtain ⟨-, row, hrow, hresult, hid⟩ := h.told _ hdone
      exact .inr ⟨row, hrow, ScanEvaluation.ext_id hresult hcheck hid⟩
    · exact .inl (mem_filter.2 ⟨hcheck, by simpa using hdone⟩)

theorem ScanDelivery.Told.left_ids (h : delivery.Told K rows) (hleft : check ∈ delivery.phase.left) :
    check.id ∈ CheckSuite.checkIds := by
  obtain ⟨job, written, phase⟩ := delivery
  cases phase with
  | looking => cases hleft
  | fetchingRobots => cases hleft
  | fetchingPages artifacts left =>
    obtain ⟨t, htelling⟩ := h
    exact CheckSuite.id_mem_checkIds (htelling.still check hleft).1
  | fetchingRest artifacts t left => exact CheckSuite.id_mem_checkIds (Telling.still h check hleft).1
  | evaluated evaluation left => exact (Telling.still h check hleft).2
  | writing evaluation sourceScanId left =>
    have hmem := mem_map_of_mem (f := (·.id)) (Writing.still h check hleft)
    rwa [evaluation.complete] at hmem
  | failing code => cases hleft

theorem ScanDelivery.Told.write (h : delivery.Told K rows) (hleft : delivery.phase.left = check :: left) (t : Int) :
    ScanDelivery.Told K ⟨delivery.job, delivery.phase.tells check.id delivery.written,
      delivery.phase.withLeft left⟩ (rows.set check.id ⟨check, t⟩) := by
  obtain ⟨job, written, phase⟩ := delivery
  cases phase with
  | looking => cases hleft
  | fetchingRobots => cases hleft
  | fetchingPages artifacts found =>
    cases hleft
    obtain ⟨at', htelling⟩ := h
    exact ⟨at', htelling.write t⟩
  | fetchingRest artifacts at' found =>
    cases hleft
    exact Telling.write h t
  | evaluated evaluation found =>
    cases hleft
    exact Telling.write h t
  | writing evaluation sourceScanId found =>
    cases hleft
    exact Writing.write h t
  | failing code => cases hleft

end

/-! ## Deliveries of one scan -/

/-- What holds of the deliveries and the rows: no delivery has a number its scan has not come to, and where
one has its number the scan is being made, or decided; no two deliveries have one number for one scan; the
rows are of checks; and those of an attempt under way are what it told of. -/
structure ScanWork.Sound (config : ScanConfig) (s : ScanWork) : Prop where
  known : ∀ {d delivery}, s.deliveries.get d = some delivery →
    ∃ st, s.db.standing delivery.job.scanId = some st ∧ delivery.job.attemptNo ≤ st.attemptNo ∧
      (delivery.job.attemptNo = st.attemptNo → st.status = .running ∨ st.status.terminal = true)
  single : ∀ {d d' delivery delivery'}, s.deliveries.get d = some delivery →
    s.deliveries.get d' = some delivery' → delivery.job.scanId = delivery'.job.scanId →
    delivery.job.attemptNo = delivery'.job.attemptNo → d = d'
  rows : ∀ {scanId id row}, (s.db.checksOf scanId).get id = some row → id ∈ CheckSuite.checkIds
  told : ∀ {d delivery}, s.deliveries.get d = some delivery →
    s.db.standing delivery.job.scanId = some ⟨.running, delivery.job.attemptNo⟩ →
    delivery.Told config.suite (s.db.checksOf delivery.job.scanId)

namespace ScanWork

variable {config : ScanConfig} {s s' : ScanWork} {d : Nat} {delivery : ScanDelivery} {event : ScanEvent}
  {db : ScanDb}

theorem known_turns (hs : s.Sound config) (hturns : s.db.Turns db event) (hd : s.deliveries.get d = some delivery)
    (hown : ∀ status, event = .settled delivery.job.scanId delivery.job.attemptNo status → status.terminal = true) :
    ∃ st, db.standing delivery.job.scanId = some st ∧ delivery.job.attemptNo ≤ st.attemptNo ∧
      (delivery.job.attemptNo = st.attemptNo → st.status = .running ∨ st.status.terminal = true) := by
  obtain ⟨st, hst, hle, hunder⟩ := hs.known hd
  cases hturns with
  | still hsame _ => exact ⟨st, by rw [hsame]; exact hst, hle, hunder⟩
  | @opened scanId now hwas hset _ =>
    by_cases hid : delivery.job.scanId = scanId
    · -- Nothing is delivered of a scan that was only accepted.
      obtain ⟨haccepted, hattempt⟩ := hwas st (by rw [← hid]; exact hst)
      refine ⟨now, by rw [hset, if_pos hid], by rw [hattempt]; exact hle, fun heq => ?_⟩
      rcases hunder (by rw [heq, hattempt]) with h | h
      · cases haccepted.symm.trans h
      · rw [haccepted] at h
        cases h
    · exact ⟨st, by rw [hset, if_neg hid]; exact hst, hle, hunder⟩
  | @taken scanId attemptNo was hwas hopen hfrom hmore hset _ =>
    by_cases hid : delivery.job.scanId = scanId
    · subst hid
      cases hwas.symm.trans hst
      exact ⟨⟨.running, attemptNo⟩, by rw [hset, if_pos rfl], hle.trans hfrom, fun _ => .inl rfl⟩
    · exact ⟨st, by rw [hset, if_neg hid]; exact hst, hle, hunder⟩
  | wrote _ hsame _ => exact ⟨st, by rw [hsame]; exact hst, hle, hunder⟩
  | @settled scanId attemptNo status hwas _ hset _ =>
    by_cases hid : delivery.job.scanId = scanId
    · subst hid
      cases hwas.symm.trans hst
      refine ⟨⟨status, attemptNo⟩, by rw [hset, if_pos rfl], hle, fun heq => .inr ?_⟩
      exact hown status (by rw [show delivery.job.attemptNo = attemptNo from heq])
    · exact ⟨st, by rw [hset, if_neg hid]; exact hst, hle, hunder⟩

theorem rows_turns (hs : s.Sound config) (hturns : s.db.Turns db event) (hd : s.deliveries.get d = some delivery)
    (hown : ∀ row, event ≠ .wrote delivery.job.scanId delivery.job.attemptNo row)
    (hunder : db.standing delivery.job.scanId = some ⟨.running, delivery.job.attemptNo⟩) :
    s.db.standing delivery.job.scanId = some ⟨.running, delivery.job.attemptNo⟩ ∧
      db.checksOf delivery.job.scanId = s.db.checksOf delivery.job.scanId := by
  obtain ⟨st, hst, hle, hlive⟩ := hs.known hd
  cases hturns with
  | still hsame hchecks => exact ⟨by rw [← hsame]; exact hunder, hchecks _⟩
  | @opened scanId now hwas hset hchecks =>
    refine ⟨?_, hchecks _⟩
    rw [hset] at hunder
    split at hunder
    · next hid =>
      cases hunder
      obtain ⟨haccepted, hattempt⟩ := hwas st (by rw [← hid]; exact hst)
      rcases hlive hattempt with h | h
      · cases haccepted.symm.trans h
      · rw [haccepted] at h
        cases h
    · exact hunder
  | @taken scanId attemptNo was hwas hopen hfrom hmore hset hchecks =>
    rw [hset] at hunder
    split at hunder
    · next hid =>
      -- The number was not given out yet.
      simp only [Option.some.injEq, ScanStanding.mk.injEq, true_and] at hunder
      rw [hid, hwas] at hst
      cases hst
      have hsame : delivery.job.attemptNo = st.attemptNo := le_antisymm hle (by rw [← hunder]; exact hfrom)
      rcases hlive hsame with h | h
      · have := hmore h
        omega
      · cases hopen.symm.trans h
    · next hid => exact ⟨hunder, by rw [hchecks, if_neg fun h => hid h.1]⟩
  | @wrote scanId attemptNo row hwas hsame hchecks =>
    rw [hsame] at hunder
    refine ⟨hunder, ?_⟩
    rw [hchecks, if_neg]
    intro hid
    rw [hid, hwas] at hunder
    simp only [Option.some.injEq, ScanStanding.mk.injEq, true_and] at hunder
    exact hown row (by rw [hid, hunder])
  | @settled scanId attemptNo status _ hover hset hchecks =>
    refine ⟨?_, hchecks _⟩
    rw [hset] at hunder
    split at hunder
    · cases hunder
      exact absurd rfl hover
    · exact hunder

/-- What happens keeps what holds of deliveries and rows, where no delivery changes but the acting one: it
was at work on the same attempt before, or just took it; what it told of is what it is to have told of; and
it is the one that writes or settles. -/
theorem sound_of (acting : Option Nat) (hs : s.Sound config) (hturns : s.db.Turns s'.db event)
    (hothers : ∀ {d delivery}, s'.deliveries.get d = some delivery → acting ≠ some d →
      s.deliveries.get d = some delivery)
    (hmine : ∀ {d delivery}, acting = some d → s'.deliveries.get d = some delivery →
      ((∃ before, s.deliveries.get d = some before ∧ before.job = delivery.job) ∨
        event = .taken delivery.job.scanId delivery.job.attemptNo) ∧
      (∀ status, event = .settled delivery.job.scanId delivery.job.attemptNo status → status.terminal = true) ∧
      (s'.db.standing delivery.job.scanId = some ⟨.running, delivery.job.attemptNo⟩ →
        delivery.Told config.suite (s'.db.checksOf delivery.job.scanId)))
    (hdoneBy : ∀ {scanId attemptNo}, event.doneBy = some (scanId, attemptNo) →
      ∃ d delivery, acting = some d ∧ s.deliveries.get d = some delivery ∧
        delivery.job.scanId = scanId ∧ delivery.job.attemptNo = attemptNo)
    (hrow : ∀ {scanId attemptNo row}, event = .wrote scanId attemptNo row →
      row.result.id ∈ CheckSuite.checkIds) : s'.Sound config := by
  have hother {d : Nat} {delivery : ScanDelivery} (hd : s.deliveries.get d = some delivery)
      (hne : acting ≠ some d) : event.doneBy ≠ some (delivery.job.scanId, delivery.job.attemptNo) := by
    intro hby
    obtain ⟨k, found, hk, hfound, hscan, hattempt⟩ := hdoneBy hby
    exact hne (by rw [hk, hs.single hfound hd hscan hattempt])
  refine ⟨fun {d delivery} hd => ?_, fun {d d' delivery delivery'} hd hd' hscan hattempt => ?_,
    fun {scanId id row} hget => ?_, fun {d delivery} hd hunder => ?_⟩
  · by_cases hacts : acting = some d
    · obtain ⟨⟨before, hbefore, hjob⟩ | htook, hsettled, -⟩ := hmine hacts hd
      · rw [← hjob] at hsettled ⊢
        exact known_turns hs hturns hbefore hsettled
      · rw [htook] at hturns
        cases hturns with
        | taken _ _ _ _ hset _ => exact ⟨_, (hset _).trans (if_pos rfl), Nat.le_refl _, fun _ => .inl rfl⟩
    · have hbefore := hothers hd hacts
      refine known_turns hs hturns hbefore fun status hevent => ?_
      exact absurd (by rw [hevent]; rfl) (hother hbefore hacts)
  · -- A number that was just taken was nobody's.
    have hnew {k k' : Nat} {taker holder : ScanDelivery} (hk' : s.deliveries.get k' = some holder)
        (hsame : taker.job.scanId = holder.job.scanId)
        (hnumber : taker.job.attemptNo = holder.job.attemptNo)
        (htook : event = .taken taker.job.scanId taker.job.attemptNo) : k = k' := by
      rw [htook] at hturns
      cases hturns with
      | @taken _ _ st hst hopen hfrom hmore _ _ =>
        obtain ⟨was, hwas, hle, hlive⟩ := hs.known hk'
        rw [← hsame, hst] at hwas
        cases hwas
        rcases hlive (by omega) with h | h
        · have := hmore h
          omega
        · cases hopen.symm.trans h
    by_cases hacts : acting = some d
    · by_cases hacts' : acting = some d'
      · exact Option.some.inj (hacts.symm.trans hacts')
      · have hbefore' := hothers hd' hacts'
        rcases (hmine hacts hd).1 with ⟨before, hbefore, hjob⟩ | htook
        · exact hs.single hbefore hbefore' (by rw [hjob, hscan]) (by rw [hjob, hattempt])
        · exact hnew hbefore' hscan hattempt htook
    · have hbefore := hothers hd hacts
      by_cases hacts' : acting = some d'
      · rcases (hmine hacts' hd').1 with ⟨before, hbefore', hjob⟩ | htook
        · exact hs.single hbefore hbefore' (by rw [hjob, hscan]) (by rw [hjob, hattempt])
        · exact (hnew hbefore hscan.symm hattempt.symm htook).symm
      · exact hs.single hbefore (hothers hd' hacts') hscan hattempt
  · cases hturns with
    | still _ hchecks => rw [hchecks] at hget; exact hs.rows hget
    | opened _ _ hchecks => rw [hchecks] at hget; exact hs.rows hget
    | settled _ _ _ hchecks => rw [hchecks] at hget; exact hs.rows hget
    | taken _ _ _ _ _ hchecks =>
      rw [hchecks] at hget
      split at hget
      · cases hget
      · exact hs.rows hget
    | @wrote _ _ written _ _ hchecks =>
      rw [hchecks] at hget
      split at hget
      · rw [get_set] at hget
        split at hget
        · next hid => exact hid ▸ hrow rfl
        · exact hs.rows hget
      · exact hs.rows hget
  · by_cases hacts : acting = some d
    · exact (hmine hacts hd).2.2 hunder
    · have hbefore := hothers hd hacts
      obtain ⟨hwas, hchecks⟩ := rows_turns hs hturns hbefore (fun row hevent =>
        hother hbefore hacts (by rw [hevent]; rfl)) hunder
      rw [hchecks]
      exact hs.told hbefore hwas

theorem sound_moves (hs : s.Sound config) (hd : s.deliveries.get d = some delivery) (phase : ScanPhase)
    (htold : ∀ rows, delivery.Told config.suite rows →
      ScanDelivery.Told config.suite ⟨delivery.job, delivery.written, phase⟩ rows) :
    (s.moves d delivery phase).Sound config := by
  refine sound_of (some d) hs (.refl _) (fun {k found} hk hne => ?_) (fun {k found} hacts hk => ?_)
    (by rintro _ _ ⟨⟩) (by rintro _ _ _ ⟨⟩)
  · exact (get_set_ne _ _ fun h => hne (by rw [h])).symm.trans hk
  · cases hacts
    cases (get_set_self _ _ _).symm.trans hk
    exact ⟨.inl ⟨delivery, hd, rfl⟩, by rintro _ ⟨⟩, fun hunder => htold _ (hs.told hd hunder)⟩

theorem sound_ends (hs : s.Sound config) (hturns : s.db.Turns db event)
    (hdoneBy : ∀ {scanId attemptNo}, event.doneBy = some (scanId, attemptNo) →
      ∃ delivery, s.deliveries.get d = some delivery ∧ delivery.job.scanId = scanId ∧
        delivery.job.attemptNo = attemptNo) (hrow : ∀ {scanId attemptNo row}, event ≠ .wrote scanId attemptNo row) :
    (({ s with db := db } : ScanWork).ends d).Sound config := by
  have hget {k : Nat} {found : ScanDelivery}
      (hk : (({ s with db := db } : ScanWork).ends d).deliveries.get k = some found) :
      k ≠ d ∧ s.deliveries.get k = some found := by
    have hk : (s.deliveries.delete d).get k = some found := hk
    obtain ⟨hne, hk⟩ := of_get_delete hk
    exact ⟨hne, hk⟩
  refine sound_of (some d) hs hturns (fun hk _ => (hget hk).2) (fun hacts hk => ?_)
    (fun {scanId attemptNo} hby => ?_) fun hevent => absurd hevent hrow
  · exact absurd (Option.some.inj hacts).symm (hget hk).1
  · obtain ⟨delivery, hd, hscan, hattempt⟩ := hdoneBy hby
    exact ⟨d, delivery, rfl, hd, hscan, hattempt⟩

theorem sound_db (hs : s.Sound config) (hturns : s.db.Turns db event) (hdoneBy : event.doneBy = none) :
    ({ s with db := db } : ScanWork).Sound config :=
  sound_of none hs hturns (fun hk _ => hk) (by rintro _ _ ⟨⟩)
    (fun hby => by cases hdoneBy.symm.trans hby)
    (fun hevent => by rw [hevent] at hdoneBy; cases hdoneBy)

end ScanWork

/-! ## Steps -/

/-- The clock makes no difference to the sitemap: what was said of it once the pages were fetched is what is
said of it at the end. -/
def ScanAction.Orderly (config : ScanConfig) (s : ScanWork) : ScanAction → Prop
  | .fetchesRest d _ _ now _ => ∀ job written artifacts evaluatedAt,
      s.deliveries.get d = some ⟨job, written, .fetchingRest artifacts evaluatedAt []⟩ →
      config.suite.sitemapCheck artifacts.sitemap evaluatedAt =
        config.suite.sitemapCheck artifacts.sitemap now
  | _ => True

namespace ScanWork

variable {config : ScanConfig} {s s' : ScanWork} {d : Nat} {delivery : ScanDelivery} {event : ScanEvent}
  {db : ScanDb} {action : ScanAction} {out : List ScanNotice}

section

variable (hs : s.Sound config)
include hs

theorem sound_delivers (hfree : s.deliveries.get d = none) {job : ScanJob}
    {retryCount : Nat} {now : Int} (h : s.delivers config d job retryCount now = some s') : s'.Sound config := by
  obtain ⟨came, hclaim, rfl⟩ := Option.map_eq_some_iff.1 h
  have hspec := (s.db.claim_spec hclaim).2
  split
  · next hclaimed =>
    rw [if_pos hclaimed] at hspec
    refine sound_of (some d) hs hspec (fun {k found} hk hne => ?_) (fun {k found} hacts hk => ?_)
      (by rintro _ _ ⟨⟩) (by rintro _ _ _ ⟨⟩)
    · exact (get_set_ne _ _ fun h => hne (by rw [h])).symm.trans hk
    · cases hacts
      cases (get_set_self _ _ _).symm.trans hk
      refine ⟨.inr rfl, by rintro _ ⟨⟩, fun _ => ?_⟩
      cases config.cacheEnabled with
      | true => rfl
      | false => rfl
  · next hnot =>
    rw [if_neg (by intro h; exact hnot h)] at hspec
    exact sound_db hs (.of_eq hspec) rfl

section

variable (hd : s.deliveries.get d = some delivery)
include hd

theorem sound_writes {check : CheckResult} {left : List CheckResult} (hleft : delivery.phase.left = check :: left)
    (now : Int) : (s.writes d delivery check left now).Sound config := by
  have hspec := (s.db.upsertCheck_spec delivery.job.scanId delivery.job.attemptNo check now).2
  unfold writes
  dsimp only
  split
  · next hwritten =>
    rw [if_pos hwritten] at hspec
    have hunder : s.db.standing delivery.job.scanId = some ⟨.running, delivery.job.attemptNo⟩ := by
      cases hspec with
      | wrote hwas _ _ => exact hwas
    have htold := hs.told hd hunder
    refine sound_of (some d) hs hspec (fun {k found} hk hne => ?_) (fun {k found} hacts hk => ?_)
      (fun {scanId attemptNo} hby => ?_) (fun {scanId attemptNo row} hevent => ?_)
    · exact (get_set_ne _ _ fun h => hne (by rw [h])).symm.trans hk
    · cases hacts
      cases (get_set_self _ _ _).symm.trans hk
      refine ⟨.inl ⟨delivery, hd, rfl⟩, by rintro _ ⟨⟩, fun _ => ?_⟩
      cases hspec with
      | wrote _ _ hchecks =>
        rw [hchecks, if_pos rfl]
        exact htold.write hleft now
    · cases hby
      exact ⟨d, delivery, rfl, hd, rfl, rfl⟩
    · cases hevent
      exact htold.left_ids (by rw [hleft]; exact mem_cons_self ..)
  · next hfenced =>
    rw [if_neg hfenced] at hspec
    exact sound_ends hs (.of_eq hspec) (by rintro _ _ ⟨⟩) (by rintro _ _ _ ⟨⟩)

theorem sound_commits (evaluation : ScanEvaluation) (sourceScanId : Option String) (now : Int) (answered : Bool) :
    (s.commits config d delivery evaluation sourceScanId now answered).1.Sound config := by
  have hspec := (s.db.commitTerminal_spec delivery.job.scanId delivery.job.attemptNo evaluation
    (config.cacheKeyFor delivery.job) sourceScanId now).2
  obtain ⟨event, hturns, hdoneBy, hover, hrow⟩ : ∃ event, s.db.Turns (s.db.commitTerminal
      delivery.job.scanId delivery.job.attemptNo evaluation (config.cacheKeyFor delivery.job)
      sourceScanId now).1 event ∧
      (∀ {scanId attemptNo}, event.doneBy = some (scanId, attemptNo) →
        delivery.job.scanId = scanId ∧ delivery.job.attemptNo = attemptNo) ∧
      (∀ scanId attemptNo status, event = .settled scanId attemptNo status → status.terminal = true) ∧
      ∀ {scanId attemptNo row}, event ≠ .wrote scanId attemptNo row := by
    split at hspec
    · refine ⟨_, hspec, ?_, ?_, by rintro _ _ _ ⟨⟩⟩
      · rintro _ _ ⟨⟩
        exact ⟨rfl, rfl⟩
      · rintro _ _ _ ⟨⟩
        exact ScanEnding.terminal _
    · exact ⟨.still, .of_eq hspec, by rintro _ _ ⟨⟩, by rintro _ _ _ ⟨⟩, by rintro _ _ _ ⟨⟩⟩
  unfold commits
  cases answered with
  | true =>
    refine sound_ends hs hturns (fun hby => ?_) hrow
    exact ⟨delivery, hd, hdoneBy hby⟩
  | false =>
    refine sound_of (some d) hs hturns (fun {k found} hk hne => ?_) (fun {k found} hacts hk => ?_)
      (fun hby => ⟨d, delivery, rfl, hd, hdoneBy hby⟩) fun hevent => absurd hevent hrow
    · exact (get_set_ne _ _ fun h => hne (by rw [h])).symm.trans hk
    · cases hacts
      cases (get_set_self _ _ _).symm.trans hk
      exact ⟨.inl ⟨delivery, hd, rfl⟩, hover _ _, fun _ => trivial⟩

theorem sound_fails (code : String) (now : Int) : (s.fails d delivery code now).Sound config := by
  obtain ⟨-, event, hturns, rfl | ⟨status, rfl⟩⟩ := s.db.markSystemFailure_spec delivery.job.scanId
    delivery.job.attemptNo code (delivery.job.attemptNo < 2) now
  · exact sound_ends hs hturns (by rintro _ _ ⟨⟩) (by rintro _ _ _ ⟨⟩)
  · refine sound_ends hs hturns ?_ (by rintro _ _ _ ⟨⟩)
    rintro _ _ ⟨⟩
    exact ⟨delivery, hd, rfl, rfl⟩

end

/-- What was told of the robots file and the pages is what the evaluation says, where the clock makes no
difference to the sitemap. -/
theorem sound_fetchesRest {job : ScanJob} {written : List Nat} {artifacts : ScanArtifacts} {evaluatedAt : Int}
    (hd : s.deliveries.get d = some ⟨job, written, .fetchingRest artifacts evaluatedAt []⟩)
    (oauth : List FetchArtifact) (representative : Option FetchArtifact) (now later : Int)
    (hclock : config.suite.sitemapCheck artifacts.sitemap evaluatedAt =
      config.suite.sitemapCheck artifacts.sitemap now) :
    (s.fetchesRest config d ⟨job, written, .fetchingRest artifacts evaluatedAt []⟩ artifacts oauth
      representative now later).Sound config := by
  refine sound_moves hs hd _ fun rows htold => ?_
  have htelling : Telling rows (config.suite.evaluateChecks artifacts evaluatedAt)
      (robotsPhaseIds ++ pagesPhaseIds) written [] := htold
  have hkept (check : CheckResult) (hcheck : check ∈ config.suite.evaluateChecks artifacts evaluatedAt)
      (hid : check.id ∈ robotsPhaseIds ++ pagesPhaseIds) :
      check ∈ config.suite.evaluateChecks (artifacts.withRest oauth representative) now :=
    CheckSuite.mem_withRest oauth representative (CheckSuite.mem_later hcheck fun _ => hclock) hid
  have hsame := htelling.mono hkept
  refine telling_emitted (fun id hid => ⟨?_, (hsame id hid).2⟩) (fun id hid => ⟨hid, .inr hid⟩)
    (fun id hid => hid) fun check hcheck hnew => ?_
  · obtain ⟨hin, row, -, hresult, hrid⟩ := hsame id hid
    exact hrid ▸ CheckSuite.id_mem_checkIds hresult
  · refine CheckSuite.mem_later hcheck fun hfour => ?_
    rcases htelling.covers 4 (by decide) with hdone | ⟨_, hnone, _⟩
    · exact absurd (hfour ▸ hdone) hnew
    · cases hnone

/-- **Steps.** An orderly step keeps what holds of deliveries and rows. -/
theorem step_sound (horderly : action.Orderly config s)
    (h : s.step config action = .ok (s', out)) : s'.Sound config := by
  cases action with
  | accepts scanId =>
    cases h
    obtain ⟨-, event, hturns, rfl | rfl⟩ := s.db.accept_spec scanId
    · exact sound_db hs hturns rfl
    · exact sound_db hs hturns rfl
  | enqueues scanId t =>
    cases h
    obtain ⟨-, event, hturns, rfl | rfl⟩ := s.db.enqueueScan_spec scanId t
    · exact sound_db hs hturns rfl
    · exact sound_db hs hturns rfl
  | delivers d job retryCount now =>
    simp only [step] at h
    split at h
    · cases h
    · next hfree =>
      split at h
      · cases h
      · next hcame =>
        cases h
        exact sound_delivers hs (by simpa [Dict.has] using hfree) hcame
  | looks d now =>
    simp only [step] at h
    split at h
    · next hd =>
      cases h
      unfold looks
      split
      · exact sound_moves hs hd _ fun rows _ => ⟨fun _ h => h, fun _ h => .inl h⟩
      · exact sound_moves hs hd _ fun rows htold => htold
    · cases h
  | fetchesRobots d canonicalTargetUrl robots now =>
    simp only [step] at h
    split at h
    · next job written hd =>
      cases h
      refine sound_moves hs hd _ fun rows htold => ⟨now, ?_⟩
      have htold : written = [] := htold
      subst htold
      exact telling_emitted (by rintro _ ⟨⟩) (fun id hid => ⟨by revert id; decide, .inr hid⟩)
        (fun id hid => hid) fun check hcheck _ => hcheck
    · cases h
  | fetchesPages d pages now =>
    simp only [step] at h
    split at h
    · next job written artifacts hd =>
      cases h
      refine sound_moves hs hd _ fun rows htold => ?_
      obtain ⟨t, htelling⟩ := htold
      have hsame (check : CheckResult) (hcheck : check ∈ config.suite.evaluateChecks artifacts t)
          (hid : check.id ∈ robotsPhaseIds) :
          check ∈ config.suite.evaluateChecks (artifacts.withPages pages) now :=
        CheckSuite.mem_withPages pages hcheck hid
      refine telling_emitted (fun id hid => ?_) (fun id hid => ⟨by revert id; decide, ?_⟩)
        (fun id hid => mem_append_right _ hid) fun check hcheck _ => hcheck
      · obtain ⟨hin, hrow⟩ := htelling.mono hsame id hid
        exact ⟨mem_append_left _ hin, hrow⟩
      · rcases mem_append.1 hid with hearly | hnow
        · rcases htelling.covers id hearly with hdone | ⟨_, hnone, _⟩
          · exact .inl hdone
          · cases hnone
        · exact .inr hnow
    · cases h
  | fetchesRest d oauth representative now later =>
    simp only [step] at h
    split at h
    · next hd =>
      cases h
      exact sound_fetchesRest hs hd oauth representative now later (horderly _ _ _ _ hd)
    · cases h
  | writes d now =>
    simp only [step] at h
    split at h
    · cases h
    · next delivery hd =>
      split at h
      · cases h
      · next hleft =>
        cases h
        exact sound_writes hs hd hleft now
  | returns d =>
    simp only [step] at h
    split at h
    · next hd =>
      cases h
      exact sound_moves hs hd _ fun rows htold => Telling.returned htold
    · cases h
  | commits d now answered =>
    simp only [step] at h
    split at h
    · next hd =>
      cases h
      exact sound_commits hs hd _ _ now answered
    · cases h
  | throws d message =>
    simp only [step] at h
    split at h
    · cases h
    · next hd =>
      cases h
      exact sound_moves hs hd _ fun _ _ => trivial
  | fails d now =>
    simp only [step] at h
    split at h
    · next hd =>
      cases h
      exact sound_fails hs hd _ now
    · cases h
  | beats d now =>
    simp only [step] at h
    split at h
    · cases h
    · next delivery hd =>
      cases h
      exact sound_db hs (s.db.heartbeat_spec delivery.job.scanId delivery.job.attemptNo now).2 rfl
  | dies d =>
    cases h
    exact sound_ends hs (.refl s.db) (by rintro _ _ ⟨⟩) (by rintro _ _ _ ⟨⟩)
  | forgets cacheKey =>
    cases h
    exact sound_db hs (.still (fun _ => rfl) fun _ => rfl) rfl
  | invalidates cacheKey t =>
    cases h
    obtain ⟨hscans, hchecks⟩ := s.db.invalidate_scans cacheKey t
    refine sound_db hs (.still (fun _ => ?_) fun _ => ?_) rfl
    · unfold ScanDb.standing; rw [hscans]
    · unfold ScanDb.checksOf; rw [hchecks]

end

theorem step_keepsDecided (h : s.step config action = .ok (s', out)) : s.db.KeepsDecided s'.db := by
  cases action with
  | accepts scanId => cases h; exact (s.db.accept_spec scanId).1
  | enqueues scanId t => cases h; exact (s.db.enqueueScan_spec scanId t).1
  | delivers d job retryCount now =>
    simp only [step] at h
    split at h
    · cases h
    · split at h
      · cases h
      · next hcame =>
        cases h
        obtain ⟨came, hclaim, rfl⟩ := Option.map_eq_some_iff.1 hcame
        have hkept := (s.db.claim_spec hclaim).1
        split
        · exact hkept
        · exact hkept
  | looks d now =>
    simp only [step] at h
    split at h
    · cases h
      unfold looks
      split
      · exact .refl s.db
      · exact .refl s.db
    · cases h
  | fetchesRobots d canonicalTargetUrl robots now =>
    simp only [step] at h
    split at h
    · cases h; exact .refl s.db
    · cases h
  | fetchesPages d pages now =>
    simp only [step] at h
    split at h
    · cases h; exact .refl s.db
    · cases h
  | fetchesRest d oauth representative now later =>
    simp only [step] at h
    split at h
    · cases h; exact .refl s.db
    · cases h
  | writes d now =>
    simp only [step] at h
    split at h
    · cases h
    · next delivery hd =>
      split at h
      · cases h
      · next check left _ =>
        cases h
        have hkept := (s.db.upsertCheck_spec delivery.job.scanId delivery.job.attemptNo check now).1
        unfold writes
        dsimp only
        split
        · exact hkept
        · exact hkept
  | returns d =>
    simp only [step] at h
    split at h
    · cases h; exact .refl s.db
    · cases h
  | commits d now answered =>
    simp only [step] at h
    split at h
    · next job written evaluation sourceScanId hd =>
      cases h
      have hkept := (s.db.commitTerminal_spec job.scanId job.attemptNo evaluation
        (config.cacheKeyFor job) sourceScanId now).1
      cases answered with
      | true => exact hkept
      | false => exact hkept
    · cases h
  | throws d message =>
    simp only [step] at h
    split at h
    · cases h
    · cases h; exact .refl s.db
  | fails d now =>
    simp only [step] at h
    split at h
    · next job written code hd =>
      cases h
      exact (s.db.markSystemFailure_spec job.scanId job.attemptNo code (job.attemptNo < 2) now).1
    · cases h
  | beats d now =>
    simp only [step] at h
    split at h
    · cases h
    · next delivery hd =>
      cases h
      exact (s.db.heartbeat_spec delivery.job.scanId delivery.job.attemptNo now).1
  | dies d => cases h; exact .refl s.db
  | forgets cacheKey => cases h; exact fun _ _ hrow _ => ⟨hrow, rfl⟩
  | invalidates cacheKey t =>
    cases h
    obtain ⟨hscans, hchecks⟩ := s.db.invalidate_scans cacheKey t
    exact fun scanId _ hrow _ => ⟨by rw [hscans]; exact hrow, by rw [hchecks]⟩

end ScanWork

/-! ## Runs -/

/-- The rows of a scan's checks are exactly the results of an evaluation. -/
def ScanDb.Reports (db : ScanDb) (scanId : String) (evaluation : ScanEvaluation) : Prop :=
  ∀ id result, ((db.checksOf scanId).get id).map (·.result) = some result ↔
    result ∈ evaluation.checks ∧ result.id = id

namespace ScanWork

variable {config : ScanConfig} {s s' : ScanWork} {action : ScanAction} {out : List ScanNotice}

variable {scanId : String} {evaluation : ScanEvaluation}

theorem step_committed (h : s.step config action = .ok (s', out)) (hcommitted : .committed scanId evaluation ∈ out) :
    ∃ d delivery sourceScanId, s.deliveries.get d = some delivery ∧
      delivery.phase = .writing evaluation sourceScanId [] ∧ delivery.job.scanId = scanId ∧ s.db.Turns s'.db
        (.settled scanId delivery.job.attemptNo evaluation.score.terminalStatus.status) := by
  cases action with
  | commits d now answered =>
    simp only [step] at h
    split at h
    · next job written found sourceScanId hd =>
      have hspec := (s.db.commitTerminal_spec job.scanId job.attemptNo found (config.cacheKeyFor job)
        sourceScanId now).2
      cases h
      split at hcommitted
      · next hdone =>
        rw [if_pos hdone] at hspec
        cases mem_singleton.1 hcommitted
        refine ⟨d, _, sourceScanId, hd, rfl, rfl, ?_⟩
        cases answered with
        | true => exact hspec
        | false => exact hspec
      · cases hcommitted
    · cases h
  | accepts scanId => cases h; cases hcommitted
  | enqueues scanId t => cases h; cases hcommitted
  | delivers d job retryCount now =>
    simp only [step] at h
    split at h
    · cases h
    · split at h
      · cases h
      · cases h; cases hcommitted
  | writes d now =>
    simp only [step] at h
    split at h
    · cases h
    · split at h
      · cases h
      · cases h; cases hcommitted
  | looks d now | fetchesRobots d canonicalTargetUrl robots now | fetchesPages d pages now
  | fetchesRest d oauth representative now later | returns d | fails d now =>
    simp only [step] at h
    split at h
    · cases h; cases hcommitted
    · cases h
  | throws d message | beats d now =>
    simp only [step] at h
    split at h
    · cases h
    · cases h; cases hcommitted
  | dies d => cases h; cases hcommitted
  | forgets cacheKey => cases h; cases hcommitted
  | invalidates cacheKey t => cases h; cases hcommitted

theorem step_reports (hs : s.Sound config) (h : s.step config action = .ok (s', out))
    (hcommitted : .committed scanId evaluation ∈ out) :
    s'.db.Reports scanId evaluation := by
  obtain ⟨d, ⟨job, written, phase⟩, sourceScanId, hd, rfl, rfl, hturns⟩ := step_committed h hcommitted
  cases hturns with
  | settled hunder _ _ hchecks =>
    have hwriting : Writing (s.db.checksOf job.scanId) evaluation [] := hs.told hd hunder
    intro id result
    rw [hchecks]
    constructor
    · intro hresult
      obtain ⟨row, hrow, rfl⟩ := Option.map_eq_some_iff.1 hresult
      -- The row is one of a check, and that check's result was written.
      have hid := hs.rows hrow
      rw [← evaluation.complete] at hid
      obtain ⟨check, hcheck, rfl⟩ := mem_map.1 hid
      rcases hwriting.covers check hcheck with hnone | ⟨found, hfound, rfl⟩
      · cases hnone
      · cases hrow.symm.trans hfound
        exact ⟨hcheck, rfl⟩
    · rintro ⟨hresult, rfl⟩
      rcases hwriting.covers result hresult with hnone | ⟨row, hrow, rfl⟩
      · cases hnone
      · rw [hrow]
        rfl

end ScanWork

theorem ScanWork.empty_sound (config : ScanConfig) : (empty : ScanWork).Sound config :=
  ⟨by rintro _ _ ⟨⟩, by rintro _ _ _ _ ⟨⟩, by rintro _ _ _ ⟨⟩, by rintro _ _ ⟨⟩⟩

theorem scanRun_sound {config : ScanConfig} {actions : List ScanAction}
    (ho : (scanMachine config).Meets (fun s action => action.Orderly config s) .empty actions) :
    (scanRun config actions).Sound config :=
  (scanMachine config).run_induction_meeting
    (fun hs horderly hr => ScanWork.step_sound hs horderly hr) (ScanWork.empty_sound config) actions ho

/-- An artifact that was fetched in no time. -/
def fetchedArtifact (url : String) (status : Nat) (body : String) : FetchArtifact :=
  { url := url
    status := status
    headers := []
    body := body
    decodedBytes := body.length
    truncated := false
    durationMs := 0
    ttfbMs := 0
    errorCode := none }

def unreachablePage : FetchArtifact :=
  { fetchedArtifact "https://example.com/" 0 "" with errorCode := some "network_error" }

/-- A check that could not be made. -/
def unassessed (summaryCode userImpactCode : String) : ResultInput :=
  ⟨.unavailable, 0, summaryCode, [], userImpactCode, none, 0, some "network_error", true⟩

def inapplicable (summaryCode userImpactCode : String) : ResultInput :=
  ⟨.notApplicable, 0, summaryCode, [], userImpactCode, none, 0, none, false⟩

def unpassed (summaryCode userImpactCode fixCode : String) : ResultInput :=
  ⟨.fail, 0, summaryCode, [], userImpactCode, some fixCode, 0, none, true⟩

/-- The checks of a site that has nothing but a sitemap, and whose pages are not to be had. -/
def sampleSuite : CheckSuite where
  targetContentAllowed _ _ := true
  parseSitemap _ := ⟨true, false, ["https://example.com/"], ["2026-01-01T00:00:00Z"]⟩
  dateParse _ := some 1767225600000
  robots _ :=
    { unpassed "robots_missing" "robots_missing_impact" "publish_robots" with
      evidence := [("status", .number 404)] }
  aiPolicy _ := unpassed "ai_policy_absent" "ai_policy_ambiguity" "declare_ai_policy"
  contentSignal _ := unpassed "content_signal_absent" "content_signal_ambiguity" "publish_content_signal"
  jsonLdPresence _ _ := unassessed "jsonld_unavailable" "structured_data_not_assessed"
  verticalJsonLd _ _ _ := unassessed "vertical_jsonld_unavailable" "structured_data_not_assessed"
  markdownCheck _ _ := unassessed "markdown_unavailable" "markdown_not_assessed"
  llmsCheck _ := inapplicable "llms_absent" "llms_optional"
  mcpCheck _ := unpassed "mcp_absent" "mcp_callable_gap" "publish_mcp_card"
  ucpCheck _ _ := inapplicable "ucp_not_store" "ucp_store_only"
  oauthCheck _ _ _ _ := inapplicable "oauth_not_declared" "oauth_conditional"
  ssrCheck _ _ _ := unassessed "ssr_unavailable" "ssr_not_assessed"
  agentUaCheck _ _ _ := unassessed "agent_ua_neutral_unavailable" "agent_ua_not_assessed"
  performanceCheck _ := unassessed "page_performance_unavailable" "page_performance_not_assessed"
  feedCheck _ _ _ := inapplicable "feed_not_store" "feed_store_only"
  fingerprintCheck := ⟨.pass, 0, "fingerprint_observed", [], "fingerprint_informational", none, 0, none, true⟩
  a2aCheck _ := inapplicable "a2a_absent" "a2a_optional"
  hreflangCheck _ := unassessed "hreflang_unavailable" "hreflang_not_assessed"

def sampleScanConfig : ScanConfig := ⟨sampleSuite, false, fun key => key⟩

/-- The sitemap of the site, with one page that was changed at the turn of the year. -/
def sampleSitemap : FetchArtifact :=
  fetchedArtifact "https://example.com/sitemap.xml" 200 <|
    "<urlset><url><loc>https://example.com/</loc>" ++
      "<lastmod>2026-01-01T00:00:00Z</lastmod></url></urlset>"

/-- The pages of the site. -/
def samplePages : PhasePages :=
  { base := some unreachablePage
    markdown := some unreachablePage
    chatgptProbe := some unreachablePage
    claudeProbe := some unreachablePage
    sitemap := [sampleSitemap]
    llms := some (fetchedArtifact "https://example.com/llms.txt" 404 "")
    mcp := [fetchedArtifact "https://example.com/.well-known/mcp.json" 404 "",
      fetchedArtifact "https://example.com/.well-known/mcp/server-card.json" 404 ""]
    ucp := none
    a2a := some (fetchedArtifact "https://example.com/.well-known/agent-card.json" 404 "") }

/-- A scan is delivered once, and its pages are fetched at an instant. -/
def fetchedScan (t : Int) : List ScanAction :=
  [.accepts "scan_1", .enqueues "scan_1" 0,
    .delivers 0 ⟨"scan_1", "https://example.com/", .owner, "gtm-v1.0.0", 1⟩ 0 t,
    .fetchesRobots 0 "https://example.com/" (fetchedArtifact "https://example.com/robots.txt" 404 "") t] ++
    List.replicate 3 (.writes 0 t) ++ [.fetchesPages 0 samplePages t] ++
    List.replicate 10 (.writes 0 t)

def evaluatedScan (t : Int) : List ScanAction :=
  [.fetchesRest 0 [] none t t] ++ List.replicate 5 (.writes 0 t) ++ [.returns 0]

/-- What the scan of the site is committed with, evaluated at an instant. -/
def sampleEvaluation (t : Int) : ScanEvaluation :=
  let robots := fetchedArtifact "https://example.com/robots.txt" 404 ""
  sampleSuite.evaluateScan
    (((ScanArtifacts.skeleton .owner "https://example.com/" robots).withPages samplePages).withRest [] none)
    t

end Coinslot
