import Coinslot.Lib.Alone
import Coinslot.Scanner.PublicOnly
import Coinslot.Web.Site

/-!
# Other leads' reports

What an erasure leaves of the reports of the leads it was not asked for. It spares their sessions, their links to
scans and their places in the queue (`Spares`), but a scan that the erased lead is linked to it blanks for
everybody, with its host and the evidence of its checks (`Erased`).

So what another lead is shown of a scan stays the same exactly where the erased lead is not linked to it, or
where it showed nothing that is blanked (`others_report_kept_iff`).
-/

namespace Coinslot

open Txn List Option

/-! ## What an erasure blanks, and what it spares -/

/-- The scans that an erasure of a lead gathers. -/
def leadScanIds (db : SiteDb) (leadId : String) : List String :=
  ((leadScans.found (fun _ row => row.leadId = leadId) db).map (·.scanId) ++
    (scans.found (fun _ row => row.leadId = some leadId) db).map (·.id)).eraseDups

def SiteScan.blanked (scanIds : List String) (row : SiteScan) : SiteScan :=
  if row.id ∈ scanIds then row.anonymized "" 0 else row

def SiteCheck.blanked (scanIds : List String) (row : SiteCheck) : SiteCheck :=
  if row.scanId ∈ scanIds then { row with result := { row.result with evidence := anonymizedEvidence } } else row

/-- What reports are read off, of all leads but one. -/
def othersRow (leadId : String) (scanIds : List String) : SiteRow → Option SiteRow
  | .scan row => some (.scan (row.blanked scanIds))
  | .check row => some (.check (row.blanked scanIds))
  | .leadScan row => if row.leadId = leadId then none else some (.leadScan row)
  | .reportSession row => if row.leadId = leadId then none else some (.reportSession row)
  | .waitlist row => if row.leadId = leadId then none else some (.waitlist row)
  | _ => none

/-- What the reports of the other leads are read off is the same in two databases, but for what is blanked. -/
def Spares (leadId : String) (scanIds : List String) (db v : SiteDb) : Prop :=
  v.values.filterMap (othersRow leadId scanIds) = db.values.filterMap (othersRow leadId scanIds)

def ChecksErased (scanIds : List String) (v : SiteDb) : Prop :=
  ∀ row ∈ scanChecks.rows v, row.scanId ∈ scanIds → row.result.evidence = anonymizedEvidence

def HostsErased (scanIds : List String) (v : SiteDb) : Prop :=
  ∀ row ∈ scans.rows v, row.id ∈ scanIds → row.targetHost = "deleted.invalid"

/-- What an erasure comes to for the reports of the other leads. -/
structure Erased (leadId : String) (db v : SiteDb) : Prop where
  spares : Spares leadId (leadScanIds db leadId) db v
  checks : ChecksErased (leadScanIds db leadId) v
  hosts : HostsErased (leadScanIds db leadId) v

section

variable {leadId : String} {scanIds : List String} {db v : SiteDb}

theorem SiteScan.blanked_of_mem {row : SiteScan} (h : row.id ∈ scanIds) :
    row.blanked scanIds = row.anonymized "" 0 := if_pos h

theorem SiteScan.blanked_of_not_mem {row : SiteScan} (h : row.id ∉ scanIds) : row.blanked scanIds = row := if_neg h

@[simp] theorem SiteScan.blanked_id (row : SiteScan) : (row.blanked scanIds).id = row.id := by
  unfold blanked
  split <;> rfl

@[simp] theorem SiteScan.blanked_segment (row : SiteScan) : (row.blanked scanIds).segment = row.segment := by
  unfold blanked
  split <;> rfl

@[simp] theorem SiteScan.blanked_progress (row : SiteScan) : (row.blanked scanIds).progress = row.progress := by
  unfold blanked
  split <;> rfl

theorem SiteScan.blanked_anonymized {row : SiteScan} (h : row.id ∈ scanIds) (sessionId : String) (now : Int) :
    (row.anonymized sessionId now).blanked scanIds = row.blanked scanIds := by
  rw [blanked_of_mem h, blanked_of_mem (show (row.anonymized sessionId now).id ∈ scanIds from h)]
  rfl

theorem mem_leadScanIds {scanId : String} : scanId ∈ leadScanIds db leadId ↔
    (∃ link ∈ leadScans.rows db, link.leadId = leadId ∧ link.scanId = scanId) ∨
      ∃ scan ∈ scans.rows db, scan.leadId = some leadId ∧ scan.id = scanId := by
  simp only [leadScanIds, mem_eraseDups, mem_append, List.mem_map, Table.found, mem_filter,
    decide_eq_true_eq, and_assoc]

section

variable (h : Spares leadId scanIds db v)
include h

variable {σ : Type}

theorem Spares.sets {t : Table SiteRow σ} {cond : SiteDb → σ → Bool} {set : σ → σ} (hfine : siteSchema.Fine v)
    (hset : ∀ r ∈ t.found cond v, othersRow leadId scanIds (t.into (set r)) = othersRow leadId scanIds (t.into r)) :
    Spares leadId scanIds db
      (overlay v ((t.found cond v).map fun r => (siteSchema.key (t.into r), some (t.into (set r))))) := by
  refine (filterMap_overlay ?_).trans h
  intro k o ho
  obtain ⟨r, hr, heq⟩ := List.mem_map.1 ho
  cases heq
  rw [((Table.mem_found hfine).1 hr).1]
  exact hset r hr

theorem Spares.deletes {t : Table SiteRow σ} {cond : SiteDb → σ → Bool} (hfine : siteSchema.Fine v)
    (hnone : ∀ r ∈ t.found cond v, othersRow leadId scanIds (t.into r) = none) :
    Spares leadId scanIds db (overlay v ((t.found cond v).map fun r => (siteSchema.key (t.into r), none))) := by
  refine (filterMap_overlay ?_).trans h
  intro k o ho
  obtain ⟨r, hr, heq⟩ := List.mem_map.1 ho
  cases heq
  rw [((Table.mem_found hfine).1 hr).1]
  exact (hnone r hr).symm

theorem Spares.scans_eq : (scans.rows v).map (·.blanked scanIds) = (scans.rows db).map (·.blanked scanIds) := by
  have hread : ∀ row, (othersRow leadId scanIds row).bind scans.outOf =
      (scans.outOf row).bind fun scan => some (scan.blanked scanIds) := by
    intro row
    cases row <;> simp only [othersRow, scans] <;> first | rfl | (split <;> rfl)
  have hv := Table.filterMap_rows hread v
  rw [show v.values.filterMap _ = db.values.filterMap _ from h, ← Table.filterMap_rows hread db] at hv
  simpa only [filterMap_eq_map'] using hv

theorem Spares.scan_mem {row : SiteScan} (hrow : row ∈ scans.rows v)
    (hnot : row.id ∉ scanIds) : row ∈ scans.rows db := by
  have hmem : row.blanked scanIds ∈ (scans.rows db).map (·.blanked scanIds) :=
    h.scans_eq ▸ List.mem_map_of_mem hrow
  obtain ⟨was, hwas, heq⟩ := List.mem_map.1 hmem
  have hid : was.id = row.id := by rw [← was.blanked_id, heq, row.blanked_id]
  rw [SiteScan.blanked_of_not_mem hnot, SiteScan.blanked_of_not_mem (hid ▸ hnot)] at heq
  exact heq ▸ hwas

theorem Spares.inserts {t : Table SiteRow σ} {r : σ} (hfree : v.get (siteSchema.key (t.into r)) = none)
    (hnone : othersRow leadId scanIds (t.into r) = none) :
    Spares leadId scanIds db (overlay v [(siteSchema.key (t.into r), some (t.into r))]) := by
  refine (filterMap_overlay ?_).trans h
  intro k o ho
  cases mem_singleton.1 ho
  rw [hfree]
  exact hnone

end

variable {σ : Type} {ws : Writes SiteKey SiteRow} {lead : Lead}

theorem mem_rows_sets {t : Table SiteRow σ} {cond : SiteDb → σ → Bool} {set : σ → σ} (hfine : siteSchema.Fine v)
    {row : σ}
    (hrow : row ∈ t.rows (overlay v ((t.found cond v).map fun r => (siteSchema.key (t.into r),
      some (t.into (set r)))))) :
    (∃ r ∈ t.found cond v, row = set r) ∨ row ∈ t.rows v ∧ cond v row = false := by
  obtain ⟨other, hother, hout⟩ := mem_filterMap.1 hrow
  obtain ⟨k, hk⟩ := Schema.mem_values_iff.1 hother
  rw [t.into_of_outOf hout] at hk
  rcases mem_of_get_overlay hk with hw | ⟨hv, hno⟩
  · obtain ⟨r, hr, heq⟩ := List.mem_map.1 hw
    simp only [Prod.mk.injEq, Option.some.injEq] at heq
    exact .inl ⟨r, hr, (Table.into_inj heq.2).symm⟩
  · have hmem : row ∈ t.rows v := mem_filterMap.2 ⟨_, Schema.mem_values_iff.2 ⟨k, hv⟩, t.outOf_into row⟩
    refine .inr ⟨hmem, Bool.eq_false_iff.2 fun hcond => ?_⟩
    rw [← hfine.keyed hv] at hno
    exact hno _ (List.mem_map.2 ⟨row, mem_filter.2 ⟨hmem, hcond⟩, rfl⟩)

theorem rows_overlay {t : Table SiteRow σ}
    (hws : ∀ {k o}, (k, o) ∈ ws → o.bind t.outOf = none ∧ (v.get k).bind t.outOf = none) :
    t.rows (overlay v ws) = t.rows v :=
  filterMap_overlay fun ho => (hws ho).1.trans (hws ho).2.symm

/-! ## What an erasure does, statement by statement -/

/-- Once the evidence of the scans is erased that a lead is linked to, the reports of the others are spared, and
the scans are blanked. -/
theorem keeps_anonymizeScans (hids : scanIds = leadScanIds db leadId) (urls : List String) (sessionId : String)
    (now : Int) : (anonymizeScans leadId scanIds urls sessionId now).Keeps siteSchema .asserts
      (fun Q _ => ∀ v, Q v → Spares leadId scanIds db v ∧ ChecksErased scanIds v ∧ HostsErased scanIds v)
      (Spares leadId scanIds db) := by
  unfold anonymizeScans
  refine Table.keeps_updateWhere fun v hfine hv => ⟨Spares leadId scanIds db, hv.sets hfine fun r _ => rfl, ?_⟩
  refine Table.keeps_updateWhere fun v hfine hv => ⟨Spares leadId scanIds db, hv.sets hfine fun r _ => rfl, ?_⟩
  refine Table.keeps_deleteWhere fun v hfine hv => ⟨Spares leadId scanIds db, hv.deletes hfine fun r _ => rfl, ?_⟩
  refine Table.keeps_updateWhere fun v hfine hv => ⟨Spares leadId scanIds db, hv.sets hfine fun r _ => rfl, ?_⟩
  -- The evidence of the checks is erased.
  refine Table.keeps_updateWhere fun v hfine hv =>
    ⟨fun v => Spares leadId scanIds db v ∧ ChecksErased scanIds v, ⟨hv.sets hfine ?_, ?_⟩, ?_⟩
  · intro r hr
    have hmem : r.scanId ∈ scanIds := of_decide_eq_true (mem_filter.1 hr).2
    simp only [othersRow, scanChecks, SiteCheck.blanked, if_pos hmem]
  · intro row hrow hmem
    rcases mem_rows_sets hfine hrow with ⟨r, -, rfl⟩ | ⟨-, hnot⟩
    · rfl
    · exact absurd hmem (of_decide_eq_false hnot)
  -- The scans are.
  refine Table.keeps_updateWhere fun v hfine hv => ⟨fun v => Spares leadId scanIds db v ∧ ChecksErased scanIds v ∧
    HostsErased scanIds v, ⟨hv.1.sets hfine ?_, ?_, ?_⟩, fun v hQ => hQ⟩
  · intro r hr
    have hmem : r.id ∈ scanIds := by
      obtain ⟨hrow, hcond⟩ := mem_filter.1 hr
      by_contra hnot
      have hlead : r.leadId = some leadId := by simpa [hnot] using hcond
      exact hnot (hids ▸ mem_leadScanIds.2 (.inr ⟨r, hv.1.scan_mem hrow hnot, hlead, rfl⟩))
    simp only [othersRow, scans, SiteScan.blanked_anonymized hmem]
  · intro row hrow
    rw [rows_overlay] at hrow
    · exact hv.2 row hrow
    · intro k o ho
      obtain ⟨r, hr, heq⟩ := List.mem_map.1 ho
      cases heq
      rw [((Table.mem_found hfine).1 hr).1]
      exact ⟨rfl, rfl⟩
  · intro row hrow hmem
    rcases mem_rows_sets hfine hrow with ⟨r, -, rfl⟩ | ⟨-, hnot⟩
    · rfl
    · exact absurd hmem (by simpa using (Bool.or_eq_false_iff.1 hnot).1)

theorem Erased.overlay (h : Erased leadId db v) (hspares : Spares leadId (leadScanIds db leadId) db (overlay v ws))
    (hchecks : ∀ {k o}, (k, o) ∈ ws → o.bind scanChecks.outOf = none ∧ (v.get k).bind scanChecks.outOf = none)
    (hscans : ∀ {k o}, (k, o) ∈ ws → o.bind scans.outOf = none ∧ (v.get k).bind scans.outOf = none) :
    Erased leadId db (Txn.overlay v ws) where
  spares := hspares
  checks := by
    rw [ChecksErased, rows_overlay hchecks]
    exact h.checks
  hosts := by
    rw [HostsErased, rows_overlay hscans]
    exact h.hosts

theorem keeps_listOwnedTargetUrls (scanIds : List String) :
    (listOwnedTargetUrls scanIds).Keeps siteSchema .asserts (fun Q _ => Q = (· = db)) (· = db) := by
  unfold listOwnedTargetUrls
  split
  · rfl
  · exact Table.keeps_selectWhere fun v _ hv => ⟨(· = db), hv, rfl⟩

theorem keeps_anonymizeTraces (sessionId : String) (now : Int) :
    (anonymizeTraces lead scanIds sessionId now).Keeps siteSchema .asserts
      (fun Q _ => Q = Spares lead.id scanIds db) (· = db) := by
  unfold anonymizeTraces
  refine Table.keeps_insert fun v _ hv hfree => ⟨Spares lead.id scanIds db, ?_, ?_⟩
  · exact Spares.inserts (congrArg _ (congrArg _ hv)) hfree rfl
  refine Table.keeps_updateWhere fun v hfine hv => ⟨Spares lead.id scanIds db, hv.sets hfine ?_, ?_⟩
  · intro r hr
    have hmine := (mem_filter.1 hr).2
    simp only [Bool.and_eq_true, decide_eq_true_eq] at hmine
    simp only [othersRow, reportSessions, if_pos hmine.1]
  refine Table.keeps_deleteWhere fun v hfine hv => ⟨Spares lead.id scanIds db, hv.deletes hfine fun r _ => rfl, ?_⟩
  refine Table.keeps_deleteWhere fun v hfine hv => ⟨Spares lead.id scanIds db, hv.deletes hfine fun r _ => rfl, ?_⟩
  refine Table.keeps_deleteWhere fun v hfine hv => ⟨Spares lead.id scanIds db, hv.deletes hfine ?_, ?_⟩
  · intro r hr
    exact if_pos (of_decide_eq_true (mem_filter.1 hr).2)
  refine Table.keeps_deleteWhere fun v hfine hv => ⟨Spares lead.id scanIds db, hv.deletes hfine fun r _ => rfl, ?_⟩
  refine Table.keeps_updateWhere fun v hfine hv => ⟨Spares lead.id scanIds db, hv.sets hfine fun r _ => rfl, ?_⟩
  exact Table.keeps_deleteWhere fun v hfine hv =>
    ⟨Spares lead.id scanIds db, hv.deletes hfine fun r _ => rfl, rfl⟩

theorem keeps_releaseScans (hids : scanIds = leadScanIds db leadId) (urls : List String) (sessionId : String)
    (now : Int) : (releaseScans leadId scanIds urls sessionId now).Keeps siteSchema .asserts
      (fun Q _ => ∀ v, Q v → Erased leadId db v) (Spares leadId scanIds db) := by
  unfold releaseScans
  split
  · next hempty =>
    have hnone : scanIds = [] := List.isEmpty_iff.1 hempty
    have hno : ∀ scanId, scanId ∉ leadScanIds db leadId := fun scanId hmem => by
      rw [← hids, hnone] at hmem
      cases hmem
    -- No scan names the lead, for the erasure would have gathered it.
    refine Table.keeps_updateWhere fun v hfine hv => ⟨Spares leadId scanIds db, hv.sets hfine ?_, ?_⟩
    · intro r hr
      obtain ⟨hrow, hlead⟩ := mem_filter.1 hr
      exact absurd (mem_leadScanIds.2
        (.inr ⟨r, hv.scan_mem hrow (by rw [hnone]; exact not_mem_nil), of_decide_eq_true hlead, rfl⟩)) (hno r.id)
    · rw [hids]
      exact fun v hv => ⟨hv, fun row _ hmem => absurd hmem (hno _), fun row _ hmem => absurd hmem (hno _)⟩
  · refine (keeps_anonymizeScans hids urls sessionId now).mono fun Q _ hQ v hv => ?_
    obtain ⟨hspares, hchecks, hhosts⟩ := hQ v hv
    rw [hids] at hspares hchecks hhosts
    exact ⟨hspares, hchecks, hhosts⟩

theorem keeps_anonymizeLead (sessionId : String) (now : Int) {P : SiteDb → Prop}
    (hP : ∀ v, P v → Erased leadId db v) :
    (anonymizeLead leadId sessionId now).Keeps siteSchema .asserts (fun Q _ => ∀ v, Q v → Erased leadId db v) P := by
  unfold anonymizeLead
  refine Table.keeps_deleteWhere fun v hfine hv => ⟨Erased leadId db, ?_, ?_⟩
  · have hmem : ∀ {k o}, (k, o) ∈ (leadScans.found (fun _ row => decide (row.leadId = leadId)) v).map
        (fun r => (siteSchema.key (leadScans.into r), (none : Option SiteRow))) →
        o = none ∧ ∃ r : LeadScan, v.get k = some (.leadScan r) := by
      intro k o ho
      obtain ⟨r, hr, heq⟩ := List.mem_map.1 ho
      cases heq
      exact ⟨rfl, r, ((Table.mem_found hfine).1 hr).1⟩
    refine (hP v hv).overlay ((hP v hv).spares.deletes hfine ?_) ?_ ?_
    · intro r hr
      exact if_pos (of_decide_eq_true (mem_filter.1 hr).2)
    · intro k o ho
      obtain ⟨rfl, r, hr⟩ := hmem ho
      exact ⟨rfl, by rw [hr]; rfl⟩
    · intro k o ho
      obtain ⟨rfl, r, hr⟩ := hmem ho
      exact ⟨rfl, by rw [hr]; rfl⟩
  refine Table.keeps_updateWhere fun v hfine hv => ⟨Erased leadId db, ?_, fun v hQ => hQ⟩
  have hmem : ∀ {k o}, (k, o) ∈ (leads.found (fun _ row => decide (row.id = leadId)) v).map
      (fun r => (siteSchema.key (leads.into r), some (leads.into (r.anonymized sessionId now)))) →
      ∃ r r' : Lead, o = some (.lead r') ∧ v.get k = some (.lead r) := by
    intro k o ho
    obtain ⟨r, hr, heq⟩ := List.mem_map.1 ho
    cases heq
    exact ⟨r, _, rfl, ((Table.mem_found hfine).1 hr).1⟩
  refine hv.overlay (hv.spares.sets hfine fun r _ => rfl) ?_ ?_
  · intro k o ho
    obtain ⟨r, r', rfl, hr⟩ := hmem ho
    exact ⟨rfl, by rw [hr]; rfl⟩
  · intro k o ho
    obtain ⟨r, r', rfl, hr⟩ := hmem ho
    exact ⟨rfl, by rw [hr]; rfl⟩

theorem keeps_anonymizeLocked (sessionId : String) (now : Int) :
    (anonymizeLocked lead sessionId now).Keeps siteSchema .asserts (fun Q _ => ∀ v, Q v → Erased lead.id db v)
      (· = db) := by
  unfold anonymizeLocked
  refine Table.keeps_selectWhere fun v _ hv => ⟨(· = db), hv, ?_⟩
  subst hv
  refine Table.keeps_selectWhere fun v' _ hv => ⟨(· = v), hv, ?_⟩
  subst hv
  refine .bind ((keeps_listOwnedTargetUrls _).mono fun Q urls hQ => ?_)
  subst hQ
  refine .bind ((keeps_anonymizeTraces sessionId now).mono fun Q _ hQ => ?_)
  subst hQ
  refine .bind ((keeps_releaseScans rfl urls sessionId now).mono fun Q _ hQ => ?_)
  exact .bind ((keeps_anonymizeLead sessionId now hQ).mono fun Q _ hQ => hQ)

theorem erased_of_alone {sessionId : String} {now t : Int} {scanCount : Nat} (hfine : siteSchema.Fine db)
    (h : (anonymizeLeadData leadId sessionId now).alone siteSchema t db [] = (some (.anonymized, scanCount), v)) :
    siteSchema.Fine v ∧ Erased leadId db v := by
  rw [anonymizeLeadData, alone_transaction_iff, overlay_nil] at h
  refine (Script.Keeps.viewed
    (show Script.Keeps siteSchema .asserts
      (fun Q (a : AnonymizedStatus × Nat) => a.1 = AnonymizedStatus.anonymized → ∀ v, Q v → Erased leadId db v) _
        (· = db) from ?_) hfine rfl h).imp_right fun ⟨Q, hpost, hQ⟩ => hpost rfl v hQ
  refine Table.keeps_selectForUpdate fun w hw hdb => ⟨(· = db), hdb, ?_⟩
  split
  · exact fun h => by cases h
  · next lead hlead =>
    have hid : lead.id = leadId :=
      of_decide_eq_true (mem_filter.1 (mem_of_mem_head? (mem_def.2 hlead))).2
    split
    · exact fun h => by cases h
    · subst hid
      exact (keeps_anonymizeLocked sessionId now).mono fun Q a hQ (_ : a.1 = .anonymized) => hQ

end

/-! ## What a report is read off -/

/-- The session that a token opens. -/
def sessionOpened (site : Site) (token : String) (now : Int) (db : SiteDb) : Option ReportSession :=
  (reportSessions.found (fun _ row =>
    row.sessionTokenHash = site.sha256 token && now < row.expiresAt && row.revokedAt.isNone) db).head?

def linkedTo (scanId leadId : String) (db : SiteDb) : Bool :=
  scanId = "" || (leadScans.found (fun _ row => row.leadId = leadId && row.scanId = scanId) db).head?.isSome

/-- What a lead is shown of a scan. -/
def reportFor (benchmarkEnabled : Bool) (scanId leadId : String) (db : SiteDb) : Option ReportResponse :=
  let scan := (scans.found (fun _ row => row.id = scanId) db).head?
  let waitlist := (waitlistEntries.found (fun _ row => row.leadId = leadId && row.scanId = scanId) db).head?
  match scan, waitlist, scan.bind (·.progress.coverage), scan.bind (·.progress.level) with
  | some scan, some waitlist, some coverage, some level =>
    some
      { scanId := scan.id
        host := scan.targetHost
        segment := scan.segment
        score := scan.progress.score
        coverage := coverage
        level := level
        checks := checkDefinitions.map (reportCheck (scanChecks.found (fun _ row => row.scanId = scanId) db))
        waitlist := ⟨waitlist.id, waitlist.position, waitlist.painAnswer⟩
        benchmark := if benchmarkEnabled then benchmarkOf (scans.found (fun _ row => row.counts scan.segment) db)
          else none }
  | _, _, _, _ => none

/-- What is answered to a lead who asks for a report. -/
def reportAnswer (site : Site) (benchmarkEnabled : Bool) (scanId token : String) (now : Int) (db : SiteDb) :
    Option ReportResponse :=
  match sessionOpened site token now db with
  | none => none
  | some session => if linkedTo scanId session.leadId db then reportFor benchmarkEnabled scanId session.leadId db else none

section

variable {site : Site} {benchmarkEnabled : Bool} {scanId leadId token : String} {now : Int} {db : SiteDb}

theorem alone_verifiedReport : (verifiedReport benchmarkEnabled scanId leadId).alone siteSchema now db [] =
    (some (reportFor benchmarkEnabled scanId leadId db), db) := by
  simp only [verifiedReport, Script.bind_def, Script.pure_def, alone_selectOne, reportFor]
  rcases (scans.found (fun _ row => decide (row.id = scanId)) db).head? with _ | scan
  · rfl
  rcases (waitlistEntries.found
    (fun _ row => decide (row.leadId = leadId) && decide (row.scanId = scanId)) db).head? with _ | waitlist
  · rfl
  simp only [bind_some]
  rcases scan.progress.coverage with _ | coverage
  · rfl
  rcases scan.progress.level with _ | level
  · rfl
  simp only [Table.select, alone_selectWhere]
  cases benchmarkEnabled with
  | true =>
    simp only [if_true, alone_selectWhere, Script.done_bind]
    rfl
  | false => rfl

theorem reportFor_congr {v : SiteDb} (hscans : scans.rows v = scans.rows db)
    (hwaitlist : waitlistEntries.rows v = waitlistEntries.rows db)
    (hchecks : scanChecks.rows v = scanChecks.rows db) :
    reportFor benchmarkEnabled scanId leadId v = reportFor benchmarkEnabled scanId leadId db := by
  simp only [reportFor, Table.found, hscans, hwaitlist, hchecks]

section

variable (hfine : siteSchema.Fine db)
include hfine

theorem reportFor_touched {set : ReportSession → ReportSession} {cond : ReportSession → Bool}
    : reportFor benchmarkEnabled scanId leadId (overlay db ((reportSessions.found (fun _ => cond) db).map fun r =>
        (siteSchema.key (reportSessions.into r), some (reportSessions.into (set r))))) =
    reportFor benchmarkEnabled scanId leadId db := by
  have hother : ∀ {σ : Type} (t : Table SiteRow σ), (∀ r, t.outOf (.reportSession r) = none) →
      t.rows (overlay db ((reportSessions.found (fun _ => cond) db).map fun r =>
        (siteSchema.key (reportSessions.into r), some (reportSessions.into (set r))))) = t.rows db := by
    intro σ t ht
    refine rows_overlay fun {k o} ho => ?_
    obtain ⟨r, hr, heq⟩ := List.mem_map.1 ho
    cases heq
    rw [((Table.mem_found hfine).1 hr).1]
    exact ⟨ht _, ht _⟩
  exact reportFor_congr (hother scans fun _ => rfl) (hother waitlistEntries fun _ => rfl)
    (hother scanChecks fun _ => rfl)

theorem alone_touched (session : ReportSession) :
    ((Script.transaction (reportSessions.update (·.id = session.id) fun row => { row with lastSeenAt := now })).bind
      fun _ => verifiedReport benchmarkEnabled scanId session.leadId).alone siteSchema now db [] =
      (some (reportFor benchmarkEnabled scanId session.leadId db),
        overlay db ((reportSessions.found (fun _ row => decide (row.id = session.id)) db).map fun r =>
          (siteSchema.key (reportSessions.into r), some (reportSessions.into { r with lastSeenAt := now })))) := by
  have houtcome : (siteSchema.sets db
      ((reportSessions.found (fun _ row => decide (row.id = session.id)) db).map reportSessions.into)
      (reportSessions.lift fun row => { row with lastSeenAt := now })).outcome = some _ :=
    Schema.sets_outcome hfine ?_ ?_
  · simp only [Script.transaction, Table.update, Table.updateWhere, Script.bind_def, Script.runs_bind,
      Script.done_bind, Script.commits_bind, Script.alone, Schema.effect, overlay_nil, Table.matching_holds,
      houtcome, nil_append, alone_verifiedReport, List.map_map, Function.comp_def, Table.lift_into]
    rw [reportFor_touched hfine]
  · intro row hrow
    obtain ⟨r, hr, rfl⟩ := List.mem_map.1 hrow
    exact Schema.mem_values_iff.2 ⟨_, ((Table.mem_found hfine).1 hr).1⟩
  · intro row hrow
    obtain ⟨r, -, rfl⟩ := List.mem_map.1 hrow
    exact ⟨rfl, rfl, rfl⟩

theorem alone_getFullReport (htoken : token ≠ "") :
    ((getFullReport site benchmarkEnabled scanId (some token)).alone siteSchema now db []).1 =
      some (reportAnswer site benchmarkEnabled scanId token now db) := by
  have hsome : (some token).filter (· ≠ "") = some token := by simp [htoken]
  simp only [getFullReport, getVerifiedSession, hsome, Script.bind_def, Script.clock, Script.reads_bind,
    Script.done_bind, Script.alone, Script.bind_assoc, alone_selectOne, Script.pure_def]
  simp only [reportAnswer, sessionOpened]
  rcases (reportSessions.found (fun _ row => decide (row.sessionTokenHash = site.sha256 token) &&
    decide (now < row.expiresAt) && row.revokedAt.isNone) db).head? with _ | session
  · rfl
  simp only [linkedTo]
  by_cases hscan : scanId = ""
  · subst hscan
    simp only [show (some "").filter (fun x : String => decide (x ≠ "")) = none from rfl, if_true, decide_true,
      Bool.true_or, Script.reads_bind, Script.alone, Script.bind_assoc, Script.done_bind, alone_touched hfine]
  simp only [show (some scanId).filter (fun x => decide (x ≠ "")) = some scanId by simp [hscan], hscan, decide_false,
    Bool.false_or, Script.bind_assoc, alone_selectOne]
  rcases (leadScans.found
    (fun _ row => decide (row.leadId = session.leadId) && decide (row.scanId = scanId)) db).head? with _ | link
  · rfl
  · simp only [isSome_some, if_true, Script.reads_bind, Script.alone, Script.bind_assoc, Script.done_bind,
      alone_touched hfine]

end

end

/-! ## What an erasure leaves of a report -/

section

variable {site : Site} {benchmarkEnabled : Bool} {scanId leadId otherId token : String} {scanIds : List String}
  {now : Int} {db v : SiteDb}

@[simp] theorem SiteCheck.blanked_scanId (row : SiteCheck) : (row.blanked scanIds).scanId = row.scanId := by
  unfold blanked
  split <;> rfl

@[simp] theorem SiteCheck.blanked_id (row : SiteCheck) : (row.blanked scanIds).result.id = row.result.id := by
  unfold blanked
  split <;> rfl

section

variable (h : Spares leadId scanIds db v)
include h

theorem Spares.checks_eq :
    (scanChecks.rows v).map (·.blanked scanIds) = (scanChecks.rows db).map (·.blanked scanIds) := by
  have hread : ∀ row, (othersRow leadId scanIds row).bind scanChecks.outOf =
      (scanChecks.outOf row).bind fun check => some (check.blanked scanIds) := by
    intro row
    cases row <;> simp only [othersRow, scanChecks] <;> first | rfl | (split <;> rfl)
  have hv := Table.filterMap_rows hread v
  rw [show v.values.filterMap _ = db.values.filterMap _ from h, ← Table.filterMap_rows hread db] at hv
  simpa only [filterMap_eq_map'] using hv

theorem Spares.found_eq {σ : Type} {t : Table SiteRow σ} {cond : σ → Bool} (lead : σ → String)
    (hread : ∀ row, (othersRow leadId scanIds row).bind t.outOf =
      (t.outOf row).bind (Option.guard fun r => lead r ≠ leadId))
    (hcond : ∀ r ∈ t.rows db ++ t.rows v, cond r = true → lead r ≠ leadId) :
    t.found (fun _ => cond) v = t.found (fun _ => cond) db := by
  have hrows : (t.rows v).filter (fun r => lead r ≠ leadId) = (t.rows db).filter (fun r => lead r ≠ leadId) := by
    have hv := Table.filterMap_rows hread v
    rw [show v.values.filterMap _ = db.values.filterMap _ from h, ← Table.filterMap_rows hread db] at hv
    simpa only [filterMap_eq_filter] using hv
  have hfound : ∀ w : SiteDb, (∀ r ∈ t.rows w, cond r = true → lead r ≠ leadId) →
      t.found (fun _ => cond) w = ((t.rows w).filter (fun r => lead r ≠ leadId)).filter cond := by
    intro w hw
    rw [List.filter_filter]
    refine filter_congr fun r hr => ?_
    change cond r = (cond r && decide (lead r ≠ leadId))
    cases hr' : cond r with
    | false => rfl
    | true => simp [hw r hr hr']
  rw [hfound v fun r hr => hcond r (mem_append_right _ hr),
    hfound db fun r hr => hcond r (mem_append_left _ hr), hrows]

theorem Spares.scans_found (cond : SiteScan → Bool)
    (hcond : ∀ row : SiteScan, cond (row.blanked scanIds) = cond row) :
    (scans.found (fun _ => cond) v).map (·.blanked scanIds) = (scans.found (fun _ => cond) db).map (·.blanked scanIds) := by
  have hmap : ∀ w : SiteDb, (scans.found (fun _ => cond) w).map (·.blanked scanIds) =
      ((scans.rows w).map (·.blanked scanIds)).filter cond := by
    intro w
    rw [List.filter_map, show cond ∘ (SiteScan.blanked scanIds) = cond from funext hcond]
    rfl
  rw [hmap, hmap, h.scans_eq]

end

theorem Erased.checks_found (h : Erased leadId db v) (scanId : String) :
    scanChecks.found (fun _ row => decide (row.scanId = scanId)) v =
      (scanChecks.found (fun _ row => decide (row.scanId = scanId)) db).map (·.blanked (leadScanIds db leadId)) := by
  have hmap : ∀ w : SiteDb, (scanChecks.found (fun _ row => decide (row.scanId = scanId)) w).map
      (·.blanked (leadScanIds db leadId)) =
      ((scanChecks.rows w).map (·.blanked (leadScanIds db leadId))).filter (·.scanId = scanId) := by
    intro w
    rw [List.filter_map]
    simp only [Function.comp_def, SiteCheck.blanked_scanId]
    rfl
  rw [hmap, ← h.spares.checks_eq, ← hmap]
  refine (List.map_id' _).symm.trans (map_congr_left fun row hrow => ?_)
  unfold SiteCheck.blanked
  split
  · next hmem => rw [← h.checks row (mem_filter.1 hrow).1 hmem]
  · rfl

theorem benchmarkOf_blanked (rows : List SiteScan) :
    benchmarkOf (rows.map (·.blanked scanIds)) = benchmarkOf rows := by
  have hscores : (rows.map (·.blanked scanIds)).filterMap (·.progress.score) = rows.filterMap (·.progress.score) := by
    simp only [filterMap_map, Function.comp_def, SiteScan.blanked_progress]
  simp only [benchmarkOf, hscores, length_map]

/-- What another lead is shown of a scan after an erasure: the same, but for what is blanked. -/
theorem reportFor_erased (h : Erased leadId db v) (hother : otherId ≠ leadId) :
    reportFor benchmarkEnabled scanId otherId v =
      (reportFor benchmarkEnabled scanId otherId db).map fun report => { report with
        host := if scanId ∈ leadScanIds db leadId then "deleted.invalid" else report.host
        checks := checkDefinitions.map (reportCheck ((scanChecks.found (fun _ row => decide (row.scanId = scanId)) db).map
          (·.blanked (leadScanIds db leadId)))) } := by
  have hwaitlist : waitlistEntries.found
      (fun _ row => decide (row.leadId = otherId) && decide (row.scanId = scanId)) v =
      waitlistEntries.found (fun _ row => decide (row.leadId = otherId) && decide (row.scanId = scanId)) db := by
    refine h.spares.found_eq (·.leadId) ?_ ?_
    · intro row
      cases row <;> simp only [othersRow, waitlistEntries, Option.guard] <;> first | rfl | (split <;> simp_all)
    · intro r _ hr
      simp only [Bool.and_eq_true, decide_eq_true_eq] at hr
      exact hr.1 ▸ hother
  have hscan := congrArg List.head? (h.spares.scans_found (fun row => decide (row.id = scanId))
    fun row => by rw [row.blanked_id])
  have hsegment : ∀ segment, benchmarkOf (scans.found (fun _ row => row.counts segment) v) =
      benchmarkOf (scans.found (fun _ row => row.counts segment) db) := by
    intro segment
    rw [← benchmarkOf_blanked, h.spares.scans_found (·.counts segment), benchmarkOf_blanked]
    intro row
    simp only [SiteScan.counts, row.blanked_segment, row.blanked_progress]
  rw [head?_map, head?_map] at hscan
  simp only [reportFor, hwaitlist, h.checks_found, hsegment]
  rcases hv : (scans.found (fun _ row => decide (row.id = scanId)) v).head? with _ | new <;>
    rcases hdb : (scans.found (fun _ row => decide (row.id = scanId)) db).head? with _ | old <;>
    rw [hv, hdb] at hscan
  · rfl
  · cases hscan
  · cases hscan
  have heq : new.blanked (leadScanIds db leadId) = old.blanked (leadScanIds db leadId) := by simpa using hscan
  have hid : new.id = scanId ∧ new ∈ scans.rows v := by
    obtain ⟨hrow, hid⟩ := mem_filter.1 (mem_of_mem_head? (mem_def.2 hv))
    exact ⟨of_decide_eq_true hid, hrow⟩
  have hold : old.id = new.id := by rw [← old.blanked_id, ← heq, new.blanked_id]
  have hsame : new.segment = old.segment ∧ new.progress = old.progress :=
    ⟨by rw [← new.blanked_segment, heq, old.blanked_segment], by rw [← new.blanked_progress, heq, old.blanked_progress]⟩
  have hhost : new.targetHost = if scanId ∈ leadScanIds db leadId then "deleted.invalid" else old.targetHost := by
    split
    · next hmem => exact h.hosts new hid.2 (hid.1 ▸ hmem)
    · next hnot =>
      rw [SiteScan.blanked_of_not_mem (hid.1 ▸ hnot), SiteScan.blanked_of_not_mem (hold ▸ hid.1 ▸ hnot)] at heq
      rw [heq]
  simp only [bind_some, hsame.2]
  rcases (waitlistEntries.found
    (fun _ row => decide (row.leadId = otherId) && decide (row.scanId = scanId)) db).head? with _ | waitlist
  · rfl
  rcases old.progress.coverage with _ | coverage
  · rfl
  rcases old.progress.level with _ | level
  · rfl
  simp only [map_some, hhost, hsame, hold]

theorem sessionOpened_eq (hfine : siteSchema.Fine db) {session : ReportSession}
    (hsession : session ∈ reportSessions.rows db) (htoken : session.sessionTokenHash = site.sha256 token) :
    sessionOpened site token now db =
      if now < session.expiresAt ∧ session.revokedAt = none then some session else none := by
  have hentry : ∀ {r : ReportSession}, r.sessionTokenHash = site.sha256 token →
      SiteEntry.reportSessionsTokenHash (site.sha256 token) ∈ siteSchema.entries (reportSessions.into r) := by
    intro r hhash
    simp [siteSchema, reportSessions, SiteRow.entries, hhash]
  unfold sessionOpened
  rcases hfound : (reportSessions.found (fun _ row => decide (row.sessionTokenHash = site.sha256 token) &&
    decide (now < row.expiresAt) && row.revokedAt.isNone) db).head? with _ | found
  · rw [if_neg]
    rintro ⟨hlasts, hopen⟩
    have hno := filter_eq_nil_iff.1 (head?_eq_none_iff.1 hfound) session hsession
    simp [htoken, hlasts, hopen] at hno
  · obtain ⟨hrow, hcond⟩ := mem_filter.1 (mem_of_mem_head? (mem_def.2 hfound))
    simp only [Bool.and_eq_true, decide_eq_true_eq, isNone_iff_eq_none] at hcond
    obtain rfl := Table.rows_inj_of_entry hfine hrow hsession (hentry hcond.1.1) (hentry htoken)
    rw [if_pos ⟨hcond.1.2, hcond.2⟩]

theorem reportAnswer_eq (hfine : siteSchema.Fine db) {session : ReportSession}
    (hsession : session ∈ reportSessions.rows db) (htoken : session.sessionTokenHash = site.sha256 token) :
    reportAnswer site benchmarkEnabled scanId token now db =
      if now < session.expiresAt ∧ session.revokedAt = none ∧ linkedTo scanId session.leadId db then
        reportFor benchmarkEnabled scanId session.leadId db else none := by
  rw [reportAnswer, sessionOpened_eq hfine hsession htoken]
  by_cases hopen : now < session.expiresAt ∧ session.revokedAt = none
  · simp only [hopen, and_self, if_true, true_and]
  · rw [if_neg hopen, if_neg fun hall => hopen ⟨hall.1, hall.2.1⟩]

theorem Erased.session (h : Erased leadId db v) (scanId : String) {session : ReportSession}
    (hsession : session ∈ reportSessions.rows db) (hother : session.leadId ≠ leadId) :
    session ∈ reportSessions.rows v ∧ linkedTo scanId session.leadId v = linkedTo scanId session.leadId db := by
  constructor
  · have hread : ∀ row, (othersRow leadId (leadScanIds db leadId) row).bind reportSessions.outOf =
        (reportSessions.outOf row).bind (Option.guard fun r => r.leadId ≠ leadId) := by
      intro row
      cases row <;> simp only [othersRow, reportSessions, Option.guard] <;> first | rfl | (split <;> simp_all)
    have hfound : reportSessions.found (fun _ r => decide (r.leadId ≠ leadId)) v =
        reportSessions.found (fun _ r => decide (r.leadId ≠ leadId)) db :=
      h.spares.found_eq (·.leadId) hread fun r _ hr => of_decide_eq_true hr
    have hmem : session ∈ reportSessions.found (fun _ r => decide (r.leadId ≠ leadId)) db :=
      mem_filter.2 ⟨hsession, decide_eq_true hother⟩
    rw [← hfound] at hmem
    exact (mem_filter.1 hmem).1
  · have hfound : leadScans.found
        (fun _ row => decide (row.leadId = session.leadId) && decide (row.scanId = scanId)) v =
        leadScans.found (fun _ row => decide (row.leadId = session.leadId) && decide (row.scanId = scanId)) db := by
      refine h.spares.found_eq (·.leadId) ?_ ?_
      · intro row
        cases row <;> simp only [othersRow, leadScans, Option.guard] <;> first | rfl | (split <;> simp_all)
      · intro r _ hr
        simp only [Bool.and_eq_true, decide_eq_true_eq] at hr
        exact hr.1 ▸ hother
    simp only [linkedTo, hfound]

/-! ## Whether another lead's report stays the same -/

/-- A session opens a report of a scan: it lasts, its lead is linked to the scan and has a place in the queue for
it, and the scan has a result. -/
structure ReportOpens (session : ReportSession) (scanId token : String) (now : Int) (db : SiteDb) : Prop where
  token : token ≠ ""
  lasts : now < session.expiresAt
  valid : session.revokedAt = none
  linked : linkedTo scanId session.leadId db
  queued : ∃ entry ∈ waitlistEntries.rows db, entry.leadId = session.leadId ∧ entry.scanId = scanId
  assessed : ∃ scan ∈ scans.rows db, scan.id = scanId ∧ scan.progress.coverage.isSome ∧ scan.progress.level.isSome

/-- What a report shows of a scan is already what an erasure leaves of it. -/
def ReadsErased (db : SiteDb) (scanId : String) : Prop :=
  (∀ scan ∈ scans.rows db, scan.id = scanId → scan.targetHost = "deleted.invalid") ∧
  ∀ check ∈ scanChecks.rows db, check.scanId = scanId → check.result.id ∈ checkDefinitions.map (·.1) →
    sanitizeEvidence check.result.evidence = sanitizeEvidence anonymizedEvidence

theorem of_reportFor {report : ReportResponse} (h : reportFor benchmarkEnabled scanId leadId db = some report) :
    ((∃ entry ∈ waitlistEntries.rows db, entry.leadId = leadId ∧ entry.scanId = scanId) ∧
      ∃ scan ∈ scans.rows db, scan.id = scanId ∧ scan.progress.coverage.isSome ∧ scan.progress.level.isSome ∧
        report.host = scan.targetHost) ∧ report.checks =
      checkDefinitions.map (reportCheck (scanChecks.found (fun _ row => decide (row.scanId = scanId)) db)) := by
  simp only [reportFor] at h
  rcases hscan : (scans.found (fun _ row => decide (row.id = scanId)) db).head? with _ | scan <;>
    rw [hscan] at h
  · cases h
  rcases hqueued : (waitlistEntries.found
    (fun _ row => decide (row.leadId = leadId) && decide (row.scanId = scanId)) db).head? with _ | waitlist <;>
    rw [hqueued] at h
  · cases h
  simp only [bind_some] at h
  rcases hcoverage : scan.progress.coverage with _ | coverage <;> rw [hcoverage] at h
  · cases h
  rcases hlevel : scan.progress.level with _ | level <;> rw [hlevel] at h
  · cases h
  cases h
  obtain ⟨hrow, hid⟩ := mem_filter.1 (mem_of_mem_head? (mem_def.2 hscan))
  obtain ⟨hentry, hplace⟩ := mem_filter.1 (mem_of_mem_head? (mem_def.2 hqueued))
  simp only [Bool.and_eq_true, decide_eq_true_eq] at hplace
  refine ⟨⟨⟨waitlist, hentry, hplace⟩, scan, hrow, of_decide_eq_true hid, ?_, ?_, rfl⟩, rfl⟩
  · rw [hcoverage]
    rfl
  · rw [hlevel]
    rfl

theorem exists_reportFor (hfine : siteSchema.Fine db)
    (hqueued : ∃ entry ∈ waitlistEntries.rows db, entry.leadId = leadId ∧ entry.scanId = scanId)
    (hassessed : ∃ scan ∈ scans.rows db, scan.id = scanId ∧ scan.progress.coverage.isSome ∧
      scan.progress.level.isSome) :
    ∃ report, reportFor benchmarkEnabled scanId leadId db = some report := by
  obtain ⟨entry, hentry, hlead, hplace⟩ := hqueued
  obtain ⟨scan, hscan, hid, hcoverage, hlevel⟩ := hassessed
  have hentry' : entry ∈ waitlistEntries.found
      (fun _ row => decide (row.leadId = leadId) && decide (row.scanId = scanId)) db :=
    mem_filter.2 ⟨hentry, by simp [hlead, hplace]⟩
  have hscan' : scan ∈ scans.found (fun _ row => decide (row.id = scanId)) db :=
    mem_filter.2 ⟨hscan, by simp [hid]⟩
  simp only [reportFor]
  rcases hhead : (scans.found (fun _ row => decide (row.id = scanId)) db).head? with _ | found
  · rw [head?_eq_none_iff.1 hhead] at hscan'
    cases hscan'
  obtain ⟨hrow, hfound⟩ := mem_filter.1 (mem_of_mem_head? (mem_def.2 hhead))
  obtain rfl := Table.rows_inj hfine hrow hscan (by
    simp only [siteSchema, scans, SiteRow.key, hid, of_decide_eq_true hfound])
  rcases hplaced : (waitlistEntries.found
    (fun _ row => decide (row.leadId = leadId) && decide (row.scanId = scanId)) db).head? with _ | waitlist
  · rw [head?_eq_none_iff.1 hplaced] at hentry'
    cases hentry'
  obtain ⟨coverage, hcoverage⟩ := isSome_iff_exists.1 hcoverage
  obtain ⟨level, hlevel⟩ := isSome_iff_exists.1 hlevel
  simp only [bind_some, hcoverage, hlevel, Option.some.injEq, exists_eq']

theorem reportCheck_blanked_iff {rows : List SiteCheck} (hrows : ∀ row ∈ rows, row.scanId ∈ scanIds)
    (definition : Nat × String) :
    reportCheck (rows.map (·.blanked scanIds)) definition = reportCheck rows definition ↔
      ∀ row, rows.find? (·.result.id = definition.1) = some row →
        sanitizeEvidence row.result.evidence = sanitizeEvidence anonymizedEvidence := by
  have hfind : (rows.map (·.blanked scanIds)).find? (·.result.id = definition.1) =
      (rows.find? (·.result.id = definition.1)).map (·.blanked scanIds) := by
    rw [find?_map]
    simp only [Function.comp_def, SiteCheck.blanked_id]
  obtain ⟨found, hrow⟩ : ∃ found, rows.find? (·.result.id = definition.1) = found := ⟨_, rfl⟩
  rw [reportCheck, reportCheck, hfind, hrow]
  rcases found with _ | row
  · exact ⟨fun _ row hrow => (nomatch hrow), fun _ => rfl⟩
  · have hblanked : row.blanked scanIds = { row with result := { row.result with evidence := anonymizedEvidence } } :=
      if_pos (hrows row (mem_of_find?_eq_some hrow))
    simp only [reportCheckRow, map_some, hblanked, getD_some, bind_some, ReportCheck.mk.injEq, true_and,
      Option.some.injEq, forall_eq']
    exact eq_comm

theorem checks_blanked_iff (hfine : siteSchema.Fine db) (hmem : scanId ∈ scanIds) : checkDefinitions.map (reportCheck
        ((scanChecks.found (fun _ row => decide (row.scanId = scanId)) db).map (·.blanked scanIds))) =
      checkDefinitions.map (reportCheck (scanChecks.found (fun _ row => decide (row.scanId = scanId)) db)) ↔
    ∀ check ∈ scanChecks.rows db, check.scanId = scanId → check.result.id ∈ checkDefinitions.map (·.1) →
      sanitizeEvidence check.result.evidence = sanitizeEvidence anonymizedEvidence := by
  have hfound : ∀ {row}, row ∈ scanChecks.found (fun _ row => decide (row.scanId = scanId)) db ↔
      row ∈ scanChecks.rows db ∧ row.scanId = scanId := by
    intro row
    rw [Table.found, mem_filter, decide_eq_true_eq]
  rw [map_inj_left]
  constructor
  · intro h check hcheck hscan hid
    obtain ⟨definition, hdefinition, hnumber⟩ := List.mem_map.1 hid
    refine (reportCheck_blanked_iff (fun row hrow => (hfound.1 hrow).2 ▸ hmem) definition).1
      (h definition hdefinition) check ?_
    rcases hrow : (scanChecks.found (fun _ row => decide (row.scanId = scanId)) db).find?
      (·.result.id = definition.1) with _ | row
    · have := find?_eq_none.1 hrow check (hfound.2 ⟨hcheck, hscan⟩)
      exact absurd (decide_eq_true hnumber.symm) this
    · obtain ⟨hmemrow, hscan'⟩ := hfound.1 (mem_of_find?_eq_some hrow)
      have hnumber' := find?_some hrow
      simp only [decide_eq_true_eq] at hnumber'
      rw [hrow, Table.rows_inj hfine hmemrow hcheck (by
        simp only [siteSchema, scanChecks, SiteRow.key, hscan, hscan', hnumber, hnumber'])]
  · intro h definition hdefinition
    refine (reportCheck_blanked_iff (fun row hrow => (hfound.1 hrow).2 ▸ hmem) definition).2 fun row hrow => ?_
    obtain ⟨hmemrow, hscan⟩ := hfound.1 (mem_of_find?_eq_some hrow)
    have hnumber := find?_some hrow
    simp only [decide_eq_true_eq] at hnumber
    exact h row hmemrow hscan (List.mem_map.2 ⟨definition, hdefinition, hnumber.symm⟩)

/-- Whatever the site has come to, what another lead is answered who asks for the report of a scan is the same after
an erasure as before exactly where their session opens no report of it, or the lead who was erased is not linked to
the scan, or what the report shows of it reads as erased already. -/
theorem others_report_kept_iff {U : UrlLib} {sessionId : String} {erasedAt t : Int} {scanCount : Nat}
    (hreached : SiteReached U site db)
    (herased : (anonymizeLeadData leadId sessionId erasedAt).alone siteSchema t db [] =
      (some (.anonymized, scanCount), v))
    {session : ReportSession} (hsession : session ∈ reportSessions.rows db) (hother : session.leadId ≠ leadId)
    (htoken : session.sessionTokenHash = site.sha256 token) :
    ((getFullReport site benchmarkEnabled scanId (some token)).alone siteSchema now v []).1 =
      ((getFullReport site benchmarkEnabled scanId (some token)).alone siteSchema now db []).1 ↔
    (ReportOpens session scanId token now db → scanId ∈ leadScanIds db leadId → ReadsErased db scanId) := by
  have hfine := hreached.fine
  obtain ⟨hfine', h⟩ := erased_of_alone hfine herased
  by_cases hempty : token = ""
  · subst hempty
    exact ⟨fun _ hopens => absurd rfl hopens.token, fun _ => rfl⟩
  obtain ⟨hsession', hlinked⟩ := h.session scanId hsession hother
  rw [alone_getFullReport hfine' hempty, alone_getFullReport hfine hempty, Option.some.injEq,
    reportAnswer_eq hfine hsession htoken, reportAnswer_eq hfine' hsession' htoken, hlinked,
    reportFor_erased h hother]
  by_cases hopen : now < session.expiresAt ∧ session.revokedAt = none ∧ linkedTo scanId session.leadId db
  · rw [if_pos hopen, if_pos hopen]
    rcases hreport : reportFor benchmarkEnabled scanId session.leadId db with _ | report
    · refine ⟨fun _ hopens => ?_, fun _ => rfl⟩
      obtain ⟨report, hreport'⟩ := exists_reportFor hfine hopens.queued hopens.assessed
      exact nomatch hreport.symm.trans hreport'
    obtain ⟨⟨hqueued, scan, hscan, hid, hcoverage, hlevel, hhost⟩, hchecks⟩ := of_reportFor hreport
    have hopens : ReportOpens session scanId token now db :=
      ⟨hempty, hopen.1, hopen.2.1, hopen.2.2, hqueued, scan, hscan, hid, hcoverage, hlevel⟩
    have hsame : (some report).map (fun report : ReportResponse => { report with
          host := if scanId ∈ leadScanIds db leadId then "deleted.invalid" else report.host
          checks := checkDefinitions.map (reportCheck
            ((scanChecks.found (fun _ row => decide (row.scanId = scanId)) db).map
              (·.blanked (leadScanIds db leadId)))) }) = some report ↔
        (if scanId ∈ leadScanIds db leadId then "deleted.invalid" else scan.targetHost) = scan.targetHost ∧
          checkDefinitions.map (reportCheck ((scanChecks.found (fun _ row => decide (row.scanId = scanId)) db).map
            (·.blanked (leadScanIds db leadId)))) =
          checkDefinitions.map (reportCheck (scanChecks.found (fun _ row => decide (row.scanId = scanId)) db)) := by
      obtain ⟨_, _, _, _, _, _, _, _, _⟩ := report
      subst hhost hchecks
      simp only [Option.map_some, Option.some.injEq, ReportResponse.mk.injEq, true_and, and_true]
    rw [hsame]
    by_cases hmem : scanId ∈ leadScanIds db leadId
    · rw [if_pos hmem, checks_blanked_iff hfine hmem]
      refine ⟨fun hboth _ _ => ⟨fun other hother hsame => ?_, hboth.2⟩, fun hreads => ?_⟩
      · rw [Table.rows_inj hfine hother hscan (by simp only [siteSchema, scans, SiteRow.key, hid, hsame])]
        exact hboth.1.symm
      · obtain ⟨hhosts, hchecks⟩ := hreads hopens hmem
        exact ⟨(hhosts scan hscan hid).symm, hchecks⟩
    · have hrows : (scanChecks.found (fun _ row => decide (row.scanId = scanId)) db).map
          (·.blanked (leadScanIds db leadId)) = scanChecks.found (fun _ row => decide (row.scanId = scanId)) db := by
        refine (List.map_congr_left fun row hrow => if_neg ?_).trans (List.map_id' _)
        rw [of_decide_eq_true (List.mem_filter.1 hrow).2]
        exact hmem
      rw [if_neg hmem, hrows]
      exact ⟨fun _ _ hmem' => absurd hmem' hmem, fun _ => ⟨rfl, rfl⟩⟩
  · rw [if_neg hopen, if_neg hopen]
    exact ⟨fun _ hopens => absurd ⟨hopens.lasts, hopens.valid, hopens.linked⟩ hopen, fun _ => rfl⟩

end

/-! ## A scan that two leads share -/

/-- A scan that is over. -/
def sharedScan : SiteScan where
  id := "scan"
  sessionId := "visit"
  leadId := none
  segment := .store
  rubricVersion := scanRubricVersion
  submittedUrlRedacted := "https://shop.example/"
  canonicalTargetUrl := "https://shop.example/"
  submittedWithoutScheme := false
  targetHost := "shop.example"
  targetHash := "target"
  acceptedAt := 0
  progress := { acceptedScan with status := .completed, score := some 61, coverage := some 1, level := some .readable }
  accessTokenHash := "opens"
  accessTokenExpiresAt := 1000
  idempotencyKeyHash := "key"
  idempotencyBodyHash := "body"

/-- The scan with the session it was asked for in, and one check. -/
def sharedScanDb : SiteDb :=
  ((Dict.empty.set (.session "visit") (.session ⟨"visit", "visitor", 0, .none, .none, none⟩)).set (.scan "scan")
    (.scan sharedScan)).set (.check "scan" 1)
      (.check ⟨"scan", ⟨1, .pass, 5, 5, 5, "robots_found", [("rules", .number 4)], "agents_welcome", none, 12, none⟩,
        some 0⟩)

/-- Somebody registers for the report of the scan, and comes back from their mailbox. -/
def registersAs (name : String) (place : Nat) : List (Txn.Action SiteCall) :=
  .begins 0 (.createSupabaseRegistrationIntent sharedScan ⟨name, "+49", "owner", true, false, true⟩ none
      ⟨"intent-" ++ name, "state-" ++ name, "iv", "iv", "iv"⟩ true) :: List.replicate 12 (.goes 0) ++
  .begins 0 (.finalizeSupabaseRegistration ("state-" ++ name) (some ⟨"user-" ++ name, name⟩)
      { leadId := "lead-" ++ name
        consentId := "consent-" ++ name
        verify := ⟨"place-" ++ name, place, "open-" ++ name, "token-" ++ name,
          ⟨"event-" ++ name, fun _ => "told-" ++ name⟩⟩
        partnerDeliveryId := "partner-" ++ name }) :: List.replicate 40 (.goes 0)

/-- Two leads have registered for the report. -/
def sharedDb : SiteDb :=
  ((siteMachine examplePlatform plainSite).run (Txn.World.start 0 sharedScanDb)
    (registersAs "ada" 1 ++ registersAs "ben" 2)).db

theorem shared_reached : SiteReached examplePlatform plainSite sharedDb :=
  ⟨0, sharedScanDb, _, Schema.fine_of_entries (by decide +kernel) (by decide +kernel), rfl⟩

def sharedErased : SiteDb := ((anonymizeLeadData "lead-ada" "gone" 3).alone siteSchema 3 sharedDb []).2

theorem shared_erased : (anonymizeLeadData "lead-ada" "gone" 3).alone siteSchema 3 sharedDb [] =
    (some (.anonymized, 1), sharedErased) := Prod.ext (by decide +kernel) (by rw [sharedErased])

def sharedSession : ReportSession := ⟨"open-ben", "lead-ben", "sha256:token-ben", 30 * 86400000, none, 0⟩

/-- The other's session opens a report that the erasure blanks. -/
theorem shared_report_changes :
    ((getFullReport plainSite false "scan" (some "token-ben")).alone siteSchema 5 sharedErased []).1 =
      ((getFullReport plainSite false "scan" (some "token-ben")).alone siteSchema 5 sharedDb []).1 ↔
    (ReportOpens sharedSession "scan" "token-ben" 5 sharedDb → "scan" ∈ leadScanIds sharedDb "lead-ada" →
      ReadsErased sharedDb "scan") :=
  others_report_kept_iff shared_reached shared_erased (by decide +kernel) (by decide) (by decide)

/-- A lead who is verified, and linked to a scan, is answered something else after another lead was erased. -/
theorem shared_scan_blanked : ¬ ∀ (U : UrlLib) (site : Site) (db v : SiteDb) (leadId sessionId : String)
    (erasedAt t now : Int) (scanCount : Nat) (other : Lead) (session : ReportSession) (benchmarkEnabled : Bool)
    (scanId token : String), SiteReached U site db →
    (anonymizeLeadData leadId sessionId erasedAt).alone siteSchema t db [] = (some (.anonymized, scanCount), v) →
    other ∈ leads.rows db → other.id ≠ leadId → other.verifiedAt.isSome → other.anonymizedAt = none →
    (∃ link ∈ leadScans.rows db, link.leadId = other.id ∧ link.scanId = scanId) →
    session ∈ reportSessions.rows db → session.leadId = other.id → session.sessionTokenHash = site.sha256 token →
    ((getFullReport site benchmarkEnabled scanId (some token)).alone siteSchema now v []).1 =
      ((getFullReport site benchmarkEnabled scanId (some token)).alone siteSchema now db []).1 := by
  intro h
  obtain ⟨other, hother, hid⟩ : ∃ other ∈ leads.rows sharedDb, other.id = "lead-ben" ∧ other.verifiedAt.isSome ∧
      other.anonymizedAt = none := by decide +kernel
  have hlinked : ∃ link ∈ leadScans.rows sharedDb, link.leadId = "lead-ben" ∧ link.scanId = "scan" := by
    decide +kernel
  have hsame := h examplePlatform plainSite sharedDb sharedErased "lead-ada" "gone" 3 3 5 1 other sharedSession false
    "scan" "token-ben" shared_reached shared_erased hother (by rw [hid.1]; decide) hid.2.1 hid.2.2
    (by rw [hid.1]; exact hlinked) (by decide +kernel) hid.1.symm (by decide)
  have hhost := congrArg (Option.map (Option.map (·.host))) hsame
  exact absurd hhost (by decide +kernel)

end Coinslot
