import Coinslot.Lib.Alone
import Coinslot.Web.Footprints
import Coinslot.Scanner.PublicOnly

/-!
# One scan for a key

Somebody asks for a scan again and again under one key, in any number of calls at once. One scan is made, with one
job, and every call is answered with it; a call is told of a conflict exactly where it asks for something else than
the call that made the scan (`one_scan_for_a_key`).

What carries it: a scan that was committed under the key is never written again, for it is queued in the
transaction that makes it, so that whoever finds it has nothing to do (`OneScan`). The digest of a request says what
was asked for (`scanBodyText_inj`).
-/

namespace Coinslot

open Txn JsonText List Option

/-! ## What the digest of a request says -/

theorem Segment.text_inj {s s' : Segment} (h : s.text = s'.text) : s = s' := by
  revert h
  cases s <;> cases s' <;> decide

variable {canonical' : String} {body' : CreateScanRequest} {scheme scheme' : Bool}

theorem scanBodyHead_inj {canonical : String} {body : CreateScanRequest} {rest rest' : List Char}
    (h :
      "\x7b\"url\":".toList ++ (jsonQuoted canonical ++ (",\"segment\":".toList ++ (jsonQuoted body.segment.text ++
      (",\"landing_variant\":".toList ++ (jsonQuoted body.landingVariant ++ rest))))) =
      "\x7b\"url\":".toList ++ (jsonQuoted canonical' ++ (",\"segment\":".toList ++ (jsonQuoted body'.segment.text
      ++ (",\"landing_variant\":".toList ++ (jsonQuoted body'.landingVariant ++ rest')))))) :
    canonical = canonical' ∧ body.segment = body'.segment ∧ body.landingVariant = body'.landingVariant ∧
      rest = rest' := by
  obtain ⟨hcanonical, h⟩ := jsonQuoted_append (append_cancel_left h)
  obtain ⟨hsegment, h⟩ := jsonQuoted_append (append_cancel_left h)
  obtain ⟨hvariant, h⟩ := jsonQuoted_append (append_cancel_left h)
  exact ⟨hcanonical, Segment.text_inj hsegment, hvariant, h⟩

/-- **What is digested of a request says what was asked for.** -/
theorem scanBodyText_inj {canonical : String} {body : CreateScanRequest}
    (h : scanBodyText canonical body scheme = scanBodyText canonical' body' scheme') :
    canonical = canonical' ∧ body.segment = body'.segment ∧ body.landingVariant = body'.landingVariant ∧
      scheme = scheme' := by
  unfold scanBodyText at h
  simp only [append_assoc] at h
  obtain ⟨hcanonical, hsegment, hvariant, hrest⟩ := scanBodyHead_inj h
  refine ⟨hcanonical, hsegment, hvariant, ?_⟩
  revert hrest
  cases scheme <;> cases scheme' <;> decide +kernel

theorem scanBodyText_ne_legacy (canonical canonical' : String) (body body' : CreateScanRequest) (scheme : Bool) :
    scanBodyText canonical body scheme ≠ legacyScanBodyText canonical' body' := by
  intro h
  unfold scanBodyText legacyScanBodyText at h
  simp only [append_assoc] at h
  obtain ⟨-, -, -, hrest⟩ := scanBodyHead_inj h
  revert hrest
  cases scheme <;> decide +kernel

theorem scanBodyMatches_iff {site : Site} (hsha : Function.Injective site.sha256) {canonical : String}
    {body : CreateScanRequest} :
    site.scanBodyMatches canonical body scheme (site.scanBodyHash canonical' body' scheme') = true ↔
      canonical' = canonical ∧ body'.segment = body.segment ∧ body'.landingVariant = body.landingVariant ∧
        scheme' = scheme := by
  rw [Site.scanBodyMatches, Bool.or_eq_true, Bool.and_eq_true, decide_eq_true_iff, decide_eq_true_iff]
  constructor
  · rintro (h | ⟨-, h⟩)
    · exact scanBodyText_inj (String.ofList_inj.1 (hsha h))
    · exact absurd (String.ofList_inj.1 (hsha h)) (scanBodyText_ne_legacy _ _ _ _ _)
  · rintro ⟨rfl, hsegment, hvariant, rfl⟩
    left
    unfold Site.scanBodyHash scanBodyText
    rw [hsegment, hvariant]

/-! ## The calls, and what each holds to -/

/-- A request, and what is drawn for it. -/
structure ScanAsk where
  body : CreateScanRequest
  submittedWithoutScheme : Bool
  ids : ScanIds

/-- What a request asks for, as far as it is digested. -/
def ScanAsk.asked (U : UrlLib) (ask : ScanAsk) : Option (String × Segment × String × Bool) :=
  (canonicalizeSubmittedUrl U ask.body.url).map fun target =>
    (target.canonical, ask.body.segment, ask.body.landingVariant, ask.submittedWithoutScheme)

/-- The call of a request, under a key and for a visitor. -/
def ScanAsk.call (key token : String) (ask : ScanAsk) : SiteCall :=
  .createOrReplayScan ask.body key (some token) ask.submittedWithoutScheme ask.ids

/-- Whose scans these are: a visitor's, in a session, under a key. -/
structure ScanKey where
  key : String
  token : String
  sessionId : String

section

variable (U : UrlLib) (site : Site) (k : ScanKey)

def ScanKey.has (scan : SiteScan) : Bool :=
  scan.sessionId = k.sessionId && scan.idempotencyKeyHash = site.idempotencyHash k.key

/-- The session is there, and the visitor's. -/
def ScanKey.Known (db : SiteDb) : Prop :=
  ∃ session : SiteSession, db.get (.session k.sessionId) = some (.session session) ∧ session.id = k.sessionId ∧
    session.anonymousIdHash = site.anonymousHash k.token

/-- A scan is what a request makes of it. -/
structure MadeBy (ask : ScanAsk) (scan : SiteScan) : Prop where
  id : scan.id = ask.ids.scanId
  under : k.has site scan = true
  body : ∃ target, canonicalizeSubmittedUrl U ask.body.url = some target ∧
    scan.idempotencyBodyHash = site.scanBodyHash target.canonical ask.body ask.submittedWithoutScheme
  opens : scan.accessTokenHash = site.sha256 (site.scanAccessToken k.sessionId (site.idempotencyHash k.key))
  expires : scan.accessTokenExpiresAt = scan.acceptedAt + 7 * 86400000

/-- An answer to a request is about a scan. -/
structure AnswersWith (ask : ScanAsk) (scan : SiteScan) (created : ScanCreation) : Prop where
  scanId : created.scanId = scan.id
  token : created.accessToken = site.scanAccessToken k.sessionId (site.idempotencyHash k.key)
  conflict : ∃ target, canonicalizeSubmittedUrl U ask.body.url = some target ∧
    created.conflict =
      !site.scanBodyMatches target.canonical ask.body ask.submittedWithoutScheme scan.idempotencyBodyHash

/-- How far a call has come. -/
inductive AskStage where
  | asking
  | inserted (scan : SiteScan)
  | queued (scan : SiteScan)
  | jobbed (scan : SiteScan)
  | found (scan : SiteScan)
  | told (scan : SiteScan) (created : ScanCreation)

/-- The scan a call works on, before it has committed. -/
def AskStage.scan? : AskStage → Option SiteScan
  | inserted scan | queued scan | jobbed scan | found scan => some scan
  | asking | told _ _ => none

/-- What is written beside scans and jobs: events, what is told of them, and the session, which stays the
visitor's. -/
def ScanKey.Aside (key : SiteKey) (o : Option SiteRow) : Prop :=
  key.Among [.event, .delivery] ∨ ∃ session : SiteSession, key = .session k.sessionId ∧
    o = some (.session session) ∧ session.id = k.sessionId ∧ session.anonymousIdHash = site.anonymousHash k.token

/-- What a statement of a call does. -/
inductive ScanStep (ask : ScanAsk) (db : SiteDb) : AskStage → Writes SiteKey SiteRow → AskStage → Prop where
  | aside {stage : AskStage} {writes : Writes SiteKey SiteRow}
      (h : ∀ key o, (key, o) ∈ writes → k.Aside site key o) : ScanStep ask db stage writes stage
  | inserts {scan : SiteScan} (hmade : MadeBy U site k ask scan) (hstatus : scan.progress.status = .accepted)
      (hfree : db.get (.scan scan.id) = none) :
      ScanStep ask db .asking [(.scan scan.id, some (.scan scan))] (.inserted scan)
  | queues {scan scan' : SiteScan} {writes : Writes SiteKey SiteRow} (hid : scan'.id = scan.id)
      (hmade : MadeBy U site k ask scan') (hstatus : scan'.progress.status ≠ .accepted)
      (hmem : (.scan scan.id, some (.scan scan')) ∈ writes)
      (hwrites : ∀ key o, (key, o) ∈ writes → key = .scan scan.id ∧ o = some (.scan scan')) :
      ScanStep ask db (.inserted scan) writes (.queued scan')
  | jobs {scan : SiteScan} {job : SiteScanJob} (hjob : job.scanId = scan.id) (hfree : db.get (.job job.id) = none) :
      ScanStep ask db (.queued scan) [(.job job.id, some (.job job))] (.jobbed scan)
  | finds {scan : SiteScan} (hscan : db.get (.scan scan.id) = some (.scan scan)) (hunder : k.has site scan = true) :
      ScanStep ask db .asking [] (.found scan)

/-- What a call holds to. It counts on the session, on the scan it works on, and on every scan that it can find to
be queued. -/
def scanConduct : Conduct SiteKey SiteEntry SiteRow (ScanAsk × AskStage) where
  sees g db := k.Known site db ∧ (∀ scan, g.2.scan? = some scan → db.get (.scan scan.id) = some (.scan scan)) ∧
    (g.2 = .asking → ∀ scan ∈ scans.rows db, k.has site scan = true → scan.progress.status ≠ .accepted) ∧
    ∀ scan, g.2 = .inserted scan → scan.progress.status = .accepted ∧ MadeBy U site k g.1 scan
  does g db _ writes _ g' := g'.1 = g.1 ∧ ScanStep U site k g.1 db g.2 writes g'.2
  commits g _ g' := g'.1 = g.1 ∧ ∃ scan created, (g.2 = .jobbed scan ∨ g.2 = .found scan) ∧
    g'.2 = .told scan created ∧ AnswersWith U site k g.1 scan created

variable {U site k} {ask : ScanAsk} {α : Type}

theorem MadeBy.progressed {scan : SiteScan} (h : MadeBy U site k ask scan) (progress : ScanRow) :
    MadeBy U site k ask { scan with progress := progress } :=
  ⟨h.id, h.under, h.body, h.opens, h.expires⟩

theorem scans_aside {s : SiteScript α} (h : s.WritesOn siteSchema (SiteKey.Among [.event, .delivery]))
    (stage : AskStage) : s.Keeps siteSchema (scanConduct U site k) (fun g _ => g = (ask, stage)) (ask, stage) :=
  h.keeps fun _ _ _ _ _ _ hwrites => ⟨rfl, .aside fun key o ho => .inl (hwrites key o ho)⟩

theorem scans_nothing (stage : AskStage) (db : SiteDb) (locks : List (Lock SiteKey SiteEntry))
    (rows : List SiteRow) : (scanConduct U site k).does (ask, stage) db locks [] rows (ask, stage) :=
  ⟨rfl, .aside fun _ _ ho => absurd ho not_mem_nil⟩

theorem head?_eq_some_of {β : Type} {l : List β} {a : β} (hmem : a ∈ l) (hall : ∀ b ∈ l, b = a) :
    l.head? = some a := by
  cases l with
  | nil => cases hmem
  | cons b l => rw [head?_cons, hall b mem_cons_self]

theorem ScanKey.Known.found {db : SiteDb} (hfine : siteSchema.Fine db) (hknown : k.Known site db) :
    ∃ session, (sessions.found (fun _ row => row.anonymousIdHash = site.anonymousHash k.token) db).head? =
      some session ∧ session.id = k.sessionId := by
  obtain ⟨known, hget, hid, hhash⟩ := hknown
  have hmem : known ∈ sessions.rows db := by
    rw [Table.mem_rows hfine]
    exact (congrArg (fun id => db.get (.session id)) hid).trans hget
  refine ⟨known, head?_eq_some_of (mem_filter.2 ⟨hmem, decide_eq_true hhash⟩) fun session hsession => ?_, hid⟩
  obtain ⟨hrow, hsame⟩ := mem_filter.1 hsession
  exact Table.rows_inj_of_entry hfine hrow hmem (e := .sessionsAnonymousIdHash (site.anonymousHash k.token))
    (mem_singleton.2 (congrArg _ (of_decide_eq_true hsame).symm))
    (mem_singleton.2 (congrArg _ hhash.symm))

theorem ScanKey.Known.hash {db : SiteDb} (hfine : siteSchema.Fine db) (hknown : k.Known site db) {row : SiteSession}
    (hrow : row ∈ sessions.rows db) (hid : row.id = k.sessionId) :
    row.anonymousIdHash = site.anonymousHash k.token := by
  obtain ⟨known, hget, hknownId, hhash⟩ := hknown
  rw [Table.mem_rows hfine] at hrow
  have hrow : db.get (.session k.sessionId) = some (.session row) := hid ▸ hrow
  cases hget.symm.trans hrow
  exact hhash

theorem scans_enqueue {scan : SiteScan} (canonicalTargetUrl : String) (submittedWithoutScheme : Bool)
    (segment : Segment) (jobId : String) :
    (enqueueScanInTransaction scan.id canonicalTargetUrl submittedWithoutScheme segment jobId).Keeps siteSchema
      (scanConduct U site k) (fun g _ => ∃ scan', g = (ask, .jobbed scan') ∧ scan'.id = scan.id ∧
        scan'.idempotencyBodyHash = scan.idempotencyBodyHash) (ask, .inserted scan) := by
  unfold enqueueScanInTransaction
  intro now
  refine Table.keeps_updateWhere fun db hfine hsees => ?_
  obtain ⟨-, hscan, -, hinserted⟩ := hsees
  have hget : db.get (.scan scan.id) = some (.scan scan) := hscan scan rfl
  obtain ⟨hstatus, hmade⟩ := hinserted scan rfl
  have hfound : ∀ row, row ∈ scans.found (fun _ row => row.id = scan.id && row.progress.status = .accepted) db ↔
      row = scan := by
    intro row
    rw [Table.mem_found hfine, Bool.and_eq_true, decide_eq_true_iff, decide_eq_true_iff]
    constructor
    · rintro ⟨hrow, hid, -⟩
      have hrow : db.get (.scan scan.id) = some (.scan row) := hid ▸ hrow
      cases hget.symm.trans hrow
      rfl
    · rintro rfl
      exact ⟨hget, rfl, hstatus⟩
  let scan' := { scan with progress := { scan.progress with status := .queued, queuedAt := some now } }
  have hqueued : scan'.progress.status ≠ .accepted := by
    intro h
    cases h
  refine ⟨(ask, .queued scan'), ⟨rfl, .queues rfl (hmade.progressed _) hqueued ?_ ?_⟩, ?_⟩
  · exact List.mem_map.2 ⟨scan, (hfound scan).2 rfl, rfl⟩
  · intro key o ho
    obtain ⟨row, hrow, heq⟩ := List.mem_map.1 ho
    cases (hfound row).1 hrow
    cases heq
    exact ⟨rfl, rfl⟩
  split
  · next hnone =>
    rw [head?_eq_none_iff, map_eq_nil_iff] at hnone
    have := (hfound scan).2 rfl
    rw [hnone] at this
    exact absurd this not_mem_nil
  · intro now'
    refine Table.keeps_insert fun db _ _ hfree => ⟨(ask, .jobbed scan'), ⟨rfl, .jobs rfl hfree⟩, ?_⟩
    exact ⟨scan', rfl, rfl, rfl⟩

theorem scans_sessionOfRequest (htoken : k.token ≠ "") (ids : SessionIds) :
    (sessionOfRequest site ask.body (some k.token) ids).Keeps siteSchema (scanConduct U site k)
      (fun g found => g = (ask, .asking) ∧ ∃ session, found = (some session, none) ∧ session.id = k.sessionId)
      (ask, .asking) := by
  have hfilter : (some k.token).filter (fun token => token ≠ "") = some k.token := by
    rw [filter_some, if_pos (decide_eq_true htoken)]
  unfold sessionOfRequest findSession
  rw [hfilter]
  refine Table.keeps_selectOne fun db hfine hsees => ⟨_, scans_nothing _ _ _ _, ?_⟩
  obtain ⟨session, hhead, hid⟩ := ScanKey.Known.found hfine hsees.1
  rw [hhead]
  exact ⟨rfl, session, rfl, hid⟩

variable {target : SubmittedUrl} {o : Option SiteRow} {now : Int} {action : Txn.Action SiteCall} {id : String}

theorem scans_replay {scan : SiteScan} (htarget : canonicalizeSubmittedUrl U ask.body.url = some target)
    (hstatus : scan.progress.status ≠ .accepted) (newAnonymousToken : Option String) (jobId : String) :
    (replayScan site target ask.body ask.submittedWithoutScheme scan
      (site.scanAccessToken k.sessionId (site.idempotencyHash k.key)) newAnonymousToken jobId).Keeps siteSchema
      (scanConduct U site k) (fun g created => g.1 = ask ∧ ∃ scan, (g.2 = .jobbed scan ∨ g.2 = .found scan) ∧
        AnswersWith U site k ask scan created) (ask, .found scan) := by
  unfold replayScan
  rw [if_neg fun h => hstatus (of_decide_eq_true (Bool.and_eq_true_iff.1 h).2)]
  exact ⟨rfl, scan, .inr rfl, ⟨rfl, rfl, target, htarget, rfl⟩⟩

theorem scans_create (htarget : canonicalizeSubmittedUrl U ask.body.url = some target) (consentSnapshotId : String)
    (newAnonymousToken : Option String) :
    (createScan site target ask.body ask.submittedWithoutScheme k.sessionId consentSnapshotId
      (site.idempotencyHash k.key) (site.scanAccessToken k.sessionId (site.idempotencyHash k.key)) newAnonymousToken
      ask.ids).Keeps siteSchema
      (scanConduct U site k) (fun g created => g.1 = ask ∧ ∃ scan, (g.2 = .jobbed scan ∨ g.2 = .found scan) ∧
        AnswersWith U site k ask scan created) (ask, .asking) := by
  unfold createScan
  intro now
  refine Table.keeps_insert fun db _ _ hfree => ⟨(ask, .inserted _), ⟨rfl, .inserts ?_ rfl hfree⟩, ?_⟩
  · refine ⟨rfl, ?_, ⟨target, htarget, rfl⟩, rfl, rfl⟩
    rw [ScanKey.has, Bool.and_eq_true]
    exact ⟨decide_eq_true rfl, decide_eq_true rfl⟩
  refine .bind ((scans_aside (writesOn_emitStoredBusinessEvent _ _) _).mono fun g _ hg => ?_)
  subst hg
  refine .bind ((scans_enqueue _ _ _ _).mono fun g _ hg => ?_)
  obtain ⟨scan', rfl, hid, hbody⟩ := hg
  refine ⟨rfl, scan', .inl rfl, hid.symm, rfl, target, htarget, ?_⟩
  rw [hbody, Site.scanBodyMatches, decide_eq_true rfl]
  rfl

/-- **Every call of the key holds to its conduct.** -/
theorem scans_createOrReplayScan (htoken : k.token ≠ "") :
    (createOrReplayScan U site ask.body k.key (some k.token) ask.submittedWithoutScheme ask.ids).Keeps siteSchema
      (scanConduct U site k) (fun g created => g.1 = ask ∧ ∃ scan, g.2 = .told scan created) (ask, .asking) := by
  unfold createOrReplayScan
  split
  · trivial
  next target htarget =>
  refine .bind (Script.Keeps.mono (fun g created (hg : g.1 = ask ∧ ∃ scan, (g.2 = .jobbed scan ∨ g.2 = .found scan) ∧
    AnswersWith U site k ask scan created) db _ _ => ?_) ?_)
  · obtain ⟨hask, scan, hstage, hanswers⟩ := hg
    exact ⟨(g.1, .told scan created), ⟨rfl, scan, created, hstage, rfl, hask ▸ hanswers⟩, hask, scan, rfl⟩
  refine .bind ((scans_sessionOfRequest htoken _).mono fun g found hg => ?_)
  obtain ⟨rfl, session, rfl, hid⟩ := hg
  dsimp only
  split
  · next session' consentSnapshotId hsession hconsent =>
    cases hsession
    intro db hfine hsees writes rows houtcome
    cases houtcome
    refine ⟨_, scans_nothing _ _ _ _, fun now => ?_⟩
    refine Table.keeps_updateWhere fun db hfine hsees => ⟨(ask, .asking), ⟨rfl, .aside ?_⟩, ?_⟩
    · intro key o ho
      obtain ⟨row, hrow, heq⟩ := List.mem_map.1 ho
      cases heq
      obtain ⟨hrow, hsame⟩ := mem_filter.1 hrow
      have hrowId : row.id = k.sessionId := (of_decide_eq_true hsame).trans hid
      have hhash := hsees.1.hash hfine hrow hrowId
      exact .inr ⟨_, congrArg SiteKey.session hrowId, rfl, hrowId, hhash⟩
    refine Table.keeps_selectOne fun db hfine hsees => ?_
    rw [hid]
    cases hexisting : (scans.found (fun _ row => row.sessionId = k.sessionId &&
        row.idempotencyKeyHash = site.idempotencyHash k.key) db).head? with
    | none => exact ⟨_, scans_nothing _ _ _ _, scans_create htarget consentSnapshotId _⟩
    | some existing =>
      obtain ⟨hrow, hunder⟩ := mem_filter.1 (mem_of_mem_head? (mem_def.2 hexisting))
      refine ⟨(ask, .found existing), ⟨rfl, .finds ((Table.mem_rows hfine).1 hrow) hunder⟩, ?_⟩
      exact scans_replay htarget (hsees.2.2.1 rfl existing hrow hunder) _ _
  · trivial

/-! ## The runs -/

/-- What a call has written that is none of the stages' scan and job. -/
def ScanKey.AllAside (site : Site) (k : ScanKey) (writes : Writes SiteKey SiteRow) : Prop :=
  ∀ key o, (key, o) ∈ writes → k.Aside site key o

/-- A call has written a scan of its own, which was not there. -/
structure WritesScan (U : UrlLib) (site : Site) (k : ScanKey) (ask : ScanAsk) (db : SiteDb)
    (writes : Writes SiteKey SiteRow) (scan : SiteScan) : Prop where
  made : MadeBy U site k ask scan
  free : db.get (.scan scan.id) = none
  wrote : (.scan scan.id, some (.scan scan)) ∈ writes
  view : (overlay db writes).get (.scan scan.id) = some (.scan scan)
  rest : ∀ key o, (key, o) ∈ writes → k.Aside site key o ∨ key = .scan scan.id ∨
    ∃ job : SiteScanJob, key = .job job.id ∧ o = some (.job job) ∧ job.scanId = scan.id

/-- What is noted on a call is so. -/
def StageOk (U : UrlLib) (site : Site) (k : ScanKey) (ask : ScanAsk) (db : SiteDb)
    (writes : Writes SiteKey SiteRow) : AskStage → Prop
  | .asking => k.AllAside site writes
  | .inserted scan => WritesScan U site k ask db writes scan ∧ scan.progress.status = .accepted ∧
      ∀ key o, (key, o) ∈ writes → key.table ≠ .job
  | .queued scan => WritesScan U site k ask db writes scan ∧ scan.progress.status ≠ .accepted ∧
      ∀ key o, (key, o) ∈ writes → key.table ≠ .job
  | .jobbed scan => WritesScan U site k ask db writes scan ∧ scan.progress.status ≠ .accepted ∧
      ∀ key o key' o', (key, o) ∈ writes → (key', o') ∈ writes → key.table = .job → key'.table = .job → key = key'
  | .found scan => k.AllAside site writes ∧ db.get (.scan scan.id) = some (.scan scan) ∧ k.has site scan = true
  | .told scan created => k.AllAside site writes ∧ db.get (.scan scan.id) = some (.scan scan) ∧
      k.has site scan = true ∧ AnswersWith U site k ask scan created

def QueuedSince (db₀ db : SiteDb) (job : SiteScanJob) : Prop :=
  db.get (.job job.id) = some (.job job) ∧ db₀.get (.job job.id) = none

def Begun (k : ScanKey) (log : List (Happening (Txn.Action SiteCall) SiteNotice)) (ask : ScanAsk) : Prop :=
  ∃ c, .accepted (.begins c (ask.call k.key k.token)) ∈ log

/-- What is noted on a call is of its request, and is so. -/
def ScanNoted (U : UrlLib) (site : Site) (k : ScanKey) (db : SiteDb)
    (log : List (Happening (Txn.Action SiteCall) SiteNotice)) (g : ScanAsk × AskStage)
    (call : SiteUnderway) : Prop :=
  call.name = g.1.call k.key k.token ∧ Begun k log g.1 ∧ StageOk U site k g.1 db call.writes g.2

/-- What holds of every run of the calls under a key. -/
structure OneScan (U : UrlLib) (site : Site) (k : ScanKey) (db₀ : SiteDb) (w : SiteWorld)
    (g : Nat → ScanAsk × AskStage) (log : List (Happening (Txn.Action SiteCall) SiteNotice)) : Prop where
  known : k.Known site w.db
  scans : ∀ scan ∈ scans.rows w.db, k.has site scan = true →
    scan.progress.status ≠ .accepted ∧ ∃ ask, Begun k log ask ∧ MadeBy U site k ask scan
  jobs : ∀ job, QueuedSince db₀ w.db job → w.db.get (.scan job.scanId) ≠ none ∧
    ∀ job', QueuedSince db₀ w.db job' → job'.scanId = job.scanId → job' = job
  noted : ∀ c call, w.calls.get c = some call → ScanNoted U site k w.db log (g c) call
  told : ∀ name created, .emitted (.answered name (.scan created)) ∈ log → ∃ ask scan,
    name = ask.call k.key k.token ∧ w.db.get (.scan scan.id) = some (.scan scan) ∧ k.has site scan = true ∧
      AnswersWith U site k ask scan created

variable {db db' : SiteDb} {writes more : Writes SiteKey SiteRow} {stage stage' : AskStage} {scan : SiteScan}

theorem ScanKey.Aside.table {key : SiteKey} (h : k.Aside site key o) :
    key.table ≠ .scan ∧ key.table ≠ .job := by
  rcases h with h | ⟨session, rfl, -⟩
  · exact ⟨h.not_of rfl, h.not_of rfl⟩
  · exact ⟨SiteTable.noConfusion, SiteTable.noConfusion⟩

theorem ScanKey.AllAside.append (h : k.AllAside site writes) (h' : k.AllAside site more) :
    k.AllAside site (writes ++ more) := by
  intro key o ho
  exact (mem_append.1 ho).elim (h key o) (h' key o)

theorem ScanKey.AllAside.get_scan (h : k.AllAside site writes) (id : String) :
    (overlay db writes).get (.scan id) = db.get (.scan id) :=
  get_overlay_of_not_mem fun o ho => absurd rfl (h _ o ho).table.1

theorem WritesScan.aside (h : WritesScan U site k ask db writes scan) (hmore : k.AllAside site more) :
    WritesScan U site k ask db (writes ++ more) scan := by
  refine ⟨h.made, h.free, mem_append_left _ h.wrote, ?_, fun key o ho => ?_⟩
  · rw [overlay_append, hmore.get_scan]
    exact h.view
  · exact (mem_append.1 ho).elim (h.rest key o) fun ho => .inl (hmore key o ho)

theorem get_overlay_of_all {key : SiteKey} (hmem : (key, o) ∈ writes) (hall : ∀ o', (key, o') ∈ writes → o' = o) :
    (overlay db writes).get key = o := by
  rcases get_overlay db writes key with hw | ⟨-, hno⟩
  · exact hall _ hw
  · exact absurd hmem (hno o)

section

variable (h : StageOk U site k ask db writes stage)
include h

/-- What a statement does keeps what is noted. -/
theorem StageOk.step (hstep : ScanStep U site k ask (overlay db writes) stage more stage') :
    StageOk U site k ask db (writes ++ more) stage' := by
  cases hstep with
  | aside hmore =>
    have hnojob : ∀ key o, (key, o) ∈ more → key.table ≠ .job := fun key o ho => (hmore key o ho).table.2
    cases stage with
    | asking => exact ScanKey.AllAside.append h hmore
    | inserted scan =>
      exact ⟨h.1.aside hmore, h.2.1, fun key o ho => (mem_append.1 ho).elim (h.2.2 key o) (hnojob key o)⟩
    | queued scan =>
      exact ⟨h.1.aside hmore, h.2.1, fun key o ho => (mem_append.1 ho).elim (h.2.2 key o) (hnojob key o)⟩
    | jobbed scan =>
      refine ⟨h.1.aside hmore, h.2.1, fun key o key' o' ho ho' hkey hkey' => ?_⟩
      rcases mem_append.1 ho with ho | ho
      · rcases mem_append.1 ho' with ho' | ho'
        · exact h.2.2 key o key' o' ho ho' hkey hkey'
        · exact absurd hkey' (hnojob key' o' ho')
      · exact absurd hkey (hnojob key o ho)
    | found scan => exact ⟨ScanKey.AllAside.append h.1 hmore, h.2⟩
    | told scan created => exact ⟨ScanKey.AllAside.append h.1 hmore, h.2⟩
  | @inserts scan hmade hstatus hfree =>
    have haside : k.AllAside site writes := h
    rw [haside.get_scan] at hfree
    have hmem : ((.scan scan.id, some (.scan scan)) : SiteKey × Option SiteRow) ∈
        writes ++ [(.scan scan.id, some (.scan scan))] := mem_append_right _ (mem_singleton_self _)
    have hsplit : ∀ key o, (key, o) ∈ writes ++ [(.scan scan.id, some (.scan scan))] →
        k.Aside site key o ∨ key = .scan scan.id ∧ o = some (.scan scan) := by
      intro key o ho
      rcases mem_append.1 ho with ho | ho
      · exact .inl (haside key o ho)
      · cases mem_singleton.1 ho
        exact .inr ⟨rfl, rfl⟩
    refine ⟨⟨hmade, hfree, hmem, get_overlay_of_all hmem fun o ho => ?_, fun key o ho => ?_⟩, hstatus,
      fun key o ho => ?_⟩
    · rcases hsplit _ o ho with ho | ⟨-, ho⟩
      · exact absurd rfl ho.table.1
      · exact ho
    · exact (hsplit key o ho).imp_right fun hkey => .inl hkey.1
    · rcases hsplit key o ho with ho | ⟨rfl, -⟩
      · exact ho.table.2
      · exact SiteTable.noConfusion
  | @queues scan scan' _ hid hmade hstatus hmem hwrites =>
    obtain ⟨hscan, -, hnojob⟩ := h
    refine ⟨⟨hmade, hid ▸ hscan.free, hid ▸ mem_append_right _ hmem, ?_, fun key o ho => ?_⟩, hstatus,
      fun key o ho => ?_⟩
    · rw [overlay_append, hid]
      exact get_overlay_of_all hmem fun o ho => (hwrites _ o ho).2
    · rw [hid]
      rcases mem_append.1 ho with ho | ho
      · exact hscan.rest key o ho
      · exact .inr (.inl (hwrites key o ho).1)
    · rcases mem_append.1 ho with ho | ho
      · exact hnojob key o ho
      · rw [(hwrites key o ho).1]
        exact SiteTable.noConfusion
  | @jobs scan job hjob hfree =>
    obtain ⟨hscan, hstatus, hnojob⟩ := h
    refine ⟨⟨hscan.made, hscan.free, mem_append_left _ hscan.wrote, ?_, fun key o ho => ?_⟩, hstatus,
      fun key o key' o' ho ho' hkey hkey' => ?_⟩
    · rw [overlay_append, get_overlay_of_not_mem]
      · exact hscan.view
      · intro o ho
        cases mem_singleton.1 ho
    · rcases mem_append.1 ho with ho | ho
      · exact hscan.rest key o ho
      · cases mem_singleton.1 ho
        exact .inr (.inr ⟨job, rfl, rfl, hjob⟩)
    · rcases mem_append.1 ho with ho | ho
      · exact absurd hkey (hnojob key o ho)
      · rcases mem_append.1 ho' with ho' | ho'
        · exact absurd hkey' (hnojob key' o' ho')
        · cases mem_singleton.1 ho
          cases mem_singleton.1 ho'
          rfl
  | @finds scan hscan hunder =>
    have haside : k.AllAside site writes := h
    rw [haside.get_scan] at hscan
    rw [append_nil]
    exact ⟨haside, hscan, hunder⟩

variable {o : Option SiteRow}

theorem StageOk.scan_free {id : String} (ho : (.scan id, o) ∈ writes) : db.get (.scan id) = none := by
  have haside : ∀ {writes : Writes SiteKey SiteRow}, k.AllAside site writes → (.scan id, o) ∈ writes → False :=
    fun haside ho => (haside _ o ho).table.1 rfl
  have hscan : ∀ {scan : SiteScan}, WritesScan U site k ask db writes scan → db.get (.scan id) = none := by
    intro scan hscan
    rcases hscan.rest _ o ho with hkey | hkey | ⟨job, hkey, -⟩
    · exact absurd rfl hkey.table.1
    · rw [hkey]
      exact hscan.free
    · cases hkey
  cases stage with
  | asking => exact (haside h ho).elim
  | inserted scan | queued scan | jobbed scan => exact hscan h.1
  | found scan | told scan created => exact (haside h.1 ho).elim

theorem StageOk.session (ho : (.session k.sessionId, o) ∈ writes) :
    ∃ session : SiteSession, o = some (.session session) ∧
      session.id = k.sessionId ∧ session.anonymousIdHash = site.anonymousHash k.token := by
  have haside : k.Aside site (.session k.sessionId) o → ∃ session : SiteSession, o = some (.session session) ∧
      session.id = k.sessionId ∧ session.anonymousIdHash = site.anonymousHash k.token := by
    rintro (hamong | ⟨session, -, hsession⟩)
    · exact absurd rfl (hamong.not_of rfl)
    · exact ⟨session, hsession⟩
  have hscan : ∀ {scan : SiteScan}, WritesScan U site k ask db writes scan →
      k.Aside site (.session k.sessionId) o := by
    intro scan hscan
    rcases hscan.rest _ o ho with hkey | hkey | ⟨job, hkey, -⟩
    · exact hkey
    · cases hkey
    · cases hkey
  cases stage with
  | asking => exact haside (h _ o ho)
  | inserted scan | queued scan | jobbed scan => exact haside (hscan h.1)
  | found scan | told scan created => exact haside (h.1 _ o ho)

theorem StageOk.of_db (hmine : ∀ id o, (.scan id, o) ∈ writes → db'.get (.scan id) = db.get (.scan id))
    (hthere : ∀ id row, db.get (.scan id) = some row → db'.get (.scan id) = some row) :
    StageOk U site k ask db' writes stage := by
  have hscan : ∀ {scan : SiteScan}, WritesScan U site k ask db writes scan →
      WritesScan U site k ask db' writes scan :=
    fun h => ⟨h.made, (hmine _ _ h.wrote).trans h.free, h.wrote, (get_overlay_of_mem _ h.wrote).symm.trans h.view,
      h.rest⟩
  cases stage with
  | asking => exact h
  | inserted scan | queued scan | jobbed scan => exact ⟨hscan h.1, h.2⟩
  | found scan => exact ⟨h.1, hthere _ _ h.2.1, h.2.2⟩
  | told scan created => exact ⟨h.1, hthere _ _ h.2.1, h.2.2⟩

theorem StageOk.view (hscan : stage.scan? = some scan) :
    (overlay db writes).get (.scan scan.id) = some (.scan scan) := by
  cases stage with
  | asking | told _ _ => cases hscan
  | inserted scan' | queued scan' | jobbed scan' =>
    cases hscan
    exact h.1.view
  | found scan' =>
    cases hscan
    rw [h.1.get_scan]
    exact h.2.1

end

variable {db₀ : SiteDb} {w w' : SiteWorld} {g g' : Nat → ScanAsk × AskStage}
  {log : List (Happening (Txn.Action SiteCall) SiteNotice)}

/-- Whether a step begins no call but of the key. -/
def ScanKey.asksOnly (k : ScanKey) (_ : SiteWorld) : Txn.Action SiteCall → Bool
  | .begins _ (.createOrReplayScan _ key token _ _) => key = k.key && token = some k.token
  | .begins _ _ => false
  | _ => true

def ScanKey.starts (k : ScanKey) (name : SiteCall) (g : ScanAsk × AskStage) : Prop :=
  name = g.1.call k.key k.token ∧ g.2 = .asking

def toldAnswer (g : ScanAsk × AskStage) (answer : SiteAnswer) : Prop :=
  ∃ scan created, g.2 = .told scan created ∧ answer = .scan created

variable {c : Nat}

theorem begins_asking (htoken : k.token ≠ "") {name : SiteCall}
    (h : k.asksOnly w (.begins c name) = true) : ∃ g₀, k.starts name g₀ ∧
      (SiteCall.script U site name).Keeps siteSchema (scanConduct U site k) toldAnswer g₀ := by
  cases name with
  | createOrReplayScan body key token scheme ids =>
    rw [ScanKey.asksOnly, Bool.and_eq_true] at h
    obtain ⟨hkey, htok⟩ := h
    cases of_decide_eq_true hkey
    cases of_decide_eq_true htok
    refine ⟨(⟨body, scheme, ids⟩, .asking), ⟨rfl, rfl⟩, ?_⟩
    refine .bind ((@scans_createOrReplayScan U site k ⟨body, scheme, ids⟩ htoken).mono fun g created hg => ?_)
    obtain ⟨-, scan, hscan⟩ := hg
    exact ⟨scan, created, hscan, rfl⟩
  | _ => cases h

/-- **What a call counts on is so.** -/
theorem OneScan.counted (hs : w.Sound siteSchema) (h : OneScan U site k db₀ w g log) :
    w.Counted (scanConduct U site k) g := by
  intro c call hc
  obtain ⟨-, -, hstage⟩ := h.noted c call hc
  refine ⟨?_, fun scan hscan => hstage.view hscan, fun hasking scan hrow hunder => ?_, fun scan hinserted => ?_⟩
  · obtain ⟨session, hget, hid, hhash⟩ := h.known
    rcases get_overlay w.db call.writes (.session k.sessionId) with hw | ⟨hdb, -⟩
    · obtain ⟨session', hsession', hid', hhash'⟩ := hstage.session hw
      exact ⟨session', hsession', hid', hhash'⟩
    · exact ⟨session, hdb.trans hget, hid, hhash⟩
  · rw [hasking] at hstage
    have hview : (call.view w.db).get (.scan scan.id) = some (.scan scan) :=
      (Table.mem_rows (hs.view_fine hc)).1 hrow
    have hget : w.db.get (.scan scan.id) = some (.scan scan) := (hstage.get_scan scan.id).symm.trans hview
    exact (h.scans scan ((Table.mem_rows ⟨hs.keyed, hs.distinct⟩).2 hget) hunder).1
  · rw [hinserted] at hstage
    exact ⟨hstage.2.1, hstage.1.made⟩

theorem Begun.append (h : Begun k log ask)
    (more : List (Happening (Txn.Action SiteCall) SiteNotice)) : Begun k (log ++ more) ask := by
  obtain ⟨c, hc⟩ := h
  exact ⟨c, mem_append_left _ hc⟩

variable {call : SiteUnderway}

theorem ScanNoted.append {note : ScanAsk × AskStage} (h : ScanNoted U site k db log note call)
    (more : List (Happening (Txn.Action SiteCall) SiteNotice)) : ScanNoted U site k db (log ++ more) note call :=
  ⟨h.1, h.2.1.append more, h.2.2⟩

theorem OneScan.of_noted (h : OneScan U site k db₀ w g log) {calls : Dict Nat SiteUnderway}
    (hnoted : ∀ c call, calls.get c = some call →
      ScanNoted U site k w.db (log ++ Reactor.stepLog action []) (g' c) call) :
    OneScan U site k db₀ ⟨now, w.db, calls⟩ g' (log ++ Reactor.stepLog action []) := by
  refine ⟨h.known, fun scan hrow hunder => ?_, h.jobs, hnoted, fun name created hmem => ?_⟩
  · obtain ⟨hstatus, ask, hbegun, hmade⟩ := h.scans scan hrow hunder
    exact ⟨hstatus, ask, hbegun.append _, hmade⟩
  · exact h.told name created ((heard_before_or_now hmem).resolve_right not_mem_nil)

theorem OneScan.scan_stays (h : OneScan U site k db₀ w g log) (hc : w.calls.get c = some call) {row : SiteRow}
    (hrow : w.db.get (.scan id) = some row) :
    (call.view w.db).get (.scan id) = some row := by
  refine (get_overlay_of_not_mem fun o ho => ?_).trans hrow
  have hfree := (h.noted c call hc).2.2.scan_free ho
  cases hfree.symm.trans hrow

theorem OneScan.noted_commits (hs : w.Sound siteSchema) (h : OneScan U site k db₀ w g log) {c' : Nat}
    {call' : SiteUnderway} (hc : w.calls.get c = some call) (hc' : w.calls.get c' = some call') (hne : c ≠ c') :
    ScanNoted U site k (call.view w.db) log (g c') call' := by
  obtain ⟨hname, hbegun, hstage⟩ := h.noted c' call' hc'
  refine ⟨hname, hbegun, hstage.of_db (fun id o ho => ?_) fun id row hrow => h.scan_stays hc hrow⟩
  exact get_overlay_of_not_mem fun o' ho' => hs.only_writer hc hc' hne ho' ho

theorem StageOk.job (h : StageOk U site k ask db writes stage) {job : SiteScanJob}
    (hjob : (.job id, some (.job job)) ∈ writes) : ∃ scan, stage = .jobbed scan ∧ job.scanId = scan.id := by
  have haside : k.Aside site (.job id) (some (.job job)) → False := fun haside => haside.table.2 rfl
  cases stage with
  | asking => exact (haside (h _ _ hjob)).elim
  | inserted scan | queued scan => exact absurd rfl (h.2.2 _ _ hjob)
  | jobbed scan =>
    refine ⟨scan, rfl, ?_⟩
    rcases h.1.rest _ _ hjob with hkey | hkey | ⟨job', -, hrow, hscan⟩
    · exact (haside hkey).elim
    · cases hkey
    · cases hrow
      exact hscan
  | found scan | told scan created => exact (haside (h.1 _ _ hjob)).elim

theorem OneScan.jobs_commits (h : OneScan U site k db₀ w g log) (hc : w.calls.get c = some call) :
    ∀ job, QueuedSince db₀ (call.view w.db) job → (call.view w.db).get (.scan job.scanId) ≠ none ∧
      ∀ job', QueuedSince db₀ (call.view w.db) job' → job'.scanId = job.scanId → job' = job := by
  have hok := (h.noted c call hc).2.2
  have hsplit : ∀ job, QueuedSince db₀ (call.view w.db) job → QueuedSince db₀ w.db job ∨
      ∃ scan, (g c).2 = .jobbed scan ∧ (.job job.id, some (.job job)) ∈ call.writes ∧ job.scanId = scan.id := by
    rintro job ⟨hview, hnew⟩
    rcases mem_of_get_overlay hview with hw | ⟨hdb, -⟩
    · obtain ⟨scan, hjobbed, hscan⟩ := hok.job hw
      exact .inr ⟨scan, hjobbed, hw, hscan⟩
    · exact .inl ⟨hdb, hnew⟩
  -- A job that was there is of a scan that was there, and the scan of a job that is written was not.
  have hapart : ∀ {job job' : SiteScanJob} {scan : SiteScan}, QueuedSince db₀ w.db job → (g c).2 = .jobbed scan →
      job'.scanId = scan.id → job.scanId ≠ job'.scanId := by
    intro job job' scan hjob hjobbed hscan heq
    rw [hjobbed] at hok
    exact (h.jobs job hjob).1 (heq.trans hscan ▸ hok.1.free)
  intro job hjob
  rcases hsplit job hjob with hold | ⟨scan, hjobbed, hw, hscan⟩
  · obtain ⟨hthere, hone⟩ := h.jobs job hold
    refine ⟨?_, fun job' hjob' heq => ?_⟩
    · obtain ⟨row, hrow⟩ := ne_none_iff_exists'.1 hthere
      rw [h.scan_stays hc hrow]
      exact some_ne_none row
    · rcases hsplit job' hjob' with hold' | ⟨scan, hjobbed, -, hscan⟩
      · exact hone job' hold' heq
      · exact absurd heq.symm (hapart hold hjobbed hscan)
  · rw [hjobbed] at hok
    refine ⟨?_, fun job' hjob' heq => ?_⟩
    · rw [hscan, Call.view, hok.1.view]
      exact some_ne_none _
    · rcases hsplit job' hjob' with hold' | ⟨scan', -, hw', -⟩
      · exact absurd heq (hapart hold' hjobbed hscan)
      · have hkey := SiteKey.job.inj (hok.2.2 _ _ _ _ hw' hw rfl rfl)
        have hview : (call.view w.db).get (.job job.id) = some (.job job') := hkey ▸ hjob'.1
        cases hjob.1.symm.trans hview
        rfl

theorem OneScan.scans_commits (hs : w.Sound siteSchema) (h : OneScan U site k db₀ w g log)
    (hc : w.calls.get c = some call)
    (hstage : (g c).2 = .jobbed scan ∨ (g c).2 = .found scan) : ∀ row ∈ Coinslot.scans.rows (call.view w.db),
      k.has site row = true → row.progress.status ≠ .accepted ∧ ∃ ask, Begun k log ask ∧ MadeBy U site k ask row := by
  obtain ⟨-, hbegun, hok⟩ := h.noted c call hc
  intro row hrow hunder
  have hget : (call.view w.db).get (.scan row.id) = some (.scan row) := (Table.mem_rows (hs.view_fine hc)).1 hrow
  have hold : w.db.get (.scan row.id) = some (.scan row) →
      row.progress.status ≠ .accepted ∧ ∃ ask, Begun k log ask ∧ MadeBy U site k ask row :=
    fun hdb => h.scans row ((Table.mem_rows ⟨hs.keyed, hs.distinct⟩).2 hdb) hunder
  rcases hstage with hstage | hstage
  · rw [hstage] at hok
    obtain ⟨hwrites, hstatus, -⟩ := hok
    rcases mem_of_get_overlay hget with hw | ⟨hdb, -⟩
    · have hid : row.id = scan.id := by
        rcases hwrites.rest _ _ hw with haside | hkey | ⟨job, hkey, -⟩
        · exact absurd rfl haside.table.1
        · exact SiteKey.scan.inj hkey
        · cases hkey
      have hrow : (call.view w.db).get (.scan scan.id) = some (.scan row) := hid ▸ hget
      cases hrow.symm.trans hwrites.view
      exact ⟨hstatus, _, hbegun, hwrites.made⟩
    · exact hold hdb
  · rw [hstage] at hok
    exact hold ((hok.1.get_scan row.id).symm.trans hget)

/-- **A step** keeps what holds of the calls under a key. -/
theorem OneScan.step {out : List SiteNotice} (hs : w.Sound siteSchema) (h : OneScan U site k db₀ w g log)
    (hm : NotedMoves siteSchema (SiteCall.script U site) (scanConduct U site k) k.starts toldAnswer w g action w' g'
      out) : OneScan U site k db₀ w' g' (log ++ Reactor.stepLog action out) := by
  have hnoted : ∀ c call, w.calls.get c = some call →
      ScanNoted U site k w.db (log ++ Reactor.stepLog action []) (g c) call :=
    fun c call hc => (h.noted c call hc).append _
  cases hm with
  | passes ms => exact h.of_noted hnoted
  | @begins c name g₀ hfree hstarts =>
    refine h.of_noted (Txn.World.noted_goesOn hnoted ⟨hstarts.1, ⟨c, ?_⟩, ?_⟩)
    · rw [← hstarts.1]
      exact mem_append_right _ mem_cons_self
    · rw [hstarts.2]
      exact fun key o ho => absurd ho not_mem_nil
  | ends c => exact h.of_noted fun c' call' hc' => hnoted c' call' (Txn.World.get_of_ends hc')
  | @answers c call answer hc hpost =>
    obtain ⟨scan, created, hstage, rfl⟩ := hpost
    obtain ⟨hname, hbegun, hok⟩ := h.noted c call hc
    rw [hstage] at hok
    refine ⟨h.known, fun scan hrow hunder => ?_, h.jobs,
      fun c' call' hc' => (h.noted c' call' (Txn.World.get_of_ends hc')).append _, fun name created' hmem => ?_⟩
    · obtain ⟨hstatus, ask, hbegun, hmade⟩ := h.scans scan hrow hunder
      exact ⟨hstatus, ask, hbegun.append _, hmade⟩
    · rcases heard_before_or_now hmem with hmem | hmem
      · exact h.told name created' hmem
      · cases mem_singleton.1 hmem
        exact ⟨(g c).1, scan, hname, hok.2.1, hok.2.2.1, hok.2.2.2⟩
  | @reads c call hc script =>
    refine h.of_noted ?_
    rw [← Function.update_eq_self c g]
    exact Txn.World.noted_goesOn hnoted (hnoted c call hc)
  | @runs c call statement script writes rows g₁ hc hbarred houtcome hsees hdoes =>
    obtain ⟨hname, hbegun, hok⟩ := hnoted c call hc
    obtain ⟨hask, hstep⟩ := hdoes
    refine h.of_noted (Txn.World.noted_goesOn hnoted ⟨?_, ?_, ?_⟩)
    · rw [hask]
      exact hname
    · rw [hask]
      exact hbegun
    · rw [hask]
      exact hok.step hstep
  | @commits c call script g₁ hc hscript hsees hcommits =>
    obtain ⟨hname, hbegun, hok⟩ := h.noted c call hc
    obtain ⟨hask, scan, created, hstage, htold, hanswers⟩ := hcommits
    have hview : (call.view w.db).get (.scan scan.id) = some (.scan scan) := by
      refine hsees.2.1 scan ?_
      rcases hstage with hstage | hstage
      · rw [hstage]
        rfl
      · rw [hstage]
        rfl
    have hunder : k.has site scan = true := by
      rcases hstage with hstage | hstage
      · rw [hstage] at hok
        exact hok.1.made.under
      · rw [hstage] at hok
        exact hok.2.2
    refine ⟨hsees.1, fun row hrow hhas => ?_, h.jobs_commits hc, fun c' call' hc' => ?_, fun name created' hmem => ?_⟩
    · obtain ⟨hstatus, ask, hbegun, hmade⟩ := h.scans_commits hs hc hstage row hrow hhas
      exact ⟨hstatus, ask, hbegun.append _, hmade⟩
    · simp only [Txn.World.goesOn, Dict.get_set] at hc'
      split at hc'
      · next heq =>
        cases hc'
        rw [heq, Function.update_self]
        refine ⟨?_, ?_, ?_⟩
        · rw [hask]
          exact hname
        · rw [hask]
          exact hbegun.append _
        · rw [htold, hask]
          exact ⟨fun key o ho => absurd ho not_mem_nil, hview, hunder, hanswers⟩
      · next hne =>
        rw [Function.update_of_ne hne]
        exact (h.noted_commits hs hc hc' (Ne.symm hne)).append _
    · rcases heard_before_or_now hmem with hmem | hmem
      · obtain ⟨ask, scan', hcall, hget, hhas, hanswer⟩ := h.told name created' hmem
        exact ⟨ask, scan', hcall, h.scan_stays hc hget, hhas, hanswer⟩
      · cases mem_singleton.1 hmem

/-! ## The claim of a key -/

def opensScan (site : Site) (now : Int) (db : SiteDb) (scanId token : String) : Option SiteScan :=
  ((authorizeScan site scanId token).alone siteSchema now db []).1.join

theorem opensScan_of_answers (hfine : siteSchema.Fine db) {ask' : ScanAsk} {created : ScanCreation}
    (hscan : db.get (.scan scan.id) = some (.scan scan)) (hmade : MadeBy U site k ask scan)
    (hanswers : AnswersWith U site k ask' scan created) (hnow : now < scan.accessTokenExpiresAt) :
    opensScan site now db created.scanId created.accessToken = some scan := by
  have hfound : opensScan site now db created.scanId created.accessToken =
      (scans.found (fun _ row => row.id = created.scanId &&
        row.accessTokenHash = site.sha256 created.accessToken && now < row.accessTokenExpiresAt) db).head? := by
    rw [← Table.filterMap_map_into (t := scans) (scans.found _ db), ← Table.matching_holds]
    rfl
  rw [hfound]
  refine head?_eq_some_of ?_ fun row hrow => ?_
  · rw [Table.mem_found hfine, Bool.and_eq_true, Bool.and_eq_true, decide_eq_true_iff, decide_eq_true_iff,
      decide_eq_true_iff, hanswers.token]
    exact ⟨hscan, ⟨hanswers.scanId.symm, hmade.opens⟩, hnow⟩
  · rw [Table.mem_found hfine, Bool.and_eq_true, Bool.and_eq_true, decide_eq_true_iff, hanswers.scanId] at hrow
    obtain ⟨hget, ⟨hid, -⟩, -⟩ := hrow
    have hget : db.get (.scan scan.id) = some (.scan row) := hid ▸ hget
    cases hget.symm.trans hscan
    rfl

theorem conflict_iff (hsha : Function.Injective site.sha256) {first : ScanAsk}
    {created : ScanCreation} (hmade : MadeBy U site k first scan)
    (hanswers : AnswersWith U site k ask scan created) : created.conflict = true ↔ ask.asked U ≠ first.asked U := by
  obtain ⟨target, htarget, hbody⟩ := hmade.body
  obtain ⟨target', htarget', hconflict⟩ := hanswers.conflict
  rw [hconflict, hbody, Bool.not_eq_true', Bool.eq_false_iff, ne_eq, scanBodyMatches_iff hsha, ScanAsk.asked,
    ScanAsk.asked, htarget, htarget', map_some, map_some, ne_eq, Option.some.injEq, Prod.mk.injEq,
    Prod.mk.injEq, Prod.mk.injEq, not_iff_not]
  constructor
  · rintro ⟨hcanonical, hsegment, hvariant, hscheme⟩
    exact ⟨hcanonical.symm, hsegment.symm, hvariant.symm, hscheme.symm⟩
  · rintro ⟨hcanonical, hsegment, hvariant, hscheme⟩
    exact ⟨hcanonical.symm, hsegment.symm, hvariant.symm, hscheme.symm⟩

theorem ScanKey.one_scan (hfine : siteSchema.Fine db) {scan' : SiteScan} (hrow : scan ∈ scans.rows db)
    (hrow' : scan' ∈ scans.rows db) (hhas : k.has site scan = true) (hhas' : k.has site scan' = true) :
    scan = scan' := by
  rw [ScanKey.has, Bool.and_eq_true, decide_eq_true_iff, decide_eq_true_iff] at hhas hhas'
  refine Table.rows_inj_of_entry hfine hrow hrow'
    (e := .scansSessionIdempotency k.sessionId (site.idempotencyHash k.key)) ?_ ?_
  · rw [← hhas.1, ← hhas.2]
    exact mem_singleton_self _
  · rw [← hhas'.1, ← hhas'.2]
    exact mem_singleton_self _

/-- **A key stands for one scan.** Whatever calls of a visitor under a key do at once, from where no scan was asked
for under it: there is one scan at most, and one job for it at most; whoever is answered is answered with it, and
with a token that opens it until it expires, seven days after it was made; and is told of a conflict exactly where
they ask for something else than the call that made it. -/
theorem one_scan_for_a_key (U : UrlLib) (site : Site) (k : ScanKey) (hsha : Function.Injective site.sha256)
    (htoken : k.token ≠ "") (now : Int) {db : SiteDb} (hfine : siteSchema.Fine db) (hknown : k.Known site db)
    (hnew : ∀ scan ∈ scans.rows db, k.has site scan = false) (actions : List (Txn.Action SiteCall))
    (hmeets : (siteMachine U site).Meets (fun w action => k.asksOnly w action = true) (Txn.World.start now db)
      actions)
    {w : SiteWorld} (hw : (siteMachine U site).run (Txn.World.start now db) actions = w)
    {log : List (Happening (Txn.Action SiteCall) SiteNotice)}
    (hlog : (siteMachine U site).log (Txn.World.start now db) actions = log) :
    (∀ scan ∈ scans.rows w.db, ∀ scan' ∈ scans.rows w.db, k.has site scan = true → k.has site scan' = true →
      scan = scan') ∧
    (∀ job job', QueuedSince db w.db job → QueuedSince db w.db job' → job.scanId = job'.scanId → job = job') ∧
    (∀ ask created, .emitted (.answered (ScanAsk.call k.key k.token ask) (.scan created)) ∈ log →
      ∃ scan ∈ scans.rows w.db, k.has site scan = true) ∧
    ∀ scan ∈ scans.rows w.db, k.has site scan = true → ∃ first, Begun k log first ∧ scan.id = first.ids.scanId ∧
      scan.accessTokenExpiresAt = scan.acceptedAt + 7 * 86400000 ∧
      ∀ ask created, .emitted (.answered (ScanAsk.call k.key k.token ask) (.scan created)) ∈ log →
        created.scanId = scan.id ∧
        (∀ t, t < scan.accessTokenExpiresAt → opensScan site t w.db created.scanId created.accessToken = some scan) ∧
        (created.conflict = true ↔ ask.asked U ≠ first.asked U) := by
  subst hw hlog
  have hstart : OneScan U site k db (Txn.World.start now db) (fun _ => (⟨⟨"", .store, "", none⟩, false,
      ⟨⟨"", "", ""⟩, "", "", ⟨"", fun _ => ""⟩⟩⟩, .asking)) [] := by
    refine ⟨hknown, fun scan hrow hhas => ?_, fun job hjob => ?_, fun c call hc => ?_, fun name created hmem => ?_⟩
    · rw [hnew scan hrow] at hhas
      cases hhas
    · cases hjob.1.symm.trans hjob.2
    · cases hc
    · cases hmem
  obtain ⟨g, h, hs⟩ := Txn.World.log_keeps (P := OneScan U site k db) (fun w c name hA => begins_asking htoken hA)
    (fun hs h => h.counted hs) (fun hs h _ hm => h.step hs hm) (.start hfine) rfl hstart actions hmeets
  have hend : siteSchema.Fine ((siteMachine U site).run (Txn.World.start now db) actions).db :=
    ⟨hs.keyed, hs.distinct⟩
  have hasked : ∀ {ask ask' : ScanAsk}, ask.call k.key k.token = ask'.call k.key k.token →
      ask.asked U = ask'.asked U := by
    intro ask ask' hcall
    cases ask
    cases ask'
    cases hcall
    rfl
  refine ⟨fun scan hrow scan' hrow' => ScanKey.one_scan hend hrow hrow', fun job job' hjob hjob' heq => ?_,
    fun ask created hmem => ?_, fun scan hrow hhas => ?_⟩
  · exact ((h.jobs job hjob).2 job' hjob' heq.symm).symm
  · obtain ⟨ask', scan, -, hscan, hhas, -⟩ := h.told _ created hmem
    exact ⟨scan, (Table.mem_rows hend).2 hscan, hhas⟩
  · obtain ⟨-, first, hbegun, hmade⟩ := h.scans scan hrow hhas
    refine ⟨first, hbegun, hmade.id, hmade.expires, fun ask created hmem => ?_⟩
    obtain ⟨ask', scan', hcall, hscan', hhas', hanswers⟩ := h.told _ created hmem
    cases ScanKey.one_scan hend hrow ((Table.mem_rows hend).2 hscan') hhas hhas'
    refine ⟨hanswers.scanId, fun t ht => opensScan_of_answers hend hscan' hmade hanswers ht, ?_⟩
    rw [hasked hcall]
    exact conflict_iff hsha hmade hanswers

end

/-! ## A visitor who asks twice -/

def dailyKey : ScanKey := ⟨"key", "visitor", "visit"⟩

/-- The visitor's session, and what they agreed to. -/
def visitedDb : SiteDb :=
  (Dict.empty.set (.session "visit") (.session ⟨"visit", plainSite.anonymousHash "visitor", 0, .none, .none,
    some "consent"⟩)).set (.consent "consent") (.consent ⟨"consent", "visit", "phase-a-v1", none,
      ⟨some true, none, none, none, none, none⟩, 0, "landing"⟩)

theorem visited_fine : siteSchema.Fine visitedDb := Schema.fine_of_entries (by decide +kernel) (by decide +kernel)

/-- A request for example's home page. -/
def asksFor (segment : Segment) (drawn : String) : ScanAsk where
  body := ⟨"https://example.com/", segment, "plain", none⟩
  submittedWithoutScheme := false
  ids := ⟨⟨"new", "new", "new"⟩, "scan-" ++ drawn, "job-" ++ drawn, ⟨"event-" ++ drawn, fun _ => "told-" ++ drawn⟩⟩

/-- Two calls at once, the second of which asks for something else. -/
def asksTwice : List (Txn.Action SiteCall) :=
  [.begins 0 ((asksFor .store "a").call "key" "visitor"), .begins 1 ((asksFor .owner "b").call "key" "visitor"),
      .goes 0, .goes 1] ++ List.replicate 40 (.goes 0) ++ List.replicate 20 (.goes 1)

/-- Whether somebody is answered with a scan, and told of a conflict or not. -/
def isAnsweredWith (scanId : String) (conflict : Bool) : Happening (Txn.Action SiteCall) SiteNotice → Bool
  | .emitted (.answered _ (.scan created)) => created.scanId = scanId && created.conflict = conflict
  | _ => false

theorem plain_sha256_injective : Function.Injective plainSite.sha256 := fun a b h => by
  have h : "sha256:" ++ a = "sha256:" ++ b := h
  have hlist := congrArg String.toList h
  rw [String.toList_append, String.toList_append] at hlist
  exact String.toList_inj.1 (append_cancel_left hlist)

theorem visited_new : ∀ scan ∈ scans.rows visitedDb, dailyKey.has plainSite scan = false := by
  intro scan hscan
  have hnone : scans.rows visitedDb = [] := rfl
  exact absurd hscan not_mem_nil

/-- The first call makes the scan, and the second is told of a conflict with it. -/
theorem visitor_asks_twice :
    ((siteMachine examplePlatform plainSite).log (Txn.World.start 0 visitedDb) asksTwice).any
        (isAnsweredWith "scan-a" true) = true ∧
      ∀ scan ∈ scans.rows ((siteMachine examplePlatform plainSite).run (Txn.World.start 0 visitedDb) asksTwice).db,
        dailyKey.has plainSite scan = true → ∃ first : ScanAsk, scan.id = first.ids.scanId := by
  have hmeets : (siteMachine examplePlatform plainSite).Meets (fun w action => dailyKey.asksOnly w action = true)
      (Txn.World.start 0 visitedDb) asksTwice := by decide +kernel
  have hknown : dailyKey.Known plainSite visitedDb := ⟨_, rfl, rfl, rfl⟩
  have hone := one_scan_for_a_key examplePlatform plainSite dailyKey plain_sha256_injective (by decide) 0
    visited_fine hknown visited_new asksTwice hmeets rfl rfl
  refine ⟨by decide +kernel, fun scan hrow hhas => ?_⟩
  obtain ⟨first, -, hid, -⟩ := hone.2.2.2 scan hrow hhas
  exact ⟨first, hid⟩

/-- A visitor asks again for the same a week later. -/
def asksLate : List (Txn.Action SiteCall) :=
  .begins 0 ((asksFor .store "a").call "key" "visitor") :: List.replicate 40 (.goes 0) ++
    .passes (8 * 86400000) :: .begins 1 ((asksFor .store "b").call "key" "visitor") :: List.replicate 6 (.goes 1)

/-- Whether a call answers next with a token that opens nothing. -/
def answersShut (w : SiteWorld) (c : Nat) : Bool :=
  match (siteMachine examplePlatform plainSite).react w (.goes c) with
  | .ok (w', [.answered (.createOrReplayScan _ key token _ _) (.scan created)]) =>
    key = "key" && token = some "visitor" &&
      (opensScan plainSite w'.now w'.db created.scanId created.accessToken).isNone
  | _ => false

/-- A week after the scan was made its token opens it no more, and a call is answered with it all the same. -/
theorem late_answer_opens_nothing : ¬ ∀ (U : UrlLib) (site : Site) (k : ScanKey), Function.Injective site.sha256 →
    k.token ≠ "" → ∀ (now : Int) (db : SiteDb), siteSchema.Fine db → k.Known site db →
    (∀ scan ∈ scans.rows db, k.has site scan = false) → ∀ actions : List (Txn.Action SiteCall),
    (siteMachine U site).Meets (fun w action => k.asksOnly w action = true) (Txn.World.start now db) actions →
    ∀ (c : Nat) (w' : SiteWorld) (ask : ScanAsk) (created : ScanCreation),
      (siteMachine U site).react ((siteMachine U site).run (Txn.World.start now db) actions) (.goes c) =
        .ok (w', [.answered (ask.call k.key k.token) (.scan created)]) →
      (opensScan site w'.now w'.db created.scanId created.accessToken).isSome = true := by
  intro h
  have hmeets : (siteMachine examplePlatform plainSite).Meets (fun w action => dailyKey.asksOnly w action = true)
      (Txn.World.start 0 visitedDb) asksLate := by decide +kernel
  have hknown : dailyKey.Known plainSite visitedDb := ⟨_, rfl, rfl, rfl⟩
  have hshut : answersShut ((siteMachine examplePlatform plainSite).run (Txn.World.start 0 visitedDb) asksLate) 1 =
      true := by decide +kernel
  unfold answersShut at hshut
  split at hshut
  · next w' body key token scheme ids created hreact =>
    rw [Bool.and_eq_true, Bool.and_eq_true, decide_eq_true_iff, decide_eq_true_iff] at hshut
    obtain ⟨⟨rfl, rfl⟩, hnone⟩ := hshut
    have hopens := h examplePlatform plainSite dailyKey plain_sha256_injective (by decide) 0 visitedDb visited_fine
      hknown visited_new asksLate hmeets 1 w' ⟨body, scheme, ids⟩ created hreact
    rw [Option.isNone_iff_eq_none] at hnone
    rw [hnone] at hopens
    cases hopens
  · cases hshut

end Coinslot
