import Coinslot.Lib.JsonText
import Coinslot.Scanner.Urls
import Coinslot.Web.Consents

/-!
# Requests for scans

A visitor asks for the scan of a page, under a key of their own, and asking again under the key is answered with
the same scan (`createOrReplayScan`, `apps/web/lib/server/scans.ts`). A scan is queued with its job in the
transaction that makes it (`apps/web/lib/server/queue.ts`).
-/

namespace Coinslot

open Txn JsonText

/-- A segment, as it is written. -/
def Segment.text : Segment → String
  | store => "store"
  | owner => "owner"
  | localBusiness => "local"

/-- What a visitor asks for. -/
structure CreateScanRequest where
  url : String
  segment : Segment
  landingVariant : String
  turnstileToken : Option String
  deriving DecidableEq, Repr

/-- The page that is asked for, without its query, and its host. -/
structure SubmittedUrl where
  canonical : String
  redacted : String
  host : String
  deriving DecidableEq, Repr

/-- What is taken for the page that is asked for, if one is. -/
def canonicalizeSubmittedUrl (U : UrlLib) (value : String) : Option SubmittedUrl :=
  match U.canonicalizeTarget value with
  | .error _ => none
  | .ok url => some ⟨url.text, { url with search := "" }.text, url.hostname⟩

/-- A request, as it is digested. -/
def scanBodyText (canonical : String) (body : CreateScanRequest) (submittedWithoutScheme : Bool) : List Char :=
  "\x7b\"url\":".toList ++ jsonQuoted canonical ++ ",\"segment\":".toList ++ jsonQuoted body.segment.text ++
    ",\"landing_variant\":".toList ++ jsonQuoted body.landingVariant ++ ",\"submitted_without_scheme\":".toList ++
    (if submittedWithoutScheme then "true\x7d" else "false\x7d").toList

/-- A request, as it was digested before a text without a scheme was told from one with it. -/
def legacyScanBodyText (canonical : String) (body : CreateScanRequest) : List Char :=
  "\x7b\"url\":".toList ++ jsonQuoted canonical ++ ",\"segment\":".toList ++ jsonQuoted body.segment.text ++
    ",\"landing_variant\":".toList ++ jsonQuoted body.landingVariant ++ "\x7d".toList

namespace Site

variable (site : Site) (canonical : String) (body : CreateScanRequest) (submittedWithoutScheme : Bool)

def scanBodyHash : String := site.sha256 (String.ofList (scanBodyText canonical body submittedWithoutScheme))

/-- The digest of a request, as it used to be. -/
def legacyScanBodyHash : String := site.sha256 (String.ofList (legacyScanBodyText canonical body))

/-- Whether a request is the one whose digest is stored. -/
def scanBodyMatches (storedHash : String) : Bool :=
  storedHash = site.scanBodyHash canonical body submittedWithoutScheme ||
    !submittedWithoutScheme && storedHash = site.legacyScanBodyHash canonical body

def idempotencyHash (idempotencyKey : String) : String := site.hmacHex ["idempotency", idempotencyKey]

/-- What opens a scan that was asked for in a session under a key. -/
def scanAccessToken (sessionId idempotencyHash : String) : String :=
  site.deriveCapability ["scan-access", sessionId, idempotencyHash]

end Site

/-- What is drawn for a scan. -/
structure ScanIds where
  session : SessionIds
  scanId : String
  jobId : String
  event : EventIds

/-- What is answered to a request. -/
structure ScanCreation where
  scanId : String
  accessToken : String
  anonymousToken : Option String
  conflict : Bool
  deriving DecidableEq, Repr

/-- Queues a scan that was accepted, with its job, and says whether it did. -/
def enqueueScanInTransaction (scanId canonicalTargetUrl : String) (submittedWithoutScheme : Bool)
    (segment : Segment) (jobId : String) : SiteScript Bool := do
  let now ← Script.clock
  let transitioned ← scans.update (fun row => row.id = scanId && row.progress.status = .accepted) fun row =>
    { row with progress := { row.progress with status := .queued, queuedAt := some now } }
  match transitioned.head? with
  | none => pure false
  | some _ => do
    let now ← Script.clock
    scanJobs.insert
      ⟨jobId, scanId, canonicalTargetUrl, submittedWithoutScheme, segment, scanRubricVersion, now + 55000, 1⟩
    pure true

def acceptedScan : ScanRow :=
  ⟨.accepted, 1, none, none, none, none, none, none, none, none, none, false, none, none⟩

/-- The session that a request is made in, which is new where the visitor has none. -/
def sessionOfRequest (site : Site) (body : CreateScanRequest) (anonymousToken : Option String) (ids : SessionIds) :
    SiteScript (Option SiteSession × Option String) := do
  let known ← findSession site anonymousToken
  match known with
  | some session => pure (some session, none)
  | none => do
    let now ← Script.clock
    let landed := { Touch.none with landingVariant := some body.landingVariant }
    sessions.insert ⟨ids.sessionId, site.anonymousHash ids.anonymousToken, now, landed, landed, none⟩
    consentSnapshots.insert (landingConsent ids.consentId ids.sessionId "scan_submit" "phase-a-v1" now)
    let _ ← sessions.update (·.id = ids.sessionId) fun row => { row with consentSnapshotId := some ids.consentId }
    let session ← sessions.selectOne (·.id = ids.sessionId)
    pure (session, some ids.anonymousToken)

/-- Answers with the scan that was asked for under a key, which it queues again where it was not queued. -/
def replayScan (site : Site) (target : SubmittedUrl) (body : CreateScanRequest) (submittedWithoutScheme : Bool)
    (existing : SiteScan) (accessToken : String) (newAnonymousToken : Option String) (jobId : String) :
    SiteScript ScanCreation := do
  let conflict := !site.scanBodyMatches target.canonical body submittedWithoutScheme existing.idempotencyBodyHash
  if !conflict && existing.progress.status = .accepted then do
    let _ ← enqueueScanInTransaction existing.id existing.canonicalTargetUrl existing.submittedWithoutScheme
      existing.segment jobId
    pure ⟨existing.id, accessToken, newAnonymousToken, conflict⟩
  else pure ⟨existing.id, accessToken, newAnonymousToken, conflict⟩

/-- Makes a scan, and queues it. -/
def createScan (site : Site) (target : SubmittedUrl) (body : CreateScanRequest) (submittedWithoutScheme : Bool)
    (sessionId consentSnapshotId idempotencyHash accessToken : String) (newAnonymousToken : Option String)
    (ids : ScanIds) : SiteScript ScanCreation := do
  let now ← Script.clock
  scans.insert
    { id := ids.scanId
      sessionId := sessionId
      leadId := none
      segment := body.segment
      rubricVersion := scanRubricVersion
      submittedUrlRedacted := target.redacted
      canonicalTargetUrl := target.canonical
      submittedWithoutScheme := submittedWithoutScheme
      targetHost := target.host
      targetHash := site.hmacHex ["target", target.canonical]
      acceptedAt := now
      progress := acceptedScan
      accessTokenHash := site.sha256 accessToken
      accessTokenExpiresAt := now + 7 * 86400000
      idempotencyKeyHash := idempotencyHash
      idempotencyBodyHash := site.scanBodyHash target.canonical body submittedWithoutScheme }
  let _ ← emitStoredBusinessEvent site ids.event
    { name := .scanStarted
      identifiers := [ids.scanId]
      sessionId := sessionId
      consentSnapshotId := consentSnapshotId
      leadId := none
      scanId := some ids.scanId
      segment := body.segment
      landingVariant := body.landingVariant
      occurredAt := none }
  let _ ← enqueueScanInTransaction ids.scanId target.canonical submittedWithoutScheme body.segment ids.jobId
  pure ⟨ids.scanId, accessToken, newAnonymousToken, false⟩

/-- Makes the scan that is asked for under a key, or answers with the one that was made. -/
def createOrReplayScan (U : UrlLib) (site : Site) (body : CreateScanRequest) (idempotencyKey : String)
    (anonymousToken : Option String) (submittedWithoutScheme : Bool) (ids : ScanIds) : SiteScript ScanCreation :=
  match canonicalizeSubmittedUrl U body.url with
  | none => .fails
  | some target => Script.transaction do
    let (session, newAnonymousToken) ← sessionOfRequest site body anonymousToken ids.session
    match session, session.bind (·.consentSnapshotId) with
    | some session, some consentSnapshotId => do
      let idempotencyHash := site.idempotencyHash idempotencyKey
      let _ ← Script.run (.lock (.advisory (site.hashtextextended (session.id ++ ":" ++ idempotencyHash))))
      let now ← Script.clock
      let _ ← sessions.update (·.id = session.id) fun row =>
        { row with
          first := { row.first with landingVariant := some (session.first.landingVariant.getD body.landingVariant) }
          last := { row.last with landingVariant := some body.landingVariant }
          lastSeenAt := now }
      let existing ← scans.selectOne fun row =>
        row.sessionId = session.id && row.idempotencyKeyHash = idempotencyHash
      let accessToken := site.scanAccessToken session.id idempotencyHash
      match existing with
      | some existing =>
        replayScan site target body submittedWithoutScheme existing accessToken newAnonymousToken ids.jobId
      | none =>
        createScan site target body submittedWithoutScheme session.id consentSnapshotId idempotencyHash accessToken
          newAnonymousToken ids
    | _, _ => .fails

/-- The scan that a token opens. -/
def authorizeScan (site : Site) (scanId token : String) : SiteScript (Option SiteScan) := do
  let now ← Script.clock
  scans.selectOne fun row =>
    row.id = scanId && row.accessTokenHash = site.sha256 token && now < row.accessTokenExpiresAt

end Coinslot
