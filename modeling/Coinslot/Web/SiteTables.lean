import Coinslot.Lib.TableScripts
import Coinslot.Scanner.Scans
import Coinslot.Scanner.Observations
import Coinslot.Scanner.Outbox

/-!
# The tables of the site

The rows of the site's database (`packages/scanner-database/src/schema.ts`), with the keys they are under, their
entries in unique indexes and the rows they name. The columns are those that the operations on them read or
write. Texts stand for the identifiers, instants are in milliseconds.
-/

namespace Coinslot

open Txn

/-- What a visitor came by: the page they landed on, and what its address said. -/
structure Touch where
  landingVariant : Option String
  utmSource : Option String
  utmMedium : Option String
  utmCampaign : Option String
  utmContent : Option String
  utmTerm : Option String
  fbclidHash : Option String
  deriving DecidableEq, Repr

def Touch.none : Touch := ⟨.none, .none, .none, .none, .none, .none, .none⟩

/-- What somebody agreed to, as far as it is written down. -/
structure ConsentCategories where
  essentialProcessing : Option Bool
  productAnalytics : Option Bool
  adsMeasurement : Option Bool
  marketingEmail : Option Bool
  datasetReuse : Option Bool
  cardSignal : Option Bool
  deriving DecidableEq, Repr

/-- A visitor's session. -/
structure SiteSession where
  id : String
  anonymousIdHash : String
  lastSeenAt : Int
  first : Touch
  last : Touch
  consentSnapshotId : Option String
  deriving DecidableEq, Repr

/-- What was agreed to at one moment. -/
structure ConsentSnapshot where
  id : String
  sessionId : String
  policyVersion : String
  country : Option String
  categories : ConsentCategories
  capturedAt : Int
  source : String
  deriving DecidableEq, Repr

/-- Somebody who left an address. -/
structure Lead where
  id : String
  supabaseUserId : Option String
  emailNormalizedCiphertext : String
  emailLookupHash : String
  phoneE164Ciphertext : Option String
  phoneLookupHash : Option String
  role : String
  name : Option String
  volumeBucket : Option String
  verifiedAt : Option Int
  createdAt : Int
  unsubscribedAt : Option Int
  deletionRequestedAt : Option Int
  anonymizedAt : Option Int
  dataAccessRequestedAt : Option Int
  firstSegment : Segment
  firstSessionId : String
  deriving DecidableEq, Repr

/-- A scan. -/
structure SiteScan where
  id : String
  sessionId : String
  leadId : Option String
  segment : Segment
  rubricVersion : String
  submittedUrlRedacted : String
  canonicalTargetUrl : String
  submittedWithoutScheme : Bool
  targetHost : String
  targetHash : String
  acceptedAt : Int
  progress : ScanRow
  accessTokenHash : String
  accessTokenExpiresAt : Int
  idempotencyKeyHash : String
  idempotencyBodyHash : String
  deriving DecidableEq

/-- A registration that waits for its visitor to come back from their mailbox. -/
structure RegistrationIntent where
  id : String
  scanId : String
  sessionId : String
  callbackStateHash : String
  emailNormalizedCiphertext : String
  emailLookupHash : String
  phoneE164Ciphertext : String
  phoneLookupHash : String
  partnerClickIdCiphertext : Option String
  role : String
  siteOwnershipClaim : Bool
  marketingEmailOptIn : Bool
  datasetReuseAcknowledged : Bool
  expiresAt : Int
  consumedAt : Option Int
  deriving DecidableEq, Repr

/-- A check of a scan. -/
structure SiteCheck where
  scanId : String
  result : CheckResult
  finishedAt : Option Int
  deriving DecidableEq, Repr

/-- An evaluation that is kept for other scans of the same site. -/
structure SiteSnapshot where
  id : String
  cacheKey : String
  rubricVersion : String
  segmentProfile : Segment
  canonicalTargetUrl : String
  evaluation : ScanEvaluation
  expiresAt : Int
  invalidatedAt : Option Int
  deriving DecidableEq

/-- What a browser made of the site of a scan. What was measured, and what was found, are texts. -/
structure SiteObservation where
  id : String
  scanId : String
  observationVersion : String
  operationId : String
  operationKey : String
  status : ObservationStatus
  leaseToken : Option String
  pagesAssessed : Nat
  failureCode : Option String
  signals : Option String
  updatedAt : Int
  deriving DecidableEq, Repr

/-- One thing a browser found. -/
structure SiteFinding where
  observationId : String
  findingId : String
  status : String
  summaryCode : String
  userImpactCode : Option String
  remediationCode : Option String
  evidence : List (String × EvidenceValue)
  deriving DecidableEq, Repr

/-- That a scan is a lead's. -/
structure LeadScan where
  leadId : String
  scanId : String
  siteOwnershipClaim : Bool
  deriving DecidableEq, Repr

/-- A token that was sent to an address, to be brought back. -/
structure VerificationToken where
  id : String
  leadId : String
  scanId : String
  tokenHash : String
  expiresAt : Int
  usedAt : Option Int
  deriving DecidableEq, Repr

/-- A session that opens a lead's reports. -/
structure ReportSession where
  id : String
  leadId : String
  sessionTokenHash : String
  expiresAt : Int
  revokedAt : Option Int
  lastSeenAt : Int
  deriving DecidableEq, Repr

/-- A lead's place in the queue, with what they answered there. -/
structure WaitlistEntry where
  id : String
  leadId : String
  scanId : String
  position : Nat
  painAnswer : Option String
  deriving DecidableEq, Repr

/-- What a published share shows. -/
structure PublicShareSnapshot where
  host : String
  score : Int
  level : DiagnosticLevel
  rubricVersion : String
  generatedAt : Int
  deriving DecidableEq, Repr

/-- A scan's result, shared. A share that was anonymised shows nothing. -/
structure ScanShare where
  id : String
  scanId : String
  shareSlugHash : String
  published : Bool
  revokedAt : Option Int
  allowIndexing : Bool
  publicSnapshot : Option PublicShareSnapshot
  deriving DecidableEq, Repr

/-- A lead's card, as far as it was registered. -/
structure LeadPaymentSignal where
  id : String
  leadId : String
  setupIntentId : String
  consentSnapshotId : String
  deriving DecidableEq, Repr

/-- What happened (`AnalyticsEventName`). -/
inductive AnalyticsEventName where
  | landingView
  | scanStarted
  | scanCompleted
  | resultsViewed
  | registrationStarted
  | registrationCompleted
  | waitlistQuestionAnswered
  | cardAttached
  | resultShared
  deriving DecidableEq, Repr

/-- An event. -/
structure AnalyticsEvent where
  eventId : String
  onceKey : Option String
  name : AnalyticsEventName
  occurredAt : Int
  sessionId : String
  leadId : Option String
  scanId : Option String
  segment : Segment
  landingVariant : String
  consentSnapshotId : String
  deriving DecidableEq, Repr

/-- What the outbox says of an event to a destination: the click that a registration came from, or the event. -/
inductive DeliveryPayload where
  | partnerRegistration (clickid : String)
  | event (eventId : String) (name : AnalyticsEventName)
  deriving DecidableEq, Repr

/-- A row of the outbox. -/
structure DeliveryOutbox where
  id : String
  eventId : String
  destination : DeliveryDestination
  payload : DeliveryPayload
  deriving DecidableEq, Repr

/-- A job that has a scan made (`ScanJobV1`). -/
structure SiteScanJob where
  id : String
  scanId : String
  canonicalTargetUrl : String
  submittedWithoutScheme : Bool
  segment : Segment
  rubricVersion : String
  deadlineAt : Int
  attemptNo : Nat
  deriving DecidableEq, Repr

/-- A row. -/
inductive SiteRow where
  | session (row : SiteSession)
  | consent (row : ConsentSnapshot)
  | lead (row : Lead)
  | scan (row : SiteScan)
  | intent (row : RegistrationIntent)
  | check (row : SiteCheck)
  | snapshot (row : SiteSnapshot)
  | observation (row : SiteObservation)
  | finding (row : SiteFinding)
  | leadScan (row : LeadScan)
  | token (row : VerificationToken)
  | reportSession (row : ReportSession)
  | waitlist (row : WaitlistEntry)
  | share (row : ScanShare)
  | payment (row : LeadPaymentSignal)
  | event (row : AnalyticsEvent)
  | delivery (row : DeliveryOutbox)
  | job (row : SiteScanJob)
  deriving DecidableEq

/-- The key of a row, in its table. -/
inductive SiteKey where
  | session (id : String)
  | consent (id : String)
  | lead (id : String)
  | scan (id : String)
  | intent (id : String)
  | check (scanId : String) (checkId : Nat)
  | snapshot (id : String)
  | observation (id : String)
  | finding (observationId findingId : String)
  | leadScan (leadId scanId : String)
  | token (id : String)
  | reportSession (id : String)
  | waitlist (id : String)
  | share (id : String)
  | payment (id : String)
  | event (eventId : String)
  | delivery (id : String)
  | job (id : String)
  deriving DecidableEq, Repr

/-- An entry of a unique index, or what an advisory lock is on. -/
inductive SiteEntry where
  | sessionsAnonymousIdHash (hash : String)
  | leadsEmailLookupHash (hash : String)
  | leadsSupabaseUserId (id : String)
  | scansSessionIdempotency (sessionId keyHash : String)
  | intentsCallbackState (hash : String)
  | intentsActiveScanEmail (scanId emailLookupHash : String)
  | snapshotsCacheKey (cacheKey : String)
  | observationsOperationKey (operationKey : String)
  | observationsOperationId (operationId : String)
  | observationsScanVersion (scanId observationVersion : String)
  | tokensTokenHash (hash : String)
  | tokensActivePair (leadId scanId : String)
  | reportSessionsTokenHash (hash : String)
  | waitlistLeadScan (leadId scanId : String)
  | waitlistPosition (position : Nat)
  | sharesSlugHash (hash : String)
  | sharesOneActive (scanId : String)
  | paymentsSetupIntent (setupIntentId : String)
  | eventsOnceKey (onceKey : String)
  | eventsRegistrationBusiness (leadId scanId : String)
  | outboxEventDestination (eventId : String) (destination : DeliveryDestination)
  | advisory (key : String)
  deriving DecidableEq, Repr

namespace SiteRow

/-- The key of a row. -/
def key : SiteRow → SiteKey
  | session row => .session row.id
  | consent row => .consent row.id
  | lead row => .lead row.id
  | scan row => .scan row.id
  | intent row => .intent row.id
  | check row => .check row.scanId row.result.id
  | snapshot row => .snapshot row.id
  | observation row => .observation row.id
  | finding row => .finding row.observationId row.findingId
  | leadScan row => .leadScan row.leadId row.scanId
  | token row => .token row.id
  | reportSession row => .reportSession row.id
  | waitlist row => .waitlist row.id
  | share row => .share row.id
  | payment row => .payment row.id
  | event row => .event row.eventId
  | delivery row => .delivery row.id
  | job row => .job row.id

/-- The entries of a row in unique indexes. -/
def entries : SiteRow → List SiteEntry
  | session row => [.sessionsAnonymousIdHash row.anonymousIdHash]
  | lead row => .leadsEmailLookupHash row.emailLookupHash :: row.supabaseUserId.toList.map .leadsSupabaseUserId
  | scan row => [.scansSessionIdempotency row.sessionId row.idempotencyKeyHash]
  | intent row => .intentsCallbackState row.callbackStateHash ::
      if row.consumedAt.isNone then [.intentsActiveScanEmail row.scanId row.emailLookupHash] else []
  | snapshot row => [.snapshotsCacheKey row.cacheKey]
  | observation row => [.observationsOperationKey row.operationKey, .observationsOperationId row.operationId,
      .observationsScanVersion row.scanId row.observationVersion]
  | token row => .tokensTokenHash row.tokenHash ::
      if row.usedAt.isNone then [.tokensActivePair row.leadId row.scanId] else []
  | reportSession row => [.reportSessionsTokenHash row.sessionTokenHash]
  | waitlist row => [.waitlistLeadScan row.leadId row.scanId, .waitlistPosition row.position]
  | share row => .sharesSlugHash row.shareSlugHash ::
      if row.published then [.sharesOneActive row.scanId] else []
  | payment row => [.paymentsSetupIntent row.setupIntentId]
  | event row => row.onceKey.toList.map .eventsOnceKey ++
      match row.name, row.leadId, row.scanId with
      | .registrationCompleted, some leadId, some scanId => [.eventsRegistrationBusiness leadId scanId]
      | _, _, _ => []
  | delivery row => [.outboxEventDestination row.eventId row.destination]
  | consent _ | check _ | finding _ | leadScan _ | job _ => []

/-- The rows a row names. -/
def references : SiteRow → List SiteKey
  | consent row => [.session row.sessionId]
  | lead row => [.session row.firstSessionId]
  | scan row => .session row.sessionId :: row.leadId.toList.map .lead ++ row.progress.sourceScanId.toList.map .scan
  | intent row => [.scan row.scanId, .session row.sessionId]
  | check row => [.scan row.scanId]
  | observation row => [.scan row.scanId]
  | finding row => [.observation row.observationId]
  | leadScan row => [.lead row.leadId, .scan row.scanId]
  | token row => [.lead row.leadId, .scan row.scanId]
  | reportSession row => [.lead row.leadId]
  | waitlist row => [.lead row.leadId, .scan row.scanId]
  | share row => [.scan row.scanId]
  | payment row => [.lead row.leadId, .consent row.consentSnapshotId]
  | event row => .session row.sessionId :: .consent row.consentSnapshotId ::
      (row.leadId.toList.map .lead ++ row.scanId.toList.map .scan)
  | delivery row => [.event row.eventId]
  | session _ | snapshot _ | job _ => []

end SiteRow

def siteSchema : Schema SiteKey SiteEntry SiteRow := ⟨SiteRow.key, SiteRow.entries, SiteRow.references⟩

abbrev SiteDb := Dict SiteKey SiteRow

abbrev SiteScript := Script SiteKey SiteEntry SiteRow

/-! ## The tables -/

def sessions : Table SiteRow SiteSession where
  into := .session
  outOf | .session row => some row | _ => none
  outOf_into _ := rfl
  into_of_outOf {row r} h := by cases row <;> cases h; rfl

def consentSnapshots : Table SiteRow ConsentSnapshot where
  into := .consent
  outOf | .consent row => some row | _ => none
  outOf_into _ := rfl
  into_of_outOf {row r} h := by cases row <;> cases h; rfl

def leads : Table SiteRow Lead where
  into := .lead
  outOf | .lead row => some row | _ => none
  outOf_into _ := rfl
  into_of_outOf {row r} h := by cases row <;> cases h; rfl

def scans : Table SiteRow SiteScan where
  into := .scan
  outOf | .scan row => some row | _ => none
  outOf_into _ := rfl
  into_of_outOf {row r} h := by cases row <;> cases h; rfl

def registrationIntents : Table SiteRow RegistrationIntent where
  into := .intent
  outOf | .intent row => some row | _ => none
  outOf_into _ := rfl
  into_of_outOf {row r} h := by cases row <;> cases h; rfl

def scanChecks : Table SiteRow SiteCheck where
  into := .check
  outOf | .check row => some row | _ => none
  outOf_into _ := rfl
  into_of_outOf {row r} h := by cases row <;> cases h; rfl

def scanSnapshots : Table SiteRow SiteSnapshot where
  into := .snapshot
  outOf | .snapshot row => some row | _ => none
  outOf_into _ := rfl
  into_of_outOf {row r} h := by cases row <;> cases h; rfl

def browserObservations : Table SiteRow SiteObservation where
  into := .observation
  outOf | .observation row => some row | _ => none
  outOf_into _ := rfl
  into_of_outOf {row r} h := by cases row <;> cases h; rfl

def browserObservationFindings : Table SiteRow SiteFinding where
  into := .finding
  outOf | .finding row => some row | _ => none
  outOf_into _ := rfl
  into_of_outOf {row r} h := by cases row <;> cases h; rfl

def leadScans : Table SiteRow LeadScan where
  into := .leadScan
  outOf | .leadScan row => some row | _ => none
  outOf_into _ := rfl
  into_of_outOf {row r} h := by cases row <;> cases h; rfl

def verificationTokens : Table SiteRow VerificationToken where
  into := .token
  outOf | .token row => some row | _ => none
  outOf_into _ := rfl
  into_of_outOf {row r} h := by cases row <;> cases h; rfl

def reportSessions : Table SiteRow ReportSession where
  into := .reportSession
  outOf | .reportSession row => some row | _ => none
  outOf_into _ := rfl
  into_of_outOf {row r} h := by cases row <;> cases h; rfl

def waitlistEntries : Table SiteRow WaitlistEntry where
  into := .waitlist
  outOf | .waitlist row => some row | _ => none
  outOf_into _ := rfl
  into_of_outOf {row r} h := by cases row <;> cases h; rfl

def scanShares : Table SiteRow ScanShare where
  into := .share
  outOf | .share row => some row | _ => none
  outOf_into _ := rfl
  into_of_outOf {row r} h := by cases row <;> cases h; rfl

def paymentSignals : Table SiteRow LeadPaymentSignal where
  into := .payment
  outOf | .payment row => some row | _ => none
  outOf_into _ := rfl
  into_of_outOf {row r} h := by cases row <;> cases h; rfl

def analyticsEvents : Table SiteRow AnalyticsEvent where
  into := .event
  outOf | .event row => some row | _ => none
  outOf_into _ := rfl
  into_of_outOf {row r} h := by cases row <;> cases h; rfl

def deliveryOutbox : Table SiteRow DeliveryOutbox where
  into := .delivery
  outOf | .delivery row => some row | _ => none
  outOf_into _ := rfl
  into_of_outOf {row r} h := by cases row <;> cases h; rfl

def scanJobs : Table SiteRow SiteScanJob where
  into := .job
  outOf | .job row => some row | _ => none
  outOf_into _ := rfl
  into_of_outOf {row r} h := by cases row <;> cases h; rfl

end Coinslot
