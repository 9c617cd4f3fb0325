import Coinslot.Web.SiteTables

/-!
# Erasure

What takes personal data out of the database again (`packages/scanner-database/src/privacy-cleanup.ts`): a lead
is anonymised with all that is theirs (`anonymizeLeadData`), and a cleanup deletes what has been kept long
enough and anonymises the leads that never verified their address (`runRetentionCleanup`). Between the leads
that it lists and each of them it has the site's providers detach what they keep, which may fail and end it.
-/

namespace Coinslot

open Txn

def verificationTokenRetentionMs : Int := 7 * 86400000

def registrationIntentRetentionMs : Int := 7 * 86400000

def unverifiedLeadRetentionMs : Int := 30 * 86400000

def anonymizedEvidence : List (String × EvidenceValue) := [("anonymized", .flag true)]

/-- What was answered to an erasure. -/
inductive AnonymizedStatus where
  | notFound
  | alreadyAnonymized
  | anonymized
  deriving DecidableEq, Repr

/-- A lead that was anonymised. -/
def Lead.anonymized (row : Lead) (sessionId : String) (now : Int) : Lead :=
  { row with
    supabaseUserId := none
    emailNormalizedCiphertext := "deleted"
    emailLookupHash := "deleted:" ++ row.id
    phoneE164Ciphertext := none
    phoneLookupHash := none
    role := "deleted"
    name := none
    volumeBucket := none
    verifiedAt := none
    unsubscribedAt := some now
    deletionRequestedAt := some now
    dataAccessRequestedAt := none
    anonymizedAt := some now
    firstSessionId := sessionId }

/-- A scan that was anonymised. -/
def SiteScan.anonymized (row : SiteScan) (sessionId : String) (now : Int) : SiteScan :=
  { row with
    leadId := none
    sessionId := sessionId
    submittedUrlRedacted := "redacted://deleted"
    canonicalTargetUrl := "redacted://deleted"
    targetHost := "deleted.invalid"
    targetHash := "deleted:" ++ row.id
    accessTokenHash := "deleted:" ++ row.id
    accessTokenExpiresAt := now }

def AnalyticsEvent.isOf (leadId : String) (scanIds : List String) (row : AnalyticsEvent) : Bool :=
  row.leadId = some leadId || row.scanId.any (· ∈ scanIds)

/-- Erases the evidence of scans. -/
def anonymizeScans (leadId : String) (scanIds ownedTargetUrls : List String) (sessionId : String) (now : Int) :
    SiteScript Unit := do
  let _ ← browserObservationFindings.updateWhere
    (fun db row => (browserObservations.rows db).any fun observation =>
      observation.id = row.observationId && observation.scanId ∈ scanIds)
    fun row => { row with evidence := anonymizedEvidence }
  let _ ← browserObservations.update (·.scanId ∈ scanIds) fun row =>
    { row with signals := none, failureCode := some "data_anonymized", updatedAt := now }
  let _ ← scanSnapshots.delete fun row => row.id ∈ scanIds || row.canonicalTargetUrl ∈ ownedTargetUrls
  let _ ← scanShares.update (·.scanId ∈ scanIds) fun row =>
    { row with published := false, revokedAt := some now, publicSnapshot := none, allowIndexing := false }
  let _ ← scanChecks.update (·.scanId ∈ scanIds) fun row =>
    { row with result := { row.result with evidence := anonymizedEvidence } }
  let _ ← scans.update (fun row => row.id ∈ scanIds || row.leadId = some leadId) (·.anonymized sessionId now)
  pure ()

/-- The pages that scans were of. -/
def listOwnedTargetUrls (scanIds : List String) : SiteScript (List String) :=
  if scanIds.isEmpty then pure []
  else do
    let ownedScans ← scans.select (·.id ∈ scanIds)
    pure (ownedScans.map (·.canonicalTargetUrl)).eraseDups

/-- Takes away what a lead had of sessions, tokens, registrations and places, and what of events names them. -/
def anonymizeTraces (lead : Lead) (scanIds : List String) (sessionId : String) (now : Int) : SiteScript Unit := do
  sessions.insert ⟨sessionId, "deleted:session:" ++ sessionId, now, .none, .none, none⟩
  let _ ← reportSessions.update (fun row => row.leadId = lead.id && row.revokedAt.isNone)
    fun row => { row with revokedAt := some now }
  let _ ← verificationTokens.delete (·.leadId = lead.id)
  let _ ← registrationIntents.delete (·.emailLookupHash = lead.emailLookupHash)
  let _ ← waitlistEntries.delete (·.leadId = lead.id)
  let _ ← deliveryOutbox.deleteWhere fun db row =>
    (analyticsEvents.rows db).any fun event => event.eventId = row.eventId && event.isOf lead.id scanIds
  let _ ← analyticsEvents.update (·.isOf lead.id scanIds) fun row =>
    { row with leadId := none, sessionId := sessionId }
  let _ ← paymentSignals.delete (·.leadId = lead.id)
  pure ()

/-- Takes away the scans a lead is linked to. -/
def releaseScans (leadId : String) (scanIds ownedTargetUrls : List String) (sessionId : String) (now : Int) :
    SiteScript Unit :=
  if scanIds.isEmpty then do
    let _ ← scans.update (·.leadId = some leadId) fun row =>
      { row with leadId := none, accessTokenExpiresAt := now }
    pure ()
  else anonymizeScans leadId scanIds ownedTargetUrls sessionId now

/-- Takes away a lead's links, and the lead. -/
def anonymizeLead (leadId sessionId : String) (now : Int) : SiteScript Unit := do
  let _ ← leadScans.delete (·.leadId = leadId)
  let _ ← leads.update (·.id = leadId) (·.anonymized sessionId now)
  pure ()

/-- What is done to a lead that is there, and locked. -/
def anonymizeLocked (lead : Lead) (sessionId : String) (now : Int) : SiteScript (AnonymizedStatus × Nat) := do
  let linkedRows ← leadScans.select (·.leadId = lead.id)
  let directRows ← scans.select (·.leadId = some lead.id)
  let scanIds := (linkedRows.map (·.scanId) ++ directRows.map (·.id)).eraseDups
  let ownedTargetUrls ← listOwnedTargetUrls scanIds
  anonymizeTraces lead scanIds sessionId now
  releaseScans lead.id scanIds ownedTargetUrls sessionId now
  anonymizeLead lead.id sessionId now
  pure (.anonymized, scanIds.length)

/-- Anonymises a lead, with all that is theirs. -/
def anonymizeLeadData (leadId sessionId : String) (now : Int) : SiteScript (AnonymizedStatus × Nat) :=
  Script.transaction do
    let locked ← leads.selectForUpdate (·.id = leadId)
    match locked with
    | none => pure (.notFound, 0)
    | some lead =>
      if lead.anonymizedAt.isSome then pure (.alreadyAnonymized, 0)
      else anonymizeLocked lead sessionId now

/-! ## Retention -/

/-- Whether a lead never verified its address, and has been kept long enough. -/
def Lead.unverifiedSince (cutoff : Int) (row : Lead) : Bool :=
  row.verifiedAt.isNone && row.anonymizedAt.isNone && row.createdAt < cutoff

/-- The leads that are to be anonymised, the oldest first. -/
def listUnverifiedLeadRetentionCandidates (now : Int) (limit : Option Nat) : SiteScript (List String) := do
  let rows ← leads.select (·.unverifiedSince (now - unverifiedLeadRetentionMs))
  let ordered := rows.insertionSort fun a b => a.createdAt ≤ b.createdAt
  pure ((ordered.take (min 1000 (max 1 (limit.getD 100)))).map (·.id))

/-- Deletes the tokens that were used, or ran out, long enough ago. -/
def deleteRetainedVerificationTokens (now : Int) : SiteScript Nat := do
  let removed ← verificationTokens.delete fun row =>
    row.usedAt.getD row.expiresAt < now - verificationTokenRetentionMs
  pure removed.length

/-- Deletes the registrations that were over, or ran out, long enough ago. -/
def deleteRetainedRegistrationIntents (now : Int) : SiteScript Nat := do
  let removed ← registrationIntents.delete fun row =>
    row.consumedAt.getD row.expiresAt < now - registrationIntentRetentionMs
  pure removed.length

/-- Anonymises leads one after the other, and says how many it did. -/
def anonymizeAll (sessionIdFor : String → String) (now : Int) : List String → SiteScript Nat
  | [] => pure 0
  | leadId :: rest => do
    let (status, _) ← anonymizeLeadData leadId (sessionIdFor leadId) now
    let more ← anonymizeAll sessionIdFor now rest
    pure (if status = .anonymized then more + 1 else more)

/-- The cleanup, of the tables that are written down here. Says how many tokens and registrations it deleted, how
many leads it anonymised, and how many it had listed. -/
def runRetentionCleanup (now : Int) (batchSize : Option Nat) (sessionIdFor : String → String) :
    SiteScript (Nat × Nat × Nat × Nat) := do
  let tokens ← Script.transaction (deleteRetainedVerificationTokens now)
  let intents ← Script.transaction (deleteRetainedRegistrationIntents now)
  let candidates ← Script.transaction (listUnverifiedLeadRetentionCandidates now batchSize)
  let anonymized ← anonymizeAll sessionIdFor now candidates
  pure (tokens, intents, anonymized, candidates.length)

end Coinslot
