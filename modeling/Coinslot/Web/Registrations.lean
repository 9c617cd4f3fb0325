import Coinslot.Web.SiteEvents

/-!
# Registrations

A visitor leaves an address for the report of a scan. They are sent a token (`registerForReport`) that they
bring back (`verifyEmailToken`), in `apps/web/lib/server/registration.ts`, or a link to sign in with
(`createSupabaseRegistrationIntent`), from which they come back with a state and a user
(`finalizeSupabaseRegistration`), in `apps/web/lib/server/supabase-registration.ts`. What is drawn at random,
identifiers, tokens and initial vectors, comes with each call.
-/

namespace Coinslot

open Txn

def registrationIntentTtlMs : Int := 60 * 60 * 1000

/-- What a visitor fills in. -/
structure RegistrationRequest where
  email : String
  phone : String
  role : String
  siteIsMine : Bool
  marketingEmailOptIn : Bool
  datasetReuseAcknowledged : Bool
  deriving DecidableEq, Repr

/-- Records the consent of a registration on its session, over what the session's consent said so far. Hands
back the session, and the consent it had. -/
def recordRegistrationConsent (sessionId consentId policyVersion : String) (marketingEmail : Bool)
    (source : String) : SiteScript (Option SiteSession × Option ConsentSnapshot) := do
  let registrationSession ← sessions.selectOne (·.id = sessionId)
  let previousConsent ← match registrationSession.bind (·.consentSnapshotId) with
    | some consentSnapshotId => consentSnapshots.selectOne (·.id = consentSnapshotId)
    | none => pure none
  let now ← Script.clock
  let previous := (previousConsent.map (·.categories)).getD ⟨none, none, none, none, none, none⟩
  consentSnapshots.insert
    { id := consentId
      sessionId := sessionId
      policyVersion := policyVersion
      country := previousConsent.bind (·.country)
      categories := { previous with
        essentialProcessing := some true
        datasetReuse := some true
        marketingEmail := some marketingEmail }
      capturedAt := now
      source := source }
  let _ ← sessions.update (·.id = sessionId) fun row => { row with consentSnapshotId := some consentId }
  pure (registrationSession, previousConsent)

/-- Links a scan to a lead. -/
def linkScan (leadId scanId : String) (siteOwnershipClaim : Bool) : SiteScript Unit := do
  leadScans.insertOver ⟨leadId, scanId, siteOwnershipClaim⟩ (.row (.leadScan leadId scanId))
    fun row => { row with siteOwnershipClaim := siteOwnershipClaim }
  let _ ← scans.update (·.id = scanId) fun row => { row with leadId := some leadId }
  pure ()

/-! ## By a token -/

/-- What is drawn for a registration. -/
structure RegisterIds where
  leadId : String
  consentId : String
  tokenId : String
  token : String
  emailIv : String
  deriving DecidableEq, Repr

section

variable (site : Site)

/-- The lead of an address, who is new where there is none. -/
def leadOfAddress (scan : SiteScan) (body : RegistrationRequest) (ids : RegisterIds) : SiteScript (Option Lead) := do
  let found ← leads.selectOne (·.emailLookupHash = site.emailLookupHash body.email)
  match found with
  | some lead => pure (some lead)
  | none => do
    let now ← Script.clock
    leads.insert
      { id := ids.leadId
        supabaseUserId := none
        emailNormalizedCiphertext := site.encrypt ids.emailIv (site.normalizeEmail body.email)
        emailLookupHash := site.emailLookupHash body.email
        phoneE164Ciphertext := none
        phoneLookupHash := none
        role := body.role
        name := none
        volumeBucket := none
        verifiedAt := none
        createdAt := now
        unsubscribedAt := none
        deletionRequestedAt := none
        anonymizedAt := none
        dataAccessRequestedAt := none
        firstSegment := scan.segment
        firstSessionId := scan.sessionId }
    leads.selectOne (·.id = ids.leadId)

/-- Registers an address for the report of a scan, where the rate limits let it, and says whether it was sent a
token. -/
def registerForReport (scan : SiteScan) (body : RegistrationRequest) (ids : RegisterIds)
    (allowed : Bool) : SiteScript Bool :=
  if allowed then Script.transaction do
    let lead ← leadOfAddress site scan body ids
    match lead with
    | none => .fails
    | some lead => do
      linkScan lead.id scan.id body.siteIsMine
      let _ ← recordRegistrationConsent scan.sessionId ids.consentId "phase-a-v1" body.marketingEmailOptIn
        "registration"
      let now ← Script.clock
      let _ ← verificationTokens.update
        (fun row => row.leadId = lead.id && row.scanId = scan.id && row.usedAt.isNone)
        fun row => { row with usedAt := some now }
      verificationTokens.insert ⟨ids.tokenId, lead.id, scan.id, site.sha256 ids.token, now + 86400000, none⟩
      pure true
  else pure false

/-- What is drawn for a token that is brought back. The queue has a place for whoever asks. -/
structure VerifyIds where
  waitlistId : String
  waitlistPosition : Nat
  reportSessionId : String
  sessionToken : String
  event : EventIds

/-- What is answered to a token, or to a state. -/
inductive VerificationResult where
  | verified (scanId sessionToken : String)
  | expiredOrUsed (scanId : Option String)
  deriving DecidableEq, Repr

/-- Gives a lead a place in the queue for a scan, and a session that opens their reports. -/
def openReport (leadId scanId : String) (ids : VerifyIds) (expiresAt lastSeenAt : Int) : SiteScript Unit := do
  let _ ← waitlistEntries.insertUnless ⟨ids.waitlistId, leadId, scanId, ids.waitlistPosition, none⟩
    (.entry (.waitlistLeadScan leadId scanId))
  reportSessions.insert ⟨ids.reportSessionId, leadId, site.sha256 ids.sessionToken, expiresAt, none, lastSeenAt⟩

/-- Verifies the lead a token was sent to. -/
def verifyEmailToken (token : String) (ids : VerifyIds) : SiteScript VerificationResult :=
  Script.transaction do
    let now ← Script.clock
    let consumed ← verificationTokens.update
      (fun row => row.tokenHash = site.sha256 token && row.usedAt.isNone && now < row.expiresAt)
      fun row => { row with usedAt := some now }
    match consumed.head? with
    | none => do
      let known ← verificationTokens.selectOne (·.tokenHash = site.sha256 token)
      pure (.expiredOrUsed (known.map (·.scanId)))
    | some verification => do
      let scan ← scans.selectOne (·.id = verification.scanId)
      let lead ← leads.selectOne (·.id = verification.leadId)
      match scan, lead with
      | some scan, some lead => do
        let now ← Script.clock
        let _ ← leads.update (·.id = lead.id) fun row => { row with verifiedAt := some (lead.verifiedAt.getD now) }
        openReport site lead.id scan.id ids (now + 30 * 86400000) now
        let session ← sessions.selectOne (·.id = scan.sessionId)
        match session, session.bind (·.consentSnapshotId) with
        | some session, some consentSnapshotId => do
          let _ ← emitStoredBusinessEvent site ids.event
            { name := .registrationCompleted
              identifiers := [lead.id, scan.id]
              sessionId := scan.sessionId
              consentSnapshotId := consentSnapshotId
              leadId := some lead.id
              scanId := some scan.id
              segment := scan.segment
              landingVariant := session.first.landingVariant.getD "unknown"
              occurredAt := none }
          match site.decrypt lead.emailNormalizedCiphertext with
          | some _ => pure (.verified scan.id ids.sessionToken)
          | none => .fails
        | _, _ => .fails
      | _, _ => .fails

end

/-! ## By a link -/

/-- What is drawn for a link. -/
structure IntentIds where
  intentId : String
  state : String
  emailIv : String
  phoneIv : String
  partnerClickIdIv : String
  deriving DecidableEq, Repr

/-- Whether a text is the identifier of a click (`partnerClickIdSchema`). -/
def isPartnerClickId (text : String) : Bool :=
  16 ≤ text.length && text.length ≤ 64 &&
    text.toList.all fun c => 'a' ≤ c && c ≤ 'z' || 'A' ≤ c && c ≤ 'Z' || '0' ≤ c && c ≤ '9' || c = '_' || c = '-'

section

variable (site : Site)

/-- Writes a registration down, sends its link, and makes it the one that waits for its address. It is written
down as one that is over, so that a link that cannot be sent leaves nothing that waits. -/
def createSupabaseRegistrationIntent (scan : SiteScan) (body : RegistrationRequest)
    (partnerClickId : Option String) (ids : IntentIds) (allowed : Bool) : SiteScript Bool :=
  if allowed then do
    let now ← Script.clock
    Script.transaction (registrationIntents.insert
      { id := ids.intentId
        scanId := scan.id
        sessionId := scan.sessionId
        callbackStateHash := site.sha256 ids.state
        emailNormalizedCiphertext := site.encrypt ids.emailIv (site.normalizeEmail body.email)
        emailLookupHash := site.emailLookupHash body.email
        phoneE164Ciphertext := site.encrypt ids.phoneIv body.phone
        phoneLookupHash := site.hmacHex ["phone", body.phone]
        partnerClickIdCiphertext :=
          (partnerClickId.filter isPartnerClickId).map (site.encrypt ids.partnerClickIdIv)
        role := body.role
        siteOwnershipClaim := body.siteIsMine
        marketingEmailOptIn := body.marketingEmailOptIn
        datasetReuseAcknowledged := body.datasetReuseAcknowledged
        consumedAt := some now
        expiresAt := now + registrationIntentTtlMs })
    -- The link is sent here. A call whose link cannot be sent breaks off.
    Script.transaction do
      let now ← Script.clock
      let _ ← registrationIntents.update
        (fun row => row.scanId = scan.id && row.emailLookupHash = site.emailLookupHash body.email &&
          row.consumedAt.isNone)
        fun row => { row with consumedAt := some now }
      let _ ← registrationIntents.update (·.id = ids.intentId) fun row => { row with consumedAt := none }
      pure ()
    pure true
  else pure false

/-- A user who has signed in. -/
structure VerifiedSupabaseUser where
  id : String
  email : String
  deriving DecidableEq, Repr

/-- What is drawn for somebody who comes back from a link. -/
structure FinalizeIds where
  leadId : String
  consentId : String
  verify : VerifyIds
  partnerDeliveryId : String

/-- The lead that a registration is of, who is new where there is none, with whether it is this registration that
first verified them. -/
def finalizedLead (intent : RegistrationIntent) (scan : SiteScan) (user : VerifiedSupabaseUser)
    (now : Int) (ids : FinalizeIds) : SiteScript (Option Lead × Bool) := do
  let found ← leads.selectOne (·.emailLookupHash = site.emailLookupHash user.email)
  match found with
  | none => do
    leads.insert
      { id := ids.leadId
        supabaseUserId := some user.id
        emailNormalizedCiphertext := intent.emailNormalizedCiphertext
        emailLookupHash := site.emailLookupHash user.email
        phoneE164Ciphertext := some intent.phoneE164Ciphertext
        phoneLookupHash := some intent.phoneLookupHash
        role := intent.role
        name := none
        volumeBucket := none
        verifiedAt := some now
        createdAt := now
        unsubscribedAt := none
        deletionRequestedAt := none
        anonymizedAt := none
        dataAccessRequestedAt := none
        firstSegment := scan.segment
        firstSessionId := intent.sessionId }
    let lead ← leads.selectOne (·.id = ids.leadId)
    pure (lead, true)
  | some lead =>
    if lead.supabaseUserId.any (· ≠ user.id) then .fails
    else do
      let newlyVerified ← leads.update (fun row => row.id = lead.id && row.verifiedAt.isNone) fun row =>
        { row with
          supabaseUserId := some user.id
          emailNormalizedCiphertext := intent.emailNormalizedCiphertext
          phoneE164Ciphertext := some intent.phoneE164Ciphertext
          phoneLookupHash := some intent.phoneLookupHash
          role := intent.role
          verifiedAt := some now }
      let _ ← leads.update (·.id = lead.id) fun row =>
        { row with
          supabaseUserId := some user.id
          emailNormalizedCiphertext := intent.emailNormalizedCiphertext
          phoneE164Ciphertext := some intent.phoneE164Ciphertext
          phoneLookupHash := some intent.phoneLookupHash
          role := intent.role }
      pure (some lead, !newlyVerified.isEmpty)

/-- Tells the partner of a registration, where it is the first of its lead, the session's consent so far allowed
it, and a click is known. -/
def tellPartner (intent : RegistrationIntent) (firstVerification : Bool)
    (previousConsent : Option ConsentSnapshot) (eventId deliveryId : String) : SiteScript Unit :=
  let allowed := (previousConsent.bind (·.categories.adsMeasurement)) == some true
  match site.partnerPostbackEnabled && firstVerification && allowed, intent.partnerClickIdCiphertext with
  | true, some ciphertext =>
    match (site.decrypt ciphertext).filter isPartnerClickId with
    | some partnerClickId => do
      let _ ← deliveryOutbox.insertUnless
        ⟨deliveryId, eventId, .partnerTracker, .partnerRegistration partnerClickId⟩
        (.entry (.outboxEventDestination eventId .partnerTracker))
      pure ()
    | none => .fails
  | _, _ => pure ()

/-- Makes a registration good for the user who comes back with its state. -/
def finalizeSupabaseRegistration (state : String) (user : Option VerifiedSupabaseUser)
    (ids : FinalizeIds) : SiteScript (Option VerificationResult) :=
  match user.filter (·.email ≠ "") with
  | none => pure none
  | some user => do
    let now ← Script.clock
    Script.transaction do
      let consumed ← registrationIntents.update
        (fun row => row.callbackStateHash = site.sha256 state &&
          row.emailLookupHash = site.emailLookupHash user.email && now < row.expiresAt && row.consumedAt.isNone)
        fun row => { row with consumedAt := some now }
      match consumed.head? with
      | none => pure none
      | some intent => do
        let scan ← scans.selectOne (·.id = intent.scanId)
        match scan.filter fun scan => scan.progress.status = .completed || scan.progress.status = .partly with
        | none => .fails
        | some scan => do
          let (lead, firstVerification) ← finalizedLead site intent scan user now ids
          match lead with
          | none => .fails
          | some lead => do
            linkScan lead.id scan.id intent.siteOwnershipClaim
            let (registrationSession, previousConsent) ← recordRegistrationConsent intent.sessionId ids.consentId
              "phase-a-v2" intent.marketingEmailOptIn "supabase_auth_registration"
            openReport site lead.id scan.id ids.verify (now + 30 * 86400000) now
            let eventId ← emitStoredBusinessEvent site ids.verify.event
              { name := .registrationCompleted
                identifiers := [lead.id, scan.id]
                sessionId := intent.sessionId
                consentSnapshotId := ids.consentId
                leadId := some lead.id
                scanId := some scan.id
                segment := scan.segment
                landingVariant := (registrationSession.bind (·.first.landingVariant)).getD "unknown"
                occurredAt := none }
            tellPartner site intent firstVerification previousConsent eventId ids.partnerDeliveryId
            pure (some (.verified scan.id ids.verify.sessionToken))

end

end Coinslot
