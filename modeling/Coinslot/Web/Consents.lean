import Coinslot.Web.SiteEvents

/-!
# What a visitor agrees to, and what they came by

A visitor's choices are written down as snapshots, and their session points to the one that holds
(`persistConsentSnapshot`, `apps/web/lib/server/consent.ts`, with `packages/analytics/src/consent.ts`); what they
came by is written on the session itself (`persistAttributionTouch`, `apps/web/lib/server/attribution.ts`). Either
makes a session for a visitor without one.
-/

namespace Coinslot

open Txn

def consentPolicyVersion : String := "consent-v1.0.0"

/-- Nothing but what is necessary (`DEFAULT_CONSENT`). -/
def defaultConsent : ConsentCategories := ⟨some true, some false, some false, some false, some false, some false⟩

/-- Choices over what is agreed to without any. -/
def ConsentCategories.over (decisions base : ConsentCategories) : ConsentCategories :=
  ⟨decisions.essentialProcessing.or base.essentialProcessing, decisions.productAnalytics.or base.productAnalytics,
    decisions.adsMeasurement.or base.adsMeasurement, decisions.marketingEmail.or base.marketingEmail,
    decisions.datasetReuse.or base.datasetReuse, decisions.cardSignal.or base.cardSignal⟩

/-- What the choices of a visitor come to (`createConsentSnapshot`). What is necessary cannot be declined. -/
def createConsentCategories (decisions : ConsentCategories) : Option ConsentCategories :=
  if decisions.essentialProcessing = some false then none
  else some { decisions.over defaultConsent with essentialProcessing := some true }

/-- What is drawn for a session, and for a snapshot. -/
structure SessionIds where
  anonymousToken : String
  sessionId : String
  consentId : String
  deriving DecidableEq, Repr

/-- The session a visitor's token names. -/
def findSession (site : Site) (anonymousToken : Option String) : SiteScript (Option SiteSession) :=
  match anonymousToken.filter (· ≠ "") with
  | some anonymousToken => sessions.selectOne (·.anonymousIdHash = site.anonymousHash anonymousToken)
  | none => pure none

/-- Writes a visitor's choices down, unless they are what holds already. Hands back the token of a new session,
and the snapshot that holds. -/
def persistConsentSnapshot (site : Site) (anonymousToken : Option String) (decisions : ConsentCategories)
    (country : Option String) (ids : SessionIds) : SiteScript (Option String × String) :=
  match createConsentCategories decisions with
  | none => .fails
  | some categories => do
    let capturedAt ← Script.clock
    Script.transaction do
      let known ← findSession site anonymousToken
      let session ← match known with
        | some session => pure (some session)
        | none => do
          let now ← Script.clock
          sessions.insert ⟨ids.sessionId, site.anonymousHash ids.anonymousToken, now, .none, .none, none⟩
          sessions.selectOne (·.id = ids.sessionId)
      let newToken := if known.isSome then none else some ids.anonymousToken
      match session with
      | none => .fails
      | some session => do
        let current ← match session.consentSnapshotId with
          | some consentSnapshotId => consentSnapshots.selectOne (·.id = consentSnapshotId)
          | none => pure none
        match current.filter fun current =>
            current.policyVersion = consentPolicyVersion && current.categories = categories with
        | some current => pure (newToken, current.id)
        | none => do
          consentSnapshots.insert ⟨ids.consentId, session.id, consentPolicyVersion,
            country.map fun country => (country.toUpper.take 2).toString, categories, capturedAt, "banner"⟩
          let now ← Script.clock
          let _ ← sessions.update (·.id = session.id) fun row =>
            { row with consentSnapshotId := some ids.consentId, lastSeenAt := now }
          pure (newToken, ids.consentId)

/-- What is answered to a touch: the token of a new session, the session, and whether the identifier of the click
may be kept. -/
structure AttributionAnswer where
  anonymousToken : Option String
  sessionId : String
  partnerClickIdAccepted : Bool
  deriving DecidableEq, Repr

def landingConsent (consentId sessionId source policyVersion : String) (capturedAt : Int) : ConsentSnapshot :=
  ⟨consentId, sessionId, policyVersion, none, defaultConsent, capturedAt, source⟩

/-- Writes down what a visitor came by, at first and last. A session without a snapshot is given one. -/
def persistAttributionTouch (site : Site) (anonymousToken : Option String) (touch : Touch)
    (partnerClickId : Option String) (ids : SessionIds) : SiteScript AttributionAnswer :=
  Script.transaction do
    let known ← findSession site anonymousToken
    let now ← Script.clock
    let session ← match known with
      | none => do
        sessions.insert ⟨ids.sessionId, site.anonymousHash ids.anonymousToken, now, touch, touch, none⟩
        consentSnapshots.insert
          (landingConsent ids.consentId ids.sessionId "landing_attribution" consentPolicyVersion now)
        let _ ← sessions.update (·.id = ids.sessionId) fun row =>
          { row with consentSnapshotId := some ids.consentId }
        sessions.selectOne (·.id = ids.sessionId)
      | some session => do
        let firstTouch := session.first.landingVariant.all (· = "")
        let consentSnapshotId ← match session.consentSnapshotId with
          | some consentSnapshotId => pure consentSnapshotId
          | none => do
            consentSnapshots.insert
              (landingConsent ids.consentId session.id "landing_attribution" consentPolicyVersion now)
            pure ids.consentId
        let now ← Script.clock
        let _ ← sessions.update (·.id = session.id) fun row =>
          { row with
            first := if firstTouch then touch else row.first
            last := touch
            consentSnapshotId := some consentSnapshotId
            lastSeenAt := now }
        pure (some session)
    match session with
    | none => .fails
    | some session => do
      let currentSession ← sessions.selectOne (·.id = session.id)
      let currentConsent ← match currentSession.bind (·.consentSnapshotId) with
        | some consentSnapshotId => consentSnapshots.selectOne (·.id = consentSnapshotId)
        | none => pure none
      pure
        { anonymousToken := if known.isSome then none else some ids.anonymousToken
          sessionId := session.id
          partnerClickIdAccepted := partnerClickId.any (· ≠ "") &&
            (currentConsent.bind (·.categories.adsMeasurement)) == some true }

end Coinslot
