import Coinslot.Web.SiteTables

/-!
# The site's secrets, and the events it records

What the operations of the site rest on (`apps/web/lib/server/crypto.ts`, `config.ts`), and how an event is
recorded with what is to be told of it (`packages/scanner-database/src/analytics-runtime.ts`,
`analytics-event-store.ts`, `packages/analytics/src/outbox.ts`): once under its key, and to the destinations
that the consent it names allows.
-/

namespace Coinslot

open Txn

/-- What the site rests on: its ciphers and digests under its secrets, and what of its configuration the
operations read. -/
structure Site where
  sha256 : String → String
  hmac : String → String
  hmacBase64url : String → String
  hashtextextended : String → String
  normalizeEmail : String → String
  encrypt : String → String → String
  decrypt : String → Option String
  partnerPostbackEnabled : Bool
  serverDeliveryEnabled : Bool
  posthogConfigured : Bool
  metaConfigured : Bool
  posthogEnvironmentMatches : Bool
  metaEnvironmentMatches : Bool
  publicShareEnabled : Bool

namespace Site

variable (site : Site)

def hmacHex (parts : List String) : String := site.hmac ("\x00".intercalate parts)

def deriveCapability (parts : List String) : String := site.hmacBase64url ("\x00".intercalate parts)

def emailLookupHash (email : String) : String := site.hmacHex ["email", site.normalizeEmail email]

/-- What a visitor's token is looked up by. -/
def anonymousHash (anonymousToken : String) : String := site.hmacHex ["anonymous", anonymousToken]

/-- Whether an event can be sent from where the site runs. -/
def environmentMismatch : Bool :=
  site.serverDeliveryEnabled &&
    (site.posthogConfigured && !site.posthogEnvironmentMatches || site.metaConfigured && !site.metaEnvironmentMatches)

/-- Where an event goes under a consent (`buildOutboxInserts`). -/
def destinations (categories : ConsentCategories) : List DeliveryDestination :=
  (if categories.productAnalytics.getD false && site.serverDeliveryEnabled && site.posthogConfigured then [.posthog]
    else []) ++
  if categories.adsMeasurement.getD false && site.serverDeliveryEnabled && site.metaConfigured then [.meta] else []

end Site

def unsealed (text : String) : Option String :=
  if "sealed:".toList.isPrefixOf text.toList then some (String.ofList (text.toList.drop 7)) else none

/-- A site whose digests and ciphers can be read. -/
def plainSite : Site where
  sha256 := ("sha256:" ++ ·)
  hmac := ("hmac:" ++ ·)
  hmacBase64url := ("capability:" ++ ·)
  hashtextextended := id
  normalizeEmail := id
  encrypt _ text := "sealed:" ++ text
  decrypt := unsealed
  partnerPostbackEnabled := true
  serverDeliveryEnabled := true
  posthogConfigured := true
  metaConfigured := true
  posthogEnvironmentMatches := true
  metaEnvironmentMatches := true
  publicShareEnabled := true

/-- An event, as its once key spells it. -/
def AnalyticsEventName.text : AnalyticsEventName → String
  | landingView => "landing_view"
  | scanStarted => "scan_started"
  | scanCompleted => "scan_completed"
  | resultsViewed => "results_viewed"
  | registrationStarted => "registration_started"
  | registrationCompleted => "registration_completed"
  | waitlistQuestionAnswered => "waitlist_question_answered"
  | cardAttached => "card_attached"
  | resultShared => "result_shared"

/-- The key an event is recorded under once, of the identifiers it takes, in their order. -/
def eventOnceKey (name : AnalyticsEventName) (identifiers : List String) : String :=
  name.text ++ ":" ++ ":".intercalate identifiers

/-- The identifiers that are made for an event: its own, and those of what is to be told of it. -/
structure EventIds where
  eventId : String
  deliveryId : DeliveryDestination → String

/-- What an event is recorded of. -/
structure BusinessEvent where
  name : AnalyticsEventName
  identifiers : List String
  sessionId : String
  consentSnapshotId : String
  leadId : Option String
  scanId : Option String
  segment : Segment
  landingVariant : String
  occurredAt : Option Int

/-- Inserts what is to be told of an event, to each destination. -/
def insertDeliveries (event : AnalyticsEvent) (ids : EventIds) : List DeliveryDestination → SiteScript Unit
  | [] => pure ()
  | destination :: rest => do
    deliveryOutbox.insert ⟨ids.deliveryId destination, event.eventId, destination, .event event.eventId event.name⟩
    insertDeliveries event ids rest

/-- Records an event once under its key, with what is to be told of it, and says under which identifier it is
recorded. -/
def insertBusinessEventOnce (onceKey : String) (event : AnalyticsEvent) (ids : EventIds)
    (destinations : List DeliveryDestination) : SiteScript String := do
  let existing ← analyticsEvents.selectOne (·.onceKey = some onceKey)
  match existing with
  | some recorded => pure recorded.eventId
  | none => do
    let inserted ← analyticsEvents.insertUnless event (.entry (.eventsOnceKey onceKey))
    match inserted with
    | some event => do
      insertDeliveries event ids destinations
      pure event.eventId
    | none => do
      let raced ← analyticsEvents.selectOne (·.onceKey = some onceKey)
      match raced with
      | some recorded => pure recorded.eventId
      | none => .fails

/-- Records an event of a session under a consent. -/
def emitStoredBusinessEvent (site : Site) (ids : EventIds) (input : BusinessEvent) : SiteScript String := do
  let session ← sessions.selectOne (·.id = input.sessionId)
  let consentRow ← consentSnapshots.selectOne (·.id = input.consentSnapshotId)
  match session, consentRow with
  | some _, some consentRow =>
    if site.environmentMismatch || input.identifiers.any (· = "") then .fails
    else do
      let now ← Script.clock
      let onceKey := eventOnceKey input.name input.identifiers
      insertBusinessEventOnce onceKey
        { eventId := ids.eventId
          onceKey := some onceKey
          name := input.name
          occurredAt := input.occurredAt.getD now
          sessionId := input.sessionId
          leadId := input.leadId
          scanId := input.scanId
          segment := input.segment
          landingVariant := input.landingVariant
          consentSnapshotId := input.consentSnapshotId }
        ids (site.destinations consentRow.categories)
  | _, _ => .fails

end Coinslot
