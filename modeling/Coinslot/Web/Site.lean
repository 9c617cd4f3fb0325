import Coinslot.Web.Registrations
import Coinslot.Web.Erasure
import Coinslot.Web.Reports
import Coinslot.Web.ScanRequests

/-!
# The site

Every operation that works on the site's database, as a call with what it is given (`SiteCall`), and the calls
under way at once (`siteMachine`). A scan that an operation is given was read before the call, so that it can be
any by now.
-/

namespace Coinslot

open Txn

/-- A call of an operation, with what it is given and what is drawn for it. -/
inductive SiteCall where
  | persistConsentSnapshot (anonymousToken : Option String) (decisions : ConsentCategories) (country : Option String)
      (ids : SessionIds)
  | persistAttributionTouch (anonymousToken : Option String) (touch : Touch) (partnerClickId : Option String)
      (ids : SessionIds)
  | createOrReplayScan (body : CreateScanRequest) (idempotencyKey : String) (anonymousToken : Option String)
      (submittedWithoutScheme : Bool) (ids : ScanIds)
  | registerForReport (scan : SiteScan) (body : RegistrationRequest) (ids : RegisterIds) (allowed : Bool)
  | verifyEmailToken (token : String) (ids : VerifyIds)
  | createSupabaseRegistrationIntent (scan : SiteScan) (body : RegistrationRequest) (partnerClickId : Option String)
      (ids : IntentIds) (allowed : Bool)
  | finalizeSupabaseRegistration (state : String) (user : Option VerifiedSupabaseUser) (ids : FinalizeIds)
  | anonymizeLeadData (leadId sessionId : String) (now : Int)
  | runRetentionCleanup (now : Int) (batchSize : Option Nat) (sessionIdFor : String → String)
  | getFullReport (benchmarkEnabled : Bool) (scanId : String) (sessionToken : Option String)

/-- What a call is answered. -/
inductive SiteAnswer where
  | consent (newToken : Option String) (snapshotId : String)
  | touch (answer : AttributionAnswer)
  | scan (created : ScanCreation)
  | sent (allowed : Bool)
  | verification (result : VerificationResult)
  | finalized (result : Option VerificationResult)
  | anonymized (status : AnonymizedStatus) (scanCount : Nat)
  | cleaned (tokens intents leadsAnonymized candidatesProcessed : Nat)
  | report (report : Option ReportResponse)

/-- What a call does. -/
def SiteCall.script (U : UrlLib) (site : Site) : SiteCall → SiteScript SiteAnswer
  | .persistConsentSnapshot anonymousToken decisions country ids => do
    let (newToken, snapshotId) ← Coinslot.persistConsentSnapshot site anonymousToken decisions country ids
    pure (.consent newToken snapshotId)
  | .persistAttributionTouch anonymousToken touch partnerClickId ids => do
    let answer ← Coinslot.persistAttributionTouch site anonymousToken touch partnerClickId ids
    pure (.touch answer)
  | .createOrReplayScan body idempotencyKey anonymousToken submittedWithoutScheme ids => do
    let created ← Coinslot.createOrReplayScan U site body idempotencyKey anonymousToken submittedWithoutScheme ids
    pure (.scan created)
  | .registerForReport scan body ids allowed => do
    let sent ← Coinslot.registerForReport site scan body ids allowed
    pure (.sent sent)
  | .verifyEmailToken token ids => do
    let result ← Coinslot.verifyEmailToken site token ids
    pure (.verification result)
  | .createSupabaseRegistrationIntent scan body partnerClickId ids allowed => do
    let sent ← Coinslot.createSupabaseRegistrationIntent site scan body partnerClickId ids allowed
    pure (.sent sent)
  | .finalizeSupabaseRegistration state user ids => do
    let result ← Coinslot.finalizeSupabaseRegistration site state user ids
    pure (.finalized result)
  | .anonymizeLeadData leadId sessionId now => do
    let (status, scanCount) ← Coinslot.anonymizeLeadData leadId sessionId now
    pure (.anonymized status scanCount)
  | .runRetentionCleanup now batchSize sessionIdFor => do
    let (tokens, intents, leadsAnonymized, candidates) ← Coinslot.runRetentionCleanup now batchSize sessionIdFor
    pure (.cleaned tokens intents leadsAnonymized candidates)
  | .getFullReport benchmarkEnabled scanId sessionToken => do
    let report ← Coinslot.getFullReport site benchmarkEnabled scanId sessionToken
    pure (.report report)

abbrev SiteWorld := Txn.World SiteKey SiteEntry SiteRow SiteCall SiteAnswer

abbrev SiteUnderway := Txn.Call SiteKey SiteEntry SiteRow SiteCall SiteAnswer

abbrev SiteNotice := Txn.Notice SiteKey SiteEntry SiteRow SiteCall SiteAnswer

def siteMachine (U : UrlLib) (site : Site) : Reactor SiteWorld (Txn.Action SiteCall) SiteNotice Unit :=
  machine siteSchema (SiteCall.script U site)

variable {U : UrlLib} {db : SiteDb}

theorem fine_of_run {site : Site} {now : Int} (hfine : siteSchema.Fine db) (actions : List (Txn.Action SiteCall)) :
    siteSchema.Fine ((siteMachine U site).run (Txn.World.start now db) actions).db := by
  have hstart : (Txn.World.start now db : SiteWorld).Sound siteSchema := .start hfine
  have hsound := (siteMachine U site).run_induction (P := Txn.World.Sound siteSchema)
    (fun hw h => hw.step (moves_of_step h)) hstart actions
  exact ⟨hsound.keyed, hsound.distinct⟩

def SiteReached (U : UrlLib) (site : Site) (db : SiteDb) : Prop :=
  ∃ now db₀ actions, siteSchema.Fine db₀ ∧ ((siteMachine U site).run (Txn.World.start now db₀) actions).db = db

theorem SiteReached.fine {site : Site} (h : SiteReached U site db) : siteSchema.Fine db := by
  obtain ⟨now, db₀, actions, hfine, rfl⟩ := h
  exact fine_of_run hfine actions

end Coinslot
