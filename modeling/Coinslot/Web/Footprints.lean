import Coinslot.Lib.Footprints
import Coinslot.Web.Site

/-!
# What the operations of the site write

The tables that the parts of the site's operations write, where an argument need not look into them
(`Txn.Script.WritesOn`).
-/

namespace Coinslot

open Txn

/-- The tables. -/
inductive SiteTable where
  | session
  | consent
  | lead
  | scan
  | intent
  | check
  | snapshot
  | observation
  | finding
  | leadScan
  | token
  | reportSession
  | waitlist
  | share
  | payment
  | event
  | delivery
  | job
  deriving DecidableEq, Repr

/-- The table a key is of. -/
def SiteKey.table : SiteKey → SiteTable
  | .session _ => .session
  | .consent _ => .consent
  | .lead _ => .lead
  | .scan _ => .scan
  | .intent _ => .intent
  | .check .. => .check
  | .snapshot _ => .snapshot
  | .observation _ => .observation
  | .finding .. => .finding
  | .leadScan .. => .leadScan
  | .token _ => .token
  | .reportSession _ => .reportSession
  | .waitlist _ => .waitlist
  | .share _ => .share
  | .payment _ => .payment
  | .event _ => .event
  | .delivery _ => .delivery
  | .job _ => .job

def SiteKey.Among (tables : List SiteTable) (k : SiteKey) : Prop := tables.contains k.table = true

theorem SiteKey.Among.not_of {tables : List SiteTable} {table : SiteTable} {k : SiteKey} (h : k.Among tables)
    (hnot : tables.contains table = false) : k.table ≠ table := by
  rintro rfl
  exact Bool.noConfusion (h.symm.trans hnot)

section

variable {site : Site}

/-! ## What is recorded of what happens -/

theorem writesOn_insertDeliveries (event : AnalyticsEvent) (ids : EventIds)
    (destinations : List DeliveryDestination) :
    (insertDeliveries event ids destinations).WritesOn siteSchema (SiteKey.Among [.event, .delivery]) := by
  induction destinations with
  | nil => exact .done _
  | cons destination rest ih => exact .bind (Table.writesOn_insert (fun _ => rfl) _) fun _ => ih

theorem writesOn_insertBusinessEventOnce (onceKey : String) (event : AnalyticsEvent) (ids : EventIds)
    (destinations : List DeliveryDestination) :
    (insertBusinessEventOnce onceKey event ids destinations).WritesOn siteSchema (SiteKey.Among [.event, .delivery]) := by
  refine .bind (Table.writesOn_selectOne _) fun existing => ?_
  cases existing with
  | some recorded => exact .done _
  | none =>
    refine .bind (Table.writesOn_insertUnless (fun _ => rfl) _ _) fun inserted => ?_
    cases inserted with
    | some event => exact .bind (writesOn_insertDeliveries _ _ _) fun _ => .done _
    | none =>
      refine .bind (Table.writesOn_selectOne _) fun raced => ?_
      cases raced with
      | some recorded => exact .done _
      | none => exact .fails

theorem writesOn_emitStoredBusinessEvent (ids : EventIds) (input : BusinessEvent) :
    (emitStoredBusinessEvent site ids input).WritesOn siteSchema (SiteKey.Among [.event, .delivery]) := by
  refine .bind (Table.writesOn_selectOne _) fun session => .bind (Table.writesOn_selectOne _) fun consentRow => ?_
  cases session with
  | none => exact .fails
  | some session =>
    cases consentRow with
    | none => exact .fails
    | some consentRow =>
      dsimp only
      split
      · exact .fails
      · exact .bind .clock fun now => writesOn_insertBusinessEventOnce _ _ _ _

/-! ## Registrations -/

/-! ## Erasure -/

theorem writesOn_listOwnedTargetUrls (scanIds : List String) :
    (listOwnedTargetUrls scanIds).WritesOn siteSchema (SiteKey.Among []) := by
  unfold listOwnedTargetUrls
  split
  · exact .done _
  · exact .bind (Table.writesOn_select _) fun _ => .done _

def traceTables : List SiteTable :=
  [.session, .reportSession, .token, .intent, .waitlist, .delivery, .event, .payment]

theorem writesOn_anonymizeTraces (lead : Lead) (scanIds : List String) (sessionId : String) (now : Int) :
    (anonymizeTraces lead scanIds sessionId now).WritesOn siteSchema (SiteKey.Among traceTables) := by
  exact .bind (Table.writesOn_insert (fun _ => rfl) _) fun _ =>
    .bind (Table.writesOn_update (fun _ => rfl) _ _) fun _ =>
    .bind (Table.writesOn_delete (fun _ => rfl) _) fun _ =>
    .bind (Table.writesOn_delete (fun _ => rfl) _) fun _ =>
    .bind (Table.writesOn_delete (fun _ => rfl) _) fun _ =>
    .bind (Table.writesOn_deleteWhere (fun _ => rfl) _) fun _ =>
    .bind (Table.writesOn_update (fun _ => rfl) _ _) fun _ =>
    .bind (Table.writesOn_delete (fun _ => rfl) _) fun _ => .done _

def scanTables : List SiteTable := [.finding, .observation, .snapshot, .share, .check, .scan]

theorem writesOn_releaseScans (leadId : String) (scanIds ownedTargetUrls : List String) (sessionId : String)
    (now : Int) : (releaseScans leadId scanIds ownedTargetUrls sessionId now).WritesOn siteSchema
      (SiteKey.Among scanTables) := by
  unfold releaseScans
  split
  · exact .bind (Table.writesOn_update (fun _ => rfl) _ _) fun _ => .done _
  · exact .bind (Table.writesOn_updateWhere (fun _ => rfl) _ _) fun _ =>
      .bind (Table.writesOn_update (fun _ => rfl) _ _) fun _ =>
      .bind (Table.writesOn_delete (fun _ => rfl) _) fun _ =>
      .bind (Table.writesOn_update (fun _ => rfl) _ _) fun _ =>
      .bind (Table.writesOn_update (fun _ => rfl) _ _) fun _ =>
      .bind (Table.writesOn_update (fun _ => rfl) _ _) fun _ => .done _

end

end Coinslot
