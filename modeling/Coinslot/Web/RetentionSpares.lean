import Coinslot.Web.Footprints
import Coinslot.Web.OthersReports

/-!
# What the cleanup leaves alone

The cleanup of what was kept long enough lists the leads that never verified their address in one statement, and
anonymises them one after the other in transactions of their own, while people go on verifying theirs. Under its
lock it looks at whether a lead was anonymised, and not at whether they were verified.

It anonymises nobody who was verified by then in every run where nobody's verification is committed while a cleanup
under way has read them among those it is to anonymise (`retention_spares_verified`). What carries it: whoever a
cleanup has read is not verified in what has been committed (`Unverified`), and it anonymises nobody else.
-/

namespace Coinslot

open Txn List Dict

/-- Whether a lead is there, is verified, and was not anonymised. -/
def isVerified (db : SiteDb) (leadId : String) : Bool :=
  match db.get (.lead leadId) with
  | some (.lead lead) => lead.verifiedAt.isSome && lead.anonymizedAt.isNone
  | _ => false

/-- Whether a row is of a lead that never verified its address, and has been kept long enough. -/
def SiteRow.unverifiedLead (cutoff : Int) (leadId : String) : SiteRow → Bool
  | .lead row => row.id = leadId && row.unverifiedSince cutoff
  | _ => false

/-- Whether a call is a cleanup that has read a lead among those it is to anonymise. -/
def hasListed (name : SiteCall) (seen : List SiteRow) (leadId : String) : Bool :=
  match name with
  | .runRetentionCleanup now _ _ => seen.any (·.unverifiedLead (now - unverifiedLeadRetentionMs) leadId)
  | _ => false

/-- Whether a step commits the verification of a lead that a cleanup under way has read among those it is to
anonymise. -/
def verifiesListed (w : SiteWorld) : Txn.Action SiteCall → Bool
  | .goes c =>
    match w.calls.get c with
    | some call => call.script.commitsNext && (leads.rows (call.view w.db)).any fun lead =>
        isVerified (call.view w.db) lead.id && !isVerified w.db lead.id &&
          w.calls.values.any fun other => hasListed other.name other.seen lead.id
    | none => false
  | _ => false

/-- A transaction of a cleanup that leaves alone whoever is verified. It has a lead locked from its first statement
on, so what it commits over is what it began with, as far as the lead goes. -/
def SparesVerified (call : SiteUnderway) (before : SiteDb) : Prop :=
  ∀ now batchSize sessionIdFor, call.name = .runRetentionCleanup now batchSize sessionIdFor →
    ∀ leadId row, isVerified before leadId = true → (call.view before).get (.lead leadId) = some (.lead row) →
      row.anonymizedAt = none

/-! ## What a cleanup holds to -/

/-- What is noted on a cleanup: how long ago a lead must have come, and who was read so far. -/
abbrev CleanupNote := Option (Int × List String)

/-- A cleanup anonymises the leads it has read, and does nothing else to leads. -/
def cleanupConduct : Conduct SiteKey SiteEntry SiteRow CleanupNote where
  sees _ _ := True
  does
    | none, _, _, _, _, g' => g' = none
    | some (cutoff, ids), _, _, writes, rows, g' => ∃ ids', g' = some (cutoff, ids') ∧
      (∀ id ∈ ids', id ∈ ids ∨ ∃ row, .lead row ∈ rows ∧ row.id = id ∧ row.unverifiedSince cutoff = true) ∧
      ∀ id o, (.lead id, o) ∈ writes → id ∈ ids ∧ ∃ row, o = some (.lead row) ∧ row.anonymizedAt.isSome
  commits g _ g' := g' = g

section

variable {U : UrlLib} {site : Site} {α : Type} {cutoff : Int} {ids : List String}

theorem keeps_other (s : SiteScript α) : s.Keeps siteSchema cleanupConduct (fun _ _ => True) none := by
  induction s with
  | done a => trivial
  | fails => trivial
  | reads next ih => exact fun now => ih now
  | runs statement next ih => exact fun db _ _ writes rows _ => ⟨none, rfl, ih rows⟩
  | commits next ih => exact fun db _ _ => ⟨none, rfl, ih⟩

variable {s : SiteScript α}

theorem cleans_quietly (tables : List SiteTable) (h : s.WritesOn siteSchema (SiteKey.Among tables))
    (hlead : tables.contains .lead = false) :
    s.Keeps siteSchema cleanupConduct (fun g' _ => g' = some (cutoff, ids)) (some (cutoff, ids)) := by
  refine h.keeps fun db _ _ locks writes rows hwrites => ⟨ids, rfl, fun id hid => .inl hid, fun id o ho => ?_⟩
  exact absurd rfl ((hwrites _ _ ho).not_of hlead)

theorem cleans_transaction {g : CleanupNote} {post : CleanupNote → α → Prop}
    (h : s.Keeps siteSchema cleanupConduct post g) : (Script.transaction s).Keeps siteSchema cleanupConduct post g :=
  .bind (h.mono fun g' _ hpost _ _ _ => ⟨g', rfl, hpost⟩)

theorem cleans_lead {leadId : String} (hid : leadId ∈ ids) (sessionId : String) (now : Int) :
    (anonymizeLeadData leadId sessionId now).Keeps siteSchema cleanupConduct
      (fun g' _ => g' = some (cutoff, ids)) (some (cutoff, ids)) := by
  refine cleans_transaction ?_
  refine Table.keeps_selectForUpdate fun db _ _ => ⟨some (cutoff, ids),
    ⟨ids, rfl, fun id hid => .inl hid, fun id o ho => by cases ho⟩, ?_⟩
  split
  · rfl
  next lead hlead =>
  have hlocked : lead.id ∈ ids := by
    have hfound := (mem_filter.1 (mem_of_mem_head? (Option.mem_def.2 hlead))).2
    rwa [of_decide_eq_true hfound]
  split
  · rfl
  unfold anonymizeLocked anonymizeLead
  refine .bind ((cleans_quietly [] (Table.writesOn_select _) rfl).mono fun _ linked hg => ?_)
  subst hg
  refine .bind ((cleans_quietly [] (Table.writesOn_select _) rfl).mono fun _ direct hg => ?_)
  subst hg
  refine .bind ((cleans_quietly _ (writesOn_listOwnedTargetUrls _) rfl).mono fun _ urls hg => ?_)
  subst hg
  refine .bind ((cleans_quietly _ (writesOn_anonymizeTraces lead _ sessionId now) rfl).mono fun _ _ hg => ?_)
  subst hg
  refine .bind ((cleans_quietly _ (writesOn_releaseScans lead.id _ urls sessionId now) rfl).mono fun _ _ hg => ?_)
  subst hg
  refine .bind (.bind ((cleans_quietly [.leadScan] (Table.writesOn_delete (fun _ => rfl) _)
    rfl).mono fun _ _ hg => ?_))
  subst hg
  -- The lead is anonymised.
  refine Table.keeps_updateWhere fun db _ _ => ⟨some (cutoff, ids), ⟨ids, rfl, fun id hid => .inl hid, ?_⟩, rfl⟩
  intro id o ho
  obtain ⟨row, hrow, heq⟩ := mem_map.1 ho
  cases heq
  have hfound := of_decide_eq_true (mem_filter.1 hrow).2
  exact ⟨hfound ▸ hlocked, _, rfl, rfl⟩

theorem cleans_all (sessionIdFor : String → String) (now : Int) {candidates : List String}
    (h : ∀ id ∈ candidates, id ∈ ids) : (anonymizeAll sessionIdFor now candidates).Keeps siteSchema cleanupConduct
      (fun g' _ => g' = some (cutoff, ids)) (some (cutoff, ids)) := by
  induction candidates with
  | nil => rfl
  | cons leadId rest ih =>
    refine .bind ((cleans_lead (h leadId mem_cons_self) _ now).mono fun _ came hg => ?_)
    subst hg
    refine .bind ((ih fun id hid => h id (mem_cons_of_mem _ hid)).mono fun _ more hg => ?_)
    subst hg
    rfl

theorem cleans_listed (now : Int) (limit : Option Nat) :
    (listUnverifiedLeadRetentionCandidates now limit).Keeps siteSchema cleanupConduct
      (fun g' candidates => ∃ ids, g' = some (now - unverifiedLeadRetentionMs, ids) ∧ ∀ id ∈ candidates, id ∈ ids)
      (some (now - unverifiedLeadRetentionMs, [])) := by
  refine Table.keeps_selectWhere fun db _ _ => ?_
  refine ⟨some (now - unverifiedLeadRetentionMs, (leads.found (fun _ row => row.unverifiedSince (now -
    unverifiedLeadRetentionMs)) db).map (·.id)), ⟨_, rfl, fun id hid => ?_, fun id o ho => by cases ho⟩, _, rfl, ?_⟩
  · obtain ⟨row, hrow, rfl⟩ := mem_map.1 hid
    exact .inr ⟨row, mem_map.2 ⟨row, hrow, rfl⟩, rfl, (mem_filter.1 hrow).2⟩
  · intro id hid
    obtain ⟨row, hrow, rfl⟩ := mem_map.1 hid
    exact mem_map_of_mem ((mem_insertionSort _).1 (mem_of_mem_take hrow))

/-- **A cleanup holds to its conduct.** -/
theorem cleans (now : Int) (batchSize : Option Nat) (sessionIdFor : String → String) :
    (runRetentionCleanup now batchSize sessionIdFor).Keeps siteSchema cleanupConduct (fun _ _ => True)
      (some (now - unverifiedLeadRetentionMs, [])) := by
  have htokens : (deleteRetainedVerificationTokens now).WritesOn siteSchema (SiteKey.Among [.token]) :=
    .bind (Table.writesOn_delete (fun _ => rfl) _) fun _ => .done _
  have hintents : (deleteRetainedRegistrationIntents now).WritesOn siteSchema (SiteKey.Among [.intent]) :=
    .bind (Table.writesOn_delete (fun _ => rfl) _) fun _ => .done _
  unfold runRetentionCleanup
  refine .bind ((cleans_transaction (cleans_quietly _ htokens rfl)).mono fun _ tokens hg => ?_)
  subst hg
  refine .bind ((cleans_transaction (cleans_quietly _ hintents rfl)).mono fun _ intents hg => ?_)
  subst hg
  refine .bind ((cleans_transaction (cleans_listed now batchSize)).mono fun _ candidates hg => ?_)
  obtain ⟨ids, rfl, hids⟩ := hg
  exact .bind ((cleans_all sessionIdFor now hids).mono fun _ anonymized _ => trivial)

end

/-! ## The runs -/

/-- What is noted on a call is what it has read and written. -/
def Noted (g : CleanupNote) (call : SiteUnderway) : Prop :=
  ∀ now batchSize sessionIdFor, call.name = .runRetentionCleanup now batchSize sessionIdFor →
    ∃ ids, g = some (now - unverifiedLeadRetentionMs, ids) ∧ (∀ id ∈ ids, hasListed call.name call.seen id = true) ∧
      ∀ id o, (.lead id, o) ∈ call.writes →
        hasListed call.name call.seen id = true ∧ ∃ row, o = some (.lead row) ∧ row.anonymizedAt.isSome

/-- Whoever a cleanup under way has read among those it is to anonymise is not verified. -/
def Unverified (w : SiteWorld) : Prop :=
  ∀ c call id, w.calls.get c = some call → hasListed call.name call.seen id = true → isVerified w.db id = false

/-- What holds of every run where nobody is verified whom a cleanup has read. -/
structure CleansUp (w : SiteWorld) (g : Nat → CleanupNote)
    (log : List (Happening (Txn.Action SiteCall) SiteNotice)) : Prop where
  noted : ∀ c call, w.calls.get c = some call → Noted (g c) call
  unverified : Unverified w
  spared : ∀ call before, .emitted (.committed call before) ∈ log → SparesVerified call before

section

variable {U : UrlLib} {site : Site} {w w' : SiteWorld} {g g' : Nat → CleanupNote} {c : Nat}
  {call : SiteUnderway} {log : List (Happening (Txn.Action SiteCall) SiteNotice)}

theorem isVerified_iff {db : SiteDb} {leadId : String} : isVerified db leadId = true ↔
    ∃ lead, db.get (.lead leadId) = some (.lead lead) ∧ lead.verifiedAt.isSome ∧ lead.anonymizedAt = none := by
  unfold isVerified
  constructor
  · intro h
    split at h
    · next lead hlead =>
      rw [Bool.and_eq_true, Option.isNone_iff_eq_none] at h
      exact ⟨lead, hlead, h⟩
    · cases h
  · rintro ⟨lead, hlead, hverified, hthere⟩
    rw [hlead]
    simp [hverified, hthere]

variable {name : SiteCall} {id : String} {out : List SiteNotice} {action : Txn.Action SiteCall}

theorem hasListed_iff {seen : List SiteRow} {now : Int} {batchSize : Option Nat} {sessionIdFor : String → String}
    (hname : name = .runRetentionCleanup now batchSize sessionIdFor) :
    hasListed name seen id = true ↔
      ∃ row, .lead row ∈ seen ∧ row.id = id ∧ row.unverifiedSince (now - unverifiedLeadRetentionMs) = true := by
  subst hname
  simp only [hasListed, any_eq_true]
  constructor
  · rintro ⟨row, hrow, hlisted⟩
    cases row <;> simp only [SiteRow.unverifiedLead, Bool.false_eq_true] at hlisted
    next row =>
    rw [Bool.and_eq_true, decide_eq_true_eq] at hlisted
    exact ⟨row, hrow, hlisted⟩
  · rintro ⟨row, hrow, hid, hsince⟩
    exact ⟨_, hrow, by simp [SiteRow.unverifiedLead, hid, hsince]⟩

theorem of_hasListed {seen : List SiteRow} (h : hasListed name seen id = true) :
    ∃ now batchSize sessionIdFor, name = .runRetentionCleanup now batchSize sessionIdFor := by
  unfold hasListed at h
  split at h
  · exact ⟨_, _, _, rfl⟩
  · cases h

/-- The note a call begins with. -/
def startsNoted : SiteCall → CleanupNote → Prop
  | .runRetentionCleanup now _ _, g => g = some (now - unverifiedLeadRetentionMs, [])
  | _, g => g = none

theorem begins_noted (name : SiteCall) : ∃ g₀, startsNoted name g₀ ∧
    (SiteCall.script U site name).Keeps siteSchema cleanupConduct (fun _ _ => True) g₀ := by
  cases name with
  | runRetentionCleanup now batchSize sessionIdFor =>
    exact ⟨_, rfl, .bind ((cleans now batchSize sessionIdFor).mono fun _ _ _ => trivial)⟩
  | _ => exact ⟨none, rfl, keeps_other _⟩

theorem noted_fresh {programs : SiteCall → SiteScript SiteAnswer} {g₀ : CleanupNote} (h : startsNoted name g₀) :
    Noted g₀ (w.fresh programs name) := by
  rintro now batchSize sessionIdFor hname
  have hname : name = .runRetentionCleanup now batchSize sessionIdFor := hname
  subst hname
  exact ⟨[], h, fun id hid => absurd hid not_mem_nil, fun id o ho => absurd ho not_mem_nil⟩

theorem Unverified.goesOn (h : Unverified w) (hcall : ∀ id, hasListed call.name call.seen id = true →
    isVerified w.db id = false) : Unverified (w.goesOn c call) := by
  intro c' call' id hc' hlisted
  rcases of_get_set hc' with ⟨-, rfl⟩ | ⟨-, hc'⟩
  · exact hcall id hlisted
  · exact h c' call' id hc' hlisted

section

variable {statement : Statement SiteKey SiteEntry SiteRow} {writes : Writes SiteKey SiteRow} {rows : List SiteRow}
  {g₁ : CleanupNote}

theorem unverified_runs (hs : w.Sound siteSchema) (hc : w.calls.get c = some call) (hnoted : Noted (g c) call)
    (hold : ∀ id, hasListed call.name call.seen id = true → isVerified w.db id = false)
    (houtcome : (siteSchema.effect (call.view w.db) statement).outcome = some (writes, rows))
    (hdoes : cleanupConduct.does (g c) (call.view w.db) (siteSchema.effect (call.view w.db) statement).locks writes
      rows g₁) (id : String) (h : hasListed call.name (call.seen ++ rows) id = true) :
    isVerified w.db id = false := by
  obtain ⟨now, batchSize, sessionIdFor, hname⟩ := of_hasListed h
  obtain ⟨row, hrow, rfl, hsince⟩ := (hasListed_iff hname).1 h
  rcases mem_append.1 hrow with hrow | hrow
  · exact hold _ ((hasListed_iff hname).2 ⟨row, hrow, rfl, hsince⟩)
  obtain ⟨ids, hg, -, hmine⟩ := hnoted now batchSize sessionIdFor hname
  rw [hg] at hdoes
  obtain ⟨ids', -, -, hnew⟩ := hdoes
  simp only [Lead.unverifiedSince, Bool.and_eq_true, Option.isNone_iff_eq_none] at hsince
  -- A lead that the cleanup wrote itself is anonymised, so it is one that was committed.
  have hthere {row' : Lead} (ho : some (SiteRow.lead row) = some (.lead row')) (hgone : row'.anonymizedAt.isSome) :
      False := by
    cases ho
    rw [hsince.1.2] at hgone
    cases hgone
  rcases Schema.mem_rows_of_effect houtcome hrow with hview | ⟨k, hk⟩
  · have hget : (call.view w.db).get (.lead row.id) = some (.lead row) := (hs.view_keyed hc).get_of_mem hview
    rcases mem_of_get_overlay hget with hw | ⟨hdb, -⟩
    · obtain ⟨-, row', ho, hgone⟩ := hmine row.id _ hw
      exact (hthere ho hgone).elim
    · rw [Bool.eq_false_iff]
      intro hverified
      obtain ⟨lead, hlead, hsome, -⟩ := isVerified_iff.1 hverified
      cases hdb.symm.trans hlead
      rw [hsince.1.1] at hsome
      cases hsome
  · have hkey : SiteKey.lead row.id = k :=
      (Schema.covers_effect (hs.view_keyed hc) (hs.view_fine hc).distinct houtcome).keyed hk
    obtain ⟨-, row', ho, hgone⟩ := hnew row.id _ (hkey ▸ hk)
    exact (hthere ho hgone).elim

theorem noted_runs (hnoted : Noted (g c) call) (hdoes : cleanupConduct.does (g c) (call.view w.db)
      (siteSchema.effect (call.view w.db) statement).locks writes rows g₁)
    (script : SiteScript SiteAnswer) (locks : List (Lock SiteKey SiteEntry)) : Noted g₁ { call with
      script := script, writes := call.writes ++ writes, locks := locks, seen := call.seen ++ rows } := by
  intro now batchSize sessionIdFor hname
  have hname : call.name = .runRetentionCleanup now batchSize sessionIdFor := hname
  obtain ⟨ids, hg, hids, hmine⟩ := hnoted now batchSize sessionIdFor hname
  rw [hg] at hdoes
  obtain ⟨ids', rfl, hids', hnew⟩ := hdoes
  have hstill {id : String} (h : hasListed call.name call.seen id = true) :
      hasListed call.name (call.seen ++ rows) id = true := by
    obtain ⟨row, hrow, hlisted⟩ := (hasListed_iff hname).1 h
    exact (hasListed_iff hname).2 ⟨row, mem_append_left _ hrow, hlisted⟩
  refine ⟨ids', rfl, fun id hid => ?_, fun id o ho => ?_⟩
  · rcases hids' id hid with hid | ⟨row, hrow, hlisted⟩
    · exact hstill (hids id hid)
    · exact (hasListed_iff hname).2 ⟨row, mem_append_right _ hrow, hlisted⟩
  · rcases mem_append.1 ho with ho | ho
    · exact ⟨hstill (hmine id o ho).1, (hmine id o ho).2⟩
    · exact ⟨hstill (hids id (hnew id o ho).1), (hnew id o ho).2⟩

end

/-- **A transaction of a cleanup** leaves alone whoever is verified, where nobody is whom it has read. -/
theorem spares_of_noted (hnoted : Noted (g c) call)
    (hold : ∀ id, hasListed call.name call.seen id = true → isVerified w.db id = false) :
    SparesVerified call w.db := by
  intro now batchSize sessionIdFor hname leadId row hverified hrow
  obtain ⟨-, -, -, hmine⟩ := hnoted now batchSize sessionIdFor hname
  rcases mem_of_get_overlay hrow with hw | ⟨hdb, -⟩
  · rw [hold leadId (hmine leadId _ hw).1] at hverified
    cases hverified
  · obtain ⟨lead, hlead, -, hthere⟩ := isVerified_iff.1 hverified
    cases hdb.symm.trans hlead
    exact hthere

theorem unverified_commits (hs : w.Sound siteSchema) (h : Unverified w) (hc : w.calls.get c = some call)
    {next : SiteScript SiteAnswer} (hscript : call.script = .commits next) (hA : verifiesListed w (.goes c) = false)
    {c' : Nat} {other : SiteUnderway} (hc' : w.calls.get c' = some other)
    (hlisted : hasListed other.name other.seen id = true) : isVerified (call.view w.db) id = false := by
  rw [Bool.eq_false_iff]
  intro hverified
  obtain ⟨lead, hlead, -⟩ := isVerified_iff.1 hverified
  have hid : lead.id = id := SiteKey.lead.inj (hs.view_keyed hc hlead)
  subst hid
  have hrow : lead ∈ leads.rows (call.view w.db) := (Table.mem_rows (hs.view_fine hc)).2 hlead
  have hother : other ∈ w.calls.values := Schema.mem_values_iff.2 ⟨c', hc'⟩
  simp only [verifiesListed, hc, hscript, Script.commitsNext, Bool.true_and, any_eq_false, Bool.and_eq_true,
    Bool.not_eq_true', any_eq_true, not_and, not_exists] at hA
  exact hA lead hrow ⟨hverified, h c' other lead.id hc' hlisted⟩ other hother hlisted

theorem spared_append (h : ∀ call before, .emitted (.committed call before) ∈ log → SparesVerified call before)
    (hout : ∀ call before, .committed call before ∈ out → SparesVerified call before) :
    ∀ call before, .emitted (.committed call before) ∈ log ++ Reactor.stepLog action out →
      SparesVerified call before := by
  intro call before hmem
  exact (heard_before_or_now hmem).elim (h call before) (hout call before)

/-- **A step** keeps what holds of the cleanups. -/
theorem CleansUp.step (hs : w.Sound siteSchema) (h : CleansUp w g log) (hA : verifiesListed w action = false)
    (hm : NotedMoves siteSchema (SiteCall.script U site) cleanupConduct startsNoted (fun _ _ => True) w g action w'
      g' out) : CleansUp w' g' (log ++ Reactor.stepLog action out) := by
  have hnone : ∀ call before, (.committed call before : SiteNotice) ∈ [] → SparesVerified call before := by
    intro call before hmem
    cases hmem
  cases hm with
  | passes ms => exact ⟨h.noted, h.unverified, spared_append h.spared hnone⟩
  | begins hfree hstarts =>
    refine ⟨Txn.World.noted_goesOn h.noted (noted_fresh hstarts), h.unverified.goesOn fun id hlisted => ?_,
      spared_append h.spared hnone⟩
    obtain ⟨now, batchSize, sessionIdFor, hname⟩ := of_hasListed hlisted
    obtain ⟨row, hrow, -⟩ := (hasListed_iff hname).1 hlisted
    cases hrow
  | ends c =>
    exact ⟨fun c' call' hc' => h.noted c' call' (Txn.World.get_of_ends hc'),
      fun c' call' id hc' => h.unverified c' call' id (Txn.World.get_of_ends hc'), spared_append h.spared hnone⟩
  | answers hc _ =>
    refine ⟨fun c' call' hc' => h.noted c' call' (Txn.World.get_of_ends hc'),
      fun c' call' id hc' => h.unverified c' call' id (Txn.World.get_of_ends hc'), spared_append h.spared ?_⟩
    intro call before hmem
    rw [mem_singleton] at hmem
    cases hmem
  | @reads c call hc script =>
    refine ⟨?_, h.unverified.goesOn fun id => h.unverified c call id hc, spared_append h.spared hnone⟩
    rw [← Function.update_eq_self c g]
    exact Txn.World.noted_goesOn h.noted (h.noted c call hc)
  | @runs c call statement script writes rows g₁ hc hbarred houtcome hsees hdoes =>
    have hold := fun id => h.unverified c call id hc
    exact ⟨Txn.World.noted_goesOn h.noted (noted_runs (h.noted c call hc) hdoes script _),
      h.unverified.goesOn (unverified_runs hs hc (h.noted c call hc) hold houtcome hdoes),
      spared_append h.spared hnone⟩
  | @commits c call script g₁ hc hscript hsees hcommits =>
    have hnoted : Noted g₁ { call with script := script, writes := [], locks := [], began := call.view w.db } := by
      intro now batchSize sessionIdFor hname
      obtain ⟨ids, hg, hids, -⟩ := h.noted c call hc now batchSize sessionIdFor hname
      have hcommits : g₁ = g c := hcommits
      exact ⟨ids, hcommits.trans hg, hids, fun id o ho => absurd ho not_mem_nil⟩
    refine ⟨Txn.World.noted_goesOn h.noted hnoted, ?_, spared_append h.spared ?_⟩
    · intro c' call' id hc' hlisted
      rcases of_get_set hc' with ⟨-, rfl⟩ | ⟨-, hc'⟩
      · exact unverified_commits hs h.unverified hc hscript hA hc hlisted
      · exact unverified_commits hs h.unverified hc hscript hA hc' hlisted
    · intro call' before hmem
      rw [mem_singleton] at hmem
      cases hmem
      exact spares_of_noted (h.noted c call hc) fun id => h.unverified c call id hc

/-- **A cleanup leaves alone whoever is verified**, in every run where nobody's verification is committed while a
cleanup under way has read them among those it is to anonymise. -/
theorem retention_spares_verified (U : UrlLib) (site : Site) (now : Int) {db : SiteDb} (hfine : siteSchema.Fine db)
    (actions : List (Txn.Action SiteCall))
    (hmeets : (siteMachine U site).Meets (fun w action => verifiesListed w action = false) (Txn.World.start now db)
      actions) :
    ∀ call before, .emitted (.committed call before) ∈ (siteMachine U site).log (Txn.World.start now db) actions →
      SparesVerified call before := by
  have hstart : CleansUp (Txn.World.start now db) (fun _ => none) [] := by
    refine ⟨fun c call hc => ?_, fun c call id hc => ?_, fun call before hmem => ?_⟩
    · cases hc
    · cases hc
    · cases hmem
  obtain ⟨g', h, -⟩ := Txn.World.log_keeps (P := CleansUp)
    (fun w c name _ => begins_noted name) (fun _ _ _ _ _ => trivial) (fun hs h hA hm => h.step hs hA hm)
    (.start hfine) rfl hstart actions hmeets
  exact h.spared

end

/-! ## Somebody who verifies their address in between -/

/-- Somebody who left their address long ago, and has a token to verify it with. -/
def waitingLead : Lead where
  id := "lead"
  supabaseUserId := none
  emailNormalizedCiphertext := "sealed:ada"
  emailLookupHash := "ada"
  phoneE164Ciphertext := none
  phoneLookupHash := none
  role := "owner"
  name := none
  volumeBucket := none
  verifiedAt := none
  createdAt := 0
  unsubscribedAt := none
  deletionRequestedAt := none
  anonymizedAt := none
  dataAccessRequestedAt := none
  firstSegment := .store
  firstSessionId := "visit"

/-- What the cleanup finds. -/
def waitingDb : SiteDb :=
  ((((Dict.empty.set (.session "visit") (.session ⟨"visit", "visitor", 0, .none, .none, some "consent"⟩)).set
    (.consent "consent") (.consent ⟨"consent", "visit", "phase-a-v1", none,
      ⟨some true, none, none, none, none, none⟩, 0, "landing"⟩)).set (.scan "scan") (.scan sharedScan)).set
    (.lead "lead") (.lead waitingLead)).set (.token "token")
      (.token ⟨"token", "lead", "scan", "sha256:opens", 10000000000, none⟩)

theorem waiting_fine : siteSchema.Fine waitingDb := Schema.fine_of_entries (by decide +kernel) (by decide +kernel)

/-- Somebody brings their token back. -/
def waitingVerifies : List (Txn.Action SiteCall) :=
  .begins 1 (.verifyEmailToken "opens" ⟨"place", 1, "session", "opens-reports", ⟨"event", fun _ => "told"⟩⟩) ::
    List.replicate 30 (.goes 1)

def waitingListed : List (Txn.Action SiteCall) :=
  .begins 0 (.runRetentionCleanup 5000000000 none fun _ => "gone") :: List.replicate 6 (.goes 0)

/-- A cleanup that nobody comes in between of: the lead verifies before it, and it erases nobody verified. -/
theorem waiting_spared : (siteMachine examplePlatform plainSite).Meets
      (fun w action => verifiesListed w action = false) (Txn.World.start 0 waitingDb)
      (waitingVerifies ++ waitingListed ++ List.replicate 30 (.goes 0)) ∧
    ∀ call before, .emitted (.committed call before) ∈
      (siteMachine examplePlatform plainSite).log (Txn.World.start 0 waitingDb)
        (waitingVerifies ++ waitingListed ++ List.replicate 30 (.goes 0)) → SparesVerified call before := by
  have hmeets : (siteMachine examplePlatform plainSite).Meets
      (fun w action => verifiesListed w action = false) (Txn.World.start 0 waitingDb)
      (waitingVerifies ++ waitingListed ++ List.replicate 30 (.goes 0)) := by decide +kernel
  exact ⟨hmeets, retention_spares_verified _ _ _ waiting_fine _ hmeets⟩

/-- Whether a cleanup commits the erasure of a lead who is verified. -/
def erasesVerified (leadId : String) : Happening (Txn.Action SiteCall) SiteNotice → Bool
  | .emitted (.committed call before) =>
    match call.name, (call.view before).get (.lead leadId) with
    | .runRetentionCleanup .., some (.lead row) => isVerified before leadId && row.anonymizedAt.isSome
    | _, _ => false
  | _ => false

/-- A cleanup erases somebody whose verification was committed before it came to them. -/
theorem verified_lead_erased : ¬ ∀ (U : UrlLib) (site : Site) (now : Int) (db : SiteDb), siteSchema.Fine db →
    ∀ (actions : List (Txn.Action SiteCall)) (call : SiteUnderway) (before : SiteDb),
      .emitted (.committed call before) ∈ (siteMachine U site).log (Txn.World.start now db) actions →
        SparesVerified call before := by
  intro h
  have herases : ((siteMachine examplePlatform plainSite).log (Txn.World.start 0 waitingDb)
      (waitingListed ++ waitingVerifies ++ List.replicate 30 (.goes 0))).any (erasesVerified "lead") = true := by
    decide +kernel
  obtain ⟨happening, hmem, hhappening⟩ := List.any_eq_true.1 herases
  unfold erasesVerified at hhappening
  split at hhappening
  · next call before =>
    split at hhappening
    · next hname hrow =>
      rw [Bool.and_eq_true] at hhappening
      have hthere := h _ _ _ _ waiting_fine _ call before hmem _ _ _ hname "lead" _ hhappening.1 hrow
      rw [hthere] at hhappening
      cases hhappening.2
    · cases hhappening
  · cases hhappening

end Coinslot
