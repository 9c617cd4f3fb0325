import Coinslot.Scanner.Outbox

/-!
# Rows of the outbox are settled once

A row that was delivered, or given up, stays as it is, is not claimed again, and names no click
(`settles_once`). That a delivery is on record once it is recorded takes more: every record is made against a
row that is being worked on, and not against the claim it is made for. A cycle that is slower than two
minutes finds the row of another cycle's claim, and what it records of its own delivery, that the row is to be
tried again or given up, makes the other cycle's record of a delivery come to nothing. So the theorem asks
that such a record is made for the last claim of a row (`RecordsItsClaim`).
-/

namespace Coinslot

open List

variable {Doc : Type}

/-- Whether a step that records a failure records it for the last claim of the row, where the row is being
worked on. -/
def RecordsItsClaim (s : Outbox Doc) : OutboxAction Doc → Prop
  | .records cycle id _ =>
    ∀ work, s.works.find? (OutboxWork.on cycle id) = some work → work.phase ≠ .recording .delivered →
      ∀ row ∈ s.rows, row.id = id → row.status = .processing → row.attempts = work.row.attempts
  | _ => True

/-- The claim a work was begun with: of which row, and which of its claims. -/
def OutboxWork.token (work : OutboxWork Doc) : String × Nat := (work.row.id, work.row.attempts)

/-- What holds of the rows and of the works on them: a work was begun with a claim of a row that is there, no
two with the same claim, and the row of the last claim is being worked on, or delivered. -/
structure Outbox.Sound (s : Outbox Doc) : Prop where
  distinct : (s.rows.map (·.id)).Nodup
  scrubbed : ∀ row ∈ s.rows, row.status.settled = true → row.destination = .partnerTracker →
    row.payload.clickId = none
  claimed : ∀ token ∈ s.works.map OutboxWork.token, ∃ row ∈ s.rows, row.id = token.1 ∧
    token.2 ≤ row.attempts ∧ (token.2 = row.attempts → row.status = .processing ∨ row.status = .delivered)
  apart : (s.works.map OutboxWork.token).Nodup

/-- A step that settles no row twice: what was done with stays as it is, is not claimed, and names no click;
and a delivery that is recorded for the last claim of a row is on record. -/
structure SettlesOnce (s : Outbox Doc) (action : OutboxAction Doc) (came : Outbox Doc × List OutboxNotice) :
    Prop where
  final : ∀ row ∈ s.rows, row.status.settled = true → row ∈ came.1.rows ∧
    ∀ cycle, .claimed cycle row.id ∉ came.2
  scrubbed : ∀ row ∈ s.rows, row.status.settled = true → row.destination = .partnerTracker →
    row.payload.clickId = none
  recorded : ∀ cycle id now work, action = .records cycle id now →
    s.works.find? (OutboxWork.on cycle id) = some work → work.phase = .recording .delivered →
      (∀ row ∈ s.rows, row.id = id → row.attempts = work.row.attempts) →
        ∃ row ∈ came.1.rows, row.id = id ∧ row.status = .delivered

namespace Outbox

variable {s s' : Outbox Doc} {action : OutboxAction Doc} {out : List OutboxNotice}

theorem empty_sound : (empty : Outbox Doc).Sound :=
  ⟨nodup_nil, by rintro _ ⟨⟩, by rintro _ ⟨⟩, nodup_nil⟩

variable {row : OutboxRow Doc}

theorem Sound.row_eq (hs : s.Sound) {other : OutboxRow Doc} (hrow : row ∈ s.rows)
    (hother : other ∈ s.rows) (hid : row.id = other.id) : row = other :=
  inj_on_of_nodup_map hs.distinct hrow hother hid

/-! ## Steps that leave the rows alone -/

theorem Sound.works (hs : s.Sound) {works : List (OutboxWork Doc)}
    (hsub : (works.map OutboxWork.token).Sublist (s.works.map OutboxWork.token)) :
    (⟨s.rows, works⟩ : Outbox Doc).Sound :=
  ⟨hs.distinct, hs.scrubbed, fun token htoken => hs.claimed token (hsub.subset htoken), hs.apart.sublist hsub⟩

theorem Sound.moves (hs : s.Sound) (cycle : Nat) (id : String) (phase : OutboxPhase) :
    (s.moves cycle id phase).Sound := by
  have hsame : (Rows.update s.works (OutboxWork.on cycle id) fun work => { work with phase := phase }).map
      OutboxWork.token = s.works.map OutboxWork.token := Rows.map_update fun _ => rfl
  exact hs.works (hsame ▸ List.Sublist.refl _)

theorem Sound.ends (hs : s.Sound) (cycle : Nat) (id : String) : (s.ends cycle id).Sound :=
  hs.works (filter_sublist.map _)

/-! ## Steps that write rows -/

variable {id : String}

variable {eventId : String} {destination : DeliveryDestination} {payload : OutboxPayload Doc} {now occurredAt : Int}

theorem inserts_spec (h : s.inserts id eventId destination payload occurredAt now = .ok s') :
    s'.works = s.works ∧ (s'.rows = s.rows ∨ (∀ row ∈ s.rows, row.id ≠ id) ∧ s'.rows = s.rows ++
        [⟨id, eventId, destination, payload, .pending, 0, now, none, none, occurredAt⟩]) := by
  unfold inserts at h
  split at h
  · next rows _ hinsert =>
    cases h
    refine ⟨rfl, ?_⟩
    rcases Rows.of_insertUnless_ok hinsert with hsame | ⟨hnew, hapart⟩
    · exact .inl hsame
    · refine .inr ⟨fun row hrow hid => ?_, hnew⟩
      have hclash := any_eq_false.1 (hapart outboxPkey (.head _)) row hrow
      exact hclash (decide_eq_true hid.symm)
  · cases h

theorem Sound.inserts (hs : s.Sound) (h : s.inserts id eventId destination payload occurredAt now = .ok s') :
    s'.Sound := by
  obtain ⟨rows, works⟩ := s'
  obtain ⟨hworks, hrows⟩ := inserts_spec h
  subst hworks
  rcases hrows with rfl | ⟨hfree, rfl⟩
  · exact hs
  · refine ⟨?_, ?_, ?_, hs.apart⟩
    · rw [map_append]
      refine hs.distinct.append (nodup_singleton _) ?_
      simp only [map_cons, map_nil, disjoint_singleton, mem_map, not_exists, not_and]
      exact hfree
    · intro row hrow hsettled
      rcases mem_append.1 hrow with hold | hnew
      · exact hs.scrubbed row hold hsettled
      · cases mem_singleton.1 hnew
        cases hsettled
    · intro token htoken
      obtain ⟨row, hrow, hclaim⟩ := hs.claimed token htoken
      exact ⟨row, mem_append_left _ hrow, hclaim⟩

/-! ### Claims -/

theorem of_mem_chosen {limit : Nat} {destinations : List DeliveryDestination} {locked : List String}
    (h : row ∈ OutboxRows.chosen s.rows limit destinations locked now) :
    row ∈ s.rows ∧ row.status.settled = false := by
  have hsorted := (mem_filter.1 (mem_of_mem_take h)).1
  obtain ⟨hrow, hdue⟩ := mem_filter.1 ((mem_insertionSort _).1 hsorted)
  refine ⟨hrow, ?_⟩
  unfold OutboxRow.due at hdue
  cases hstatus : row.status with
  | pending => rfl
  | processing => rfl
  | delivered => simp [hstatus] at hdue
  | deadLetter => simp [hstatus] at hdue

theorem Sound.chosen_distinct (hs : s.Sound) (limit : Nat) (destinations : List DeliveryDestination)
    (locked : List String) (now : Int) :
    ((OutboxRows.chosen s.rows limit destinations locked now).map (·.id)).Nodup := by
  have hdue : ((s.rows.filter (OutboxRow.due destinations now)).map (·.id)).Nodup :=
    hs.distinct.sublist (filter_sublist.map _)
  have hsorted := ((perm_insertionSort (fun row other => OutboxRow.before row other = true)
    (s.rows.filter (OutboxRow.due destinations now))).map (·.id)).nodup_iff.2 hdue
  exact hsorted.sublist (((take_sublist _ _).trans filter_sublist).map _)

section
variable {limit : Nat} {destinations : List DeliveryDestination} {locked : List String} {now : Int}

theorem Sound.mem_chosen (hs : s.Sound) {row : OutboxRow Doc} (hrow : row ∈ s.rows)
    (hnamed : ((OutboxRows.chosen s.rows limit destinations locked now).any fun other =>
      other.id = row.id) = true) : row ∈ OutboxRows.chosen s.rows limit destinations locked now := by
  obtain ⟨other, hother, hid⟩ := any_eq_true.1 hnamed
  obtain rfl := hs.row_eq (of_mem_chosen hother).1 hrow (of_decide_eq_true hid)
  exact hother

theorem Sound.claims (hs : s.Sound) (cycle : Nat) : (s.claims cycle limit destinations locked now).1.Sound := by
  let chosen := OutboxRows.chosen s.rows limit destinations locked now
  let named : OutboxRow Doc → Bool := fun row => chosen.any fun other => other.id = row.id
  have hnamed {row : OutboxRow Doc} (hrow : row ∈ chosen) : named row = true :=
    any_eq_true.2 ⟨row, hrow, decide_eq_true rfl⟩
  have htokens : ((chosen.map (OutboxRow.claimed now)).map fun row =>
      (⟨cycle, row, .judging⟩ : OutboxWork Doc)).map OutboxWork.token =
        chosen.map fun row => (row.id, row.attempts + 1) := by
    rw [map_map, map_map]
    rfl
  refine ⟨?_, ?_, ?_, ?_⟩
  · have hids : (Rows.update s.rows named (OutboxRow.claimed now)).map (·.id) = s.rows.map (·.id) :=
      Rows.map_update fun _ => rfl
    exact hids ▸ hs.distinct
  · intro row hrow hsettled
    obtain ⟨old, hold, rfl⟩ := mem_map.1 hrow
    split at hsettled
    · cases hsettled
    · next hnot =>
      rw [if_neg hnot]
      exact hs.scrubbed old hold hsettled
  · intro token htoken
    rw [show (s.claims cycle limit destinations locked now).1.works = s.works ++
      (chosen.map (OutboxRow.claimed now)).map fun row => ⟨cycle, row, .judging⟩ from rfl,
      map_append, htokens] at htoken
    rcases mem_append.1 htoken with hold | hnew
    · -- the claim of a row that is claimed again is no longer its last
      obtain ⟨row, hrow, hid, hle, hlast⟩ := hs.claimed token hold
      cases hclaimed : named row with
      | true =>
        refine ⟨_, Rows.mem_update_of_set hrow hclaimed _, hid, Nat.le_succ_of_le hle, fun heq => ?_⟩
        have heq : token.2 = row.attempts + 1 := heq
        omega
      | false => exact ⟨row, Rows.mem_update_of_not hrow hclaimed _, hid, hle, hlast⟩
    · obtain ⟨row, hrow, rfl⟩ := mem_map.1 hnew
      exact ⟨_, Rows.mem_update_of_set (of_mem_chosen hrow).1 (hnamed hrow) _, rfl, le_rfl, fun _ => .inl rfl⟩
  · show ((s.works ++ (chosen.map (OutboxRow.claimed now)).map fun row =>
      (⟨cycle, row, .judging⟩ : OutboxWork Doc)).map OutboxWork.token).Nodup
    rw [map_append, htokens]
    refine hs.apart.append ?_ ?_
    · refine List.Nodup.of_map Prod.fst ?_
      rw [map_map]
      exact hs.chosen_distinct limit destinations locked now
    · intro token hold hnew
      obtain ⟨row, hrow, rfl⟩ := mem_map.1 hnew
      obtain ⟨other, hother, hid, hle, -⟩ := hs.claimed _ hold
      obtain rfl := hs.row_eq hother (of_mem_chosen hrow).1 hid
      have hle : other.attempts + 1 ≤ other.attempts := hle
      omega

theorem Sound.claims_final (hs : s.Sound) (cycle : Nat) {row : OutboxRow Doc} (hrow : row ∈ s.rows)
    (hsettled : row.status.settled = true) : row ∈ (s.claims cycle limit destinations locked now).1.rows ∧
      ∀ other, .claimed other row.id ∉ (s.claims cycle limit destinations locked now).2 := by
  have hunchosen : row ∉ OutboxRows.chosen s.rows limit destinations locked now := by
    intro hchosen
    rw [(of_mem_chosen hchosen).2] at hsettled
    cases hsettled
  refine ⟨Rows.mem_update_of_not hrow ?_ _, fun other hclaimed => ?_⟩
  · exact Bool.eq_false_iff.2 fun hnamed => hunchosen (hs.mem_chosen hrow hnamed)
  · obtain ⟨claimed, hin, heq⟩ := mem_map.1 hclaimed
    obtain ⟨chosen, hchosen, rfl⟩ := mem_map.1 hin
    have hid : chosen.id = row.id := congrArg (fun notice => match notice with
      | OutboxNotice.claimed _ id => id) heq
    exact hunchosen (hs.row_eq (of_mem_chosen hchosen).1 hrow hid ▸ hchosen)

end

/-! ### Records -/

/-- What a row is set to by a record. -/
def written (now : Int) : Recording → OutboxRow Doc → OutboxRow Doc
  | .delivered => OutboxRow.delivered now
  | .retry code nextAttemptAt => OutboxRow.retried code nextAttemptAt
  | .deadLetter code => OutboxRow.deadLettered code

theorem record_eq (rows : List (OutboxRow Doc)) (id : String) (now : Int) (word : Recording) :
    OutboxRows.record rows id now word = Rows.update rows (OutboxRows.processing id) (written now word) := by
  cases word <;> rfl

@[simp] theorem written_id (now : Int) (word : Recording) (row : OutboxRow Doc) :
    (written now word row).id = row.id := by cases word <;> rfl

@[simp] theorem written_attempts (now : Int) (word : Recording) (row : OutboxRow Doc) :
    (written now word row).attempts = row.attempts := by cases word <;> rfl

theorem written_scrubbed (now : Int) (word : Recording) (row : OutboxRow Doc)
    (hsettled : (written now word row).status.settled = true)
    (hpartner : (written now word row).destination = .partnerTracker) :
    (written now word row).payload.clickId = none := by
  have hleft (hpartner : row.destination = .partnerTracker) : row.leftPayload.clickId = none := by
    rw [OutboxRow.leftPayload, if_pos hpartner]
    rfl
  cases word with
  | delivered => exact hleft hpartner
  | retry code nextAttemptAt => cases hsettled
  | deadLetter code => exact hleft hpartner

theorem processing_iff : OutboxRows.processing id row = true ↔ row.id = id ∧ row.status = .processing := by
  simp [OutboxRows.processing]

theorem record_final {rows : List (OutboxRow Doc)} (hrow : row ∈ rows)
    (hsettled : row.status.settled = true) (id : String) (now : Int) (word : Recording) :
    row ∈ OutboxRows.record rows id now word := by
  rw [record_eq]
  refine Rows.mem_update_of_not hrow (Bool.eq_false_iff.2 fun hprocessing => ?_) _
  rw [(processing_iff.1 hprocessing).2] at hsettled
  cases hsettled

section

variable (hs : s.Sound)
include hs

variable {cycle : Nat} {work : OutboxWork Doc}

theorem Sound.records (now : Int) {word : Recording} (hwork : s.works.find? (OutboxWork.on cycle id) = some work)
    (hword : work.phase = .recording word)
    (hlast : work.phase ≠ .recording .delivered → ∀ row ∈ s.rows, row.id = id → row.status = .processing →
      row.attempts = work.row.attempts) :
    ({ s with rows := OutboxRows.record s.rows id now word }.ends cycle id).Sound := by
  have hrecorded : ({ s with rows := OutboxRows.record s.rows id now word }.ends cycle id).rows =
      Rows.update s.rows (OutboxRows.processing id) (written now word) := record_eq ..
  have hon : work.cycle = cycle ∧ work.row.id = id := by simpa [OutboxWork.on] using find?_some hwork
  have hin := mem_of_find?_eq_some hwork
  refine ⟨?_, ?_, ?_, hs.apart.sublist (filter_sublist.map _)⟩
  · have hids : (Rows.update s.rows (OutboxRows.processing id) (written now word)).map (·.id) =
        s.rows.map (·.id) := Rows.map_update fun row => written_id now word row
    rw [hrecorded, hids]
    exact hs.distinct
  · intro row hrow hsettled hpartner
    rw [hrecorded] at hrow
    obtain ⟨old, hold, rfl⟩ := mem_map.1 hrow
    split at hsettled
    · next hset =>
      rw [if_pos hset] at hpartner ⊢
      exact written_scrubbed now word old hsettled hpartner
    · next hnot =>
      rw [if_neg hnot] at hpartner ⊢
      exact hs.scrubbed old hold hsettled hpartner
  · intro token htoken
    obtain ⟨other, hother, rfl⟩ := mem_map.1 htoken
    obtain ⟨hmem, hdifferent⟩ := mem_filter.1 hother
    obtain ⟨row, hrow, hid, hle, hclaim⟩ := hs.claimed _ (mem_map.2 ⟨other, hmem, rfl⟩)
    rw [hrecorded]
    cases hset : OutboxRows.processing id row with
    | false => exact ⟨row, Rows.mem_update_of_not hrow hset _, hid, hle, hclaim⟩
    | true =>
      refine ⟨_, Rows.mem_update_of_set hrow hset _, by simpa using hid, by simpa using hle, fun heq => ?_⟩
      cases hcase : word with
      | delivered => exact .inr rfl
      | retry | deadLetter =>
        -- a failure is recorded for the last claim, and no other work was begun with it
        have hid : row.id = id := (processing_iff.1 hset).1
        have hattempts := hlast (by rw [hword, hcase]; exact fun h => nomatch h) row hrow hid
          (processing_iff.1 hset).2
        have hsame : other.token = work.token :=
          Prod.ext (‹row.id = other.token.1›.symm.trans (hid.trans hon.2.symm))
            (heq.trans ((written_attempts now word row).trans hattempts))
        obtain rfl := inj_on_of_nodup_map hs.apart hmem hin hsame
        rw [find?_some hwork] at hdifferent
        cases hdifferent

theorem Sound.recorded (now : Int) (hwork : s.works.find? (OutboxWork.on cycle id) = some work)
    (hlast : ∀ row ∈ s.rows, row.id = id → row.attempts = work.row.attempts) :
    ∃ row ∈ OutboxRows.record s.rows id now .delivered, row.id = id ∧ row.status = .delivered := by
  have hon : work.cycle = cycle ∧ work.row.id = id := by simpa [OutboxWork.on] using find?_some hwork
  obtain ⟨row, hrow, hid, -, hclaim⟩ :=
    hs.claimed work.token (mem_map.2 ⟨work, mem_of_find?_eq_some hwork, rfl⟩)
  have hid : row.id = id := hid.trans hon.2
  rcases hclaim (hlast row hrow hid).symm with hprocessing | hdelivered
  · exact ⟨_, Rows.mem_update_of_set hrow (processing_iff.2 ⟨hid, hprocessing⟩) _, hid, rfl⟩
  · refine ⟨row, Rows.mem_update_of_not hrow (Bool.eq_false_iff.2 fun h => ?_) _, hid, hdelivered⟩
    cases hdelivered.symm.trans (processing_iff.1 h).2

/-! ## Every step -/

theorem step_sound (hmeets : RecordsItsClaim s action) (h : s.step action = .ok (s', out)) : s'.Sound := by
  cases action with
  | inserts id eventId destination payload occurredAt now =>
    cases hinserts : s.inserts id eventId destination payload occurredAt now with
    | error _ => simp [step, hinserts, Except.map] at h
    | ok after =>
      simp only [step, hinserts, Except.map, Except.ok.injEq, Prod.mk.injEq] at h
      obtain ⟨rfl, rfl⟩ := h
      exact hs.inserts hinserts
  | claims cycle limit destinations locked now =>
    simp only [step] at h
    split at h
    · cases h
    · cases h; exact hs.claims cycle
  | judges cycle id now =>
    simp only [step] at h
    split at h
    · cases h
      unfold judges
      split
      · exact hs.moves _ _ _
      · exact hs.moves _ _ _
    · cases h
  | delivers cycle id result =>
    simp only [step] at h
    split at h
    · cases h; exact hs.moves _ _ _
    · cases h
  | records cycle id now =>
    simp only [step] at h
    split at h
    · next hwork =>
      cases h
      exact hs.records now hwork rfl (hmeets _ hwork)
    · cases h
  | dies cycle id => cases h; exact hs.ends cycle id

theorem step_final (h : s.step action = .ok (s', out)) (hrow : row ∈ s.rows) (hsettled : row.status.settled = true) :
    row ∈ s'.rows ∧ ∀ cycle, .claimed cycle row.id ∉ out := by
  cases action with
  | inserts id eventId destination payload occurredAt now =>
    cases hinserts : s.inserts id eventId destination payload occurredAt now with
    | error _ => simp [step, hinserts, Except.map] at h
    | ok after =>
      simp only [step, hinserts, Except.map, Except.ok.injEq, Prod.mk.injEq] at h
      obtain ⟨rfl, rfl⟩ := h
      refine ⟨?_, fun _ => not_mem_nil⟩
      rcases (inserts_spec hinserts).2 with hsame | ⟨-, hnew⟩
      · rw [hsame]; exact hrow
      · rw [hnew]; exact mem_append_left _ hrow
  | claims cycle limit destinations locked now =>
    simp only [step] at h
    split at h
    · cases h
    · cases h; exact hs.claims_final cycle hrow hsettled
  | judges cycle id now =>
    simp only [step] at h
    split at h
    · cases h
      unfold judges
      split
      · exact ⟨hrow, fun _ => not_mem_nil⟩
      · exact ⟨hrow, fun _ => not_mem_nil⟩
    · cases h
  | delivers cycle id result =>
    simp only [step] at h
    split at h
    · cases h; exact ⟨hrow, fun _ => not_mem_nil⟩
    · cases h
  | records cycle id now =>
    simp only [step] at h
    split at h
    · cases h; exact ⟨record_final hrow hsettled id now _, fun _ => not_mem_nil⟩
    · cases h
  | dies cycle id => cases h; exact ⟨hrow, fun _ => not_mem_nil⟩

/-- **A step settles no row twice**, where the rows and the works are in order. -/
theorem step_settles (h : s.step action = .ok (s', out)) : SettlesOnce s action (s', out) := by
  refine ⟨fun row hrow hsettled => step_final hs h hrow hsettled, hs.scrubbed, ?_⟩
  rintro cycle id now work rfl hwork hphase hlast
  simp only [step, hwork] at h
  obtain ⟨_, row, phase⟩ := work
  cases hphase
  cases h
  exact hs.recorded now hwork hlast

end

end Outbox

/-! ## Runs -/

theorem outboxRun_sound {actions : List (OutboxAction Doc)}
    (hmeets : (outboxMachine Doc).Meets RecordsItsClaim .empty actions) : (outboxRun actions).Sound :=
  (outboxMachine Doc).run_induction_meeting (fun hs hmeets h => Outbox.step_sound hs hmeets h)
    Outbox.empty_sound actions hmeets

/-- **The outbox settles each row once.** In every run in which a failure is recorded for the last claim of
its row: what was delivered or given up stays as it is, is not claimed again and names no click, and a
delivery that is recorded for the last claim of a row is on record. -/
theorem settles_once (actions : List (OutboxAction Doc)) (action : OutboxAction Doc)
    (came : Outbox Doc × List OutboxNotice)
    (hmeets : (outboxMachine Doc).Meets RecordsItsClaim .empty actions)
    (h : (outboxRun actions).step action = .ok came) : SettlesOnce (outboxRun actions) action came :=
  Outbox.step_settles (outboxRun_sound hmeets) h

/-- A registration is told of by one cycle. -/
def registrationTold : List (OutboxAction Unit) :=
  [.inserts "row_1" "event_1" .partnerTracker (.partnerRegistration "click_1") 0 0,
    .claims 0 20 [.partnerTracker] [] 0, .judges 0 "row_1" 0, .delivers 0 "row_1" .ok]

/-- The registration is on record, and its click is gone. -/
theorem registration_settled : ∃ came,
    (outboxRun registrationTold).step (.records 0 "row_1" 1000) = .ok came ∧
      SettlesOnce (outboxRun registrationTold) (.records 0 "row_1" 1000) came :=
  ⟨_, rfl, settles_once registrationTold (.records 0 "row_1" 1000) _
    ⟨trivial, trivial, trivial, trivial, trivial⟩ rfl⟩

/-- A cycle is slow, another one claims its row and delivers it, and before that is recorded the first records
that the row is to be tried again. -/
def slowCycle : List (OutboxAction Unit) :=
  [.inserts "row_1" "event_1" .posthog (.document ()) 0 0, .claims 0 20 [.posthog] [] 0,
    .judges 0 "row_1" 0, .claims 1 20 [.posthog] [] 120000, .judges 1 "row_1" 120000,
    .delivers 1 "row_1" .ok, .delivers 0 "row_1" (.failed "posthog_timeout" true), .records 0 "row_1" 120001]

/-- The record of the delivery comes to nothing. -/
theorem delivery_unrecorded : ¬ ∀ (actions : List (OutboxAction Unit)) (action : OutboxAction Unit)
    (came : Outbox Unit × List OutboxNotice),
    (outboxRun actions).step action = .ok came → SettlesOnce (outboxRun actions) action came := by
  intro h
  obtain ⟨row, hrow, -, hdelivered⟩ := (h slowCycle (.records 1 "row_1" 120002) _ rfl).recorded
    1 "row_1" 120002 _ rfl rfl rfl (by
      intro row hrow _
      rw [List.mem_singleton.1 hrow]
      rfl)
  rw [List.mem_singleton.1 hrow] at hdelivered
  cases hdelivered

end Coinslot
