import Mathlib.Algebra.Order.Group.Int
import Coinslot.Lib.Windows
import Coinslot.Web.RateLimits

/-!
# What the rate limits hold

No hour holds more allowed events than the limit of their key, and no day more, in every run in which nothing
is deleted that a call under way is yet to count and every call names a key once (`rate_limits_hold`). That
calls lock their keys in another order than they read the clock does no harm: the events of the hour before
count, and so do those that came after (`Windows.Rolling.append`). A cleanup does harm whose clock went on
while a call waited for its lock: what expired by the one the other still counts.

The invariant (`RateDesk.Sound`) is stated for the calls under way apart from the tables, because a call that
records is no longer one of them: what it counted is what was there before.
-/

namespace Coinslot

open Windows List Option Dict

/-- Whether a step leaves what calls under way are yet to count, and a call names every key once. -/
def LeavesCounted (s : RateDesk) : RateAction → Prop
  | .calls _ request => (request.entries.map AtomicRateEntry.key).Nodup
  | .deletesEvent _ i =>
    ∀ event, s.events[i]? = some event → ∀ c call, s.calls.get c = some call →
      event.key ∈ call.toLock.map AtomicRateEntry.key → event.occurredAt ≤ call.now - hourMs
  | .deletesWindow _ key windowStart =>
    ∀ c call, s.calls.get c = some call → key ∈ call.toLock.map AtomicRateEntry.key →
      rateWindowStart key.1 call.now ≠ windowStart
  | _ => True

/-- Whether a step asks for no more than the limits of its keys. -/
def AsksWithin (limitOf : RateKey → Nat) : RateAction → Prop
  | .calls _ request => ∀ entry ∈ request.entries, entry.limit ≤ limitOf entry.key
  | _ => True

theorem lt_windowEnd {kind : RateKind} (h : usesRollingWindow kind = false) (now : Int) :
    now < rateWindowStart kind now + dayMs := by
  have hday : rateWindowStart kind now = now - now % dayMs := by
    cases kind with
    | scanTargetDay => rfl
    | scanIpHour => cases h
    | registrationEmailHour => cases h
    | registrationSessionHour => cases h
    | merchantIpHour => cases h
    | merchantEmailHour => cases h
  have := Int.emod_lt_of_pos now (show 0 < dayMs by decide)
  omega

namespace RateDesk

def dayCount (s : RateDesk) (key : RateKey) (windowStart : Int) : Nat :=
  (s.windows.get (key, windowStart)).elim 0 (·.count)

/-! ## The invariant -/

/-- A call has a key locked, and counted what was allowed under it. -/
structure Held (s : RateDesk) (t : RateKey → List Int) (c : Nat) (now : Int) (rate : LockedRateEntry) :
    Prop where
  rolling : usesRollingWindow rate.entry.kind = true →
    s.advisory.get rate.entry.key = some c ∧ rate.expiresAt = now + hourMs ∧
      (t rate.entry.key).countP (fun u => now - hourMs < u) ≤ rate.count
  fixed : usesRollingWindow rate.entry.kind = false →
    rate.windowStart = some (rateWindowStart rate.entry.kind now) ∧
      rate.expiresAt = rateWindowStart rate.entry.kind now + dayMs ∧
      (∃ row, s.windows.get (rate.entry.key, rateWindowStart rate.entry.kind now) = some row ∧
        row.lockedBy = some c) ∧
      (t rate.entry.key).countP (fun u => rateWindowStart rate.entry.kind u =
        rateWindowStart rate.entry.kind now) ≤ rate.count

/-- A call under way is in order. -/
structure CallSound (limitOf : RateKey → Nat) (s : RateDesk) (t : RateKey → List Int) (c : Nat)
    (call : RateCall) : Prop where
  past : call.now ≤ s.now
  named : (call.locked.map (·.entry) ++ call.toLock).Perm call.request.entries
  distinct : (call.request.entries.map AtomicRateEntry.key).Nodup
  limited : ∀ entry ∈ call.request.entries, entry.limit ≤ limitOf entry.key
  held : ∀ rate ∈ call.locked, Held s t c call.now rate
  ready : call.inserted = true → ∀ entry ∈ call.toLock.head?,
    ∃ row, s.windows.get (entry.key, rateWindowStart entry.kind call.now) = some row ∧ sees c row = true

/-- An instant whose events are still to be counted under a key, by a call under way or by one to come. -/
def StillCounted (calls : Dict Nat RateCall) (s : RateDesk) (key : RateKey) (cutoff : Int) : Prop :=
  s.now - hourMs ≤ cutoff ∨ ∃ c call, calls.get c = some call ∧
    key ∈ call.toLock.map AtomicRateEntry.key ∧ call.now - hourMs ≤ cutoff

/-- A day whose row is still to be counted under a key. -/
def StillOpen (calls : Dict Nat RateCall) (s : RateDesk) (key : RateKey) (day : Int) : Prop :=
  s.now < day + dayMs ∨ ∃ c call, calls.get c = some call ∧
    key ∈ call.toLock.map AtomicRateEntry.key ∧ rateWindowStart key.1 call.now = day

/-- The limits hold, the calls under way are in order, and what is still to be counted is there. Rows that are
not committed count nothing, but for those of the call that is recording, if one is. -/
structure Sound (limitOf : RateKey → Nat) (calls : Dict Nat RateCall) (recording : Option Nat) (s : RateDesk)
    (t : RateKey → List Int) : Prop where
  rolling : ∀ key, usesRollingWindow key.1 = true → Rolling hourMs (limitOf key) (t key)
  fixed : ∀ key, usesRollingWindow key.1 = false → Bucketed (rateWindowStart key.1) (limitOf key) (t key)
  each : ∀ c call, calls.get c = some call → CallSound limitOf s t c call
  events : ∀ key cutoff, usesRollingWindow key.1 = true → StillCounted calls s key cutoff →
    (t key).countP (fun u => cutoff < u) ≤ s.counted key cutoff
  rows : ∀ key day, usesRollingWindow key.1 = false → StillOpen calls s key day →
    (t key).countP (fun u => rateWindowStart key.1 u = day) ≤ s.dayCount key day
  eventExpires : ∀ event ∈ s.events, event.expiresAt = event.occurredAt + hourMs
  rowExpires : ∀ key row, s.windows.get key = some row → row.expiresAt = key.2 + dayMs
  uncommitted : ∀ key row, s.windows.get key = some row → row.committed = false →
    row.count = 0 ∨ ∃ c, recording = some c ∧ row.lockedBy = some c

variable {limitOf : RateKey → Nat} {calls calls' : Dict Nat RateCall} {s s' : RateDesk}
  {t : RateKey → List Int} {recording : Option Nat} {c : Nat} {call : RateCall}

/-! ## What others do to a call -/

variable {now : Int} {rate : LockedRateEntry}

theorem Held.frame (h : Held s t c now rate)
    (hadvisory : ∀ key, s.advisory.get key = some c → s'.advisory.get key = some c)
    (hrows : ∀ key row, s.windows.get key = some row → row.lockedBy = some c →
      ∃ row', s'.windows.get key = some row' ∧ row'.lockedBy = some c) : Held s' t c now rate := by
  refine ⟨fun hrolling => ?_, fun hfixed => ?_⟩
  · obtain ⟨hlock, hexpires, hcount⟩ := h.rolling hrolling
    exact ⟨hadvisory _ hlock, hexpires, hcount⟩
  · obtain ⟨hstart, hexpires, ⟨row, hrow, hlock⟩, hcount⟩ := h.fixed hfixed
    exact ⟨hstart, hexpires, hrows _ row hrow hlock, hcount⟩

theorem CallSound.frame (h : CallSound limitOf s t c call) (hnow : s.now ≤ s'.now)
    (hadvisory : ∀ key, s.advisory.get key = some c → s'.advisory.get key = some c)
    (hrows : ∀ key row, s.windows.get key = some row → sees c row = true →
      ∃ row', s'.windows.get key = some row' ∧ sees c row' = true ∧
        (row.lockedBy = some c → row'.lockedBy = some c)) : CallSound limitOf s' t c call := by
  refine ⟨Int.le_trans h.past hnow, h.named, h.distinct, h.limited, fun rate hrate => ?_,
    fun hinserted entry hentry => ?_⟩
  · refine (h.held rate hrate).frame hadvisory fun key row hrow hlock => ?_
    obtain ⟨row', hrow', -, hlock'⟩ := hrows key row hrow (by simp [sees, hlock])
    exact ⟨row', hrow', hlock' hlock⟩
  · obtain ⟨row, hrow, hsees⟩ := h.ready hinserted entry hentry
    obtain ⟨row', hrow', hsees', -⟩ := hrows _ row hrow hsees
    exact ⟨row', hrow', hsees'⟩

variable {key : RateKey}

theorem StillCounted.mono {cutoff : Int} (h : StillCounted calls' s' key cutoff) (hnow : s.now ≤ s'.now)
    (hcalls : ∀ c call, calls'.get c = some call → key ∈ call.toLock.map AtomicRateEntry.key →
      call.now - hourMs ≤ cutoff → StillCounted calls s key cutoff) : StillCounted calls s key cutoff := by
  rcases h with h | ⟨c, call, hcall, hkey, hcutoff⟩
  · exact .inl (by omega)
  · exact hcalls c call hcall hkey hcutoff

theorem StillOpen.mono {day : Int} (h : StillOpen calls' s' key day) (hnow : s.now ≤ s'.now)
    (hcalls : ∀ c call, calls'.get c = some call → key ∈ call.toLock.map AtomicRateEntry.key →
      rateWindowStart key.1 call.now = day → StillOpen calls s key day) : StillOpen calls s key day := by
  rcases h with h | ⟨c, call, hcall, hkey, hday⟩
  · exact .inl (by omega)
  · exact hcalls c call hcall hkey hday

section

variable (hs : Sound limitOf calls recording s t)
include hs

theorem Sound.setCall (hcall : CallSound limitOf s t c call)
    (hkeys : ∀ key ∈ call.toLock.map AtomicRateEntry.key, call.now = s.now ∨
      ∃ old, calls.get c = some old ∧ old.now = call.now ∧ key ∈ old.toLock.map AtomicRateEntry.key) :
    Sound limitOf (calls.set c call) recording s t := by
  refine ⟨hs.rolling, hs.fixed, fun d other hother => ?_, fun key cutoff hrolling hstill => ?_,
    fun key day hfixed hstill => ?_, hs.eventExpires, hs.rowExpires, hs.uncommitted⟩
  · rcases of_get_set hother with ⟨rfl, rfl⟩ | ⟨-, hother⟩
    · exact hcall
    · exact hs.each d other hother
  · refine hs.events key cutoff hrolling (hstill.mono (Int.le_refl _) fun d other hother hkey hcutoff => ?_)
    rcases of_get_set hother with ⟨-, rfl⟩ | ⟨-, hother⟩
    · rcases hkeys key hkey with hnow | ⟨old, hold, hnow, hkey⟩
      · exact .inl (by omega)
      · exact .inr ⟨c, old, hold, hkey, by omega⟩
    · exact .inr ⟨d, other, hother, hkey, hcutoff⟩
  · refine hs.rows key day hfixed (hstill.mono (Int.le_refl _) fun d other hother hkey hday => ?_)
    rcases of_get_set hother with ⟨-, rfl⟩ | ⟨-, hother⟩
    · rcases hkeys key hkey with hnow | ⟨old, hold, hnow, hkey⟩
      · exact .inl (by rw [← hday, hnow]; exact lt_windowEnd hfixed s.now)
      · exact .inr ⟨c, old, hold, hkey, by rw [hnow]; exact hday⟩
    · exact .inr ⟨d, other, hother, hkey, hday⟩

theorem Sound.ends (c : Nat) : Sound limitOf (calls.delete c) recording s t := by
  have hsub {d : Nat} {other : RateCall} (h : (calls.delete c).get d = some other) :
      calls.get d = some other := by
    exact (of_get_delete h).2
  exact ⟨hs.rolling, hs.fixed, fun d other hother => hs.each d other (hsub hother),
    fun key cutoff hrolling hstill => hs.events key cutoff hrolling
      (hstill.mono (Int.le_refl _) fun d other hother hkey hcutoff =>
        .inr ⟨d, other, hsub hother, hkey, hcutoff⟩),
    fun key day hfixed hstill => hs.rows key day hfixed
      (hstill.mono (Int.le_refl _) fun d other hother hkey hday => .inr ⟨d, other, hsub hother, hkey, hday⟩),
    hs.eventExpires, hs.rowExpires, hs.uncommitted⟩

/-! ## The clock and the locks -/

theorem Sound.passes (ms : Nat) : Sound limitOf calls recording { s with now := s.now + ms } t := by
  have hnow : s.now ≤ s.now + ms := by omega
  refine ⟨hs.rolling, hs.fixed, fun d other hother => ?_, fun key cutoff hrolling hstill => ?_,
    fun key day hfixed hstill => ?_, hs.eventExpires, hs.rowExpires, hs.uncommitted⟩
  · exact (hs.each d other hother).frame hnow (fun _ h => h) fun key row hrow hsees => ⟨row, hrow, hsees, id⟩
  · exact hs.events key cutoff hrolling
      (hstill.mono hnow fun d other hother hkey hcutoff => .inr ⟨d, other, hother, hkey, hcutoff⟩)
  · exact hs.rows key day hfixed
      (hstill.mono hnow fun d other hother hkey hday => .inr ⟨d, other, hother, hkey, hday⟩)

theorem Sound.takes (hfree : (s.advisory.get key).any (· ≠ c) = false) :
    Sound limitOf calls recording { s with advisory := s.advisory.set key c } t := by
  refine ⟨hs.rolling, hs.fixed, fun d other hother => ?_, hs.events, hs.rows, hs.eventExpires, hs.rowExpires,
    hs.uncommitted⟩
  refine (hs.each d other hother).frame (Int.le_refl _) (fun other' hlock => ?_)
    fun key row hrow hsees => ⟨row, hrow, hsees, id⟩
  rw [get_set]
  split
  · next heq =>
    subst heq
    rw [hlock] at hfree
    have hsame : d = c := by simpa using hfree
    exact congrArg some hsame.symm
  · exact hlock

theorem Sound.setRow (key : RateKey × Int) (row : RateWindow)
    (hexpires : row.expiresAt = key.2 + dayMs) (huncommitted : row.committed = false → row.count = 0)
    (hcount : (s.windows.get key).elim 0 (·.count) = row.count)
    (hothers : ∀ d old, s.windows.get key = some old → sees d old = true →
      sees d row = true ∧ (old.lockedBy = some d → row.lockedBy = some d)) :
    Sound limitOf calls recording { s with windows := s.windows.set key row } t := by
  refine ⟨hs.rolling, hs.fixed, fun d other hother => ?_, hs.events, fun key' day hfixed hstill => ?_,
    hs.eventExpires, fun key' row' hrow' => ?_, fun key' row' hrow' hcommitted => ?_⟩
  · refine (hs.each d other hother).frame (Int.le_refl _) (fun _ h => h) fun key' old hold hsees => ?_
    rw [get_set]
    split
    · next heq =>
      subst heq
      obtain ⟨hsees', hlock⟩ := hothers d old hold hsees
      exact ⟨row, rfl, hsees', hlock⟩
    · exact ⟨old, hold, hsees, id⟩
  · refine (hs.rows key' day hfixed hstill).trans_eq ?_
    unfold dayCount
    rw [get_set]
    split
    · next heq => rw [heq, hcount]; rfl
    · rfl
  · rcases of_get_set hrow' with ⟨heq, rfl⟩ | ⟨-, hrow'⟩
    · rw [heq]; exact hexpires
    · exact hs.rowExpires key' row' hrow'
  · rw [get_set] at hrow'
    split at hrow'
    · cases hrow'; exact .inl (huncommitted hcommitted)
    · exact hs.uncommitted key' row' hrow' hcommitted

end

/-! ## Transactions that end -/

variable {row : RateWindow}

variable {d i : Nat} {cleanedAt windowStart : Int}

theorem sees_release (c : Nat) (h : sees d row = true) (hne : d ≠ c) :
    sees d (release c row) = true ∧ (row.lockedBy = some d → (release c row).lockedBy = some d) := by
  unfold release
  split
  · next hlock =>
    refine ⟨by simp [sees], fun hd => ?_⟩
    rw [hlock] at hd
    exact absurd (Option.some.inj hd).symm hne
  · exact ⟨h, id⟩

theorem release_count (c : Nat) (row : RateWindow) : (release c row).count = row.count := by
  unfold release
  split <;> rfl

theorem release_expiresAt (c : Nat) (row : RateWindow) : (release c row).expiresAt = row.expiresAt := by
  unfold release
  split <;> rfl

theorem release_committed (h : (release c row).committed = false) : row.committed = false := by
  unfold release at h
  split at h
  · cases h
  · exact h

theorem advisory_dropping (hne : d ≠ c) (h : s.advisory.get key = some d) :
    (s.advisory.dropping (· = c)).get key = some d := by
  rw [get_dropping, h]
  simp [hne]

theorem Sound.begins (hs : Sound limitOf calls none s t) (c : Nat) : Sound limitOf calls (some c) s t :=
  ⟨hs.rolling, hs.fixed, hs.each, hs.events, hs.rows, hs.eventExpires, hs.rowExpires,
    fun key row hrow hcommitted => .inl ((hs.uncommitted key row hrow hcommitted).resolve_right
      fun ⟨_, hd, _⟩ => nomatch hd)⟩

theorem Sound.commits (hs : Sound limitOf calls (some c) s t) (hover : calls.get c = none) :
    Sound limitOf calls none (s.commit c) t := by
  have hget (key : RateKey × Int) : (s.commit c).windows.get key = (s.windows.get key).map (release c) :=
    get_mapValues s.windows (release c) key
  refine ⟨hs.rolling, hs.fixed, fun d other hother => ?_, hs.events, fun key day hfixed hstill => ?_,
    hs.eventExpires, fun key row hrow => ?_, fun key row hrow hcommitted => ?_⟩
  · have hne : d ≠ c := by rintro rfl; rw [hover] at hother; cases hother
    refine (hs.each d other hother).frame (Int.le_refl _) (fun key h => advisory_dropping hne h)
      fun key row hrow hsees => ?_
    rw [hget, hrow]
    exact ⟨_, rfl, sees_release c hsees hne⟩
  · refine (hs.rows key day hfixed hstill).trans_eq ?_
    unfold dayCount
    rw [hget]
    cases s.windows.get (key, day) with
    | none => rfl
    | some row => exact (release_count c row).symm
  · rw [hget] at hrow
    obtain ⟨old, hold, rfl⟩ := map_eq_some_iff.1 hrow
    rw [release_expiresAt]
    exact hs.rowExpires key old hold
  · rw [hget] at hrow
    obtain ⟨old, hold, rfl⟩ := map_eq_some_iff.1 hrow
    rw [release_count]
    rcases hs.uncommitted key old hold (release_committed hcommitted) with hzero | ⟨d, hd, hlock⟩
    · exact .inl hzero
    · cases hd
      rw [release, if_pos hlock] at hcommitted
      cases hcommitted

theorem Sound.rollsBack (hs : Sound limitOf calls none s t) (hover : calls.get c = none) :
    Sound limitOf calls none (s.rollback c) t := by
  have hget (key : RateKey × Int) : (s.rollback c).windows.get key =
      ((s.windows.get key).filter fun row => !(row.lockedBy = some c && !row.committed)).map (release c) := by
    rw [← get_dropping]
    exact get_mapValues _ (release c) key
  refine ⟨hs.rolling, hs.fixed, fun d other hother => ?_, hs.events, fun key day hfixed hstill => ?_,
    hs.eventExpires, fun key row hrow => ?_, fun key row hrow hcommitted => ?_⟩
  · have hne : d ≠ c := by rintro rfl; rw [hover] at hother; cases hother
    refine (hs.each d other hother).frame (Int.le_refl _) (fun key h => advisory_dropping hne h)
      fun key row hrow hsees => ?_
    have hkept : (row.lockedBy = some c && !row.committed) = false := by
      rw [Bool.eq_false_iff]
      intro hdropped
      simp only [Bool.and_eq_true, decide_eq_true_eq, Bool.not_eq_true'] at hdropped
      simp only [sees, hdropped.1, hdropped.2, Bool.false_or, Option.some.injEq, decide_eq_true_eq] at hsees
      exact hne hsees.symm
    rw [hget, hrow, filter_some, hkept]
    exact ⟨_, rfl, sees_release c hsees hne⟩
  · refine (hs.rows key day hfixed hstill).trans_eq ?_
    unfold dayCount
    rw [hget]
    cases hrow : s.windows.get (key, day) with
    | none => rfl
    | some row =>
      rw [filter_some]
      split
      · exact (release_count c row).symm
      · next hdropped =>
        simp only [Bool.not_eq_true', Bool.not_eq_false, Bool.and_eq_true] at hdropped
        exact (hs.uncommitted _ row hrow hdropped.2).resolve_right fun ⟨_, hd, _⟩ => nomatch hd
  · rw [hget] at hrow
    obtain ⟨old, hold, rfl⟩ := map_eq_some_iff.1 hrow
    rw [release_expiresAt]
    exact hs.rowExpires key old (filter_eq_some_iff.1 hold).1
  · rw [hget] at hrow
    obtain ⟨old, hold, rfl⟩ := map_eq_some_iff.1 hrow
    rw [release_count]
    exact .inl ((hs.uncommitted key old (filter_eq_some_iff.1 hold).1
      (release_committed hcommitted)).resolve_right fun ⟨_, hd, _⟩ => nomatch hd)

/-! ## Cleanups -/

theorem countP_eraseIdx {α : Type*} {p : α → Bool} {l : List α} {a : α} (h : l[i]? = some a) (ha : p a = false) :
    (l.eraseIdx i).countP p = l.countP p := by
  induction l generalizing i with
  | nil => rfl
  | cons b l ih =>
    cases i with
    | zero =>
      cases h
      rw [eraseIdx_cons_zero, countP_cons, ha]
      rfl
    | succ i => rw [eraseIdx_cons_succ, countP_cons, countP_cons, ih h]

theorem Sound.deletesEvent (hs : Sound limitOf calls recording s t) {event : RateLimitEvent}
    (hevent : s.events[i]? = some event) (hclock : cleanedAt ≤ s.now) (hexpired : event.expiresAt ≤ cleanedAt)
    (hleaves : ∀ c call, calls.get c = some call → event.key ∈ call.toLock.map AtomicRateEntry.key →
      event.occurredAt ≤ call.now - hourMs) :
    Sound limitOf calls recording { s with events := s.events.eraseIdx i } t := by
  have hexpires := hs.eventExpires event (mem_of_getElem? hevent)
  refine ⟨hs.rolling, hs.fixed, fun d other hother => ?_, fun key cutoff hrolling hstill => ?_, hs.rows,
    fun other hother => hs.eventExpires other (mem_of_mem_eraseIdx hother), hs.rowExpires, hs.uncommitted⟩
  · exact (hs.each d other hother).frame (Int.le_refl _) (fun _ h => h)
      fun key row hrow hsees => ⟨row, hrow, hsees, id⟩
  · refine (hs.events key cutoff hrolling hstill).trans_eq (countP_eraseIdx hevent ?_).symm
    refine decide_eq_false fun hcounts => ?_
    obtain ⟨hkey, hafter⟩ := hcounts
    rcases hstill with hnow | ⟨c, call, hcall, hmem, hcutoff⟩
    · have : s.now - hourMs ≤ cutoff := hnow
      omega
    · have := hleaves c call hcall (hkey ▸ hmem)
      omega

/-- The row of a day is deleted that is over, that nobody has locked, and that no call under way is yet to
count. -/
theorem Sound.deletesWindow (hs : Sound limitOf calls recording s t)
    (hrow : s.windows.get (key, windowStart) = some row) (hclock : cleanedAt ≤ s.now)
    (hexpired : row.expiresAt ≤ cleanedAt) (hfree : row.lockedBy = none)
    (hleaves : ∀ c call, calls.get c = some call → key ∈ call.toLock.map AtomicRateEntry.key →
      rateWindowStart key.1 call.now ≠ windowStart) :
    Sound limitOf calls recording { s with windows := s.windows.delete (key, windowStart) } t := by
  have hget (other : RateKey × Int) : (s.windows.delete (key, windowStart)).get other =
      if other = (key, windowStart) then none else s.windows.get other := get_delete ..
  have hexpires := hs.rowExpires _ row hrow
  refine ⟨hs.rolling, hs.fixed, fun d other hother => ?_, hs.events, fun other day hfixed hstill => ?_,
    hs.eventExpires, fun other old hold => ?_, fun other old hold => ?_⟩
  · have hcall := hs.each d other hother
    refine ⟨hcall.past, hcall.named, hcall.distinct, hcall.limited, fun rate hrate => ?_,
      fun hinserted entry hentry => ?_⟩
    · refine (hcall.held rate hrate).frame (fun _ h => h) fun key' old hold hlock => ?_
      refine ⟨old, ?_, hlock⟩
      rw [hget, if_neg]
      · exact hold
      · rintro rfl
        rw [hrow] at hold
        cases hold
        rw [hfree] at hlock
        cases hlock
    · obtain ⟨old, hold, hsees⟩ := hcall.ready hinserted entry hentry
      refine ⟨old, ?_, hsees⟩
      rw [hget, if_neg]
      · exact hold
      · intro heq
        have hmem : entry.key ∈ other.toLock.map AtomicRateEntry.key :=
          List.mem_map_of_mem (mem_of_mem_head? hentry)
        cases heq
        exact hleaves d other hother hmem rfl
  · refine (hs.rows other day hfixed hstill).trans_eq ?_
    unfold dayCount
    rw [hget, if_neg]
    rintro heq
    cases heq
    rcases hstill with hnow | ⟨c, call, hcall, hmem, hday⟩
    · have hexpires : row.expiresAt = windowStart + dayMs := hexpires
      have hnow : s.now < windowStart + dayMs := hnow
      omega
    · exact hleaves c call hcall hmem hday
  · rw [hget] at hold
    split at hold
    · cases hold
    · exact hs.rowExpires other old hold
  · rw [hget] at hold
    split at hold
    · cases hold
    · exact hs.uncommitted other old hold

/-! ## Records -/

section

variable (t : RateKey → List Int)

/-- What was allowed, with one more event under a key. -/
def allowing (key : RateKey) (now : Int) : RateKey → List Int := Function.update t key (t key ++ [now])

theorem allowing_self (key : RateKey) (now : Int) :
    allowing t key now key = t key ++ [now] := Function.update_self ..

theorem allowing_ne {other : RateKey} (now : Int) (h : other ≠ key) :
    allowing t key now other = t other := Function.update_of_ne h ..

end

/-- The row of a day, with one more event. -/
def recorded (row : RateWindow) (rate : LockedRateEntry) (challengePassed : Bool) : RateWindow :=
  { row with
    count := row.count + 1
    challengePassedCount := row.challengePassedCount + if challengePassed then 1 else 0
    expiresAt := rate.expiresAt }

theorem recordRateConsumption_rolling
    (hkind : usesRollingWindow rate.entry.kind = true) (now : Int) (challengePassed : Bool) :
    s.recordRateConsumption c rate now challengePassed =
      { s with events := s.events ++ [⟨rate.entry.key, now, challengePassed, rate.expiresAt⟩] } :=
  if_pos hkind

theorem recordRateConsumption_fixed (hkind : usesRollingWindow rate.entry.kind = false)
    (hstart : rate.windowStart = some windowStart) (hrow : s.windows.get (rate.entry.key, windowStart) = some row)
    (hlock : row.lockedBy = some c) (now : Int) (challengePassed : Bool) :
    s.recordRateConsumption c rate now challengePassed = { s with
        windows := s.windows.set (rate.entry.key, windowStart) (recorded row rate challengePassed) } := by
  rw [recordRateConsumption, if_neg (by simp [hkind]), hstart]
  simp only [hrow]
  exact if_pos (by simp [sees, hlock])

theorem Sound.records_rolling (hs : Sound limitOf calls recording s t) (hover : calls.get c = none)
    (hheld : Held s t c now rate) (hroom : rate.count < limitOf rate.entry.key)
    (hkind : usesRollingWindow rate.entry.kind = true) (challengePassed : Bool) : Sound limitOf calls recording
      { s with events := s.events ++ [⟨rate.entry.key, now, challengePassed, rate.expiresAt⟩] }
      (allowing t rate.entry.key now) := by
  obtain ⟨hlock, hexpires, hcount⟩ := hheld.rolling hkind
  have hfixed_ne {key : RateKey} (hfixed : usesRollingWindow key.1 = false) : key ≠ rate.entry.key := by
    rintro rfl
    exact absurd (hkind.symm.trans hfixed) (by decide)
  refine ⟨fun key hrolling => ?_, fun key hfixed => ?_, fun d other hcall => ?_,
    fun key cutoff hrolling hstill => ?_, fun key day hfixed hstill => ?_, fun event hevent => ?_,
    hs.rowExpires, hs.uncommitted⟩
  · by_cases hkey : key = rate.entry.key
    · subst hkey
      rw [allowing_self]
      exact (hs.rolling _ hrolling).append (Nat.lt_of_le_of_lt hcount hroom)
    · rw [allowing_ne t now hkey]
      exact hs.rolling key hrolling
  · rw [allowing_ne t now (hfixed_ne hfixed)]
    exact hs.fixed key hfixed
  · have hsound := hs.each d other hcall
    refine ⟨hsound.past, hsound.named, hsound.distinct, hsound.limited, fun rate' hrate' => ?_, hsound.ready⟩
    have hheld' := hsound.held rate' hrate'
    refine ⟨fun hrolling => ?_, fun hfixed => ?_⟩
    · have hkey : rate'.entry.key ≠ rate.entry.key := by
        intro heq
        have hlock' := (hheld'.rolling hrolling).1
        rw [heq, hlock] at hlock'
        cases hlock'
        rw [hover] at hcall
        cases hcall
      rw [allowing_ne t now hkey]
      exact hheld'.rolling hrolling
    · rw [allowing_ne t now (hfixed_ne hfixed)]
      exact hheld'.fixed hfixed
  · have hcounted := hs.events key cutoff hrolling hstill
    unfold counted at hcounted ⊢
    rw [countP_append, countP_singleton]
    by_cases hkey : key = rate.entry.key
    · subst hkey
      rw [allowing_self, countP_append, countP_singleton]
      by_cases hafter : cutoff < now
      · simpa [hafter] using hcounted
      · simpa [hafter] using hcounted
    · rw [allowing_ne t now hkey]
      exact Nat.le_trans hcounted (Nat.le_add_right ..)
  · rw [allowing_ne t now (hfixed_ne hfixed)]
    exact hs.rows key day hfixed hstill
  · rcases mem_append.1 hevent with hevent | hevent
    · exact hs.eventExpires event hevent
    · cases mem_singleton.1 hevent
      exact hexpires

/-- A call that is over records an event under a key that counts by the day. -/
theorem Sound.records_fixed (hs : Sound limitOf calls (some c) s t) (hover : calls.get c = none)
    (hheld : Held s t c now rate)
    (hroom : rate.count < limitOf rate.entry.key) (hkind : usesRollingWindow rate.entry.kind = false)
    (hrow : s.windows.get (rate.entry.key, rateWindowStart rate.entry.kind now) = some row)
    (hlock : row.lockedBy = some c) (challengePassed : Bool) : Sound limitOf calls (some c) { s with
        windows := s.windows.set (rate.entry.key, rateWindowStart rate.entry.kind now)
          (recorded row rate challengePassed) }
      (allowing t rate.entry.key now) := by
  obtain ⟨hstart, hexpires, -, hcount⟩ := hheld.fixed hkind
  have hget (key : RateKey × Int) :
      (s.windows.set (rate.entry.key, rateWindowStart rate.entry.kind now)
        (recorded row rate challengePassed)).get key =
      if key = (rate.entry.key, rateWindowStart rate.entry.kind now) then some (recorded row rate challengePassed)
      else s.windows.get key := get_set ..
  have hrolling_ne {key : RateKey} (hrolling : usesRollingWindow key.1 = true) : key ≠ rate.entry.key := by
    rintro rfl
    exact absurd (hkind.symm.trans hrolling) (by decide)
  refine ⟨fun key hrolling => ?_, fun key hfixed => ?_, fun d other hcall => ?_,
    fun key cutoff hrolling hstill => ?_, fun key day hfixed hstill => ?_, hs.eventExpires,
    fun key old hold => ?_, fun key old hold hcommitted => ?_⟩
  · rw [allowing_ne t now (hrolling_ne hrolling)]
    exact hs.rolling key hrolling
  · by_cases hkey : key = rate.entry.key
    · subst hkey
      rw [allowing_self]
      exact (hs.fixed _ hfixed).append (Nat.lt_of_le_of_lt hcount hroom)
    · rw [allowing_ne t now hkey]
      exact hs.fixed key hfixed
  · have hsound := hs.each d other hcall
    have hkept (key : RateKey × Int) (old : RateWindow) (hold : s.windows.get key = some old) :
        ∃ row', (s.windows.set (rate.entry.key, rateWindowStart rate.entry.kind now)
          (recorded row rate challengePassed)).get key = some row' ∧ row'.lockedBy = old.lockedBy ∧
            row'.committed = old.committed := by
      rw [hget]
      split
      · next heq =>
        rw [heq, hrow] at hold
        cases hold
        exact ⟨_, rfl, rfl, rfl⟩
      · exact ⟨old, hold, rfl, rfl⟩
    refine ⟨hsound.past, hsound.named, hsound.distinct, hsound.limited, fun rate' hrate' => ?_,
      fun hinserted entry hentry => ?_⟩
    · have hheld' := hsound.held rate' hrate'
      refine ⟨fun hrolling => ?_, fun hfixed => ?_⟩
      · rw [allowing_ne t now (hrolling_ne hrolling)]
        exact hheld'.rolling hrolling
      · obtain ⟨hstart', hexpires', ⟨row', hrow', hlock'⟩, hcount'⟩ := hheld'.fixed hfixed
        obtain ⟨row'', hrow'', hlock'', -⟩ := hkept _ row' hrow'
        refine ⟨hstart', hexpires', ⟨row'', hrow'', hlock''.trans hlock'⟩, ?_⟩
        by_cases hkey : rate'.entry.key = rate.entry.key
        · -- The other call has another day's row locked, so the event is of another day.
          have hkinds : rate'.entry.kind = rate.entry.kind := congrArg Prod.fst hkey
          have hdays : rateWindowStart rate'.entry.kind now ≠
              rateWindowStart rate'.entry.kind other.now := by
            intro heq
            rw [hkey, ← heq, hkinds, hrow] at hrow'
            cases hrow'
            rw [hlock] at hlock'
            cases hlock'
            rw [hover] at hcall
            cases hcall
          rw [hkey, allowing_self, ← hkey, countP_append, countP_singleton]
          simpa [hdays] using hcount'
        · rw [allowing_ne t now hkey]
          exact hcount'
    · obtain ⟨old, hold, hsees⟩ := hsound.ready hinserted entry hentry
      obtain ⟨row', hrow', hlock', hcommitted'⟩ := hkept _ old hold
      exact ⟨row', hrow', by rw [sees, hlock', hcommitted']; exact hsees⟩
  · rw [allowing_ne t now (hrolling_ne hrolling)]
    exact hs.events key cutoff hrolling hstill
  · have hcounted := hs.rows key day hfixed hstill
    unfold dayCount at hcounted ⊢
    rw [hget]
    by_cases hkey : key = rate.entry.key
    · subst hkey
      rw [allowing_self, countP_append, countP_singleton]
      by_cases hday : rateWindowStart rate.entry.kind now = day
      · subst hday
        rw [hrow] at hcounted
        simpa [recorded, AtomicRateEntry.key] using hcounted
      · rw [if_neg fun heq => hday (congrArg Prod.snd heq).symm]
        simpa [AtomicRateEntry.key, hday] using hcounted
    · rw [allowing_ne t now hkey, if_neg fun heq => hkey (congrArg Prod.fst heq)]
      exact hcounted
  · rw [hget] at hold
    split at hold
    · next heq => cases hold; rw [heq]; exact hexpires
    · exact hs.rowExpires key old hold
  · rw [hget] at hold
    split at hold
    · cases hold; exact .inr ⟨c, rfl, hlock⟩
    · exact hs.uncommitted key old hold hcommitted

theorem Sound.records (hs : Sound limitOf calls (some c) s t) (hover : calls.get c = none)
    (hheld : Held s t c now rate) (hroom : rate.count < limitOf rate.entry.key) (challengePassed : Bool) :
    Sound limitOf calls (some c) (s.recordRateConsumption c rate now challengePassed)
      (allowing t rate.entry.key now) := by
  cases hkind : usesRollingWindow rate.entry.kind with
  | true =>
    rw [recordRateConsumption_rolling hkind]
    exact hs.records_rolling hover hheld hroom hkind challengePassed
  | false =>
    obtain ⟨hstart, -, ⟨row, hrow, hlock⟩, -⟩ := hheld.fixed hkind
    rw [recordRateConsumption_fixed hkind hstart hrow hlock]
    exact hs.records_fixed hover hheld hroom hkind hrow hlock challengePassed

theorem Held.records {rate' : LockedRateEntry} (h' : Held s t c now rate')
    (h : Held s t c now rate) (hne : rate'.entry.key ≠ rate.entry.key) (challengePassed : Bool) :
    Held (s.recordRateConsumption c rate now challengePassed) (allowing t rate.entry.key now) c now rate' := by
  have hframe : Held (s.recordRateConsumption c rate now challengePassed) t c now rate' := by
    cases hkind : usesRollingWindow rate.entry.kind with
    | true =>
      rw [recordRateConsumption_rolling hkind]
      exact h'.frame (fun _ h => h) fun key row hrow hlock => ⟨row, hrow, hlock⟩
    | false =>
      obtain ⟨hstart, -, ⟨row, hrow, hlock⟩, -⟩ := h.fixed hkind
      rw [recordRateConsumption_fixed hkind hstart hrow hlock]
      refine h'.frame (fun _ h => h) fun key old hold hlock' => ?_
      rw [get_set]
      split
      · exact ⟨_, rfl, hlock⟩
      · exact ⟨old, hold, hlock'⟩
  refine ⟨fun hrolling => ?_, fun hfixed => ?_⟩
  · rw [allowing_ne t now hne]
    exact hframe.rolling hrolling
  · rw [allowing_ne t now hne]
    exact hframe.fixed hfixed

/-- How many events there are on record under a key, at an instant or on its day. -/
def onRecord (s : RateDesk) (key : RateKey) (occurredAt : Int) : Nat :=
  if usesRollingWindow key.1 then s.events.countP fun event => event.key = key ∧ event.occurredAt = occurredAt
  else s.dayCount key (rateWindowStart key.1 occurredAt)

theorem onRecord_records (h : Held s t c now rate) (challengePassed : Bool) (key : RateKey) :
    (s.recordRateConsumption c rate now challengePassed).onRecord key now =
      s.onRecord key now + if key = rate.entry.key then 1 else 0 := by
  cases hkind : usesRollingWindow rate.entry.kind with
  | true =>
    rw [recordRateConsumption_rolling hkind, onRecord, onRecord]
    by_cases hkey : key = rate.entry.key
    · subst hkey
      rw [if_pos (show usesRollingWindow rate.entry.key.1 = true from hkind),
        if_pos (show usesRollingWindow rate.entry.key.1 = true from hkind), if_pos rfl, countP_append,
        countP_singleton]
      simp
    · have hkey' : ¬ rate.entry.key = key := fun heq => hkey heq.symm
      split
      · simp [hkey']
      · rfl
  | false =>
    obtain ⟨hstart, -, ⟨row, hrow, hlock⟩, -⟩ := h.fixed hkind
    rw [recordRateConsumption_fixed hkind hstart hrow hlock, onRecord, onRecord]
    by_cases hkey : key = rate.entry.key
    · subst hkey
      have hrow' : s.windows.get (rate.entry.key, rateWindowStart rate.entry.key.1 now) = some row := hrow
      rw [if_neg (by simp [AtomicRateEntry.key, hkind]), if_neg (by simp [AtomicRateEntry.key, hkind]), if_pos rfl,
        dayCount, dayCount, hrow']
      rw [get_set, if_pos (show (rate.entry.key, rateWindowStart rate.entry.key.1 now) =
        (rate.entry.key, rateWindowStart rate.entry.kind now) from rfl)]
      rfl
    · split
      · rfl
      · rw [dayCount, dayCount]
        rw [get_set, if_neg fun heq => hkey (congrArg Prod.fst heq)]
        rfl

theorem Sound.recordsAll (hover : calls.get c = none) (request : RateRequest) (now : Int)
    (rates : List LockedRateEntry)
    (hs : Sound limitOf calls (some c) s t) (hheld : ∀ rate ∈ rates, Held s t c now rate)
    (hroom : ∀ rate ∈ rates, rate.count < limitOf rate.entry.key) (hdistinct : (rates.map (·.entry.key)).Nodup) :
    Sound limitOf calls (some c)
        (rates.foldl (fun s rate => s.recordRateConsumption c rate now (request.challenged rate)) s)
        (rates.foldl (fun t rate => allowing t rate.entry.key now) t) ∧
      ∀ key, (rates.foldl (fun s rate => s.recordRateConsumption c rate now (request.challenged rate)) s).onRecord
          key now = s.onRecord key now + if key ∈ rates.map (·.entry.key) then 1 else 0 := by
  induction rates generalizing s t with
  | nil => exact ⟨hs, fun key => by simp⟩
  | cons rate rates ih =>
    rw [map_cons, nodup_cons] at hdistinct
    have hfirst := hheld rate (mem_cons_self ..)
    have hne {rate' : LockedRateEntry} (h : rate' ∈ rates) : rate'.entry.key ≠ rate.entry.key := by
      intro heq
      exact hdistinct.1 (heq ▸ List.mem_map_of_mem h)
    obtain ⟨hsound, hrecord⟩ := ih
      (hs.records hover hfirst (hroom rate (mem_cons_self ..)) (request.challenged rate))
      (fun rate' h => (hheld rate' (mem_cons_of_mem _ h)).records hfirst (hne h) _)
      (fun rate' h => hroom rate' (mem_cons_of_mem _ h)) hdistinct.2
    refine ⟨hsound, fun key => ?_⟩
    rw [foldl_cons, hrecord, onRecord_records hfirst, map_cons]
    by_cases hkey : key = rate.entry.key
    · subst hkey
      rw [if_pos rfl, if_neg hdistinct.1, if_pos (mem_cons_self ..)]
    · simp [hkey]

end RateDesk

/-! ## Answers -/

theorem RateRequest.decide_allowed {request : RateRequest} {locked : List LockedRateEntry}
    (hnamed : (locked.map (·.entry)).Perm request.entries) (h : request.decide locked = some .allowed) :
    ∀ rate ∈ locked, rate.count < rate.entry.limit := by
  have hany (h : (if locked.any fun rate => rate.entry.limit ≤ rate.count then RateAnswer.refused
      else .allowed) = .allowed) : ∀ rate ∈ locked, rate.count < rate.entry.limit := by
    intro rate hrate
    split at h
    · cases h
    · next hnone =>
      rw [Bool.not_eq_true, List.any_eq_false] at hnone
      simpa using hnone rate hrate
  cases request with
  | consumeRateLimit keyHash kind limit => exact hany (Option.some.inj h)
  | consumeRateLimitsAtomically entries => exact hany (Option.some.inj h)
  | consumeScanRateLimits ipKey targetKey challengePassed =>
    simp only [decide] at h
    split at h
    · next ip target hip htarget =>
      split at h
      · cases h
      · next hroom =>
        have hipMem := mem_of_find?_eq_some hip
        have htargetMem := mem_of_find?_eq_some htarget
        have hipKind : ip.entry.kind = .scanIpHour := by simpa using find?_some hip
        have htargetKind : target.entry.kind = .scanTargetDay := by simpa using find?_some htarget
        have hentry {rate : LockedRateEntry} (h : rate ∈ locked) : rate.entry = ⟨ipKey, .scanIpHour, 10⟩ ∨
            rate.entry = ⟨targetKey, .scanTargetDay, 10⟩ := by
          simpa [entries] using hnamed.subset (List.mem_map_of_mem h)
        have hnodup : (locked.map (·.entry)).Nodup := hnamed.nodup_iff.2 (by simp [entries])
        have hsame {rate rate' : LockedRateEntry} (h : rate ∈ locked) (h' : rate' ∈ locked)
            (heq : rate.entry = rate'.entry) : rate = rate' :=
          inj_on_of_nodup_map hnodup h h' heq
        have hipEntry : ip.entry = ⟨ipKey, .scanIpHour, 10⟩ := by
          refine (hentry hipMem).resolve_right fun heq => ?_
          rw [heq] at hipKind
          cases hipKind
        have htargetEntry : target.entry = ⟨targetKey, .scanTargetDay, 10⟩ := by
          refine (hentry htargetMem).resolve_left fun heq => ?_
          rw [heq] at htargetKind
          cases htargetKind
        intro rate hrate
        rcases hentry hrate with heq | heq
        · rw [hsame hrate hipMem (heq.trans hipEntry.symm)]
          exact Nat.lt_of_not_le fun h => hroom (.inl h)
        · rw [hsame hrate htargetMem (heq.trans htargetEntry.symm)]
          exact Nat.lt_of_not_le fun h => hroom (.inr h)
    · cases h

/-! ## Steps -/

/-- When events are allowed under a key, by what a step lets be heard. -/
def heard (out : List RateNotice) (key : RateKey) : List Int :=
  out.filterMap fun
    | .consumed key' occurredAt => if key' = key then some occurredAt else none
    | _ => none

theorem consumedAt_append (l : List (Happening RateAction RateNotice)) (action : RateAction)
    (out : List RateNotice) (key : RateKey) :
    consumedAt (l ++ Reactor.stepLog action out) key = consumedAt l key ++ heard out key := by
  rw [consumedAt, filterMap_append, Reactor.stepLog, filterMap_cons, filterMap_map]
  refine congrArg (consumedAt l key ++ ·) (filterMap_congr fun notice _ => ?_)
  cases notice with
  | consumed key' occurredAt => rfl
  | answered c answer => rfl

theorem heard_locked (now : Int) (c : Nat) (answer : RateAnswer) (rates : List LockedRateEntry)
    (t : RateKey → List Int) (key : RateKey) :
    rates.foldl (fun t rate => RateDesk.allowing t rate.entry.key now) t key =
      t key ++ heard (rates.map (fun rate => .consumed rate.entry.key now) ++ [.answered c answer]) key := by
  induction rates generalizing t with
  | nil => simp [heard]
  | cons rate rates ih =>
    rw [foldl_cons, ih]
    by_cases hkey : rate.entry.key = key
    · subst hkey
      rw [RateDesk.allowing_self]
      simp [heard]
    · rw [RateDesk.allowing_ne t now fun heq => hkey heq.symm]
      simp [heard, hkey]

namespace RateDesk

variable {limitOf : RateKey → Nat} {calls : Dict Nat RateCall} {recording : Option Nat} {s s' : RateDesk}
  {t : RateKey → List Int} {c : Nat} {call : RateCall} {entry : AtomicRateEntry} {rest : List AtomicRateEntry}

theorem Sound.withCalls (hs : Sound limitOf calls recording s t) (others : Dict Nat RateCall) :
    Sound limitOf calls recording { s with calls := others } t :=
  ⟨hs.rolling, hs.fixed,
    fun d other hother => (hs.each d other hother).frame (Int.le_refl _) (fun _ h => h)
      fun _ row hrow hsees => ⟨row, hrow, hsees, id⟩,
    hs.events, hs.rows, hs.eventExpires, hs.rowExpires, hs.uncommitted⟩

theorem Sound.begun (hs : Sound limitOf s.calls none s t) {request : RateRequest}
    (collate : String → String → Bool) (hdistinct : (request.entries.map AtomicRateEntry.key).Nodup)
    (hlimited : ∀ entry ∈ request.entries, entry.limit ≤ limitOf entry.key) :
    Sound limitOf (s.goes c ⟨request, s.now, false, request.ordered collate, []⟩).calls none
      (s.goes c ⟨request, s.now, false, request.ordered collate, []⟩) t := by
  refine (hs.setCall ⟨Int.le_refl _, ?_, hdistinct, hlimited, ?_, fun h => absurd h Bool.false_ne_true⟩ fun _ _ => .inl rfl).withCalls _
  · exact perm_insertionSort ..
  · exact fun _ h => (not_mem_nil h).elim

theorem Sound.goesOn (hs : Sound limitOf s.calls none s t) {old : RateCall} (hold : s.calls.get c = some old)
    (hnow : old.now = call.now) (hkeys : ∀ entry ∈ call.toLock, entry ∈ old.toLock)
    (hcall : CallSound limitOf s t c call) : Sound limitOf (s.goes c call).calls none (s.goes c call) t := by
  refine (hs.setCall hcall fun key hkey => .inr ⟨old, hold, hnow, ?_⟩).withCalls _
  obtain ⟨entry, hentry, rfl⟩ := List.mem_map.1 hkey
  exact List.mem_map_of_mem (hkeys entry hentry)

theorem CallSound.inserts (h : CallSound limitOf s t c call) (hlock : call.toLock = entry :: rest)
    {row : RateWindow} (hrow : s.windows.get (entry.key, rateWindowStart entry.kind call.now) = some row)
    (hsees : sees c row = true) : CallSound limitOf s t c { call with inserted := true } := by
  refine ⟨h.past, h.named, h.distinct, h.limited, h.held, fun _ first hfirst => ?_⟩
  rw [hlock] at hfirst
  cases hfirst
  exact ⟨row, hrow, hsees⟩

theorem Sound.ensures (hs : Sound limitOf s.calls none s t) (hcall : s.calls.get c = some call)
    (hlock : call.toLock = entry :: rest) (h : s.ensureFixedRateWindow c call entry = .ok s') :
    Sound limitOf s'.calls none s' t := by
  unfold ensureFixedRateWindow at h
  dsimp only at h
  split at h
  · next hnone =>
    cases h
    have hrow := hs.setRow (entry.key, rateWindowStart entry.kind call.now)
      ⟨0, 0, rateWindowStart entry.kind call.now + dayMs, some c, false⟩ rfl (fun _ => rfl)
      (by rw [hnone]; rfl) (fun _ _ hold => by rw [hnone] at hold; cases hold)
    have hsees : sees c ⟨0, 0, rateWindowStart entry.kind call.now + dayMs, some c, false⟩ = true := by
      simp [sees]
    have hinserts := (hrow.each c call hcall).inserts hlock (get_set_self ..) hsees
    exact Sound.goesOn hrow hcall rfl (fun _ h => h) hinserts
  · next row hrow =>
    split at h
    · next hsees =>
      cases h
      exact hs.goesOn hcall rfl (fun _ h => h) ((hs.each c call hcall).inserts hlock hrow hsees)
    · cases h

theorem CallSound.locks (h : CallSound limitOf s t c call) (hlock : call.toLock = entry :: rest)
    {rate : LockedRateEntry} (hentry : rate.entry = entry) (hheld : Held s t c call.now rate) :
    CallSound limitOf s t c { call with inserted := false, toLock := rest, locked := call.locked ++ [rate] } := by
  refine ⟨h.past, ?_, h.distinct, h.limited, fun rate' hrate' => ?_, fun h => absurd h Bool.false_ne_true⟩
  · have hnamed := h.named
    rw [hlock] at hnamed
    simpa [hentry] using hnamed
  · rcases mem_append.1 hrate' with hrate' | hrate'
    · exact h.held rate' hrate'
    · rw [mem_singleton.1 hrate']
      exact hheld

theorem Sound.locksRolling (hs : Sound limitOf s.calls none s t) (hcall : s.calls.get c = some call)
    (hlock : call.toLock = entry :: rest) (hkind : usesRollingWindow entry.kind = true)
    (h : s.lockRollingRate c call entry rest = .ok s') : Sound limitOf s'.calls none s' t := by
  unfold lockRollingRate at h
  split at h
  · cases h
  · next hfree =>
    cases h
    have htakes := hs.takes (Bool.eq_false_iff.2 hfree)
    refine htakes.goesOn hcall rfl (fun e h => by rw [hlock]; exact mem_cons_of_mem _ h)
      ((htakes.each c call hcall).locks hlock rfl ⟨fun _ => ⟨get_set_self .., rfl, ?_⟩, fun hfixed => ?_⟩)
    · refine hs.events entry.key _ hkind (.inr ⟨c, call, hcall, ?_, Int.le_refl _⟩)
      rw [hlock]
      exact mem_cons_self ..
    · exact absurd (hkind.symm.trans hfixed) (by decide)

theorem Sound.locksFixed (hs : Sound limitOf s.calls none s t) (hcall : s.calls.get c = some call)
    (hlock : call.toLock = entry :: rest) (hkind : usesRollingWindow entry.kind = false)
    (hinserted : call.inserted = true) (h : s.lockFixedRateWindow c call entry rest = .ok s') :
    Sound limitOf s'.calls none s' t := by
  obtain ⟨row, hrow, hsees⟩ := (hs.each c call hcall).ready hinserted entry (by rw [hlock]; rfl)
  unfold lockFixedRateWindow at h
  dsimp only at h
  split at h
  · next hnone => rw [hnone] at hrow; cases hrow
  · next found hfound =>
    rw [hrow] at hfound
    cases hfound
    rw [if_neg (by simp [hsees])] at h
    split at h
    · cases h
    · next hfree =>
      cases h
      have hsame (d : Nat) (hd : row.lockedBy = some d) : d = c := by
        rw [hd] at hfree
        simpa using hfree
      have hset := hs.setRow (entry.key, rateWindowStart entry.kind call.now)
        { row with lockedBy := some c } (hs.rowExpires _ row hrow)
        (fun hcommitted => (hs.uncommitted _ row hrow hcommitted).resolve_right fun ⟨_, hd, _⟩ => nomatch hd)
        (by rw [hrow]; rfl) (by
          intro d old hold hsees'
          rw [hrow] at hold
          cases hold
          refine ⟨?_, fun hd => congrArg some (hsame d hd).symm⟩
          simp only [sees, Bool.or_eq_true, decide_eq_true_eq] at hsees' ⊢
          exact hsees'.imp_right fun hd => congrArg some (hsame d hd).symm)
      refine hset.goesOn hcall rfl (fun e h => by rw [hlock]; exact mem_cons_of_mem _ h)
        ((hset.each c call hcall).locks hlock rfl ⟨fun hrolling => ?_, fun _ => ⟨rfl, rfl, ?_, ?_⟩⟩)
      · exact absurd (hkind.symm.trans hrolling) (by decide)
      · exact ⟨_, get_set_self .., rfl⟩
      · have hcounted := hs.rows entry.key (rateWindowStart entry.kind call.now) hkind
          (.inr ⟨c, call, hcall, by rw [hlock]; exact mem_cons_self .., rfl⟩)
        rw [dayCount, hrow] at hcounted
        exact hcounted

section

variable (s : RateDesk)

theorem onRecord_commit (c : Nat) (key : RateKey) (occurredAt : Int) :
    (s.commit c).onRecord key occurredAt = s.onRecord key occurredAt := by
  unfold onRecord
  split
  · rfl
  · have hget : (s.commit c).windows.get (key, rateWindowStart key.1 occurredAt) =
        (s.windows.get (key, rateWindowStart key.1 occurredAt)).map (release c) := get_mapValues ..
    rw [dayCount, dayCount, hget]
    cases s.windows.get (key, rateWindowStart key.1 occurredAt) with
    | none => rfl
    | some row => exact release_count c row

theorem recordRateConsumption_calls (c : Nat) (rate : LockedRateEntry) (now : Int)
    (challengePassed : Bool) : (s.recordRateConsumption c rate now challengePassed).calls = s.calls := by
  unfold recordRateConsumption
  split
  · rfl
  · split
    · rfl
    · split
      · rfl
      · split
        · rfl
        · rfl

theorem recordAll_calls (c : Nat) (call : RateCall) : (s.recordAll c call).calls = s.calls := by
  unfold recordAll
  induction call.locked generalizing s with
  | nil => rfl
  | cons rate rates ih => rw [foldl_cons, ih, recordRateConsumption_calls]

/-- What a step puts on record, of a call: one event under every key, or nothing. -/
def AllOrNone (call : RateCall) (s' : RateDesk) : Prop :=
  (∀ entry ∈ call.request.entries, s'.onRecord entry.key call.now = s.onRecord entry.key call.now + 1) ∨
    ∀ key occurredAt, s'.onRecord key occurredAt = s.onRecord key occurredAt

end

variable {out : List RateNotice}

/-- **A call finishes.** Where it is allowed it records an event under each of its keys, within their limits, and
otherwise it records nothing. -/
theorem Sound.finishes (hs : Sound limitOf s.calls none s t) (hcall : s.calls.get c = some call)
    (hdone : call.toLock = []) (h : s.finishes c call = .ok (s', out)) :
    (∃ t', Sound limitOf s'.calls none s' t' ∧ ∀ key, t' key = t key ++ heard out key) ∧ AllOrNone s call s' := by
  have hsound := hs.each c call hcall
  have hnamed := hsound.named
  rw [hdone, append_nil] at hnamed
  have hover : (s.calls.delete c).get c = none := by rw [get_delete, if_pos rfl]
  have hbegins := (hs.begins c).ends c
  unfold RateDesk.finishes at h
  split at h
  · cases h
  · next hallowed =>
    split at h
    · cases h
    · cases h
      have hkeys : call.locked.map (·.entry.key) = (call.locked.map (·.entry)).map AtomicRateEntry.key := by
        rw [List.map_map]; rfl
      have hdistinct : (call.locked.map (·.entry.key)).Nodup := by
        rw [hkeys]
        exact (hnamed.map _).nodup_iff.2 hsound.distinct
      have hroom : ∀ rate ∈ call.locked, rate.count < limitOf rate.entry.key := fun rate hrate =>
        Nat.lt_of_lt_of_le (RateRequest.decide_allowed hnamed hallowed rate hrate)
          (hsound.limited rate.entry (hnamed.subset (List.mem_map_of_mem hrate)))
      obtain ⟨hrecords, hrecord⟩ := hbegins.recordsAll hover call.request call.now call.locked hsound.held hroom
        hdistinct
      have hcalls : ((s.recordAll c call).commit c).calls = s.calls.delete c :=
        congrArg (Dict.delete · c) (recordAll_calls s c call)
      refine ⟨⟨_, ?_, fun key => heard_locked call.now c .allowed call.locked t key⟩, .inl fun entry hentry => ?_⟩
      · rw [hcalls]
        exact hrecords.commits hover
      · rw [onRecord_commit]
        refine (hrecord entry.key).trans (congrArg _ (if_pos ?_))
        rw [hkeys]
        exact List.mem_map_of_mem (hnamed.symm.subset hentry)
  · next answer hanswer =>
    cases h
    exact ⟨⟨t, hbegins.commits hover, fun key => by simp [heard]⟩, .inr (s.onRecord_commit c)⟩

/-! ## What is not recorded -/

theorem onRecord_le (s s' : RateDesk) (hevents : s'.events.Sublist s.events)
    (hdays : ∀ key day, s'.dayCount key day ≤ s.dayCount key day) (key : RateKey) (occurredAt : Int) :
    s'.onRecord key occurredAt ≤ s.onRecord key occurredAt := by
  unfold onRecord
  split
  · exact hevents.countP_le
  · exact hdays _ _

theorem onRecord_set (s : RateDesk) (window : RateKey × Int) (row : RateWindow)
    (hcount : (s.windows.get window).elim 0 (·.count) = row.count) (key : RateKey) (occurredAt : Int) :
    RateDesk.onRecord { s with windows := s.windows.set window row } key occurredAt ≤ s.onRecord key occurredAt := by
  refine onRecord_le s { s with windows := s.windows.set window row } (List.Sublist.refl _)
    (fun other day => ?_) key occurredAt
  unfold dayCount
  rw [get_set]
  split
  · next heq => rw [heq, hcount]; exact Nat.le_refl _
  · exact Nat.le_refl _

theorem ensures_records (h : s.ensureFixedRateWindow c call entry = .ok s') (key : RateKey)
    (occurredAt : Int) : s'.onRecord key occurredAt ≤ s.onRecord key occurredAt := by
  unfold ensureFixedRateWindow at h
  dsimp only at h
  split at h
  · next hnone =>
    cases h
    exact s.onRecord_set (entry.key, rateWindowStart entry.kind call.now)
      ⟨0, 0, rateWindowStart entry.kind call.now + dayMs, some c, false⟩ (by rw [hnone]; rfl) key occurredAt
  · split at h
    · cases h; exact Nat.le_refl _
    · cases h

theorem locksFixed_records (h : s.lockFixedRateWindow c call entry rest = .ok s') (key : RateKey)
    (occurredAt : Int) : s'.onRecord key occurredAt ≤ s.onRecord key occurredAt := by
  unfold lockFixedRateWindow at h
  dsimp only at h
  split at h
  · cases h; exact Nat.le_refl _
  · next row hrow =>
    split at h
    · cases h; exact Nat.le_refl _
    · split at h
      · cases h
      · cases h
        exact s.onRecord_set (entry.key, rateWindowStart entry.kind call.now) { row with lockedBy := some c }
          (by rw [hrow]; rfl) key occurredAt

theorem rollback_records (s : RateDesk) (c : Nat) (key : RateKey) (occurredAt : Int) :
    (s.rollback c).onRecord key occurredAt ≤ s.onRecord key occurredAt := by
  refine onRecord_le s (s.rollback c) (List.Sublist.refl _) (fun other day => ?_) key occurredAt
  have hget : (s.rollback c).windows.get (other, day) =
      ((s.windows.get (other, day)).filter fun row => !(row.lockedBy = some c && !row.committed)).map
        (release c) := by
    rw [← get_dropping]
    exact get_mapValues _ (release c) _
  rw [dayCount, dayCount, hget]
  cases s.windows.get (other, day) with
  | none => exact Nat.le_refl _
  | some row =>
    rw [filter_some]
    split
    · exact (release_count c row).le
    · exact Nat.zero_le _

theorem deletesWindow_records (s : RateDesk) (window : RateKey × Int) (key : RateKey) (occurredAt : Int) :
    RateDesk.onRecord { s with windows := s.windows.delete window } key occurredAt ≤ s.onRecord key occurredAt := by
  refine onRecord_le s { s with windows := s.windows.delete window } (List.Sublist.refl _) (fun other day => ?_) key occurredAt
  unfold dayCount
  rw [get_delete]
  split
  · exact Nat.zero_le _
  · exact Nat.le_refl _

/-! ## Every step -/

/-- A call records when it commits, under every key or under none, and nothing else records. -/
def RecordsTogether (s : RateDesk) (action : RateAction) (s' : RateDesk) : Prop :=
  match action with
  | .commits c => ∀ call, s.calls.get c = some call → AllOrNone s call s'
  | _ => ∀ key occurredAt, s'.onRecord key occurredAt ≤ s.onRecord key occurredAt

variable {collate : String → String → Bool} {action : RateAction}

/-- **A step keeps the limits**, where it leaves what is yet to be counted. -/
theorem step_sound (hs : Sound limitOf s.calls none s t) (hleaves : LeavesCounted s action)
    (hasks : AsksWithin limitOf action) (h : s.step collate action = .ok (s', out)) :
    ∃ t', Sound limitOf s'.calls none s' t' ∧ ∀ key, t' key = t key ++ heard out key := by
  have hquiet (key : RateKey) : t key = t key ++ heard [] key := (append_nil _).symm
  cases action with
  | passes ms => cases h; exact ⟨t, hs.passes ms, hquiet⟩
  | calls c request =>
    simp only [step] at h
    split at h
    · cases h
    · cases h; exact ⟨t, hs.begun collate hleaves hasks, hquiet⟩
  | inserts c =>
    simp only [step] at h
    split at h
    · next request now entry rest locked hcall =>
      split at h
      · cases h
      · obtain ⟨after, hdone, heq⟩ := Except.map_eq_ok_iff.1 h
        cases heq
        exact ⟨t, hs.ensures hcall rfl hdone, hquiet⟩
    · cases h
  | locks c =>
    simp only [step] at h
    split at h
    · next request now inserted entry rest locked hcall =>
      split at h
      · next hkind =>
        obtain ⟨after, hdone, heq⟩ := Except.map_eq_ok_iff.1 h
        cases heq
        exact ⟨t, hs.locksRolling hcall rfl hkind hdone, hquiet⟩
      · next hkind =>
        split at h
        · next hinserted =>
          obtain ⟨after, hdone, heq⟩ := Except.map_eq_ok_iff.1 h
          cases heq
          exact ⟨t, hs.locksFixed hcall rfl (Bool.eq_false_iff.2 hkind) hinserted hdone, hquiet⟩
        · cases h
    · cases h
  | commits c =>
    simp only [step] at h
    split at h
    · next hcall => exact (hs.finishes hcall rfl h).1
    · cases h
  | fails c =>
    simp only [step] at h
    split at h
    · cases h
      exact ⟨t, (hs.ends c).rollsBack (by rw [get_delete, if_pos rfl]), hquiet⟩
    · cases h
  | deletesEvent cleanedAt i =>
    simp only [step] at h
    split at h
    · cases h
    · next event hevent =>
      split at h
      · next hexpired =>
        cases h
        exact ⟨t, hs.deletesEvent hevent hexpired.1 hexpired.2 (hleaves event hevent), hquiet⟩
      · cases h
  | deletesWindow cleanedAt key windowStart =>
    simp only [step] at h
    split at h
    · cases h
    · next row hrow =>
      split at h
      · next hexpired =>
        cases h
        exact ⟨t, hs.deletesWindow hrow hexpired.1 hexpired.2.1 hexpired.2.2.2 hleaves, hquiet⟩
      · cases h

theorem step_records (hs : Sound limitOf s.calls none s t) (h : s.step collate action = .ok (s', out)) :
    RecordsTogether s action s' := by
  cases action with
  | passes ms => cases h; exact fun _ _ => Nat.le_refl _
  | calls c request =>
    simp only [step] at h
    split at h
    · cases h
    · cases h; exact fun _ _ => Nat.le_refl _
  | inserts c =>
    simp only [step] at h
    split at h
    · next request now entry rest locked hcall =>
      split at h
      · cases h
      · obtain ⟨after, hdone, heq⟩ := Except.map_eq_ok_iff.1 h
        cases heq
        exact ensures_records hdone
    · cases h
  | locks c =>
    simp only [step] at h
    split at h
    · next request now inserted entry rest locked hcall =>
      split at h
      · obtain ⟨after, hdone, heq⟩ := Except.map_eq_ok_iff.1 h
        cases heq
        unfold lockRollingRate at hdone
        split at hdone
        · cases hdone
        · cases hdone; exact fun _ _ => Nat.le_refl _
      · split at h
        · obtain ⟨after, hdone, heq⟩ := Except.map_eq_ok_iff.1 h
          cases heq
          exact locksFixed_records hdone
        · cases h
    · cases h
  | commits c =>
    simp only [step] at h
    split at h
    · next hcall =>
      intro call hget
      rw [hcall] at hget
      cases hget
      exact (hs.finishes hcall rfl h).2
    · cases h
  | fails c =>
    simp only [step] at h
    split at h
    · cases h; exact rollback_records s c
    · cases h
  | deletesEvent cleanedAt i =>
    simp only [step] at h
    split at h
    · cases h
    · split at h
      · cases h
        exact onRecord_le s _ (eraseIdx_sublist ..) fun _ _ => Nat.le_refl _
      · cases h
  | deletesWindow cleanedAt key windowStart =>
    simp only [step] at h
    split at h
    · cases h
    · split at h
      · cases h; exact deletesWindow_records s (key, windowStart)
      · cases h

theorem start_sound (limitOf : RateKey → Nat) (now : Int) :
    Sound limitOf (start now).calls none (start now) fun _ => [] :=
  ⟨fun _ _ => Rolling.nil _ _, fun _ _ => Bucketed.nil _ _, nofun, fun _ _ _ _ => Nat.zero_le _,
    fun _ _ _ _ => Nat.zero_le _, nofun, nofun, nofun⟩

end RateDesk

/-! ## Runs -/

/-- No hour holds more allowed events than the limit of their key, and no day. -/
structure WithinLimits (limitOf : RateKey → Nat) (log : List (Happening RateAction RateNotice)) : Prop where
  rolling : ∀ key, usesRollingWindow key.1 = true → Rolling hourMs (limitOf key) (consumedAt log key)
  fixed : ∀ key, usesRollingWindow key.1 = false →
    Bucketed (rateWindowStart key.1) (limitOf key) (consumedAt log key)

theorem rateRun_sound {collate : String → String → Bool} {limitOf : RateKey → Nat} {now : Int}
    {actions : List RateAction} (hleaves : (rateMachine collate).Meets LeavesCounted (.start now) actions)
    (hasks : ∀ action ∈ actions, AsksWithin limitOf action) :
    (rateRun collate now actions).Sound limitOf (rateRun collate now actions).calls none
      fun key => consumedAt (rateLog collate now actions) key := by
  refine (rateMachine collate).log_induction_meeting
    (P := fun s l => s.Sound limitOf s.calls none fun key => consumedAt l key)
    (A := fun s action => LeavesCounted s action ∧ AsksWithin limitOf action) ?_
    (l := []) (RateDesk.start_sound limitOf now) actions
    ((rateMachine collate).meets_and hleaves ((rateMachine collate).meets_of_mem (fun e he _ => hasks e he) _))
  intro s l action s' out hs hmeets h
  obtain ⟨t', ht', heq⟩ := RateDesk.step_sound hs hmeets.1 hmeets.2 h
  have : t' = fun key => consumedAt (l ++ Reactor.stepLog action out) key := by
    funext key
    rw [heq, consumedAt_append]
  exact this ▸ ht'

/-- **The rate limits hold in every window.** In every run in which no cleanup deletes what a call under way is
yet to count, and every call names a key once: no hour, wherever it begins, holds more allowed events than the
limit of their key, no day more, and a call records under all of its keys or under none. -/
theorem rate_limits_hold (collate : String → String → Bool) (limitOf : RateKey → Nat) (now : Int)
    (actions : List RateAction) (hleaves : (rateMachine collate).Meets LeavesCounted (.start now) actions)
    (hasks : ∀ action ∈ actions, AsksWithin limitOf action) :
    WithinLimits limitOf (rateLog collate now actions) ∧
      ∀ action s' out, (rateRun collate now actions).step collate action = .ok (s', out) →
        (rateRun collate now actions).RecordsTogether action s' := by
  have hs := rateRun_sound hleaves hasks
  exact ⟨⟨hs.rolling, hs.fixed⟩, fun action s' out h => RateDesk.step_records hs h⟩

/-- Two merchants apply from one address, of which one may. -/
def twoMerchants : List RateAction :=
  [.calls 0 (.consumeRateLimit "ip_1" .merchantIpHour 1), .passes 100,
    .calls 1 (.consumeRateLimit "ip_1" .merchantIpHour 1), .locks 1, .commits 1, .locks 0, .commits 0]

/-- The one that came second and took the lock first is allowed, and the other is not. -/
theorem two_merchants_within : WithinLimits (fun _ => 1) (rateLog (fun _ _ => true) 0 twoMerchants) :=
  (rate_limits_hold (fun _ _ => true) (fun _ => 1) 0 twoMerchants
    ⟨List.nodup_singleton _, trivial, List.nodup_singleton _, trivial, trivial, trivial, trivial, trivial⟩
    (by simp [twoMerchants, AsksWithin, RateRequest.entries])).1

/-- A call reads the clock an hour less a moment after the last event, and a cleanup comes before it has its
lock. -/
def slowMerchant : List RateAction :=
  [.calls 0 (.consumeRateLimit "ip_1" .merchantIpHour 1), .locks 0, .commits 0, .passes 3599999,
    .calls 1 (.consumeRateLimit "ip_1" .merchantIpHour 1), .passes 1, .deletesEvent 3600000 0, .locks 1,
    .commits 1]

/-- The hour holds two events. -/
theorem slow_merchant_exceeds : ¬ ∀ (collate : String → String → Bool) (limitOf : RateKey → Nat) (now : Int)
    (actions : List RateAction), (∀ action ∈ actions, AsksWithin limitOf action) →
    WithinLimits limitOf (rateLog collate now actions) := by
  intro h
  have hwithin := (h (fun _ _ => true) (fun _ => 1) 0 slowMerchant
    (by simp [slowMerchant, AsksWithin, RateRequest.entries])).rolling (.merchantIpHour, "ip_1") rfl 0
  exact absurd hwithin (by decide +kernel)

end Coinslot
