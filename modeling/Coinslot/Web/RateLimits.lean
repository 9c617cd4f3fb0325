import Mathlib.Data.List.Sort
import Coinslot.Lib.Reactor
import Coinslot.Lib.Dict

/-!
# The rate limits of the site

What may come how often (`apps/web/lib/server/rate-limit.ts`): by the hour, where every event of the last hour
counts, or by the day, where a row counts the events of the day. A call reads the clock, takes the locks of
its keys one after the other and counts under each, and when it has them all it records an event under every
key or under none. Any number of calls is under way at once, each in a transaction of its own: what it has
locked nobody else takes, and a row that it put in is there for the others when it commits. A cleanup
(`packages/scanner-database/src/privacy-cleanup.ts`) deletes what has expired by an instant it read before,
whenever it comes to it.
-/

namespace Coinslot

/-- What a rate is of. -/
inductive RateKind where
  | scanIpHour
  | scanTargetDay
  | registrationEmailHour
  | registrationSessionHour
  | merchantIpHour
  | merchantEmailHour
  deriving DecidableEq, Repr

/-- A kind, as it is stored. -/
def RateKind.text : RateKind → String
  | scanIpHour => "scan_ip_hour"
  | scanTargetDay => "scan_target_day"
  | registrationEmailHour => "registration_email_hour"
  | registrationSessionHour => "registration_session_hour"
  | merchantIpHour => "merchant_ip_hour"
  | merchantEmailHour => "merchant_email_hour"

def hourMs : Int := 3600000

def dayMs : Int := 86400000

/-- Whether a kind counts the last hour, wherever it begins. -/
def usesRollingWindow (kind : RateKind) : Bool := "_hour".toList.isSuffixOf kind.text.toList

/-- When the window of an instant begins. -/
def rateWindowStart (kind : RateKind) (now : Int) : Int :=
  if "_day".toList.isSuffixOf kind.text.toList then now - now % dayMs else now - now % hourMs

abbrev RateKey := RateKind × String

/-- A key, and how much of it is allowed. -/
structure AtomicRateEntry where
  keyHash : String
  kind : RateKind
  limit : Nat
  deriving DecidableEq, Repr

def AtomicRateEntry.key (entry : AtomicRateEntry) : RateKey := (entry.kind, entry.keyHash)

/-- An entry whose key is locked, with what was counted under it. -/
structure LockedRateEntry where
  entry : AtomicRateEntry
  count : Nat
  windowStart : Option Int
  expiresAt : Int
  deriving DecidableEq, Repr

/-- An event under a key that counts by the hour (`rate_limit_events`). -/
structure RateLimitEvent where
  key : RateKey
  occurredAt : Int
  challengePassed : Bool
  expiresAt : Int
  deriving DecidableEq, Repr

/-- The row of a day under a key (`rate_windows`). The row is locked by a call, or by none, and a call that put
it in may not have committed it. -/
structure RateWindow where
  count : Nat
  challengePassedCount : Nat
  expiresAt : Int
  lockedBy : Option Nat
  committed : Bool
  deriving DecidableEq, Repr

/-- What a caller asks for. -/
inductive RateRequest where
  | consumeRateLimit (keyHash : String) (kind : RateKind) (limit : Nat)
  | consumeRateLimitsAtomically (entries : List AtomicRateEntry)
  | consumeScanRateLimits (ipKey targetKey : String) (challengePassed : Bool)
  deriving DecidableEq, Repr

/-- What a caller is told. -/
inductive RateAnswer where
  | allowed
  | refused
  | challengeRequired
  | hardRateLimit
  deriving DecidableEq, Repr

namespace RateRequest

/-- What a request is about. -/
def entries : RateRequest → List AtomicRateEntry
  | consumeRateLimit keyHash kind limit => [⟨keyHash, kind, limit⟩]
  | consumeRateLimitsAtomically entries => entries
  | consumeScanRateLimits ipKey targetKey _ => [⟨ipKey, .scanIpHour, 10⟩, ⟨targetKey, .scanTargetDay, 10⟩]

/-- What a request is about, in the order in which the keys are locked, which is that of a collation. -/
def ordered (collate : String → String → Bool) (request : RateRequest) : List AtomicRateEntry :=
  request.entries.insertionSort fun a b =>
    collate (a.kind.text ++ ":" ++ a.keyHash) (b.kind.text ++ ":" ++ b.keyHash)

/-- What is answered, once every key is locked. -/
def decide : RateRequest → List LockedRateEntry → Option RateAnswer
  | consumeRateLimit .., locked | consumeRateLimitsAtomically _, locked =>
    some (if locked.any fun rate => rate.entry.limit ≤ rate.count then .refused else .allowed)
  | consumeScanRateLimits _ _ challengePassed, locked =>
    match locked.find? (·.entry.kind = .scanIpHour), locked.find? (·.entry.kind = .scanTargetDay) with
    | some ip, some target =>
      if ip.entry.limit ≤ ip.count ∨ target.entry.limit ≤ target.count then some .hardRateLimit
      else if 3 ≤ ip.count ∧ challengePassed = false then some .challengeRequired
      else some .allowed
    | _, _ => none

/-- Whether what is recorded under a key is recorded as coming after a challenge. -/
def challenged (request : RateRequest) (rate : LockedRateEntry) : Bool :=
  match request with
  | consumeScanRateLimits _ _ challengePassed =>
    rate.entry.kind = .scanIpHour && challengePassed && 3 ≤ rate.count
  | _ => false

end RateRequest

/-- A call under way: the instant it read, the keys it has yet to lock, of which it may have put the row of the
first in, and those it has locked. -/
structure RateCall where
  request : RateRequest
  now : Int
  inserted : Bool
  toLock : List AtomicRateEntry
  locked : List LockedRateEntry
  deriving DecidableEq, Repr

/-- Everything that can happen next. -/
inductive RateAction where
  | passes (ms : Nat)
  | calls (c : Nat) (request : RateRequest)
  | inserts (c : Nat)
  | locks (c : Nat)
  | commits (c : Nat)
  | fails (c : Nat)
  | deletesEvent (cleanedAt : Int) (i : Nat)
  | deletesWindow (cleanedAt : Int) (key : RateKey) (windowStart : Int)
  deriving DecidableEq

/-- What is heard on the way. -/
inductive RateNotice where
  | consumed (key : RateKey) (occurredAt : Int)
  | answered (c : Nat) (answer : RateAnswer)
  deriving DecidableEq

/-- The clock, the tables, the locks of the keys that count by the hour, and the calls under way. -/
structure RateDesk where
  now : Int
  events : List RateLimitEvent
  windows : Dict (RateKey × Int) RateWindow
  advisory : Dict RateKey Nat
  calls : Dict Nat RateCall

namespace RateDesk

def start (now : Int) : RateDesk :=
  { now := now, events := [], windows := .empty, advisory := .empty, calls := .empty }

variable (collate : String → String → Bool) (s : RateDesk) (c : Nat) (call : RateCall)

/-- How many events there are under a key after an instant. -/
def counted (key : RateKey) (cutoff : Int) : Nat :=
  s.events.countP fun event => event.key = key ∧ cutoff < event.occurredAt

def goes : RateDesk := { s with calls := s.calls.set c call }

def hasLocked (rest : List AtomicRateEntry) (rate : LockedRateEntry) : RateDesk :=
  s.goes c { call with inserted := false, toLock := rest, locked := call.locked ++ [rate] }

/-- Locks a key that counts by the hour, and counts the events after the hour before. It waits for the lock
while another call has it. -/
def lockRollingRate (entry : AtomicRateEntry) (rest : List AtomicRateEntry) : Except Unit RateDesk :=
  if (s.advisory.get entry.key).any (· ≠ c) then .error ()
  else
    .ok ({ s with advisory := s.advisory.set entry.key c }.hasLocked c call rest
      ⟨entry, s.counted entry.key (call.now - hourMs), none, call.now + hourMs⟩)

def sees (row : RateWindow) : Bool := row.committed || row.lockedBy = some c

/-- Puts the row of the day in, unless there is one (the first statement of `ensureAndLockFixedRateWindow`). It
waits while another call has put one in and not committed it. -/
def ensureFixedRateWindow (entry : AtomicRateEntry) : Except Unit RateDesk :=
  let windowStart := rateWindowStart entry.kind call.now
  match s.windows.get (entry.key, windowStart) with
  | none =>
    .ok ({ s with
      windows := s.windows.set (entry.key, windowStart)
        ⟨0, 0, windowStart + dayMs, some c, false⟩ }.goes c { call with inserted := true })
  | some row => if sees c row then .ok (s.goes c { call with inserted := true }) else .error ()

/-- Locks the row of the day, and reads what it counts (the last statement of `ensureAndLockFixedRateWindow`).
It waits while another call has the row locked. -/
def lockFixedRateWindow (entry : AtomicRateEntry) (rest : List AtomicRateEntry) : Except Unit RateDesk :=
  let windowStart := rateWindowStart entry.kind call.now
  let locked (count : Nat) : LockedRateEntry := ⟨entry, count, some windowStart, windowStart + dayMs⟩
  match s.windows.get (entry.key, windowStart) with
  | none => .ok (s.hasLocked c call rest (locked 0))
  | some row =>
    if ¬ sees c row then .ok (s.hasLocked c call rest (locked 0))
    else if row.lockedBy.any (· ≠ c) then .error ()
    else
      .ok ({ s with windows := s.windows.set (entry.key, windowStart) { row with lockedBy := some c } }.hasLocked
        c call rest (locked row.count))

/-- Records an event under a key. -/
def recordRateConsumption (rate : LockedRateEntry) (now : Int) (challengePassed : Bool) : RateDesk :=
  if usesRollingWindow rate.entry.kind then
    { s with events := s.events ++ [⟨rate.entry.key, now, challengePassed, rate.expiresAt⟩] }
  else
    match rate.windowStart with
    | none => s
    | some windowStart =>
      match s.windows.get (rate.entry.key, windowStart) with
      | none => s
      | some row =>
        if sees c row then
          { s with
            windows := s.windows.set (rate.entry.key, windowStart)
              { row with
                count := row.count + 1
                challengePassedCount := row.challengePassedCount + if challengePassed then 1 else 0
                expiresAt := rate.expiresAt } }
        else s

/-- Whether a row to be changed is locked by another call. -/
def waits (rate : LockedRateEntry) : Bool :=
  !usesRollingWindow rate.entry.kind && rate.windowStart.any fun windowStart =>
    (s.windows.get (rate.entry.key, windowStart)).any fun row => row.lockedBy.any (· ≠ c)

/-- A row, once a call that may have it locked has committed. -/
def release (row : RateWindow) : RateWindow :=
  if row.lockedBy = some c then { row with lockedBy := none, committed := true } else row

/-- A transaction is committed: its locks are free, and what it put in is there. -/
def commit : RateDesk :=
  { s with
    windows := s.windows.mapValues (release c)
    advisory := s.advisory.dropping (· = c)
    calls := s.calls.delete c }

/-- A transaction is rolled back: its locks are free, and what it put in is gone. -/
def rollback : RateDesk :=
  { s with
    windows := (s.windows.dropping fun row => row.lockedBy = some c && !row.committed).mapValues (release c)
    advisory := s.advisory.dropping (· = c)
    calls := s.calls.delete c }

/-- Records an event under every key of a call. -/
def recordAll : RateDesk :=
  call.locked.foldl (fun s rate => s.recordRateConsumption c rate call.now (call.request.challenged rate)) s

/-- A call that has locked every key is answered. -/
def finishes : Except Unit (RateDesk × List RateNotice) :=
  match call.request.decide call.locked with
  | none => .error ()
  | some .allowed =>
    if call.locked.any (s.waits c) then .error ()
    else
      .ok ((s.recordAll c call).commit c,
        call.locked.map (fun rate => .consumed rate.entry.key call.now) ++ [.answered c .allowed])
  | some answer => .ok (s.commit c, [.answered c answer])

/-- One step. -/
def step : RateAction → Except Unit (RateDesk × List RateNotice)
  | .passes ms => .ok ({ s with now := s.now + ms }, [])
  | .calls c request =>
    if s.calls.has c then .error ()
    else .ok (s.goes c ⟨request, s.now, false, request.ordered collate, []⟩, [])
  | .inserts c =>
    match s.calls.get c with
    | some ⟨request, now, false, entry :: rest, locked⟩ =>
      if usesRollingWindow entry.kind then .error ()
      else (s.ensureFixedRateWindow c ⟨request, now, false, entry :: rest, locked⟩ entry).map (·, [])
    | _ => .error ()
  | .locks c =>
    match s.calls.get c with
    | some ⟨request, now, inserted, entry :: rest, locked⟩ =>
      if usesRollingWindow entry.kind then
        (s.lockRollingRate c ⟨request, now, inserted, entry :: rest, locked⟩ entry rest).map (·, [])
      else if inserted then
        (s.lockFixedRateWindow c ⟨request, now, inserted, entry :: rest, locked⟩ entry rest).map (·, [])
      else .error ()
    | _ => .error ()
  | .commits c =>
    match s.calls.get c with
    | some ⟨request, now, inserted, [], locked⟩ => s.finishes c ⟨request, now, inserted, [], locked⟩
    | _ => .error ()
  | .fails c =>
    match s.calls.get c with
    | some _ => .ok (s.rollback c, [])
    | none => .error ()
  | .deletesEvent cleanedAt i =>
    match s.events[i]? with
    | none => .error ()
    | some event =>
      if cleanedAt ≤ s.now ∧ event.expiresAt ≤ cleanedAt then .ok ({ s with events := s.events.eraseIdx i }, [])
      else .error ()
  | .deletesWindow cleanedAt key windowStart =>
    match s.windows.get (key, windowStart) with
    | none => .error ()
    | some row =>
      if cleanedAt ≤ s.now ∧ row.expiresAt ≤ cleanedAt ∧ row.committed = true ∧ row.lockedBy = none then
        .ok ({ s with windows := s.windows.delete (key, windowStart) }, [])
      else .error ()

end RateDesk

section

variable (collate : String → String → Bool)

def rateMachine : Reactor RateDesk RateAction RateNotice Unit := ⟨RateDesk.step collate⟩

/-- What a list of actions leads to, from an instant at which nothing has come yet. -/
def rateRun (now : Int) (actions : List RateAction) : RateDesk := (rateMachine collate).run (.start now) actions

def rateLog (now : Int) (actions : List RateAction) : List (Happening RateAction RateNotice) :=
  (rateMachine collate).log (.start now) actions

end

/-- When events were allowed under a key, in the order in which they were recorded. -/
def consumedAt (log : List (Happening RateAction RateNotice)) (key : RateKey) : List Int :=
  log.filterMap fun
    | .emitted (.consumed key' occurredAt) => if key' = key then some occurredAt else none
    | _ => none

end Coinslot
