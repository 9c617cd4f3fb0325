import Coinslot.Scanner.Outbox

/-!
# Deliveries to the partner, one at a time

A delivery to the partner is made under an advisory lock, which it keeps until an interval has passed since it began
(`createPartnerRateLimitedDeliverer`, `apps/scanner-worker/src/analytics-outbox.ts`). Getting a connection, locking,
waiting and unlocking can each fail, before or after they took effect.

Whatever fails, the caller is told how the delivery ended once it has, the connection is given back once, and for
reuse only where its session holds no lock. While no wait or unlocking fails and no session is lost, deliveries
begin an interval apart and never overlap (`finished_delivery_reported`).
-/

namespace Coinslot

open List Dict

def PARTNER_GLOBAL_MIN_INTERVAL_MS : Int := 1100

/-- What a caller is told where no delivery was made. -/
def rateLimiterError : DeliveryResult := .failed "partner_tracker_rate_limiter_error" true

/-- What a caller is told of a delivery that threw. -/
def partnerDeliveryError : DeliveryResult := .failed "partner_tracker_delivery_error" true

/-- How far a call has come, with its connection, the instant its delivery began at and how it ended. -/
inductive PacedStage where
  | connecting
  | locking (client : Nat)
  | delivering (client : Nat) (requestStartedAt : Int)
  | pausing (client : Nat) (requestStartedAt due : Int) (result : DeliveryResult)
  | unlocking (client : Nat) (requestStartedAt : Int) (destroyConnection : Bool) (result : DeliveryResult)
  | ended

/-- Where a connection is: in the pool, with a call, or on its way to be closed. -/
inductive ClientPlace where
  | idle
  | used (call : Nat)
  | closing

/-- What is heard of a call. -/
inductive PacedEvent where
  | obtained (client : Nat)
  | started (instant : Int)
  | finished (result : DeliveryResult)
  | givenBack (client : Nat) (reuse : Bool)
  | answered (result : DeliveryResult)

/-- How a query goes: it is answered, or fails, after it took effect or before. -/
inductive QueryOutcome where
  | answers
  | fails (done : Bool)

/-- How a call goes on. -/
inductive PacedTurn where
  | connects (client : Nat)
  | connectFails
  | locks (outcome : QueryOutcome)
  | returns (result : DeliveryResult)
  | throws
  | waits
  | waitFails
  | unlocks (outcome : QueryOutcome)

/-- What can happen next: a call begins or goes on, a session ends that is to be closed, one is lost that a call has,
time passes. -/
inductive PacedAction where
  | begins (call : Nat)
  | turns (call : Nat) (turn : PacedTurn)
  | ends (client : Nat)
  | loses (client : Nat)
  | passes (ms : Nat)

/-- The calls of the deliverers on all workers, the connections, and whose session holds the lock. -/
structure PacedDeliverers where
  now : Int
  calls : Dict Nat PacedStage
  places : Dict Nat ClientPlace
  holder : Option Nat

namespace PacedDeliverers

def empty : PacedDeliverers := ⟨0, .empty, .empty, none⟩

variable (s : PacedDeliverers)

def goes (call : Nat) (stage : PacedStage) : PacedDeliverers := { s with calls := s.calls.set call stage }

/-- The connection is given back, and the caller answered. -/
def release (call client : Nat) (destroyConnection : Bool) (result : DeliveryResult) :
    PacedDeliverers × List PacedEvent :=
  (({ s with places := s.places.set client (if destroyConnection then .closing else .idle) } : PacedDeliverers).goes
    call .ended, [.givenBack client !destroyConnection, .answered result])

/-- The lock is asked for. It is granted where no session holds it. -/
def lock (call client : Nat) : QueryOutcome → Except Unit (PacedDeliverers × List PacedEvent)
  | .answers =>
    if s.holder = none then
      .ok (({ s with holder := some client } : PacedDeliverers).goes call (.delivering client s.now),
        [.started s.now])
    else .error ()
  | .fails false => .ok (s.release call client true rateLimiterError)
  | .fails true =>
    if s.holder = none then
      .ok (({ s with holder := some client } : PacedDeliverers).release call client true rateLimiterError)
    else .error ()

/-- The delivery has ended, and what is left of the interval is waited for. -/
def finish (call client : Nat) (requestStartedAt : Int) (result : DeliveryResult) :
    PacedDeliverers × List PacedEvent :=
  let remainingInterval := PARTNER_GLOBAL_MIN_INTERVAL_MS - (s.now - requestStartedAt)
  (s.goes call (if remainingInterval > 0 then .pausing client requestStartedAt (s.now + remainingInterval) result
    else .unlocking client requestStartedAt false result), [.finished result])

/-- A session gives the lock up, if it holds it. -/
def frees (client : Nat) : PacedDeliverers :=
  { s with holder := if s.holder = some client then none else s.holder }

/-- The lock is given back, and the connection with it. -/
def unlock (call client : Nat) (destroyConnection : Bool) (result : DeliveryResult) :
    QueryOutcome → PacedDeliverers × List PacedEvent
  | .answers => (s.frees client).release call client (destroyConnection || decide (s.holder ≠ some client)) result
  | .fails false => s.release call client true result
  | .fails true => (s.frees client).release call client true result

/-- A call goes on. A connection is one of the pool's or a new one, and a wait is not over before its time. -/
def turn (call : Nat) : PacedStage → PacedTurn → Except Unit (PacedDeliverers × List PacedEvent)
  | .connecting, .connects client =>
    match s.places.get client with
    | none | some .idle =>
      .ok (({ s with places := s.places.set client (.used call) } : PacedDeliverers).goes call (.locking client),
        [.obtained client])
    | _ => .error ()
  | .connecting, .connectFails => .ok (s.goes call .ended, [.answered rateLimiterError])
  | .locking client, .locks outcome => s.lock call client outcome
  | .delivering client startedAt, .returns result => .ok (s.finish call client startedAt result)
  | .delivering client startedAt, .throws => .ok (s.finish call client startedAt partnerDeliveryError)
  | .pausing client startedAt due result, .waits =>
    if due ≤ s.now then .ok (s.goes call (.unlocking client startedAt false result), []) else .error ()
  | .pausing client startedAt _ result, .waitFails => .ok (s.goes call (.unlocking client startedAt true result), [])
  | .unlocking client _ destroyConnection result, .unlocks outcome =>
    .ok (s.unlock call client destroyConnection result outcome)
  | _, _ => .error ()

def step : PacedAction → Except Unit (PacedDeliverers × List (Nat × PacedEvent))
  | .begins call =>
    match s.calls.get call with
    | none => .ok (s.goes call .connecting, [])
    | some _ => .error ()
  | .turns call turn =>
    match s.calls.get call with
    | none => .error ()
    | some stage => (s.turn call stage turn).map fun came => (came.1, came.2.map (call, ·))
  | .ends client =>
    match s.places.get client with
    | some .closing => .ok ({ s.frees client with places := s.places.delete client }, [])
    | _ => .error ()
  | .loses client => .ok (s.frees client, [])
  | .passes ms => .ok ({ s with now := s.now + ms }, [])

end PacedDeliverers

/-- The deliverers as a reactor. -/
def pacedMachine : Reactor PacedDeliverers PacedAction (Nat × PacedEvent) Unit := ⟨PacedDeliverers.step⟩

/-- What a list of actions leads to. -/
def pacedRun (actions : List PacedAction) : PacedDeliverers := pacedMachine.run .empty actions

/-- What is heard on the way. -/
def pacedLog (actions : List PacedAction) : List (Happening PacedAction (Nat × PacedEvent)) :=
  pacedMachine.log .empty actions

/-! ## What is heard of a call -/

/-- What was heard of one call. -/
def eventsOf (call : Nat) (log : List (Happening PacedAction (Nat × PacedEvent))) : List PacedEvent :=
  log.filterMap fun
    | .emitted (other, event) => if other = call then some event else none
    | _ => none

/-- What was heard of a call that has come to a stage, or to none. -/
inductive Tells : Option PacedStage → List PacedEvent → Prop where
  | unheard : Tells none []
  | connecting : Tells (some .connecting) []
  | locking (client : Nat) : Tells (some (.locking client)) [.obtained client]
  | delivering (client : Nat) (t : Int) : Tells (some (.delivering client t)) [.obtained client, .started t]
  | pausing (client : Nat) (t due : Int) (result : DeliveryResult) :
    Tells (some (.pausing client t due result)) [.obtained client, .started t, .finished result]
  | unlocking (client : Nat) (t : Int) (destroys : Bool) (result : DeliveryResult) :
    Tells (some (.unlocking client t destroys result)) [.obtained client, .started t, .finished result]
  | unconnected : Tells (some .ended) [.answered rateLimiterError]
  | unlocked (client : Nat) :
    Tells (some .ended) [.obtained client, .givenBack client false, .answered rateLimiterError]
  | delivered (client : Nat) (t : Int) (reuse : Bool) (result : DeliveryResult) :
    Tells (some .ended) [.obtained client, .started t, .finished result, .givenBack client reuse, .answered result]

variable {s s' : PacedDeliverers} {l : List (Happening PacedAction (Nat × PacedEvent))} {call client : Nat}
  {stage stage' : PacedStage} {events : List PacedEvent} {turn : PacedTurn} {action : PacedAction}
  {out : List (Nat × PacedEvent)}

theorem eventsOf_append (call : Nat) (l : List (Happening PacedAction (Nat × PacedEvent))) (action : PacedAction)
    (other : Nat) (events : List PacedEvent) : eventsOf call (l ++ Reactor.stepLog action (events.map (other, ·))) =
      eventsOf call l ++ if other = call then events else [] := by
  by_cases h : other = call <;> simp [eventsOf, Reactor.stepLog, filterMap_map, Function.comp_def, h]

/-- What was heard of each call is told by its stage. -/
def Told (s : PacedDeliverers) (l : List (Happening PacedAction (Nat × PacedEvent))) : Prop :=
  ∀ call, Tells (s.calls.get call) (eventsOf call l)

theorem Told.goes (h : Told s l) (hcalls : s'.calls = s.calls.set call stage')
    (hnext : ∀ told, Tells (s.calls.get call) told → Tells (some stage') (told ++ events)) :
    Told s' (l ++ Reactor.stepLog action (events.map (call, ·))) := by
  intro other
  rw [eventsOf_append, hcalls, get_set]
  by_cases hsame : other = call
  · rw [if_pos hsame, if_pos hsame.symm, hsame]
    exact hnext _ (h call)
  · rw [if_neg hsame, if_neg (Ne.symm hsame), append_nil]
    exact h other

theorem Told.silent (h : Told s l) (hcalls : s'.calls = s.calls) : Told s' (l ++ Reactor.stepLog action []) := by
  intro call
  have hsame := eventsOf_append call l action call []
  rw [ite_self, append_nil] at hsame
  rw [hcalls]
  exact hsame ▸ h call

/-- A turn brings its call to a stage that tells what is heard. -/
theorem turn_tells (hturn : s.turn call stage turn = .ok (s', events)) :
    ∃ stage', s'.calls = s.calls.set call stage' ∧
      ∀ told, Tells (some stage) told → Tells (some stage') (told ++ events) := by
  unfold PacedDeliverers.turn at hturn
  split at hturn
  · split at hturn <;> cases hturn <;> exact ⟨_, rfl, fun _ htold => by cases htold; constructor⟩
  · cases hturn
    exact ⟨_, rfl, fun _ htold => by cases htold; constructor⟩
  · unfold PacedDeliverers.lock at hturn
    split at hturn
    · split at hturn <;> cases hturn
      exact ⟨_, rfl, fun _ htold => by cases htold; constructor⟩
    · cases hturn
      exact ⟨_, rfl, fun _ htold => by cases htold; constructor⟩
    · split at hturn <;> cases hturn
      exact ⟨_, rfl, fun _ htold => by cases htold; constructor⟩
  · cases hturn
    exact ⟨_, rfl, fun _ htold => by cases htold; split <;> constructor⟩
  · cases hturn
    exact ⟨_, rfl, fun _ htold => by cases htold; split <;> constructor⟩
  · split at hturn <;> cases hturn
    exact ⟨_, rfl, fun _ htold => by cases htold; constructor⟩
  · cases hturn
    exact ⟨_, rfl, fun _ htold => by cases htold; constructor⟩
  · unfold PacedDeliverers.unlock at hturn
    split at hturn <;> cases hturn <;> exact ⟨_, rfl, fun _ htold => by cases htold; constructor⟩
  · cases hturn

theorem step_told (h : Told s l) (hstep : s.step action = .ok (s', out)) :
    Told s' (l ++ Reactor.stepLog action out) := by
  cases action with
  | begins call =>
    simp only [PacedDeliverers.step] at hstep
    split at hstep <;> cases hstep
    next hnone =>
      change Told _ (l ++ Reactor.stepLog _ (([] : List PacedEvent).map (call, ·)))
      refine h.goes rfl fun told htold => ?_
      rw [hnone] at htold
      cases htold
      exact .connecting
  | turns call turn =>
    simp only [PacedDeliverers.step] at hstep
    split at hstep
    · cases hstep
    · next stage hstage =>
      obtain ⟨⟨came, events⟩, hturn, heq⟩ := Except.map_eq_ok_iff.1 hstep
      cases heq
      obtain ⟨stage', hcalls, htells⟩ := turn_tells hturn
      exact h.goes hcalls (hstage ▸ htells)
  | ends client =>
    simp only [PacedDeliverers.step] at hstep
    split at hstep <;> cases hstep
    exact h.silent rfl
  | loses client => cases hstep; exact h.silent rfl
  | passes ms => cases hstep; exact h.silent rfl

/-! ## Connections -/

/-- The connection of a call. -/
@[grind] def PacedStage.client? : PacedStage → Option Nat
  | .locking client | .delivering client _ | .pausing client _ _ _ | .unlocking client _ _ _ => some client
  | .connecting | .ended => none

/-- The connection of a call that has the lock. -/
@[grind] def PacedStage.locked? : PacedStage → Option Nat
  | .delivering client _ | .pausing client _ _ _ | .unlocking client _ _ _ => some client
  | .connecting | .locking _ | .ended => none

/-- A call's connection is its own, and none in the pool has the lock. -/
structure Seated (s : PacedDeliverers) : Prop where
  seat : ∀ call stage client, s.calls.get call = some stage → stage.client? = some client →
    s.places.get client = some (.used call)
  held : ∀ client, s.holder = some client → s.places.get client ≠ some .idle

attribute [local grind =] Dict.get_set Dict.get_delete
attribute [local grind] PacedDeliverers.goes PacedDeliverers.release PacedDeliverers.frees PacedDeliverers.finish

theorem turn_seated (h : Seated s) (hstage : s.calls.get call = some stage)
    (hturn : s.turn call stage turn = .ok (s', events)) : Seated s' := by
  obtain ⟨seat, held⟩ := h
  unfold PacedDeliverers.turn at hturn
  split at hturn
  · constructor <;> grind
  · constructor <;> grind
  · unfold PacedDeliverers.lock at hturn
    split at hturn <;> constructor <;> grind
  · constructor <;> grind
  · constructor <;> grind
  · constructor <;> grind
  · constructor <;> grind
  · unfold PacedDeliverers.unlock at hturn
    split at hturn <;> constructor <;> grind
  · cases hturn

theorem step_seated (h : Seated s) (hstep : s.step action = .ok (s', out)) : Seated s' := by
  cases action with
  | turns call turn =>
    simp only [PacedDeliverers.step] at hstep
    split at hstep
    · cases hstep
    · next stage hstage =>
      obtain ⟨⟨came, events⟩, hturn, heq⟩ := Except.map_eq_ok_iff.1 hstep
      cases heq
      exact turn_seated h hstage hturn
  | _ =>
    obtain ⟨seat, held⟩ := h
    simp only [PacedDeliverers.step] at hstep
    constructor <;> grind

/-! ## Pacing -/

/-- The instants deliveries began at. -/
def startsOf (log : List (Happening PacedAction (Nat × PacedEvent))) : List Int :=
  log.filterMap fun
    | .emitted (_, .started instant) => some instant
    | _ => none

/-- A call keeps the lock until an interval has passed since its delivery began. -/
@[grind] def PacedStage.Keeps (t : Int) : PacedStage → Prop
  | .delivering _ startedAt => startedAt = t
  | .pausing _ startedAt due _ => startedAt = t ∧ t + PARTNER_GLOBAL_MIN_INTERVAL_MS ≤ due
  | _ => False

/-- No wait and no unlocking fails, and no session is lost. -/
def Steady : PacedAction → Prop
  | .turns _ .waitFails | .turns _ (.unlocks (.fails _)) | .loses _ => False
  | _ => True

/-- Calls that have the lock do hold it, every delivery began an interval ago or keeps the lock, and any two began an
interval apart. -/
structure Paced (s : PacedDeliverers) (l : List (Happening PacedAction (Nat × PacedEvent))) : Prop where
  locked : ∀ call stage client, s.calls.get call = some stage → stage.locked? = some client → s.holder = some client
  past : ∀ t ∈ startsOf l, t + PARTNER_GLOBAL_MIN_INTERVAL_MS ≤ s.now ∨
    ∃ call stage, s.calls.get call = some stage ∧ stage.Keeps t
  apart : (startsOf l).Pairwise fun t u => t + PARTNER_GLOBAL_MIN_INTERVAL_MS ≤ u

theorem startsOf_append (l : List (Happening PacedAction (Nat × PacedEvent))) (action : PacedAction)
    (out : List (Nat × PacedEvent)) :
    startsOf (l ++ Reactor.stepLog action out) = startsOf l ++ startsOf (out.map .emitted) := by
  rw [startsOf, filterMap_append, Reactor.stepLog, filterMap_cons]
  rfl

/-- A call goes on that begins no delivery: it keeps the lock until an interval has passed. -/
theorem Paced.goes (h : Paced s l) (hcalls : s'.calls = s.calls.set call stage') (hnow : s'.now = s.now)
    (hlocked : ∀ other found taken, s'.calls.get other = some found → found.locked? = some taken →
      s'.holder = some taken) (hkeeps : ∀ t found, s.calls.get call = some found → found.Keeps t →
      t + PARTNER_GLOBAL_MIN_INTERVAL_MS ≤ s.now ∨ stage'.Keeps t)
    (hout : startsOf (out.map .emitted) = []) : Paced s' (l ++ Reactor.stepLog action out) := by
  have hstarts : startsOf (l ++ Reactor.stepLog action out) = startsOf l := by
    rw [startsOf_append, hout, append_nil]
  refine ⟨hlocked, fun t ht => ?_, hstarts ▸ h.apart⟩
  rw [hnow, hcalls]
  rcases h.past t (hstarts ▸ ht) with hpast | ⟨other, found, hfound, hkept⟩
  · exact .inl hpast
  · by_cases hsame : other = call
    · subst hsame
      exact (hkeeps t found hfound hkept).imp_right fun hkept' => ⟨other, stage', get_set_self .., hkept'⟩
    · exact .inr ⟨other, found, (get_set_ne _ _ hsame).trans hfound, hkept⟩

/-- A delivery begins: no other call has the lock, and all others began an interval ago. -/
theorem Paced.granted (h : Paced s l) (hfree : s.holder = none) (call client : Nat) (action : PacedAction) :
    Paced (({ s with holder := some client } : PacedDeliverers).goes call (.delivering client s.now))
      (l ++ Reactor.stepLog action [(call, .started s.now)]) := by
  have hpast : ∀ t ∈ startsOf l, t + PARTNER_GLOBAL_MIN_INTERVAL_MS ≤ s.now := by
    intro t ht
    refine (h.past t ht).resolve_right ?_
    rintro ⟨other, found, hfound, hkept⟩
    obtain ⟨taken, htaken⟩ : ∃ taken, found.locked? = some taken := by
      cases found <;> first | exact ⟨_, rfl⟩ | exact hkept.elim
    cases hfree.symm.trans (h.locked other found taken hfound htaken)
  have hlocked := h.locked
  refine ⟨by grind, fun t ht => ?_, ?_⟩
  · rw [startsOf_append] at ht
    rcases mem_append.1 ht with ht | ht
    · exact .inl (hpast t ht)
    · exact .inr ⟨call, .delivering client s.now, get_set_self .., (mem_singleton.1 ht).symm⟩
  · rw [startsOf_append]
    refine pairwise_append.2 ⟨h.apart, pairwise_singleton _ _, fun t ht u hu => ?_⟩
    rw [mem_singleton.1 hu]
    exact hpast t ht

theorem locked_client (h : stage.locked? = some client) : stage.client? = some client := by
  cases stage <;> first | exact h | cases h

theorem turn_paced (h : Paced s l) (hs : Seated s) (hstage : s.calls.get call = some stage)
    (hturn : s.turn call stage turn = .ok (s', events)) (hsteady : Steady (.turns call turn)) :
    Paced s' (l ++ Reactor.stepLog (.turns call turn) (events.map (call, ·))) := by
  have hlocked := h.locked
  unfold PacedDeliverers.turn at hturn
  split at hturn
  · split at hturn <;> cases hturn <;> exact h.goes rfl rfl (by grind) (by grind) rfl
  · cases hturn
    exact h.goes rfl rfl (by grind) (by grind) rfl
  · unfold PacedDeliverers.lock at hturn
    split at hturn
    · split at hturn <;> cases hturn
      next hfree => exact h.granted hfree _ _ _
    · cases hturn
      exact h.goes rfl rfl (by grind) (by grind) rfl
    · split at hturn <;> cases hturn
      exact h.goes rfl rfl (by grind) (by grind) rfl
  · cases hturn
    exact h.goes rfl rfl (by grind) (by grind) rfl
  · cases hturn
    exact h.goes rfl rfl (by grind) (by grind) rfl
  · split at hturn <;> cases hturn
    exact h.goes rfl rfl (by grind) (by grind) rfl
  · exact hsteady.elim
  · next client t destroys result outcome =>
    cases outcome with
    | answers =>
      -- The lock was the call's: another's would be held by the same connection.
      have hothers : ∀ other found taken, other ≠ call → s.calls.get other = some found →
          found.locked? ≠ some taken := by
        intro other found taken hne hfound htaken
        have hown := hs.seat call _ client hstage rfl
        have hother := hs.seat other found taken hfound (locked_client htaken)
        cases (h.locked other found taken hfound htaken).symm.trans (h.locked call _ client hstage rfl)
        cases hother.symm.trans hown
        exact hne rfl
      cases hturn
      exact h.goes rfl rfl (by grind) (by grind) rfl
    | fails done => exact hsteady.elim
  · cases hturn

theorem Paced.silent (h : Paced s l) (hnow : s.now ≤ s'.now) (hcalls : s'.calls = s.calls)
    (hlocked : ∀ call found taken, s.calls.get call = some found → found.locked? = some taken →
      s'.holder = some taken) : Paced s' (l ++ Reactor.stepLog action []) := by
  have hstarts : startsOf (l ++ Reactor.stepLog action []) = startsOf l :=
    (startsOf_append ..).trans (append_nil _)
  exact ⟨hcalls ▸ hlocked, fun t ht => hcalls ▸ (h.past t (hstarts ▸ ht)).imp_left fun hpast =>
    Int.le_trans hpast hnow, hstarts ▸ h.apart⟩

theorem step_paced (h : Paced s l) (hs : Seated s) (hsteady : Steady action)
    (hstep : s.step action = .ok (s', out)) : Paced s' (l ++ Reactor.stepLog action out) := by
  cases action with
  | begins call =>
    have hlocked := h.locked
    simp only [PacedDeliverers.step] at hstep
    split at hstep <;> cases hstep
    exact h.goes rfl rfl (by grind) (by grind) rfl
  | turns call turn =>
    simp only [PacedDeliverers.step] at hstep
    split at hstep
    · cases hstep
    · next stage hstage =>
      obtain ⟨⟨came, events⟩, hturn, heq⟩ := Except.map_eq_ok_iff.1 hstep
      cases heq
      exact turn_paced h hs hstage hturn hsteady
  | ends client =>
    simp only [PacedDeliverers.step] at hstep
    split at hstep <;> cases hstep
    next hplace =>
      refine h.silent (Int.le_refl _) rfl fun call found taken hfound htaken => ?_
      have hheld := h.locked call found taken hfound htaken
      have hseat := hs.seat call found taken hfound (locked_client htaken)
      refine (if_neg fun hclient => ?_).trans hheld
      cases hheld.symm.trans hclient
      cases hplace.symm.trans hseat
  | loses client => exact hsteady.elim
  | passes ms =>
    cases hstep
    exact h.silent (Int.le_add_of_nonneg_right (Int.natCast_nonneg ms)) rfl h.locked

/-! ## Whole runs -/

theorem Tells.story {reached : Option PacedStage} (h : Tells reached events) :
    ∃ told, events <+: told ∧ Tells (some .ended) told := by
  cases h with
  | unheard | connecting => exact ⟨_, nil_prefix, .unconnected⟩
  | locking client => exact ⟨_, prefix_append _ _, .unlocked client⟩
  | delivering client t => exact ⟨_, prefix_append [_, _] _, .delivered client t true .ok⟩
  | pausing client t _ result | unlocking client t _ result =>
    exact ⟨_, prefix_append [_, _, _] _, .delivered client t true result⟩
  | _ => exact ⟨_, prefix_refl _, by constructor⟩

/-- **A finished delivery is reported as it ended.** What is heard of a call, in every run, is as much of a story as
it has come to: no connection was to be had; or the lock was not, and the connection was given back to be closed; or
a delivery began and ended, the connection was given back and the caller told how the delivery ended. No connection
in the pool has the lock. Where no wait and no unlocking fails and no session is lost, deliveries begin an interval
apart, and two are never under way at once. -/
theorem finished_delivery_reported (actions : List PacedAction) :
    (∀ call, ∃ told, eventsOf call (pacedLog actions) <+: told ∧ Tells (some .ended) told) ∧
    (∀ client, (pacedRun actions).places.get client = some .idle → (pacedRun actions).holder ≠ some client) ∧
    ((∀ action ∈ actions, Steady action) →
      (startsOf (pacedLog actions)).Pairwise (fun t u => t + PARTNER_GLOBAL_MIN_INTERVAL_MS ≤ u) ∧
      ∀ call client t other client' t', (pacedRun actions).calls.get call = some (.delivering client t) →
        (pacedRun actions).calls.get other = some (.delivering client' t') → call = other) := by
  have hempty : Seated .empty := ⟨fun _ _ _ h => (by cases h), fun _ h => (by cases h)⟩
  have hnone : Told .empty [] := fun _ => .unheard
  have htold : Told (pacedRun actions) (pacedLog actions) :=
    pacedMachine.log_induction (P := Told) (l := []) (fun h hstep => step_told h hstep) hnone actions
  have hseated : Seated (pacedRun actions) :=
    pacedMachine.run_induction (fun h hstep => step_seated h hstep) hempty actions
  refine ⟨fun call => (htold call).story, fun client hidle hheld => hseated.held client hheld hidle,
    fun hsteady => ?_⟩
  have hpaced : Paced (pacedRun actions) (pacedLog actions) ∧ Seated (pacedRun actions) :=
    pacedMachine.log_induction_meeting (P := fun s l => Paced s l ∧ Seated s) (A := fun _ => Steady) (l := [])
      (fun h hsteady hstep => ⟨step_paced h.1 h.2 hsteady hstep, step_seated h.2 hstep⟩)
      ⟨⟨fun _ _ _ h => (by cases h), fun _ h => absurd h List.not_mem_nil, .nil⟩, hempty⟩
      actions (pacedMachine.meets_of_mem (fun action h _ => hsteady action h) _)
  refine ⟨hpaced.1.apart, fun call client t other client' t' hcall hother => ?_⟩
  have hown := hseated.seat call _ client hcall rfl
  have hothers := hseated.seat other _ client' hother rfl
  cases (hpaced.1.locked call _ client hcall rfl).symm.trans (hpaced.1.locked other _ client' hother rfl)
  cases hown.symm.trans hothers
  rfl

end Coinslot
