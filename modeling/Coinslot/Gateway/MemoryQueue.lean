import Coinslot.Lib.Dict
import Coinslot.Lib.Reactor
import Mathlib.Data.List.Perm.Basic
import Mathlib.Data.Rat.Defs

/-!
# The queue in memory

Each merchant has a stream: what is ready on it, what is held out of reach until its delay is over, and who
is waiting for it. A publication lands on its merchant's stream, at once or when its timer fires, and wakes
everybody parked there; a draw takes what is ready, and where nothing is it parks until it is woken, or until
its time is up, and takes again.

What waits is a job (a microtask) or a timer. A call of `publish` lands in a job of its own, behind the jobs
already asked for, and a draw that is woken takes in one too; a timer fires when no job is left, and the timers
in any order. So every interleaving of the calls, the jobs and the timers is a run of `memoryQueue`.

Whatever has landed is held behind a timer, ready, or drawn, and once only (`Shared.shared`), in the stream of
its own merchant; and a draw whose time is up was woken by nobody, so that its stream is empty
(`Shared.parked`). `neither_lost_nor_twice` is what a run comes to.
-/

namespace Coinslot

open List

namespace MemoryQueue

/-- One time an envelope is put on a stream: by a call of `publish`, or by the call that `stage` hands back.
The number tells it from every other, also of the same envelope. -/
structure Publication (ε : Type) where
  number : Nat
  merchantId : String
  envelope : ε
  afterMs : Option Rat
  staged : Bool
  deriving DecidableEq, Repr

/-- A draw that found nothing and waits. -/
structure Draw where
  number : Nat
  merchantId : String
  max : Int
  deriving DecidableEq, Repr

/-- One merchant's stream: what is waiting on it and who is waiting for it. What is held is a set of envelope
objects. -/
structure Stream (ε : Type) where
  ready : List (Publication ε) := []
  held : List ε := []
  waiters : List Draw := []

/-- What a timer does when it fires. -/
inductive Timer (ε : Type) where
  | lands (publication : Publication ε)
  | wakes (draw : Draw)
  deriving DecidableEq, Repr

/-- What is left to do in a job. -/
inductive Job (ε : Type) where
  | lands (publication : Publication ε)
  | resumes (draw : Draw)
  deriving DecidableEq, Repr

/-- The queue, the jobs it has asked for, and how many calls there were. -/
structure Queue (ε : Type) where
  streams : String → Stream ε := fun _ => {}
  inFlight : Dict String (String × ε) := .empty
  timers : List (Timer ε) := []
  jobs : List (Job ε) := []
  handles : Nat := 0
  calls : Nat := 0

/-- An envelope that was drawn: by whom, and under which handle. -/
structure DrawnEnvelope (ε : Type) where
  merchantId : String
  publication : Publication ε
  handle : String
  deriving DecidableEq, Repr

/-- What is seen of the queue: a call of `publish`, a landing, and an envelope that is drawn. -/
inductive Notice (ε : Type) where
  | called (publication : Publication ε)
  | landed (publication : Publication ε)
  | drawn (drawn : DrawnEnvelope ε)
  deriving DecidableEq, Repr

/-- What happens to the queue: the calls, the call that `stage` hands back, the next job, and the timers. -/
inductive Move (ε : Type) where
  | publish (merchantId : String) (envelope : ε) (afterMs : Option Rat)
  | handedBack (merchantId : String) (envelope : ε) (afterMs : Option Rat)
  | draw (merchantId : String) (max : Int) (waitMs : Rat)
  | finish (merchantId handle : String)
  | job
  | fires (publication : Publication ε)
  | timesOut (draw : Draw)

/-- A publication that is not delayed. -/
def Publication.undelayed {ε : Type} (p : Publication ε) : Bool :=
  match p.afterMs with
  | none => true
  | some ms => decide (ms ≤ 0)

section

variable {ε : Type} [DecidableEq ε]

namespace Queue

section

variable (q : Queue ε)

def onStream (merchantId : String) (f : Stream ε → Stream ε) : Queue ε :=
  { q with streams := Function.update q.streams merchantId (f (q.streams merchantId)) }

/-- A parked draw is woken: its timer is cleared, it waits no longer, and its job is asked for. -/
def wake (d : Draw) : Queue ε :=
  { q.onStream d.merchantId fun stream => { stream with waiters := stream.waiters.filter (· ≠ d) } with
    timers := q.timers.filter (· ≠ .wakes d)
    jobs := q.jobs ++ [.resumes d] }

/-- A publication is put on its merchant's stream, and everybody parked there is woken. -/
def arrive (p : Publication ε) : Queue ε :=
  let pushed := q.onStream p.merchantId fun stream => { stream with ready := stream.ready ++ [p] }
  let woken := (pushed.streams p.merchantId).waiters.foldl wake pushed
  woken.onStream p.merchantId fun stream => { stream with waiters := [] }

/-- What the call does that `stage` hands back. -/
def land (p : Publication ε) : Queue ε :=
  if p.undelayed then q.arrive p
  else
    { q.onStream p.merchantId fun stream => { stream with held := stream.held.insert p.envelope } with
      timers := q.timers ++ [.lands p] }

end

/-- What is drawn goes in flight, each under the next handle. -/
def handOut (merchantId : String) : Queue ε → List (Publication ε) → Queue ε × List (DrawnEnvelope ε)
  | q, [] => (q, [])
  | q, p :: ps =>
    let handle := s!"h{q.handles + 1}"
    let rest := handOut merchantId
      { q with handles := q.handles + 1, inFlight := q.inFlight.set handle (merchantId, p.envelope) } ps
    (rest.1, ⟨merchantId, p, handle⟩ :: rest.2)

/-- The first of a stream, as many as are asked for. -/
def take (q : Queue ε) (merchantId : String) (max : Int) : Queue ε × List (DrawnEnvelope ε) :=
  let drawn := (q.streams merchantId).ready.take max.toNat
  handOut merchantId
    (q.onStream merchantId fun stream => { stream with ready := stream.ready.drop max.toNat }) drawn

/-- A draw that found nothing is parked. -/
def park (q : Queue ε) (d : Draw) : Queue ε :=
  { q.onStream d.merchantId fun stream => { stream with waiters := stream.waiters ++ [d] } with
    timers := q.timers ++ [.wakes d] }

/-- A delivery that is answered is in flight no longer; a handle of another merchant's stays where it is. -/
def finish (q : Queue ε) (merchantId handle : String) : Queue ε :=
  match q.inFlight.get handle with
  | some delivery => if delivery.1 = merchantId then { q with inFlight := q.inFlight.delete handle } else q
  | none => q

end Queue

/-- What one move does to the queue, and what is seen of it. A timer fires when no job is left; the job of a
draw whose time is up is then the next one, and nothing comes between. -/
def react (q : Queue ε) : Move ε → Except Unit (Queue ε × List (Notice ε))
  | .publish merchantId envelope afterMs =>
    let p : Publication ε := ⟨q.calls, merchantId, envelope, afterMs, false⟩
    .ok ({ q with jobs := q.jobs ++ [.lands p], calls := q.calls + 1 }, [.called p])
  | .handedBack merchantId envelope afterMs =>
    let p : Publication ε := ⟨q.calls, merchantId, envelope, afterMs, true⟩
    .ok ({ q with calls := q.calls + 1 }.land p, [.landed p])
  | .draw merchantId max waitMs =>
    let first := q.take merchantId max
    if 0 < first.2.length ∨ waitMs ≤ 0 then .ok (first.1, first.2.map .drawn)
    else .ok ({ first.1 with calls := q.calls + 1 }.park ⟨q.calls, merchantId, max⟩, [])
  | .finish merchantId handle => .ok (q.finish merchantId handle, [])
  | .job =>
    match q.jobs with
    | [] => .error ()
    | .lands p :: rest => .ok ({ q with jobs := rest }.land p, [.landed p])
    | .resumes d :: rest =>
      let taken := { q with jobs := rest }.take d.merchantId d.max
      .ok (taken.1, taken.2.map .drawn)
  | .fires p =>
    if q.jobs = [] ∧ .lands p ∈ q.timers then
      let due := q.onStream p.merchantId fun stream => { stream with held := stream.held.erase p.envelope }
      .ok ({ due with timers := q.timers.erase (.lands p) }.arrive p, [])
    else .error ()
  | .timesOut d =>
    if q.jobs = [] ∧ .wakes d ∈ q.timers then
      let woken := q.wake d
      let taken := { woken with jobs := q.jobs }.take d.merchantId d.max
      .ok (taken.1, taken.2.map .drawn)
    else .error ()

def memoryQueue : Reactor (Queue ε) (Move ε) (Notice ε) Unit := ⟨react⟩

end

variable {ε : Type}

/-! ## What is seen of a run -/

/-- What was seen, of a log. -/
def notices (log : List (Happening (Move ε) (Notice ε))) : List (Notice ε) :=
  log.filterMap fun
    | .accepted _ => none
    | .emitted notice => some notice

section

variable (seen : List (Notice ε))

/-- The calls of `publish`, in their order. -/
def called : List (Publication ε) :=
  seen.filterMap fun
    | .called p => some p
    | _ => none

/-- What landed, in its order. -/
def landed : List (Publication ε) :=
  seen.filterMap fun
    | .landed p => some p
    | _ => none

/-- What was drawn, in its order. -/
def drawn : List (DrawnEnvelope ε) :=
  seen.filterMap fun
    | .drawn d => some d
    | _ => none

end

def landedFor (merchantId : String) (seen : List (Notice ε)) : List (Publication ε) :=
  (landed seen).filter (·.merchantId = merchantId)

def drawnBy (merchantId : String) (seen : List (Notice ε)) : List (Publication ε) :=
  ((drawn seen).filter (·.merchantId = merchantId)).map (·.publication)

/-- What waits for a job of its own to land. -/
def pending (jobs : List (Job ε)) : List (Publication ε) :=
  jobs.filterMap fun
    | .lands p => some p
    | .resumes _ => none

/-- What has landed and waits for its delay to be over. -/
def delayed (timers : List (Timer ε)) : List (Publication ε) :=
  timers.filterMap fun
    | .lands p => some p
    | .wakes _ => none

/-- A publication is still in the queue: a job or a timer will land it, or it is ready for its merchant. -/
def Queue.Waits (q : Queue ε) (p : Publication ε) : Prop :=
  p ∈ pending q.jobs ∨ p ∈ delayed q.timers ∨ p ∈ (q.streams p.merchantId).ready

variable {q q' : Queue ε} {p : Publication ε} {d : Draw} {m : String} {seen : List (Notice ε)}

theorem mem_pending {jobs : List (Job ε)} : p ∈ pending jobs ↔ .lands p ∈ jobs := by
  unfold pending
  rw [mem_filterMap]
  constructor
  · rintro ⟨job, hin, hp⟩
    cases job with
    | lands p' => exact Option.some.inj hp ▸ hin
    | resumes d => cases hp
  · exact fun hin => ⟨_, hin, rfl⟩

theorem mem_delayed {timers : List (Timer ε)} : p ∈ delayed timers ↔ .lands p ∈ timers := by
  unfold delayed
  rw [mem_filterMap]
  constructor
  · rintro ⟨timer, hin, hp⟩
    cases timer with
    | lands p' => exact Option.some.inj hp ▸ hin
    | wakes d => cases hp
  · exact fun hin => ⟨_, hin, rfl⟩

theorem pending_append_resumes (jobs : List (Job ε)) (ds : List Draw) :
    pending (jobs ++ ds.map .resumes) = pending jobs := by
  simp [pending]

theorem drawnBy_handed (ds : List (DrawnEnvelope ε)) (hm : ∀ d ∈ ds, d.merchantId = m) (m' : String) :
    drawnBy m' (seen ++ ds.map .drawn) = drawnBy m' seen ++ if m' = m then ds.map (·.publication) else [] := by
  have hmap : drawn (ds.map Notice.drawn) = ds := by
    unfold drawn
    rw [filterMap_map]
    exact filterMap_some
  unfold drawnBy
  have happend : drawn (seen ++ ds.map Notice.drawn) = drawn seen ++ ds := by
    rw [drawn, filterMap_append, ← drawn, ← drawn, hmap]
  rw [happend]
  rw [filter_append, map_append]
  congr 1
  split
  · next h => rw [filter_eq_self.2 fun d hd => decide_eq_true ((hm d hd).trans h.symm)]
  · next h =>
    rw [filter_eq_nil_iff.2 fun d hd => by simpa [hm d hd] using fun hd' => h hd'.symm]
    rfl

/-! ## What the operations do to streams and timers -/

@[simp] theorem onStream_self (f : Stream ε → Stream ε) : (q.onStream m f).streams m = f (q.streams m) :=
  Function.update_self ..

@[simp] theorem onStream_of_ne (f : Stream ε → Stream ε) {m' : String} (h : m' ≠ m) :
    (q.onStream m f).streams m' = q.streams m' :=
  Function.update_of_ne h ..

section

variable (q : Queue ε)

theorem handOut_frame (ps : List (Publication ε)) :
    ∃ inFlight handles, (q.handOut m ps).1 = { q with inFlight := inFlight, handles := handles } := by
  induction ps generalizing q with
  | nil => exact ⟨q.inFlight, q.handles, rfl⟩
  | cons p ps ih =>
    obtain ⟨inFlight, handles, h⟩ := ih { q with
      handles := q.handles + 1
      inFlight := q.inFlight.set s!"h{q.handles + 1}" (m, p.envelope) }
    exact ⟨inFlight, handles, h⟩

theorem handOut_publications (ps : List (Publication ε)) : (q.handOut m ps).2.map (·.publication) = ps := by
  induction ps generalizing q with
  | nil => rfl
  | cons p ps ih => exact congrArg (p :: ·) (ih _)

theorem handOut_merchant (ps : List (Publication ε)) : ∀ d ∈ (q.handOut m ps).2, d.merchantId = m := by
  induction ps generalizing q with
  | nil => exact fun d hd => absurd hd not_mem_nil
  | cons p ps ih => exact forall_mem_cons.2 ⟨rfl, ih _⟩

/-- **What a draw takes.** The first of its merchant's stream, which the stream no longer has; nothing else
changes but what is in flight. -/
theorem take_spec (m : String) (max : Int) : (q.take m max).1.streams =
        (q.onStream m fun stream => { stream with ready := stream.ready.drop max.toNat }).streams ∧
      (q.take m max).1.timers = q.timers ∧ (q.take m max).1.jobs = q.jobs ∧
      (q.take m max).1.calls = q.calls ∧
      (q.take m max).2.map (·.publication) = (q.streams m).ready.take max.toNat ∧
      ∀ d ∈ (q.take m max).2, d.merchantId = m := by
  obtain ⟨inFlight, handles, h⟩ := handOut_frame (m := m)
    (q.onStream m fun stream => { stream with ready := stream.ready.drop max.toNat })
    ((q.streams m).ready.take max.toNat)
  refine ⟨?_, ?_, ?_, ?_, handOut_publications _ _, handOut_merchant _ _⟩ <;> unfold Queue.take <;> rw [h] <;> rfl

end

section

variable [DecidableEq ε]

/-- Draws of one merchant that are woken one after the other wait no longer, and have no timers; each has asked
for its job. -/
theorem foldl_wake (ds : List Draw) (hds : ∀ d ∈ ds, d.merchantId = m) (q : Queue ε) : ds.foldl Queue.wake q =
      { q.onStream m fun stream => { stream with waiters := stream.waiters.filter (· ∉ ds) } with
        timers := q.timers.filter (· ∉ ds.map .wakes)
        jobs := q.jobs ++ ds.map .resumes } := by
  induction ds generalizing q with
  | nil => simp [Queue.onStream]
  | cons d ds ih =>
    obtain ⟨rfl, hds⟩ := forall_mem_cons.1 hds
    rw [foldl_cons, ih hds]
    simp [Queue.wake, Queue.onStream, filter_filter, Bool.and_comm]

/-- **What an arrival does.** Where the draws parked on the stream are its merchant's, the publication is ready
behind the others, nobody is parked there any longer, and their timers are cleared. -/
theorem arrive_eq (hm : ∀ d ∈ (q.streams p.merchantId).waiters, d.merchantId = p.merchantId) : q.arrive p =
      { q.onStream p.merchantId fun stream => { stream with ready := stream.ready ++ [p], waiters := [] } with
        timers := q.timers.filter (· ∉ (q.streams p.merchantId).waiters.map .wakes)
        jobs := q.jobs ++ (q.streams p.merchantId).waiters.map .resumes } := by
  have hwaiters : ((q.onStream p.merchantId fun stream =>
      { stream with ready := stream.ready ++ [p] }).streams p.merchantId).waiters =
        (q.streams p.merchantId).waiters := by
    rw [onStream_self]
  unfold Queue.arrive
  dsimp only
  rw [hwaiters, foldl_wake _ hm]
  simp [Queue.onStream]

end

/-! ## Once, and on its own merchant's stream -/

/-- Whatever has landed is held by a timer, ready, or drawn, once, where its merchant is; what is not delayed
leaves a stream in the order it landed; a draw that has a timer is parked, and one that is parked and asks for
anything has found its stream empty. -/
structure Shared (streams : String → Stream ε) (timers : List (Timer ε)) (seen : List (Notice ε)) : Prop where
  shared : ∀ m, ((delayed timers).filter (·.merchantId = m) ++ (streams m).ready ++ drawnBy m seen).Perm
    (landedFor m seen)
  ordered : ∀ m, (drawnBy m seen).filter (·.undelayed) ++ (streams m).ready.filter (·.undelayed) =
    (landedFor m seen).filter (·.undelayed)
  late : ∀ p, .lands p ∈ timers → p.undelayed = false
  waiting : ∀ d, .wakes d ∈ timers → d ∈ (streams d.merchantId).waiters
  parked : ∀ m, ∀ d ∈ (streams m).waiters, d.merchantId = m ∧ (0 < d.max → (streams m).ready = [])

theorem landedFor_landed (m : String) :
    landedFor m (seen ++ [.landed p]) = landedFor m seen ++ if p.merchantId = m then [p] else [] := by
  unfold landedFor landed
  rw [filterMap_append, filter_append]
  congr 1
  split
  · next h => simp [h]
  · next h => simp [h]

theorem drawnBy_landed (m : String) : drawnBy m (seen ++ [.landed p]) = drawnBy m seen := by simp [drawnBy, drawn]

theorem landedFor_handed (ds : List (DrawnEnvelope ε)) (m : String) :
    landedFor m (seen ++ ds.map .drawn) = landedFor m seen := by
  simp [landedFor, landed]

theorem delayed_cleared [DecidableEq ε] (timers : List (Timer ε)) (ds : List Draw) :
    delayed (timers.filter (· ∉ ds.map Timer.wakes)) = delayed timers := by
  unfold delayed
  rw [filterMap_filter]
  congr 1
  funext timer
  cases timer with
  | lands p => simp
  | wakes d => simp

namespace Shared

section

variable (h : Shared q.streams q.timers seen)
include h

/-- A call of `publish` moves nothing yet. -/
theorem calls : Shared q.streams q.timers (seen ++ [.called p]) := by
  have hdrawn (m : String) : drawnBy m (seen ++ [.called p]) = drawnBy m seen := by simp [drawnBy, drawn]
  have hlanded (m : String) : landedFor m (seen ++ [.called p]) = landedFor m seen := by simp [landedFor, landed]
  exact ⟨fun m => by rw [hdrawn, hlanded]; exact h.shared m, fun m => by rw [hdrawn, hlanded]; exact h.ordered m,
    h.late, h.waiting, h.parked⟩

/-- **What a draw takes** is the first that is ready, and was landed for its merchant. -/
theorem take (m : String) (max : Int) :
    Shared (q.take m max).1.streams (q.take m max).1.timers (seen ++ (q.take m max).2.map .drawn) := by
  obtain ⟨hstreams, htimers, -, -, hpublications, hmerchant⟩ := take_spec q m max
  rw [hstreams, htimers]
  refine ⟨fun m' => ?_, fun m' => ?_, h.late, fun d hd => ?_, fun m' d hd => ?_⟩
  · rw [landedFor_handed, drawnBy_handed _ hmerchant, hpublications]
    refine List.Perm.trans ?_ (h.shared m')
    split
    · next heq =>
      subst heq
      rw [onStream_self, append_assoc, append_assoc, perm_append_left_iff]
      have hcut := @List.perm_append_comm _ ((q.streams m').ready.drop max.toNat ++ drawnBy m' seen)
        ((q.streams m').ready.take max.toNat)
      rwa [← append_assoc (List.take _ _), take_append_drop, append_assoc] at hcut
    · next hne => rw [onStream_of_ne _ hne, append_nil]
  · rw [landedFor_handed, drawnBy_handed _ hmerchant, hpublications, ← h.ordered m', filter_append]
    split
    · next heq =>
      subst heq
      rw [onStream_self, append_assoc, ← filter_append, take_append_drop]
    · next hne => rw [onStream_of_ne _ hne, filter_nil, append_nil]
  · by_cases heq : d.merchantId = m
    · subst heq
      rw [onStream_self]
      exact h.waiting d hd
    · rw [onStream_of_ne _ heq]
      exact h.waiting d hd
  · by_cases heq : m' = m
    · subst heq
      rw [onStream_self] at hd ⊢
      refine ⟨(h.parked m' d hd).1, fun hmax => ?_⟩
      rw [(h.parked m' d hd).2 hmax, drop_nil]
    · rw [onStream_of_ne _ heq] at hd ⊢
      exact h.parked m' d hd

theorem park (hd : 0 < d.max → (q.streams d.merchantId).ready = []) :
    Shared (q.park d).streams (q.park d).timers seen := by
  have hready (m : String) : ((q.park d).streams m).ready = (q.streams m).ready := by
    by_cases heq : m = d.merchantId
    · subst heq
      simp [Queue.park]
    · simp [Queue.park, heq]
  have hwaiters (m : String) : ((q.park d).streams m).waiters =
      (q.streams m).waiters ++ if m = d.merchantId then [d] else [] := by
    split
    · next heq =>
      subst heq
      simp [Queue.park]
    · next heq => simp [Queue.park, heq]
  have htimers : delayed (q.park d).timers = delayed q.timers := by simp [Queue.park, delayed]
  refine ⟨fun m => ?_, fun m => ?_, fun p hp => ?_, fun d' hd' => ?_, fun m d' hd' => ?_⟩
  · rw [htimers, hready]
    exact h.shared m
  · rw [hready]
    exact h.ordered m
  · rw [← mem_delayed, htimers, mem_delayed] at hp
    exact h.late p hp
  · rw [hwaiters]
    rcases mem_append.1 hd' with hd' | hd'
    · exact mem_append_left _ (h.waiting d' hd')
    · cases mem_singleton.1 hd'
      simp
  · rw [hwaiters] at hd'
    rw [hready]
    rcases mem_append.1 hd' with hd' | hd'
    · exact h.parked m d' hd'
    · split at hd'
      · next heq =>
        rw [mem_singleton.1 hd', heq]
        exact ⟨rfl, hd⟩
      · exact absurd hd' not_mem_nil

end

variable [DecidableEq ε]

theorem wake_ready (q : Queue ε) (d : Draw) (m : String) : ((q.wake d).streams m).ready = (q.streams m).ready := by
  by_cases heq : m = d.merchantId
  · subst heq
    simp [Queue.wake]
  · simp [Queue.wake, heq]

theorem wake (h : Shared q.streams q.timers seen) (d : Draw) : Shared (q.wake d).streams (q.wake d).timers seen := by
  have hwaiters {m : String} {d' : Draw} : d' ∈ ((q.wake d).streams m).waiters ↔
      d' ∈ (q.streams m).waiters ∧ (m = d.merchantId → d' ≠ d) := by
    by_cases heq : m = d.merchantId
    · subst heq
      simp [Queue.wake]
    · simp [Queue.wake, heq]
  have htimers : delayed (q.wake d).timers = delayed q.timers := by
    simpa [Queue.wake] using delayed_cleared q.timers [d]
  refine ⟨fun m => ?_, fun m => ?_, fun p hp => ?_, fun d' hd' => ?_, fun m d' hd' => ?_⟩
  · rw [htimers, wake_ready]
    exact h.shared m
  · rw [wake_ready]
    exact h.ordered m
  · rw [← mem_delayed, htimers, mem_delayed] at hp
    exact h.late p hp
  · obtain ⟨hin, hne⟩ := mem_filter.1 hd'
    refine hwaiters.2 ⟨h.waiting d' hin, fun _ => ?_⟩
    rintro rfl
    simp at hne
  · rw [wake_ready]
    exact h.parked m d' (hwaiters.1 hd').1

/-- **What arrives** is ready behind the others, and nobody is parked where it arrives. -/
theorem arrive (hshared : ∀ m, ((delayed q.timers).filter (·.merchantId = m) ++
      ((q.streams m).ready ++ if p.merchantId = m then [p] else []) ++ drawnBy m seen).Perm (landedFor m seen))
    (hordered : ∀ m, (drawnBy m seen).filter (·.undelayed) ++
      ((q.streams m).ready ++ if p.merchantId = m then [p] else []).filter (·.undelayed) =
        (landedFor m seen).filter (·.undelayed)) (hlate : ∀ p, .lands p ∈ q.timers → p.undelayed = false)
    (hwaiting : ∀ d, .wakes d ∈ q.timers → d ∈ (q.streams d.merchantId).waiters)
    (hparked : ∀ m, ∀ d ∈ (q.streams m).waiters, d.merchantId = m ∧ (0 < d.max → (q.streams m).ready = [])) :
    Shared (q.arrive p).streams (q.arrive p).timers seen := by
  have harrive := arrive_eq (q := q) (p := p) fun d hd => (hparked p.merchantId d hd).1
  have htimers : delayed (q.arrive p).timers = delayed q.timers := by
    rw [harrive]
    exact delayed_cleared ..
  have hready (m : String) : ((q.arrive p).streams m).ready =
      (q.streams m).ready ++ if p.merchantId = m then [p] else [] := by
    rw [harrive]
    split
    · next heq =>
      subst heq
      simp
    · next heq => simp [Ne.symm heq]
  have hwaiters {m : String} {d : Draw} : d ∈ ((q.arrive p).streams m).waiters ↔
      d ∈ (q.streams m).waiters ∧ p.merchantId ≠ m := by
    rw [harrive]
    by_cases heq : m = p.merchantId
    · subst heq
      simp [Queue.onStream]
    · simp [Queue.onStream, heq, Ne.symm heq]
  refine ⟨fun m => ?_, fun m => ?_, fun p' hp' => ?_, fun d hd => ?_, fun m d hd => ?_⟩
  · rw [htimers, hready]
    exact hshared m
  · rw [hready]
    exact hordered m
  · rw [← mem_delayed, htimers, mem_delayed] at hp'
    exact hlate p' hp'
  · rw [harrive] at hd
    obtain ⟨hin, hnone⟩ := mem_filter.1 hd
    refine hwaiters.2 ⟨hwaiting d hin, fun heq => ?_⟩
    have := hwaiting d hin
    rw [← heq] at this
    simp [this] at hnone
  · obtain ⟨hin, hne⟩ := hwaiters.1 hd
    rw [hready, if_neg hne, append_nil]
    exact hparked m d hin

/-- **A landing.** It counts once: on its merchant's stream, or behind a timer. -/
theorem land (h : Shared q.streams q.timers seen) (p : Publication ε) :
    Shared (q.land p).streams (q.land p).timers (seen ++ [.landed p]) := by
  unfold Queue.land
  split
  · refine arrive (fun m => ?_) (fun m => ?_) h.late h.waiting h.parked
    · rw [landedFor_landed, drawnBy_landed, ← append_assoc, append_assoc _ (ite _ _ _)]
      refine (perm_append_comm.append_left _).trans ?_
      rw [← append_assoc]
      exact (h.shared m).append_right _
    · rw [landedFor_landed, drawnBy_landed, filter_append, filter_append, ← append_assoc, h.ordered]
  · next hlate =>
    have hlate : p.undelayed = false := Bool.eq_false_iff.2 hlate
    have hready (m : String) : ((q.onStream p.merchantId fun stream =>
        { stream with held := stream.held.insert p.envelope }).streams m).ready = (q.streams m).ready := by
      by_cases heq : m = p.merchantId
      · subst heq
        simp
      · simp [heq]
    have hwaiters (m : String) : ((q.onStream p.merchantId fun stream =>
        { stream with held := stream.held.insert p.envelope }).streams m).waiters = (q.streams m).waiters := by
      by_cases heq : m = p.merchantId
      · subst heq
        simp
      · simp [heq]
    have htimers (m : String) : (delayed (q.timers ++ [.lands p])).filter (·.merchantId = m) =
        (delayed q.timers).filter (·.merchantId = m) ++ if p.merchantId = m then [p] else [] := by
      rw [delayed, filterMap_append, filter_append]
      congr 1
      split
      · next heq => simp [heq]
      · next heq => simp [heq]
    refine ⟨fun m => ?_, fun m => ?_, fun p' hp' => ?_, fun d hd => ?_, fun m d hd => ?_⟩
    · rw [hready, htimers, landedFor_landed, drawnBy_landed, append_assoc, append_assoc]
      refine (perm_append_comm.append_left _).trans ?_
      rw [← append_assoc, ← append_assoc]
      exact (h.shared m).append_right _
    · rw [hready, landedFor_landed, drawnBy_landed, filter_append, h.ordered]
      split
      · simp [hlate]
      · simp
    · rcases mem_append.1 hp' with hp' | hp'
      · exact h.late p' hp'
      · cases mem_singleton.1 hp'
        exact hlate
    · rw [hwaiters]
      exact h.waiting d (by simpa using hd)
    · rw [hwaiters] at hd
      rw [hready]
      exact h.parked m d hd

/-- **A timer fires.** What it held arrives, and no timer holds it any longer. -/
theorem fires (h : Shared q.streams q.timers seen) (hp : .lands p ∈ q.timers) :
    let due := q.onStream p.merchantId fun stream => { stream with held := stream.held.erase p.envelope }
    Shared ({ due with timers := q.timers.erase (.lands p) }.arrive p).streams
      ({ due with timers := q.timers.erase (.lands p) }.arrive p).timers seen := by
  intro due
  have hready (m : String) : (due.streams m).ready = (q.streams m).ready := by
    by_cases heq : m = p.merchantId
    · subst heq
      simp [due]
    · simp [due, heq]
  have hwaiters (m : String) : (due.streams m).waiters = (q.streams m).waiters := by
    by_cases heq : m = p.merchantId
    · subst heq
      simp [due]
    · simp [due, heq]
  have htimers : (delayed q.timers).Perm (p :: delayed (q.timers.erase (.lands p))) :=
    (perm_cons_erase hp).filterMap _
  refine arrive (fun m => ?_) (fun m => ?_) (fun p' hp' => h.late p' (mem_of_mem_erase hp'))
    (fun d hd => ?_) fun m d hd => ?_
  · refine List.Perm.trans ?_ (h.shared m)
    rw [hready, ← append_assoc]
    refine List.Perm.append_right _ ?_
    rw [append_assoc]
    refine List.Perm.trans ?_ ((htimers.filter _).append_right _).symm
    split
    · next heq =>
      rw [filter_cons_of_pos (by simp [heq])]
      exact (perm_append_comm.append_left _).trans perm_middle
    · next heq => rw [filter_cons_of_neg (by simp [heq]), append_nil]
  · rw [hready, filter_append, ← h.ordered]
    split
    · simp [h.late p hp]
    · simp
  · rw [hwaiters]
    exact h.waiting d (mem_of_mem_erase hd)
  · rw [hready]
    rw [hwaiters] at hd
    exact h.parked m d hd

end Shared

/-! ## Calls and landings -/

/-- No two landings, done or still to do, are of one call; the calls of `publish` land in their order. -/
structure Numbered (jobs : List (Job ε)) (calls : Nat) (seen : List (Notice ε)) : Prop where
  fresh : ((landed seen ++ pending jobs).map (·.number)).Nodup
  below : ∀ p ∈ landed seen ++ pending jobs, p.number < calls
  inTurn : (landed seen).filter (!·.staged) ++ pending jobs = called seen
  unstaged : ∀ p ∈ pending jobs, p.staged = false

namespace Numbered

variable {jobs rest : List (Job ε)} {calls : Nat}

section

variable (h : Numbered jobs calls seen)
include h

theorem handed (ds : List (DrawnEnvelope ε)) : Numbered jobs calls (seen ++ ds.map .drawn) := by
  have hlanded : landed (seen ++ ds.map .drawn) = landed seen := by simp [landed]
  have hcalled : called (seen ++ ds.map .drawn) = called seen := by simp [called]
  exact ⟨hlanded ▸ h.fresh, hlanded ▸ h.below, by rw [hlanded, hcalled]; exact h.inTurn, h.unstaged⟩

theorem congr {jobs' : List (Job ε)} (hjobs : pending jobs' = pending jobs) : Numbered jobs' calls seen :=
  ⟨hjobs ▸ h.fresh, hjobs ▸ h.below, hjobs ▸ h.inTurn, hjobs ▸ h.unstaged⟩

theorem more : Numbered jobs (calls + 1) seen :=
  ⟨h.fresh, fun p hp => Nat.lt_succ_of_lt (h.below p hp), h.inTurn, h.unstaged⟩

/-- A call of `publish` asks for a job of its own, behind the others. -/
theorem publish (hnumber : p.number = calls) (hstaged : p.staged = false) :
    Numbered (jobs ++ [.lands p]) (calls + 1) (seen ++ [.called p]) := by
  have hlanded : landed (seen ++ [.called p]) = landed seen := by simp [landed]
  have hcalled : called (seen ++ [.called p]) = called seen ++ [p] := by simp [called]
  have hpending : pending (jobs ++ [.lands p]) = pending jobs ++ [p] := by simp [pending]
  refine ⟨?_, fun p' hp' => ?_, ?_, fun p' hp' => ?_⟩
  · rw [hlanded, hpending, ← append_assoc, map_append, nodup_append']
    refine ⟨h.fresh, nodup_singleton _, fun n hn hn' => ?_⟩
    obtain ⟨p', hin, rfl⟩ := mem_map.1 hn
    have := h.below p' hin
    have heq : p'.number = p.number := mem_singleton.1 hn'
    omega
  · rw [hlanded, hpending, ← append_assoc] at hp'
    rcases mem_append.1 hp' with hp' | hp'
    · exact Nat.lt_succ_of_lt (h.below p' hp')
    · rw [mem_singleton.1 hp', hnumber]
      exact Nat.lt_succ_self _
  · rw [hlanded, hcalled, hpending, ← append_assoc, h.inTurn]
  · rw [hpending] at hp'
    rcases mem_append.1 hp' with hp' | hp'
    · exact h.unstaged p' hp'
    · rw [mem_singleton.1 hp']
      exact hstaged

/-- What was staged lands when it is handed back, and is no call of `publish`. -/
theorem handedBack (hnumber : p.number = calls) (hstaged : p.staged = true) :
    Numbered jobs (calls + 1) (seen ++ [.landed p]) := by
  have hlanded : landed (seen ++ [.landed p]) = landed seen ++ [p] := by simp [landed]
  have hcalled : called (seen ++ [.landed p]) = called seen := by simp [called]
  have hperm : (landed seen ++ [p] ++ pending jobs).Perm (p :: (landed seen ++ pending jobs)) := by
    rw [append_assoc]
    exact perm_middle
  refine ⟨?_, fun p' hp' => ?_, ?_, h.unstaged⟩
  · rw [hlanded, (hperm.map _).nodup_iff, map_cons, nodup_cons]
    refine ⟨fun hin => ?_, h.fresh⟩
    obtain ⟨p', hin, heq⟩ := mem_map.1 hin
    have := h.below p' hin
    omega
  · rw [hlanded] at hp'
    rcases mem_cons.1 (hperm.mem_iff.1 hp') with rfl | hp'
    · rw [hnumber]
      exact Nat.lt_succ_self _
    · exact Nat.lt_succ_of_lt (h.below p' hp')
  · rw [hlanded, hcalled, filter_append, filter_cons_of_neg (by simp [hstaged]), filter_nil, append_nil, h.inTurn]

end

theorem lands (h : Numbered (.lands p :: rest) calls seen) : Numbered rest calls (seen ++ [.landed p]) := by
  have hlanded : landed (seen ++ [.landed p]) ++ pending rest = landed seen ++ pending (.lands p :: rest) := by
    simp [landed, pending]
  have hcalled : called (seen ++ [.landed p]) = called seen := by simp [called]
  have hstaged : p.staged = false := h.unstaged p (mem_pending.2 (mem_cons_self ..))
  refine ⟨hlanded ▸ h.fresh, hlanded ▸ h.below, ?_, fun p' hp' => h.unstaged p' ?_⟩
  · rw [hcalled, ← h.inTurn]
    simp [landed, pending, hstaged]
  · exact mem_pending.2 (mem_cons_of_mem _ (mem_pending.1 hp'))

end Numbered

section

variable [DecidableEq ε]

theorem arrive_jobs (hm : ∀ d ∈ (q.streams p.merchantId).waiters, d.merchantId = p.merchantId) :
    pending (q.arrive p).jobs = pending q.jobs ∧ (q.arrive p).calls = q.calls := by
  rw [arrive_eq hm]
  exact ⟨pending_append_resumes _ _, rfl⟩

theorem Shared.land_jobs (h : Shared q.streams q.timers seen) (p : Publication ε) :
    pending (q.land p).jobs = pending q.jobs ∧ (q.land p).calls = q.calls := by
  unfold Queue.land
  split
  · exact arrive_jobs fun d hd => (h.parked p.merchantId d hd).1
  · exact ⟨rfl, rfl⟩

end

theorem take_nothing {max : Int} (h : 0 < max → (q.streams m).ready = []) : q.take m max = (q, []) := by
  have hnone : (q.streams m).ready.take max.toNat = [] ∧
      (q.streams m).ready.drop max.toNat = (q.streams m).ready := by
    by_cases hmax : 0 < max
    · rw [h hmax]
      exact ⟨take_nil, drop_nil⟩
    · rw [Int.toNat_of_nonpos (by omega)]
      exact ⟨take_zero, drop_zero⟩
  unfold Queue.take Queue.onStream
  dsimp only
  rw [hnone.1, hnone.2, Function.update_eq_self]
  rfl

/-! ## Every run -/

/-- What holds of a queue, by what was seen of it. -/
structure Kept (q : Queue ε) (seen : List (Notice ε)) : Prop where
  shared : Shared q.streams q.timers seen
  numbered : Numbered q.jobs q.calls seen

section

variable [DecidableEq ε]

theorem Kept.land (hshared : Shared q.streams q.timers seen)
    (hnumbered : Numbered q.jobs q.calls (seen ++ [.landed p])) : Kept (q.land p) (seen ++ [.landed p]) := by
  obtain ⟨hjobs, hcalls⟩ := hshared.land_jobs p
  exact ⟨hshared.land p, hcalls ▸ hnumbered.congr hjobs⟩

omit [DecidableEq ε] in
theorem Kept.take (h : Kept q seen) (m : String) (max : Int) :
    Kept (q.take m max).1 (seen ++ (q.take m max).2.map .drawn) := by
  obtain ⟨-, -, hjobs, hcalls, -⟩ := take_spec q m max
  exact ⟨h.shared.take m max, by rw [hjobs, hcalls]; exact h.numbered.handed _⟩

/-- **One move.** -/
theorem kept_react {move : Move ε} {out : List (Notice ε)} (h : Kept q seen)
    (hreact : react q move = .ok (q', out)) : Kept q' (seen ++ out) := by
  cases move with
  | publish merchantId envelope afterMs =>
    cases hreact
    exact ⟨h.shared.calls, h.numbered.publish rfl rfl⟩
  | handedBack merchantId envelope afterMs =>
    cases hreact
    exact .land (q := { q with calls := q.calls + 1 }) h.shared (h.numbered.handedBack rfl rfl)
  | draw merchantId max waitMs =>
    unfold react at hreact
    dsimp only at hreact
    split at hreact
    · cases hreact
      exact h.take merchantId max
    · next hparks =>
      obtain ⟨-, -, -, -, hpublications, -⟩ := take_spec q merchantId max
      have hnone : 0 < max → (q.streams merchantId).ready = [] := by
        intro hmax
        have htaken : (q.streams merchantId).ready.take max.toNat = [] := by
          rw [← hpublications]
          by_contra hsome
          exact hparks (.inl (length_pos_iff.2 fun hnil => hsome (by rw [hnil]; rfl)))
        rcases take_eq_nil_iff.1 htaken with hzero | hempty
        · omega
        · exact hempty
      rw [take_nothing hnone] at hreact
      cases hreact
      rw [append_nil]
      exact ⟨h.shared.park hnone, h.numbered.more⟩
  | finish merchantId handle =>
    cases hreact
    rw [append_nil]
    unfold Queue.finish
    split
    · split
      · exact ⟨h.shared, h.numbered⟩
      · exact h
    · exact h
  | job =>
    unfold react at hreact
    dsimp only at hreact
    split at hreact
    · cases hreact
    · next p rest hjobs =>
      cases hreact
      exact .land (q := { q with jobs := rest }) h.shared (hjobs ▸ h.numbered).lands
    · next d rest hjobs =>
      cases hreact
      have hrest : Kept { q with jobs := rest } seen := ⟨h.shared, h.numbered.congr (by rw [hjobs]; rfl)⟩
      exact hrest.take d.merchantId d.max
  | fires p =>
    unfold react at hreact
    dsimp only at hreact
    split at hreact
    · next hdue =>
      cases hreact
      rw [append_nil]
      have hm : ∀ d ∈ ((q.onStream p.merchantId fun stream =>
          { stream with held := stream.held.erase p.envelope }).streams p.merchantId).waiters,
          d.merchantId = p.merchantId := by
        rw [onStream_self]
        exact fun d hd => (h.shared.parked p.merchantId d hd).1
      obtain ⟨hjobs, hcalls⟩ := arrive_jobs (q := { q.onStream p.merchantId fun stream =>
        { stream with held := stream.held.erase p.envelope } with timers := q.timers.erase (.lands p) }) hm
      exact ⟨h.shared.fires hdue.2, by rw [hcalls]; exact h.numbered.congr hjobs⟩
    · cases hreact
  | timesOut d =>
    unfold react at hreact
    dsimp only at hreact
    split at hreact
    · cases hreact
      have hwoken : Kept { q.wake d with jobs := q.jobs } seen := ⟨h.shared.wake d, h.numbered⟩
      exact hwoken.take d.merchantId d.max
    · cases hreact

/-- **Every run.** What a run leaves is what was seen of it. -/
theorem kept_run (moves : List (Move ε)) : Kept (memoryQueue.run {} moves) (notices (memoryQueue.log {} moves)) := by
  have hstart : Kept ({} : Queue ε) [] := by
    refine ⟨⟨fun m => .nil, fun m => rfl, fun p hp => absurd hp not_mem_nil,
      fun d hd => absurd hd not_mem_nil, fun m d hd => absurd hd not_mem_nil⟩,
      ⟨nodup_nil, fun p hp => absurd hp not_mem_nil, rfl, fun p hp => absurd hp not_mem_nil⟩⟩
  have hrun := memoryQueue.log_induction (P := fun (q : Queue ε) log => Kept q (notices log))
    (fun {q log move q' out} h hreact => by
      have hnotices : notices (log ++ Reactor.stepLog move out) = notices log ++ out := by
        unfold notices
        rw [filterMap_append, Reactor.stepLog, filterMap_cons, filterMap_map]
        exact congrArg _ filterMap_some
      rw [hnotices]
      exact kept_react h hreact) (l := []) hstart moves
  simpa using hrun

end

theorem Shared.mem_landed (h : Shared q.streams q.timers seen) {d : DrawnEnvelope ε} (hd : d ∈ drawn seen) :
    d.publication ∈ landed seen ∧ d.publication.merchantId = d.merchantId := by
  have hby : d.publication ∈ drawnBy d.merchantId seen :=
    mem_map.2 ⟨d, mem_filter.2 ⟨hd, decide_eq_true rfl⟩, rfl⟩
  have hlanded := (h.shared d.merchantId).mem_iff.1 (mem_append_right _ hby)
  exact ⟨(mem_filter.1 hlanded).1, of_decide_eq_true (mem_filter.1 hlanded).2⟩

theorem Kept.drawn_nodup [DecidableEq ε] (h : Kept q seen) : ((drawn seen).map (·.publication.number)).Nodup := by
  have hnumbers : ((landed seen).map (·.number)).Nodup :=
    h.numbered.fresh.sublist ((sublist_append_left ..).map _)
  have honce : ((drawn seen).map (·.publication)).Nodup := by
    refine nodup_iff_count_le_one.2 fun p => ?_
    have hby : ((drawn seen).map (·.publication)).count p = (drawnBy p.merchantId seen).count p := by
      unfold drawnBy
      rw [count_eq_countP, count_eq_countP, countP_map, countP_map, countP_filter]
      refine countP_congr fun d hd => ?_
      have hmerchant := (h.shared.mem_landed hd).2
      simp only [Function.comp, beq_iff_eq, Bool.and_eq_true, decide_eq_true_eq]
      constructor
      · rintro rfl
        exact ⟨rfl, hmerchant.symm⟩
      · exact And.left
    calc ((drawn seen).map (·.publication)).count p = (drawnBy p.merchantId seen).count p := hby
      _ ≤ (landedFor p.merchantId seen).count p := by
          rw [← (h.shared.shared p.merchantId).count_eq, count_append]
          exact Nat.le_add_left ..
      _ ≤ (landed seen).count p := filter_sublist.count_le _
      _ ≤ 1 := nodup_iff_count_le_one.1 hnumbers.of_map p
  rw [show (drawn seen).map (·.publication.number) = ((drawn seen).map (·.publication)).map (·.number) from
    (map_map ..).symm]
  refine honce.map_on fun p hp p' hp' heq => ?_
  obtain ⟨d, hd, rfl⟩ := mem_map.1 hp
  obtain ⟨d', hd', rfl⟩ := mem_map.1 hp'
  exact inj_on_of_nodup_map hnumbers (h.shared.mem_landed hd).1 (h.shared.mem_landed hd').1 heq

theorem Kept.waits (h : Kept q seen) (hp : p ∈ called seen ∨ p ∈ landed seen)
    (hnot : p ∉ (drawn seen).map (·.publication)) : q.Waits p := by
  have hin : p ∈ landed seen ∨ p ∈ pending q.jobs := by
    rcases hp with hp | hp
    · rw [← h.numbered.inTurn] at hp
      rcases mem_append.1 hp with hp | hp
      · exact .inl (mem_filter.1 hp).1
      · exact .inr hp
    · exact .inl hp
  rcases hin with hin | hin
  · have hshared := (h.shared.shared p.merchantId).mem_iff.2 (mem_filter.2 ⟨hin, decide_eq_true rfl⟩)
    rcases mem_append.1 hshared with hwaits | hdrawn
    · rcases mem_append.1 hwaits with hheld | hready
      · exact .inr (.inl (mem_filter.1 hheld).1)
      · exact .inr (.inr hready)
    · obtain ⟨d, hd, rfl⟩ := mem_map.1 hdrawn
      exact absurd (mem_map.2 ⟨d, (mem_filter.1 hd).1, rfl⟩) hnot
  · exact .inl hin

theorem Kept.drawn_called (h : Kept q seen) (m : String) :
    (drawnBy m seen).filter (fun p => p.undelayed && !p.staged) <+:
      ((called seen).filter (·.merchantId = m)).filter (·.undelayed) := by
  have hdrawn : (drawnBy m seen).filter (fun p => p.undelayed && !p.staged) <+:
      ((landedFor m seen).filter (·.undelayed)).filter (!·.staged) := by
    have hordered : (drawnBy m seen).filter (·.undelayed) <+: (landedFor m seen).filter (·.undelayed) :=
      ⟨_, h.shared.ordered m⟩
    have hfilter := hordered.filter (!·.staged)
    rwa [filter_filter, funext fun p : Publication ε => Bool.and_comm (!p.staged) p.undelayed] at hfilter
  refine hdrawn.trans ?_
  rw [← h.numbered.inTurn, filter_append, filter_append]
  have hsame : ((landedFor m seen).filter (·.undelayed)).filter (!·.staged) =
      (((landed seen).filter (!·.staged)).filter (·.merchantId = m)).filter (·.undelayed) := by
    simp only [landedFor, filter_filter, Bool.and_assoc, Bool.and_comm]
  rw [hsame]
  exact prefix_append ..

theorem Shared.timesOut [DecidableEq ε] (h : Shared q.streams q.timers seen) {out : List (Notice ε)}
    (hreact : react q (.timesOut d) = .ok (q', out)) :
    out = [] ∧ (∀ m, (q'.streams m).ready = (q.streams m).ready) ∧ delayed q'.timers = delayed q.timers ∧
      q'.inFlight = q.inFlight := by
  unfold react at hreact
  dsimp only at hreact
  split at hreact
  · next hdue =>
    have hparked := (h.parked d.merchantId d (h.waiting d hdue.2)).2
    have hnothing : ({ q.wake d with jobs := q.jobs } : Queue ε).take d.merchantId d.max =
        ({ q.wake d with jobs := q.jobs }, []) :=
      take_nothing fun hmax => (Shared.wake_ready q d _).trans (hparked hmax)
    rw [hnothing] at hreact
    cases hreact
    exact ⟨rfl, Shared.wake_ready q d, by simpa [Queue.wake] using delayed_cleared q.timers [d], rfl⟩
  · cases hreact

/-- **Neither lost nor drawn twice, and by nobody else.** In every run of the queue: no two landings or calls
are of one number, and what is drawn is drawn once, by the merchant it was published for; what was published
and is not drawn is still in the queue; a draw whose time is up takes nothing, and leaves what is ready, what
is held and what is in flight as it was; and the undelayed envelopes of a merchant are drawn in the order they
landed, which is the order of the calls for those that `publish` was called for. -/
theorem neither_lost_nor_twice [DecidableEq ε] (moves : List (Move ε)) :
    let q := memoryQueue.run {} moves
    let seen := notices (memoryQueue.log {} moves)
    (((called seen).map (·.number)).Nodup ∧ ((landed seen).map (·.number)).Nodup) ∧
      ((drawn seen).map (·.publication.number)).Nodup ∧
      (∀ d ∈ drawn seen, d.publication ∈ landed seen ∧ d.publication.merchantId = d.merchantId) ∧
      (∀ p, p ∈ called seen ∨ p ∈ landed seen → p ∉ (drawn seen).map (·.publication) → q.Waits p) ∧
      (∀ d q' out, memoryQueue.react q (.timesOut d) = .ok (q', out) → out = [] ∧
        (∀ m, (q'.streams m).ready = (q.streams m).ready) ∧ delayed q'.timers = delayed q.timers ∧
        q'.inFlight = q.inFlight) ∧
      ∀ m, (drawnBy m seen).filter (·.undelayed) <+: (landedFor m seen).filter (·.undelayed) ∧
        (drawnBy m seen).filter (fun p => p.undelayed && !p.staged) <+:
          ((called seen).filter (·.merchantId = m)).filter (·.undelayed) := by
  intro q seen
  have h : Kept q seen := kept_run moves
  refine ⟨⟨?_, ?_⟩, h.drawn_nodup, fun d hd => h.shared.mem_landed hd, fun p hp hnot => h.waits hp hnot,
    fun d q' out hreact => ?_, fun m => ⟨⟨_, h.shared.ordered m⟩, h.drawn_called m⟩⟩
  · refine h.numbered.fresh.sublist (List.Sublist.map _ ?_)
    rw [← h.numbered.inTurn]
    exact List.filter_sublist.append (.refl _)
  · exact h.numbered.fresh.sublist ((List.sublist_append_left ..).map _)
  · exact h.shared.timesOut hreact

end MemoryQueue

end Coinslot
