import Coinslot.Sdk.Answers

/-!
# A worker that is stopped

Once `stop` was called (`packages/sdk/src/worker.ts`) the loop finishes the message it has in hand and goes
home: it asks for nothing more, takes no batch up and dispatches nothing, whatever comes in, and after five
more of its own moves at the most it is over (`stopped_worker_goes_home`).
-/

namespace Coinslot.Sdk

open Utf16 List

/-- The loop asks for messages, takes a batch up, or dispatches a message. -/
def Notice.takesOn {V : Type} : Notice V → Bool
  | .polls | .batch _ | .dispatched _ => true
  | _ => false

/-- How many moves of its own a stopped loop has left at the most. -/
def Stage.left : Stage → Nat
  | .ended => 0
  | .asking | .polling _ => 1
  | .resting => 2
  | .reading _ => 3
  | .posting .. => 4
  | .handling .. => 5

/-- How many moves of its own a loop makes in what happens to it: all but that it is asked to stop. -/
def ownMove {V : Type} (_ : Worker) (event : Event V) (_ : Worker × List (Notice V)) : Nat :=
  match event.move with
  | .stop => 0
  | _ => 1

theorem Stage.left_le (stage : Stage) : stage.left ≤ 5 := by
  cases stage <;> exact Nat.le_of_ble_eq_true rfl

section
variable {V D : Type} {checks : Checks V D} {baseUrl : Text} {reporter : WorkerProblem → Reporting} {w : Worker}
  {event : Event V} {next : Did V} {batch : Batch} {envelope : WorkerEnvelope} {n : Nat}

/-- What a move comes to takes nothing on, and leaves a stopped loop with so many moves. -/
structure Did.Winds (n : Nat) (did : Did V) : Prop where
  quiet : ∀ notice ∈ did.seen, notice.takesOn = false
  left : ∀ w', did.result = .ok w' → w'.stopping = true ∧ w'.stage.left ≤ n

variable {w' : Worker} {now : Rat}

theorem winds_of_ok {seen : List (Notice V)} (hseen : ∀ notice ∈ seen, notice.takesOn = false)
    (hs : w'.stopping = true) (hn : w'.stage.left ≤ n) : (⟨seen, .ok w'⟩ : Did V).Winds n :=
  ⟨hseen, fun _ h => by cases h; exact ⟨hs, hn⟩⟩

theorem Did.Winds.after {seen : List (Notice V)} (h : next.Winds n)
    (hseen : ∀ notice ∈ seen, notice.takesOn = false) : (next.after seen).Winds n :=
  ⟨forall_mem_append.2 ⟨hseen, h.quiet⟩, h.left⟩

theorem winds_report {problem : WorkerProblem} (h : next.Winds n) : (report reporter problem next).Winds n := by
  rw [report_eq]
  exact h.after (by simp [Notice.takesOn])

theorem winds_threw {cause : Cause} (h : next.Winds n) : (threw reporter envelope cause next).Winds n := by
  unfold threw
  split
  · exact ⟨nofun, nofun⟩
  · exact winds_report h

variable (hs : w.stopping = true)
include hs

theorem winds_readsOn (hn : 3 ≤ n) : (w.readsOn batch : Did V).Winds n := winds_of_ok nofun hs hn

theorem winds_posts {name : RouteName} {id : Identifier} {body : D} {aborted : Bool}
    {failed : TransportFailure → WorkerProblem} :
    (w.posts checks baseUrl reporter batch envelope name id body aborted failed : Did V).Winds 4 := by
  unfold Worker.posts
  split
  · exact ⟨nofun, nofun⟩
  · exact winds_of_ok (by simp [Notice.takesOn]) hs (Nat.le_refl 4)
  · exact winds_report (winds_readsOn hs (by decide))

theorem winds_leavesBatch : (w.leavesBatch reporter batch now : Did V).Winds 2 := by
  have hnext : (if batch.envelopes.length = 0 then w.rest (quietPollFloorMs - (now - batch.startedAt)) .rests
      else ⟨[], .ok { w with stage := .asking }⟩ : Did V).Winds 2 := by
    unfold Worker.rest
    split
    · split
      · exact winds_of_ok (by simp [Notice.takesOn]) hs (Nat.le_refl 2)
      · exact winds_of_ok nofun hs (Nat.le_succ 1)
    · exact winds_of_ok nofun hs (Nat.le_succ 1)
  unfold Worker.leavesBatch
  dsimp only
  split
  · exact winds_report hnext
  · exact hnext

theorem winds_readsNext {registered : WorkerEnvelopeKind → Bool} :
    (w.readsNext reporter batch now registered : Did V).Winds 2 := by
  unfold Worker.readsNext
  split
  · exact winds_leavesBatch hs
  · rw [if_pos hs]
    exact winds_leavesBatch hs

theorem winds_handled {outcome : Outcome V} (reporterStops : Bool) : (match envelope with
      | .order _ _ order => w.handleOrder checks baseUrl reporter batch envelope order outcome reporterStops
      | .quote_request _ _ question => w.handleQuote checks baseUrl reporter batch envelope question outcome
      | .order_event .. => w.handleEvent reporter batch envelope outcome : Did V).Winds 4 := by
  have hreads : (w.readsOn batch : Did V).Winds 4 := winds_readsOn hs (by decide)
  cases envelope with
  | order id sent_at order =>
    simp only [Worker.handleOrder]
    split
    · exact winds_threw hreads
    · split
      · exact winds_report hreads
      · split
        · exact winds_report (winds_posts (by simp [hs]))
        · exact winds_posts hs
  | quote_request id sent_at question =>
    simp only [Worker.handleQuote]
    split
    · exact winds_threw hreads
    · split
      · exact winds_report hreads
      · exact winds_posts hs
  | order_event id sent_at event =>
    simp only [Worker.handleEvent]
    split
    · exact winds_threw hreads
    · exact hreads

/-- **A move of a stopped loop** takes nothing on, and is one of the few the loop has left. -/
theorem winds_does {did : Did V} (h : w.does checks baseUrl event = some did) (came : Worker × List (Notice V)) :
    ownMove w event came ≤ w.stage.left ∧ did.Winds (w.stage.left - ownMove w event came) := by
  have hreads (batch : Batch) : (w.readsOn batch : Did V).Winds 3 := winds_readsOn hs (Nat.le_refl 3)
  unfold Worker.does at h
  unfold ownMove
  split at h <;> simp only [*, Stage.left]
  · cases h
    exact ⟨Nat.zero_le _, winds_of_ok nofun rfl (Nat.le_refl _)⟩
  · rw [if_pos hs] at h
    cases h
    exact ⟨Nat.le_refl 1, winds_of_ok nofun hs (Nat.le_refl 0)⟩
  · cases h
    exact ⟨by decide, winds_readsNext hs⟩
  · cases h
    unfold Worker.pollAnswered
    rw [if_pos hs]
    exact ⟨Nat.le_refl 1, winds_of_ok nofun hs (Nat.le_refl 0)⟩
  · cases h
    exact ⟨by decide, winds_of_ok nofun hs (Nat.le_refl 1)⟩
  · next outcome reporterStops batch envelope _ _ =>
    cases h
    exact ⟨by decide, (winds_handled hs reporterStops).after (by simp [Notice.takesOn])⟩
  · cases h
    exact ⟨by decide, winds_report (hreads _)⟩
  · next refusal _ _ _ _ _ _ =>
    cases h
    refine ⟨by decide, ?_⟩
    cases refusal with
    | none => exact hreads _
    | some refusal => exact winds_report (hreads _)
  · cases h
    exact ⟨by decide, winds_report (hreads _)⟩
  · next used _ _ _ _ _ _ =>
    cases h
    refine ⟨by decide, ?_⟩
    cases used with
    | true => exact hreads _
    | false => exact winds_report (hreads _)
  · cases h

theorem winds_react {out : List (Notice V)} (h : (worker checks baseUrl).react w event = .ok (w', out)) :
    (∀ notice ∈ out, notice.takesOn = false) ∧ w'.stopping = true ∧
      ownMove w event (w', out) + w'.stage.left ≤ w.stage.left := by
  simp only [worker] at h
  split at h
  · next did hdoes =>
    obtain ⟨hown, hquiet, hleft⟩ := winds_does hs hdoes (w', out)
    obtain hsettled : w.settled event.reporter did = (w', out) := Except.ok.inj h
    unfold Worker.settled at hsettled
    split at hsettled
    · next hok =>
      cases hsettled
      obtain ⟨hstop, hle⟩ := hleft _ hok
      exact ⟨hquiet, hstop, by omega⟩
    · dsimp only at hsettled
      split at hsettled
      · cases hsettled
        exact ⟨hquiet, rfl, hown⟩
      · rw [report_eq] at hsettled
        cases hsettled
        exact ⟨forall_mem_append.2 ⟨hquiet, forall_mem_singleton.2 rfl⟩, rfl, hown⟩
  · cases h

/-- Once a loop is asked to stop it stays so, takes nothing on, and makes its last moves. -/
theorem winds_run (events : List (Event V)) :
    (∀ notice ∈ seen ((worker checks baseUrl).log w events), notice.takesOn = false) ∧
      (worker checks baseUrl).tally ownMove w events ≤ 5 := by
  constructor
  · refine ((worker checks baseUrl).log_induction (l := [])
      (P := fun w log => w.stopping = true ∧ ∀ notice ∈ seen log, notice.takesOn = false)
      (fun {w log event w' out} hlog hreact => ?_) ⟨hs, nofun⟩ events).2
    obtain ⟨hquiet, hstop, -⟩ := winds_react hlog.1 hreact
    refine ⟨hstop, ?_⟩
    rw [seen_append, seen_stepLog]
    exact forall_mem_append.2 ⟨hlog.2, hquiet⟩
  · have hspends := (worker checks baseUrl).tally_spends (f := ownMove) (fun w => w.stage.left)
      (P := fun w => w.stopping = true) (fun hs hr => (winds_react hs hr).2.1) (fun hs hr => (winds_react hs hr).2.2)
      hs events
    have := w.stage.left_le
    omega

end

/-- **A worker that is stopped goes home.** Whatever happened before, and whatever the gateway, the handlers and
the reporter do from then on: after `stop` the worker asks for no more messages, takes no batch up and dispatches
no message, and it makes at most five more moves of its own. -/
theorem stopped_worker_goes_home {V D : Type} (checks : Checks V D) (baseUrl : Text) (before after : List (Event V))
    (reporter : WorkerProblem → Reporting) :
    let stopped := (worker checks baseUrl).run {} (before ++ [⟨.stop, reporter⟩])
    (∀ notice ∈ seen ((worker checks baseUrl).log stopped after), notice.takesOn = false) ∧
      (worker checks baseUrl).tally ownMove stopped after ≤ 5 := by
  refine winds_run ?_ after
  rw [(worker checks baseUrl).run_append]
  rfl

end Coinslot.Sdk
