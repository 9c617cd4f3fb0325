import Coinslot.Sdk.Worker

/-!
# What the worker answers

A log of the worker is read round by round (`rounds`): a batch, and what was dispatched of it, each with how its
handler was done and with what was posted for it. In every round what was dispatched is a first part of the batch;
and for what a handler returned there is one post where the contract takes it and a request can be made of it
(`callRoute`), and none otherwise (`Dispatch.Sent`). `answers_iff_sendable` says of which runs that is one post for
every answer the contract takes: of those where every such answer can be written into a request.
-/

namespace Coinslot.Sdk

open Utf16 Contract List Worker

variable {V D : Type}

/-! ## Reading a log -/

/-- A message that was dispatched: how its handler was done, where it is, and what was posted since. -/
structure Dispatch (V : Type) where
  envelope : WorkerEnvelope
  outcome : Option (Outcome V) := none
  posts : List Request := []

/-- A batch that was taken up, with what was dispatched since, the last first. -/
structure Round (V : Type) where
  batch : List WorkerEnvelope
  dispatches : List (Dispatch V) := []

def Round.dispatched (round : Round V) : List WorkerEnvelope := (round.dispatches.map (·.envelope)).reverse

/-- The last that was dispatched, changed. -/
def Round.onLast (f : Dispatch V → Dispatch V) (round : Round V) : Round V :=
  match round.dispatches with
  | [] => round
  | last :: before => { round with dispatches := f last :: before }

/-- One more notice read. The rounds are the last first. -/
def readNotice (rounds : List (Round V)) (notice : Notice V) : List (Round V) :=
  match notice, rounds with
  | .batch envelopes, rounds => { batch := envelopes } :: rounds
  | .dispatched envelope, round :: before =>
    { round with dispatches := { envelope := envelope } :: round.dispatches } :: before
  | .heard outcome, round :: before => round.onLast (fun last => { last with outcome := some outcome }) :: before
  | .posted request, round :: before =>
    round.onLast (fun last => { last with posts := last.posts ++ [request] }) :: before
  | _, rounds => rounds

/-- What was seen, of a log. -/
def seen (log : List (Happening (Event V) (Notice V))) : List (Notice V) :=
  log.filterMap fun
    | .accepted _ => none
    | .emitted notice => some notice

def rounds (notices : List (Notice V)) : List (Round V) := notices.foldl readNotice []

section

variable (checks : Checks V D)

/-- What an answer is sent as: the route, what it is about, and the document, where a handler returned what the
contract takes. -/
def Dispatch.answer (dispatch : Dispatch V) : Option (RouteName × Identifier × D) :=
  match dispatch.envelope, dispatch.outcome with
  | .order _ _ order, some (.returned value) =>
    (checks.handlerAnswer value).toOption.map fun document => (.answer_order, order.id, document)
  | .quote_request _ _ question, some (.returned value) =>
    (checks.quoteResponse value).toOption.map fun document => (.answer_quote, question.price_id, document)
  | _, _ => none

/-- What is posted of an answer: a request, where one can be made. -/
def postsOf (baseUrl : Text) (aborted : Bool) (answer : RouteName × Identifier × D) : List Request :=
  match callRoute checks baseUrl answer.1 answer.2.1 answer.2.2 aborted with
  | .ok (.ok request) => [request]
  | _ => []

/-- What was posted for a message is what is posted of its answer, and nothing where it has none. -/
def Dispatch.Sent (baseUrl : Text) (dispatch : Dispatch V) : Prop :=
  match dispatch.answer checks with
  | none => dispatch.posts = []
  | some answer => ∃ aborted, dispatch.posts = postsOf checks baseUrl aborted answer

end

/-! ## What a move leaves of the rounds -/

variable {checks : Checks V D} {baseUrl : Text} {before : List (Round V)} {w : Worker}

/-- Every round is a first part of its batch, and what was posted in it is what is posted of its answers. -/
structure Sound (checks : Checks V D) (baseUrl : Text) (rounds : List (Round V)) : Prop where
  inOrder : ∀ round ∈ rounds, round.dispatched <+: round.batch
  sent : ∀ round ∈ rounds, ∀ dispatch ∈ round.dispatches, dispatch.Sent checks baseUrl

/-- Where the loop is in its batch is where the last round is. -/
def Stage.At (rounds : List (Round V)) : Stage → Prop
  | .reading batch => ∃ dispatches older, rounds = ⟨batch.envelopes, dispatches⟩ :: older ∧
      (Round.mk batch.envelopes dispatches).dispatched = batch.envelopes.take batch.handled
  | .handling batch envelope => ∃ dispatches older,
      rounds = ⟨batch.envelopes, { envelope := envelope } :: dispatches⟩ :: older ∧
      (Round.mk batch.envelopes ({ envelope := envelope } :: dispatches)).dispatched =
        batch.envelopes.take (batch.handled + 1)
  | .posting batch _ => ∃ dispatches older, rounds = ⟨batch.envelopes, dispatches⟩ :: older ∧
      (Round.mk batch.envelopes dispatches).dispatched = batch.envelopes.take (batch.handled + 1)
  | _ => True

/-- What holds of a worker, by the rounds of its log. -/
structure Kept (checks : Checks V D) (baseUrl : Text) (w : Worker) (rounds : List (Round V)) : Prop where
  sound : Sound checks baseUrl rounds
  stands : w.stage.At rounds

/-- What a move comes to keeps the rounds sound, and where the loop goes on it stands where they do. -/
def Did.Keeps (checks : Checks V D) (baseUrl : Text) (rounds : List (Round V)) (did : Did V) : Prop :=
  match did.result with
  | .ok w => Kept checks baseUrl w (did.seen.foldl readNotice rounds)
  | .error _ => Sound checks baseUrl (did.seen.foldl readNotice rounds)

theorem reportSafely_eq (reporter : WorkerProblem → Reporting) (problem : WorkerProblem) :
    reportSafely reporter problem = .ok () := by
  unfold reportSafely
  cases reporter problem <;> rfl

theorem report_eq (reporter : WorkerProblem → Reporting) (problem : WorkerProblem) (next : Did V) :
    report reporter problem next = next.after [.reported problem] := by
  rw [report, reportSafely_eq]

variable {reporter : WorkerProblem → Reporting} {next : Did V}

variable {problem : WorkerProblem} {dispatches : List (Dispatch V)} {older : List (Round V)}
  {ms now random startedAt : Rat} {did : Did V} {aborted : Bool}

theorem keeps_report (h : next.Keeps checks baseUrl before) :
    (report reporter problem next).Keeps checks baseUrl before := by
  rw [report_eq]
  exact h

variable {envelope : WorkerEnvelope}

theorem keeps_threw {cause : Cause} (hsound : Sound checks baseUrl before) (h : next.Keeps checks baseUrl before) :
    (threw reporter envelope cause next).Keeps checks baseUrl before := by
  unfold threw
  split
  · exact hsound
  · exact keeps_report h

variable {batch : Batch}

theorem keeps_readsOn (hsound : Sound checks baseUrl (⟨batch.envelopes, dispatches⟩ :: older))
    (hat : (Round.mk batch.envelopes dispatches).dispatched = batch.envelopes.take (batch.handled + 1)) :
    (w.readsOn batch).Keeps checks baseUrl (⟨batch.envelopes, dispatches⟩ :: older) :=
  ⟨hsound, dispatches, older, rfl, hat⟩

theorem Sound.onLast {batch : List WorkerEnvelope} {last last' : Dispatch V}
    (h : Sound checks baseUrl (⟨batch, last :: dispatches⟩ :: older)) (henvelope : last'.envelope = last.envelope)
    (hsent : last'.Sent checks baseUrl) :
    Sound checks baseUrl (⟨batch, last' :: dispatches⟩ :: older) := by
  refine ⟨forall_mem_cons.2 ⟨?_, fun round hround => h.inOrder round (mem_cons_of_mem _ hround)⟩,
    forall_mem_cons.2 ⟨forall_mem_cons.2 ⟨hsent, fun dispatch hin => ?_⟩,
      fun round hround => h.sent round (mem_cons_of_mem _ hround)⟩⟩
  · have := h.inOrder _ (mem_cons_self ..)
    rw [Round.dispatched, map_cons] at this ⊢
    rwa [henvelope]
  · exact h.sent _ (mem_cons_self ..) dispatch (mem_cons_of_mem _ hin)

/-! ## What a handler comes to -/

section

variable {batch : Batch} {envelope : WorkerEnvelope} {dispatches : List (Dispatch V)} {older : List (Round V)}
  {outcome : Outcome V} {reporter : WorkerProblem → Reporting}

theorem keeps_posts {name : RouteName} {id : Identifier} {body : D} {aborted : Bool}
    {failed : TransportFailure → WorkerProblem} (h : Kept checks baseUrl { w with stage := .handling batch envelope }
      (⟨batch.envelopes, { envelope := envelope } :: dispatches⟩ :: older))
    (hanswer : (Dispatch.mk envelope (some outcome) []).answer checks = some (name, id, body)) :
    (w.posts checks baseUrl reporter batch envelope name id body aborted failed).Keeps checks baseUrl
      (⟨batch.envelopes, ⟨envelope, some outcome, []⟩ :: dispatches⟩ :: older) := by
  obtain ⟨dispatches', older', heq, hat⟩ := h.stands
  cases heq
  have hsent (posts : List Request) (hposts : posts = postsOf checks baseUrl aborted (name, id, body)) :
      Sound checks baseUrl (⟨batch.envelopes, ⟨envelope, some outcome, posts⟩ :: dispatches⟩ :: older) := by
    refine h.sound.onLast rfl ?_
    have hanswer' : (Dispatch.mk envelope (some outcome) posts).answer checks = some (name, id, body) := hanswer
    rw [Dispatch.Sent, hanswer']
    exact ⟨aborted, hposts⟩
  unfold Worker.posts
  split
  · next hcall => exact hsent [] (by rw [postsOf, hcall])
  · next request hcall =>
    exact ⟨hsent [request] (by rw [postsOf, hcall]), ⟨envelope, some outcome, [request]⟩ :: dispatches, older,
      rfl, hat⟩
  · next hcall => exact keeps_report (keeps_readsOn (hsent [] (by rw [postsOf, hcall])) hat)

theorem keeps_unanswered {did : Did V} (h : Kept checks baseUrl { w with stage := .handling batch envelope }
      (⟨batch.envelopes, { envelope := envelope } :: dispatches⟩ :: older))
    (hanswer : (Dispatch.mk envelope (some outcome) []).answer checks = none)
    (hdid : Sound checks baseUrl (⟨batch.envelopes, ⟨envelope, some outcome, []⟩ :: dispatches⟩ :: older) →
      (w.readsOn batch : Did V).Keeps checks baseUrl
        (⟨batch.envelopes, ⟨envelope, some outcome, []⟩ :: dispatches⟩ :: older) →
      did.Keeps checks baseUrl (⟨batch.envelopes, ⟨envelope, some outcome, []⟩ :: dispatches⟩ :: older)) :
    did.Keeps checks baseUrl (⟨batch.envelopes, ⟨envelope, some outcome, []⟩ :: dispatches⟩ :: older) := by
  obtain ⟨dispatches', older', heq, hat⟩ := h.stands
  cases heq
  have hsound : Sound checks baseUrl
      (⟨batch.envelopes, ⟨envelope, some outcome, []⟩ :: dispatches⟩ :: older) := by
    refine h.sound.onLast rfl ?_
    rw [Dispatch.Sent, hanswer]
  exact hdid hsound (keeps_readsOn hsound hat)

/-- **What a handler comes to** keeps the rounds. -/
theorem keeps_handled (reporterStops : Bool) (h : Kept checks baseUrl { w with stage := .handling batch envelope }
      (⟨batch.envelopes, { envelope := envelope } :: dispatches⟩ :: older)) :
    (match envelope with
      | .order _ _ order => w.handleOrder checks baseUrl reporter batch envelope order outcome reporterStops
      | .quote_request _ _ question => w.handleQuote checks baseUrl reporter batch envelope question outcome
      | .order_event .. => w.handleEvent reporter batch envelope outcome).Keeps checks baseUrl
        (⟨batch.envelopes, ⟨envelope, some outcome, []⟩ :: dispatches⟩ :: older) := by
  cases envelope with
  | order id sent_at order =>
    cases outcome with
    | threw cause => exact keeps_unanswered h rfl fun hsound hnext => keeps_threw hsound hnext
    | returned value =>
      simp only [handleOrder]
      cases hchecked : checks.handlerAnswer value with
      | error problems =>
        exact keeps_unanswered h (by simp [Dispatch.answer, hchecked, Except.toOption]) fun _ hnext =>
          keeps_report hnext
      | ok document =>
        have hanswer : (Dispatch.mk (.order id sent_at order) (some (.returned value)) []).answer checks =
            some (.answer_order, order.id, document) := by
          simp [Dispatch.answer, hchecked, Except.toOption]
        dsimp only
        split
        · exact keeps_report (keeps_posts ⟨h.sound, h.stands⟩ hanswer)
        · exact keeps_posts h hanswer
  | quote_request id sent_at question =>
    cases outcome with
    | threw cause => exact keeps_unanswered h rfl fun hsound hnext => keeps_threw hsound hnext
    | returned value =>
      simp only [handleQuote]
      cases hchecked : checks.quoteResponse value with
      | error problems =>
        exact keeps_unanswered h (by simp [Dispatch.answer, hchecked, Except.toOption]) fun _ hnext =>
          keeps_report hnext
      | ok document => exact keeps_posts h (by simp [Dispatch.answer, hchecked, Except.toOption])
  | order_event id sent_at event =>
    cases outcome with
    | threw cause => exact keeps_unanswered h rfl fun hsound hnext => keeps_threw hsound hnext
    | returned value => exact keeps_unanswered h rfl fun _ hnext => hnext

end

/-! ## Every move, and every run -/

theorem keeps_leavesBatch (hsound : Sound checks baseUrl before) :
    (w.leavesBatch reporter batch now : Did V).Keeps checks baseUrl before := by
  have hnext : (if batch.envelopes.length = 0 then w.rest (quietPollFloorMs - (now - batch.startedAt)) .rests
      else ⟨[], .ok { w with stage := .asking }⟩ : Did V).Keeps checks baseUrl before := by
    split
    · unfold Worker.rest
      split <;> exact ⟨hsound, trivial⟩
    · exact ⟨hsound, trivial⟩
  unfold leavesBatch
  dsimp only
  split
  · exact keeps_report hnext
  · exact hnext

variable {registered : WorkerEnvelopeKind → Bool}

theorem keeps_readsNext (h : Kept checks baseUrl { w with stage := .reading batch } before) :
    (w.readsNext reporter batch now registered : Did V).Keeps checks baseUrl before := by
  obtain ⟨dispatches, older, rfl, hat⟩ := h.stands
  unfold readsNext
  split
  · exact keeps_leavesBatch h.sound
  · next envelope rest hdrop =>
    split
    · exact keeps_leavesBatch h.sound
    · have htake : Round.dispatched
          ⟨batch.envelopes, ({ envelope := envelope } :: dispatches : List (Dispatch V))⟩ =
            batch.envelopes.take (batch.handled + 1) := by
        have hget : batch.envelopes[batch.handled]? = some envelope := by
          rw [← head?_drop, hdrop]
          rfl
        rw [Round.dispatched] at hat
        rw [Round.dispatched, map_cons, reverse_cons, hat, take_add_one, hget]
        rfl
      have hsound : Sound checks baseUrl
          (⟨batch.envelopes, { envelope := envelope } :: dispatches⟩ :: older) := by
        refine ⟨forall_mem_cons.2 ⟨?_, fun round hround =>
            h.sound.inOrder round (mem_cons_of_mem _ hround)⟩,
          forall_mem_cons.2 ⟨forall_mem_cons.2 ⟨?_, h.sound.sent _ (mem_cons_self ..)⟩,
            fun round hround => h.sound.sent round (mem_cons_of_mem _ hround)⟩⟩
        · rw [htake]
          exact take_prefix ..
        · cases envelope <;> rfl
      split
      · exact ⟨hsound, dispatches, older, rfl, htake⟩
      · rw [report_eq]
        exact ⟨hsound, _, older, rfl, htake⟩

variable {answer : Except TransportFailure WorkerPollResponse}

theorem keeps_pollAnswered (hsound : Sound checks baseUrl before) :
    (w.pollAnswered checks reporter startedAt answer random : Did V).Keeps checks baseUrl before := by
  unfold pollAnswered
  split
  · exact ⟨hsound, trivial⟩
  · split
    · refine keeps_report ?_
      split
      · exact hsound
      · unfold Worker.rest
        split <;> exact ⟨hsound, trivial⟩
    · next poll =>
      split
      · refine ⟨⟨forall_mem_cons.2 ⟨⟨_, rfl⟩, hsound.inOrder⟩,
          forall_mem_cons.2 ⟨fun dispatch hin => absurd hin not_mem_nil, hsound.sent⟩⟩,
          [], before, rfl, rfl⟩
      · exact keeps_report ⟨hsound, trivial⟩

variable {event : Event V}

/-- **Every move** keeps the rounds. -/
theorem keeps_does (h : Kept checks baseUrl w before) (hdoes : w.does checks baseUrl event = some did) :
    did.Keeps checks baseUrl before := by
  have hposted {batch : Batch} {envelope : WorkerEnvelope} (hstage : w.stage = .posting batch envelope) :
      (w.readsOn batch : Did V).Keeps checks baseUrl before := by
    have hat := h.stands
    rw [hstage] at hat
    obtain ⟨dispatches, older, rfl, hat⟩ := hat
    exact keeps_readsOn h.sound hat
  unfold does at hdoes
  split at hdoes
  · cases hdoes
    exact ⟨h.sound, h.stands⟩
  · split at hdoes <;> cases hdoes <;> exact ⟨h.sound, trivial⟩
  · next batch hstage =>
    cases hdoes
    exact keeps_readsNext ⟨h.sound, hstage ▸ h.stands⟩
  · cases hdoes
    exact keeps_pollAnswered h.sound
  · cases hdoes
    exact ⟨h.sound, trivial⟩
  · next outcome reporterStops batch envelope hmove hstage =>
    cases hdoes
    have hat := h.stands
    rw [hstage] at hat
    obtain ⟨dispatches, older, rfl, hat⟩ := hat
    exact keeps_handled reporterStops ⟨h.sound, dispatches, older, rfl, hat⟩
  · next hstage =>
    cases hdoes
    exact keeps_report (hposted hstage)
  · next refusal batch id sent_at order hmove hstage =>
    cases hdoes
    cases refusal with
    | none => exact hposted hstage
    | some refusal => exact keeps_report (hposted hstage)
  · next hstage =>
    cases hdoes
    exact keeps_report (hposted hstage)
  · next used batch id sent_at question hmove hstage =>
    cases hdoes
    cases used with
    | true => exact hposted hstage
    | false => exact keeps_report (hposted hstage)
  · cases hdoes

theorem kept_settled (h : did.Keeps checks baseUrl before) :
    Kept checks baseUrl (w.settled reporter did).1 ((w.settled reporter did).2.foldl readNotice before) := by
  unfold Did.Keeps at h
  unfold Worker.settled
  cases hresult : did.result with
  | ok w' =>
    rw [hresult] at h
    exact h
  | error cause =>
    rw [hresult] at h
    dsimp only
    split
    · exact ⟨h, trivial⟩
    · refine ⟨?_, trivial⟩
      rw [report_eq, foldl_append]
      exact h

theorem kept_react {w' : Worker} {out : List (Notice V)} (h : Kept checks baseUrl w before)
    (hreact : (worker checks baseUrl).react w event = .ok (w', out)) :
    Kept checks baseUrl w' (out.foldl readNotice before) := by
  simp only [worker] at hreact
  split at hreact
  · next did hdoes =>
    have hkept : Kept checks baseUrl (w.settled event.reporter did).1
        ((w.settled event.reporter did).2.foldl readNotice before) := kept_settled (keeps_does h hdoes)
    rw [Except.ok.inj hreact] at hkept
    exact hkept
  · cases hreact

theorem seen_append (log log' : List (Happening (Event V) (Notice V))) :
    seen (log ++ log') = seen log ++ seen log' :=
  filterMap_append

theorem seen_stepLog (event : Event V) (out : List (Notice V)) : seen (Reactor.stepLog event out) = out := by
  unfold seen
  rw [Reactor.stepLog, filterMap_cons, filterMap_map]
  exact filterMap_some

def roundsOf (checks : Checks V D) (baseUrl : Text) (events : List (Event V)) : List (Round V) :=
  rounds (seen ((worker checks baseUrl).log {} events))

/-- **Every run** keeps its rounds. -/
theorem kept_run (checks : Checks V D) (baseUrl : Text) (events : List (Event V)) :
    Kept checks baseUrl ((worker checks baseUrl).run {} events) (roundsOf checks baseUrl events) := by
  have hstart : Kept checks baseUrl {} (rounds (seen ([] : List (Happening (Event V) (Notice V))))) :=
    ⟨⟨fun round hround => absurd hround not_mem_nil, fun round hround => absurd hround not_mem_nil⟩, trivial⟩
  have hrun := (worker checks baseUrl).log_induction (P := fun w log => Kept checks baseUrl w (rounds (seen log)))
    (fun {w log event w' out} h hreact => by
      rw [seen_append, seen_stepLog, rounds, foldl_append]
      exact kept_react h hreact) hstart events
  rwa [nil_append] at hrun

/-! ## Addresses and documents -/

/-- A value `expandPath` has a place for: no step through the path, and no surrogate that stands alone. -/
structure Addressable (id : Identifier) : Prop where
  notDot : id.1 ≠ text "."
  notDots : id.1 ≠ text ".."
  wellFormed : isWellFormed id.1 = true

/-- The parameter of a route the worker answers at. -/
def parameterOf : RouteName → Text
  | .answer_order => text "order_id"
  | .answer_quote => text "price_id"

section

variable (name : RouteName)

theorem parameters_eq : (apiRoute name).parameters = [parameterOf name] := by cases name <;> decide

theorem get_pathValues (id : Identifier) (parameter : Text) :
    (pathValues name id).get parameter = if parameter = parameterOf name then some (.string id.1) else none := by
  cases name <;> exact Dict.get_set ..

variable {id : Identifier}

theorem assigns_pathValues (hdot : id.1 ≠ text ".") (hdots : id.1 ≠ text "..") :
    Assigns (apiRoute name) (pathValues name id) := by
  refine ⟨fun parameter => ?_, fun parameter given hget => ?_⟩
  · rw [parameters_eq, mem_singleton, get_pathValues]
    split
    · next heq => exact iff_of_true heq rfl
    · next hne => exact iff_of_false hne (by simp)
  · rw [get_pathValues] at hget
    split at hget
    · cases hget
      exact ⟨id.1, rfl, id.2, hdot, hdots⟩
    · cases hget

theorem expandPath_step (h : id.1 = text "." ∨ id.1 = text "..") :
    ∃ thrown, expandPath (apiRoute name).path (pathValues name id) = .error thrown := by
  have hthrows : ∀ (name : RouteName) (step : Text), step = text "." ∨ step = text ".." →
      (expandPath (apiRoute name).path (Dict.empty.set (parameterOf name) (.string step))).toOption = none := by
    rintro name step (rfl | rfl) <;> cases name <;> decide +kernel
  have hnone := hthrows name id.1 h
  have hvalues : pathValues name id = Dict.empty.set (parameterOf name) (.string id.1) := by cases name <;> rfl
  rw [← hvalues] at hnone
  cases hexpand : expandPath (apiRoute name).path (pathValues name id) with
  | error thrown => exact ⟨thrown, rfl⟩
  | ok out =>
    rw [hexpand] at hnone
    cases hnone

end

/-- **An answer has an address** exactly where its identifier has a place in the path. -/
theorem addressOf_isOk_iff (baseUrl : Text) (name : RouteName) (id : Identifier) :
    (∃ address, addressOf baseUrl name id = .ok address) ↔ Addressable id := by
  constructor
  · rintro ⟨address, haddress⟩
    obtain ⟨path, hpath, -⟩ := Except.map_eq_ok_iff.1 haddress
    have hstep : ¬ (id.1 = text "." ∨ id.1 = text "..") := by
      intro h
      obtain ⟨thrown, hthrown⟩ := expandPath_step name h
      rw [hpath] at hthrown
      cases hthrown
    obtain ⟨hdot, hdots⟩ := not_or.1 hstep
    have hassigns := assigns_pathValues name hdot hdots
    obtain ⟨outs, houts, hsegments, hstands⟩ := hassigns.built hpath
    have hkeeps : KeepsRoute (apiRoute name) (pathValues name id) := by
      refine ⟨path, outs, hpath, hsegments, ?_, hstands⟩
      rw [hsegments, Route.segmentsOf_path, length_cons, length_cons, length_map, hstands.length_eq]
    refine ⟨hdot, hdots, hassigns.keepsRoute_iff.1 hkeeps (parameterOf name) id.1 ?_⟩
    rw [get_pathValues, if_pos rfl]
  · rintro ⟨hdot, hdots, hwell⟩
    obtain ⟨path, -, hpath, -⟩ := (assigns_pathValues name hdot hdots).keepsRoute_iff.2
      fun parameter value hget => by
        rw [get_pathValues] at hget
        split at hget
        · cases hget
          exact hwell
        · cases hget
    exact ⟨_, Except.map_eq_ok_iff.2 ⟨path, hpath, rfl⟩⟩

/-- An answer that can be written into a request: its identifier has a place in the path, and its document is
JSON. -/
structure Sendable (checks : Checks V D) (answer : RouteName × Identifier × D) : Prop where
  addressable : Addressable answer.2.1
  written : ∃ body, checks.stringify answer.2.2 = .ok body

/-- A request carries an answer: on its route, at its address, with its document. -/
structure Request.Carries (checks : Checks V D) (baseUrl : Text) (answer : RouteName × Identifier × D)
    (request : Request) : Prop where
  route : request.route = answer.1
  url : ∃ address, addressOf baseUrl answer.1 answer.2.1 = .ok address ∧ request.url = checks.href address
  body : checks.stringify answer.2.2 = .ok request.body

theorem postsOf_of_sendable {answer : RouteName × Identifier × D} (h : Sendable checks answer) (aborted : Bool) :
    ∃ request, postsOf checks baseUrl aborted answer = [request] ∧ request.Carries checks baseUrl answer := by
  obtain ⟨address, haddress⟩ := (addressOf_isOk_iff baseUrl answer.1 answer.2.1).2 h.addressable
  obtain ⟨body, hbody⟩ := h.written
  refine ⟨⟨answer.1, checks.href address, body, aborted⟩, ?_, rfl, ⟨address, haddress, rfl⟩, hbody⟩
  simp [postsOf, callRoute, haddress, hbody]

theorem sendable_of_posted {answer : RouteName × Identifier × D} {request : Request}
    (h : postsOf checks baseUrl aborted answer = [request]) : Sendable checks answer := by
  unfold postsOf callRoute at h
  split at h
  · next hcall =>
    split at hcall
    · cases hcall
    · next address haddress =>
      split at hcall
      · next body hbody => exact ⟨(addressOf_isOk_iff baseUrl _ _).1 ⟨address, haddress⟩, body, hbody⟩
      · split at hcall
        · cases hcall
        · cases hcall
  · cases h

/-- One answer was posted for a message whose handler returned one the contract takes, and none for any other. -/
def Dispatch.AnsweredOnce (checks : Checks V D) (baseUrl : Text) (dispatch : Dispatch V) : Prop :=
  match dispatch.answer checks with
  | none => dispatch.posts = []
  | some answer => ∃ request, dispatch.posts = [request] ∧ request.Carries checks baseUrl answer

/-- **One message.** It is answered once exactly where its answer, if it has one, can be written. -/
theorem Dispatch.Sent.answeredOnce_iff {dispatch : Dispatch V} (h : dispatch.Sent checks baseUrl) :
    dispatch.AnsweredOnce checks baseUrl ↔
      ∀ answer, dispatch.answer checks = some answer → Sendable checks answer := by
  unfold Dispatch.Sent at h
  unfold Dispatch.AnsweredOnce
  cases hanswer : dispatch.answer checks with
  | none =>
    rw [hanswer] at h
    exact iff_of_true h fun answer hsome => absurd hsome (by simp)
  | some answer =>
    rw [hanswer] at h
    obtain ⟨aborted, hposts⟩ := h
    constructor
    · rintro ⟨request, hone, -⟩ answer' hsome
      cases hsome
      exact sendable_of_posted (hposts.symm.trans hone)
    · intro hsendable
      obtain ⟨request, hone, hcarries⟩ := postsOf_of_sendable (hsendable answer rfl) aborted
      exact ⟨request, hposts.trans hone, hcarries⟩

/-! ## The wait before a retry -/

theorem retryDelayMs_le {attempt : Nat} (h : retryDelayMs checks attempt random = .ok ms) :
    ms ≤ retryCeilingMs := by
  unfold retryDelayMs at h
  split at h
  · cases h
  · split at h
    · cases h
    · next hrandom =>
      obtain ⟨-, hone⟩ := not_not.1 hrandom
      cases h
      have hpositive : (0 : Rat) ≤ min retryCeilingMs (firstRetryMs * retryGrowth ^ (attempt - 1)) := by
        unfold retryCeilingMs firstRetryMs retryGrowth
        positivity
      have hleast := min_le_left retryCeilingMs (firstRetryMs * retryGrowth ^ (attempt - 1))
      nlinarith

/-- What is seen of a move asks for no wait before a retry that is over the ceiling. -/
def Did.Capped (did : Did V) : Prop := ∀ ms, .retries ms ∈ did.seen → ms ≤ retryCeilingMs

theorem capped_report (h : next.Capped) : (report reporter problem next).Capped := by
  rw [report_eq]
  intro ms hms
  exact h ms (by simpa [Did.after] using hms)

theorem capped_readsOn (w : Worker) (batch : Batch) : (w.readsOn batch : Did V).Capped := by
  intro ms hms
  exact absurd hms not_mem_nil

theorem capped_threw {cause : Cause} (h : next.Capped) : (threw reporter envelope cause next).Capped := by
  unfold threw
  split
  · exact fun ms hms => absurd hms not_mem_nil
  · exact capped_report h

theorem capped_posts {name : RouteName} {id : Identifier} {body : D} {failed : TransportFailure → WorkerProblem} :
    (w.posts checks baseUrl reporter batch envelope name id body aborted failed : Did V).Capped := by
  unfold Worker.posts
  split
  · exact fun ms hms => absurd hms not_mem_nil
  · intro ms hms
    simp at hms
  · exact capped_report (capped_readsOn w batch)

theorem capped_rest (w : Worker) {waits : Rat → Notice V}
    (h : ∀ ms', .retries ms' = waits ms → ms' ≤ retryCeilingMs) : (w.rest ms waits).Capped := by
  unfold Worker.rest
  split
  · exact fun ms' hms => h ms' (mem_singleton.1 hms)
  · exact fun ms' hms => absurd hms not_mem_nil

theorem capped_leavesBatch : (w.leavesBatch reporter batch now : Did V).Capped := by
  have hnext : (if batch.envelopes.length = 0 then w.rest (quietPollFloorMs - (now - batch.startedAt)) .rests
      else ⟨[], .ok { w with stage := .asking }⟩ : Did V).Capped := by
    split
    · exact capped_rest w fun ms' hms => by cases hms
    · exact fun ms hms => absurd hms not_mem_nil
  unfold leavesBatch
  dsimp only
  split
  · exact capped_report hnext
  · exact hnext

theorem capped_readsNext : (w.readsNext reporter batch now registered : Did V).Capped := by
  unfold readsNext
  split
  · exact capped_leavesBatch
  · split
    · exact capped_leavesBatch
    · split
      · intro ms hms
        simp at hms
      · rw [report_eq]
        intro ms hms
        simp [Did.after, readsOn] at hms

theorem capped_pollAnswered :
    (w.pollAnswered checks reporter startedAt answer random : Did V).Capped := by
  unfold pollAnswered
  split
  · exact fun ms hms => absurd hms not_mem_nil
  · split
    · refine capped_report ?_
      split
      · exact fun ms hms => absurd hms not_mem_nil
      · next hdelay =>
        refine capped_rest _ fun ms' hms => ?_
        cases hms
        exact retryDelayMs_le hdelay
    · split
      · intro ms hms
        simp at hms
      · exact capped_report fun ms hms => absurd hms not_mem_nil

theorem capped_handled {outcome : Outcome V} (reporterStops : Bool) : (match envelope with
      | .order _ _ order => w.handleOrder checks baseUrl reporter batch envelope order outcome reporterStops
      | .quote_request _ _ question => w.handleQuote checks baseUrl reporter batch envelope question outcome
      | .order_event .. => w.handleEvent reporter batch envelope outcome : Did V).Capped := by
  cases envelope with
  | order id sent_at order =>
    simp only [handleOrder]
    split
    · exact capped_threw (capped_readsOn w batch)
    · split
      · exact capped_report (capped_readsOn w batch)
      · split
        · exact capped_report capped_posts
        · exact capped_posts
  | quote_request id sent_at question =>
    simp only [handleQuote]
    split
    · exact capped_threw (capped_readsOn w batch)
    · split
      · exact capped_report (capped_readsOn w batch)
      · exact capped_posts
  | order_event id sent_at event =>
    simp only [handleEvent]
    split
    · exact capped_threw (capped_readsOn w batch)
    · exact capped_readsOn w batch

theorem capped_does (h : w.does checks baseUrl event = some did) : did.Capped := by
  have hreads (batch : Batch) : (w.readsOn batch : Did V).Capped := capped_readsOn w batch
  unfold does at h
  split at h
  · cases h
    exact fun ms hms => absurd hms not_mem_nil
  · split at h <;> cases h
    · exact fun ms hms => absurd hms not_mem_nil
    · intro ms hms
      simp at hms
  · cases h
    exact capped_readsNext
  · cases h
    exact capped_pollAnswered
  · cases h
    exact fun ms hms => absurd hms not_mem_nil
  · next outcome reporterStops batch envelope _ _ =>
    cases h
    intro ms hms
    rcases mem_append.1 hms with hms | hms
    · cases mem_singleton.1 hms
    · exact capped_handled reporterStops ms hms
  · cases h
    exact capped_report (hreads _)
  · next refusal _ _ _ _ _ _ =>
    cases h
    cases refusal with
    | none => exact hreads _
    | some refusal => exact capped_report (hreads _)
  · cases h
    exact capped_report (hreads _)
  · next used _ _ _ _ _ _ =>
    cases h
    cases used with
    | true => exact hreads _
    | false => exact capped_report (hreads _)
  · cases h

theorem capped_run (events : List (Event V)) (h : .retries ms ∈ seen ((worker checks baseUrl).log {} events)) :
    ms ≤ retryCeilingMs := by
  have hrun := (worker checks baseUrl).log_induction
    (P := fun _ log => ∀ ms, .retries ms ∈ seen log → ms ≤ retryCeilingMs)
    (fun {w log event w' out} hlog hreact ms hms => by
      rw [seen_append, seen_stepLog] at hms
      rcases mem_append.1 hms with hms | hms
      · exact hlog ms hms
      · simp only [worker] at hreact
        split at hreact
        · next did hdoes =>
          have hcapped := capped_does hdoes
          obtain rfl : (w.settled event.reporter did).2 = out := congrArg Prod.snd (Except.ok.inj hreact)
          unfold Worker.settled at hms
          split at hms
          · exact hcapped ms hms
          · dsimp only at hms
            split at hms
            · exact hcapped ms hms
            · rw [report_eq] at hms
              exact hcapped ms (by simpa [Did.after] using hms)
        · cases hreact) (l := []) (s := {}) (fun ms hms => absurd hms not_mem_nil) events
  exact hrun ms h

/-! ## The reporter -/

theorem does_congr (checks : Checks V D) (baseUrl : Text) (w : Worker) (move : Move V)
    (reporter reporter' : WorkerProblem → Reporting) :
    w.does checks baseUrl ⟨move, reporter⟩ = w.does checks baseUrl ⟨move, reporter'⟩ := by
  simp only [does, readsNext, leavesBatch, pollAnswered, handleOrder,
    handleQuote, handleEvent, Worker.posts, threw, orderAnswered, quoteAnswered, report_eq]

theorem settled_congr (w : Worker) (did : Did V) (reporter reporter' : WorkerProblem → Reporting) :
    w.settled reporter did = w.settled reporter' did := by
  simp only [Worker.settled, report_eq]

section

variable (checks : Checks V D)

theorem react_congr (baseUrl : Text) (w : Worker) {event' : Event V} (h : event'.move = event.move) :
    (worker checks baseUrl).react w event' = (worker checks baseUrl).react w event := by
  obtain ⟨move, reporter⟩ := event
  obtain ⟨move', reporter'⟩ := event'
  cases h
  simp only [worker]
  rw [does_congr checks baseUrl w move reporter' reporter]
  split
  · rw [settled_congr w _ reporter' reporter]
  · rfl

/-- **The reporter moves nothing.** Two runs of the same moves are one run, whatever their reporters do. -/
theorem run_congr (baseUrl : Text) {events events' : List (Event V)}
    (h : events'.map (·.move) = events.map (·.move)) (w : Worker) :
    (worker checks baseUrl).run w events' = (worker checks baseUrl).run w events ∧
      seen ((worker checks baseUrl).log w events') = seen ((worker checks baseUrl).log w events) := by
  induction events generalizing w events' with
  | nil =>
    rw [map_nil, map_eq_nil_iff] at h
    rw [h]
    exact ⟨rfl, rfl⟩
  | cons event events ih =>
    cases events' with
    | nil => cases h
    | cons event' events' =>
      obtain ⟨hmove, hmoves⟩ := List.cons.inj h
      have hreact := react_congr checks baseUrl w hmove
      have hnext : (worker checks baseUrl).next w event' = (worker checks baseUrl).next w event := by
        rw [Reactor.next, Reactor.next, hreact]
      have hentries : seen ((worker checks baseUrl).entries w event') =
          seen ((worker checks baseUrl).entries w event) := by
        rw [Reactor.entries, Reactor.entries, hreact]
        split
        · rw [seen_stepLog, seen_stepLog]
        · rfl
      obtain ⟨hrun, hlog⟩ := ih hmoves ((worker checks baseUrl).next w event)
      rw [Reactor.run_cons, Reactor.run_cons, Reactor.log_cons, Reactor.log_cons, hnext, seen_append, seen_append,
        hentries, hrun, hlog]
      exact ⟨rfl, rfl⟩

/-! ## A gateway of another dialect -/

theorem run_ended (baseUrl : Text) (events : List (Event V)) (h : w.stage = .ended) :
    ((worker checks baseUrl).run w events).stage = .ended ∧ seen ((worker checks baseUrl).log w events) = [] := by
  have hover := (worker checks baseUrl).log_induction (P := fun w log => w.stage = .ended ∧ seen log = [])
    (fun {w log event w' out} hlog hreact => by
      obtain ⟨hstage, hseen⟩ := hlog
      simp only [worker] at hreact
      split at hreact
      · next did hdoes =>
        unfold does at hdoes
        rw [hstage] at hdoes
        cases hmove : event.move with
        | stop =>
          rw [hmove] at hdoes
          cases hdoes
          cases hreact
          rw [seen_append, seen_stepLog, hseen]
          exact ⟨rfl, rfl⟩
        | goesOn now registered =>
          rw [hmove] at hdoes
          cases hdoes
        | polled answer random =>
          rw [hmove] at hdoes
          cases hdoes
        | rested =>
          rw [hmove] at hdoes
          cases hdoes
        | handled outcome reporterStops =>
          rw [hmove] at hdoes
          cases hdoes
        | answered sent =>
          rw [hmove] at hdoes
          rcases sent with failure | refusal | used <;> cases hdoes
      · cases hreact) (l := []) (s := w) ⟨h, rfl⟩ events
  exact hover

end

/-- A poll is answered in another dialect of the contract. -/
def Mismatched (w : Worker) (event : Event V) : Prop :=
  ∃ startedAt poll random, w.stage = .polling startedAt ∧ event.move = .polled (.ok poll) random ∧
    speaksContract poll.contract_version = false

/-- The loop takes a batch up, dispatches a message, hears from a handler, or posts. -/
def Notice.works : Notice V → Prop
  | .batch _ | .dispatched _ | .heard _ | .posted _ => True
  | _ => False

/-- **Another dialect** ends the worker: nothing of that batch is dispatched, and nothing is posted any more. -/
theorem run_mismatched (h : Mismatched w event) (after : List (Event V)) :
    ((worker checks baseUrl).run w (event :: after)).stage = .ended ∧
      ∀ notice ∈ seen ((worker checks baseUrl).log w (event :: after)), ¬ notice.works := by
  obtain ⟨startedAt, poll, random, hstage, hmove, hspeaks⟩ := h
  have hstep : ∃ w' out, (worker checks baseUrl).react w event = .ok (w', out) ∧ w'.stage = .ended ∧
      ∀ notice ∈ out, ¬ notice.works := by
    have hdoes : w.does checks baseUrl event =
        some (w.pollAnswered checks event.reporter startedAt (.ok poll) random) := by
      unfold does
      rw [hmove, hstage]
    have hdid : ∃ w' out, w.pollAnswered checks event.reporter startedAt (.ok poll) random = ⟨out, .ok w'⟩ ∧
        w'.stage = .ended ∧ ∀ notice ∈ out, ¬ notice.works := by
      unfold pollAnswered
      split
      · exact ⟨_, [], rfl, rfl, fun notice hin => absurd hin not_mem_nil⟩
      · dsimp only
        rw [hspeaks, if_neg Bool.false_ne_true, report_eq]
        refine ⟨_, _, rfl, rfl, fun notice hin => ?_⟩
        rw [mem_singleton.1 hin]
        exact id
    obtain ⟨w', out, hdid, hended, hquiet⟩ := hdid
    refine ⟨w', out, ?_, hended, hquiet⟩
    simp only [worker, hdoes, hdid]
    rfl
  obtain ⟨w', out, hreact, hended, hquiet⟩ := hstep
  obtain ⟨hrun, hlog⟩ := run_ended checks baseUrl after hended
  rw [Reactor.run_cons, Reactor.log_cons, Reactor.next_of_ok _ hreact, Reactor.entries_of_ok _ hreact, seen_append,
    seen_stepLog, hlog, append_nil]
  exact ⟨hrun, hquiet⟩

/-! ## What it handled, and nothing else -/

/-- The worker answers what it handled and nothing else: every round is a first part of its batch; every message
whose handler returned an answer the contract takes is answered once, and no other is; a batch in another dialect
ends the worker before any of it is dispatched; whatever the reporter does, the run is the same; and no wait
before a retry is over the ceiling. -/
structure AnswersWhatItHandled (checks : Checks V D) (baseUrl : Text) (events : List (Event V)) : Prop where
  inOrder : ∀ round ∈ roundsOf checks baseUrl events, round.dispatched <+: round.batch
  answered : ∀ round ∈ roundsOf checks baseUrl events, ∀ dispatch ∈ round.dispatches,
    dispatch.AnsweredOnce checks baseUrl
  mismatched : ∀ before event after, events = before ++ event :: after →
    Mismatched ((worker checks baseUrl).run {} before) event →
      ((worker checks baseUrl).run {} events).stage = .ended ∧
        ∀ notice ∈ seen ((worker checks baseUrl).log ((worker checks baseUrl).run {} before) (event :: after)),
          ¬ notice.works
  unmoved : ∀ events', events'.map (·.move) = events.map (·.move) →
    (worker checks baseUrl).run {} events' = (worker checks baseUrl).run {} events ∧
      seen ((worker checks baseUrl).log {} events') = seen ((worker checks baseUrl).log {} events)
  capped : ∀ ms, .retries ms ∈ seen ((worker checks baseUrl).log {} events) → ms ≤ retryCeilingMs

/-- **The worker answers what it handled and nothing else**, in exactly the runs where every answer the contract
takes can be written into a request. -/
theorem answers_iff_sendable (checks : Checks V D) (baseUrl : Text) (events : List (Event V)) :
    AnswersWhatItHandled checks baseUrl events ↔
      ∀ round ∈ roundsOf checks baseUrl events, ∀ dispatch ∈ round.dispatches, ∀ answer,
        dispatch.answer checks = some answer → Sendable checks answer := by
  have hkept := kept_run checks baseUrl events
  constructor
  · intro h round hround dispatch hdispatch
    exact (hkept.sound.sent round hround dispatch hdispatch).answeredOnce_iff.1
      (h.answered round hround dispatch hdispatch)
  · intro h
    refine ⟨hkept.sound.inOrder, fun round hround dispatch hdispatch => ?_,
      fun before event after hevents hmis => ?_, fun events' hmoves => run_congr checks baseUrl hmoves {},
      fun ms hms => capped_run events hms⟩
    · exact (hkept.sound.sent round hround dispatch hdispatch).answeredOnce_iff.2 (h round hround dispatch hdispatch)
    · rw [hevents, Reactor.run_append]
      exact run_mismatched hmis after

/-! ## An order without an address -/

theorem dot_identifies : IdentifierSchema (text ".") = true := by decide

theorem envelope_identifies : IdentifierSchema (text "e1") = true := by decide

def dottedOrder : WorkerEnvelope :=
  .order ⟨text "e1", envelope_identifies⟩ (text "2026-11-01T10:00:00Z") ⟨⟨text ".", dot_identifies⟩⟩

/-- What a handler returns as JSON, of which an empty acceptance is taken, and sent as it is. -/
def acceptances : Checks Text Text where
  handlerAnswer value := if value = text "\x7b\"accepted\":\x7b\x7d\x7d" then .ok value else .error []
  quoteResponse _ := .error []
  dropsField _ := false
  stringify document := .ok document
  numeral _ := []
  href address := address

/-- The order comes, and its handler accepts it. -/
def acceptsDotted : List (Event Text) :=
  [.goesOn 0 fun _ => true, .polled (.ok ⟨contractVersion, [dottedOrder]⟩) 0, .goesOn 0 fun _ => true,
    .handled (.returned (text "\x7b\"accepted\":\x7b\x7d\x7d")) false].map fun move => ⟨move, fun _ => .returns⟩

/-- The contract takes the order and its handler's answer. Nothing is posted, and the worker is over. -/
theorem dotted_order_unanswered :
    ¬ AnswersWhatItHandled acceptances (text "https://test.agentify.ad") acceptsDotted ∧
      ((worker acceptances (text "https://test.agentify.ad")).run {} acceptsDotted).stage = .ended := by
  have hsilent : ((roundsOf acceptances (text "https://test.agentify.ad") acceptsDotted).any fun round =>
      round.dispatches.any fun dispatch =>
        dispatch.posts.isEmpty && (dispatch.answer acceptances).isSome) = true := by
    decide +kernel
  refine ⟨fun h => ?_, by decide +kernel⟩
  obtain ⟨round, hround, hany⟩ := List.any_eq_true.1 hsilent
  obtain ⟨dispatch, hdispatch, hboth⟩ := List.any_eq_true.1 hany
  obtain ⟨hposts, hanswer⟩ := Bool.and_eq_true_iff.1 hboth
  obtain ⟨answer, hanswer⟩ := Option.isSome_iff_exists.1 hanswer
  have honce := h.answered round hround dispatch hdispatch
  rw [Dispatch.AnsweredOnce, hanswer] at honce
  obtain ⟨request, hone, -⟩ := honce
  rw [hone] at hposts
  cases hposts

end Coinslot.Sdk
