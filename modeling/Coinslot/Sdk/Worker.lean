import Coinslot.Contract.Routes
import Mathlib.Data.List.DropRight
import Mathlib.Tactic.Linarith

/-!
# The worker of the SDK

The one loop that carries everything a merchant's process receives (`packages/sdk/src/worker.ts`): it polls, hands
each message of the batch to the handler of its kind, and posts what the handler of an order or of a price question
returned. `react` is what one thing that happens to the loop does: it goes on, a poll comes back, a wait is over,
a handler is done, a post is answered, or somebody asks it to stop.

What the merchant's code does comes with each of these: what a handler returns or throws, and what the reporter
does with a problem. A reporter may call `stop` as well; that is a `stop` of its own, right behind the move, for
nothing reads the flag before the loop goes on, but where a post follows a report in one move (`handled`).

What is thrown and not caught ends the loop (`settled`): the reason given for a failure is written with `String`,
which may throw, and so may the address of a post.
-/

namespace Coinslot.Sdk

open Utf16 Contract

/-! ## What is thrown, and how it is told -/

/-- What is thrown, by what `String` makes of it: words, or something else that is thrown. -/
inductive Cause where
  | reads (words : Text)
  | throws (cause : Cause)
deriving DecidableEq

/-- `String(cause)`. -/
def Cause.string : Cause → Except Cause Text
  | .reads words => .ok words
  | .throws cause => .error cause

/-- What the building of an address throws. -/
def Cause.ofThrown : Thrown → Cause
  | .typeError message => .reads (text "TypeError: " ++ message)
  | .uriError => .reads (text "URIError: URI malformed")

/-- `WORKER_PROBLEM_KINDS`. -/
inductive WorkerProblemKind where
  | contractVersionMismatch
  | pollFailed
  | handlerFailed
  | handlerAnswerRefused
  | noHandler
  | answerFailed
  | answerRefused
  | quoteAnswerUnused
  | batchAbandoned
  | workerFailed
  | deliveryFieldDropped
deriving DecidableEq

/-- Something the worker has to tell the merchant. -/
structure WorkerProblem where
  kind : WorkerProblemKind
  message : Text
  fatal : Bool := false
  cause : Option Cause := none
  subject : Option Text := none
deriving DecidableEq

/-- What a merchant's reporter does with a problem: it returns, it throws, or it returns a promise that settles
one way or the other. -/
inductive Reporting where
  | returns
  | throws (cause : Cause)
  | promises (rejects : Bool)
deriving DecidableEq

/-- A merchant's reporter is called, and nothing it does escapes. -/
def reportSafely (reporter : WorkerProblem → Reporting) (problem : WorkerProblem) : Except Cause Unit :=
  tryCatch
    (match reporter problem with
      | .returns => pure ()
      | .throws cause => throw cause
      | .promises _ => pure ())
    fun _ => pure ()

/-! ## The stream -/

abbrev Identifier := { id : Text // IdentifierSchema id = true }

/-- An order off the stream. -/
structure Order where
  id : Identifier
deriving DecidableEq

/-- A price question off the stream. -/
structure QuoteRequest where
  price_id : Identifier
  merchant_item_id : Identifier
deriving DecidableEq

/-- An event off the stream. -/
structure OrderEvent where
  type : Text
  order_id : Identifier
deriving DecidableEq

/-- The kinds of the stream, each with its own registration. -/
inductive WorkerEnvelopeKind where
  | order
  | quote_request
  | order_event
deriving DecidableEq

/-- A message off the stream. -/
inductive WorkerEnvelope where
  | order (id : Identifier) (sent_at : Text) (payload : Order)
  | quote_request (id : Identifier) (sent_at : Text) (payload : QuoteRequest)
  | order_event (id : Identifier) (sent_at : Text) (payload : OrderEvent)
deriving DecidableEq

namespace WorkerEnvelope

def kind : WorkerEnvelope → WorkerEnvelopeKind
  | .order .. => .order
  | .quote_request .. => .quote_request
  | .order_event .. => .order_event

end WorkerEnvelope

/-- How a kind is written. -/
def WorkerEnvelopeKind.word : WorkerEnvelopeKind → Text
  | .order => text "order"
  | .quote_request => text "quote_request"
  | .order_event => text "order_event"

/-- `REGISTERED_AS`: the word a merchant registers a handler of the kind under. -/
def registeredAs : WorkerEnvelopeKind → Text
  | .order => text "order"
  | .quote_request => text "quote"
  | .order_event => text "event"

/-- `CONTRACT_VERSION`. -/
def contractVersion : Text := text "2"

def speaksContract (version : Text) : Bool := version == contractVersion

/-- What a poll is answered with. -/
structure WorkerPollResponse where
  contract_version : Text
  envelopes : List WorkerEnvelope
deriving DecidableEq

/-! ## Calls -/

/-- What is known about whether a call got there. -/
inductive Reach where
  | notReceived
  | answered
  | unknown
deriving DecidableEq

/-- A call that did not produce its document. Of the body that came back instead, what it has for a text under
`contract_version`; of a refusal, that it is one. -/
structure TransportFailure where
  reason : Text
  reach : Reach
  namedVersion : Option Text := none
  refused : Bool := false
deriving DecidableEq

section

variable (failure : TransportFailure)

/-- What is known about a failed call, in a clause. -/
def whatIsKnown : Text :=
  if failure.refused then text "it reached us and the answer says the call did not go through"
  else
    match failure.reach with
    | .notReceived => text "no connection was made, so it did not reach us"
    | .answered => text "it reached us and what came back could not be read, so what it did is not known here"
    | .unknown => text "the exchange did not finish, so what the call did is not known here"

/-- What follows from a failed answer for the order it was about. -/
def andSoTheOrder : Text :=
  match failure.reach with
  | .notReceived => text ", so the order will be delivered again"
  | _ => text ", so whether the order is delivered again is not something this side can say"

/-- The version a body names that is not the promised document. -/
def versionSpokenIn : Option Text := failure.namedVersion.filter fun named => named != []

end

/-- What the worker uses of the contract and of the language: the checks of what a handler returned, which give
the document that is sent or the problems found; whether a delivery carries the one name that is dropped; a
document as JSON, where it can be written; a number in words; and an address as a URL has it. -/
structure Checks (V D : Type) where
  handlerAnswer : V → Except Text D
  quoteResponse : V → Except Text D
  dropsField : V → Bool
  stringify : D → Except Cause Text
  numeral : Rat → Text
  href : Text → Text

/-- The routes the worker answers at. -/
inductive RouteName where
  | answer_order
  | answer_quote
deriving DecidableEq

def RouteName.word : RouteName → Text
  | .answer_order => text "answer_order"
  | .answer_quote => text "answer_quote"

/-- The route of a name in `API_ROUTES`. -/
def apiRoute : RouteName → Route
  | .answer_order =>
    { segments := [.literal (text "v0"), .literal (text "orders"), .parameter (text "order_id"),
        .literal (text "answer")]
      fits := by decide }
  | .answer_quote =>
    { segments := [.literal (text "v0"), .literal (text "quotes"), .parameter (text "price_id"),
        .literal (text "answer")]
      fits := by decide }

/-- The parameter of a route, with its value. -/
def pathValues (name : RouteName) (id : Identifier) : Dict Text Given :=
  match name with
  | .answer_order => Dict.empty.set (text "order_id") (.string id.1)
  | .answer_quote => Dict.empty.set (text "price_id") (.string id.1)

/-- The address of one call: the gateway's base, then the route's own path. -/
def addressOf (baseUrl : Text) (name : RouteName) (id : Identifier) : Except Thrown Text :=
  (expandPath (apiRoute name).path (pathValues name id)).map fun path =>
    baseUrl.rdropWhile (· == unit '/') ++ path

/-- A request as it is handed to `fetch`. -/
structure Request where
  route : RouteName
  url : Text
  body : Text
  aborted : Bool
deriving DecidableEq

variable {V D : Type}

/-- What comes of a call up to `fetch`: the request, or a failure where the body cannot be written. -/
def callRoute (checks : Checks V D) (baseUrl : Text) (name : RouteName) (id : Identifier) (body : D)
    (aborted : Bool) : Except Cause (Except TransportFailure Request) :=
  match addressOf baseUrl name id with
  | .error thrown => .error (.ofThrown thrown)
  | .ok address =>
    let url := checks.href address
    match checks.stringify body with
    | .ok written => .ok (.ok ⟨name, url, written, aborted⟩)
    | .error cause =>
      match cause.string with
      | .error thrown => .error thrown
      | .ok words =>
        .ok (.error
          { reason := name.word ++ text " at " ++ url ++ text " could not be reached: " ++ words
            reach := .unknown })

/-! ## The wait before a retry -/

/-- The wait after the first failed call, in milliseconds. -/
def firstRetryMs : Rat := 500

/-- The longest a worker is asked to wait. -/
def retryCeilingMs : Rat := 30000

/-- What the wait is multiplied by for each further failure in a row. -/
def retryGrowth : Rat := 2

/-- The wait before an attempt, given one draw from 0 to 1. -/
def retryDelayMs (checks : Checks V D) (attempt : Nat) (random : Rat) : Except Cause Rat :=
  if attempt < 1 then
    .error (.reads (text "TypeError: the attempt is a whole number from 1 upwards, and was " ++
      checks.numeral attempt))
  else if ¬ (0 ≤ random ∧ random ≤ 1) then
    .error (.reads (text "TypeError: the random draw is a number from 0 to 1, and was " ++ checks.numeral random))
  else
    let capped := min retryCeilingMs (firstRetryMs * retryGrowth ^ (attempt - 1))
    .ok (capped / 2 + capped / 2 * random)

/-- The shortest a quiet poll may take before the next one. -/
def quietPollFloorMs : Rat := 1000

/-! ## The loop -/

/-- A batch on its way through the loop: when its poll went out, and how many of it are done with. -/
structure Batch where
  envelopes : List WorkerEnvelope
  startedAt : Rat
  handled : Nat
deriving DecidableEq

/-- Where the loop is: at its head, waiting for a poll, waiting before the next, between two messages of a batch,
waiting for a handler, waiting for a post, or over. -/
inductive Stage where
  | asking
  | polling (startedAt : Rat)
  | resting
  | reading (batch : Batch)
  | handling (batch : Batch) (envelope : WorkerEnvelope)
  | posting (batch : Batch) (envelope : WorkerEnvelope)
  | ended
deriving DecidableEq

/-- The loop, whether it was asked to stop, and how many polls failed in a row. -/
structure Worker where
  stage : Stage := .asking
  stopping : Bool := false
  failures : Nat := 0
deriving DecidableEq

/-- How a handler is done: it returned something, or threw. -/
inductive Outcome (V : Type) where
  | returned (value : V)
  | threw (cause : Cause)

/-- How the gateway answers a post: whether it refused an order's answer, and with which words, or whether it used
a price. -/
inductive Acknowledgement where
  | order (refusal : Option (Text × Text))
  | quote (used : Bool)
deriving DecidableEq

/-- What happens to the loop. -/
inductive Move (V : Type) where
  | stop
  | goesOn (now : Rat) (registered : WorkerEnvelopeKind → Bool)
  | polled (answer : Except TransportFailure WorkerPollResponse) (random : Rat)
  | rested
  | handled (outcome : Outcome V) (reporterStops : Bool)
  | answered (sent : Except TransportFailure Acknowledgement)

/-- What happens to the loop, and what the reporter does with what it is told of it. -/
structure Event (V : Type) where
  move : Move V
  reporter : WorkerProblem → Reporting

/-- What the loop does that is seen: it polls, takes a batch up, dispatches a message of it, hears from the
message's handler, hands a request to `fetch`, reports, and waits before a retry or after a quiet poll. -/
inductive Notice (V : Type) where
  | polls
  | batch (envelopes : List WorkerEnvelope)
  | dispatched (envelope : WorkerEnvelope)
  | heard (outcome : Outcome V)
  | posted (request : Request)
  | reported (problem : WorkerProblem)
  | retries (ms : Rat)
  | rests (ms : Rat)

/-- What a move does: what is seen of it, and where the loop is then, or what is thrown. -/
structure Did (V : Type) where
  seen : List (Notice V)
  result : Except Cause Worker

def Did.after (did : Did V) (seen : List (Notice V)) : Did V := { did with seen := seen ++ did.seen }

/-- A problem is reported, and the loop goes on with what is next. -/
def report (reporter : WorkerProblem → Reporting) (problem : WorkerProblem) (next : Did V) : Did V :=
  match reportSafely reporter problem with
  | .ok () => next.after [.reported problem]
  | .error cause => ⟨[.reported problem], .error cause⟩

/-- The next message of a batch is up. -/
def Worker.readsOn (w : Worker) (batch : Batch) : Did V :=
  ⟨[], .ok { w with stage := .reading { batch with handled := batch.handled + 1 } }⟩

def Worker.rest (w : Worker) (ms : Rat) (waits : Rat → Notice V) : Did V :=
  if 0 < ms then ⟨[waits ms], .ok { w with stage := .resting }⟩ else ⟨[], .ok { w with stage := .asking }⟩

/-! ## The handlers -/

/-- A problem about one order, question or event. -/
def about (subject : Identifier) (kind : WorkerProblemKind) (message : Text) : WorkerProblem :=
  { kind := kind, message := message, subject := some subject.1 }

/-- A message arrived and nothing was registered for its kind. -/
def noHandler : WorkerEnvelope → WorkerProblem
  | .order _ _ order =>
    about order.id .noHandler (text "order " ++ order.id.1 ++
      text " arrived and no handler was registered with on('" ++ registeredAs .order ++
      text "'), so it was left unanswered and will be delivered again")
  | .quote_request _ _ question =>
    about question.price_id .noHandler (text "a price question for " ++ question.merchant_item_id.1 ++
      text " arrived and no handler was registered with on('" ++ registeredAs .quote_request ++
      text "'), so it was left unanswered")
  | .order_event _ _ event =>
    about event.order_id .noHandler (event.type ++ text " arrived for order " ++ event.order_id.1 ++
      text " and nothing is listening for events; register one with on('" ++ registeredAs .order_event ++
      text "') to receive them")

/-- What stands before the words of a handler's exception. -/
def handlerFailed : WorkerEnvelope → Identifier × Text
  | .order _ _ order =>
    (order.id, text "the handler threw on order " ++ order.id.1 ++
      text ", so nothing was answered and the order will be delivered again: ")
  | .quote_request _ _ question =>
    (question.price_id, text "the price handler threw on question " ++ question.price_id.1 ++
      text (", so no price was sent and the sale goes on the card's own price or does not go on at all: "))
  | .order_event _ _ event =>
    (event.order_id, text "the event handler threw on " ++ event.type ++ text " for order " ++ event.order_id.1 ++
      text ("; nothing here can ask for that event again, and whether it is sent again is not something this SDK " ++
        "knows: "))

/-- A handler threw: nothing is answered. -/
def threw (reporter : WorkerProblem → Reporting) (envelope : WorkerEnvelope) (cause : Cause) (next : Did V) :
    Did V :=
  match cause.string with
  | .error thrown => ⟨[], .error thrown⟩
  | .ok words =>
    let failed := handlerFailed envelope
    report reporter { about failed.1 .handlerFailed (failed.2 ++ words) with cause := some cause } next

/-- `droppedFieldWarning`. -/
def droppedFieldWarning (orderId : Identifier) : WorkerProblem :=
  about orderId .deliveryFieldDropped (text "the delivery for order " ++ orderId.1 ++
    text (" carried a field named __proto__, which is removed before anything can check it: the agent will not " ++
      "receive it, and no card can declare it"))

/-- A post for an order went wrong. -/
def answerFailed (order : Order) (failure : TransportFailure) : WorkerProblem :=
  about order.id .answerFailed (text "the answer for order " ++ order.id.1 ++ text " was produced and " ++
    whatIsKnown failure ++ andSoTheOrder failure ++ text ": " ++ failure.reason)

/-- A post for a price question went wrong. -/
def priceFailed (question : QuoteRequest) (failure : TransportFailure) : WorkerProblem :=
  about question.price_id .answerFailed (text "the price for question " ++ question.price_id.1 ++
    text " was answered and " ++ whatIsKnown failure ++
    text ("; stock set aside under that identifier can be released once the question expires, whichever of those " ++
      "it was: ") ++ failure.reason)

section

variable (w : Worker)

/-- An answer is posted: the request goes out, or a failure is told of, and the batch read on. -/
def Worker.posts (checks : Checks V D) (baseUrl : Text) (reporter : WorkerProblem → Reporting)
    (batch : Batch) (envelope : WorkerEnvelope) (name : RouteName) (id : Identifier) (body : D) (aborted : Bool)
    (failed : TransportFailure → WorkerProblem) : Did V :=
  match callRoute checks baseUrl name id body aborted with
  | .error cause => ⟨[], .error cause⟩
  | .ok (.ok request) => ⟨[.posted request], .ok { w with stage := .posting batch envelope }⟩
  | .ok (.error failure) => report reporter (failed failure) (w.readsOn batch)

/-- What the handler of an order comes to. -/
def Worker.handleOrder (checks : Checks V D) (baseUrl : Text) (reporter : WorkerProblem → Reporting)
    (batch : Batch) (envelope : WorkerEnvelope) (order : Order) (outcome : Outcome V) (reporterStops : Bool) :
    Did V :=
  match outcome with
  | .threw cause => threw reporter envelope cause (w.readsOn batch)
  | .returned answer =>
    match checks.handlerAnswer answer with
    | .error problems =>
      report reporter
        (about order.id .handlerAnswerRefused (text "the handler's answer for order " ++ order.id.1 ++
          text (" is not one the contract carries, so nothing was sent and the order will be delivered again:\n") ++
          problems))
        (w.readsOn batch)
    | .ok checked =>
      if checks.dropsField answer then
        let stopping := w.stopping || reporterStops
        report reporter (droppedFieldWarning order.id)
          ({ w with stopping := stopping }.posts checks baseUrl reporter batch envelope .answer_order order.id
            checked stopping (answerFailed order))
      else
        w.posts checks baseUrl reporter batch envelope .answer_order order.id checked w.stopping (answerFailed order)

/-- What the handler of a price question comes to. -/
def Worker.handleQuote (checks : Checks V D) (baseUrl : Text) (reporter : WorkerProblem → Reporting)
    (batch : Batch) (envelope : WorkerEnvelope) (question : QuoteRequest) (outcome : Outcome V) : Did V :=
  match outcome with
  | .threw cause => threw reporter envelope cause (w.readsOn batch)
  | .returned answer =>
    match checks.quoteResponse answer with
    | .error problems =>
      report reporter
        (about question.price_id .handlerAnswerRefused (text "the price handler's answer for question " ++
          question.price_id.1 ++ text " is not one the contract carries, so no price was sent:\n" ++ problems))
        (w.readsOn batch)
    | .ok checked =>
      w.posts checks baseUrl reporter batch envelope .answer_quote question.price_id checked w.stopping
        (priceFailed question)

/-- What the handler of an event comes to: nothing is sent back. -/
def Worker.handleEvent (reporter : WorkerProblem → Reporting) (batch : Batch)
    (envelope : WorkerEnvelope) (outcome : Outcome V) : Did V :=
  match outcome with
  | .threw cause => threw reporter envelope cause (w.readsOn batch)
  | .returned _ => w.readsOn batch

end

/-- A post for an order is answered. -/
def orderAnswered (reporter : WorkerProblem → Reporting) (order : Order)
    (sent : Except TransportFailure (Option (Text × Text))) (next : Did V) : Did V :=
  match sent with
  | .error failure => report reporter (answerFailed order failure) next
  | .ok (some (code, message)) =>
    report reporter
      (about order.id .answerRefused (text "the answer for order " ++ order.id.1 ++ text " was not accepted (" ++
        code ++ text "): " ++ message)) next
  | .ok none => next

/-- A post for a price question is answered. -/
def quoteAnswered (reporter : WorkerProblem → Reporting) (question : QuoteRequest)
    (sent : Except TransportFailure Bool) (next : Did V) : Did V :=
  match sent with
  | .error failure => report reporter (priceFailed question failure) next
  | .ok true => next
  | .ok false =>
    report reporter
      (about question.price_id .quoteAnswerUnused (text "the price for question " ++ question.price_id.1 ++
        text (" arrived too late to be used, or the question is no longer held; stock set aside under that " ++
          "identifier can be released"))) next

/-! ## The turns of the loop -/

section

variable (w : Worker)

/-- A poll is answered, or it is not. -/
def Worker.pollAnswered (checks : Checks V D) (reporter : WorkerProblem → Reporting) (startedAt : Rat)
    (answer : Except TransportFailure WorkerPollResponse) (random : Rat) : Did V :=
  if w.stopping then ⟨[], .ok { w with stage := .ended }⟩
  else
    match answer with
    | .error failure =>
      let remark :=
        match versionSpokenIn failure with
        | some spoken =>
          if speaksContract spoken then []
          else text " — what answered names contract version " ++ spoken ++ text " while this SDK speaks " ++
            contractVersion ++ text ", which may mean the gateway is of another version"
        | none => []
      let failed := { w with failures := w.failures + 1 }
      report reporter
        { kind := .pollFailed, message := failure.reason ++ remark ++ text " — asking again after a wait" }
        (match retryDelayMs checks failed.failures random with
          | .error cause => ⟨[], .error cause⟩
          | .ok ms => failed.rest ms .retries)
    | .ok poll =>
      let answered := { w with failures := 0 }
      if speaksContract poll.contract_version then
        ⟨[.batch poll.envelopes], .ok { answered with stage := .reading ⟨poll.envelopes, startedAt, 0⟩ }⟩
      else
        report reporter
          { kind := .contractVersionMismatch
            fatal := true
            message := text "the gateway speaks contract version " ++ poll.contract_version ++
              text " and this SDK speaks " ++ contractVersion ++
              text ("; the worker stopped rather than handle orders in a dialect it may be reading wrong") }
          ⟨[], .ok { answered with stage := .ended }⟩

/-- A batch is done with, or given up. -/
def Worker.leavesBatch (reporter : WorkerProblem → Reporting) (batch : Batch) (now : Rat) : Did V :=
  let next :=
    if batch.envelopes.length = 0 then w.rest (quietPollFloorMs - (now - batch.startedAt)) .rests
    else ⟨[], .ok { w with stage := .asking }⟩
  if batch.handled < batch.envelopes.length then
    report reporter
      { kind := .batchAbandoned
        message := text "the worker stopped with " ++ text (toString (batch.envelopes.length - batch.handled)) ++
          text " of this batch's " ++ text (toString batch.envelopes.length) ++ text " messages unread (" ++
          (text ", ").intercalate ((batch.envelopes.drop batch.handled).map fun envelope => envelope.kind.word) ++
          text "); orders and price questions come back on their own, and nothing here can ask for an event again" }
      next
  else next

/-- The next of a batch: the message is dispatched to its handler, or the batch is left. -/
def Worker.readsNext (reporter : WorkerProblem → Reporting) (batch : Batch) (now : Rat)
    (registered : WorkerEnvelopeKind → Bool) : Did V :=
  match batch.envelopes.drop batch.handled with
  | [] => w.leavesBatch reporter batch now
  | envelope :: _ =>
    if w.stopping then w.leavesBatch reporter batch now
    else if registered envelope.kind then
      ⟨[.dispatched envelope], .ok { w with stage := .handling batch envelope }⟩
    else (report reporter (noHandler envelope) (w.readsOn batch)).after [.dispatched envelope]

/-- What is done once the loop has gone its way: where something was thrown, the worker is over and says so. -/
def Worker.settled (reporter : WorkerProblem → Reporting) (did : Did V) : Worker × List (Notice V) :=
  match did.result with
  | .ok w' => (w', did.seen)
  | .error cause =>
    let done := { w with stage := .ended, stopping := true }
    match cause.string with
    | .error _ => (done, did.seen)
    | .ok words =>
      let failed : WorkerProblem :=
        { kind := .workerFailed
          fatal := true
          cause := some cause
          message := text ("the worker stopped on an error it did not expect, which is a defect in the Coinslot " ++
            "SDK rather than something the gateway did: ") ++ words }
      (done, did.seen ++ (report reporter failed ⟨[], .ok done⟩).seen)

/-- What one thing that happens does to the loop, where it can happen. -/
def Worker.does (checks : Checks V D) (baseUrl : Text) (event : Event V) : Option (Did V) :=
  match event.move, w.stage with
  | .stop, _ => some ⟨[], .ok { w with stopping := true }⟩
  | .goesOn now _, .asking =>
    if w.stopping then some ⟨[], .ok { w with stage := .ended }⟩
    else some ⟨[.polls], .ok { w with stage := .polling now }⟩
  | .goesOn now registered, .reading batch => some (w.readsNext event.reporter batch now registered)
  | .polled answer random, .polling startedAt =>
    some (w.pollAnswered checks event.reporter startedAt answer random)
  | .rested, .resting => some ⟨[], .ok { w with stage := .asking }⟩
  | .handled outcome reporterStops, .handling batch envelope =>
    some ((match envelope with
      | .order _ _ order => w.handleOrder checks baseUrl event.reporter batch envelope order outcome reporterStops
      | .quote_request _ _ question => w.handleQuote checks baseUrl event.reporter batch envelope question outcome
      | .order_event .. => w.handleEvent event.reporter batch envelope outcome).after [.heard outcome])
  | .answered (.error failure) , .posting batch (.order _ _ order) =>
    some (orderAnswered event.reporter order (.error failure) (w.readsOn batch))
  | .answered (.ok (.order refusal)), .posting batch (.order _ _ order) =>
    some (orderAnswered event.reporter order (.ok refusal) (w.readsOn batch))
  | .answered (.error failure), .posting batch (.quote_request _ _ question) =>
    some (quoteAnswered event.reporter question (.error failure) (w.readsOn batch))
  | .answered (.ok (.quote used)), .posting batch (.quote_request _ _ question) =>
    some (quoteAnswered event.reporter question (.ok used) (w.readsOn batch))
  | _, _ => none

end

/-- The worker, as a machine. -/
def worker (checks : Checks V D) (baseUrl : Text) : Reactor Worker (Event V) (Notice V) Unit :=
  ⟨fun w event =>
    match w.does checks baseUrl event with
    | some did => .ok (w.settled event.reporter did)
    | none => .error ()⟩

end Coinslot.Sdk
