import Coinslot.Gateway.Answers
import Coinslot.Gateway.Catalog
import Coinslot.Gateway.Reminders

/-!
# The desk

The gateway with everybody who comes to it (`apps/gateway/src/app/gateway.ts`): the workers that poll,
the merchants that answer, deliver and refuse, the price questions put to them and the purchases parked
on those, and the cards and keys of the catalog. What an order can be fed is what these feed it: a
merchant's call is one call of `apply`, held to his own orders, and so are a poll, a price answer and a
reminder. What the merchants' streams hold is in the actions, and any envelope may be drawn. `deskMachine`
is the whole of it as a reactor.

A call that reads before it holds an order is in two steps, with what it read in between: a delivery is
weighed against its card before the hold, and a price answer finds its question before it. A call is
answered here where the hold ends, as it will be once its effects are carried out.
-/

namespace Coinslot

/-- What the desk runs on. -/
structure DeskRuntime where
  runtime : Runtime
  words : SchemaWords
  handlerAnswerMs : Int
  settleInFlightRetryMs : Int

/-! ## What is under way -/

/-- A price question that was put to a merchant. -/
structure Question where
  orderId : String
  merchantId : String
  deriving DecidableEq, Repr

/-- How a purchase parked on a price question was woken, where it was. -/
inductive ParkedStage where
  | waiting
  | answered
  | silent
  deriving DecidableEq, Repr

/-- A purchase that is parked on a price question. -/
structure Parked where
  orderId : String
  stage : ParkedStage
  deriving DecidableEq, Repr

/-- Whether a merchant's word came back from his handler or by a call of its own. -/
inductive AnswerRoute where
  | handler
  | call
  deriving DecidableEq, Repr

/-- How far a delivery has got: the order was read without goods on it, its goods fit the card that was
read, or the order had its goods already and there is nothing to weigh. -/
inductive DeliverStage where
  | read (itemId : String) (state : OrderState)
  | weighed (stored : StoredCard)
  | repeated

/-- One call of `deliverOrder`. -/
structure DeliverCall where
  merchantId : String
  orderId : String
  delivery : Document
  route : AnswerRoute
  stage : DeliverStage

/-- How far a price answer has got: its question was found, or the machine made something of it. -/
inductive QuoteStage where
  | found
  | put (used : Bool)
  deriving DecidableEq, Repr

/-- One call of `answerQuote`: the price, or nothing where the product is not available. -/
structure QuoteCall where
  merchantId : String
  priceId : String
  orderId : String
  response : Option Price
  «at» : Int
  stage : QuoteStage
  deriving DecidableEq, Repr

/-- The desk at one instant. -/
structure Desk where
  timed : Timed Document
  catalog : Catalog
  questions : Dict String Question
  parked : Dict String Parked
  deliveries : Dict Nat DeliverCall
  quotes : Dict Nat QuoteCall
  /-- The identifiers of hand-overs and price questions that were minted, each with its order. -/
  minted : Dict String String

/-- What a caller of `apply` brings along: the number its effects run under, the instant it read, what
the clock says under the hold, the identifiers minted there, and where the call is cut off. -/
structure Turn where
  task : Nat
  «at» : Int
  now : Int
  fresh : Nat → String
  cut : Option Nat

/-- What the desk is heard to do. -/
inductive DeskNotice where
  | heard (notice : Notice Document)
  /-- An envelope that was drawn and handed to nobody goes back on its stream. -/
  | putBack (merchantId : String) (envelope : WorkerEnvelope Document) (afterMs : Int)
  /-- An envelope is in the answer to a poll. -/
  | handed (merchantId : String) (envelope : WorkerEnvelope Document)
  | answeredCall (merchantId orderId : String) (response : Option OrderCallResponse)
  | answeredAcceptance (merchantId orderId : String) (response : Option OrderAcceptResponse)
  | asked (merchantId priceId orderId : String)
  | quoteAcked (priceId : String) (response : Option Price) (used : Bool)
  | showedCard (merchantId itemId : String) (card : Option StoredCard)
  | showedKey (merchantId keyId : String) (answer : DisableAnswer)

namespace Desk

/-- A desk nobody has come to. -/
def empty : Desk :=
  { timed := .empty
    catalog := .empty
    questions := .empty
    parked := .empty
    deliveries := .empty
    quotes := .empty
    minted := .empty }

def orderById (s : Desk) (id : String) : Option (StoredOrder Document) := s.timed.world.store.orderById id

/-- An order as its own merchant reads it: somebody else's is not found. -/
def merchantOrder (s : Desk) (merchantId id : String) : Option (StoredOrder Document) :=
  match s.orderById id with
  | none => none
  | some found => if found.merchantId ≠ merchantId then none else some found

/-- One call of `apply`, and what it tells its caller where it is not cut off. -/
def feed (D : DeskRuntime) (s : Desk) (call : ApplyCall Document) (turn : Turn) :
    Desk × List DeskNotice × Option (Applied Document) :=
  let world := s.timed.world
  let came := world.applyAlone D.runtime turn.task call turn.now turn.fresh turn.cut
  ({ s with timed := { world := came.1, reminders := s.timed.reminders ++ askedBy came.2 } },
    came.2.map .heard,
    if turn.cut.isSome then none else some (world.applied D.runtime call turn.now turn.fresh))

/-! ## The poll -/

/-- The call a poll makes for an order it drew: the hand-over, under its own token. -/
def handOverCall (merchantId orderId token : String) (t : Int) : ApplyCall Document :=
  { orderId := orderId
    event := .state (.orderDispatched t)
    facts := { openDeliveryId := some (some token) }
    scope := some merchantId }

/-- The reminder a hand-over leaves, unless it would land after the order's own deadline
(`#remindMeIfNobodyAnswers`). -/
def remindMeIfNobodyAnswers (D : DeskRuntime) (order : Order) (token : String) (t : Int) : List (Reminder × Int) :=
  let wait :=
    match (fulfillmentDeadline order).head? with
    | none => D.handlerAnswerMs
    | some deadline => min D.handlerAnswerMs (deadline.at - t)
  if wait ≤ 0 then [] else [(.deliveryUnanswered order.id token, wait)]

/-- One order envelope off a merchant's stream (`poll`). Where the hand-over could not be recorded, or
not yet, the envelope goes back; where the machine refuses it, nobody is given the order. -/
def handOver (D : DeskRuntime) (s : Desk) (merchantId envelopeId token : String)
    (document : OrderDocument Document) (turn : Turn) : Desk × List DeskNotice :=
  let came := ({ s with minted := s.minted.set token document.id } : Desk).feed D
    (handOverCall merchantId document.id token turn.at) turn
  let envelope : WorkerEnvelope Document := .order envelopeId (asTimestamp turn.at) document
  let back := came.2.1 ++ [.putBack merchantId envelope D.settleInFlightRetryMs]
  match came.2.2 with
  | none | some .noSuchOrder | some .movedOn => (came.1, came.2.1)
  | some (.threw _) => (came.1, back)
  | some (.refused rejection) => if rejection.retryable then (came.1, back) else (came.1, came.2.1)
  | some (.moved record ..) =>
    let reminders := remindMeIfNobodyAnswers D record.order token turn.at
    let armed : List (Notice Document) := remindings reminders
    ({ came.1 with
        timed := { came.1.timed with reminders := came.1.timed.reminders ++ askedBy armed } },
      came.2.1 ++ armed.map .heard ++ [.handed merchantId envelope])

/-! ## The merchant's calls on an order -/

/-- The event a delivery is, by the route it came. -/
def delivered (route : AnswerRoute) (t : Int) : StateEvent :=
  match route with
  | .handler => .handlerDelivered t
  | .call => .deliverCalled t

/-- The event a refusal is, by the route it came. -/
def refused (route : AnswerRoute) (t : Int) (code message : String) : StateEvent :=
  match route with
  | .handler => .handlerRefused t code message
  | .call => .refuseCalled t code message

/-- The call a merchant's word on an order makes: held to his own orders, and the end of the hand-over
the order waits on. -/
def merchantCall (merchantId orderId : String) (event : StateEvent) (delivery : Option Document) :
    ApplyCall Document :=
  { orderId := orderId
    event := .state event
    facts := { delivery := delivery, openDeliveryId := some none }
    scope := some merchantId }

/-- A merchant's call that came back is answered, with the shape its route has. -/
def answering (came : Desk × List DeskNotice × Option (Applied Document))
    (landed : MerchantAnswerResult) (shape : Option OrderCallResponse → DeskNotice) : Desk × List DeskNotice :=
  match came.2.2 with
  | none => (came.1, came.2.1)
  | some applied =>
    match answerFor applied landed with
    | .error words => (came.1, came.2.1 ++ [.heard (.threw words)])
    | .ok response => (came.1, came.2.1 ++ [shape response])

/-- The goods of an order arrive: the order is read (`deliverOrder`). -/
def deliverOrder (s : Desk) (k : Nat) (merchantId orderId : String) (delivery : Document)
    (route : AnswerRoute) : Desk × List DeskNotice :=
  match s.merchantOrder merchantId orderId with
  | none => (s, [.answeredCall merchantId orderId none])
  | some record =>
    let stage : DeliverStage :=
      match record.delivery with
      | none => .read record.itemId record.order.state
      | some _ => .repeated
    ({ s with deliveries := s.deliveries.set k ⟨merchantId, orderId, delivery, route, stage⟩ }, [])

section

variable (D : DeskRuntime)

section

variable (s : Desk)

/-- The card of the order is read, and the goods are held to it. -/
def weighGoods (k : Nat) (call : DeliverCall) (itemId : String) (state : OrderState) : Desk × List DeskNotice :=
  match s.catalog.cardById itemId with
  | none =>
    ({ s with deliveries := s.deliveries.delete k },
      [.heard (.threw (s!"the order {call.orderId} was sold against {itemId}, and there is no " ++
        "such card to hold its goods to"))])
  | some stored =>
    match goodsAgainstTheCard D.words stored state call.delivery with
    | some misfit =>
      ({ s with deliveries := s.deliveries.delete k },
        [.answeredCall call.merchantId call.orderId (some (.failure misfit))])
    | none => ({ s with deliveries := s.deliveries.set k { call with stage := .weighed stored } }, [])

/-- The goods are handed to the machine. -/
def handIn (k : Nat) (call : DeliverCall) (turn : Turn) : Desk × List DeskNotice :=
  answering
    (({ s with deliveries := s.deliveries.delete k } : Desk).feed D
      (merchantCall call.merchantId call.orderId (delivered call.route turn.at)
        (some call.delivery)) turn)
    .delivered (.answeredCall call.merchantId call.orderId)

/-- The merchant will not sell (`refuseOrder`). -/
def refuseOrder (merchantId orderId code message : String)
    (route : AnswerRoute) (turn : Turn) : Desk × List DeskNotice :=
  answering
    (s.feed D (merchantCall merchantId orderId (refused route turn.at code message) none) turn)
    .refused (.answeredCall merchantId orderId)

/-- Taking an order on, for both the routes that do it (`#takeOrderOn`). -/
def takeOrderOn (merchantId orderId : String)
    (shape : Option OrderCallResponse → DeskNotice) (turn : Turn) : Desk × List DeskNotice :=
  answering (s.feed D (merchantCall merchantId orderId (.handlerAccepted turn.at) none) turn)
    .accepted shape

/-- Takes an order on, through the route written for it (`acceptOrder`). -/
def acceptOrder (merchantId orderId : String) (turn : Turn) : Desk × List DeskNotice :=
  s.takeOrderOn D merchantId orderId
    (fun response => .answeredAcceptance merchantId orderId (response.map acceptResponseOf)) turn

/-- What a merchant's handler returned for an order it was given. -/
inductive HandlerReply where
  | delivered (goods : Document)
  | refused (code message : String)
  | accepted

/-- What the merchant's handler returned (`answerOrder`). -/
def answerOrder (k : Nat) (merchantId orderId : String)
    (reply : HandlerReply) (turn : Turn) : Desk × List DeskNotice :=
  match reply with
  | .delivered goods => s.deliverOrder k merchantId orderId goods .handler
  | .refused code message => s.refuseOrder D merchantId orderId code message .handler turn
  | .accepted => s.takeOrderOn D merchantId orderId (.answeredCall merchantId orderId) turn

end

end

/-! ## Price questions -/

/-- The call that says nobody named a price. -/
def silenceCall (orderId : String) (t : Int) : ApplyCall Document :=
  { orderId := orderId, event := .state (.quoteSilent t) }

/-- The call a price answer makes. -/
def quoteCall (call : QuoteCall) : ApplyCall Document :=
  { orderId := call.orderId
    event := .state (.quoteAnswered call.at call.response)
    facts := { priceId := some call.priceId }
    scope := some call.merchantId }

/-- Puts the price question to the merchant, and parks the purchase on it (`#askThePrice`). A card whose
question does not reach him is priced as if nobody answered. -/
def askThePrice (D : DeskRuntime) (s : Desk) (record : StoredOrder Document) (orderId : String)
    (card : Card) (priceId : String) (turn : Turn) : Desk × List DeskNotice :=
  if quoteReachesTheMerchant card then
    ({ s with
        questions := s.questions.set priceId ⟨orderId, record.merchantId⟩
        parked := s.parked.set priceId ⟨orderId, .waiting⟩
        minted := s.minted.set priceId orderId },
      [.asked record.merchantId priceId orderId])
  else
    let came := s.feed D (silenceCall orderId turn.at) turn
    (came.1, came.2.1)

/-- Our patience for an answer runs out. -/
def waitOver (s : Desk) (priceId : String) (parked : Parked) : Desk :=
  { s with parked := s.parked.set priceId { parked with stage := .silent } }

/-- The parked purchase goes on: the question is finished, and where nobody answered it the machine is
told so. -/
def wakes (D : DeskRuntime) (s : Desk) (priceId : String) (parked : Parked) (turn : Turn) : Desk × List DeskNotice :=
  let after : Desk := { s with questions := s.questions.delete priceId, parked := s.parked.delete priceId }
  if parked.stage = .silent then
    let came := after.feed D (silenceCall parked.orderId turn.at) turn
    (came.1, came.2.1)
  else (after, [])

/-- A price answer comes in: a question this merchant was not asked is answered as one we no longer
hold (`answerQuote`). -/
def answerQuote (s : Desk) (k : Nat) (merchantId priceId : String) (response : Option Price)
    (t : Int) : Desk × List DeskNotice :=
  match s.questions.get priceId with
  | none => (s, [.quoteAcked priceId response false])
  | some asked =>
    if asked.merchantId ≠ merchantId then (s, [.quoteAcked priceId response false])
    else
      ({ s with
          quotes := s.quotes.set k ⟨merchantId, priceId, asked.orderId, response, t, .found⟩ }, [])

/-- Whether the machine took an event. -/
def tookIt : Applied Document → Bool
  | .moved .. => true
  | .threw _ | .noSuchOrder | .movedOn | .refused _ => false

/-- The answer is put to the machine. -/
def putQuote (D : DeskRuntime) (s : Desk) (k : Nat) (call : QuoteCall) (turn : Turn) : Desk × List DeskNotice :=
  let came := s.feed D (quoteCall call) turn
  match came.2.2 with
  | none | some (.threw _) => ({ came.1 with quotes := came.1.quotes.delete k }, came.2.1)
  | some applied =>
    ({ came.1 with quotes := came.1.quotes.set k { call with stage := .put (tookIt applied) } },
      came.2.1)

/-- The question is finished, whoever is parked on it is woken, and the merchant hears whether his
answer was used. -/
def ackQuote (s : Desk) (k : Nat) (call : QuoteCall) (used : Bool) : Desk × List DeskNotice :=
  ({ s with
      questions := s.questions.delete call.priceId
      parked :=
        match s.parked.get call.priceId with
        | some ⟨orderId, .waiting⟩ => s.parked.set call.priceId ⟨orderId, .answered⟩
        | _ => s.parked
      quotes := s.quotes.delete k },
    [.quoteAcked call.priceId call.response used])

/-! ## The catalog -/

/-- Takes one card off sale, or puts it back. -/
def setCardPaused (s : Desk) (merchantId itemId : String) (paused : Bool) : Desk × List DeskNotice :=
  let came := s.catalog.setCardPaused merchantId itemId paused
  ({ s with catalog := came.1 }, [.showedCard merchantId itemId came.2])

/-- Switches off one of the merchant's own keys. -/
def disableKeyOf (s : Desk) (merchantId keyId : String) (t : Int) : Desk × List DeskNotice :=
  let came := s.catalog.disableKeyOf merchantId keyId t
  ({ s with catalog := came.1 }, [.showedKey merchantId keyId came.2])

/-- The process dies: what it held for the desk in its own memory is gone. -/
def restart (s : Desk) : Desk :=
  { s with questions := .empty, parked := .empty, deliveries := .empty, quotes := .empty }

end Desk

/-! ## The step -/

/-- An action the gateway takes of its own accord, and not because somebody at the desk feeds an event
to an order. -/
def Action.own : Action Document → Bool
  | .apply .. => false
  | _ => true

/-- Everything that can happen next at the desk. -/
inductive DeskAction where
  | gateway (action : Action Document)
  | fire (n : Nat) (turn : Turn)
  | returns (n : Nat)
  | handOver (merchantId envelopeId token : String) (document : OrderDocument Document)
      (turn : Turn)
  | deliverOrder (k : Nat) (merchantId orderId : String) (delivery : Document)
  | weighGoods (k : Nat)
  | handIn (k : Nat) (turn : Turn)
  | refuseOrder (merchantId orderId code message : String) (turn : Turn)
  | acceptOrder (merchantId orderId : String) (turn : Turn)
  | answerOrder (k : Nat) (merchantId orderId : String) (reply : Desk.HandlerReply) (turn : Turn)
  | askThePrice (orderId : String) (card : Card) (priceId : String) (turn : Turn)
  | waitOver (priceId : String)
  | wakes (priceId : String) (turn : Turn)
  | answerQuote (k : Nat) (merchantId priceId : String) (response : Option Price) (t : Int)
  | putQuote (k : Nat) (turn : Turn)
  | ackQuote (k : Nat)
  | dropQuote (k : Nat)
  | publishCard (merchantId : String) (card : Card) (t : Int) (fresh : String)
  | setCardPaused (merchantId itemId : String) (paused : Bool)
  | addKey (key : StoredKey)
  | disableKeyOf (merchantId keyId : String) (t : Int)
  | restart

/-- A step that takes a turn, where the number its effects would run under is free. -/
def Desk.taking (s : Desk) (turn : Turn) (came : Desk × List DeskNotice) : Except NotOn (Desk × List DeskNotice) :=
  if s.timed.world.tasks.has turn.task then .error .notOn else .ok came

section

variable (D : DeskRuntime)

/-- What the queue and the gateway under it do, as the desk hears it. -/
def Desk.ticks (s : Desk) (tick : Tick Document) : Except NotOn (Desk × List DeskNotice) :=
  (s.timed.step D.runtime tick).map fun (timed, out) => ({ s with timed := timed }, out.map .heard)

/-- One step of the desk. An identifier is minted once. -/
def Desk.step (s : Desk) : DeskAction → Except NotOn (Desk × List DeskNotice)
  | .gateway action => if action.own then s.ticks D (.act action) else .error .notOn
  | .fire n turn => s.ticks D (.fire n turn.task turn.now turn.fresh turn.cut)
  | .returns n => s.ticks D (.returns n)
  | .handOver merchantId envelopeId token document turn =>
    if s.minted.has token then .error .notOn
    else s.taking turn (s.handOver D merchantId envelopeId token document turn)
  | .deliverOrder k merchantId orderId delivery =>
    if s.deliveries.has k then .error .notOn
    else .ok (s.deliverOrder k merchantId orderId delivery .call)
  | .weighGoods k =>
    match s.deliveries.get k with
    | some ⟨m, o, d, r, .read itemId state⟩ =>
      .ok (s.weighGoods D k ⟨m, o, d, r, .read itemId state⟩ itemId state)
    | _ => .error .notOn
  | .handIn k turn =>
    match s.deliveries.get k with
    | some ⟨m, o, d, r, .weighed stored⟩ => s.taking turn (s.handIn D k ⟨m, o, d, r, .weighed stored⟩ turn)
    | some ⟨m, o, d, r, .repeated⟩ => s.taking turn (s.handIn D k ⟨m, o, d, r, .repeated⟩ turn)
    | _ => .error .notOn
  | .refuseOrder merchantId orderId code message turn =>
    s.taking turn (s.refuseOrder D merchantId orderId code message .call turn)
  | .acceptOrder merchantId orderId turn => s.taking turn (s.acceptOrder D merchantId orderId turn)
  | .answerOrder k merchantId orderId reply turn =>
    if s.deliveries.has k then .error .notOn
    else s.taking turn (s.answerOrder D k merchantId orderId reply turn)
  | .askThePrice orderId card priceId turn =>
    match s.orderById orderId with
    | none => .error .notOn
    | some record =>
      if s.minted.has priceId then .error .notOn
      else s.taking turn (s.askThePrice D record orderId card priceId turn)
  | .waitOver priceId =>
    match s.parked.get priceId with
    | some ⟨orderId, .waiting⟩ => .ok (s.waitOver priceId ⟨orderId, .waiting⟩, [])
    | _ => .error .notOn
  | .wakes priceId turn =>
    match s.parked.get priceId with
    | some ⟨orderId, .answered⟩ => s.taking turn (s.wakes D priceId ⟨orderId, .answered⟩ turn)
    | some ⟨orderId, .silent⟩ => s.taking turn (s.wakes D priceId ⟨orderId, .silent⟩ turn)
    | _ => .error .notOn
  | .answerQuote k merchantId priceId response t =>
    if s.quotes.has k then .error .notOn
    else .ok (s.answerQuote k merchantId priceId response t)
  | .putQuote k turn =>
    match s.quotes.get k with
    | some ⟨m, p, o, r, t, .found⟩ => s.taking turn (s.putQuote D k ⟨m, p, o, r, t, .found⟩ turn)
    | _ => .error .notOn
  | .ackQuote k =>
    match s.quotes.get k with
    | some ⟨m, p, o, r, t, .put used⟩ => .ok (s.ackQuote k ⟨m, p, o, r, t, .put used⟩ used)
    | _ => .error .notOn
  | .dropQuote k => .ok ({ s with quotes := s.quotes.delete k }, [])
  | .publishCard merchantId card t fresh =>
    .ok ({ s with catalog := s.catalog.publishCard merchantId card t fresh }, [])
  | .setCardPaused merchantId itemId paused => .ok (s.setCardPaused merchantId itemId paused)
  | .addKey key =>
    match s.catalog.addKey key with
    | .error words => .ok (s, [.heard (.threw words)])
    | .ok catalog => .ok ({ s with catalog := catalog }, [])
  | .disableKeyOf merchantId keyId t => .ok (s.disableKeyOf merchantId keyId t)
  | .restart => .ok (s.restart, [])

def deskMachine : Reactor Desk DeskAction DeskNotice NotOn := ⟨Desk.step D⟩

def deskRun (actions : List DeskAction) : Desk := (deskMachine D).run .empty actions

def deskLog (actions : List DeskAction) : List (Happening DeskAction DeskNotice) :=
  (deskMachine D).log .empty actions

end

end Coinslot
