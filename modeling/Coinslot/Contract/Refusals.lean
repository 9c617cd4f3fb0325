import Coinslot.Contract.Documents
import Coinslot.Gateway.World
import Coinslot.Lib.JsonText

/-!
# A refusal on its way

The gateway says no in one shape (`refusal` in `apps/gateway/src/http/server.ts`), and the merchant's
package reads it back (`callRoute` in `packages/sdk/src/transport.ts`): a body that is not the route's
document is asked whether it is the refusal every route says no in. What arrives as JSON is taken as the
value it was sent as.

The sentence is the gateway's own, save where the payment layer would not vouch for a payment: there it is
whatever the layer said, or the reason an exception gave. The schema of a refusal takes no sentence that is
blank, and nothing on the way makes sure that there is one.
-/

namespace Coinslot.Contract

open Dict

/-! ## How the gateway says no -/

/-- Every code the gateway refuses a call with (`ERROR_CODES`). -/
inductive ErrorCode where
  | bodyTooLarge
  | bodyUndecodable
  | callRefused
  | charsetUnsupported
  | encodingUnsupported
  | gatewayFailed
  | keyMadeForACabinet
  | keyOpenedThisCall
  | malformedBody
  | malformedQuery
  | merchantDeparted
  | noSuchItem
  | noSuchKey
  | noSuchOrder
  | noSuchRoute
  | notACabinetKey
  | notAuthorised
  | notInvited
  | notSelling
  | notThisPurchase
  | orderClosedBeforeItWasPriced
  | orderNotPricedYet
  | paramsDoNotFit
  | paymentAlreadySpent
  | paymentNotTaken
  | paymentNotVerified
  deriving DecidableEq, Repr

/-- The code as it is written. -/
def ErrorCode.word : ErrorCode → String
  | .bodyTooLarge => "body_too_large"
  | .bodyUndecodable => "body_undecodable"
  | .callRefused => "call_refused"
  | .charsetUnsupported => "charset_unsupported"
  | .encodingUnsupported => "encoding_unsupported"
  | .gatewayFailed => "gateway_failed"
  | .keyMadeForACabinet => "key_made_for_a_cabinet"
  | .keyOpenedThisCall => "key_opened_this_call"
  | .malformedBody => "malformed_body"
  | .malformedQuery => "malformed_query"
  | .merchantDeparted => "merchant_departed"
  | .noSuchItem => "no_such_item"
  | .noSuchKey => "no_such_key"
  | .noSuchOrder => "no_such_order"
  | .noSuchRoute => "no_such_route"
  | .notACabinetKey => "not_a_cabinet_key"
  | .notAuthorised => "not_authorised"
  | .notInvited => "not_invited"
  | .notSelling => "not_selling"
  | .notThisPurchase => "not_this_purchase"
  | .orderClosedBeforeItWasPriced => "order_closed_before_it_was_priced"
  | .orderNotPricedYet => "order_not_priced_yet"
  | .paramsDoNotFit => "params_do_not_fit"
  | .paymentAlreadySpent => "payment_already_spent"
  | .paymentNotTaken => "payment_not_taken"
  | .paymentNotVerified => "payment_not_verified"

/-- Whether the same call could succeed if it were made again, where the refusal does not say
(`RETRYABLE`). -/
def ErrorCode.retryable : ErrorCode → Bool
  | .gatewayFailed | .orderNotPricedYet => true
  | _ => false

/-- What a refusal carries beside its code and its sentence. -/
structure RefusalDetail where
  retryable : Option Bool := none
  rest : Document := .empty

/-- How the gateway says no, and the only way it does. The detail cannot write over the sentence. -/
def refusal (code : ErrorCode) (message : String) (detail : RefusalDetail := {}) : JsonValue :=
  let error := ((detail.rest.set "code" (.string code.word)).set "message" (.string message)).set
    "retryable" (.bool (detail.retryable.getD code.retryable))
  .object [("error", .object error.entries)]

/-- How a payment that is not taken is answered, with its status (`answerPurchase`). -/
def answerPurchase : PurchaseAnswer → Nat × JsonValue
  | .noSuchItem => (404, refusal .noSuchItem "there is no such product")
  | .paymentAlreadySpent heldBy collectable =>
    (409, refusal .paymentAlreadySpent
      (if collectable then
        s!"this payment was already presented for order {heldBy}, which is still open; " ++
          "one payment buys one order"
      else
        s!"this payment was already presented for order {heldBy}, which is over; " ++
          "one payment buys one order, so this one needs a fresh payment"))
  | .notThisPurchase => (409, refusal .notThisPurchase "this order already belongs to another payment")
  | .paymentNotVerified why retryable => (409, refusal .paymentNotVerified why { retryable := some retryable })
  | .paymentNotTaken why retryable => (409, refusal .paymentNotTaken why { retryable := some retryable })

/-! ## What the payment layer said -/

/-- What the payment layer answers a verification with. -/
structure VerifyResponse where
  isValid : Bool
  payer : Option String := none
  invalidReason : Option String := none
  invalidMessage : Option String := none

/-- Why a payment is not vouched for, in the layer's own words where it has any. -/
def VerifyResponse.said (answered : VerifyResponse) : String :=
  (answered.invalidMessage.or answered.invalidReason).getD "no reason was given"

def includes (text part : String) : Bool := decide (part.toList <:+: text.toList)

/-- The closest of the machine's three reasons to what the layer said (`shapeOf`). -/
def shapeOf (toLowerCase : String → String) (reason : Option String) : PaymentVerificationFailure :=
  let said := toLowerCase (reason.getD "")
  if includes said "funds" || includes said "balance" || includes said "revert" then .insufficientFunds
  else if includes said "authorization_value" || includes said "amount" || includes said "expired" then
    .priceStale
  else .signature

/-- What the gateway makes of an answer of the payment layer (`verify`). -/
def verdictOn (toLowerCase : String → String) (answered : VerifyResponse) : VerifyOutcome :=
  if answered.isValid then .verified answered.payer
  else .notVerified (shapeOf toLowerCase answered.invalidReason) answered.said

/-! ## How the package reads it -/

/-- What is known about whether the gateway got the call (`REACH`). -/
inductive Reach where
  | notReceived
  | answered
  | unknown
  deriving DecidableEq, Repr

/-- The gateway's own refusal, as the package reports it. -/
structure GatewayRefusal where
  code : String
  message : String
  retryable : Bool
  deriving DecidableEq, Repr

/-- A call that did not produce the document its route promises (`TransportFailure`). -/
structure TransportFailure where
  route : RouteName
  reason : String
  reach : Reach
  body : Option JsonValue := none
  refusal : Option GatewayRefusal := none

/-- What a call comes to. -/
inductive Answer where
  | document (body : JsonValue)
  | failed (failure : TransportFailure)

/-- What a call is met with: there was no answer, the answer broke off, or it arrived whole, as JSON or
not. -/
inductive Exchange where
  | unreached (cause : String) (reach : Reach)
  | brokeOff (status : Nat) (cause : String)
  | arrived (status : Nat) (text : String) (body : Option JsonValue)

/-- The first code units of a text as JSON quotes them. Where a pair of units is cut through, the first of
them is escaped. -/
def quotedUpTo : Nat → List Char → List Char
  | 0, _ | _, [] => []
  | n + 1, c :: rest =>
    if c.toNat < 0x10000 then JsonText.escaped c ++ quotedUpTo n rest
    else
      match n with
      | 0 => "\\u".toList ++ Nat.toDigits 16 (0xd800 + (c.toNat - 0x10000) / 0x400)
      | m + 1 => c :: quotedUpTo m rest

def unitsOf (text : String) : Nat := (text.toList.map fun c => if c.toNat < 0x10000 then 1 else 2).sum

/-- How much of an answer that could not be read is quoted back (`quote`). -/
def quote (text : String) : String :=
  if unitsOf text ≤ 200 then String.ofList (JsonText.jsonQuoted text)
  else
    String.ofList ('"' :: (quotedUpTo 200 text.toList ++ ['"'])) ++
      s!" and {unitsOf text - 200} more characters, not shown"

/-- The three things a refusal always says, out of one. -/
def readRefusal (body : JsonValue) : Option GatewayRefusal :=
  match body with
  | .object entries =>
    match Dict.find "error" entries with
    | some (.object error) =>
      match Dict.find "code" error, Dict.find "message" error, Dict.find "retryable" error with
      | some (.string code), some (.string message), some (.bool retryable) => some ⟨code, message, retryable⟩
      | _, _, _ => none
    | _ => none
  | _ => none

/-- One call, answered with the route's document or with a sentence about why there is none. The name is
the route's, and the address the one it was called at. -/
def callRoute (nested : Nested) (route : RouteName) (name address : String) (exchange : Exchange) : Answer :=
  match exchange with
  | .unreached cause reach =>
    .failed ⟨route, s!"{name} at {address} could not be reached: {cause}", reach, none, none⟩
  | .brokeOff status cause =>
    .failed ⟨route, s!"{name} at {address} began answering {status} and the answer could not be " ++
      s!"read to the end: {cause}", .unknown, none, none⟩
  | .arrived status text none =>
    .failed ⟨route, s!"{name} at {address} answered {status} with something that is not JSON: " ++
      quote text, .answered, none, none⟩
  | .arrived status text (some body) =>
    if route.accepts nested body then .document body
    else
      match if isErrorEnvelope body then readRefusal body else none with
      | some refused =>
        .failed ⟨route, s!"{name} at {address} was refused {status}: {refused.code} — " ++
          refused.message, .answered, some body, some refused⟩
      | none =>
        .failed ⟨route, s!"{name} at {address} answered {status} with something that is not the " ++
          "document it promises: " ++ quote text, .answered, some body, none⟩

/-! ## The refusal arrives -/

/-- A refusal is readable: it is one by the contract's schema, and the package reports its code, its
sentence and whether the call is worth making again, for every route and status. -/
def Readable (nested : Nested) (code : ErrorCode) (message : String) (detail : RefusalDetail) : Prop :=
  isErrorEnvelope (refusal code message detail) = true ∧
    ∀ route name address status text, ∃ reason,
      callRoute nested route name address (.arrived status text (some (refusal code message detail))) =
        .failed ⟨route, reason, .answered, some (refusal code message detail),
          some ⟨code.word, message, detail.retryable.getD code.retryable⟩⟩

section

variable (code : ErrorCode)

theorem refusal_says (message : String) (detail : RefusalDetail) :
    ∃ error : Document, refusal code message detail = .object [("error", .object error.entries)] ∧
      Dict.find "code" error.entries = some (.string code.word) ∧
      Dict.find "message" error.entries = some (.string message) ∧ Dict.find "retryable" error.entries =
        some (.bool (detail.retryable.getD code.retryable)) := by
  refine ⟨_, rfl, ?_, ?_, ?_⟩
  · show Dict.get _ _ = _
    rw [get_set_ne _ _ (by decide), get_set_ne _ _ (by decide), get_set_self]
  · show Dict.get _ _ = _
    rw [get_set_ne _ _ (by decide), get_set_self]
  · show Dict.get _ _ = _
    rw [get_set_self]

theorem ErrorCode.word_carriesSomething : carriesSomething code.word = true := by cases code <;> decide

theorem isErrorEnvelope_refusal (message : String) (detail : RefusalDetail) :
    isErrorEnvelope (refusal code message detail) = carriesSomething message := by
  obtain ⟨error, hrefusal, hcode, hmessage, hretryable⟩ := refusal_says code message detail
  rw [hrefusal]
  simp [isErrorEnvelope, strictObject, looseObject, errorShape, Field.fits, Dict.find, hcode, hmessage,
    hretryable, carriesWords, aBoolean, code.word_carriesSomething]

theorem readRefusal_refusal (message : String) (detail : RefusalDetail) : readRefusal (refusal code message detail) =
      some ⟨code.word, message, detail.retryable.getD code.retryable⟩ := by
  obtain ⟨error, hrefusal, hcode, hmessage, hretryable⟩ := refusal_says code message detail
  rw [hrefusal]
  simp [readRefusal, Dict.find, hcode, hmessage, hretryable]

end

/-- **When a refusal can be read.** It can exactly where its sentence carries anything but blanks, whatever
its code and its detail; and no body is ever both a refusal and the document of a route. -/
theorem refusal_readable_iff (nested : Nested) (code : ErrorCode) (message : String)
    (detail : RefusalDetail) :
    (Readable nested code message detail ↔ carriesSomething message = true) ∧
      ∀ route body, ¬ (RouteName.accepts nested route body = true ∧ isErrorEnvelope body = true) := by
  refine ⟨⟨fun h => ?_, fun h => ?_⟩, answers_disjoint nested⟩
  · rw [← isErrorEnvelope_refusal code message detail]
    exact h.1
  · have henvelope := (isErrorEnvelope_refusal code message detail).trans h
    refine ⟨henvelope, fun route name address status text => ?_⟩
    have hno : ¬ RouteName.accepts nested route (refusal code message detail) = true :=
      fun hyes => answers_disjoint nested route _ ⟨hyes, henvelope⟩
    unfold callRoute
    dsimp only
    rw [if_neg hno, if_pos henvelope, readRefusal_refusal]
    exact ⟨_, rfl⟩

/-- The payment layer refuses a payment and gives an empty sentence for it. -/
def wordlessRefusal : VerifyResponse := { isValid := false, invalidMessage := some "" }

/-- What the gateway sends on is no refusal by the contract, and the package cannot tell what it says. -/
theorem wordless_refusal_unreadable :
    ¬ ∀ (nested : Nested) (answered : VerifyResponse) (reason : PaymentVerificationFailure)
      (why : String), verdictOn (fun text => text) answered = .notVerified reason why →
      (answerPurchase (.paymentNotVerified why false)).2 =
        refusal .paymentNotVerified why { retryable := some false } →
      Readable nested .paymentNotVerified why { retryable := some false } := by
  intro h
  have hread := (h (fun _ _ => true) wordlessRefusal _ _ rfl rfl).1
  exact absurd hread (by decide)

end Coinslot.Contract
