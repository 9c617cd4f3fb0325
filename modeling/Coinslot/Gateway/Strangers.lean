import Coinslot.Gateway.Served

/-!
# Merchants and other merchants' orders

A call of a merchant names an order, a price question, a card or a key. Where what it names is somebody
else's, the call comes to what it comes to where there is nothing of that name: the same answer, and the
desk as it was (`strangers_are_nobody`). Each entry point looks up what it is about in its own way, before
a hold or under it, so the statement compares two calls entry point by entry point.
-/

namespace Coinslot

open Desk

/-! ## A merchant's call, and what he reads of it -/

/-- A call of a merchant, but for the identifier it names. -/
inductive MerchantCall where
  | merchantOrder
  | deliverOrder (k : Nat) (delivery : Document)
  | refuseOrder (code message : String) (turn : Turn)
  | acceptOrder (turn : Turn)
  | answerOrder (k : Nat) (reply : Desk.HandlerReply) (turn : Turn)
  | answerQuote (k : Nat) (response : Option Price) (t : Int)
  | setCardPaused (paused : Bool)
  | disableKeyOf (t : Int)

/-- What the merchant reads when his call is answered. -/
inductive Reply where
  | order (record : Option (StoredOrder Document))
  | call (response : Option OrderCallResponse)
  | acceptance (response : Option OrderAcceptResponse)
  | quote (used : Bool)
  | card (card : Option StoredCard)
  | key (answer : DisableAnswer)
  | threw (words : String)

/-- What the merchant reads of what the desk is heard to do. -/
def DeskNotice.reply : DeskNotice → Option Reply
  | .answeredCall _ _ response => some (.call response)
  | .answeredAcceptance _ _ response => some (.acceptance response)
  | .quoteAcked _ _ used => some (.quote used)
  | .showedCard _ _ card => some (.card card)
  | .showedKey _ _ answer => some (.key answer)
  | .heard (.threw words) => some (.threw words)
  | _ => none

def Desk.seen (D : DeskRuntime) (s : Desk) (action : DeskAction) : Except NotOn (Desk × List Reply) :=
  (s.step D action).map fun (after, out) => (after, out.filterMap DeskNotice.reply)

namespace MerchantCall

/-- What a merchant's call with an identifier comes to: the desk after it, and what he reads. -/
def comesTo (D : DeskRuntime) (s : Desk) (merchantId id : String) : MerchantCall → Except NotOn (Desk × List Reply)
  | .merchantOrder => .ok (s, [.order (s.merchantOrder merchantId id)])
  | .deliverOrder k delivery => s.seen D (.deliverOrder k merchantId id delivery)
  | .refuseOrder code message turn => s.seen D (.refuseOrder merchantId id code message turn)
  | .acceptOrder turn => s.seen D (.acceptOrder merchantId id turn)
  | .answerOrder k reply turn => s.seen D (.answerOrder k merchantId id reply turn)
  | .answerQuote k response t => s.seen D (.answerQuote k merchantId id response t)
  | .setCardPaused paused => s.seen D (.setCardPaused merchantId id paused)
  | .disableKeyOf t => s.seen D (.disableKeyOf merchantId id t)

/-- Whose it is, what a call names: an order's, a question's, a card's or a key's merchant. -/
def owner (s : Desk) (id : String) : MerchantCall → Option String
  | .answerQuote .. => (s.questions.get id).map (·.merchantId)
  | .setCardPaused _ => (s.catalog.cards.get id).map (·.merchantId)
  | .disableKeyOf _ => (s.catalog.keys.get id).map (·.merchantId)
  | .merchantOrder | .deliverOrder .. | .refuseOrder .. | .acceptOrder _ | .answerOrder .. =>
    (s.orderById id).map (·.merchantId)

end MerchantCall

/-! ## What is not his is not found -/

section
variable {D : DeskRuntime} {s : Desk} {merchantId id : String}

theorem Desk.merchantOrder_none (h : (s.orderById id).map (·.merchantId) ≠ some merchantId) :
    s.merchantOrder merchantId id = none := by
  unfold Desk.merchantOrder
  cases hf : s.orderById id with
  | none => rfl
  | some found =>
    rw [hf] at h
    exact if_pos fun hm => h (congrArg some hm)

theorem Store.withOrder_notFound {Doc α : Type} {store : Store Doc} {decide : StoredOrder Doc → Decision Doc α}
    (h : (store.orderById id).map (·.merchantId) ≠ some merchantId) :
    store.withOrder id (some merchantId) decide = (store, [], .notFound) := by
  unfold Store.withOrder
  cases hf : store.orderById id with
  | none => rfl
  | some found =>
    rw [hf] at h
    have hscope : (some merchantId).any (· ≠ found.merchantId) = true := by
      have hne : merchantId ≠ found.merchantId := fun hm => h (congrArg some hm.symm)
      simpa using hne
    dsimp only
    rw [if_pos hscope]

/-- Nothing is fed to an order that is not the merchant's, and his call hears that there is no such order
where it hears anything. -/
theorem Desk.feed_notFound {call : ApplyCall Document} (turn : Turn) (hs : call.scope = some merchantId)
    (h : (s.orderById call.orderId).map (·.merchantId) ≠ some merchantId) :
    (s.feed D call turn).1 = s ∧ (s.feed D call turn).2.1.filterMap DeskNotice.reply = [] ∧
      (s.feed D call turn).2.2 = if turn.cut.isSome then none else some .noSuchOrder := by
  have hholds {α : Type} (cut : Option Nat)
      (decide : StoredOrder Document → Decision Document α) :
      s.timed.world.hold cut call.orderId call.scope decide =
        (s.timed.world, [], cut.elim (some .notFound) fun _ => none) := by
    unfold World.hold
    rw [hs, Store.withOrder_notFound h]
    cases cut with
    | none => rfl
    | some reminders => simp [remindings]
  have happly : s.timed.world.applyAlone D.runtime turn.task call turn.now turn.fresh turn.cut =
      (s.timed.world, if turn.cut.isSome then [] else [.applied call none]) := by
    unfold World.applyAlone World.apply
    rw [hholds]
    cases turn.cut <;> rfl
  have happlied : s.timed.world.applied D.runtime call turn.now turn.fresh = .noSuchOrder := by
    unfold World.applied
    rw [hholds]
    rfl
  have hasked : askedBy ([.applied call none] : List (Notice Document)) = [] := rfl
  unfold Desk.feed
  dsimp only
  rw [happly, happlied]
  cases turn.cut with
  | none => exact ⟨by simp [hasked], rfl, rfl⟩
  | some reminders => exact ⟨by simp [askedBy], rfl, rfl⟩

/-- What a merchant's call comes to where what it names is not his: whatever the identifier is, the desk
is as it was, and what he reads does not depend on it. -/
theorem Desk.answering_notFound {call : ApplyCall Document} (turn : Turn)
    {landed : MerchantAnswerResult} {shape : Option OrderCallResponse → DeskNotice}
    (hs : call.scope = some merchantId) (h : (s.orderById call.orderId).map (·.merchantId) ≠ some merchantId) :
    (Desk.answering (s.feed D call turn) landed shape).1 = s ∧
      (Desk.answering (s.feed D call turn) landed shape).2.filterMap DeskNotice.reply =
        if turn.cut.isSome then [] else [shape none].filterMap DeskNotice.reply := by
  obtain ⟨hsame, hout, hcame⟩ := feed_notFound (D := D) turn hs h
  unfold Desk.answering
  rw [hcame]
  cases turn.cut with
  | none => exact ⟨hsame, by simp only [answerFor, Option.isSome_none, Bool.false_eq_true, if_false,
      List.filterMap_append, hout, List.nil_append]⟩
  | some reminders => exact ⟨hsame, hout⟩

/-- A desk that stands, where the call is not refused for a number that is taken. -/
def Desk.stands (s : Desk) (taken : Bool) (read : List Reply) : Except NotOn (Desk × List Reply) :=
  if taken then .error .notOn else .ok (s, read)

theorem Desk.stands_ok {taken : Bool} {read : List Reply} {came : Desk × List Reply}
    (h : s.stands taken read = .ok came) : came.1 = s := by
  unfold stands at h
  split at h <;> cases h
  rfl

theorem Desk.taking_stands {turn : Turn} {came : Desk × List DeskNotice} {read : List Reply}
    (h : came.1 = s ∧ came.2.filterMap DeskNotice.reply = read) :
    (s.taking turn came).map (fun (after, out) => (after, out.filterMap DeskNotice.reply)) =
      s.stands (s.timed.world.tasks.has turn.task) read := by
  unfold taking stands
  split
  · rfl
  · show Except.ok (came.1, came.2.filterMap DeskNotice.reply) = Except.ok (s, read)
    rw [h.1, h.2]

/-- What a merchant reads of a call that finds nothing, unless it is cut off. -/
def Turn.unlessCut (turn : Turn) (reply : Reply) : List Reply := if turn.cut.isSome then [] else [reply]

/-- What a call comes to where what it names is not the merchant's. -/
def MerchantCall.nothing (s : Desk) : MerchantCall → Except NotOn (Desk × List Reply)
  | .merchantOrder => s.stands false [.order none]
  | .deliverOrder k _ => s.stands (s.deliveries.has k) [.call none]
  | .refuseOrder _ _ turn => s.stands (s.timed.world.tasks.has turn.task) (turn.unlessCut (.call none))
  | .acceptOrder turn => s.stands (s.timed.world.tasks.has turn.task) (turn.unlessCut (.acceptance none))
  | .answerOrder k reply turn =>
    s.stands (s.deliveries.has k || s.timed.world.tasks.has turn.task)
      (match reply with
      | .delivered _ => [.call none]
      | .refused .. | .accepted => turn.unlessCut (.call none))
  | .answerQuote k _ _ => s.stands (s.quotes.has k) [.quote false]
  | .setCardPaused _ => s.stands false [.card none]
  | .disableKeyOf _ => s.stands false [.key .noSuchKey]

/-- **The rule of a stranger's call.** Where what it names is not the merchant's, a call comes to
nothing, whatever the identifier is. -/
theorem MerchantCall.comesTo_nothing {call : MerchantCall} (h : call.owner s id ≠ some merchantId) :
    call.comesTo D s merchantId id = call.nothing s := by
  cases call with
  | merchantOrder =>
    simp only [comesTo, nothing, merchantOrder_none h]
    rfl
  | deliverOrder k delivery =>
    simp only [comesTo, nothing, Desk.seen, Desk.step, Desk.deliverOrder, merchantOrder_none h, stands]
    split <;> rfl
  | refuseOrder code message turn => exact taking_stands (answering_notFound turn rfl h)
  | acceptOrder turn => exact taking_stands (answering_notFound turn rfl h)
  | answerOrder k reply turn =>
    cases hk : s.deliveries.has k with
    | true => simp [comesTo, nothing, Desk.seen, Desk.step, hk, Except.map, stands]
    | false =>
      simp only [comesTo, nothing, Desk.seen, Desk.step, hk, Bool.false_or, Bool.false_eq_true, if_false]
      cases reply with
      | delivered goods =>
        refine taking_stands ?_
        simp only [Desk.answerOrder, Desk.deliverOrder, merchantOrder_none h]
        exact ⟨trivial, rfl⟩
      | refused code message | accepted => exact taking_stands (answering_notFound turn rfl h)
  | answerQuote k response t =>
    have hquote : s.answerQuote k merchantId id response t = (s, [.quoteAcked id response false]) := by
      unfold Desk.answerQuote
      cases hq : s.questions.get id with
      | none => rfl
      | some asked =>
        have hne : asked.merchantId ≠ merchantId := by simpa [owner, hq] using h
        dsimp only
        rw [if_pos hne]
    simp only [comesTo, nothing, Desk.seen, Desk.step, hquote, stands]
    split <;> rfl
  | setCardPaused paused =>
    have hcard : s.catalog.setCardPaused merchantId id paused = (s.catalog, none) := by
      unfold Catalog.setCardPaused
      cases hc : s.catalog.cards.get id with
      | none => rfl
      | some found =>
        have hne : found.merchantId ≠ merchantId := by simpa [owner, hc] using h
        dsimp only
        rw [if_pos hne]
    simp only [comesTo, nothing, Desk.seen, Desk.step, Desk.setCardPaused, hcard]
    rfl
  | disableKeyOf t =>
    have hkey : s.catalog.disableKeyOf merchantId id t = (s.catalog, .noSuchKey) := by
      unfold Catalog.disableKeyOf
      cases hk : s.catalog.keys.get id with
      | none => rfl
      | some found =>
        have hne : found.merchantId ≠ merchantId := by simpa [owner, hk] using h
        dsimp only
        rw [if_pos hne]
    simp only [comesTo, nothing, Desk.seen, Desk.step, Desk.disableKeyOf, hkey]
    rfl

theorem MerchantCall.nothing_stands {call : MerchantCall} {came : Desk × List Reply}
    (h : call.nothing s = .ok came) : came.1 = s := by
  cases call <;> exact stands_ok h

end

/-- **Merchants cannot see or touch each other's orders.** A call of one merchant that names what is
another's comes to exactly what it comes to where there is nothing of that name, and leaves the desk as it
was. And in every run, an order is its merchant's ever after. -/
theorem strangers_are_nobody (D : DeskRuntime) :
    (∀ (s : Desk) (call : MerchantCall) (m n id missing : String), m ≠ n →
      call.owner s id = some n → call.owner s missing = none →
      call.comesTo D s m id = call.comesTo D s m missing ∧ ∀ came, call.comesTo D s m id = .ok came → came.1 = s) ∧
    ∀ (actions more : List DeskAction) (id : String) (record : StoredOrder Document),
      (deskRun D actions).orderById id = some record →
      ∃ later, (deskRun D (actions ++ more)).orderById id = some later ∧ later.merchantId = record.merchantId := by
  constructor
  · intro s call m n id missing hmn hid hmissing
    have hstranger : call.owner s id ≠ some m := by
      rw [hid]
      exact fun h => hmn (Option.some.inj h).symm
    have hnobody : call.owner s missing ≠ some m := by
      rw [hmissing]
      exact Option.some_ne_none m |>.symm
    rw [MerchantCall.comesTo_nothing hstranger, MerchantCall.comesTo_nothing hnobody]
    exact ⟨rfl, fun came h => MerchantCall.nothing_stands h⟩
  · intro actions more id record h
    exact deskRun_keeps (fun _ _ hm ht => ht.keeps.1.trans hm) actions more h rfl

/-- On a stranger who refuses an order he was never given. -/
theorem strangers_are_nobody_refusal :
    MerchantCall.comesTo sampleDesk (deskRun sampleDesk sampleDelivery) "mrc_2" "ord_1"
        (.refuseOrder "no" "not selling" (sampleTurn 4 8)) =
      MerchantCall.comesTo sampleDesk (deskRun sampleDesk sampleDelivery) "mrc_2" "ord_9"
        (.refuseOrder "no" "not selling" (sampleTurn 4 8)) :=
  ((strangers_are_nobody sampleDesk).1 (deskRun sampleDesk sampleDelivery)
    (.refuseOrder "no" "not selling" (sampleTurn 4 8)) "mrc_2" "mrc_1" "ord_1" "ord_9" (by decide)
    rfl rfl).1

end Coinslot
