import Coinslot.Gateway.Deliveries

/-!
# What a call that fails leaves behind

A merchant can be told no in three ways. His goods do not fit the card, or the machine refuses the event:
then nothing is written. Or the machine takes the event and says no to the merchant (`saysNo`): then the
order stands where it stood, and the facts that came with the call are written down all the same. One of
them is that the hand-over the order waits on is answered, so the record is what it was where the order
waits on none (`refused_calls_stand`), and an order that does is no longer waited on: the reminder left
for its hand-over finds that it moved on.
-/

namespace Coinslot

open List

/-! ## Where the machine says no -/

/-- The state the order is in has a no for what a merchant calls with. -/
def hasNoFor (order : Order) (event : StateEvent) : Bool :=
  match event with
  | .deliverCalled _ =>
    match order.state with
    | .paid | .dispatched => order.mode.settle = .afterFulfillment
    | .refunded | .failed | .expired | .rejected | .declined | .cancelled => true
    | _ => false
  | .refuseCalled .. =>
    match order.state with
    | .paid | .dispatched => order.mode.settle = .afterFulfillment
    | .fulfilled | .delivered | .deliveredUnpaid | .refunded | .failed | .expired | .rejected
    | .declined | .cancelled => true
    | _ => false
  | .handlerDelivered _ => order.state = .refunded
  | _ => false

/-- The machine takes what a merchant calls with, and says no to him. -/
def saysNo (order : Order) (event : StateEvent) : Bool :=
  (order.payment ≠ .settling || allowedWhileSettling order event) && hasNoFor order event

/-- What a merchant calls with on one of his orders. -/
inductive MerchantWord : StateEvent → Prop
  | delivered (route : AnswerRoute) (t : Int) : MerchantWord (Desk.delivered route t)
  | refused (route : AnswerRoute) (t : Int) (code message : String) :
      MerchantWord (Desk.refused route t code message)
  | accepted (t : Int) : MerchantWord (.handlerAccepted t)

/-- What the machine makes of a merchant's word, with the answer it has for him. -/
inductive Said (order : Order) (event : StateEvent) : TransitionResult → Prop
  | refuses {rejection : TransitionRejection} : saysNo order event = false →
      Said order event (.error rejection)
  | no (error : MerchantAnswerError) : saysNo order event = true →
      Said order event (.ok (order, [.answerMerchant (.failure error false)]))
  | yes {order' : Order} {effects : List Effect} : saysNo order event = false →
      turnedAway effects = false → Said order event (.ok (order', effects))

section
variable {o : Order} {e : StateEvent}

section

variable (h : saysNo o e = false)
include h

theorem resolveFulfillmentFailure_said {was : Order} {closure : Closure} :
    Said o e (resolveFulfillmentFailure was closure) := by
  unfold resolveFulfillmentFailure
  split
  · exact .yes h rfl
  · exact .yes h rfl

theorem deliverGoods_said {was : Order} {t : Int} {extra : List Effect}
    (hx : turnedAway extra = false) : Said o e (deliverGoods was t extra) := by
  unfold deliverGoods
  split
  · exact .yes h hx
  · exact .yes h hx

theorem refuseCalled_said {was : Order} {t : Int} {code message : String} (hm : was.mode.settle = .onPurchase) :
    Said o e (fromDispatched was (.refuseCalled t code message)) := by
  simp only [fromDispatched, hm]
  unfold resolveFulfillmentFailure
  split
  · exact .yes h rfl
  · exact .yes h rfl

end

/-- The handler of a state, on a merchant's word. -/
theorem fromState_said (hw : MerchantWord e) (hgate : saysNo o e = hasNoFor o e) : Said o e (fromState o e) := by
  cases hw with
  | delivered route t =>
    cases route with
    | handler =>
      simp only [Desk.delivered] at hgate ⊢
      cases hs : o.state <;> simp only [fromState, hs] <;>
        simp only [hasNoFor, hs, reduceCtorEq, decide_false, decide_true] at hgate
      case created | quoted | confirmed | failed | rejected | declined | cancelled
        | awaitingConfirmation => exact .refuses hgate
      case paid | dispatched => exact deliverGoods_said hgate rfl
      case fulfilled | delivered | deliveredUnpaid | refundDue => exact .yes hgate rfl
      case refunded => exact .no _ hgate
      case expired =>
        simp only [fromExpired]
        split
        · exact .refuses hgate
        · split <;> exact .yes hgate rfl
    | call =>
      cases hs : o.state <;> simp only [fromState, hs] <;> simp only [hasNoFor, hs] at hgate
      case created | quoted | confirmed | awaitingConfirmation => exact .refuses hgate
      case paid =>
        simp only [fromPaid]
        cases hm : o.mode.settle <;>
          simp only [hm, reduceCtorEq, decide_false, decide_true] at hgate ⊢
        · simp only [fromDispatched, hm]
          exact deliverGoods_said hgate rfl
        · exact .no _ hgate
      case dispatched =>
        simp only [fromDispatched]
        cases hm : o.mode.settle <;>
          simp only [hm, reduceCtorEq, decide_false, decide_true] at hgate ⊢
        · exact deliverGoods_said hgate rfl
        · exact .no _ hgate
      case fulfilled | delivered | deliveredUnpaid | refundDue => exact .yes hgate rfl
      case refunded | failed | expired | rejected | declined | cancelled => exact .no _ hgate
  | refused route t code message =>
    cases route with
    | handler =>
      cases hs : o.state <;> simp only [fromState, hs] <;> simp only [hasNoFor] at hgate
      case awaitingConfirmation | confirmed | refundDue => exact .yes hgate rfl
      case paid =>
        have hsaid : Said o (.handlerRefused t code message)
            (resolveFulfillmentFailure (handedOver o) (.merchantRefused code message)) :=
          resolveFulfillmentFailure_said hgate
        exact hsaid
      case dispatched => exact resolveFulfillmentFailure_said hgate
      all_goals exact .refuses hgate
    | call =>
      cases hs : o.state <;> simp only [fromState, hs] <;> simp only [hasNoFor, hs] at hgate
      case created | quoted => exact .refuses hgate
      case awaitingConfirmation | confirmed | refundDue => exact .yes hgate rfl
      case paid =>
        simp only [fromPaid]
        cases hm : o.mode.settle <;>
          simp only [hm, reduceCtorEq, decide_false, decide_true] at hgate ⊢
        · exact refuseCalled_said hgate hm
        · exact .no _ hgate
      case dispatched =>
        cases hm : o.mode.settle <;>
          simp only [hm, reduceCtorEq, decide_false, decide_true] at hgate
        · exact refuseCalled_said hgate hm
        · simp only [fromDispatched, hm]
          exact .no _ hgate
      all_goals exact .no _ hgate
  | accepted t =>
    cases hs : o.state <;> simp only [fromState, hs] <;> simp only [hasNoFor] at hgate
    case awaitingConfirmation | paid | dispatched | delivered | refundDue => exact .yes hgate rfl
    all_goals exact .refuses hgate

/-- **The machine's answers.** A merchant's word is refused, or taken with a no and nothing moved, or
taken without one. -/
theorem transition_said (hw : MerchantWord e) : Said o e (transition o (.state e)) := by
  unfold transition
  dsimp only
  split
  · next hsettling =>
    refine .refuses ?_
    unfold saysNo
    simp [hsettling.1, hsettling.2]
  · next hopen =>
    refine fromState_said hw ?_
    unfold saysNo
    by_cases hp : o.payment = .settling
    · have hallowed : allowedWhileSettling o e = true := by
        by_contra hn
        exact hopen ⟨hp, hn⟩
      rw [hallowed, Bool.or_true, Bool.true_and]
    · simp [hp]

end

/-! ## The calls that fail -/

/-- The merchant is told that his call on an order failed. -/
def DeskNotice.FailsOn (id : String) : DeskNotice → Prop
  | .answeredCall _ orderId (some (.failure _)) => orderId = id
  | .answeredAcceptance _ orderId (some (.failure _)) => orderId = id
  | _ => False

/-- What a merchant's call puts to the machine, and about which order, where it comes to that. -/
def DeskAction.word (s : Desk) : DeskAction → Option (String × StateEvent)
  | .handIn k turn => (s.deliveries.get k).map fun call => (call.orderId, Desk.delivered call.route turn.at)
  | .refuseOrder _ orderId code message turn => some (orderId, Desk.refused .call turn.at code message)
  | .acceptOrder _ orderId turn => some (orderId, .handlerAccepted turn.at)
  | .answerOrder _ _ orderId (.refused code message) turn =>
    some (orderId, Desk.refused .handler turn.at code message)
  | .answerOrder _ _ orderId .accepted turn => some (orderId, .handlerAccepted turn.at)
  | _ => none

section
variable {D : DeskRuntime} {s s' : Desk} {out : List DeskNotice} {action : DeskAction} {id : String}
  {notice : DeskNotice}

theorem not_failsOn_heard {notices : List (Notice Document)}
    (h : notice ∈ notices.map DeskNotice.heard) : ¬ notice.FailsOn id := by
  obtain ⟨n, -, rfl⟩ := mem_map.1 h
  exact not_false

theorem not_failsOn_append {out₁ out₂ : List DeskNotice}
    (h₁ : ∀ notice ∈ out₁, ¬ notice.FailsOn id) (h₂ : ∀ notice ∈ out₂, ¬ notice.FailsOn id) :
    ∀ notice ∈ out₁ ++ out₂, ¬ notice.FailsOn id :=
  forall_mem_append.2 ⟨h₁, h₂⟩

/-- How a call came to be answered with a failure: its goods did not fit, or the machine had its say. -/
inductive Desk.Fails (D : DeskRuntime) (s s' : Desk) (id : String) : DeskAction → Prop
  | misfit {action : DeskAction} : s'.orders = s.orders → action.word s = none →
      Fails D s s' id action
  | said {action : DeskAction} {merchantId : String} {event : StateEvent}
      {delivery : Option Document} {turn : Turn} {landed : MerchantAnswerResult}
      {error : CallError} : action.word s = some (id, event) → MerchantWord event → turn.cut = none →
      s'.orders = (s.timed.world.applyAlone D.runtime turn.task
        (Desk.merchantCall merchantId id event delivery) turn.now turn.fresh none).1.store.orders →
      answerFor (s.timed.world.applied D.runtime (Desk.merchantCall merchantId id event delivery)
        turn.now turn.fresh) landed = .ok (some (.failure error)) → Fails D s s' id action

variable {merchantId : String} {delivery : Option Document} {effects : List Effect} {error : MerchantAnswerError}

theorem Desk.answering_fails {orderId : String} {event : StateEvent} {turn : Turn} {landed : MerchantAnswerResult}
    {shape : Option OrderCallResponse → DeskNotice} (hworld : s'.timed.world = s.timed.world)
    (hword : action.word s = some (orderId, event)) (hw : MerchantWord event)
    (hshape : ∀ response, (shape response).FailsOn id → orderId = id ∧ ∃ error, response = some (.failure error))
    (hn : notice ∈ (Desk.answering (s'.feed D (Desk.merchantCall merchantId orderId event delivery) turn) landed
      shape).2) (hf : notice.FailsOn id) : Desk.Fails D s (Desk.answering
      (s'.feed D (Desk.merchantCall merchantId orderId event delivery) turn) landed shape).1 id action := by
  have hheard : ∀ n ∈ (s'.feed D (Desk.merchantCall merchantId orderId event delivery) turn).2.1,
      ¬ n.FailsOn id := fun n hn => not_failsOn_heard hn
  rw [Desk.answering_fst]
  unfold Desk.answering at hn
  split at hn
  · exact absurd hf (hheard _ hn)
  · next applied happlied =>
    split at hn
    · refine absurd hf (not_failsOn_append hheard ?_ _ hn)
      intro n hin
      rw [mem_singleton.1 hin]
      exact not_false
    · next response hanswer =>
      rcases mem_append.1 hn with hn | hn
      · exact absurd hf (hheard _ hn)
      · rw [mem_singleton.1 hn] at hf
        obtain ⟨rfl, error, rfl⟩ := hshape _ hf
        have hfed : (if turn.cut.isSome then none else some (s'.timed.world.applied D.runtime
            (Desk.merchantCall merchantId orderId event delivery) turn.now turn.fresh)) =
            some applied := happlied
        cases hcut : turn.cut with
        | some reminders => rw [hcut] at hfed; cases hfed
        | none =>
          rw [hcut] at hfed
          cases hfed
          refine .said hword hw hcut ?_ (hworld ▸ hanswer)
          show (s'.timed.world.applyAlone D.runtime turn.task _ turn.now turn.fresh turn.cut).1.store.orders = _
          rw [hcut, hworld]

/-- **Where a failure comes from.** A step that tells a merchant his call failed found that his goods do
not fit, or heard it of the machine. -/
theorem Desk.Performs.fails {came : Desk × List DeskNotice} (h : s.Performs D action came)
    (hn : notice ∈ came.2) (hf : notice.FailsOn id) : Desk.Fails D s came.1 id action := by
  have silent {goal : Prop} (hout : ∀ n ∈ came.2, ¬ n.FailsOn id) : goal := absurd hf (hout _ hn)
  have lone {n : DeskNotice} (hno : ¬ n.FailsOn id) : ∀ m ∈ [n], ¬ m.FailsOn id := by
    intro m hm
    rw [mem_singleton.1 hm]
    exact hno
  have fed {before : Desk} {call : ApplyCall Document} {turn : Turn} :
      ∀ n ∈ (before.feed D call turn).2.1, ¬ n.FailsOn id :=
    fun n hn => not_failsOn_heard hn
  have none_out : ∀ n ∈ ([] : List DeskNotice), ¬ n.FailsOn id := by
    intro n hn
    cases hn
  have ticked {tick : Tick Document} (ht : s.ticks D tick = .ok came) :
      Desk.Fails D s came.1 id action := by
    obtain ⟨-, notices, hout⟩ := Desk.ticks_elsewhere ht
    exact silent fun n hn => not_failsOn_heard (hout ▸ hn)
  have delivering {k : Nat} {merchantId orderId : String} {delivery : Document}
      {route : AnswerRoute} :
      ∀ n ∈ (s.deliverOrder k merchantId orderId delivery route).2, ¬ n.FailsOn id := by
    unfold Desk.deliverOrder
    split
    · exact lone not_false
    · exact none_out
  have shaped {merchantId orderId : String} (response : Option OrderCallResponse)
      (hfails : (DeskNotice.answeredCall merchantId orderId response).FailsOn id) :
      orderId = id ∧ ∃ error, response = some (.failure error) := by
    match response, hfails with
    | some (.failure error), hid => exact ⟨hid, error, rfl⟩
  have accepted {merchantId orderId : String} (response : Option OrderCallResponse)
      (hfails : (DeskNotice.answeredAcceptance merchantId orderId (response.map acceptResponseOf)).FailsOn id) :
      orderId = id ∧ ∃ error, response = some (.failure error) := by
    match response, hfails with
    | some (.failure error), hid => exact ⟨hid, error, rfl⟩
  cases h with
  | gateway _ ht => exact ticked ht
  | fire ht => exact ticked ht
  | returns ht => exact ticked ht
  | handOver turn _ =>
    refine silent ?_
    unfold Desk.handOver
    dsimp only
    split
    · exact fed
    · exact fed
    · exact fed
    · exact not_failsOn_append fed (lone not_false)
    · split
      · exact not_failsOn_append fed (lone not_false)
      · exact fed
    · exact not_failsOn_append (not_failsOn_append fed fun n hn => not_failsOn_heard hn) (lone not_false)
  | deliverOrder merchantId orderId delivery => exact silent delivering
  | @weighGoods k call itemId state hk hs =>
    unfold Desk.weighGoods at *
    split
    · exact .misfit rfl rfl
    · split <;> exact .misfit rfl rfl
  | @handIn k call turn hk hs =>
    have hworld : ({ s with deliveries := s.deliveries.delete k } : Desk).timed.world = s.timed.world := rfl
    have hword : DeskAction.word s (.handIn k turn) =
        some (call.orderId, Desk.delivered call.route turn.at) := by
      simp [DeskAction.word, hk]
    exact Desk.answering_fails hworld hword (.delivered _ _) shaped hn hf
  | refuseOrder merchantId orderId code message turn =>
    exact Desk.answering_fails rfl rfl (.refused _ _ _ _) shaped hn hf
  | acceptOrder merchantId orderId turn => exact Desk.answering_fails rfl rfl (.accepted _) accepted hn hf
  | answerOrder merchantId orderId reply turn =>
    cases reply with
    | delivered goods => exact silent delivering
    | refused code message => exact Desk.answering_fails rfl rfl (.refused _ _ _ _) shaped hn hf
    | accepted => exact Desk.answering_fails rfl rfl (.accepted _) shaped hn hf
  | askThePrice card turn _ _ =>
    refine silent ?_
    unfold Desk.askThePrice
    split
    · exact lone not_false
    · exact fed
  | wakes turn _ _ =>
    refine silent ?_
    unfold Desk.wakes
    split
    · exact fed
    · exact none_out
  | answerQuote merchantId priceId response t =>
    refine silent ?_
    unfold Desk.answerQuote
    split
    · exact lone not_false
    · split
      · exact lone not_false
      · exact none_out
  | putQuote turn _ _ =>
    refine silent ?_
    unfold Desk.putQuote
    dsimp only
    split <;> exact fed
  | ackQuote _ _ => exact silent (lone not_false)
  | setCardPaused _ _ _ | disableKeyOf _ _ _ => exact silent (lone not_false)
  | addKey key words => exact silent fun n hn => not_failsOn_heard hn
  | waitOver _ | dropQuote _ | publishCard _ _ _ _ | restart => exact silent none_out

theorem answerAmong_mem {merchantAnswer : MerchantAnswer}
    (h : answerAmong (effects.filter carriedOutAfterwards) = some merchantAnswer) :
    .answerMerchant merchantAnswer ∈ effects := by
  have hlast := mem_of_getLast? h
  obtain ⟨effect, hin, heffect⟩ := mem_filterMap.1 hlast
  cases effect <;> cases heffect
  exact (mem_filter.1 hin).1

theorem turnedAway_of_answer {retryable : Bool}
    (h : answerAmong (effects.filter carriedOutAfterwards) = some (.failure error retryable)) :
    turnedAway effects = true := by
  unfold turnedAway
  rw [any_eq_true]
  exact ⟨_, answerAmong_mem h, rfl⟩

/-- What a merchant's call writes where the machine takes it and says no: the end of the hand-over the
order waits on, and nothing else. -/
theorem appliedRecord_no {config : Config} {found : StoredOrder Document} {event : StateEvent} :
    appliedRecord config (Desk.merchantCall merchantId id event delivery) found found.order
        [.answerMerchant (.failure error false)] = { found with openDeliveryId := none } := by
  have hgoods : goodsToKeep found delivery [.answerMerchant (.failure error false)] =
      found.delivery := by
    cases delivery with
    | none => exact goodsToKeep_none
    | some goods =>
      cases hd : found.delivery with
      | none => exact goodsToKeep_first hd
      | some kept => exact goodsToKeep_kept hd _
  unfold appliedRecord withFacts
  simp only [Desk.merchantCall]
  rw [hgoods]
  rfl

/-- What a merchant's call puts to the machine in this step, if anything, is about an order that waits on
no hand-over, or is nothing the machine takes with a no for him. -/
def DeskAction.Stands (s : Desk) (action : DeskAction) : Prop :=
  ∀ id event found, action.word s = some (id, event) → s.orderById id = some found →
    found.openDeliveryId = none ∨ saysNo found.order event = false

/-- **The rule of a failed call.** It leaves the order exactly as it was, or it ends the hand-over the
order waits on. -/
theorem Desk.Fails.stands_iff (h : Desk.Fails D s s' id action) {found : StoredOrder Document}
    (hf : s.orderById id = some found) : s'.orderById id = some found ↔ action.Stands s := by
  have unmoved (ho : s'.orders = s.orders) : s'.orderById id = some found := by
    have hget : s'.orderById id = s'.orders.get id := rfl
    rw [hget, ho]
    exact hf
  cases h with
  | misfit ho hword =>
    refine iff_of_true (unmoved ho) fun id event found hevent _ => ?_
    cases hword.symm.trans hevent
  | @said merchantId event delivery turn landed error hword hw hcut ho hanswer =>
    have hserves := s.timed.world.applyAlone_serves D.runtime turn.task
      (Desk.merchantCall merchantId id event delivery) turn.now turn.fresh none
    have hsaid := transition_said (o := found.order) hw
    generalize s.timed.world.applied D.runtime _ turn.now turn.fresh = applied at hserves hanswer
    generalize s.timed.world.applyAlone D.runtime turn.task _ turn.now turn.fresh none = came at hserves ho
    cases hserves with
    | threw _ => cases hanswer
    | noSuchOrder _ => cases hanswer
    | movedOn _ _ => cases hanswer
    | @refused there known rejection hthere _ ht =>
      cases hthere.symm.trans hf
      have ht' : transition found.order (.state event) = .error rejection := ht
      rw [ht'] at hsaid
      cases hsaid with
      | refuses hno =>
        refine iff_of_true (unmoved ho) fun key e record he hrecord => ?_
        cases hword.symm.trans he
        cases hf.symm.trans hrecord
        exact .inr hno
    | @moved there order effects alongside hthere _ _ ht _ =>
      cases hthere.symm.trans hf
      have ht' : transition found.order (.state event) = .ok (order, effects) := ht
      have horders := ho.trans (s.timed.world.store.saveOrder_orders alongside id
        (appliedRecord_merchantId D.runtime.config found order
          (Desk.merchantCall merchantId id event delivery) effects))
      rw [ht'] at hsaid
      have hturned : turnedAway effects = true := by
        cases hamong : answerAmong (effects.filter carriedOutAfterwards) with
        | none => rw [hamong] at hanswer; cases hanswer
        | some merchantAnswer =>
          cases merchantAnswer with
          | success result => rw [hamong] at hanswer; cases hanswer
          | failure error retryable => exact turnedAway_of_answer hamong
      cases hsaid with
      | yes _ hnot => cases hnot.symm.trans hturned
      | no error hsays =>
        have hnow : s'.orderById id = some { found with openDeliveryId := none } := by
          rw [Desk.orderById_set horders, if_pos rfl, appliedRecord_no]
        rw [hnow]
        constructor
        · intro hsame
          have hopen := congrArg StoredOrder.openDeliveryId (Option.some.inj hsame)
          intro key e record he hrecord
          cases hword.symm.trans he
          cases hf.symm.trans hrecord
          exact .inl hopen.symm
        · intro hstands
          rcases hstands id event found hword hf with hopen | hnot
          · rw [← hopen]
          · cases hnot.symm.trans hsays

/-- **What a refused call leaves behind.** A merchant's call on one of his orders that is answered with a
failure leaves the order exactly what it was if and only if the order waits on no hand-over, or the
machine does not take what he called with and say no to him. In a run whose calls are all of this kind,
every call that fails leaves its order as it was. -/
theorem refused_calls_stand (D : DeskRuntime) :
    (∀ (actions : List DeskAction) (action : DeskAction) (s' : Desk) (out : List DeskNotice)
      (notice : DeskNotice) (id : String) (found : StoredOrder Document),
      (deskMachine D).react (deskRun D actions) action = .ok (s', out) → notice ∈ out →
      notice.FailsOn id → (deskRun D actions).orderById id = some found →
      (s'.orderById id = some found ↔ action.Stands (deskRun D actions))) ∧
    ∀ actions : List DeskAction,
      (deskMachine D).Meets (fun s action => action.Stands s) .empty actions →
      ∀ (before after : List DeskAction) (action : DeskAction) (s' : Desk) (out : List DeskNotice)
        (notice : DeskNotice) (id : String) (found : StoredOrder Document),
        actions = before ++ action :: after →
        (deskMachine D).react (deskRun D before) action = .ok (s', out) → notice ∈ out →
        notice.FailsOn id → (deskRun D before).orderById id = some found →
        s'.orderById id = some found := by
  have step (actions : List DeskAction) {action : DeskAction} {s' : Desk} {out : List DeskNotice}
      {notice : DeskNotice} {id : String}
      (hreact : (deskMachine D).react (deskRun D actions) action = .ok (s', out))
      (hn : notice ∈ out) (hfails : notice.FailsOn id) :
      Desk.Fails D (deskRun D actions) s' id action :=
    (Desk.react_performs hreact).fails hn hfails
  refine ⟨fun actions action s' out notice id found hreact hn hfails hf =>
    (step actions hreact hn hfails).stands_iff hf, ?_⟩
  rintro actions hmeets before after action s' out notice id found rfl hreact hn hfails hf
  obtain ⟨-, hhere, -⟩ := (deskMachine D).meets_append.1 hmeets
  exact ((step before hreact hn hfails).stands_iff hf).2 hhere

end

/-- On a refusal of an order whose goods are there already. -/
theorem refused_calls_stand_fulfilled :
    ∃ s' out notice found,
      (deskMachine sampleDesk).react
          (deskRun sampleDesk (sampleDelivery ++ [.handIn 0 (sampleTurn 4 8)]))
          (.refuseOrder "mrc_1" "ord_1" "sold_out" "none left" (sampleTurn 5 9)) = .ok (s', out) ∧
        notice ∈ out ∧ notice.FailsOn "ord_1" ∧
        (s'.orderById "ord_1" = some found ↔
          DeskAction.Stands (deskRun sampleDesk (sampleDelivery ++ [.handIn 0 (sampleTurn 4 8)]))
            (.refuseOrder "mrc_1" "ord_1" "sold_out" "none left" (sampleTurn 5 9))) := by
  obtain ⟨s', out, notice, found, hreact, hn, hfails, hf⟩ : ∃ s' out notice found,
      (deskMachine sampleDesk).react
          (deskRun sampleDesk (sampleDelivery ++ [.handIn 0 (sampleTurn 4 8)]))
          (.refuseOrder "mrc_1" "ord_1" "sold_out" "none left" (sampleTurn 5 9)) = .ok (s', out) ∧
        notice ∈ out ∧ notice.FailsOn "ord_1" ∧
        (deskRun sampleDesk (sampleDelivery ++ [.handIn 0 (sampleTurn 4 8)])).orderById "ord_1" = some found := by
    refine ⟨_, _, _, _, rfl, List.mem_append_right _ (List.mem_singleton.2 rfl), rfl, rfl⟩
  exact ⟨s', out, notice, found, hreact, hn, hfails,
    (refused_calls_stand sampleDesk).1 _ _ _ _ _ _ _ hreact hn hfails hf⟩

/-- An order of a synchronous card that is out with a worker, and waits on his answer. -/
def sampleHandedOver : List DeskAction :=
  samplePurchase .sync ++ [.handOver "mrc_1" "env_1" "dlv_1" sampleDocument (sampleTurn 2 6)]

/-- The merchant refuses it by a call, which its mode does not have: he is told so, and the hand-over is
no longer waited on. -/
theorem refused_call_ends_handover :
    ¬ ∀ (actions : List DeskAction) (action : DeskAction) (s' : Desk) (out : List DeskNotice)
      (notice : DeskNotice) (id : String) (found : StoredOrder Document),
      (deskMachine sampleDesk).react (deskRun sampleDesk actions) action = .ok (s', out) →
      notice ∈ out → notice.FailsOn id → (deskRun sampleDesk actions).orderById id = some found →
      s'.orderById id = some found := by
  intro h
  obtain ⟨found, hf, hopen⟩ : ∃ found,
      (deskRun sampleDesk sampleHandedOver).orderById "ord_1" = some found ∧
        found.openDeliveryId = some "dlv_1" := ⟨_, rfl, rfl⟩
  obtain ⟨s', out, notice, next, hreact, hn, hfails, hnext, hended⟩ :
      ∃ s' out notice next, (deskMachine sampleDesk).react (deskRun sampleDesk sampleHandedOver)
          (.refuseOrder "mrc_1" "ord_1" "sold_out" "none left" (sampleTurn 3 7)) = .ok (s', out) ∧
        notice ∈ out ∧ notice.FailsOn "ord_1" ∧ s'.orderById "ord_1" = some next ∧
        next.openDeliveryId = none := by
    refine ⟨_, _, _, _, rfl, List.mem_append_right _ (List.mem_singleton.2 rfl), rfl, rfl, rfl⟩
  have hsame := h _ _ _ _ _ _ _ hreact hn hfails hf
  cases hnext.symm.trans hsame
  cases hopen.symm.trans hended

end Coinslot
