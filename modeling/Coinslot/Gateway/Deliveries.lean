import Coinslot.Gateway.Served

/-!
# The goods on an order

Goods come in beside an event, and a rule outside the machine keeps them (`goodsToKeep`). It agrees with
the machine: an order carries goods where its state, or the hold on what came late, says it has them
(`Order.HasGoods`), in every order of events. Goods that are kept were weighed by the call that brought
them in, because a delivery is never unset: what an order had when a call read it without weighing, it
still has when the call holds it.
-/

namespace Coinslot

open List Option Dict

/-! ## The machine and the goods -/

/-- The order has its goods: the merchant handed them over, or they came late and are held. -/
def Order.HasGoods (order : Order) : Prop :=
  order.state ∈ [.fulfilled, .delivered, .deliveredUnpaid] ∨ order.heldFulfillment = true

/-- Whether the machine turned away what the merchant called with. -/
def turnedAway (effects : List Effect) : Bool :=
  effects.any fun effect =>
    match effect with
    | .answerMerchant (.failure ..) => true
    | _ => false

section
variable {o o' : Order} {e : OrderEvent} {fx : List Effect} {t : Int}

theorem deliverGoods_takes {extra : List Effect} (hx : turnedAway extra = false)
    (h : deliverGoods o t extra = .ok (o', fx)) : turnedAway fx = false ∧ o'.HasGoods := by
  unfold deliverGoods at h
  split at h
  · obtain ⟨rfl, rfl⟩ := ok_eq_ok.1 h
    exact ⟨hx, .inl (by simp [settlingOrder])⟩
  · obtain ⟨rfl, rfl⟩ := ok_eq_ok.1 h
    exact ⟨hx, .inl (by simp [deliveredOrder])⟩

/-- **The machine decides.** A delivery that is accepted is turned away and moves nothing, or the order
has its goods after it. -/
theorem transition_delivers (hd : Delivers e) (h : transition o e = .ok (o', fx)) :
    (turnedAway fx = true ∧ o' = o) ∨ (turnedAway fx = false ∧ o'.HasGoods) := by
  have away {m : MerchantAnswerError} (h : answer o (.failure m false) = .ok (o', fx)) :
      (turnedAway fx = true ∧ o' = o) ∨ (turnedAway fx = false ∧ o'.HasGoods) := by
    obtain ⟨rfl, rfl⟩ := answer_eq_ok.1 h
    exact .inl ⟨rfl, rfl⟩
  have repeated (hg : o.HasGoods) {m : MerchantAnswerResult}
      (h : answer o (.success m) = .ok (o', fx)) :
      (turnedAway fx = true ∧ o' = o) ∨ (turnedAway fx = false ∧ o'.HasGoods) := by
    obtain ⟨rfl, rfl⟩ := answer_eq_ok.1 h
    exact .inr ⟨rfl, hg⟩
  cases hd with
  | handler t =>
    unfold transition at h
    dsimp only at h
    split at h
    · exact absurd h reject_ne_ok
    · cases hs : o.state <;> simp only [fromState, hs] at h
      case created | quoted | confirmed | failed | rejected | declined | cancelled =>
        exact absurd h notApplicable_ne_ok
      case awaitingConfirmation => exact absurd h reject_ne_ok
      case paid => exact .inr (deliverGoods_takes rfl h)
      case dispatched => exact .inr (deliverGoods_takes rfl h)
      case fulfilled | delivered | deliveredUnpaid => exact repeated (.inl (by simp [hs])) h
      case refundDue =>
        obtain ⟨rfl, rfl⟩ := ok_eq_ok.1 h
        exact .inr ⟨rfl, .inl (by simp [deliveredOrder])⟩
      case refunded => exact away h
      case expired =>
        simp only [fromExpired] at h
        split at h
        · exact absurd h notApplicable_ne_ok
        · split at h
          · next hheld => exact repeated (.inr hheld) h
          · obtain ⟨rfl, rfl⟩ := ok_eq_ok.1 h
            exact .inr ⟨rfl, .inr rfl⟩
  | call t =>
    unfold transition at h
    dsimp only at h
    split at h
    · exact absurd h reject_ne_ok
    · cases hs : o.state <;> simp only [fromState, hs] at h
      case created | quoted | confirmed => exact absurd h notApplicable_ne_ok
      case awaitingConfirmation => exact absurd h reject_ne_ok
      case paid =>
        simp only [fromPaid] at h
        cases hm : o.mode.settle <;> simp only [hm] at h
        · simp only [fromDispatched, hm] at h
          exact .inr (deliverGoods_takes rfl h)
        · exact away h
      case dispatched =>
        simp only [fromDispatched] at h
        cases hm : o.mode.settle <;> simp only [hm] at h
        · exact .inr (deliverGoods_takes rfl h)
        · exact away h
      case fulfilled | delivered | deliveredUnpaid => exact repeated (.inl (by simp [hs])) h
      case refundDue =>
        obtain ⟨rfl, rfl⟩ := ok_eq_ok.1 h
        exact .inr ⟨rfl, .inl (by simp [deliveredOrder])⟩
      case refunded | failed | expired | rejected | declined | cancelled => exact away h

theorem InHand.goods {held : Order} (hh : InHand o held) : (held.heldFulfillment = o.heldFulfillment) ∧
      o.state ∉ [OrderState.fulfilled, .delivered, .deliveredUnpaid] := by
  refine ⟨by rw [hh.eq], ?_⟩
  rcases hh.was with hs | hs <;> simp [hs]

/-- **Nothing but a delivery gives an order its goods**, and nothing takes them from it. -/
theorem Move.goods (hm : Move o e o' fx) (hd : ¬ Delivers e) : o'.HasGoods ↔ o.HasGoods := by
  have apart (hheld : o'.heldFulfillment = o.heldFulfillment)
      (hout : o'.state ∉ [OrderState.fulfilled, .delivered, .deliveredUnpaid])
      (hwas : o.state ∉ [OrderState.fulfilled, .delivered, .deliveredUnpaid]) :
      o'.HasGoods ↔ o.HasGoods := by
    unfold Order.HasGoods
    rw [hheld, iff_false_intro hout, iff_false_intro hwas]
  cases hm with
  | stands _ _ => exact Iff.rfl
  | quotes hs _ | sellsOnSilence hs _ => exact apart rfl (by simp [quotedOrder]) (by simp [hs])
  | closes hc _ =>
    have := hc.early
    refine apart rfl (by cases hc <;> simp [closeWithoutMoney]) ?_
    simp only [mem_cons, not_mem_nil, or_false] at this
    rcases this with hs | hs | hs | hs <;> simp [hs]
  | asks hs _ _ | confirms hs | dispatches hs | refunds hs | owesAfterAll hs _ =>
    exact apart rfl (by simp [dispatchedOrder]) (by simp [hs])
  | asksAgain hs | asksOnceMore hs | dispatchesAgain hs | repeats hs _ | retries hs _
  | failsAgain hs _ | unpaidSilent hs _ | reclaims hs _ | provesUnpaid hs _ =>
    simp [Order.HasGoods, settlingOrder, hs]
  | clears hs _ _ | charged hs _ | chargeFails hs _ _ | chargeSilent hs _ _ =>
    refine apart rfl (by simp [paidOrder, closeWithoutMoney]) ?_
    rcases hs with hs | hs <;> simp [hs]
  | charges hs _ _ => exact Iff.rfl
  | accepts hh hs | redelivers hh hs => exact apart hh.goods.1 (by simp [hs]) hh.goods.2
  | delivers _ _ hdel _ | closesDebt _ hdel _ => exact absurd hdel hd
  | fulfils _ _ | holds _ _ _ => exact absurd (.handler _) hd
  | fails hh _ hf => exact apart hh.goods.1 (by cases hf <;> simp [closeWithoutMoney]) hh.goods.2
  | owes hh _ _ _ => exact apart hh.goods.1 (by simp [closeWithoutMoney]) hh.goods.2
  | settles hs | staysUnpaid hs | fulfilledSilent hs | settlesLate hs _ => simp [Order.HasGoods, hs]
  | revives hs hheld _ => exact iff_of_true (.inl (by simp [settlingOrder])) (.inr hheld)

end

/-! ## What is kept -/

section
variable {Doc : Type} {found : StoredOrder Doc} {effects : List Effect}

@[simp] theorem goodsToKeep_none : goodsToKeep found none effects = found.delivery := by
  unfold goodsToKeep
  cases found.delivery <;> rfl

theorem goodsToKeep_kept {goods : Doc} (h : found.delivery = some goods) (delivery : Option Doc) :
    goodsToKeep found delivery effects = some goods := by
  unfold goodsToKeep
  rw [h]
  cases delivery <;> rfl

theorem goodsToKeep_first {goods : Doc} (h : found.delivery = none) : goodsToKeep found (some goods) effects =
      if turnedAway effects then none else some goods := by
  unfold goodsToKeep
  rw [h]
  rfl

end

section
variable {D : DeskRuntime} {call : ApplyCall Document} {found next : StoredOrder Document}

theorem MadeCall.goods (h : MadeCall call) : (∃ goods, call.facts.delivery = some goods ∧ Delivers call.event) ∨
      (call.facts.delivery = none ∧ ¬ Delivers call.event) := by
  cases h with
  | @settles record t outcome call hs =>
    right
    cases outcome with
    | settled txn =>
      cases hs
      exact ⟨rfl, by rintro ⟨⟩⟩
    | failed reason =>
      cases hs
      exact ⟨rfl, by rintro ⟨⟩⟩
    | unknown reason => cases hs
  | reminds now reminder =>
    right
    cases reminder <;> exact ⟨rfl, by rintro ⟨⟩⟩
  | handsOver merchantId orderId token t => exact .inr ⟨rfl, by rintro ⟨⟩⟩
  | delivers merchantId orderId route t goods =>
    refine .inl ⟨goods, rfl, ?_⟩
    cases route with
    | handler => exact .handler t
    | call => exact .call t
  | refuses merchantId orderId route t code message =>
    right
    cases route <;> exact ⟨rfl, by rintro ⟨⟩⟩
  | accepts merchantId orderId t => exact .inr ⟨rfl, by rintro ⟨⟩⟩
  | keepsSilent orderId t => exact .inr ⟨rfl, by rintro ⟨⟩⟩
  | quotes q => exact .inr ⟨rfl, by rintro ⟨⟩⟩

def StoredOrder.Stocked (record : StoredOrder Document) : Prop :=
  record.delivery.isSome = true ↔ record.order.HasGoods

theorem Treats.keeps_goods (h : Treats D found next) {goods : Document}
    (hg : found.delivery = some goods) : next.delivery = some goods := by
  cases h with
  | notes word => exact hg
  | feeds _ _ _ => exact goodsToKeep_kept hg _
  | takes _ _ => exact hg

/-- **The step lemma.** Whatever the desk makes of an order, the goods agree with the machine. -/
theorem Treats.stocked (h : Treats D found next) (hb : found.order.Sound) (hs : found.Stocked) : next.Stocked := by
  cases h with
  | notes word => exact hs
  | @feeds call order effects hmade _ ht =>
    rcases hmade.goods with ⟨goods, hgoods, hdel⟩ | ⟨hnone, hdel⟩
    · rcases transition_delivers hdel ht with ⟨haway, rfl⟩ | ⟨htaken, hhas⟩
      · -- Turned away: nothing moves, and nothing is kept of what was sent.
        have hsame : (appliedRecord D.runtime.config call found found.order effects).delivery =
            found.delivery := by
          show goodsToKeep found call.facts.delivery effects = found.delivery
          rw [hgoods]
          cases hf : found.delivery with
          | none => rw [goodsToKeep_first hf, if_pos haway]
          | some kept => exact goodsToKeep_kept hf _
        unfold StoredOrder.Stocked
        rw [hsame]
        exact hs
      · refine iff_of_true ?_ hhas
        show (goodsToKeep found call.facts.delivery effects).isSome = true
        rw [hgoods]
        cases hf : found.delivery with
        | none => rw [goodsToKeep_first hf, htaken]; rfl
        | some kept => rw [goodsToKeep_kept hf]; rfl
    · have hsame : (appliedRecord D.runtime.config call found order effects).delivery =
          found.delivery := by
        show goodsToKeep found call.facts.delivery effects = found.delivery
        rw [hnone, goodsToKeep_none]
      unfold StoredOrder.Stocked
      rw [hsame]
      exact hs.trans ((transition_move hb ht).goods hdel).symm
  | @takes presented t order effects _ hd =>
    have hgoods := (driven_keeps_along (A := fun e => ¬ Delivers (.state e))
      (P := fun o => o.HasGoods ↔ found.order.HasGoods)
      (fun _ hP he hm => (hm.goods he).trans hP) (fun e he => ?_) hb Iff.rfl hd).2
    · exact hs.trans hgoods.symm
    · rcases mem_eventsForVerifiedPayment he with rfl | rfl <;> rintro ⟨⟩

theorem deskRun_stocked (actions : List DeskAction) {id : String} {record : StoredOrder Document}
    (h : (deskRun D actions).orderById id = some record) : record.Stocked := by
  refine deskRun_sound_orders (P := fun _ record => record.Stocked) (fun sale => ?_)
    (fun _ _ _ hb hs ht => ht.stocked hb hs) actions h
  refine iff_of_false (by simp [Sale.record]) ?_
  rcases sale.birth.shape with ⟨hshape, -⟩ | ⟨hshape, -⟩
  all_goals simp [Order.HasGoods, Sale.record, hshape, bareOrder]

/-- **Goods are kept exactly when the order has them.** In every run, an order's goods are stored where
its state, or the hold on what came late, says it has them; once stored they are what they were ever
after; and its agent is shown them where it is told the order is delivered, and nowhere else. -/
theorem goods_kept_with_the_order (actions more : List DeskAction) {id : String}
    {record : StoredOrder Document} (h : (deskRun D actions).orderById id = some record) :
    (record.delivery.isSome = true ↔
      record.order.state ∈ [.fulfilled, .delivered, .deliveredUnpaid] ∨ record.order.heldFulfillment = true) ∧
    (∀ goods, record.delivery = some goods →
      ∃ later, (deskRun D (actions ++ more)).orderById id = some later ∧ later.delivery = some goods) ∧
    ((agentOrderStatusOf record).delivered.isSome = true ↔ (agentOrderStatusOf record).status = .delivered) := by
  have hstocked := deskRun_stocked actions h
  refine ⟨hstocked, fun goods hg => ?_, ?_⟩
  · exact deskRun_keeps (fun _ _ hg ht => ht.keeps_goods hg) actions more h hg
  · show (if outcomeFor record.order = .delivered then record.delivery else none).isSome = true ↔
      outcomeFor record.order = .delivered
    split
    · next hout =>
      have hstate : record.order.state = .delivered := outcomeFor_delivered hout
      exact iff_of_true (hstocked.2 (.inl (by simp [hstate]))) hout
    · next hout => exact iff_of_false (by simp) hout

end

/-- On a delivery that went through. -/
theorem goods_kept_with_the_order_delivered :
    ∃ record, (deskRun sampleDesk (sampleDelivery ++ [.handIn 0 (sampleTurn 4 8)])).orderById
        "ord_1" = some record ∧
      (record.delivery.isSome = true ↔
        record.order.state ∈ [.fulfilled, .delivered, .deliveredUnpaid] ∨ record.order.heldFulfillment = true) ∧
      (∀ goods, record.delivery = some goods →
        ∃ later, (deskRun sampleDesk ((sampleDelivery ++ [.handIn 0 (sampleTurn 4 8)]) ++
            [.restart])).orderById "ord_1" = some later ∧ later.delivery = some goods) ∧
      ((agentOrderStatusOf record).delivered.isSome = true ↔ (agentOrderStatusOf record).status = .delivered) := by
  obtain ⟨record, hr⟩ : ∃ record,
      (deskRun sampleDesk (sampleDelivery ++ [.handIn 0 (sampleTurn 4 8)])).orderById "ord_1" =
        some record := ⟨_, rfl⟩
  exact ⟨record, hr, goods_kept_with_the_order _ _ hr⟩

/-! ## The weighing of goods -/

/-- How far a delivery is, where the order it reads is this one. -/
def DeliverStage.reading (record : StoredOrder Document) : DeliverStage :=
  match record.delivery with
  | none => .read record.itemId record.order.state
  | some _ => .repeated

section
variable {D : DeskRuntime} {s s' : Desk} {out : List DeskNotice} {action : DeskAction}
  {call : DeliverCall}

/-- What a step does to a delivery that is under way, or is not yet: it may let it be, or end it; a new
one has read its order; and one that is weighed fits the card it reads. -/
inductive Desk.Tracks (D : DeskRuntime) (s s' : Desk) (k : Nat) : DeskAction → Prop
  | stands {action : DeskAction} : s'.deliveries.get k = s.deliveries.get k → Tracks D s s' k action
  | ends {action : DeskAction} : s'.deliveries.get k = none → Tracks D s s' k action
  | reads {action : DeskAction} {call : DeliverCall} {record : StoredOrder Document} :
      s.orderById call.orderId = some record → call.stage = .reading record →
      s'.deliveries.get k = some call → Tracks D s s' k action
  | weighs {call : DeliverCall} {itemId : String} {state : OrderState} {stored : StoredCard} :
      s.deliveries.get k = some call → call.stage = .read itemId state →
      s.catalog.cardById itemId = some stored →
      deliveryCheckFor D.words stored.card call.delivery = [] →
      s'.deliveries.get k = some { call with stage := .weighed stored } →
      Tracks D s s' k (.weighGoods k)

variable {id : String} {k : Nat}

theorem Desk.merchantOrder_some {merchantId : String} {record : StoredOrder Document}
    (h : s.merchantOrder merchantId id = some record) :
    s.orderById id = some record ∧ record.merchantId = merchantId := by
  unfold Desk.merchantOrder at h
  split at h
  · cases h
  · next found hf =>
    split at h
    · cases h
    · next hm =>
      cases h
      exact ⟨hf, by simpa using hm⟩

theorem Desk.deliverOrder_tracks (k j : Nat) (merchantId orderId : String) (delivery : Document)
    (route : AnswerRoute) : Desk.Tracks D s (s.deliverOrder j merchantId orderId delivery route).1 k action := by
  unfold Desk.deliverOrder
  split
  · exact .stands rfl
  · next record hr =>
    by_cases hk : k = j
    · subst hk
      exact .reads (Desk.merchantOrder_some hr).1 rfl (get_set_self _ _ _)
    · exact .stands (get_set_ne _ _ hk)

@[simp] theorem Desk.feed_deliveries (applied : ApplyCall Document) (turn : Turn) :
    (s.feed D applied turn).1.deliveries = s.deliveries := rfl

theorem Desk.Tracks.deletes {j : Nat} (h : s'.deliveries = s.deliveries.delete j) :
    Desk.Tracks D s s' k action := by
  by_cases hk : k = j
  · exact .ends (by rw [h, get_delete, if_pos hk])
  · exact .stands (by rw [h, get_delete, if_neg hk])

/-- **What becomes of a delivery in a step.** -/
theorem Desk.Performs.tracks {came : Desk × List DeskNotice} (h : s.Performs D action came)
    (k : Nat) : Desk.Tracks D s came.1 k action := by
  have ticks {tick : Tick Document} {came : Desk × List DeskNotice}
      (h : s.ticks D tick = .ok came) : Desk.Tracks D s came.1 k action := by
    obtain ⟨⟨timed, ht⟩, -⟩ := Desk.ticks_elsewhere h
    exact .stands (by rw [ht])
  cases h with
  | gateway _ h => exact ticks h
  | fire h => exact ticks h
  | returns h => exact ticks h
  | handOver turn _ =>
    refine .stands ?_
    unfold Desk.handOver
    dsimp only
    split
    · rfl
    · rfl
    · rfl
    · rfl
    · split <;> rfl
    · rfl
  | deliverOrder merchantId orderId delivery => exact Desk.deliverOrder_tracks _ _ _ _ _ _
  | @weighGoods j call itemId state hj hs =>
    unfold Desk.weighGoods
    split
    · exact .deletes rfl
    · next stored hc =>
      split
      · exact .deletes rfl
      · next hfit =>
        by_cases hk : k = j
        · subst hk
          exact .weighs hj hs hc (goodsAgainstTheCard_eq_none.1 hfit) (get_set_self _ _ _)
        · exact .stands (get_set_ne _ _ hk)
  | @handIn j call turn hj hs =>
    refine .deletes (j := j) ?_
    simp [Desk.handIn]
  | refuseOrder | acceptOrder => exact .stands (by simp [Desk.refuseOrder, Desk.acceptOrder, Desk.takeOrderOn])
  | answerOrder merchantId orderId reply turn =>
    cases reply with
    | delivered goods => exact Desk.deliverOrder_tracks _ _ _ _ _ _
    | refused code message => exact .stands (by simp [Desk.answerOrder, Desk.refuseOrder])
    | accepted => exact .stands (by simp [Desk.answerOrder, Desk.takeOrderOn])
  | askThePrice card turn _ _ =>
    refine .stands ?_
    unfold Desk.askThePrice
    split <;> rfl
  | wakes turn _ _ =>
    refine .stands ?_
    unfold Desk.wakes
    split <;> rfl
  | answerQuote merchantId priceId response t =>
    refine .stands ?_
    unfold Desk.answerQuote
    split
    · rfl
    · split <;> rfl
  | putQuote turn _ _ =>
    refine .stands ?_
    unfold Desk.putQuote
    dsimp only
    split <;> rfl
  | restart => exact .ends rfl
  | waitOver _ | ackQuote _ _ | dropQuote k | publishCard _ _ _ _ | setCardPaused _ _ _
  | addKey _ _ | disableKeyOf _ _ _ => exact .stands rfl

/-- What a call that is under way knows is true: the card it is to read is the order's own, and an order
it found with goods on it still has them. -/
def DeliverCall.Knows (s : Desk) (call : DeliverCall) : Prop :=
  ∃ record, s.orderById call.orderId = some record ∧
    match call.stage with
    | .read itemId _ => record.itemId = itemId
    | .weighed _ => True
    | .repeated => record.delivery.isSome = true

theorem DeliverCall.Knows.step (h : call.Knows s) (hstep : DeskStep D s s' out action) : call.Knows s' := by
  obtain ⟨record, hr, hstage⟩ := h
  obtain ⟨next, hn, rfl | ht⟩ := hstep.later hr
  · exact ⟨next, hn, hstage⟩
  · refine ⟨next, hn, ?_⟩
    cases hs : call.stage with
    | read itemId state =>
      rw [hs] at hstage
      exact ht.keeps.2.trans hstage
    | weighed stored => trivial
    | repeated =>
      rw [hs] at hstage
      obtain ⟨goods, hg⟩ := isSome_iff_exists.1 hstage
      exact isSome_iff_exists.2 ⟨goods, ht.keeps_goods hg⟩

theorem deskRun_knows (actions : List DeskAction) (h : (deskRun D actions).deliveries.get k = some call) :
    call.Knows (deskRun D actions) := by
  have hall := (deskMachine D).run_induction
    (P := fun s : Desk => ∀ call, s.deliveries.get k = some call → call.Knows s)
    (s := .empty) ?_ (by rintro call ⟨⟩) actions
  · exact hall call h
  · intro s action s' out hs hreact call hc
    have hstep := Desk.step_deskStep hreact
    cases (Desk.react_performs hreact).tracks k with
    | stands hsame => exact (hs call (hsame.symm.trans hc)).step hstep
    | ends hnone => cases hnone.symm.trans hc
    | @reads _ read record hr hstage hread =>
      cases hread.symm.trans hc
      refine .step ⟨record, hr, ?_⟩ hstep
      rw [hstage]
      unfold DeliverStage.reading
      cases record.delivery <;> simp
    | @weighs weighing itemId state stored hk _ _ _ hweighed =>
      cases hweighed.symm.trans hc
      obtain ⟨record, hr, -⟩ := hs weighing hk
      exact DeliverCall.Knows.step ⟨record, hr, trivial⟩ hstep

/-- **Where a weighed call comes from.** The call that holds the card it weighed its goods by read that
card in an earlier step, under the item of its own order, and its goods fit it. -/
theorem deskRun_weighed (actions : List DeskAction) {stored : StoredCard}
    (h : (deskRun D actions).deliveries.get k = some call) (hs : call.stage = .weighed stored) :
    deliveryCheckFor D.words stored.card call.delivery = [] ∧
      ∃ before after record state, actions = before ++ .weighGoods k :: after ∧ (deskRun D before).deliveries.get k =
          some { call with stage := .read record.itemId state } ∧
        (deskRun D before).orderById call.orderId = some record ∧
        (deskRun D before).catalog.cardById record.itemId = some stored ∧
        ∀ fs, fs <+: after → (deskRun D (before ++ .weighGoods k :: fs)).deliveries.get k = some call := by
  obtain ⟨before, action, after, s', out, rfl, hbefore, hreact, hsince⟩ :=
    (deskMachine D).exists_entry (P := fun s : Desk => s.deliveries.get k = some call) (by rintro ⟨⟩) h
  have hhere : s'.deliveries.get k = some call := hsince [] nil_prefix
  cases (Desk.react_performs hreact).tracks k with
  | stands hsame => exact absurd (hsame.symm.trans hhere) hbefore
  | ends hnone => cases hnone.symm.trans hhere
  | @reads _ read record hr hstage hread =>
    cases hread.symm.trans hhere
    rw [hs] at hstage
    unfold DeliverStage.reading at hstage
    split at hstage <;> cases hstage
  | @weighs weighing itemId state card hk hread hcard hfits hweighed =>
    cases hweighed.symm.trans hhere
    cases hs
    obtain ⟨record, hr, hitem⟩ := deskRun_knows before hk
    rw [hread] at hitem
    cases hitem
    refine ⟨hfits, before, after, record, state, rfl, ?_, hr, hcard, fun fs hfs => ?_⟩
    · rw [← hread]
      exact hk
    · have hrun : deskRun D (before ++ .weighGoods k :: fs) = (deskMachine D).run s' fs := by
        rw [deskRun, (deskMachine D).run_append, Reactor.run_cons, Reactor.next_of_ok _ hreact]
      rw [hrun]
      exact hsince fs hfs

/-- The goods a call of `apply` carries are those of a delivery that is handed in. -/
theorem DeskAction.Feeds.goods {applied : ApplyCall Document} {goods : Document}
    (h : action.Feeds s applied) (hg : applied.facts.delivery = some goods) :
    ∃ k turn call, action = .handIn k turn ∧ s.deliveries.get k = some call ∧
      call.delivery = goods ∧ applied.orderId = call.orderId := by
  cases action with
  | gateway act =>
    obtain ⟨hown, hcalls⟩ := h
    cases act with
    | apply task call now fresh cut => cases hown
    | settle k outcome now fresh cut =>
      obtain ⟨record, t, hs⟩ := hcalls
      cases outcome <;> cases hs <;> cases hg
    | _ => exact hcalls.elim
  | fire n turn =>
    obtain ⟨reminder, stage, -, rfl⟩ := h
    cases reminder <;> cases hg
  | handIn k turn =>
    obtain ⟨call, hk, rfl⟩ := h
    cases hg
    exact ⟨k, turn, call, rfl, hk, rfl, rfl⟩
  | putQuote k turn =>
    obtain ⟨q, -, rfl⟩ := h
    cases hg
  | wakes priceId turn =>
    obtain ⟨parked, -, rfl⟩ := h
    cases hg
  | answerOrder k merchantId orderId reply turn =>
    cases reply with
    | delivered goods => exact h.elim
    | refused code message | accepted =>
      cases h
      cases hg
  | handOver _ _ _ _ _ | refuseOrder _ _ _ _ _ | acceptOrder _ _ _ | askThePrice _ _ _ _ =>
    cases h
    cases hg
  | _ => exact h.elim

theorem Desk.Performs.handIn_stage {turn : Turn} {came : Desk × List DeskNotice}
    (h : s.Performs D (.handIn k turn) came) (hk : s.deliveries.get k = some call) :
    call.stage = .repeated ∨ ∃ stored, call.stage = .weighed stored := by
  cases h with
  | handIn _ hk' hs =>
    cases hk'.symm.trans hk
    exact hs

/-- A step stores goods on an order: it has them after the step, and did not have them before. -/
def Desk.Stores (s s' : Desk) (id : String) (goods : Document) : Prop :=
  (∃ next, s'.orderById id = some next ∧ next.delivery = some goods) ∧
    ¬ ∃ found, s.orderById id = some found ∧ found.delivery = some goods

/-- **Goods come in by the hand.** A step that stores goods on an order is a delivery that is handed in
for it, on an order that had none. -/
theorem DeskStep.stores {goods : Document} (h : DeskStep D s s' out action) (hstores : s.Stores s' id goods) :
    ∃ k turn call found, action = .handIn k turn ∧ s.deliveries.get k = some call ∧
      call.orderId = id ∧ call.delivery = goods ∧ s.orderById id = some found ∧ found.delivery = none := by
  obtain ⟨⟨next, hn, hg⟩, hbefore⟩ := hstores
  have unmoved (hsame : s'.orderById id = s.orderById id) : False := hbefore ⟨next, hsame.symm.trans hn, hg⟩
  have stays (hs : s'.orders = s.orders) : s'.orderById id = s.orderById id := by
    have hget : s'.orderById id = s'.orders.get id := rfl
    rw [hget, hs]
    rfl
  -- Where one order is written, it is this one, or this one stays as it was.
  have written {key : String} {w : StoredOrder Document} (hs : s'.orders = s.orders.set key w) :
      key = id ∧ w = next := by
    have hset := Desk.orderById_set hs id
    split at hset
    · next hid => exact ⟨hid.symm, Option.some.inj (hset.symm.trans hn)⟩
    · exact (unmoved hset).elim
  cases h with
  | stands hs _ => exact (unmoved (stays hs)).elim
  | sweeps hs _ => exact (unmoved (stays hs)).elim
  | opens sale _ hs _ =>
    obtain ⟨-, rfl⟩ := written hs
    cases hg
  | notes hf hs _ =>
    obtain ⟨rfl, rfl⟩ := written hs
    exact (hbefore ⟨_, hf, hg⟩).elim
  | takes hf _ _ _ hs _ _ =>
    obtain ⟨rfl, rfl⟩ := written hs
    exact (hbefore ⟨_, hf, hg⟩).elim
  | @feeds _ applied found order effects _ _ _ _ hfeeds hf _ _ _ _ hs _ _ =>
    obtain ⟨rfl, rfl⟩ := written hs
    have hkept : goodsToKeep found applied.facts.delivery effects = some goods := hg
    cases hd : found.delivery with
    | some kept =>
      rw [goodsToKeep_kept hd] at hkept
      exact (hbefore ⟨found, hf, hd.trans hkept⟩).elim
    | none =>
      cases hin : applied.facts.delivery with
      | none => rw [hin, goodsToKeep_none, hd] at hkept; cases hkept
      | some brought =>
        rw [hin, goodsToKeep_first hd] at hkept
        obtain ⟨k, turn, call, rfl, hk, hgoods, hid⟩ := hfeeds.goods hin
        refine ⟨k, turn, call, found, rfl, hk, hid.symm, hgoods.trans ?_, hf, hd⟩
        split at hkept
        · cases hkept
        · exact Option.some.inj hkept

/-- **Nothing unchecked is sold as goods.** A step of any run that stores goods on an order is a delivery
handed in for that order, whose goods fit the card it read: the card of the order's own item, read in an
earlier step while this call was under way and held by it ever since. A call that skips the check stores
nothing on any order. -/
theorem goods_were_weighed (actions : List DeskAction)
    (h : (deskMachine D).react (deskRun D actions) action = .ok (s', out)) :
    (∀ id goods, (deskRun D actions).Stores s' id goods →
      ∃ k turn call stored, action = .handIn k turn ∧
        (deskRun D actions).deliveries.get k = some call ∧ call.orderId = id ∧
        call.delivery = goods ∧ call.stage = .weighed stored ∧
        deliveryCheckFor D.words stored.card goods = [] ∧
        ∃ before after record state, actions = before ++ .weighGoods k :: after ∧
          (deskRun D before).deliveries.get k = some { call with stage := .read record.itemId state } ∧
          (deskRun D before).orderById id = some record ∧
          (deskRun D before).catalog.cardById record.itemId = some stored ∧
          ∀ fs, fs <+: after → (deskRun D (before ++ .weighGoods k :: fs)).deliveries.get k = some call) ∧
    ∀ k turn call, action = .handIn k turn → (deskRun D actions).deliveries.get k = some call →
      call.stage = .repeated → ∀ id goods, ¬ (deskRun D actions).Stores s' id goods := by
  have hstep := Desk.step_deskStep h
  have weighed {id : String} {goods : Document} (hstores : (deskRun D actions).Stores s' id goods) :
      ∃ k turn call stored, action = .handIn k turn ∧
        (deskRun D actions).deliveries.get k = some call ∧ call.orderId = id ∧
        call.delivery = goods ∧ call.stage = .weighed stored := by
    obtain ⟨k, turn, call, found, rfl, hk, rfl, rfl, hf, hd⟩ := hstep.stores hstores
    refine ⟨k, turn, call, ?_⟩
    obtain ⟨record, hr, hknown⟩ := deskRun_knows actions hk
    cases hf.symm.trans hr
    rcases (Desk.react_performs h).handIn_stage hk with hstage | ⟨stored, hstage⟩
    · rw [hstage, hd] at hknown
      cases hknown
    · exact ⟨stored, rfl, hk, rfl, rfl, hstage⟩
  constructor
  · intro id goods hstores
    obtain ⟨k, turn, call, stored, rfl, hk, rfl, rfl, hstage⟩ := weighed hstores
    obtain ⟨hfits, hread⟩ := deskRun_weighed actions hk hstage
    exact ⟨k, turn, call, stored, rfl, hk, rfl, rfl, hstage, hfits, hread⟩
  · rintro k turn call rfl hk hrepeated id goods hstores
    obtain ⟨k', turn', call', stored, haction, hk', -, -, hstage⟩ := weighed hstores
    cases haction
    cases hk'.symm.trans hk
    cases hstage.symm.trans hrepeated

end

/-- On the goods of a delivery that went through. -/
theorem goods_were_weighed_delivered :
    ∃ s' out k turn call stored,
      (deskMachine sampleDesk).react (deskRun sampleDesk sampleDelivery)
        (.handIn 0 (sampleTurn 4 8)) = .ok (s', out) ∧
      DeskAction.handIn 0 (sampleTurn 4 8) = .handIn k turn ∧
      (deskRun sampleDesk sampleDelivery).deliveries.get k = some call ∧
      call.stage = .weighed stored ∧
      deliveryCheckFor sampleDesk.words stored.card sampleGoods = [] := by
  obtain ⟨s', out, h, hstores⟩ : ∃ s' out,
      (deskMachine sampleDesk).react (deskRun sampleDesk sampleDelivery)
        (.handIn 0 (sampleTurn 4 8)) = .ok (s', out) ∧
      (deskRun sampleDesk sampleDelivery).Stores s' "ord_1" sampleGoods := by
    refine ⟨_, _, rfl, ⟨_, rfl, rfl⟩, ?_⟩
    rintro ⟨found, hf, hd⟩
    cases hf
    cases hd
  obtain ⟨k, turn, call, stored, haction, hk, -, -, hstage, hfits, -⟩ :=
    (goods_were_weighed sampleDelivery h).1 "ord_1" sampleGoods hstores
  exact ⟨s', out, k, turn, call, stored, h, haction, hk, hstage, hfits⟩

end Coinslot
