import Coinslot.Gateway.Questions
import Coinslot.Orders.Prices

/-!
# A price once given stands

The machine keeps the price of an order and where it came from; the gateway keeps beside it the
identifier the price was named under. An answer writes its identifier only where the machine takes it,
and the machine takes one on an order without a price (`Treats.keeps_name`).
-/

namespace Coinslot

/-- What is settled about the price of an order: the price, where it came from, and the identifier it
was named under. -/
def StoredOrder.PricedAs (record : StoredOrder Document) (price : Price)
    (source : Option QuoteSource) (priceId : Option String) : Prop :=
  record.order.price = some price ∧ record.order.quoteSource = source ∧ record.priceId = priceId

section
variable {D : DeskRuntime} {found next : StoredOrder Document} {price : Price}
  {source : Option QuoteSource} {priceId : Option String}

theorem Treats.named {call : ApplyCall Document} {order : Order} {effects : List Effect} (hmade : MadeCall call)
    (ht : transition found.order call.event = .ok (order, effects)) (hs : found.order.state ≠ .created) :
    (appliedRecord D.runtime.config call found order effects).priceId = found.priceId := by
  rcases hmade.priceId with hnone | ⟨t, response, he⟩
  · rw [appliedRecord_priceId, hnone]
    rfl
  · rw [he] at ht
    exact absurd (transition_quoteAnswered ht).1 hs

theorem Order.Sound.past {o : Order} (hb : o.Sound) (hp : o.price = some price) : o.state ≠ .created := by
  intro hs
  simp only [Order.Sound, hs] at hb
  cases hb.2.1.symm.trans hp

theorem Treats.pricedAs (h : Treats D found next) (hb : found.order.Sound)
    (hp : found.PricedAs price source priceId) : next.PricedAs price source priceId := by
  obtain ⟨hprice, hsource, hname⟩ := hp
  have hpast := hb.past hprice
  cases h with
  | notes word => exact ⟨hprice, hsource, hname⟩
  | feeds hmade _ ht =>
    have hm := transition_move hb ht
    exact ⟨hm.keeps_price hb hprice, (hm.keeps_source hb hprice).trans hsource,
      (Treats.named hmade ht hpast).trans hname⟩
  | takes _ hd =>
    obtain ⟨-, hkept⟩ := driven_keeps
      (P := fun o => o.price = some price ∧ o.quoteSource = source)
      (fun hb hP hm => ⟨hm.keeps_price hb hP.1, (hm.keeps_source hb hP.1).trans hP.2⟩) hb
      ⟨hprice, hsource⟩ hd
    exact ⟨hkept.1, hkept.2, hname⟩

end

/-- **A price once given stands.** In every run of the machine a price stays as it was named, with where
it came from and in the unit of its card, and no step asks for a charge, a hand-over, a receipt or a
refund on an order without one; and at the desk the identifier of the price stays with it. -/
theorem price_stands (birth : Birth) (events : List OrderEvent) (D : DeskRuntime)
    (actions : List DeskAction) :
    (∀ price, (birth.run events).price = some price →
      price.currency = birth.input.cardPrice.currency ∧
        ∀ more, (birth.run (events ++ more)).price = some price ∧
          (birth.run (events ++ more)).quoteSource = (birth.run events).quoteSource) ∧
    (∀ event order effects, transition (birth.run events) event = .ok (order, effects) →
      ∀ effect ∈ effects, effect.TradesOnPrice → (birth.run events).price.isSome) ∧
    ∀ id record price, (deskRun D actions).orderById id = some record →
      record.order.price = some price → ∀ more,
        ∃ later, (deskRun D (actions ++ more)).orderById id = some later ∧
          later.PricedAs price record.order.quoteSource record.priceId := by
  have hb := birth.run_sound events
  refine ⟨fun price hp => ⟨Birth.run_inCardCurrency hp, fun more => ?_⟩, ?_, ?_⟩
  · rw [birth.run_append]
    exact run_keeps
      (P := fun o => o.price = some price ∧ o.quoteSource = (birth.run events).quoteSource)
      (fun hb hP hm => ⟨hm.keeps_price hb hP.1, (hm.keeps_source hb hP.1).trans hP.2⟩) hb
      ⟨hp, rfl⟩ more
  · intro event order effects ht effect he htrades
    exact (transition_move hb ht).priced_trade hb he htrades
  · intro id record price hr hp more
    obtain ⟨later, hl, -, hpriced⟩ := deskRun_keeps
      (P := fun r => r.order.Sound ∧ r.PricedAs price record.order.quoteSource record.priceId)
      (fun _ _ hP ht => ⟨ht.sound hP.1, ht.pricedAs hP.1 hP.2⟩) actions more hr
      ⟨(deskRun_sound actions hr).2, hp, rfl, rfl⟩
    exact ⟨later, hl, hpriced⟩

end Coinslot
