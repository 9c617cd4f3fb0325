import Coinslot.Orders.Runs

/-!
# The price of an order

An order is priced once: by its card at the birth, by its merchant's answer, or by its card again where
the merchant keeps silent. From then on the price and where it came from stand (`Move.keeps_price`,
`Move.keeps_source`), its unit is the card's (`Order.InCardCurrency`), and nothing that trades on a price
is asked for on an order that has none (`Move.priced_trade`).
-/

namespace Coinslot

/-- The effects that trade on the price of an order: its charge, its hand-over to the merchant, its
receipt, and the debt of a refund. -/
def Effect.TradesOnPrice : Effect → Prop
  | .executePayment | .dispatchOrder | .issueReceipt | .markRefundDue _ => True
  | _ => False

def Order.InCardCurrency (o : Order) : Prop :=
  ∀ price, o.price = some price → price.currency = o.cardPrice.currency

section
variable {o o' : Order} {e : OrderEvent} {fx : List Effect}

variable {price : Price}

theorem Move.keeps_source (hm : Move o e o' fx) (hb : o.Sound) (hp : o.price = some price) :
    o'.quoteSource = o.quoteSource := by
  cases hm with
  | quotes hs _ | sellsOnSilence hs _ =>
    simp only [Order.Sound, hs] at hb
    cases hb.2.1.symm.trans hp
  | accepts hh _ | redelivers hh _ => rw [hh.eq]
  | delivers hh _ _ _ | fulfils hh _ | fails hh _ _ | owes hh _ _ _ => rw [hh.eq]; rfl
  | _ => rfl

theorem Move.prices (hm : Move o e o' fx) : o'.price = o.price ∨
      ∃ price, o'.price = some price ∧ price.currency = o.cardPrice.currency := by
  cases hm with
  | quotes _ hc => exact .inr ⟨_, rfl, hc⟩
  | sellsOnSilence _ _ => exact .inr ⟨_, rfl, rfl⟩
  | accepts hh _ | redelivers hh _ | delivers hh _ _ _ | fulfils hh _ | fails hh _ _
  | owes hh _ _ _ => rw [hh.eq]; exact .inl rfl
  | _ => exact .inl rfl

theorem Move.inCardCurrency (hm : Move o e o' fx) (h : o.InCardCurrency) : o'.InCardCurrency := by
  intro price hp
  rw [hm.keeps.2.2.2.1]
  rcases hm.prices with hsame | ⟨named, hn, hc⟩
  · exact h price (hsame.symm.trans hp)
  · cases hn.symm.trans hp
    exact hc

/-- The states past the price check an order is still moved on from. -/
def pricedStates : List OrderState :=
  [.quoted, .awaitingConfirmation, .confirmed, .paid, .dispatched, .fulfilled, .deliveredUnpaid,
    .refundDue, .expired]

theorem Order.Sound.priced (hb : o.Sound) (hs : o.state ∈ pricedStates) : o.price.isSome := by
  simp only [pricedStates, List.mem_cons, List.not_mem_nil, or_false] at hs
  rcases hs with hs | hs | hs | hs | hs | hs | hs | hs | hs <;>
    simp only [Order.Sound, hs] at hb
  · exact hb.2.2.1
  · exact hb.2.2.1
  · exact hb.2.2.1
  · exact hb.2.2.1
  · exact hb.2.2.1
  · exact hb.2.2.2
  · exact hb.2.2.1
  · exact hb.2.2.2.1
  · exact hb.2

theorem InHand.priced {held : Order} (hh : InHand o held) (hb : o.Sound) : o.price.isSome :=
  hb.priced (by rcases hh.was with hs | hs <;> simp [hs, pricedStates])

theorem OnlyWords.untraded {effect : Effect} (h : OnlyWords fx) (he : effect ∈ fx) : ¬ effect.TradesOnPrice := by
  rcases h effect he with ⟨answer, rfl⟩ | rfl <;> simp [Effect.TradesOnPrice]

/-- **Nothing is traded without a price.** A step that asks for a charge, a hand-over, a receipt or a
refund starts from an order that has its price. -/
theorem Move.priced_trade {effect : Effect} (hm : Move o e o' fx) (hb : o.Sound) (he : effect ∈ fx)
    (ht : effect.TradesOnPrice) : o.price.isSome := by
  cases hm with
  | stands _ hfx => exact absurd ht (hfx.words.untraded he)
  | closes _ hfx | chargeFails _ _ hfx | chargeSilent _ _ hfx => exact absurd ht (hfx.untraded he)
  | quotes _ _ | sellsOnSilence _ _ => rcases mem_effectsOnQuoted he with rfl | rfl <;> cases ht
  | accepts hh _ | redelivers hh _ | delivers hh _ _ _ | fulfils hh _ | fails hh _ _
  | owes hh _ _ _ => exact hh.priced hb
  | clears hs _ _ | charges hs _ _ | charged hs _ =>
    exact hb.priced (by rcases hs with hs | hs <;> simp [hs, pricedStates])
  | owesAfterAll hs hc => exact (hb.unaccounted hs hc).2.2.1
  | provesUnpaid _ _ => cases he
  | _ => exact hb.priced (by simp [*, pricedStates])

theorem Birth.run_inCardCurrency {birth : Birth} {events : List OrderEvent}
    (hp : (birth.run events).price = some price) : price.currency = birth.input.cardPrice.currency := by
  have hcard : (birth.run events).cardPrice = birth.input.cardPrice :=
    run_keeps (P := fun o => o.cardPrice = birth.input.cardPrice)
      (fun _ hP hm => hm.keeps.2.2.2.1.trans hP) birth.sound
      (by rcases birth.shape with ⟨h, -⟩ | ⟨h, -⟩ <;> rw [h] <;> rfl) events
  have hunit : (birth.run events).InCardCurrency := by
    refine run_keeps (P := Order.InCardCurrency) (fun _ hP hm => hm.inCardCurrency hP) birth.sound ?_ events
    intro named hn
    rcases birth.shape with ⟨h, -⟩ | ⟨h, -⟩ <;> rw [h] at hn ⊢ <;> cases hn
    rfl
  exact (hunit price hp).trans (congrArg Price.currency hcard)

end

end Coinslot
