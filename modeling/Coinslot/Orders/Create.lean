import Coinslot.Orders.Model

/-!
# The birth of an order

`createOrder` (`packages/core/src/orders/create.ts`) and the one guard that stands in front of it:
a merchant who is not selling takes no new order, and nothing after the birth asks whether he is.
-/

namespace Coinslot

/-- Whether the merchant is taking new orders (`MERCHANT_SELLING`). -/
inductive MerchantSelling where
  | open
  | paused
  | departed
  deriving DecidableEq, Repr

/-- Whether the card's price is asked of the merchant at the moment of purchase (`PRICE_CHECKS`). -/
inductive PriceCheck where
  | none
  | merchant
  deriving DecidableEq, Repr

/-- Why no order was taken (`CREATE_REJECTIONS`). -/
inductive CreateRejectionCode where
  | sellingPaused
  | merchantDeparted
  deriving DecidableEq, Repr

/-- A refusal to open an order. -/
structure CreateRejection where
  code : CreateRejectionCode
  message : String
  deriving DecidableEq, Repr

/-- What an order is opened with. -/
structure CreateOrderInput where
  id : String
  «at» : Int
  mode : OrderMode
  policy : OrderPolicy
  priceCheck : PriceCheck
  cardPrice : Price
  test : Bool
  selling : MerchantSelling
  deriving DecidableEq, Repr

/-- The order as it is before anybody has named a price (`base` in `createOrder`). -/
def bareOrder (input : CreateOrderInput) : Order :=
  { id := input.id
    state := .created
    mode := input.mode
    policy := input.policy
    payment := .none
    cardPrice := input.cardPrice
    price := none
    quoteSource := none
    dispatch := { attempts := 0, accepted := false }
    heldFulfillment := false
    closure := none
    test := input.test
    timestamps :=
      { createdAt := input.at
        quotedAt := none
        confirmationRequestedAt := none
        confirmedAt := none
        settleStartedAt := none
        paidAt := none
        dispatchedAt := none } }

/-- Opens an order, or says why none is taken. A card without a price check is sold off its own
snapshot, so its order is born quoted. -/
def createOrder (input : CreateOrderInput) : Except CreateRejection (Order × List Effect) :=
  match input.selling with
  | .paused =>
    .error
      { code := .sellingPaused
        message := "this product is not on sale at the moment, so no new order is taken" }
  | .departed =>
    .error
      { code := .merchantDeparted
        message := "the merchant has left, so no new order is taken" }
  | .open =>
    let base := bareOrder input
    match input.priceCheck with
    | .merchant => .ok (base, [.requestQuote])
    | .none =>
      .ok
        ({ base with
            state := .quoted
            price := some input.cardPrice
            quoteSource := some .cardSnapshot
            timestamps := { base.timestamps with quotedAt := some input.at } },
          effectsOnQuoted input.mode)

/-- An order `createOrder` accepted: its input, and the order and the effects it was born with. -/
structure Birth where
  input : CreateOrderInput
  order : Order
  effects : List Effect
  accepted : createOrder input = .ok (order, effects)

theorem mem_effectsOnQuoted {mode : OrderMode} {effect : Effect} (h : effect ∈ effectsOnQuoted mode) :
    effect = .verifyPayment ∨ effect = .dispatchConfirmationRequest := by
  unfold effectsOnQuoted at h
  split at h
  · exact .inr (List.mem_singleton.1 h)
  · exact .inl (List.mem_singleton.1 h)

theorem Birth.shape (birth : Birth) : (birth.order = bareOrder birth.input ∧ birth.effects = [.requestQuote]) ∨
      (birth.order = { bareOrder birth.input with
          state := .quoted
          price := some birth.input.cardPrice
          quoteSource := some .cardSnapshot
          timestamps := { (bareOrder birth.input).timestamps with
            quotedAt := some birth.input.at } } ∧
        birth.effects = effectsOnQuoted birth.input.mode) := by
  obtain ⟨input, order, effects, h⟩ := birth
  unfold createOrder at h
  split at h
  · cases h
  · cases h
  · split at h
    · cases h; exact .inl ⟨rfl, rfl⟩
    · cases h; exact .inr ⟨rfl, rfl⟩

/-- No order is born with anything that moves money or goods: a birth asks for a price or for a
payment to be checked, and for nothing else. -/
theorem Birth.effects_quiet (birth : Birth) : ∀ effect ∈ birth.effects,
      effect = .requestQuote ∨ effect = .verifyPayment ∨ effect = .dispatchConfirmationRequest := by
  intro effect he
  rcases birth.shape with ⟨-, h⟩ | ⟨-, h⟩
  · rw [h] at he
    exact .inl (List.mem_singleton.1 he)
  · rw [h] at he
    exact .inr (mem_effectsOnQuoted he)

end Coinslot
