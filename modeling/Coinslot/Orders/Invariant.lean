import Coinslot.Orders.Moves

/-!
# Every move keeps an order sound

`Move.sound` is the step lemma of the development: a move takes a sound order to a sound order. A
move that starts from an order its merchant holds (`InHand`) is answered off the record of the order
(`InHand.row`).
-/

namespace Coinslot

section
variable {o o' held : Order} {e : OrderEvent} {fx : List Effect}

section

variable (hh : InHand o held)
include hh

/-- What is known of an order its merchant holds: the row of `dispatched`, which is what the rows of
`paid` and `dispatched` have in common. -/
theorem InHand.row (hb : o.Sound) : held.payment = held.mode.settle.paidStage ∧ held.timestamps.paidAt.isSome ∧
      held.price.isSome ∧ held.Unbroken := by
  cases hh with
  | recorded hs =>
    rcases hs with hs | hs <;> simp only [Order.Sound, hs] at hb
    · exact ⟨hb.1, hb.2.1, hb.2.2.1, hb.2.2.2.1⟩
    · exact hb
  | answered hs =>
    simp only [Order.Sound, hs] at hb
    exact ⟨hb.1, hb.2.1, hb.2.2.1, hb.2.2.2.1⟩
  | called hs =>
    simp only [Order.Sound, hs] at hb
    exact ⟨hb.1, hb.2.1, hb.2.2.1, hb.2.2.2.1⟩

theorem InHand.mode : held.mode = o.mode := by rw [hh.eq]

theorem InHand.payment : held.payment = o.payment := by rw [hh.eq]

theorem InHand.was : o.state = .paid ∨ o.state = .dispatched := by
  cases hh with
  | recorded hs => exact hs
  | answered hs | called hs => exact .inl hs

theorem InHand.state_ne {s : OrderState} (hs : s ∉ [.paid, .dispatched]) : o.state ≠ s := by
  rintro rfl
  exact hs (by rcases hh.was with h | h <;> simp [h])

theorem InHand.paidStage (hb : o.Sound) : o.payment = o.mode.settle.paidStage := by
  rcases hh.was with hs | hs <;> simp only [Order.Sound, hs] at hb <;> exact hb.1

end

variable {state : OrderState} {closure : Closure}

theorem Closes.early (hc : Closes o e state closure) :
    o.state ∈ [.created, .quoted, .awaitingConfirmation, .confirmed] := by
  cases hc with
  | unavailable hs | silent hs _ _ | unreached hs => simp [hs]
  | unverified hs _ | declined hs _ _ => rcases hs with hs | hs <;> simp [hs]
  | overdue hs _ => rcases hs with ⟨hs, -⟩ | ⟨hs, -⟩ | ⟨hs, -⟩ <;> simp [hs]
  | departed hs _ => exact hs

theorem Order.Sound.unheld (hb : o.Sound) (hs : o.state ∈ [.created, .quoted, .awaitingConfirmation, .confirmed]) :
    o.heldFulfillment = false := by
  simp only [List.mem_cons, List.not_mem_nil, or_false] at hs
  rcases hs with hs | hs | hs | hs <;> simp only [Order.Sound, hs] at hb
  · exact hb.2.2.1.2
  all_goals exact hb.2.2.2.1.2

theorem Closes.unpaid (hc : Closes o e state closure) (hb : o.Sound) : o.payment = .none := by
  cases hc with
  | unavailable hs | silent hs _ _ | unreached hs =>
    simp only [Order.Sound, hs] at hb
    exact hb.1
  | unverified _ hp | declined _ hp _ | overdue _ hp | departed _ hp => exact hp

theorem Closes.sound (hc : Closes o e state closure) (hb : o.Sound) : (closeWithoutMoney o state closure).Sound := by
  have hheld := hb.unheld hc.early
  have hp := hc.unpaid hb
  cases hc with
  | unavailable _ => exact ⟨hheld, .inr ⟨⟨_, .unavailable, rfl⟩, by simp [closeWithoutMoney, hp]⟩⟩
  | silent _ _ _ => exact ⟨hheld, .inr ⟨⟨_, .quoteSilent, rfl⟩, by simp [closeWithoutMoney, hp]⟩⟩
  | unverified _ _ => exact ⟨hheld, .inr ⟨⟨_, .paymentNotVerified _, rfl⟩, by simp [closeWithoutMoney, hp]⟩⟩
  | declined hs _ _ =>
    rcases hs with hs | hs <;> simp only [Order.Sound, hs] at hb <;>
      exact ⟨hp, ⟨_, _, rfl⟩, hb.2.2.1, hheld⟩
  | overdue hs _ =>
    rcases hs with ⟨hs, rfl⟩ | ⟨hs, rfl⟩ | ⟨hs, rfl⟩ <;> simp only [Order.Sound, hs] at hb <;>
      exact ⟨.inr ⟨⟨_, rfl, by rintro ⟨⟩⟩, hp, hheld⟩, hb.2.2.1⟩
  | unreached hs =>
    simp only [Order.Sound, hs] at hb
    exact ⟨.inr ⟨⟨_, rfl, by rintro ⟨⟩⟩, hp, hheld⟩, hb.2.2.1⟩
  | departed _ _ => exact ⟨rfl, by simp [closeWithoutMoney, hp], hheld⟩

theorem Fails.sound_unpaid (hf : Fails o e state closure)
    (hh : InHand o held) (hm : o.mode.settle = .afterFulfillment) (hb : o.Sound) :
    (closeWithoutMoney held state closure).Sound := by
  obtain ⟨hp, -, hprice, -, hheld⟩ := hh.row hb
  have hmode : held.mode.settle = .afterFulfillment := by rw [hh.mode]; exact hm
  have hver : held.payment = .verified := by rw [hp, hmode]; rfl
  cases hf with
  | refused _ => exact ⟨hver, hmode, ⟨_, _, rfl⟩, hprice, hheld⟩
  | overdue _ =>
    rw [hm]
    exact ⟨.inl ⟨rfl, hmode, .inl hver⟩, hprice⟩
  | departed => exact ⟨rfl, by simp [closeWithoutMoney, hver], hheld⟩

theorem Fails.owesMoney (hf : Fails o e state closure) : closure.OwesMoney := by
  cases hf with
  | refused _ => exact .merchantRefused _ _
  | overdue _ => exact .deadlineExpired _
  | departed => exact .merchantDeparted

section

variable (hm : Move o e o' fx)
include hm

theorem Move.keeps : o'.id = o.id ∧ o'.mode = o.mode ∧ o'.policy = o.policy ∧ o'.cardPrice = o.cardPrice ∧
      o'.test = o.test := by
  cases hm with
  | accepts hh _ | redelivers hh _ | delivers hh _ _ _ | fulfils hh _ | fails hh _ _
  | owes hh _ _ _ => rw [hh.eq]; exact ⟨rfl, rfl, rfl, rfl, rfl⟩
  | _ => exact ⟨rfl, rfl, rfl, rfl, rfl⟩

theorem Move.keeps_price {price : Price} (hb : o.Sound) (hp : o.price = some price) : o'.price = some price := by
  cases hm with
  | quotes hs _ | sellsOnSilence hs _ =>
    simp only [Order.Sound, hs] at hb
    cases hb.2.1.symm.trans hp
  | accepts hh _ | redelivers hh _ | delivers hh _ _ _ | fulfils hh _ | fails hh _ _
  | owes hh _ _ _ => rw [hh.eq]; exact hp
  | _ => exact hp

/-- The states no event moves an order out of. -/
def finalStates : List OrderState := [.delivered, .refunded, .failed, .declined, .cancelled]

theorem Move.start : (o' = o ∧ OnlyAnswers fx) ∨ o.state ∉ finalStates := by
  cases hm with
  | stands _ hfx => exact .inl ⟨rfl, hfx⟩
  | closes hc _ =>
    have := hc.early
    simp only [List.mem_cons, List.not_mem_nil, or_false] at this
    rcases this with hs | hs | hs | hs <;> simp [hs, finalStates]
  | accepts hh _ | redelivers hh _ | delivers hh _ _ _ | fulfils hh _ | fails hh _ _
  | owes hh _ _ _ => rcases hh.was with hs | hs <;> simp [hs, finalStates]
  | clears hs _ _ | charges hs _ _ | charged hs _ | chargeFails hs _ _ | chargeSilent hs _ _ =>
    rcases hs with hs | hs <;> simp [hs, finalStates]
  | _ => right; simp [*, finalStates]

theorem Move.of_final (hs : o.state ∈ finalStates) : o' = o ∧ OnlyAnswers fx :=
  hm.start.resolve_right (not_not_intro hs)

/-- **The step lemma.** A move takes a sound order to a sound order. -/
theorem Move.sound (hb : o.Sound) : o'.Sound := by
  cases hm with
  | stands _ _ => exact hb
  | asksOnceMore _ => exact hb
  | quotes hs _ | sellsOnSilence hs _ =>
    simp only [Order.Sound, hs] at hb
    exact ⟨.inl hb.1, rfl, rfl, hb.2.2.1, hb.2.2.2⟩
  | closes hc _ => exact hc.sound hb
  | asks hs hp _ =>
    simp only [Order.Sound, hs] at hb
    exact ⟨hp, rfl, hb.2.2⟩
  | asksAgain hs =>
    simp only [Order.Sound, hs] at hb ⊢
    exact hb
  | confirms hs =>
    simp only [Order.Sound, hs] at hb
    exact ⟨.inl hb.1, rfl, hb.2.2⟩
  | clears hs _ hm =>
    have hrow : o.price.isSome ∧ o.Unbroken ∧ o.timestamps.dispatchedAt = none := by
      rcases hs with hs | hs <;> simp only [Order.Sound, hs] at hb <;> exact hb.2.2
    exact ⟨by simp [paidOrder, hm, SettleTiming.paidStage], rfl, hrow.1, hrow.2.1, hrow.2.2, rfl⟩
  | charges hs hp hm =>
    rcases hs with hs | hs <;> simp only [Order.Sound, hs] at hb <;>
      simp only [Order.Sound, settlingOrder, hs] <;>
      exact ⟨.inr ⟨rfl, hm, rfl⟩, hb.2⟩
  | charged hs hp =>
    have hrow : o.AwaitsPayment ∧ o.price.isSome ∧ o.Unbroken ∧
        o.timestamps.dispatchedAt = none := by
      rcases hs with hs | hs <;> simp only [Order.Sound, hs] at hb <;> exact ⟨hb.1, hb.2.2⟩
    have hm : o.mode.settle = .onPurchase := by
      rcases hrow.1 with hn | hc
      · simp [hp] at hn
      · exact hc.2.1
    exact ⟨by simp [paidOrder, hm, SettleTiming.paidStage], rfl, hrow.2.1, hrow.2.2.1, hrow.2.2.2, rfl⟩
  | chargeFails hs _ _ =>
    have hheld : o.heldFulfillment = false := hb.unheld (by rcases hs with hs | hs <;> simp [hs])
    exact ⟨hheld, .inr ⟨⟨_, .paymentNotSettled, rfl⟩, by simp⟩⟩
  | chargeSilent hs hp _ =>
    have hrow : o.AwaitsPayment ∧ o.price.isSome ∧ o.heldFulfillment = false := by
      rcases hs with hs | hs <;> simp only [Order.Sound, hs] at hb <;>
        exact ⟨hb.1, hb.2.2.1, hb.2.2.2.1.2⟩
    have hm : o.mode.settle = .onPurchase := by
      rcases hrow.1 with hn | hc
      · simp [hp] at hn
      · exact hc.2.1
    exact ⟨hrow.2.2, .inl ⟨rfl, rfl, hm, hrow.2.1⟩⟩
  | dispatches hs =>
    simp only [Order.Sound, hs] at hb
    exact ⟨hb.1, hb.2.1, hb.2.2.1, hb.2.2.2.1⟩
  | dispatchesAgain hs =>
    simp only [Order.Sound, hs] at hb ⊢
    exact hb
  | accepts hh hd =>
    simp only [Order.Sound, hd]
    exact hh.row hb
  | redelivers hh hd =>
    simp only [Order.Sound, hd]
    exact hh.row hb
  | delivers hh hm _ _ =>
    obtain ⟨hp, -, hprice, -, hheld⟩ := hh.row hb
    rw [hh.mode, hm] at hp
    exact ⟨hp, rfl, hprice, fun h => by cases hheld.symm.trans h⟩
  | fulfils hh hm =>
    obtain ⟨-, -, hprice, -⟩ := hh.row hb
    rw [← hh.mode] at hm
    exact ⟨rfl, rfl, hm, hprice⟩
  | fails hh hm hf => exact hf.sound_unpaid hh hm hb
  | owes hh hm hf _ =>
    obtain ⟨hp, -, hprice, -, hheld⟩ := hh.row hb
    rw [← hh.mode] at hm
    rw [hm] at hp
    exact ⟨hp, hm, ⟨_, hf.owesMoney, rfl⟩, hprice, hheld⟩
  | settles hs =>
    simp only [Order.Sound, hs] at hb
    exact ⟨rfl, rfl, hb.2.2.2, fun _ => hb.2.2.1⟩
  | staysUnpaid hs | fulfilledSilent hs =>
    simp only [Order.Sound, hs] at hb
    exact ⟨hb.2.2.1, rfl, hb.2.2.2, by simp, by simp⟩
  | repeats hs _ | failsAgain hs _ | unpaidSilent hs _ =>
    simp only [Order.Sound, hs] at hb ⊢
    exact ⟨hb.1, hb.2.1, hb.2.2.1, by simp, by simp⟩
  | retries hs _ =>
    simp only [Order.Sound, hs] at hb
    exact ⟨hb.1, hb.2.1, hb.2.2.1, by simp [settlingOrder], fun _ => rfl⟩
  | settlesLate hs _ =>
    simp only [Order.Sound, hs] at hb
    exact ⟨rfl, hb.2.1, hb.2.2.1, fun _ => hb.1⟩
  | holds hs ha hn =>
    simp only [Order.Sound, hs] at hb ⊢
    obtain ⟨hc, -, hp⟩ | ⟨⟨d, hc, hd⟩, -⟩ := hb.1
    · have hv : o.payment = .verified := hp.resolve_right fun h => by simp [hn] at h
      simp only [awaitedLateGoods, Bool.and_eq_true, decide_eq_true_eq] at ha
      exact ⟨.inl ⟨hc, ha.1, .inl hv⟩, hb.2⟩
    · simp only [awaitedLateGoods, hc, Bool.and_eq_true, decide_eq_true_eq] at ha
      cases ha.2
      exact absurd rfl hd
  | reclaims hs hheld =>
    simp only [Order.Sound, hs] at hb ⊢
    obtain ⟨hc, hm, -⟩ | ⟨-, -, hn⟩ := hb.1
    · exact ⟨.inl ⟨hc, hm, .inr ⟨rfl, hheld⟩⟩, hb.2⟩
    · cases hn.symm.trans hheld
  | revives hs hheld _ =>
    simp only [Order.Sound, hs] at hb
    obtain ⟨-, hm, -⟩ | ⟨-, -, hn⟩ := hb.1
    · exact ⟨rfl, rfl, hm, hb.2⟩
    · cases hn.symm.trans hheld
  | closesDebt hs _ _ =>
    simp only [Order.Sound, hs] at hb
    exact ⟨hb.1, rfl, hb.2.2.2.1, fun h => by cases hb.2.2.2.2.symm.trans h⟩
  | refunds hs =>
    simp only [Order.Sound, hs] at hb
    exact hb
  | owesAfterAll hs hc =>
    obtain ⟨-, hm, hprice, hheld⟩ := hb.unaccounted hs hc
    exact ⟨rfl, hm, ⟨_, .paymentOutcomeUnknown, hc⟩, hprice, hheld⟩
  | provesUnpaid hs _ =>
    simp only [Order.Sound, hs] at hb ⊢
    exact ⟨hb.1, .inr ⟨⟨_, .paymentNotSettled, rfl⟩, by simp⟩⟩

end

end

end Coinslot
