import Coinslot.Orders.Runs

/-!
# Goods only for money, and once

The goods are released and the receipt is issued together, by the moves that enter `delivered` and by
no other (`Handover`, `Move.handover`). An order that is delivered is left as it is by every event
(`Move.of_final`), so a run hands the goods over once at most.
-/

namespace Coinslot

/-- Neither the goods nor the receipt are among the effects. -/
def NoGoods (effects : List Effect) : Prop := ∀ f ∈ effects, f ≠ .releaseGoodsToAgent ∧ f ≠ .issueReceipt

/-- What a step does about the goods: it hands them over, with the receipt, on the way into
`delivered` and with the payment settled, or it does neither and enters `delivered` from nowhere
else. -/
inductive Handover (o : Order) : Order → List Effect → Prop
  | hands {o' : Order} (extra : List Effect) : o.state ≠ .delivered → o'.state = .delivered →
      o'.payment = .settled → NoGoods extra →
      Handover o o' ([.releaseGoodsToAgent, .issueReceipt] ++ extra)
  | keeps {o' : Order} {fx : List Effect} : NoGoods fx →
      (o'.state = .delivered ↔ o.state = .delivered) → Handover o o' fx

section
variable {o o' : Order} {e : OrderEvent} {fx : List Effect}

theorem noGoods_nil : NoGoods [] := fun f hf => by cases hf

theorem OnlyWords.noGoods (h : OnlyWords fx) : NoGoods fx := fun f hf => by
  rcases h f hf with ⟨a, rfl⟩ | rfl <;> exact ⟨nofun, nofun⟩

theorem OnlyAnswers.noGoods (h : OnlyAnswers fx) : NoGoods fx := h.words.noGoods

theorem effectsOnQuoted_noGoods (mode : OrderMode) : NoGoods (effectsOnQuoted mode) := by
  intro f hf
  rcases mem_effectsOnQuoted hf with rfl | rfl <;> simp

theorem debtEffects_noGoods (closure : Closure) : NoGoods (debtEffects closure) := by simp [NoGoods, debtEffects]

/-- **The step lemma.** -/
theorem Move.handover (hb : o.Sound) (hm : Move o e o' fx) : Handover o o' fx := by
  cases hm with
  | stands _ hfx => exact .keeps hfx.noGoods Iff.rfl
  | quotes hs _ => exact .keeps (effectsOnQuoted_noGoods _) (by simp [hs, quotedOrder])
  | sellsOnSilence hs _ => exact .keeps (effectsOnQuoted_noGoods _) (by simp [hs, quotedOrder])
  | closes hc hfx =>
    have hs : o.state ≠ .delivered := fun hs => by simpa [hs] using hc.early
    exact .keeps hfx.noGoods (iff_of_false (by cases hc <;> rintro ⟨⟩) hs)
  | asks hs _ _ | dispatches hs | refunds hs =>
    exact .keeps noGoods_nil (iff_of_false (by rintro ⟨⟩) (by simp [hs]))
  | asksAgain hs | dispatchesAgain hs | failsAgain hs _ | unpaidSilent hs _ => exact .keeps noGoods_nil Iff.rfl
  | confirms hs => exact .keeps (by simp [NoGoods, acceptanceLanded]) (iff_of_false (by rintro ⟨⟩) (by simp [hs]))
  | asksOnceMore hs | repeats hs _ | holds hs _ _ | reclaims hs _ => exact .keeps (by simp [NoGoods]) Iff.rfl
  | clears hs _ _ | charged hs _ =>
    exact .keeps (by simp [NoGoods]) (iff_of_false (by rintro ⟨⟩) (by rcases hs with hs | hs <;> simp [hs]))
  | charges hs _ _ => exact .keeps (by simp [NoGoods]) Iff.rfl
  | chargeFails hs _ hfx | chargeSilent hs _ hfx =>
    exact .keeps hfx.noGoods (iff_of_false (by rintro ⟨⟩) (by rcases hs with hs | hs <;> simp [hs]))
  | accepts hh hd =>
    exact .keeps (by simp [NoGoods, acceptanceLanded]) (iff_of_false (by simp [hd]) (hh.state_ne (by decide)))
  | redelivers hh hd => exact .keeps (by simp [NoGoods]) (iff_of_false (by simp [hd]) (hh.state_ne (by decide)))
  | delivers hh hm _ hx =>
    refine .hands _ (hh.state_ne (by decide)) rfl ?_ hx.noGoods
    rw [deliveredOrder, hh.payment, hh.paidStage hb, hm]
    rfl
  | fulfils hh _ => exact .keeps (by simp [NoGoods]) (iff_of_false (by rintro ⟨⟩) (hh.state_ne (by decide)))
  | fails hh _ hf => exact .keeps noGoods_nil (iff_of_false (by cases hf <;> rintro ⟨⟩) (hh.state_ne (by decide)))
  | owes hh _ _ hx =>
    refine .keeps (fun f hf => ?_) (iff_of_false (by rintro ⟨⟩) (hh.state_ne (by decide)))
    rcases List.mem_append.1 hf with hf | hf
    · exact debtEffects_noGoods _ f hf
    · exact hx.noGoods f hf
  | settles hs => exact .hands [] (by simp [hs]) rfl rfl noGoods_nil
  | staysUnpaid hs | fulfilledSilent hs =>
    exact .keeps (by simp [NoGoods]) (iff_of_false (by rintro ⟨⟩) (by simp [hs]))
  | retries hs _ => exact .keeps (by simp [NoGoods]) (iff_of_false (by rintro ⟨⟩) (by simp [hs]))
  | settlesLate hs _ => exact .hands [] (by simp [hs]) rfl rfl noGoods_nil
  | revives hs _ _ => exact .keeps (by simp [NoGoods]) (iff_of_false (by rintro ⟨⟩) (by simp [hs]))
  | closesDebt hs _ hx =>
    simp only [Order.Sound, hs] at hb
    exact .hands _ (by simp [hs]) rfl hb.1 hx.noGoods
  | owesAfterAll hs _ => exact .keeps (debtEffects_noGoods _) (iff_of_false (by rintro ⟨⟩) (by simp [hs]))
  | provesUnpaid hs _ => exact .keeps noGoods_nil Iff.rfl

/-! ## The counts -/

theorem NoGoods.count (h : NoGoods fx) : fx.count .releaseGoodsToAgent = 0 ∧ fx.count .issueReceipt = 0 :=
  ⟨List.count_eq_zero.2 fun hm => (h _ hm).1 rfl, List.count_eq_zero.2 fun hm => (h _ hm).2 rfl⟩

/-- A step that enters `delivered` hands over once, and every other step not at all. -/
theorem Handover.count (h : Handover o o' fx) : fx.count .releaseGoodsToAgent =
        (if o.state ≠ .delivered ∧ o'.state = .delivered then 1 else 0) ∧ fx.count .issueReceipt =
        (if o.state ≠ .delivered ∧ o'.state = .delivered then 1 else 0) := by
  cases h with
  | hands _ hs hs' _ hx =>
    obtain ⟨hr, hi⟩ := hx.count
    simp [hs, hs', hr, hi]
  | keeps hfx hiff =>
    obtain ⟨hr, hi⟩ := hfx.count
    simp [hiff, hr, hi]

theorem Birth.effects_noGoods (birth : Birth) : NoGoods birth.effects := fun f hf => by
  rcases birth.effects_quiet f hf with rfl | rfl | rfl <;> exact ⟨nofun, nofun⟩

theorem Birth.undelivered (birth : Birth) : birth.order.state ≠ .delivered := by
  rcases birth.shape with ⟨h, -⟩ | ⟨h, -⟩ <;> rw [h] <;> nofun

theorem Move.of_delivered (hm : Move o e o' fx) (hs : o.state = .delivered) : o' = o ∧ OnlyAnswers fx :=
  hm.of_final (by simp [hs, finalStates])

/-- A run has handed the goods over, and issued the receipt, once where it has come to `delivered`
and not at all where it has not. -/
theorem Birth.handed_over (birth : Birth) (events : List OrderEvent) :
    (emissions (birth.log events)).count .releaseGoodsToAgent =
        (if (birth.run events).state = .delivered then 1 else 0) ∧
      (emissions (birth.log events)).count .issueReceipt =
        (if (birth.run events).state = .delivered then 1 else 0) := by
  refine birth.log_keeps
    (P := fun o log => (emissions log).count .releaseGoodsToAgent =
        (if o.state = .delivered then 1 else 0) ∧
      (emissions log).count .issueReceipt = (if o.state = .delivered then 1 else 0)) ?_ ?_ events
  · intro o e o' fx log hb ih hm
    obtain ⟨hr, hi⟩ := (hm.handover hb).count
    have hstays : o.state = .delivered → o'.state = .delivered := fun hs => by
      rw [(hm.of_delivered hs).1]; exact hs
    simp only [emissions_append, emissions_stepLog, List.count_append, ih.1, ih.2, hr, hi]
    by_cases hs : o.state = .delivered
    · simp [hs, hstays hs]
    · simp [hs]
  · rw [emissions_map, if_neg birth.undelivered]
    exact birth.effects_noGoods.count

end

/-- **Goods only for money, and once.** On every accepted event of every run the goods and the receipt
go out together, exactly where the order enters `delivered`, and with its payment settled; over the
whole run each goes out once where the order has come to `delivered` and never otherwise; and what is
delivered keeps its state and its payment whatever follows. -/
theorem Birth.goods_only_for_money (birth : Birth) (events : List OrderEvent) :
    (∀ e o' fx, transition (birth.run events) e = .ok (o', fx) →
      fx.count .releaseGoodsToAgent =
          (if (birth.run events).state ≠ .delivered ∧ o'.state = .delivered then 1 else 0) ∧
        fx.count .issueReceipt = (if (birth.run events).state ≠ .delivered ∧ o'.state = .delivered then 1 else 0) ∧
        (o'.state = .delivered → o'.payment = .settled)) ∧
      (emissions (birth.log events)).count .releaseGoodsToAgent =
        (if (birth.run events).state = .delivered then 1 else 0) ∧
      (emissions (birth.log events)).count .issueReceipt = (if (birth.run events).state = .delivered then 1 else 0) ∧
      ∀ more, (birth.run events).state = .delivered →
        (birth.run (events ++ more)).state = .delivered ∧
          (birth.run (events ++ more)).payment = (birth.run events).payment := by
  have hb := birth.run_sound events
  refine ⟨fun e o' fx h => ?_, (birth.handed_over events).1, (birth.handed_over events).2, fun more hs => ?_⟩
  · have hm := transition_move hb h
    obtain ⟨hr, hi⟩ := (hm.handover hb).count
    refine ⟨hr, hi, fun hs => ?_⟩
    have hb' := hm.sound hb
    simp only [Order.Sound, hs] at hb'
    exact hb'.1
  · rw [birth.run_append, (run_stands hb (fun hm => hm.of_delivered hs) more).1]
    exact ⟨hs, rfl⟩

end Coinslot
