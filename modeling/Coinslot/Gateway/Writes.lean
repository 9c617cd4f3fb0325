import Coinslot.Gateway.World

/-!
# What the gateway writes

The specifications of the two decisions of the runner and of the hold they are taken under. A decision
of `apply` that comes to an answer is an `ApplyChange`, one on a presented payment a `PresentChange`:
each names the record that is saved, and nothing else is. A hold either leaves the store as it was or
carries through the change its decision came to (`World.hold_spec`).
-/

namespace Coinslot

open List

variable {Doc α : Type}

/-! ## The records that are saved -/

section
variable (config : Config) (found : StoredOrder Doc)

@[simp] theorem alsoSaid_merchantId (word : PaymentWord) :
    (alsoSaid config found word).merchantId = found.merchantId := rfl

section

variable (facts : OrderFacts Doc)

@[simp] theorem withFacts_order : (withFacts config found facts).order = found.order := by
  unfold withFacts
  split <;> rfl

@[simp] theorem withFacts_merchantId : (withFacts config found facts).merchantId = found.merchantId := by
  unfold withFacts
  split <;> rfl

@[simp] theorem withFacts_payment : (withFacts config found facts).payment = found.payment := by
  unfold withFacts
  split <;> rfl

@[simp] theorem withFacts_payTo : (withFacts config found facts).payTo = found.payTo := by
  unfold withFacts
  split <;> rfl

@[simp] theorem withFacts_paidBy : (withFacts config found facts).paidBy = found.paidBy := by
  unfold withFacts
  split <;> rfl

end

end

/-- What an accepted event saves. -/
def appliedRecord (config : Config) (call : ApplyCall Doc) (found : StoredOrder Doc) (order : Order)
    (effects : List Effect) : StoredOrder Doc :=
  { withFacts config found call.facts with
    order := order
    delivery := goodsToKeep found call.facts.delivery effects }

/-- What a payment that is taken saves. -/
def presentedRecord (config : Config) (presented : Presentation) (t : Int) (found : StoredOrder Doc)
    (order : Order) : StoredOrder Doc :=
  alsoSaid config
    { found with
      order := order
      payment := some presented.payment
      payTo := presented.payTo
      paidBy := some presented.owner } ⟨t, .verify, s!"checked out, paid by {presented.owner}"⟩

section
variable (config : Config) (found : StoredOrder Doc) (order : Order)

@[simp] theorem appliedRecord_merchantId (call : ApplyCall Doc) (effects : List Effect) :
    (appliedRecord config call found order effects).merchantId = found.merchantId :=
  withFacts_merchantId config found call.facts

@[simp] theorem presentedRecord_merchantId (presented : Presentation) (t : Int) :
    (presentedRecord config presented t found order).merchantId = found.merchantId := rfl

end

/-! ## The decisions -/

/-- Everything a decision of `apply` can come to. -/
inductive ApplyChange (config : Config) (call : ApplyCall Doc) (fresh : Nat → String)
    (found : StoredOrder Doc) : OrderChange Doc (Decided Doc) → Prop
  | movedOn : ApplyChange config call fresh found ⟨none, [], .movedOn⟩
  | refused {rejection : TransitionRejection} :
      transition found.order call.event = .error rejection →
      ApplyChange config call fresh found
        ⟨none, [], .decided (.error rejection) (withFacts config found call.facts)⟩
  | moved {order : Order} {effects : List Effect} {alongside : List (WithTheOrder Doc)} :
      transition found.order call.event = .ok (order, effects) →
      writesWithTheOrder (appliedRecord config call found order effects) found.order call.event.at
        fresh effects = .ok alongside →
      ApplyChange config call fresh found
        ⟨some (appliedRecord config call found order effects), alongside,
          .decided (.ok (order, effects)) (appliedRecord config call found order effects)⟩

/-- Everything a decision on a presented payment can come to. -/
inductive PresentChange (config : Config) (presented : Presentation) (t : Int)
    (fresh : Nat → String) (found : StoredOrder Doc) : OrderChange Doc (PresentDecided Doc) → Prop
  | notOwner : found.paidBy ≠ none → found.paidBy ≠ some presented.owner →
      PresentChange config presented t fresh found ⟨none, [], .notOwner found.order.state⟩
  | alreadyYours : eventsForVerifiedPayment found.order t = [] →
      PresentChange config presented t fresh found ⟨none, [], .alreadyYours found.order.state⟩
  | refused {rejection : TransitionRejection} :
      driven found.order (eventsForVerifiedPayment found.order t) = .error (.refused rejection) →
      PresentChange config presented t fresh found ⟨none, [], .refused rejection⟩
  | took {order : Order} {effects : List Effect} {alongside : List (WithTheOrder Doc)} :
      found.paidBy = none ∨ found.paidBy = some presented.owner →
      eventsForVerifiedPayment found.order t ≠ [] →
      driven found.order (eventsForVerifiedPayment found.order t) = .ok (order, effects) →
      writesWithTheOrder (presentedRecord config presented t found order) found.order t fresh
        effects = .ok alongside →
      PresentChange config presented t fresh found
        ⟨some (presentedRecord config presented t found order), alongside,
          .took (presentedRecord config presented t found order) effects⟩

/-- The order does not wait on the hand-over the call was made for. -/
def ApplyCall.MovedOn (call : ApplyCall Doc) (found : StoredOrder Doc) : Prop :=
  ∃ handOver, call.whileWaitingOn = some handOver ∧ found.openDeliveryId ≠ some handOver

/-- Everything `apply` can decide, with the clocks it starts on the way. -/
inductive ApplyDecides (config : Config) (call : ApplyCall Doc) (now : Int) (fresh : Nat → String)
    (found : StoredOrder Doc) : Decision Doc (Decided Doc) → Prop
  | movedOn : call.MovedOn found →
      ApplyDecides config call now fresh found ⟨[], .ok ⟨none, [], .movedOn⟩⟩
  | refused {rejection : TransitionRejection} : ¬ call.MovedOn found →
      transition found.order call.event = .error rejection →
      ApplyDecides config call now fresh found
        ⟨[], .ok ⟨none, [], .decided (.error rejection) (withFacts config found call.facts)⟩⟩
  | impossible {order : Order} {effects : List Effect} {words : String} : ¬ call.MovedOn found →
      transition found.order call.event = .ok (order, effects) →
      refuseToWriteAnImpossibleOrder order = .error words →
      ApplyDecides config call now fresh found ⟨[], .error words⟩
  | unwritten {order : Order} {effects : List Effect} {words : String} : ¬ call.MovedOn found →
      transition found.order call.event = .ok (order, effects) →
      writesWithTheOrder (appliedRecord config call found order effects) found.order call.event.at
        fresh effects = .error words →
      ApplyDecides config call now fresh found
        ⟨arm (deadlines found.order) (deadlines order) call.orderId now, .error words⟩
  | moved {order : Order} {effects : List Effect} {alongside : List (WithTheOrder Doc)} :
      ¬ call.MovedOn found → transition found.order call.event = .ok (order, effects) →
      refuseToWriteAnImpossibleOrder order = .ok () →
      writesWithTheOrder (appliedRecord config call found order effects) found.order call.event.at
        fresh effects = .ok alongside →
      ApplyDecides config call now fresh found
        ⟨arm (deadlines found.order) (deadlines order) call.orderId now,
          .ok ⟨some (appliedRecord config call found order effects), alongside,
            .decided (.ok (order, effects)) (appliedRecord config call found order effects)⟩⟩

/-- Everything that can be decided on a presented payment, with the clocks started on the way. -/
inductive PresentDecides (config : Config) (presented : Presentation) (t now : Int)
    (fresh : Nat → String) (found : StoredOrder Doc) :
    Decision Doc (PresentDecided Doc) → Prop
  | notOwner : found.paidBy ≠ none → found.paidBy ≠ some presented.owner →
      PresentDecides config presented t now fresh found
        ⟨[], .ok ⟨none, [], .notOwner found.order.state⟩⟩
  | alreadyYours : eventsForVerifiedPayment found.order t = [] →
      PresentDecides config presented t now fresh found
        ⟨[], .ok ⟨none, [], .alreadyYours found.order.state⟩⟩
  | refused {rejection : TransitionRejection} :
      driven found.order (eventsForVerifiedPayment found.order t) = .error (.refused rejection) →
      PresentDecides config presented t now fresh found ⟨[], .ok ⟨none, [], .refused rejection⟩⟩
  | impossible {words : String} :
      driven found.order (eventsForVerifiedPayment found.order t) = .error (.threw words) →
      PresentDecides config presented t now fresh found ⟨[], .error words⟩
  | unwritten {order : Order} {effects : List Effect} {words : String} :
      driven found.order (eventsForVerifiedPayment found.order t) = .ok (order, effects) →
      writesWithTheOrder (presentedRecord config presented t found order) found.order t fresh
        effects = .error words →
      PresentDecides config presented t now fresh found
        ⟨arm (deadlines found.order) (deadlines order) presented.orderId now, .error words⟩
  | took {order : Order} {effects : List Effect} {alongside : List (WithTheOrder Doc)} :
      found.paidBy = none ∨ found.paidBy = some presented.owner →
      eventsForVerifiedPayment found.order t ≠ [] →
      driven found.order (eventsForVerifiedPayment found.order t) = .ok (order, effects) →
      writesWithTheOrder (presentedRecord config presented t found order) found.order t fresh
        effects = .ok alongside →
      PresentDecides config presented t now fresh found
        ⟨arm (deadlines found.order) (deadlines order) presented.orderId now,
          .ok ⟨some (presentedRecord config presented t found order), alongside,
            .took (presentedRecord config presented t found order) effects⟩⟩

variable {found : StoredOrder Doc}

theorem movedOn_iff {call : ApplyCall Doc} :
    call.whileWaitingOn.any (fun handOver => found.openDeliveryId ≠ some handOver) = true ↔ call.MovedOn found := by
  rw [Option.any_eq_true]
  simp only [ApplyCall.MovedOn, decide_not, Bool.not_eq_true', decide_eq_false_iff_not, ne_eq]

theorem applyDecision_decides (config : Config) (call : ApplyCall Doc) (now : Int)
    (fresh : Nat → String) (found : StoredOrder Doc) :
    ApplyDecides config call now fresh found (applyDecision config call now fresh found) := by
  unfold applyDecision
  split
  · next hm => exact .movedOn (movedOn_iff.1 hm)
  · next hm =>
    have hm : ¬ call.MovedOn found := fun h => hm (movedOn_iff.2 h)
    simp only [withFacts_order]
    split
    · next hr => exact .refused hm hr
    · next order effects hr =>
      split
      · next hi => exact .impossible hm hr hi
      · next hi =>
        split
        · next hw => exact .unwritten hm hr hw
        · next hw => exact .moved hm hr hi hw

theorem presentDecision_decides (config : Config) (presented : Presentation) (t now : Int)
    (fresh : Nat → String) (found : StoredOrder Doc) : PresentDecides config presented t now fresh found
      (presentDecision config presented t now fresh found) := by
  unfold presentDecision
  split
  · next ho =>
    obtain ⟨owner, hp, hne⟩ := (Option.any_eq_true _ _).1 ho
    exact .notOwner (by simp [hp]) (by simpa [hp] using hne)
  · next ho =>
    have hown : found.paidBy = none ∨ found.paidBy = some presented.owner := by
      cases hp : found.paidBy with
      | none => exact .inl rfl
      | some owner => exact .inr (by simpa [hp] using ho)
    split
    · next he => exact .alreadyYours he
    · next event rest he =>
      rw [← he]
      split
      · next hd => exact .refused hd
      · next hd => exact .impossible hd
      · next hd =>
        dsimp only
        split
        · next hw => exact .unwritten hd hw
        · next hw => exact .took hown (by simp [he]) hd hw

variable {config : Config} {now : Int} {w : World Doc} {cut : Option Nat} {id : String}

theorem applyDecision_change {call : ApplyCall Doc} {fresh : Nat → String} {change : OrderChange Doc (Decided Doc)}
    (h : (applyDecision config call now fresh found).outcome = .ok change) :
    ApplyChange config call fresh found change := by
  have hd := applyDecision_decides config call now fresh found
  generalize applyDecision config call now fresh found = decision at h hd
  cases hd with
  | movedOn _ => cases h; exact .movedOn
  | refused _ hr => cases h; exact .refused hr
  | impossible _ _ _ => cases h
  | unwritten _ _ _ => cases h
  | moved _ hr _ hw => cases h; exact .moved hr hw

theorem presentDecision_change {presented : Presentation} {t : Int} {fresh : Nat → String}
    {change : OrderChange Doc (PresentDecided Doc)}
    (h : (presentDecision config presented t now fresh found).outcome = .ok change) :
    PresentChange config presented t fresh found change := by
  have hd := presentDecision_decides config presented t now fresh found
  generalize presentDecision config presented t now fresh found = decision at h hd
  cases hd with
  | notOwner hn ho => cases h; exact .notOwner hn ho
  | alreadyYours he => cases h; exact .alreadyYours he
  | refused hd => cases h; exact .refused hd
  | impossible _ => cases h
  | unwritten _ _ => cases h
  | took hown hne hd hw => cases h; exact .took hown hne hd hw

/-! ## The events of a payment -/

section
variable {o o' : Order} {t : Int} {fx : List Effect}

theorem driven_cons {event : StateEvent} {rest : List StateEvent} (h : driven o (event :: rest) = .ok (o', fx)) :
    ∃ mid fx₁ fx₂, transition o (.state event) = .ok (mid, fx₁) ∧
      driven mid rest = .ok (o', fx₂) ∧ fx = fx₁ ++ fx₂ := by
  rw [driven] at h
  split at h
  · cases h
  · next mid fx₁ hm =>
    split at h
    · cases h
    · cases hd : driven mid rest with
      | error halt => simp [hd, Except.map] at h
      | ok last =>
        obtain ⟨last, fx₂⟩ := last
        simp only [hd, Except.map, Except.ok.injEq, Prod.mk.injEq] at h
        obtain ⟨rfl, rfl⟩ := h
        exact ⟨mid, fx₁, fx₂, hm, hd, rfl⟩

variable {P : Order → Prop} {events : List StateEvent}

theorem driven_keeps_along {A : StateEvent → Prop}
    (hmove : ∀ {a b : Order} {e : StateEvent} {gx : List Effect}, a.Sound → P a → A e → Move a (.state e) b gx →
      P b) (hA : ∀ e ∈ events, A e) (hb : o.Sound) (hP : P o) (h : driven o events = .ok (o', fx)) :
    o'.Sound ∧ P o' := by
  induction events generalizing o fx with
  | nil =>
    cases h
    exact ⟨hb, hP⟩
  | cons event rest ih =>
    obtain ⟨mid, fx₁, fx₂, hm, hd, -⟩ := driven_cons h
    have hmv := transition_move hb hm
    exact ih (fun e he => hA e (mem_cons_of_mem _ he)) (hmv.sound hb)
      (hmove hb hP (hA event (mem_cons_self ..)) hmv) hd

theorem driven_keeps (hmove : ∀ {a b : Order} {e : OrderEvent} {gx : List Effect}, a.Sound → P a → Move a e b gx →
      P b) (hb : o.Sound) (hP : P o) (h : driven o events = .ok (o', fx)) : o'.Sound ∧ P o' :=
  driven_keeps_along (A := fun _ => True) (fun ha hPa _ hm => hmove ha hPa hm) (fun _ _ => trivial) hb hP h

theorem mem_eventsForVerifiedPayment {order : Order} {event : StateEvent}
    (h : event ∈ eventsForVerifiedPayment order t) : event = .purchaseRepeated t ∨ event = .paymentVerified t := by
  unfold eventsForVerifiedPayment at h
  split at h
  · exact .inr (mem_singleton.1 h)
  · exact .inr (mem_singleton.1 h)
  · simpa using h
  · split at h
    · simpa using h
    · cases h
  · cases h

/-- A payment is verified on an order that has none; one that ran out of time goes to its charge
with the goods that are held. -/
theorem Move.of_paymentVerified (hm : Move o (.state (.paymentVerified t)) o' fx) :
    o.payment = .none ∧ (o.state = .expired → o'.state = .fulfilled ∧ o'.payment = .settling) := by
  cases hm with
  | stands hi _ => exact hi.elim
  | sellsOnSilence _ hq => cases hq
  | closes hc _ =>
    cases hc with
    | silent _ hq _ => cases hq
    | declined _ _ hr => cases hr
  | clears hs hp _ | charges hs hp _ => exact ⟨hp, fun he => by rcases hs with hs | hs <;> simp [hs] at he⟩
  | delivers _ _ hd _ | closesDebt _ hd _ => cases hd
  | fails _ _ hf | owes _ _ hf _ =>
    cases hf with
    | refused hr => cases hr
    | overdue hg => cases hg
  | retries hs hp => exact ⟨hp, fun he => by simp [hs] at he⟩
  | revives _ _ hp => exact ⟨hp, fun _ => ⟨rfl, rfl⟩⟩

/-- A repeat of the purchase starts an order over whose charge did not go through, or one that ran
out of time with its goods held. -/
theorem Move.of_purchaseRepeated (hm : Move o (.state (.purchaseRepeated t)) o' fx) :
    (o.state = .deliveredUnpaid → o.payment = .none ∨ o.payment = .settleFailed) ∧
      (o.state = .expired → o.heldFulfillment = true → o'.state = .expired) := by
  cases hm with
  | stands hi _ => exact ⟨fun hs => absurd hs hi.1, fun hs _ => hs⟩
  | sellsOnSilence _ hq => cases hq
  | closes hc _ =>
    cases hc with
    | silent _ hq _ => cases hq
    | declined _ _ hr => cases hr
  | delivers _ _ hd _ | closesDebt _ hd _ => cases hd
  | fails _ _ hf | owes _ _ hf _ =>
    cases hf with
    | refused hr => cases hr
    | overdue hg => cases hg
  | repeats hs hp => exact ⟨fun _ => hp, fun he => by simp [hs] at he⟩
  | reclaims hs _ => exact ⟨fun he => by simp [hs] at he, fun _ _ => hs⟩

/-- **Where a payment is taken.** The order waits for one, or its charge did not go through, or it ran
out of time with its goods held and goes to its charge in one go. -/
theorem driven_verified (hb : o.Sound) (hne : eventsForVerifiedPayment o t ≠ [])
    (h : driven o (eventsForVerifiedPayment o t) = .ok (o', fx)) : o.payment = .none ∨ o.payment = .settleFailed ∨
      (o.state = .expired ∧ o.heldFulfillment = true ∧ o'.state = .fulfilled ∧ o'.payment = .settling) := by
  have once : driven o [.paymentVerified t] = .ok (o', fx) → o.payment = .none := fun h => by
    obtain ⟨mid, fx₁, fx₂, hm, -⟩ := driven_cons h
    exact (transition_move hb hm).of_paymentVerified.1
  have again : driven o [.purchaseRepeated t, .paymentVerified t] = .ok (o', fx) →
      (o.state = .deliveredUnpaid → o.payment = .none ∨ o.payment = .settleFailed) ∧
        (o.state = .expired → o.heldFulfillment = true →
          o'.state = .fulfilled ∧ o'.payment = .settling) := fun h => by
    obtain ⟨mid, fx₁, fx₂, hm, hd, -⟩ := driven_cons h
    obtain ⟨last, fx₃, fx₄, hl, hn, -⟩ := driven_cons hd
    cases hn
    have hmv := transition_move hb hm
    have hlv := transition_move (hmv.sound hb) hl
    exact ⟨hmv.of_purchaseRepeated.1, fun hs hheld => hlv.of_paymentVerified.2 (hmv.of_purchaseRepeated.2 hs hheld)⟩
  unfold eventsForVerifiedPayment at hne h
  split at hne
  · next hs => simp only [hs] at h; exact .inl (once h)
  · next hs => simp only [hs] at h; exact .inl (once h)
  · next hs =>
    simp only [hs] at h
    rcases (again h).1 hs with hp | hp
    · exact .inl hp
    · exact .inr (.inl hp)
  · next hs =>
    split at hne
    · next hheld =>
      simp only [hs, hheld, if_true] at h
      exact .inr (.inr ⟨hs, hheld, (again h).2 hs hheld⟩)
    · exact absurd rfl hne
  · exact absurd rfl hne

end

/-! ## The hold -/

@[simp] theorem Store.putReceipts_orders (store : Store Doc) (writes : List (WithTheOrder Doc)) :
    (store.putReceipts writes).orders = store.orders := by
  induction writes generalizing store with
  | nil => rfl
  | cons write rest ih =>
    cases write with
    | envelope merchantId envelope afterMs => exact ih store
    | receipt merchantId receipt => exact ih (store.putReceipt merchantId receipt)

theorem Store.saveOrder_orders (store : Store Doc) (writes : List (WithTheOrder Doc)) (id : String)
    {next : StoredOrder Doc} (h : next.merchantId = found.merchantId) :
    ((store.putReceipts writes).saveOrder id found (some next)).orders = store.orders.set id next := by
  simp only [Store.saveOrder, ← h, Store.putReceipts_orders]

def PassedBy (scope : Option String) (found : StoredOrder Doc) : Prop :=
  ∃ merchantId, scope = some merchantId ∧ merchantId ≠ found.merchantId

/-- Everything a hold can come to. Cut off, it leaves some of the reminders behind; otherwise the order
is not found, or the decision about the stored order is thrown, or its change is carried through. -/
inductive World.HoldsTo (w : World Doc) (id : String) (scope : Option String)
    (decide : StoredOrder Doc → Decision Doc α) :
    Option Nat → World Doc × List (Notice Doc) × Option (Store.Held Doc α) → Prop
  | cutBefore {reminders : Nat} : HoldsTo w id scope decide (some reminders) (w, [], none)
  | cutOff {reminders : Nat} {found : StoredOrder Doc} : w.store.orderById id = some found →
      HoldsTo w id scope decide (some reminders)
        (w, remindings ((decide found).armed.take reminders), none)
  | notFound : (∀ found, w.store.orderById id = some found → PassedBy scope found) →
      HoldsTo w id scope decide none (w, [], some .notFound)
  | threw {found : StoredOrder Doc} {words : String} : w.store.orderById id = some found →
      ¬ PassedBy scope found → (decide found).outcome = .error words →
      HoldsTo w id scope decide none (w, remindings (decide found).armed, some (.threw words))
  | decided {found : StoredOrder Doc} {change : OrderChange Doc α} :
      w.store.orderById id = some found → ¬ PassedBy scope found →
      (decide found).outcome = .ok change →
      HoldsTo w id scope decide none
        ({ w with store := (w.store.putReceipts change.alongside).saveOrder id found change.save },
          remindings (decide found).armed ++ publishings change.alongside, some (.decided change))

variable {scope : Option String}

theorem passedBy_iff : scope.any (· ≠ found.merchantId) = true ↔ PassedBy scope found := by
  rw [Option.any_eq_true]
  simp only [PassedBy, decide_not, Bool.not_eq_true', decide_eq_false_iff_not, ne_eq]

/-- **The rule of the hold.** -/
theorem World.hold_holdsTo (w : World Doc) (cut : Option Nat) (id : String) (scope : Option String)
    (decide : StoredOrder Doc → Decision Doc α) : w.HoldsTo id scope decide cut (w.hold cut id scope decide) := by
  unfold World.hold Store.withOrder
  cases hf : w.store.orderById id with
  | none =>
    cases cut with
    | none => exact .notFound fun found h => by rw [hf] at h; cases h
    | some reminders =>
      have h : remindings (List.take reminders []) = ([] : List (Notice Doc)) := by
        rw [take_nil, remindings, map_nil]
      dsimp only
      rw [h]
      exact .cutBefore
  | some found =>
    by_cases hp : PassedBy scope found
    · have hany := passedBy_iff.2 hp
      cases cut with
      | none =>
        dsimp only
        rw [if_pos hany]
        exact .notFound fun found' h => by rw [hf] at h; cases h; exact hp
      | some reminders =>
        have h : remindings (List.take reminders []) = ([] : List (Notice Doc)) := by
          rw [take_nil, remindings, map_nil]
        dsimp only
        rw [if_pos hany, h]
        exact .cutBefore
    · have hany : ¬ scope.any (· ≠ found.merchantId) = true := fun h => hp (passedBy_iff.1 h)
      dsimp only
      rw [if_neg hany]
      cases ho : (decide found).outcome with
      | error words =>
        cases cut with
        | none =>
          have h : w.HoldsTo id scope decide none
              (w, remindings (decide found).armed, some (.threw words)) := .threw hf hp ho
          rw [← append_nil (remindings (decide found).armed)] at h
          exact h
        | some reminders => exact .cutOff hf
      | ok change =>
        cases cut with
        | none => exact .decided hf hp ho
        | some reminders => exact .cutOff hf

variable {decide : StoredOrder Doc → Decision Doc α}

/-- A hold leaves the gateway as it was, or carries through the change its decision about the stored
order came to. -/
theorem World.hold_spec {w' : World Doc} {out : List (Notice Doc)} {held : Option (Store.Held Doc α)}
    (h : w.hold cut id scope decide = (w', out, held)) :
    (w' = w ∧ ∀ change, held ≠ some (.decided change)) ∨
      ∃ found change, w.store.orderById id = some found ∧ (decide found).outcome = .ok change ∧
        held = some (.decided change) ∧ w' = { w with
          store := (w.store.putReceipts change.alongside).saveOrder id found change.save } := by
  have hholds := w.hold_holdsTo cut id scope decide
  rw [h] at hholds
  cases hholds with
  | cutBefore | cutOff _ | notFound _ | threw _ _ _ => exact .inl ⟨rfl, by rintro change ⟨⟩⟩
  | decided hf _ hc => exact .inr ⟨_, _, hf, hc, rfl, rfl⟩

theorem World.hold_out {notice : Notice Doc} (h : notice ∈ (w.hold cut id scope decide).2.1) :
    (∃ reminder afterMs, notice = .reminded reminder afterMs) ∨
      ∃ merchantId envelope afterMs, notice = .published merchantId envelope afterMs := by
  have hr : ∀ armed : List (Reminder × Int), notice ∈ remindings armed →
      ∃ reminder afterMs, notice = .reminded reminder afterMs := by
    intro armed hn
    obtain ⟨reminder, -, rfl⟩ := mem_map.1 hn
    exact ⟨_, _, rfl⟩
  unfold World.hold at h
  split at h
  · exact .inl (hr _ h)
  · rcases mem_append.1 h with h | h
    · exact .inl (hr _ h)
    · right
      unfold Store.Held.publishings at h
      split at h
      · obtain ⟨write, -, hw⟩ := mem_filterMap.1 h
        cases write with
        | envelope merchantId envelope afterMs => cases hw; exact ⟨_, _, _, rfl⟩
        | receipt merchantId receipt => cases hw
      · cases h
      · cases h

end Coinslot
