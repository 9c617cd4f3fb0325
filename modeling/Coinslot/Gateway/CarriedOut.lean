import Coinslot.Gateway.Effects

/-!
# What is carried out afterwards

What is handed to a run of effects is balanced against what the runs carry out, what they still have
before them and what was lost with them (`World.Performs.balance`). With the division of the effects
between the write of an order and the run after it, this is the rule that every effect is carried out
once (`effects_once`).
-/

namespace Coinslot

open List Dict World

variable {Doc : Type} {R : Runtime} {w w' : World Doc} {out : List (Notice Doc)}

/-! ## The books of the runs -/

section
variable (p : Effect → Bool)

/-- The effects of a kind a run still has before it. -/
def Task.pending (task : Task Doc) : Nat := (task.frames.map fun frame => frame.effects.countP p).sum

/-- The effects of a kind the runs still have before them. -/
def World.pending (w : World Doc) : Nat := w.tasks.total (Task.pending p)

/-- The effects a write of an order hands to the run that comes after it. -/
def Notice.handed : Notice Doc → List Effect
  | .applied _ (some (.decided (.ok (_, effects)) _)) => effects.filter carriedOutAfterwards
  | .presented _ (some (.took _ effects)) => runnableEffects effects
  | _ => []

/-- The effects of a kind a step hands to a run of effects: those of a write, or of a birth. -/
def effectsHanded (_ : World Doc) (action : Action Doc) (came : World Doc × List (Notice Doc)) : Nat :=
  (match action with
    | .create task sale .. => if came.1.tasks.has task then sale.birth.effects.countP p else 0
    | _ => 0) + (came.2.flatMap Notice.handed).countP p

section

variable (w : World Doc)

/-- The effect a run of effects comes to next. -/
def World.nextEffect (k : Nat) : List Effect :=
  match w.tasks.get k with
  | some ⟨none, frame :: _⟩ => frame.effects.take 1
  | _ => []

/-- The effects of a kind a run carries out in a step: the next one, where the run goes on. -/
def World.carriedOutAt (k : Nat) (w' : World Doc) : Nat := if w'.tasks.has k then (w.nextEffect k).countP p else 0

/-- The effects of a kind that are lost with a run, where it does not go on. -/
def World.lostAt (k : Nat) (w' : World Doc) : Nat :=
  if w'.tasks.has k then 0 else w.tasks.share (Task.pending p) k

/-- The effects of a kind a step carries out. -/
def effectsCarriedOut (action : Action Doc) (came : World Doc × List (Notice Doc)) : Nat :=
  match action with
  | .carryOut k => w.carriedOutAt p k came.1
  | _ => 0

/-- The effects of a kind that are lost with the run they were handed to, where it is cut off or thrown
out of. -/
def effectsLost (action : Action Doc) (came : World Doc × List (Notice Doc)) : Nat :=
  match action with
  | .drop k | .carryOut k | .settle k .. => w.lostAt p k came.1
  | _ => 0

end

end

variable {last notice : Notice Doc} {now : Int} {armed : List (Reminder × Int)}
  {alongside : List (WithTheOrder Doc)}

theorem Notice.Quiet.handed (h : notice.Quiet) : notice.handed = [] := by
  unfold Notice.handed
  split
  · exact h.elim
  · exact h.elim
  · rfl

theorem quiet_handed (h : ∀ notice ∈ out, notice.Quiet) : out.flatMap Notice.handed = [] := by
  rw [flatMap_eq_nil_iff]
  exact fun notice hn => (h notice hn).handed

theorem publishings_handed (alongside : List (WithTheOrder Doc)) :
    (publishings alongside).flatMap Notice.handed = [] := by
  rw [flatMap_eq_nil_iff]
  intro notice hn
  obtain ⟨write, -, hw⟩ := mem_filterMap.1 hn
  cases write with
  | envelope merchantId envelope afterMs =>
    cases hw
    rfl
  | receipt merchantId receipt => cases hw

/-- The frame a call of `apply` leaves to carry out, where it leaves one. -/
def Aftermath.handed : Aftermath Doc → List Effect
  | .runs frame => frame.effects
  | .lost | .finished => []

/-- What a call of `apply` hands over is what it leaves to carry out. -/
theorem World.Applies.handed {call : ApplyCall Doc} {fresh : Nat → String}
    {came : World Doc × List (Notice Doc) × Aftermath Doc} (h : w.Applies R call now fresh came) :
    came.2.1.flatMap Notice.handed = came.2.2.handed ∧ came.1.tasks = w.tasks := by
  cases h with
  | lost hq => exact ⟨quiet_handed hq, rfl⟩
  | notFound _ | movedOn _ _ _ | refused _ _ _ => exact ⟨rfl, rfl⟩
  | moved _ _ _ _ _ =>
    refine ⟨?_, rfl⟩
    rw [flatMap_append, flatMap_append, quiet_handed (quiet_remindings _), publishings_handed]
    exact append_nil _

section
variable {p : Effect → Bool}

variable {k : Nat}

variable {tasks : Dict Nat (Task Doc)} {task : Nat}

theorem pending_set_new (task : Task Doc) (h : tasks.has k = false) :
    (tasks.set k task).total (Task.pending p) = tasks.total (Task.pending p) + task.pending p := by
  have hnone : tasks.get k = none := by simpa [Dict.has] using h
  have := tasks.total_set (Task.pending p) k task
  rw [Dict.share, hnone] at this
  exact this

theorem pending_set {was : Task Doc} (task : Task Doc) (h : tasks.get k = some was) :
    (tasks.set k task).total (Task.pending p) + was.pending p = tasks.total (Task.pending p) + task.pending p := by
  have := tasks.total_set (Task.pending p) k task
  rw [Dict.share, h] at this
  exact this

theorem has_set_self (tasks : Dict Nat (Task Doc)) (k : Nat) (task : Task Doc) :
    (tasks.set k task).has k = true := by
  simp [Dict.has]

theorem has_delete_self (tasks : Dict Nat (Task Doc)) (k : Nat) : (tasks.delete k).has k = false := by
  simp [Dict.has, get_delete]

theorem pending_cons (waiting : Option Charge) (frame : Frame Doc) (rest : List (Frame Doc)) :
    Task.pending p ⟨waiting, frame :: rest⟩ =
      frame.effects.countP p + (rest.map fun frame => frame.effects.countP p).sum := rfl

theorem pending_gone (h : w'.tasks = w.tasks.delete k) :
    w.pending p = w.carriedOutAt p k w' + w.lostAt p k w' + w'.pending p := by
  have hdelete := w.tasks.total_delete (Task.pending p) k
  simp only [World.pending, carriedOutAt, lostAt, h, has_delete_self, Bool.false_eq_true, if_false]
  omega

variable {frame : Frame Doc} {rest : List (Frame Doc)}

section

variable (h : w.tasks.get k = some ⟨none, frame :: rest⟩)
include h

theorem pending_goes {waiting : Option Charge} {effect : Effect} {more : List Effect}
    (he : frame.effects = effect :: more)
    (ht : w'.tasks = w.tasks.set k ⟨waiting, { frame with effects := more } :: rest⟩) :
    w.pending p = w.carriedOutAt p k w' + w.lostAt p k w' + w'.pending p := by
  have hset := pending_set (p := p) ⟨waiting, { frame with effects := more } :: rest⟩ h
  have hnext : w.nextEffect k = [effect] := by
    simp only [nextEffect, h, he, take_succ_cons, take_zero]
  rw [pending_cons, pending_cons, he, countP_cons] at hset
  dsimp only at hset
  simp only [World.pending, carriedOutAt, lostAt, ht, has_set_self, if_true, hnext, countP_singleton]
  omega

theorem pending_returns (he : frame.effects = []) (ht : w'.tasks = w.tasks.set k ⟨none, rest⟩) :
    w.pending p = w.carriedOutAt p k w' + w.lostAt p k w' + w'.pending p := by
  have hset := pending_set (p := p) ⟨none, rest⟩ h
  have hnext : w.nextEffect k = [] := by simp only [nextEffect, h, he, take_nil]
  have hrest : Task.pending p ⟨none, rest⟩ = (rest.map fun frame => frame.effects.countP p).sum := rfl
  rw [pending_cons, he, countP_nil, hrest] at hset
  simp only [World.pending, carriedOutAt, lostAt, ht, has_set_self, if_true, hnext, countP_nil]
  omega

theorem World.carryOut_balance : w.pending p = w.carriedOutAt p k (w.carryOut k frame rest).1 +
      w.lostAt p k (w.carryOut k frame rest).1 + (w.carryOut k frame rest).1.pending p := by
  obtain ⟨record, effects, t⟩ := frame
  unfold carryOut
  cases effects with
  | nil =>
    dsimp only [World.returns]
    split
    · exact pending_gone rfl
    · exact pending_returns h rfl rfl
  | cons effect more =>
    cases effect with
    | executePayment =>
      dsimp only
      split
      · exact pending_gone rfl
      · exact pending_goes h rfl rfl
    | dispatchOrder | redeliverOrder _ _ | emitMerchantEvent _ | issueReceipt | invitePayment
    | dispatchConfirmationRequest => exact pending_gone rfl
    | answerMerchant _ | requestQuote | verifyPayment | markRefundDue _ | releaseGoodsToAgent
    | holdFulfillment => exact pending_goes h rfl rfl

end

theorem World.settle_balance {charge : Charge} (h : w.tasks.get k = some ⟨some charge, frame :: rest⟩)
    (outcome : SettleOutcome) (now : Int) (fresh : Nat → String) (cut : Option Nat) :
    ((w.settle R k frame rest outcome now fresh cut).2.flatMap Notice.handed).countP p + w.pending p =
      w.lostAt p k (w.settle R k frame rest outcome now fresh cut).1 +
        (w.settle R k frame rest outcome now fresh cut).1.pending p := by
  have hnext : w.nextEffect k = [] := by simp only [nextEffect, h]
  have gone {w' : World Doc} (ht : w'.tasks = w.tasks.delete k) :
      w.pending p = w.lostAt p k w' + w'.pending p := by
    have hgone := pending_gone (p := p) ht
    simp only [carriedOutAt, hnext, countP_nil, ite_self, Nat.zero_add] at hgone
    exact hgone
  have goes {w' : World Doc} (inner : List (Frame Doc))
      (ht : w'.tasks = w.tasks.set k ⟨none, inner ++ frame :: rest⟩) :
      (inner.map fun frame => frame.effects.countP p).sum + w.pending p = w.lostAt p k w' + w'.pending p := by
    have hset := pending_set (p := p) ⟨none, inner ++ frame :: rest⟩ h
    simp only [Task.pending, map_append, sum_append] at hset
    simp only [World.pending, lostAt, ht, has_set_self, if_true]
    omega
  unfold World.settle
  split
  · next call _ =>
    have happlies := w.apply_applies R call now fresh cut
    generalize w.apply R call now fresh cut = came at happlies
    obtain ⟨hhanded, htasks⟩ := happlies.handed
    dsimp only
    split
    · next hr =>
      rw [hhanded, hr]
      refine (Nat.zero_add _).trans (gone ?_)
      rw [← htasks]
      rfl
    · next hr =>
      rw [hhanded, hr]
      refine goes [] ?_
      rw [← htasks]
      rfl
    · next inner hr =>
      rw [hhanded, hr]
      refine goes [inner] ?_
      rw [← htasks]
      rfl
  · next orderId word _ =>
    have hholds := w.hold_holdsTo cut orderId none (writeDownDecision R.config word)
    generalize w.hold cut orderId none (writeDownDecision R.config word) = came at hholds
    cases hholds with
    | cutBefore => exact (Nat.zero_add _).trans (gone rfl)
    | cutOff _ =>
      rw [quiet_handed (quiet_remindings _)]
      exact (Nat.zero_add _).trans (gone rfl)
    | notFound _ => exact goes [] rfl
    | threw _ _ ho => cases ho
    | decided _ _ hc =>
      cases hc
      exact goes [] rfl

theorem World.create_balance (hn : w.tasks.has task = false) (sale : Sale Doc) (now : Int) (fresh : Nat → String)
    (cut : Option Nat) :
    effectsHanded p w (.create task sale now fresh cut) (w.create task sale now fresh cut) +
      w.pending p = (w.create task sale now fresh cut).1.pending p := by
  have same {out : List (Notice Doc)} (hq : ∀ notice ∈ out, notice.Quiet) :
      effectsHanded p w (.create task sale now fresh cut) (w, out) + w.pending p = w.pending p := by
    simp only [effectsHanded, hn, Bool.false_eq_true, if_false, quiet_handed hq, countP_nil, Nat.zero_add]
  unfold World.create
  dsimp only
  split
  · exact same (quiet_singleton trivial)
  · exact same (quiet_remindings _)
  · split
    · exact same (quiet_append (quiet_remindings _) (quiet_singleton trivial))
    · split
      · exact same (quiet_append (quiet_remindings _) (quiet_singleton trivial))
      · have hset := pending_set_new (p := p) ⟨none, [⟨sale.record, sale.birth.effects, sale.birth.input.at⟩]⟩ hn
        simp only [effectsHanded, has_set_self, if_true, quiet_handed (quiet_remindings _),
          countP_nil, World.pending, hset, Task.pending, map_cons, map_nil,
          sum_cons, sum_nil]
        omega
    · exact same (quiet_append (quiet_remindings _) (quiet_singleton trivial))

theorem World.applyAlone_balance (hn : w.tasks.has task = false) (call : ApplyCall Doc) (now : Int)
    (fresh : Nat → String) (cut : Option Nat) :
    ((w.applyAlone R task call now fresh cut).2.flatMap Notice.handed).countP p + w.pending p =
      (w.applyAlone R task call now fresh cut).1.pending p := by
  have happlies := w.apply_applies R call now fresh cut
  unfold applyAlone
  generalize w.apply R call now fresh cut = came at happlies
  obtain ⟨hhanded, htasks⟩ := happlies.handed
  dsimp only
  split
  · next frame hr =>
    have hset := pending_set_new (p := p) ⟨none, [frame]⟩ hn
    rw [hhanded, hr]
    simp only [Aftermath.handed, World.pending, htasks, hset, Task.pending, map_cons, map_nil, sum_cons, sum_nil]
    omega
  · next hr =>
    rw [hhanded, hr]
    simp only [Aftermath.handed, countP_nil, Nat.zero_add, World.pending, htasks]
  · next hr =>
    rw [hhanded, hr]
    simp only [Aftermath.handed, countP_nil, Nat.zero_add, World.pending, htasks]

theorem World.Presents.balance {call : PayCall} {charge : Charge} {owner : String} {t now : Int}
    {fresh : Nat → String} {came : World Doc × List (Notice Doc)}
    (h : w.Presents R k task call charge owner t now fresh came) (hn : w.tasks.has task = false) :
    (came.2.flatMap Notice.handed).countP p + w.pending p = came.1.pending p := by
  cases h with
  | hangsUp hq =>
    rw [quiet_handed hq]
    exact Nat.zero_add _
  | turnsAway hq =>
    rw [quiet_handed hq]
    exact Nat.zero_add _
  | @took found order effects alongside _ _ _ _ _ =>
    have hset := pending_set_new (p := p)
      ⟨none, [⟨presentedRecord R.config (call.presentation charge owner) t found order,
        runnableEffects effects, t⟩]⟩ hn
    rw [flatMap_append, flatMap_append, quiet_handed (quiet_remindings _), publishings_handed]
    simp only [nil_append, flatMap_cons, flatMap_nil, append_nil, Notice.handed, World.pending]
    refine Eq.trans ?_ hset.symm
    simp only [Task.pending, map_cons, map_nil, sum_cons, sum_nil]
    omega

/-- **What is handed to the runs of effects.** It is carried out, or lost with its run, or still to be
carried out. -/
theorem World.Performs.balance {action : Action Doc} {came : World Doc × List (Notice Doc)}
    (h : w.Performs R action came) : effectsHanded p w action came + w.pending p =
      effectsCarriedOut p w action came + effectsLost p w action came + came.1.pending p := by
  -- A step that goes on with the runs as they were hands nothing to them and takes nothing out.
  have same {came : World Doc × List (Notice Doc)} (ht : came.1.tasks = w.tasks)
      (hq : ∀ notice ∈ came.2, notice.Quiet) :
      0 + (came.2.flatMap Notice.handed).countP p + w.pending p = 0 + 0 + came.1.pending p := by
    rw [quiet_handed hq, countP_nil, World.pending, World.pending, ht]
  cases h with
  | create task sale now fresh cut hn =>
    rw [create_balance hn sale now fresh cut]
    exact (Nat.zero_add _).symm
  | apply task call now fresh cut hn =>
    have hbalance := applyAlone_balance (p := p) (R := R) hn call now fresh cut
    simp only [effectsHanded, effectsCarriedOut, effectsLost]
    omega
  | pay k orderId payment fingerprint =>
    unfold World.pay
    split
    · exact same rfl (quiet_singleton trivial)
    · split
      · exact same rfl (quiet_singleton trivial)
      · exact same rfl quiet_nil
  | readWallet _ _ => exact same rfl quiet_nil
  | verify _ _ outcome => cases outcome <;> exact same rfl (quiet_singleton trivial)
  | claim _ _ now =>
    unfold World.claim
    dsimp only
    split <;> exact same rfl quiet_nil
  | readHolder _ _ => exact same rfl (quiet_singleton trivial)
  | @present k call charge owner _ _ task t now fresh cut hn =>
    have hbalance := (w.present_presents R k task call charge owner t now fresh cut).balance (p := p) hn
    simp only [effectsHanded, effectsCarriedOut, effectsLost]
    omega
  | release _ _ => exact same rfl (quiet_singleton trivial)
  | hangUp k => exact same rfl quiet_nil
  | @carryOut k frame rest ht =>
    have hbalance := carryOut_balance (p := p) ht
    simp only [effectsHanded, effectsCarriedOut, effectsLost,
      quiet_handed (w.carryOut_quiet k frame rest).2, countP_nil]
    omega
  | settle ht outcome now fresh cut =>
    have hbalance := settle_balance (p := p) (R := R) ht outcome now fresh cut
    simp only [effectsHanded, effectsCarriedOut, effectsLost]
    omega
  | drop k =>
    have hgone : w.pending p = w.carriedOutAt p k (w.drop k) + w.lostAt p k (w.drop k) +
        (w.drop k).pending p := pending_gone rfl
    have hnone : w.carriedOutAt p k (w.drop k) = 0 := by
      simp only [carriedOutAt, World.drop, has_delete_self, Bool.false_eq_true, if_false]
    simp only [effectsHanded, effectsCarriedOut, effectsLost, flatMap_nil, countP_nil]
    omega
  | movePayoutWallet merchantId wallet => exact same rfl quiet_nil
  | forgetClaims instant => exact same rfl quiet_nil
  | beginSweep k now =>
    unfold World.beginSweep
    split <;> exact same rfl quiet_nil
  | @sweepOpen k sweep record rest _ _ holdsOrder id =>
    unfold World.sweepOpen
    split
    · exact same rfl (quiet_singleton trivial)
    · next envelope _ =>
      have hnone : (((envelope.map fun e => Notice.published record.merchantId e none).toList ++
          remindings (sweepTheClocks record sweep.now)).flatMap Notice.handed) = [] := by
        rw [flatMap_append, quiet_handed (quiet_remindings _)]
        cases envelope <;> rfl
      simp only [effectsHanded, effectsCarriedOut, effectsLost, hnone, countP_nil]
      rfl
  | sweepDelivered _ _ => exact same rfl quiet_nil
  | sweepReceipt _ _ id =>
    unfold World.sweepReceipt
    split
    · exact same rfl (quiet_singleton trivial)
    · exact same rfl quiet_nil
  | stopSweep k => exact same rfl quiet_nil
  | loseTheName => exact same rfl quiet_nil

end

/-! ## The division of the effects -/

/-- The effects of a write of an order went where they belong: those that are not carried out
afterwards were written down in the write, and `rest` is what a run of effects goes on with. -/
def World.Divides (w w' : World Doc) (out : List (Notice Doc)) (id : String)
    (found known : StoredOrder Doc) (t : Int) (effects rest : List Effect) : Prop :=
  ∃ alongside,
    List.Forall₂ (WrittenAs known found.order t)
      (effects.filter fun effect => !carriedOutAfterwards effect) alongside ∧
    w'.store = (w.writes id found known alongside).store ∧
    (∀ merchantId envelope afterMs, .published merchantId envelope afterMs ∈ out ↔
      .envelope merchantId envelope afterMs ∈ alongside) ∧
    w'.Runs ⟨known, rest, t⟩

theorem published_iff (hlast : ∀ m e a, last ≠ .published m e a) (m : String) (e : WorkerEnvelope Doc)
    (a : Option Rat) :
    .published m e a ∈ remindings armed ++ publishings alongside ++ [last] ↔ .envelope m e a ∈ alongside := by
  constructor
  · intro h
    rcases mem_append.1 h with h | h
    · rcases mem_append.1 h with h | h
      · exact (quiet_remindings armed _ h).elim
      · obtain ⟨write, hw, hp⟩ := mem_filterMap.1 h
        cases write with
        | envelope _ _ _ =>
          cases hp
          exact hw
        | receipt _ _ => cases hp
    · exact absurd (mem_singleton.1 h).symm (hlast m e a)
  · intro h
    refine mem_append_left _ (mem_append_right _ ?_)
    exact mem_filterMap.2 ⟨_, h, rfl⟩

theorem mem_written (hn : ¬ notice.Quiet) (hp : ∀ m e a, notice ≠ .published m e a)
    (h : notice ∈ remindings armed ++ publishings alongside ++ [last]) : notice = last := by
  rcases mem_append.1 h with h | h
  · rcases mem_append.1 h with h | h
    · exact absurd (quiet_remindings armed _ h) hn
    · obtain ⟨write, -, hw⟩ := mem_filterMap.1 h
      cases write with
      | envelope _ _ _ =>
        cases hw
        exact absurd rfl (hp _ _ _)
      | receipt _ _ => cases hw
  · exact mem_singleton.1 h

variable {action : Action Doc}

section

variable (h : EffectStep R w w' out action)
include h

variable {effects : List Effect} {known : StoredOrder Doc}

/-- **An event of an order.** Its effects are divided between the write and the run after it. -/
theorem EffectStep.applied {call : ApplyCall Doc} {order : Order}
    (hin : .applied call (some (.decided (.ok (order, effects)) known)) ∈ out) :
    ∃ found, w.store.orderById call.orderId = some found ∧ transition found.order call.event = .ok (order, effects) ∧
      w.Divides w' out call.orderId found known call.event.at effects (effects.filter carriedOutAfterwards) := by
  cases h with
  | stands _ _ hq => exact (hq _ hin).elim
  | receipts _ _ _ hq => exact (hq _ hin).elim
  | puts _ hq =>
    rcases hq _ hin with hq | ⟨m, e, a, ⟨⟩⟩
    exact hq.elim
  | opens _ _ _ hout =>
    rw [hout] at hin
    exact (quiet_remindings _ _ hin).elim
  | notes _ _ hq => exact (hq _ hin).elim
  | @applies _ call' found order' effects' alongside now fresh _ hf ht hwrites hs hout hruns =>
    rw [hout] at hin
    cases mem_written (by rintro ⟨⟩) (by rintro _ _ _ ⟨⟩) hin
    refine ⟨found, hf, ht, alongside, writesWithTheOrder_written hwrites, hs, ?_, hruns⟩
    rw [hout]
    exact published_iff (by rintro _ _ _ ⟨⟩)
  | takes _ _ _ _ _ _ hout _ =>
    rw [hout] at hin
    cases mem_written (by rintro ⟨⟩) (by rintro _ _ _ ⟨⟩) hin

/-- **A presented payment.** The effects of its events are divided between the write and the run after
it, but for the request to verify it. -/
theorem EffectStep.presented {shown : Presentation} (hin : .presented shown (some (.took known effects)) ∈ out) :
    ∃ found t, w.store.orderById shown.orderId = some found ∧
      driven found.order (eventsForVerifiedPayment found.order t) = .ok (known.order, effects) ∧
      w.Divides w' out shown.orderId found known t effects
        ((effects.filter carriedOutAfterwards).filter (· ≠ .verifyPayment)) := by
  cases h with
  | stands _ _ hq => exact (hq _ hin).elim
  | receipts _ _ _ hq => exact (hq _ hin).elim
  | puts _ hq =>
    rcases hq _ hin with hq | ⟨m, e, a, ⟨⟩⟩
    exact hq.elim
  | opens _ _ _ hout =>
    rw [hout] at hin
    exact (quiet_remindings _ _ hin).elim
  | notes _ _ hq => exact (hq _ hin).elim
  | applies _ _ _ _ _ hout _ =>
    rw [hout] at hin
    cases mem_written (by rintro ⟨⟩) (by rintro _ _ _ ⟨⟩) hin
  | @takes k task t now fresh cut call charge owner found order effects' alongside hf hown hne hd
      hwrites hs hout htask =>
    rw [hout] at hin
    cases mem_written (by rintro ⟨⟩) (by rintro _ _ _ ⟨⟩) hin
    refine ⟨found, t, hf, hd, alongside, writesWithTheOrder_written hwrites, hs, ?_, task, [], ?_⟩
    · rw [hout]
      exact published_iff (by rintro _ _ _ ⟨⟩)
    · rw [htask, runnableEffects, filter_filter]

theorem EffectStep.reported {id : String} {before after : StoredOrder Doc} (hb : w.store.orderById id = some before)
    (ha : w'.store.orderById id = some after) (hne : after.order ≠ before.order) :
    (∃ call effects, call.orderId = id ∧ .applied call (some (.decided (.ok (after.order, effects)) after)) ∈ out) ∨
    ∃ shown effects, shown.orderId = id ∧ .presented shown (some (.took after effects)) ∈ out := by
  have stood (horders : w'.store.orders = w.store.orders) : after = before := by
    rw [orderById_eq horders] at ha
    cases ha.symm.trans hb
    rfl
  have written {key : String} {next : StoredOrder Doc}
      (horders : w'.store.orders = w.store.orders.set key next) : id = key ∧ after = next := by
    rcases orderById_of_set horders ha with hwritten | hbefore
    · exact hwritten
    · cases hbefore.symm.trans hb
      exact absurd rfl hne
  cases h with
  | stands ho _ _ => exact absurd (congrArg _ (stood ho)) hne
  | receipts _ _ hs _ => exact absurd (congrArg _ (stood (by rw [hs]; rfl))) hne
  | puts hs _ => exact absurd (congrArg _ (stood (by rw [hs]))) hne
  | opens sale hn hs _ =>
    obtain ⟨rfl, -⟩ := written (by rw [hs])
    cases hn.symm.trans hb
  | notes hf hs _ =>
    obtain ⟨rfl, rfl⟩ := written (by rw [hs])
    cases hf.symm.trans hb
    exact absurd rfl hne
  | @applies _ call found order effects alongside now fresh _ hf ht hwrites hs hout _ =>
    have horders := (congrArg Store.orders hs).trans (w.store.saveOrder_orders alongside call.orderId
      (appliedRecord_merchantId R.config found order call effects))
    obtain ⟨rfl, rfl⟩ := written horders
    refine .inl ⟨call, effects, rfl, ?_⟩
    rw [hout]
    exact mem_append_right _ (mem_singleton.2 rfl)
  | @takes k task t now fresh cut call charge owner found order effects alongside hf hown hne hd
      hwrites hs hout htask =>
    have horders := (congrArg Store.orders hs).trans (w.store.saveOrder_orders alongside call.orderId
      (presentedRecord_merchantId R.config found order (call.presentation charge owner) t))
    obtain ⟨rfl, rfl⟩ := written horders
    refine .inr ⟨call.presentation charge owner, effects, rfl, ?_⟩
    rw [hout]
    exact mem_append_right _ (mem_singleton.2 rfl)

end

/-- A birth that is written down asks for nothing that lands with the order, and hands all it asks for
to the run after it. -/
theorem World.create_hands {task : Nat} {sale : Sale Doc} {fresh : Nat → String} {cut : Option Nat}
    (hn : w.store.orderById sale.record.order.id = none)
    (h : (w.create task sale now fresh cut).1.store.orderById sale.record.order.id ≠ none) :
    (∀ effect ∈ sale.birth.effects, carriedOutAfterwards effect = true) ∧ (w.create task sale now fresh cut).1.Runs
        ⟨sale.record, sale.birth.effects, sale.birth.input.at⟩ := by
  unfold World.create at h ⊢
  dsimp only at h ⊢
  split at h
  · exact absurd hn h
  · exact absurd hn h
  · split at h
    · exact absurd hn h
    · next hwrites =>
      split at h
      · exact absurd hn h
      · refine ⟨fun effect he => ?_, task, [], get_set_self _ _ _⟩
        have hnone := writesWithTheOrder_written hwrites
        rw [forall₂_nil_right_iff, filter_eq_nil_iff] at hnone
        simpa using hnone effect he
    · exact absurd hn h

/-! ## The runs -/

section

variable (R : Runtime)

theorem gatewayRun_receipted (actions : List (Action Doc)) : (gatewayRun R actions).Receipted := by
  refine ((gatewayMachine R Doc).log_induction (P := fun w log => w.Owned log ∧ w.Receipted)
    (fun hP hstep => ⟨hP.1.step hstep, hP.2.step hP.1 (step_performs hstep).effectStep⟩)
    (l := []) ⟨gatewayRun_owned R [], ?_⟩ actions).2
  rintro id record ⟨⟩

/-- What a quantity comes to over a run that starts with a gateway nothing has happened to. -/
def gatewayTally (f : World Doc → Action Doc → World Doc × List (Notice Doc) → Nat) (actions : List (Action Doc)) :
    Nat :=
  (gatewayMachine R Doc).tally f .empty actions

theorem gatewayTally_envelopes (actions : List (Action Doc)) :
    gatewayTally R envelopesPut actions = gatewayTally R handOversAsked actions := by
  refine (gatewayMachine R Doc).tally_congr (P := fun w => ∃ log, w.Owned log) ?_ ?_
    ⟨[], gatewayRun_owned R []⟩ actions
  · rintro w action w' out ⟨log, hw⟩ hstep
    exact ⟨_, hw.step hstep⟩
  · rintro w action w' out ⟨log, hw⟩ hstep
    exact (step_performs hstep).effectStep.envelopes hw

/-- What was handed to the runs of effects was carried out, was lost with its run, or is still to be
carried out. -/
theorem gatewayTally_effects (p : Effect → Bool) (actions : List (Action Doc)) :
    gatewayTally R (effectsHanded p) actions =
      gatewayTally R (effectsCarriedOut p) actions + gatewayTally R (effectsLost p) actions +
        (gatewayRun R actions).pending p := by
  have hbalance := (gatewayMachine R Doc).tally_balance (World.pending p) (P := fun _ => True)
    (f := effectsHanded p)
    (g := fun w action came => effectsCarriedOut p w action came + effectsLost p w action came)
    (fun _ _ => trivial)
    (fun _ hstep => (step_performs hstep).balance) (s := .empty) trivial actions
  rw [Reactor.tally_add] at hbalance
  exact hbalance

end

/-- **Effects are carried out once.** Over every run of the gateway, with runs of effects cut off and
thrown out of anywhere and sweeps at any time: every write that leaves an order in another state
reports the transitions it commits; of what they ask for, what is not carried out afterwards is
written down in that write, and the rest is handed to the run that comes after it, but for the request
to verify a payment that is presented as verified; a birth hands over all it asks for; every delivered
order has its receipt; as many envelopes hand an order over as transitions asked for it, a sweep's own
aside; and what is handed to the runs is carried out once, lost with its run or still to come. -/
theorem effects_once (R : Runtime) (actions : List (Action Doc)) :
    (∀ action w' out, (gatewayRun R actions).step R action = .ok (w', out) →
      (∀ id before after, (gatewayRun R actions).store.orderById id = some before →
        w'.store.orderById id = some after → after.order ≠ before.order →
        (∃ call effects, call.orderId = id ∧
          .applied call (some (.decided (.ok (after.order, effects)) after)) ∈ out) ∨
        ∃ shown effects, shown.orderId = id ∧ .presented shown (some (.took after effects)) ∈ out) ∧
      (∀ call order effects known,
        .applied call (some (.decided (.ok (order, effects)) known)) ∈ out →
        ∃ found, (gatewayRun R actions).store.orderById call.orderId = some found ∧
          transition found.order call.event = .ok (order, effects) ∧
          (gatewayRun R actions).Divides w' out call.orderId found known call.event.at effects
            (effects.filter carriedOutAfterwards)) ∧
      (∀ shown known effects, .presented shown (some (.took known effects)) ∈ out →
        ∃ found t, (gatewayRun R actions).store.orderById shown.orderId = some found ∧
          driven found.order (eventsForVerifiedPayment found.order t) = .ok (known.order, effects) ∧
          (gatewayRun R actions).Divides w' out shown.orderId found known t effects
            ((effects.filter carriedOutAfterwards).filter (· ≠ .verifyPayment))) ∧
      (∀ task sale now fresh cut, action = .create task sale now fresh cut →
        (gatewayRun R actions).store.orderById sale.record.order.id = none →
        w'.store.orderById sale.record.order.id ≠ none →
        (∀ effect ∈ sale.birth.effects, carriedOutAfterwards effect = true) ∧
          w'.Runs ⟨sale.record, sale.birth.effects, sale.birth.input.at⟩)) ∧
    (gatewayRun R actions).Receipted ∧
    gatewayTally R envelopesPut actions = gatewayTally R handOversAsked actions ∧
    ∀ p, gatewayTally R (effectsHanded p) actions =
      gatewayTally R (effectsCarriedOut p) actions + gatewayTally R (effectsLost p) actions +
        (gatewayRun R actions).pending p := by
  refine ⟨fun action w' out hstep => ?_, gatewayRun_receipted R actions,
    gatewayTally_envelopes R actions, fun p => gatewayTally_effects R p actions⟩
  have heffects := (World.step_performs hstep).effectStep
  refine ⟨fun id before after hb ha hne => heffects.reported hb ha hne,
    fun call order effects known hin => heffects.applied hin,
    fun shown known effects hin => heffects.presented hin, ?_⟩
  rintro task sale now fresh cut rfl hn hsome
  simp only [World.step] at hstep
  split at hstep
  · cases hstep
  · obtain rfl : ((gatewayRun R actions).create task sale now fresh cut).1 = w' :=
      congrArg Prod.fst (Except.ok.inj hstep)
    exact World.create_hands hn hsome

/-- What a presented payment asks for is not all written down or carried out: the reopening of an order
asks for its payment to be verified, and that is dropped. -/
theorem request_to_verify_dropped :
    ¬ ∀ (actions : List (Action String)) (k task : Nat) (t now : Int) (fresh : Nat → String)
      (cut : Option Nat) (w' : World String) (out : List (Notice String)) (shown : Presentation)
      (before known : StoredOrder String) (effects : List Effect) (frame : Frame String),
      (gatewayRun sampleRuntime actions).step sampleRuntime (.present k task t now fresh cut) = .ok (w', out) →
      (gatewayRun sampleRuntime actions).store.orderById shown.orderId = some before →
      .presented shown (some (.took known effects)) ∈ out →
      w'.tasks.get task = some ⟨none, [frame]⟩ →
      ∀ effect ∈ effects, (∃ write, WrittenAs known before.order t effect write) ∨ effect ∈ frame.effects := by
  intro h
  have hverify := h sampleReopening 1 5 32 32 (fun _ => "env_5") none _ _ _ _ _ _ _ rfl rfl
    (List.mem_append_right _ (List.mem_singleton.2 rfl)) rfl .verifyPayment (by decide)
  rcases hverify with ⟨write, id, hw⟩ | hin
  · cases hw
  · exact absurd hin (by decide)

end Coinslot
