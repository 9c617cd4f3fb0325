import Coinslot.Gateway.Desk
import Mathlib.Logic.Relation

/-!
# What a step of the desk does

Every call of `apply` is specified with what it tells its caller (`World.Serves`), and every step of the
desk with what it does to the orders and lets out (`DeskStep`): it leaves them as they were, or it opens
an order, writes a word down on one, takes a payment, or feeds one event to one order, and then the call
is the one its action makes (`DeskAction.Feeds`). What holds of every order at the desk is read off this.
-/

namespace Coinslot

open List Desk

section
variable {Doc : Type} {R : Runtime}

/-! ## A call of `apply`, and what it tells -/

/-- Everything a call of `apply` by somebody who goes on with nothing but its effects can come to, with
what it tells him. -/
inductive World.Serves (R : Runtime) (w : World Doc) (task : Nat) (call : ApplyCall Doc) (now : Int)
    (fresh : Nat → String) : World Doc × List (Notice Doc) → Option (Applied Doc) → Prop
  | cutOff {out : List (Notice Doc)} : (∀ notice ∈ out, notice.Quiet) →
      Serves R w task call now fresh (w, out) none
  | threw {out : List (Notice Doc)} {words : String} : (∀ notice ∈ out, notice.Quiet) →
      Serves R w task call now fresh (w, out) (some (.threw words))
  | noSuchOrder : (∀ found, w.store.orderById call.orderId = some found → PassedBy call.scope found) →
      Serves R w task call now fresh (w, [.applied call none]) (some .noSuchOrder)
  | movedOn {found : StoredOrder Doc} : w.store.orderById call.orderId = some found →
      call.MovedOn found →
      Serves R w task call now fresh (w, [.applied call (some .movedOn)]) (some .movedOn)
  | refused {found known : StoredOrder Doc} {rejection : TransitionRejection} :
      w.store.orderById call.orderId = some found → ¬ PassedBy call.scope found →
      transition found.order call.event = .error rejection →
      Serves R w task call now fresh
        (w, [.applied call (some (.decided (.error rejection) known))]) (some (.refused rejection))
  | moved {found : StoredOrder Doc} {order : Order} {effects : List Effect}
      {alongside : List (WithTheOrder Doc)} :
      w.store.orderById call.orderId = some found → ¬ PassedBy call.scope found →
      ¬ call.MovedOn found → transition found.order call.event = .ok (order, effects) →
      writesWithTheOrder (appliedRecord R.config call found order effects) found.order call.event.at
        fresh effects = .ok alongside →
      Serves R w task call now fresh
        ({ w.writes call.orderId found (appliedRecord R.config call found order effects) alongside with
            tasks := w.tasks.set task ⟨none, [⟨appliedRecord R.config call found order effects,
              effects.filter carriedOutAfterwards, call.event.at⟩]⟩ },
          remindings (arm (deadlines found.order) (deadlines order) call.orderId now) ++
            publishings alongside ++
            [.applied call (some (.decided (.ok (order, effects))
              (appliedRecord R.config call found order effects)))])
        (some (.moved (appliedRecord R.config call found order effects) effects
          (answerAmong (effects.filter carriedOutAfterwards))))

/-- **The rule of `apply`, with what it tells.** -/
theorem World.applyAlone_serves (R : Runtime) (w : World Doc) (task : Nat) (call : ApplyCall Doc)
    (now : Int) (fresh : Nat → String) (cut : Option Nat) :
    w.Serves R task call now fresh (w.applyAlone R task call now fresh cut)
      (if cut.isSome then none else some (w.applied R call now fresh)) := by
  have hholds := w.hold_holdsTo cut call.orderId call.scope (applyDecision R.config call now fresh)
  cases cut with
  | some reminders =>
    unfold World.applyAlone World.apply
    generalize w.hold (some reminders) call.orderId call.scope
      (applyDecision R.config call now fresh) = came at hholds
    cases hholds with
    | cutBefore => exact .cutOff quiet_nil
    | cutOff _ => exact .cutOff (quiet_remindings _)
  | none =>
    unfold World.applyAlone World.apply World.applied
    generalize w.hold none call.orderId call.scope (applyDecision R.config call now fresh) = came at hholds
    cases hholds with
    | notFound hn => exact .noSuchOrder hn
    | threw _ _ _ => exact .threw (quiet_append (quiet_remindings _) (quiet_singleton trivial))
    | @decided found change hf hscope hdec =>
      have hd := applyDecision_decides R.config call now fresh found
      generalize applyDecision R.config call now fresh found = decision at hd hdec
      cases hd with
      | movedOn hm =>
        cases hdec
        exact .movedOn hf hm
      | refused _ hr =>
        cases hdec
        exact .refused hf hscope hr
      | impossible _ _ _ => cases hdec
      | unwritten _ _ _ => cases hdec
      | moved hm hr _ hw =>
        cases hdec
        exact .moved hf hscope hm hr hw

/-! ## The events the gateway feeds of its own accord -/

/-- The calls of `apply` an action of the gateway makes. -/
def Action.Calls : Action Doc → ApplyCall Doc → Prop
  | .apply _ call .., made => made = call
  | .settle _ outcome .., made => ∃ record t, afterSettle record t outcome = .apply made
  | _, _ => False

/-- A notice that reports no write of an order by an event. -/
def Notice.Unfed : Notice Doc → Prop
  | .applied _ (some (.decided (.ok _) _)) => False
  | _ => True

theorem Notice.Quiet.unfed {notice : Notice Doc} (h : notice.Quiet) : notice.Unfed := by
  unfold Notice.Unfed
  split
  · exact h
  · trivial

theorem unfed_append {out₁ out₂ : List (Notice Doc)} (h₁ : ∀ notice ∈ out₁, notice.Unfed)
    (h₂ : ∀ notice ∈ out₂, notice.Unfed) : ∀ notice ∈ out₁ ++ out₂, notice.Unfed :=
  forall_mem_append.2 ⟨h₁, h₂⟩

theorem unfed_publishings (alongside : List (WithTheOrder Doc)) :
    ∀ notice ∈ publishings alongside, notice.Unfed := by
  intro notice hn
  obtain ⟨write, -, hwrite⟩ := mem_filterMap.1 hn
  cases write with
  | envelope merchantId envelope afterMs =>
    cases hwrite
    trivial
  | receipt merchantId receipt => cases hwrite

/-- An action that feeds an event to no order reports none. -/
theorem World.Performs.unfed {w : World Doc} {action : Action Doc} {came : World Doc × List (Notice Doc)}
    (h : w.Performs R action came) (hcalls : ∀ call, ¬ action.Calls call) : ∀ notice ∈ came.2, notice.Unfed := by
  have single {notice : Notice Doc} (hn : notice.Unfed) : ∀ n ∈ [notice], n.Unfed := by
    intro n hin
    rw [mem_singleton.1 hin]
    exact hn
  have reminded (armed : List (Reminder × Int)) :
      ∀ notice ∈ (remindings armed : List (Notice Doc)), notice.Unfed :=
    fun notice hn => (quiet_remindings armed notice hn).unfed
  have nothing : ∀ notice ∈ ([] : List (Notice Doc)), notice.Unfed := by rintro notice ⟨⟩
  cases h with
  | create task sale now fresh cut _ =>
    unfold World.create
    dsimp only
    split
    · exact single trivial
    · exact reminded _
    · split
      · exact unfed_append (reminded _) (single trivial)
      · split
        · exact unfed_append (reminded _) (single trivial)
        · exact reminded _
      · exact unfed_append (reminded _) (single trivial)
  | apply task call now fresh cut _ => exact absurd rfl (hcalls call)
  | pay k orderId payment fingerprint =>
    unfold World.pay
    split
    · exact single trivial
    · split
      · exact single trivial
      · exact nothing
  | readWallet _ _ => exact nothing
  | verify _ _ outcome => cases outcome <;> exact single trivial
  | claim _ _ now =>
    unfold World.claim
    dsimp only
    split <;> exact nothing
  | readHolder _ _ => exact single trivial
  | @present k call charge owner _ _ task t now fresh cut _ =>
    have hpresents := w.present_presents R k task call charge owner t now fresh cut
    generalize w.present R k task call charge owner t now fresh cut = came at hpresents
    cases hpresents with
    | hangsUp hq => exact fun notice hn => (hq notice hn).unfed
    | turnsAway hq => exact fun notice hn => (hq notice hn).unfed
    | took _ _ _ _ _ => exact unfed_append (unfed_append (reminded _) (unfed_publishings _)) (single trivial)
  | release _ _ => exact single trivial
  | hangUp k | drop k | stopSweep k => exact nothing
  | @carryOut k frame rest _ => exact fun notice hn => ((w.carryOut_quiet k frame rest).2 notice hn).unfed
  | @settle k _ frame rest _ outcome now fresh cut =>
    have hq : ∀ record t, ∃ orderId word, afterSettle record t outcome =
        (.writeDown orderId word : AfterSettle Doc) := by
      intro record t
      cases hs : (afterSettle record t outcome : AfterSettle Doc) with
      | apply call => exact absurd ⟨record, t, hs⟩ (hcalls call)
      | writeDown orderId word => exact ⟨orderId, word, rfl⟩
    obtain ⟨orderId, word, hs⟩ := hq frame.record frame.at
    unfold World.settle
    rw [hs]
    have hholds := w.hold_holdsTo cut orderId none (writeDownDecision R.config word)
    dsimp only
    generalize w.hold cut orderId none (writeDownDecision R.config word) = came at hholds
    cases hholds with
    | cutBefore | notFound _ => exact nothing
    | cutOff _ => exact reminded _
    | threw _ _ ho => cases ho
    | decided _ _ hc =>
      cases hc
      exact nothing
  | movePayoutWallet _ _ | forgetClaims _ | sweepDelivered _ _ | loseTheName => exact nothing
  | beginSweep k now => exact nothing
  | sweepOpen _ _ holdsOrder id =>
    unfold World.sweepOpen
    split
    · exact single trivial
    · refine unfed_append (fun notice hn => ?_) (reminded _)
      obtain ⟨e, -, rfl⟩ := mem_map.1 (Option.toList_map .. ▸ hn)
      trivial
  | sweepReceipt _ _ id =>
    unfold World.sweepReceipt
    split
    · exact single trivial
    · exact nothing

theorem World.applyAlone_apply (w : World Doc) (task : Nat) (call : ApplyCall Doc) (now : Int)
    (fresh : Nat → String) (cut : Option Nat) :
    (w.applyAlone R task call now fresh cut).1.store = (w.apply R call now fresh cut).1.store ∧
      (w.applyAlone R task call now fresh cut).2 = (w.apply R call now fresh cut).2.1 := by
  unfold World.applyAlone
  dsimp only
  split <;> exact ⟨rfl, rfl⟩

end

/-! ## The step of the desk -/

def Desk.orders (s : Desk) : Dict String (StoredOrder Document) := s.timed.world.store.orders

/-- A notice of the desk that puts nothing on a stream and reports no write of an order, but for an
envelope that was drawn and goes back. -/
def DeskNotice.Quiet : DeskNotice → Prop
  | .heard notice => notice.Quiet
  | _ => True

/-- The call of `apply` an action makes. -/
def DeskAction.Feeds (s : Desk) : DeskAction → ApplyCall Document → Prop
  | .gateway action, call => action.own = true ∧ action.Calls call
  | .fire n turn, call =>
    ∃ reminder stage, s.timed.reminders[n]? = some ⟨reminder, stage⟩ ∧
      call = onReminder turn.now reminder
  | .handOver merchantId _ token document turn, call =>
    call = Desk.handOverCall merchantId document.id token turn.at
  | .handIn k turn, call =>
    ∃ d, s.deliveries.get k = some d ∧
      call = Desk.merchantCall d.merchantId d.orderId (Desk.delivered d.route turn.at)
        (some d.delivery)
  | .refuseOrder merchantId orderId code message turn, call =>
    call = Desk.merchantCall merchantId orderId (Desk.refused .call turn.at code message) none
  | .acceptOrder merchantId orderId turn, call =>
    call = Desk.merchantCall merchantId orderId (.handlerAccepted turn.at) none
  | .answerOrder _ merchantId orderId reply turn, call =>
    match reply with
    | .delivered _ => False
    | .refused code message =>
      call = Desk.merchantCall merchantId orderId (Desk.refused .handler turn.at code message) none
    | .accepted => call = Desk.merchantCall merchantId orderId (.handlerAccepted turn.at) none
  | .askThePrice orderId _ _ turn, call => call = Desk.silenceCall orderId turn.at
  | .wakes priceId turn, call =>
    ∃ parked, s.parked.get priceId = some parked ∧ call = Desk.silenceCall parked.orderId turn.at
  | .putQuote k _, call => ∃ q, s.quotes.get k = some q ∧ call = Desk.quoteCall q
  | _, _ => False

/-- What a step of the desk does to the orders, with what it lets out. -/
inductive DeskStep (D : DeskRuntime) (s s' : Desk) (out : List DeskNotice) : DeskAction → Prop
  | stands {action : DeskAction} : s'.orders = s.orders → (∀ notice ∈ out, notice.Quiet) →
      DeskStep D s s' out action
  | sweeps {k : Nat} {holdsOrder : Bool} {id : String} : s'.orders = s.orders →
      (∀ notice ∈ out, notice.Quiet ∨ ∃ m e a, notice = .heard (.published m e a)) →
      DeskStep D s s' out (.gateway (.sweepOpen k holdsOrder id))
  | opens {action : DeskAction} (sale : Sale Document) :
      s.orderById sale.record.order.id = none →
      s'.orders = s.orders.set sale.record.order.id sale.record →
      (∀ notice ∈ out, notice.Quiet) → DeskStep D s s' out action
  | notes {action : DeskAction} {id : String} {word : PaymentWord}
      {found : StoredOrder Document} : s.orderById id = some found →
      s'.orders = s.orders.set id (alsoSaid D.runtime.config found word) →
      (∀ notice ∈ out, notice.Quiet) → DeskStep D s s' out action
  | feeds {action : DeskAction} {call : ApplyCall Document} {found : StoredOrder Document}
      {order : Order} {effects : List Effect} {alongside : List (WithTheOrder Document)}
      {now : Int} {fresh : Nat → String} {more : List DeskNotice} : action.Feeds s call →
      s.orderById call.orderId = some found → ¬ PassedBy call.scope found →
      ¬ call.MovedOn found → transition found.order call.event = .ok (order, effects) →
      writesWithTheOrder (appliedRecord D.runtime.config call found order effects) found.order
        call.event.at fresh effects = .ok alongside →
      s'.orders = s.orders.set call.orderId
        (appliedRecord D.runtime.config call found order effects) →
      out = (remindings (arm (deadlines found.order) (deadlines order) call.orderId now) ++
        publishings alongside ++ [Notice.applied call (some (.decided (.ok (order, effects))
          (appliedRecord D.runtime.config call found order effects)))]).map .heard ++ more →
      (∀ notice ∈ more, notice.Quiet) → DeskStep D s s' out action
  | takes {action : DeskAction} {t now : Int} {fresh : Nat → String} {call : PayCall}
      {charge : Charge} {owner : String} {found : StoredOrder Document} {order : Order}
      {effects : List Effect} {alongside : List (WithTheOrder Document)} {more : List DeskNotice} :
      s.orderById call.orderId = some found →
      eventsForVerifiedPayment found.order t ≠ [] →
      driven found.order (eventsForVerifiedPayment found.order t) = .ok (order, effects) →
      writesWithTheOrder
        (presentedRecord D.runtime.config (call.presentation charge owner) t found order)
        found.order t fresh effects = .ok alongside →
      s'.orders = s.orders.set call.orderId
        (presentedRecord D.runtime.config (call.presentation charge owner) t found order) →
      out = (remindings (arm (deadlines found.order) (deadlines order) call.orderId now) ++
        publishings alongside ++ [Notice.presented (call.presentation charge owner)
          (some (.took
            (presentedRecord D.runtime.config (call.presentation charge owner) t found order)
            effects))]).map .heard ++ more →
      (∀ notice ∈ more, notice.Quiet) → DeskStep D s s' out action

section
variable {D : DeskRuntime} {s s' s'' : Desk} {out more : List DeskNotice} {action : DeskAction}

theorem quiet_heard {notices : List (Notice Document)} (h : ∀ notice ∈ notices, notice.Quiet) :
    ∀ notice ∈ notices.map DeskNotice.heard, notice.Quiet := by
  intro notice hn
  obtain ⟨n, hin, rfl⟩ := mem_map.1 hn
  exact h n hin

theorem quietly {notice : DeskNotice} (h : notice.Quiet) : ∀ n ∈ [notice], n.Quiet := by
  intro n hn
  rw [mem_singleton.1 hn]
  exact h

theorem desk_quiet_append {out₁ out₂ : List DeskNotice} (h₁ : ∀ notice ∈ out₁, notice.Quiet)
    (h₂ : ∀ notice ∈ out₂, notice.Quiet) : ∀ notice ∈ out₁ ++ out₂, notice.Quiet :=
  forall_mem_append.2 ⟨h₁, h₂⟩

theorem DeskStep.congr (h : DeskStep D s s' out action) (ho : s''.orders = s'.orders)
    (hq : ∀ notice ∈ more, notice.Quiet) : DeskStep D s s'' (out ++ more) action := by
  cases h with
  | stands hs hout => exact .stands (ho.trans hs) (desk_quiet_append hout hq)
  | sweeps hs hout =>
    refine .sweeps (ho.trans hs) fun notice hn => ?_
    rcases mem_append.1 hn with hn | hn
    · exact hout _ hn
    · exact .inl (hq _ hn)
  | opens sale hn hs hout => exact .opens sale hn (ho.trans hs) (desk_quiet_append hout hq)
  | notes hf hs hout => exact .notes hf (ho.trans hs) (desk_quiet_append hout hq)
  | feeds hfeeds hf hscope hm ht hw hs hout hmore =>
    exact .feeds hfeeds hf hscope hm ht hw (ho.trans hs) (by rw [hout, append_assoc]) (desk_quiet_append hmore hq)
  | takes hf hne hd hw hs hout hmore =>
    exact .takes hf hne hd hw (ho.trans hs) (by rw [hout, append_assoc]) (desk_quiet_append hmore hq)

variable {call : ApplyCall Document}

/-- A call of `apply`, as a step of the desk. -/
theorem World.Applies.deskStep {now : Int} {fresh : Nat → String}
    {came : World Document × List (Notice Document) × Aftermath Document}
    (h : s.timed.world.Applies D.runtime call now fresh came) (hfeeds : action.Feeds s call)
    (hs : s'.orders = came.1.store.orders) : DeskStep D s s' (came.2.1.map .heard) action := by
  cases h with
  | lost hq => exact .stands hs (quiet_heard hq)
  | notFound _ | movedOn _ _ _ | refused _ _ _ => exact .stands hs (quiet_heard (quiet_singleton trivial))
  | moved hf hscope hm ht hw =>
    refine .feeds hfeeds hf hscope hm ht hw (hs.trans ?_) (append_nil _).symm (by rintro n ⟨⟩)
    exact s.timed.world.store.saveOrder_orders _ _ (appliedRecord_merchantId D.runtime.config _ _ call _)

theorem Desk.feed_deskStep (turn : Turn) (hworld : s'.timed.world = s.timed.world) (hfeeds : action.Feeds s call) :
    DeskStep D s (s'.feed D call turn).1 (s'.feed D call turn).2.1 action := by
  have happlies := s.timed.world.apply_applies D.runtime call turn.now turn.fresh turn.cut
  obtain ⟨hstore, hout⟩ := s.timed.world.applyAlone_apply (R := D.runtime) turn.task call turn.now turn.fresh turn.cut
  unfold Desk.feed
  dsimp only
  rw [hworld, hout]
  refine happlies.deskStep hfeeds ?_
  unfold orders
  rw [hstore]

@[simp] theorem Desk.answering_fst (came : Desk × List DeskNotice × Option (Applied Document))
    (landed : MerchantAnswerResult) (shape : Option OrderCallResponse → DeskNotice) :
    (Desk.answering came landed shape).1 = came.1 := by
  unfold Desk.answering
  split
  · rfl
  · split <;> rfl

variable {came : Desk × List DeskNotice}

variable {tick : Tick Document} {act : Action Document}

/-- A step of the gateway or its queue leaves everything else the desk keeps, and what is heard of it is
what they are heard to do. -/
theorem Desk.ticks_elsewhere (h : s.ticks D tick = .ok came) :
    (∃ timed, came.1 = { s with timed := timed }) ∧
      ∃ notices : List (Notice Document), came.2 = notices.map DeskNotice.heard := by
  unfold ticks at h
  cases ht : s.timed.step D.runtime tick with
  | error r => simp [ht, Except.map] at h
  | ok res =>
    simp only [ht, Except.map, Except.ok.injEq] at h
    exact ⟨⟨res.1, h ▸ rfl⟩, res.2, h ▸ rfl⟩

theorem Desk.answering_deskStep {came : Desk × List DeskNotice × Option (Applied Document)}
    {landed : MerchantAnswerResult} {shape : Option OrderCallResponse → DeskNotice}
    (h : DeskStep D s came.1 came.2.1 action) (hshape : ∀ response, (shape response).Quiet) :
    DeskStep D s (Desk.answering came landed shape).1 (Desk.answering came landed shape).2 action := by
  unfold Desk.answering
  split
  · exact h
  · split
    · exact h.congr rfl (quietly trivial)
    · exact h.congr rfl (quietly (hshape _))

theorem World.Performs.deskStep_unfed {came : World Document × List (Notice Document)}
    (h : s.timed.world.Performs D.runtime act came) (hcalls : ∀ call, ¬ act.Calls call)
    (hs : s'.orders = came.1.store.orders) : DeskStep D s s' (came.2.map .heard) (.gateway act) := by
  have hunfed := h.unfed hcalls
  cases h.effectStep with
  | stands ho _ hq => exact .stands (hs.trans ho) (quiet_heard hq)
  | receipts _ _ hstore hq => exact .stands (hs.trans (by rw [hstore]; rfl)) (quiet_heard hq)
  | puts hstore hq =>
    refine .sweeps (hs.trans (by rw [hstore]; rfl)) fun notice hn => ?_
    obtain ⟨n, hin, rfl⟩ := mem_map.1 hn
    rcases hq n hin with hq | ⟨m, e, a, rfl⟩
    · exact .inl hq
    · exact .inr ⟨m, e, a, rfl⟩
  | opens sale hn hstore hout =>
    refine .opens sale hn (hs.trans (by rw [hstore]; rfl)) ?_
    rw [hout]
    exact quiet_heard (quiet_remindings _)
  | notes hf hstore hq => exact .notes hf (hs.trans (by rw [hstore]; rfl)) (quiet_heard hq)
  | applies _ _ _ _ _ hout _ =>
    have hin := hunfed _ (hout ▸ mem_append_right _ (mem_singleton_self _))
    exact hin.elim
  | takes hf _ hne hd hw hstore hout _ =>
    refine .takes hf hne hd hw (hs.trans ?_) (by rw [hout, append_nil]) (by rintro n ⟨⟩)
    rw [hstore]
    exact s.timed.world.store.saveOrder_orders _ _ (presentedRecord_merchantId D.runtime.config _ _ _ _)

theorem World.Performs.deskStep {came : World Document × List (Notice Document)}
    (h : s.timed.world.Performs D.runtime act came) (hown : act.own = true) (hs : s'.orders = came.1.store.orders) :
    DeskStep D s s' (came.2.map .heard) (.gateway act) := by
  by_cases hcalls : ∀ call, ¬ act.Calls call
  · exact h.deskStep_unfed hcalls hs
  · cases h with
    | apply task call now fresh cut _ => cases hown
    | @settle k _ frame rest ht outcome now fresh cut =>
      cases ha : (afterSettle frame.record frame.at outcome : AfterSettle Document) with
      | writeDown orderId word =>
        have hsilent : ∀ call : ApplyCall Document,
            ¬ (Action.settle k outcome now fresh cut).Calls call := by
          rintro call ⟨record, t, hr⟩
          cases outcome <;> simp [afterSettle] at ha hr
        exact absurd hsilent hcalls
      | apply call =>
        have happlies := s.timed.world.apply_applies D.runtime call now fresh cut
        have hsame : (s.timed.world.settle D.runtime k frame rest outcome now fresh cut).1.store =
              (s.timed.world.apply D.runtime call now fresh cut).1.store ∧
            (s.timed.world.settle D.runtime k frame rest outcome now fresh cut).2 =
              (s.timed.world.apply D.runtime call now fresh cut).2.1 := by
          unfold World.settle
          rw [ha]
          dsimp only
          split <;> exact ⟨rfl, rfl⟩
        rw [hsame.2]
        exact happlies.deskStep ⟨hown, frame.record, frame.at, ha⟩ (hs.trans (by rw [hsame.1]))
    | _ => exact absurd (fun call hcall => hcall) hcalls

theorem Desk.ticks_deskStep (h : s.ticks D tick = .ok came) (haction : match tick with
      | .act act => action = .gateway act ∧ act.own = true
      | .fire n _ now _ _ => ∃ turn : Turn, action = .fire n turn ∧ turn.now = now
      | .returns _ => True) : DeskStep D s came.1 came.2 action := by
  unfold ticks at h
  cases ht : s.timed.step D.runtime tick with
  | error r => simp [ht, Except.map] at h
  | ok res =>
    obtain ⟨timed, out⟩ := res
    simp only [ht, Except.map, Except.ok.injEq] at h
    subst h
    have hp := Timed.step_performs ht
    cases hp with
    | act hact =>
      obtain ⟨rfl, hown⟩ := haction
      exact (World.step_performs hact).deskStep hown rfl
    | @fire n reminder stage task now fresh cut hn _ =>
      obtain ⟨turn, rfl, rfl⟩ := haction
      have happlies := s.timed.world.apply_applies D.runtime (onReminder turn.now reminder) turn.now fresh cut
      obtain ⟨hstore, hout⟩ := s.timed.world.applyAlone_apply (R := D.runtime) task
        (onReminder turn.now reminder) turn.now fresh cut
      rw [hout]
      have hfeeds : DeskAction.Feeds s (.fire n turn) (onReminder turn.now reminder) := ⟨reminder, stage, hn, rfl⟩
      refine happlies.deskStep hfeeds ?_
      unfold orders
      rw [hstore]
    | returns _ => exact .stands rfl (by rintro n ⟨⟩)

/-! ## Everything the desk performs -/

/-- Everything a step of the desk performs. -/
inductive Desk.Performs (D : DeskRuntime) (s : Desk) :
    DeskAction → Desk × List DeskNotice → Prop
  | gateway {act : Action Document} {came : Desk × List DeskNotice} : act.own = true →
      s.ticks D (.act act) = .ok came → Performs D s (.gateway act) came
  | fire {n : Nat} {turn : Turn} {came : Desk × List DeskNotice} :
      s.ticks D (.fire n turn.task turn.now turn.fresh turn.cut) = .ok came →
      Performs D s (.fire n turn) came
  | returns {n : Nat} {came : Desk × List DeskNotice} : s.ticks D (.returns n) = .ok came →
      Performs D s (.returns n) came
  | handOver {merchantId envelopeId token : String} {document : OrderDocument Document}
      (turn : Turn) : s.minted.has token = false →
      Performs D s (.handOver merchantId envelopeId token document turn)
        (s.handOver D merchantId envelopeId token document turn)
  | deliverOrder {k : Nat} (merchantId orderId : String) (delivery : Document) :
      Performs D s (.deliverOrder k merchantId orderId delivery)
        (s.deliverOrder k merchantId orderId delivery .call)
  | weighGoods {k : Nat} {call : DeliverCall} {itemId : String} {state : OrderState} :
      s.deliveries.get k = some call → call.stage = .read itemId state →
      Performs D s (.weighGoods k) (s.weighGoods D k call itemId state)
  | handIn {k : Nat} {call : DeliverCall} (turn : Turn) : s.deliveries.get k = some call →
      (call.stage = .repeated ∨ ∃ stored, call.stage = .weighed stored) →
      Performs D s (.handIn k turn) (s.handIn D k call turn)
  | refuseOrder (merchantId orderId code message : String) (turn : Turn) :
      Performs D s (.refuseOrder merchantId orderId code message turn)
        (s.refuseOrder D merchantId orderId code message .call turn)
  | acceptOrder (merchantId orderId : String) (turn : Turn) :
      Performs D s (.acceptOrder merchantId orderId turn)
        (s.acceptOrder D merchantId orderId turn)
  | answerOrder {k : Nat} (merchantId orderId : String) (reply : Desk.HandlerReply) (turn : Turn) :
      Performs D s (.answerOrder k merchantId orderId reply turn)
        (s.answerOrder D k merchantId orderId reply turn)
  | askThePrice {orderId priceId : String} {record : StoredOrder Document} (card : Card)
      (turn : Turn) : s.orderById orderId = some record → s.minted.has priceId = false →
      Performs D s (.askThePrice orderId card priceId turn)
        (s.askThePrice D record orderId card priceId turn)
  | waitOver {priceId orderId : String} : s.parked.get priceId = some ⟨orderId, .waiting⟩ →
      Performs D s (.waitOver priceId) (s.waitOver priceId ⟨orderId, .waiting⟩, [])
  | wakes {priceId : String} {parked : Parked} (turn : Turn) :
      s.parked.get priceId = some parked → parked.stage ≠ .waiting →
      Performs D s (.wakes priceId turn) (s.wakes D priceId parked turn)
  | answerQuote {k : Nat} (merchantId priceId : String) (response : Option Price) (t : Int) :
      Performs D s (.answerQuote k merchantId priceId response t)
        (s.answerQuote k merchantId priceId response t)
  | putQuote {k : Nat} {call : QuoteCall} (turn : Turn) : s.quotes.get k = some call →
      call.stage = .found → Performs D s (.putQuote k turn) (s.putQuote D k call turn)
  | ackQuote {k : Nat} {call : QuoteCall} {used : Bool} : s.quotes.get k = some call →
      call.stage = .put used → Performs D s (.ackQuote k) (s.ackQuote k call used)
  | dropQuote (k : Nat) : Performs D s (.dropQuote k) ({ s with quotes := s.quotes.delete k }, [])
  | publishCard (merchantId : String) (card : Card) (t : Int) (fresh : String) :
      Performs D s (.publishCard merchantId card t fresh)
        ({ s with catalog := s.catalog.publishCard merchantId card t fresh }, [])
  | setCardPaused (merchantId itemId : String) (paused : Bool) :
      Performs D s (.setCardPaused merchantId itemId paused)
        (s.setCardPaused merchantId itemId paused)
  | addKey (key : StoredKey) {catalog : Catalog} (words : List String) :
      Performs D s (.addKey key)
        ({ s with catalog := catalog }, (words.map Notice.threw).map DeskNotice.heard)
  | disableKeyOf (merchantId keyId : String) (t : Int) :
      Performs D s (.disableKeyOf merchantId keyId t) (s.disableKeyOf merchantId keyId t)
  | restart : Performs D s .restart (s.restart, [])

theorem Desk.taking_ok {turn : Turn} {came' : Desk × List DeskNotice}
    (h : s.taking turn came = .ok came') : came' = came := by
  unfold taking at h
  split at h
  · cases h
  · exact (Except.ok.inj h).symm

theorem Desk.step_performs (h : s.step D action = .ok came) : s.Performs D action came := by
  cases action with
  | gateway act =>
    simp only [Desk.step] at h
    split at h
    · next hown => exact .gateway hown h
    · cases h
  | fire n turn => exact .fire h
  | returns n => exact .returns h
  | handOver merchantId envelopeId token document turn =>
    simp only [Desk.step] at h
    split at h
    · cases h
    · next hm =>
      rw [taking_ok h]
      exact .handOver turn (by simpa using hm)
  | deliverOrder k merchantId orderId delivery =>
    simp only [Desk.step] at h
    split at h
    · cases h
    · cases h
      exact .deliverOrder merchantId orderId delivery
  | weighGoods k =>
    simp only [Desk.step] at h
    split at h
    · next hk =>
      cases h
      exact .weighGoods hk rfl
    · cases h
  | handIn k turn =>
    simp only [Desk.step] at h
    split at h
    · next stored hk =>
      rw [taking_ok h]
      exact .handIn turn hk (.inr ⟨stored, rfl⟩)
    · next hk =>
      rw [taking_ok h]
      exact .handIn turn hk (.inl rfl)
    · cases h
  | refuseOrder merchantId orderId code message turn =>
    rw [taking_ok h]
    exact .refuseOrder merchantId orderId code message turn
  | acceptOrder merchantId orderId turn =>
    rw [taking_ok h]
    exact .acceptOrder merchantId orderId turn
  | answerOrder k merchantId orderId reply turn =>
    simp only [Desk.step] at h
    split at h
    · cases h
    · rw [taking_ok h]
      exact .answerOrder merchantId orderId reply turn
  | askThePrice orderId card priceId turn =>
    simp only [Desk.step] at h
    split at h
    · cases h
    · next record hr =>
      split at h
      · cases h
      · next hm =>
        rw [taking_ok h]
        exact .askThePrice card turn hr (by simpa using hm)
  | waitOver priceId =>
    simp only [Desk.step] at h
    split at h
    · next hp =>
      cases h
      exact .waitOver hp
    · cases h
  | wakes priceId turn =>
    simp only [Desk.step] at h
    split at h
    · next hp =>
      rw [taking_ok h]
      exact .wakes turn hp (by simp)
    · next hp =>
      rw [taking_ok h]
      exact .wakes turn hp (by simp)
    · cases h
  | answerQuote k merchantId priceId response t =>
    simp only [Desk.step] at h
    split at h
    · cases h
    · cases h
      exact .answerQuote merchantId priceId response t
  | putQuote k turn =>
    simp only [Desk.step] at h
    split at h
    · next hk =>
      rw [taking_ok h]
      exact .putQuote turn hk rfl
    · cases h
  | ackQuote k =>
    simp only [Desk.step] at h
    split at h
    · next hk =>
      cases h
      exact .ackQuote hk rfl
    · cases h
  | dropQuote k =>
    cases h
    exact .dropQuote k
  | publishCard merchantId card t fresh =>
    cases h
    exact .publishCard merchantId card t fresh
  | setCardPaused merchantId itemId paused =>
    cases h
    exact .setCardPaused merchantId itemId paused
  | addKey key =>
    simp only [Desk.step] at h
    split at h
    · next words _ =>
      cases h
      exact .addKey key [words]
    · cases h
      exact .addKey key []
  | disableKeyOf merchantId keyId t =>
    cases h
    exact .disableKeyOf merchantId keyId t
  | restart =>
    cases h
    exact .restart

theorem Desk.react_performs (h : (deskMachine D).react s action = .ok came) : s.Performs D action came :=
  step_performs h

/-- **The step of the desk.** -/
theorem Desk.Performs.deskStep (h : s.Performs D action came) : DeskStep D s came.1 came.2 action := by
  have nothing {s' : Desk} (hs : s'.orders = s.orders) : DeskStep D s s' [] action := .stands hs (by rintro n ⟨⟩)
  have delivering (k : Nat) (merchantId orderId : String) (delivery : Document)
      (route : AnswerRoute) :
      DeskStep D s (s.deliverOrder k merchantId orderId delivery route).1
        (s.deliverOrder k merchantId orderId delivery route).2 action := by
    unfold Desk.deliverOrder
    split
    · exact .stands rfl (quietly trivial)
    · exact nothing rfl
  cases h with
  | gateway hown ht => exact ticks_deskStep ht ⟨rfl, hown⟩
  | @fire n turn _ ht => exact ticks_deskStep ht ⟨turn, rfl, rfl⟩
  | returns ht => exact ticks_deskStep ht trivial
  | @handOver merchantId envelopeId token document turn _ =>
    have hfeeds : DeskAction.Feeds s (.handOver merchantId envelopeId token document turn)
        (Desk.handOverCall merchantId document.id token turn.at) := rfl
    have hworld : ({ s with minted := s.minted.set token document.id } : Desk).timed.world = s.timed.world := rfl
    have hfed := feed_deskStep (D := D) turn hworld hfeeds
    unfold Desk.handOver
    dsimp only
    split
    · exact hfed
    · exact hfed
    · exact hfed
    · exact hfed.congr rfl (quietly trivial)
    · split
      · exact hfed.congr rfl (quietly trivial)
      · exact hfed
    · rw [append_assoc]
      refine hfed.congr rfl (desk_quiet_append (quiet_heard (quiet_remindings _)) (quietly trivial))
  | deliverOrder merchantId orderId delivery => exact delivering _ _ _ _ _
  | weighGoods hk hs =>
    unfold Desk.weighGoods
    split
    · exact .stands rfl (quietly trivial)
    · split
      · exact .stands rfl (quietly trivial)
      · exact nothing rfl
  | @handIn k call turn hk hs =>
    refine answering_deskStep ?_ fun _ => trivial
    exact feed_deskStep turn rfl ⟨call, hk, rfl⟩
  | refuseOrder merchantId orderId code message turn =>
    refine answering_deskStep ?_ fun _ => trivial
    exact feed_deskStep turn rfl rfl
  | acceptOrder merchantId orderId turn =>
    refine answering_deskStep ?_ fun _ => trivial
    exact feed_deskStep turn rfl rfl
  | answerOrder merchantId orderId reply turn =>
    cases reply with
    | delivered goods => exact delivering _ _ _ _ _
    | refused code message =>
      refine answering_deskStep ?_ fun _ => trivial
      exact feed_deskStep turn rfl rfl
    | accepted =>
      refine answering_deskStep ?_ fun _ => trivial
      exact feed_deskStep turn rfl rfl
  | askThePrice card turn hr hm =>
    unfold Desk.askThePrice
    split
    · exact .stands rfl (quietly trivial)
    · exact feed_deskStep turn rfl rfl
  | waitOver hp => exact nothing rfl
  | wakes turn hp hs =>
    unfold Desk.wakes
    split
    · exact feed_deskStep turn rfl ⟨_, hp, rfl⟩
    · exact nothing rfl
  | answerQuote merchantId priceId response t =>
    unfold Desk.answerQuote
    split
    · exact .stands rfl (quietly trivial)
    · split
      · exact .stands rfl (quietly trivial)
      · exact nothing rfl
  | @putQuote k call turn hk hs =>
    have hfeeds : DeskAction.Feeds s (.putQuote k turn) (Desk.quoteCall call) := ⟨call, hk, rfl⟩
    have hfed := feed_deskStep (D := D) turn (rfl : s.timed.world = s.timed.world) hfeeds
    have hmore (s'' : Desk) (ho : s''.orders = (s.feed D (Desk.quoteCall call) turn).1.orders) :
        DeskStep D s s'' (s.feed D (Desk.quoteCall call) turn).2.1 (.putQuote k turn) := by
      have hquiet : ∀ notice ∈ ([] : List DeskNotice), notice.Quiet := by rintro n ⟨⟩
      have hcongr := hfed.congr ho hquiet
      rwa [append_nil] at hcongr
    unfold Desk.putQuote
    dsimp only
    split <;> exact hmore _ rfl
  | ackQuote hk hs => exact .stands rfl (quietly trivial)
  | dropQuote k | publishCard _ _ _ _ | restart => exact nothing rfl
  | setCardPaused merchantId itemId paused => exact .stands rfl (quietly trivial)
  | addKey key words =>
    refine .stands rfl (quiet_heard fun notice hn => ?_)
    obtain ⟨w, -, rfl⟩ := mem_map.1 hn
    trivial
  | disableKeyOf merchantId keyId t => exact .stands rfl (quietly trivial)

/-! ## What becomes of one order -/

/-- The calls of `apply` that are made at the desk. -/
inductive MadeCall : ApplyCall Document → Prop
  | settles {record : StoredOrder Document} {t : Int} {outcome : SettleOutcome}
      {call : ApplyCall Document} : afterSettle record t outcome = .apply call → MadeCall call
  | reminds (now : Int) (reminder : Reminder) : MadeCall (onReminder now reminder)
  | handsOver (merchantId orderId token : String) (t : Int) :
      MadeCall (Desk.handOverCall merchantId orderId token t)
  | delivers (merchantId orderId : String) (route : AnswerRoute) (t : Int) (goods : Document) :
      MadeCall (Desk.merchantCall merchantId orderId (Desk.delivered route t) (some goods))
  | refuses (merchantId orderId : String) (route : AnswerRoute) (t : Int) (code message : String) :
      MadeCall (Desk.merchantCall merchantId orderId (Desk.refused route t code message) none)
  | accepts (merchantId orderId : String) (t : Int) :
      MadeCall (Desk.merchantCall merchantId orderId (.handlerAccepted t) none)
  | keepsSilent (orderId : String) (t : Int) : MadeCall (Desk.silenceCall orderId t)
  | quotes (call : QuoteCall) : MadeCall (Desk.quoteCall call)

theorem DeskAction.Feeds.made (h : action.Feeds s call) : MadeCall call := by
  cases action with
  | gateway act =>
    obtain ⟨hown, hcalls⟩ := h
    cases act with
    | apply task call now fresh cut => cases hown
    | settle k outcome now fresh cut =>
      obtain ⟨record, t, hs⟩ := hcalls
      exact .settles hs
    | _ => exact hcalls.elim
  | fire n turn =>
    obtain ⟨reminder, stage, -, rfl⟩ := h
    exact .reminds _ _
  | handOver merchantId envelopeId token document turn =>
    cases h
    exact .handsOver _ _ _ _
  | handIn k turn =>
    obtain ⟨d, -, rfl⟩ := h
    exact .delivers _ _ _ _ _
  | refuseOrder merchantId orderId code message turn =>
    cases h
    exact .refuses _ _ _ _ _ _
  | acceptOrder merchantId orderId turn =>
    cases h
    exact .accepts _ _ _
  | answerOrder k merchantId orderId reply turn =>
    cases reply with
    | delivered goods => exact h.elim
    | refused code message =>
      cases h
      exact .refuses _ _ _ _ _ _
    | accepted =>
      cases h
      exact .accepts _ _ _
  | askThePrice orderId card priceId turn =>
    cases h
    exact .keepsSilent _ _
  | wakes priceId turn =>
    obtain ⟨parked, -, rfl⟩ := h
    exact .keepsSilent _ _
  | putQuote k turn =>
    obtain ⟨q, -, rfl⟩ := h
    exact .quotes q
  | _ => exact h.elim

/-- What a step of the desk can make of one stored order. -/
inductive Treats (D : DeskRuntime) (found : StoredOrder Document) : StoredOrder Document → Prop
  | notes (word : PaymentWord) : Treats D found (alsoSaid D.runtime.config found word)
  | feeds {call : ApplyCall Document} {order : Order} {effects : List Effect} : MadeCall call →
      ¬ call.MovedOn found → transition found.order call.event = .ok (order, effects) →
      Treats D found (appliedRecord D.runtime.config call found order effects)
  | takes {presented : Presentation} {t : Int} {order : Order} {effects : List Effect} :
      eventsForVerifiedPayment found.order t ≠ [] →
      driven found.order (eventsForVerifiedPayment found.order t) = .ok (order, effects) →
      Treats D found (presentedRecord D.runtime.config presented t found order)

variable {next : StoredOrder Document}

theorem Desk.orderById_set {key : String} (h : s'.orders = s.orders.set key next) (id : String) :
    s'.orderById id = if id = key then some next else s.orderById id := by
  have hget : s'.orderById id = s'.orders.get id := rfl
  rw [hget, h, Dict.get_set]
  rfl

/-- **The step, order by order.** An order stays as it was, is opened, or is treated. -/
theorem DeskStep.orderById (h : DeskStep D s s' out action) (id : String) : s'.orderById id = s.orderById id ∨
      (∃ sale : Sale Document, s.orderById id = none ∧ sale.record.order.id = id ∧
        s'.orderById id = some sale.record) ∨
      ∃ found next, s.orderById id = some found ∧ s'.orderById id = some next ∧ Treats D found next := by
  have stays (hs : s'.orders = s.orders) : s'.orderById id = s.orderById id := by
    have hget : s'.orderById id = s'.orders.get id := rfl
    rw [hget, hs]
    rfl
  have treated {key : String} {found next : StoredOrder Document} (hf : s.orderById key = some found)
      (hs : s'.orders = s.orders.set key next) (ht : Treats D found next) :
      s'.orderById id = s.orderById id ∨
        (∃ sale : Sale Document, s.orderById id = none ∧ sale.record.order.id = id ∧
          s'.orderById id = some sale.record) ∨
        ∃ found next, s.orderById id = some found ∧ s'.orderById id = some next ∧ Treats D found next := by
    rw [orderById_set hs]
    split
    · next hid =>
      subst hid
      exact .inr (.inr ⟨found, next, hf, rfl, ht⟩)
    · exact .inl rfl
  cases h with
  | stands hs _ => exact .inl (stays hs)
  | sweeps hs _ => exact .inl (stays hs)
  | opens sale hn hs _ =>
    rw [orderById_set hs]
    split
    · next hid =>
      subst hid
      exact .inr (.inl ⟨sale, hn, rfl, rfl⟩)
    · exact .inl rfl
  | notes hf hs _ => exact treated hf hs (.notes _)
  | feeds hfeeds hf _ hm ht _ hs _ _ => exact treated hf hs (.feeds hfeeds.made hm ht)
  | takes hf hne hd _ hs _ _ => exact treated hf hs (.takes hne hd)

theorem Desk.step_deskStep (h : (deskMachine D).react s action = .ok (s', out)) : DeskStep D s s' out action :=
  (react_performs h).deskStep

variable {id : String} {record : StoredOrder Document}

variable {P : String → StoredOrder Document → Prop}

/-- **What holds of every order.** What holds of an order when it is opened, and is kept by whatever the
desk makes of it, holds of every order of every run. -/
theorem deskRun_orders (hopens : ∀ sale : Sale Document, P sale.record.order.id sale.record)
    (htreats : ∀ id found next, P id found → Treats D found next → P id next) (actions : List DeskAction)
    (h : (deskRun D actions).orderById id = some record) : P id record := by
  have hall := (deskMachine D).run_induction
    (P := fun s : Desk => ∀ id record, s.orderById id = some record → P id record)
    (s := .empty) ?_ ?_ actions
  · exact hall id record h
  · intro s action s' out hs hstep id record hr
    rcases (step_deskStep hstep).orderById id with hsame | ⟨sale, -, rfl, hnew⟩ | ⟨f, n, hf, hn, ht⟩
    · exact hs id record (hsame.symm.trans hr)
    · cases hnew.symm.trans hr
      exact hopens sale
    · cases hn.symm.trans hr
      exact htreats id f record (hs id f hf) ht
  · rintro id record ⟨⟩

theorem DeskStep.later (h : DeskStep D s s' out action) (hr : s.orderById id = some record) :
    ∃ next, s'.orderById id = some next ∧ (next = record ∨ Treats D record next) := by
  rcases h.orderById id with hsame | ⟨sale, hn, -, -⟩ | ⟨found, next, hf, hn, ht⟩
  · exact ⟨record, hsame.trans hr, .inl rfl⟩
  · cases hn.symm.trans hr
  · cases hf.symm.trans hr
    exact ⟨next, hn, .inr ht⟩

/-- **What becomes of an order.** An order is never lost, and what a run makes of it, it makes step by
step. -/
theorem deskRun_treats (actions more : List DeskAction) (h : (deskRun D actions).orderById id = some record) :
    ∃ later, (deskRun D (actions ++ more)).orderById id = some later ∧
      Relation.ReflTransGen (Treats D) record later := by
  have hall := (deskMachine D).run_induction
    (P := fun s : Desk => ∃ later, s.orderById id = some later ∧
      Relation.ReflTransGen (Treats D) record later) (s := deskRun D actions) ?_ ⟨record, h, .refl⟩ more
  · rwa [deskRun, (deskMachine D).run_append]
  · rintro s action s' out ⟨later, hl, hpast⟩ hstep
    obtain ⟨next, hn, rfl | ht⟩ := (step_deskStep hstep).later hl
    · exact ⟨next, hn, hpast⟩
    · exact ⟨next, hn, hpast.tail ht⟩

theorem deskRun_keeps {P : StoredOrder Document → Prop} (hP : ∀ found next, P found → Treats D found next → P next)
    (actions more : List DeskAction) (h : (deskRun D actions).orderById id = some record) (hr : P record) :
    ∃ later, (deskRun D (actions ++ more)).orderById id = some later ∧ P later := by
  obtain ⟨later, hl, hpast⟩ := deskRun_treats actions more h
  refine ⟨later, hl, ?_⟩
  clear hl
  induction hpast with
  | refl => exact hr
  | tail _ ht ih => exact hP _ _ ih ht

variable {found : StoredOrder Document}

section

variable (h : Treats D found next)
include h

theorem Treats.keeps : next.merchantId = found.merchantId ∧ next.itemId = found.itemId := by
  cases h with
  | notes word => exact ⟨rfl, rfl⟩
  | feeds _ _ _ =>
    unfold appliedRecord withFacts
    split <;> exact ⟨rfl, rfl⟩
  | takes _ _ => exact ⟨rfl, rfl⟩

theorem Treats.sound (hb : found.order.Sound) : next.order.Sound := by
  cases h with
  | notes word => exact hb
  | feeds _ _ ht => exact (transition_move hb ht).sound hb
  | takes _ hd => exact (driven_keeps (P := fun _ => True) (fun _ _ _ => trivial) hb trivial hd).1

theorem Treats.orderId (hb : found.order.Sound) : next.order.id = found.order.id := by
  cases h with
  | notes word => rfl
  | feeds _ _ ht => exact (transition_move hb ht).keeps.1
  | takes _ hd =>
    exact (driven_keeps (P := fun o => o.id = found.order.id) (fun _ hid hm => hm.keeps.1.trans hid) hb rfl hd).2

end

theorem DeskStep.sound (h : DeskStep D s s' out action)
    (hs : ∀ id record, s.orderById id = some record → record.order.Sound) :
    ∀ id record, s'.orderById id = some record → record.order.Sound := by
  intro id record hr
  rcases h.orderById id with hsame | ⟨sale, -, -, hnew⟩ | ⟨found, next, hf, hn, ht⟩
  · exact hs id record (hsame.symm.trans hr)
  · cases hnew.symm.trans hr
    exact sale.birth.sound
  · cases hn.symm.trans hr
    exact ht.sound (hs id found hf)

theorem deskRun_sound (actions : List DeskAction) (h : (deskRun D actions).orderById id = some record) :
    record.order.id = id ∧ record.order.Sound := by
  refine deskRun_orders (P := fun id record => record.order.id = id ∧ record.order.Sound)
    (fun sale => ⟨rfl, sale.birth.sound⟩) ?_ actions h
  rintro id found next ⟨hid, hb⟩ ht
  exact ⟨(ht.orderId hb).trans hid, ht.sound hb⟩

/-- What holds of every sound order when it is opened, and is kept by whatever the desk makes of it,
holds of every order of every run. -/
theorem deskRun_sound_orders (hopens : ∀ sale : Sale Document, P sale.record.order.id sale.record)
    (htreats : ∀ id found next, found.order.Sound → P id found → Treats D found next → P id next)
    (actions : List DeskAction) (h : (deskRun D actions).orderById id = some record) : P id record := by
  refine (deskRun_orders (P := fun id record => record.order.Sound ∧ P id record)
    (fun sale => ⟨sale.birth.sound, hopens sale⟩) ?_ actions h).2
  rintro id found next ⟨hb, hP⟩ ht
  exact ⟨ht.sound hb, htreats id found next hb hP ht⟩

end

/-! ## A desk to try the statements on -/

/-- A desk with a short patience. -/
def sampleDesk : DeskRuntime :=
  { runtime := sampleRuntime
    words := sampleWords
    handlerAnswerMs := 3
    settleInFlightRetryMs := 2 }

/-- A card that delivers a code. -/
def sampleCard : Card :=
  { merchantItemId := "sku-1"
    result := Dict.empty.set "code" { type := .string }
    priceCheck := none }

def sampleGoods : Document := Dict.empty.set "code" (.string "A-1")

/-- A purchase of it, in the mode given. -/
def sampleOrder (mode : FulfillmentMode) : Sale Document :=
  { birth := sampleBirth mode
    merchantId := "mrc_1"
    itemId := "itm_1"
    merchantItemId := "sku-1"
    params := .empty }

/-- The order as a worker draws it. -/
def sampleDocument : OrderDocument Document :=
  { id := "ord_1"
    merchantItemId := "sku-1"
    params := .empty
    price := ⟨"1.00", "USDC", ⟨0⟩, ⟨0⟩⟩
    priceId := none
    test := false }

def sampleTurn (task : Nat) (t : Int) : Turn := ⟨task, t, t, fun _ => "env_" ++ toString task, none⟩

/-- A card is published and bought, and the buyer's payment is taken. -/
def samplePurchase (mode : FulfillmentMode) : List DeskAction :=
  [.publishCard "mrc_1" sampleCard 0 "itm_1",
    .gateway (.create 0 (sampleOrder mode) 0 (fun _ => "env_0") none),
    .gateway (.pay 0 "ord_1" "signed-1" "print-1"), .gateway (.readWallet 0),
    .gateway (.verify 0 (.verified (some "0xbuyer"))), .gateway (.claim 0 4),
    .gateway (.present 0 1 5 5 (fun _ => "env_1") none)]

/-- A worker draws the order, and its handler delivers. -/
def sampleDelivery : List DeskAction :=
  samplePurchase .sync ++
    [.handOver "mrc_1" "env_1" "dlv_1" sampleDocument (sampleTurn 2 6),
      .answerOrder 0 "mrc_1" "ord_1" (.delivered sampleGoods) (sampleTurn 3 7), .weighGoods 0]

end Coinslot
