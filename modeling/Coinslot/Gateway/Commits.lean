import Coinslot.Gateway.Steps

/-!
# What a write of an order comes to

The specifications of `apply` and of the presentation of a payment as steps of the gateway, with what
they write, what they let out and what they leave to carry out. `World.Applies` and `World.Presents`
name every way either can end; in all but one of them nothing is written, and what is let out reports
no write (`Notice.Quiet`).
-/

namespace Coinslot

variable {Doc α : Type} {R : Runtime} {w w' : World Doc} {out : List (Notice Doc)}

/-- A notice that puts nothing on a stream and reports no write of an order. -/
def Notice.Quiet : Notice Doc → Prop
  | .published .. | .applied _ (some (.decided (.ok _) _)) | .presented _ (some (.took ..)) => False
  | _ => True

theorem quiet_remindings (armed : List (Reminder × Int)) :
    ∀ notice ∈ (remindings armed : List (Notice Doc)), notice.Quiet := by
  intro notice hn
  obtain ⟨reminder, -, rfl⟩ := List.mem_map.1 hn
  trivial

theorem quiet_nil : ∀ notice ∈ ([] : List (Notice Doc)), notice.Quiet := by rintro notice ⟨⟩

theorem quiet_singleton {notice : Notice Doc} (h : notice.Quiet) : ∀ n ∈ [notice], n.Quiet := by
  intro n hn
  rw [List.mem_singleton.1 hn]
  exact h

theorem quiet_append {out₁ out₂ : List (Notice Doc)} (h₁ : ∀ notice ∈ out₁, notice.Quiet)
    (h₂ : ∀ notice ∈ out₂, notice.Quiet) : ∀ notice ∈ out₁ ++ out₂, notice.Quiet :=
  List.forall_mem_append.2 ⟨h₁, h₂⟩

/-! ## An event -/

/-- What the stored order is written back as, and what lands with it. -/
def World.writes (w : World Doc) (id : String) (found next : StoredOrder Doc)
    (alongside : List (WithTheOrder Doc)) : World Doc :=
  { w with store := (w.store.putReceipts alongside).saveOrder id found (some next) }

/-- Everything a call of `apply` can come to. -/
inductive World.Applies (R : Runtime) (w : World Doc) (call : ApplyCall Doc) (now : Int)
    (fresh : Nat → String) : World Doc × List (Notice Doc) × Aftermath Doc → Prop
  | lost {out : List (Notice Doc)} : (∀ notice ∈ out, notice.Quiet) →
      Applies R w call now fresh (w, out, .lost)
  | notFound : (∀ found, w.store.orderById call.orderId = some found → PassedBy call.scope found) →
      Applies R w call now fresh (w, [.applied call none], .finished)
  | movedOn {found : StoredOrder Doc} : w.store.orderById call.orderId = some found →
      ¬ PassedBy call.scope found → call.MovedOn found →
      Applies R w call now fresh (w, [.applied call (some .movedOn)], .finished)
  | refused {found known : StoredOrder Doc} {rejection : TransitionRejection} :
      w.store.orderById call.orderId = some found → ¬ PassedBy call.scope found →
      transition found.order call.event = .error rejection →
      Applies R w call now fresh
        (w, [.applied call (some (.decided (.error rejection) known))], .finished)
  | moved {found : StoredOrder Doc} {order : Order} {effects : List Effect}
      {alongside : List (WithTheOrder Doc)} :
      w.store.orderById call.orderId = some found → ¬ PassedBy call.scope found →
      ¬ call.MovedOn found → transition found.order call.event = .ok (order, effects) →
      writesWithTheOrder (appliedRecord R.config call found order effects) found.order call.event.at
        fresh effects = .ok alongside →
      Applies R w call now fresh
        (w.writes call.orderId found (appliedRecord R.config call found order effects) alongside,
          remindings (arm (deadlines found.order) (deadlines order) call.orderId now) ++
            publishings alongside ++
            [.applied call (some (.decided (.ok (order, effects))
              (appliedRecord R.config call found order effects)))],
          .runs ⟨appliedRecord R.config call found order effects,
            effects.filter carriedOutAfterwards, call.event.at⟩)

/-- **The rule of `apply`, in full.** -/
theorem World.apply_applies (R : Runtime) (w : World Doc) (call : ApplyCall Doc) (now : Int)
    (fresh : Nat → String) (cut : Option Nat) : w.Applies R call now fresh (w.apply R call now fresh cut) := by
  have hholds := w.hold_holdsTo cut call.orderId call.scope (applyDecision R.config call now fresh)
  unfold World.apply
  generalize w.hold cut call.orderId call.scope (applyDecision R.config call now fresh) = came at hholds
  cases hholds with
  | cutBefore => exact .lost quiet_nil
  | cutOff _ => exact .lost (quiet_remindings _)
  | notFound hn => exact .notFound hn
  | threw _ _ _ => exact .lost (quiet_append (quiet_remindings _) (quiet_singleton trivial))
  | @decided found change hf hscope hdec =>
    have hd := applyDecision_decides R.config call now fresh found
    generalize applyDecision R.config call now fresh found = decision at hd hdec
    cases hd with
    | movedOn hm =>
      cases hdec
      exact .movedOn hf hscope hm
    | refused _ hr =>
      cases hdec
      exact .refused hf hscope hr
    | impossible _ _ _ => cases hdec
    | unwritten _ _ _ => cases hdec
    | moved hm hr _ hw =>
      cases hdec
      exact .moved hf hscope hm hr hw

/-! ## A payment -/

/-- Everything the presentation of a payment by a call of `payPurchase` can come to. -/
inductive World.Presents (R : Runtime) (w : World Doc) (k task : Nat) (call : PayCall)
    (charge : Charge) (owner : String) (t now : Int) (fresh : Nat → String) :
    World Doc × List (Notice Doc) → Prop
  | hangsUp {out : List (Notice Doc)} : (∀ notice ∈ out, notice.Quiet) →
      Presents R w k task call charge owner t now fresh (w.hangUp k, out)
  | turnsAway {out : List (Notice Doc)} {answer : PurchaseAnswer} :
      (∀ notice ∈ out, notice.Quiet) →
      Presents R w k task call charge owner t now fresh
        (w.goesOn k call (.turnedAway answer), out)
  | took {found : StoredOrder Doc} {order : Order} {effects : List Effect}
      {alongside : List (WithTheOrder Doc)} : w.store.orderById call.orderId = some found →
      found.paidBy = none ∨ found.paidBy = some owner →
      eventsForVerifiedPayment found.order t ≠ [] →
      driven found.order (eventsForVerifiedPayment found.order t) = .ok (order, effects) →
      writesWithTheOrder (presentedRecord R.config (call.presentation charge owner) t found order)
        found.order t fresh effects = .ok alongside →
      Presents R w k task call charge owner t now fresh
        (((w.writes call.orderId found
            (presentedRecord R.config (call.presentation charge owner) t found order)
            alongside).hangUp k).proceeds task none
          [⟨presentedRecord R.config (call.presentation charge owner) t found order,
            runnableEffects effects, t⟩],
          remindings (arm (deadlines found.order) (deadlines order) call.orderId now) ++
            publishings alongside ++
            [.presented (call.presentation charge owner)
              (some (.took (presentedRecord R.config (call.presentation charge owner) t found order)
                effects))])

/-- **The rule of a presentation.** -/
theorem World.present_presents (R : Runtime) (w : World Doc) (k task : Nat) (call : PayCall)
    (charge : Charge) (owner : String) (t now : Int) (fresh : Nat → String) (cut : Option Nat) :
    w.Presents R k task call charge owner t now fresh (w.present R k task call charge owner t now fresh cut) := by
  have hholds := w.hold_holdsTo cut call.orderId none
    (presentDecision R.config (call.presentation charge owner) t now fresh)
  have hid : (call.presentation charge owner).orderId = call.orderId := rfl
  unfold World.present
  simp only [hid]
  generalize w.hold cut call.orderId none
    (presentDecision R.config (call.presentation charge owner) t now fresh) = came at hholds
  cases hholds with
  | cutBefore => exact .hangsUp quiet_nil
  | cutOff _ => exact .hangsUp (quiet_remindings _)
  | notFound _ => exact .turnsAway (quiet_singleton trivial)
  | threw _ _ _ => exact .hangsUp (quiet_append (quiet_remindings _) (quiet_singleton trivial))
  | @decided found change hf _ hdec =>
    have hd := presentDecision_decides R.config (call.presentation charge owner) t now fresh found
    generalize presentDecision R.config (call.presentation charge owner) t now fresh found = decision at hd hdec
    cases hd with
    | notOwner _ _ =>
      cases hdec
      exact .turnsAway (quiet_singleton trivial)
    | alreadyYours _ =>
      cases hdec
      exact .hangsUp (quiet_singleton trivial)
    | refused _ =>
      cases hdec
      refine .hangsUp ?_
      exact quiet_append (quiet_singleton trivial) (quiet_singleton trivial)
    | impossible _ => cases hdec
    | unwritten _ _ => cases hdec
    | took hown hne hr hw =>
      cases hdec
      exact .took hf hown hne hr hw

end Coinslot
