import Coinslot.Orders.Invariant
import Coinslot.Lib.Reactor

/-!
# The runs of the machine

An order is born by `createOrder` and moved by `transition`, one event after another; a refused event
leaves it as it was. `Birth.run` is the order a list of events leads to, and `Birth.log` is everything
that happened since the birth: what the birth asked for, and each accepted event followed by what was
asked for on it. Every order of every run is sound (`Birth.run_sound`), and a fact about the moves of
sound orders is a fact about the runs (`run_keeps`, with the log `Birth.log_keeps`).
-/

namespace Coinslot

open List

def orderMachine : Reactor Order OrderEvent Effect TransitionRejection := ⟨transition⟩

abbrev OrderEntry := Happening OrderEvent Effect

def Birth.run (birth : Birth) (events : List OrderEvent) : Order := orderMachine.run birth.order events

/-- Everything that happened to the order since its birth. -/
def Birth.log (birth : Birth) (events : List OrderEvent) : List OrderEntry :=
  birth.effects.map .emitted ++ orderMachine.log birth.order events

/-- The effect an entry records, if it records one. -/
def emission : OrderEntry → Option Effect
  | .accepted _ => none
  | .emitted effect => some effect

/-- The kind of the accepted event an entry records, if it records one. -/
def acceptedKind : OrderEntry → Option OrderEventKind
  | .accepted event => some event.kind
  | .emitted _ => none

def emissions (log : List OrderEntry) : List Effect := log.filterMap emission

def acceptedKinds (log : List OrderEntry) : List OrderEventKind := log.filterMap acceptedKind

section
variable {birth : Birth}

theorem Birth.run_append (birth : Birth) (events more : List OrderEvent) :
    birth.run (events ++ more) = orderMachine.run (birth.run events) more :=
  orderMachine.run_append birth.order events more

variable {o : Order}

theorem orderMachine_next {o' : Order} {e : OrderEvent} {fx : List Effect} (h : transition o e = .ok (o', fx)) :
    orderMachine.next o e = o' :=
  Reactor.next_of_ok orderMachine (s := o) h

theorem Order.Sound.run (hb : o.Sound) (events : List OrderEvent) : (orderMachine.run o events).Sound :=
  orderMachine.run_induction (fun hs h => (transition_move hs h).sound hs) hb events

/-- **Every order of every run is sound.** -/
theorem Birth.run_sound (birth : Birth) (events : List OrderEvent) : (birth.run events).Sound :=
  birth.sound.run events

theorem run_keeps {P : Order → Prop} (hmove : ∀ {o e o' fx}, o.Sound → P o → Move o e o' fx → P o') (hb : o.Sound)
    (h : P o) (events : List OrderEvent) : P (orderMachine.run o events) :=
  (orderMachine.run_induction (P := fun o => o.Sound ∧ P o)
    (fun hs h =>
      have hm := transition_move hs.1 h
      ⟨hm.sound hs.1, hmove hs.1 hs.2 hm⟩) ⟨hb, h⟩ events).2

/-- What every move of a sound order keeps, with the log that led to it, holds at the end of every
run. -/
theorem Birth.log_keeps {P : Order → List OrderEntry → Prop}
    (hmove : ∀ {o e o' fx log}, o.Sound → P o log → Move o e o' fx → P o' (log ++ Reactor.stepLog e fx))
    (h : P birth.order (birth.effects.map .emitted)) (events : List OrderEvent) :
    P (birth.run events) (birth.log events) :=
  (orderMachine.log_induction (P := fun o log => o.Sound ∧ P o log)
    (fun hs h =>
      have hm := transition_move hs.1 h
      ⟨hm.sound hs.1, hmove hs.1 hs.2 hm⟩) ⟨birth.sound, h⟩ events).2

/-- A purchase to try the statements on: a card without a price check, in the mode given. -/
def sampleBirth (mode : FulfillmentMode) : Birth where
  input :=
    { id := "ord_1"
      «at» := 0
      mode := modeOf mode
      policy :=
        { deadlines :=
            { quoteResponseMs := 10
              quoteTtlMs := 60
              settleResponseMs := 30
              syncResponseMs := 20
              paymentAfterConfirmationMs := 60
              confirmationResponseMs := 60
              asyncFulfillmentMs := 600 }
          redelivery := { baseDelayMs := 1, factor := 2, maxDelayMs := 8, maxAttempts := 3 } }
      priceCheck := .none
      cardPrice := { amount := "1.00", currency := "USDC", asOf := 0 }
      test := false
      selling := .open }
  order := _
  effects := _
  accepted := rfl

/-! ## Reading a log -/

@[simp] theorem emissions_append (l₁ l₂ : List OrderEntry) : emissions (l₁ ++ l₂) = emissions l₁ ++ emissions l₂ :=
  filterMap_append

@[simp] theorem acceptedKinds_append (l₁ l₂ : List OrderEntry) :
    acceptedKinds (l₁ ++ l₂) = acceptedKinds l₁ ++ acceptedKinds l₂ :=
  filterMap_append

theorem acceptedKinds_cons {b : OrderEntry} {kind : OrderEventKind} {log : List OrderEntry}
    (h : acceptedKind b = some kind) : acceptedKinds (b :: log) = kind :: acceptedKinds log :=
  filterMap_cons_some h

@[simp] theorem emissions_map (fx : List Effect) : emissions (fx.map .emitted) = fx := by
  simp [emissions, filterMap_map, Function.comp_def, emission]

@[simp] theorem emissions_stepLog (e : OrderEvent) (fx : List Effect) : emissions (Reactor.stepLog e fx) = fx :=
  emissions_map fx

/-- An order that every move leaves as it is stays as it is, and nothing is asked for on it but
answers to its merchant. -/
theorem run_stands (hb : o.Sound) (hstands : ∀ {e o' fx}, Move o e o' fx → o' = o ∧ OnlyAnswers fx)
    (events : List OrderEvent) :
    orderMachine.run o events = o ∧ OnlyAnswers (emissions (orderMachine.log o events)) := by
  refine orderMachine.log_induction (P := fun s l => s = o ∧ OnlyAnswers (emissions l)) (l := [])
    ?_ ⟨rfl, nofun⟩ events
  rintro s l e s' fx ⟨rfl, hl⟩ h
  obtain ⟨hs, hfx⟩ := hstands (transition_move hb h)
  refine ⟨hs, fun f hf => ?_⟩
  rw [emissions_append, emissions_stepLog] at hf
  rcases mem_append.1 hf with hf | hf
  · exact hl f hf
  · exact hfx f hf

end

end Coinslot
