import Coinslot.Lib.Custody
import Coinslot.Gateway.Questions
import Coinslot.Gateway.Redeliveries
import Coinslot.Gateway.Refusals

/-!
# A hand-over ends once

A poll writes a token on the order it hands over, a merchant's word takes it away, and a silence counts
only against the token that is there. So the accepted calls of a run are a log that is kept in custody
(`handOvers`), and the token an order waits on is what that log leaves it with (`Desk.Keeps`): what is
known of such logs says that a hand-over ends once, by the first of a silence, a word or a hand-over
after it. Together with what an order may spend of its deliveries it bounds the envelopes that hand one
order over (`Desk.Affords`).
-/

namespace Coinslot

open List

/-! ## The calls that were taken -/

/-- The call of an event the machine took. -/
def DeskNotice.took : DeskNotice → Option (ApplyCall Document)
  | .heard (.applied call (some (.decided (.ok _) _))) => some call
  | _ => none

/-- The call an entry of a log is the taking of. -/
def entryTook : Happening DeskAction DeskNotice → Option (ApplyCall Document)
  | .emitted notice => notice.took
  | .accepted _ => none

/-- The calls whose events were taken, in their order. -/
def taken (log : List (Happening DeskAction DeskNotice)) : List (ApplyCall Document) := log.filterMap entryTook

/-- A call that records a hand-over under a token. -/
def ApplyCall.Hands (call : ApplyCall Document) (token : String) : Prop :=
  call.event.kind = .orderDispatched ∧ call.facts.openDeliveryId = some (some token)

/-- A call that says a hand-over went unanswered. -/
def ApplyCall.SilentOn (call : ApplyCall Document) (token : String) : Prop :=
  call.event.kind = .handlerUndelivered ∧ call.whileWaitingOn = some token

instance (call : ApplyCall Document) (token : String) : Decidable (call.SilentOn token) :=
  inferInstanceAs (Decidable (_ ∧ _))

/-- The tokens of the hand-overs: an order keeps one while it waits on it. -/
def handOvers : Custody (ApplyCall Document) String String where
  key := ApplyCall.orderId
  against := ApplyCall.whileWaitingOn
  leaves := fun call => call.facts.openDeliveryId

def wordKinds : List OrderEventKind :=
  [.handlerDelivered, .deliverCalled, .handlerRefused, .refuseCalled, .handlerAccepted]

/-- A call that ends the hand-over its order waits on: a newer one, a silence, or the merchant's word. -/
def ApplyCall.Ends (call : ApplyCall Document) : Prop :=
  call.event.kind = .orderDispatched ∨ call.event.kind = .handlerUndelivered ∨
    call.event.kind ∈ wordKinds

/-- What a call made at the desk is to the hand-over its order waits on. -/
inductive ApplyCall.Turn (call : ApplyCall Document) : Prop
  | hands (t : Int) (token : String) : call.event = .state (.orderDispatched t) →
      call.facts.openDeliveryId = some (some token) → call.whileWaitingOn = none → Turn call
  | word : call.event.kind ∈ wordKinds → call.facts.openDeliveryId = some none →
      call.whileWaitingOn = none → Turn call
  | silence (t : Int) (token : String) : call.event = .state (.handlerUndelivered t) →
      call.facts.openDeliveryId = some none → call.whileWaitingOn = some token → Turn call
  | elsewhere : call.event.kind ∉ [.orderDispatched, .handlerUndelivered, .confirmationDispatched] →
      call.event.kind ∉ wordKinds → call.facts.openDeliveryId = none → call.whileWaitingOn = none →
      Turn call

section
variable {D : DeskRuntime} {s s' : Desk} {out : List DeskNotice} {action : DeskAction}
  {call : ApplyCall Document} {token : String}

theorem MerchantWord.kind {event : StateEvent} (h : MerchantWord event) : event.kind ∈ wordKinds := by
  cases h with
  | delivered route t => cases route <;> simp [Desk.delivered, StateEvent.kind, wordKinds]
  | refused route t code message => cases route <;> simp [Desk.refused, StateEvent.kind, wordKinds]
  | accepted t => simp [StateEvent.kind, wordKinds]

theorem MadeCall.turn (h : MadeCall call) : call.Turn := by
  cases h with
  | @settles record t outcome _ hs =>
    cases outcome with
    | settled txn =>
      cases hs
      exact .elsewhere (by simp [OrderEvent.kind, StateEvent.kind])
        (by simp [OrderEvent.kind, StateEvent.kind, wordKinds]) rfl rfl
    | failed reason =>
      cases hs
      exact .elsewhere (by simp [OrderEvent.kind, StateEvent.kind])
        (by simp [OrderEvent.kind, StateEvent.kind, wordKinds]) rfl rfl
    | unknown reason => cases hs
  | reminds now reminder =>
    cases reminder with
    | deadline orderId deadline t =>
      exact .elsewhere (by simp [onReminder, OrderEvent.kind])
        (by simp [onReminder, OrderEvent.kind, wordKinds]) rfl rfl
    | deliveryUnanswered orderId handOver => exact .silence now handOver rfl rfl rfl
  | handsOver merchantId orderId token t => exact .hands t token rfl rfl rfl
  | delivers merchantId orderId route t goods => exact .word (MerchantWord.delivered route t).kind rfl rfl
  | refuses merchantId orderId route t code message =>
    exact .word (MerchantWord.refused route t code message).kind rfl rfl
  | accepts merchantId orderId t => exact .word (MerchantWord.accepted t).kind rfl rfl
  | keepsSilent orderId t =>
    exact .elsewhere (by simp [Desk.silenceCall, OrderEvent.kind, StateEvent.kind])
      (by simp [Desk.silenceCall, OrderEvent.kind, StateEvent.kind, wordKinds]) rfl rfl
  | quotes call =>
    exact .elsewhere (by simp [Desk.quoteCall, OrderEvent.kind, StateEvent.kind])
      (by simp [Desk.quoteCall, OrderEvent.kind, StateEvent.kind, wordKinds]) rfl rfl

section

variable (h : call.Turn)
include h

theorem ApplyCall.Turn.against (ha : call.whileWaitingOn = some token) : call.facts.openDeliveryId = some none := by
  cases h with
  | silence t token he hf _ => exact hf
  | hands _ _ _ _ hwhile | word _ _ hwhile | elsewhere _ _ _ hwhile => cases hwhile.symm.trans ha

theorem ApplyCall.Turn.silent (hk : call.event.kind = .handlerUndelivered) : ∃ token, call.SilentOn token := by
  cases h with
  | silence t token _ _ hwhile => exact ⟨token, hk, hwhile⟩
  | hands t token he _ _ =>
    rw [he] at hk
    cases hk
  | word hword _ _ => simp [hk, wordKinds] at hword
  | elsewhere hne _ _ _ => simp [hk] at hne

theorem ApplyCall.Turn.puts (hput : call.facts.openDeliveryId = some (some token)) : call.Hands token := by
  cases h with
  | hands t token he _ _ =>
    refine ⟨?_, hput⟩
    rw [he]
    rfl
  | word _ hf _ => cases hf.symm.trans hput
  | silence _ _ _ hf _ => cases hf.symm.trans hput
  | elsewhere _ _ hf _ => cases hf.symm.trans hput

theorem ApplyCall.Turn.word_leaves (hword : call.event.kind ∈ wordKinds) :
    call.facts.openDeliveryId = some none := by
  cases h with
  | word _ hf _ => exact hf
  | silence _ _ _ hf _ => exact hf
  | hands t token he _ _ =>
    rw [he] at hword
    simp [OrderEvent.kind, StateEvent.kind, wordKinds] at hword
  | elsewhere _ hne _ _ => exact absurd hword hne

theorem ApplyCall.Turn.not_ends (hf : call.facts.openDeliveryId = none) : ¬ call.Ends := by
  cases h with
  | hands _ _ _ hsome _ | word _ hsome _ | silence _ _ _ hsome _ => cases hsome.symm.trans hf
  | elsewhere hne hnoword _ _ =>
    rintro (hk | hk | hk)
    · simp [hk] at hne
    · simp [hk] at hne
    · exact hnoword hk

end

/-! ## What a step takes -/

@[simp] theorem taken_append (log more : List (Happening DeskAction DeskNotice)) :
    taken (log ++ more) = taken log ++ taken more :=
  filterMap_append

@[simp] theorem taken_stepLog (action : DeskAction) (out : List DeskNotice) :
    taken (Reactor.stepLog action out) = out.filterMap DeskNotice.took := by
  unfold taken Reactor.stepLog
  rw [filterMap_cons_none (show entryTook (.accepted action) = none from rfl), filterMap_map]
  rfl

variable {notice : DeskNotice} {envelopeId : String} {t : Int}

theorem DeskNotice.Quiet.took (h : notice.Quiet) : notice.took = none := by
  unfold DeskNotice.took
  split
  · exact h.elim
  · rfl

theorem quiet_took (h : ∀ notice ∈ out, notice.Quiet) : out.filterMap DeskNotice.took = [] :=
  filterMap_eq_nil_iff.2 fun notice hn => (h notice hn).took

theorem publishings_took (alongside : List (WithTheOrder Document)) :
    ((publishings alongside).map DeskNotice.heard).filterMap DeskNotice.took = [] := by
  refine filterMap_eq_nil_iff.2 fun notice hn => ?_
  obtain ⟨n, hin, rfl⟩ := mem_map.1 hn
  obtain ⟨write, -, hwrite⟩ := mem_filterMap.1 hin
  cases write with
  | envelope merchantId envelope afterMs =>
    cases hwrite
    rfl
  | receipt merchantId receipt => cases hwrite

variable {more : List DeskNotice}

theorem commit_took (armed : List (Reminder × Int)) (alongside : List (WithTheOrder Document))
    (last : Notice Document) (hq : ∀ notice ∈ more, notice.Quiet) :
    ((remindings armed ++ publishings alongside ++ [last]).map DeskNotice.heard ++
      more).filterMap DeskNotice.took = (DeskNotice.heard last).took.toList := by
  rw [filterMap_append, quiet_took hq, append_nil, map_append, map_append,
    filterMap_append, filterMap_append, quiet_took (quiet_heard (quiet_remindings armed)),
    publishings_took]
  cases hl : (DeskNotice.heard last).took <;> simp [hl]

def Desk.waitsOn (s : Desk) (id : String) : Option String := (s.orderById id).bind StoredOrder.openDeliveryId

/-- A step takes no event, and every order waits on what it waited on, or it takes one, and what its
order waits on is what the call leaves it with. -/
inductive Desk.Takes (D : DeskRuntime) (s s' : Desk) (out : List DeskNotice) (action : DeskAction) :
    Prop
  | nothing : out.filterMap DeskNotice.took = [] → (∀ id, s'.waitsOn id = s.waitsOn id) →
      Takes D s s' out action
  | event {call : ApplyCall Document} {found : StoredOrder Document} :
      out.filterMap DeskNotice.took = [call] → action.Feeds s call →
      s.orderById call.orderId = some found → ¬ call.MovedOn found →
      (∀ id, s'.waitsOn id = handOvers.keeps id (s.waitsOn id) call) → Takes D s s' out action

theorem Desk.waitsOn_set {key : String} {found next : StoredOrder Document}
    (hf : s.orderById key = some found) (hs : s'.orders = s.orders.set key next)
    (ho : next.openDeliveryId = found.openDeliveryId) (id : String) : s'.waitsOn id = s.waitsOn id := by
  unfold Desk.waitsOn
  rw [Desk.orderById_set hs]
  split
  · next hid => rw [hid, hf, Option.bind_some, Option.bind_some, ho]
  · rfl

theorem Desk.waitsOn_same (hs : s'.orders = s.orders) (id : String) : s'.waitsOn id = s.waitsOn id := by
  have hget : s'.waitsOn id = (s'.orders.get id).bind StoredOrder.openDeliveryId := rfl
  rw [hget, hs]
  rfl

theorem appliedRecord_openDeliveryId (config : Config) (call : ApplyCall Document)
    (found : StoredOrder Document) (order : Order) (effects : List Effect) :
    (appliedRecord config call found order effects).openDeliveryId =
      call.facts.openDeliveryId.getD found.openDeliveryId := by
  unfold appliedRecord withFacts
  split <;> rfl

/-- **The rule of a step, for the hand-overs.** -/
theorem DeskStep.takes_event (h : DeskStep D s s' out action) : Desk.Takes D s s' out action := by
  cases h with
  | stands hs hq => exact .nothing (quiet_took hq) (Desk.waitsOn_same hs)
  | sweeps hs hq =>
    refine .nothing (filterMap_eq_nil_iff.2 fun notice hn => ?_) (Desk.waitsOn_same hs)
    rcases hq notice hn with hquiet | ⟨m, e, a, rfl⟩
    · exact hquiet.took
    · rfl
  | opens sale hn hs hq =>
    refine .nothing (quiet_took hq) fun id => ?_
    unfold Desk.waitsOn
    rw [Desk.orderById_set hs]
    split
    · next hid =>
      rw [hid, hn]
      rfl
    · rfl
  | notes hf hs hq => exact .nothing (quiet_took hq) (Desk.waitsOn_set hf hs rfl)
  | @feeds _ call found order effects alongside now fresh more hfeeds hf _ hm _ _ hs hout hq =>
    refine .event ?_ hfeeds hf hm fun id => ?_
    · rw [hout, commit_took _ _ _ hq]
      rfl
    · unfold Desk.waitsOn Custody.keeps
      rw [Desk.orderById_set hs]
      by_cases hid : call.orderId = id
      · rw [if_pos hid.symm, if_pos (show handOvers.key call = id from hid), ← hid, hf]
        exact appliedRecord_openDeliveryId _ _ _ _ _
      · rw [if_neg (Ne.symm hid), if_neg (show ¬ handOvers.key call = id from hid)]
  | takes hf _ _ _ hs hout hq =>
    refine .nothing ?_ (Desk.waitsOn_set hf hs rfl)
    rw [hout, commit_took _ _ _ hq]
    rfl

/-! ## The log of the hand-overs is kept -/

theorem DeskAction.Feeds.handOver (h : action.Feeds s call) (hput : call.facts.openDeliveryId = some (some token)) :
    ∃ merchantId envelopeId document turn, action = .handOver merchantId envelopeId token document turn := by
  cases action with
  | handOver merchantId envelopeId token' document turn =>
    cases h
    cases hput
    exact ⟨merchantId, envelopeId, document, turn, rfl⟩
  | gateway act =>
    cases act with
    | settle k outcome now fresh cut =>
      obtain ⟨-, record, t, hs⟩ := h
      cases outcome <;> cases hs <;> cases hput
    | apply task call' now fresh cut => cases h.1
    | _ => exact h.2.elim
  | fire n turn =>
    obtain ⟨reminder, stage, -, rfl⟩ := h
    cases reminder <;> cases hput
  | handIn k turn =>
    obtain ⟨d, -, rfl⟩ := h
    cases hput
  | refuseOrder merchantId orderId code message turn =>
    cases h
    cases hput
  | acceptOrder merchantId orderId turn =>
    cases h
    cases hput
  | answerOrder k merchantId orderId reply turn =>
    cases reply with
    | delivered goods => exact h.elim
    | refused code message =>
      cases h
      cases hput
    | accepted =>
      cases h
      cases hput
  | askThePrice orderId card priceId turn =>
    cases h
    cases hput
  | wakes priceId turn =>
    obtain ⟨parked, -, rfl⟩ := h
    cases hput
  | putQuote k turn =>
    obtain ⟨q, -, rfl⟩ := h
    cases hput
  | _ => exact h.elim

theorem Desk.handOver_minted {merchantId : String} {document : OrderDocument Document} (turn : Turn) :
    (s.handOver D merchantId envelopeId token document turn).1.minted = s.minted.set token document.id := by
  unfold Desk.handOver
  dsimp only
  split
  · rfl
  · rfl
  · rfl
  · rfl
  · split <;> rfl
  · rfl

theorem Desk.puts_fresh (h : (deskMachine D).react s action = .ok (s', out))
    (hfeeds : action.Feeds s call) (hput : handOvers.Puts token call) :
    s.minted.has token = false ∧ s'.minted.has token = true := by
  obtain ⟨merchantId, envelopeId, document, turn, rfl⟩ := hfeeds.handOver hput
  have hperforms := Desk.react_performs h
  generalize hcame : (s', out) = came at hperforms
  cases hperforms with
  | handOver _ hnew =>
    have hs : s' = (s.handOver D merchantId envelopeId token document turn).1 := congrArg Prod.fst hcame
    refine ⟨hnew, ?_⟩
    rw [hs, Desk.handOver_minted, Dict.has, Dict.get_set_self]
    rfl

theorem Desk.minted_mono (h : (deskMachine D).react s action = .ok (s', out))
    (hm : s.minted.has token = true) : s'.minted.has token = true := by
  obtain ⟨orderId, ho⟩ := Option.isSome_iff_exists.1 hm
  rw [Dict.has, (Desk.react_performs h).turns.minted ho]
  rfl

/-- What an order waits on is what the calls taken so far leave it with, every token they put was
minted, and each of them could follow those before it. -/
structure Desk.Keeps (s : Desk) (log : List (Happening DeskAction DeskNotice)) : Prop where
  waits : ∀ id, s.waitsOn id = handOvers.holding (taken log) id
  minted : ∀ call ∈ taken log, ∀ token, handOvers.Puts token call → s.minted.has token = true
  kept : handOvers.Kept (taken log)
  turns : ∀ call ∈ taken log, call.Turn

variable {log : List (Happening DeskAction DeskNotice)}

/-- **The step.** -/
theorem Desk.Keeps.step (h : s.Keeps log) (hreact : (deskMachine D).react s action = .ok (s', out)) :
    s'.Keeps (log ++ Reactor.stepLog action out) := by
  cases (Desk.step_deskStep hreact).takes_event with
  | nothing hout hwaits =>
    have hlog : taken (log ++ Reactor.stepLog action out) = taken log := by
      rw [taken_append, taken_stepLog, hout, append_nil]
    refine ⟨fun id => ?_, fun call hin token hput => ?_, by rw [hlog]; exact h.kept, ?_⟩
    · rw [hlog, hwaits]
      exact h.waits id
    · rw [hlog] at hin
      exact Desk.minted_mono hreact (h.minted call hin token hput)
    · rw [hlog]
      exact h.turns
  | @event call found hout hfeeds hf hm hwaits =>
    have hlog : taken (log ++ Reactor.stepLog action out) = taken log ++ [call] := by
      rw [taken_append, taken_stepLog, hout]
    refine ⟨fun id => ?_, fun made hin token hput => ?_, ?_, fun made hin => ?_⟩
    · rw [hlog, Custody.holding_concat, hwaits, h.waits]
    · rw [hlog] at hin
      rcases mem_append.1 hin with hin | hin
      · exact Desk.minted_mono hreact (h.minted made hin token hput)
      · rw [mem_singleton.1 hin] at hput
        exact (Desk.puts_fresh hreact hfeeds hput).2
    · rw [hlog, Custody.kept_concat]
      refine ⟨h.kept, fun token hagainst => ?_, fun token hput made hin hbefore => ?_⟩
      · -- The order waits on the hand-over the call is made against, or nothing would be written.
        have hopen : found.openDeliveryId = some token := by
          by_contra hne
          exact hm ⟨token, hagainst, hne⟩
        rw [← h.waits]
        show (s.orderById call.orderId).bind StoredOrder.openDeliveryId = some token
        rw [hf]
        exact hopen
      · have hminted := h.minted made hin token hbefore
        rw [(Desk.puts_fresh hreact hfeeds hput).1] at hminted
        cases hminted
    · rw [hlog] at hin
      rcases mem_append.1 hin with hin | hin
      · exact h.turns made hin
      · rw [mem_singleton.1 hin]
        exact hfeeds.made.turn

theorem deskRun_keepsHandOvers (D : DeskRuntime) (actions : List DeskAction) :
    (deskRun D actions).Keeps (deskLog D actions) := by
  have hall := (deskMachine D).log_induction (P := Desk.Keeps) (s := .empty) (l := [])
    (fun h hreact => h.step hreact) ?_ actions
  · rwa [nil_append] at hall
  · refine ⟨fun id => rfl, ?_, Custody.kept_nil, ?_⟩
    · rintro call ⟨⟩
    · rintro call ⟨⟩

/-! ## The envelopes of an order -/

/-- An envelope that hands the order over, put on a stream. -/
def Notice.sendsOrder (id : String) : Notice Document → Bool
  | .published _ (.order _ _ document) _ => document.id = id
  | _ => false

/-- An envelope that hands the order over, put on a stream or put back there. -/
def DeskNotice.sendsOrder (id : String) : DeskNotice → Bool
  | .heard notice => notice.sendsOrder id
  | .putBack _ (.order _ _ document) _ => document.id = id
  | _ => false

/-- An envelope that hands the order over, put back. -/
def DeskNotice.putsBack (id : String) : DeskNotice → Bool
  | .putBack _ (.order _ _ document) _ => document.id = id
  | _ => false

/-- An open order looked at by a sweep. -/
def DeskAction.sweeps : DeskAction → Bool
  | .gateway (.sweepOpen ..) => true
  | _ => false

/-- How many envelopes were put on a stream to hand the order over, those put back among them. -/
def orderEnvelopes (id : String) (log : List (Happening DeskAction DeskNotice)) : Nat :=
  log.countP fun
    | .emitted notice => notice.sendsOrder id
    | .accepted _ => false

/-- How many of them were put back. -/
def putBacks (id : String) (log : List (Happening DeskAction DeskNotice)) : Nat :=
  log.countP fun
    | .emitted notice => notice.putsBack id
    | .accepted _ => false

/-- The entry of a log that is a sweep looking at an order. -/
def entrySweeps : Happening DeskAction DeskNotice → Bool
  | .emitted _ => false
  | .accepted action => action.sweeps

def sweeps (log : List (Happening DeskAction DeskNotice)) : Nat := log.countP entrySweeps

theorem orderEnvelopes_step (id : String) (log : List (Happening DeskAction DeskNotice)) :
    orderEnvelopes id (log ++ Reactor.stepLog action out) =
      orderEnvelopes id log + out.countP (DeskNotice.sendsOrder id) := by
  unfold orderEnvelopes Reactor.stepLog
  rw [countP_append, countP_cons, countP_map]
  rfl

theorem putBacks_step (id : String) (log : List (Happening DeskAction DeskNotice)) :
    putBacks id (log ++ Reactor.stepLog action out) = putBacks id log + out.countP (DeskNotice.putsBack id) := by
  unfold putBacks Reactor.stepLog
  rw [countP_append, countP_cons, countP_map]
  rfl

theorem sweeps_step (log : List (Happening DeskAction DeskNotice)) : sweeps (log ++ Reactor.stepLog action out) =
      sweeps log + if action.sweeps then 1 else 0 := by
  have hnone : out.countP (entrySweeps ∘ Happening.emitted) = 0 :=
    countP_eq_zero.2 fun notice _ => Bool.false_ne_true
  unfold sweeps Reactor.stepLog
  rw [countP_append, countP_cons, countP_map, hnone, Nat.zero_add]
  rfl

variable {id : String}

theorem DeskNotice.Quiet.sendsOrder (h : notice.Quiet) (hs : notice.sendsOrder id = true) :
    notice.putsBack id = true := by
  cases notice with
  | heard notice =>
    cases notice with
    | published merchantId envelope afterMs => exact h.elim
    | _ => cases hs
  | putBack merchantId envelope afterMs => cases envelope <;> exact hs
  | _ => cases hs

theorem quiet_sendsOrder (id : String) (h : ∀ notice ∈ out, notice.Quiet) :
    out.countP (DeskNotice.sendsOrder id) ≤ out.countP (DeskNotice.putsBack id) :=
  countP_mono_left fun notice hn hs => (h notice hn).sendsOrder hs

theorem countP_sendsOrder_remindings (armed : List (Reminder × Int)) (id : String) :
    (remindings armed : List (Notice Document)).countP (Notice.sendsOrder id) = 0 := by
  refine countP_eq_zero.2 fun notice hn hs => ?_
  obtain ⟨reminder, -, rfl⟩ := mem_map.1 hn
  cases hs

variable {record : StoredOrder Document} {effects : List Effect} {alongside : List (WithTheOrder Document)}

theorem countP_sendsOrder_publishings {before : Order} {fresh : Nat → String}
    (h : writesWithTheOrder record before t fresh effects = .ok alongside) (id : String) :
    (publishings alongside).countP (Notice.sendsOrder id) =
      if record.order.id = id then effects.countP Effect.handsOver else 0 := by
  have howns : ∀ notice ∈ publishings alongside,
      notice.sendsOrder id = (decide (record.order.id = id) && notice.handsOver) := by
    intro notice hn
    obtain ⟨write, hin, hwrite⟩ := mem_filterMap.1 hn
    obtain ⟨effect, -, hwritten⟩ := exists_asked (writesWithTheOrder_written h) hin
    cases write with
    | envelope merchantId envelope afterMs =>
      cases hwrite
      cases envelope with
      | order envelopeId at' document =>
        rw [← hwritten.document]
        exact (Bool.and_true _).symm
      | orderEvent envelopeId at' document => exact (Bool.and_false _).symm
    | receipt merchantId receipt => cases hwrite
  rw [← countP_handsOver_alongside h, ← countP_handsOver_publishings]
  split
  · next hid =>
    refine countP_congr fun notice hn => ?_
    rw [howns notice hn, decide_eq_true hid, Bool.true_and]
  · next hid =>
    refine countP_eq_zero.2 fun notice hn hs => ?_
    rw [howns notice hn, decide_eq_false hid] at hs
    cases hs

variable {last : Notice Document}

/-- What a commit lets out hands over the order it writes, as often as its effects ask for it, and no
other. -/
theorem commit_sendsOrder {before : Order} {fresh : Nat → String}
    (h : writesWithTheOrder record before t fresh effects = .ok alongside) (armed : List (Reminder × Int))
    (id : String) (hlast : last.sendsOrder id = false) (hq : ∀ notice ∈ more, notice.Quiet) :
    ((remindings armed ++ publishings alongside ++ [last]).map DeskNotice.heard ++ more).countP
        (DeskNotice.sendsOrder id) ≤ (if record.order.id = id then effects.countP Effect.handsOver else 0) +
        ((remindings armed ++ publishings alongside ++ [last]).map DeskNotice.heard ++ more).countP
          (DeskNotice.putsBack id) := by
  have hmore := quiet_sendsOrder id hq
  have hheard (notices : List (Notice Document)) :
      (notices.map DeskNotice.heard).countP (DeskNotice.sendsOrder id) = notices.countP (Notice.sendsOrder id) := by
    rw [countP_map]
    rfl
  rw [countP_append, countP_append, hheard, countP_append, countP_append,
    countP_sendsOrder_remindings, countP_sendsOrder_publishings h id, countP_singleton, hlast]
  simp only [Bool.false_eq_true, if_false]
  omega

theorem World.sweepOpen_sends (R : Runtime) (w : World Document) (k : Nat) (sweep : Sweep Document)
    (record : StoredOrder Document) (rest : List (StoredOrder Document)) (holdsOrder : Bool)
    (envelopeId id : String) :
    (w.sweepOpen R k sweep record rest holdsOrder envelopeId).2.countP (Notice.sendsOrder id) ≤ 1 := by
  unfold World.sweepOpen
  split
  · exact countP_le_length
  · next envelope _ =>
    rw [countP_append, countP_sendsOrder_remindings, Nat.add_zero]
    cases envelope with
    | none => exact Nat.zero_le _
    | some e => exact countP_le_length

theorem Desk.sweepOpen_sends {k : Nat} {holdsOrder : Bool}
    (h : (deskMachine D).react s (.gateway (.sweepOpen k holdsOrder envelopeId)) = .ok (s', out)) (id : String) :
    out.countP (DeskNotice.sendsOrder id) ≤ 1 := by
  have hperforms := Desk.react_performs h
  generalize hcame : (s', out) = came at hperforms
  cases hperforms with
  | gateway _ hticks =>
    unfold Desk.ticks at hticks
    cases ht : s.timed.step D.runtime (.act (.sweepOpen k holdsOrder envelopeId)) with
    | error r => simp [ht, Except.map] at hticks
    | ok res =>
      simp only [ht, Except.map, Except.ok.injEq] at hticks
      subst hticks
      cases Timed.step_performs ht with
      | @act _ world notices hact =>
        have hout : out = notices.map .heard := congrArg Prod.snd hcame
        rw [hout, countP_map]
        have hworld := World.step_performs hact
        generalize hswept : (world, notices) = swept at hworld
        cases hworld with
        | sweepOpen _ _ _ _ =>
          have hnotices := congrArg Prod.snd hswept
          dsimp only at hnotices
          rw [hnotices]
          exact World.sweepOpen_sends _ _ _ _ _ _ _ _ _

/-! ## What an order affords -/

/-- An order that is there has spent no more than it may, and one that is not there has spent
nothing. -/
def Desk.Affords (s : Desk) (id : String) (spent : Nat) : Prop :=
  match s.orderById id with
  | none => spent = 0
  | some record => record.order.Spends record.openDeliveryId.isSome spent

variable {spent : Nat}

theorem Desk.Affords.of_some (h : s.Affords id spent) (hr : s.orderById id = some record) :
    record.order.Spends record.openDeliveryId.isSome spent := by
  unfold Desk.Affords at h
  rw [hr] at h
  exact h

theorem Desk.affords_some (hr : s.orderById id = some record)
    (h : record.order.Spends record.openDeliveryId.isSome spent) : s.Affords id spent := by
  unfold Desk.Affords
  rw [hr]
  exact h

theorem Desk.Affords.congr (h : s.Affords id spent)
    (hs : s'.orderById id = s.orderById id) : s'.Affords id spent := by
  unfold Desk.Affords at h ⊢
  rwa [hs]

theorem ApplyCall.Turn.keepsWaiting (h : call.Turn) {found : StoredOrder Document} (hm : ¬ call.MovedOn found) :
    KeepsWaiting call.event found.openDeliveryId.isSome
      (call.facts.openDeliveryId.getD found.openDeliveryId).isSome := by
  cases h with
  | hands t token he hf _ =>
    rw [he, hf]
    exact .handsOver t _
  | word hkind hf _ =>
    refine .other (fun hin => ?_) (by rw [hf]; rintro ⟨⟩)
    simp only [mem_cons, not_mem_nil, or_false] at hin
    rcases hin with h | h | h <;> simp [h, wordKinds] at hkind
  | silence t token he hf hwhile =>
    have hopen : found.openDeliveryId = some token := by
      by_contra hne
      exact hm ⟨token, hwhile, hne⟩
    rw [he, hf, hopen]
    exact .silence t
  | elsewhere hk _ hf _ => exact .other hk (by rw [hf]; exact id)

theorem eventsForVerifiedPayment_kind {o : Order} {event : StateEvent} (h : event ∈ eventsForVerifiedPayment o t) :
    event.kind ∉ [.orderDispatched, .handlerUndelivered, .confirmationDispatched] := by
  unfold eventsForVerifiedPayment at h
  split at h
  all_goals first | split at h | skip
  all_goals simp only [mem_cons, not_mem_nil, or_false] at h
  all_goals rcases h with rfl | rfl <;> simp [StateEvent.kind]

/-- **The step.** An order has spent, after a step, what it put on its stream in it, but for what a sweep
or a poll put back. -/
theorem Desk.Affords.step (h : s.Affords id spent) (hreact : (deskMachine D).react s action = .ok (s', out))
    (hb : ∀ id record, s.orderById id = some record → record.order.id = id ∧ record.order.Sound) :
    ∃ more, s'.Affords id (spent + more) ∧ out.countP (DeskNotice.sendsOrder id) ≤
        more + (if action.sweeps then 1 else 0) + out.countP (DeskNotice.putsBack id) := by
  have quiet (hq : ∀ notice ∈ out, notice.Quiet) (haff : s'.Affords id spent) :
      ∃ more, s'.Affords id (spent + more) ∧
        out.countP (DeskNotice.sendsOrder id) ≤
          more + (if action.sweeps then 1 else 0) + out.countP (DeskNotice.putsBack id) := by
    have hle := quiet_sendsOrder id hq
    exact ⟨0, haff, by omega⟩
  have same (hs : s'.orders = s.orders) : s'.orderById id = s.orderById id := by
    have hget : s'.orderById id = s'.orders.get id := rfl
    rw [hget, hs]
    rfl
  have here {key : String} {next : StoredOrder Document} (hs : s'.orders = s.orders.set key next) :
      s'.orderById key = some next := by
    rw [Desk.orderById_set hs, if_pos rfl]
  have elsewhere {key : String} {next : StoredOrder Document}
      (hs : s'.orders = s.orders.set key next) (hid : id ≠ key) :
      s'.orderById id = s.orderById id := by
    rw [Desk.orderById_set hs, if_neg hid]
  have committed {key : String} {found next : StoredOrder Document} {order : Order} {t : Int}
      {effects : List Effect} {alongside : List (WithTheOrder Document)} {fresh : Nat → String}
      {armed : List (Reminder × Int)} {last : Notice Document} {rest : List DeskNotice}
      (hf : s.orderById key = some found) (hs : s'.orders = s.orders.set key next)
      (hid : next.order.id = key)
      (hspends : ∀ spent, found.order.Spends found.openDeliveryId.isSome spent →
        next.order.Spends next.openDeliveryId.isSome (spent + effects.countP Effect.handsOver))
      (hw : writesWithTheOrder next order t fresh effects = .ok alongside)
      (hlast : last.sendsOrder id = false)
      (hout : out = (remindings armed ++ publishings alongside ++ [last]).map .heard ++ rest)
      (hq : ∀ notice ∈ rest, notice.Quiet) :
      ∃ more, s'.Affords id (spent + more) ∧
        out.countP (DeskNotice.sendsOrder id) ≤
          more + (if action.sweeps then 1 else 0) + out.countP (DeskNotice.putsBack id) := by
    have hsends := commit_sendsOrder hw armed id hlast hq
    rw [← hout, hid] at hsends
    by_cases hkey : key = id
    · subst hkey
      rw [if_pos rfl] at hsends
      exact ⟨_, Desk.affords_some (here hs) (hspends spent (h.of_some hf)), by omega⟩
    · rw [if_neg hkey] at hsends
      exact ⟨0, h.congr (elsewhere hs (Ne.symm hkey)), by omega⟩
  cases Desk.step_deskStep hreact with
  | stands hs hq => exact quiet hq (h.congr (same hs))
  | sweeps hs _ =>
    have hle := Desk.sweepOpen_sends hreact id
    refine ⟨0, h.congr (same hs), ?_⟩
    rw [show DeskAction.sweeps (.gateway (.sweepOpen _ _ _)) = true from rfl, if_pos rfl]
    omega
  | opens sale hn hs hq =>
    refine quiet hq ?_
    by_cases hid : id = sale.record.order.id
    · subst hid
      have hzero : spent = 0 := by
        unfold Desk.Affords at h
        rwa [hn] at h
      rw [hzero]
      exact Desk.affords_some (here hs) sale.birth.spends
    · exact h.congr (elsewhere hs hid)
  | @notes _ key word found hf hs hq =>
    refine quiet hq ?_
    by_cases hid : id = key
    · subst hid
      have hspends := h.of_some hf
      exact Desk.affords_some (here hs) hspends
    · exact h.congr (elsewhere hs hid)
  | @feeds _ call found order effects alongside now fresh more hfeeds hf _ hm ht hw hs hout hq =>
    obtain ⟨hid, hsound⟩ := hb _ _ hf
    refine committed hf hs ((transition_move hsound ht).keeps.1.trans hid) (fun spent hspent => ?_) hw rfl hout hq
    rw [appliedRecord_openDeliveryId]
    exact hspent.step hsound ht (hfeeds.made.turn.keepsWaiting hm)
  | @takes _ t now fresh call charge owner found order effects alongside more hf _ hd hw hs hout hq =>
    obtain ⟨hid, hsound⟩ := hb _ _ hf
    have hid' := (driven_keeps (P := fun o => o.id = call.orderId)
      (fun _ hid hm => hm.keeps.1.trans hid) hsound hid hd).2
    refine committed hf hs hid' (fun spent hspent => ?_) hw rfl hout hq
    exact hspent.driven hsound hd fun event hin => eventsForVerifiedPayment_kind hin

/-- Every order at the desk is kept under its own identifier, and sound, after a step where it was before
it. -/
theorem DeskStep.filed (h : DeskStep D s s' out action)
    (hb : ∀ id record, s.orderById id = some record → record.order.id = id ∧ record.order.Sound) :
    ∀ id record, s'.orderById id = some record → record.order.id = id ∧ record.order.Sound := by
  intro id record hr
  rcases h.orderById id with hsame | ⟨sale, -, hid, hnew⟩ | ⟨found, next, hf, hn, ht⟩
  · exact hb id record (hsame.symm.trans hr)
  · cases hnew.symm.trans hr
    exact ⟨hid, sale.birth.sound⟩
  · cases hn.symm.trans hr
    obtain ⟨hid, hsound⟩ := hb id found hf
    exact ⟨(ht.orderId hsound).trans hid, ht.sound hsound⟩

/-- **What every order of a run has spent.** -/
theorem deskRun_affords (D : DeskRuntime) (actions : List DeskAction) (id : String) :
    ∃ spent, (deskRun D actions).Affords id spent ∧ orderEnvelopes id (deskLog D actions) ≤
        spent + sweeps (deskLog D actions) + putBacks id (deskLog D actions) := by
  have hall := (deskMachine D).log_induction
    (P := fun s log =>
      (∀ id record, s.orderById id = some record → record.order.id = id ∧ record.order.Sound) ∧
        ∃ spent, s.Affords id spent ∧ orderEnvelopes id log ≤ spent + sweeps log + putBacks id log)
    (s := .empty) (l := []) ?_ ?_ actions
  · have haffords := hall.2
    rwa [nil_append] at haffords
  · rintro s log action s' out ⟨hb, spent, haff, hle⟩ hreact
    obtain ⟨more, haff', hstep⟩ := haff.step hreact hb
    refine ⟨(Desk.step_deskStep hreact).filed hb, spent + more, haff', ?_⟩
    rw [orderEnvelopes_step, sweeps_step, putBacks_step]
    omega
  · exact ⟨by rintro id record ⟨⟩, 0, rfl, Nat.le_refl 0⟩

/-! ## What a silence comes to -/

/-- An envelope that hands any order over, put on a stream. -/
def DeskNotice.handsOver : DeskNotice → Bool
  | .heard notice => notice.handsOver
  | _ => false

theorem commit_last {armed : List (Reminder × Int)} {notice : Notice Document} (hq : ∀ n ∈ more, n.Quiet)
    (hn : ¬ notice.Quiet) (hp : ∀ m e a, notice ≠ .published m e a) (h : .heard notice ∈
      (remindings armed ++ publishings alongside ++ [last]).map DeskNotice.heard ++ more) : notice = last := by
  rcases mem_append.1 h with h | h
  · obtain ⟨n, hin, heq⟩ := mem_map.1 h
    cases heq
    rcases mem_append.1 hin with hin | hin
    · rcases mem_append.1 hin with hin | hin
      · exact absurd (quiet_remindings armed _ hin) hn
      · obtain ⟨write, -, hwrite⟩ := mem_filterMap.1 hin
        cases write with
        | envelope merchantId envelope afterMs =>
          cases hwrite
          exact absurd rfl (hp _ _ _)
        | receipt merchantId receipt => cases hwrite
    · exact mem_singleton.1 hin
  · exact absurd (hq _ h) hn

theorem commit_handsOver (armed : List (Reminder × Int)) (alongside : List (WithTheOrder Document))
    (hlast : last.handsOver = false) (hq : ∀ n ∈ more, n.Quiet) :
    ((remindings armed ++ publishings alongside ++ [last]).map DeskNotice.heard ++ more).countP
      DeskNotice.handsOver = alongside.countP WithTheOrder.handsOver := by
  have hmore : more.countP DeskNotice.handsOver = 0 := by
    refine countP_eq_zero.2 fun notice hn => ?_
    cases notice with
    | heard notice => exact Notice.Quiet.handsOver (hq _ hn)
    | _ => exact Bool.false_ne_true
  have hheard (notices : List (Notice Document)) :
      (notices.map DeskNotice.heard).countP DeskNotice.handsOver = notices.countP Notice.handsOver := by
    rw [countP_map]
    rfl
  rw [countP_append, hmore, hheard, countP_append, countP_append,
    quiet_handsOver (quiet_remindings armed), countP_handsOver_publishings, countP_singleton,
    hlast]
  simp

/-- **Where an accepted event comes from.** The call was fed to the order as it was found, and the
envelopes let out are those the machine asked for. -/
theorem DeskStep.applied (h : DeskStep D s s' out action) {order : Order}
    (hin : .heard (.applied call (some (.decided (.ok (order, effects)) record))) ∈ out) :
    action.Feeds s call ∧ ∃ found, s.orderById call.orderId = some found ∧ ¬ call.MovedOn found ∧
      transition found.order call.event = .ok (order, effects) ∧
      out.countP DeskNotice.handsOver = effects.countP Effect.handsOver := by
  have loud : ¬ (Notice.applied call (some (.decided (.ok (order, effects)) record))).Quiet := not_false
  cases h with
  | stands _ hq | opens _ _ _ hq | notes _ _ hq => exact absurd (hq _ hin) loud
  | sweeps _ hq =>
    rcases hq _ hin with hquiet | ⟨m, e, a, heq⟩
    · exact absurd hquiet loud
    · cases heq
  | feeds hfeeds hf _ hm ht hw _ hout hq =>
    rw [hout] at hin
    cases commit_last hq loud (by rintro m e a ⟨⟩) hin
    refine ⟨hfeeds, _, hf, hm, ht, ?_⟩
    rw [hout, commit_handsOver _ _ rfl hq, countP_handsOver_alongside hw]
  | takes _ _ _ _ _ hout hq =>
    rw [hout] at hin
    cases commit_last hq loud (by rintro m e a ⟨⟩) hin

/-- A silence that is taken sends its order out once more at most, or closes it and sends it to
nobody. -/
theorem deskRun_silence {actions : List DeskAction}
    (hreact : (deskMachine D).react (deskRun D actions) action = .ok (s', out)) {order : Order}
    (hin : .heard (.applied call (some (.decided (.ok (order, effects)) record))) ∈ out)
    (hk : call.event.kind = .handlerUndelivered) :
    ∃ found, (deskRun D actions).orderById call.orderId = some found ∧
      (order = found.order ∧ out.countP DeskNotice.handsOver ≤ 1 ∨
        order.state ∈ [.refundDue, .expired] ∧ order.closure.isSome ∧ out.countP DeskNotice.handsOver = 0) := by
  obtain ⟨hfeeds, found, hf, hm, ht, hcount⟩ := (Desk.step_deskStep hreact).applied hin
  refine ⟨found, hf, ?_⟩
  rw [hcount]
  obtain ⟨spent, haff, -⟩ := deskRun_affords D actions call.orderId
  have hspends := haff.of_some hf
  have hkeeps := hfeeds.made.turn.keepsWaiting hm
  generalize found.openDeliveryId.isSome = waiting at hspends hkeeps
  generalize (call.facts.openDeliveryId.getD found.openDeliveryId).isSome = waiting' at hkeeps
  generalize call.event = event at ht hk hkeeps
  cases hkeeps with
  | handsOver t _ => cases hk
  | silence t => exact hspends.silent (deskRun_sound actions hf).2 ht
  | other hne _ => exact absurd (by simp [hk]) hne

end

/-- **A hand-over ends once.** In every run of the desk at most one silence is taken against each token;
a silence is taken against the token of the last hand-over of its order, with nothing since that ends
it, so none is taken once the merchant's word on the order was, or a newer hand-over; each that is taken
sends the order out once more at most, or closes it; and the envelopes that hand an order over are no
more than its policy's limit, or the one it comes into the queue with, but for what the sweeps add and
what is put back. -/
theorem a_handover_ends_once (D : DeskRuntime) (actions : List DeskAction) :
    (∀ token, (taken (deskLog D actions)).countP (fun call => call.SilentOn token) ≤ 1) ∧
    (∀ before call after, taken (deskLog D actions) = before ++ call :: after →
      call.event.kind = .handlerUndelivered →
      ∃ token earlier handed between, call.SilentOn token ∧
        before = earlier ++ handed :: between ∧ handed.orderId = call.orderId ∧
        handed.Hands token ∧ ∀ made ∈ between, made.orderId = call.orderId → ¬ made.Ends) ∧
    (∀ first ending last token, taken (deskLog D actions) = first ++ ending :: last →
      (∃ handed ∈ first, handed.orderId = ending.orderId ∧ handed.Hands token) →
      (ending.event.kind ∈ wordKinds ∨ ∃ newer, ending.Hands newer) →
      ∀ call ∈ last, ¬ call.SilentOn token) ∧
    (∀ action s' out call order effects record,
      (deskMachine D).react (deskRun D actions) action = .ok (s', out) →
      .heard (.applied call (some (.decided (.ok (order, effects)) record))) ∈ out →
      call.event.kind = .handlerUndelivered →
      ∃ found, (deskRun D actions).orderById call.orderId = some found ∧
        (order = found.order ∧ out.countP DeskNotice.handsOver ≤ 1 ∨
          order.state ∈ [.refundDue, .expired] ∧ order.closure.isSome ∧ out.countP DeskNotice.handsOver = 0)) ∧
    ∀ id record, (deskRun D actions).orderById id = some record →
      (orderEnvelopes id (deskLog D actions) : Int) ≤
        max 1 record.order.policy.redelivery.maxAttempts + sweeps (deskLog D actions) +
          putBacks id (deskLog D actions) := by
  have hkeeps := deskRun_keepsHandOvers D actions
  have hkept := hkeeps.kept
  refine ⟨fun token => ?_, fun before call after hlog hk => ?_,
    fun first ending last token hlog ⟨handed, hin, hkey, hhands⟩ hends call hcall hsilent => ?_,
    fun action s' out call order effects record hreact hin hk => deskRun_silence hreact hin hk,
    fun id record hr => ?_⟩
  · refine (List.countP_mono_left fun call _ hsilent => ?_).trans
      (hkept.count_against (fun call hin token => (hkeeps.turns call hin).against) token).1
    exact decide_eq_true (of_decide_eq_true hsilent).2
  · obtain ⟨token, hsilent⟩ := (hkeeps.turns call (by simp [hlog])).silent hk
    have hheld := (hkept before call after hlog).held token hsilent.2
    obtain ⟨earlier, handed, between, hbefore, hkey, hput, hsince⟩ := Custody.holding_last hheld
    have hmade : ∀ made ∈ before, made.Turn := fun made hin => hkeeps.turns made (by simp [hlog, hin])
    refine ⟨token, earlier, handed, between, hsilent, hbefore, hkey, ?_, fun made hin hsame => ?_⟩
    · exact (hmade handed (by simp [hbefore])).puts hput
    · exact (hmade made (by simp [hbefore, hin])).not_ends (hsince made hin hsame)
  · have hlast : taken (deskLog D actions) = (first ++ [ending]) ++ last := by simp [hlog]
    rw [hlast] at hkept
    have hfollows := (Custody.kept_concat.1 hkept.of_append).2
    have hleaves : ∃ left, ending.facts.openDeliveryId = some left ∧ left ≠ some token := by
      rcases hends with hword | ⟨newer, hnewer⟩
      · exact ⟨none, (hkeeps.turns ending (by simp [hlog])).word_leaves hword, by rintro ⟨⟩⟩
      · refine ⟨some newer, hnewer.2, fun heq => ?_⟩
        exact hfollows.fresh token (hnewer.2.trans (congrArg some heq)) handed hin hhands.2
    obtain ⟨left, hleft, hne⟩ := hleaves
    have hgone := hkept.of_append.gone_of_replaced hin hhands.2 hkey hleft hne
    exact (hkept.gone hgone).2 call hcall hsilent.2
  · obtain ⟨spent, haff, hle⟩ := deskRun_affords D actions id
    have hmax := (haff.of_some hr).1
    omega

end Coinslot
