import Coinslot.Gateway.Served

/-!
# Price questions and their answers

The answers to a price question come in one by one, beside our own patience for them and the deadlines of
the order. Which of them counts is decided in one place: the machine prices an order, or closes it for want
of a price, once, and a merchant hears that his answer was used where the machine took it. What he said is
then what the order carries, whatever comes later (`StoredOrder.Carries`). An answer he hears was not used
left every order as it was.
-/

namespace Coinslot

open List Dict Desk DeskNotice

/-! ## The order an answer priced, or closed -/

/-- The order is what this answer made of it: priced as it said, or closed as unavailable. -/
def Order.Answered (order : Order) (response : Option Price) : Prop :=
  order.state ≠ .created ∧
    match response with
    | some price => order.price = some price
    | none => order.state = .rejected ∧ order.closure = some .unavailable

section
variable {o o' : Order} {e : OrderEvent} {fx : List Effect} {response : Option Price} {t : Int}

theorem Move.priced (hm : Move o e o' fx) (hs : o.state ≠ .created) : o'.state ≠ .created := by
  cases hm with
  | stands _ _ => exact hs
  | closes hc _ => cases hc <;> simp [closeWithoutMoney]
  | accepts hh hd | redelivers hh hd => simp [hd]
  | fails hh _ hf => cases hf <;> simp [closeWithoutMoney]
  | charges hs' _ _ => rcases hs' with hs' | hs' <;> simp [settlingOrder, hs']
  | owes _ _ _ _ | chargeFails _ _ _ | chargeSilent _ _ _ => simp [closeWithoutMoney]
  | _ => simp_all [paidOrder, dispatchedOrder, deliveredOrder, settlingOrder]

theorem Move.answered (hb : o.Sound) (hm : Move o e o' fx) (h : o.Answered response) : o'.Answered response := by
  refine ⟨hm.priced h.1, ?_⟩
  cases response with
  | some price => exact hm.keeps_price hb h.2
  | none =>
    obtain ⟨-, hs, hc⟩ := h
    rcases hm.of_rejected hb hs with ⟨rfl, -⟩ | ⟨hp, -⟩
    · exact ⟨hs, hc⟩
    · -- It was closed for want of a price, and not on the silence of a charge.
      simp only [Order.Sound, hs] at hb
      rcases hb.2 with ⟨hunknown, -⟩ | ⟨-, hpay⟩
      · cases hc.symm.trans hunknown
      · rw [hp] at hpay
        simp at hpay

/-- **The machine takes one answer.** An answer is taken on an order that has no price yet, and the order
is what it says from then on. -/
theorem transition_quoteAnswered (h : transition o (.state (.quoteAnswered t response)) = .ok (o', fx)) :
    o.state = .created ∧ o'.Answered response := by
  unfold transition at h
  dsimp only at h
  split at h
  · exact absurd h reject_ne_ok
  · cases hs : o.state <;> simp only [fromState, hs] at h
    case created =>
      refine ⟨rfl, ?_⟩
      cases response with
      | none =>
        obtain ⟨rfl, -⟩ := ok_eq_ok.1 h
        exact ⟨by simp [closeWithoutMoney], rfl, rfl⟩
      | some price =>
        simp only [fromCreated] at h
        split at h
        · exact absurd h reject_ne_ok
        · obtain ⟨rfl, -⟩ := ok_eq_ok.1 h
          exact ⟨by simp [quotedOrder], rfl⟩
    all_goals exact absurd h notApplicable_ne_ok

end

/-- The order carries this answer to its question, with the identifier the price was named under. -/
def StoredOrder.Carries (record : StoredOrder Document) (priceId : String) (response : Option Price) : Prop :=
  record.order.Answered response ∧ (response.isSome = true → record.priceId = some priceId)

theorem MadeCall.priceId {call : ApplyCall Document} (h : MadeCall call) :
    call.facts.priceId = none ∨ ∃ t response, call.event = .state (.quoteAnswered t response) := by
  cases h with
  | @settles record t outcome call hs => cases outcome <;> cases hs <;> exact .inl rfl
  | reminds now reminder => cases reminder <;> exact .inl rfl
  | quotes q => exact .inr ⟨_, _, rfl⟩
  | _ => exact .inl rfl

theorem appliedRecord_priceId (config : Config) (call : ApplyCall Document)
    (found : StoredOrder Document) (order : Order) (effects : List Effect) :
    (appliedRecord config call found order effects).priceId = call.facts.priceId.or found.priceId := by
  unfold appliedRecord withFacts
  split <;> rfl

section
variable {D : DeskRuntime} {found next : StoredOrder Document} {priceId : String}
  {response : Option Price}

/-- Whatever the desk makes of an order that has its price, or was closed for want of one, it does not
go back. -/
theorem Treats.priced (h : Treats D found next) (hb : found.order.Sound)
    (hs : found.order.state ≠ .created) : next.order.state ≠ .created := by
  cases h with
  | notes word => exact hs
  | feeds _ _ ht => exact (transition_move hb ht).priced hs
  | takes _ hd => exact (driven_keeps (P := fun o => o.state ≠ .created) (fun _ hP hm => hm.priced hP) hb hs hd).2

theorem Treats.carries (h : Treats D found next) (hb : found.order.Sound)
    (hc : found.Carries priceId response) : next.Carries priceId response := by
  cases h with
  | notes word => exact hc
  | @feeds call order effects hmade _ ht =>
    refine ⟨(transition_move hb ht).answered hb hc.1, fun hr => ?_⟩
    rcases hmade.priceId with hnone | ⟨t, r, he⟩
    · rw [appliedRecord_priceId, hnone]
      exact hc.2 hr
    · -- A second answer is not taken.
      rw [he] at ht
      exact absurd (transition_quoteAnswered ht).1 hc.1.1
  | takes _ hd =>
    refine ⟨(driven_keeps (P := fun o => o.Answered response) (fun hb hP hm => hm.answered hb hP) hb hc.1 hd).2, hc.2⟩

end

/-! ## What the desk holds about its questions -/

/-- What the desk holds about its questions: those that are open, the answers that are under way, and the
identifiers that were minted. -/
structure Books where
  questions : Dict String Question
  quotes : Dict Nat QuoteCall
  minted : Dict String String

def Desk.books (s : Desk) : Books := { questions := s.questions, quotes := s.quotes, minted := s.minted }

/-- A notice that is about no question. -/
def DeskNotice.Unasked : DeskNotice → Prop
  | .asked .. => False
  | .quoteAcked .. => False
  | _ => True

/-- What a step makes of the questions. -/
inductive Desk.Turns (D : DeskRuntime) (s s' : Desk) (out : List DeskNotice) : DeskAction → Prop
  | stands {action : DeskAction} : s'.books = s.books → (∀ notice ∈ out, notice.Unasked) →
      Turns D s s' out action
  | mints {action : DeskAction} {token orderId : String} : s.minted.has token = false →
      s'.books = { s.books with minted := s.minted.set token orderId } →
      (∀ notice ∈ out, notice.Unasked) → Turns D s s' out action
  | asks {orderId priceId merchantId : String} {card : Card} {turn : Turn} :
      s.minted.has priceId = false →
      s'.books = { s.books with
        questions := s.questions.set priceId ⟨orderId, merchantId⟩
        minted := s.minted.set priceId orderId } →
      out = [.asked merchantId priceId orderId] → Turns D s s' out (.askThePrice orderId card priceId turn)
  | finishes {action : DeskAction} {priceId : String} :
      s'.books = { s.books with questions := s.questions.delete priceId } →
      (∀ notice ∈ out, notice.Unasked) → Turns D s s' out action
  | unasked {action : DeskAction} {priceId : String} {response : Option Price} : s' = s →
      out = [.quoteAcked priceId response false] → Turns D s s' out action
  | finds {action : DeskAction} {k : Nat} {call : QuoteCall} {asked : Question} :
      s.questions.get call.priceId = some asked → call.orderId = asked.orderId →
      call.stage = .found → s'.books = { s.books with quotes := s.quotes.set k call } → out = [] →
      Turns D s s' out action
  | wastes {k : Nat} {call : QuoteCall} {turn : Turn} : s.quotes.get k = some call →
      call.stage = .found → s'.orders = s.orders →
      s'.books = { s.books with quotes := s.quotes.set k { call with stage := .put false } } →
      (∀ notice ∈ out, notice.Unasked) → Turns D s s' out (.putQuote k turn)
  | uses {k : Nat} {call : QuoteCall} {turn : Turn} {found : StoredOrder Document} {order : Order}
      {effects : List Effect} : s.quotes.get k = some call → call.stage = .found →
      s.orderById call.orderId = some found →
      transition found.order (.state (.quoteAnswered call.at call.response)) = .ok (order, effects) →
      s'.orderById call.orderId =
        some (appliedRecord D.runtime.config (Desk.quoteCall call) found order effects) →
      s'.books = { s.books with quotes := s.quotes.set k { call with stage := .put true } } →
      (∀ notice ∈ out, notice.Unasked) → Turns D s s' out (.putQuote k turn)
  | drops {action : DeskAction} {k : Nat} :
      s'.books = { s.books with quotes := s.quotes.delete k } →
      (∀ notice ∈ out, notice.Unasked) → Turns D s s' out action
  | acks {k : Nat} {call : QuoteCall} {used : Bool} : s.quotes.get k = some call →
      call.stage = .put used → s'.orders = s.orders →
      s'.books = { s.books with
        questions := s.questions.delete call.priceId
        quotes := s.quotes.delete k } →
      out = [.quoteAcked call.priceId call.response used] → Turns D s s' out (.ackQuote k)
  | forgets {action : DeskAction} :
      s'.books = { s.books with questions := .empty, quotes := .empty } → out = [] →
      Turns D s s' out action

section
variable {D : DeskRuntime} {s s' : Desk} {out : List DeskNotice} {action : DeskAction}

theorem unasked_heard (notices : List (Notice Document)) :
    ∀ notice ∈ notices.map DeskNotice.heard, notice.Unasked := by
  intro notice hn
  obtain ⟨n, -, rfl⟩ := mem_map.1 hn
  trivial

variable {notice : DeskNotice} {k : Nat} {response : Option Price}

theorem unasked_single (h : notice.Unasked) : ∀ n ∈ [notice], n.Unasked := by
  intro n hn
  rw [mem_singleton.1 hn]
  exact h

theorem unasked_append {out₁ out₂ : List DeskNotice} (h₁ : ∀ notice ∈ out₁, notice.Unasked)
    (h₂ : ∀ notice ∈ out₂, notice.Unasked) : ∀ notice ∈ out₁ ++ out₂, notice.Unasked :=
  forall_mem_append.2 ⟨h₁, h₂⟩

theorem Desk.putQuote_turns {call : QuoteCall} (turn : Turn) (hk : s.quotes.get k = some call)
    (hs : call.stage = .found) :
    Desk.Turns D s (s.putQuote D k call turn).1 (s.putQuote D k call turn).2 (.putQuote k turn) := by
  have hserves := s.timed.world.applyAlone_serves D.runtime turn.task (Desk.quoteCall call) turn.now
    turn.fresh turn.cut
  unfold Desk.putQuote Desk.feed
  dsimp only
  generalize (if turn.cut.isSome then none else some (s.timed.world.applied D.runtime
    (Desk.quoteCall call) turn.now turn.fresh)) = told at hserves ⊢
  generalize s.timed.world.applyAlone D.runtime turn.task (Desk.quoteCall call) turn.now turn.fresh
    turn.cut = came at hserves ⊢
  cases hserves with
  | cutOff _ => exact .drops rfl (unasked_heard _)
  | threw _ => exact .drops rfl (unasked_heard _)
  | noSuchOrder _ => exact .wastes hk hs rfl rfl (unasked_heard _)
  | movedOn _ _ => exact .wastes hk hs rfl rfl (unasked_heard _)
  | refused _ _ _ => exact .wastes hk hs rfl rfl (unasked_heard _)
  | @moved found order effects alongside hf _ _ ht _ =>
    refine .uses hk hs hf ht ?_ rfl (unasked_heard _)
    refine (orderById_set (s := s) ?_ call.orderId).trans (if_pos rfl)
    exact s.timed.world.store.saveOrder_orders alongside call.orderId
      (appliedRecord_merchantId D.runtime.config found order (Desk.quoteCall call) effects)

/-- **What becomes of the questions in a step.** -/
theorem Desk.Performs.turns {came : Desk × List DeskNotice} (h : s.Performs D action came) :
    Desk.Turns D s came.1 came.2 action := by
  have ticks {tick : Tick Document} (ht : s.ticks D tick = .ok came) :
      Desk.Turns D s came.1 came.2 action := by
    obtain ⟨⟨timed, hs⟩, notices, hout⟩ := ticks_elsewhere ht
    exact .stands (by rw [hs]; rfl) (hout ▸ unasked_heard notices)
  have fed {before : Desk} {call : ApplyCall Document} {turn : Turn} :
      ∀ n ∈ (before.feed D call turn).2.1, n.Unasked := unasked_heard _
  have silent : ∀ n ∈ ([] : List DeskNotice), n.Unasked := by
    intro n hn
    cases hn
  have delivering (k : Nat) (merchantId orderId : String) (delivery : Document)
      (route : AnswerRoute) : Desk.Turns D s (s.deliverOrder k merchantId orderId delivery route).1
        (s.deliverOrder k merchantId orderId delivery route).2 action := by
    unfold Desk.deliverOrder
    split
    · exact .stands rfl (unasked_single trivial)
    · exact .stands rfl silent
  have answered {before : Desk} {call : ApplyCall Document} {turn : Turn}
      {landed : MerchantAnswerResult} {shape : Option OrderCallResponse → DeskNotice}
      (hbooks : before.books = s.books) (hshape : ∀ response, (shape response).Unasked) :
      Desk.Turns D s (Desk.answering (before.feed D call turn) landed shape).1
        (Desk.answering (before.feed D call turn) landed shape).2 action := by
    refine .stands ?_ ?_
    · rw [answering_fst]
      exact hbooks
    · unfold Desk.answering
      split
      · exact fed
      · split
        · exact unasked_append fed (unasked_single trivial)
        · exact unasked_append fed (unasked_single (hshape _))
  cases h with
  | gateway _ ht => exact ticks ht
  | fire ht => exact ticks ht
  | returns ht => exact ticks ht
  | handOver turn hm =>
    unfold Desk.handOver
    dsimp only
    split
    · exact .mints hm rfl fed
    · exact .mints hm rfl fed
    · exact .mints hm rfl fed
    · exact .mints hm rfl (unasked_append fed (unasked_single trivial))
    · split
      · exact .mints hm rfl (unasked_append fed (unasked_single trivial))
      · exact .mints hm rfl fed
    · exact .mints hm rfl (unasked_append (unasked_append fed (unasked_heard _)) (unasked_single trivial))
  | deliverOrder merchantId orderId delivery => exact delivering _ _ _ _ _
  | weighGoods _ _ =>
    unfold Desk.weighGoods
    split
    · exact .stands rfl (unasked_single trivial)
    · split
      · exact .stands rfl (unasked_single trivial)
      · exact .stands rfl silent
  | handIn turn _ _ => exact answered rfl fun _ => trivial
  | refuseOrder _ _ _ _ _ => exact answered rfl fun _ => trivial
  | acceptOrder _ _ _ => exact answered rfl fun _ => trivial
  | answerOrder merchantId orderId reply turn =>
    cases reply with
    | delivered goods => exact delivering _ _ _ _ _
    | refused code message => exact answered rfl fun _ => trivial
    | accepted => exact answered rfl fun _ => trivial
  | askThePrice card turn _ hm =>
    unfold Desk.askThePrice
    split
    · exact .asks hm rfl rfl
    · exact .stands rfl fed
  | waitOver _ => exact .stands rfl silent
  | wakes turn _ _ =>
    unfold Desk.wakes
    split
    · exact .finishes rfl fed
    · exact .finishes rfl silent
  | answerQuote merchantId priceId response t =>
    unfold Desk.answerQuote
    split
    · exact .unasked rfl rfl
    · next asked hq =>
      split
      · exact .unasked rfl rfl
      · exact .finds hq rfl rfl rfl rfl
  | putQuote turn hk hs => exact putQuote_turns turn hk hs
  | ackQuote hk hs => exact .acks hk hs rfl rfl rfl
  | dropQuote k => exact .drops rfl silent
  | publishCard _ _ _ _ => exact .stands rfl silent
  | setCardPaused _ _ _ => exact .stands rfl (unasked_single trivial)
  | addKey key words => exact .stands rfl (unasked_heard _)
  | disableKeyOf _ _ _ => exact .stands rfl (unasked_single trivial)
  | restart => exact .forgets rfl rfl

theorem Desk.books_eq {books : Books} (h : s'.books = books) :
    s'.questions = books.questions ∧ s'.quotes = books.quotes ∧ s'.minted = books.minted := by
  subst h
  exact ⟨rfl, rfl, rfl⟩

section
variable {priceId orderId : String}

theorem minted_set {minted : Dict String String} {token : String} (hm : minted.has token = false)
    (h : minted.get priceId = some orderId) (other : String) :
    (minted.set token other).get priceId = some orderId := by
  rw [get_set_ne]
  · exact h
  · rintro rfl
    rw [Dict.has, h] at hm
    cases hm

section

variable (h : Desk.Turns D s s' out action)
include h

theorem Desk.Turns.minted (hm : s.minted.get priceId = some orderId) : s'.minted.get priceId = some orderId := by
  cases h with
  | mints hnew hbooks _ =>
    rw [(books_eq hbooks).2.2]
    exact minted_set hnew hm _
  | asks hnew hbooks _ =>
    rw [(books_eq hbooks).2.2]
    exact minted_set hnew hm _
  | unasked hsame _ => rwa [hsame]
  | stands hbooks _ | finishes hbooks _ | finds _ _ _ hbooks _ | wastes _ _ _ hbooks _
  | uses _ _ _ _ _ hbooks _ | drops hbooks _ | acks _ _ _ hbooks _ | forgets hbooks _ =>
    rw [(books_eq hbooks).2.2]
    exact hm

theorem Desk.Turns.asked {merchantId : String}
    (ha : .asked merchantId priceId orderId ∈ out) : s'.minted.get priceId = some orderId := by
  have quiet (hq : ∀ notice ∈ out, notice.Unasked) : False := hq _ ha
  cases h with
  | asks _ hbooks hout =>
    rw [hout] at ha
    cases mem_singleton.1 ha
    rw [(books_eq hbooks).2.2]
    exact get_set_self _ _ _
  | unasked _ hout | acks _ _ _ _ hout =>
    rw [hout] at ha
    cases mem_singleton.1 ha
  | finds _ _ _ _ hout | forgets _ hout =>
    rw [hout] at ha
    cases ha
  | stands _ hq | mints _ _ hq | finishes _ hq | wastes _ _ _ _ hq | uses _ _ _ _ _ _ hq
  | drops _ hq => exact (quiet hq).elim

theorem Desk.Turns.questions {asked : Question} (hq : s'.questions.get priceId = some asked) :
    s.questions.get priceId = some asked ∨ ∃ m, .asked m priceId asked.orderId ∈ out := by
  have deleted {key : String} (hbooks : s'.questions = s.questions.delete key) :
      s.questions.get priceId = some asked := by
    rw [hbooks, get_delete] at hq
    split at hq
    · cases hq
    · exact hq
  cases h with
  | @asks order price merchantId card turn _ hbooks hout =>
    rw [(books_eq hbooks).1, get_set] at hq
    split at hq
    · next hp =>
      cases hq
      exact .inr ⟨merchantId, by rw [hout, hp]; exact mem_singleton_self _⟩
    · exact .inl hq
  | finishes hbooks _ => exact .inl (deleted (books_eq hbooks).1)
  | acks _ _ _ hbooks _ => exact .inl (deleted (books_eq hbooks).1)
  | forgets hbooks _ =>
    rw [(books_eq hbooks).1] at hq
    cases hq
  | unasked hsame _ => exact .inl (by rwa [hsame] at hq)
  | stands hbooks _ | mints _ hbooks _ | finds _ _ _ hbooks _ | wastes _ _ _ hbooks _
  | uses _ _ _ _ _ hbooks _ | drops hbooks _ =>
    rw [(books_eq hbooks).1] at hq
    exact .inl hq

end

end

/-- How an answer that is under way after a step came to be as it is. -/
inductive QuoteCall.Came (D : DeskRuntime) (s s' : Desk) (k : Nat) (call : QuoteCall) :
    DeskAction → Prop
  | stays {action : DeskAction} : s.quotes.get k = some call → Came D s s' k call action
  | found {action : DeskAction} (asked : Question) : s.questions.get call.priceId = some asked →
      call.orderId = asked.orderId → call.stage = .found → Came D s s' k call action
  | wasted {was : QuoteCall} {turn : Turn} : s.quotes.get k = some was → was.stage = .found →
      call = { was with stage := .put false } → s'.orders = s.orders →
      Came D s s' k call (.putQuote k turn)
  | used {was : QuoteCall} {turn : Turn} {found : StoredOrder Document} {order : Order}
      {effects : List Effect} :
      s.quotes.get k = some was → call = { was with stage := .put true } →
      transition found.order (.state (.quoteAnswered was.at was.response)) = .ok (order, effects) →
      s'.orderById was.orderId =
        some (appliedRecord D.runtime.config (Desk.quoteCall was) found order effects) →
      Came D s s' k call (.putQuote k turn)

theorem Desk.Turns.came (h : Desk.Turns D s s' out action) {call : QuoteCall} (hk : s'.quotes.get k = some call) :
    call.Came D s s' k action := by
  have deleted {key : Nat} (hbooks : s'.quotes = s.quotes.delete key) :
      s.quotes.get k = some call := by
    rw [hbooks, get_delete] at hk
    split at hk
    · cases hk
    · exact hk
  cases h with
  | finds hq ho hf hbooks _ =>
    rw [(books_eq hbooks).2.1, get_set] at hk
    split at hk
    · cases hk
      exact .found _ hq ho hf
    · exact .stays hk
  | wastes hw hf ho hbooks _ =>
    rw [(books_eq hbooks).2.1, get_set] at hk
    split at hk
    · next hkey =>
      subst hkey
      cases hk
      exact .wasted hw hf rfl ho
    · exact .stays hk
  | uses hw _ _ ht hs' hbooks _ =>
    rw [(books_eq hbooks).2.1, get_set] at hk
    split at hk
    · next hkey =>
      subst hkey
      cases hk
      exact .used hw rfl ht hs'
    · exact .stays hk
  | drops hbooks _ => exact .stays (deleted (books_eq hbooks).2.1)
  | acks _ _ _ hbooks _ => exact .stays (deleted (books_eq hbooks).2.1)
  | forgets hbooks _ =>
    rw [(books_eq hbooks).2.1] at hk
    cases hk
  | unasked hsame _ => exact .stays (by rwa [hsame] at hk)
  | stands hbooks _ | mints _ hbooks _ | asks _ hbooks _ | finishes hbooks _ =>
    rw [(books_eq hbooks).2.1] at hk
    exact .stays hk

/-- Where an acknowledgement comes from: a question that is not the merchant's to answer or is not open,
or an answer that was put to the machine. -/
theorem Desk.Turns.acked (h : Desk.Turns D s s' out action) {priceId : String} {used : Bool}
    (ha : .quoteAcked priceId response used ∈ out) :
    (used = false ∧ s' = s) ∨ ∃ k call, action = .ackQuote k ∧ s.quotes.get k = some call ∧ call.stage = .put used ∧
        call.priceId = priceId ∧ call.response = response ∧ s'.orders = s.orders := by
  have quiet (hq : ∀ notice ∈ out, notice.Unasked) : False := hq _ ha
  cases h with
  | unasked hsame hout =>
    rw [hout] at ha
    cases mem_singleton.1 ha
    exact .inl ⟨rfl, hsame⟩
  | @acks k call used hk hs ho _ hout =>
    rw [hout] at ha
    cases mem_singleton.1 ha
    exact .inr ⟨k, call, rfl, hk, hs, rfl, rfl, ho⟩
  | asks _ _ hout =>
    rw [hout] at ha
    cases mem_singleton.1 ha
  | finds _ _ _ _ hout | forgets _ hout =>
    rw [hout] at ha
    cases ha
  | stands _ hq | mints _ _ hq | finishes _ hq | wastes _ _ _ _ hq | uses _ _ _ _ _ _ hq
  | drops _ hq => exact (quiet hq).elim

/-! ## One answer is used -/

section

variable (priceId : String)

/-- The acknowledgement of an answer to this question as used. -/
def DeskNotice.isUsed : DeskNotice → Bool
  | .quoteAcked id _ true => id = priceId
  | _ => false

/-- How often a merchant was told that his answer to this question was used. -/
def timesUsed (log : List (Happening DeskAction DeskNotice)) : Nat :=
  log.countP fun
    | .emitted notice => notice.isUsed priceId
    | .accepted _ => false

/-- Whether an answer under way to this question was used, as a number. -/
def QuoteCall.used (call : QuoteCall) : Nat := if call.priceId = priceId ∧ call.stage = .put true then 1 else 0

end

/-- Whether the order of a question has its price or is closed, as a number. -/
def Desk.priced (s : Desk) (priceId : String) : Nat :=
  match (s.minted.get priceId).bind s.orderById with
  | none => 0
  | some record => if record.order.state = .created then 0 else 1

theorem timesUsed_step (priceId : String) (log : List (Happening DeskAction DeskNotice)) :
    timesUsed priceId (log ++ Reactor.stepLog action out) = timesUsed priceId log + out.countP (isUsed priceId) := by
  unfold timesUsed Reactor.stepLog
  rw [countP_append, countP_cons, countP_map]
  rfl

theorem countP_unasked {priceId : String} (h : ∀ notice ∈ out, notice.Unasked) :
    out.countP (isUsed priceId) = 0 := by
  rw [countP_eq_zero]
  intro notice hn hused
  have hun := h notice hn
  unfold isUsed at hused
  split at hused
  · exact hun
  · cases hused

/-- What a step does to the used answers under way and acknowledged: nothing is added to them, but where
an answer is used on an order that had no price and has been answered now. -/
theorem Desk.Turns.balance (h : Desk.Turns D s s' out action) (priceId : String) :
    out.countP (isUsed priceId) + s'.quotes.total (QuoteCall.used priceId) ≤
        s.quotes.total (QuoteCall.used priceId) ∨
      (out.countP (isUsed priceId) + s'.quotes.total (QuoteCall.used priceId) ≤
          s.quotes.total (QuoteCall.used priceId) + 1 ∧
        ∃ k call found next, s.quotes.get k = some call ∧ call.priceId = priceId ∧
          s.orderById call.orderId = some found ∧ found.order.state = .created ∧
          s'.orderById call.orderId = some next ∧ next.order.state ≠ .created) := by
  have kept (hout : ∀ notice ∈ out, notice.Unasked) (hq : s'.quotes = s.quotes) :
      out.countP (isUsed priceId) + s'.quotes.total (QuoteCall.used priceId) ≤
        s.quotes.total (QuoteCall.used priceId) := by
    rw [countP_unasked hout, hq, Nat.zero_add]
  cases h with
  | stands hbooks hout | mints _ hbooks hout | finishes hbooks hout =>
    exact .inl (kept hout (books_eq hbooks).2.1)
  | asks _ hbooks hout =>
    left
    rw [hout, (books_eq hbooks).2.1]
    simp [isUsed, Desk.books]
  | unasked hsame hout =>
    left
    rw [hout, hsame]
    simp [isUsed]
  | @finds _ k call asked _ _ hf hbooks hout =>
    left
    have htotal := s.quotes.total_set (QuoteCall.used priceId) k call
    have hnew : QuoteCall.used priceId call = 0 := by simp [QuoteCall.used, hf]
    rw [(books_eq hbooks).2.1, hout, countP_nil]
    show 0 + (s.quotes.set k call).total (QuoteCall.used priceId) ≤ _
    omega
  | @wastes k call turn _ _ _ hbooks hout =>
    left
    have htotal := s.quotes.total_set (QuoteCall.used priceId) k { call with stage := .put false }
    have hnew : QuoteCall.used priceId { call with stage := .put false } = 0 := by simp [QuoteCall.used]
    rw [(books_eq hbooks).2.1, countP_unasked hout]
    show 0 + (s.quotes.set k { call with stage := .put false }).total (QuoteCall.used priceId) ≤ _
    omega
  | @uses k call turn found order effects hk hf hfound ht hs' hbooks hout =>
    have htotal := s.quotes.total_set (QuoteCall.used priceId) k { call with stage := .put true }
    have hbooked : s'.quotes = s.quotes.set k { call with stage := .put true } := (books_eq hbooks).2.1
    rw [hbooked, countP_unasked hout]
    by_cases hp : call.priceId = priceId
    · right
      have hnew : QuoteCall.used priceId { call with stage := .put true } = 1 := by simp [QuoteCall.used, hp]
      refine ⟨by omega, k, call, found, _, hk, hp, hfound, ?_, hs', ?_⟩
      · exact (transition_quoteAnswered ht).1
      · exact (transition_quoteAnswered ht).2.1
    · left
      have hnew : QuoteCall.used priceId { call with stage := .put true } = 0 := by simp [QuoteCall.used, hp]
      omega
  | @drops _ k hbooks hout =>
    left
    have htotal := s.quotes.total_delete (QuoteCall.used priceId) k
    have hbooked : s'.quotes = s.quotes.delete k := (books_eq hbooks).2.1
    rw [hbooked, countP_unasked hout]
    omega
  | @acks k call used hk hs _ hbooks hout =>
    left
    have htotal := s.quotes.total_delete (QuoteCall.used priceId) k
    have hbooked : s'.quotes = s.quotes.delete k := (books_eq hbooks).2.1
    have hshare : s.quotes.share (QuoteCall.used priceId) k = QuoteCall.used priceId call := by
      rw [Dict.share, hk]
      rfl
    have hacked : out.countP (isUsed priceId) = QuoteCall.used priceId call := by
      rw [hout]
      cases used <;> by_cases hp : call.priceId = priceId <;>
        simp [isUsed, QuoteCall.used, hs, hp]
    rw [hbooked, hacked]
    omega
  | forgets hbooks hout =>
    left
    rw [(books_eq hbooks).2.1, hout]
    exact Nat.zero_le _

theorem Desk.priced_mono (hturns : Desk.Turns D s s' out action) (hstep : DeskStep D s s' out action)
    (hb : ∀ id record, s.orderById id = some record → record.order.Sound) (priceId : String) :
    s.priced priceId ≤ s'.priced priceId := by
  unfold priced
  cases hm : s.minted.get priceId with
  | none => exact Nat.zero_le _
  | some orderId =>
    rw [hturns.minted hm]
    simp only [Option.bind_some]
    cases hr : s.orderById orderId with
    | none => exact Nat.zero_le _
    | some record =>
      obtain ⟨next, hn, hnext⟩ := hstep.later hr
      rw [hn]
      dsimp only
      split
      · exact Nat.zero_le _
      · next hs =>
        have hs' : next.order.state ≠ .created := by
          rcases hnext with rfl | ht
          · exact hs
          · exact ht.priced (hb orderId record hr) hs
        rw [if_neg hs']

/-- Every question that is open or was answered was put, an answer that was used is what its order
carries, and a question has no more used answers than its order has prices. -/
structure Desk.Quoted (s : Desk) (log : List (Happening DeskAction DeskNotice)) : Prop where
  minted : ∀ m p o, .emitted (.asked m p o) ∈ log → s.minted.get p = some o
  questions : ∀ p q, s.questions.get p = some q → ∃ m, .emitted (.asked m p q.orderId) ∈ log
  underWay : ∀ k call, s.quotes.get k = some call →
    ∃ m, .emitted (.asked m call.priceId call.orderId) ∈ log
  used : ∀ k call, s.quotes.get k = some call → call.stage = .put true →
    ∃ record, s.orderById call.orderId = some record ∧ record.Carries call.priceId call.response
  acked : ∀ p response, .emitted (.quoteAcked p response true) ∈ log →
    ∃ m o record, .emitted (.asked m p o) ∈ log ∧ s.orderById o = some record ∧
      record.Carries p response
  once : ∀ p, timesUsed p log + s.quotes.total (QuoteCall.used p) ≤ s.priced p

variable {log : List (Happening DeskAction DeskNotice)}

theorem mem_step :
    .emitted notice ∈ log ++ Reactor.stepLog action out ↔ .emitted notice ∈ log ∨ notice ∈ out := by
  simp [Reactor.stepLog]

theorem DeskStep.carries (h : DeskStep D s s' out action)
    (hb : ∀ id record, s.orderById id = some record → record.order.Sound) {orderId priceId : String}
    {record : StoredOrder Document} (hr : s.orderById orderId = some record) (hc : record.Carries priceId response) :
    ∃ next, s'.orderById orderId = some next ∧ next.Carries priceId response := by
  obtain ⟨next, hn, rfl | ht⟩ := h.later hr
  · exact ⟨next, hn, hc⟩
  · exact ⟨next, hn, ht.carries (hb orderId record hr) hc⟩

theorem appliedRecord_carries {config : Config} {found : StoredOrder Document} {order : Order}
    {effects : List Effect} {call : QuoteCall}
    (h : transition found.order (.state (.quoteAnswered call.at call.response)) = .ok (order, effects)) :
    (appliedRecord config (Desk.quoteCall call) found order effects).Carries call.priceId call.response :=
  ⟨(transition_quoteAnswered h).2, fun _ => rfl⟩

/-- **The step.** -/
theorem Desk.Quoted.step (h : s.Quoted log) (hturns : Desk.Turns D s s' out action)
    (hstep : DeskStep D s s' out action) (hb : ∀ id record, s.orderById id = some record → record.order.Sound) :
    s'.Quoted (log ++ Reactor.stepLog action out) := by
  have ever {notice : DeskNotice} (hin : .emitted notice ∈ log) :
      .emitted notice ∈ log ++ Reactor.stepLog action out := mem_step.2 (.inl hin)
  constructor
  · intro m p o hin
    rcases mem_step.1 hin with hin | hin
    · exact hturns.minted (h.minted m p o hin)
    · exact hturns.asked hin
  · intro p q hq
    rcases hturns.questions hq with hq | ⟨m, hin⟩
    · obtain ⟨m, hin⟩ := h.questions p q hq
      exact ⟨m, ever hin⟩
    · exact ⟨m, mem_step.2 (.inr hin)⟩
  · intro k call hk
    cases hturns.came hk with
    | stays hk =>
      obtain ⟨m, hin⟩ := h.underWay k call hk
      exact ⟨m, ever hin⟩
    | found asked hq ho _ =>
      obtain ⟨m, hin⟩ := h.questions _ _ hq
      exact ⟨m, ho ▸ ever hin⟩
    | wasted hw _ heq _ | used hw heq _ _ =>
      subst heq
      obtain ⟨m, hin⟩ := h.underWay k _ hw
      exact ⟨m, ever hin⟩
  · intro k call hk hs
    cases hturns.came hk with
    | stays hk =>
      obtain ⟨record, hr, hc⟩ := h.used k call hk hs
      exact hstep.carries hb hr hc
    | found _ _ _ hf => cases hf.symm.trans hs
    | wasted _ _ heq _ =>
      subst heq
      cases hs
    | used _ heq ht hs' =>
      subst heq
      exact ⟨_, hs', appliedRecord_carries ht⟩
  · intro p response hin
    rcases mem_step.1 hin with hin | hin
    · obtain ⟨m, o, record, hasked, hr, hc⟩ := h.acked p response hin
      obtain ⟨next, hn, hc⟩ := hstep.carries hb hr hc
      exact ⟨m, o, next, ever hasked, hn, hc⟩
    · rcases hturns.acked hin with ⟨hfalse, -⟩ | ⟨k, call, -, hk, hs, rfl, rfl, -⟩
      · cases hfalse
      · obtain ⟨m, hasked⟩ := h.underWay k call hk
        obtain ⟨record, hr, hc⟩ := h.used k call hk hs
        obtain ⟨next, hn, hc⟩ := hstep.carries hb hr hc
        exact ⟨m, call.orderId, next, ever hasked, hn, hc⟩
  · intro p
    rw [timesUsed_step]
    have hbefore := h.once p
    have hmono := priced_mono hturns hstep hb p
    rcases hturns.balance p with hless | ⟨hmore, k, call, found, next, hk, rfl, hf, hc, hn, hs⟩
    · omega
    · -- The order of the answer had no price, and has one now: nothing was used before.
      obtain ⟨m, hasked⟩ := h.underWay k call hk
      have hm := h.minted _ _ _ hasked
      have hzero : s.priced call.priceId = 0 := by simp [priced, hm, hf, hc]
      have hone : s'.priced call.priceId = 1 := by simp [priced, hturns.minted hm, hn, hs]
      omega

theorem deskRun_quoted (D : DeskRuntime) (actions : List DeskAction) :
    (deskRun D actions).Quoted (deskLog D actions) := by
  have hall := (deskMachine D).log_induction
    (P := fun s log => (∀ id record, s.orderById id = some record → record.order.Sound) ∧
      s.Quoted log) (s := .empty) (l := []) ?_ ?_ actions
  · have hquoted := hall.2
    rwa [nil_append] at hquoted
  · rintro s log action s' out ⟨hb, hquoted⟩ hreact
    have hstep := step_deskStep hreact
    exact ⟨hstep.sound hb, hquoted.step (react_performs hreact).turns hstep hb⟩
  · refine ⟨by rintro id record ⟨⟩, ⟨?_, ?_, ?_, ?_, ?_, ?_⟩⟩
    · rintro m p o ⟨⟩
    · rintro p q ⟨⟩
    · rintro k call ⟨⟩
    · rintro k call ⟨⟩
    · rintro p response ⟨⟩
    · intro p
      exact Nat.le_refl 0

/-- **Where an answer that was not used comes from.** It was put to the machine in an earlier step, which
left every order as it was. -/
theorem deskRun_wasted (actions : List DeskAction) {call : QuoteCall}
    (h : (deskRun D actions).quotes.get k = some call) (hs : call.stage = .put false) :
    ∃ before turn after, actions = before ++ .putQuote k turn :: after ∧
      (deskRun D before).quotes.get k = some { call with stage := .found } ∧
      (deskRun D (before ++ [.putQuote k turn])).orders = (deskRun D before).orders ∧
      ∀ fs, fs <+: after → (deskRun D (before ++ .putQuote k turn :: fs)).quotes.get k = some call := by
  obtain ⟨before, action, after, s', out, rfl, hbefore, hreact, hsince⟩ :=
    (deskMachine D).exists_entry (P := fun s : Desk => s.quotes.get k = some call) (by rintro ⟨⟩) h
  have hrun (fs : List DeskAction) :
      deskRun D (before ++ action :: fs) = (deskMachine D).run s' fs := by
    rw [deskRun, (deskMachine D).run_append, Reactor.run_cons, Reactor.next_of_ok _ hreact]
  have hhere : s'.quotes.get k = some call := hsince [] nil_prefix
  cases (react_performs hreact).turns.came hhere with
  | stays hk => exact absurd hk hbefore
  | found _ _ _ hf => cases hf.symm.trans hs
  | used _ heq _ _ =>
    subst heq
    cases hs
  | @wasted was turn hw hf heq ho =>
    subst heq
    refine ⟨before, turn, after, rfl, ?_, ?_, fun fs hfs => ?_⟩
    · rw [← hf]
      exact hw
    · rw [hrun []]
      exact ho
    · rw [hrun fs]
      exact hsince fs hfs

/-- **One question gets one answer.** In every run a merchant is told at most once that his answer to a
question was used; the order of the question, and it has but one, carries that answer ever after; and an
answer he is told was not used came to nothing that was asked, or was put to the machine in a step that
left every order as it was, and so does the step that tells him. -/
theorem one_question_one_answer (D : DeskRuntime) (actions : List DeskAction) (priceId : String) :
    timesUsed priceId (deskLog D actions) ≤ 1 ∧
    (∀ response, .emitted (.quoteAcked priceId response true) ∈ deskLog D actions →
      ∃ m o record, .emitted (.asked m priceId o) ∈ deskLog D actions ∧
        (∀ m' o', .emitted (.asked m' priceId o') ∈ deskLog D actions → o' = o) ∧
        (deskRun D actions).orderById o = some record ∧ record.Carries priceId response) ∧
    ∀ action s' out response, (deskMachine D).react (deskRun D actions) action = .ok (s', out) →
      .quoteAcked priceId response false ∈ out →
      s' = deskRun D actions ∨
        ∃ k call before turn after, action = .ackQuote k ∧
          s'.orders = (deskRun D actions).orders ∧
          (deskRun D actions).quotes.get k = some call ∧ call.priceId = priceId ∧
          call.response = response ∧ actions = before ++ .putQuote k turn :: after ∧
          (deskRun D before).quotes.get k = some { call with stage := .found } ∧
          (deskRun D (before ++ [.putQuote k turn])).orders = (deskRun D before).orders ∧
          ∀ fs, fs <+: after → (deskRun D (before ++ .putQuote k turn :: fs)).quotes.get k = some call := by
  have hquoted := deskRun_quoted D actions
  refine ⟨?_, fun response hin => ?_, fun action s' out response hreact hin => ?_⟩
  · have honce := hquoted.once priceId
    have hpriced : (deskRun D actions).priced priceId ≤ 1 := by
      unfold Desk.priced
      split
      · exact Nat.zero_le _
      · split <;> omega
    omega
  · obtain ⟨m, o, record, hasked, hr, hc⟩ := hquoted.acked priceId response hin
    refine ⟨m, o, record, hasked, fun m' o' hasked' => ?_, hr, hc⟩
    have hminted := hquoted.minted _ _ _ hasked
    exact Option.some.inj ((hquoted.minted _ _ _ hasked').symm.trans hminted)
  · rcases (Desk.react_performs hreact).turns.acked hin with
      ⟨-, hsame⟩ | ⟨k, call, rfl, hk, hs, hp, hr, ho⟩
    · exact .inl hsame
    · obtain ⟨before, turn, after, hactions, hfound, horders, hsince⟩ :=
        deskRun_wasted actions hk hs
      exact .inr ⟨k, call, before, turn, after, rfl, ho, hk, hp, hr, hactions, hfound, horders, hsince⟩

end

/-- A purchase of a card whose price is asked for. -/
def sampleAskedBirth : Birth where
  input := { (sampleBirth .sync).input with priceCheck := .merchant }
  order := _
  effects := _
  accepted := rfl

/-- The question is put, and its answer is used. -/
def sampleQuestion : List DeskAction :=
  [.gateway (.create 0 { sampleOrder .sync with birth := sampleAskedBirth } 0 (fun _ => "env_0") none),
    .askThePrice "ord_1" { sampleCard with priceCheck := some .handler } "prq_1" (sampleTurn 1 1),
    .answerQuote 0 "mrc_1" "prq_1" (some { amount := "2.00", currency := "USDC", asOf := 2 }) 2,
    .putQuote 0 (sampleTurn 1 2), .ackQuote 0]

/-- On a question whose answer is used. -/
theorem one_question_one_answer_used :
    ∃ response m o record,
      .emitted (.quoteAcked "prq_1" response true) ∈ deskLog sampleDesk sampleQuestion ∧
      .emitted (.asked m "prq_1" o) ∈ deskLog sampleDesk sampleQuestion ∧
      (deskRun sampleDesk sampleQuestion).orderById o = some record ∧
      record.Carries "prq_1" response := by
  have hin : .emitted (.quoteAcked "prq_1"
      (some { amount := "2.00", currency := "USDC", asOf := 2 }) true) ∈ deskLog sampleDesk sampleQuestion :=
    List.mem_of_getLast? rfl
  obtain ⟨m, o, record, hasked, -, hr, hc⟩ :=
    (one_question_one_answer sampleDesk sampleQuestion "prq_1").2.1 _ hin
  exact ⟨_, m, o, record, hin, hasked, hr, hc⟩

end Coinslot
