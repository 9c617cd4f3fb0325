import Coinslot.Gateway.Redeliveries
import Coinslot.Gateway.Served
import Mathlib.Order.MinMax

/-!
# The poll

A worker's poll draws a batch off his merchant's stream and records the hand-over of every order in it
(`poll` in `apps/gateway/src/app/gateway.ts`). The loop goes through the batch in order, one `apply` an
order, and anything can happen at the desk while it waits on that. What it makes of a letter is a
`PollEnd`: the questions and the orders whose hand-over was recorded are in the answer, an order whose
hand-over failed goes back on its stream, and an order the machine refused for good is dropped. The
stream is told last that it is done with the batch, so a poll that is cut short by the queue has finished
nothing.
-/

namespace Coinslot

open List

/-! ## The loop -/

/-- A question about a price, as a worker is asked it. -/
structure QuoteRequestDocument where
  merchantItemId : String
  params : Document
  priceId : String
  expiresAt : Timestamp

/-- What comes off a merchant's stream. -/
inductive Letter where
  | message (envelope : WorkerEnvelope Document)
  | quoteRequest (id : String) (sentAt : Timestamp) (payload : QuoteRequestDocument)

/-- A letter as it was drawn, with the handle its stream knows it by. -/
structure Drawn where
  handle : String
  letter : Letter

/-- One round of the loop: what it is about, what happens at the desk before the hand-over is recorded,
the token that is minted for the hand-over, the turn of the recording, and whether the queue fails where
the round asks something of it. A store that throws is a turn that is cut off. -/
structure Round where
  drawn : Drawn
  meanwhile : List DeskAction
  token : String
  turn : Turn
  queueFails : Bool

/-- What a poll is heard to do. -/
inductive PollNotice where
  | desk (notice : DeskNotice)
  | putBack (merchantId : String) (letter : Letter) (afterMs : Int)
  | finished (merchantId handle : String)

/-- A poll under way. -/
structure Poll where
  desk : Desk
  said : List PollNotice
  handing : List Letter
  finished : List String

namespace Poll

/-- The desk as a round finds it when it records the hand-over. -/
def met (D : DeskRuntime) (s : Desk) (r : Round) : Desk := (deskMachine D).run s r.meanwhile

def doneWith (p : Poll) (r : Round) (handing : List Letter) : Poll :=
  { p with handing := p.handing ++ handing, finished := p.finished ++ [r.drawn.handle] }

/-- An order goes back on its stream, stamped with the instant it goes. -/
def putBack (D : DeskRuntime) (merchantId : String) (p : Poll) (r : Round) (envelopeId : String)
    (document : OrderDocument Document) : Except Poll Poll :=
  if r.queueFails then .error p
  else
    .ok (({ p with
      said := p.said ++ [.putBack merchantId
        (.message (.order envelopeId (asTimestamp r.turn.at) document)) D.settleInFlightRetryMs] } :
      Poll).doneWith r [])

/-- A hand-over was recorded: the reminder is left, and the letter is in the answer. -/
def handOut (D : DeskRuntime) (p : Poll) (r : Round) (record : StoredOrder Document) : Except Poll Poll :=
  let reminders := Desk.remindMeIfNobodyAnswers D record.order r.token r.turn.at
  let armed : List (Notice Document) := remindings reminders
  if r.queueFails && !reminders.isEmpty then .error p
  else
    .ok (({ p with
      desk :=
        { p.desk with
          timed := { p.desk.timed with reminders := p.desk.timed.reminders ++ askedBy armed } }
      said := p.said ++ armed.map fun notice => .desk (.heard notice) } :
      Poll).doneWith r [r.drawn.letter])

/-- The round of an order. An error is the poll as the queue threw it out of the loop. -/
def handOver (D : DeskRuntime) (merchantId : String) (p : Poll) (r : Round) (envelopeId : String)
    (document : OrderDocument Document) : Except Poll Poll :=
  let s := met D p.desk r
  let came := ({ s with minted := s.minted.set r.token document.id } : Desk).feed D
    (Desk.handOverCall merchantId document.id r.token r.turn.at) r.turn
  let heard : Poll := { p with desk := came.1, said := p.said ++ came.2.1.map .desk }
  match came.2.2 with
  | none | some (.threw _) => heard.putBack D merchantId r envelopeId document
  | some (.refused rejection) =>
    if rejection.retryable then heard.putBack D merchantId r envelopeId document
    else .ok (heard.doneWith r [])
  | some .noSuchOrder | some .movedOn => .ok (heard.doneWith r [])
  | some (.moved record ..) => heard.handOut D r record

/-- One round: what is no order is handed out as it is. -/
def round (D : DeskRuntime) (merchantId : String) (p : Poll) (r : Round) : Except Poll Poll :=
  match r.drawn.letter with
  | .message (.order envelopeId _ document) => p.handOver D merchantId r envelopeId document
  | .message (.orderEvent ..) | .quoteRequest .. => .ok (p.doneWith r [r.drawn.letter])

/-- The loop over the batch. -/
def rounds (D : DeskRuntime) (merchantId : String) : Poll → List Round → Except Poll Poll
  | p, [] => .ok p
  | p, r :: rest =>
    match p.round D merchantId r with
    | .error p => .error p
    | .ok p => rounds D merchantId p rest

/-- The stream is told of every letter the poll is done with, as far as it does not fail. -/
def finishAll (merchantId : String) (p : Poll) (fails : Option Nat) : Poll :=
  let handles :=
    match fails with
    | none => p.finished
    | some n => p.finished.take n
  { p with said := p.said ++ handles.map (.finished merchantId) }

end Poll

/-- A poll of one batch, and its answer where it is not thrown out of (`poll`). -/
def Desk.poll (D : DeskRuntime) (s : Desk) (merchantId : String) (batch : List Round)
    (fails : Option Nat) : Poll × Option (List Letter) :=
  match ({ desk := s, said := [], handing := [], finished := [] } : Poll).rounds D merchantId batch with
  | .error p => (p, none)
  | .ok p => (p.finishAll merchantId fails, if fails.isSome then none else some p.handing)

/-! ## What becomes of a letter -/

/-- What a poll makes of one letter. -/
inductive PollEnd where
  | question
  | handed
  | putBack
  | dropped
  deriving DecidableEq, Repr

def Order.TermPassed (order : Order) (t : Int) : Prop :=
  ∃ deadline ∈ (fulfillmentDeadline order).head?, deadline.at ≤ t

/-- The reminder that goes with a hand-over: there is one, and it is due later, unless the term has
passed. -/
def Reminded (order : Order) (token : String) (t : Int) (left : List (Reminder × Int)) : Prop :=
  (order.TermPassed t ∧ left = []) ∨
    (¬ order.TermPassed t ∧ ∃ wait, 0 < wait ∧ left = [(.deliveryUnanswered order.id token, wait)])

/-- The recording of a hand-over failed: it was thrown, or the machine will take it later. -/
def RecordFails (D : DeskRuntime) (s : Desk) (call : ApplyCall Document) (turn : Turn) : Prop :=
  turn.cut.isSome ∨
    (∃ words, s.timed.world.applied D.runtime call turn.now turn.fresh = .threw words) ∨
    ∃ found rejection, s.orderById call.orderId = some found ∧
      transition found.order call.event = .error rejection ∧ rejection.retryable = true

def told (heard : List (Notice Document)) : List PollNotice := heard.map fun notice => .desk (.heard notice)

/-- What a round is heard to do where the hand-over was recorded: the clocks of the order, the record
itself, and the reminder that goes with it. -/
def recorded (clocks : List (Reminder × Int)) (call : ApplyCall Document)
    (record : StoredOrder Document) (left : List (Reminder × Int)) : List PollNotice :=
  told (remindings clocks ++ [.applied call (some (.decided (.ok (record.order, [])) record))] ++
    remindings left)

/-- What one round does, by what becomes of its letter: the desk it leaves, what it is heard to do, and
what it puts in the answer. -/
inductive Round.Ends (D : DeskRuntime) (merchantId : String) (s : Desk) (r : Round) :
    PollEnd → Desk → List PollNotice → List Letter → Prop
  | question : (∀ envelopeId sentAt document,
        r.drawn.letter ≠ .message (.order envelopeId sentAt document)) →
      Ends D merchantId s r .question s [] [r.drawn.letter]
  | handed {envelopeId : String} {sentAt : Timestamp} {document : OrderDocument Document}
      {found record : StoredOrder Document} {after : Desk} {clocks left : List (Reminder × Int)} :
      r.drawn.letter = .message (.order envelopeId sentAt document) →
      (Poll.met D s r).orderById document.id = some found → found.merchantId = merchantId →
      transition found.order (.state (.orderDispatched r.turn.at)) = .ok (record.order, []) →
      after.orders = (Poll.met D s r).orders.set document.id record →
      record.merchantId = merchantId → record.openDeliveryId = some r.token →
      Reminded record.order r.token r.turn.at left →
      (∀ reminder ∈ left, ⟨reminder.1, .waiting⟩ ∈ after.timed.reminders) →
      Ends D merchantId s r .handed after
        (recorded clocks (Desk.handOverCall merchantId document.id r.token r.turn.at) record left)
        [r.drawn.letter]
  | putBack {envelopeId : String} {sentAt : Timestamp} {document : OrderDocument Document}
      {after : Desk} {heard : List (Notice Document)} :
      r.drawn.letter = .message (.order envelopeId sentAt document) →
      RecordFails D (Poll.met D s r)
        (Desk.handOverCall merchantId document.id r.token r.turn.at) r.turn →
      after.orders = (Poll.met D s r).orders → (∀ notice ∈ heard, notice.Quiet) →
      Ends D merchantId s r .putBack after
        (told heard ++ [.putBack merchantId
          (.message (.order envelopeId (asTimestamp r.turn.at) document)) D.settleInFlightRetryMs])
        []
  | dropped {envelopeId : String} {sentAt : Timestamp} {document : OrderDocument Document}
      {found known : StoredOrder Document} {rejection : TransitionRejection} {after : Desk} :
      r.drawn.letter = .message (.order envelopeId sentAt document) →
      (Poll.met D s r).orderById document.id = some found → found.merchantId = merchantId →
      transition found.order (.state (.orderDispatched r.turn.at)) = .error rejection →
      rejection.retryable = false → after.orders = (Poll.met D s r).orders →
      Ends D merchantId s r .dropped after
        (told [.applied (Desk.handOverCall merchantId document.id r.token r.turn.at)
          (some (.decided (.error rejection) known))])
        []

/-! ## One round -/

section
variable {D : DeskRuntime} {merchantId : String} {p : Poll} {r : Round}

def Desk.Owns (s : Desk) (merchantId id : String) : Prop :=
  ∃ found, s.orderById id = some found ∧ found.merchantId = merchantId

variable {id : String}

variable {s s' : Desk}

theorem DeskStep.owns {out : List DeskNotice} {action : DeskAction} (h : DeskStep D s s' out action)
    (hown : s.Owns merchantId id) : s'.Owns merchantId id := by
  obtain ⟨found, hf, hm⟩ := hown
  obtain ⟨next, hn, rfl | ht⟩ := h.later hf
  · exact ⟨next, hn, hm⟩
  · exact ⟨next, hn, ht.keeps.1.trans hm⟩

theorem Desk.Owns.of_orders (h : s.Owns merchantId id) (hs : s'.orders = s.orders) : s'.Owns merchantId id := by
  obtain ⟨found, hf, hm⟩ := h
  refine ⟨found, ?_, hm⟩
  have hget : s'.orderById id = s'.orders.get id := rfl
  rw [hget, hs]
  exact hf

theorem Poll.met_owns (h : s.Owns merchantId id) (r : Round) : (Poll.met D s r).Owns merchantId id :=
  (deskMachine D).run_induction (fun hs hstep => (Desk.step_deskStep hstep).owns hs) h r.meanwhile

theorem remindMeIfNobodyAnswers_reminded (hD : 0 < D.handlerAnswerMs) (order : Order) (token : String) (t : Int) :
    Reminded order token t (Desk.remindMeIfNobodyAnswers D order token t) := by
  unfold Desk.remindMeIfNobodyAnswers Reminded Order.TermPassed
  cases hd : (fulfillmentDeadline order).head? with
  | none =>
    right
    dsimp only
    rw [if_neg (by omega)]
    exact ⟨by rintro ⟨deadline, ⟨⟩, -⟩, D.handlerAnswerMs, hD, rfl⟩
  | some deadline =>
    have hw : min D.handlerAnswerMs (deadline.at - t) ≤ 0 ↔ deadline.at ≤ t := by omega
    by_cases hp : deadline.at ≤ t
    · rw [if_pos (hw.2 hp)]
      exact .inl ⟨⟨deadline, rfl, hp⟩, rfl⟩
    · have hn := mt hw.1 hp
      rw [if_neg hn]
      refine .inr ⟨?_, _, Int.not_le.1 hn, rfl⟩
      rintro ⟨deadline', hin, hle⟩
      cases hin
      exact hp hle

theorem mem_askedBy_remindings {left : List (Reminder × Int)} {reminder : Reminder × Int} (h : reminder ∈ left) :
    ⟨reminder.1, .waiting⟩ ∈ askedBy (remindings left : List (Notice Document)) := by
  refine mem_filterMap.2 ⟨_, mem_map.2 ⟨reminder, h, rfl⟩, rfl⟩

/-- Everything a round can come to: its letter came to its end, or the queue threw the poll out of the
loop, with nothing finished. -/
inductive Poll.Comes (D : DeskRuntime) (merchantId : String) (p : Poll) (r : Round) :
    Except Poll Poll → Prop
  | ends {e : PollEnd} {after : Desk} {said : List PollNotice} {given : List Letter} :
      r.Ends D merchantId p.desk e after said given →
      Comes D merchantId p r
        (.ok ⟨after, p.said ++ said, p.handing ++ given, p.finished ++ [r.drawn.handle]⟩)
  | fails {after : Desk} {heard : List (Notice Document)} : r.queueFails = true →
      Comes D merchantId p r (.error ⟨after, p.said ++ told heard, p.handing, p.finished⟩)

theorem told_append (heard more : List (Notice Document)) :
    told (heard ++ more) = told heard ++ told more := map_append

theorem told_eq (heard : List (Notice Document)) :
    (heard.map DeskNotice.heard).map PollNotice.desk = told heard := map_map

variable {envelopeId : String} {sentAt : Timestamp} {document : OrderDocument Document}

theorem Poll.putBack_comes {after : Desk} {heard : List (Notice Document)}
    (hl : r.drawn.letter = .message (.order envelopeId sentAt document))
    (hfails : RecordFails D (Poll.met D p.desk r) (Desk.handOverCall merchantId document.id r.token r.turn.at) r.turn)
    (hs : after.orders = (Poll.met D p.desk r).orders) (hq : ∀ notice ∈ heard, notice.Quiet) : p.Comes D merchantId r
      (Poll.putBack D merchantId ⟨after, p.said ++ told heard, p.handing, p.finished⟩ r envelopeId document) := by
  unfold Poll.putBack
  split
  · next hqueue => exact .fails hqueue
  · have h := Poll.Comes.ends (p := p) (Round.Ends.putBack hl hfails hs hq)
    rw [← append_assoc] at h
    exact h

section

variable (hD : 0 < D.handlerAnswerMs)
include hD

theorem Poll.handOut_comes {found record : StoredOrder Document} {after : Desk} {clocks : List (Reminder × Int)}
    (hl : r.drawn.letter = .message (.order envelopeId sentAt document))
    (hf : (Poll.met D p.desk r).orderById document.id = some found) (hm : found.merchantId = merchantId)
    (ht : transition found.order (.state (.orderDispatched r.turn.at)) = .ok (record.order, []))
    (hrecord : after.orders = (Poll.met D p.desk r).orders.set document.id record)
    (his : record.merchantId = merchantId) (hopen : record.openDeliveryId = some r.token) : p.Comes D merchantId r
      (Poll.handOut D ⟨after, p.said ++ told (remindings clocks ++
          [.applied (Desk.handOverCall merchantId document.id r.token r.turn.at)
            (some (.decided (.ok (record.order, [])) record))]), p.handing, p.finished⟩ r record) := by
  unfold Poll.handOut
  dsimp only
  split
  · next hqueue => exact .fails (Bool.and_eq_true_iff.1 hqueue).1
  · let reminded : Desk := { after with
      timed := { after.timed with
        reminders := after.timed.reminders ++ askedBy (remindings
          (Desk.remindMeIfNobodyAnswers D record.order r.token r.turn.at) : List (Notice Document)) } }
    have h := Poll.Comes.ends (p := p) (@Round.Ends.handed D merchantId p.desk r _ _ _ _ _ reminded clocks _
      hl hf hm ht hrecord his hopen (remindMeIfNobodyAnswers_reminded hD record.order r.token r.turn.at)
      fun reminder hin => mem_append_right _ (mem_askedBy_remindings hin))
    rw [recorded, told_append, ← append_assoc] at h
    exact h

/-- **The round of an order.** -/
theorem Poll.handOver_comes (hl : r.drawn.letter = .message (.order envelopeId sentAt document))
    (hown : (Poll.met D p.desk r).Owns merchantId document.id) :
    p.Comes D merchantId r (p.handOver D merchantId r envelopeId document) := by
  obtain ⟨found, hf, hm⟩ := hown
  have hserves := (Poll.met D p.desk r).timed.world.applyAlone_serves D.runtime r.turn.task
    (Desk.handOverCall merchantId document.id r.token r.turn.at) r.turn.now r.turn.fresh r.turn.cut
  have his : ¬ PassedBy (Desk.handOverCall merchantId document.id r.token r.turn.at).scope found := by
    rintro ⟨m, hs, hne⟩
    cases hs
    exact hne hm.symm
  unfold Poll.handOver Desk.feed
  dsimp only
  rw [told_eq]
  generalize hcame : (Poll.met D p.desk r).timed.world.applyAlone D.runtime r.turn.task
    (Desk.handOverCall merchantId document.id r.token r.turn.at) r.turn.now r.turn.fresh r.turn.cut
    = came at hserves
  generalize htold : (if r.turn.cut.isSome then none else
    some ((Poll.met D p.desk r).timed.world.applied D.runtime
      (Desk.handOverCall merchantId document.id r.token r.turn.at) r.turn.now r.turn.fresh)) = told
    at hserves
  cases hserves with
  | cutOff hq =>
    refine Poll.putBack_comes hl (.inl ?_) rfl hq
    by_contra hcut
    rw [if_neg hcut] at htold
    cases htold
  | @threw out words hq =>
    refine Poll.putBack_comes hl (.inr (.inl ⟨words, ?_⟩)) rfl hq
    split at htold
    · cases htold
    · exact Option.some.inj htold
  | noSuchOrder hn => exact absurd (hn found hf) his
  | movedOn _ hmoved =>
    obtain ⟨token, htoken, -⟩ := hmoved
    cases htoken
  | @refused found' known rejection hf' _ hr =>
    cases hf.symm.trans hf'
    cases hretry : rejection.retryable with
    | true =>
      dsimp only
      rw [if_pos hretry]
      exact Poll.putBack_comes hl (.inr (.inr ⟨found, rejection, hf, hr, hretry⟩)) rfl (quiet_singleton trivial)
    | false =>
      dsimp only
      rw [if_neg (by rw [hretry]; exact Bool.false_ne_true)]
      exact .ends (.dropped hl hf hm hr hretry rfl)
  | @moved found' order effects alongside hf' _ _ ht hw =>
    cases hf.symm.trans hf'
    obtain ⟨rfl, -⟩ := transition_orderDispatched ht
    cases hw
    have hnone : (publishings [] : List (Notice Document)) = [] := rfl
    rw [hnone, append_nil]
    have hsame := appliedRecord_merchantId D.runtime.config found order
      (Desk.handOverCall merchantId document.id r.token r.turn.at) []
    exact Poll.handOut_comes hD hl hf hm ht (Store.saveOrder_orders _ [] document.id hsame) (hsame.trans hm) rfl

/-- **The round.** -/
theorem Poll.round_comes (hown : ∀ envelopeId sentAt document,
      r.drawn.letter = .message (.order envelopeId sentAt document) → p.desk.Owns merchantId document.id) :
    p.Comes D merchantId r (p.round D merchantId r) := by
  unfold Poll.round
  split
  · next envelopeId sentAt document hl => exact Poll.handOver_comes hD hl (Poll.met_owns (hown _ _ _ hl) r)
  · next hl =>
    have hends : r.Ends D merchantId p.desk .question p.desk [] [r.drawn.letter] := .question (by simp [hl])
    have h := Poll.Comes.ends (p := p) hends
    rwa [append_nil] at h
  · next hl =>
    have hends : r.Ends D merchantId p.desk .question p.desk [] [r.drawn.letter] := .question (by simp [hl])
    have h := Poll.Comes.ends (p := p) hends
    rwa [append_nil] at h

end

theorem Round.Ends.owns {after : Desk} {e : PollEnd} {said : List PollNotice} {given : List Letter}
    (h : r.Ends D merchantId s e after said given) (hown : s.Owns merchantId id) : after.Owns merchantId id := by
  cases h with
  | question _ => exact hown
  | handed _ _ _ _ hs hm _ _ _ =>
    obtain ⟨found, hf, hmine⟩ := Poll.met_owns hown r
    unfold Desk.Owns
    rw [Desk.orderById_set hs]
    split
    · exact ⟨_, rfl, hm⟩
    · exact ⟨found, hf, hmine⟩
  | putBack _ _ hs _ => exact (Poll.met_owns hown r).of_orders hs
  | dropped _ _ _ _ _ hs => exact (Poll.met_owns hown r).of_orders hs

end

/-! ## The whole batch -/

/-- A batch that was gone through, round by round: what became of each letter, and what all of it left,
was heard to do and put in the answer. -/
inductive Accounted (D : DeskRuntime) (merchantId : String) :
    Desk → List Round → List PollEnd → Desk → List PollNotice → List Letter → Prop
  | nil (s : Desk) : Accounted D merchantId s [] [] s [] []
  | cons {s mid after : Desk} {r : Round} {rest : List Round} {e : PollEnd} {es : List PollEnd}
      {said more : List PollNotice} {given others : List Letter} :
      r.Ends D merchantId s e mid said given →
      Accounted D merchantId mid rest es after more others →
      Accounted D merchantId s (r :: rest) (e :: es) after (said ++ more) (given ++ others)

/-- The stream is not told that it is done with a letter. -/
def PollNotice.Unfinished : PollNotice → Prop
  | .finished .. => False
  | .desk _ | .putBack .. => True

section
variable {D : DeskRuntime} {merchantId : String}

theorem unfinished_told (heard : List (Notice Document)) : ∀ notice ∈ told heard, notice.Unfinished := by
  intro notice hin
  obtain ⟨n, -, rfl⟩ := mem_map.1 hin
  trivial

variable {s : Desk} {given : List Letter}

theorem Round.Ends.unfinished {after : Desk} {r : Round} {e : PollEnd} {said : List PollNotice}
    (h : r.Ends D merchantId s e after said given) : ∀ notice ∈ said, notice.Unfinished := by
  cases h with
  | question _ => rintro notice ⟨⟩
  | handed _ _ _ _ _ _ _ _ _ => exact unfinished_told _
  | putBack _ _ _ _ =>
    intro notice hin
    rcases mem_append.1 hin with hin | hin
    · exact unfinished_told _ notice hin
    · rw [mem_singleton.1 hin]
      trivial
  | dropped _ _ _ _ _ _ => exact unfinished_told _

theorem Accounted.unfinished {after : Desk} {batch : List Round} {ends : List PollEnd} {said : List PollNotice}
    (h : Accounted D merchantId s batch ends after said given) :
    ∀ notice ∈ said, notice.Unfinished := by
  induction h with
  | nil s => rintro notice ⟨⟩
  | cons hends _ ih =>
    intro notice hin
    rcases mem_append.1 hin with hin | hin
    · exact hends.unfinished notice hin
    · exact ih notice hin

/-- Everything the loop can come to. -/
inductive Poll.Runs (D : DeskRuntime) (merchantId : String) (p : Poll) (batch : List Round) :
    Except Poll Poll → Prop
  | ends {ends : List PollEnd} {after : Desk} {said : List PollNotice} {given : List Letter} :
      Accounted D merchantId p.desk batch ends after said given →
      Runs D merchantId p batch
        (.ok ⟨after, p.said ++ said, p.handing ++ given, p.finished ++ batch.map (·.drawn.handle)⟩)
  | fails {r : Round} {after : Poll} {said : List PollNotice} : r ∈ batch → r.queueFails = true →
      after.said = p.said ++ said → (∀ notice ∈ said, notice.Unfinished) → Runs D merchantId p batch (.error after)

/-- **The loop.** By induction on the batch, over rounds that leave this merchant his orders. -/
theorem Poll.rounds_runs (hD : 0 < D.handlerAnswerMs) (batch : List Round) (p : Poll)
    (hown : ∀ r ∈ batch, ∀ envelopeId sentAt document,
      r.drawn.letter = .message (.order envelopeId sentAt document) → p.desk.Owns merchantId document.id) :
    p.Runs D merchantId batch (p.rounds D merchantId batch) := by
  induction batch generalizing p with
  | nil =>
    have h := Poll.Runs.ends (p := p) (@Accounted.nil D merchantId p.desk)
    rw [append_nil, append_nil, map_nil, append_nil] at h
    exact h
  | cons r rest ih =>
    have hround := Poll.round_comes (p := p) hD (hown r (mem_cons_self ..))
    unfold Poll.rounds
    generalize p.round D merchantId r = came at hround
    cases hround with
    | fails hqueue => exact .fails (mem_cons_self ..) hqueue rfl (unfinished_told _)
    | @ends e after said given hends =>
      dsimp only
      have hrest := ih ⟨after, p.said ++ said, p.handing ++ given, p.finished ++ [r.drawn.handle]⟩
        fun r' hin envelopeId sentAt document hl =>
          hends.owns (hown r' (mem_cons_of_mem _ hin) envelopeId sentAt document hl)
      generalize Poll.rounds D merchantId _ rest = came at hrest
      cases hrest with
      | @fails r' last more hin hqueue hmore hunfinished =>
        refine .fails (mem_cons_of_mem _ hin) hqueue (hmore.trans (append_assoc ..)) fun notice hin => ?_
        rcases mem_append.1 hin with hin | hin
        · exact hends.unfinished notice hin
        · exact hunfinished notice hin
      | @ends ends after' more others haccounted =>
        have h := Poll.Runs.ends (p := p) (haccounted.cons hends)
        rw [← append_assoc, ← append_assoc, map_cons, append_cons] at h
        exact h

/-- **A poll accounts for every letter it draws.** Where it gives an answer, every letter of the batch
came to one end, nothing was finished before all of them had, and all of them are finished then; where
the stream fails while it is told, it is told in that order as far as it goes. A poll that the queue
throws out of its loop has finished nothing. -/
theorem poll_accounts (hD : 0 < D.handlerAnswerMs) (s : Desk) (batch : List Round)
    (fails : Option Nat)
    (hown : ∀ r ∈ batch, ∀ envelopeId sentAt document,
      r.drawn.letter = .message (.order envelopeId sentAt document) → s.Owns merchantId document.id) :
    (∃ ends after said given told,
      Accounted D merchantId s batch ends after said given ∧
      (∀ notice ∈ said, notice.Unfinished) ∧
      told <+: batch.map (·.drawn.handle) ∧
      (s.poll D merchantId batch fails).1.said = said ++ told.map (.finished merchantId) ∧
      (s.poll D merchantId batch fails).1.desk = after ∧
      (fails = none → told = batch.map (·.drawn.handle) ∧ (s.poll D merchantId batch fails).2 = some given)) ∨
    (∃ r ∈ batch, r.queueFails = true) ∧ (s.poll D merchantId batch fails).2 = none ∧
      ∀ notice ∈ (s.poll D merchantId batch fails).1.said, notice.Unfinished := by
  have hrun := Poll.rounds_runs (p := ⟨s, [], [], []⟩) hD batch hown
  unfold Desk.poll
  generalize Poll.rounds D merchantId _ batch = came at hrun
  cases hrun with
  | @fails r after said hin hqueue hsaid hunfinished =>
    right
    rw [hsaid]
    exact ⟨⟨r, hin, hqueue⟩, rfl, hunfinished⟩
  | @ends ends after said given haccounted =>
    left
    cases fails with
    | none =>
      exact ⟨ends, after, said, given, _, haccounted, haccounted.unfinished, List.prefix_rfl, rfl, rfl,
        fun _ => ⟨rfl, rfl⟩⟩
    | some n =>
      exact ⟨ends, after, said, given, _, haccounted, haccounted.unfinished, List.take_prefix n _, rfl,
        rfl, by rintro ⟨⟩⟩

end

/-- An order that was paid for is drawn twice, and the store fails under the second hand-over. -/
def sampleBatch : List Round :=
  [⟨⟨"h_1", .message (.order "env_1" ⟨5⟩ sampleDocument)⟩, [], "dlv_1", sampleTurn 2 6, false⟩,
    ⟨⟨"h_2", .quoteRequest "env_2" ⟨5⟩ ⟨"sku-1", .empty, "prc_1", ⟨9⟩⟩⟩, [], "dlv_2", sampleTurn 3 6,
      false⟩,
    ⟨⟨"h_3", .message (.order "env_3" ⟨5⟩ sampleDocument)⟩, [], "dlv_3",
      { sampleTurn 4 6 with cut := some 0 }, false⟩]

/-- The first goes out with the question beside it, the second goes back, and all three are finished. -/
theorem sampleBatch_accounted :
    let s := deskRun sampleDesk (samplePurchase .sync)
    (∃ given, (s.poll sampleDesk "mrc_1" sampleBatch none).2 = some given ∧ given.length = 2) ∧
      ((∃ ends after said given told,
        Accounted sampleDesk "mrc_1" s sampleBatch ends after said given ∧
        (∀ notice ∈ said, notice.Unfinished) ∧
        told <+: sampleBatch.map (·.drawn.handle) ∧
        (s.poll sampleDesk "mrc_1" sampleBatch none).1.said = said ++ told.map (.finished "mrc_1") ∧
        (s.poll sampleDesk "mrc_1" sampleBatch none).1.desk = after ∧
        ((none : Option Nat) = none → told = sampleBatch.map (·.drawn.handle) ∧
          (s.poll sampleDesk "mrc_1" sampleBatch none).2 = some given)) ∨
      (∃ r ∈ sampleBatch, r.queueFails = true) ∧ (s.poll sampleDesk "mrc_1" sampleBatch none).2 = none ∧
        ∀ notice ∈ (s.poll sampleDesk "mrc_1" sampleBatch none).1.said, notice.Unfinished) := by
  intro s
  have hown : s.Owns "mrc_1" "ord_1" := ⟨_, rfl, rfl⟩
  refine ⟨⟨_, rfl, rfl⟩, poll_accounts (by decide) s sampleBatch none ?_⟩
  intro r hin envelopeId sentAt document hl
  simp only [sampleBatch, List.mem_cons, List.not_mem_nil, or_false] at hin
  rcases hin with rfl | rfl | rfl
  · cases hl
    exact hown
  · cases hl
  · cases hl
    exact hown

end Coinslot
