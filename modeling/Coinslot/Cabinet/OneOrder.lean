import Coinslot.Cabinet.Fillings

/-!
# One sale, one order

What may still come of a sale is weighed: a worker whose it is weighs one, and so does a call that was sent
and may have made an order of it. A row of the ledger has room for one and no row has room for none
(`Cabinet.Weighed`), so a shop creates one order for a sale at most. That holds of every run in which no
shop says yes to a request it creates an order for without naming the order, and no claim finds the row it
lost to gone: on both the ledger lets a second worker in (`two_orders_for_one_sale`).
-/

namespace Coinslot

open Option Dict

section
variable {R : CabinetRuntime} {s s' : Cabinet} {action : CabinetAction} {out : List CabinetNotice}
  {orderId : String}

/-! ## The step, by cases -/

/-- What a step does. -/
inductive Cabinet.Performs (R : CabinetRuntime) (s : Cabinet) :
    CabinetAction → Cabinet × List CabinetNotice → Prop
  | handOver {k : Nat} (order : OrderDocument Document) (connection : WooConnection)
      (email : String) : s.fillings.has k = false → s.requests.has k = false →
      Performs R s (.handOver k order connection email) (s.handOver k order connection email)
  | claimOrder {k : Nat} {filling : Filling} (now : Int) : s.fillings.get k = some filling →
      filling.stage = .started → Performs R s (.claimOrder k now) (s.claimOrder k filling now)
  | insertClaim {k : Nat} {filling : Filling} (now : Int) : s.fillings.get k = some filling →
      filling.stage = .started → Performs R s (.insertClaim k now) (s.insertClaim k filling now)
  | rereadClaim {k : Nat} {filling : Filling} : s.fillings.get k = some filling →
      filling.stage = .conflicted →
      Performs R s (.rereadClaim k) (s.claimed k filling (s.ledger.rereadClaim filling.order.id))
  | ask {k : Nat} {filling : Filling} : s.fillings.get k = some filling → filling.stage = .ours →
      Performs R s (.ask k) (s.ask R k filling)
  | creates {k : Nat} {request : ShopRequest} : s.requests.get k = some request →
      request.created = false → request.turnedDown = false →
      Performs R s (.creates k)
        ({ s with requests := s.requests.set k { request with created := true } }, [])
  | hears {k : Nat} {filling : Filling} {request : ShopRequest} (answer : ShopAnswer) :
      s.fillings.get k = some filling → filling.stage = .asked →
      s.requests.get k = some request → request.canAnswer answer = true →
      Performs R s (.hears k answer) (s.hears R k filling request answer)
  | record {k : Nat} {filling : Filling} {order : PlacedOrder} :
      s.fillings.get k = some filling → filling.stage = .made order →
      Performs R s (.record k) (s.record k filling order)
  | release {k : Nat} {filling : Filling} : s.fillings.get k = some filling →
      filling.stage = .refused → Performs R s (.release k) (s.release k filling)
  | dies (k : Nat) : Performs R s (.dies k) (s.ends k, [])

theorem Cabinet.step_performs {came : Cabinet × List CabinetNotice}
    (h : s.step R action = .ok came) : s.Performs R action came := by
  cases action with
  | handOver k order connection email =>
    simp only [step] at h
    split at h
    · cases h
    · next hfresh =>
      cases h
      rw [Bool.or_eq_true, not_or, Bool.not_eq_true, Bool.not_eq_true] at hfresh
      exact .handOver order connection email hfresh.1 hfresh.2
  | claimOrder k now =>
    simp only [step] at h
    split at h
    · next hf => cases h; exact .claimOrder now hf rfl
    · cases h
  | insertClaim k now =>
    simp only [step] at h
    split at h
    · next hf => cases h; exact .insertClaim now hf rfl
    · cases h
  | rereadClaim k =>
    simp only [step] at h
    split at h
    · next hf => cases h; exact .rereadClaim hf rfl
    · cases h
  | ask k =>
    simp only [step] at h
    split at h
    · next hf => cases h; exact .ask hf rfl
    · cases h
  | creates k =>
    simp only [step] at h
    split at h
    · cases h
    · next request hr =>
      split at h
      · cases h
      · next hopen =>
        cases h
        rw [Bool.or_eq_true, not_or, Bool.not_eq_true, Bool.not_eq_true] at hopen
        exact .creates hr hopen.1 hopen.2
  | hears k answer =>
    simp only [step] at h
    split at h
    · next hf hr =>
      split at h
      · next hcan => cases h; exact .hears answer hf rfl hr hcan
      · cases h
    · cases h
  | record k =>
    simp only [step] at h
    split at h
    · next hf => cases h; exact .record hf rfl
    · cases h
  | release k =>
    simp only [step] at h
    split at h
    · next hf => cases h; exact .release hf rfl
    · cases h
  | dies k =>
    cases h
    exact .dies k

/-! ## The weights -/

/-- What a filling may still come to: one order, where the sale is its worker's and the shop was not asked,
or the claim is to be given up. -/
def Filling.weight (orderId : String) (filling : Filling) : Nat :=
  if filling.order.id = orderId ∧ (filling.stage = .ours ∨ filling.stage = .refused) then 1 else 0

/-- Nothing comes of a request any more: it was turned down, or it was answered with a yes that names no
order. -/
def ShopRequest.settled (request : ShopRequest) : Bool :=
  request.answer.any fun answer => answer.turnsDown || answer.namesNoOrder

/-- What a request may still come to, or came to. -/
def ShopRequest.weight (orderId : String) (request : ShopRequest) : Nat :=
  if request.order.transactionId = orderId ∧ request.settled = false then 1 else 0

/-- What may still come of a sale, or came of it. -/
def Cabinet.weight (s : Cabinet) (orderId : String) : Nat :=
  s.fillings.total (Filling.weight orderId) + s.requests.total (ShopRequest.weight orderId)

def Ledger.room (ledger : Ledger) (orderId : String) : Nat := if ledger.has orderId then 1 else 0

/-- A worker that waits for its shop waits for an open request of its own. -/
def Cabinet.Awaited (s : Cabinet) : Prop :=
  ∀ k filling, s.fillings.get k = some filling → filling.stage = .asked →
    ∃ request, s.requests.get k = some request ∧ request.answer = none ∧
      request.order.transactionId = filling.order.id

/-- What holds of a cabinet in every run that meets the condition. -/
structure Cabinet.Weighed (s : Cabinet) : Prop where
  /-- A row has room for what may come of its sale. -/
  room : ∀ orderId, s.weight orderId ≤ s.ledger.room orderId
  asked : s.Awaited
  /-- Nothing came of a request that is settled. -/
  settled : ∀ k request, s.requests.get k = some request → request.settled = true →
    request.created = false

/-- The condition of a step: a shop that says yes without naming an order has created none for the request
and creates none later, and a claim that met a row finds it again. -/
def Cabinet.Named (s : Cabinet) : CabinetAction → Prop
  | .hears k answer => answer.namesNoOrder = true →
      ∀ request, s.requests.get k = some request → request.created = false
  | .creates k => ∀ request, s.requests.get k = some request →
      request.answer.any ShopAnswer.namesNoOrder = false
  | .rereadClaim k => ∀ filling, s.fillings.get k = some filling →
      s.ledger.has filling.order.id = true
  | _ => True

/-! ## What the parts of a step do to the weights -/

variable {k : Nat} {filling : Filling}

theorem Cabinet.moves_weight (orderId : String) (hk : s.fillings.get k = some filling) (stage : FillingStage) :
    (s.moves k filling stage).weight orderId + filling.weight orderId =
      s.weight orderId + ({ filling with stage := stage } : Filling).weight orderId := by
  have h := s.fillings.total_set (Filling.weight orderId) k { filling with stage := stage }
  simp only [Dict.share, hk, elim_some] at h
  simp only [weight, moves]
  omega

theorem Cabinet.ends_weight (orderId : String) (hk : s.fillings.get k = some filling) :
    (s.ends k).weight orderId + filling.weight orderId = s.weight orderId := by
  have h := s.fillings.total_delete (Filling.weight orderId) k
  simp only [Dict.share, hk, elim_some] at h
  simp only [weight, ends]
  omega

theorem Cabinet.ends_weight_le (s : Cabinet) (k : Nat) (orderId : String) :
    (s.ends k).weight orderId ≤ s.weight orderId := by
  have h := s.fillings.total_delete (Filling.weight orderId) k
  simp only [weight, ends]
  omega

theorem Cabinet.Awaited.ends (h : s.Awaited) (k : Nat) : (s.ends k).Awaited := by
  intro j filling hj
  exact h j filling (of_get_delete hj).2

variable {stage : FillingStage}

theorem Cabinet.Awaited.moves (h : s.Awaited) (hstage : stage ≠ .asked) : (s.moves k filling stage).Awaited := by
  intro j other hj ha
  rcases of_get_set hj with ⟨-, rfl⟩ | ⟨-, hj⟩
  · exact absurd ha hstage
  · exact h j other hj ha

theorem Cabinet.Weighed.ends (h : s.Weighed) (k : Nat) : (s.ends k).Weighed where
  room orderId := (s.ends_weight_le k orderId).trans (h.room orderId)
  asked := h.asked.ends k
  settled := h.settled

theorem Cabinet.Weighed.moves (h : s.Weighed) (hk : s.fillings.get k = some filling)
    (hstage : stage ≠ .asked ∧ stage ≠ .ours ∧ stage ≠ .refused) : (s.moves k filling stage).Weighed where
  room orderId := by
    have hw := Cabinet.moves_weight orderId hk stage
    have hzero : ({ filling with stage := stage } : Filling).weight orderId = 0 := by
      simp [Filling.weight, hstage]
    have := h.room orderId
    simp only [Cabinet.moves] at hw ⊢
    omega
  asked := h.asked.moves hstage.1
  settled := h.settled

/-! ## The rows -/

section

variable (ledger : Ledger)

theorem Ledger.room_set (orderId other : String) (row : WooOrder) :
    Ledger.room (ledger.set orderId row) other = if other = orderId then 1 else ledger.room other := by
  unfold room Dict.has
  rw [get_set]
  split <;> rfl

theorem Ledger.room_recordOrder (orderId other : String) (order : PlacedOrder) :
    (ledger.recordOrder orderId order).room other = ledger.room other := by
  unfold recordOrder
  split
  · rfl
  · next row hrow =>
    rw [room_set]
    split
    · next hid => simp [room, Dict.has, hid, hrow]
    · rfl

theorem Ledger.room_releaseOrder {other : String} (h : other ≠ orderId) :
    (ledger.releaseOrder orderId).room other = ledger.room other := by
  unfold releaseOrder
  split
  · rfl
  · split
    · unfold room Dict.has
      rw [get_delete, if_neg h]
    · rfl

end

/-! ## The step keeps the weights -/

theorem Filling.weight_stage (hstage : filling.stage = stage) (hlight : stage ≠ .ours ∧ stage ≠ .refused) :
    filling.weight orderId = 0 := by
  simp [weight, hstage, hlight]

section

variable (h : s.Weighed)
include h

namespace Cabinet.Weighed

theorem takes {row : WooOrder} (hk : s.fillings.get k = some filling)
    (hstage : filling.stage = .started) (hnone : s.ledger.get filling.order.id = none) :
    (({ s with ledger := s.ledger.set filling.order.id row } : Cabinet).moves k filling .ours).Weighed where
  room orderId := by
    have hw := Cabinet.moves_weight orderId hk .ours
    have hbefore : filling.weight orderId = 0 := Filling.weight_stage hstage (by simp)
    have hroom := h.room orderId
    have hset : (({ s with ledger := s.ledger.set filling.order.id row } : Cabinet).moves k filling
        .ours).weight orderId = (s.moves k filling .ours).weight orderId := rfl
    have hrow := s.ledger.room_set filling.order.id orderId row
    simp only [Cabinet.moves] at hset hw ⊢
    rw [hset, hrow]
    by_cases hid : orderId = filling.order.id
    · have hzero : s.ledger.room orderId = 0 := by simp [Ledger.room, Dict.has, hid, hnone]
      have hone : ({ filling with stage := .ours } : Filling).weight orderId = 1 := by simp [Filling.weight, hid]
      rw [if_pos hid]
      omega
    · have hzero : ({ filling with stage := .ours } : Filling).weight orderId = 0 := by
        simp [Filling.weight, Ne.symm hid]
      rw [if_neg hid]
      omega
  asked := Cabinet.Awaited.moves (s := { s with ledger := _ }) h.asked (by simp)
  settled := h.settled

theorem meets (k : Nat) (filling : Filling) (row : WooOrder) :
    (s.claimed k filling (Ledger.claimOf row)).1.Weighed := by
  unfold Ledger.claimOf
  split <;> exact h.ends k

theorem asks (hk : s.fillings.get k = some filling) (hstage : filling.stage = .ours) :
    (s.ask R k filling).1.Weighed := by
  have hone : ∀ orderId, filling.weight orderId = if filling.order.id = orderId then 1 else 0 := by
    intro orderId
    simp [Filling.weight, hstage]
  unfold ask
  split
  · refine ⟨fun orderId => ?_, h.asked.moves (by simp), h.settled⟩
    have hw := Cabinet.moves_weight orderId hk .refused
    have hsame : ({ filling with stage := .refused } : Filling).weight orderId =
        filling.weight orderId := by simp [Filling.weight, hstage]
    have := h.room orderId
    simp only [Cabinet.moves] at hw ⊢
    omega
  · next order hcall =>
    have hsale : order.transactionId = filling.order.id := by
      unfold orderCall at hcall
      split at hcall <;> cases hcall
      rfl
    refine ⟨fun orderId => ?_, fun j other hj ha => ?_, fun j request hj hs => ?_⟩
    · have hw := Cabinet.moves_weight orderId hk .asked
      have hr := s.requests.total_set (ShopRequest.weight orderId) k ⟨order, false, none⟩
      have hnew : (⟨order, false, none⟩ : ShopRequest).weight orderId = filling.weight orderId := by
        rw [hone]
        simp [ShopRequest.weight, ShopRequest.settled, hsale]
      have hgone : ({ filling with stage := .asked } : Filling).weight orderId = 0 := by simp [Filling.weight]
      have := h.room orderId
      simp only [Cabinet.moves, Cabinet.weight] at hw this ⊢
      omega
    · simp only [Cabinet.moves, get_set] at hj ⊢
      split at hj
      · next hjk =>
        cases hj
        exact ⟨_, if_pos hjk, rfl, hsale⟩
      · next hjk =>
        rw [if_neg hjk]
        exact h.asked j other hj ha
    · rcases of_get_set hj with ⟨-, rfl⟩ | ⟨-, hj⟩
      · cases hs
      · exact h.settled j request hj hs

theorem creates {request : ShopRequest}
    (hk : s.requests.get k = some request) (hopen : request.settled = false) :
    ({ s with requests := s.requests.set k { request with created := true } } : Cabinet).Weighed where
  room orderId := by
    have hr := s.requests.total_set (ShopRequest.weight orderId) k { request with created := true }
    have hsame : ({ request with created := true } : ShopRequest).weight orderId = request.weight orderId := rfl
    simp only [Dict.share, hk, elim_some] at hr
    have := h.room orderId
    simp only [Cabinet.weight] at this ⊢
    omega
  asked j filling hj ha := by
    obtain ⟨found, hf, hanswer, hsale⟩ := h.asked j filling hj ha
    rw [get_set]
    split
    · next hjk =>
      subst hjk
      cases hk.symm.trans hf
      exact ⟨_, rfl, hanswer, hsale⟩
    · exact ⟨found, hf, hanswer, hsale⟩
  settled j found hj hs := by
    rw [get_set] at hj
    split at hj
    · cases hj
      exact absurd (hopen.symm.trans hs) (by simp)
    · exact h.settled j found hj hs

/-- The worker hears an answer. One that is final gives the weight of the request back to the worker, who
is to give up the claim. -/
theorem hears {request : ShopRequest} {answer : ShopAnswer} (hk : s.fillings.get k = some filling)
    (hstage : filling.stage = .asked) (hr : s.requests.get k = some request) (hcan : request.canAnswer answer = true)
    (hnamed : answer.namesNoOrder = true → request.created = false) :
    (s.hears R k filling request answer).1.Weighed := by
  obtain ⟨found, hfound, hanswer, hsale⟩ := h.asked k filling hk hstage
  cases hr.symm.trans hfound
  have hclosed : ({ request with answer := some answer } : ShopRequest).settled = true →
      request.created = false := by
    intro hs
    rcases Bool.or_eq_true_iff.1 hs with hs | hs
    · cases answer with
      | silent _ | broken _ => cases hs
      | answered status document =>
        simp only [ShopRequest.canAnswer, hs, Bool.true_and, Bool.and_eq_true, Bool.not_eq_true'] at hcan
        exact hcan.2
    · exact hnamed hs
  have hafter : ∀ j other, (s.requests.set k { request with answer := some answer }).get j =
      some other → other.settled = true → other.created = false := by
    intro j other hj hs
    rw [get_set] at hj
    split at hj
    · cases hj
      exact hclosed hs
    · exact h.settled j other hj hs
  have hother : ∀ j other stage, stage ≠ .asked →
      (s.fillings.set k { filling with stage := stage }).get j = some other → other.stage = .asked →
      j ≠ k ∧ s.fillings.get j = some other := by
    intro j other stage hne hj ha
    rcases of_get_set hj with ⟨-, rfl⟩ | ⟨hjk, hj⟩
    · exact absurd ha hne
    · exact ⟨hjk, hj⟩
  have hawaited (s'' : Cabinet)
      (hreq : s''.requests = s.requests.set k { request with answer := some answer })
      (hfill : ∀ j other, s''.fillings.get j = some other → other.stage = .asked →
        j ≠ k ∧ s.fillings.get j = some other) : s''.Awaited := by
    intro j other hj ha
    obtain ⟨hjk, hj⟩ := hfill j other hj ha
    rw [hreq, get_set, if_neg hjk]
    exact h.asked j other hj ha
  have hreq (orderId : String) := s.requests.total_set (ShopRequest.weight orderId) k
    { request with answer := some answer }
  have hopen (orderId : String) : request.weight orderId =
      if filling.order.id = orderId then 1 else 0 := by
    simp [ShopRequest.weight, ShopRequest.settled, hanswer, hsale]
  have hnew (orderId : String) : ({ request with answer := some answer } : ShopRequest).weight orderId ≤
      request.weight orderId := by
    rw [hopen]
    unfold ShopRequest.weight
    rw [hsale]
    split
    · next hin => rw [if_pos hin.1]
    · exact Nat.zero_le _
  have hidle (orderId : String) : filling.weight orderId = 0 := Filling.weight_stage hstage (by simp)
  simp only [Dict.share, hr, elim_some] at hreq
  -- Whoever is over, or has an order to record, weighs nothing.
  have hover : (({ s with requests := s.requests.set k { request with answer := some answer } } :
      Cabinet).ends k).Weighed := by
    refine ⟨fun orderId => ?_, hawaited _ rfl fun j other hj ha => ?_, hafter⟩
    · have hends := s.fillings.total_delete (Filling.weight orderId) k
      have := h.room orderId
      have := hnew orderId
      have := hreq orderId
      simp only [Cabinet.weight, Cabinet.ends] at *
      omega
    · obtain ⟨hjk, hj⟩ := of_get_delete hj
      exact ⟨hjk, hj⟩
  unfold Cabinet.hears
  split
  · exact hover
  · next order _ =>
    refine ⟨fun orderId => ?_, hawaited _ rfl fun j other hj ha => hother j other _ (by simp) hj ha, hafter⟩
    have hmoves := s.fillings.total_set (Filling.weight orderId) k { filling with stage := .made order }
    have hzero : ({ filling with stage := .made order } : Filling).weight orderId = 0 :=
      Filling.weight_stage rfl (by simp)
    have := h.room orderId
    have := hnew orderId
    have := hreq orderId
    have := hidle orderId
    simp only [Cabinet.weight, Cabinet.moves] at *
    omega
  · next why again hread =>
    cases again with
    | true => exact hover
    | false =>
      have hfinal : ({ request with answer := some answer } : ShopRequest).settled = true := by
        cases answer with
        | silent _ | broken _ => cases hread
        | answered status document =>
          simp only [ShopRequest.canAnswer, Bool.and_eq_true, decide_eq_true_eq] at hcan
          exact Bool.or_eq_true_iff.2 (readTheAnswer_final hcan.1 hread)
      refine ⟨fun orderId => ?_, hawaited _ rfl fun j other hj ha => hother j other _ (by simp) hj ha, hafter⟩
      have hmoves := s.fillings.total_set (Filling.weight orderId) k { filling with stage := .refused }
      have hgone : ({ request with answer := some answer } : ShopRequest).weight orderId = 0 := by
        unfold ShopRequest.weight
        rw [if_neg]
        rintro ⟨-, hs⟩
        exact absurd (hs.symm.trans hfinal) (by simp)
      have hback : ({ filling with stage := .refused } : Filling).weight orderId =
          request.weight orderId := by
        rw [hopen]
        simp [Filling.weight]
      have := h.room orderId
      have := hreq orderId
      have := hidle orderId
      simp only [Cabinet.weight, Cabinet.moves, Bool.false_eq_true, if_false] at *
      omega

theorem records {order : PlacedOrder} : (s.record k filling order).1.Weighed where
  room orderId := by
    have hrow := s.ledger.room_recordOrder filling.order.id orderId order
    have := (h.ends k).room orderId
    simp only [Cabinet.record, Cabinet.ends] at this ⊢
    rw [hrow]
    exact this
  asked := Cabinet.Awaited.ends (s := { s with ledger := _ }) h.asked k
  settled := h.settled

theorem releases (hk : s.fillings.get k = some filling) (hstage : filling.stage = .refused) :
    (s.release k filling).1.Weighed where
  room orderId := by
    have hends := Cabinet.ends_weight orderId hk
    have hsame : (s.release k filling).1.weight orderId = (s.ends k).weight orderId := rfl
    have hroom := h.room orderId
    by_cases hid : orderId = filling.order.id
    · have hone : filling.weight orderId = 1 := by simp [Filling.weight, hstage, hid]
      have hle : s.ledger.room orderId ≤ 1 := by
        unfold Ledger.room
        split <;> omega
      omega
    · have hrow : Ledger.room (s.release k filling).1.ledger orderId = s.ledger.room orderId :=
        s.ledger.room_releaseOrder hid
      omega
  asked := Cabinet.Awaited.ends (s := { s with ledger := _ }) h.asked k
  settled := h.settled

end Cabinet.Weighed

end

/-- **The step lemma of the cabinet.** -/
theorem Cabinet.Performs.weighed {came : Cabinet × List CabinetNotice}
    (hp : s.Performs R action came) (h : s.Weighed) (hn : s.Named action) : came.1.Weighed := by
  cases hp with
  | @handOver k order connection email hfresh _ =>
    unfold Cabinet.handOver
    split
    · exact h
    · have hnone : s.fillings.get k = none := by simpa [Dict.has] using hfresh
      refine ⟨fun orderId => ?_, fun j other hj ha => ?_, h.settled⟩
      · have hset := s.fillings.total_set (Filling.weight orderId) k ⟨order, connection, email, .started⟩
        have hzero : (⟨order, connection, email, .started⟩ : Filling).weight orderId = 0 :=
          Filling.weight_stage rfl (by simp)
        have := h.room orderId
        simp only [Cabinet.weight] at this ⊢
        omega
      · rcases of_get_set hj with ⟨-, rfl⟩ | ⟨-, hj⟩
        · cases ha
        · exact h.asked j other hj ha
  | claimOrder now hk hstage =>
    unfold Cabinet.claimOrder Ledger.claimOrder
    cases hrow : s.ledger.get _ with
    | none => exact h.takes hk hstage hrow
    | some row => exact h.meets _ _ row
  | insertClaim now hk hstage =>
    unfold Cabinet.insertClaim Ledger.insertClaim
    split
    · next ledger hinsert =>
      split at hinsert
      · next hnone =>
        cases hinsert
        exact h.takes hk hstage hnone
      · cases hinsert
    · exact h.moves hk (by simp)
  | @rereadClaim k filling hk hstage =>
    obtain ⟨row, hrow⟩ := isSome_iff_exists.1 (hn filling hk)
    unfold Ledger.rereadClaim
    rw [hrow]
    exact h.meets k filling row
  | ask hk hstage => exact h.asks hk hstage
  | @creates k request hk _ hopen =>
    refine h.creates hk ?_
    have hnamed := hn request hk
    unfold ShopRequest.settled ShopRequest.turnedDown at *
    cases hanswer : request.answer with
    | none => rfl
    | some answer =>
      rw [hanswer] at hopen hnamed
      exact Bool.or_eq_false_iff.2 ⟨hopen, hnamed⟩
  | hears answer hk hstage hr hcan => exact h.hears hk hstage hr hcan fun ha => hn ha _ hr
  | record _ _ => exact h.records
  | release hk hstage => exact h.releases hk hstage
  | dies k => exact h.ends k

theorem cabinetRun_weighed (actions : List CabinetAction)
    (hn : (cabinetMachine R).Meets Cabinet.Named .empty actions) : (cabinetRun R actions).Weighed := by
  refine (cabinetMachine R).run_induction_meeting (fun h hnamed hstep =>
    (Cabinet.step_performs hstep).weighed h hnamed) ?_ actions hn
  exact ⟨fun orderId => Nat.zero_le _, by rintro k filling ⟨⟩, by rintro k request ⟨⟩⟩

theorem Cabinet.Weighed.created_le (h : s.Weighed) (orderId : String) : s.created orderId ≤ 1 := by
  have hcreated : s.created orderId ≤ s.requests.total (ShopRequest.weight orderId) := by
    refine s.requests.total_mono fun k request hk => ?_
    split
    · next hmade =>
      have hopen : request.settled = false := by
        cases hs : request.settled with
        | false => rfl
        | true => exact absurd ((h.settled k request hk hs).symm.trans hmade.2) (by simp)
      simp [ShopRequest.weight, hmade.1, hopen]
    · exact Nat.zero_le _
  have hroom := h.room orderId
  have hrow : s.ledger.room orderId ≤ 1 := by
    unfold Ledger.room
    split <;> omega
  unfold Cabinet.weight at hroom
  omega

end

/-- **One sale, one order.** Whatever the workers and the shops do, in any order and with any worker dying
at any time: as long as no shop answers yes to a request it creates an order for without naming the order,
and no claim finds the row it lost to gone, the shops create one order for a sale at most. -/
theorem one_order_per_sale (R : CabinetRuntime) (actions : List CabinetAction)
    (hn : (cabinetMachine R).Meets Cabinet.Named .empty actions) (orderId : String) :
    (cabinetRun R actions).created orderId ≤ 1 :=
  (cabinetRun_weighed actions hn).created_le orderId

def sampleCabinet (store : LedgerStore) : CabinetRuntime :=
  { store := store, forms := ⟨fun _ => some 12, fun n => toString n.num⟩ }

/-- A shop that granted everything. -/
def sampleShop : WooConnection :=
  { accountId := "acc_1"
    shopUrl := "https://shop.example"
    consumerKey := "ck"
    consumerSecret := "cs"
    permissions := "read_write"
    connectedAt := 0 }

/-- A sale of the shop's product 12. -/
def shopSale : OrderDocument Document :=
  { id := "ord_1"
    merchantItemId := "12"
    params := .empty
    price := ⟨"1.00", "USD", ⟨0⟩, ⟨0⟩⟩
    priceId := none
    test := false }

def sampleHandOver (k : Nat) : CabinetAction := .handOver k shopSale sampleShop "m@example"

/-- A shop that falls over after it created the order is not asked a second time. -/
theorem one_order_after_failure :
    (cabinetRun (sampleCabinet .memory)
      [sampleHandOver 0, .claimOrder 0 0, .ask 0, .creates 0, .hears 0 (.answered 500 none),
        sampleHandOver 1, .claimOrder 1 1]).created "ord_1" ≤ 1 := by
  refine one_order_per_sale _ _ ?_ "ord_1"
  refine ⟨trivial, trivial, trivial, ?_, ?_, trivial, trivial, trivial⟩
  · rintro request ⟨⟩
    rfl
  · rintro ⟨⟩

/-- A shop that creates the order and answers with a page of its own is asked again, and so is one whose
sale was claimed through a row that another worker gave up meanwhile. -/
theorem two_orders_for_one_sale :
    (cabinetRun (sampleCabinet .memory)
      [sampleHandOver 0, .claimOrder 0 0, .ask 0, .creates 0, .hears 0 (.answered 200 none),
        .release 0, sampleHandOver 1, .claimOrder 1 1, .ask 1, .creates 1]).created "ord_1" = 2 ∧
    (cabinetRun (sampleCabinet .postgres)
      [sampleHandOver 0, sampleHandOver 1, .insertClaim 0 0, .insertClaim 1 1, .ask 0,
        .hears 0 (.answered 400 none), .release 0, .rereadClaim 1, .ask 1, .creates 1,
        sampleHandOver 2, .insertClaim 2 2, .ask 2, .creates 2]).created "ord_1" = 2 := by
  constructor <;> decide +kernel

end Coinslot
