import Coinslot.Cabinet.Storefront

/-!
# An order goes to the shop its product came from

A turn fills the orders it drew through the connection it read before its poll, and a card carries the
shop's bare number for its product. So an order reaches the shop its card was last imported from as long as
the merchant sells what came from the shop he has connected, changes neither his shop nor a card of it
under an order that is on its way, and lets no shop go under a turn that is still to claim (`Orderly`). Out
of these an order goes to a shop that was let go, or to another one than its product came from
(`order_in_the_wrong_shop`).
-/

namespace Coinslot

open List Option Dict

section
variable {R : CabinetRuntime} {s s' : Storefront} {action : StorefrontAction}
  {out : List StorefrontNotice}

/-! ## The step, by cases -/

/-- What a step does. -/
inductive Storefront.Performs (R : CabinetRuntime) (s : Storefront) :
    StorefrontAction → Storefront × List StorefrontNotice → Prop
  | connect (connection : WooConnection) : Performs R s (.connect connection) (s.connect connection, [])
  | forget (accountId : String) : Performs R s (.forget accountId) (s.forget accountId, [])
  | beginImport {accountId : String} {connection : WooConnection} (i : Nat)
      (products : List StoreProduct) : s.connections.get accountId = some connection →
      Performs R s (.beginImport i accountId products) (s.beginImport i connection products, [])
  | publishes {i : Nat} {run : ShopImport} {card : ImportedCard} {rest : List ImportedCard}
      (passes : Bool) : s.imports.get i = some run → run.left = card :: rest →
      Performs R s (.publishes i passes) (s.publishes i run card rest passes, [])
  | sells (accountId : String) (order : OrderDocument Document) :
      Performs R s (.sells accountId order) (s.sells accountId order, [])
  | ends (orderId : String) : Performs R s (.ends orderId) (s.ends orderId, [])
  | readsConnection {accountId : String} {connection : WooConnection} (n : Nat) (email : String) :
      s.connections.get accountId = some connection → s.turns.has n = false →
      Performs R s (.readsConnection n accountId email) (s.readsConnection n connection email, [])
  | polls {n : Nat} {turn : WorkerTurn} (orderIds : List String) : s.turns.get n = some turn →
      turn.batch = none → Performs R s (.polls n orderIds) (s.polls n turn orderIds, [])
  | takesUp {n k : Nat} {turn : WorkerTurn} {order : OrderDocument Document}
      {rest : List (OrderDocument Document)} : s.turns.get n = some turn →
      turn.batch = some (order :: rest) → s.readAt.has k = false → s.idle turn = true →
      Performs R s (.takesUp n k) (s.takesUp n k turn order rest)
  | works {act : CabinetAction} {came : Cabinet × List CabinetNotice} : act.ofTurn = false →
      s.cabinet.Performs R act came →
      Performs R s (.works act) ({ s with cabinet := came.1, claimedAt := s.noted act }, came.2)
  | turnEnds {n : Nat} {turn : WorkerTurn} : s.turns.get n = some turn → turn.batch = some [] →
      s.idle turn = true → Performs R s (.turnEnds n) ({ s with turns := s.turns.delete n }, [])
  | turnDies {n : Nat} {turn : WorkerTurn} : s.turns.get n = some turn →
      Performs R s (.turnDies n) (s.turnDies n turn, [])

theorem Storefront.step_performs {came : Storefront × List StorefrontNotice}
    (h : s.step R action = .ok came) : s.Performs R action came := by
  cases action with
  | connect connection => cases h; exact .connect connection
  | forget accountId => cases h; exact .forget accountId
  | beginImport i accountId products =>
    simp only [step] at h
    split at h
    · cases h
    · next hc =>
      split at h
      · cases h
      · cases h; exact .beginImport i products hc
  | publishes i passes =>
    simp only [step] at h
    split at h
    · next hi => cases h; exact .publishes passes hi rfl
    · cases h
  | sells accountId order =>
    simp only [step] at h
    split at h
    · cases h
    · cases h; exact .sells accountId order
  | ends orderId => cases h; exact .ends orderId
  | readsConnection n accountId email =>
    simp only [step] at h
    split at h
    · cases h
    · next hc =>
      split at h
      · cases h
      · next hn =>
        cases h
        exact .readsConnection n email hc (by simpa using hn)
  | polls n orderIds =>
    simp only [step] at h
    split at h
    · next ht => cases h; exact .polls orderIds ht rfl
    · cases h
  | takesUp n k =>
    simp only [step] at h
    split at h
    · next ht =>
      split at h
      · cases h
      · next hfree =>
        cases h
        simp only [Bool.or_eq_true, not_or, Bool.not_eq_true, Bool.not_eq_false'] at hfree
        exact .takesUp ht rfl hfree.1.1.1 hfree.2
    · cases h
  | works act =>
    simp only [step] at h
    split at h
    · cases h
    · next hturn =>
      cases hstep : s.cabinet.step R act with
      | error e => rw [hstep] at h; cases h
      | ok came =>
        rw [hstep] at h
        cases h
        exact .works (by simpa using hturn) (Cabinet.step_performs hstep)
  | turnEnds n =>
    simp only [step] at h
    split at h
    · next ht =>
      split at h
      · next hidle => cases h; exact .turnEnds ht rfl hidle
      · cases h
    · cases h
  | turnDies n =>
    simp only [step] at h
    split at h
    · cases h
    · next ht => cases h; exact .turnDies ht

/-! ## What a step of the cabinet does to the orders in hand -/

/-- The claim of an order in hand is still to be taken. -/
def FillingStage.unclaimed : FillingStage → Bool
  | .started | .conflicted => true
  | _ => false

/-- The shop is still to be asked. -/
def FillingStage.unasked (stage : FillingStage) : Bool := stage.unclaimed || stage = .ours

variable {act : CabinetAction} {came : Cabinet × List CabinetNotice}

variable {c : Cabinet}

theorem Cabinet.Performs.claims (h : c.Performs R act came) {k : Nat} (hk : act.claims = some k) :
    ∃ filling, c.fillings.get k = some filling ∧ filling.stage.unclaimed = true := by
  cases h with
  | claimOrder now hf hs | insertClaim now hf hs | rereadClaim hf hs =>
    cases hk
    exact ⟨_, hf, by rw [hs]; rfl⟩
  | _ => cases hk

theorem Cabinet.Performs.asked (h : c.Performs R act came) {order : ShopOrder} (ha : .asked order ∈ came.2) :
    ∃ k filling, c.fillings.get k = some filling ∧ filling.stage = .ours ∧
      order.transactionId = filling.order.id ∧ order.shopUrl = filling.connection.shopUrl ∧
      R.forms.productId filling.order.merchantItemId = some order.productId := by
  have claimed (k : Nat) (filling : Filling) (claim : OrderClaim) (before : Cabinet) :
      .asked order ∉ (before.claimed k filling claim).2 := by
    cases claim <;> simp [Cabinet.claimed]
  cases h with
  | handOver o connection email _ _ =>
    unfold Cabinet.handOver at ha
    split at ha <;> simp at ha
  | claimOrder now _ _ => exact absurd ha (claimed _ _ _ _)
  | insertClaim now _ _ =>
    unfold Cabinet.insertClaim at ha
    split at ha <;> simp at ha
  | rereadClaim _ _ => exact absurd ha (claimed _ _ _ _)
  | @ask k filling hf hs =>
    unfold Cabinet.ask at ha
    split at ha
    · simp at ha
    · next sent hcall =>
      rw [mem_singleton] at ha
      cases ha
      unfold orderCall at hcall
      split at hcall
      · cases hcall
      · next hproduct =>
        cases hcall
        exact ⟨k, filling, hf, hs, rfl, rfl, hproduct⟩
  | hears answer _ _ _ _ =>
    unfold Cabinet.hears at ha
    split at ha
    · simp at ha
    · simp at ha
    · split at ha <;> simp at ha
  | record _ _ | release _ _ => simp [Cabinet.record, Cabinet.release] at ha
  | creates _ _ _ | dies k => simp at ha

/-- An order in hand whose shop is still to be asked was there before a step of the cabinet, as it was or
with its claim about to be taken. -/
theorem Cabinet.Performs.fillings (h : c.Performs R act came) (hturn : act.ofTurn = false) {j : Nat}
    {filling : Filling} (hj : came.1.fillings.get j = some filling) (hs : filling.stage.unasked = true) :
    c.fillings.get j = some filling ∨ ∃ before, act.claims = some j ∧ c.fillings.get j = some before ∧
        before.stage.unclaimed = true ∧ filling.order = before.order ∧ filling.connection = before.connection := by
  have moved (k : Nat) (before : Filling) (stage : FillingStage) {c' : Cabinet}
      (hc : c'.fillings = (c.moves k before stage).fillings) (hj : c'.fillings.get j = some filling) :
      c.fillings.get j = some filling ∨ j = k ∧ filling = { before with stage := stage } := by
    rw [hc] at hj
    rcases of_get_set hj with ⟨hjk, rfl⟩ | ⟨-, hj⟩
    · exact .inr ⟨hjk, rfl⟩
    · exact .inl hj
  have ended (k : Nat) {c' : Cabinet} (hc : c'.fillings = (c.ends k).fillings)
      (hj : c'.fillings.get j = some filling) : c.fillings.get j = some filling := by
    rw [hc] at hj
    exact (of_get_delete hj).2
  have claimed {k : Nat} {before : Filling} (claim : OrderClaim) (c' : Cabinet)
      (hc : c'.fillings = c.fillings) (hk : act.claims = some k)
      (hf : c.fillings.get k = some before) (hb : before.stage.unclaimed = true)
      (hj : (c'.claimed k before claim).1.fillings.get j = some filling) :
      c.fillings.get j = some filling ∨
        ∃ before, act.claims = some j ∧ c.fillings.get j = some before ∧
          before.stage.unclaimed = true ∧ filling.order = before.order ∧
          filling.connection = before.connection := by
    cases claim with
    | ours =>
      rcases moved k before .ours (by simp [Cabinet.claimed, Cabinet.moves, hc]) hj with hsame | ⟨rfl, rfl⟩
      · exact .inl hsame
      · exact .inr ⟨before, hk, hf, hb, rfl, rfl⟩
    | placed _ | unknown _ => exact .inl (ended k (by simp [Cabinet.claimed, Cabinet.ends, hc]) hj)
  cases h with
  | handOver o connection email _ _ => cases hturn
  | @claimOrder k before now hf hb =>
    exact claimed (c.ledger.claimOrder before.order.id before.connection.accountId now).2
      { c with ledger := (c.ledger.claimOrder before.order.id before.connection.accountId now).1 }
      rfl rfl hf (by rw [hb]; rfl) hj
  | @insertClaim k before now hf hb =>
    unfold Cabinet.insertClaim at hj
    split at hj
    · rcases moved k before .ours rfl hj with hsame | ⟨rfl, rfl⟩
      · exact .inl hsame
      · exact .inr ⟨before, rfl, hf, by rw [hb]; rfl, rfl, rfl⟩
    · rcases moved k before .conflicted rfl hj with hsame | ⟨rfl, rfl⟩
      · exact .inl hsame
      · exact .inr ⟨before, rfl, hf, by rw [hb]; rfl, rfl, rfl⟩
  | rereadClaim hf hb => exact claimed _ c rfl rfl hf (by rw [hb]; rfl) hj
  | @ask k before hf hb =>
    unfold Cabinet.ask at hj
    split at hj
    · rcases moved k before .refused rfl hj with hsame | ⟨rfl, rfl⟩
      · exact .inl hsame
      · cases hs
    · rcases moved k before .asked rfl hj with hsame | ⟨rfl, rfl⟩
      · exact .inl hsame
      · cases hs
  | creates _ _ _ => exact .inl hj
  | @hears k before request answer hf hb _ _ =>
    unfold Cabinet.hears at hj
    split at hj
    · exact .inl (ended k rfl hj)
    · next order _ =>
      rcases moved k before (.made order) rfl hj with hsame | ⟨rfl, rfl⟩
      · exact .inl hsame
      · cases hs
    · split at hj
      · exact .inl (ended k rfl hj)
      · rcases moved k before .refused rfl hj with hsame | ⟨rfl, rfl⟩
        · exact .inl hsame
        · cases hs
  | @record k _ _ _ _ => exact .inl (ended k rfl hj)
  | @release k _ _ _ => exact .inl (ended k rfl hj)
  | dies k => cases hturn

/-! ## What is on its way -/

namespace Storefront

/-- An order is on its way to a shop: it can be handed over, a worker drew it, or a worker has it in its
hands and did not ask the shop yet. -/
inductive OnItsWay (s : Storefront) (accountId : String) (order : OrderDocument Document) : Prop
  | streamed {id : String} : s.stream.get id = some ⟨accountId, order⟩ → OnItsWay s accountId order
  | drawn {n : Nat} {turn : WorkerTurn} {batch : List (OrderDocument Document)} :
      s.turns.get n = some turn → turn.connection.accountId = accountId →
      turn.batch = some batch → order ∈ batch → OnItsWay s accountId order
  | held {k : Nat} {filling : Filling} : s.cabinet.fillings.get k = some filling →
      filling.connection.accountId = accountId → filling.order = order →
      filling.stage.unasked = true → OnItsWay s accountId order

/-- A turn may still take a claim: it has not polled, it has orders to take up, or it has one in its hands
whose claim is to be taken. -/
def MayClaim (s : Storefront) (turn : WorkerTurn) : Prop :=
  turn.batch ≠ some [] ∨ ∃ k filling, turn.filling = some k ∧
    s.cabinet.fillings.get k = some filling ∧ filling.stage.unclaimed = true

def Rests (s : Storefront) (accountId : String) : Prop :=
  ∀ n turn, s.turns.get n = some turn → turn.connection.accountId = accountId → ¬ s.MayClaim turn

/-- The condition of a step. A shop is connected or let go only while no turn may still take a claim
through the connection there was; a shop is connected, and a card published by its import, only where the
orders on their way are for its products; and a card is sold only while no other shop is connected than the
one it came from. -/
def Orderly (s : Storefront) : StorefrontAction → Prop
  | .connect connection => s.Rests connection.accountId ∧
      ∀ order, s.OnItsWay connection.accountId order →
        s.cards.get (connection.accountId, order.merchantItemId) = some connection.shopUrl
  | .forget accountId => s.Rests accountId
  | .publishes i true => ∀ run card rest, s.imports.get i = some run → run.left = card :: rest →
      ∀ order, s.OnItsWay run.accountId order → order.merchantItemId = card.id →
        s.cards.get (run.accountId, card.id) = some run.shopUrl
  | .sells accountId order => ∀ connection, s.connections.get accountId = some connection →
      s.cards.get (accountId, order.merchantItemId) = some connection.shopUrl
  | _ => True

/-- What holds of a storefront in every orderly run. -/
structure Straight (s : Storefront) : Prop where
  /-- A connection is kept under its account. -/
  accounts : ∀ accountId connection, s.connections.get accountId = some connection →
    connection.accountId = accountId
  /-- A turn that may still take a claim has the connection the account has, unchanged. -/
  turns : ∀ n turn, s.turns.get n = some turn → s.MayClaim turn →
    s.connections.get turn.connection.accountId = some turn.connection ∧
      turn.readAt = s.changesOf turn.connection.accountId
  /-- An order whose claim is to be taken is in the hands of its turn. -/
  owned : ∀ k filling, s.cabinet.fillings.get k = some filling → filling.stage.unclaimed = true →
    ∃ n turn, s.turns.get n = some turn ∧ turn.filling = some k ∧
      turn.connection = filling.connection ∧ s.readAt.get k = some turn.readAt
  /-- The number of an order in hand was given out once. -/
  minted : ∀ n turn k, s.turns.get n = some turn → turn.filling = some k → s.readAt.has k = true
  /-- An order on its way is for a product of the shop that is connected. -/
  onWay : ∀ accountId order connection, s.OnItsWay accountId order →
    s.connections.get accountId = some connection →
    s.cards.get (accountId, order.merchantItemId) = some connection.shopUrl
  /-- An order that is claimed is for a product of the shop that is to be asked, and the connection was
  not changed between its reading and the claim. -/
  ours : ∀ k filling, s.cabinet.fillings.get k = some filling → filling.stage = .ours →
    s.cards.get (filling.connection.accountId, filling.order.merchantItemId) =
        some filling.connection.shopUrl ∧
      ∃ changes, s.readAt.get k = some changes ∧ s.claimedAt.get k = some changes

end Storefront

/-! ## The step keeps the orders straight -/

variable {accountId : String} {order : OrderDocument Document}

theorem Storefront.OnItsWay.before (h : s'.OnItsWay accountId order)
    (hstream : ∀ id streamed, s'.stream.get id = some streamed → s.OnItsWay streamed.accountId streamed.order)
    (hturns : ∀ n turn batch, s'.turns.get n = some turn → turn.batch = some batch →
      ∀ o ∈ batch, s.OnItsWay turn.connection.accountId o)
    (hheld : ∀ k filling, s'.cabinet.fillings.get k = some filling → filling.stage.unasked = true →
      s.OnItsWay filling.connection.accountId filling.order) : s.OnItsWay accountId order := by
  cases h with
  | streamed hs => exact hstream _ _ hs
  | drawn hn ha hb hm => exact ha ▸ hturns _ _ _ hn hb _ hm
  | held hk ha hord hs => exact ha ▸ hord ▸ hheld _ _ hk hs

theorem Storefront.OnItsWay.congr (h : s'.OnItsWay accountId order) (hstream : s'.stream = s.stream)
    (hturns : s'.turns = s.turns) (hheld : s'.cabinet = s.cabinet) : s.OnItsWay accountId order :=
  h.before (fun _ _ hs => .streamed (hstream ▸ hs))
    (fun _ _ _ hn hb _ hm => .drawn (hturns ▸ hn) rfl hb hm)
    (fun _ _ hk hs => .held (hheld ▸ hk) rfl rfl hs)

theorem Storefront.changesOf_other {other : String} (h : other ≠ accountId) :
    ((s.changed accountId).get other).getD 0 = s.changesOf other := by
  simp [changed, changesOf, get_set, h]

section

variable (h : s.Straight)
include h

variable {connection : WooConnection}

namespace Storefront.Straight

theorem connects (ho : s.Orderly (.connect connection)) : (s.connect connection).Straight := by
  obtain ⟨hrests, hhome⟩ := ho
  refine ⟨?_, ?_, h.owned, h.minted, ?_, h.ours⟩
  · intro accountId found hf
    rcases of_get_set hf with ⟨hid, rfl⟩ | ⟨-, hf⟩
    · exact hid.symm
    · exact h.accounts accountId found hf
  · intro n turn hn hmay
    have hne : turn.connection.accountId ≠ connection.accountId := fun heq => hrests n turn hn heq hmay
    obtain ⟨hconn, hread⟩ := h.turns n turn hn hmay
    refine ⟨?_, hread.trans (Storefront.changesOf_other hne).symm⟩
    simp only [connect, get_set, if_neg hne]
    exact hconn
  · intro accountId order found hway hf
    have hbefore : s.OnItsWay accountId order := hway.congr rfl rfl rfl
    rcases of_get_set hf with ⟨rfl, rfl⟩ | ⟨-, hf⟩
    · exact hhome order hbefore
    · exact h.onWay accountId order found hbefore hf

theorem forgets (hrests : s.Rests accountId) : (s.forget accountId).Straight := by
  have kept {other : String} {found : WooConnection}
      (hf : (s.forget accountId).connections.get other = some found) :
      s.connections.get other = some found := by
    exact (of_get_delete hf).2
  refine ⟨fun other found hf => h.accounts other found (kept hf), ?_, h.owned, h.minted, ?_, h.ours⟩
  · intro n turn hn hmay
    have hne : turn.connection.accountId ≠ accountId := fun heq => hrests n turn hn heq hmay
    obtain ⟨hconn, hread⟩ := h.turns n turn hn hmay
    refine ⟨?_, hread.trans (Storefront.changesOf_other hne).symm⟩
    simp only [forget, get_delete, if_neg hne]
    exact hconn
  · intro other order found hway hf
    exact h.onWay other order found (hway.congr rfl rfl rfl) (kept hf)

theorem publishes {i : Nat} {run : ShopImport} {card : ImportedCard} {rest : List ImportedCard}
    (ho : ∀ order, s.OnItsWay run.accountId order → order.merchantItemId = card.id →
      s.cards.get (run.accountId, card.id) = some run.shopUrl) : (s.publishes i run card rest true).Straight := by
  -- An order on its way keeps the shop its product came from.
  have kept {accountId : String} {order : OrderDocument Document} {shopUrl : String}
      (hway : s.OnItsWay accountId order)
      (hcard : s.cards.get (accountId, order.merchantItemId) = some shopUrl) :
      (s.publishes i run card rest true).cards.get (accountId, order.merchantItemId) = some shopUrl := by
    simp only [Storefront.publishes, if_true, get_set]
    split
    · next hkey =>
      injection hkey with haccount hitem
      subst haccount
      rw [hitem] at hcard
      exact (ho order hway hitem).symm.trans hcard
    · exact hcard
  refine ⟨h.accounts, h.turns, h.owned, h.minted, ?_, ?_⟩
  · intro accountId order connection hway hc
    have hbefore : s.OnItsWay accountId order := hway.congr rfl rfl rfl
    exact kept hbefore (h.onWay accountId order connection hbefore hc)
  · intro k filling hk hs
    obtain ⟨hcard, hclaim⟩ := h.ours k filling hk hs
    exact ⟨kept (.held hk rfl rfl (by simp [FillingStage.unasked, hs])) hcard, hclaim⟩

theorem sells (ho : s.Orderly (.sells accountId order)) :
    (s.sells accountId order).Straight := by
  refine ⟨h.accounts, h.turns, h.owned, h.minted, ?_, h.ours⟩
  intro other found connection hway hc
  by_cases hnew : other = accountId ∧ found = order
  · obtain ⟨rfl, rfl⟩ := hnew
    exact ho connection hc
  · refine h.onWay other found connection ?_ hc
    cases hway with
    | streamed hs =>
      simp only [Storefront.sells, get_set] at hs
      split at hs
      · cases hs; exact absurd ⟨rfl, rfl⟩ hnew
      · exact .streamed hs
    | drawn hn ha hb hm => exact .drawn hn ha hb hm
    | held hk ha hord hs => exact .held hk ha hord hs

theorem ends (orderId : String) : (s.ends orderId).Straight := by
  refine ⟨h.accounts, h.turns, h.owned, h.minted, ?_, h.ours⟩
  intro accountId order connection hway hc
  refine h.onWay accountId order connection ?_ hc
  refine hway.before (fun id streamed hs => ?_) (fun _ _ _ hn hb _ hm => .drawn hn rfl hb hm)
    (fun _ _ hk hs => .held hk rfl rfl hs)
  exact .streamed (of_get_delete hs).2

theorem reads {n : Nat} {email : String} (hc : s.connections.get accountId = some connection)
    (hn : s.turns.has n = false) : (s.readsConnection n connection email).Straight := by
  have hid := h.accounts accountId connection hc
  have hnone : s.turns.get n = none := by simpa [Dict.has] using hn
  have old {m : Nat} {turn : WorkerTurn} (hm : s.turns.get m = some turn) : m ≠ n := by
    rintro rfl
    cases hnone.symm.trans hm
  refine ⟨h.accounts, ?_, ?_, ?_, ?_, h.ours⟩
  · intro m turn hm hmay
    rcases of_get_set hm with ⟨-, rfl⟩ | ⟨-, hm⟩
    · exact ⟨hid ▸ hc, rfl⟩
    · exact h.turns m turn hm hmay
  · intro k filling hk hs
    obtain ⟨m, turn, hm, hrest⟩ := h.owned k filling hk hs
    refine ⟨m, turn, ?_, hrest⟩
    simp only [Storefront.readsConnection, get_set, if_neg (old hm)]
    exact hm
  · intro m turn k hm hk
    rcases of_get_set hm with ⟨-, rfl⟩ | ⟨-, hm⟩
    · cases hk
    · exact h.minted m turn k hm hk
  · intro other order found hway hf
    refine h.onWay other order found ?_ hf
    refine hway.before (fun _ _ hs => .streamed hs) (fun m turn batch hm hb o ho => ?_)
      (fun _ _ hk hs => .held hk rfl rfl hs)
    rcases of_get_set hm with ⟨-, rfl⟩ | ⟨-, hm⟩
    · cases hb
    · exact .drawn hm rfl hb ho

end Storefront.Straight

end

variable {turn : WorkerTurn}

section

variable (h : s.Straight)
include h

variable {n : Nat}

theorem Storefront.Straight.polled (hn : s.turns.get n = some turn) (hbatch : turn.batch = none)
    (orderIds : List String) :
    (s.polls n turn orderIds).Straight := by
  have hmay : s.MayClaim turn := .inl (by rw [hbatch]; rintro ⟨⟩)
  refine ⟨h.accounts, ?_, ?_, ?_, ?_, h.ours⟩
  · intro m other hm hother
    rcases of_get_set hm with ⟨-, rfl⟩ | ⟨-, hm⟩
    · exact h.turns n turn hn hmay
    · exact h.turns m other hm hother
  · intro k filling hk hs
    obtain ⟨m, other, hm, hfill, hrest⟩ := h.owned k filling hk hs
    by_cases hmn : m = n
    · subst hmn
      cases hn.symm.trans hm
      exact ⟨m, _, get_set_self _ _ _, hfill, hrest⟩
    · refine ⟨m, other, ?_, hfill, hrest⟩
      simp only [Storefront.polls, get_set, if_neg hmn]
      exact hm
  · intro m other k hm hk
    rcases of_get_set hm with ⟨-, rfl⟩ | ⟨-, hm⟩
    · exact h.minted n turn k hn hk
    · exact h.minted m other k hm hk
  · intro other order found hway hf
    refine h.onWay other order found ?_ hf
    refine hway.before (fun _ _ hs => .streamed hs) (fun m other batch hm hb o ho => ?_)
      (fun _ _ hk hs => .held hk rfl rfl hs)
    rcases of_get_set hm with ⟨-, rfl⟩ | ⟨-, hm⟩
    · cases hb
      obtain ⟨id, -, hid⟩ := mem_filterMap.1 ho
      split at hid
      · next streamed hs =>
        split at hid
        · next haccount =>
          cases hid
          exact haccount ▸ .streamed hs
        · cases hid
      · cases hid
    · exact .drawn hm rfl hb ho

/-- The next order of the batch is taken up. -/
theorem Storefront.Straight.takes {k : Nat} {rest : List (OrderDocument Document)} (hn : s.turns.get n = some turn)
    (hbatch : turn.batch = some (order :: rest)) (hk : s.readAt.has k = false) (hidle : s.idle turn = true) :
    (s.takesUp n k turn order rest).1.Straight := by
  have hmay : s.MayClaim turn := .inl (by rw [hbatch]; rintro ⟨⟩)
  have hfresh : s.readAt.get k = none := by simpa [Dict.has] using hk
  have hdrawn : s.OnItsWay turn.connection.accountId order := .drawn hn rfl hbatch mem_cons_self
  -- An order in hand is the one just taken up, or was in hand before.
  have inHand {j : Nat} {filling : Filling}
      (hj : (s.takesUp n k turn order rest).1.cabinet.fillings.get j = some filling) :
      j = k ∧ filling = ⟨order, turn.connection, turn.email, .started⟩ ∨ s.cabinet.fillings.get j = some filling := by
    simp only [takesUp, Cabinet.handOver] at hj
    split at hj
    · exact .inr hj
    · rcases of_get_set hj with ⟨hjk, rfl⟩ | ⟨-, hj⟩
      · exact .inl ⟨hjk, rfl⟩
      · exact .inr hj
  have turned {m : Nat} {other : WorkerTurn}
      (hm : (s.takesUp n k turn order rest).1.turns.get m = some other) :
      m = n ∧ other = { turn with batch := some rest, filling := some k } ∨ m ≠ n ∧ s.turns.get m = some other := by
    rcases of_get_set hm with ⟨hmn, rfl⟩ | ⟨hmn, hm⟩
    · exact .inl ⟨hmn, rfl⟩
    · exact .inr ⟨hmn, hm⟩
  have old {j changes : Nat} (hj : s.readAt.get j = some changes) :
      (s.takesUp n k turn order rest).1.readAt.get j = some changes := by
    have hne : j ≠ k := by rintro rfl; cases hfresh.symm.trans hj
    simp only [takesUp, get_set, if_neg hne]
    exact hj
  refine ⟨h.accounts, ?_, ?_, ?_, ?_, ?_⟩
  · intro m other hm hother
    rcases turned hm with ⟨rfl, rfl⟩ | ⟨-, hbefore⟩
    · exact h.turns m turn hn hmay
    · refine h.turns m other hbefore ?_
      rcases hother with hb | ⟨j, filling, hfill, hj, hs⟩
      · exact .inl hb
      · rcases inHand hj with ⟨rfl, -⟩ | hj
        · cases hk.symm.trans (h.minted m other j hbefore hfill)
        · exact .inr ⟨j, filling, hfill, hj, hs⟩
  · intro j filling hj hs
    rcases inHand hj with ⟨rfl, rfl⟩ | hbefore
    · exact ⟨n, _, get_set_self _ _ _, rfl, rfl, get_set_self _ _ _⟩
    · obtain ⟨m, other, hm, hfill, hconn, hread⟩ := h.owned j filling hbefore hs
      have hmn : m ≠ n := by
        rintro rfl
        cases hn.symm.trans hm
        simp [idle, hfill, Dict.has, hbefore] at hidle
      refine ⟨m, other, ?_, hfill, hconn, old hread⟩
      simp only [takesUp, get_set, if_neg hmn]
      exact hm
  · intro m other j hm hj
    rcases turned hm with ⟨rfl, rfl⟩ | ⟨-, hm⟩
    · cases hj
      simp [takesUp, Dict.has]
    · obtain ⟨changes, hread⟩ := isSome_iff_exists.1 (h.minted m other j hm hj)
      exact isSome_iff_exists.2 ⟨changes, old hread⟩
  · intro accountId o connection hway hc
    refine h.onWay accountId o connection ?_ hc
    refine hway.before (fun _ _ hs => .streamed hs) (fun m other batch hm hb o ho => ?_) (fun j filling hj hs => ?_)
    · rcases turned hm with ⟨rfl, rfl⟩ | ⟨-, hm⟩
      · cases hb
        exact .drawn hn rfl hbatch (mem_cons_of_mem _ ho)
      · exact .drawn hm rfl hb ho
    · rcases inHand hj with ⟨rfl, rfl⟩ | hj
      · exact hdrawn
      · exact .held hj rfl rfl hs
  · intro j filling hj hs
    rcases inHand hj with ⟨rfl, rfl⟩ | hj
    · cases hs
    · obtain ⟨hcard, changes, hread, hclaimed⟩ := h.ours j filling hj hs
      exact ⟨hcard, changes, old hread, hclaimed⟩

/-- The cabinet goes on. The claim of an order is taken while its turn has the connection the account has,
so through the one that was read for it. -/
theorem Storefront.Straight.works (hturn : act.ofTurn = false) (hact : s.cabinet.Performs R act came) :
    ({ s with cabinet := came.1, claimedAt := s.noted act } : Storefront).Straight := by
  -- An order in hand whose shop is still to be asked was in hand, and was on its way.
  have unclaimed {j : Nat} {filling : Filling} (hj : came.1.fillings.get j = some filling)
      (hs : filling.stage.unclaimed = true) :
      ∃ before, s.cabinet.fillings.get j = some before ∧ before.stage.unclaimed = true ∧
        filling.connection = before.connection := by
    rcases hact.fillings hturn hj (by simp [FillingStage.unasked, hs]) with
      hj | ⟨before, -, hj, hb, -, hconn⟩
    · exact ⟨filling, hj, hs, rfl⟩
    · exact ⟨before, hj, hb, hconn⟩
  refine ⟨h.accounts, ?_, ?_, h.minted, ?_, ?_⟩
  · intro m turn hm hmay
    refine h.turns m turn hm ?_
    rcases hmay with hb | ⟨j, filling, hfill, hj, hs⟩
    · exact .inl hb
    · obtain ⟨before, hj, hb, -⟩ := unclaimed hj hs
      exact .inr ⟨j, before, hfill, hj, hb⟩
  · intro j filling hj hs
    obtain ⟨before, hj, hb, hconn⟩ := unclaimed hj hs
    rw [hconn]
    exact h.owned j before hj hb
  · intro accountId order connection hway hc
    refine h.onWay accountId order connection ?_ hc
    refine hway.before (fun _ _ hs => .streamed hs) (fun _ _ _ hn hb _ hm => .drawn hn rfl hb hm)
      (fun j filling hj hs => ?_)
    rcases hact.fillings hturn hj hs with hj | ⟨before, -, hj, hb, hord, hconn⟩
    · exact .held hj rfl rfl hs
    · exact .held hj (by rw [hconn]) hord.symm (by simp [FillingStage.unasked, hb])
  · intro j filling hj hs
    rcases hact.fillings hturn hj (by simp [FillingStage.unasked, hs]) with
      hj | ⟨before, hclaims, hj, hb, hord, hconn⟩
    · -- Its claim was taken before, and this step takes that of another order, or none.
      obtain ⟨hcard, changes, hread, hclaimed⟩ := h.ours j filling hj hs
      refine ⟨hcard, changes, hread, ?_⟩
      simp only [noted]
      split
      · exact hclaimed
      · next k hk =>
        obtain ⟨other, hother, hu⟩ := hact.claims hk
        have hne : j ≠ k := by
          rintro rfl
          cases hj.symm.trans hother
          rw [hs] at hu
          cases hu
        rw [hother]
        simp only [get_set, if_neg hne]
        exact hclaimed
    · obtain ⟨m, turn, hm, hfill, hsame, hread⟩ := h.owned j before hj hb
      obtain ⟨hfound, hchanges⟩ := h.turns m turn hm (.inr ⟨j, before, hfill, hj, hb⟩)
      rw [hsame] at hfound hchanges
      refine ⟨?_, turn.readAt, hread, ?_⟩
      · rw [hord, hconn]
        exact h.onWay _ _ _ (.held hj rfl rfl (by simp [FillingStage.unasked, hb])) hfound
      · simp [noted, hclaims, hj, hchanges]

theorem Storefront.Straight.leaves {cabinet : Cabinet} (hn : s.turns.get n = some turn)
    (hkept : ∀ k filling, cabinet.fillings.get k = some filling → s.cabinet.fillings.get k = some filling)
    (hgone : ∀ k, turn.filling = some k → cabinet.fillings.get k = none) :
    ({ s with turns := s.turns.delete n, cabinet := cabinet } : Storefront).Straight := by
  have left {m : Nat} {other : WorkerTurn} (hm : (s.turns.delete n).get m = some other) :
      s.turns.get m = some other := by
    exact (of_get_delete hm).2
  refine ⟨h.accounts, ?_, ?_, fun m other k hm => h.minted m other k (left hm), ?_,
    fun k filling hk => h.ours k filling (hkept k filling hk)⟩
  · intro m other hm hmay
    refine h.turns m other (left hm) ?_
    rcases hmay with hb | ⟨k, filling, hfill, hk, hs⟩
    · exact .inl hb
    · exact .inr ⟨k, filling, hfill, hkept k filling hk, hs⟩
  · intro k filling hk hs
    obtain ⟨m, other, hm, hfill, hrest⟩ := h.owned k filling (hkept k filling hk) hs
    have hmn : m ≠ n := by
      rintro rfl
      cases hn.symm.trans hm
      cases (hgone k hfill).symm.trans hk
    refine ⟨m, other, ?_, hfill, hrest⟩
    simp only [get_delete, if_neg hmn]
    exact hm
  · intro accountId order connection hway hc
    refine h.onWay accountId order connection ?_ hc
    exact hway.before (fun _ _ hs => .streamed hs)
      (fun _ _ _ hm hb _ ho => .drawn (left hm) rfl hb ho)
      (fun k filling hk hs => .held (hkept k filling hk) rfl rfl hs)

end

theorem Storefront.Performs.straight {came : Storefront × List StorefrontNotice}
    (hact : s.Performs R action came) (h : s.Straight) (ho : s.Orderly action) : came.1.Straight := by
  cases hact with
  | connect connection => exact h.connects ho
  | forget accountId => exact h.forgets ho
  | beginImport i products hc =>
    exact ⟨h.accounts, h.turns, h.owned, h.minted,
      fun accountId order connection hway => h.onWay accountId order connection (hway.congr rfl rfl rfl), h.ours⟩
  | @publishes i run card rest passes hi hleft =>
    cases passes with
    | true => exact h.publishes (ho run card rest hi hleft)
    | false =>
      exact ⟨h.accounts, h.turns, h.owned, h.minted,
        fun accountId order connection hway => h.onWay accountId order connection (hway.congr rfl rfl rfl), h.ours⟩
  | sells accountId order => exact h.sells ho
  | ends orderId => exact h.ends orderId
  | readsConnection n email hc hn => exact h.reads hc hn
  | polls orderIds hn hb => exact h.polled hn hb orderIds
  | takesUp hn hb hk hidle => exact h.takes hn hb hk hidle
  | works hturn hact => exact h.works hturn hact
  | @turnEnds n turn hn hb hidle =>
    refine h.leaves hn (fun _ _ hk => hk) (fun k hfill => ?_)
    simpa [idle, hfill, Dict.has] using hidle
  | @turnDies n turn hn =>
    refine h.leaves hn (fun k filling hk => ?_) (fun k hfill => ?_)
    · split at hk
      · exact hk
      · exact (of_get_delete hk).2
    · simp [hfill, Cabinet.ends, get_delete]

theorem Storefront.straight_run {actions : List StorefrontAction}
    (ho : (storefrontMachine R).Meets Storefront.Orderly .empty actions) : (storefrontRun R actions).Straight :=
  (storefrontMachine R).run_induction_meeting (P := Storefront.Straight)
    (fun hs ho hstep => (Storefront.step_performs hstep).straight hs ho)
    ⟨fun _ _ h => (by cases h), fun _ _ h => (by cases h), fun _ _ h => (by cases h),
      fun _ _ _ h => (by cases h),
      fun _ _ _ _ h => (by cases h), fun _ _ h => (by cases h)⟩ actions ho

end

/-- **An order goes to the shop its product came from, and to none that was let go.** In an orderly run of
connects and disconnects, imports, sales and worker turns: what a shop is asked for is asked for an order
in hand, of the shop whose import last published the card of its product, and the connection was neither
forgotten nor replaced between its reading and the claim of the order. -/
theorem orders_go_home (R : CabinetRuntime) (actions : List StorefrontAction)
    (ho : (storefrontMachine R).Meets Storefront.Orderly .empty actions) (action : StorefrontAction)
    (s' : Storefront) (out : List StorefrontNotice)
    (h : (storefrontMachine R).react (storefrontRun R actions) action = .ok (s', out))
    (order : ShopOrder) (ha : .asked order ∈ out) :
    let s := storefrontRun R actions
    ∃ k filling, s.cabinet.fillings.get k = some filling ∧
      order.transactionId = filling.order.id ∧ order.shopUrl = filling.connection.shopUrl ∧
      R.forms.productId filling.order.merchantItemId = some order.productId ∧
      s.cards.get (filling.connection.accountId, filling.order.merchantItemId) = some order.shopUrl ∧
      ∃ changes, s.readAt.get k = some changes ∧ s.claimedAt.get k = some changes := by
  intro s
  have hs : s.Straight := Storefront.straight_run ho
  have hperforms := Storefront.step_performs h
  cases hperforms with
  | @takesUp n k turn o rest _ _ _ _ =>
    simp only [Cabinet.handOver] at ha
    split at ha <;> simp at ha
  | works _ hact =>
    obtain ⟨k, filling, hk, hstage, htransaction, hshop, hproduct⟩ := hact.asked ha
    obtain ⟨hcard, hchanges⟩ := hs.ours k filling hk hstage
    exact ⟨k, filling, hk, htransaction, hshop, hproduct, hshop ▸ hcard, hchanges⟩
  | _ => simp at ha

/-- A product of a shop's catalogue, on sale there. -/
def shopProduct : StoreProduct :=
  { id := 12
    type := "simple"
    isPurchasable := true
    isInStock := true
    price := "100"
    currencyMinorUnit := 2
    currencyCode := "USD"
    title := "A mug"
    sku := ""
    prose := "For tea." }

/-- Another shop of the same merchant. -/
def otherShop : WooConnection := { sampleShop with shopUrl := "https://other.example" }

/-- A shop is connected, its product is imported, and the card is sold. -/
def firstSale : List StorefrontAction :=
  [.connect sampleShop, .beginImport 0 "acc_1" [shopProduct], .publishes 0 true,
    .sells "acc_1" shopSale]

/-- A turn reads the connection, draws the sale, takes it up and claims it. -/
def firstTurn : List StorefrontAction :=
  [.readsConnection 0 "acc_1" "m@example", .polls 0 ["ord_1"], .takesUp 0 0,
    .works (.claimOrder 0 0)]

/-- What the shop at an address is asked for the first sale. -/
def firstOrder (shopUrl : String) : ShopOrder :=
  { shopUrl := shopUrl
    transactionId := "ord_1"
    productId := 12
    email := "m@example"
    amount := "1.00"
    currency := "USD" }

/-- A first sale that is filled before anything else happens goes to the shop that was connected. -/
theorem first_sale_goes_home :
    let s := storefrontRun (sampleCabinet .memory) (firstSale ++ firstTurn)
    ∃ k filling, s.cabinet.fillings.get k = some filling ∧
      s.cards.get (filling.connection.accountId, filling.order.merchantItemId) = some "https://shop.example" ∧
      ∃ changes, s.readAt.get k = some changes ∧ s.claimedAt.get k = some changes := by
  have unsent {s : Storefront} {accountId : String} {o : OrderDocument Document}
      (hstream : s.stream = .empty) (hturns : s.turns = .empty)
      (hheld : s.cabinet.fillings = .empty) : ¬ s.OnItsWay accountId o := by
    rintro (hs | ⟨hn, -⟩ | ⟨hk, -⟩)
    · rw [hstream] at hs; cases hs
    · rw [hturns] at hn; cases hn
    · rw [hheld] at hk; cases hk
  have ho : (storefrontMachine (sampleCabinet .memory)).Meets Storefront.Orderly .empty
      (firstSale ++ firstTurn) := by
    refine ⟨⟨?_, fun o hway => absurd hway (unsent rfl rfl rfl)⟩, trivial, ?_, ?_, trivial, trivial,
      trivial, trivial, trivial⟩
    · rintro n turn ⟨⟩
    · intro run card rest _ _ o hway _
      exact absurd hway (unsent rfl rfl rfl)
    · rintro connection ⟨⟩
      rfl
  obtain ⟨k, filling, hk, -, -, -, hcard, hchanges⟩ := orders_go_home (sampleCabinet .memory)
    (firstSale ++ firstTurn) ho (.works (.ask 0)) _ _ rfl (firstOrder "https://shop.example")
    (List.mem_singleton.2 rfl)
  exact ⟨k, filling, hk, hcard, hchanges⟩

/-- A turn that read its connection before the merchant let the shop go asks it all the same. And a card
that came from one shop is filled from the one that was connected since, where the same number is another
thing. -/
theorem order_in_the_wrong_shop :
    let R := sampleCabinet .memory
    let gone := storefrontRun R
      (firstSale ++ .readsConnection 0 "acc_1" "m@example" :: .forget "acc_1" :: firstTurn.tail)
    let other := storefrontRun R (firstSale ++ .connect otherShop :: firstTurn)
    ((storefrontMachine R).log gone [.works (.ask 0)] =
        [.accepted (.works (.ask 0)), .emitted (.asked (firstOrder "https://shop.example"))] ∧
      gone.connections.get "acc_1" = none ∧ gone.readAt.get 0 = some 1 ∧
      gone.claimedAt.get 0 = some 2) ∧
    ((storefrontMachine R).log other [.works (.ask 0)] =
        [.accepted (.works (.ask 0)), .emitted (.asked (firstOrder "https://other.example"))] ∧
      other.cards.get ("acc_1", "12") = some "https://shop.example") :=
  ⟨⟨rfl, rfl, rfl, rfl⟩, rfl, rfl⟩

end Coinslot
