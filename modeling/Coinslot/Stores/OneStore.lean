import Coinslot.Stores.Decisions
import Coinslot.Lib.Reactor
import Mathlib.Data.String.Basic

/-!
# One store

The memory store and the Postgres store answer alike and stay side by side in every run whose calls meet a
condition (`Meets`): what a call sends, a column takes; a card, an order and a receipt name a merchant that is
there; a card that is new is given an identifier no card has; the database's collation orders a merchant's
keys of one instant as their code units do; and a delivered order is looked for among the receipts under the
identifier it is kept under. Memory asks for none of these. It asks whether the merchant of a key is there,
where the database has a rule for it, and not whether the merchant of a card, an order or a receipt is, where
the database has the same rule.
-/

namespace Coinslot.Stores

variable {Doc α : Type}

/-- What has to be so for a call to come to the same in both stores. -/
def Meets (database : Database Doc) (moment : Moment Doc) (memory : MemoryStore Doc)
    (call : StoreCall Doc α) : Prop :=
  (call.params moment).all database.takes = true ∧
    match call with
    | .registerMerchant id _ keyId label digest t =>
      memory.merchants.has id = false →
        (PostgresStore.keyParams ⟨keyId, id, label, digest, .cabinet⟩ t).all database.takes = true
    | .keysOf merchantId => Mirrored.CollatesAlike database memory fun key => key.merchantId = merchantId
    | .codeKeysOf merchantId =>
      Mirrored.CollatesAlike database memory fun key => key.merchantId = merchantId && key.purpose = .merchantCode
    | .publishCard merchantId card _ =>
      memory.cardIdByMerchantKey.has (catalogKey merchantId card.merchantItemId) = false →
        memory.merchants.has merchantId = true ∧ memory.cards.has moment.fresh = false
    | .addOrder record =>
      memory.orders.has record.order.id = false → memory.merchants.has record.merchantId = true
    | .deliveredWithoutReceipt =>
      ∀ id record, memory.orders.get id = some record → record.order.state = .delivered →
        memory.receipts.has record.order.id = memory.receipts.has id
    | .withOrder id change scope =>
      ∀ found decided, memory.orders.get id = some found →
        (scope.any fun merchantId => found.merchantId ≠ merchantId) = false →
          change found = .ok decided →
            ReceiptsLand database moment memory.merchants memory.receipts decided.alongside ∧
              ∀ record, decided.save = some record →
                database.takes (.order { record with merchantId := found.merchantId }) = true
    | .putReceipt merchantId receipt =>
      memory.receipts.has receipt.orderId = true ∨ memory.merchants.has merchantId = true
    | _ => True

/-- Two stores after a call are side by side, and answered it alike. -/
def Alike (memory : MemoryStore Doc × Except String (StoreAnswer Doc α))
    (postgres : PostgresStore Doc × Except String (StoreAnswer Doc α)) : Prop :=
  Mirrored memory.1 postgres.1 ∧ CameToTheSame memory.2 postgres.2

section
variable {database : Database Doc} {moment : Moment Doc} {memory : MemoryStore Doc}
  {postgres : PostgresStore Doc} {call : StoreCall Doc α}

theorem alike_of_tracks {β : Type} {came : MemoryStore Doc × Except String β}
    {result : Except String (PostgresStore Doc × β)} (h : Tracks postgres came result)
    (answer : β → StoreAnswer Doc α) (htakes : (call.params moment).all database.takes = true)
    (hmemory : memory.perform moment call = answering came fun result => result.map answer)
    (hpostgres : PostgresStore.execute database moment postgres call =
      result.map fun after => (after.1, answer after.2)) :
    Alike (memory.perform moment call) (postgres.perform database moment call) := by
  rw [hmemory, PostgresStore.perform, Database.sends, if_pos htakes, hpostgres]
  cases h with
  | answered h => exact ⟨h, StoreAnswer.same_refl _⟩
  | refused h => exact ⟨h, trivial⟩

theorem alike_of_same {memory' : MemoryStore Doc} {postgres' : PostgresStore Doc}
    {answer answer' : StoreAnswer Doc α} (h : Mirrored memory' postgres') (hsame : answer.Same answer')
    (htakes : (call.params moment).all database.takes = true)
    (hmemory : memory.perform moment call = (memory', .ok answer))
    (hpostgres : PostgresStore.execute database moment postgres call = .ok (postgres', answer')) :
    Alike (memory.perform moment call) (postgres.perform database moment call) := by
  rw [hmemory, PostgresStore.perform, Database.sends, if_pos htakes, hpostgres]
  exact ⟨h, hsame⟩

theorem alike_of_read {answer answer' : StoreAnswer Doc α} (h : Mirrored memory postgres)
    (hsame : answer.Same answer') (htakes : (call.params moment).all database.takes = true)
    (hmemory : memory.perform moment call = (memory, .ok answer))
    (hpostgres : PostgresStore.execute database moment postgres call = .ok (postgres, answer')) :
    Alike (memory.perform moment call) (postgres.perform database moment call) :=
  alike_of_same h hsame htakes hmemory hpostgres

/-- **A call.** Two stores that are side by side answer a call that meets the condition alike, and are side by
side again. -/
theorem perform_alike (h : Mirrored memory postgres) (hmeets : Meets database moment memory call) :
    Alike (memory.perform moment call) (postgres.perform database moment call) := by
  obtain ⟨htakes, hmeets⟩ := hmeets
  cases call with
  | addMerchant id name t =>
    refine alike_of_tracks (h.addMerchant database id name t) .merchant htakes rfl ?_
    rw [PostgresStore.execute]
    cases PostgresStore.addMerchant database postgres id name t <;> rfl
  | registerMerchant id name keyId label digest t =>
    refine alike_of_tracks (h.registerMerchant database id name keyId label digest t hmeets) .registered htakes rfl ?_
    rw [PostgresStore.execute]
    cases PostgresStore.registerMerchant database postgres id name keyId label digest t <;> rfl
  | merchantById id =>
    refine alike_of_read h ?_ htakes rfl rfl
    rw [h.merchantById moment.planner id]
    exact StoreAnswer.same_refl _
  | merchants =>
    refine alike_of_read h ?_ htakes rfl rfl
    exact h.allMerchants moment.planner
  | setServiceName id serviceName t =>
    obtain ⟨hanswer, hside⟩ := h.setMerchant id (fun row => { row with serviceName := serviceName })
      (fun row => { row with serviceName := serviceName }) (fun _ => rfl) fun _ => rfl
    refine alike_of_same hside ?_ htakes rfl rfl
    exact congrArg StoreAnswer.merchant hanswer.symm
  | setPayoutWallet id payoutWallet t =>
    obtain ⟨hanswer, hside⟩ := h.setMerchant id (fun row => { row with payoutWallet := some payoutWallet })
      (fun row => { row with payoutWallet := some payoutWallet }) (fun _ => rfl) fun _ => rfl
    refine alike_of_same hside ?_ htakes rfl rfl
    exact congrArg StoreAnswer.merchant hanswer.symm
  | addKey key t =>
    refine alike_of_tracks (h.addKey database key t) .keyAdded htakes rfl ?_
    rw [PostgresStore.execute]
    cases PostgresStore.addKey database postgres key t <;> rfl
  | noteKeyUse id t => exact alike_of_same (h.noteKeyUse id t) (StoreAnswer.same_refl _) htakes rfl rfl
  | workingKey digest =>
    refine alike_of_read h ?_ htakes rfl rfl
    rw [h.workingKey moment.planner digest]
    exact StoreAnswer.same_refl _
  | keyByDigest digest =>
    refine alike_of_read h ?_ htakes rfl rfl
    rw [h.keyByDigest moment.planner digest]
    exact StoreAnswer.same_refl _
  | keysOf merchantId =>
    refine alike_of_read h ?_ htakes rfl rfl
    rw [h.keysOf database moment.planner merchantId hmeets]
    exact StoreAnswer.same_refl _
  | codeKeysOf merchantId =>
    refine alike_of_read h ?_ htakes rfl rfl
    rw [h.codeKeysOf database moment.planner merchantId hmeets]
    exact StoreAnswer.same_refl _
  | forgetCabinetKey keyId =>
    obtain ⟨hanswer, hside⟩ := h.forgetCabinetKey keyId
    refine alike_of_same hside ?_ htakes rfl rfl
    rw [hanswer]
    exact StoreAnswer.same_refl _
  | disableKey id t =>
    obtain ⟨hanswer, hside⟩ := h.disableKey id t
    refine alike_of_same hside ?_ htakes rfl rfl
    rw [hanswer]
    exact StoreAnswer.same_refl _
  | disableKeyOf merchantId id t =>
    obtain ⟨hanswer, hside⟩ := h.disableKeyOf moment.planner merchantId id t
    refine alike_of_same hside ?_ htakes rfl rfl
    rw [hanswer]
    exact StoreAnswer.same_refl _
  | publishCard merchantId card t =>
    have htext {value : String} (hmem : .text value ∈ StoreCall.params (α := α) moment
        (.publishCard merchantId card t)) : '\x00' ∉ value.toList :=
      database.takes_text value (List.all_eq_true.1 htakes _ hmem)
    refine alike_of_tracks (h.publishCard database merchantId card t moment.fresh
      (htext (.tail _ (.head _))) (htext (.tail _ (.tail _ (.head _)))) hmeets) .published htakes rfl ?_
    rw [PostgresStore.execute]
    cases PostgresStore.publishCard database postgres merchantId card t moment.fresh <;> rfl
  | cardById id =>
    refine alike_of_read h ?_ htakes rfl rfl
    rw [h.cardById moment.planner id]
    exact StoreAnswer.same_refl _
  | cards merchantId =>
    refine alike_of_read h ?_ htakes rfl rfl
    exact h.cardsOf moment.planner merchantId
  | catalogEntries =>
    obtain ⟨entries, hentries, hperm⟩ := h.catalogEntries moment.planner
    have hmemory : memory.perform (α := α) moment .catalogEntries = (memory, .ok (.entries entries)) := by
      rw [MemoryStore.perform, hentries]
      rfl
    refine alike_of_read h ?_ htakes hmemory rfl
    exact hperm
  | setCardPaused merchantId id paused =>
    obtain ⟨hanswer, hside⟩ := h.setCardPaused merchantId id paused
    refine alike_of_same hside ?_ htakes rfl rfl
    rw [hanswer]
    exact StoreAnswer.same_refl _
  | selling merchantId =>
    refine alike_of_tracks (h.selling moment.planner merchantId) .selling htakes rfl ?_
    rw [PostgresStore.execute]
    cases PostgresStore.selling moment.planner postgres merchantId <;> rfl
  | setSelling merchantId selling =>
    refine alike_of_tracks (h.setSelling merchantId selling) (fun _ => .nothing) htakes rfl ?_
    rw [PostgresStore.execute]
    cases postgres.setSelling merchantId selling <;> rfl
  | addOrder record =>
    refine alike_of_tracks (h.addOrder database record hmeets) (fun _ => .nothing) htakes rfl ?_
    rw [PostgresStore.execute]
    cases PostgresStore.addOrder database postgres record <;> rfl
  | orderById id =>
    refine alike_of_read h ?_ htakes rfl rfl
    rw [h.orderById moment.planner id]
    exact StoreAnswer.same_refl _
  | merchantOrder merchantId id =>
    refine alike_of_read h ?_ htakes rfl rfl
    rw [h.merchantOrder moment.planner merchantId id]
    exact StoreAnswer.same_refl _
  | orders merchantId «open» =>
    refine alike_of_read h ?_ htakes rfl rfl
    exact h.ordersOf moment.planner merchantId «open»
  | openOrders =>
    refine alike_of_read h ?_ htakes rfl rfl
    exact h.openOrders moment.planner
  | runAlone name work =>
    refine alike_of_tracks (h.runAlone database name work) .ran htakes rfl ?_
    rw [PostgresStore.execute]
    cases PostgresStore.runAlone database postgres name work <;> rfl
  | deliveredWithoutReceipt =>
    refine alike_of_read h ?_ htakes rfl rfl
    exact h.deliveredWithoutReceipt moment.planner hmeets
  | withOrder id change scope =>
    have htext : database.takes (.text id) = true := List.all_eq_true.1 htakes _ (.head _)
    refine alike_of_tracks (h.withOrder database moment id change scope htext hmeets) .lookup htakes rfl ?_
    rw [PostgresStore.execute]
    cases PostgresStore.withOrder database moment.planner postgres moment id change scope <;> rfl
  | claimPayment fingerprint orderId =>
    refine alike_of_tracks (h.claimPayment database fingerprint orderId moment.now) .claim htakes rfl ?_
    rw [PostgresStore.execute]
    cases PostgresStore.claimPayment database postgres fingerprint orderId moment.now <;> rfl
  | releaseClaim fingerprint orderId =>
    exact alike_of_same (h.releaseClaim fingerprint orderId) (StoreAnswer.same_refl _) htakes rfl rfl
  | forgetClaimsBefore instant =>
    obtain ⟨hanswer, hside⟩ := h.forgetClaimsBefore instant
    refine alike_of_same hside ?_ htakes rfl rfl
    rw [hanswer]
    exact StoreAnswer.same_refl _
  | putReceipt merchantId receipt =>
    obtain ⟨after, hafter, hside, -⟩ := h.putReceipt database moment merchantId receipt hmeets
    refine alike_of_same hside (StoreAnswer.same_refl _) htakes rfl ?_
    rw [PostgresStore.execute, hafter]
    rfl
  | receiptForOrder orderId =>
    refine alike_of_read h ?_ htakes rfl rfl
    rw [h.receiptForOrder moment.planner orderId]
    exact StoreAnswer.same_refl _
  | receipts merchantId =>
    refine alike_of_read h ?_ htakes rfl rfl
    exact h.receiptsOf moment.planner merchantId

/-- A decision that is refused in memory, thrown by its body or by a stream it has an envelope for, leaves
the store as it was. -/
theorem withOrder_refused (store : MemoryStore Doc) (refuses : Posted Doc → Option String) (id : String)
    (change : StoredOrder Doc → Except String (OrderChange Doc α)) (scope : Option String)
    (hthrown : ¬ ((store.withOrder refuses id change scope).2).isOk) :
    (store.withOrder refuses id change scope).1 = store := by
  revert hthrown
  unfold MemoryStore.withOrder
  cases store.orders.get id with
  | none => exact fun _ => rfl
  | some found =>
    dsimp only
    split
    · exact fun _ => rfl
    · cases change found with
      | error thrown => exact fun _ => rfl
      | ok decided =>
        dsimp only
        by_cases hsome : ∃ envelope ∈ (sortedWrites decided.alongside).filterMap posted, refuses envelope ≠ none
        · obtain ⟨thrown, hrefused⟩ := store.takeWithTheOrder_refused refuses
            (sortedWrites_pairwise decided.alongside) hsome
          rw [sortedWrites] at hrefused
          rw [hrefused]
          exact fun _ => rfl
        · have hnone : ∀ envelope ∈ (sortedWrites decided.alongside).filterMap posted,
              refuses envelope = none :=
            fun envelope hmem => not_not.1 fun hne => hsome ⟨envelope, hmem, hne⟩
          have htaken := store.takeWithTheOrder_taken refuses hnone
          rw [sortedWrites] at htaken
          rw [htaken]
          exact fun hthrown => absurd rfl hthrown

end

/-! ## Runs -/

abbrev StoreStep (Doc α : Type) : Type 1 := Moment Doc × StoreCall Doc α

section

variable (database : Database Doc)

/-- Both stores, given every call. -/
def bothStores : Reactor (MemoryStore Doc × PostgresStore Doc) (StoreStep Doc α) Empty Empty where
  react stores step := .ok (((stores.1.perform step.1 step.2).1, (stores.2.perform database step.1 step.2).1), [])

def storesAfter (steps : List (StoreStep Doc α)) : MemoryStore Doc × PostgresStore Doc :=
  (bothStores database).run (.empty, .empty) steps

/-- A call answers the same in both stores, and a decision about an order that is thrown leaves both as they
were. -/
def AnswersAlike (stores : MemoryStore Doc × PostgresStore Doc) (step : StoreStep Doc α) : Prop :=
  CameToTheSame (stores.1.perform step.1 step.2).2 (stores.2.perform database step.1 step.2).2 ∧
    ∀ id change scope, step.2 = .withOrder id change scope →
      ¬ (stores.1.perform step.1 step.2).2.isOk →
        (stores.1.perform step.1 step.2).1 = stores.1 ∧
          (stores.2.perform database step.1 step.2).1 = stores.2

theorem mirrored_run (steps : List (StoreStep Doc α))
    (hmeets : (bothStores database).Meets (fun stores step => Meets database step.1 stores.1 step.2)
      (.empty, .empty) steps) : Mirrored (storesAfter database steps).1 (storesAfter database steps).2 := by
  refine (bothStores database).run_induction_meeting
    (P := fun stores : MemoryStore Doc × PostgresStore Doc => Mirrored stores.1 stores.2)
    (fun {stores step stores' out} hstores hstep hreact => ?_) mirrored_empty steps hmeets
  cases hreact
  exact (perform_alike hstores hstep).1

end

theorem perform_refused {database : Database Doc} {moment : Moment Doc} {memory : MemoryStore Doc}
    {postgres : PostgresStore Doc} {call : StoreCall Doc α}
    (h : Alike (memory.perform moment call) (postgres.perform database moment call))
    (hthrown : ¬ (memory.perform moment call).2.isOk) : (postgres.perform database moment call).1 = postgres := by
  obtain ⟨-, hsame⟩ := h
  revert hsame hthrown
  cases (memory.perform moment call).2 with
  | ok answer => exact fun hthrown => absurd rfl hthrown
  | error thrown =>
    rw [PostgresStore.perform]
    cases database.sends (call.params moment) (PostgresStore.execute database moment postgres call) with
    | ok after => exact fun _ hsame => absurd hsame not_false
    | error refused => exact fun _ _ => rfl

/-- **One store.** In every run whose calls meet the condition, every call is answered alike by the memory
store and the Postgres store, and a decision about an order that is thrown leaves both as they were. -/
theorem one_store (database : Database Doc) (steps : List (StoreStep Doc α)) (step : StoreStep Doc α)
    (hmeets : (bothStores database).Meets (fun stores step => Meets database step.1 stores.1 step.2)
      (.empty, .empty) (steps ++ [step])) :
    AnswersAlike database (storesAfter database steps) step := by
  obtain ⟨hsteps, hstep, -⟩ := (bothStores database).meets_append.1 hmeets
  have halike := perform_alike (mirrored_run database steps hsteps) hstep
  refine ⟨halike.2, fun id change scope hcall hthrown => ⟨?_, perform_refused halike hthrown⟩⟩
  obtain ⟨moment, call⟩ := step
  subst hcall
  -- in memory the answer is thrown exactly where the decision is
  refine withOrder_refused (storesAfter database steps).1 moment.refuses id change scope fun hmade =>
    hthrown ?_
  show (Except.map StoreAnswer.lookup
    ((storesAfter database steps).1.withOrder moment.refuses id change scope).2).isOk
  cases hcame : ((storesAfter database steps).1.withOrder moment.refuses id change scope).2 with
  | ok result => rfl
  | error thrown => rw [hcame] at hmade; exact hmade

/-- A database whose columns take every text without the character zero. -/
def plainDatabase : Database Unit where
  takes param := match param with
    | .text value => decide ('\x00' ∉ value.toList)
    | _ => true
  takes_text value htakes := of_decide_eq_true htakes
  collates s t := decide (s ≤ t)
  collates_total s t := by simpa using le_total s t
  collates_trans s t u hst htu := by
    simp only [decide_eq_true_eq] at hst htu ⊢
    exact le_trans hst htu
  collates_antisymm s t hst hts := le_antisymm (of_decide_eq_true hst) (of_decide_eq_true hts)
  hashtext _ := 0
  words _ := "refused"

/-- A call at the first instant, with every stream taking what it is given. -/
def atOnce (call : StoreCall Unit Unit) : StoreStep Unit Unit :=
  (⟨0, 0, "card_1", ⟨fun rows => rows, fun rows => .refl rows⟩, fun _ => none⟩, call)

/-- The receipt of a sale to the merchant "mch_a". -/
def saleReceipt : Receipt where
  id := "rcpt_1"
  orderId := "ord_1"
  itemId := "card_1"
  price := ⟨"1.00", "USDC", asTimestamp 0, asTimestamp 0⟩
  priceId := none
  paidAt := asTimestamp 0
  outcome := .delivered
  test := false

/-- A receipt of a merchant that is there. -/
theorem one_store_receipt :
    AnswersAlike plainDatabase (storesAfter plainDatabase [atOnce (.addMerchant "mch_a" "A" 0)])
      (atOnce (.putReceipt "mch_a" saleReceipt)) :=
  one_store plainDatabase _ _ ⟨⟨rfl, trivial⟩, ⟨rfl, Or.inr rfl⟩, trivial⟩

/-- A receipt of a merchant that is not there is written in memory and refused by the database. -/
theorem one_store_needs_merchant :
    ¬ ∀ (steps : List (StoreStep Unit Unit)) (step : StoreStep Unit Unit),
      AnswersAlike plainDatabase (storesAfter plainDatabase steps) step :=
  fun h => (h [] (atOnce (.putReceipt "mch_nobody" saleReceipt))).1

end Coinslot.Stores
