import Coinslot.Stores.Mirrored

/-!
# Cards, orders and payments, side by side

The other operations of the two stores, compared one by one. A card, an order and a receipt go down in both
where the merchant they name is there: memory does not ask, and the database does.

What goes with an order is taken in two ways. Memory takes the envelopes first, since they can be refused and
a receipt cannot, and makes them visible once the order is written; the database writes everything in the order
it is listed in, and takes back all of it where something is refused. Both come to the same.
-/

namespace Coinslot.Stores

open List Option

open PostgresStore (storedKeyOf storedCardOf)

theorem catalogKey_inj {merchantId merchantId' item item' : String} (hmerchant : '\x00' ∉ merchantId.toList)
    (hitem : '\x00' ∉ item.toList) (heq : catalogKey merchantId item = catalogKey merchantId' item') :
    merchantId = merchantId' ∧ item = item' := by
  have hlist := congrArg String.toList heq
  have hzero : ("\x00" : String).toList = ['\x00'] := rfl
  simp only [catalogKey, String.toList_append, append_assoc, hzero, singleton_append] at hlist
  obtain ⟨hmerchants, -, hitems⟩ := (append_cons_inj_of_notMem hmerchant hitem).1 hlist
  exact ⟨String.toList_injective hmerchants, String.toList_injective hitems⟩

namespace Mirrored

variable {Doc α : Type} {memory : MemoryStore Doc} {postgres : PostgresStore Doc}
  (database : Database Doc) (moment : Moment Doc) (planner : Rows.Planner)

/-! ## The catalog -/

/-- The row a card that is not there yet is inserted as. -/
def newCardRow (merchantId : String) (card : CardDocument Doc) (t : Int) (fresh : String) :
    PostgresStore.CardRow Doc :=
  { id := fresh
    merchantId := merchantId
    merchantItemId := card.merchantItemId
    card := card
    asOf := t
    paused := false }

section

variable (h : Mirrored memory postgres)
include h

theorem clash_iff (row : PostgresStore.CardRow Doc)
    {held : PostgresStore.CardRow Doc} (hheld : held ∈ postgres.cards) :
    PostgresStore.cardsMerchantItem.clash row held = decide (catalogKey held.merchantId held.merchantItemId =
        catalogKey row.merchantId row.merchantItemId) := by
  obtain ⟨hmerchant, hitem⟩ := h.plain held hheld
  show (decide (held.merchantId = row.merchantId) && decide (held.merchantItemId = row.merchantItemId)) = _
  rw [Bool.eq_iff_iff, Bool.and_eq_true, decide_eq_true_iff, decide_eq_true_iff, decide_eq_true_iff]
  constructor
  · rintro ⟨hmerchants, hitems⟩
    rw [hmerchants, hitems]
  · exact catalogKey_inj hmerchant hitem

theorem setCardRow {row : PostgresStore.CardRow Doc} (hrow : row ∈ postgres.cards)
    {p : PostgresStore.CardRow Doc → Bool} (hp : ∀ other ∈ postgres.cards, p other = true ↔ other.id = row.id)
    (set : PostgresStore.CardRow Doc → PostgresStore.CardRow Doc) (hid : ∀ row, (set row).id = row.id)
    (hmerchant : ∀ row, (set row).merchantId = row.merchantId)
    (hitem : ∀ row, (set row).merchantItemId = row.merchantItemId) {stored : StoredCard Doc}
    (hstored : storedCardOf (set row) = stored) : Mirrored { memory with cards := memory.cards.set row.id stored }
      { postgres with cards := Rows.update postgres.cards p set } := by
  have hupdated : ∀ held ∈ Rows.update postgres.cards p set,
      ∃ old ∈ postgres.cards, held.merchantId = old.merchantId ∧ held.merchantItemId = old.merchantItemId := by
    intro held hheld
    obtain ⟨old, hold, rfl⟩ := List.mem_map.1 hheld
    refine ⟨old, hold, ?_⟩
    split
    · exact ⟨hmerchant old, hitem old⟩
    · exact ⟨rfl, rfl⟩
  refine { h with cards := ?_, items := ?_, plain := ?_, sold := ?_ }
  · exact h.cards.update hrow rfl hp (hid row) hstored
  · exact h.items.update_of_same (fun held => by rw [hmerchant, hitem]) hid
  · intro held hheld
    obtain ⟨old, hold, hmerchants, hitems⟩ := hupdated held hheld
    rw [hmerchants, hitems]
    exact h.plain old hold
  · intro held hheld
    obtain ⟨old, hold, hmerchants, -⟩ := hupdated held hheld
    rw [hmerchants]
    exact h.sold old hold

theorem publishCard (merchantId : String) (card : CardDocument Doc) (t : Int)
    (fresh : String) (hmerchant : '\x00' ∉ merchantId.toList) (hitem : '\x00' ∉ card.merchantItemId.toList)
    (hnew : memory.cardIdByMerchantKey.has (catalogKey merchantId card.merchantItemId) = false →
      memory.merchants.has merchantId = true ∧ memory.cards.has fresh = false) :
    Tracks postgres (answering (memory.publishCard merchantId card t fresh) .ok)
      (PostgresStore.publishCard database postgres merchantId card t fresh) := by
  let new : PostgresStore.CardRow Doc := newCardRow merchantId card t fresh
  let set : PostgresStore.CardRow Doc → PostgresStore.CardRow Doc := fun held =>
    { held with card := card, asOf := t }
  let references : List (Rows.ReferenceRule (PostgresStore.CardRow Doc)) :=
    [postgres.namesAMerchant "cards_merchant_id_merchants_id_fk" (·.merchantId)]
  have hclash := fun held (hheld : held ∈ postgres.cards) => h.clash_iff new hheld
  have hfilter := filter_congr hclash
  unfold PostgresStore.publishCard MemoryStore.publishCard
  dsimp only
  rcases h.items.under (catalogKey merchantId card.merchantItemId) with
    ⟨hget, hrows⟩ | ⟨row, hrow, hkey, hget, hrows⟩
  · have hfree : memory.cardIdByMerchantKey.has (catalogKey merchantId card.merchantItemId) = false := by
      rw [Dict.has, hget]
      rfl
    obtain ⟨hthere, hfresh⟩ := hnew hfree
    have hnone : memory.cards.get fresh = none := by simpa [Dict.has] using hfresh
    have hinsert : Rows.insertOver PostgresStore.cardsMerchantItem
        [PostgresStore.cardsPkey, PostgresStore.cardsMerchantItem] references postgres.cards new set =
          .ok (postgres.cards ++ [new], some new) := by
      refine Rows.insertOver_new _ _ _ _ _ (hfilter.trans hrows) (fun rule hrule => ?_) fun rule hrule => ?_
      · rcases mem_cons.1 hrule with rfl | hrule
        · exact (h.cards.any fresh).trans hfresh
        · rw [mem_singleton.1 hrule, List.any_eq_false]
          exact filter_eq_nil_iff.1 (hfilter.trans hrows)
      · rw [mem_singleton.1 hrule]
        exact (h.merchants.any merchantId).trans hthere
    have hside : Mirrored
        { memory with
          cardIdByMerchantKey := memory.cardIdByMerchantKey.set (catalogKey merchantId card.merchantItemId) fresh
          cards := memory.cards.set fresh (storedCardOf new) }
        { postgres with cards := postgres.cards ++ [new] } :=
      { h with
        cards := h.cards.append hnone
        items := h.items.append hget
        plain := fun held hheld => by
          rcases mem_append.1 hheld with hheld | hheld
          · exact h.plain held hheld
          · rw [mem_singleton.1 hheld]
            exact ⟨hmerchant, hitem⟩
        sold := fun held hheld => by
          rcases mem_append.1 hheld with hheld | hheld
          · exact h.sold held hheld
          · rw [mem_singleton.1 hheld]
            exact hthere }
    simp only [newCardRow, new, set, references] at hinsert
    rw [hinsert, hget]
    exact .answered hside
  · have hset : Rows.insertOver PostgresStore.cardsMerchantItem
        [PostgresStore.cardsPkey, PostgresStore.cardsMerchantItem] references postgres.cards new set =
          .ok (Rows.update postgres.cards (PostgresStore.cardsMerchantItem.clash new) set, some (set row)) :=
      Rows.insertOver_held _ _ _ _ _ (hfilter.trans hrows)
    have hp : ∀ held ∈ postgres.cards,
        PostgresStore.cardsMerchantItem.clash new held = true ↔ held.id = row.id := by
      intro held hheld
      rw [hclash held hheld, decide_eq_true_iff]
      constructor
      · intro hsame
        rw [h.items.row_eq hheld hrow (hsame.trans hkey.symm)]
      · intro hsame
        rw [h.cards.row_eq hheld hrow hsame]
        exact hkey
    obtain ⟨hrowMerchant, hrowItem⟩ := h.plain row hrow
    have hview : storedCardOf (set row) = ⟨row.id, merchantId, card, t, row.paused⟩ := by
      rw [← (catalogKey_inj hrowMerchant hrowItem hkey).1]
      rfl
    have hside := h.setCardRow hrow hp set (fun _ => rfl) (fun _ => rfl) (fun _ => rfl) hview
    simp only [newCardRow, new, set, references] at hset
    rw [hset, hget]
    simp only [getD_some, bind_some, h.cards.get_of_mem hrow, map_some, Dict.set_same hget]
    show Tracks postgres (_, .ok (⟨row.id, merchantId, card, t, row.paused⟩ : StoredCard Doc))
      (.ok (_, storedCardOf (set row)))
    rw [hview]
    exact .answered hside

theorem cardById (id : String) : PostgresStore.cardById planner postgres id = memory.cards.get id :=
  h.cards.read_key planner id

theorem cardsOf (merchantId : String) :
    (memory.cardsOf merchantId).Perm (PostgresStore.cardsOf planner postgres merchantId) :=
  (h.cards.list planner (fun row other => row.asOf ≤ other.asOf) fun _ _ => rfl).symm

theorem setCardPaused (merchantId id : String) (paused : Bool) :
    (postgres.setCardPaused merchantId id paused).2 = (memory.setCardPaused merchantId id paused).2 ∧
      Mirrored (memory.setCardPaused merchantId id paused).1 (postgres.setCardPaused merchantId id paused).1 := by
  unfold PostgresStore.setCardPaused MemoryStore.setCardPaused Rows.updated
  dsimp only
  let theirs : PostgresStore.CardRow Doc → Bool := fun row => row.merchantId = merchantId
  rcases h.cards.under id with ⟨hget, hrows⟩ | ⟨row, hrow, hkey, hget, -⟩
  · have hnone := Rows.Mirrors.filter_none hrows theirs
    rw [hget, hnone, Rows.update_of_filter_nil hnone]
    exact ⟨rfl, h⟩
  · rw [hget]
    by_cases hmerchant : row.merchantId = merchantId
    · have htheirs : theirs row = true := decide_eq_true hmerchant
      rw [h.cards.filter_row (c := theirs) hrow hkey htheirs]
      simp only [storedCardOf, hmerchant, ne_eq, not_true_eq_false, if_false]
      subst hkey
      refine ⟨by simp [storedCardOf, hmerchant], h.setCardRow hrow (h.cards.filter_pos (c := theirs) hrow rfl htheirs)
        (fun row => { row with paused := paused }) (fun _ => rfl) (fun _ => rfl) (fun _ => rfl) ?_⟩
      simp [storedCardOf, hmerchant]
    · have hnone := h.cards.filter_neg (c := theirs) hrow hkey (decide_eq_false hmerchant)
      rw [hnone, Rows.update_of_filter_nil hnone]
      simp only [storedCardOf, hmerchant, ne_eq, not_false_eq_true, if_true]
      exact ⟨rfl, h⟩

theorem selling (merchantId : String) : Tracks postgres (memory, memory.sellingOf merchantId)
      ((PostgresStore.selling planner postgres merchantId).map fun word => (postgres, word)) := by
  unfold PostgresStore.selling MemoryStore.sellingOf
  rcases h.merchants.under merchantId with ⟨hget, hrows⟩ | ⟨row, -, -, hget, hrows⟩
  · rw [hget, Rows.select_head (o := none) hrows]
    exact .refused h
  · rw [hget, Rows.select_head (o := some row) hrows]
    exact .answered h

theorem setSelling (merchantId : String) (selling : MerchantSelling) :
    Tracks postgres (memory.setSelling merchantId selling)
      ((postgres.setSelling merchantId selling).map fun after => (after, ())) := by
  unfold PostgresStore.setSelling MemoryStore.setSelling Rows.updated
  rcases h.merchants.under merchantId with ⟨hget, hrows⟩ | ⟨row, hrow, hkey, hget, hrows⟩
  · rw [hget, hrows]
    exact .refused h
  · rw [hget, hrows]
    exact .answered (h.setMerchantRow (h.merchants.update hrow hkey (fun _ _ => decide_eq_true_iff) hkey rfl))

theorem catalogEntries : ∃ entries, memory.catalogEntries = .ok entries ∧
      entries.Perm (PostgresStore.catalogEntries planner postgres) := by
  let entry : StoredCard Doc → MerchantRow → CatalogEntry Doc := fun card row =>
    { card := card
      merchant := row.selling
      payoutWallet := row.payoutWallet
      serviceName := row.serviceName }
  -- A card beside its merchant, where he is there.
  let beside : StoredCard Doc → Option (CatalogEntry Doc) := fun card =>
    (memory.merchants.get card.merchantId).map (entry card)
  have hsold : ∀ card ∈ memory.cards.values, ∃ row, memory.merchants.get card.merchantId = some row := by
    intro card hcard
    obtain ⟨row, hrow, rfl⟩ := List.mem_map.1 (h.cards.values.mem_iff.2 hcard)
    exact isSome_iff_exists.1 (h.sold row hrow)
  have hmemory : ∀ cards : List (StoredCard Doc),
      (∀ card ∈ cards, ∃ row, memory.merchants.get card.merchantId = some row) →
        cards.mapM memory.catalogEntry = .ok (cards.filterMap beside) := by
    intro cards hcards
    induction cards with
    | nil => rfl
    | cons card rest ih =>
      obtain ⟨row, hrow⟩ := hcards card (mem_cons_self ..)
      have hentry : memory.catalogEntry card = .ok (entry card row) := by
        simp [MemoryStore.catalogEntry, MemoryStore.sellingOf, hrow, Except.map, entry]
      have hbeside : beside card = some (entry card row) := by simp [beside, hrow]
      rw [mapM_cons, hentry, filterMap_cons_some hbeside,
        ih fun other hother => hcards other (mem_cons_of_mem _ hother)]
      rfl
  refine ⟨_, hmemory _ hsold, ?_⟩
  have hjoin := h.merchants.join postgres.cards (·.merchantId)
    (fun row merchant => row.merchantId = merchant.id) (fun _ _ => decide_eq_decide.2 eq_comm)
    fun row merchant => entry (storedCardOf row) merchant
  have hcards : (postgres.cards.filterMap fun row => beside (storedCardOf row)).Perm
      (memory.cards.values.filterMap beside) := by
    have := h.cards.values.filterMap beside
    rwa [filterMap_map] at this
  refine (hcards.symm.trans (List.Perm.of_eq hjoin.symm)).trans ?_
  exact (((mergeSort_perm _ _).trans (planner.perm _)).map _).symm

/-! ## Orders -/

theorem addOrder (record : StoredOrder Doc)
    (hthere : memory.orders.has record.order.id = false → memory.merchants.has record.merchantId = true) :
    Tracks postgres (memory.addOrder record)
      ((PostgresStore.addOrder database postgres record).map fun after => (after, ())) := by
  unfold PostgresStore.addOrder MemoryStore.addOrder
  dsimp only
  have hid := h.orders.any record.order.id
  cases hhas : memory.orders.has record.order.id with
  | true =>
    have hclash : ∃ rule ∈ [PostgresStore.ordersPkey],
        postgres.orders.any (rule.clash (PostgresStore.rowFor record)) = true :=
      ⟨_, .head _, hid.trans hhas⟩
    obtain ⟨refused, hinsert⟩ := Rows.insert_error _
      [postgres.namesAMerchant "orders_merchant_id_merchants_id_fk" (·.merchantId)] (.inl hclash)
    rw [hinsert, if_pos rfl]
    cases refused with
    | unique rule =>
      dsimp only
      split <;> exact .refused h
    | reference rule => exact .refused h
    | parameter => exact .refused h
  | false =>
    have hnone : memory.orders.get record.order.id = none := by simpa [Dict.has] using hhas
    have hinsert : Rows.insert [PostgresStore.ordersPkey]
        [postgres.namesAMerchant "orders_merchant_id_merchants_id_fk" (·.merchantId)] postgres.orders
        (PostgresStore.rowFor record) = .ok (postgres.orders ++ [PostgresStore.rowFor record]) := by
      refine Rows.insert_ok (fun rule hrule => ?_) fun rule hrule => ?_
      · rw [mem_singleton.1 hrule]
        exact hid.trans hhas
      · rw [mem_singleton.1 hrule]
        exact (h.merchants.any record.merchantId).trans (hthere hhas)
    rw [hinsert]
    refine .answered { h with orders := h.orders.append hnone, owners := fun row hrow => ?_ }
    rcases mem_append.1 hrow with hrow | hrow
    · exact h.owners row hrow
    · rw [mem_singleton.1 hrow]
      rfl

theorem orderById (id : String) : PostgresStore.orderById planner postgres id = memory.orders.get id :=
  h.orders.read_key planner id

theorem merchantOrder (merchantId id : String) :
    PostgresStore.merchantOrder planner postgres merchantId id = memory.merchantOrder merchantId id := by
  unfold PostgresStore.merchantOrder MemoryStore.merchantOrder
  rw [h.orders.read planner (q := fun record => record.merchantId = merchantId) fun row hrow => by
    rw [h.owners row hrow]]
  cases memory.orders.get id with
  | none => rfl
  | some found => by_cases hmine : found.merchantId = merchantId <;> simp [hmine]

theorem ordersWhere {p : PostgresStore.OrderRow Doc → Bool}
    {q : StoredOrder Doc → Bool} (hp : ∀ row ∈ postgres.orders, p row = q row.record) :
    (memory.orders.values.filter q).Perm (PostgresStore.ordersWhere planner postgres p) :=
  (h.orders.list planner (fun row other => row.createdAt ≤ other.createdAt) hp).symm

theorem ordersOf (merchantId : String) («open» : Bool) : (memory.ordersOf merchantId «open»).Perm
      (PostgresStore.ordersOf planner postgres merchantId «open») := by
  have hall := h.ordersWhere planner (p := fun row => row.merchantId = merchantId && (!«open» || row.open))
    (q := fun record => record.merchantId = merchantId && (!«open» || isOpen record.order.state))
    fun row hrow => by rw [h.owners row hrow, row.open_eq]
  refine List.Perm.trans (List.Perm.of_eq ?_) hall
  unfold MemoryStore.ordersOf
  cases «open» with
  | false => simp
  | true =>
    rw [if_pos rfl, ← Rows.filter_and]
    simp

theorem openOrders : memory.openOrders.Perm (PostgresStore.openOrders planner postgres) :=
  h.ordersWhere planner fun row _ => row.open_eq

theorem deliveredWithoutReceipt
    (hkept : ∀ id record, memory.orders.get id = some record → record.order.state = .delivered →
      memory.receipts.has record.order.id = memory.receipts.has id) :
    memory.deliveredWithoutReceipt.Perm (PostgresStore.deliveredWithoutReceipt planner postgres) := by
  refine h.ordersWhere planner fun row hrow => ?_
  rw [row.state_eq, h.receipts.any row.id]
  by_cases hstate : row.record.order.state = .delivered
  · rw [hkept row.id row.record (h.orders.get_of_mem hrow) hstate]
  · simp [hstate]

theorem runAlone (name : String) (work : Except String α) :
    Tracks postgres (memory.runAlone name work) (PostgresStore.runAlone database postgres name work) := by
  obtain ⟨hrunning, hlocks⟩ := h.idle
  have hmemory : ({ memory with running := (name :: memory.running).erase name } : MemoryStore Doc) =
      memory := by
    rw [erase_cons_head]
  have hpostgres (lock : Int) :
      ({ postgres with locks := (lock :: postgres.locks).erase lock } : PostgresStore Doc) = postgres := by
    rw [erase_cons_head]
  unfold PostgresStore.runAlone MemoryStore.runAlone
  rw [hrunning, hlocks]
  simp only [contains_nil, Bool.false_eq_true, if_false]
  rw [hrunning] at hmemory
  rw [hlocks] at hpostgres
  rw [hmemory, hpostgres]
  cases work with
  | error thrown => exact .refused h
  | ok result => exact .answered h

/-! ## Payments and receipts -/

theorem claimPayment (fingerprint orderId : String) (now : Int) :
    Tracks postgres (answering (memory.claimPayment fingerprint orderId now) .ok)
      (PostgresStore.claimPayment database postgres fingerprint orderId now) := by
  let new : PostgresStore.ClaimRow := ⟨fingerprint, orderId, now⟩
  unfold PostgresStore.claimPayment MemoryStore.claimPayment
  rcases h.claims.under fingerprint with ⟨hget, hrows⟩ | ⟨row, hrow, hkey, hget, hrows⟩
  · have hinsert : Rows.insertOver PostgresStore.paymentClaimsPkey [PostgresStore.paymentClaimsPkey] []
        postgres.paymentClaims new (fun held => { held with orderId := held.orderId }) =
          .ok (postgres.paymentClaims ++ [new], some new) := by
      refine Rows.insertOver_new _ _ _ _ _ hrows (fun rule hrule => ?_) fun _ hrule => nomatch hrule
      rw [mem_singleton.1 hrule, List.any_eq_false]
      exact filter_eq_nil_iff.1 hrows
    rw [hinsert, hget]
    have hside : Mirrored
        { memory with paymentClaims := memory.paymentClaims.set fingerprint ⟨orderId, now⟩ }
        { postgres with paymentClaims := postgres.paymentClaims ++ [new] } :=
      { h with claims := h.claims.append hget }
    have hanswer : (if new.orderId = orderId then PaymentClaim.claimed else .heldBy new.orderId) =
        .claimed := if_pos rfl
    simp only [Database.reports, Except.mapError, bind, Except.bind, hanswer]
    exact .answered hside
  · have hset : Rows.insertOver PostgresStore.paymentClaimsPkey [PostgresStore.paymentClaimsPkey] []
        postgres.paymentClaims new (fun held => { held with orderId := held.orderId }) =
          .ok (Rows.update postgres.paymentClaims (PostgresStore.paymentClaimsPkey.clash new)
            (fun held => { held with orderId := held.orderId }), some row) :=
      Rows.insertOver_held _ _ _ _ _ hrows
    rw [hset, hget]
    exact .answered { h with claims := h.claims.update_of_same (fun _ => rfl) fun _ => rfl }

theorem releaseClaim (fingerprint orderId : String) :
    Mirrored (memory.releaseClaim fingerprint orderId) (postgres.releaseClaim fingerprint orderId) := by
  unfold PostgresStore.releaseClaim MemoryStore.releaseClaim
  let holds : PostgresStore.ClaimRow → Bool := fun row => row.orderId = orderId
  rcases h.claims.under fingerprint with ⟨hget, hrows⟩ | ⟨row, hrow, hkey, hget, -⟩
  · rw [hget, Rows.delete_of_filter_nil (Rows.Mirrors.filter_none hrows holds)]
    exact h
  · rw [hget]
    by_cases hholds : row.orderId = orderId
    · simp only [map_some, heldClaimOf, hholds, if_true]
      exact { h with claims := h.claims.delete (h.claims.filter_pos (c := holds) hrow hkey (decide_eq_true hholds)) }
    · rw [Rows.delete_of_filter_nil (h.claims.filter_neg (c := holds) hrow hkey (decide_eq_false hholds))]
      simp only [map_some, heldClaimOf, Option.some.injEq, hholds, if_false]
      exact h

theorem forgetClaimsBefore (instant : Int) :
    (postgres.forgetClaimsBefore instant).2 = (memory.forgetClaimsBefore instant).2 ∧
      Mirrored (memory.forgetClaimsBefore instant).1 (postgres.forgetClaimsBefore instant).1 := by
  have hp : ∀ row ∈ postgres.paymentClaims, decide (row.claimedAt < instant) =
      decide ((heldClaimOf row).at < instant) := fun _ _ => rfl
  refine ⟨?_, { h with claims := h.claims.dropping hp }⟩
  have hlength := (h.claims.values_filter (q := fun claim => claim.at < instant) hp).length_eq
  rwa [length_map] at hlength

theorem putReceipt (merchantId : String) (receipt : Receipt)
    (hlands : memory.receipts.has receipt.orderId = true ∨ memory.merchants.has merchantId = true) :
    ∃ after, PostgresStore.putReceiptWithin database postgres moment merchantId receipt = .ok after ∧
      Mirrored (memory.putReceipt merchantId receipt) after ∧ after.orders = postgres.orders := by
  let new : PostgresStore.ReceiptRow := ⟨receipt.orderId, merchantId, receipt, moment.now⟩
  let set : PostgresStore.ReceiptRow → PostgresStore.ReceiptRow := fun held =>
    { held with receipt := receipt, updatedAt := moment.databaseNow }
  let references : List (Rows.ReferenceRule PostgresStore.ReceiptRow) :=
    [postgres.namesAMerchant "receipts_merchant_id_merchants_id_fk" (·.merchantId)]
  unfold PostgresStore.putReceiptWithin MemoryStore.putReceipt
  rcases h.receipts.under receipt.orderId with ⟨hget, hrows⟩ | ⟨row, hrow, hkey, hget, hrows⟩
  · have hthere : memory.merchants.has merchantId = true := by
      rcases hlands with hheld | hthere
      · rw [Dict.has, hget] at hheld
        cases hheld
      · exact hthere
    have hinsert : Rows.insertOver PostgresStore.receiptsPkey [PostgresStore.receiptsPkey] references
        postgres.receipts new set = .ok (postgres.receipts ++ [new], some new) := by
      refine Rows.insertOver_new _ _ _ _ _ hrows (fun rule hrule => ?_) fun rule hrule => ?_
      · rw [mem_singleton.1 hrule, List.any_eq_false]
        exact filter_eq_nil_iff.1 hrows
      · rw [mem_singleton.1 hrule]
        exact (h.merchants.any merchantId).trans hthere
    rw [hinsert, hget]
    exact ⟨_, rfl, { h with receipts := h.receipts.append hget }, rfl⟩
  · have hset : Rows.insertOver PostgresStore.receiptsPkey [PostgresStore.receiptsPkey] references
        postgres.receipts new set =
          .ok (Rows.update postgres.receipts (PostgresStore.receiptsPkey.clash new) set, some (set row)) :=
      Rows.insertOver_held _ _ _ _ _ hrows
    rw [hset, hget]
    exact ⟨_, rfl, { h with
      receipts := h.receipts.update hrow hkey (fun _ _ => decide_eq_true_iff) hkey rfl }, rfl⟩

theorem receiptForOrder (orderId : String) :
    PostgresStore.receiptForOrder planner postgres orderId = memory.receiptForOrder orderId := by
  unfold PostgresStore.receiptForOrder MemoryStore.receiptForOrder
  rw [← h.receipts.read_key planner orderId, Option.map_map]
  rfl

theorem receiptsOf (merchantId : String) :
    (memory.receiptsOf merchantId).Perm (PostgresStore.receiptsOf planner postgres merchantId) := by
  have hlist := (h.receipts.list planner (fun row other => row.updatedAt ≤ other.updatedAt)
    (q := fun held => held.merchantId = merchantId) fun _ _ => rfl).map (·.receipt)
  rw [List.map_map] at hlist
  exact hlist.symm

end

end Mirrored

end Coinslot.Stores
