import Coinslot.Stores.Sales
import Mathlib.Data.List.Sort

/-!
# Decisions about an order, side by side

A decision about an order comes back with the order to write, the receipts and envelopes that go with it, or
is thrown. Memory sorts what goes with it: an envelope, which may be refused, is taken before a receipt, which
may not, so that a refusal finds nothing written (`takeWithTheOrder_refused`). The database takes everything
as it is listed, and takes all of it back on a refusal. What either comes to is said by the receipts the list
leaves (`receiptsAfter`) and the envelopes in it, in their own order (`filter_mergeSort`).
-/

namespace Coinslot.Stores

open List

theorem filter_mergeSort {β : Type} {le : β → β → Bool}
    (htrans : ∀ a b c, le a b = true → le b c = true → le a c = true)
    (htotal : ∀ a b, (le a b || le b a) = true) {p : β → Bool}
    (hp : ∀ a b, p a = true → p b = true → le a b = true) (l : List β) : (l.mergeSort le).filter p = l.filter p := by
  have hpairwise : (l.filter p).Pairwise fun a b => le a b = true :=
    pairwise_of_forall_mem_list fun a ha b hb => hp a b (mem_filter.1 ha).2 (mem_filter.1 hb).2
  have hsub := (sublist_mergeSort htrans htotal hpairwise filter_sublist).filter p
  rw [filter_filter] at hsub
  simp only [Bool.and_self] at hsub
  exact (hsub.eq_of_length ((mergeSort_perm l le).filter p).length_eq.symm).symm

variable {Doc α : Type}

/-- The envelope among the writes that go with an order. -/
def posted : WithTheOrder Doc → Option (Posted Doc)
  | .envelope merchantId envelope afterMs => some ⟨merchantId, envelope, afterMs⟩
  | .receipt .. => none

/-- The receipts after one more is written. -/
def receiptPut (receipts : Dict String HeldReceipt) (merchantId : String) (receipt : Receipt) :
    Dict String HeldReceipt :=
  receipts.set receipt.orderId
    ⟨((receipts.get receipt.orderId).map (·.merchantId)).getD merchantId, receipt⟩

/-- The receipts after the ones of a list are written. -/
def receiptsAfter (receipts : Dict String HeldReceipt) : List (WithTheOrder Doc) → Dict String HeldReceipt
  | [] => receipts
  | .receipt merchantId receipt :: rest => receiptsAfter (receiptPut receipts merchantId receipt) rest
  | .envelope .. :: rest => receiptsAfter receipts rest

theorem receiptsAfter_filter (receipts : Dict String HeldReceipt) (l : List (WithTheOrder Doc)) :
    receiptsAfter receipts (l.filter fun write => rankOf write = 1) = receiptsAfter receipts l := by
  induction l generalizing receipts with
  | nil => rfl
  | cons write rest ih =>
    cases write with
    | envelope merchantId envelope afterMs => exact ih receipts
    | receipt merchantId receipt => exact ih _

theorem posted_filter (l : List (WithTheOrder Doc)) :
    (l.filter fun write => rankOf write = 0).filterMap posted = l.filterMap posted := by
  induction l with
  | nil => rfl
  | cons write rest ih =>
    cases write with
    | envelope merchantId envelope afterMs =>
      rw [filter_cons_of_pos (by simp [rankOf]), filterMap_cons, filterMap_cons, ih]
    | receipt merchantId receipt => exact ih

/-! ## What memory takes -/

def sortedWrites (l : List (WithTheOrder Doc)) : List (WithTheOrder Doc) :=
  l.mergeSort fun one other => rankOf one ≤ rankOf other

theorem sortedWrites_filter (l : List (WithTheOrder Doc)) (rank : Nat) :
    ((sortedWrites l).filter fun write => rankOf write = rank) = l.filter fun write => rankOf write = rank := by
  refine filter_mergeSort (fun a b c hab hbc => ?_) (fun a b => ?_) (fun a b ha hb => ?_) l
  · simp only [decide_eq_true_eq] at *
    omega
  · simp only [Bool.or_eq_true, decide_eq_true_eq]
    omega
  · simp only [decide_eq_true_eq] at *
    omega

theorem sortedWrites_pairwise (l : List (WithTheOrder Doc)) :
    (sortedWrites l).Pairwise fun one other => rankOf one ≤ rankOf other := by
  have hsorted : (sortedWrites l).Pairwise fun one other => decide (rankOf one ≤ rankOf other) = true := by
    refine pairwise_mergeSort (fun a b c hab hbc => ?_) (fun a b => ?_) l
    · simp only [decide_eq_true_eq] at *
      omega
    · simp only [Bool.or_eq_true, decide_eq_true_eq]
      omega
  exact hsorted.imp fun h => of_decide_eq_true h

theorem sortedWrites_same (receipts : Dict String HeldReceipt) (l : List (WithTheOrder Doc)) :
    receiptsAfter receipts (sortedWrites l) = receiptsAfter receipts l ∧
      (sortedWrites l).filterMap posted = l.filterMap posted := by
  constructor
  · rw [← receiptsAfter_filter, sortedWrites_filter, receiptsAfter_filter]
  · rw [← posted_filter, sortedWrites_filter, posted_filter]

namespace MemoryStore

variable (refuses : Posted Doc → Option String)

variable {l : List (WithTheOrder Doc)}

theorem takeWithTheOrder_taken (store : MemoryStore Doc)
    (hnone : ∀ envelope ∈ l.filterMap posted, refuses envelope = none) : store.takeWithTheOrder refuses l =
      ({ store with receipts := receiptsAfter store.receipts l }, .ok (l.filterMap posted)) := by
  induction l generalizing store with
  | nil => rfl
  | cons write rest ih =>
    cases write with
    | envelope merchantId envelope afterMs =>
      have hfirst := hnone ⟨merchantId, envelope, afterMs⟩ (by simp [posted])
      have hrest := ih store fun other hother => hnone other (by
        exact mem_cons_of_mem _ hother)
      rw [takeWithTheOrder, hfirst]
      rw [hrest]
      rfl
    | receipt merchantId receipt =>
      rw [takeWithTheOrder, ih _ fun other hother => hnone other hother]
      rfl

theorem takeWithTheOrder_refused (store : MemoryStore Doc)
    (hsorted : l.Pairwise fun one other => rankOf one ≤ rankOf other)
    (hsome : ∃ envelope ∈ l.filterMap posted, refuses envelope ≠ none) :
    ∃ thrown, store.takeWithTheOrder refuses l = (store, .error thrown) := by
  induction l with
  | nil =>
    obtain ⟨envelope, hmem, -⟩ := hsome
    cases hmem
  | cons write rest ih =>
    obtain ⟨hfirst, hrest⟩ := pairwise_cons.1 hsorted
    cases write with
    | envelope merchantId envelope afterMs =>
      rw [takeWithTheOrder]
      cases hrefuses : refuses ⟨merchantId, envelope, afterMs⟩ with
      | some thrown => exact ⟨thrown, rfl⟩
      | none =>
        have hlater : ∃ envelope ∈ rest.filterMap posted, refuses envelope ≠ none := by
          obtain ⟨other, hmem, hother⟩ := hsome
          rcases mem_cons.1 hmem with rfl | hmem
          · exact absurd hrefuses hother
          · exact ⟨other, hmem, hother⟩
        obtain ⟨thrown, hthrown⟩ := ih hrest hlater
        rw [hthrown]
        exact ⟨thrown, rfl⟩
    | receipt merchantId receipt =>
      -- What comes after a receipt is a receipt.
      obtain ⟨other, hmem, -⟩ := hsome
      obtain ⟨later, hlater, hposted⟩ := mem_filterMap.1 hmem
      rcases mem_cons.1 hlater with rfl | hlater
      · cases hposted
      · have hrank := hfirst later hlater
        cases later with
        | envelope merchantId envelope afterMs => exact absurd hrank (by simp [rankOf])
        | receipt merchantId receipt => cases hposted

end MemoryStore

/-! ## What the database writes -/

/-- Whether the receipts of a list can be written down by the database, one after another: the merchant a
receipt names is there, or the order has one by then, whose merchant is kept. -/
def ReceiptsLand (database : Database Doc) (moment : Moment Doc) (merchants : Dict String MerchantRow)
    (receipts : Dict String HeldReceipt) : List (WithTheOrder Doc) → Prop
  | [] => True
  | .receipt merchantId receipt :: rest =>
    (PostgresStore.receiptParams moment merchantId receipt).all database.takes = true ∧
      (receipts.has receipt.orderId = true ∨ merchants.has merchantId = true) ∧
      ReceiptsLand database moment merchants (receiptPut receipts merchantId receipt) rest
  | .envelope .. :: rest => ReceiptsLand database moment merchants receipts rest

namespace Mirrored

variable {memory : MemoryStore Doc} {postgres : PostgresStore Doc} (database : Database Doc)
  (moment : Moment Doc)

section

variable (h : Mirrored memory postgres)
include h

theorem putReceipt_sent {merchantId : String} {receipt : Receipt}
    (htakes : (PostgresStore.receiptParams moment merchantId receipt).all database.takes = true)
    (hlands : memory.receipts.has receipt.orderId = true ∨ memory.merchants.has merchantId = true) :
    ∃ after, database.sends (PostgresStore.receiptParams moment merchantId receipt)
        (PostgresStore.putReceiptWithin database postgres moment merchantId receipt) = .ok after ∧
      Mirrored { memory with receipts := receiptPut memory.receipts merchantId receipt } after ∧
      after.orders = postgres.orders := by
  rw [Database.sends, if_pos htakes]
  exact h.putReceipt database moment merchantId receipt hlands

variable {l : List (WithTheOrder Doc)}

theorem writeAlongside_written (hlands : ReceiptsLand database moment memory.merchants memory.receipts l)
    (hnone : ∀ envelope ∈ l.filterMap posted, moment.refuses envelope = none) :
    ∃ after, PostgresStore.writeAlongside database moment postgres l = .ok after ∧ Mirrored { memory with
          receipts := receiptsAfter memory.receipts l
          streams := memory.streams ++ l.filterMap posted } after ∧
      after.orders = postgres.orders := by
  induction l generalizing memory postgres with
  | nil =>
    refine ⟨postgres, rfl, ?_, rfl⟩
    rw [filterMap_nil, append_nil]
    exact h
  | cons write rest ih =>
    cases write with
    | envelope merchantId envelope afterMs =>
      have hfirst := hnone ⟨merchantId, envelope, afterMs⟩ (by simp [posted])
      have hrest : ∀ other ∈ rest.filterMap posted, moment.refuses other = none := fun other hother =>
        hnone other (by
          exact mem_cons_of_mem _ hother)
      let one : Posted Doc := ⟨merchantId, envelope, afterMs⟩
      have hside : Mirrored { memory with streams := memory.streams ++ [one] }
          { postgres with streams := postgres.streams ++ [one] } :=
        { h with streams := congrArg (· ++ [one]) h.streams }
      obtain ⟨after, hafter, hmirrored, horders⟩ := ih hside hlands hrest
      refine ⟨after, ?_, ?_, horders⟩
      · rw [PostgresStore.writeAlongside, hfirst]
        exact hafter
      · rw [append_assoc] at hmirrored
        exact hmirrored
    | receipt merchantId receipt =>
      obtain ⟨htakes, hland, hrest⟩ := hlands
      obtain ⟨written, hwritten, hside, horders⟩ := h.putReceipt_sent database moment htakes hland
      obtain ⟨after, hafter, hmirrored, horders'⟩ := ih hside hrest fun other hother => hnone other hother
      refine ⟨after, ?_, hmirrored, horders'.trans horders⟩
      rw [PostgresStore.writeAlongside, hwritten]
      exact hafter

theorem writeAlongside_refused (hlands : ReceiptsLand database moment memory.merchants memory.receipts l)
    (hsome : ∃ envelope ∈ l.filterMap posted, moment.refuses envelope ≠ none) :
    ∃ thrown, PostgresStore.writeAlongside database moment postgres l = .error thrown := by
  induction l generalizing memory postgres with
  | nil =>
    obtain ⟨envelope, hmem, -⟩ := hsome
    cases hmem
  | cons write rest ih =>
    cases write with
    | envelope merchantId envelope afterMs =>
      rw [PostgresStore.writeAlongside]
      cases hrefuses : moment.refuses ⟨merchantId, envelope, afterMs⟩ with
      | some thrown => exact ⟨thrown, rfl⟩
      | none =>
        obtain ⟨other, hmem, hother⟩ := hsome
        rcases mem_cons.1 hmem with rfl | hmem
        · exact absurd hrefuses hother
        · let one : Posted Doc := ⟨merchantId, envelope, afterMs⟩
          have hside : Mirrored { memory with streams := memory.streams ++ [one] }
              { postgres with streams := postgres.streams ++ [one] } :=
            { h with streams := congrArg (· ++ [one]) h.streams }
          exact ih hside hlands ⟨other, hmem, hother⟩
    | receipt merchantId receipt =>
      obtain ⟨htakes, hland, hrest⟩ := hlands
      obtain ⟨written, hwritten, hside, -⟩ := h.putReceipt_sent database moment htakes hland
      rw [PostgresStore.writeAlongside, hwritten]
      exact ih hside hrest hsome

theorem saveOrder {id : String} {row : PostgresStore.OrderRow Doc}
    (hrow : row ∈ postgres.orders) (hkey : row.id = id) (save : Option (StoredOrder Doc))
    (htakes : ∀ record, save = some record → database.takes (.text id) = true ∧
      database.takes (.order { record with merchantId := row.merchantId }) = true) :
    ∃ after, PostgresStore.saveOrder database postgres id row.merchantId save = .ok after ∧
      Mirrored (memory.saveOrder id row.merchantId save) after := by
  cases save with
  | none => exact ⟨postgres, rfl, h⟩
  | some record =>
    obtain ⟨htext, horder⟩ := htakes record rfl
    unfold PostgresStore.saveOrder MemoryStore.saveOrder
    dsimp only
    rw [Database.sends, if_pos (by simp [htext, horder, PostgresStore.rowFor])]
    refine ⟨_, rfl, { h with orders := ?_, owners := fun held hheld => ?_ }⟩
    · exact h.orders.update hrow hkey (fun _ _ => decide_eq_true_iff) hkey rfl
    · obtain ⟨old, hold, rfl⟩ := mem_map.1 hheld
      split
      · next hsame => rw [h.orders.row_eq hold hrow ((of_decide_eq_true hsame).trans hkey.symm)]; rfl
      · exact h.owners old hold

/-- A decision about an order comes to the same in both. -/
theorem withOrder (id : String)
    (change : StoredOrder Doc → Except String (OrderChange Doc α)) (scope : Option String)
    (htext : database.takes (.text id) = true) (hdecided : ∀ found decided, memory.orders.get id = some found →
      (scope.any fun merchantId => found.merchantId ≠ merchantId) = false → change found = .ok decided →
        ReceiptsLand database moment memory.merchants memory.receipts decided.alongside ∧
          ∀ record, decided.save = some record →
            database.takes (.order { record with merchantId := found.merchantId }) = true) :
    Tracks postgres (memory.withOrder moment.refuses id change scope)
      (PostgresStore.withOrder database moment.planner postgres moment id change scope) := by
  unfold PostgresStore.withOrder MemoryStore.withOrder
  let theirs : PostgresStore.OrderRow Doc → Bool := fun row =>
    scope.all fun merchantId => row.merchantId = merchantId
  rcases h.orders.under id with ⟨hget, hrows⟩ | ⟨row, hrow, hkey, hget, -⟩
  · rw [hget, Rows.select_head (o := none) (Rows.Mirrors.filter_none hrows theirs)]
    exact .answered h
  · have howner := h.owners row hrow
    have hscope : theirs row = !scope.any fun merchantId => row.record.merchantId ≠ merchantId := by
      cases scope <;> simp [theirs, howner]
    rw [hget]
    cases hany : scope.any fun merchantId => row.record.merchantId ≠ merchantId with
    | true =>
      rw [hany] at hscope
      rw [Rows.select_head (o := none) (h.orders.filter_neg (c := theirs) hrow hkey hscope)]
      simp only [hany, if_true]
      exact .answered h
    | false =>
      rw [hany] at hscope
      rw [Rows.select_head (o := some row) (h.orders.filter_row (c := theirs) hrow hkey hscope)]
      simp only [hany, Bool.false_eq_true, if_false]
      cases hchange : change row.record with
      | error thrown => exact .refused h
      | ok decided =>
        obtain ⟨hlands, htakes⟩ := hdecided row.record decided hget hany hchange
        obtain ⟨hreceipts, hposted⟩ := sortedWrites_same memory.receipts decided.alongside
        have hsort : (decided.alongside.mergeSort fun one other => rankOf one ≤ rankOf other) =
            sortedWrites decided.alongside := rfl
        dsimp only
        rw [hsort]
        by_cases hsome : ∃ envelope ∈ decided.alongside.filterMap posted, moment.refuses envelope ≠ none
        · obtain ⟨thrown, hthrown⟩ := memory.takeWithTheOrder_refused moment.refuses
            (sortedWrites_pairwise decided.alongside) (hposted ▸ hsome)
          obtain ⟨thrown', hthrown'⟩ := h.writeAlongside_refused database moment hlands hsome
          rw [hthrown]
          simp only [bind, Except.bind, hthrown']
          exact .refused h
        · have hnone : ∀ envelope ∈ decided.alongside.filterMap posted, moment.refuses envelope = none :=
            fun envelope hmem => not_not.1 fun hne => hsome ⟨envelope, hmem, hne⟩
          obtain ⟨written, hwritten, hside, horders⟩ := h.writeAlongside_written database moment hlands hnone
          obtain ⟨saved, hsaved, hmirrored⟩ := hside.saveOrder database (horders ▸ hrow) hkey decided.save
            fun record hrecord => ⟨htext, howner ▸ htakes record hrecord⟩
          rw [memory.takeWithTheOrder_taken moment.refuses (hposted ▸ hnone), hreceipts, hposted]
          simp only [bind, Except.bind, hwritten, hsaved]
          rw [howner] at hmirrored
          refine .answered ?_
          cases hsave : decided.save <;> rw [hsave] at hmirrored <;> exact hmirrored

end

end Mirrored

end Coinslot.Stores
