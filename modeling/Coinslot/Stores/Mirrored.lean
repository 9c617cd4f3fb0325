import Coinslot.Stores.Memory
import Coinslot.Stores.Postgres

/-!
# The two stores, side by side

The tables of one store hold what the maps of the other hold (`Mirrored`): every table mirrors its map, the
digests of the keys and the identifiers the merchants give their products find the same rows in both, and a
card or an order that is there names a merchant that is there and carries him in its document too.

Every operation on the two is compared here, one lemma an operation: what it answers in one it answers in the
other, and what it leaves is side by side again.
-/

namespace Coinslot.Stores

open List Dict

open PostgresStore (storedKeyOf storedCardOf)

/-- A row of the table of merchants, as the map holds it. -/
def merchantRowOf (row : PostgresStore.MerchantRow) : MerchantRow :=
  { id := row.id
    name := row.name
    createdAt := row.createdAt
    selling := row.selling
    serviceName := row.serviceName
    payoutWallet := row.payoutWallet }

/-- A receipt's row, as the map holds it. -/
def heldReceiptOf (row : PostgresStore.ReceiptRow) : HeldReceipt := ⟨row.merchantId, row.receipt⟩

/-- A claim's row, as the map holds it. -/
def heldClaimOf (row : PostgresStore.ClaimRow) : HeldClaim := ⟨row.orderId, row.claimedAt⟩

/-- The tables hold what the maps hold. -/
structure Mirrored {Doc : Type} (memory : MemoryStore Doc) (postgres : PostgresStore Doc) : Prop where
  merchants : Rows.Mirrors postgres.merchants (·.id) merchantRowOf memory.merchants
  keys : Rows.Mirrors postgres.merchantKeys (·.id) storedKeyOf memory.keys
  digests : Rows.Mirrors postgres.merchantKeys (·.digest) (·.id) memory.keysByDigest
  cards : Rows.Mirrors postgres.cards (·.id) storedCardOf memory.cards
  items : Rows.Mirrors postgres.cards (fun row => catalogKey row.merchantId row.merchantItemId) (·.id)
    memory.cardIdByMerchantKey
  /-- No identifier holds the character that sets the two halves of a catalog key apart. -/
  plain : ∀ row ∈ postgres.cards,
    '\x00' ∉ row.merchantId.toList ∧ '\x00' ∉ row.merchantItemId.toList
  /-- The merchant of every card is there. -/
  sold : ∀ row ∈ postgres.cards, memory.merchants.has row.merchantId = true
  orders : Rows.Mirrors postgres.orders (·.id) (·.record) memory.orders
  /-- An order's column and its document name one merchant. -/
  owners : ∀ row ∈ postgres.orders, row.merchantId = row.record.merchantId
  receipts : Rows.Mirrors postgres.receipts (·.orderId) heldReceiptOf memory.receipts
  claims : Rows.Mirrors postgres.paymentClaims (·.fingerprint) heldClaimOf memory.paymentClaims
  /-- Between two calls nothing is run alone. -/
  idle : memory.running = [] ∧ postgres.locks = []
  streams : postgres.streams = memory.streams

theorem mirrored_empty {Doc : Type} : Mirrored (MemoryStore.empty : MemoryStore Doc) .empty :=
  { merchants := .nil
    keys := .nil
    digests := .nil
    cards := .nil
    items := .nil
    plain := fun _ h => nomatch h
    sold := fun _ h => nomatch h
    orders := .nil
    owners := fun _ h => nomatch h
    receipts := .nil
    claims := .nil
    idle := ⟨rfl, rfl⟩
    streams := rfl }

/-- An operation came to the same in both stores: it answered the same and left them side by side, or both
refused it and they are side by side as they were. -/
inductive Tracks {Doc β : Type} (before : PostgresStore Doc) :
    MemoryStore Doc × Except String β → Except String (PostgresStore Doc × β) → Prop
  | answered {memory : MemoryStore Doc} {after : PostgresStore Doc} {answer : β} :
      Mirrored memory after → Tracks before (memory, .ok answer) (.ok (after, answer))
  | refused {memory : MemoryStore Doc} {thrown thrown' : String} :
      Mirrored memory before → Tracks before (memory, .error thrown) (.error thrown')

namespace Mirrored

variable {Doc α : Type} {memory : MemoryStore Doc} {postgres : PostgresStore Doc}
  (database : Database Doc) (moment : Moment Doc) (planner : Rows.Planner)

theorem has_of_set {κ β : Type} [DecidableEq κ] {d : Dict κ β} {j : κ} (h : d.has j = true) (k : κ) (b : β) :
    (d.set k b).has j = true := by
  rw [Dict.has, get_set]
  split
  · rfl
  · exact h

section

variable (h : Mirrored memory postgres)
include h

variable {id : String}

theorem setMerchantRow {rows : List PostgresStore.MerchantRow}
    {row : MerchantRow} (hrows : Rows.Mirrors rows (·.id) merchantRowOf (memory.merchants.set id row)) :
    Mirrored { memory with merchants := memory.merchants.set id row } { postgres with merchants := rows } :=
  { h with
    merchants := hrows
    sold := fun card hcard => has_of_set (h.sold card hcard) id row }

/-! ## Merchants -/

theorem insert_merchant (hnew : memory.merchants.has id = false) (name : String) (t : Int) :
    Rows.insertUnless PostgresStore.merchantsPkey [PostgresStore.merchantsPkey] [] postgres.merchants
        (PostgresStore.newMerchant id name t) = .ok (postgres.merchants ++ [PostgresStore.newMerchant id name t],
        some (PostgresStore.newMerchant id name t)) := by
  have hany : (postgres.merchants.any
      (PostgresStore.merchantsPkey.clash (PostgresStore.newMerchant id name t))) = false :=
    (h.merchants.any id).trans hnew
  rw [Rows.insertUnless, if_neg (by simp [hany]), Rows.insert_ok]
  · rfl
  · intro rule hrule
    rw [mem_singleton.1 hrule]
    exact hany
  · exact fun _ hrule => nomatch hrule

theorem insert_merchant_taken (htaken : memory.merchants.has id = true) (name : String) (t : Int) :
    Rows.insertUnless PostgresStore.merchantsPkey [PostgresStore.merchantsPkey] [] postgres.merchants
        (PostgresStore.newMerchant id name t) = .ok (postgres.merchants, none) := by
  have hany : (postgres.merchants.any
      (PostgresStore.merchantsPkey.clash (PostgresStore.newMerchant id name t))) = true :=
    (h.merchants.any id).trans htaken
  rw [Rows.insertUnless, if_pos hany]

theorem append_merchant (hnew : memory.merchants.has id = false) (name : String) (t : Int) :
    Mirrored { memory with merchants := memory.merchants.set id ⟨id, name, t, .open, none, none⟩ }
      { postgres with merchants := postgres.merchants ++ [PostgresStore.newMerchant id name t] } := by
  have hnone : memory.merchants.get id = none := by simpa [Dict.has] using hnew
  exact h.setMerchantRow (h.merchants.append hnone)

theorem addMerchant (id name : String) (t : Int) : Tracks postgres (answering (memory.addMerchant id name t) .ok)
      (PostgresStore.addMerchant database postgres id name t) := by
  unfold PostgresStore.addMerchant MemoryStore.addMerchant
  cases hhas : memory.merchants.has id with
  | true =>
    rw [h.insert_merchant_taken hhas]
    exact .answered h
  | false =>
    rw [h.insert_merchant hhas]
    exact .answered (h.append_merchant hhas name t)

theorem merchantById (id : String) : PostgresStore.merchantById planner postgres id = memory.merchantById id := by
  unfold PostgresStore.merchantById MemoryStore.merchantById
  rw [← h.merchants.read_key planner id, Option.map_map]
  rfl

theorem allMerchants :
    (memory.merchants.values.map storedMerchantOf).Perm (PostgresStore.allMerchants planner postgres) := by
  have hlist := (h.merchants.list planner (fun row other => row.createdAt ≤ other.createdAt)
    (p := fun _ => true) (q := fun _ => true) fun _ _ => rfl).map storedMerchantOf
  rw [map_map, filter_true] at hlist
  exact hlist.symm

theorem setMerchant (id : String)
    (set : PostgresStore.MerchantRow → PostgresStore.MerchantRow) (set' : MerchantRow → MerchantRow)
    (hid : ∀ row, (set row).id = row.id) (hset : ∀ row, merchantRowOf (set row) = set' (merchantRowOf row)) :
    (postgres.setMerchant id set).2 = (memory.setMerchant id set').2 ∧
      Mirrored (memory.setMerchant id set').1 (postgres.setMerchant id set).1 := by
  unfold PostgresStore.setMerchant MemoryStore.setMerchant Rows.updated
  rcases h.merchants.under id with ⟨hget, hrows⟩ | ⟨row, hrow, hkey, hget, hrows⟩
  · rw [hrows, hget, Rows.update_of_filter_nil hrows]
    exact ⟨rfl, h⟩
  · rw [hrows, hget]
    refine ⟨?_, h.setMerchantRow ?_⟩
    · exact congrArg (fun r => some (storedMerchantOf r)) (hset row)
    · exact h.merchants.update hrow hkey (fun other _ => decide_eq_true_iff) ((hid row).trans hkey) (hset row)

/-! ## Keys -/

theorem setKeyRow {row : PostgresStore.KeyRow} (hrow : row ∈ postgres.merchantKeys) (hkey : row.id = id)
    {p : PostgresStore.KeyRow → Bool} (hp : ∀ other ∈ postgres.merchantKeys, p other = true ↔ other.id = id)
    (set : PostgresStore.KeyRow → PostgresStore.KeyRow) (hid : ∀ row, (set row).id = row.id)
    (hdigest : ∀ row, (set row).digest = row.digest) {stored : StoredKey} (hstored : storedKeyOf (set row) = stored) :
    Mirrored { memory with keys := memory.keys.set id stored }
      { postgres with merchantKeys := Rows.update postgres.merchantKeys p set } :=
  { h with
    keys := h.keys.update hrow hkey hp ((hid row).trans hkey) hstored
    digests := h.digests.update_of_same hdigest hid }

end

/-- The row a key is written down as. -/
def newKeyRow (key : NewKey) (t : Int) : PostgresStore.KeyRow :=
  { id := key.id
    merchantId := key.merchantId
    label := key.label
    purpose := key.purpose
    digest := key.digest
    createdAt := t
    disabledAt := none
    lastUsedAt := none }

theorem writeKey_refused {key : NewKey} {t : Int}
    (hrule : postgres.merchantKeys.any (fun row => row.id = key.id) = true ∨
      postgres.merchantKeys.any (fun row => row.digest = key.digest) = true ∨
      postgres.merchants.any (fun row => row.id = key.merchantId) = false) :
    ∃ thrown, PostgresStore.writeKey database postgres key t = .error thrown := by
  have hrefused : ∃ refused, Rows.insert [PostgresStore.merchantKeysPkey, PostgresStore.merchantKeysDigest]
      [postgres.namesAMerchant "merchant_keys_merchant_id_merchants_id_fk" (·.merchantId)]
      postgres.merchantKeys (newKeyRow key t) = .error refused := by
    refine Rows.insert_error _ _ ?_
    rcases hrule with hid | hdigest | hmerchant
    · exact .inl ⟨_, .head _, hid⟩
    · exact .inl ⟨_, .tail _ (.head _), hdigest⟩
    · exact .inr ⟨_, .head _, hmerchant⟩
  obtain ⟨refused, hinsert⟩ := hrefused
  unfold PostgresStore.writeKey
  dsimp only
  rw [newKeyRow] at hinsert
  rw [hinsert]
  cases refused with
  | unique rule =>
    dsimp only
    split
    · exact ⟨_, rfl⟩
    · split <;> exact ⟨_, rfl⟩
  | reference rule => exact ⟨_, rfl⟩
  | parameter => exact ⟨_, rfl⟩

section

variable (h : Mirrored memory postgres)
include h

theorem writeKey_written (key : NewKey) (t : Int)
    (hmerchant : memory.merchants.has key.merchantId = true) (hid : memory.keys.has key.id = false)
    (hdigest : memory.keysByDigest.has key.digest = false) : PostgresStore.writeKey database postgres key t =
        .ok ({ postgres with merchantKeys := postgres.merchantKeys ++ [newKeyRow key t] }, newKeyRow key t) ∧
      Mirrored
        { memory with
          keys := memory.keys.set key.id (storedKeyOf (newKeyRow key t))
          keysByDigest := memory.keysByDigest.set key.digest key.id }
        { postgres with merchantKeys := postgres.merchantKeys ++ [newKeyRow key t] } := by
  constructor
  · have hinsert : Rows.insert [PostgresStore.merchantKeysPkey, PostgresStore.merchantKeysDigest]
        [postgres.namesAMerchant "merchant_keys_merchant_id_merchants_id_fk" (·.merchantId)]
        postgres.merchantKeys (newKeyRow key t) = .ok (postgres.merchantKeys ++ [newKeyRow key t]) := by
      refine Rows.insert_ok (fun rule hrule => ?_) fun rule hrule => ?_
      · rcases mem_cons.1 hrule with rfl | hrule
        · exact (h.keys.any key.id).trans hid
        · rw [mem_singleton.1 hrule]
          exact (h.digests.any key.digest).trans hdigest
      · rw [mem_singleton.1 hrule]
        exact (h.merchants.any key.merchantId).trans hmerchant
    rw [newKeyRow] at hinsert
    unfold PostgresStore.writeKey
    dsimp only
    rw [hinsert]
    rfl
  · have hnone : memory.keys.get key.id = none := by simpa [Dict.has] using hid
    have hfree : memory.keysByDigest.get key.digest = none := by simpa [Dict.has] using hdigest
    exact
      { h with
        keys := h.keys.append hnone
        digests := h.digests.append hfree }

theorem addKey (key : NewKey) (t : Int) :
    Tracks postgres (memory.writeKey key t) (PostgresStore.addKey database postgres key t) := by
  have hrefused (hrule : postgres.merchantKeys.any (fun row => row.id = key.id) = true ∨
      postgres.merchantKeys.any (fun row => row.digest = key.digest) = true ∨
      postgres.merchants.any (fun row => row.id = key.merchantId) = false) (thrown : String) :
      Tracks postgres (memory, .error thrown) (PostgresStore.addKey database postgres key t) := by
    obtain ⟨thrown', hthrown⟩ := writeKey_refused database (t := t) hrule
    rw [PostgresStore.addKey, hthrown]
    exact .refused h
  unfold MemoryStore.writeKey
  cases hmerchant : memory.merchants.has key.merchantId with
  | false => exact hrefused (.inr (.inr ((h.merchants.any _).trans hmerchant))) _
  | true =>
    cases hid : memory.keys.has key.id with
    | true => exact hrefused (.inl ((h.keys.any _).trans hid)) _
    | false =>
      cases hdigest : memory.keysByDigest.has key.digest with
      | true => exact hrefused (.inr (.inl ((h.digests.any _).trans hdigest))) _
      | false =>
        obtain ⟨hwritten, hside⟩ := h.writeKey_written database key t hmerchant hid hdigest
        rw [PostgresStore.addKey, hwritten]
        exact .answered hside

theorem noteKeyUse (id : String) (t : Int) : Mirrored (memory.noteKeyUse id t) (postgres.noteKeyUse id t) := by
  unfold PostgresStore.noteKeyUse MemoryStore.noteKeyUse
  rcases h.keys.under id with ⟨hget, hrows⟩ | ⟨row, hrow, hkey, hget, -⟩
  · rw [hget, Rows.update_of_filter_nil (Rows.Mirrors.filter_none hrows _)]
    exact h
  · rw [hget]
    cases hlast : row.lastUsedAt.all fun last => last < t with
    | false =>
      have hany : ((storedKeyOf row).lastUsedAt.any fun last => t ≤ last) = true := by
        cases hused : row.lastUsedAt with
        | none => simp [hused] at hlast
        | some last => simpa [storedKeyOf, hused] using hlast
      rw [Rows.update_of_filter_nil (h.keys.filter_neg hrow hkey hlast)]
      simp only [hany, if_true]
      exact h
    | true =>
      have hany : ((storedKeyOf row).lastUsedAt.any fun last => t ≤ last) = false := by
        cases hused : row.lastUsedAt with
        | none => simp [storedKeyOf, hused]
        | some last => simpa [storedKeyOf, hused] using hlast
      simp only [hany, Bool.false_eq_true, if_false]
      subst hkey
      exact h.setKeyRow hrow rfl
        (h.keys.filter_pos (c := fun row => row.lastUsedAt.all fun last => last < t) hrow rfl hlast)
        (fun row => { row with lastUsedAt := some t }) (fun _ => rfl) (fun _ => rfl) rfl

theorem keyByDigest (digest : String) :
    PostgresStore.keyByDigest planner postgres digest = memory.keyByDigest digest :=
  h.keys.through h.digests planner digest

theorem workingKey (digest : String) :
    PostgresStore.workingKey planner postgres digest = memory.workingKey digest := by
  unfold PostgresStore.workingKey MemoryStore.workingKey MemoryStore.keyByDigest
  rcases h.digests.under digest with ⟨hget, hrows⟩ | ⟨row, hrow, hkey, hget, -⟩
  · rw [hget, Rows.select_head (o := none) (Rows.Mirrors.filter_none hrows _)]
    rfl
  · rw [hget, Option.bind_some, h.keys.get_of_mem hrow]
    cases hdisabled : row.disabledAt with
    | none =>
      have hc : row.disabledAt.isNone = true := by rw [hdisabled]; rfl
      rw [Rows.select_head (o := some row) (h.digests.filter_row (c := (·.disabledAt.isNone)) hrow hkey hc)]
      simp [storedKeyOf, hdisabled]
    | some t =>
      have hc : row.disabledAt.isNone = false := by rw [hdisabled]; rfl
      rw [Rows.select_head (o := none) (h.digests.filter_neg (c := (·.disabledAt.isNone)) hrow hkey hc)]
      simp [storedKeyOf, hdisabled]

theorem forgetCabinetKey (keyId : String) : (postgres.forgetCabinetKey keyId).2 = (memory.forgetCabinetKey keyId).2 ∧
      Mirrored (memory.forgetCabinetKey keyId).1 (postgres.forgetCabinetKey keyId).1 := by
  unfold PostgresStore.forgetCabinetKey MemoryStore.forgetCabinetKey
  dsimp only
  rcases h.keys.under keyId with ⟨hget, hrows⟩ | ⟨row, hrow, hkey, hget, -⟩
  · have hnone := Rows.Mirrors.filter_none hrows fun row : PostgresStore.KeyRow => row.purpose = .cabinet
    rw [hget, Rows.delete_of_filter_nil hnone, hnone]
    exact ⟨rfl, h⟩
  · rw [hget]
    by_cases hpurpose : row.purpose = .cabinet
    · have hc : decide (row.purpose = .cabinet) = true := decide_eq_true hpurpose
      have hp := h.keys.filter_pos (c := fun row => row.purpose = .cabinet) hrow hkey hc
      rw [h.keys.filter_row (c := fun row => row.purpose = .cabinet) hrow hkey hc]
      simp only [storedKeyOf, hpurpose, ne_eq, not_true_eq_false, if_false]
      refine ⟨rfl, { h with keys := ?_, digests := ?_ }⟩
      · exact h.keys.delete fun other hother => (hp other hother).trans (by rw [hkey.symm])
      · refine h.digests.dropping fun other hother => ?_
        rw [Bool.eq_iff_iff, hp other hother, decide_eq_true_iff, ← hkey]
    · have hc : decide (row.purpose = .cabinet) = false := decide_eq_false hpurpose
      have hnone := h.keys.filter_neg (c := fun row => row.purpose = .cabinet) hrow hkey hc
      rw [Rows.delete_of_filter_nil hnone, hnone]
      simp only [storedKeyOf, hpurpose, ne_eq, not_false_eq_true, if_true]
      exact ⟨rfl, h⟩

theorem disableKey (id : String) (t : Int) : (postgres.disableKey id t).2 = (memory.disableKey id t).2 ∧
      Mirrored (memory.disableKey id t).1 (postgres.disableKey id t).1 := by
  unfold PostgresStore.disableKey MemoryStore.disableKey Rows.updated
  rcases h.keys.under id with ⟨hget, hrows⟩ | ⟨row, hrow, hkey, hget, hrows⟩
  · rw [hget, hrows, Rows.update_of_filter_nil hrows]
    exact ⟨rfl, h⟩
  · rw [hget, hrows]
    subst hkey
    exact ⟨rfl, h.setKeyRow hrow rfl (fun _ _ => decide_eq_true_iff) (PostgresStore.revokedAt t)
      (fun _ => rfl) (fun _ => rfl) rfl⟩

theorem disableKeyOf (merchantId id : String) (t : Int) :
    (PostgresStore.disableKeyOf planner postgres merchantId id t).2 = (memory.disableKeyOf merchantId id t).2 ∧
      Mirrored (memory.disableKeyOf merchantId id t).1
        (PostgresStore.disableKeyOf planner postgres merchantId id t).1 := by
  unfold PostgresStore.disableKeyOf MemoryStore.disableKeyOf Rows.updated
  simp only [Bool.and_assoc]
  -- What is asked of a key beside its identifier: whose it is, and what it was made for.
  let theirs : PostgresStore.KeyRow → Bool := fun row => row.merchantId = merchantId
  let made : PostgresStore.KeyRow → Bool := fun row => theirs row && row.purpose = .merchantCode
  rcases h.keys.under id with ⟨hget, hrows⟩ | ⟨row, hrow, hkey, hget, -⟩
  · have hmade := Rows.Mirrors.filter_none hrows made
    rw [hget, hmade, Rows.update_of_filter_nil hmade, map_nil, head?_nil]
    rw [Rows.select_head (o := none) (Rows.Mirrors.filter_none hrows theirs)]
    exact ⟨rfl, h⟩
  · rw [hget]
    by_cases hmerchant : row.merchantId = merchantId
    · have htheirs : theirs row = true := decide_eq_true hmerchant
      by_cases hpurpose : row.purpose = .merchantCode
      · have hmade : made row = true := by simp [made, htheirs, hpurpose]
        rw [h.keys.filter_row (c := made) hrow hkey hmade]
        simp only [storedKeyOf, hmerchant, hpurpose, ne_eq, not_true_eq_false, if_false]
        subst hkey
        refine ⟨?_, h.setKeyRow hrow rfl (h.keys.filter_pos (c := made) hrow rfl hmade)
          (PostgresStore.revokedAt t) (fun _ => rfl) (fun _ => rfl) ?_⟩ <;>
          simp [PostgresStore.revokedAt, MemoryStore.revoke, storedKeyOf, hmerchant, hpurpose]
      · have hmade : made row = false := by simp [made, hpurpose]
        have hnone := h.keys.filter_neg (c := made) hrow hkey hmade
        rw [hnone, Rows.update_of_filter_nil hnone, map_nil, head?_nil]
        rw [Rows.select_head (o := some row) (h.keys.filter_row (c := theirs) hrow hkey htheirs)]
        simp only [storedKeyOf, hmerchant, hpurpose, ne_eq, not_true_eq_false, not_false_eq_true, if_false, if_true]
        exact ⟨trivial, h⟩
    · have htheirs : theirs row = false := decide_eq_false hmerchant
      have hmade : made row = false := by simp [made, htheirs]
      have hnone := h.keys.filter_neg (c := made) hrow hkey hmade
      rw [hnone, Rows.update_of_filter_nil hnone, map_nil, head?_nil]
      rw [Rows.select_head (o := none) (h.keys.filter_neg (c := theirs) hrow hkey htheirs)]
      simp only [storedKeyOf, hmerchant, ne_eq, not_false_eq_true, if_true]
      exact ⟨trivial, h⟩

theorem registerMerchant (id name keyId label digest : String) (t : Int) (htakes : memory.merchants.has id = false →
      (PostgresStore.keyParams ⟨keyId, id, label, digest, .cabinet⟩ t).all database.takes = true) :
    Tracks postgres (memory.registerMerchant id name keyId label digest t)
      (PostgresStore.registerMerchant database postgres id name keyId label digest t) := by
  unfold PostgresStore.registerMerchant MemoryStore.registerMerchant
  cases hhas : memory.merchants.has id with
  | true =>
    rw [h.insert_merchant_taken hhas]
    exact .answered h
  | false =>
    have hnone : memory.merchants.get id = none := by simpa [Dict.has] using hhas
    have hwritten := h.append_merchant hhas name t
    have hthere : (memory.merchants.set id ⟨id, name, t, .open, none, none⟩).has id = true := by
      rw [Dict.has, get_set_self]
      rfl
    rw [h.insert_merchant hhas]
    simp only [Bool.false_eq_true, if_false, Database.reports, Except.mapError, bind, Except.bind,
      Database.sends, if_pos (htakes hhas)]
    -- A merchant whose key is refused is taken out again, or never was there.
    have hrefused (hrule : postgres.merchantKeys.any (fun row => row.id = keyId) = true ∨
        postgres.merchantKeys.any (fun row => row.digest = digest) = true) :
        ∃ thrown, PostgresStore.writeKey database
          { postgres with merchants := postgres.merchants ++ [PostgresStore.newMerchant id name t] }
          ⟨keyId, id, label, digest, .cabinet⟩ t = .error thrown :=
      writeKey_refused database (hrule.imp_right .inl)
    have hundone : ({ memory with
        merchants := (memory.merchants.set id ⟨id, name, t, .open, none, none⟩).delete id } :
          MemoryStore Doc) = memory := by
      rw [delete_set hnone]
    simp only [MemoryStore.writeKey, hthere, Bool.not_true, Bool.false_eq_true, if_false]
    cases hid : memory.keys.has keyId with
    | true =>
      obtain ⟨thrown, hthrown⟩ := hrefused (.inl ((h.keys.any _).trans hid))
      rw [hthrown]
      simp only [if_true, hundone]
      exact .refused h
    | false =>
      cases hdigest : memory.keysByDigest.has digest with
      | true =>
        obtain ⟨thrown, hthrown⟩ := hrefused (.inr ((h.digests.any _).trans hdigest))
        rw [hthrown]
        simp only [Bool.false_eq_true, if_false, if_true, hundone]
        exact .refused h
      | false =>
        obtain ⟨hkey, hside⟩ := hwritten.writeKey_written database
          ⟨keyId, id, label, digest, .cabinet⟩ t hthere hid hdigest
        rw [hkey]
        exact .answered hside

end

/-! ## Lists of keys -/

theorem not_keyComesFirst_iff {one other : StoredKey} : (!keyComesFirst other one) = true ↔
      one.createdAt < other.createdAt ∨
        one.createdAt = other.createdAt ∧ ¬ codeUnits other.id < codeUnits one.id := by
  unfold keyComesFirst
  split
  · next heq => simp [heq]
  · next hne =>
    simp only [Bool.not_eq_true', decide_eq_false_iff_not]
    omega

theorem not_keyComesFirst_trans (a b c : StoredKey) (hab : (!keyComesFirst b a) = true)
    (hbc : (!keyComesFirst c b) = true) : (!keyComesFirst c a) = true := by
  rw [not_keyComesFirst_iff] at *
  rcases hab with hab | ⟨hab, hab'⟩ <;> rcases hbc with hbc | ⟨hbc, hbc'⟩
  · exact .inl (Int.lt_trans hab hbc)
  · exact .inl (hbc ▸ hab)
  · exact .inl (hab ▸ hbc)
  · refine .inr ⟨hab.trans hbc, ?_⟩
    exact List.le_trans hab' hbc'

theorem not_keyComesFirst_total (a b : StoredKey) : ((!keyComesFirst b a) || (!keyComesFirst a b)) = true := by
  rw [Bool.or_eq_true, not_keyComesFirst_iff, not_keyComesFirst_iff, List.not_lt, List.not_lt]
  have hle := List.le_total (codeUnits a.id) (codeUnits b.id)
  by_cases heq : a.createdAt = b.createdAt
  · rcases hle with hle | hle
    · exact .inl (.inr ⟨heq, hle⟩)
    · exact .inr (.inr ⟨heq.symm, hle⟩)
  · rcases Int.lt_or_gt_of_ne heq with hlt | hgt
    · exact .inl (.inl hlt)
    · exact .inr (.inl hgt)

theorem keyOrder_trans (a b c : PostgresStore.KeyRow) (hab : PostgresStore.keyOrder database a b = true)
    (hbc : PostgresStore.keyOrder database b c = true) : PostgresStore.keyOrder database a c = true := by
  simp only [PostgresStore.keyOrder, Bool.or_eq_true, Bool.and_eq_true, decide_eq_true_eq] at *
  rcases hab with hab | ⟨hab, hab'⟩ <;> rcases hbc with hbc | ⟨hbc, hbc'⟩
  · exact .inl (Int.lt_trans hab hbc)
  · exact .inl (hbc ▸ hab)
  · exact .inl (hab ▸ hbc)
  · exact .inr ⟨hab.trans hbc, database.collates_trans _ _ _ hab' hbc'⟩

theorem keyOrder_total (a b : PostgresStore.KeyRow) :
    (PostgresStore.keyOrder database a b || PostgresStore.keyOrder database b a) = true := by
  simp only [PostgresStore.keyOrder, Bool.or_eq_true, Bool.and_eq_true, decide_eq_true_eq]
  by_cases heq : a.createdAt = b.createdAt
  · rcases database.collates_total a.id b.id with hle | hle
    · exact .inl (.inr ⟨heq, hle⟩)
    · exact .inr (.inr ⟨heq.symm, hle⟩)
  · rcases Int.lt_or_gt_of_ne heq with hlt | hgt
    · exact .inl (.inl hlt)
    · exact .inr (.inl hgt)

/-- The collation of a database puts keys of one instant in the order their code units are in. -/
def CollatesAlike (memory : MemoryStore Doc) (q : StoredKey → Bool) : Prop :=
  ∀ one ∈ memory.keys.values, ∀ other ∈ memory.keys.values, q one = true → q other = true →
    one.createdAt = other.createdAt →
      (database.collates one.id other.id = true ↔ ¬ codeUnits other.id < codeUnits one.id)

/-- A list of keys in the order memory puts them in is the list the database reads, where its collation
orders them alike. -/
theorem sortedKeys (h : Mirrored memory postgres) {p : PostgresStore.KeyRow → Bool} {q : StoredKey → Bool}
    (hp : ∀ row ∈ postgres.merchantKeys, p row = q (storedKeyOf row))
    (hcollates : CollatesAlike database memory q) {l : List StoredKey} (hl : l.Perm (memory.keys.values.filter q))
    (hsorted : l.Pairwise fun one other => (!keyComesFirst other one) = true) :
    ((Rows.select planner postgres.merchantKeys p).mergeSort (PostgresStore.keyOrder database)).map
      storedKeyOf = l := by
  have hperm := (h.keys.list planner (PostgresStore.keyOrder database) hp).trans hl.symm
  have hmem {one : StoredKey} (hone : one ∈ l) : one ∈ memory.keys.values ∧ q one = true :=
    mem_filter.1 (hl.mem_iff.1 hone)
  have hrows : ((Rows.select planner postgres.merchantKeys p).mergeSort
      (PostgresStore.keyOrder database)).map storedKeyOf |>.Pairwise fun one other =>
        (!keyComesFirst other one) = true := by
    rw [pairwise_map]
    refine List.Pairwise.imp_of_mem (fun {row other} hrow hother horder => ?_)
      (pairwise_mergeSort (keyOrder_trans database) (keyOrder_total database) _)
    obtain ⟨hone, hq⟩ := hmem (hperm.mem_iff.1 (mem_map_of_mem hrow))
    obtain ⟨hother, hq'⟩ := hmem (hperm.mem_iff.1 (mem_map_of_mem hother))
    rw [not_keyComesFirst_iff]
    simp only [PostgresStore.keyOrder, Bool.or_eq_true, Bool.and_eq_true, decide_eq_true_eq] at horder
    exact horder.imp id fun ⟨hat, hle⟩ => ⟨hat, (hcollates _ hone _ hother hq hq' hat).1 hle⟩
  refine hperm.eq_of_pairwise (fun one other hone hother hle hge => ?_) hrows hsorted
  obtain ⟨hone, hq⟩ := hmem (hperm.mem_iff.1 hone)
  obtain ⟨hother, hq'⟩ := hmem hother
  rw [not_keyComesFirst_iff] at hle hge
  have hat : one.createdAt = other.createdAt := by omega
  have hid : one.id = other.id := by
    refine database.collates_antisymm _ _ ?_ ?_
    · exact (hcollates _ hone _ hother hq hq' hat).2 (by
        rcases hle with hlt | ⟨-, hle⟩
        · omega
        · exact hle)
    · exact (hcollates _ hother _ hone hq' hq hat.symm).2 (by
        rcases hge with hlt | ⟨-, hge⟩
        · omega
        · exact hge)
  obtain ⟨row, hrow, rfl⟩ := mem_map.1 (h.keys.values.mem_iff.2 hone)
  obtain ⟨row', hrow', rfl⟩ := mem_map.1 (h.keys.values.mem_iff.2 hother)
  exact congrArg storedKeyOf (h.keys.row_eq hrow hrow' hid)

theorem keysOf_sorted (memory : MemoryStore Doc) (merchantId : String) : (memory.keysOf merchantId).Perm
        (memory.keys.values.filter fun key => key.merchantId = merchantId) ∧
      (memory.keysOf merchantId).Pairwise fun one other => (!keyComesFirst other one) = true :=
  ⟨mergeSort_perm _ _, pairwise_mergeSort not_keyComesFirst_trans not_keyComesFirst_total _⟩

theorem keysOf (h : Mirrored memory postgres) (merchantId : String)
    (hcollates : CollatesAlike database memory fun key => key.merchantId = merchantId) :
    PostgresStore.keysOf database planner postgres merchantId = memory.keysOf merchantId :=
  h.sortedKeys database planner (fun _ _ => rfl) hcollates (keysOf_sorted memory merchantId).1
    (keysOf_sorted memory merchantId).2

theorem codeKeysOf (h : Mirrored memory postgres) (merchantId : String)
    (hcollates : CollatesAlike database memory fun key =>
      key.merchantId = merchantId && key.purpose = .merchantCode) :
    PostgresStore.codeKeysOf database planner postgres merchantId = memory.codeKeysOf merchantId := by
  obtain ⟨hperm, hsorted⟩ := keysOf_sorted memory merchantId
  refine h.sortedKeys database planner (fun _ _ => rfl) hcollates ?_ (hsorted.filter _)
  rw [Rows.filter_and]
  exact hperm.filter _

end Mirrored

end Coinslot.Stores
