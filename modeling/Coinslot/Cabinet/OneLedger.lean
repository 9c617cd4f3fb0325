import Coinslot.Cabinet.WooLedgers

/-!
# One ledger

The ledger in memory and the one on Postgres answer alike in every run whose calls meet a condition (`WooMeets`): a
token is issued once, what a call sends the columns take, and a row that is new names an account that is there. The
one in memory asks for none of these, and passes any account.

The rows stay beside the maps (`SideBySide`). A token that was spent is issued no more, so it is spent once; and an
order that was recorded keeps its number until another one is recorded for it, in both (`one_ledger`).
-/

namespace Coinslot

open List Dict

def WooOrderRow.order (row : WooOrderRow) : WooOrder := ⟨row.accountId, row.attemptedAt, row.placed⟩

/-- The tables hold what the maps hold, and a row of the orders names all of a placed order or nothing of it. -/
structure SideBySide (memory : MemoryWooShops) (postgres : PostgresWooShops) : Prop where
  grants : Rows.Mirrors postgres.grants (·.token) WooGrantRow.grant memory.grants
  shops : Rows.Mirrors postgres.shops (·.accountId) id memory.shops
  orders : Rows.Mirrors postgres.orders (·.orderId) WooOrderRow.order memory.orders
  whole : ∀ row ∈ postgres.orders, row.wooOrderId.isSome = row.wooOrderNumber.isSome

theorem sideBySide_empty : SideBySide {} {} :=
  ⟨Rows.Mirrors.nil, Rows.Mirrors.nil, Rows.Mirrors.nil, fun _ hrow => absurd hrow not_mem_nil⟩

/-- What has to be so for a call to come to the same in both: its values are taken, its token was not issued before,
and a row that is new names an account that is there. -/
def WooMeets (database : WooDatabase) (s : WooLedgers) (call : WooCall) : Prop :=
  database.takes call = true ∧
    match call with
    | .beginGrant grant => grant.token ∉ s.issued ∧ database.hasAccount grant.accountId = true
    | .connect connection =>
      s.memory.shops.has connection.accountId = false → database.hasAccount connection.accountId = true
    | .claimOrder accountId orderId _ =>
      s.memory.orders.has orderId = false → database.hasAccount accountId = true
    | _ => True

/-- Two answers to one call are the same: connections in any order, and where an account started two Connects at one
instant, either of them. -/
def SameAnswer (call : WooCall) (memory postgres : WooAnswer) : Prop :=
  memory = postgres ∨
    (∃ connections connections', memory = .connections connections ∧ postgres = .connections connections' ∧
      connections.Perm connections') ∨
    ∃ accountId grant grant', call = .grantFor accountId ∧ memory = .grant (some grant) ∧
      postgres = .grant (some grant') ∧ grant.accountId = accountId ∧ grant'.accountId = accountId ∧
      grant.startedAt = grant'.startedAt

/-! ## The newest Connect -/

/-- A grant is the newest of an account in a list, or there is none of it. -/
def Newest (accountId : String) (grants : List WooGrant) : Option WooGrant → Prop
  | none => ∀ grant ∈ grants, grant.accountId ≠ accountId
  | some newest => newest ∈ grants ∧ newest.accountId = accountId ∧
      ∀ grant ∈ grants, grant.accountId = accountId → grant.startedAt ≤ newest.startedAt

variable {accountId : String} {grants : List WooGrant}

variable {newest : Option WooGrant} {s : WooLedgers}

theorem newest_concat (h : Newest accountId grants newest) (grant : WooGrant) :
    Newest accountId (grants ++ [grant]) (MemoryWooShops.newer accountId newest grant) := by
  unfold MemoryWooShops.newer
  split
  · next hother =>
    cases newest with
    | none =>
      intro g hg
      rcases mem_append.1 hg with hg | hg
      · exact h g hg
      · rwa [mem_singleton.1 hg]
    | some found =>
      obtain ⟨hmem, haccount, hmax⟩ := h
      refine ⟨mem_append_left _ hmem, haccount, fun g hg hown => ?_⟩
      rcases mem_append.1 hg with hg | hg
      · exact hmax g hg hown
      · rw [mem_singleton.1 hg] at hown
        exact absurd hown hother
  · next hown =>
    have hown : grant.accountId = accountId := not_not.1 hown
    have hlast : grant ∈ grants ++ [grant] := mem_append_right _ (mem_singleton_self grant)
    cases newest with
    | none =>
      refine ⟨hlast, hown, fun g hg hg' => ?_⟩
      rcases mem_append.1 hg with hg | hg
      · exact absurd hg' (h g hg)
      · exact Int.le_of_eq (congrArg WooGrant.startedAt (mem_singleton.1 hg))
    | some found =>
      obtain ⟨hmem, haccount, hmax⟩ := h
      dsimp only
      split
      · next hlater =>
        refine ⟨hlast, hown, fun g hg hg' => ?_⟩
        rcases mem_append.1 hg with hg | hg
        · exact Int.le_trans (hmax g hg hg') hlater
        · exact Int.le_of_eq (congrArg WooGrant.startedAt (mem_singleton.1 hg))
      · next hearlier =>
        refine ⟨mem_append_left _ hmem, haccount, fun g hg hg' => ?_⟩
        rcases mem_append.1 hg with hg | hg
        · exact hmax g hg hg'
        · rw [mem_singleton.1 hg]
          omega

theorem newest_foldl (h : Newest accountId grants newest) (more : List WooGrant) :
    Newest accountId (grants ++ more) (more.foldl (MemoryWooShops.newer accountId) newest) := by
  induction more generalizing grants newest with
  | nil => rwa [append_nil]
  | cons grant more ih =>
    rw [append_cons]
    exact ih (newest_concat h grant)

theorem newest_memory (memory : MemoryWooShops) (accountId : String) :
    Newest accountId memory.grants.values (memory.grantFor accountId) :=
  @newest_foldl accountId [] none (fun _ hg => absurd hg not_mem_nil) _

theorem newest_postgres {memory : MemoryWooShops} {postgres : PostgresWooShops} (h : SideBySide memory postgres)
    (planner : Rows.Planner) (accountId : String) :
    Newest accountId memory.grants.values (postgres.grantFor planner accountId) := by
  unfold PostgresWooShops.grantFor
  generalize hrows : (Rows.select planner postgres.grants fun row => row.accountId = accountId).mergeSort
    (fun row other => decide (other.createdAt ≤ row.createdAt)) = rows
  have hperm : rows.Perm (postgres.grants.filter fun row => row.accountId = accountId) :=
    hrows ▸ (mergeSort_perm _ _).trans (planner.perm _)
  have hsorted : rows.Pairwise fun row other => decide (other.createdAt ≤ row.createdAt) = true := by
    rw [← hrows]
    refine pairwise_mergeSort (fun a b c hab hbc => ?_) (fun a b => ?_) _
    · simp only [decide_eq_true_eq] at hab hbc ⊢
      omega
    · simp only [Bool.or_eq_true, decide_eq_true_eq]
      omega
  have hgrants (g : WooGrant) : g ∈ memory.grants.values ↔ ∃ row ∈ postgres.grants, row.grant = g := by
    rw [← h.grants.values.mem_iff, mem_map]
  have hrow (row : WooGrantRow) : row ∈ rows ↔ row ∈ postgres.grants ∧ row.accountId = accountId := by
    rw [hperm.mem_iff, mem_filter, decide_eq_true_eq]
  cases rows with
  | nil =>
    intro g hg hown
    obtain ⟨row, hmem, rfl⟩ := (hgrants g).1 hg
    exact absurd ((hrow row).2 ⟨hmem, hown⟩) not_mem_nil
  | cons newest rest =>
    obtain ⟨hmem, hown⟩ := (hrow newest).1 (mem_cons_self ..)
    refine ⟨(hgrants _).2 ⟨newest, hmem, rfl⟩, hown, fun g hg hown' => ?_⟩
    obtain ⟨row, hmem', rfl⟩ := (hgrants g).1 hg
    rcases mem_cons.1 ((hrow row).2 ⟨hmem', hown'⟩) with rfl | hrest
    · exact Int.le_refl _
    · exact of_decide_eq_true ((pairwise_cons.1 hsorted).1 row hrest)

theorem sameAnswer_of_newest {g g' : Option WooGrant}
    (h : Newest accountId grants g) (h' : Newest accountId grants g') :
    SameAnswer (.grantFor accountId) (.grant g) (.grant g') := by
  cases g with
  | none =>
    cases g' with
    | none => exact .inl rfl
    | some y => exact absurd h'.2.1 (h y h'.1)
  | some x =>
    cases g' with
    | none => exact absurd h.2.1 (h' x h.1)
    | some y =>
      refine .inr (.inr ⟨accountId, x, y, rfl, rfl, rfl, h.2.1, h'.2.1, Int.le_antisymm ?_ ?_⟩)
      · exact h'.2.2 x h.1 h.2.1
      · exact h.2.2 y h'.1 h'.2.1

/-! ## Each call -/

variable {database : WooDatabase} {planner : Rows.Planner} {memory : MemoryWooShops} {postgres : PostgresWooShops}

/-- Both are side by side after a call, and answered the same. -/
def CameAlike (call : WooCall) (memory : MemoryWooShops × WooAnswer)
    (postgres : Except Rows.Refusal (PostgresWooShops × WooAnswer)) : Prop :=
  ∃ after answer, postgres = .ok (after, answer) ∧ SideBySide memory.1 after ∧ SameAnswer call memory.2 answer

section

variable (h : SideBySide memory postgres)
include h

namespace SideBySide

theorem beginGrant {grant : WooGrant}
    (hnew : memory.grants.has grant.token = false) (haccount : database.hasAccount grant.accountId = true) :
    CameAlike (.beginGrant grant) (memory.perform (.beginGrant grant))
      (postgres.execute database planner (.beginGrant grant)) := by
  have hinsert : Rows.insert [PostgresWooShops.grantsPkey] [PostgresWooShops.namesAnAccount database
      "cabinet_woo_grants_account_id_cabinet_accounts_id_fk" (·.accountId)] postgres.grants
      (PostgresWooShops.grantRow grant) = .ok (postgres.grants ++ [PostgresWooShops.grantRow grant]) := by
    refine Rows.insert_ok (fun rule hrule => ?_) fun rule hrule => ?_
    · rw [mem_singleton.1 hrule]
      exact (h.grants.any grant.token).trans hnew
    · rw [mem_singleton.1 hrule]
      exact haccount
  have hnone : memory.grants.get grant.token = none := by simpa [Dict.has] using hnew
  refine ⟨{ postgres with grants := postgres.grants ++ [PostgresWooShops.grantRow grant] }, .nothing, ?_, ?_,
    .inl rfl⟩
  · rw [PostgresWooShops.execute, PostgresWooShops.beginGrant, hinsert]
    rfl
  · exact { h with grants := h.grants.append (show memory.grants.get (PostgresWooShops.grantRow grant).token = none from hnone) }

theorem spendGrant (token : String) (now : Int) :
    CameAlike (.spendGrant token now) (memory.perform (.spendGrant token now))
      (postgres.execute database planner (.spendGrant token now)) := by
  refine ⟨_, _, rfl, ?_, .inl (congrArg WooAnswer.grant ?_)⟩
  · exact { h with grants := h.grants.delete fun row _ => decide_eq_true_iff }
  · have hread := h.grants.read_key planner token
    unfold MemoryWooShops.spendGrant PostgresWooShops.spendGrant
    rw [← hread]
    cases (Rows.select planner postgres.grants fun row => row.token = token).head? with
    | none => rfl
    | some row =>
      dsimp only [Option.map_some, Option.filter, WooGrantRow.grant]
      by_cases hexpired : row.expiresAt ≤ now <;> simp [hexpired]

theorem sweepGrants (now : Int) : CameAlike (.sweepGrants now) (memory.perform (.sweepGrants now))
      (postgres.execute database planner (.sweepGrants now)) := by
  refine ⟨_, _, rfl, ?_, .inl (congrArg WooAnswer.swept ?_)⟩
  · exact { h with grants := h.grants.dropping fun _ _ => rfl }
  · have hswept := (h.grants.values_filter (p := fun row => row.expiresAt < now)
      (q := fun grant => grant.expiresAt < now) fun _ _ => rfl).length_eq
    rw [length_map] at hswept
    exact hswept.symm

theorem connect {connection : WooConnection}
    (haccount : memory.shops.has connection.accountId = false → database.hasAccount connection.accountId = true) :
    CameAlike (.connect connection) (memory.perform (.connect connection))
      (postgres.execute database planner (.connect connection)) := by
  rcases h.shops.under connection.accountId with ⟨hget, hrows⟩ | ⟨row, hrow, hkey, hget, hrows⟩
  · have hhas : memory.shops.has connection.accountId = false := by rw [Dict.has, hget]; rfl
    have hinsert := Rows.insertOver_new PostgresWooShops.shopsPkey [PostgresWooShops.shopsPkey]
      [PostgresWooShops.namesAnAccount database "cabinet_woo_shops_account_id_cabinet_accounts_id_fk" (·.accountId)]
      connection (PostgresWooShops.overwritten connection) hrows
      (fun rule hrule => by rw [mem_singleton.1 hrule]; exact (h.shops.any _).trans hhas)
      (fun rule hrule => by rw [mem_singleton.1 hrule]; exact haccount hhas)
    refine ⟨{ postgres with shops := postgres.shops ++ [connection] }, .nothing, ?_, ?_, .inl rfl⟩
    · rw [PostgresWooShops.execute, PostgresWooShops.connect, hinsert]
      rfl
    · exact { h with shops := h.shops.append hget }
  · have hinsert := Rows.insertOver_held PostgresWooShops.shopsPkey [PostgresWooShops.shopsPkey]
      [PostgresWooShops.namesAnAccount database "cabinet_woo_shops_account_id_cabinet_accounts_id_fk" (·.accountId)]
      connection (PostgresWooShops.overwritten connection) hrows
    have hset : PostgresWooShops.overwritten connection row = connection := by
      cases connection
      cases hkey
      rfl
    refine ⟨{ postgres with
      shops := Rows.update postgres.shops (PostgresWooShops.shopsPkey.clash connection)
        (PostgresWooShops.overwritten connection) }, .nothing, ?_, ?_, .inl rfl⟩
    · rw [PostgresWooShops.execute, PostgresWooShops.connect, hinsert]
      rfl
    · exact { h with
        shops := h.shops.update hrow hkey (fun other _ => decide_eq_true_iff) (by rw [hset]) hset }

theorem connectionOf (accountId : String) :
    CameAlike (.connectionOf accountId) (memory.perform (.connectionOf accountId))
      (postgres.execute database planner (.connectionOf accountId)) := by
  refine ⟨_, _, rfl, h, .inl (congrArg WooAnswer.connection ?_)⟩
  rw [← h.shops.read_key planner accountId, Option.map_id_fun, id]

theorem forget (accountId : String) : CameAlike (.forget accountId) (memory.perform (.forget accountId))
      (postgres.execute database planner (.forget accountId)) :=
  ⟨_, _, rfl, { h with shops := h.shops.delete fun _ _ => decide_eq_true_iff }, .inl rfl⟩

theorem connections :
    CameAlike .connections (memory.perform .connections) (postgres.execute database planner .connections) := by
  refine ⟨_, _, rfl, h, .inr (.inl ⟨_, _, rfl, rfl, ?_⟩)⟩
  have hrows := h.shops.values
  rw [map_id] at hrows
  refine hrows.symm.trans ?_
  rw [Rows.select, filter_true]
  exact (planner.perm _).symm

theorem claimOrder {accountId orderId : String} {now : Int}
    (haccount : memory.orders.has orderId = false → database.hasAccount accountId = true) :
    CameAlike (.claimOrder accountId orderId now) (memory.perform (.claimOrder accountId orderId now))
      (postgres.execute database planner (.claimOrder accountId orderId now)) := by
  have hany := h.orders.any orderId
  rcases h.orders.under orderId with ⟨hget, hrows⟩ | ⟨row, hrow, hkey, hget, hrows⟩
  · have hhas : memory.orders.has orderId = false := by rw [Dict.has, hget]; rfl
    have hinsert : Rows.insertUnless PostgresWooShops.ordersPkey [PostgresWooShops.ordersPkey]
        [PostgresWooShops.namesAnAccount database "cabinet_woo_orders_account_id_cabinet_accounts_id_fk"
          (·.accountId)]
        postgres.orders ⟨orderId, accountId, none, none, now, none⟩ =
          .ok (postgres.orders ++ [⟨orderId, accountId, none, none, now, none⟩],
            some ⟨orderId, accountId, none, none, now, none⟩) := by
      have hfree : ¬ (postgres.orders.any
          (PostgresWooShops.ordersPkey.clash ⟨orderId, accountId, none, none, now, none⟩)) = true := by
        rw [hhas] at hany
        simpa [PostgresWooShops.ordersPkey] using hany
      rw [Rows.insertUnless, if_neg hfree, Rows.insert_ok]
      · rfl
      · intro rule hrule
        rw [mem_singleton.1 hrule]
        exact Bool.eq_false_iff.2 hfree
      · intro rule hrule
        rw [mem_singleton.1 hrule]
        exact haccount hhas
    refine ⟨{ postgres with orders := postgres.orders ++ [⟨orderId, accountId, none, none, now, none⟩] },
      .claim .ours, ?_, ?_, .inl ?_⟩
    · rw [PostgresWooShops.execute, PostgresWooShops.claimOrder, hinsert]
      rfl
    · have hmemory : (memory.perform (.claimOrder accountId orderId now)).1 =
          { memory with orders := memory.orders.set orderId ⟨accountId, now, none⟩ } := by
        simp only [MemoryWooShops.perform, Ledger.claimOrder, hget]
      rw [hmemory]
      refine { h with orders := ?_, whole := fun row hrow => ?_ }
      · exact h.orders.append (show memory.orders.get
          (⟨orderId, accountId, none, none, now, none⟩ : WooOrderRow).orderId = none from hget)
      · rcases mem_append.1 hrow with hrow | hrow
        · exact h.whole row hrow
        · rw [mem_singleton.1 hrow]
    · simp only [MemoryWooShops.perform, Ledger.claimOrder, hget]
  · have hinsert : Rows.insertUnless PostgresWooShops.ordersPkey [PostgresWooShops.ordersPkey]
        [PostgresWooShops.namesAnAccount database "cabinet_woo_orders_account_id_cabinet_accounts_id_fk"
          (·.accountId)]
        postgres.orders ⟨orderId, accountId, none, none, now, none⟩ = .ok (postgres.orders, none) := by
      have hheld : (postgres.orders.any
          (PostgresWooShops.ordersPkey.clash ⟨orderId, accountId, none, none, now, none⟩)) = true :=
        any_eq_true.2 ⟨row, hrow, decide_eq_true hkey⟩
      rw [Rows.insertUnless, if_pos hheld]
    have hread : (Rows.select planner postgres.orders fun row => row.orderId = orderId).head? = some row :=
      Rows.select_head hrows planner
    refine ⟨postgres, .claim (Ledger.claimOf row.order), ?_, ?_, .inl ?_⟩
    · rw [PostgresWooShops.execute, PostgresWooShops.claimOrder, hinsert]
      cases hplaced : row.placed <;> simp only [Except.map, hread, Ledger.claimOf, WooOrderRow.order, hplaced]
    · simpa only [MemoryWooShops.perform, Ledger.claimOrder, hget] using h
    · simp only [MemoryWooShops.perform, Ledger.claimOrder, hget]

theorem recordOrder (orderId : String) (order : PlacedOrder) (now : Int) :
    CameAlike (.recordOrder orderId order now) (memory.perform (.recordOrder orderId order now))
      (postgres.execute database planner (.recordOrder orderId order now)) := by
  refine ⟨_, _, rfl, ?_, .inl rfl⟩
  have hwhole : ∀ row ∈ (postgres.recordOrder orderId order now).orders,
      row.wooOrderId.isSome = row.wooOrderNumber.isSome := by
    intro row hrow
    obtain ⟨held, hheld, rfl⟩ := mem_map.1 hrow
    split
    · rfl
    · exact h.whole held hheld
  rcases h.orders.under orderId with ⟨hget, hrows⟩ | ⟨row, hrow, hkey, hget, -⟩
  · refine { h with orders := ?_, whole := hwhole }
    have hsame : (postgres.recordOrder orderId order now).orders = postgres.orders :=
      Rows.update_of_filter_nil hrows _
    simpa only [MemoryWooShops.perform, Ledger.recordOrder, hget, hsame] using h.orders
  · have hmemory : (memory.perform (.recordOrder orderId order now)).1 =
        { memory with orders := memory.orders.set orderId { row.order with placed := some order } } := by
      simp only [MemoryWooShops.perform, Ledger.recordOrder, hget]
    rw [hmemory]
    refine { h with orders := ?_, whole := hwhole }
    exact h.orders.update hrow hkey (fun other _ => decide_eq_true_iff) hkey rfl

theorem releaseOrder (orderId : String) :
    CameAlike (.releaseOrder orderId) (memory.perform (.releaseOrder orderId))
      (postgres.execute database planner (.releaseOrder orderId)) := by
  refine ⟨_, _, rfl, ?_, .inl rfl⟩
  have hwhole : ∀ row ∈ (postgres.releaseOrder orderId).orders,
      row.wooOrderId.isSome = row.wooOrderNumber.isSome :=
    fun row hrow => h.whole row (mem_filter.1 hrow).1
  refine { h with orders := ?_, whole := hwhole }
  rcases h.orders.under orderId with ⟨hget, hrows⟩ | ⟨row, hrow, hkey, hget, -⟩
  · have hsame : (postgres.releaseOrder orderId).orders = postgres.orders :=
      Rows.delete_of_filter_nil (Rows.Mirrors.filter_none hrows _)
    simpa only [MemoryWooShops.perform, Ledger.releaseOrder, hget, hsame] using h.orders
  · have hplaced : row.placed.isNone = row.wooOrderId.isNone := by
      have := h.whole row hrow
      unfold WooOrderRow.placed
      cases hid : row.wooOrderId <;> cases hnumber : row.wooOrderNumber <;> simp_all
    simp only [MemoryWooShops.perform, Ledger.releaseOrder, hget, WooOrderRow.order, hplaced]
    cases hid : row.wooOrderId.isNone with
    | true => exact h.orders.delete (h.orders.filter_pos (c := fun row => row.wooOrderId.isNone) hrow hkey hid)
    | false =>
      have hsame : (postgres.releaseOrder orderId).orders = postgres.orders :=
        Rows.delete_of_filter_nil (h.orders.filter_neg (c := fun row => row.wooOrderId.isNone) hrow hkey hid)
      rw [hsame]
      exact h.orders

end SideBySide

end

/-- **A call.** Two stores that are side by side answer a call that meets the condition the same, and are side by
side again. -/
theorem perform_sameAnswer (h : SideBySide s.memory s.postgres)
    (hissued : ∀ token, token ∉ s.issued → s.memory.grants.get token = none) {call : WooCall}
    (hmeets : WooMeets database s call) (planner : Rows.Planner) :
    SideBySide (s.memory.perform call).1 (s.postgres.perform database planner call).1 ∧
      ∃ answer, (s.postgres.perform database planner call).2 = .ok answer ∧
        SameAnswer call (s.memory.perform call).2 answer := by
  obtain ⟨htakes, hmeets⟩ := hmeets
  have hcame : CameAlike call (s.memory.perform call) (s.postgres.execute database planner call) := by
    cases call with
    | beginGrant grant =>
      refine h.beginGrant ?_ hmeets.2
      rw [Dict.has, hissued grant.token hmeets.1]
      rfl
    | spendGrant token now => exact h.spendGrant token now
    | grantFor accountId =>
      exact ⟨_, _, rfl, h, sameAnswer_of_newest (newest_memory s.memory accountId)
        (newest_postgres h planner accountId)⟩
    | sweepGrants now => exact h.sweepGrants now
    | connect connection => exact h.connect hmeets
    | connectionOf accountId => exact h.connectionOf accountId
    | forget accountId => exact h.forget accountId
    | connections => exact h.connections
    | claimOrder accountId orderId now => exact h.claimOrder hmeets
    | recordOrder orderId order now => exact h.recordOrder orderId order now
    | releaseOrder orderId => exact h.releaseOrder orderId
  obtain ⟨after, answer, hexecute, hside, hsame⟩ := hcame
  simp only [PostgresWooShops.perform, htakes, if_true, hexecute]
  exact ⟨hside, answer, rfl, hsame⟩

theorem grants_perform {token : String} (hnone : memory.grants.get token = none) {call : WooCall}
    (hissues : token ∉ call.issues) : (memory.perform call).1.grants.get token = none := by
  cases call with
  | beginGrant grant =>
    have hne : token ≠ grant.token := fun heq => hissues (mem_singleton.2 heq)
    exact (get_set_ne _ _ hne).trans hnone
  | spendGrant other now =>
    refine (get_delete _ _ _).trans ?_
    split
    · rfl
    · exact hnone
  | sweepGrants now =>
    refine (get_dropping _ _ _).trans ?_
    rw [hnone]
    rfl
  | grantFor | connect | connectionOf | forget | connections | claimOrder | recordOrder | releaseOrder => exact hnone

theorem placed_perform {orderId : String} {order : PlacedOrder}
    (h : ∃ row, memory.orders.get orderId = some row ∧ row.placed = some order) {call : WooCall}
    (hcall : ∀ order' now, call = .recordOrder orderId order' now → order' = order) :
    ∃ row, (memory.perform call).1.orders.get orderId = some row ∧ row.placed = some order := by
  obtain ⟨row, hget, hplaced⟩ := h
  cases call with
  | claimOrder accountId other now =>
    simp only [MemoryWooShops.perform, Ledger.claimOrder]
    cases hother : memory.orders.get other with
    | none =>
      have hne : orderId ≠ other := by
        rintro rfl
        cases hget.symm.trans hother
      exact ⟨row, (get_set_ne _ _ hne).trans hget, hplaced⟩
    | some held => exact ⟨row, hget, hplaced⟩
  | recordOrder other order' now =>
    simp only [MemoryWooShops.perform, Ledger.recordOrder]
    cases hother : memory.orders.get other with
    | none => exact ⟨row, hget, hplaced⟩
    | some held =>
      by_cases heq : orderId = other
      · subst heq
        rw [hcall order' now rfl]
        exact ⟨_, get_set_self _ _ _, rfl⟩
      · exact ⟨row, (get_set_ne _ _ heq).trans hget, hplaced⟩
  | releaseOrder other =>
    simp only [MemoryWooShops.perform, Ledger.releaseOrder]
    cases hother : memory.orders.get other with
    | none => exact ⟨row, hget, hplaced⟩
    | some held =>
      dsimp only
      split
      · next hopen =>
        have hne : orderId ≠ other := by
          rintro rfl
          cases hget.symm.trans hother
          rw [hplaced] at hopen
          cases hopen
        refine ⟨row, ?_, hplaced⟩
        rw [get_delete, if_neg hne, hget]
      · exact ⟨row, hget, hplaced⟩
  | beginGrant | spendGrant | grantFor | sweepGrants | connect | connectionOf | forget | connections =>
    exact ⟨row, hget, hplaced⟩

/-! ## Runs -/

abbrev WooHappening := Happening (Rows.Planner × WooCall) WooAnswered

/-- A call spent a token. -/
def spends (token : String) : WooHappening → Bool
  | .emitted ⟨.spendGrant spent _, .grant (some _), _⟩ => decide (spent = token)
  | _ => false

def ledgersAfter (database : WooDatabase) (steps : List (Rows.Planner × WooCall)) : WooLedgers :=
  (bothLedgers database).run {} steps

/-- What is so of both after a run, and of what was answered in it. -/
structure OneLedger (s : WooLedgers) (log : List WooHappening) : Prop where
  side : SideBySide s.memory s.postgres
  issued : ∀ token, token ∉ s.issued → s.memory.grants.get token = none
  same : ∀ answered, .emitted answered ∈ log →
    ∃ answer, answered.postgres = .ok answer ∧ SameAnswer answered.call answered.memory answer
  live : ∀ answered, .emitted answered ∈ log → ∀ token now grant, answered.call = .spendGrant token now →
    answered.memory = .grant (some grant) → grant.token = token ∧ now < grant.expiresAt
  once : ∀ token, log.countP (spends token) ≤ 1 ∧
    (0 < log.countP (spends token) → token ∈ s.issued ∧ s.memory.grants.get token = none)

theorem oneLedger_empty : OneLedger {} [] :=
  ⟨sideBySide_empty, fun _ _ => rfl, fun _ h => absurd h not_mem_nil, fun _ h => absurd h not_mem_nil,
    fun _ => ⟨Nat.zero_le 1, fun h => absurd h (lt_irrefl 0)⟩⟩

theorem spendGrant_some (h : SideBySide memory postgres) {token : String} {now : Int} {grant : WooGrant}
    (hspent : (memory.spendGrant token now).2 = some grant) :
    memory.grants.get token = some grant ∧ grant.token = token ∧ now < grant.expiresAt := by
  obtain ⟨hget, hlive⟩ := Option.filter_eq_some_iff.1 hspent
  obtain ⟨row, -, rfl, rfl⟩ := h.grants.get_iff.1 hget
  refine ⟨hget, rfl, ?_⟩
  simpa using hlive

theorem countP_spends (token : String) (log : List WooHappening) (step : Rows.Planner × WooCall)
    (answered : WooAnswered) : (log ++ Reactor.stepLog step [answered]).countP (spends token) =
      log.countP (spends token) + (spends token (.emitted answered)).toNat := by
  have haccepted : spends token (.accepted step) = false := rfl
  rw [countP_append, Reactor.stepLog, countP_cons_of_neg (by simp [haccepted]), map_singleton]
  cases hspends : spends token (.emitted answered) with
  | false => rw [countP_cons_of_neg (by simp [hspends])]; rfl
  | true => rw [countP_cons_of_pos hspends]; rfl

theorem OneLedger.step {s' : WooLedgers} {log : List WooHappening} {step : Rows.Planner × WooCall}
    {out : List WooAnswered} (h : OneLedger s log) (hmeets : WooMeets database s step.2)
    (hreact : (bothLedgers database).react s step = .ok (s', out)) :
    OneLedger s' (log ++ Reactor.stepLog step out) := by
  obtain ⟨planner, call⟩ := step
  cases hreact
  obtain ⟨hside, answer, hanswer, hsame⟩ := perform_sameAnswer h.side h.issued hmeets planner
  have hissued : ∀ token, token ∉ s.issued ++ call.issues → (s.memory.perform call).1.grants.get token = none := by
    intro token hnot
    rw [mem_append, not_or] at hnot
    exact grants_perform (h.issued token hnot.1) hnot.2
  have hold {answered : WooAnswered} (hmem : .emitted answered ∈ log ++ Reactor.stepLog (planner, call)
      [⟨call, (s.memory.perform call).2, (s.postgres.perform database planner call).2⟩]) :
      .emitted answered ∈ log ∨
        answered = ⟨call, (s.memory.perform call).2, (s.postgres.perform database planner call).2⟩ := by
    simpa [Reactor.stepLog] using hmem
  refine ⟨hside, hissued, fun answered hmem => ?_, fun answered hmem token now grant hcall hspent => ?_,
    fun token => ?_⟩
  · rcases hold hmem with hmem | rfl
    · exact h.same answered hmem
    · exact ⟨answer, hanswer, hsame⟩
  · rcases hold hmem with hmem | rfl
    · exact h.live answered hmem token now grant hcall hspent
    · subst hcall
      exact (spendGrant_some h.side (WooAnswer.grant.inj hspent)).2
  · obtain ⟨honce, hgone⟩ := h.once token
    rw [countP_spends]
    cases hspends : spends token (.emitted
        (⟨call, (s.memory.perform call).2, (s.postgres.perform database planner call).2⟩ : WooAnswered)) with
    | false =>
      refine ⟨honce, fun hpos => ?_⟩
      obtain ⟨hin, hnone⟩ := hgone hpos
      refine ⟨mem_append_left _ hin, grants_perform hnone fun hagain => ?_⟩
      -- a token that was issued is issued no more
      cases call with
      | beginGrant grant =>
        rw [mem_singleton.1 hagain] at hin
        exact hmeets.2.1 hin
      | _ => exact absurd hagain not_mem_nil
    | true =>
      have hcall : ∃ now grant, call = .spendGrant token now ∧ (s.memory.spendGrant token now).2 = some grant := by
        cases call with
        | spendGrant spent now =>
          cases hcame : (s.memory.spendGrant spent now).2 with
          | none => simp [spends, MemoryWooShops.perform, hcame] at hspends
          | some grant =>
            simp only [spends, MemoryWooShops.perform, hcame, decide_eq_true_eq] at hspends
            subst hspends
            exact ⟨now, grant, rfl, hcame⟩
        | _ => cases hspends
      obtain ⟨now, grant, rfl, hcame⟩ := hcall
      obtain ⟨hget, -⟩ := spendGrant_some h.side hcame
      have hzero : log.countP (spends token) = 0 := by
        by_contra hpos
        have hnone := (hgone (Nat.pos_of_ne_zero hpos)).2
        cases hget.symm.trans hnone
      rw [hzero]
      refine ⟨le_rfl, fun _ => ⟨?_, ?_⟩⟩
      · by_contra hnot
        rw [mem_append, not_or] at hnot
        cases hget.symm.trans (h.issued token hnot.1)
      · exact (get_delete _ _ _).trans (if_pos rfl)

def LedgersMeet (database : WooDatabase) (steps : List (Rows.Planner × WooCall)) : Prop :=
  (bothLedgers database).Meets (fun s step => WooMeets database s step.2) {} steps

theorem oneLedger_run {steps : List (Rows.Planner × WooCall)} (hmeets : LedgersMeet database steps) :
    OneLedger (ledgersAfter database steps) ((bothLedgers database).log {} steps) := by
  have h := (bothLedgers database).log_induction_meeting (P := OneLedger) (fun h hA hr => h.step hA hr)
    oneLedger_empty steps hmeets
  rwa [nil_append] at h

theorem placed_run {orderId : String} {order : PlacedOrder} (between : List (Rows.Planner × WooCall))
    (h : ∃ row, s.memory.orders.get orderId = some row ∧ row.placed = some order)
    (hbetween : ∀ step ∈ between, ∀ order' now, step.2 = .recordOrder orderId order' now → order' = order) :
    ∃ row, ((bothLedgers database).run s between).memory.orders.get orderId = some row ∧ row.placed = some order := by
  induction between generalizing s with
  | nil => exact h
  | cons step between ih =>
    obtain ⟨hstep, hbetween⟩ := forall_mem_cons.1 hbetween
    exact ih (placed_perform h hstep) hbetween

/-- **One ledger.** In every run in which a token is issued once, the columns take what is sent and a new row names
an account that is there: every call is answered the same by both; a token is spent at most once, and never when its
time is up; and an order that is recorded is answered as placed with the number it was recorded with, by both, until
another one is recorded for it. -/
theorem one_ledger (database : WooDatabase) (steps : List (Rows.Planner × WooCall))
    (hmeets : LedgersMeet database steps) :
    (∀ answered, .emitted answered ∈ (bothLedgers database).log {} steps →
      ∃ answer, answered.postgres = .ok answer ∧ SameAnswer answered.call answered.memory answer) ∧
    (∀ token, ((bothLedgers database).log {} steps).countP (spends token) ≤ 1) ∧
    (∀ answered, .emitted answered ∈ (bothLedgers database).log {} steps → ∀ token now grant,
      answered.call = .spendGrant token now → answered.memory = .grant (some grant) →
        grant.token = token ∧ now < grant.expiresAt) ∧
    ∀ before between planner orderId order now,
      steps = before ++ (planner, .recordOrder orderId order now) :: between →
      (ledgersAfter database before).memory.orders.has orderId = true →
      (∀ step ∈ between, ∀ order' now', step.2 = .recordOrder orderId order' now' → order' = order) →
      ∀ accountId now', ((ledgersAfter database steps).memory.perform (.claimOrder accountId orderId now')).2 =
          .claim (.placed order) ∧
        ∀ planner', database.takes (.claimOrder accountId orderId now') = true →
          ((ledgersAfter database steps).postgres.perform database planner' (.claimOrder accountId orderId now')).2 =
            .ok (.claim (.placed order)) := by
  have h := oneLedger_run hmeets
  refine ⟨h.same, fun token => (h.once token).1, h.live, ?_⟩
  rintro before between planner orderId order now rfl hhas hbetween accountId now'
  have hplaced : ∃ row, (ledgersAfter database (before ++ (planner, .recordOrder orderId order now) ::
      between)).memory.orders.get orderId = some row ∧ row.placed = some order := by
    unfold ledgersAfter
    rw [Reactor.run_append, Reactor.run_cons]
    refine placed_run between ?_ hbetween
    obtain ⟨row, hrow⟩ := Option.isSome_iff_exists.1 hhas
    refine ⟨{ row with placed := some order }, ?_, rfl⟩
    have hrecorded : (ledgersAfter database before).memory.orders.recordOrder orderId order =
        (ledgersAfter database before).memory.orders.set orderId { row with placed := some order } := by
      rw [Ledger.recordOrder, hrow]
    exact (congrArg (Dict.get · orderId) hrecorded).trans (Dict.get_set_self _ _ _)
  generalize ledgersAfter database (before ++ (planner, .recordOrder orderId order now) :: between) = s at h hplaced
  obtain ⟨row, hget, hplaced⟩ := hplaced
  have hanswer : (s.memory.perform (.claimOrder accountId orderId now')).2 = .claim (.placed order) := by
    simp only [MemoryWooShops.perform, Ledger.claimOrder, hget, Ledger.claimOf, hplaced]
  refine ⟨hanswer, fun planner' htakes => ?_⟩
  have hclaim : WooMeets database s (.claimOrder accountId orderId now') := by
    refine ⟨htakes, fun hnone => ?_⟩
    rw [Dict.has, hget] at hnone
    cases hnone
  obtain ⟨-, answer, hpostgres, hsame⟩ := perform_sameAnswer h.side h.issued hclaim planner'
  rw [hpostgres]
  rcases hsame with heq | ⟨connections, -, heq, -⟩ | ⟨account, grant, grant', heq, -⟩
  · rw [← heq, hanswer]
  · cases heq
  · cases heq

/-- A database with one account, whose columns take every text without the character zero. -/
def oneAccountDatabase : WooDatabase where
  takesText text := decide ('\x00' ∉ text.toList)
  takesMoment _ := true
  hasAccount accountId := decide (accountId = "acc_1")

/-- A call, the database coming upon its rows as they were written. -/
def asWritten (call : WooCall) : Rows.Planner × WooCall := (⟨fun rows => rows, fun rows => .refl rows⟩, call)

/-- A sale that is taken on and recorded is answered with its number. -/
theorem recorded_sale_is_placed :
    ((ledgersAfter oneAccountDatabase [asWritten (.claimOrder "acc_1" "ord_1" 0),
        asWritten (.recordOrder "ord_1" ⟨"13", "WOO-13"⟩ 0)]).memory.perform (.claimOrder "acc_1" "ord_1" 9)).2 =
      .claim (.placed ⟨"13", "WOO-13"⟩) :=
  ((one_ledger oneAccountDatabase [asWritten (.claimOrder "acc_1" "ord_1" 0),
      asWritten (.recordOrder "ord_1" ⟨"13", "WOO-13"⟩ 0)]
    ⟨⟨by decide +kernel, fun _ => by decide⟩, ⟨by decide +kernel, trivial⟩, trivial⟩).2.2.2
    [asWritten (.claimOrder "acc_1" "ord_1" 0)] [] _ "ord_1" ⟨"13", "WOO-13"⟩ 0 rfl rfl
    (fun _ hstep => absurd hstep List.not_mem_nil) "acc_1" 9).1

/-- A Connect of an account that is not there is taken in memory and refused by the database; and an order that is
recorded under another number is answered with that one. -/
theorem ledgers_part :
    (¬ ∀ (steps : List (Rows.Planner × WooCall)) (answered : WooAnswered),
      .emitted answered ∈ (bothLedgers oneAccountDatabase).log {} steps →
        ∃ answer, answered.postgres = .ok answer ∧ SameAnswer answered.call answered.memory answer) ∧
    ¬ ∀ (before between : List (Rows.Planner × WooCall)) (orderId : String) (order : PlacedOrder) (now : Int),
      (ledgersAfter oneAccountDatabase before).memory.orders.has orderId = true →
        ((ledgersAfter oneAccountDatabase (before ++ asWritten (.recordOrder orderId order now) ::
          between)).memory.perform (.claimOrder "acc_1" orderId now)).2 = .claim (.placed order) := by
  constructor
  · intro h
    obtain ⟨answer, hanswer, -⟩ := h [asWritten (.beginGrant ⟨"token", "acc_2", "https://shop.example", 0, 9⟩)] _
      (List.mem_cons_of_mem _ (List.mem_cons_self ..))
    cases hanswer
  · intro h
    have hplaced := h [asWritten (.claimOrder "acc_1" "ord_1" 0)] [asWritten (.recordOrder "ord_1" ⟨"14", "WOO-14"⟩ 0)]
      "ord_1" ⟨"13", "WOO-13"⟩ 0 rfl
    exact absurd hplaced (by decide)

end Coinslot
