import Coinslot.Cabinet.Shops
import Coinslot.Lib.Tables

/-!
# The two ledgers of the connected shops

Where a merchant's WooCommerce connection is kept (`apps/cabinet/src/woo-shops.ts`, with the tables of `schema.ts`):
the Connects that are under way, the shops that are connected and the orders that were placed in them. The port has
two implementations, in memory and on Postgres, and both are given every call here (`bothLedgers`).

What the one on Postgres relies on is a `WooDatabase`: which values its columns take and which accounts there are,
for every row names one. Nothing asks the one in memory for either.
-/

namespace Coinslot

/-- A Connect a merchant started, waiting for the shop to answer. -/
structure WooGrant where
  token : String
  accountId : String
  shopUrl : String
  startedAt : Int
  expiresAt : Int
  deriving DecidableEq, Repr

/-- A call on the port. -/
inductive WooCall where
  | beginGrant (grant : WooGrant)
  | spendGrant (token : String) (now : Int)
  | grantFor (accountId : String)
  | sweepGrants (now : Int)
  | connect (connection : WooConnection)
  | connectionOf (accountId : String)
  | forget (accountId : String)
  | connections
  | claimOrder (accountId orderId : String) (now : Int)
  | recordOrder (orderId : String) (order : PlacedOrder) (now : Int)
  | releaseOrder (orderId : String)
  deriving DecidableEq, Repr

/-- What a call answers. -/
inductive WooAnswer where
  | nothing
  | grant (grant : Option WooGrant)
  | swept (count : Nat)
  | connection (connection : Option WooConnection)
  | connections (connections : List WooConnection)
  | claim (claim : OrderClaim)
  deriving DecidableEq, Repr

/-! ## In memory -/

/-- The three maps. -/
structure MemoryWooShops where
  grants : Dict String WooGrant := .empty
  shops : Dict String WooConnection := .empty
  orders : Ledger := .empty

namespace MemoryWooShops

variable (store : MemoryWooShops)

/-- Spends a token: it is gone, and what it named is handed back unless its time is up. -/
def spendGrant (token : String) (now : Int) : MemoryWooShops × Option WooGrant :=
  ({ store with grants := store.grants.delete token },
    (store.grants.get token).filter fun found => !decide (found.expiresAt ≤ now))

/-- The later of two grants of an account; of two as late the one that is met last. -/
def newer (accountId : String) (newest : Option WooGrant) (grant : WooGrant) : Option WooGrant :=
  if grant.accountId ≠ accountId then newest
  else
    match newest with
    | none => some grant
    | some found => if found.startedAt ≤ grant.startedAt then some grant else some found

/-- The newest Connect an account started. -/
def grantFor (accountId : String) : Option WooGrant := store.grants.values.foldl (newer accountId) none

/-- Clears out the Connects nobody came back for, and says how many. -/
def sweepGrants (now : Int) : MemoryWooShops × Nat :=
  ({ store with grants := store.grants.dropping fun grant => grant.expiresAt < now },
    (store.grants.values.filter fun grant => grant.expiresAt < now).length)

/-- A call on the store in memory. -/
def perform : WooCall → MemoryWooShops × WooAnswer
  | .beginGrant grant => ({ store with grants := store.grants.set grant.token grant }, .nothing)
  | .spendGrant token now => ((store.spendGrant token now).1, .grant (store.spendGrant token now).2)
  | .grantFor accountId => (store, .grant (store.grantFor accountId))
  | .sweepGrants now => ((store.sweepGrants now).1, .swept (store.sweepGrants now).2)
  | .connect connection => ({ store with shops := store.shops.set connection.accountId connection }, .nothing)
  | .connectionOf accountId => (store, .connection (store.shops.get accountId))
  | .forget accountId => ({ store with shops := store.shops.delete accountId }, .nothing)
  | .connections => (store, .connections store.shops.values)
  | .claimOrder accountId orderId now =>
    ({ store with orders := (store.orders.claimOrder orderId accountId now).1 },
      .claim (store.orders.claimOrder orderId accountId now).2)
  | .recordOrder orderId order _ => ({ store with orders := store.orders.recordOrder orderId order }, .nothing)
  | .releaseOrder orderId => ({ store with orders := store.orders.releaseOrder orderId }, .nothing)

end MemoryWooShops

/-! ## On Postgres -/

/-- What is documented of the database: the values no column refuses, and the accounts there are. -/
structure WooDatabase where
  takesText : String → Bool
  takesMoment : Int → Bool
  hasAccount : String → Bool

/-- A row of `cabinet_woo_grants`. -/
structure WooGrantRow where
  token : String
  accountId : String
  shopUrl : String
  expiresAt : Int
  createdAt : Int
  deriving DecidableEq, Repr

/-- A row of `cabinet_woo_orders`. -/
structure WooOrderRow where
  orderId : String
  accountId : String
  wooOrderId : Option String
  wooOrderNumber : Option String
  attemptedAt : Int
  placedAt : Option Int
  deriving DecidableEq, Repr

/-- The tables. A row of `cabinet_woo_shops` is a connection. -/
structure PostgresWooShops where
  grants : List WooGrantRow := []
  shops : List WooConnection := []
  orders : List WooOrderRow := []

def WooGrantRow.grant (row : WooGrantRow) : WooGrant :=
  ⟨row.token, row.accountId, row.shopUrl, row.createdAt, row.expiresAt⟩

/-- The order a row says was placed, where it says all of it. -/
def WooOrderRow.placed (row : WooOrderRow) : Option PlacedOrder :=
  match row.wooOrderId, row.wooOrderNumber with
  | some id, some number => some ⟨id, number⟩
  | _, _ => none

namespace PostgresWooShops

open Rows

/-- The primary key of `cabinet_woo_grants`. -/
def grantsPkey : UniqueRule WooGrantRow := ⟨"cabinet_woo_grants_pkey", fun row held => held.token = row.token⟩

/-- The primary key of `cabinet_woo_shops`. -/
def shopsPkey : UniqueRule WooConnection :=
  ⟨"cabinet_woo_shops_pkey", fun row held => held.accountId = row.accountId⟩

/-- The primary key of `cabinet_woo_orders`. -/
def ordersPkey : UniqueRule WooOrderRow := ⟨"cabinet_woo_orders_pkey", fun row held => held.orderId = row.orderId⟩

variable (database : WooDatabase) (planner : Planner) (store : PostgresWooShops)

def namesAnAccount {ρ : Type} (name : String) (accountId : ρ → String) : ReferenceRule ρ :=
  ⟨name, fun row => database.hasAccount (accountId row)⟩

def grantRow (grant : WooGrant) : WooGrantRow :=
  ⟨grant.token, grant.accountId, grant.shopUrl, grant.expiresAt, grant.startedAt⟩

/-- Writes down a Connect that is under way. -/
def beginGrant (grant : WooGrant) : Except Refusal PostgresWooShops :=
  (insert [grantsPkey] [namesAnAccount database "cabinet_woo_grants_account_id_cabinet_accounts_id_fk" (·.accountId)]
    store.grants (grantRow grant)).map fun rows => { store with grants := rows }

/-- Spends a token, in one statement. -/
def spendGrant (token : String) (now : Int) : PostgresWooShops × Option WooGrant :=
  ({ store with grants := delete store.grants fun row => row.token = token },
    match (select planner store.grants fun row => row.token = token).head? with
    | none => none
    | some row => if row.expiresAt ≤ now then none else some row.grant)

/-- The newest Connect an account started. -/
def grantFor (accountId : String) : Option WooGrant :=
  ((select planner store.grants fun row => row.accountId = accountId).mergeSort
    fun row other => other.createdAt ≤ row.createdAt).head?.map WooGrantRow.grant

/-- Clears out the Connects nobody came back for, and says how many. -/
def sweepGrants (now : Int) : PostgresWooShops × Nat :=
  ({ store with grants := delete store.grants fun row => row.expiresAt < now },
    (store.grants.filter fun row => row.expiresAt < now).length)

/-- The row an account has, with another connection written over it. -/
def overwritten (connection row : WooConnection) : WooConnection :=
  { row with
    shopUrl := connection.shopUrl
    consumerKey := connection.consumerKey
    consumerSecret := connection.consumerSecret
    permissions := connection.permissions
    connectedAt := connection.connectedAt }

/-- Writes a connection, over whatever that account had before. -/
def connect (connection : WooConnection) : Except Refusal PostgresWooShops :=
  (insertOver shopsPkey [shopsPkey]
    [namesAnAccount database "cabinet_woo_shops_account_id_cabinet_accounts_id_fk" (·.accountId)] store.shops
    connection (overwritten connection)).map fun after => { store with shops := after.1 }

/-- Takes a sale on, or says what is known about it: a row is written where there is none, and read where there is
one. -/
def claimOrder (accountId orderId : String) (now : Int) : Except Refusal (PostgresWooShops × OrderClaim) :=
  (insertUnless ordersPkey [ordersPkey]
    [namesAnAccount database "cabinet_woo_orders_account_id_cabinet_accounts_id_fk" (·.accountId)] store.orders
    ⟨orderId, accountId, none, none, now, none⟩).map fun after =>
      ({ store with orders := after.1 },
        match after.2 with
        | some _ => .ours
        | none =>
          match (select planner after.1 fun row => row.orderId = orderId).head? with
          | none => .ours
          | some row =>
            match row.placed with
            | some order => .placed order
            | none => .unknown row.attemptedAt)

/-- Completes a claim with what the shop answered. -/
def recordOrder (orderId : String) (order : PlacedOrder) (now : Int) : PostgresWooShops :=
  { store with
    orders := update store.orders (fun row => row.orderId = orderId) fun row =>
      { row with wooOrderId := some order.id, wooOrderNumber := some order.number, placedAt := some now } }

/-- Gives up a claim nothing came of. -/
def releaseOrder (orderId : String) : PostgresWooShops :=
  { store with orders := delete store.orders fun row => row.orderId = orderId && row.wooOrderId.isNone }

end PostgresWooShops

/-- Whether the columns take all that a call sends. -/
def WooDatabase.takes (database : WooDatabase) : WooCall → Bool
  | .beginGrant grant =>
    [grant.token, grant.accountId, grant.shopUrl].all database.takesText &&
      [grant.expiresAt, grant.startedAt].all database.takesMoment
  | .spendGrant token _ => database.takesText token
  | .grantFor accountId => database.takesText accountId
  | .sweepGrants now => database.takesMoment now
  | .connect connection =>
    [connection.accountId, connection.shopUrl, connection.consumerKey, connection.consumerSecret,
      connection.permissions].all database.takesText && database.takesMoment connection.connectedAt
  | .connectionOf accountId => database.takesText accountId
  | .forget accountId => database.takesText accountId
  | .connections => true
  | .claimOrder accountId orderId now => [orderId, accountId].all database.takesText && database.takesMoment now
  | .recordOrder orderId order now =>
    [order.id, order.number, orderId].all database.takesText && database.takesMoment now
  | .releaseOrder orderId => database.takesText orderId

namespace PostgresWooShops

variable (database : WooDatabase) (planner : Rows.Planner) (store : PostgresWooShops)

/-- What a call comes to whose values the columns take. -/
def execute : WooCall → Except Rows.Refusal (PostgresWooShops × WooAnswer)
  | .beginGrant grant => (store.beginGrant database grant).map fun after => (after, .nothing)
  | .spendGrant token now =>
    .ok ((store.spendGrant planner token now).1, .grant (store.spendGrant planner token now).2)
  | .grantFor accountId => .ok (store, .grant (store.grantFor planner accountId))
  | .sweepGrants now => .ok ((store.sweepGrants now).1, .swept (store.sweepGrants now).2)
  | .connect connection => (store.connect database connection).map fun after => (after, .nothing)
  | .connectionOf accountId =>
    .ok (store, .connection (Rows.select planner store.shops fun row => row.accountId = accountId).head?)
  | .forget accountId =>
    .ok ({ store with shops := Rows.delete store.shops fun row => row.accountId = accountId }, .nothing)
  | .connections => .ok (store, .connections (Rows.select planner store.shops fun _ => true))
  | .claimOrder accountId orderId now =>
    (store.claimOrder database planner accountId orderId now).map fun after => (after.1, .claim after.2)
  | .recordOrder orderId order now => .ok (store.recordOrder orderId order now, .nothing)
  | .releaseOrder orderId => .ok (store.releaseOrder orderId, .nothing)

/-- A call on the store on Postgres: what it leaves, and what it answers unless it is refused. -/
def perform (call : WooCall) : PostgresWooShops × Except Rows.Refusal WooAnswer :=
  if database.takes call then
    match store.execute database planner call with
    | .ok (after, answer) => (after, .ok answer)
    | .error refused => (store, .error refused)
  else (store, .error .parameter)

end PostgresWooShops

/-! ## Both -/

/-- Both stores, and the tokens that were issued so far. -/
structure WooLedgers where
  memory : MemoryWooShops := {}
  postgres : PostgresWooShops := {}
  issued : List String := []

/-- The token a call issues. -/
def WooCall.issues : WooCall → List String
  | .beginGrant grant => [grant.token]
  | _ => []

/-- What both answer to one call. -/
structure WooAnswered where
  call : WooCall
  memory : WooAnswer
  postgres : Except Rows.Refusal WooAnswer

/-- Both stores, given every call. The database comes upon its rows in any order. -/
def bothLedgers (database : WooDatabase) : Reactor WooLedgers (Rows.Planner × WooCall) WooAnswered Empty where
  react s step :=
    let memory := s.memory.perform step.2
    let postgres := s.postgres.perform database step.1 step.2
    .ok (⟨memory.1, postgres.1, s.issued ++ step.2.issues⟩, [⟨step.2, memory.2, postgres.2⟩])

end Coinslot
