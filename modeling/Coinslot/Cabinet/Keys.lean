import Coinslot.Gateway.Catalog
import Coinslot.Gateway.World

/-!
# The key on an account

An account of the cabinet carries the key the gateway knows its merchant by, and every sign-in replaces it
(`replaceTheKeyOf`, `apps/cabinet/src/server.ts`): a fresh key is asked for with the one on the row, the row
is moved from the one to the other, and the key that is out of use is forgotten, with itself. Each of the
three is a call whose answer may be lost, and that may take effect long after nobody waits for it.

The gateway's side is its ring of keys (`apps/gateway/src/adapters/memory/store.ts`) behind the door that
reads a call's key. Accounts are made at registration, or at a terminal where the gateway is asked to make a
key of the same kind and the answer is thrown away (`apps/cabinet/src/account-command.ts`).
-/

namespace Coinslot

/-! ## The gateway's ring of keys -/

/-- The keys, and the digests they are found by: a digest finds a key that is there, and no two find the
same one. -/
structure KeyRing where
  merchants : Dict String String
  keys : Dict String StoredKey
  keysByDigest : Dict String String
  found : ∀ digest id, keysByDigest.get digest = some id → ∃ key, keys.get id = some key ∧ key.id = id
  apart : ∀ digest other id, keysByDigest.get digest = some id → keysByDigest.get other = some id →
    digest = other

namespace KeyRing

/-- No merchant, and no key. -/
def empty : KeyRing :=
  { merchants := .empty
    keys := .empty
    keysByDigest := .empty
    found := fun _ _ h => (by cases h)
    apart := fun _ _ _ h => (by cases h) }

/-- The key a digest finds, where it works. -/
def workingKey (ring : KeyRing) (digest : String) : Option StoredKey :=
  match (ring.keysByDigest.get digest).bind ring.keys.get with
  | none => none
  | some key => if key.disabledAt.isSome then none else some key

/-- Writes a key of a merchant down, under an identifier and a digest no other key has. -/
def writeKey (ring : KeyRing) (id merchantId label digest : String) (purpose : KeyPurpose)
    (t : Int) : Except String KeyRing :=
  if !ring.merchants.has merchantId then .error s!"there is no merchant {merchantId} for a key to belong to"
  else if hid : ring.keys.has id = true then .error s!"the key {id} is already written down"
  else if hdigest : ring.keysByDigest.has digest = true then
    .error "a key with that digest is already written down"
  else
    have old {other found : String} (h : ring.keysByDigest.get other = some found) : found ≠ id := by
      rintro rfl
      obtain ⟨key, hkey, -⟩ := ring.found _ _ h
      exact hid (by simp [Dict.has, hkey])
    .ok
      { ring with
        keys := ring.keys.set id ⟨id, merchantId, label, purpose, t, none, none⟩
        keysByDigest := ring.keysByDigest.set digest id
        found := fun other found h => by
          rcases Dict.of_get_set h with ⟨-, rfl⟩ | ⟨-, h⟩
          · exact ⟨_, Dict.get_set_self _ _ _, rfl⟩
          · rw [Dict.get_set_ne _ _ (old h)]
            exact ring.found other found h
        apart := fun one other found h h' => by
          rw [Dict.get_set] at h h'
          split at h <;> split at h'
          · next h₁ h₂ => exact h₁.trans h₂.symm
          · cases h; exact absurd rfl (old h')
          · cases h'; exact absurd rfl (old h)
          · exact ring.apart one other found h h' }

/-- Removes a key that was made for a cabinet, and with it its digest. -/
def forgetCabinetKey (ring : KeyRing) (keyId : String) : KeyRing × Bool :=
  match ring.keys.get keyId with
  | none => (ring, false)
  | some going =>
    if going.purpose ≠ .cabinet then (ring, false)
    else
      ({ ring with
          keys := ring.keys.delete keyId
          keysByDigest := ring.keysByDigest.dropping (· = keyId)
          found := fun digest id h => by
            rw [Dict.get_dropping, Option.filter_eq_some_iff] at h
            obtain ⟨key, hkey, hid⟩ := ring.found digest id h.1
            refine ⟨key, ?_, hid⟩
            rw [Dict.get_delete, if_neg (by simpa using h.2)]
            exact hkey
          apart := fun digest other id h h' => by
            rw [Dict.get_dropping, Option.filter_eq_some_iff] at h h'
            exact ring.apart digest other id h.1 h'.1 }, true)

end KeyRing

/-! ## The gateway's calls -/

def cabinetKeyLabel : String := "the key a cabinet signs this merchant in with"

namespace KeyRing

section

variable (digest : String → String)

/-- A merchant registers, with a first key of his. -/
def registerMerchant (ring : KeyRing) (merchantId name id secret : String) (t : Int) : KeyRing × Option String :=
  if ring.merchants.has merchantId then (ring, none)
  else
    let made : KeyRing := { ring with merchants := ring.merchants.set merchantId name }
    match made.writeKey id merchantId cabinetKeyLabel (digest secret) .cabinet t with
    | .error _ => (ring, none)
    | .ok ring => (ring, some secret)

/-- A call with a key asks for a key of the same merchant for a cabinet, and is refused where it came with
a key that does not work, or with one for the merchant's own code. -/
def issueCabinetKey (ring : KeyRing) (presented id secret : String) (t : Int) : KeyRing × Option String :=
  match ring.workingKey (digest presented) with
  | none => (ring, none)
  | some key =>
    if key.purpose ≠ .cabinet then (ring, none)
    else
      match ring.writeKey id key.merchantId cabinetKeyLabel (digest secret) .cabinet t with
      | .error _ => (ring, none)
      | .ok ring => (ring, some secret)

/-- A call with a key has that key forgotten, with the same refusals. -/
def forgetItself (ring : KeyRing) (presented : String) : KeyRing × Bool :=
  match ring.workingKey (digest presented) with
  | none => (ring, false)
  | some key => if key.purpose ≠ .cabinet then (ring, false) else ((ring.forgetCabinetKey key.id).1, true)

end

/-- The gateway accepts a cabinet's calls with the key of a digest. -/
def accepts (ring : KeyRing) (digest : String) : Bool :=
  (ring.workingKey digest).any fun key => key.purpose = .cabinet

end KeyRing

/-! ## The sign-ins -/

/-- The row of an account: its merchant, and the key the gateway knows him by. -/
structure AccountRow where
  merchantId : String
  key : String
  deriving DecidableEq, Repr

/-- How far a sign-in has got with the key it read: it asked for a fresh one, it has one and asked for the
row to be moved to it, or it asked for one of the two to be forgotten. Beside each call stands what came of
it, once it took effect. -/
inductive KeyPhase where
  | asking (issued : Option (Option String))
  | writing (fresh : String) (written : Option Bool)
  | forgetting (fresh : String) (written : Option Bool) (replaced : Bool) (forgotten : Option Bool)
  deriving DecidableEq, Repr

/-- A sign-in: the account, the key it read off its row, how far it got, whether it is over, and whether it
was cut off or met a failure. -/
structure KeySignIn where
  accountId : String
  holding : String
  phase : KeyPhase
  isOver : Bool
  failed : Bool
  deriving DecidableEq, Repr

namespace KeySignIn

section

variable (signIn : KeySignIn)

/-- The key that was made for a sign-in. -/
def made : Option String :=
  match signIn.phase with
  | .asking issued => issued.join
  | .writing fresh _ | .forgetting fresh _ _ _ => some fresh

/-- The key a sign-in that has got to forgetting is to forget: the one it replaced, or the fresh one. -/
def finishedWith (fresh : String) (replaced : Bool) : String := if replaced then signIn.holding else fresh

def moves (phase : KeyPhase) : KeySignIn := { signIn with phase := phase }

def ends : KeySignIn := { signIn with isOver := true, failed := true }

end

end KeySignIn

/-- The accounts, the keys and the sign-ins. The digests of keys that were made and never put on a row, for
no sign-in, are kept beside: nothing reads them. -/
structure KeyDesk where
  ring : KeyRing
  accounts : Dict String AccountRow
  signIns : Dict Nat KeySignIn
  spare : List String

/-- Everything that can happen next. -/
inductive KeyAction where
  | joins (merchantId name id secret : String) (t : Int)
  | checks (key id secret : String) (t : Int)
  | makes (accountId merchantId key : String)
  | signsIn (n : Nat) (accountId : String)
  | issues (n : Nat) (id secret : String) (t : Int)
  | writes (n : Nat)
  | forgets (n : Nat)
  | hears (n : Nat)
  | fails (n : Nat)
  | cutOff (n : Nat)
  deriving DecidableEq, Repr

namespace KeyDesk

def empty : KeyDesk := { ring := .empty, accounts := .empty, signIns := .empty, spare := [] }

/-- A key was made for no sign-in: the ring has it, and it is on no row. -/
def minted (digest : String → String) (s : KeyDesk) (came : KeyRing × Option String) : KeyDesk :=
  { s with ring := came.1, spare := (came.2.map digest).toList ++ s.spare }

/-- An account is made with a key. -/
def makes (digest : String → String) (s : KeyDesk) (accountId : String) (row : AccountRow) : KeyDesk :=
  { s with
    accounts := s.accounts.set accountId row
    spare := s.spare.filter (· ≠ digest row.key) }

def settles (s : KeyDesk) (n : Nat) (signIn : KeySignIn) : KeyDesk := { s with signIns := s.signIns.set n signIn }

def signsIn (s : KeyDesk) (n : Nat) (accountId : String) (row : AccountRow) : KeyDesk :=
  s.settles n ⟨accountId, row.key, .asking none, false, false⟩

/-- The gateway makes the fresh key of a sign-in, or refuses to. -/
def issues (digest : String → String) (s : KeyDesk) (n : Nat) (signIn : KeySignIn)
    (id secret : String) (t : Int) : KeyDesk :=
  let came := s.ring.issueCabinetKey digest signIn.holding id secret t
  { s.settles n (signIn.moves (.asking (some came.2))) with ring := came.1 }

/-- The row is moved to the fresh key, where it still holds the key that was read (`replaceMerchantKey`). -/
def replaceMerchantKey (s : KeyDesk) (accountId expected fresh : String) : Dict String AccountRow × Bool :=
  match s.accounts.get accountId with
  | none => (s.accounts, false)
  | some row =>
    if row.key = expected then (s.accounts.set accountId { row with key := fresh }, true)
    else (s.accounts, false)

/-- The write of a sign-in takes effect. -/
def writes (s : KeyDesk) (n : Nat) (signIn : KeySignIn) (fresh : String)
    (phase : Option Bool → KeyPhase) : KeyDesk :=
  let came := s.replaceMerchantKey signIn.accountId signIn.holding fresh
  { s.settles n (signIn.moves (phase (some came.2))) with accounts := came.1 }

/-- The gateway forgets the key a sign-in has finished with. -/
def forgets (digest : String → String) (s : KeyDesk) (n : Nat) (signIn : KeySignIn) (fresh : String)
    (written : Option Bool) (replaced : Bool) : KeyDesk :=
  let came := s.ring.forgetItself digest (signIn.finishedWith fresh replaced)
  { s.settles n (signIn.moves (.forgetting fresh written replaced (some came.2))) with
    ring := came.1 }

end KeyDesk

namespace KeySignIn

/-- A sign-in hears the answer to the call it waits for. -/
def hears (signIn : KeySignIn) : Option KeySignIn :=
  match signIn.phase with
  | .asking none | .writing _ none | .forgetting _ _ _ none => none
  | .asking (some none) => some signIn.ends
  | .asking (some (some fresh)) => some (signIn.moves (.writing fresh none))
  | .writing fresh (some won) => some (signIn.moves (.forgetting fresh (some won) won none))
  | .forgetting _ _ _ (some true) => some { signIn with isOver := true }
  | .forgetting _ _ _ (some false) => some signIn.ends

/-- The call a sign-in waits for fails, or is given up. A write that is thrown is taken for one that did
not happen. -/
def fails (signIn : KeySignIn) : KeySignIn :=
  match signIn.phase with
  | .asking _ | .forgetting _ _ _ _ => signIn.ends
  | .writing fresh written => { signIn.moves (.forgetting fresh written false none) with failed := true }

end KeySignIn

section

variable (digest : String → String)

/-- One step. -/
def KeyDesk.step (s : KeyDesk) : KeyAction → Except NotOn (KeyDesk × List Empty)
  | .joins merchantId name id secret t =>
    .ok (s.minted digest (s.ring.registerMerchant digest merchantId name id secret t), [])
  | .checks key id secret t => .ok (s.minted digest (s.ring.issueCabinetKey digest key id secret t), [])
  | .makes accountId merchantId key =>
    if s.accounts.has accountId || !s.ring.accepts (digest key) then .error .notOn
    else .ok (s.makes digest accountId ⟨merchantId, key⟩, [])
  | .signsIn n accountId =>
    match s.accounts.get accountId with
    | none => .error .notOn
    | some row => if s.signIns.has n then .error .notOn else .ok (s.signsIn n accountId row, [])
  | .issues n id secret t =>
    match s.signIns.get n with
    | some ⟨accountId, holding, .asking none, isOver, failed⟩ =>
      .ok (s.issues digest n ⟨accountId, holding, .asking none, isOver, failed⟩ id secret t, [])
    | _ => .error .notOn
  | .writes n =>
    match s.signIns.get n with
    | some ⟨accountId, holding, .writing fresh none, isOver, failed⟩ =>
      .ok (s.writes n ⟨accountId, holding, .writing fresh none, isOver, failed⟩ fresh (.writing fresh), [])
    | some ⟨accountId, holding, .forgetting fresh none replaced forgotten, isOver, failed⟩ =>
      .ok (s.writes n ⟨accountId, holding, .forgetting fresh none replaced forgotten, isOver, failed⟩
        fresh (.forgetting fresh · replaced forgotten), [])
    | _ => .error .notOn
  | .forgets n =>
    match s.signIns.get n with
    | some ⟨accountId, holding, .forgetting fresh written replaced none, isOver, failed⟩ =>
      .ok (s.forgets digest n
        ⟨accountId, holding, .forgetting fresh written replaced none, isOver, failed⟩ fresh written
        replaced, [])
    | _ => .error .notOn
  | .hears n =>
    match s.signIns.get n with
    | none => .error .notOn
    | some signIn =>
      if signIn.isOver then .error .notOn
      else
        match signIn.hears with
        | none => .error .notOn
        | some heard => .ok (s.settles n heard, [])
  | .fails n =>
    match s.signIns.get n with
    | none => .error .notOn
    | some signIn => if signIn.isOver then .error .notOn else .ok (s.settles n signIn.fails, [])
  | .cutOff n =>
    match s.signIns.get n with
    | none => .error .notOn
    | some signIn => if signIn.isOver then .error .notOn else .ok (s.settles n signIn.ends, [])

def keyMachine : Reactor KeyDesk KeyAction Empty NotOn := ⟨KeyDesk.step digest⟩

def keyRun (actions : List KeyAction) : KeyDesk := (keyMachine digest).run .empty actions

end

end Coinslot
