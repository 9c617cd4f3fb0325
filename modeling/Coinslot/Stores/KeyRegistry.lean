import Coinslot.Stores.OneStore

/-!
# The keys of the memory store

The keys are kept in two maps: a key by its identifier, and the identifier by its digest. Between two calls
they agree (`Indexed`): the digests and the keys that are kept belong to each other one to one. A call leaves
the keys alone, writes a new one, marks one, or forgets one with its digest (`KeyStep`); what is marked keeps
the instant it was disabled at and moves its last use forwards only. A key that is disabled or forgotten opens
nothing from then on, unless a key is written anew under its digest, which the store takes once the key is
forgotten.
-/

namespace Coinslot.Stores

open Option Dict

variable {Doc α : Type}

def memoryStore : Reactor (MemoryStore Doc) (StoreStep Doc α) Empty Empty where
  react store step := .ok ((store.perform step.1 step.2).1, [])

namespace MemoryStore

def after (store : MemoryStore Doc) (steps : List (StoreStep Doc α)) : MemoryStore Doc :=
  memoryStore.run store steps

/-- The key a call writes down, where it writes one. -/
def keyWritten (store : MemoryStore Doc) (step : StoreStep Doc α) : Option NewKey :=
  match step.2, (store.perform step.1 step.2).2 with
  | .addKey key _, .ok _ => some key
  | .registerMerchant id _ keyId label digest _, .ok (.registered (some _)) =>
    some ⟨keyId, id, label, digest, .cabinet⟩
  | _, _ => none

/-- The keys and their digests belong to each other one to one. -/
structure Indexed (store : MemoryStore Doc) : Prop where
  named : ∀ {id key}, store.keys.get id = some key → key.id = id
  /-- A digest finds a key that is kept. -/
  kept : ∀ {digest id}, store.keysByDigest.get digest = some id → ∃ key, store.keys.get id = some key
  /-- A key that is kept is found. -/
  found : ∀ {id key}, store.keys.get id = some key → ∃ digest, store.keysByDigest.get digest = some id
  /-- By one digest. -/
  single : ∀ {digest other id}, store.keysByDigest.get digest = some id →
    store.keysByDigest.get other = some id → digest = other

end MemoryStore

/-- A key as it may be later: disabled at the instant it was disabled at, and used no earlier. -/
structure KeyLater (key later : StoredKey) : Prop where
  id : later.id = key.id
  disabled : ∀ t, key.disabledAt = some t → later.disabledAt = some t
  used : ∀ t, key.lastUsedAt = some t → ∃ u, later.lastUsedAt = some u ∧ t ≤ u

/-- What a call does to the keys. -/
inductive KeyStep (before after : MemoryStore Doc) : Option NewKey → Prop
  | stands : after.keys = before.keys → after.keysByDigest = before.keysByDigest → KeyStep before after none
  | writes {key : NewKey} {stored : StoredKey} : before.keys.get key.id = none →
      before.keysByDigest.get key.digest = none → stored.id = key.id →
      after.keys = before.keys.set key.id stored →
      after.keysByDigest = before.keysByDigest.set key.digest key.id → KeyStep before after (some key)
  | marks {id : String} {key later : StoredKey} : before.keys.get id = some key → KeyLater key later →
      after.keys = before.keys.set key.id later → after.keysByDigest = before.keysByDigest →
      KeyStep before after none
  | forgets {id : String} {key : StoredKey} : before.keys.get id = some key →
      after.keys = before.keys.delete key.id →
      after.keysByDigest = before.keysByDigest.dropping (fun id => id = key.id) → KeyStep before after none

theorem KeyLater.refl (key : StoredKey) : KeyLater key key :=
  ⟨rfl, fun _ h => h, fun t h => ⟨t, h, Int.le_refl t⟩⟩

theorem KeyLater.trans {key later last : StoredKey} (h : KeyLater key later) (h' : KeyLater later last) :
    KeyLater key last := by
  refine ⟨h'.id.trans h.id, fun t ht => h'.disabled t (h.disabled t ht), fun t ht => ?_⟩
  obtain ⟨u, hu, htu⟩ := h.used t ht
  obtain ⟨v, hv, huv⟩ := h'.used u hu
  exact ⟨v, hv, Int.le_trans htu huv⟩

section
variable {before after store : MemoryStore Doc} {written : Option NewKey}

/-! ## What a call does -/

section

variable (store : MemoryStore Doc)

theorem writeKey_keyStep (key : NewKey) (t : Int) :
    (∃ stored, (store.writeKey key t).2 = .ok stored ∧ KeyStep store (store.writeKey key t).1 (some key)) ∨
      (∃ thrown, (store.writeKey key t).2 = .error thrown) ∧ (store.writeKey key t).1 = store := by
  unfold MemoryStore.writeKey
  split
  · exact .inr ⟨⟨_, rfl⟩, rfl⟩
  · split
    · exact .inr ⟨⟨_, rfl⟩, rfl⟩
    · next hid =>
      split
      · exact .inr ⟨⟨_, rfl⟩, rfl⟩
      · next hdigest =>
        refine .inl ⟨_, rfl, .writes ?_ ?_ rfl rfl rfl⟩
        · simpa [Dict.has] using hid
        · simpa [Dict.has] using hdigest

theorem registerMerchant_keyStep (id name keyId label digest : String) (t : Int) :
    (∃ made, (store.registerMerchant id name keyId label digest t).2 = .ok (some made) ∧
        KeyStep store (store.registerMerchant id name keyId label digest t).1
          (some ⟨keyId, id, label, digest, .cabinet⟩)) ∨
      (∀ made, (store.registerMerchant id name keyId label digest t).2 ≠ .ok (some made)) ∧
        (store.registerMerchant id name keyId label digest t).1 = store := by
  unfold MemoryStore.registerMerchant
  split
  · exact .inr ⟨fun made => by simp, rfl⟩
  · next hnew =>
    have hnone : store.merchants.get id = none := by simpa [Dict.has] using hnew
    dsimp only
    set written : MemoryStore Doc :=
      { store with merchants := store.merchants.set id ⟨id, name, t, .open, none, none⟩ } with hwritten
    cases hcame : written.writeKey ⟨keyId, id, label, digest, .cabinet⟩ t with
    | mk stands answer =>
      have hkey := writeKey_keyStep written ⟨keyId, id, label, digest, .cabinet⟩ t
      rw [hcame] at hkey
      rcases hkey with ⟨stored, rfl, hstep⟩ | ⟨⟨thrown, rfl⟩, rfl⟩
      · refine .inl ⟨_, rfl, ?_⟩
        cases hstep with
        | writes hkey hdigest hid hkeys hindex => exact .writes hkey hdigest hid hkeys hindex
      · refine .inr ⟨fun made => by simp, ?_⟩
        dsimp only
        rw [hwritten, delete_set hnone]

theorem noteKeyUse_keyStep (id : String) (t : Int) : KeyStep store (store.noteKeyUse id t) none := by
  unfold MemoryStore.noteKeyUse
  split
  · exact .stands rfl rfl
  · next key hkey =>
    split
    · exact .stands rfl rfl
    · next hlater =>
      have hmarked : KeyLater key { key with lastUsedAt := some t } := by
        refine ⟨rfl, fun u hu => hu, fun u hu => ⟨t, rfl, ?_⟩⟩
        rw [hu] at hlater
        simp only [any_some, decide_eq_true_eq] at hlater
        omega
      exact .marks hkey hmarked rfl rfl

end

variable {id : String}

theorem revoke_keyStep {key : StoredKey} (t : Int) (hkey : store.keys.get id = some key) :
    KeyStep store (store.revoke key t).1 none := by
  have hrevoked : KeyLater key { key with disabledAt := key.disabledAt.or (some t) } :=
    ⟨rfl, fun u hu => by simp [hu], fun u hu => ⟨u, hu, Int.le_refl u⟩⟩
  exact .marks hkey hrevoked rfl rfl

section

variable (store : MemoryStore Doc)

theorem disableKey_keyStep (id : String) (t : Int) : KeyStep store (store.disableKey id t).1 none := by
  unfold MemoryStore.disableKey
  split
  · exact .stands rfl rfl
  · next key hkey => exact revoke_keyStep t hkey

theorem disableKeyOf_keyStep (merchantId id : String) (t : Int) :
    KeyStep store (store.disableKeyOf merchantId id t).1 none := by
  unfold MemoryStore.disableKeyOf
  split
  · exact .stands rfl rfl
  · next key hkey =>
    split
    · exact .stands rfl rfl
    · split
      · exact .stands rfl rfl
      · exact revoke_keyStep t hkey

theorem forgetCabinetKey_keyStep (keyId : String) : KeyStep store (store.forgetCabinetKey keyId).1 none := by
  unfold MemoryStore.forgetCabinetKey
  split
  · exact .stands rfl rfl
  · next key hkey =>
    split
    · exact .stands rfl rfl
    · exact .forgets hkey rfl rfl

end

/-! ## The other calls -/

theorem takeWithTheOrder_keys (refuses : Posted Doc → Option String) (alongside : List (WithTheOrder Doc))
    (store : MemoryStore Doc) : (store.takeWithTheOrder refuses alongside).1.keys = store.keys ∧
      (store.takeWithTheOrder refuses alongside).1.keysByDigest = store.keysByDigest := by
  induction alongside generalizing store with
  | nil => exact ⟨rfl, rfl⟩
  | cons write rest ih =>
    cases write with
    | receipt merchantId receipt => exact ih (store.putReceipt merchantId receipt)
    | envelope merchantId envelope afterMs =>
      rw [MemoryStore.takeWithTheOrder]
      split
      · exact ⟨rfl, rfl⟩
      · have hrest := ih store
        split <;> next hcame => rw [hcame] at hrest; exact hrest

theorem withOrder_keys (refuses : Posted Doc → Option String) (store : MemoryStore Doc) (id : String)
    (change : StoredOrder Doc → Except String (OrderChange Doc α)) (scope : Option String) :
    (store.withOrder refuses id change scope).1.keys = store.keys ∧
      (store.withOrder refuses id change scope).1.keysByDigest = store.keysByDigest := by
  unfold MemoryStore.withOrder
  split
  · exact ⟨rfl, rfl⟩
  · split
    · exact ⟨rfl, rfl⟩
    · split
      · exact ⟨rfl, rfl⟩
      · next decided _ =>
        have htaken := takeWithTheOrder_keys refuses
          (decided.alongside.mergeSort fun one other => rankOf one ≤ rankOf other) store
        dsimp only
        split
        · next hcame => rw [hcame] at htaken; exact htaken
        · next hcame =>
          rw [hcame] at htaken
          unfold MemoryStore.saveOrder
          split <;> exact htaken

/-- **What a call does to the keys.** -/
theorem perform_keyStep (store : MemoryStore Doc) (step : StoreStep Doc α) :
    KeyStep store (store.perform step.1 step.2).1 (store.keyWritten step) := by
  obtain ⟨moment, call⟩ := step
  cases call with
  | addKey key t =>
    rcases writeKey_keyStep store key t with ⟨stored, hok, hstep⟩ | ⟨⟨thrown, herror⟩, hsame⟩
    · simpa [MemoryStore.keyWritten, MemoryStore.perform, answering, hok, Except.map] using hstep
    · simp only [MemoryStore.keyWritten, MemoryStore.perform, answering, herror, Except.map, hsame]
      exact .stands rfl rfl
  | registerMerchant id name keyId label digest t =>
    rcases registerMerchant_keyStep store id name keyId label digest t with ⟨made, hok, hstep⟩ | ⟨hnone, hsame⟩
    · simpa [MemoryStore.keyWritten, MemoryStore.perform, answering, hok, Except.map] using hstep
    · simp only [MemoryStore.keyWritten, MemoryStore.perform, answering, hsame]
      cases hcame : (store.registerMerchant id name keyId label digest t).2 with
      | error thrown => exact .stands rfl rfl
      | ok made =>
        cases made with
        | none => exact .stands rfl rfl
        | some made => exact absurd hcame (hnone made)
  | noteKeyUse id t => exact noteKeyUse_keyStep store id t
  | forgetCabinetKey keyId => exact forgetCabinetKey_keyStep store keyId
  | disableKey id t => exact disableKey_keyStep store id t
  | disableKeyOf merchantId id t => exact disableKeyOf_keyStep store merchantId id t
  | withOrder id change scope =>
    obtain ⟨hkeys, hindex⟩ := withOrder_keys moment.refuses store id change scope
    exact .stands hkeys hindex
  | addMerchant id name t =>
    refine .stands ?_ ?_ <;> simp only [MemoryStore.perform, answering, MemoryStore.addMerchant] <;> split <;> rfl
  | setServiceName id serviceName t =>
    refine .stands ?_ ?_ <;>
      simp only [MemoryStore.perform, answering, MemoryStore.setServiceName, MemoryStore.setMerchant] <;>
      split <;> rfl
  | setPayoutWallet id payoutWallet t =>
    refine .stands ?_ ?_ <;>
      simp only [MemoryStore.perform, answering, MemoryStore.setPayoutWallet, MemoryStore.setMerchant] <;>
      split <;> rfl
  | setCardPaused merchantId id paused =>
    refine .stands ?_ ?_ <;> simp only [MemoryStore.perform, answering, MemoryStore.setCardPaused] <;> split <;>
      [rfl; split <;> rfl; rfl; split <;> rfl]
  | setSelling merchantId selling =>
    refine .stands ?_ ?_ <;> simp only [MemoryStore.perform, answering, MemoryStore.setSelling] <;> split <;> rfl
  | addOrder record =>
    refine .stands ?_ ?_ <;> simp only [MemoryStore.perform, answering, MemoryStore.addOrder] <;> split <;> rfl
  | runAlone name work =>
    refine .stands ?_ ?_ <;> simp only [MemoryStore.perform, answering, MemoryStore.runAlone] <;> split <;> rfl
  | claimPayment fingerprint orderId =>
    refine .stands ?_ ?_ <;> simp only [MemoryStore.perform, answering, MemoryStore.claimPayment] <;> split <;> rfl
  | releaseClaim fingerprint orderId =>
    refine .stands ?_ ?_ <;> simp only [MemoryStore.perform, MemoryStore.releaseClaim] <;> split <;> rfl
  | _ => exact .stands rfl rfl

/-! ## What a call keeps -/

/-- **The digests and the keys stay together.** -/
theorem KeyStep.indexed (h : KeyStep before after written) (hb : before.Indexed) : after.Indexed := by
  cases h with
  | stands hkeys hindex =>
    refine ⟨fun h => ?_, fun h => ?_, fun h => ?_, fun h h' => ?_⟩
    · rw [hkeys] at h
      exact hb.named h
    · rw [hindex] at h
      rw [hkeys]
      exact hb.kept h
    · rw [hkeys] at h
      rw [hindex]
      exact hb.found h
    · rw [hindex] at h h'
      exact hb.single h h'
  | @writes key stored hnew hfree hid hkeys hindex =>
    have hunpointed {digest : String} : before.keysByDigest.get digest ≠ some key.id := by
      intro h
      obtain ⟨other, hother⟩ := hb.kept h
      rw [hnew] at hother
      cases hother
    refine ⟨fun {id kept} h => ?_, fun {digest id} h => ?_, fun {id kept} h => ?_, fun {digest other id} h h' => ?_⟩
    · rw [hkeys, get_set] at h
      split at h
      · next heq =>
        cases h
        rw [hid, heq]
      · exact hb.named h
    · rw [hindex, get_set] at h
      rw [hkeys]
      split at h
      · cases h
        exact ⟨stored, get_set_self ..⟩
      · obtain ⟨kept, hkept⟩ := hb.kept h
        have hne : id ≠ key.id := by
          rintro rfl
          exact hunpointed h
        exact ⟨kept, by rw [get_set_ne _ _ hne, hkept]⟩
    · rw [hkeys, get_set] at h
      rw [hindex]
      split at h
      · next heq => exact ⟨key.digest, by rw [get_set_self, heq]⟩
      · obtain ⟨digest, hdigest⟩ := hb.found h
        have hne : digest ≠ key.digest := by
          rintro rfl
          rw [hfree] at hdigest
          cases hdigest
        exact ⟨digest, by rw [get_set_ne _ _ hne, hdigest]⟩
    · rw [hindex, get_set] at h h'
      split at h <;> split at h'
      · next heq heq' => rw [heq, heq']
      · cases h
        exact absurd h' hunpointed
      · cases h'
        exact absurd h hunpointed
      · exact hb.single h h'
  | @marks id key later hkey hlater hkeys hindex =>
    have hname := hb.named hkey
    refine ⟨fun {id' kept} h => ?_, fun {digest id'} h => ?_, fun {id' kept} h => ?_, fun h h' => ?_⟩
    · rw [hkeys, get_set] at h
      split at h
      · next heq =>
        cases h
        rw [hlater.id, heq]
      · exact hb.named h
    · rw [hindex] at h
      obtain ⟨kept, hkept⟩ := hb.kept h
      rw [hkeys, get_set]
      split
      · exact ⟨later, rfl⟩
      · exact ⟨kept, hkept⟩
    · rw [hkeys, get_set] at h
      rw [hindex]
      split at h
      · next heq =>
        rw [heq, hname]
        exact hb.found hkey
      · exact hb.found h
    · rw [hindex] at h h'
      exact hb.single h h'
  | @forgets id key hkey hkeys hindex =>
    have hname := hb.named hkey
    have hpointed {digest id' : String} : after.keysByDigest.get digest = some id' ↔
        before.keysByDigest.get digest = some id' ∧ id' ≠ key.id := by
      rw [hindex, get_dropping, filter_eq_some_iff]
      simp
    have hkept {id' : String} {kept : StoredKey} : after.keys.get id' = some kept ↔
        before.keys.get id' = some kept ∧ id' ≠ key.id := by
      rw [hkeys, get_delete]
      split <;> simp_all
    refine ⟨fun h => hb.named (hkept.1 h).1, fun h => ?_, fun h => ?_, fun h h' =>
      hb.single (hpointed.1 h).1 (hpointed.1 h').1⟩
    · obtain ⟨h, hne⟩ := hpointed.1 h
      obtain ⟨kept, hfound⟩ := hb.kept h
      exact ⟨kept, hkept.2 ⟨hfound, hne⟩⟩
    · obtain ⟨h, hne⟩ := hkept.1 h
      obtain ⟨digest, hdigest⟩ := hb.found h
      exact ⟨digest, hpointed.2 ⟨hdigest, hne⟩⟩

theorem workingKey_eq_none_iff {digest : String} : store.workingKey digest = none ↔
    ∀ id key, store.keysByDigest.get digest = some id → store.keys.get id = some key → key.disabledAt.isSome := by
  unfold MemoryStore.workingKey MemoryStore.keyByDigest
  cases hindex : store.keysByDigest.get digest with
  | none => simp
  | some id =>
    refine ⟨fun h other key hother hkey => ?_, fun h => ?_⟩
    · cases hother
      rw [isSome_iff_ne_none]
      simpa [hkey] using h
    · cases hkey : store.keys.get id with
      | none => simp [hkey]
      | some key => simpa [hkey, isSome_iff_ne_none] using h id key rfl hkey

theorem of_workingKey {digest : String} {key : StoredKey} (hb : store.Indexed)
    (h : store.workingKey digest = some key) :
    store.keysByDigest.get digest = some key.id ∧ store.keys.get key.id = some key ∧ key.disabledAt = none := by
  unfold MemoryStore.workingKey MemoryStore.keyByDigest at h
  cases hindex : store.keysByDigest.get digest with
  | none => simp [hindex] at h
  | some id =>
    cases hkey : store.keys.get id with
    | none => simp [hindex, hkey] at h
    | some found =>
      simp only [hindex, hkey, bind_some] at h
      split at h
      · cases h
      · next hopen =>
        cases h
        have hname := hb.named hkey
        rw [hname]
        exact ⟨rfl, hkey, by simpa using hopen⟩

section

variable (h : KeyStep before after written)
include h

theorem KeyStep.unwritten {id : String} (hb : before.Indexed)
    (hnew : ∀ key, written = some key → key.id ≠ id) {later : StoredKey} (hlater : after.keys.get id = some later) :
    ∃ key, before.keys.get id = some key ∧ KeyLater key later := by
  cases h with
  | stands hkeys _ =>
    rw [hkeys] at hlater
    exact ⟨later, hlater, .refl later⟩
  | writes _ _ _ hkeys _ =>
    rw [hkeys, get_set_ne _ _ (Ne.symm (hnew _ rfl))] at hlater
    exact ⟨later, hlater, .refl later⟩
  | marks hkey hmarked hkeys _ =>
    rw [hkeys, get_set] at hlater
    split at hlater
    · next heq =>
      cases hlater
      rw [heq, hb.named hkey]
      exact ⟨_, hkey, hmarked⟩
    · exact ⟨later, hlater, .refl later⟩
  | forgets _ hkeys _ =>
    rw [hkeys, get_delete] at hlater
    split at hlater
    · cases hlater
    · exact ⟨later, hlater, .refl later⟩

theorem KeyStep.unpointed {digest id : String} (hnew : ∀ key, written = some key → key.digest ≠ digest)
    (hafter : after.keysByDigest.get digest = some id) : before.keysByDigest.get digest = some id := by
  cases h with
  | stands _ hindex | marks _ _ _ hindex =>
    rw [hindex] at hafter
    exact hafter
  | writes _ _ _ _ hindex => rwa [hindex, get_set_ne _ _ (Ne.symm (hnew _ rfl))] at hafter
  | forgets _ _ hindex =>
    rw [hindex, get_dropping, filter_eq_some_iff] at hafter
    exact hafter.1

theorem KeyStep.with_digest {digest id : String} (hb : before.Indexed)
    (hpoints : before.keysByDigest.get digest = some id) : ∀ key, written = some key → key.id ≠ id := by
  rintro key rfl rfl
  cases h with
  | writes hnew _ _ _ _ =>
    obtain ⟨kept, hkept⟩ := hb.kept hpoints
    rw [hnew] at hkept
    cases hkept

/-- **What opens nothing opens nothing after a call, unless the call writes a key under it.** -/
theorem KeyStep.shut {digest : String} (hb : before.Indexed)
    (hnew : ∀ key, written = some key → key.digest ≠ digest) (hshut : before.workingKey digest = none) :
    after.workingKey digest = none := by
  rw [workingKey_eq_none_iff] at hshut ⊢
  intro id later hpoints hlater
  have hpointed := h.unpointed hnew hpoints
  obtain ⟨key, hkey, hmarked⟩ := h.unwritten hb (h.with_digest hb hpointed) hlater
  obtain ⟨t, ht⟩ := isSome_iff_exists.1 (hshut id key hpointed hkey)
  rw [hmarked.disabled t ht]
  rfl

end

/-! ## The runs -/

theorem indexed_empty : (MemoryStore.empty : MemoryStore Doc).Indexed := ⟨nofun, nofun, nofun, nofun⟩

theorem react_eq {step : StoreStep Doc α} {out : List Empty}
    (h : memoryStore.react store step = .ok (after, out)) : after = (store.perform step.1 step.2).1 := by
  cases h
  rfl

theorem indexed_after (hb : store.Indexed) (steps : List (StoreStep Doc α)) : (store.after steps).Indexed := by
  refine memoryStore.run_induction (P := fun s : MemoryStore Doc => s.Indexed) (fun {s step s' out} hs h => ?_) hb
    steps
  rw [react_eq h]
  exact (perform_keyStep s step).indexed hs

def NoKeyWritten (p : NewKey → Prop) (store : MemoryStore Doc) (steps : List (StoreStep Doc α)) : Prop :=
  memoryStore.Meets (fun s step => ∀ key, s.keyWritten step = some key → ¬ p key) store steps

theorem shut_after (hb : store.Indexed) {digest : String} (hshut : store.workingKey digest = none)
    (steps : List (StoreStep Doc α)) (hnew : NoKeyWritten (·.digest = digest) store steps) :
    (store.after steps).workingKey digest = none := by
  refine (memoryStore.run_induction_meeting
    (P := fun s : MemoryStore Doc => s.Indexed ∧ s.workingKey digest = none)
    (fun {s step s' out} hs hA h => ?_) ⟨hb, hshut⟩ steps hnew).2
  rw [react_eq h]
  have hstep := perform_keyStep s step
  exact ⟨hstep.indexed hs.1, hstep.shut hs.1 hA hs.2⟩

theorem later_after (hb : store.Indexed) (steps : List (StoreStep Doc α))
    (hnew : NoKeyWritten (·.id = id) store steps) {later : StoredKey}
    (hlater : (store.after steps).keys.get id = some later) :
    ∃ key, store.keys.get id = some key ∧ KeyLater key later := by
  refine (memoryStore.run_induction_meeting
    (P := fun s : MemoryStore Doc => s.Indexed ∧ ∀ later, s.keys.get id = some later →
      ∃ key, store.keys.get id = some key ∧ KeyLater key later)
    (fun {s step s' out} hs hA h => ?_) ⟨hb, fun later h => ⟨later, h, .refl later⟩⟩ steps hnew).2 later hlater
  rw [react_eq h]
  have hstep := perform_keyStep s step
  refine ⟨hstep.indexed hs.1, fun later hlater => ?_⟩
  obtain ⟨between, hbetween, hmarked⟩ := hstep.unwritten hs.1 hA hlater
  obtain ⟨key, hkey, hmoved⟩ := hs.2 between hbetween
  exact ⟨key, hkey, hmoved.trans hmarked⟩

/-- **The key registry stays consistent.** After any calls on an empty store the digests and the keys belong
to each other one to one. A digest that opens nothing opens nothing later, unless a key is written under it
anew; a key that is not written anew keeps the instant it was disabled at, is used no earlier than it was, and
opens nothing once it is disabled or forgotten; and a registration that fails leaves the store as it was. -/
theorem keys_consistent (steps more : List (StoreStep Doc α)) :
    let store := MemoryStore.empty.after steps
    store.Indexed ∧
      (∀ digest, store.workingKey digest = none → NoKeyWritten (·.digest = digest) store more →
        (store.after more).workingKey digest = none) ∧
      (∀ id, NoKeyWritten (·.id = id) store more →
        (∀ later, (store.after more).keys.get id = some later →
          ∃ key, store.keys.get id = some key ∧ KeyLater key later) ∧
        ((∀ key, store.keys.get id = some key → key.disabledAt.isSome) →
          ∀ digest key, (store.after more).workingKey digest = some key → key.id ≠ id)) ∧
      ∀ id name keyId label digest t,
        (∀ made, (store.registerMerchant id name keyId label digest t).2 ≠ .ok (some made)) →
          (store.registerMerchant id name keyId label digest t).1 = store := by
  have hb := indexed_after (@indexed_empty Doc) steps
  refine ⟨hb, fun digest hshut hnew => shut_after hb hshut more hnew, fun id hnew => ⟨fun later hlater =>
    later_after hb more hnew hlater, ?_⟩, fun id name keyId label digest t hfails => ?_⟩
  · rintro hdisabled digest later hopen rfl
    obtain ⟨-, hlater, hworks⟩ := of_workingKey (indexed_after hb more) hopen
    obtain ⟨key, hkey, hmarked⟩ := later_after hb more hnew hlater
    obtain ⟨t, ht⟩ := Option.isSome_iff_exists.1 (hdisabled key hkey)
    rw [hmarked.disabled t ht] at hworks
    cases hworks
  · rcases registerMerchant_keyStep (MemoryStore.empty.after steps) id name keyId label digest t with
      ⟨made, hok, -⟩ | ⟨-, hsame⟩
    · exact absurd hok (hfails made)
    · exact hsame

end

/-- A merchant registered with a key that is used and then disabled. -/
def disabledKey : List (StoreStep Unit Unit) :=
  [atOnce (.registerMerchant "mch_a" "A" "key_1" "cabinet" "digest_1" 0), atOnce (.noteKeyUse "key_1" 5),
    atOnce (.disableKey "key_1" 6)]

/-- Another key, made while the first one is disabled, and a late note of the first one's use. -/
def otherKey : List (StoreStep Unit Unit) :=
  [atOnce (.addKey ⟨"key_2", "mch_a", "code", "digest_2", .merchantCode⟩ 7), atOnce (.noteKeyUse "key_1" 4)]

/-- The disabled key stays as it is and opens nothing while another one is written. -/
theorem disabled_key_consistent :
    let store := MemoryStore.empty.after disabledKey
    (store.after otherKey).workingKey "digest_1" = none ∧
      (∀ later, (store.after otherKey).keys.get "key_1" = some later →
        ∃ key, store.keys.get "key_1" = some key ∧ KeyLater key later) ∧
      (∀ digest key, (store.after otherKey).workingKey digest = some key → key.id ≠ "key_1") ∧
      (store.registerMerchant "mch_b" "B" "key_1" "cabinet" "digest_3" 8).1 = store := by
  have hmain := keys_consistent disabledKey otherKey
  have hfirst : (MemoryStore.empty.after disabledKey).keyWritten
      (atOnce (.addKey ⟨"key_2", "mch_a", "code", "digest_2", .merchantCode⟩ 7)) =
        some ⟨"key_2", "mch_a", "code", "digest_2", .merchantCode⟩ := by decide +kernel
  have hnew {p : NewKey → Prop} (hp : ¬ p ⟨"key_2", "mch_a", "code", "digest_2", .merchantCode⟩) :
      NoKeyWritten p (MemoryStore.empty.after disabledKey) otherKey := by
    refine ⟨fun key h => ?_, fun key h => ?_, trivial⟩
    · rw [← Option.some.inj (hfirst.symm.trans h)]
      exact hp
    · cases h
  have hkey : (MemoryStore.empty.after disabledKey).keys.get "key_1" =
      some ⟨"key_1", "mch_a", "cabinet", .cabinet, 0, some 6, some 5⟩ := by decide +kernel
  have hid := hmain.2.2.1 "key_1" (hnew (by decide))
  refine ⟨hmain.2.1 "digest_1" (by decide +kernel) (hnew (by decide)), hid.1, hid.2 fun key h => ?_,
    hmain.2.2.2 _ _ _ _ _ _ ?_⟩
  · cases hkey.symm.trans h
    rfl
  · have hthrown : ((MemoryStore.empty.after disabledKey).registerMerchant "mch_b" "B" "key_1" "cabinet"
        "digest_3" 8).2 = .error "the key key_1 is already written down" := by decide +kernel
    intro made
    simp [hthrown]

/-- A key that is disabled, forgotten and written anew under its digest opens its merchant again, as a key
that was neither disabled nor used, and is disabled a second time at another instant. -/
theorem rewritten_key_opens :
    let anew := disabledKey ++ [atOnce (.forgetCabinetKey "key_1"),
      atOnce (.addKey ⟨"key_1", "mch_a", "cabinet", "digest_1", .cabinet⟩ 7)]
    (MemoryStore.empty.after disabledKey).workingKey "digest_1" = none ∧
      ((MemoryStore.empty.after disabledKey).keys.get "key_1").map (fun key => (key.disabledAt, key.lastUsedAt)) =
        some (some 6, some 5) ∧
      (MemoryStore.empty.after anew).workingKey "digest_1" =
        some ⟨"key_1", "mch_a", "cabinet", .cabinet, 7, none, none⟩ ∧
      ((MemoryStore.empty.after (anew ++ [atOnce (.disableKey "key_1" 8)])).keys.get "key_1").map
        (fun key => key.disabledAt) = some (some 8) := by
  refine ⟨?_, ?_, ?_, ?_⟩ <;> decide +kernel

end Coinslot.Stores
