import Coinslot.Cabinet.Keys

/-!
# Signing in locks nobody out

A key that a sign-in still has to put on a row, or to forget, is in its hand (`KeySignIn.inHand`): the
gateway accepts it, no row carries it, and no other sign-in has it. So what a sign-in forgets is on no row,
and what it puts on one works. Two things break this. A conditional write that took effect and whose answer
is lost is taken for one that did not happen, and the key that is on the row by then is forgotten. And an
account made with the key of another loses it when the other signs in.

A sign-in that comes to its end leaves no key behind. The check an account is made behind does: it has the
gateway make a key, and throws it away (`locked_out_and_littered`).
-/

namespace Coinslot

open List Dict

section
variable {digest : String → String} {ring ring' : KeyRing} {d : String}

/-! ## What the ring accepts after a call -/

variable {id new label merchantId : String} {t : Int}

theorem KeyRing.writeKey_ok {purpose : KeyPurpose} (h : ring.writeKey id merchantId label new purpose t = .ok ring') :
    ring.workingKey new = none ∧ ∀ d, ring'.workingKey d =
      if d = new then some ⟨id, merchantId, label, purpose, t, none, none⟩ else ring.workingKey d := by
  unfold writeKey at h
  split at h
  · cases h
  · split at h
    · cases h
    · next hid =>
      split at h
      · cases h
      · next hnew =>
        cases h
        have hnone : ring.keysByDigest.get new = none := by simpa [Dict.has] using hnew
        refine ⟨by simp [workingKey, hnone], fun d => ?_⟩
        unfold workingKey
        by_cases hd : d = new
        · simp [hd]
        · rw [get_set_ne _ _ hd, if_neg hd]
          cases hfind : ring.keysByDigest.get d with
          | none => rfl
          | some found =>
            obtain ⟨key, hkey, -⟩ := ring.found d found hfind
            have hne : found ≠ id := by
              rintro rfl
              exact hid (by simp [Dict.has, hkey])
            simp [get_set_ne _ _ hne]

theorem KeyRing.forgetCabinetKey_of_working {gone : String} {key : StoredKey}
    (h : ring.workingKey gone = some key) (hp : key.purpose = .cabinet) (d : String) :
    (ring.forgetCabinetKey key.id).1.workingKey d = if d = gone then none else ring.workingKey d := by
  obtain ⟨hfind, hkey⟩ : ring.keysByDigest.get gone = some key.id ∧
      ring.keys.get key.id = some key := by
    unfold workingKey at h
    cases hfind : ring.keysByDigest.get gone with
    | none => rw [hfind] at h; cases h
    | some id =>
      obtain ⟨found, hfound, hid⟩ := ring.found gone id hfind
      rw [hfind] at h
      simp only [Option.bind_some, hfound] at h
      split at h
      · cases h
      · cases h
        exact ⟨congrArg some hid.symm, hid ▸ hfound⟩
  unfold forgetCabinetKey workingKey
  rw [hkey]
  simp only [hp, ne_eq, not_true_eq_false, if_false, get_dropping]
  by_cases hd : d = gone
  · subst hd
    simp [hfind, Option.filter]
  · rw [if_neg hd]
    cases hother : ring.keysByDigest.get d with
    | none => rfl
    | some id =>
      have hne : id ≠ key.id := by
        rintro rfl
        exact hd (ring.apart d gone key.id hother hfind)
      simp [Option.filter, hne, get_delete]

theorem KeyRing.accepts_of_write (h : ring.writeKey id merchantId label new .cabinet t = .ok ring') :
    ring.accepts new = false ∧ ∀ d, ring'.accepts d = (decide (d = new) || ring.accepts d) := by
  obtain ⟨hnone, hsome⟩ := writeKey_ok h
  refine ⟨by simp [accepts, hnone], fun d => ?_⟩
  unfold accepts
  rw [hsome d]
  by_cases hd : d = new
  · simp [hd]
  · simp [hd]

/-- A ring after a key was made for a cabinet: it accepts one key more, that it did not accept, or none. -/
def KeyRing.Mints (digest : String → String) (ring : KeyRing) (came : KeyRing × Option String) : Prop :=
  match came.2 with
  | none => ∀ d, came.1.accepts d = ring.accepts d
  | some secret => ring.accepts (digest secret) = false ∧
      ∀ d, came.1.accepts d = (decide (d = digest secret) || ring.accepts d)

theorem KeyRing.issueCabinetKey_mints (presented id secret : String) (t : Int) :
    ring.Mints digest (ring.issueCabinetKey digest presented id secret t) := by
  unfold issueCabinetKey
  split
  · exact fun _ => rfl
  · split
    · exact fun _ => rfl
    · split
      · exact fun _ => rfl
      · next hwrite => exact accepts_of_write hwrite

theorem KeyRing.registerMerchant_mints (merchantId name id secret : String) (t : Int) :
    ring.Mints digest (ring.registerMerchant digest merchantId name id secret t) := by
  unfold registerMerchant
  split
  · exact fun _ => rfl
  · dsimp only
    split
    · exact fun _ => rfl
    · next hwrite =>
      have hnew := accepts_of_write hwrite
      exact hnew

theorem KeyRing.forgetItself_accepted {presented : String} (h : ring.accepts (digest presented) = true) :
    (ring.forgetItself digest presented).2 = true ∧ ∀ d, (ring.forgetItself digest presented).1.accepts d =
        (decide (d ≠ digest presented) && ring.accepts d) := by
  unfold accepts at h
  rw [Option.any_eq_true] at h
  obtain ⟨key, hkey, hp⟩ := h
  have hp : key.purpose = .cabinet := by simpa using hp
  unfold forgetItself
  rw [hkey]
  simp only [hp, ne_eq, not_true_eq_false, if_false, true_and]
  intro d
  unfold accepts
  rw [forgetCabinetKey_of_working hkey hp d]
  by_cases hd : d = digest presented <;> simp [hd]

end

section
variable {digest : String → String} {s s' : KeyDesk} {action : KeyAction} {n : Nat}
  {signIn : KeySignIn}

/-! ## The step, by cases -/

/-- What a step does. -/
inductive KeyDesk.Performs (digest : String → String) (s : KeyDesk) : KeyAction → KeyDesk → Prop
  | mints {came : KeyRing × Option String} (action : KeyAction) : s.ring.Mints digest came →
      Performs digest s action (s.minted digest came)
  | makes {accountId key : String} (merchantId : String) : s.accounts.get accountId = none →
      s.ring.accepts (digest key) = true →
      Performs digest s (.makes accountId merchantId key)
        (s.makes digest accountId ⟨merchantId, key⟩)
  | signsIn {n : Nat} {accountId : String} {row : AccountRow} :
      s.accounts.get accountId = some row → s.signIns.get n = none →
      Performs digest s (.signsIn n accountId) (s.signsIn n accountId row)
  | issues {n : Nat} {signIn : KeySignIn} (id secret : String) (t : Int) :
      s.signIns.get n = some signIn → signIn.phase = .asking none →
      Performs digest s (.issues n id secret t) (s.issues digest n signIn id secret t)
  | writes {n : Nat} {signIn : KeySignIn} {fresh : String} : s.signIns.get n = some signIn →
      signIn.phase = .writing fresh none →
      Performs digest s (.writes n) (s.writes n signIn fresh (.writing fresh))
  | writesLate {n : Nat} {signIn : KeySignIn} {fresh : String} {replaced : Bool}
      {forgotten : Option Bool} : s.signIns.get n = some signIn →
      signIn.phase = .forgetting fresh none replaced forgotten →
      Performs digest s (.writes n)
        (s.writes n signIn fresh (.forgetting fresh · replaced forgotten))
  | forgets {n : Nat} {signIn : KeySignIn} {fresh : String} {written : Option Bool}
      {replaced : Bool} : s.signIns.get n = some signIn →
      signIn.phase = .forgetting fresh written replaced none →
      Performs digest s (.forgets n) (s.forgets digest n signIn fresh written replaced)
  | hears {n : Nat} {signIn heard : KeySignIn} : s.signIns.get n = some signIn →
      signIn.isOver = false → signIn.hears = some heard →
      Performs digest s (.hears n) (s.settles n heard)
  | fails {n : Nat} {signIn : KeySignIn} : s.signIns.get n = some signIn → signIn.isOver = false →
      Performs digest s (.fails n) (s.settles n signIn.fails)
  | cutOff {n : Nat} {signIn : KeySignIn} : s.signIns.get n = some signIn → signIn.isOver = false →
      Performs digest s (.cutOff n) (s.settles n signIn.ends)

theorem KeyDesk.step_performs {out : List Empty} (h : s.step digest action = .ok (s', out)) :
    s.Performs digest action s' := by
  cases action with
  | joins merchantId name id secret t => cases h; exact .mints _ (KeyRing.registerMerchant_mints _ _ _ _ _)
  | checks key id secret t => cases h; exact .mints _ (KeyRing.issueCabinetKey_mints _ _ _ _)
  | makes accountId merchantId key =>
    simp only [step] at h
    split at h
    · cases h
    · next hfree =>
      cases h
      simp only [Bool.or_eq_true, not_or, Bool.not_eq_true, Bool.not_eq_false'] at hfree
      exact .makes merchantId (by simpa [Dict.has] using hfree.1) hfree.2
  | signsIn n accountId =>
    simp only [step] at h
    split at h
    · cases h
    · next hrow =>
      split at h
      · cases h
      · next hn => cases h; exact .signsIn hrow (by simpa [Dict.has] using hn)
  | issues n id secret t =>
    simp only [step] at h
    split at h
    · next hn => cases h; exact .issues id secret t hn rfl
    · cases h
  | writes n =>
    simp only [step] at h
    split at h
    · next hn => cases h; exact .writes hn rfl
    · next hn => cases h; exact .writesLate hn rfl
    · cases h
  | forgets n =>
    simp only [step] at h
    split at h
    · next hn => cases h; exact .forgets hn rfl
    · cases h
  | hears n =>
    simp only [step] at h
    split at h
    · cases h
    · next hn =>
      split at h
      · cases h
      · next hover =>
        split at h
        · cases h
        · next heard => cases h; exact .hears hn (by simpa using hover) heard
  | fails n | cutOff n =>
    simp only [step] at h
    split at h
    · cases h
    · next hn =>
      split at h
      · cases h
      · next hover =>
        cases h
        first
          | exact .fails hn (by simpa using hover)
          | exact .cutOff hn (by simpa using hover)

/-! ## What a sign-in has in its hand -/

/-- The key a sign-in has still to put on a row, or to forget. -/
def KeySignIn.inHand (signIn : KeySignIn) : Option String :=
  match signIn.phase with
  | .asking issued => if signIn.isOver then none else issued.join
  | .writing fresh none => some fresh
  | .writing fresh (some won) => if signIn.isOver then none else some (signIn.finishedWith fresh won)
  | .forgetting fresh _ replaced none => some (signIn.finishedWith fresh replaced)
  | .forgetting _ _ _ (some _) => none

def KeySignIn.Had (digest : String → String) (signIn : KeySignIn) (d : String) : Prop :=
  digest signIn.holding = d ∨ ∃ key, signIn.made = some key ∧ digest key = d

/-- A sign-in answers for a key: it has it in its hand, or it was cut off or met a failure and had it. -/
def KeySignIn.AnswersFor (digest : String → String) (signIn : KeySignIn) (d : String) : Prop :=
  (∃ key, signIn.inHand = some key ∧ digest key = d) ∨ signIn.failed = true ∧ signIn.Had digest d

theorem KeySignIn.had_of_inHand {key : String} (h : signIn.inHand = some key) : signIn.Had digest (digest key) := by
  have finished {fresh : String} {replaced : Bool} (hmade : signIn.made = some fresh)
      (hkey : signIn.finishedWith fresh replaced = key) : signIn.Had digest (digest key) := by
    unfold finishedWith at hkey
    split at hkey
    · exact .inl (by rw [hkey])
    · exact .inr ⟨fresh, hmade, by rw [hkey]⟩
  unfold inHand at h
  split at h
  · next issued hp =>
    split at h
    · cases h
    · exact .inr ⟨key, by simp [made, hp, h], rfl⟩
  · next fresh hp => cases h; exact .inr ⟨key, by simp [made, hp], rfl⟩
  · next fresh won hp =>
    split at h
    · cases h
    · exact finished (by simp [made, hp]) (Option.some.inj h)
  · next fresh written replaced hp => exact finished (by simp [made, hp]) (Option.some.inj h)
  · cases h

def KeyDesk.OnRow (digest : String → String) (s : KeyDesk) (d : String) : Prop :=
  ∃ accountId row, s.accounts.get accountId = some row ∧ digest row.key = d

/-- The condition of a step. An account is made with a key that is on no row and in no hand; and a write
that took effect is not given up, nor does one take effect that was. -/
def KeyDesk.Orderly (digest : String → String) (s : KeyDesk) : KeyAction → Prop
  | .makes _ _ key => ¬ s.OnRow digest (digest key) ∧
      ∀ n signIn held, s.signIns.get n = some signIn → signIn.inHand = some held →
        digest held ≠ digest key
  | .fails n => ∀ signIn fresh, s.signIns.get n = some signIn →
      signIn.phase ≠ .writing fresh (some true)
  | .writes n => ∀ signIn fresh replaced forgotten row, s.signIns.get n = some signIn →
      signIn.phase = .forgetting fresh none replaced forgotten →
      s.accounts.get signIn.accountId = some row → row.key ≠ signIn.holding
  | _ => True

/-- What holds of the keys in every orderly run. -/
structure KeyDesk.Keyed (digest : String → String) (s : KeyDesk) : Prop where
  /-- The gateway accepts the key on every row. -/
  rows : ∀ accountId row, s.accounts.get accountId = some row → s.ring.accepts (digest row.key) = true
  /-- No two rows carry one key. -/
  rowsApart : ∀ accountId other row row', s.accounts.get accountId = some row →
    s.accounts.get other = some row' → digest row.key = digest row'.key → accountId = other
  /-- The gateway accepts a key in a hand, and no row carries it. -/
  hands : ∀ n signIn key, s.signIns.get n = some signIn → signIn.inHand = some key →
    s.ring.accepts (digest key) = true ∧ ¬ s.OnRow digest (digest key)
  /-- No two hands have one key. -/
  handsApart : ∀ n m signIn signIn' key key', s.signIns.get n = some signIn →
    s.signIns.get m = some signIn' → signIn.inHand = some key → signIn'.inHand = some key' →
    digest key = digest key' → n = m
  /-- A sign-in that came to its end has forgotten the key it had finished with. -/
  ended : ∀ n signIn, s.signIns.get n = some signIn → signIn.isOver = true → signIn.failed = false →
    ∃ fresh written replaced, signIn.phase = .forgetting fresh written replaced (some true)
  /-- A key that is accepted is on a row, or was never on one and made for no sign-in, or a sign-in answers
  for it. -/
  kept : ∀ d, s.ring.accepts d = true → s.OnRow digest d ∨ d ∈ s.spare ∨
    ∃ n signIn, s.signIns.get n = some signIn ∧ signIn.AnswersFor digest d

/-! ## The step keeps the keys -/

section

variable (h : s.Keyed digest)
include h

/-- One sign-in changes, and has in its hand what it had, or nothing, and answers for what it answered for
or for more. -/
theorem KeyDesk.Keyed.settles {new : KeySignIn}
    (hhand : ∀ key, new.inHand = some key → ∃ old, s.signIns.get n = some old ∧ old.inHand = some key)
    (hended : new.isOver = true → new.failed = false →
      ∃ fresh written replaced, new.phase = .forgetting fresh written replaced (some true))
    (hkept : ∀ old d, s.signIns.get n = some old → old.AnswersFor digest d →
      new.AnswersFor digest d) : (s.settles n new).Keyed digest := by
  -- A hand is one there was before.
  have before {m : Nat} {found : KeySignIn} {key : String}
      (hm : (s.settles n new).signIns.get m = some found) (hkey : found.inHand = some key) :
      ∃ old, s.signIns.get m = some old ∧ old.inHand = some key := by
    rcases of_get_set hm with ⟨hmn, rfl⟩ | ⟨-, hm⟩
    · exact hmn ▸ hhand key hkey
    · exact ⟨found, hm, hkey⟩
  refine ⟨h.rows, h.rowsApart, ?_, ?_, ?_, ?_⟩
  · intro m found key hm hkey
    obtain ⟨old, hold, hkey⟩ := before hm hkey
    exact h.hands m old key hold hkey
  · intro m l found found' key key' hm hl hkey hkey' hd
    obtain ⟨old, hold, hkey⟩ := before hm hkey
    obtain ⟨old', hold', hkey'⟩ := before hl hkey'
    exact h.handsApart m l old old' key key' hold hold' hkey hkey' hd
  · intro m found hm hover hfailed
    rcases of_get_set hm with ⟨-, rfl⟩ | ⟨-, hm⟩
    · exact hended hover hfailed
    · exact h.ended m found hm hover hfailed
  · intro d hd
    rcases h.kept d hd with hrow | hspare | ⟨m, found, hm, hanswers⟩
    · exact .inl hrow
    · exact .inr (.inl hspare)
    · refine .inr (.inr ?_)
      by_cases hmn : m = n
      · subst hmn
        exact ⟨m, new, get_set_self _ _ _, hkept found d hm hanswers⟩
      · exact ⟨m, found, by rw [KeyDesk.settles, get_set_ne _ _ hmn]; exact hm, hanswers⟩

theorem KeyDesk.Keyed.ring_congr {ring : KeyRing} (hring : ∀ d, ring.accepts d = s.ring.accepts d) :
    ({ s with ring := ring } : KeyDesk).Keyed digest :=
  ⟨fun accountId row hrow => (hring _).trans (h.rows accountId row hrow), h.rowsApart,
    fun n signIn key hn hkey => ⟨(hring _).trans (h.hands n signIn key hn hkey).1, (h.hands n signIn key hn hkey).2⟩,
    h.handsApart, h.ended, fun d hd => h.kept d ((hring d).symm.trans hd)⟩

theorem KeyDesk.Keyed.mints {came : KeyRing × Option String}
    (hmints : s.ring.Mints digest came) : (s.minted digest came).Keyed digest := by
  obtain ⟨ring, secret⟩ := came
  cases secret with
  | none => exact h.ring_congr hmints
  | some secret =>
    obtain ⟨-, hring⟩ := hmints
    have kept {d : String} (hd : s.ring.accepts d = true) : ring.accepts d = true := by
      rw [hring d, hd, Bool.or_true]
    refine ⟨fun accountId row hrow => kept (h.rows accountId row hrow), h.rowsApart,
      fun n signIn key hn hkey => ⟨kept (h.hands n signIn key hn hkey).1,
        (h.hands n signIn key hn hkey).2⟩, h.handsApart, h.ended, ?_⟩
    intro d hd
    rw [minted, hring d, Bool.or_eq_true, decide_eq_true_eq] at hd
    rcases hd with rfl | hd
    · exact .inr (.inl mem_cons_self)
    · rcases h.kept d hd with hrow | hspare | hanswers
      · exact .inl hrow
      · exact .inr (.inl (mem_cons_of_mem _ hspare))
      · exact .inr (.inr hanswers)

theorem KeyDesk.Keyed.makes {accountId : String} {row : AccountRow}
    (hnew : s.accounts.get accountId = none) (haccepts : s.ring.accepts (digest row.key) = true)
    (hrow : ¬ s.OnRow digest (digest row.key))
    (hhand : ∀ n signIn held, s.signIns.get n = some signIn → signIn.inHand = some held →
      digest held ≠ digest row.key) : (s.makes digest accountId row).Keyed digest := by
  have found {other : String} {row' : AccountRow}
      (ho : (s.makes digest accountId row).accounts.get other = some row') :
      other = accountId ∧ row' = row ∨ s.accounts.get other = some row' := by
    rcases of_get_set ho with ⟨heq, rfl⟩ | ⟨-, ho⟩
    · exact .inl ⟨heq, rfl⟩
    · exact .inr ho
  have old {d : String} (hd : s.OnRow digest d) : (s.makes digest accountId row).OnRow digest d := by
    obtain ⟨other, row', ho, hd⟩ := hd
    have hne : other ≠ accountId := by rintro rfl; cases hnew.symm.trans ho
    exact ⟨other, row', by rw [KeyDesk.makes, get_set_ne _ _ hne]; exact ho, hd⟩
  refine ⟨?_, ?_, ?_, h.handsApart, h.ended, ?_⟩
  · intro other row' ho
    rcases found ho with ⟨rfl, rfl⟩ | ho
    · exact haccepts
    · exact h.rows other row' ho
  · intro one other row₁ row₂ h₁ h₂ hd
    rcases found h₁ with ⟨rfl, rfl⟩ | hone <;> rcases found h₂ with ⟨rfl, rfl⟩ | hother
    · rfl
    · exact absurd ⟨other, row₂, hother, hd.symm⟩ hrow
    · exact absurd ⟨one, row₁, hone, hd⟩ hrow
    · exact h.rowsApart one other row₁ row₂ hone hother hd
  · intro n signIn key hn hkey
    obtain ⟨hlive, hoff⟩ := h.hands n signIn key hn hkey
    refine ⟨hlive, ?_⟩
    rintro ⟨other, row', ho, hd⟩
    rcases found ho with ⟨rfl, rfl⟩ | ho
    · exact hhand n signIn key hn hkey hd.symm
    · exact hoff ⟨other, row', ho, hd⟩
  · intro d hd
    by_cases hnewKey : d = digest row.key
    · exact .inl ⟨accountId, row, get_set_self _ _ _, hnewKey.symm⟩
    · rcases h.kept d hd with hon | hspare | hanswers
      · exact .inl (old hon)
      · exact .inr (.inl (mem_filter.2 ⟨hspare, by simpa using hnewKey⟩))
      · exact .inr (.inr hanswers)

/-- The gateway makes the fresh key of a sign-in: it has it in its hand, unless it is over. -/
theorem KeyDesk.Keyed.issues (hn : s.signIns.get n = some signIn)
    (hphase : signIn.phase = .asking none) (id secret : String) (t : Int) :
    (s.issues digest n signIn id secret t).Keyed digest := by
  have hmints : s.ring.Mints digest (s.ring.issueCabinetKey digest signIn.holding id secret t) :=
    KeyRing.issueCabinetKey_mints signIn.holding id secret t
  -- One that is over was cut off, or met a failure.
  have hfailed (hover : signIn.isOver = true) : signIn.failed = true := by
    cases hf : signIn.failed with
    | true => rfl
    | false =>
      obtain ⟨fresh, written, replaced, hp⟩ := h.ended n signIn hn hover hf
      cases hphase.symm.trans hp
  unfold KeyDesk.issues
  dsimp only
  generalize s.ring.issueCabinetKey digest signIn.holding id secret t = came at hmints
  obtain ⟨ring, made⟩ := came
  cases made with
  | none =>
    refine KeyDesk.Keyed.ring_congr (s := s.settles n _) (h.settles ?_ ?_ ?_) hmints
    · intro key hkey
      cases hover : signIn.isOver <;> simp [KeySignIn.inHand, KeySignIn.moves, hover] at hkey
    · intro hover hf
      cases (hfailed hover).symm.trans hf
    · rintro old d hold (⟨key, hkey, -⟩ | ⟨hf, hd | ⟨key, hmade, -⟩⟩) <;> cases hn.symm.trans hold
      · simp [KeySignIn.inHand, hphase] at hkey
      · exact .inr ⟨hf, .inl hd⟩
      · simp [KeySignIn.made, hphase] at hmade
  | some fresh =>
    obtain ⟨hnew, hring⟩ := hmints
    have kept {d : String} (hd : s.ring.accepts d = true) : ring.accepts d = true := by
      rw [hring d, hd, Bool.or_true]
    have fresh_of {d : String} (hd : s.ring.accepts d = true) : d ≠ digest fresh := by
      rintro rfl
      cases hd.symm.trans hnew
    -- A hand is the fresh key's, or one there was before.
    have inHand {m : Nat} {found : KeySignIn} {key : String}
        (hm : (s.signIns.set n (signIn.moves (.asking (some (some fresh))))).get m = some found)
        (hkey : found.inHand = some key) :
        m = n ∧ key = fresh ∨ s.signIns.get m = some found := by
      rcases of_get_set hm with ⟨hmn, rfl⟩ | ⟨-, hm⟩
      · refine .inl ⟨hmn, ?_⟩
        cases hover : signIn.isOver with
        | true => simp [KeySignIn.inHand, KeySignIn.moves, hover] at hkey
        | false => simpa [KeySignIn.inHand, KeySignIn.moves, hover, eq_comm] using hkey
      · exact .inr hm
    refine ⟨fun accountId row hrow => kept (h.rows accountId row hrow), h.rowsApart, ?_, ?_, ?_, ?_⟩
    · intro m found key hm hkey
      rcases inHand hm hkey with ⟨rfl, rfl⟩ | hm
      · refine ⟨by simp [hring], ?_⟩
        rintro ⟨accountId, row, hrow, hd⟩
        exact fresh_of (h.rows accountId row hrow) hd
      · obtain ⟨hlive, hoff⟩ := h.hands m found key hm hkey
        exact ⟨kept hlive, hoff⟩
    · intro m l found found' key key' hm hl hkey hkey' hd
      rcases inHand hm hkey with ⟨rfl, rfl⟩ | hold <;> rcases inHand hl hkey' with ⟨rfl, rfl⟩ | hold'
      · rfl
      · exact absurd hd.symm (fresh_of (h.hands l found' key' hold' hkey').1)
      · exact absurd hd (fresh_of (h.hands m found key hold hkey).1)
      · exact h.handsApart m l found found' key key' hold hold' hkey hkey' hd
    · intro m found hm hover hf
      rcases of_get_set hm with ⟨-, rfl⟩ | ⟨-, hm⟩
      · cases (hfailed hover).symm.trans hf
      · exact h.ended m found hm hover hf
    · intro d hd
      rw [hring d, Bool.or_eq_true, decide_eq_true_eq] at hd
      rcases hd with rfl | hd
      · refine .inr (.inr ⟨n, _, get_set_self _ _ _, ?_⟩)
        cases hover : signIn.isOver with
        | false => exact .inl ⟨fresh, by simp [KeySignIn.inHand, KeySignIn.moves, hover], rfl⟩
        | true => exact .inr ⟨hfailed hover, .inr ⟨fresh, rfl, rfl⟩⟩
      · rcases h.kept d hd with hrow | hspare | ⟨m, found, hm, hanswers⟩
        · exact .inl hrow
        · exact .inr (.inl hspare)
        · refine .inr (.inr ?_)
          by_cases hmn : m = n
          · subst hmn
            cases hn.symm.trans hm
            rcases hanswers with ⟨key, hkey, -⟩ | ⟨hf, hd | ⟨key, hmade, -⟩⟩
            · simp [KeySignIn.inHand, hphase] at hkey
            · exact ⟨m, _, get_set_self _ _ _, .inr ⟨hf, .inl hd⟩⟩
            · simp [KeySignIn.made, hphase] at hmade
          · exact ⟨m, found, by rw [KeyDesk.settles, get_set_ne _ _ hmn]; exact hm, hanswers⟩

/-- A sign-in that did not come to its end by forgetting a key was cut off, or met a failure, if it is
over. -/
theorem KeyDesk.Keyed.failed_of_over (hn : s.signIns.get n = some signIn)
    (hphase : ∀ fresh written replaced, signIn.phase ≠ .forgetting fresh written replaced (some true))
    (hover : signIn.isOver = true) : signIn.failed = true := by
  cases hf : signIn.failed with
  | true => rfl
  | false =>
    obtain ⟨fresh, written, replaced, hp⟩ := h.ended n signIn hn hover hf
    exact absurd hp (hphase fresh written replaced)

variable {fresh : String}

section

variable (hn : s.signIns.get n = some signIn)
include hn

namespace KeyDesk.Keyed

theorem misses (hphase : signIn.phase = .writing fresh none) :
    (s.settles n (signIn.moves (.writing fresh (some false)))).Keyed digest := by
  have hfailed := h.failed_of_over hn (by rw [hphase]; rintro _ _ _ ⟨⟩)
  refine h.settles ?_ ?_ ?_
  · intro key hkey
    refine ⟨signIn, hn, ?_⟩
    cases hover : signIn.isOver <;>
      simp [KeySignIn.inHand, KeySignIn.moves, KeySignIn.finishedWith, hover] at hkey
    simp [KeySignIn.inHand, hphase, hkey]
  · intro hover hf
    cases (hfailed hover).symm.trans hf
  · rintro old d hold (⟨key, hkey, hd⟩ | ⟨hf, hd | ⟨key, hmade, hd⟩⟩) <;> cases hn.symm.trans hold
    · have hkey : fresh = key := by simpa [KeySignIn.inHand, hphase] using hkey
      cases hover : signIn.isOver with
      | false =>
        exact .inl ⟨key, by simp [KeySignIn.inHand, KeySignIn.moves, KeySignIn.finishedWith, hover,
          hkey], hd⟩
      | true => exact .inr ⟨hfailed hover, .inr ⟨fresh, rfl, by rw [hkey]; exact hd⟩⟩
    · exact .inr ⟨hf, .inl hd⟩
    · have hmade : fresh = key := by simpa [KeySignIn.made, hphase] using hmade
      exact .inr ⟨hf, .inr ⟨fresh, rfl, by rw [hmade]; exact hd⟩⟩

/-- The row is moved to the fresh key of a sign-in: from now on it has the key that was on the row in its
hand, unless it is over. -/
theorem moved {row : AccountRow} (hphase : signIn.phase = .writing fresh none)
    (hrow : s.accounts.get signIn.accountId = some row) (hkey : row.key = signIn.holding) :
    ({ s.settles n (signIn.moves (.writing fresh (some true))) with
        accounts := s.accounts.set signIn.accountId { row with key := fresh } } :
      KeyDesk).Keyed digest := by
  have hfailed := h.failed_of_over hn (by rw [hphase]; rintro _ _ _ ⟨⟩)
  have hhand : signIn.inHand = some fresh := by simp [KeySignIn.inHand, hphase]
  obtain ⟨hlive, hoff⟩ := h.hands n signIn fresh hn hhand
  -- A row is the one that was moved, or another one.
  have found {accountId : String} {row' : AccountRow}
      (hr : (s.accounts.set signIn.accountId { row with key := fresh }).get accountId = some row') :
      row'.key = fresh ∧ accountId = signIn.accountId ∨
        accountId ≠ signIn.accountId ∧ s.accounts.get accountId = some row' := by
    rcases of_get_set hr with ⟨heq, rfl⟩ | ⟨hne, hr⟩
    · exact .inl ⟨rfl, heq⟩
    · exact .inr ⟨hne, hr⟩
  -- A hand is the one that got the replaced key, or another one.
  have held {m : Nat} {signIn' : KeySignIn} {key : String}
      (hm : (s.signIns.set n (signIn.moves (.writing fresh (some true)))).get m = some signIn')
      (hk : signIn'.inHand = some key) :
      m = n ∧ key = row.key ∨ m ≠ n ∧ s.signIns.get m = some signIn' := by
    rcases of_get_set hm with ⟨hmn, rfl⟩ | ⟨hmn, hm⟩
    · cases hover : signIn.isOver <;>
      simp [KeySignIn.inHand, KeySignIn.moves, KeySignIn.finishedWith, hover] at hk
      exact .inl ⟨hmn, by rw [hkey, hk]⟩
    · exact .inr ⟨hmn, hm⟩
  have away {key : String} (hd : digest key ≠ digest fresh)
      (hothers : ∀ accountId row', accountId ≠ signIn.accountId →
        s.accounts.get accountId = some row' → digest row'.key ≠ digest key) :
      ¬ KeyDesk.OnRow digest { s.settles n (signIn.moves (.writing fresh (some true))) with
        accounts := s.accounts.set signIn.accountId { row with key := fresh } } (digest key) := by
    rintro ⟨accountId, row', hr, hdigest⟩
    rcases found hr with ⟨hfresh, -⟩ | ⟨hne, hr⟩
    · exact hd (by rw [← hfresh]; exact hdigest.symm)
    · exact hothers accountId row' hne hr hdigest
  refine ⟨?_, ?_, ?_, ?_, ?_, ?_⟩
  · intro accountId row' hr
    rcases found hr with ⟨hfresh, -⟩ | ⟨-, hr⟩
    · exact hfresh ▸ hlive
    · exact h.rows accountId row' hr
  · intro one other row₁ row₂ h₁ h₂ hd
    rcases found h₁ with ⟨hf₁, ha₁⟩ | ⟨hne₁, hone⟩ <;>
      rcases found h₂ with ⟨hf₂, ha₂⟩ | ⟨hne₂, hother⟩
    · exact ha₁.trans ha₂.symm
    · exact absurd ⟨other, row₂, hother, by rw [← hd, hf₁]⟩ hoff
    · exact absurd ⟨one, row₁, hone, by rw [hd, hf₂]⟩ hoff
    · exact h.rowsApart one other row₁ row₂ hone hother hd
  · intro m signIn' key hm hk
    rcases held hm hk with ⟨-, rfl⟩ | ⟨hmn, hm⟩
    · refine ⟨h.rows _ row hrow, away ?_ ?_⟩
      · intro hd
        exact hoff ⟨_, row, hrow, hd⟩
      · intro accountId row' hne hr hd
        exact hne (h.rowsApart accountId _ row' row hr hrow hd)
    · obtain ⟨hlive', hoff'⟩ := h.hands m signIn' key hm hk
      refine ⟨hlive', away ?_ fun accountId row' _ hr hd => hoff' ⟨accountId, row', hr, hd⟩⟩
      intro hd
      exact hmn (h.handsApart m n signIn' signIn key fresh hm hn hk hhand hd)
  · intro m l signIn₁ signIn₂ key₁ key₂ hm hl hk₁ hk₂ hd
    rcases held hm hk₁ with ⟨rfl, rfl⟩ | ⟨-, hone⟩ <;>
      rcases held hl hk₂ with ⟨rfl, rfl⟩ | ⟨-, hother⟩
    · rfl
    · exact absurd ⟨_, row, hrow, hd⟩ (h.hands l signIn₂ key₂ hother hk₂).2
    · exact absurd ⟨_, row, hrow, hd.symm⟩ (h.hands m signIn₁ key₁ hone hk₁).2
    · exact h.handsApart m l signIn₁ signIn₂ key₁ key₂ hone hother hk₁ hk₂ hd
  · intro m signIn' hm hover hf
    rcases of_get_set hm with ⟨-, rfl⟩ | ⟨-, hm⟩
    · cases (hfailed hover).symm.trans hf
    · exact h.ended m signIn' hm hover hf
  · intro d hd
    have fresh_on : KeyDesk.OnRow digest
        { s.settles n (signIn.moves (.writing fresh (some true))) with
          accounts := s.accounts.set signIn.accountId { row with key := fresh } } (digest fresh) :=
      ⟨signIn.accountId, _, get_set_self _ _ _, rfl⟩
    rcases h.kept d hd with ⟨accountId, row', hr, hdigest⟩ | hspare | ⟨m, signIn', hm, hanswers⟩
    · by_cases ha : accountId = signIn.accountId
      · -- The key that was replaced.
        subst ha
        cases hrow.symm.trans hr
        refine .inr (.inr ⟨n, _, get_set_self _ _ _, ?_⟩)
        rw [← hdigest, hkey]
        cases hover : signIn.isOver with
        | false =>
          exact .inl ⟨signIn.holding, by simp [KeySignIn.inHand, KeySignIn.moves,
            KeySignIn.finishedWith, hover], rfl⟩
        | true => exact .inr ⟨hfailed hover, .inl rfl⟩
      · exact .inl ⟨accountId, row', by rw [get_set_ne _ _ ha]; exact hr, hdigest⟩
    · exact .inr (.inl hspare)
    · by_cases hmn : m = n
      · subst hmn
        cases hn.symm.trans hm
        rcases hanswers with ⟨key, hk, hdigest⟩ | ⟨hf, hd | ⟨key, hmade, hdigest⟩⟩
        · cases hhand.symm.trans hk
          exact .inl (hdigest ▸ fresh_on)
        · exact .inr (.inr ⟨m, _, get_set_self _ _ _, .inr ⟨hf, .inl hd⟩⟩)
        · have hmade : fresh = key := by simpa [KeySignIn.made, hphase] using hmade
          exact .inl (hdigest ▸ hmade ▸ fresh_on)
      · exact .inr (.inr ⟨m, signIn', by simp only [KeyDesk.settles]; rw [get_set_ne _ _ hmn]; exact hm, hanswers⟩)

theorem writes (hphase : signIn.phase = .writing fresh none) :
    (s.writes n signIn fresh (.writing fresh)).Keyed digest := by
  unfold KeyDesk.writes replaceMerchantKey
  split
  · exact h.misses hn hphase
  · next row hrow =>
    split
    · next hkey => exact h.moved hn hphase hrow hkey
    · exact h.misses hn hphase

theorem writesLate {replaced : Bool} {forgotten : Option Bool}
    (hphase : signIn.phase = .forgetting fresh none replaced forgotten)
    (ho : ∀ row, s.accounts.get signIn.accountId = some row → row.key ≠ signIn.holding) :
    (s.writes n signIn fresh (.forgetting fresh · replaced forgotten)).Keyed digest := by
  have missed : s.replaceMerchantKey signIn.accountId signIn.holding fresh = (s.accounts, false) := by
    unfold replaceMerchantKey
    split
    · rfl
    · next row hrow => rw [if_neg (ho row hrow)]
  have hand : (signIn.moves (.forgetting fresh (some false) replaced forgotten)).inHand =
      signIn.inHand := by
    cases forgotten <;>
      simp [KeySignIn.inHand, KeySignIn.moves, KeySignIn.finishedWith, hphase]
  unfold KeyDesk.writes
  rw [missed]
  refine h.settles (fun key hkey => ⟨signIn, hn, hand ▸ hkey⟩) ?_ ?_
  · intro hover hf
    obtain ⟨fresh', written, replaced', hp⟩ := h.ended n signIn hn hover hf
    cases hphase.symm.trans hp
    exact ⟨fresh, _, replaced, rfl⟩
  · rintro old d hold (⟨key, hkey, hd⟩ | ⟨hf, hd | ⟨key, hmade, hd⟩⟩) <;> cases hn.symm.trans hold
    · exact .inl ⟨key, hand.trans hkey, hd⟩
    · exact .inr ⟨hf, .inl hd⟩
    · have hmade : fresh = key := by simpa [KeySignIn.made, hphase] using hmade
      exact .inr ⟨hf, .inr ⟨fresh, rfl, by rw [hmade]; exact hd⟩⟩

theorem forgets {written : Option Bool} {replaced : Bool}
    (hphase : signIn.phase = .forgetting fresh written replaced none) :
    (s.forgets digest n signIn fresh written replaced).Keyed digest := by
  have hhand : signIn.inHand = some (signIn.finishedWith fresh replaced) := by simp [KeySignIn.inHand, hphase]
  obtain ⟨hlive, hoff⟩ := h.hands n signIn _ hn hhand
  obtain ⟨hforgotten, hring⟩ := KeyRing.forgetItself_accepted hlive
  unfold KeyDesk.forgets
  dsimp only
  rw [hforgotten]
  generalize (s.ring.forgetItself digest (signIn.finishedWith fresh replaced)).1 = ring at hring
  generalize signIn.finishedWith fresh replaced = gone at hhand hlive hoff hring
  have kept {d : String} (hd : s.ring.accepts d = true) (hne : d ≠ digest gone) :
      ring.accepts d = true := by
    rw [hring d, hd, Bool.and_true, decide_eq_true hne]
  have held {m : Nat} {found : KeySignIn} {key : String}
      (hm : (s.signIns.set n (signIn.moves (.forgetting fresh written replaced (some true)))).get m = some found)
      (hk : found.inHand = some key) : m ≠ n ∧ s.signIns.get m = some found := by
    rcases of_get_set hm with ⟨-, rfl⟩ | ⟨hmn, hm⟩
    · simp [KeySignIn.inHand, KeySignIn.moves] at hk
    · exact ⟨hmn, hm⟩
  refine ⟨?_, h.rowsApart, ?_, ?_, ?_, ?_⟩
  · intro accountId row hrow
    exact kept (h.rows accountId row hrow) fun hd => hoff ⟨accountId, row, hrow, hd⟩
  · intro m found key hm hk
    obtain ⟨hmn, hm⟩ := held hm hk
    obtain ⟨hlive', hoff'⟩ := h.hands m found key hm hk
    exact ⟨kept hlive' fun hd => hmn (h.handsApart m n found signIn key gone hm hn hk hhand hd), hoff'⟩
  · intro m l found found' key key' hm hl hk hk' hd
    exact h.handsApart m l found found' key key' (held hm hk).2 (held hl hk').2 hk hk' hd
  · intro m found hm hover hf
    rcases of_get_set hm with ⟨-, rfl⟩ | ⟨-, hm⟩
    · exact ⟨fresh, written, replaced, rfl⟩
    · exact h.ended m found hm hover hf
  · intro d hd
    rw [hring d, Bool.and_eq_true, decide_eq_true_eq] at hd
    rcases h.kept d hd.2 with hrow | hspare | ⟨m, found, hm, hanswers⟩
    · exact .inl hrow
    · exact .inr (.inl hspare)
    · refine .inr (.inr ?_)
      by_cases hmn : m = n
      · subst hmn
        cases hn.symm.trans hm
        rcases hanswers with ⟨key, hk, hdigest⟩ | ⟨hf, hd | ⟨key, hmade, hdigest⟩⟩
        · cases hhand.symm.trans hk
          exact absurd hdigest.symm hd.1
        · exact ⟨m, _, get_set_self _ _ _, .inr ⟨hf, .inl hd⟩⟩
        · have hmade : fresh = key := by simpa [KeySignIn.made, hphase] using hmade
          exact ⟨m, _, get_set_self _ _ _, .inr ⟨hf, .inr ⟨fresh, rfl, by rw [hmade]; exact hdigest⟩⟩⟩
      · exact ⟨m, found, by simp only [KeyDesk.settles]; rw [get_set_ne _ _ hmn]; exact hm, hanswers⟩

/-- A sign-in goes on, and no call takes effect: it has in its hand what it had, or it failed and has
nothing. -/
theorem goesOn {new : KeySignIn}
    (hhand : new.inHand = signIn.inHand ∨ new.inHand = none ∧ new.failed = true)
    (hholding : new.holding = signIn.holding) (hmade : new.made = signIn.made)
    (hfailed : signIn.failed = true → new.failed = true) (hended : new.isOver = true → new.failed = false →
      ∃ fresh written replaced, new.phase = .forgetting fresh written replaced (some true)) :
    (s.settles n new).Keyed digest := by
  have had {d : String} (hd : signIn.Had digest d) : new.Had digest d := by
    unfold KeySignIn.Had at hd ⊢
    rwa [hholding, hmade]
  refine h.settles ?_ hended ?_
  · intro key hkey
    rcases hhand with hsame | ⟨hnone, -⟩
    · exact ⟨signIn, hn, hsame ▸ hkey⟩
    · cases hnone.symm.trans hkey
  · rintro old d hold (⟨key, hkey, hd⟩ | ⟨hf, hd⟩) <;> cases hn.symm.trans hold
    · rcases hhand with hsame | ⟨-, hf⟩
      · exact .inl ⟨key, hsame.trans hkey, hd⟩
      · exact .inr ⟨hf, had (hd ▸ KeySignIn.had_of_inHand hkey)⟩
    · exact .inr ⟨hfailed hf, had hd⟩

theorem hears {heard : KeySignIn} (hover : signIn.isOver = false)
    (hheard : signIn.hears = some heard) : (s.settles n heard).Keyed digest := by
  obtain ⟨accountId, holding, phase, isOver, failed⟩ := signIn
  cases hover
  unfold KeySignIn.hears at hheard
  dsimp only at hheard
  split at hheard
  · cases hheard
  · cases hheard
  · cases hheard
  · cases hheard
    exact h.goesOn hn (.inl rfl) rfl rfl (fun _ => rfl) (by rintro - ⟨⟩)
  · cases hheard
    exact h.goesOn hn (.inl rfl) rfl rfl id (by rintro ⟨⟩)
  · cases hheard
    exact h.goesOn hn (.inl rfl) rfl rfl id (by rintro ⟨⟩)
  · next fresh written replaced =>
    cases hheard
    exact h.goesOn hn (.inl rfl) rfl rfl id fun _ _ => ⟨fresh, written, replaced, rfl⟩
  · cases hheard
    exact h.goesOn hn (.inl rfl) rfl rfl (fun _ => rfl) (by rintro - ⟨⟩)

theorem ends (hover : signIn.isOver = false) : (s.settles n signIn.ends).Keyed digest := by
  obtain ⟨accountId, holding, phase, isOver, failed⟩ := signIn
  cases hover
  refine h.goesOn hn ?_ rfl rfl (fun _ => rfl) (by rintro - ⟨⟩)
  cases phase with
  | asking issued => exact .inr ⟨rfl, rfl⟩
  | writing fresh written =>
    cases written with
    | none => exact .inl rfl
    | some won => exact .inr ⟨rfl, rfl⟩
  | forgetting fresh written replaced forgotten => cases forgotten <;> exact .inl rfl

/-- The call a sign-in waits for fails. A write that is given up did not take effect, so the fresh key it
turns to is on no row. -/
theorem fails (hover : signIn.isOver = false)
    (ho : ∀ fresh, signIn.phase ≠ .writing fresh (some true)) : (s.settles n signIn.fails).Keyed digest := by
  cases hphase : signIn.phase with
  | asking issued | forgetting fresh written replaced forgotten =>
    unfold KeySignIn.fails
    rw [hphase]
    exact h.ends hn hover
  | writing fresh written =>
    obtain ⟨accountId, holding, phase, isOver, failed⟩ := signIn
    cases hover
    cases hphase
    refine h.goesOn hn (.inl ?_) rfl rfl (fun _ => rfl) (by rintro ⟨⟩)
    match written with
    | none => rfl
    | some false => rfl
    | some true => exact absurd rfl (ho fresh)

end KeyDesk.Keyed

end

end

theorem KeyDesk.Performs.keyed (hact : s.Performs digest action s') (h : s.Keyed digest)
    (ho : s.Orderly digest action) : s'.Keyed digest := by
  cases hact with
  | mints action hmints => exact h.mints hmints
  | makes merchantId hnew haccepts => exact h.makes hnew haccepts ho.1 ho.2
  | @signsIn n accountId row hrow hn =>
    refine h.settles ?_ (by rintro ⟨⟩) ?_
    · rintro key ⟨⟩
    · intro old d hold
      cases hn.symm.trans hold
  | issues id secret t hn hphase => exact h.issues hn hphase id secret t
  | writes hn hphase => exact h.writes hn hphase
  | @writesLate n signIn fresh replaced forgotten hn hphase =>
    exact h.writesLate hn hphase fun row hrow => ho signIn fresh replaced forgotten row hn hphase hrow
  | forgets hn hphase => exact h.forgets hn hphase
  | hears hn hover hheard => exact h.hears hn hover hheard
  | @fails n signIn hn hover => exact h.fails hn hover fun fresh => ho signIn fresh hn
  | cutOff hn hover => exact h.ends hn hover

theorem KeyDesk.keyed_run {actions : List KeyAction}
    (ho : (keyMachine digest).Meets (KeyDesk.Orderly digest) .empty actions) :
    (keyRun digest actions).Keyed digest :=
  (keyMachine digest).run_induction_meeting (P := KeyDesk.Keyed digest)
    (fun h ho hstep => (KeyDesk.step_performs hstep).keyed h ho)
    ⟨fun _ _ h => (by cases h), fun _ _ _ _ h => (by cases h), fun _ _ _ h => (by cases h),
      fun _ _ _ _ _ _ h => (by cases h), fun _ _ h => (by cases h), fun _ h => (by cases h)⟩
    actions ho

end

/-- **Signing in locks nobody out.** In a run where no account is made with a key that is on another row or
in the hand of a sign-in, and no write that takes effect is given up: the gateway accepts the key on the row
of every account; and a key it accepts that is on no row was never on one and made for no sign-in, or is
one that a sign-in read or had made which is under way, was cut off or met a failure. -/
theorem sign_ins_lock_nobody_out (digest : String → String) (actions : List KeyAction)
    (ho : (keyMachine digest).Meets (KeyDesk.Orderly digest) .empty actions) :
    let s := keyRun digest actions
    (∀ accountId row, s.accounts.get accountId = some row → s.ring.accepts (digest row.key) = true) ∧
    ∀ d, s.ring.accepts d = true →
      (∀ accountId row, s.accounts.get accountId = some row → digest row.key ≠ d) →
      d ∈ s.spare ∨ ∃ n signIn, s.signIns.get n = some signIn ∧
        (signIn.isOver = false ∨ signIn.failed = true) ∧ signIn.Had digest d := by
  intro s
  have hkeyed : s.Keyed digest := KeyDesk.keyed_run ho
  refine ⟨hkeyed.rows, fun d hd hoff => ?_⟩
  rcases hkeyed.kept d hd with ⟨accountId, row, hrow, hkey⟩ | hspare | ⟨n, signIn, hn, hanswers⟩
  · exact absurd hkey (hoff accountId row hrow)
  · exact .inl hspare
  · refine .inr ⟨n, signIn, hn, ?_⟩
    rcases hanswers with ⟨key, hkey, rfl⟩ | ⟨hf, hd⟩
    · refine ⟨?_, KeySignIn.had_of_inHand hkey⟩
      cases hover : signIn.isOver with
      | false => exact .inl rfl
      | true =>
        refine .inr ?_
        cases hf : signIn.failed with
        | true => rfl
        | false =>
          obtain ⟨fresh, written, replaced, hp⟩ := hkeyed.ended n signIn hn hover hf
          simp [KeySignIn.inHand, hp] at hkey
    · exact ⟨.inr hf, hd⟩

def sampleDigest (secret : String) : String := "digest of " ++ secret

/-- A merchant registers with a first key, and an account is made with it. -/
def registration : List KeyAction := [.joins "mch_1" "A shop" "mk_1" "k1" 0, .makes "acc_1" "mch_1" "k1"]

/-- A sign-in to the first account has a fresh key made, and writes it. -/
def firstSignIn : List KeyAction := [.signsIn 0 "acc_1", .issues 0 "mk_2" "k2" 1, .hears 0, .writes 0]

/-- A sign-in that nothing happens to leaves an account whose key works. -/
theorem first_sign_in_keeps_the_key :
    let s := keyRun sampleDigest (registration ++ firstSignIn ++ [.hears 0, .forgets 0, .hears 0])
    s.accounts.get "acc_1" = some ⟨"mch_1", "k2"⟩ ∧ s.ring.accepts (sampleDigest "k2") = true := by
  intro s
  have hrow : s.accounts.get "acc_1" = some ⟨"mch_1", "k2"⟩ := by decide +kernel
  refine ⟨hrow, (sign_ins_lock_nobody_out sampleDigest _ ?_).1 "acc_1" _ hrow⟩
  refine ⟨trivial, ⟨?_, ?_⟩, trivial, trivial, trivial, ?_, trivial, trivial, trivial, trivial⟩
  · rintro ⟨accountId, row, ⟨⟩, -⟩
  · rintro n signIn held ⟨⟩
  · rintro signIn fresh replaced forgotten row ⟨⟩ ⟨⟩

/-- The check behind which an account is made leaves a key on no row, with no sign-in in sight. A write that
took effect and whose answer is lost leaves an account whose key is forgotten, and so does a sign-in to
another account that was made with the same key. -/
theorem locked_out_and_littered :
    let added := keyRun sampleDigest
      [.joins "mch_1" "A shop" "mk_1" "k1" 0, .checks "k1" "mk_2" "k2" 1, .makes "acc_1" "mch_1" "k1"]
    let lost := keyRun sampleDigest (registration ++ firstSignIn ++ [.fails 0, .forgets 0, .hears 0])
    let shared := keyRun sampleDigest
      (registration ++ .makes "acc_2" "mch_1" "k1" :: firstSignIn ++ [.hears 0, .forgets 0, .hears 0])
    (added.ring.accepts (sampleDigest "k2") = true ∧
      added.accounts.entries = [("acc_1", ⟨"mch_1", "k1"⟩)] ∧ added.signIns.entries = []) ∧
    (lost.accounts.get "acc_1" = some ⟨"mch_1", "k2"⟩ ∧ lost.ring.accepts (sampleDigest "k2") = false) ∧
    (shared.accounts.get "acc_2" = some ⟨"mch_1", "k1"⟩ ∧ shared.ring.accepts (sampleDigest "k1") = false) := by
  decide +kernel

end Coinslot
