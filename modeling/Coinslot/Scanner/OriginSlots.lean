import Coinslot.Lib.Reactor
import Mathlib.Algebra.Order.Group.Nat
import Mathlib.Data.List.Basic

/-!
# The slots of an origin

Of the requests of a scan so many at once may be made to one origin. Who asks for a slot gets one at once while
there are any, and waits otherwise; a slot that is given back goes to whoever has waited longest, and the count of
those that hold one is left as it is.

`acquire`, the release function and the listener of a signal each run without a break, so that every interleaving
of them is a run of `semaphore`. Between a slot being given and the acquirer going on with it (`Move.goesOn`)
anything may come; the slot is the acquirer's from the moment it is given. A signal that was aborted before anybody
asked is not heard: its event is over.

What carries the results is what the count, the queues and the listeners say of the acquirers (`Sound`).
-/

namespace Coinslot

open List

/-- How far an acquirer has come. A slot is given before `acquire` answers with the release function, which may be
called again and again. -/
inductive SlotPhase where
  | waiting
  | granted
  | answered (released : Bool)
  | rejected
  deriving DecidableEq, Repr

/-- One call of `acquire`. -/
structure Acquirer (O S : Type) where
  origin : O
  signal : S
  phase : SlotPhase
  deriving DecidableEq, Repr

/-- The semaphore, and what there is around it: the listeners of each signal and whether it was aborted, and
everybody who ever called `acquire`, by the order of the calls. -/
structure OriginSemaphore (O S : Type) where
  active : O → Option Nat := fun _ => none
  waiters : O → Option (List Nat) := fun _ => none
  listeners : S → List Nat := fun _ => []
  aborted : S → Bool := fun _ => false
  acquirers : List (Acquirer O S) := []

/-- What happens to a semaphore. -/
inductive SlotMove (O S : Type) where
  | acquire (origin : O) (signal : S)
  | goesOn (acquirer : Nat)
  | release (acquirer : Nat)
  | abort (signal : S)
  deriving DecidableEq, Repr

def Acquirer.holds {O S : Type} [DecidableEq O] (o : O) (a : Acquirer O S) : Bool :=
  decide (a.origin = o) && (decide (a.phase = .granted) || decide (a.phase = .answered false))

namespace OriginSemaphore

variable {O S : Type}

section

variable (s : OriginSemaphore O S)

/-- Who waits for a slot of an origin, the longest first. -/
def queue (o : O) : List Nat := (s.waiters o).getD []

def moved (c : Nat) (a : Acquirer O S) (phase : SlotPhase) : OriginSemaphore O S :=
  { s with acquirers := s.acquirers.set c { a with phase } }

/-- The promise an acquirer waits for is settled; one that is settled already stays as it is. -/
def settle (c : Nat) (phase : SlotPhase) : OriginSemaphore O S :=
  match s.acquirers[c]? with
  | some a => if a.phase = .waiting then s.moved c a phase else s
  | none => s

/-- A waiter is handed a slot: its listener is taken away. -/
def resume [DecidableEq S] (c : Nat) : OriginSemaphore O S :=
  match s.acquirers[c]? with
  | some a =>
    { s with listeners := Function.update s.listeners a.signal ((s.listeners a.signal).erase c) }.settle c .granted
  | none => s

end

variable {a : Acquirer O S}

theorem acquirers_concat {l : List (Acquirer O S)} {a' : Acquirer O S} {d : Nat} :
    (l ++ [a])[d]? = some a' ↔ l[d]? = some a' ∨ d = l.length ∧ a = a' := by
  rcases lt_trichotomy d l.length with hlt | rfl | hgt
  · rw [getElem?_append_left hlt]
    refine (or_iff_left ?_).symm
    rintro ⟨rfl, -⟩
    exact absurd hlt (lt_irrefl _)
  · simp
  · have hl : l[d]? = none := getElem?_eq_none hgt.le
    have hla : (l ++ [a])[d]? = none := getElem?_eq_none (by simp; omega)
    rw [hl, hla]
    simp [hgt.ne']

theorem pairwise_concat {l : List Nat} {n : Nat} (h : l.Pairwise (· < ·)) (hn : ∀ d ∈ l, d < n) :
    (l ++ [n]).Pairwise (· < ·) := by
  refine pairwise_append.2 ⟨h, pairwise_singleton _ _, fun d hd e he => ?_⟩
  rw [mem_singleton.1 he]
  exact hn d hd

variable {s : OriginSemaphore O S} {c : Nat}

theorem acquirers_moved (h : s.acquirers[c]? = some a) (phase : SlotPhase) (d : Nat) :
    (s.moved c a phase).acquirers[d]? = if d = c then some { a with phase } else s.acquirers[d]? := by
  obtain ⟨hlt, -⟩ := List.getElem?_eq_some_iff.1 h
  rcases eq_or_ne d c with rfl | hne
  · rw [if_pos rfl, moved, getElem?_set_self hlt]
  · rw [if_neg hne, moved, getElem?_set_ne (Ne.symm hne)]

variable {phase : SlotPhase}

theorem waiting_moved (h : s.acquirers[c]? = some a) (hphase : phase ≠ .waiting) (o : O) (σ : S) (d : Nat) :
    (s.moved c a phase).acquirers[d]? = some ⟨o, σ, .waiting⟩ ↔ d ≠ c ∧ s.acquirers[d]? = some ⟨o, σ, .waiting⟩ := by
  rw [acquirers_moved h]
  split
  · next hd =>
    constructor
    · intro heq
      cases heq
      exact absurd rfl hphase
    · rintro ⟨hne, -⟩
      exact absurd hd hne
  · next hd => exact ⟨fun heq => ⟨hd, heq⟩, And.right⟩

theorem waiting_moved_same (h : s.acquirers[c]? = some a)
    (ha : a.phase ≠ .waiting) (hphase : phase ≠ .waiting) (o : O) (σ : S) (d : Nat) :
    (s.moved c a phase).acquirers[d]? = some ⟨o, σ, .waiting⟩ ↔ s.acquirers[d]? = some ⟨o, σ, .waiting⟩ := by
  rw [waiting_moved h hphase]
  refine and_iff_right_of_imp ?_
  rintro heq rfl
  cases h.symm.trans heq
  exact ha rfl

@[simp] theorem queue_moved (s : OriginSemaphore O S) (c : Nat) (a : Acquirer O S) (phase : SlotPhase) (o : O) :
    (s.moved c a phase).queue o = s.queue o := rfl

theorem settle_of_waiting {o : O} {σ : S} (h : s.acquirers[c]? = some ⟨o, σ, .waiting⟩) (phase : SlotPhase) :
    s.settle c phase = s.moved c ⟨o, σ, .waiting⟩ phase := by
  simp [settle, h]

variable [DecidableEq O]

def holders (s : OriginSemaphore O S) (o : O) : Nat := s.acquirers.countP (Acquirer.holds o)

/-- What the listener of an acquirer does. -/
def onAbort (s : OriginSemaphore O S) (c : Nat) : OriginSemaphore O S :=
  match s.acquirers[c]? with
  | some a =>
    { s with
      waiters := Function.update s.waiters a.origin ((s.waiters a.origin).map fun ids : List Nat => ids.erase c)
    }.settle c .rejected
  | none => s

theorem holders_moved (h : s.acquirers[c]? = some a) (phase : SlotPhase) (o : O) :
    (s.moved c a phase).holders o + (a.holds o).toNat =
      s.holders o + (({ a with phase } : Acquirer O S).holds o).toNat := by
  obtain ⟨hlt, heq⟩ := List.getElem?_eq_some_iff.1 h
  have hpos : a.holds o = true → 0 < s.acquirers.countP (Acquirer.holds o) := fun ha =>
    countP_pos_iff.2 ⟨a, mem_of_getElem? h, ha⟩
  unfold holders moved
  rw [countP_set hlt, heq]
  cases ha : a.holds o with
  | false => cases Acquirer.holds o { a with phase } <;> simp
  | true =>
    have := hpos ha
    cases Acquirer.holds o { a with phase } <;> simp <;> omega

theorem holders_moved_same (h : s.acquirers[c]? = some a)
    (o : O) (hsame : ({ a with phase } : Acquirer O S).holds o = a.holds o) :
    (s.moved c a phase).holders o = s.holders o := by
  have := holders_moved h phase o
  rw [hsame] at this
  omega

/-- What the count and the lists say of the acquirers, where `heardBy` are the listeners that are yet to be
called. -/
structure Sound (limit : Nat) (s : OriginSemaphore O S) (heardBy : S → List Nat) : Prop where
  counted : ∀ o, (s.active o).getD 0 = s.holders o
  within : ∀ o, s.holders o ≤ limit
  full : ∀ o, s.queue o ≠ [] → s.holders o = limit
  queued : ∀ o c, c ∈ s.queue o ↔ ∃ σ, s.acquirers[c]? = some ⟨o, σ, .waiting⟩
  inOrder : ∀ o, (s.queue o).Pairwise (· < ·)
  heard : ∀ σ c, c ∈ heardBy σ ↔ ∃ o, s.acquirers[c]? = some ⟨o, σ, .waiting⟩
  once : ∀ σ, (heardBy σ).Pairwise (· < ·)

theorem sound_empty (limit : Nat) : Sound limit ({} : OriginSemaphore O S) fun _ => [] := by
  constructor <;> simp [holders, queue]

variable [DecidableEq S]

/-- A call of `acquire`. -/
def acquire (limit : Nat) (s : OriginSemaphore O S) (origin : O) (signal : S) : OriginSemaphore O S :=
  if (s.active origin).getD 0 < limit then
    { s with
      active := Function.update s.active origin (some ((s.active origin).getD 0 + 1))
      acquirers := s.acquirers ++ [⟨origin, signal, .granted⟩] }
  else
    { s with
      waiters := Function.update s.waiters origin (some ((s.waiters origin).getD [] ++ [s.acquirers.length]))
      listeners := Function.update s.listeners signal (s.listeners signal ++ [s.acquirers.length])
      acquirers := s.acquirers ++ [⟨origin, signal, .waiting⟩] }

/-- The first call of a release function. -/
def release (s : OriginSemaphore O S) (c : Nat) (a : Acquirer O S) : OriginSemaphore O S :=
  let s := s.moved c a (.answered true)
  match s.waiters a.origin with
  | some (waiter :: rest) => { s with waiters := Function.update s.waiters a.origin (some rest) }.resume waiter
  | _ => { s with active := Function.update s.active a.origin (some ((s.active a.origin).getD 1 - 1)) }

/-- A signal is aborted: once, and each of its listeners is called and taken away. -/
def abort (s : OriginSemaphore O S) (signal : S) : OriginSemaphore O S :=
  if s.aborted signal then s
  else
    (s.listeners signal).foldl onAbort
      { s with
        aborted := Function.update s.aborted signal true
        listeners := Function.update s.listeners signal [] }

/-- The semaphore and what happens to it. A release function is there to be called once `acquire` has answered. -/
def semaphore (limit : Nat) : Reactor (OriginSemaphore O S) (SlotMove O S) Empty Unit where
  react s
    | .acquire origin signal => .ok (s.acquire limit origin signal, [])
    | .goesOn c =>
      match s.acquirers[c]? with
      | some a => if a.phase = .granted then .ok (s.moved c a (.answered false), []) else .error ()
      | none => .error ()
    | .release c =>
      match s.acquirers[c]? with
      | some a =>
        match a.phase with
        | .answered released => .ok (if released then s else s.release c a, [])
        | _ => .error ()
      | none => .error ()
    | .abort signal => .ok (s.abort signal, [])

/-! ## Each operation -/

variable {limit : Nat} {s : OriginSemaphore O S} {heardBy : S → List Nat} {c : Nat} {o : O} {σ : S}

omit [DecidableEq S] in
theorem Sound.goesOn (h : Sound limit s heardBy) (hc : s.acquirers[c]? = some ⟨o, σ, .granted⟩) :
    Sound limit (s.moved c ⟨o, σ, .granted⟩ (.answered false)) heardBy := by
  have hholders (o' : O) : (s.moved c ⟨o, σ, .granted⟩ (.answered false)).holders o' = s.holders o' :=
    holders_moved_same hc o' (by simp [Acquirer.holds])
  have hwaiting (o' : O) (σ' : S) (d : Nat) :=
    waiting_moved_same hc (by simp) (show SlotPhase.answered false ≠ .waiting by decide) o' σ' d
  refine ⟨fun o' => ?_, fun o' => ?_, fun o' => ?_, fun o' d => ?_, h.inOrder, fun σ' d => ?_, h.once⟩
  · rw [hholders]
    exact h.counted o'
  · rw [hholders]
    exact h.within o'
  · rw [hholders]
    exact h.full o'
  · simp only [hwaiting]
    exact h.queued o' d
  · simp only [hwaiting]
    exact h.heard σ' d

theorem Sound.acquire_granted (h : Sound limit s heardBy) (o : O) (σ : S) (hfree : s.holders o < limit) :
    Sound limit (s.acquire limit o σ) heardBy := by
  have heq : s.acquire limit o σ = { s with
      active := Function.update s.active o (some (s.holders o + 1))
      acquirers := s.acquirers ++ [⟨o, σ, .granted⟩] } := by
    rw [acquire, h.counted, if_pos hfree]
  have hempty : s.queue o = [] := by
    by_contra hne
    exact absurd (h.full o hne) hfree.ne
  have hholders (o' : O) : (s.acquire limit o σ).holders o' = s.holders o' + if o = o' then 1 else 0 := by
    simp [heq, holders, countP_append, Acquirer.holds]
  have hwaiting (o' : O) (σ' : S) (d : Nat) : (s.acquire limit o σ).acquirers[d]? = some ⟨o', σ', .waiting⟩ ↔
      s.acquirers[d]? = some ⟨o', σ', .waiting⟩ := by
    rw [heq]
    simp only [acquirers_concat, Acquirer.mk.injEq, reduceCtorEq, and_false, or_false]
  have hqueue (o' : O) : (s.acquire limit o σ).queue o' = s.queue o' := by
    rw [heq]
    rfl
  refine ⟨fun o' => ?_, fun o' => ?_, fun o' hne => ?_, fun o' d => ?_, fun o' => ?_, fun σ' d => ?_, h.once⟩
  · rw [hholders, heq]
    rcases eq_or_ne o o' with rfl | hne
    · simp
    · simp only [Function.update_of_ne hne.symm, if_neg hne, add_zero]
      exact h.counted o'
  · rw [hholders]
    split
    · next ho =>
      subst ho
      exact hfree
    · exact h.within o'
  · rw [hqueue] at hne
    have ho : o ≠ o' := by
      rintro rfl
      exact hne hempty
    rw [hholders, if_neg ho, add_zero]
    exact h.full o' hne
  · rw [hqueue]
    simp only [hwaiting]
    exact h.queued o' d
  · rw [hqueue]
    exact h.inOrder o'
  · simp only [hwaiting]
    exact h.heard σ' d

theorem Sound.acquire_waits (h : Sound limit s heardBy) (o : O) (σ : S) (hfull : s.holders o = limit) :
    Sound limit (s.acquire limit o σ) (Function.update heardBy σ (heardBy σ ++ [s.acquirers.length])) := by
  have heq : s.acquire limit o σ = { s with
      waiters := Function.update s.waiters o (some (s.queue o ++ [s.acquirers.length]))
      listeners := Function.update s.listeners σ (s.listeners σ ++ [s.acquirers.length])
      acquirers := s.acquirers ++ [⟨o, σ, .waiting⟩] } := by
    rw [acquire, h.counted, if_neg (by omega)]
    rfl
  have hholders (o' : O) : (s.acquire limit o σ).holders o' = s.holders o' := by
    simp [heq, holders, countP_append, Acquirer.holds]
  have hwaiting (o' : O) (σ' : S) (d : Nat) : (s.acquire limit o σ).acquirers[d]? = some ⟨o', σ', .waiting⟩ ↔
      s.acquirers[d]? = some ⟨o', σ', .waiting⟩ ∨ d = s.acquirers.length ∧ o = o' ∧ σ = σ' := by
    rw [heq]
    simp only [acquirers_concat, Acquirer.mk.injEq, and_true]
  have hqueue (o' : O) : (s.acquire limit o σ).queue o' =
      if o = o' then s.queue o ++ [s.acquirers.length] else s.queue o' := by
    rw [heq]
    split
    · next ho =>
      subst ho
      simp [queue]
    · next ho => simp [queue, Function.update_of_ne (Ne.symm ho)]
  have hold {d : Nat} {a : Acquirer O S} (hd : s.acquirers[d]? = some a) : d < s.acquirers.length :=
    (List.getElem?_eq_some_iff.1 hd).1
  refine ⟨fun o' => ?_, fun o' => ?_, fun o' hne => ?_, fun o' d => ?_, fun o' => ?_, fun σ' d => ?_, fun σ' => ?_⟩
  · rw [hholders, heq]
    exact h.counted o'
  · rw [hholders]
    exact h.within o'
  · rw [hholders]
    rw [hqueue] at hne
    split at hne
    · next ho => rw [← ho, hfull]
    · exact h.full o' hne
  · rw [hqueue]
    simp only [hwaiting]
    split
    · next ho =>
      subst ho
      rw [mem_append, h.queued, mem_singleton]
      constructor
      · rintro (⟨σ', hd⟩ | rfl)
        · exact ⟨σ', .inl hd⟩
        · exact ⟨σ, .inr ⟨rfl, rfl, rfl⟩⟩
      · rintro ⟨σ', hd | ⟨rfl, -, -⟩⟩
        · exact .inl ⟨σ', hd⟩
        · exact .inr rfl
    · next ho => simpa [ho] using h.queued o' d
  · rw [hqueue]
    split
    · refine pairwise_concat (h.inOrder o) fun d hd => ?_
      obtain ⟨σ', hd⟩ := (h.queued o d).1 hd
      exact hold hd
    · exact h.inOrder o'
  · simp only [hwaiting]
    rcases eq_or_ne σ σ' with rfl | hne
    · rw [Function.update_self, mem_append, h.heard, mem_singleton]
      constructor
      · rintro (⟨o', hd⟩ | rfl)
        · exact ⟨o', .inl hd⟩
        · exact ⟨o, .inr ⟨rfl, rfl, rfl⟩⟩
      · rintro ⟨o', hd | ⟨rfl, -, -⟩⟩
        · exact .inl ⟨o', hd⟩
        · exact .inr rfl
    · rw [Function.update_of_ne hne.symm]
      simpa [hne] using h.heard σ' d
  · rcases eq_or_ne σ σ' with rfl | hne
    · rw [Function.update_self]
      refine pairwise_concat (h.once σ) fun d hd => ?_
      obtain ⟨o', hd⟩ := (h.heard σ d).1 hd
      exact hold hd
    · rw [Function.update_of_ne hne.symm]
      exact h.once σ'

omit [DecidableEq S] in
theorem onAbort_of_waiting (hc : s.acquirers[c]? = some ⟨o, σ, .waiting⟩) : s.onAbort c = { s with
      waiters := Function.update s.waiters o ((s.waiters o).map fun ids : List Nat => ids.erase c) }.moved c
        ⟨o, σ, .waiting⟩ .rejected := by
  simp only [onAbort, hc]
  refine settle_of_waiting ?_ _
  exact hc

/-- **The next listener of a signal is called.** -/
theorem Sound.onAbort {rest : List Nat} (h : Sound limit s (Function.update heardBy σ (c :: rest))) :
    ∃ o, s.acquirers[c]? = some ⟨o, σ, .waiting⟩ ∧ (∀ o', (s.onAbort c).holders o' = s.holders o') ∧
      Sound limit (s.onAbort c) (Function.update heardBy σ rest) := by
  have hheard (d : Nat) : d ∈ c :: rest ↔ ∃ o, s.acquirers[d]? = some ⟨o, σ, .waiting⟩ := by
    simpa using h.heard σ d
  have honce : (c :: rest).Pairwise (· < ·) := by simpa using h.once σ
  obtain ⟨hfirst, honce⟩ := pairwise_cons.1 honce
  obtain ⟨o, hc⟩ := (hheard c).1 (mem_cons_self ..)
  have hqueue (o' : O) : (s.onAbort c).queue o' = if o = o' then (s.queue o).erase c else s.queue o' := by
    rw [onAbort_of_waiting hc, queue_moved]
    split
    · next ho =>
      subst ho
      cases hw : s.waiters o <;> simp [queue, hw]
    · next ho => simp [queue, Function.update_of_ne (Ne.symm ho)]
  have hholders (o' : O) : (s.onAbort c).holders o' = s.holders o' := by
    rw [onAbort_of_waiting hc]
    exact holders_moved_same (s := { s with waiters := _ }) hc o' (by simp [Acquirer.holds])
  have hwaiting (o' : O) (σ' : S) (d : Nat) : (s.onAbort c).acquirers[d]? = some ⟨o', σ', .waiting⟩ ↔
      d ≠ c ∧ s.acquirers[d]? = some ⟨o', σ', .waiting⟩ := by
    rw [onAbort_of_waiting hc]
    exact waiting_moved (s := { s with waiters := _ }) hc (by decide) o' σ' d
  have hnodup (o' : O) : (s.queue o').Nodup := (h.inOrder o').imp Nat.ne_of_lt
  refine ⟨o, hc, hholders, fun o' => ?_, fun o' => ?_, fun o' hne => ?_, fun o' d => ?_, fun o' => ?_,
    fun σ' d => ?_, fun σ' => ?_⟩
  · rw [hholders, onAbort_of_waiting hc]
    exact h.counted o'
  · rw [hholders]
    exact h.within o'
  · rw [hholders]
    rw [hqueue] at hne
    split at hne
    · next ho =>
      subst ho
      refine h.full o fun hnil => hne ?_
      rw [hnil]
      rfl
    · exact h.full o' hne
  · rw [hqueue]
    simp only [hwaiting]
    split
    · next ho =>
      subst ho
      rw [(hnodup o).mem_erase_iff, h.queued, exists_and_left]
    · next ho =>
      rw [h.queued]
      refine exists_congr fun σ' => (and_iff_right_of_imp ?_).symm
      rintro hd rfl
      cases hc.symm.trans hd
      exact ho rfl
  · rw [hqueue]
    split
    · exact (h.inOrder o).sublist erase_sublist
    · exact h.inOrder o'
  · simp only [hwaiting]
    rcases eq_or_ne σ σ' with rfl | hne
    · rw [Function.update_self, exists_and_left, ← hheard, mem_cons]
      constructor
      · intro hd
        exact ⟨(hfirst d hd).ne', .inr hd⟩
      · rintro ⟨hne, hd⟩
        exact hd.resolve_left hne
    · have := h.heard σ' d
      rw [Function.update_of_ne hne.symm] at this ⊢
      rw [this]
      refine exists_congr fun o' => (and_iff_right_of_imp ?_).symm
      rintro hd rfl
      cases hc.symm.trans hd
      exact hne rfl
  · rcases eq_or_ne σ σ' with rfl | hne
    · rwa [Function.update_self]
    · have := h.once σ'
      rwa [Function.update_of_ne hne.symm] at this ⊢

omit [DecidableEq S] in
theorem listeners_onAbort (s : OriginSemaphore O S) (c : Nat) : (s.onAbort c).listeners = s.listeners := by
  unfold OriginSemaphore.onAbort settle
  split
  · split
    · split <;> rfl
    · rfl
  · rfl

/-- **All the listeners of a signal are called**: who was heard by it waits no longer, everybody else is left as he
was, and so is every count. -/
theorem Sound.onAborts {rest : List Nat} (h : Sound limit s (Function.update heardBy σ rest)) :
    Sound limit (rest.foldl OriginSemaphore.onAbort s) (Function.update heardBy σ []) ∧
      (∀ o, (rest.foldl OriginSemaphore.onAbort s).holders o = s.holders o) ∧
      (rest.foldl OriginSemaphore.onAbort s).listeners = s.listeners ∧
      ∀ d, (rest.foldl OriginSemaphore.onAbort s).acquirers[d]? =
        if d ∈ rest then s.acquirers[d]?.map ({ · with phase := .rejected }) else s.acquirers[d]? := by
  induction rest generalizing s with
  | nil => exact ⟨h, fun _ => rfl, rfl, fun d => by simp⟩
  | cons c rest ih =>
    obtain ⟨o, hc, hholders, hnext⟩ := h.onAbort
    have hc' : c ∉ rest := by
      have honce := h.once σ
      rw [Function.update_self, pairwise_cons] at honce
      exact fun hmem => absurd (honce.1 c hmem) (lt_irrefl c)
    obtain ⟨hend, hcounts, hlisteners, hall⟩ := ih hnext
    refine ⟨hend, fun o' => (hcounts o').trans (hholders o'), hlisteners.trans (listeners_onAbort s c), fun d => ?_⟩
    rw [foldl_cons, hall d]
    have hmoved : (s.onAbort c).acquirers[d]? =
        if d = c then some ⟨o, σ, .rejected⟩ else s.acquirers[d]? := by
      rw [onAbort_of_waiting hc]
      exact acquirers_moved (s := { s with waiters := _ }) hc .rejected d
    rw [hmoved]
    rcases eq_or_ne d c with rfl | hne
    · simp [hc', hc]
    · simp [hne]

/-- **A slot is given back where somebody waits**: whoever has waited longest has it, and the count is what it
was. -/
theorem Sound.handed (h : Sound limit s s.listeners) (hc : s.acquirers[c]? = some ⟨o, σ, .answered false⟩)
    {waiter : Nat} {rest : List Nat} (hw : s.queue o = waiter :: rest) :
    ∃ σ', s.acquirers[waiter]? = some ⟨o, σ', .waiting⟩ ∧
      (s.release c ⟨o, σ, .answered false⟩).acquirers[waiter]? = some ⟨o, σ', .granted⟩ ∧
      (∀ o', (s.release c ⟨o, σ, .answered false⟩).holders o' = s.holders o') ∧
      Sound limit (s.release c ⟨o, σ, .answered false⟩) (s.release c ⟨o, σ, .answered false⟩).listeners := by
  have hinOrder : (waiter :: rest).Pairwise (· < ·) := hw ▸ h.inOrder o
  obtain ⟨hfirst, hinOrder⟩ := pairwise_cons.1 hinOrder
  obtain ⟨σ', hwaiter⟩ := (h.queued o waiter).1 (hw ▸ mem_cons_self ..)
  have hwaiters : s.waiters o = some (waiter :: rest) := by
    unfold queue at hw
    cases hs : s.waiters o with
    | none => simp [hs] at hw
    | some l => simpa [hs] using hw
  have hne : waiter ≠ c := by
    rintro rfl
    cases hc.symm.trans hwaiter
  have hwaiter' : (s.moved c ⟨o, σ, .answered false⟩ (.answered true)).acquirers[waiter]? =
      some ⟨o, σ', .waiting⟩ := by
    rw [acquirers_moved hc, if_neg hne, hwaiter]
  have heq : s.release c ⟨o, σ, .answered false⟩ =
      { s.moved c ⟨o, σ, .answered false⟩ (.answered true) with
        waiters := Function.update s.waiters o (some rest)
        listeners := Function.update s.listeners σ' ((s.listeners σ').erase waiter) }.moved waiter
          ⟨o, σ', .waiting⟩ .granted := by
    have hwaiters' : (s.moved c ⟨o, σ, .answered false⟩ (.answered true)).waiters o = some (waiter :: rest) :=
      hwaiters
    simp only [release, hwaiters', resume, hwaiter']
    refine settle_of_waiting ?_ _
    exact hwaiter'
  have hholders (o' : O) : (s.release c ⟨o, σ, .answered false⟩).holders o' = s.holders o' := by
    have hback := holders_moved hc (.answered true) o'
    have hgiven := holders_moved (s := { s.moved c ⟨o, σ, .answered false⟩ (.answered true) with
      waiters := Function.update s.waiters o (some rest)
      listeners := Function.update s.listeners σ' ((s.listeners σ').erase waiter) }) hwaiter' .granted o'
    rw [← heq] at hgiven
    have hsame : (Acquirer.holds o' ⟨o, σ', SlotPhase.granted⟩).toNat =
        (Acquirer.holds o' (⟨o, σ, .answered false⟩ : Acquirer O S)).toNat := by simp [Acquirer.holds]
    have hnone : Acquirer.holds o' (⟨o, σ', .waiting⟩ : Acquirer O S) = false := by simp [Acquirer.holds]
    have hnone' : Acquirer.holds o' (⟨o, σ, .answered true⟩ : Acquirer O S) = false := by simp [Acquirer.holds]
    simp only [hnone, hnone', hsame, Bool.toNat_false, Nat.add_zero] at hback hgiven
    exact hgiven.trans hback
  have hwaiting (o' : O) (σ'' : S) (d : Nat) :
      (s.release c ⟨o, σ, .answered false⟩).acquirers[d]? = some ⟨o', σ'', .waiting⟩ ↔
        d ≠ waiter ∧ s.acquirers[d]? = some ⟨o', σ'', .waiting⟩ := by
    rw [heq, waiting_moved (by exact hwaiter') (by decide)]
    exact and_congr_right fun _ => waiting_moved_same hc (by simp) (by decide) o' σ'' d
  have hqueue (o' : O) : (s.release c ⟨o, σ, .answered false⟩).queue o' = if o = o' then rest else s.queue o' := by
    rw [heq, queue_moved]
    split
    · next ho =>
      subst ho
      simp [queue]
    · next ho => simp [queue, Function.update_of_ne (Ne.symm ho)]
  have hlisteners : (s.release c ⟨o, σ, .answered false⟩).listeners =
      Function.update s.listeners σ' ((s.listeners σ').erase waiter) := by
    rw [heq]
    rfl
  refine ⟨σ', hwaiter, ?_, hholders, fun o' => ?_, fun o' => ?_, fun o' hne' => ?_, fun o' d => ?_, fun o' => ?_,
    fun σ'' d => ?_, fun σ'' => ?_⟩
  · rw [heq, acquirers_moved (by exact hwaiter'), if_pos rfl]
  · rw [hholders, heq]
    exact h.counted o'
  · rw [hholders]
    exact h.within o'
  · rw [hholders]
    rw [hqueue] at hne'
    split at hne'
    · next ho =>
      subst ho
      exact h.full o (by rw [hw]; exact cons_ne_nil _ _)
    · exact h.full o' hne'
  · rw [hqueue]
    simp only [hwaiting]
    split
    · next ho =>
      subst ho
      rw [exists_and_left, ← h.queued, hw, mem_cons]
      constructor
      · intro hd
        exact ⟨(hfirst d hd).ne', .inr hd⟩
      · rintro ⟨hne', hd⟩
        exact hd.resolve_left hne'
    · next ho =>
      rw [h.queued]
      refine exists_congr fun σ'' => (and_iff_right_of_imp ?_).symm
      rintro hd rfl
      cases hwaiter.symm.trans hd
      exact ho rfl
  · rw [hqueue]
    split
    · exact hinOrder
    · exact h.inOrder o'
  · simp only [hwaiting, hlisteners]
    rcases eq_or_ne σ' σ'' with rfl | hne'
    · have hnodup : (s.listeners σ').Nodup := (h.once σ').imp Nat.ne_of_lt
      rw [Function.update_self, hnodup.mem_erase_iff, h.heard, exists_and_left]
    · rw [Function.update_of_ne hne'.symm, h.heard]
      refine exists_congr fun o' => (and_iff_right_of_imp ?_).symm
      rintro hd rfl
      cases hwaiter.symm.trans hd
      exact hne' rfl
  · rw [hlisteners]
    rcases eq_or_ne σ' σ'' with rfl | hne'
    · rw [Function.update_self]
      exact (h.once σ').sublist erase_sublist
    · rw [Function.update_of_ne hne'.symm]
      exact h.once σ''

/-- **A slot is given back where nobody waits**: there is one more. -/
theorem Sound.freed (h : Sound limit s s.listeners) (hc : s.acquirers[c]? = some ⟨o, σ, .answered false⟩)
    (hw : s.queue o = []) :
    (∀ o', (s.release c ⟨o, σ, .answered false⟩).holders o' + (if o = o' then 1 else 0) = s.holders o') ∧
      Sound limit (s.release c ⟨o, σ, .answered false⟩) (s.release c ⟨o, σ, .answered false⟩).listeners := by
  have hback (o' : O) : (s.moved c ⟨o, σ, .answered false⟩ (.answered true)).holders o' + (if o = o' then 1 else 0) =
      s.holders o' := by
    have := holders_moved hc (.answered true) o'
    by_cases ho : o = o' <;> simpa [Acquirer.holds, ho] using this
  have hpos : 0 < s.holders o := by
    have := hback o
    rw [if_pos rfl] at this
    omega
  have hactive : s.active o = some (s.holders o) := by
    have := h.counted o
    cases ha : s.active o with
    | none =>
      rw [ha] at this
      exact absurd this.symm hpos.ne'
    | some n =>
      rw [ha] at this
      exact congrArg some this
  have heq : s.release c ⟨o, σ, .answered false⟩ = { s.moved c ⟨o, σ, .answered false⟩ (.answered true) with
      active := Function.update s.active o (some (s.holders o - 1)) } := by
    have hactive' : (s.moved c ⟨o, σ, .answered false⟩ (.answered true)).active = s.active := rfl
    simp only [release]
    split
    · next waiter rest hwaiters =>
      have : s.queue o = waiter :: rest := by
        rw [queue, show s.waiters o = _ from hwaiters]
        rfl
      cases hw.symm.trans this
    · rw [hactive', hactive]
      rfl
  have hholders (o' : O) : (s.release c ⟨o, σ, .answered false⟩).holders o' + (if o = o' then 1 else 0) =
      s.holders o' := by
    rw [heq]
    exact hback o'
  have hwaiting (o' : O) (σ' : S) (d : Nat) :
      (s.release c ⟨o, σ, .answered false⟩).acquirers[d]? = some ⟨o', σ', .waiting⟩ ↔
        s.acquirers[d]? = some ⟨o', σ', .waiting⟩ := by
    rw [heq]
    exact waiting_moved_same hc (by simp) (by decide) o' σ' d
  have hqueue (o' : O) : (s.release c ⟨o, σ, .answered false⟩).queue o' = s.queue o' := by
    rw [heq]
    rfl
  have hlisteners : (s.release c ⟨o, σ, .answered false⟩).listeners = s.listeners := by
    rw [heq]
    rfl
  refine ⟨hholders, fun o' => ?_, fun o' => ?_, fun o' hne => ?_, fun o' d => ?_, fun o' => ?_, fun σ' d => ?_,
    fun σ' => ?_⟩
  · have := hholders o'
    rcases eq_or_ne o o' with rfl | hne
    · rw [if_pos rfl] at this
      have hless : (s.release c ⟨o, σ, .answered false⟩).holders o = s.holders o - 1 := by omega
      rw [hless, heq]
      simp only [Function.update_self, Option.getD_some]
    · rw [if_neg hne, Nat.add_zero] at this
      rw [this, heq]
      simp only [Function.update_of_ne hne.symm]
      exact h.counted o'
  · have := hholders o'
    have := h.within o'
    omega
  · rw [hqueue] at hne
    have := hholders o'
    rw [if_neg (by rintro rfl; exact hne hw), Nat.add_zero] at this
    rw [this]
    exact h.full o' hne
  · rw [hqueue]
    simp only [hwaiting]
    exact h.queued o' d
  · rw [hqueue]
    exact h.inOrder o'
  · rw [hlisteners]
    simp only [hwaiting]
    exact h.heard σ' d
  · rw [hlisteners]
    exact h.once σ'

omit [DecidableEq S] in
theorem Sound.heard_congr {heardBy' : S → List Nat} (h : Sound limit s heardBy) (heq : heardBy = heardBy') :
    Sound limit s heardBy' := heq ▸ h

/-- **A signal is aborted.** -/
theorem Sound.abort (h : Sound limit s s.listeners) (hσ : s.aborted σ = false) :
    Sound limit (s.abort σ) (s.abort σ).listeners ∧ (∀ o, (s.abort σ).holders o = s.holders o) ∧
      ∀ d, (s.abort σ).acquirers[d]? =
        if d ∈ s.listeners σ then s.acquirers[d]?.map ({ · with phase := .rejected }) else s.acquirers[d]? := by
  have hstart : Sound limit { s with
      aborted := Function.update s.aborted σ true
      listeners := Function.update s.listeners σ [] } (Function.update s.listeners σ (s.listeners σ)) := by
    rw [Function.update_eq_self]
    exact ⟨h.counted, h.within, h.full, h.queued, h.inOrder, h.heard, h.once⟩
  obtain ⟨hend, hholders, hlisteners, hall⟩ := hstart.onAborts
  have heq : s.abort σ = (s.listeners σ).foldl OriginSemaphore.onAbort { s with
      aborted := Function.update s.aborted σ true
      listeners := Function.update s.listeners σ [] } := by
    simp [OriginSemaphore.abort, hσ]
  rw [heq]
  exact ⟨hend.heard_congr hlisteners.symm, hholders, hall⟩

/-! ## Every run -/

variable {s' : OriginSemaphore O S} {out : List Empty}

variable {move : SlotMove O S}

theorem react_cases (h : (semaphore limit).react s move = .ok (s', out)) :
    (∃ o σ, move = .acquire o σ ∧ s' = s.acquire limit o σ) ∨
    (∃ c o σ, move = .goesOn c ∧ s.acquirers[c]? = some ⟨o, σ, .granted⟩ ∧
      s' = s.moved c ⟨o, σ, .granted⟩ (.answered false)) ∨
    (∃ c o σ, move = .release c ∧ s.acquirers[c]? = some ⟨o, σ, .answered false⟩ ∧
      s' = s.release c ⟨o, σ, .answered false⟩) ∨
    (∃ c o σ, move = .release c ∧ s.acquirers[c]? = some ⟨o, σ, .answered true⟩ ∧ s' = s) ∨
    ∃ σ, move = .abort σ ∧ s' = s.abort σ := by
  cases move with
  | acquire o σ =>
    cases h
    exact .inl ⟨o, σ, rfl, rfl⟩
  | goesOn c =>
    simp only [semaphore] at h
    split at h
    · next a hc =>
      split at h
      · next hphase =>
        cases h
        obtain ⟨o, σ, phase⟩ := a
        cases hphase
        exact .inr (.inl ⟨c, o, σ, rfl, hc, rfl⟩)
      · cases h
    · cases h
  | release c =>
    simp only [semaphore] at h
    split at h
    · next a hc =>
      split at h
      · next released hphase =>
        cases h
        obtain ⟨o, σ, phase⟩ := a
        cases hphase
        cases released with
        | false => exact .inr (.inr (.inl ⟨c, o, σ, rfl, hc, rfl⟩))
        | true => exact .inr (.inr (.inr (.inl ⟨c, o, σ, rfl, hc, rfl⟩)))
      · cases h
    · cases h
  | abort σ =>
    cases h
    exact .inr (.inr (.inr (.inr ⟨σ, rfl, rfl⟩)))

/-- **What the count and the lists say stays true.** -/
theorem Sound.step (h : Sound limit s s.listeners)
    (hs : (semaphore limit).react s move = .ok (s', out)) : Sound limit s' s'.listeners := by
  rcases react_cases hs with ⟨o, σ, rfl, rfl⟩ | ⟨c, o, σ, rfl, hc, rfl⟩ | ⟨c, o, σ, rfl, hc, rfl⟩ |
    ⟨c, o, σ, rfl, hc, rfl⟩ | ⟨σ, rfl, rfl⟩
  · rcases (h.within o).lt_or_eq with hfree | hfull
    · refine (h.acquire_granted o σ hfree).heard_congr ?_
      rw [OriginSemaphore.acquire, h.counted, if_pos hfree]
    · refine (h.acquire_waits o σ hfull).heard_congr ?_
      rw [OriginSemaphore.acquire, h.counted, if_neg (by omega)]
  · exact h.goesOn hc
  · cases hw : s.queue o with
    | nil => exact (h.freed hc hw).2
    | cons waiter rest =>
      obtain ⟨-, -, -, -, hnext⟩ := h.handed hc hw
      exact hnext
  · exact h
  · cases hσ : s.aborted σ with
    | false => exact (h.abort hσ).1
    | true =>
      have heq : s.abort σ = s := by simp [OriginSemaphore.abort, hσ]
      rwa [heq]

theorem sound_run (limit : Nat) (moves : List (SlotMove O S)) :
    Sound limit ((semaphore limit).run {} moves) ((semaphore limit).run {} moves).listeners :=
  (semaphore limit).run_induction (P := fun s => Sound limit s s.listeners) (fun h hs => h.step hs)
    (sound_empty limit) moves

/-! ## Who is rejected is rejected -/

omit [DecidableEq O] [DecidableEq S] in
theorem acquirers_settle (h : s.acquirers[c]? = some a) (ha : a.phase ≠ .waiting) (d : Nat)
    (phase : SlotPhase) : (s.settle d phase).acquirers[c]? = some a := by
  unfold settle
  split
  · next b hd =>
    split
    · next hb =>
      rw [acquirers_moved hd, if_neg, h]
      rintro rfl
      cases h.symm.trans hd
      exact ha hb
    · exact h
  · exact h

omit [DecidableEq O] in
theorem acquirers_resume (h : s.acquirers[c]? = some a) (ha : a.phase ≠ .waiting) (d : Nat) :
    (s.resume d).acquirers[c]? = some a := by
  unfold resume
  split
  · exact acquirers_settle (by exact h) ha d _
  · exact h

omit [DecidableEq S] in
theorem acquirers_onAborts (h : s.acquirers[c]? = some a) (ha : a.phase ≠ .waiting)
    (ids : List Nat) : (ids.foldl OriginSemaphore.onAbort s).acquirers[c]? = some a := by
  induction ids generalizing s with
  | nil => exact h
  | cons d ids ih =>
    refine ih ?_
    unfold OriginSemaphore.onAbort
    split
    · exact acquirers_settle (by exact h) ha d _
    · exact h

theorem rejected_step (hc : s.acquirers[c]? = some ⟨o, σ, .rejected⟩)
    (hs : (semaphore limit).react s move = .ok (s', out)) : s'.acquirers[c]? = some ⟨o, σ, .rejected⟩ := by
  have hmoved {d : Nat} {o' : O} {σ' : S} {phase : SlotPhase} (hd : s.acquirers[d]? = some ⟨o', σ', phase⟩)
      (hphase : phase ≠ .rejected) (phase' : SlotPhase) :
      (s.moved d ⟨o', σ', phase⟩ phase').acquirers[c]? = some ⟨o, σ, .rejected⟩ := by
    rw [acquirers_moved hd, if_neg, hc]
    rintro rfl
    cases hc.symm.trans hd
    exact hphase rfl
  rcases react_cases hs with ⟨o', σ', rfl, rfl⟩ | ⟨d, o', σ', rfl, hd, rfl⟩ | ⟨d, o', σ', rfl, hd, rfl⟩ |
    ⟨d, o', σ', rfl, hd, rfl⟩ | ⟨σ', rfl, rfl⟩
  · unfold OriginSemaphore.acquire
    split <;> exact acquirers_concat.2 (.inl hc)
  · exact hmoved hd (by decide) _
  · unfold release
    dsimp only
    split
    · exact acquirers_resume (by exact hmoved hd (by decide) _) (by simp) _
    · exact hmoved hd (by decide) _
  · exact hc
  · unfold OriginSemaphore.abort
    split
    · exact hc
    · exact acquirers_onAborts (by exact hc) (by simp) _

theorem rejected_run (hc : s.acquirers[c]? = some ⟨o, σ, .rejected⟩) (moves : List (SlotMove O S)) :
    ((semaphore limit).run s moves).acquirers[c]? = some ⟨o, σ, .rejected⟩ :=
  (semaphore limit).run_induction (P := fun s => s.acquirers[c]? = some ⟨o, σ, .rejected⟩)
    (fun h hs => rejected_step h hs) hc moves

/-! ## The limit of an origin -/

/-- **The limit of an origin holds, and no slot leaks.** After any calls of `acquire`, any releases and any aborts:
an origin has no more holders than its limit, and nobody waits for it where it has fewer; whoever waits and is
aborted never has a slot again, and the abort changes no count and nobody else; a slot that is given back is had by
whoever has waited longest, or by nobody where nobody waits, and a release function that is called again does
nothing; and once nobody holds an origin, whoever asks for it has a slot at once. -/
theorem origin_slots_never_leak (limit : Nat) (hlimit : 0 < limit) (moves : List (SlotMove O S))
    {s : OriginSemaphore O S} (hs : (semaphore limit).run {} moves = s) :
    (∀ o, s.holders o ≤ limit) ∧
    (∀ o, s.holders o < limit → ∀ (c : Nat) (σ : S), s.acquirers[c]? ≠ some ⟨o, σ, .waiting⟩) ∧
    (∀ (c : Nat) (o : O) (σ : S), s.acquirers[c]? = some ⟨o, σ, .waiting⟩ → s.aborted σ = false →
      ∀ later, ((semaphore limit).run s (.abort σ :: later)).acquirers[c]? = some ⟨o, σ, .rejected⟩) ∧
    (∀ σ : S, (∀ o, ((semaphore limit).next s (.abort σ)).holders o = s.holders o) ∧
      ∀ (c : Nat) (a : Acquirer O S), s.acquirers[c]? = some a → a.phase ≠ .waiting ∨ a.signal ≠ σ →
        ((semaphore limit).next s (.abort σ)).acquirers[c]? = some a) ∧
    (∀ (c : Nat) (o : O) (σ : S), s.acquirers[c]? = some ⟨o, σ, .answered false⟩ →
      ((∀ (d : Nat) (σ' : S), s.acquirers[d]? ≠ some ⟨o, σ', .waiting⟩) →
        ((semaphore limit).next s (.release c)).holders o + 1 = s.holders o) ∧
      ∀ (d : Nat) (σ' : S), s.acquirers[d]? = some ⟨o, σ', .waiting⟩ →
        (∀ (e : Nat) (σ'' : S), e < d → s.acquirers[e]? ≠ some ⟨o, σ'', .waiting⟩) →
        ((semaphore limit).next s (.release c)).acquirers[d]? = some ⟨o, σ', .granted⟩ ∧
          ((semaphore limit).next s (.release c)).holders o = s.holders o) ∧
    (∀ (c : Nat) (o : O) (σ : S), s.acquirers[c]? = some ⟨o, σ, .answered true⟩ →
      (semaphore limit).next s (.release c) = s) ∧
    ∀ o, s.holders o = 0 → ∀ σ : S,
      ((semaphore limit).next s (.acquire o σ)).acquirers[s.acquirers.length]? = some ⟨o, σ, .granted⟩ := by
  have h := sound_run limit moves
  rw [hs] at h
  have habort (σ : S) : (semaphore limit).next s (.abort σ) = s.abort σ := Reactor.next_of_ok _ rfl
  have hrelease {c : Nat} {o : O} {σ : S} (hc : s.acquirers[c]? = some ⟨o, σ, .answered false⟩) :
      (semaphore limit).next s (.release c) = s.release c ⟨o, σ, .answered false⟩ :=
    Reactor.next_of_ok _ (by simp only [semaphore, hc]; rfl)
  refine ⟨h.within, fun o hless c σ hc => ?_, fun c o σ hc hσ later => ?_,
    fun σ => ⟨fun o => ?_, fun c a hc ha => ?_⟩, fun c o σ hc => ⟨fun hnone => ?_, fun d σ' hd hfirst => ?_⟩, fun c o σ hc => ?_, fun o hnone σ => ?_⟩
  · refine absurd (h.full o ?_) hless.ne
    exact List.ne_nil_of_mem ((h.queued o c).2 ⟨σ, hc⟩)
  · refine rejected_run ?_ later
    rw [habort, (h.abort hσ).2.2 c, if_pos ((h.heard σ c).2 ⟨o, hc⟩), hc]
    rfl
  · rw [habort]
    cases hσ : s.aborted σ with
    | false => exact (h.abort hσ).2.1 o
    | true => simp [OriginSemaphore.abort, hσ]
  · rw [habort]
    cases hσ : s.aborted σ with
    | false =>
      rw [(h.abort hσ).2.2 c, if_neg, hc]
      intro hmem
      obtain ⟨o, hc'⟩ := (h.heard σ c).1 hmem
      cases hc.symm.trans hc'
      rcases ha with ha | ha <;> exact ha rfl
    | true => simp [OriginSemaphore.abort, hσ, hc]
  · have hempty : s.queue o = [] := by
      refine List.eq_nil_iff_forall_not_mem.2 fun d hd => ?_
      obtain ⟨σ', hd⟩ := (h.queued o d).1 hd
      exact hnone d σ' hd
    have := (h.freed hc hempty).1 o
    rwa [if_pos rfl, ← hrelease hc] at this
  · rw [hrelease hc]
    have hmem : d ∈ s.queue o := (h.queued o d).2 ⟨σ', hd⟩
    cases hw : s.queue o with
    | nil =>
      rw [hw] at hmem
      exact absurd hmem List.not_mem_nil
    | cons waiter rest =>
      obtain ⟨σ'', hwaiter, hgiven, hholders, -⟩ := h.handed hc hw
      have hinOrder := h.inOrder o
      rw [hw] at hmem hinOrder
      rcases List.mem_cons.1 hmem with rfl | hlater
      · cases hd.symm.trans hwaiter
        exact ⟨hgiven, hholders o⟩
      · exact absurd hwaiter (hfirst waiter σ'' ((List.pairwise_cons.1 hinOrder).1 d hlater))
  · exact Reactor.next_of_ok _ (by simp only [semaphore, hc]; rfl)
  · have hfree : (s.active o).getD 0 < limit := by
      rw [h.counted, hnone]
      exact hlimit
    have hnext : (semaphore limit).next s (.acquire o σ) = s.acquire limit o σ := Reactor.next_of_ok _ rfl
    rw [hnext, OriginSemaphore.acquire, if_pos hfree]
    exact acquirers_concat.2 (.inr ⟨rfl, rfl⟩)

/-- Four ask for one origin under the limit of a scan; the third is aborted while it waits, and the first gives its
slot back twice. -/
def fourAsk : List (SlotMove String String) :=
  [.acquire "https://a.example" "first", .acquire "https://a.example" "second", .acquire "https://a.example" "third",
    .acquire "https://a.example" "fourth", .goesOn 0, .goesOn 1, .abort "third", .release 0, .release 0]

/-- The slot goes to the fourth, and the third never has one. -/
theorem third_never_has_a_slot :
    ((semaphore 2).run {} fourAsk).acquirers.map Acquirer.phase =
      [.answered true, .answered false, .rejected, .granted] ∧
    ((semaphore 2).run {} fourAsk).holders "https://a.example" ≤ 2 :=
  ⟨by decide, (origin_slots_never_leak 2 (by decide) fourAsk rfl).1 _⟩

end OriginSemaphore

end Coinslot
