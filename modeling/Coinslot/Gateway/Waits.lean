import Coinslot.Lib.Dict
import Coinslot.Lib.Reactor

/-!
# Callers that wait

Callers are parked under a key until somebody answers or their wait runs out (`Waiting`,
`apps/gateway/src/app/waiting.ts`). A key leads to a set of callers, and the timer of a caller holds on to its key
and to the set it was put into, whatever the key leads to by the time it fires.

Every caller is woken once, an answer wakes those and only those that are parked under its key, and no key is left
once all are woken (`woken_once`): as long as a caller is not woken its timer runs, and its key leads to its set.
-/

namespace Coinslot

/-- The callers that wait: the set each key leads to, the callers in each set, and what the timers that run hold on
to. -/
structure Waiting where
  parked : Dict String Nat
  sets : Dict Nat (List Nat)
  timers : Dict Nat (String × Nat)
  made : Nat

/-- What can happen next. -/
inductive WaitAction (α : Type) where
  | waits (key : String)
  | fires (waiter : Nat)
  | answers (key : String) (value : α)
  | givesUp (key : String)
  | givesUpAll
  deriving DecidableEq, Repr

/-- What is heard: who is parked, who is woken and with what, and whether an answer woke anybody. -/
inductive WaitNotice (α : Type) where
  | parked (waiter : Nat) (key : String)
  | settled (waiter : Nat) (value : Option α)
  | answered (key : String) (woke : Bool)
  deriving DecidableEq, Repr

namespace Waiting

variable {α : Type} (s : Waiting)

def empty : Waiting := ⟨.empty, .empty, .empty, 0⟩

def members (set : Nat) : List Nat := (s.sets.get set).getD []

/-- A caller is parked, in the set its key leads to or in a new one. -/
def waits (key : String) : Waiting × List (WaitNotice α) :=
  let set := (s.parked.get key).getD s.made
  ({ parked := s.parked.set key set
     sets := s.sets.set set (s.members set ++ [s.made])
     timers := s.timers.set s.made (key, set)
     made := s.made + 1 }, [.parked s.made key])

/-- The timer of a caller fires: it leaves its set, and the key goes with the last of them. -/
def fires (waiter : Nat) (key : String) (set : Nat) : Waiting × List (WaitNotice α) :=
  let left := (s.members set).filter (· ≠ waiter)
  ({ s with
     parked := if left = [] then s.parked.delete key else s.parked
     sets := s.sets.set set left
     timers := s.timers.delete waiter }, [.settled waiter none])

/-- Everybody parked under a key is woken, and their timers are cleared. -/
def wakeAll (key : String) (value : Option α) : Waiting × List (WaitNotice α) × Bool :=
  match s.parked.get key with
  | none => (s, [], false)
  | some set =>
    if s.members set = [] then (s, [], false)
    else
      ({ s with parked := s.parked.delete key, timers := (s.members set).foldl Dict.delete s.timers },
        (s.members set).map (.settled · value), true)

/-- Everybody parked under some keys is woken with nothing. -/
def wakeNext : List String → Waiting → Waiting × List (WaitNotice α)
  | [], s => (s, [])
  | key :: keys, s =>
    let came := s.wakeAll (α := α) key none
    let rest := wakeNext keys came.1
    (rest.1, came.2.1 ++ rest.2)

/-- One step. Only a timer that runs can fire. -/
def step : WaitAction α → Except Unit (Waiting × List (WaitNotice α))
  | .waits key => .ok (s.waits key)
  | .fires waiter =>
    match s.timers.get waiter with
    | none => .error ()
    | some (key, set) => .ok (s.fires waiter key set)
  | .answers key value =>
    let came := s.wakeAll key (some value)
    .ok (came.1, came.2.1 ++ [.answered key came.2.2])
  | .givesUp key =>
    let came := s.wakeAll (α := α) key none
    .ok (came.1, came.2.1)
  | .givesUpAll => .ok (wakeNext (s.parked.entries.map Prod.fst) s)

end Waiting

def waitMachine (α : Type) : Reactor Waiting (WaitAction α) (WaitNotice α) Unit := ⟨Waiting.step⟩

def waitRun {α : Type} (actions : List (WaitAction α)) : Waiting := (waitMachine α).run .empty actions

def waitLog {α : Type} (actions : List (WaitAction α)) : List (Happening (WaitAction α) (WaitNotice α)) :=
  (waitMachine α).log .empty actions

namespace Waiting

variable {α : Type} {s s' : Waiting} {l : List (Happening (WaitAction α) (WaitNotice α))}

/-- Whether an entry tells that a caller is woken. -/
def settles (waiter : Nat) : Happening (WaitAction α) (WaitNotice α) → Bool
  | .emitted (.settled other _) => other = waiter
  | _ => false

/-! ## The invariant -/

/-- A key leads to a set of callers whose timers hold on to both, and a timer that runs holds on to the set its key
leads to, with its caller in it. -/
structure Sound (s : Waiting) : Prop where
  each : ∀ key set, s.parked.get key = some set → s.members set ≠ [] ∧ (s.members set).Nodup ∧
    ∀ waiter ∈ s.members set, s.timers.get waiter = some (key, set)
  armed : ∀ waiter key set, s.timers.get waiter = some (key, set) →
    s.parked.get key = some set ∧ waiter ∈ s.members set ∧ waiter < s.made
  fresh : ∀ set, s.made ≤ set → s.members set = [] ∧ ∀ key, s.parked.get key ≠ some set

/-- What was heard of the callers: each that was parked was woken, or its timer runs. -/
structure Heard (s : Waiting) (l : List (Happening (WaitAction α) (WaitNotice α))) : Prop where
  times : ∀ waiter, l.countP (settles waiter) + (s.timers.has waiter).toNat =
    if waiter < s.made then 1 else 0
  parked : ∀ waiter, (∃ key, .emitted (.parked waiter key) ∈ l) ↔ waiter < s.made
  named : ∀ waiter key, .emitted (.parked waiter key) ∈ l → ∀ other set,
    s.timers.get waiter = some (other, set) → other = key

theorem empty_sound : Sound empty where
  each _ _ h := by cases h
  armed _ _ _ h := by cases h
  fresh _ _ := ⟨rfl, fun _ h => by cases h⟩

theorem empty_heard : Heard (α := α) empty [] where
  times _ := rfl
  parked _ := ⟨fun ⟨_, h⟩ => absurd h List.not_mem_nil, fun h => absurd h (Nat.not_lt_zero _)⟩
  named _ _ h := absurd h List.not_mem_nil

theorem members_set (sets : Dict Nat (List Nat)) (parked : Dict String Nat) (timers : Dict Nat (String × Nat))
    (made set other : Nat) (left : List Nat) : (Waiting.mk parked (sets.set set left) timers made).members other =
      if other = set then left else (sets.get other).getD [] := by
  rw [members, Dict.get_set]
  split
  · rfl
  · rfl

theorem get_foldl_delete (waiters : List Nat) (timers : Dict Nat (String × Nat)) (waiter : Nat) :
    (waiters.foldl Dict.delete timers).get waiter = if waiter ∈ waiters then none else timers.get waiter := by
  induction waiters generalizing timers with
  | nil => rfl
  | cons first waiters ih =>
    rw [List.foldl_cons, ih, Dict.get_delete]
    by_cases hmem : waiter ∈ waiters
    · rw [if_pos hmem, if_pos (List.mem_cons_of_mem first hmem)]
    · by_cases hfirst : waiter = first
      · simp [hfirst]
      · simp [hmem, hfirst]

section

variable (h : s.Sound)
include h

/-- Two keys lead to two sets. -/
theorem Sound.one_key {key other : String} {set : Nat} (hkey : s.parked.get key = some set)
    (hother : s.parked.get other = some set) : key = other := by
  obtain ⟨hsome, -, hkeys⟩ := h.each key set hkey
  obtain ⟨waiter, hwaiter⟩ := List.exists_mem_of_ne_nil _ hsome
  have hboth := (hkeys waiter hwaiter).symm.trans ((h.each other set hother).2.2 waiter hwaiter)
  exact congrArg Prod.fst (Option.some.inj hboth)

/-- The set a caller is put into holds those of its key only. -/
theorem Sound.own_set (key : String) :
    (∀ other, s.parked.get other = some ((s.parked.get key).getD s.made) → other = key) ∧
      (s.members ((s.parked.get key).getD s.made)).Nodup ∧ (∀ waiter ∈ s.members ((s.parked.get key).getD s.made),
        s.timers.get waiter = some (key, (s.parked.get key).getD s.made)) ∧
      (s.parked.get key).getD s.made ≤ s.made := by
  cases hkey : s.parked.get key with
  | none =>
    rw [Option.getD_none, (h.fresh s.made (Nat.le_refl _)).1]
    exact ⟨fun other hother => absurd hother ((h.fresh s.made (Nat.le_refl _)).2 other), List.nodup_nil,
      fun waiter hwaiter => absurd hwaiter List.not_mem_nil, Nat.le_refl _⟩
  | some set =>
    obtain ⟨-, hnodup, hkeys⟩ := h.each key set hkey
    refine ⟨fun other hother => h.one_key hother hkey, hnodup, hkeys, ?_⟩
    rcases Nat.le_total s.made set with hle | hle
    · exact absurd hkey ((h.fresh set hle).2 key)
    · exact hle

/-! ## What a step preserves -/

theorem Sound.waits (key : String) : (s.waits (α := α) key).1.Sound := by
  obtain ⟨hown, hnodup, hkeys, hle⟩ := h.own_set key
  unfold Waiting.waits
  generalize hset : (s.parked.get key).getD s.made = set at hown hnodup hkeys hle ⊢
  have hnew : s.timers.get s.made = none := by
    cases hmade : s.timers.get s.made with
    | none => rfl
    | some held => exact absurd (h.armed _ _ _ hmade).2.2 (Nat.lt_irrefl _)
  have hout : s.made ∉ s.members set := fun hmem => by cases hnew.symm.trans (hkeys _ hmem)
  refine ⟨fun other found hother => ?_, fun waiter other found harmed => ?_, fun found hfound => ?_⟩
  · rw [members_set]
    rw [Dict.get_set] at hother
    by_cases hsame : other = key
    · rw [if_pos hsame] at hother
      cases hother
      rw [if_pos rfl, hsame]
      refine ⟨by simp, hnodup.append (List.nodup_singleton _) (by simpa using hout), fun waiter hwaiter => ?_⟩
      rw [Dict.get_set]
      split
      · rfl
      · next hne => exact hkeys waiter (by simpa [hne] using hwaiter)
    · rw [if_neg hsame] at hother
      have hapart : found ≠ set := fun heq => hsame (hown other (heq ▸ hother))
      rw [if_neg hapart]
      obtain ⟨hsome, hdistinct, hheld⟩ := h.each other found hother
      refine ⟨hsome, hdistinct, fun waiter hwaiter => ?_⟩
      rw [Dict.get_set_ne _ _ fun heq => by cases hnew.symm.trans (heq ▸ hheld waiter hwaiter)]
      exact hheld waiter hwaiter
  · rw [members_set, Dict.get_set]
    rw [Dict.get_set] at harmed
    by_cases hsame : waiter = s.made
    · rw [if_pos hsame] at harmed
      cases harmed
      simp [hsame]
    · rw [if_neg hsame] at harmed
      obtain ⟨hparked, hmem, hlt⟩ := h.armed waiter other found harmed
      by_cases hkey : other = key
      · subst hkey
        rw [hparked, Option.getD_some] at hset
        rw [if_pos rfl, if_pos hset, hset]
        exact ⟨rfl, List.mem_append_left _ (hset ▸ hmem), Nat.lt_succ_of_lt hlt⟩
      · have hapart : found ≠ set := fun heq => hkey (hown other (heq ▸ hparked))
        rw [if_neg hkey, if_neg hapart]
        exact ⟨hparked, hmem, Nat.lt_succ_of_lt hlt⟩
  · have hfound : s.made + 1 ≤ found := hfound
    have hold := h.fresh found (by omega)
    rw [members_set, if_neg (by omega)]
    refine ⟨hold.1, fun other hother => ?_⟩
    rcases Dict.of_get_set hother with ⟨-, rfl⟩ | ⟨-, hother⟩
    · omega
    · exact hold.2 other hother

theorem Sound.fires {waiter : Nat} {key : String} {set : Nat}
    (harmed : s.timers.get waiter = some (key, set)) : (s.fires (α := α) waiter key set).1.Sound := by
  obtain ⟨hparked, hmem, hlt⟩ := h.armed waiter key set harmed
  obtain ⟨-, hnodup, hkeys⟩ := h.each key set hparked
  have hparked' : ∀ other found, (s.fires (α := α) waiter key set).1.parked.get other = some found ↔
      s.parked.get other = some found ∧ (other = key → (s.members set).filter (· ≠ waiter) ≠ []) := by
    intro other found
    unfold Waiting.fires
    dsimp only
    by_cases hleft : (s.members set).filter (· ≠ waiter) = []
    · rw [if_pos hleft, Dict.get_delete]
      by_cases hsame : other = key
      · rw [if_pos hsame]
        exact iff_of_false (fun h => by cases h) fun h => h.2 hsame hleft
      · rw [if_neg hsame]
        exact ⟨fun h => ⟨h, fun heq => absurd heq hsame⟩, And.left⟩
    · rw [if_neg hleft]
      exact ⟨fun h => ⟨h, fun _ => hleft⟩, And.left⟩
  have hmembers : ∀ found, (s.fires (α := α) waiter key set).1.members found =
      if found = set then (s.members set).filter (· ≠ waiter) else s.members found := fun found =>
    members_set _ _ _ _ _ _ _
  have htimers : ∀ other, (s.fires (α := α) waiter key set).1.timers.get other =
      if other = waiter then none else s.timers.get other := fun other => Dict.get_delete _ _ _
  refine ⟨fun other found hother => ?_, fun other name found hother => ?_, fun found hfound => ?_⟩
  · obtain ⟨hheld, hleft⟩ := (hparked' other found).1 hother
    rw [hmembers]
    by_cases hsame : found = set
    · subst hsame
      obtain rfl := h.one_key hheld hparked
      rw [if_pos rfl]
      refine ⟨hleft rfl, hnodup.filter _, fun w hw => ?_⟩
      obtain ⟨hw, hne⟩ := List.mem_filter.1 hw
      rw [htimers, if_neg (by simpa using hne)]
      exact hkeys w hw
    · rw [if_neg hsame]
      obtain ⟨hsome, hdistinct, hothers⟩ := h.each other found hheld
      refine ⟨hsome, hdistinct, fun w hw => ?_⟩
      rw [htimers, if_neg, hothers w hw]
      rintro rfl
      cases harmed.symm.trans (hothers w hw)
      exact hsame rfl
  · rw [htimers] at hother
    split at hother
    · cases hother
    · next hne =>
      obtain ⟨hname, hin, hmade⟩ := h.armed other name found hother
      rw [hparked', hmembers]
      by_cases hsame : found = set
      · subst hsame
        rw [if_pos rfl]
        have hstays : other ∈ (s.members found).filter (· ≠ waiter) := List.mem_filter.2 ⟨hin, by simpa using hne⟩
        exact ⟨⟨hname, fun _ => List.ne_nil_of_mem hstays⟩, hstays, hmade⟩
      · rw [if_neg hsame]
        have hother : name ≠ key := fun heq => hsame (Option.some.inj (hname.symm.trans (heq ▸ hparked)))
        exact ⟨⟨hname, fun heq => absurd heq hother⟩, hin, hmade⟩
  · have hold := h.fresh found hfound
    have hne : found ≠ set := fun heq => hold.2 key (heq ▸ hparked)
    rw [hmembers, if_neg hne]
    exact ⟨hold.1, fun other hother => hold.2 other ((hparked' other found).1 hother).1⟩

/-- Waking everybody under a key wakes those whose timers hold on to it, and clears their timers. -/
theorem Sound.wakeAll (key : String) (value : Option α) : (s.wakeAll key value).1.Sound ∧
    (s.wakeAll key value).1.made = s.made ∧
    ∃ woken : List Nat, (s.wakeAll key value).2.1 = woken.map (.settled · value) ∧ woken.Nodup ∧
      (∀ waiter, waiter ∈ woken ↔ ∃ set, s.timers.get waiter = some (key, set)) ∧
      (∀ waiter, (s.wakeAll key value).1.timers.get waiter = if waiter ∈ woken then none else s.timers.get waiter) ∧
      ∀ other, (s.wakeAll key value).1.parked.get other = if other = key then none else s.parked.get other := by
  unfold Waiting.wakeAll
  cases hkey : s.parked.get key with
  | none =>
    have hnobody (waiter : Nat) : ¬ ∃ set, s.timers.get waiter = some (key, set) := fun ⟨set, harmed⟩ => by
      cases hkey.symm.trans (h.armed waiter key set harmed).1
    refine ⟨h, rfl, [], rfl, List.nodup_nil, fun waiter => ?_, fun waiter => rfl, fun other => ?_⟩
    · exact iff_of_false List.not_mem_nil (hnobody waiter)
    · by_cases hsame : other = key
      · rw [if_pos hsame, hsame]
        exact hkey
      · exact (if_neg hsame).symm
  | some set =>
    obtain ⟨hsome, hnodup, hkeys⟩ := h.each key set hkey
    dsimp only
    rw [if_neg hsome]
    have hheld : ∀ waiter, waiter ∈ s.members set ↔ ∃ set, s.timers.get waiter = some (key, set) := by
      refine fun waiter => ⟨fun hmem => ⟨set, hkeys waiter hmem⟩, fun ⟨found, harmed⟩ => ?_⟩
      obtain ⟨hfound, hmem, -⟩ := h.armed waiter key found harmed
      cases hkey.symm.trans hfound
      exact hmem
    refine ⟨⟨fun other found hother => ?_, fun waiter other found harmed => ?_, fun found hfound => ?_⟩, rfl,
      s.members set, rfl, hnodup, hheld, fun waiter => get_foldl_delete _ _ _, fun other => Dict.get_delete _ _ _⟩
    · obtain ⟨hne, hother⟩ := Dict.of_get_delete hother
      obtain ⟨hthere, hdistinct, hothers⟩ := h.each other found hother
      refine ⟨hthere, hdistinct, fun waiter hwaiter => ?_⟩
      rw [get_foldl_delete, if_neg, hothers waiter hwaiter]
      intro hmem
      cases (hkeys waiter hmem).symm.trans (hothers waiter hwaiter)
      exact hne rfl
    · rw [get_foldl_delete] at harmed
      split at harmed
      · cases harmed
      · next hout =>
        obtain ⟨hother, hmem, hlt⟩ := h.armed waiter other found harmed
        rw [Dict.get_delete, if_neg]
        · exact ⟨hother, hmem, hlt⟩
        · exact fun heq => hout ((hheld waiter).2 ⟨found, heq ▸ harmed⟩)
    · refine ⟨(h.fresh found hfound).1, fun other hother => (h.fresh found hfound).2 other ?_⟩
      exact (Dict.of_get_delete hother).2

end

/-- An answer says that it woke somebody just where it did. -/
theorem wakeAll_woke {key : String} {value : Option α} {woken : List Nat}
    (hout : (s.wakeAll key value).2.1 = woken.map (.settled · value)) :
    (s.wakeAll key value).2.2 = !woken.isEmpty := by
  unfold Waiting.wakeAll at hout ⊢
  cases hkey : s.parked.get key with
  | none =>
    rw [hkey] at hout
    rw [List.map_eq_nil_iff.1 hout.symm]
    rfl
  | some set =>
    rw [hkey] at hout
    dsimp only at hout ⊢
    split at hout
    · next hnone =>
      rw [if_pos hnone, List.map_eq_nil_iff.1 hout.symm]
      rfl
    · next hsome =>
      rw [if_neg hsome]
      cases woken with
      | nil => exact absurd (List.map_eq_nil_iff.1 hout) hsome
      | cons waiter woken => rfl

/-! ## What is heard -/

section

variable (h : s.Heard l)
include h

theorem Heard.accepted (action : WaitAction α) : s.Heard (l ++ [.accepted action]) where
  times waiter := by simpa [List.countP_append, settles] using h.times waiter
  parked waiter := by simpa using h.parked waiter
  named waiter key hmem := h.named waiter key (by simpa using hmem)

theorem Heard.answered (key : String) (woke : Bool) : s.Heard (l ++ [.emitted (.answered key woke)]) where
  times waiter := by simpa [List.countP_append, settles] using h.times waiter
  parked waiter := by simpa using h.parked waiter
  named waiter name hmem := h.named waiter name (by simpa using hmem)

/-- What is heard of callers that are woken, each once, and whose timers are cleared. -/
theorem Heard.woken {s' : Waiting} {woken : List Nat} {value : Option α} (hnodup : woken.Nodup)
    (harmed : ∀ waiter ∈ woken, s.timers.has waiter = true) (hmade : s'.made = s.made)
    (htimers : ∀ waiter, s'.timers.get waiter = if waiter ∈ woken then none else s.timers.get waiter) :
    s'.Heard (l ++ (woken.map fun waiter => .settled waiter value).map .emitted) where
  times waiter := by
    have hcount : ((woken.map fun waiter => WaitNotice.settled waiter value).map
        (Happening.emitted (ε := WaitAction α))).countP (settles waiter) = woken.count waiter := by
      rw [List.map_map, List.countP_map, List.count]
      rfl
    have htimes := h.times waiter
    rw [List.countP_append, hcount, hmade, Dict.has, htimers, hnodup.count]
    by_cases hmem : waiter ∈ woken
    · rw [harmed waiter hmem] at htimes
      rw [if_pos hmem, if_pos hmem]
      exact htimes
    · rw [if_neg hmem, if_neg hmem]
      exact htimes
  parked waiter := by simpa [hmade] using h.parked waiter
  named waiter key hmem other set hother := by
    rw [htimers] at hother
    split at hother
    · cases hother
    · exact h.named waiter key (by simpa using hmem) other set hother

theorem Heard.waits (hs : s.Sound) (key : String) :
    (s.waits (α := α) key).1.Heard (l ++ [.emitted (.parked s.made key)]) := by
  have hnone : s.timers.get s.made = none := by
    cases hmade : s.timers.get s.made with
    | none => rfl
    | some held => exact absurd (hs.armed _ _ _ hmade).2.2 (Nat.lt_irrefl _)
  have htimers : ∀ waiter, (s.waits (α := α) key).1.timers.get waiter =
      if waiter = s.made then some (key, (s.parked.get key).getD s.made) else s.timers.get waiter := fun waiter =>
    Dict.get_set _ _ _ _
  refine ⟨fun waiter => ?_, fun waiter => ?_, fun waiter name hmem other set hother => ?_⟩
  · have htimes := h.times waiter
    rw [List.countP_append, Dict.has, htimers, show (s.waits (α := α) key).1.made = s.made + 1 from rfl]
    have hcount :
        [Happening.emitted (ε := WaitAction α) (WaitNotice.parked s.made key)].countP (settles waiter) = 0 := rfl
    by_cases hsame : waiter = s.made
    · rw [hsame, Dict.has, hnone, if_neg (Nat.lt_irrefl _)] at htimes
      rw [if_pos hsame, if_pos (by omega), hsame]
      exact congrArg (· + 1) htimes
    · have hlt : waiter < s.made + 1 ↔ waiter < s.made := by omega
      simp only [if_neg hsame, hlt]
      exact htimes
  · rw [show (s.waits (α := α) key).1.made = s.made + 1 from rfl, Nat.lt_succ_iff_lt_or_eq, ← h.parked]
    simp only [List.mem_append, List.mem_singleton, Happening.emitted.injEq, WaitNotice.parked.injEq]
    constructor
    · rintro ⟨name, hmem | ⟨rfl, -⟩⟩
      · exact .inl ⟨name, hmem⟩
      · exact .inr rfl
    · rintro (⟨name, hmem⟩ | rfl)
      · exact ⟨name, .inl hmem⟩
      · exact ⟨key, .inr ⟨rfl, rfl⟩⟩
  · rw [htimers] at hother
    simp only [List.mem_append, List.mem_singleton, Happening.emitted.injEq, WaitNotice.parked.injEq] at hmem
    split at hother
    · next hsame =>
      cases hother
      rcases hmem with hmem | ⟨-, rfl⟩
      · exact absurd ((h.parked waiter).1 ⟨name, hmem⟩) (by omega)
      · rfl
    · next hne =>
      rcases hmem with hmem | ⟨heq, -⟩
      · exact h.named waiter name hmem other set hother
      · exact absurd heq hne

end

theorem wakeAll_kept (hs : s.Sound) (h : s.Heard l) (key : String) (value : Option α) :
    (s.wakeAll key value).1.Sound ∧ (s.wakeAll key value).1.Heard (l ++ (s.wakeAll key value).2.1.map .emitted) := by
  obtain ⟨hsound, hmade, woken, hout, hnodup, hwoken, htimers, -⟩ := hs.wakeAll key value
  refine ⟨hsound, hout ▸ h.woken hnodup (fun waiter hmem => ?_) hmade htimers⟩
  obtain ⟨set, harmed⟩ := (hwoken waiter).1 hmem
  rw [Dict.has, harmed]
  rfl

theorem wakeNext_kept (keys : List String) : ∀ {s : Waiting} {l : List (Happening (WaitAction α) (WaitNotice α))},
    s.Sound → s.Heard l → (wakeNext (α := α) keys s).1.Sound ∧
        (wakeNext (α := α) keys s).1.Heard (l ++ (wakeNext keys s).2.map .emitted) := by
  induction keys with
  | nil =>
    intro s l hs h
    exact ⟨hs, by simpa [wakeNext] using h⟩
  | cons key keys ih =>
    intro s l hs h
    obtain ⟨hs, h⟩ := wakeAll_kept hs h key (none : Option α)
    have hrest := ih hs h
    rw [List.append_assoc, ← List.map_append] at hrest
    exact hrest

theorem step_kept {action : WaitAction α} {out : List (WaitNotice α)} (hs : s.Sound) (h : s.Heard l)
    (hstep : s.step action = .ok (s', out)) : s'.Sound ∧ s'.Heard (l ++ Reactor.stepLog action out) := by
  have h := h.accepted action
  have hlog : l ++ Reactor.stepLog action out = l ++ [.accepted action] ++ out.map .emitted := by
    rw [List.append_assoc]
    rfl
  rw [hlog]
  cases action with
  | waits key =>
    cases hstep
    exact ⟨hs.waits (α := α) key, h.waits hs key⟩
  | fires waiter =>
    simp only [step] at hstep
    split at hstep
    · cases hstep
    · next key set harmed =>
      cases hstep
      have hnotice : [WaitNotice.settled waiter (none : Option α)] = [waiter].map fun w => .settled w none := rfl
      refine ⟨hs.fires (α := α) harmed, h.woken (List.nodup_singleton waiter) (fun other hmem => ?_) rfl
        fun other => ?_⟩
      · rw [List.mem_singleton.1 hmem, Dict.has, harmed]
        rfl
      · exact (Dict.get_delete _ _ _).trans (by simp only [List.mem_singleton])
  | answers key value =>
    cases hstep
    obtain ⟨hs, h⟩ := wakeAll_kept hs h key (some value)
    rw [List.map_append, ← List.append_assoc]
    exact ⟨hs, h.answered _ _⟩
  | givesUp key =>
    cases hstep
    exact wakeAll_kept hs h key none
  | givesUpAll =>
    have hall := Except.ok.inj hstep
    have hkept := wakeNext_kept (s.parked.entries.map Prod.fst) hs h
    rw [hall] at hkept
    exact hkept

theorem run_kept (actions : List (WaitAction α)) :
    (waitRun actions).Sound ∧ (waitRun actions).Heard (waitLog actions) :=
  (waitMachine α).log_induction (P := fun s l => s.Sound ∧ s.Heard l) (l := [])
    (fun hkept hstep => step_kept hkept.1 hkept.2 hstep) ⟨empty_sound, empty_heard⟩ actions

/-! ## Woken once -/

/-- Whoever was parked was woken once, or is woken by its timer, which runs. -/
structure WokenOnce (actions : List (WaitAction α)) : Prop where
  once : ∀ waiter key, .emitted (.parked waiter key) ∈ waitLog actions →
    (waitLog actions).countP (settles waiter) = 1 ∨ (waitLog actions).countP (settles waiter) = 0 ∧
      ∃ s', (waitRun actions).step (α := α) (.fires waiter) = .ok (s', [.settled waiter none])
  only : ∀ waiter, (waitLog actions).countP (settles waiter) ≠ 0 →
    ∃ key, .emitted (.parked waiter key) ∈ waitLog actions
  answers : ∀ (key : String) (value : α), ∃ s' : Waiting, ∃ woken : List Nat,
    (waitRun actions).step (.answers key value) =
      .ok (s', woken.map (.settled · (some value)) ++ [.answered key (!woken.isEmpty)]) ∧ woken.Nodup ∧
    ∀ waiter, waiter ∈ woken ↔ .emitted (.parked waiter key) ∈ waitLog actions ∧
      (waitLog actions).countP (settles waiter) = 0
  empties : (∀ waiter key, .emitted (.parked waiter key) ∈ waitLog actions →
    (waitLog actions).countP (settles waiter) ≠ 0) → (waitRun actions).parked.entries = []

/-- **Callers are woken once.** In every run each caller is woken once, by an answer to its key or by its timer, an
answer wakes all and only those that are parked under its key, and once all are woken no key is left. -/
theorem woken_once (actions : List (WaitAction α)) : WokenOnce actions := by
  obtain ⟨hs, h⟩ := run_kept actions
  have hrunning : ∀ waiter, (waitRun actions).timers.has waiter = true ↔
      (∃ key, .emitted (.parked waiter key) ∈ waitLog actions) ∧ (waitLog actions).countP (settles waiter) = 0 := by
    intro waiter
    have htimes := h.times waiter
    rw [h.parked]
    cases hhas : (waitRun actions).timers.has waiter with
    | false =>
      rw [hhas] at htimes
      refine iff_of_false (fun heq => by cases heq) fun ⟨hlt, hzero⟩ => ?_
      rw [if_pos hlt, hzero] at htimes
      cases htimes
    | true =>
      rw [hhas, Bool.toNat_true] at htimes
      split at htimes
      · next hlt => exact iff_of_true rfl ⟨hlt, by omega⟩
      · omega
  have hcount : ∀ waiter, (waitLog actions).countP (settles waiter) ≤ 1 := by
    intro waiter
    have htimes := h.times waiter
    split at htimes <;> omega
  refine ⟨fun waiter key hmem => ?_, fun waiter hsettled => ?_, fun key value => ?_, fun hall => ?_⟩
  · rcases Nat.eq_zero_or_pos ((waitLog actions).countP (settles waiter)) with hzero | hpos
    · have hhas := (hrunning waiter).2 ⟨⟨key, hmem⟩, hzero⟩
      obtain ⟨⟨name, set⟩, harmed⟩ := Option.isSome_iff_exists.1 hhas
      exact .inr ⟨hzero, _, by rw [step, harmed]; rfl⟩
    · exact .inl (Nat.le_antisymm (hcount waiter) hpos)
  · rw [h.parked]
    have htimes := h.times waiter
    split at htimes
    · assumption
    · omega
  · obtain ⟨-, -, woken, hout, hnodup, hwoken, -, -⟩ := hs.wakeAll key (some value)
    refine ⟨((waitRun actions).wakeAll key (some value)).1, woken, ?_, hnodup, fun waiter => ?_⟩
    · rw [step, hout, wakeAll_woke hout]
    · rw [hwoken]
      constructor
      · rintro ⟨set, harmed⟩
        obtain ⟨⟨name, hname⟩, hzero⟩ := (hrunning waiter).1 (by rw [Dict.has, harmed]; rfl)
        rw [h.named waiter name hname key set harmed]
        exact ⟨hname, hzero⟩
      · rintro ⟨hname, hzero⟩
        have hhas := (hrunning waiter).2 ⟨⟨key, hname⟩, hzero⟩
        obtain ⟨⟨other, set⟩, harmed⟩ := Option.isSome_iff_exists.1 hhas
        rw [h.named waiter key hname other set harmed] at harmed
        exact ⟨set, harmed⟩
  · cases hparked : (waitRun actions).parked.entries with
    | nil => rfl
    | cons entry entries =>
      have hkey : (waitRun actions).parked.get entry.1 = some entry.2 :=
        Dict.get_eq_some_iff.2 (by rw [hparked]; exact List.mem_cons_self)
      obtain ⟨hsome, -, hkeys⟩ := hs.each _ _ hkey
      obtain ⟨waiter, hwaiter⟩ := List.exists_mem_of_ne_nil _ hsome
      obtain ⟨⟨name, hname⟩, hzero⟩ := (hrunning waiter).1 (by rw [Dict.has, hkeys waiter hwaiter]; rfl)
      exact absurd hzero (hall waiter name hname)

end Waiting

end Coinslot
