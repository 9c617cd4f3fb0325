import Mathlib.Data.List.Induction

/-!
# Reactors, their runs and their monitors

A reactor takes one event at a time and answers it with a next state and a list of outputs, or
refuses it; a refused event leaves the state as it was. `run` is the state a list of events leads to
and `log` is everything that happened on the way, each accepted event followed by what was emitted
for it.

The rules below are the ones a development over a reactor needs: an invariant of the steps is an
invariant of the runs (`run_induction`, with the log `log_induction`, and where every event of the run
meets a condition `log_induction_meeting`), and a property that holds at the end of a run and not at
its start was entered at some step and held ever since (`exists_entry`). A reactor that runs within another
reaches nothing the other does not (`Within.run`).
A log is read by a monitor, a deterministic reader that may get stuck; a word that takes a monitor out
of a set of its states has a letter that does (`Monitor.exit`).
-/

open List Option

universe u v w x

/-- A machine that answers an event with its next state and its outputs, or refuses it. -/
structure Reactor (σ : Type u) (ε : Type v) (φ : Type w) (ρ : Type x) where
  react : σ → ε → Except ρ (σ × List φ)

/-- One entry of a log: an event that was accepted, or an output emitted on the way. -/
inductive Happening (ε : Type v) (φ : Type w) where
  | accepted (event : ε)
  | emitted (output : φ)
  deriving DecidableEq

theorem Except.map_eq_ok_iff {ρ : Type u} {α : Type v} {β : Type w} {f : α → β} {x : Except ρ α} {b : β} :
    x.map f = .ok b ↔ ∃ a, x = .ok a ∧ f a = b := by
  cases x with
  | error r => simp [Except.map]
  | ok a => simp [Except.map]

/-- Every letter of a list meets a condition on what comes before it. -/
def Along {α : Type u} (Q : List α → α → Prop) (l : List α) : Prop :=
  ∀ before x after, l = before ++ x :: after → Q before x

variable {α : Type u}

theorem along_nil (Q : List α → α → Prop) : Along Q [] := by
  intro before x after h
  simp at h

theorem Along.concat {Q : List α → α → Prop} {l : List α} {x : α} (h : Along Q l) (hx : Q l x) :
    Along Q (l ++ [x]) := by
  intro before y after hsplit
  rcases eq_nil_or_concat after with rfl | ⟨rest, z, rfl⟩
  · obtain ⟨rfl, hlast⟩ := append_inj' hsplit rfl
    cases hlast
    exact hx
  · rw [concat_eq_append, ← cons_append, ← append_assoc] at hsplit
    obtain ⟨hl, -⟩ := append_inj' hsplit rfl
    exact h before y rest hl

theorem Along.append {Q : List α → α → Prop} {l m : List α} (h : Along Q l) (hm : ∀ x ∈ m, ∀ before, Q before x) :
    Along Q (l ++ m) := by
  induction m generalizing l with
  | nil => rwa [append_nil]
  | cons x m ih =>
    obtain ⟨hx, hm⟩ := forall_mem_cons.1 hm
    rw [append_cons]
    exact ih (h.concat (hx l)) hm

namespace Reactor

variable {σ : Type u} {ε : Type v} {φ : Type w} {ρ : Type x} (R : Reactor σ ε φ ρ)

/-- The state after one event. -/
def next (s : σ) (e : ε) : σ :=
  match R.react s e with
  | .ok (s', _) => s'
  | .error _ => s

def stepLog (e : ε) (out : List φ) : List (Happening ε φ) := .accepted e :: out.map .emitted

/-- What one event leaves in the log: nothing where it is refused. -/
def entries (s : σ) (e : ε) : List (Happening ε φ) :=
  match R.react s e with
  | .ok (_, out) => stepLog e out
  | .error _ => []

/-- The state a list of events leads to. -/
def run : σ → List ε → σ
  | s, [] => s
  | s, e :: es => run (R.next s e) es

/-- Everything that happened on the way. -/
def log : σ → List ε → List (Happening ε φ)
  | _, [] => []
  | s, e :: es => R.entries s e ++ log (R.next s e) es

@[simp] theorem run_nil (s : σ) : R.run s [] = s := rfl

@[simp] theorem run_cons (s : σ) (e : ε) (es : List ε) : R.run s (e :: es) = R.run (R.next s e) es := rfl

@[simp] theorem log_nil (s : σ) : R.log s [] = [] := rfl

@[simp] theorem log_cons (s : σ) (e : ε) (es : List ε) :
    R.log s (e :: es) = R.entries s e ++ R.log (R.next s e) es := rfl

variable {s : σ} {e : ε}

variable {s' : σ} {out : List φ} {r : ρ} {B : σ → ε → Prop}

theorem next_of_ok (h : R.react s e = .ok (s', out)) : R.next s e = s' := by
  simp [next, h]

theorem next_of_error (h : R.react s e = .error r) : R.next s e = s := by simp [next, h]

theorem entries_of_ok (h : R.react s e = .ok (s', out)) : R.entries s e = stepLog e out := by
  simp [entries, h]

theorem entries_of_error (h : R.react s e = .error r) : R.entries s e = [] := by simp [entries, h]

theorem run_append (s : σ) (es fs : List ε) : R.run s (es ++ fs) = R.run (R.run s es) fs := by
  induction es generalizing s with
  | nil => rfl
  | cons e es ih => exact ih _

theorem log_append (s : σ) (es fs : List ε) : R.log s (es ++ fs) = R.log s es ++ R.log (R.run s es) fs := by
  induction es generalizing s with
  | nil => rfl
  | cons e es ih => rw [cons_append, log_cons, log_cons, run_cons, ih, append_assoc]

/-- Every event of a run meets a condition on the state it comes to. -/
def Meets (A : σ → ε → Prop) : σ → List ε → Prop
  | _, [] => True
  | s, e :: es => A s e ∧ Meets A (R.next s e) es

/-- Whether every event of a run meets a condition that can be told. -/
instance decidableMeets {A : σ → ε → Prop} [∀ s e, Decidable (A s e)] :
    (s : σ) → (es : List ε) → Decidable (R.Meets A s es)
  | _, [] => .isTrue trivial
  | s, e :: es =>
    have : Decidable (R.Meets A (R.next s e) es) := decidableMeets (R.next s e) es
    inferInstanceAs (Decidable (A s e ∧ R.Meets A (R.next s e) es))

variable {A : σ → ε → Prop} {es : List ε}

theorem meets_of_mem (h : ∀ e ∈ es, ∀ s, A s e) (s : σ) : R.Meets A s es := by
  induction es generalizing s with
  | nil => trivial
  | cons e es ih => exact ⟨h e (mem_cons_self ..) s, ih (fun f hf => h f (mem_cons_of_mem _ hf)) _⟩

theorem meets_append {fs : List ε} : R.Meets A s (es ++ fs) ↔ R.Meets A s es ∧ R.Meets A (R.run s es) fs := by
  induction es generalizing s with
  | nil => exact ⟨fun h => ⟨trivial, h⟩, fun h => h.2⟩
  | cons e es ih =>
    constructor
    · intro h
      obtain ⟨hes, hfs⟩ := ih.1 h.2
      exact ⟨⟨h.1, hes⟩, hfs⟩
    · intro h
      exact ⟨h.1.1, ih.2 ⟨h.1.2, h.2⟩⟩

theorem meets_and (hA : R.Meets A s es) (hB : R.Meets B s es) :
    R.Meets (fun s e => A s e ∧ B s e) s es := by
  induction es generalizing s with
  | nil => trivial
  | cons e es ih => exact ⟨⟨hA.1, hB.1⟩, ih hA.2 hB.2⟩

variable {P : σ → Prop}

theorem Meets.of_invariant (hstep : ∀ {s e s' out}, P s → A s e → R.react s e = .ok (s', out) → P s')
    (hAB : ∀ {s e}, P s → A s e → B s e) (h : P s) (hA : R.Meets A s es) : R.Meets B s es := by
  induction es generalizing s with
  | nil => trivial
  | cons e es ih =>
    refine ⟨hAB h hA.1, ih ?_ hA.2⟩
    cases hr : R.react s e with
    | error r => rw [R.next_of_error hr]; exact h
    | ok came =>
      obtain ⟨s', out⟩ := came
      rw [R.next_of_ok hr]
      exact hstep h hA.1 hr

variable {l : List (Happening ε φ)}

theorem emitted_before_or_by {before after : List (Happening ε φ)} {f : φ}
    (h : l ++ stepLog e out = before ++ .emitted f :: after) :
    (∃ mid, l = before ++ .emitted f :: mid) ∨ ∃ mid, before = l ++ mid ∧ f ∈ out := by
  rcases append_eq_append_iff.1 h with ⟨mid, hb, hs⟩ | ⟨mid, hl, ha⟩
  · have hf : (.emitted f : Happening ε φ) ∈ stepLog e out := by simp [hs]
    refine .inr ⟨mid, hb, ?_⟩
    simpa [stepLog] using hf
  · cases mid with
    | nil =>
      have hs : stepLog e out = .emitted f :: after := ha.symm
      have hf : (.emitted f : Happening ε φ) ∈ stepLog e out := by simp [hs]
      exact .inr ⟨[], by simpa using hl.symm, by simpa [stepLog] using hf⟩
    | cons x mid =>
      obtain ⟨rfl, rfl⟩ := List.cons.inj ha
      exact .inl ⟨mid, hl⟩

/-- **Invariants of runs that meet a condition, with their log.** A property of a state and of the log
that led to it, preserved by every accepted event that meets the condition, holds at the end of every
run that meets it, from where it holds. -/
theorem log_induction_meeting {P : σ → List (Happening ε φ) → Prop}
    (hstep : ∀ {s l e s' out}, P s l → A s e → R.react s e = .ok (s', out) → P s' (l ++ stepLog e out))
    (h : P s l) (es : List ε) (hA : R.Meets A s es) : P (R.run s es) (l ++ R.log s es) := by
  induction es generalizing s l with
  | nil => simpa using h
  | cons e es ih =>
    obtain ⟨he, hes⟩ := hA
    rw [run_cons, log_cons, ← append_assoc]
    refine ih ?_ hes
    cases hr : R.react s e with
    | error r =>
      rw [R.next_of_error hr, R.entries_of_error hr, append_nil]
      exact h
    | ok res =>
      obtain ⟨s', out⟩ := res
      rw [R.next_of_ok hr, R.entries_of_ok hr]
      exact hstep h he hr

/-- **Invariants of runs with their log.** A property of a state and of the log that led to it,
preserved by every accepted event, holds at the end of every run from where it holds. -/
theorem log_induction {P : σ → List (Happening ε φ) → Prop}
    (hstep : ∀ {s l e s' out}, P s l → R.react s e = .ok (s', out) → P s' (l ++ stepLog e out))
    (h : P s l) (es : List ε) : P (R.run s es) (l ++ R.log s es) :=
  R.log_induction_meeting (A := fun _ _ => True) (fun hP _ hr => hstep hP hr) h es
    (R.meets_of_mem (fun _ _ _ => trivial) s)

/-- **Invariants of runs.** A property preserved by every accepted event holds at the end of every
run from where it holds. -/
theorem run_induction (hstep : ∀ {s e s' out}, P s → R.react s e = .ok (s', out) → P s') (h : P s)
    (es : List ε) : P (R.run s es) :=
  R.log_induction (P := fun s _ => P s) (l := []) (fun hs hr => hstep hs hr) h es

/-- **Invariants of runs that meet a condition.** A property preserved by every accepted event that meets
the condition holds at the end of every run that meets it, from where it holds. -/
theorem run_induction_meeting (hstep : ∀ {s e s' out}, P s → A s e → R.react s e = .ok (s', out) → P s') (h : P s)
    (es : List ε) (hA : R.Meets A s es) : P (R.run s es) :=
  R.log_induction_meeting (P := fun s _ => P s) (l := []) (fun hs he hr => hstep hs he hr) h es hA

/-- What a quantity of the accepted events of a run comes to. -/
def tally (f : σ → ε → σ × List φ → Nat) : σ → List ε → Nat
  | _, [] => 0
  | s, e :: es =>
    (match R.react s e with
      | .ok came => f s e came
      | .error _ => 0) + tally f (R.next s e) es

variable {f g : σ → ε → σ × List φ → Nat}

section

variable (stock : σ → Nat)

/-- **Balances.** Where every accepted event puts as much into a stock as it does not pay out, a run
pays out what it takes in, but for what is left in the stock. -/
theorem tally_balance (hP : ∀ {s e s' out}, P s → R.react s e = .ok (s', out) → P s')
    (hstep : ∀ {s e s' out}, P s → R.react s e = .ok (s', out) →
      f s e (s', out) + stock s = g s e (s', out) + stock s') (h : P s) (es : List ε) :
    R.tally f s es + stock s = R.tally g s es + stock (R.run s es) := by
  induction es generalizing s with
  | nil => rfl
  | cons e es ih =>
    simp only [tally, run_cons]
    cases hr : R.react s e with
    | error r =>
      rw [R.next_of_error hr, Nat.zero_add, Nat.zero_add]
      exact ih h
    | ok came =>
      obtain ⟨s', out⟩ := came
      have hbalance := hstep h hr
      have := ih (hP h hr)
      rw [R.next_of_ok hr]
      dsimp only
      omega

/-- **Balances with an income.** Where every accepted event pays out no more than the stock and what it takes in, so
does a run. -/
theorem tally_covers (hP : ∀ {s e s' out}, P s → R.react s e = .ok (s', out) → P s')
    (hstep : ∀ {s e s' out}, P s → R.react s e = .ok (s', out) →
      f s e (s', out) + stock s' ≤ g s e (s', out) + stock s) (h : P s) (es : List ε) :
    R.tally f s es + stock (R.run s es) ≤ R.tally g s es + stock s := by
  induction es generalizing s with
  | nil => exact Nat.le_refl _
  | cons e es ih =>
    simp only [tally, run_cons]
    cases hr : R.react s e with
    | error r =>
      rw [R.next_of_error hr, Nat.zero_add, Nat.zero_add]
      exact ih h
    | ok came =>
      obtain ⟨s', out⟩ := came
      have hcovers := hstep h hr
      have := ih (hP h hr)
      rw [R.next_of_ok hr]
      dsimp only
      omega

/-- **Spendings.** Where every accepted event pays out of a stock, a run pays out no more than the stock. -/
theorem tally_spends (hP : ∀ {s e s' out}, P s → R.react s e = .ok (s', out) → P s')
    (hstep : ∀ {s e s' out}, P s → R.react s e = .ok (s', out) → f s e (s', out) + stock s' ≤ stock s)
    (h : P s) (es : List ε) : R.tally f s es + stock (R.run s es) ≤ stock s := by
  induction es generalizing s with
  | nil => exact Nat.le_of_eq (Nat.zero_add _)
  | cons e es ih =>
    simp only [tally, run_cons]
    cases hr : R.react s e with
    | error r =>
      rw [R.next_of_error hr, Nat.zero_add]
      exact ih h
    | ok came =>
      obtain ⟨s', out⟩ := came
      have hspent := hstep h hr
      have := ih (hP h hr)
      rw [R.next_of_ok hr]
      dsimp only
      omega

end

theorem tally_add (f g : σ → ε → σ × List φ → Nat) (s : σ) (es : List ε) :
    R.tally (fun s e came => f s e came + g s e came) s es = R.tally f s es + R.tally g s es := by
  induction es generalizing s with
  | nil => rfl
  | cons e es ih =>
    simp only [tally, ih]
    cases R.react s e with
    | error r => exact Nat.add_add_add_comm 0 0 _ _
    | ok came => exact Nat.add_add_add_comm _ _ _ _

theorem tally_congr (hP : ∀ {s e s' out}, P s → R.react s e = .ok (s', out) → P s')
    (hstep : ∀ {s e s' out}, P s → R.react s e = .ok (s', out) → f s e (s', out) = g s e (s', out))
    (h : P s) (es : List ε) : R.tally f s es = R.tally g s es :=
  R.tally_balance (fun _ => 0) hP (fun hs hr => by rw [hstep hs hr]) h es

/-- A property that holds at the end of a run and not at its start was entered by an accepted event
of the run, and has held ever since. -/
theorem exists_entry (h₀ : ¬ P s) (h : P (R.run s es)) :
    ∃ es₁ e es₂ s' out, es = es₁ ++ e :: es₂ ∧ ¬ P (R.run s es₁) ∧
      R.react (R.run s es₁) e = .ok (s', out) ∧ ∀ fs, fs <+: es₂ → P (R.run s' fs) := by
  induction es using List.reverseRecOn with
  | nil => exact absurd h h₀
  | append_singleton es e ih =>
    have hlast : R.run s (es ++ [e]) = R.next (R.run s es) e := by rw [run_append]; rfl
    by_cases hP : P (R.run s es)
    · -- It held before the last event too, so it was entered earlier.
      obtain ⟨es₁, e₁, es₂, s', out, rfl, hn, hr, hall⟩ := ih hP
      refine ⟨es₁, e₁, es₂ ++ [e], s', out, by simp, hn, hr, fun fs hfs => ?_⟩
      rcases prefix_concat_iff.1 hfs with rfl | hfs
      · have hrun : R.run s (es₁ ++ e₁ :: es₂ ++ [e]) = R.run s' (es₂ ++ [e]) := by
          rw [append_assoc, run_append, cons_append, run_cons, R.next_of_ok hr]
        exact hrun ▸ h
      · exact hall fs hfs
    · -- The last event entered it: a refused one would have changed nothing.
      cases hr : R.react (R.run s es) e with
      | error r => rw [hlast, R.next_of_error hr] at h; exact absurd h hP
      | ok res =>
        refine ⟨es, e, [], res.1, res.2, rfl, hP, hr, fun fs hfs => ?_⟩
        rw [hlast, R.next_of_ok hr] at h
        rw [prefix_nil.1 hfs]
        exact h

end Reactor

/-! ## Reactors within reactors -/

/-- A reactor runs within another, on the part of the state the other sees: an accepted event leaves
that part as it was, or takes it through one accepted event of the other. -/
def Reactor.Within {σ : Type u} {ε : Type v} {φ : Type w} {ρ : Type x} {τ δ ψ θ : Type*}
    (R : Reactor σ ε φ ρ) (S : Reactor τ δ ψ θ) (view : σ → τ) : Prop :=
  ∀ s e s' out, R.react s e = .ok (s', out) →
    view s' = view s ∨ ∃ d out', S.react (view s) d = .ok (view s', out')

theorem Reactor.Within.run {σ : Type u} {ε : Type v} {φ : Type w} {ρ : Type x} {τ δ ψ θ : Type*}
    {R : Reactor σ ε φ ρ} {S : Reactor τ δ ψ θ} {view : σ → τ} (h : R.Within S view) (s : σ)
    (es : List ε) : ∃ ds, view (R.run s es) = S.run (view s) ds := by
  induction es generalizing s with
  | nil => exact ⟨[], rfl⟩
  | cons e es ih =>
    rw [Reactor.run_cons]
    obtain ⟨ds, hds⟩ := ih (R.next s e)
    cases hr : R.react s e with
    | error r =>
      rw [R.next_of_error hr] at hds ⊢
      exact ⟨ds, hds⟩
    | ok came =>
      obtain ⟨s', out⟩ := came
      rw [R.next_of_ok hr] at hds ⊢
      rcases h _ _ _ _ hr with hsame | ⟨d, out', hstep⟩
      · rw [hsame] at hds
        exact ⟨ds, hds⟩
      · refine ⟨d :: ds, ?_⟩
        rw [hds, Reactor.run_cons, S.next_of_ok hstep]

/-! ## Monitors -/

/-- A deterministic reader of words: from a state and a letter, the next state, or none where the
word goes wrong. -/
structure Monitor (α : Type u) (Q : Type v) where
  next : Q → α → Option Q

namespace Monitor

variable {α : Type u} {Q : Type v} (M : Monitor α Q)

/-- The state a word leads to, where the monitor reads all of it. -/
def reads : Q → List α → Option Q
  | q, [] => some q
  | q, a :: w => (M.next q a).bind fun q' => reads q' w

theorem reads_cons (q : Q) (a : α) (w : List α) :
    M.reads q (a :: w) = (M.next q a).bind fun q' => M.reads q' w := rfl

theorem reads_append (q : Q) (w₁ w₂ : List α) :
    M.reads q (w₁ ++ w₂) = (M.reads q w₁).bind fun q' => M.reads q' w₂ := by
  induction w₁ generalizing q with
  | nil => rfl
  | cons a w ih =>
    rw [cons_append, reads_cons, reads_cons]
    cases M.next q a with
    | none => rfl
    | some q' => exact ih q'

variable {q q' : Q} {a : α} {w : List α} {β : Type w}

theorem reads_append_inv {w₁ w₂ : List α} (h : M.reads q (w₁ ++ w₂) = some q') :
    ∃ p, M.reads q w₁ = some p ∧ M.reads p w₂ = some q' := by
  rw [reads_append] at h
  exact bind_eq_some_iff.1 h

theorem reads_cons_inv (h : M.reads q (a :: w) = some q') :
    ∃ p, M.next q a = some p ∧ M.reads p w = some q' :=
  bind_eq_some_iff.1 h

/-- **Invariants of readings.** A property of a state and of the word read so far, preserved by
every letter, holds of every word the monitor reads. -/
theorem reads_induction {P : Q → List α → Prop}
    (hstep : ∀ {q w a q'}, P q w → M.next q a = some q' → P q' (w ++ [a])) {u : List α} (h₀ : P q u)
    (h : M.reads q w = some q') : P q' (u ++ w) := by
  induction w generalizing q u with
  | nil => cases h; simpa using h₀
  | cons a w ih =>
    obtain ⟨p, hp, hw⟩ := M.reads_cons_inv h
    have := ih (hstep h₀ hp) hw
    rwa [append_assoc] at this

/-- **A word that leaves a set of states has a letter that does.** -/
theorem exit {A : Q → Prop} (h : M.reads q w = some q') (hq : A q) (hq' : ¬ A q') :
    ∃ w₁ a w₂ p p', w = w₁ ++ a :: w₂ ∧ A p ∧ M.next p a = some p' ∧ ¬ A p' ∧ M.reads p' w₂ = some q' := by
  induction w generalizing q with
  | nil => cases h; exact absurd hq hq'
  | cons a w ih =>
    obtain ⟨p, hp, hw⟩ := M.reads_cons_inv h
    by_cases hA : A p
    · obtain ⟨w₁, b, w₂, r, r', rfl, hr⟩ := ih hw hA
      exact ⟨a :: w₁, b, w₂, r, r', rfl, hr⟩
    · exact ⟨[], a, w, q, p, rfl, hq, hp, hA, hw⟩

/-- The monitor of the letters a word carries: what carries none is passed over. -/
def along {β : Type w} (letter : β → Option α) : Monitor β Q where
  next q b :=
    match letter b with
    | none => some q
    | some a => M.next q a

theorem along_next_none {letter : β → Option α} {b : β} (h : letter b = none) :
    (M.along letter).next q b = some q := by
  simp [along, h]

theorem along_next_some {letter : β → Option α} {b : β} (h : letter b = some a) :
    (M.along letter).next q b = M.next q a := by
  simp [along, h]

end Monitor
