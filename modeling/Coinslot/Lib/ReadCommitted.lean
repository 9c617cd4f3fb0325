import Coinslot.Lib.Transactions

/-!
# Calls that work on one database at once

The calls under way, each with what its transaction has written and locked so far, and everything that can
happen next: time passes, a call begins, goes on by one item of its script, or breaks off. `Moves` says once
what a step can do.

Three things hold of every run (`Sound`). Two calls never hold locks that bar each other; whatever a call has
written it has locked, with the rows and the index entries it newly names; and no unique index has an entry
twice, neither in the database nor in what any call sees of it.
-/

namespace Txn

open List Dict

variable {κ ι ρ ν α : Type}

/-- A call under way: its script from here on, what its transaction has written and locked, every row it has
been handed, and the database as it was when its transaction began. -/
structure Call (κ ι ρ ν α : Type) where
  name : ν
  script : Script κ ι ρ α
  writes : Writes κ ρ
  locks : List (Lock κ ι)
  seen : List ρ
  began : Dict κ ρ

/-- The clock, what has been committed, and the calls under way. -/
structure World (κ ι ρ ν α : Type) where
  now : Int
  db : Dict κ ρ
  calls : Dict Nat (Call κ ι ρ ν α)

/-- Everything that can happen next. -/
inductive Action (ν : Type) where
  | passes (ms : Nat)
  | begins (c : Nat) (name : ν)
  | goes (c : Nat)
  | breaks (c : Nat)

/-- What is heard on the way: a transaction was committed over a database, or a call has answered. -/
inductive Notice (κ ι ρ ν α : Type) where
  | committed (call : Call κ ι ρ ν α) (before : Dict κ ρ)
  | answered (name : ν) (answer : α)

section

variable [DecidableEq κ] [DecidableEq ι]

def Call.view (call : Call κ ι ρ ν α) (db : Dict κ ρ) : Dict κ ρ := overlay db call.writes

namespace World

variable (w : World κ ι ρ ν α) (c : Nat)

def start (now : Int) (db : Dict κ ρ) : World κ ι ρ ν α := ⟨now, db, .empty⟩

def goesOn (call : Call κ ι ρ ν α) : World κ ι ρ ν α := { w with calls := w.calls.set c call }

/-- A call is over. What its transaction wrote is gone, and its locks are free. -/
def ends : World κ ι ρ ν α := { w with calls := w.calls.delete c }

/-- Whether another call holds a lock that bars one of these. -/
def barred (locks : List (Lock κ ι)) : Bool :=
  w.calls.entries.any fun other => other.1 ≠ c &&
    other.2.locks.any fun held => locks.any fun lock => held.1 = lock.1 && held.2.bars lock.2

def fresh (programs : ν → Script κ ι ρ α) (name : ν) : Call κ ι ρ ν α :=
  { name := name, script := programs name, writes := [], locks := [], seen := [], began := w.db }

/-- One step. A step that cannot be taken is refused. -/
def step (S : Schema κ ι ρ) (programs : ν → Script κ ι ρ α) :
    Action ν → Except Unit (World κ ι ρ ν α × List (Notice κ ι ρ ν α))
  | .passes ms => .ok ({ w with now := w.now + ms }, [])
  | .begins c name => if w.calls.has c then .error () else .ok (w.goesOn c (w.fresh programs name), [])
  | .breaks c => .ok (w.ends c, [])
  | .goes c =>
    match w.calls.get c with
    | none => .error ()
    | some call =>
      match call.script with
      | .done answer => .ok (w.ends c, [.answered call.name answer])
      | .fails => .ok (w.ends c, [])
      | .reads next => .ok (w.goesOn c { call with script := next w.now }, [])
      | .commits next =>
        .ok ({ w.goesOn c { call with script := next, writes := [], locks := [], began := call.view w.db } with
            db := call.view w.db }, [.committed call w.db])
      | .runs statement next =>
        let effect := S.effect (call.view w.db) statement
        if w.barred c (effect.waits ++ effect.locks) then .error ()
        else
          match effect.outcome with
          | none => .ok (w.ends c, [])
          | some (writes, rows) =>
            .ok (w.goesOn c { call with
                script := next rows
                writes := call.writes ++ writes
                locks := call.locks ++ effect.locks
                seen := call.seen ++ rows }, [])

end World

def machine (S : Schema κ ι ρ) (programs : ν → Script κ ι ρ α) :
    Reactor (World κ ι ρ ν α) (Action ν) (Notice κ ι ρ ν α) Unit := ⟨fun w action => w.step S programs action⟩

/-- What a step can do. -/
inductive Moves (S : Schema κ ι ρ) (programs : ν → Script κ ι ρ α) (w : World κ ι ρ ν α) :
    Action ν → World κ ι ρ ν α → List (Notice κ ι ρ ν α) → Prop where
  | passes (ms : Nat) : Moves S programs w (.passes ms) { w with now := w.now + ms } []
  | begins (c : Nat) (name : ν) (hfree : w.calls.get c = none) :
    Moves S programs w (.begins c name) (w.goesOn c (w.fresh programs name)) []
  | breaks (c : Nat) : Moves S programs w (.breaks c) (w.ends c) []
  | answers {c : Nat} {call : Call κ ι ρ ν α} {answer : α} (hc : w.calls.get c = some call)
      (hscript : call.script = .done answer) :
    Moves S programs w (.goes c) (w.ends c) [.answered call.name answer]
  | fails {c : Nat} {call : Call κ ι ρ ν α} (hc : w.calls.get c = some call) (hscript : call.script = .fails) :
    Moves S programs w (.goes c) (w.ends c) []
  | reads {c : Nat} {call : Call κ ι ρ ν α} {next : Int → Script κ ι ρ α} (hc : w.calls.get c = some call)
      (hscript : call.script = .reads next) :
    Moves S programs w (.goes c) (w.goesOn c { call with script := next w.now }) []
  | refused {c : Nat} {call : Call κ ι ρ ν α} {statement : Statement κ ι ρ} {next : List ρ → Script κ ι ρ α}
      (hc : w.calls.get c = some call) (hscript : call.script = .runs statement next)
      (houtcome : (S.effect (call.view w.db) statement).outcome = none) :
    Moves S programs w (.goes c) (w.ends c) []
  | runs {c : Nat} {call : Call κ ι ρ ν α} {statement : Statement κ ι ρ} {next : List ρ → Script κ ι ρ α}
      {writes : Writes κ ρ} {rows : List ρ} (hc : w.calls.get c = some call)
      (hscript : call.script = .runs statement next)
      (hbarred : w.barred c ((S.effect (call.view w.db) statement).waits ++
        (S.effect (call.view w.db) statement).locks) = false)
      (houtcome : (S.effect (call.view w.db) statement).outcome = some (writes, rows)) :
    Moves S programs w (.goes c) (w.goesOn c { call with
      script := next rows
      writes := call.writes ++ writes
      locks := call.locks ++ (S.effect (call.view w.db) statement).locks
      seen := call.seen ++ rows }) []
  | commits {c : Nat} {call : Call κ ι ρ ν α} {next : Script κ ι ρ α} (hc : w.calls.get c = some call)
      (hscript : call.script = .commits next) :
    Moves S programs w (.goes c)
      { w.goesOn c { call with script := next, writes := [], locks := [], began := call.view w.db } with
        db := call.view w.db } [.committed call w.db]

theorem moves_of_step {S : Schema κ ι ρ} {programs : ν → Script κ ι ρ α} {w w' : World κ ι ρ ν α}
    {action : Action ν} {out : List (Notice κ ι ρ ν α)}
    (h : (machine S programs).react w action = .ok (w', out)) : Moves S programs w action w' out := by
  change w.step S programs action = .ok (w', out) at h
  cases action with
  | passes ms =>
    cases h
    exact .passes ms
  | begins c name =>
    simp only [World.step] at h
    split at h
    · cases h
    · next hfree =>
      cases h
      exact .begins c name (by simpa [Dict.has] using hfree)
  | breaks c =>
    cases h
    exact .breaks c
  | goes c =>
    simp only [World.step] at h
    split at h
    · cases h
    next call hc =>
    split at h
    · next answer hscript =>
      cases h
      exact .answers hc hscript
    · next hscript =>
      cases h
      exact .fails hc hscript
    · next next hscript =>
      cases h
      exact .reads hc hscript
    · next next hscript =>
      cases h
      exact .commits hc hscript
    · next statement next hscript =>
      split at h
      · cases h
      next hbarred =>
      split at h
      · next houtcome =>
        cases h
        exact .refused hc hscript houtcome
      · next writes rows houtcome =>
        cases h
        exact .runs hc hscript (by simpa using hbarred) houtcome

/-! ## What holds of every run -/

/-- What a transaction has written it has locked, over the database as it is now. -/
def Call.Covered (S : Schema κ ι ρ) (db : Dict κ ρ) (call : Call κ ι ρ ν α) : Prop :=
  S.Covers db call.locks call.writes

/-- What holds of the calls under way and of what has been committed. -/
structure World.Sound (S : Schema κ ι ρ) (w : World κ ι ρ ν α) : Prop where
  keyed : S.Keyed w.db
  distinct : S.Distinct w.db
  covered : ∀ ⦃c call⦄, w.calls.get c = some call → call.Covered S w.db
  apart : ∀ ⦃c c' call call'⦄, w.calls.get c = some call → w.calls.get c' = some call' → c ≠ c' →
    ∀ ⦃l m m'⦄, (l, m) ∈ call.locks → (l, m') ∈ call'.locks → m.bars m' = false

theorem bars_of_ne {m m' : LockMode} (hm : m ≠ .keyShare) (hm' : m' ≠ .keyShare) : m.bars m' = true := by
  cases m <;> cases m' <;> first | rfl | contradiction

theorem bars_symm {m m' : LockMode} (h : m.bars m' = false) : m'.bars m = false := by
  cases m <;> cases m' <;> first | rfl | cases h

namespace World.Sound

variable {S : Schema κ ι ρ} {w : World κ ι ρ ν α} {c c' : Nat} {call call' : Call κ ι ρ ν α}

section

variable (hw : w.Sound S)
include hw

theorem only_lock (hc : w.calls.get c = some call) (hc' : w.calls.get c' = some call')
    (hne : c ≠ c') {l : Lockable κ ι} (hl : (l, .update) ∈ call.locks) {m : LockMode} (hl' : (l, m) ∈ call'.locks) :
    False := by
  have := hw.apart hc hc' hne hl hl'
  cases this

theorem only_writer (hc : w.calls.get c = some call) (hc' : w.calls.get c' = some call')
    (hne : c ≠ c') {k : κ} {o o' : Option ρ} (ho : (k, o) ∈ call.writes) (ho' : (k, o') ∈ call'.writes) : False := by
  obtain ⟨m, hm, hmk⟩ := (hw.covered hc).rows ho
  obtain ⟨m', hm', hmk'⟩ := (hw.covered hc').rows ho'
  have := hw.apart hc hc' hne hm hm'
  rw [bars_of_ne hmk hmk'] at this
  cases this

theorem get_view (hc : w.calls.get c = some call) (hc' : w.calls.get c' = some call')
    (hne : c ≠ c') {k : κ} {o : Option ρ} (ho : (k, o) ∈ call.writes) : (call'.view w.db).get k = w.db.get k :=
  get_overlay_of_not_mem fun _ ho' => hw.only_writer hc hc' hne ho ho'

theorem view_keyed (hc : w.calls.get c = some call) : S.Keyed (call.view w.db) :=
  hw.keyed.overlay (hw.covered hc).keyed

theorem view_fine (hc : w.calls.get c = some call) : S.Fine (call.view w.db) :=
  ⟨hw.view_keyed hc, (hw.covered hc).distinct⟩

end

theorem start {now : Int} {db : Dict κ ρ} (hfine : S.Fine db) : (World.start now db : World κ ι ρ ν α).Sound S where
  keyed := hfine.keyed
  distinct := hfine.distinct
  covered := by
    intro c call hc
    cases hc
  apart := by
    intro c c' call call' hc
    cases hc

theorem covered_nil (hw : w.Sound S) (locks : List (Lock κ ι)) : S.Covers w.db locks [] :=
  Schema.covers_nil hw.distinct locks

theorem ends (hw : w.Sound S) (c : Nat) : (w.ends c).Sound S where
  keyed := hw.keyed
  distinct := hw.distinct
  covered := by
    intro c' call' hc'
    have hc' := (of_get_delete hc').2
    exact hw.covered hc'
  apart := by
    intro c₁ c₂ call₁ call₂ hc₁ hc₂
    simp only [World.ends, get_delete] at hc₁ hc₂
    split at hc₁
    · cases hc₁
    split at hc₂
    · cases hc₂
    exact hw.apart hc₁ hc₂

theorem goesOn (hw : w.Sound S) {call : Call κ ι ρ ν α} (hcovered : call.Covered S w.db)
    (hapart : ∀ ⦃c' call'⦄, w.calls.get c' = some call' → c' ≠ c →
      ∀ ⦃l m m'⦄, (l, m) ∈ call.locks → (l, m') ∈ call'.locks → m'.bars m = false) : (w.goesOn c call).Sound S where
  keyed := hw.keyed
  distinct := hw.distinct
  covered := by
    intro c' call' hc'
    rcases of_get_set hc' with ⟨-, rfl⟩ | ⟨-, hc'⟩
    · exact hcovered
    · exact hw.covered hc'
  apart := by
    intro c₁ c₂ call₁ call₂ hc₁ hc₂ hne l m m' hl hl'
    simp only [World.goesOn, get_set] at hc₁ hc₂
    split at hc₁
    · next h₁ =>
      cases hc₁
      rw [if_neg fun h => hne (h₁.trans h.symm)] at hc₂
      exact bars_symm (hapart hc₂ (fun h => hne (h₁.trans h.symm)) hl hl')
    · next h₁ =>
      split at hc₂
      · cases hc₂
        exact hapart hc₁ h₁ hl' hl
      · exact hw.apart hc₁ hc₂ hne hl hl'

theorem bars_of_not_barred {locks : List (Lock κ ι)} (h : w.barred c locks = false)
    (hc' : w.calls.get c' = some call') (hne : c' ≠ c) {l : Lockable κ ι} {m m' : LockMode}
    (hl : (l, m) ∈ locks) (hl' : (l, m') ∈ call'.locks) : m'.bars m = false := by
  simp only [World.barred, any_eq_false, Bool.and_eq_true, decide_eq_true_eq, not_and, Bool.not_eq_true] at h
  have := h _ (get_eq_some_iff.1 hc') hne _ hl' _ hl
  simpa using this

theorem distinct_of_commits (hw : w.Sound S) (hc : w.calls.get c = some call)
    (hc' : w.calls.get c' = some call') (hne : c ≠ c') : S.Distinct (overlay (call.view w.db) call'.writes) := by
  have hcov := hw.covered hc
  have hcov' := hw.covered hc'
  -- An entry of a row that one call has written and an entry of a row that the other has are not the same.
  have hmixed : ∀ {k k' row row' e}, (k, some row) ∈ call'.writes → k ≠ k' →
      (overlay (call.view w.db) call'.writes).get k = some row →
      (call.view w.db).get k' = some row' → (∀ o, (k', o) ∉ call'.writes) →
      e ∈ S.entries row → e ∈ S.entries row' → False := by
    intro k k' row row' e hwrote hkk hk hk' hno he he'
    have hview : (call'.view w.db).get k = some row := by
      rw [Call.view, get_overlay_of_mem (call.view w.db) hwrote]
      exact hk
    rcases mem_of_get_overlay hk' with hwrote' | ⟨hdb', -⟩
    · rcases hcov.entries hwrote' he' with hlock | ⟨old', hold', heold'⟩
      · rcases hcov'.entries hwrote he with hlock' | ⟨old, hold, heold⟩
        · exact hw.only_lock hc hc' hne hlock hlock'
        · have hview' : (call.view w.db).get k = some old := by
            rw [hw.get_view hc' hc hne.symm hwrote]
            exact hold
          exact hkk (hcov.distinct hview' hk' heold he')
      · have hview' : (call'.view w.db).get k' = some old' := by
          rw [Call.view, get_overlay_of_not_mem hno]
          exact hold'
        exact hkk (hcov'.distinct hview hview' he heold')
    · have hview' : (call'.view w.db).get k' = some row' := by
        rw [Call.view, get_overlay_of_not_mem hno]
        exact hdb'
      exact hkk (hcov'.distinct hview hview' he he')
  intro k k' row row' hk hk' e he he'
  by_contra hkk
  rcases mem_of_get_overlay hk with hwrote | ⟨hdb, hno⟩ <;> rcases mem_of_get_overlay hk' with hwrote' | ⟨hdb', hno'⟩
  · have hview : (call'.view w.db).get k = some row := by
      rw [Call.view, get_overlay_of_mem (call.view w.db) hwrote]
      exact hk
    have hview' : (call'.view w.db).get k' = some row' := by
      rw [Call.view, get_overlay_of_mem (call.view w.db) hwrote']
      exact hk'
    exact hkk (hcov'.distinct hview hview' he he')
  · exact hmixed hwrote hkk hk hdb' hno' he he'
  · exact hmixed hwrote' (Ne.symm hkk) hk' hdb hno he' he
  · exact hkk (hcov.distinct hdb hdb' he he')

theorem commits (hw : w.Sound S) (hc : w.calls.get c = some call) {next : Script κ ι ρ α} {began : Dict κ ρ} :
    World.Sound S { w.goesOn c { call with script := next, writes := [], locks := [], began := began } with
      db := call.view w.db } where
  keyed := hw.view_keyed hc
  distinct := (hw.covered hc).distinct
  covered := by
    intro c' call' hc'
    simp only [World.goesOn, get_set] at hc'
    split at hc'
    · cases hc'
      exact Schema.covers_nil (hw.covered hc).distinct _
    · next hne =>
      have hcov := hw.covered hc'
      refine ⟨hcov.keyed, hcov.rows, ?_, ?_, hw.distinct_of_commits hc hc' (Ne.symm hne)⟩
      · intro k row e hrow he
        rw [hw.get_view hc' hc hne hrow]
        exact hcov.entries hrow he
      · intro k row j hrow hj
        rw [hw.get_view hc' hc hne hrow]
        exact hcov.names hrow hj
  apart := by
    intro c₁ c₂ call₁ call₂ hc₁ hc₂ hne l m m' hl hl'
    simp only [World.goesOn, get_set] at hc₁ hc₂
    split at hc₁
    · cases hc₁
      cases hl
    · split at hc₂
      · cases hc₂
        cases hl'
      · exact hw.apart hc₁ hc₂ hne hl hl'

theorem step {programs : ν → Script κ ι ρ α} {action : Action ν} {w' : World κ ι ρ ν α}
    {out : List (Notice κ ι ρ ν α)} (hw : w.Sound S) (h : Moves S programs w action w' out) : w'.Sound S := by
  cases h with
  | passes ms => exact ⟨hw.keyed, hw.distinct, hw.covered, hw.apart⟩
  | begins c name hfree =>
    refine hw.goesOn (hw.covered_nil _) ?_
    intro c' call' hc' hne l m m' hl
    cases hl
  | breaks c => exact hw.ends c
  | answers hc hscript => exact hw.ends _
  | fails hc hscript => exact hw.ends _
  | refused hc hscript houtcome => exact hw.ends _
  | @reads c call next hc hscript =>
    have hcov : S.Covers w.db call.locks call.writes := hw.covered hc
    refine hw.goesOn ?_ fun c' call' hc' hne l m m' hl hl' => bars_symm (hw.apart hc hc' (Ne.symm hne) hl hl')
    exact hcov
  | @runs c call statement next writes rows hc hscript hbarred houtcome =>
    refine hw.goesOn ((hw.covered hc).append (Schema.covers_effect (hw.view_keyed hc)
      (hw.covered hc).distinct houtcome)) ?_
    intro c' call' hc' hne l m m' hl hl'
    rcases mem_append.1 hl with hl | hl
    · exact bars_symm (hw.apart hc hc' (Ne.symm hne) hl hl')
    · exact bars_of_not_barred hbarred hc' hne (mem_append_right _ hl) hl'
  | commits hc hscript => exact hw.commits hc

end World.Sound

end

end Txn
