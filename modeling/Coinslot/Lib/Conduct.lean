import Coinslot.Lib.ReadCommitted

/-!
# What calls hold to

A script decides what it does by what it has been handed. A conduct says as much of that as an argument needs:
a note on each call under way, what a call with a note may count on in what it sees, and what a statement or a
commit of it may do, which leads to another note. A script keeps to a conduct (`Script.Keeps`) when each of
its statements does what the conduct lets it, whatever it is handed; sequencing composes (`Script.Keeps.bind`).

Where every program keeps to a conduct, every step of a world is a step of the notes (`NotedMoves`), so that
what the conduct's steps preserve holds of every run (`World.run_keeps`, with the log `World.log_keeps`), and
no script is looked into again.
-/

namespace Txn

variable {κ ι ρ ν α β γ : Type}

/-- What a call with a note may count on in what it sees, what a statement of it may do, by what it sees, locks,
writes and is handed back, and what a commit of it may. -/
structure Conduct (κ ι ρ γ : Type) where
  sees : γ → Dict κ ρ → Prop
  does : γ → Dict κ ρ → List (Lock κ ι) → Writes κ ρ → List ρ → γ → Prop
  commits : γ → Dict κ ρ → γ → Prop

section

variable [DecidableEq κ] [DecidableEq ι]

/-- A script keeps to a conduct from a note on, and ends where it may. -/
def Script.Keeps (S : Schema κ ι ρ) (K : Conduct κ ι ρ γ) (post : γ → α → Prop) : Script κ ι ρ α → γ → Prop
  | .done answer, g => post g answer
  | .fails, _ => True
  | .reads next, g => ∀ now, (next now).Keeps S K post g
  | .runs statement next, g =>
    ∀ db, S.Fine db → K.sees g db → ∀ writes rows, (S.effect db statement).outcome = some (writes, rows) →
      ∃ g', K.does g db (S.effect db statement).locks writes rows g' ∧ (next rows).Keeps S K post g'
  | .commits next, g => ∀ db, S.Fine db → K.sees g db → ∃ g', K.commits g db g' ∧ next.Keeps S K post g'

namespace Script.Keeps

variable {S : Schema κ ι ρ} {K : Conduct κ ι ρ γ} {g : γ}

variable {s : Script κ ι ρ α}

theorem bind {post : γ → β → Prop} {f : α → Script κ ι ρ β}
    (h : s.Keeps S K (fun g answer => (f answer).Keeps S K post g) g) : (s.bind f).Keeps S K post g := by
  induction s generalizing g with
  | done answer => exact h
  | fails => trivial
  | reads next ih => exact fun now => ih now (h now)
  | runs statement next ih =>
    intro db hfine hsees writes rows houtcome
    obtain ⟨g', hdoes, hnext⟩ := h db hfine hsees writes rows houtcome
    exact ⟨g', hdoes, ih rows hnext⟩
  | commits next ih =>
    intro db hfine hsees
    obtain ⟨g', hcommits, hnext⟩ := h db hfine hsees
    exact ⟨g', hcommits, ih hnext⟩

theorem mono {post post' : γ → α → Prop} (hpost : ∀ g answer, post g answer → post' g answer)
    (h : s.Keeps S K post g) : s.Keeps S K post' g := by
  induction s generalizing g with
  | done answer => exact hpost _ _ h
  | fails => trivial
  | reads next ih => exact fun now => ih now (h now)
  | runs statement next ih =>
    intro db hfine hsees writes rows houtcome
    obtain ⟨g', hdoes, hnext⟩ := h db hfine hsees writes rows houtcome
    exact ⟨g', hdoes, ih rows hnext⟩
  | commits next ih =>
    intro db hfine hsees
    obtain ⟨g', hcommits, hnext⟩ := h db hfine hsees
    exact ⟨g', hcommits, ih hnext⟩

end Script.Keeps

/-- Whether a script commits next. -/
def Script.commitsNext : Script κ ι ρ α → Bool
  | .commits _ => true
  | _ => false

omit [DecidableEq κ] [DecidableEq ι] in
theorem heard_before_or_now {log : List (Happening (Action ν) (Notice κ ι ρ ν α))} {action : Action ν}
    {out : List (Notice κ ι ρ ν α)} {notice : Notice κ ι ρ ν α}
    (h : .emitted notice ∈ log ++ Reactor.stepLog action out) : .emitted notice ∈ log ∨ notice ∈ out := by
  rcases List.mem_append.1 h with h | h
  · exact .inl h
  · rcases List.mem_cons.1 h with h | h
    · cases h
    · obtain ⟨notice', hnotice, heq⟩ := List.mem_map.1 h
      cases heq
      exact .inr hnotice

/-- What a step does to the notes on the calls under way. -/
inductive NotedMoves (S : Schema κ ι ρ) (programs : ν → Script κ ι ρ α) (K : Conduct κ ι ρ γ)
    (starts : ν → γ → Prop) (post : γ → α → Prop) (w : World κ ι ρ ν α) (g : Nat → γ) :
    Action ν → World κ ι ρ ν α → (Nat → γ) → List (Notice κ ι ρ ν α) → Prop where
  | passes (ms : Nat) : NotedMoves S programs K starts post w g (.passes ms) { w with now := w.now + ms } g []
  | begins {c : Nat} {name : ν} {g₀ : γ} (hfree : w.calls.get c = none) (hstarts : starts name g₀) :
    NotedMoves S programs K starts post w g (.begins c name) (w.goesOn c (w.fresh programs name))
      (Function.update g c g₀) []
  | ends {action : Action ν} (c : Nat) : NotedMoves S programs K starts post w g action (w.ends c) g []
  | answers {c : Nat} {call : Call κ ι ρ ν α} {answer : α} (hc : w.calls.get c = some call)
      (hpost : post (g c) answer) :
    NotedMoves S programs K starts post w g (.goes c) (w.ends c) g [.answered call.name answer]
  | reads {c : Nat} {call : Call κ ι ρ ν α} (hc : w.calls.get c = some call) (script : Script κ ι ρ α) :
    NotedMoves S programs K starts post w g (.goes c) (w.goesOn c { call with script := script }) g []
  | runs {c : Nat} {call : Call κ ι ρ ν α} {statement : Statement κ ι ρ} {script : Script κ ι ρ α}
      {writes : Writes κ ρ} {rows : List ρ} {g' : γ} (hc : w.calls.get c = some call)
      (hbarred : w.barred c ((S.effect (call.view w.db) statement).waits ++
        (S.effect (call.view w.db) statement).locks) = false)
      (houtcome : (S.effect (call.view w.db) statement).outcome = some (writes, rows))
      (hsees : K.sees (g c) (call.view w.db))
      (hdoes : K.does (g c) (call.view w.db) (S.effect (call.view w.db) statement).locks writes rows g') :
    NotedMoves S programs K starts post w g (.goes c) (w.goesOn c { call with
      script := script
      writes := call.writes ++ writes
      locks := call.locks ++ (S.effect (call.view w.db) statement).locks
      seen := call.seen ++ rows }) (Function.update g c g') []
  | commits {c : Nat} {call : Call κ ι ρ ν α} {script : Script κ ι ρ α} {g' : γ}
      (hc : w.calls.get c = some call) (hscript : call.script = .commits script)
      (hsees : K.sees (g c) (call.view w.db)) (hcommits : K.commits (g c) (call.view w.db) g') :
    NotedMoves S programs K starts post w g (.goes c)
      { w.goesOn c { call with script := script, writes := [], locks := [], began := call.view w.db } with
        db := call.view w.db } (Function.update g c g') [.committed call w.db]

namespace World

variable {S : Schema κ ι ρ} {programs : ν → Script κ ι ρ α} {K : Conduct κ ι ρ γ}
  {starts : ν → γ → Prop} {post : γ → α → Prop}

/-- Every call under way keeps to the conduct from its note on. -/
def Kept (S : Schema κ ι ρ) (K : Conduct κ ι ρ γ) (post : γ → α → Prop) (w : World κ ι ρ ν α) (g : Nat → γ) : Prop :=
  ∀ ⦃c call⦄, w.calls.get c = some call → call.script.Keeps S K post (g c)

/-- Every call under way may count on what it sees. -/
def Counted (K : Conduct κ ι ρ γ) (w : World κ ι ρ ν α) (g : Nat → γ) : Prop :=
  ∀ ⦃c call⦄, w.calls.get c = some call → K.sees (g c) (call.view w.db)

variable {w : World κ ι ρ ν α} {g : Nat → γ}

variable {c : Nat} {g' : γ}

omit [DecidableEq κ] [DecidableEq ι] in
theorem noted_goesOn {Q : γ → Call κ ι ρ ν α → Prop} (h : ∀ c call, w.calls.get c = some call → Q (g c) call)
    {call : Call κ ι ρ ν α} (hcall : Q g' call) : ∀ c' call', (w.goesOn c call).calls.get c' = some call' →
      Q (Function.update g c g' c') call' := by
  intro c' call' hc'
  rcases Dict.of_get_set hc' with ⟨heq, rfl⟩ | ⟨hne, hc'⟩
  · rw [heq, Function.update_self]
    exact hcall
  · rw [Function.update_of_ne hne]
    exact h c' call' hc'

theorem Kept.goesOn {db : Dict κ ρ} (h : w.Kept S K post g) {call : Call κ ι ρ ν α}
    (hcall : call.script.Keeps S K post g') :
    World.Kept S K post { w.goesOn c call with db := db } (Function.update g c g') := fun c' call' hc' =>
  noted_goesOn (Q := fun g call => call.script.Keeps S K post g) (fun _ _ hc => h hc) hcall c' call' hc'

theorem Kept.ends (h : w.Kept S K post g) (c : Nat) : (w.ends c).Kept S K post g := by
  intro c' call' hc'
  have hc' := (Dict.of_get_delete hc').2
  exact h hc'

theorem noted_of_moves {w' : World κ ι ρ ν α} {action : Action ν} {out : List (Notice κ ι ρ ν α)}
    (hbegins : ∀ c name, action = .begins c name → ∃ g₀, starts name g₀ ∧ (programs name).Keeps S K post g₀)
    (hsound : w.Sound S) (hkept : w.Kept S K post g) (hcounted : w.Counted K g)
    (h : Moves S programs w action w' out) :
    ∃ g', NotedMoves S programs K starts post w g action w' g' out ∧ w'.Kept S K post g' := by
  cases h with
  | passes ms => exact ⟨g, .passes ms, hkept⟩
  | begins c name hfree =>
    obtain ⟨g₀, hstarts, hkeeps⟩ := hbegins c name rfl
    exact ⟨_, .begins hfree hstarts, hkept.goesOn hkeeps⟩
  | breaks c => exact ⟨g, .ends c, hkept.ends c⟩
  | @answers c call answer hc hscript =>
    have hpost := hkept hc
    rw [hscript] at hpost
    exact ⟨g, .answers hc hpost, hkept.ends _⟩
  | fails hc hscript => exact ⟨g, .ends _, hkept.ends _⟩
  | refused hc hscript houtcome => exact ⟨g, .ends _, hkept.ends _⟩
  | @reads c call next hc hscript =>
    refine ⟨g, .reads hc _, ?_⟩
    have hnext := hkept hc
    rw [hscript] at hnext
    rw [← Function.update_eq_self c g]
    exact hkept.goesOn (hnext w.now)
  | @runs c call statement next writes rows hc hscript hbarred houtcome =>
    have hruns := hkept hc
    rw [hscript] at hruns
    obtain ⟨g', hdoes, hnext⟩ := hruns _ (hsound.view_fine hc) (hcounted hc) _ _ houtcome
    exact ⟨_, .runs hc hbarred houtcome (hcounted hc) hdoes, hkept.goesOn hnext⟩
  | @commits c call next hc hscript =>
    have hcommits := hkept hc
    rw [hscript] at hcommits
    obtain ⟨g', hdoes, hnext⟩ := hcommits _ (hsound.view_fine hc) (hcounted hc)
    exact ⟨_, .commits hc hscript (hcounted hc) hdoes, hkept.goesOn hnext⟩

theorem log_keeps {P : World κ ι ρ ν α → (Nat → γ) → List (Happening (Action ν) (Notice κ ι ρ ν α)) → Prop}
    {A : World κ ι ρ ν α → Action ν → Prop}
    (hbegins : ∀ w c name, A w (.begins c name) → ∃ g₀, starts name g₀ ∧ (programs name).Keeps S K post g₀)
    (hcounted : ∀ {w g l}, w.Sound S → P w g l → w.Counted K g)
    (hstep : ∀ {w w' : World κ ι ρ ν α} {g g' : Nat → γ} {l action out}, w.Sound S → P w g l → A w action →
      NotedMoves S programs K starts post w g action w' g' out → P w' g' (l ++ Reactor.stepLog action out))
    (hsound : w.Sound S) (hfree : w.calls = .empty) (hstart : P w g []) (actions : List (Action ν))
    (hmeets : (machine S programs).Meets A w actions) :
    ∃ g', P ((machine S programs).run w actions) g' ((machine S programs).log w actions) ∧
      ((machine S programs).run w actions).Sound S := by
  have hkept : w.Kept S K post g := by
    intro c call hc
    rw [hfree] at hc
    cases hc
  have hrun : ∃ g', P ((machine S programs).run w actions) g' ([] ++ (machine S programs).log w actions) ∧
      ((machine S programs).run w actions).Sound S ∧ ((machine S programs).run w actions).Kept S K post g' := by
    refine (machine S programs).log_induction_meeting (A := A)
      (P := fun w l => ∃ g, P w g l ∧ w.Sound S ∧ w.Kept S K post g) ?_ ⟨g, hstart, hsound, hkept⟩ actions hmeets
    rintro w l action w' out ⟨g, hP, hs, hk⟩ hA hreact
    obtain ⟨g', hnoted, hk'⟩ := noted_of_moves (fun c name h => hbegins w c name (h ▸ hA)) hs hk
      (hcounted hs hP) (moves_of_step hreact)
    exact ⟨g', hstep hs hP hA hnoted, hs.step (moves_of_step hreact), hk'⟩
  obtain ⟨g', hP, hs, -⟩ := hrun
  exact ⟨g', hP, hs⟩

end World

end

end Txn
