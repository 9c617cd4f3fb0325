import Mathlib.Data.List.Forall2

/-!
# Promises

A promise is a program that asks for things, one after the other or at once, and goes on with what it is
answered: with an answer, or with an error it may catch. Of two promises that are waited for at once
(`both`) either may be answered first, and the program goes on when both are done; where one fails, so does
the whole, and what the other asks for is asked for all the same.

A promise is run step by step: what it asks for next is put under way (`issue`), and what is under way is
answered (`settle`), in any order. What it comes to does not depend on the order: where every request is
answered as one site answers it, it comes to what `eval` says (`eval_issue`, `eval_settle`, `eval_normal`).

Two facts of a promise hold throughout its runs. Every request it may make meets a condition (`Everywhere`);
and it fails where a request is answered badly and nowhere else (`Strict`, `Strict.eval_isOk`).
-/

/-- A program that asks for things. What is under way carries the number it was given. -/
inductive Promise (Req Ans Err : Type) : Type → Type 1 where
  | done {α : Type} (a : α) : Promise Req Ans Err α
  | fails {α : Type} (e : Err) : Promise Req Ans Err α
  | asks {α : Type} (r : Req) (k : Except Err Ans → Promise Req Ans Err α) : Promise Req Ans Err α
  | awaits {α : Type} (f : Nat) (r : Req) (k : Except Err Ans → Promise Req Ans Err α) : Promise Req Ans Err α
  | both {α β γ : Type} (p : Promise Req Ans Err β) (q : Promise Req Ans Err γ)
      (k : β → γ → Promise Req Ans Err α) : Promise Req Ans Err α

namespace Promise

open List Option

variable {Req Ans Err : Type} {α β : Type}

/-- A promise, and another made of what it comes to. -/
def bind {α β : Type} : Promise Req Ans Err α → (α → Promise Req Ans Err β) → Promise Req Ans Err β
  | done a, g => g a
  | fails e, _ => fails e
  | asks r k, g => asks r fun o => (k o).bind g
  | awaits f r k, g => awaits f r fun o => (k o).bind g
  | both p q k, g => both p q fun b c => (k b c).bind g

instance : Monad (Promise Req Ans Err) where
  pure := done
  bind := bind

/-- All the promises of a list at once. -/
def all : List (Promise Req Ans Err α) → Promise Req Ans Err (List α)
  | [] => done []
  | p :: ps => both p (all ps) fun a as => done (a :: as)

/-! ## What a promise comes to -/

/-- What a promise comes to at a site that answers every request as it does. -/
def eval (σ : Req → Except Err Ans) {α : Type} : Promise Req Ans Err α → Except Err α
  | done a => .ok a
  | fails e => .error e
  | asks r k => (k (σ r)).eval σ
  | awaits _ r k => (k (σ r)).eval σ
  | both p q k =>
    match p.eval σ, q.eval σ with
    | .ok b, .ok c => (k b c).eval σ
    | .error e, _ => .error e
    | .ok _, .error e => .error e

/-- What a promise asks for at a site that answers every request as it does. -/
def asked (σ : Req → Except Err Ans) {α : Type} : Promise Req Ans Err α → List Req
  | done _ => []
  | fails _ => []
  | asks r k => r :: (k (σ r)).asked σ
  | awaits _ r k => r :: (k (σ r)).asked σ
  | both p q k =>
    p.asked σ ++ q.asked σ ++
      match p.eval σ, q.eval σ with
      | .ok b, .ok c => (k b c).asked σ
      | _, _ => []

variable (σ : Req → Except Err Ans)

theorem eval_both {γ : Type} {p : Promise Req Ans Err β} {q : Promise Req Ans Err γ}
    {k : β → γ → Promise Req Ans Err α} {a : α} :
    (both p q k).eval σ = .ok a ↔ ∃ b c, p.eval σ = .ok b ∧ q.eval σ = .ok c ∧ (k b c).eval σ = .ok a := by
  simp only [eval]
  cases p.eval σ with
  | error e => simp
  | ok b =>
    cases q.eval σ with
    | error e => simp
    | ok c => simp

variable {ps : List (Promise Req Ans Err α)}

theorem eval_all {as : List α} (h : (all ps).eval σ = .ok as) :
    List.Forall₂ (fun p a => p.eval σ = .ok a) ps as := by
  induction ps generalizing as with
  | nil => cases h; exact .nil
  | cons p ps ih =>
    obtain ⟨b, bs, hp, hps, has⟩ := (eval_both σ).1 h
    cases has
    exact .cons hp (ih hps)

/-! ## What a promise may ask for -/

/-- Every request a promise may make meets a condition, whatever it is answered. -/
def Everywhere (Q : Req → Prop) {α : Type} : Promise Req Ans Err α → Prop
  | done _ => True
  | fails _ => True
  | asks r k => Q r ∧ ∀ o, (k o).Everywhere Q
  | awaits _ r k => Q r ∧ ∀ o, (k o).Everywhere Q
  | both p q k => p.Everywhere Q ∧ q.Everywhere Q ∧ ∀ b c, (k b c).Everywhere Q

variable {σ} {Q : Req → Prop}

variable {p : Promise Req Ans Err α}

theorem Everywhere.bind {g : α → Promise Req Ans Err β}
    (hp : p.Everywhere Q) (hg : ∀ a, (g a).Everywhere Q) : (p.bind g).Everywhere Q := by
  induction p with
  | done a => exact hg a
  | fails e => trivial
  | asks r k ih => exact ⟨hp.1, fun o => ih o (hp.2 o) hg⟩
  | awaits f r k ih => exact ⟨hp.1, fun o => ih o (hp.2 o) hg⟩
  | both p q k _ _ ih => exact ⟨hp.1, hp.2.1, fun b c => ih b c (hp.2.2 b c) hg⟩

theorem Everywhere.all (h : ∀ p ∈ ps, p.Everywhere Q) : (Promise.all ps).Everywhere Q := by
  induction ps with
  | nil => trivial
  | cons p ps ih =>
    obtain ⟨hp, hps⟩ := forall_mem_cons.1 h
    exact ⟨hp, ih hps, fun _ _ => trivial⟩

theorem Everywhere.eval_congr {τ : Req → Except Err Ans}
    (hp : p.Everywhere Q) (h : ∀ r, Q r → σ r = τ r) : p.eval σ = p.eval τ := by
  induction p with
  | done a => rfl
  | fails e => rfl
  | asks r k ih =>
    simp only [eval, h r hp.1]
    exact ih _ (hp.2 _)
  | awaits f r k ih =>
    simp only [eval, h r hp.1]
    exact ih _ (hp.2 _)
  | both p q k ihp ihq ih =>
    simp only [eval, ihp hp.1, ihq hp.2.1]
    cases p.eval τ with
    | error e => rfl
    | ok b =>
      cases q.eval τ with
      | error e => rfl
      | ok c => exact ih b c (hp.2.2 b c)

/-! ## Where a promise fails -/

/-- A promise fails where a request is answered badly, and nowhere else. -/
def Strict (Bad : Req → Except Err Ans → Prop) {α : Type} : Promise Req Ans Err α → Prop
  | done _ => True
  | fails _ => False
  | asks r k => ∀ o, (Bad r o → ∃ e, k o = fails e) ∧ (¬ Bad r o → (k o).Strict Bad)
  | awaits _ r k => ∀ o, (Bad r o → ∃ e, k o = fails e) ∧ (¬ Bad r o → (k o).Strict Bad)
  | both p q k => p.Strict Bad ∧ q.Strict Bad ∧ ∀ b c, (k b c).Strict Bad

variable {Bad : Req → Except Err Ans → Prop}

theorem Strict.bind {g : α → Promise Req Ans Err β}
    (hp : p.Strict Bad) (hg : ∀ a, (g a).Strict Bad) : (p.bind g).Strict Bad := by
  induction p with
  | done a => exact hg a
  | fails e => exact hp
  | asks r k ih =>
    refine fun o => ⟨fun hbad => ?_, fun hgood => ih o ((hp o).2 hgood) hg⟩
    obtain ⟨e, he⟩ := (hp o).1 hbad
    exact ⟨e, congrArg (·.bind g) he⟩
  | awaits f r k ih =>
    refine fun o => ⟨fun hbad => ?_, fun hgood => ih o ((hp o).2 hgood) hg⟩
    obtain ⟨e, he⟩ := (hp o).1 hbad
    exact ⟨e, congrArg (·.bind g) he⟩
  | both p q k _ _ ih => exact ⟨hp.1, hp.2.1, fun b c => ih b c (hp.2.2 b c) hg⟩

theorem Strict.all (h : ∀ p ∈ ps, p.Strict Bad) : (Promise.all ps).Strict Bad := by
  induction ps with
  | nil => trivial
  | cons p ps ih =>
    obtain ⟨hp, hps⟩ := forall_mem_cons.1 h
    exact ⟨hp, ih hps, fun _ _ => trivial⟩

/-- **Where a promise fails.** A promise that fails where a request is answered badly, and nowhere else,
comes to something at the sites that answer badly none of what it asks for, and only there. -/
theorem Strict.eval_isOk (hp : p.Strict Bad) : (∃ a, p.eval σ = .ok a) ↔ ∀ r ∈ p.asked σ, ¬ Bad r (σ r) := by
  induction p with
  | done a => exact ⟨fun _ _ h => (not_mem_nil h).elim, fun _ => ⟨a, rfl⟩⟩
  | fails e => exact hp.elim
  | asks r k ih =>
    simp only [eval, asked, forall_mem_cons]
    by_cases hbad : Bad r (σ r)
    · obtain ⟨e, he⟩ := (hp (σ r)).1 hbad
      rw [he]
      exact ⟨fun ⟨_, h⟩ => (nomatch h), fun h => absurd hbad h.1⟩
    · rw [ih (σ r) ((hp (σ r)).2 hbad)]
      exact ⟨fun h => ⟨hbad, h⟩, fun h => h.2⟩
  | awaits f r k ih =>
    simp only [eval, asked, forall_mem_cons]
    by_cases hbad : Bad r (σ r)
    · obtain ⟨e, he⟩ := (hp (σ r)).1 hbad
      rw [he]
      exact ⟨fun ⟨_, h⟩ => (nomatch h), fun h => absurd hbad h.1⟩
    · rw [ih (σ r) ((hp (σ r)).2 hbad)]
      exact ⟨fun h => ⟨hbad, h⟩, fun h => h.2⟩
  | both p q k ihp ihq ih =>
    have hpok := ihp hp.1
    have hqok := ihq hp.2.1
    simp only [eval, asked, forall_mem_append]
    cases hpe : p.eval σ with
    | error e =>
      rw [hpe] at hpok
      exact ⟨fun ⟨_, h⟩ => (nomatch h), fun h => (nomatch (hpok.2 h.1.1).choose_spec)⟩
    | ok b =>
      cases hqe : q.eval σ with
      | error e =>
        rw [hqe] at hqok
        exact ⟨fun ⟨_, h⟩ => (nomatch h), fun h => (nomatch (hqok.2 h.1.2).choose_spec)⟩
      | ok c =>
        rw [ih b c (hp.2.2 b c)]
        exact ⟨fun h => ⟨⟨hpok.1 ⟨b, hpe⟩, hqok.1 ⟨c, hqe⟩⟩, h⟩, fun h => h.2⟩

/-! ## Running a promise -/

/-- What a promise asks for next. -/
def next {α : Type} : Promise Req Ans Err α → Option Req
  | asks r _ => some r
  | both p q _ => p.next.or q.next
  | _ => none

/-- What a promise asks for next is put under way. -/
def issue (f : Nat) {α : Type} : Promise Req Ans Err α → Promise Req Ans Err α
  | asks r k => awaits f r k
  | both p q k => if p.next.isSome then both (p.issue f) q k else both p (q.issue f) k
  | p => p

/-- What is under way is answered. -/
def settle (f : Nat) (o : Except Err Ans) {α : Type} : Promise Req Ans Err α → Promise Req Ans Err α
  | awaits g r k => if g = f then k o else awaits g r k
  | both p q k => both (p.settle f o) (q.settle f o) k
  | p => p

/-- A promise that goes on where both of two are done. -/
def normal {α : Type} : Promise Req Ans Err α → Promise Req Ans Err α
  | both p q k =>
    match p.normal, q.normal with
    | done b, done c => (k b c).normal
    | p, q => both p q k
  | p => p

/-- The error a promise failed with, if it did. -/
def failure {α : Type} : Promise Req Ans Err α → Option Err
  | fails e => some e
  | both p q _ => p.failure.or q.failure
  | _ => none

/-- What is under way. -/
def awaited {α : Type} : Promise Req Ans Err α → List (Nat × Req)
  | awaits f r _ => [(f, r)]
  | both p q _ => p.awaited ++ q.awaited
  | _ => []

variable {α : Type} {p : Promise Req Ans Err α} {f : Nat} {o : Except Err Ans}

section

variable (hp : p.Everywhere Q)
include hp

theorem Everywhere.next {r : Req} (hr : p.next = some r) : Q r := by
  induction p with
  | done a => cases hr
  | fails e => cases hr
  | asks r' k => cases hr; exact hp.1
  | awaits g r' k => cases hr
  | both p q k ihp ihq =>
    rcases or_eq_some_iff.1 hr with h | ⟨-, h⟩
    · exact ihp hp.1 h
    · exact ihq hp.2.1 h

theorem Everywhere.issue : (p.issue f).Everywhere Q := by
  induction p with
  | done a => exact hp
  | fails e => exact hp
  | asks r k => exact hp
  | awaits g r k => exact hp
  | both p q k ihp ihq =>
    simp only [Promise.issue]
    split
    · exact ⟨ihp hp.1, hp.2⟩
    · exact ⟨hp.1, ihq hp.2.1, hp.2.2⟩

theorem Everywhere.settle : (p.settle f o).Everywhere Q := by
  induction p with
  | done a => exact hp
  | fails e => exact hp
  | asks r k => exact hp
  | awaits g r k =>
    simp only [Promise.settle]
    split
    · exact hp.2 o
    · exact hp
  | both p q k ihp ihq => exact ⟨ihp hp.1, ihq hp.2.1, hp.2.2⟩

theorem Everywhere.normal : p.normal.Everywhere Q := by
  induction p with
  | done a => exact hp
  | fails e => exact hp
  | asks r k => exact hp
  | awaits g r k => exact hp
  | both p q k ihp ihq ih =>
    simp only [Promise.normal]
    split
    · exact ih _ _ (hp.2.2 _ _)
    · exact ⟨ihp hp.1, ihq hp.2.1, hp.2.2⟩

end

/-! ## What is under way -/

variable {r : Req}

theorem awaited_issue_next (hr : p.next = some r) : (f, r) ∈ (p.issue f).awaited := by
  induction p with
  | done a => cases hr
  | fails e => cases hr
  | asks r' k => cases hr; exact mem_singleton_self _
  | awaits g r' k => cases hr
  | both p q k ihp ihq =>
    simp only [Promise.issue]
    rcases or_eq_some_iff.1 hr with h | ⟨hnone, h⟩
    · rw [if_pos (isSome_of_eq_some h)]
      exact mem_append_left _ (ihp h)
    · rw [if_neg (by rw [hnone]; exact Bool.false_ne_true)]
      exact mem_append_right _ (ihq h)

variable {g : Nat}

section

variable (h : (g, r) ∈ p.awaited)
include h

theorem awaited_issue : (g, r) ∈ (p.issue f).awaited := by
  induction p with
  | done a => exact h
  | fails e => exact h
  | asks r' k => cases h
  | awaits g' r' k => exact h
  | both p q k ihp ihq =>
    simp only [Promise.issue]
    split
    · exact (mem_append.1 h).elim (fun h => mem_append_left _ (ihp h)) (mem_append_right _)
    · exact (mem_append.1 h).elim (mem_append_left _) (fun h => mem_append_right _ (ihq h))

theorem awaited_settle (hother : g ≠ f) : (g, r) ∈ (p.settle f o).awaited := by
  induction p with
  | done a => exact h
  | fails e => exact h
  | asks r' k => cases h
  | awaits g' r' k =>
    have hg : g = g' := congrArg Prod.fst (mem_singleton.1 h)
    simp only [Promise.settle]
    rw [if_neg fun heq => hother (hg.trans heq)]
    exact h
  | both p q k ihp ihq =>
    exact (mem_append.1 h).elim (fun h => mem_append_left _ (ihp h)) (fun h => mem_append_right _ (ihq h))

theorem awaited_normal : (g, r) ∈ p.normal.awaited := by
  induction p with
  | done a => exact h
  | fails e => exact h
  | asks r' k => exact h
  | awaits g' r' k => exact h
  | both p q k ihp ihq ih =>
    simp only [Promise.normal]
    split
    · next b c hp hq =>
      -- Both are done, so nothing of them is under way.
      rw [hp] at ihp
      rw [hq] at ihq
      exact (mem_append.1 h).elim (fun h => nomatch ihp h) (fun h => nomatch ihq h)
    · exact (mem_append.1 h).elim (fun h => mem_append_left _ (ihp h)) (fun h => mem_append_right _ (ihq h))

end

/-- A promise of which nothing is under way, nor will be of itself. -/
def Unsent {α : Type} : Promise Req Ans Err α → Prop
  | done _ => True
  | fails _ => True
  | asks _ k => ∀ o, (k o).Unsent
  | awaits _ _ _ => False
  | both p q k => p.Unsent ∧ q.Unsent ∧ ∀ b c, (k b c).Unsent

/-- A promise on its way: what comes after what is under way was not begun. -/
def Sent {α : Type} : Promise Req Ans Err α → Prop
  | done _ => True
  | fails _ => True
  | asks _ k => ∀ o, (k o).Unsent
  | awaits _ _ k => ∀ o, (k o).Unsent
  | both p q k => p.Sent ∧ q.Sent ∧ ∀ b c, (k b c).Unsent

theorem Unsent.bind {g : α → Promise Req Ans Err β} (hp : p.Unsent) (hg : ∀ a, (g a).Unsent) : (p.bind g).Unsent := by
  induction p with
  | done a => exact hg a
  | fails e => trivial
  | asks r k ih => exact fun o => ih o (hp o) hg
  | awaits f r k ih => exact hp.elim
  | both p q k _ _ ih => exact ⟨hp.1, hp.2.1, fun b c => ih b c (hp.2.2 b c) hg⟩

theorem Unsent.all (h : ∀ p ∈ ps, p.Unsent) : (Promise.all ps).Unsent := by
  induction ps with
  | nil => trivial
  | cons p ps ih =>
    obtain ⟨hp, hps⟩ := forall_mem_cons.1 h
    exact ⟨hp, ih hps, fun _ _ => trivial⟩

theorem Unsent.sent (hp : p.Unsent) : p.Sent := by
  induction p with
  | done a => trivial
  | fails e => trivial
  | asks r k => exact hp
  | awaits g r k => exact hp.elim
  | both p q k ihp ihq => exact ⟨ihp hp.1, ihq hp.2.1, hp.2.2⟩

theorem Unsent.awaited (hp : p.Unsent) : p.awaited = [] := by
  induction p with
  | done a => rfl
  | fails e => rfl
  | asks r k => rfl
  | awaits g r k => exact hp.elim
  | both p q k ihp ihq => simp [Promise.awaited, ihp hp.1, ihq hp.2.1]

theorem Sent.issue (hp : p.Sent) : (p.issue f).Sent := by
  induction p with
  | done a => exact hp
  | fails e => exact hp
  | asks r k => exact hp
  | awaits g r k => exact hp
  | both p q k ihp ihq =>
    simp only [Promise.issue]
    split
    · exact ⟨ihp hp.1, hp.2⟩
    · exact ⟨hp.1, ihq hp.2.1, hp.2.2⟩

theorem Sent.settle (hp : p.Sent) : (p.settle f o).Sent := by
  induction p with
  | done a => exact hp
  | fails e => exact hp
  | asks r k => exact hp
  | awaits g r k =>
    simp only [Promise.settle]
    split
    · exact (hp o).sent
    · exact hp
  | both p q k ihp ihq => exact ⟨ihp hp.1, ihq hp.2.1, hp.2.2⟩

theorem Unsent.normal (hp : p.Unsent) : p.normal.Unsent := by
  induction p with
  | done a => exact hp
  | fails e => exact hp
  | asks r k => exact hp
  | awaits g r k => exact hp
  | both p q k ihp ihq ih =>
    simp only [Promise.normal]
    split
    · exact ih _ _ (hp.2.2 _ _)
    · exact ⟨ihp hp.1, ihq hp.2.1, hp.2.2⟩

theorem Sent.normal (hp : p.Sent) : p.normal.Sent := by
  induction p with
  | done a => exact hp
  | fails e => exact hp
  | asks r k => exact hp
  | awaits g r k => exact hp
  | both p q k ihp ihq ih =>
    simp only [Promise.normal]
    split
    · exact (hp.2.2 _ _).normal.sent
    · exact ⟨ihp hp.1, ihq hp.2.1, hp.2.2⟩

theorem of_awaited_issue (h : (g, r) ∈ (p.issue f).awaited) : (g, r) ∈ p.awaited ∨ g = f ∧ p.next = some r := by
  induction p with
  | done a => exact .inl h
  | fails e => exact .inl h
  | asks r' k =>
    obtain ⟨rfl, rfl⟩ := Prod.mk.inj (mem_singleton.1 h)
    exact .inr ⟨rfl, rfl⟩
  | awaits g' r' k => exact .inl h
  | both p q k ihp ihq =>
    simp only [Promise.issue] at h
    split at h
    · next hsome =>
      rcases mem_append.1 h with h | h
      · rcases ihp h with h | ⟨rfl, hnext⟩
        · exact .inl (mem_append_left _ h)
        · exact .inr ⟨rfl, or_eq_some_iff.2 (.inl hnext)⟩
      · exact .inl (mem_append_right _ h)
    · next hnone =>
      rcases mem_append.1 h with h | h
      · exact .inl (mem_append_left _ h)
      · rcases ihq h with h | ⟨rfl, hnext⟩
        · exact .inl (mem_append_right _ h)
        · exact .inr ⟨rfl, or_eq_some_iff.2 (.inr ⟨by simpa using hnone, hnext⟩)⟩

theorem Sent.of_awaited_settle (hp : p.Sent) (h : (g, r) ∈ (p.settle f o).awaited) : (g, r) ∈ p.awaited := by
  induction p with
  | done a => exact h
  | fails e => exact h
  | asks r' k => exact h
  | awaits g' r' k =>
    simp only [Promise.settle] at h
    split at h
    · rw [(hp o).awaited] at h
      cases h
    · exact h
  | both p q k ihp ihq =>
    rcases mem_append.1 h with h | h
    · exact mem_append_left _ (ihp hp.1 h)
    · exact mem_append_right _ (ihq hp.2.1 h)

theorem Sent.of_awaited_normal (hp : p.Sent) (h : (g, r) ∈ p.normal.awaited) : (g, r) ∈ p.awaited := by
  induction p with
  | done a => exact h
  | fails e => exact h
  | asks r' k => exact h
  | awaits g' r' k => exact h
  | both p q k ihp ihq ih =>
    simp only [Promise.normal] at h
    split at h
    · rw [(hp.2.2 _ _).normal.awaited] at h
      cases h
    · rcases mem_append.1 h with h | h
      · exact mem_append_left _ (ihp hp.1 h)
      · exact mem_append_right _ (ihq hp.2.1 h)

/-! ## What a run comes to -/

theorem eval_issue : (p.issue f).eval σ = p.eval σ := by
  induction p with
  | done a => rfl
  | fails e => rfl
  | asks r k => rfl
  | awaits g r k => rfl
  | both p q k ihp ihq =>
    simp only [issue]
    split
    · simp only [eval, ihp]
    · simp only [eval, ihq]

theorem eval_settle (h : ∀ r, (f, r) ∈ p.awaited → o = σ r) : (p.settle f o).eval σ = p.eval σ := by
  induction p with
  | done a => rfl
  | fails e => rfl
  | asks r k => rfl
  | awaits g r k =>
    simp only [settle]
    split
    · next heq =>
      subst heq
      rw [h r (mem_singleton_self _)]
      rfl
    · rfl
  | both p q k ihp ihq =>
    have hp := ihp fun r hr => h r (mem_append_left _ hr)
    have hq := ihq fun r hr => h r (mem_append_right _ hr)
    simp only [settle, eval, hp, hq]

theorem eval_of_failure {e : Err} (h : p.failure = some e) : ∃ thrown, p.eval σ = .error thrown := by
  induction p with
  | done a => cases h
  | fails e' => exact ⟨e', rfl⟩
  | asks r k => cases h
  | awaits g r k => cases h
  | both p q k ihp ihq =>
    simp only [eval]
    rcases or_eq_some_iff.1 h with h | ⟨-, h⟩
    · obtain ⟨thrown, hp⟩ := ihp h
      exact ⟨thrown, by rw [hp]⟩
    · obtain ⟨thrown, hq⟩ := ihq h
      cases p.eval σ with
      | error e' => exact ⟨e', rfl⟩
      | ok b => exact ⟨thrown, by rw [hq]⟩

theorem eval_normal : p.normal.eval σ = p.eval σ := by
  induction p with
  | done a => rfl
  | fails e => rfl
  | asks r k => rfl
  | awaits g r k => rfl
  | both p q k ihp ihq ih =>
    simp only [normal]
    split
    · next b c hp hq =>
      rw [hp] at ihp
      rw [hq] at ihq
      simp only [eval] at ihp ihq ⊢
      rw [← ihp, ← ihq]
      exact ih b c
    · simp only [eval, ihp, ihq]

end Promise
