import Mathlib.Data.List.Basic
import Mathlib.Data.List.Induction

/-!
# Tokens in custody

A log of entries, each about one key. An entry may put a token in its key's keeping, may take away
what is kept there, and may be made against a token, which is to be kept there when it is made.
`holding` is what a key keeps after a log; a log is `Kept` where every entry against a token was made
while its key kept it, and no token was put anywhere twice.

In a log that is kept, what a key keeps was put there by the last entry that touched the key
(`holding_last`), and a token that was put and is kept nowhere is spent (`Gone`): no later entry is
made against it (`Kept.gone`). So a token that was taken away, or that another one replaced, is spent
(`Kept.gone_of_replaced`), and where an entry against a token takes it away there is one such entry at
most (`Kept.count_against`).
-/

universe u v w

/-- What an entry of a log is about: its key, the token it is made against, and what its key keeps
after it, where it says so. -/
structure Custody (ε : Type u) (κ : Type v) (τ : Type w) where
  key : ε → κ
  against : ε → Option τ
  leaves : ε → Option (Option τ)

namespace Custody

open List

variable {ε : Type u} {κ : Type v} {τ : Type w} [DecidableEq κ] (C : Custody ε κ τ)

/-- What a key keeps after one more entry. -/
def keeps (k : κ) (kept : Option τ) (e : ε) : Option τ := if C.key e = k then (C.leaves e).getD kept else kept

/-- What a key keeps after a log. -/
def holding (es : List ε) (k : κ) : Option τ := es.foldl (C.keeps k) none

/-- An entry that puts a token in its key's keeping. -/
def Puts (t : τ) (e : ε) : Prop := C.leaves e = some (some t)

/-- An entry may follow a log: its key keeps the token it is made against, and the token it puts was
never put before. -/
structure Follows (es : List ε) (e : ε) : Prop where
  held : ∀ t, C.against e = some t → C.holding es (C.key e) = some t
  fresh : ∀ t, C.Puts t e → ∀ e' ∈ es, ¬ C.Puts t e'

/-- A log each entry of which may follow what was before it. -/
def Kept (es : List ε) : Prop := ∀ before e after, es = before ++ e :: after → C.Follows before e

/-- A token that was put somewhere and is kept nowhere. -/
structure Gone (es : List ε) (t : τ) : Prop where
  put : ∃ e ∈ es, C.Puts t e
  nowhere : ∀ k, C.holding es k ≠ some t

variable {C} {es fs before after : List ε} {e put : ε} {k : κ} {t : τ}

@[simp] theorem holding_nil (k : κ) : C.holding [] k = none := rfl

@[simp] theorem holding_concat (es : List ε) (e : ε) (k : κ) :
    C.holding (es ++ [e]) k = C.keeps k (C.holding es k) e := by
  simp [holding]

theorem kept_nil : C.Kept [] := by
  intro before e after h
  cases before <;> cases h

theorem kept_concat : C.Kept (es ++ [e]) ↔ C.Kept es ∧ C.Follows es e := by
  constructor
  · intro h
    refine ⟨fun before e' after hes => h before e' (after ++ [e]) ?_, h es e [] rfl⟩
    rw [hes, append_assoc, cons_append]
  · rintro ⟨h, he⟩ before e' after hes
    rcases eq_nil_or_concat' after with rfl | ⟨mid, last, rfl⟩
    · obtain ⟨rfl, hlast⟩ := append_inj' hes rfl
      cases hlast
      exact he
    · rw [← cons_append, ← append_assoc] at hes
      exact h before e' mid (append_inj' hes rfl).1

theorem Kept.of_append (h : C.Kept (es ++ fs)) : C.Kept es := by
  intro before e after hes
  refine h before e (after ++ fs) ?_
  rw [hes, append_assoc, cons_append]

/-- **The last touch.** What a key keeps was put there by an entry after which none touched the
key. -/
theorem holding_last (h : C.holding es k = some t) :
    ∃ before put after, es = before ++ put :: after ∧ C.key put = k ∧ C.Puts t put ∧
      ∀ e ∈ after, C.key e = k → C.leaves e = none := by
  induction es using List.reverseRecOn with
  | nil => cases h
  | append_singleton es e ih =>
    rw [holding_concat, keeps] at h
    have earlier (hes : C.holding es k = some t) (he : C.key e = k → C.leaves e = none) :
        ∃ before put after, es ++ [e] = before ++ put :: after ∧ C.key put = k ∧ C.Puts t put ∧
          ∀ e ∈ after, C.key e = k → C.leaves e = none := by
      obtain ⟨before, put, after, rfl, hput, ht, hafter⟩ := ih hes
      refine ⟨before, put, after ++ [e], by simp, hput, ht, fun e' hin => ?_⟩
      rcases mem_append.1 hin with hin | hin
      · exact hafter e' hin
      · rw [mem_singleton.1 hin]
        exact he
    split at h
    · next hk =>
      cases hl : C.leaves e with
      | none =>
        rw [hl] at h
        exact earlier h fun _ => hl
      | some left =>
        rw [hl] at h
        refine ⟨es, e, [], rfl, hk, ?_, by rintro e' ⟨⟩⟩
        rw [Puts, hl]
        exact congrArg some h
    · next hk => exact earlier h fun hk' => absurd hk' hk

theorem put_of_holding (h : C.holding es k = some t) : ∃ e ∈ es, C.Puts t e := by
  obtain ⟨before, put, after, rfl, -, hput, -⟩ := holding_last h
  exact ⟨put, by simp, hput⟩

theorem Kept.put_unique (h : C.Kept es) (he : e ∈ es) (hput : put ∈ es) (hte : C.Puts t e)
    (htput : C.Puts t put) : e = put := by
  induction es using List.reverseRecOn with
  | nil => cases he
  | append_singleton es last ih =>
    obtain ⟨hes, hlast⟩ := kept_concat.1 h
    rcases mem_append.1 he with hin | hin <;> rcases mem_append.1 hput with hp | hp
    · exact ih hes hin hp
    · rw [mem_singleton.1 hp] at htput
      exact absurd hte (hlast.fresh t htput e hin)
    · rw [mem_singleton.1 hin] at hte
      exact absurd htput (hlast.fresh t hte put hp)
    · exact (mem_singleton.1 hin).trans (mem_singleton.1 hp).symm

theorem Kept.holder (h : C.Kept es) (hput : put ∈ es) (ht : C.Puts t put)
    (hk : C.holding es k = some t) : C.key put = k := by
  obtain ⟨before, e, after, rfl, rfl, he, -⟩ := holding_last hk
  rw [h.put_unique hput (by simp) ht he]

/-! ## Spent tokens -/

theorem Gone.concat (hg : C.Gone es t) (he : C.Follows es e) : C.Gone (es ++ [e]) t ∧ C.against e ≠ some t := by
  obtain ⟨put, hput, ht⟩ := hg.put
  refine ⟨⟨⟨put, by simp [hput], ht⟩, fun k hk => ?_⟩, fun ha => hg.nowhere _ (he.held t ha)⟩
  rw [holding_concat, keeps] at hk
  split at hk
  · cases hl : C.leaves e with
    | none =>
      rw [hl] at hk
      exact hg.nowhere k hk
    | some left =>
      rw [hl] at hk
      exact he.fresh t (hl.trans (congrArg some hk)) put hput ht
  · exact hg.nowhere k hk

/-- **A token that is gone is spent.** It stays gone, and no later entry is made against it. -/
theorem Kept.gone (h : C.Kept (es ++ fs)) (hg : C.Gone es t) :
    C.Gone (es ++ fs) t ∧ ∀ e ∈ fs, C.against e ≠ some t := by
  induction fs using List.reverseRecOn with
  | nil => exact ⟨by rwa [append_nil], by rintro e ⟨⟩⟩
  | append_singleton fs last ih =>
    rw [← append_assoc] at h ⊢
    obtain ⟨hkept, hlast⟩ := kept_concat.1 h
    obtain ⟨hgone, hnone⟩ := ih hkept
    obtain ⟨hgone', hnot⟩ := hgone.concat hlast
    refine ⟨hgone', fun e hin => ?_⟩
    rcases mem_append.1 hin with hin | hin
    · exact hnone e hin
    · rwa [mem_singleton.1 hin]

theorem Kept.gone_of_replaced (h : C.Kept (es ++ [e])) (hput : put ∈ es) (ht : C.Puts t put)
    (hkey : C.key put = C.key e) {left : Option τ} (hl : C.leaves e = some left)
    (hne : left ≠ some t) : C.Gone (es ++ [e]) t := by
  refine ⟨⟨put, by simp [hput], ht⟩, fun k hk => ?_⟩
  rw [holding_concat, keeps] at hk
  split at hk
  · rw [hl] at hk
    exact hne hk
  · next hother => exact hother (hkey ▸ h.of_append.holder hput ht hk)

/-- **At most once.** Where whatever is made against a token takes it away, one entry at most is made
against it. -/
theorem Kept.count_against [DecidableEq τ] (h : C.Kept es)
    (htakes : ∀ e ∈ es, ∀ t, C.against e = some t → C.leaves e = some none) (t : τ) :
    es.countP (fun e => C.against e = some t) ≤ 1 ∧
      (0 < es.countP (fun e => C.against e = some t) → C.Gone es t) := by
  induction es using List.reverseRecOn with
  | nil => exact ⟨Nat.zero_le _, fun hpos => absurd hpos (Nat.lt_irrefl 0)⟩
  | append_singleton es last ih =>
    obtain ⟨hkept, hlast⟩ := kept_concat.1 h
    obtain ⟨hle, hgone⟩ := ih hkept fun e he => htakes e (by simp [he])
    rw [countP_append, countP_singleton]
    by_cases hl : C.against last = some t
    · -- The token was still kept, so nothing was made against it before.
      have hheld := hlast.held t hl
      have hnone : es.countP (fun e => C.against e = some t) = 0 := by
        by_contra hpos
        exact (hgone (Nat.pos_of_ne_zero hpos)).nowhere _ hheld
      obtain ⟨put, hput, ht⟩ := put_of_holding hheld
      rw [hnone, if_pos (decide_eq_true hl)]
      refine ⟨Nat.le_refl 1, fun _ => ?_⟩
      exact h.gone_of_replaced hput ht (hkept.holder hput ht hheld) (htakes last (by simp) t hl) (by rintro ⟨⟩)
    · rw [if_neg (by simpa using hl), Nat.add_zero]
      exact ⟨hle, fun hpos => ((hgone hpos).concat hlast).1⟩

end Custody
