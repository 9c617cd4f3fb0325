import Coinslot.Lib.Reactor

/-!
# Reactors that only climb

The states of a reactor carry a label, and the labels a rank. Where every accepted event keeps the
label or takes it to one of a higher rank, a run climbs (`Reactor.climbs_run`): it does not come back to
a label it left, and it changes the label no more often than there are ranks above the one it starts
from (`Reactor.changes_le`).
-/

namespace Reactor

universe u v w x y

variable {σ : Type u} {ε : Type v} {φ : Type w} {ρ : Type x} {κ : Type y} (R : Reactor σ ε φ ρ)
  (label : σ → κ) (rank : κ → Nat)

/-- The second state has the label of the first, or one of a higher rank. -/
def Climbs (s s' : σ) : Prop := label s' = label s ∨ rank (label s) < rank (label s')

/-- How often a run changes the label. -/
def changes [DecidableEq κ] : σ → List ε → Nat
  | _, [] => 0
  | s, e :: es => (if label (R.next s e) = label s then 0 else 1) + changes (R.next s e) es

variable {label rank} {s s' s'' : σ}

theorem Climbs.trans (h : Climbs label rank s s') (h' : Climbs label rank s' s'') : Climbs label rank s s'' := by
  rcases h with h | h
  · rwa [Climbs, ← h]
  · rcases h' with h' | h'
    · exact .inr (by rwa [h'])
    · exact .inr (Nat.lt_trans h h')

/-- A label that was left does not come back. -/
theorem Climbs.left (h : Climbs label rank s s') (h' : Climbs label rank s' s'') (hne : label s' ≠ label s) :
    label s'' ≠ label s := by
  intro hback
  rcases h with h | h
  · exact hne h
  · rcases h' with h' | h'
    · exact hne (h'.symm.trans hback)
    · have hlt := Nat.lt_trans h h'
      rw [hback] at hlt
      exact Nat.lt_irrefl _ hlt

variable {P : σ → Prop} (hkeeps : ∀ {s e s' out}, P s → R.react s e = .ok (s', out) → P s')
  (hclimbs : ∀ {s e s' out}, P s → R.react s e = .ok (s', out) → Climbs label rank s s')
include hkeeps hclimbs

/-- **A run climbs.** -/
theorem climbs_run (h : P s) (es : List ε) : Climbs label rank s (R.run s es) :=
  (R.run_induction (P := fun s' => P s' ∧ Climbs label rank s s')
    (fun hs hr => ⟨hkeeps hs.1 hr, hs.2.trans (hclimbs hs.1 hr)⟩) ⟨h, .inl rfl⟩ es).2

/-- **A run changes the label no more often than it has ranks to climb.** -/
theorem changes_le [DecidableEq κ] (h : P s) (es : List ε) :
    rank (label s) + R.changes label s es ≤ rank (label (R.run s es)) := by
  induction es generalizing s with
  | nil => exact Nat.le_refl _
  | cons e es ih =>
    simp only [changes, run_cons]
    cases hr : R.react s e with
    | error r =>
      rw [R.next_of_error hr, if_pos rfl, Nat.zero_add]
      exact ih h
    | ok came =>
      obtain ⟨s', out⟩ := came
      rw [R.next_of_ok hr]
      have hrest := ih (hkeeps h hr)
      rcases hclimbs h hr with hsame | hup
      · rw [if_pos hsame, Nat.zero_add]
        rwa [hsame] at hrest
      · split <;> omega

end Reactor
