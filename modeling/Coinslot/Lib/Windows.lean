import Mathlib.Algebra.Order.Group.Defs
import Mathlib.Data.List.Count

/-!
# Counts in windows

Instants that come in any order, and how many of them a window of a length may hold, wherever it begins
(`Rolling`), or a class of them (`Bucketed`). One more instant keeps the bound where fewer than so many are
within the length before it, or come after it: what matters is what was there when it came, and not whether
the instants come in order (`Rolling.append`).
-/

namespace Windows

open List

variable {α β : Type*}

section
variable [AddCommGroup α] [LinearOrder α] [IsOrderedAddMonoid α]

/-- No window of a length holds more than so many instants. -/
def Rolling (length : α) (limit : Nat) (ts : List α) : Prop :=
  ∀ w, ts.countP (fun t => w ≤ t ∧ t < w + length) ≤ limit

omit [IsOrderedAddMonoid α] in
theorem Rolling.nil (length : α) (limit : Nat) : Rolling length limit [] := fun _ => Nat.zero_le limit

theorem Rolling.append {length : α} {limit : Nat} {ts : List α} (h : Rolling length limit ts) {t : α}
    (hroom : ts.countP (fun u => t - length < u) < limit) : Rolling length limit (ts ++ [t]) := by
  intro w
  rw [countP_append, countP_singleton]
  split
  · next hin =>
    obtain ⟨-, hin⟩ := of_decide_eq_true hin
    have hsub : ts.countP (fun u => w ≤ u ∧ u < w + length) ≤ ts.countP (fun u => t - length < u) := by
      refine countP_mono_left fun u _ hu => ?_
      obtain ⟨hw, -⟩ := of_decide_eq_true hu
      exact decide_eq_true (lt_of_lt_of_le (sub_lt_iff_lt_add.2 hin) hw)
    omega
  · exact h w

end

section
variable [DecidableEq β]

/-- No class of instants holds more than so many. -/
def Bucketed (f : α → β) (limit : Nat) (ts : List α) : Prop := ∀ b, ts.countP (fun t => f t = b) ≤ limit

theorem Bucketed.nil (f : α → β) (limit : Nat) : Bucketed f limit [] := fun _ => Nat.zero_le limit

theorem Bucketed.append {f : α → β} {limit : Nat} {ts : List α} (h : Bucketed f limit ts) {t : α}
    (hroom : ts.countP (fun u => f u = f t) < limit) : Bucketed f limit (ts ++ [t]) := by
  intro b
  rw [countP_append, countP_singleton]
  split
  · next hin =>
    have hb : f t = b := of_decide_eq_true hin
    subst hb
    omega
  · exact h b

end

end Windows
