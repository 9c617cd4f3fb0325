import Mathlib.Algebra.Order.BigOperators.Group.List
import Mathlib.Tactic.Abel
import Coinslot.Lib.Dict

/-!
# Sums over a dictionary

A quantity of the values of a dictionary, summed up in a group: what a value that is set adds is what it
comes to, less what the value before it came to (`amount_set`). Where the group is ordered and nothing comes
to less than nothing, one value comes to no more than all of them (`le_amount`).
-/

namespace Dict

open List Option

variable {κ α M : Type*} [DecidableEq κ]

section
variable [AddCommGroup M]

section

variable (f : α → M)

/-- A quantity of the values, summed up in a group. -/
def amount (d : Dict κ α) : M := (d.values.map f).sum

theorem amount_put (k : κ) (a : α) (l : List (κ × α)) :
    (((put k a l).map Prod.snd).map f).sum + (find k l).elim 0 f = ((l.map Prod.snd).map f).sum + f a := by
  induction l with
  | nil => simp [put, find]
  | cons e rest ih =>
    obtain ⟨j, b⟩ := e
    by_cases hj : j = k
    · simp only [put, find, if_pos hj, map_cons, sum_cons, elim_some]
      abel
    · simp only [put, find, if_neg hj, map_cons, sum_cons]
      rw [add_assoc, ih, add_assoc]

theorem amount_set (d : Dict κ α) (k : κ) (a : α) : (d.set k a).amount f = d.amount f + f a - (d.get k).elim 0 f :=
  eq_sub_of_add_eq (amount_put f k a d.entries)

variable {d : Dict κ α} {k : κ} {a : α}

theorem amount_set_of_get {b : α} (h : d.get k = some b) :
    (d.set k a).amount f = d.amount f + (f a - f b) := by
  rw [amount_set, h, elim_some, add_sub_assoc]

theorem amount_set_of_none (h : d.get k = none) :
    (d.set k a).amount f = d.amount f + f a := by
  rw [amount_set, h, elim_none, sub_zero]

end

end

section
variable [AddCommGroup M] [PartialOrder M] [IsOrderedAddMonoid M] {f : α → M} {d : Dict κ α}

theorem le_amount (h : ∀ k a, d.get k = some a → 0 ≤ f a) {k : κ} {a : α} (hk : d.get k = some a) :
    f a ≤ d.amount f := by
  have hmem : a ∈ d.values := by
    have (l : List (κ × α)) (hl : find k l = some a) : a ∈ l.map Prod.snd := by
      induction l with
      | nil => cases hl
      | cons e rest ih =>
        obtain ⟨j, b⟩ := e
        rw [find] at hl
        split at hl
        · cases hl; exact mem_cons_self
        · exact mem_cons_of_mem _ (ih hl)
    exact this d.entries hk
  refine single_le_sum (l := d.values.map f) ?_ (f a) (List.mem_map_of_mem hmem)
  intro x hx
  obtain ⟨b, hb, rfl⟩ := List.mem_map.1 hx
  obtain ⟨j, hj⟩ := exists_get_of_mem hb
  exact h j b hj

end

end Dict
