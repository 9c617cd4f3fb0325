import Mathlib.Data.List.Infix

/-!
# Replacing every match of a text

What `replace` does with a pattern that is looked for everywhere: from left to right, a match is replaced and the
search goes on behind it, and what no match begins at stays as it is. The pattern is a function that reads a match
off the front of a list: what to put in its place, and what follows it.

A pattern shortens when what follows a match is shorter than what it was found in. The search is by a count of the
items that are left, and over such a pattern the count does not matter (`replaceFrom_eq`), so that a replaced list
can be told from its front on (`replaceAll_of_none`, `replaceAll_of_some`).
-/

namespace Rewriting

open List

variable {α : Type}

/-- A pattern: what a match at the front of a list is replaced by, and the rest of the list. -/
abbrev Pattern (α : Type) := List α → Option (List α × List α)

/-- The list with its matches replaced, as far as a number of steps goes. -/
def replaceFrom (find : Pattern α) : Nat → List α → List α
  | 0, items => items
  | _ + 1, [] => []
  | steps + 1, item :: items =>
    match find (item :: items) with
    | some (replacement, rest) => replacement ++ replaceFrom find steps rest
    | none => item :: replaceFrom find steps items

def replaceAll (find : Pattern α) (items : List α) : List α := replaceFrom find items.length items

/-- What follows a match is shorter than what the match was found in. -/
def Shortens (find : Pattern α) : Prop :=
  ∀ items replacement rest, find items = some (replacement, rest) → rest.length < items.length

variable {find : Pattern α}

theorem replaceFrom_eq (h : Shortens find) : ∀ (steps : Nat) (items : List α), items.length ≤ steps →
    replaceFrom find steps items = replaceAll find items := by
  intro steps
  induction steps using Nat.strong_induction_on with
  | _ steps ih =>
    intro items hle
    cases items with
    | nil => cases steps <;> rfl
    | cons item items =>
      rw [length_cons] at hle
      obtain ⟨more, rfl⟩ := Nat.exists_eq_add_of_le' (Nat.lt_of_lt_of_le (Nat.succ_pos _) hle)
      rw [replaceAll, length_cons, replaceFrom, replaceFrom]
      cases hfind : find (item :: items) with
      | none => rw [ih more (by omega) items (by omega), replaceAll]
      | some found =>
        obtain ⟨replacement, rest⟩ := found
        have hshort := h _ _ _ hfind
        rw [length_cons] at hshort
        dsimp only
        rw [ih more (by omega) rest (by omega)]
        rcases Nat.eq_or_lt_of_le (show items.length ≤ more by omega) with heq | hlt
        · rw [heq, ih more (by omega) rest (by omega)]
        · rw [ih items.length (by omega) rest (by omega)]

variable {items : List α}

theorem replaceAll_of_none {item : α} (h : find (item :: items) = none) :
    replaceAll find (item :: items) = item :: replaceAll find items := by
  rw [replaceAll, length_cons, replaceFrom, h, replaceAll]

theorem replaceAll_of_some (hshort : Shortens find) {replacement rest : List α}
    (h : find items = some (replacement, rest)) : replaceAll find items = replacement ++ replaceAll find rest := by
  have hlt := hshort _ _ _ h
  cases items with
  | nil => exact absurd hlt (Nat.not_lt_zero _)
  | cons item items =>
    rw [length_cons] at hlt
    rw [replaceAll, length_cons, replaceFrom, h]
    exact congrArg (replacement ++ ·) (replaceFrom_eq hshort items.length rest (by omega))

theorem replaceAll_eq_self (h : ∀ rest, rest <:+ items → find rest = none) :
    replaceAll find items = items := by
  induction items with
  | nil => rfl
  | cons item items ih =>
    rw [replaceAll_of_none (h _ (suffix_refl _)), ih fun rest hrest => h rest (hrest.trans (suffix_cons ..))]

/-- An induction over the matches of a list: whatever holds of the empty list, comes through an item that no match
begins at and through a match, holds of the list and what it is replaced by. -/
theorem replaceAll_induction (hshort : Shortens find) {motive : List α → List α → Prop} (nil : motive [] [])
    (kept : ∀ item items, find (item :: items) = none → motive items (replaceAll find items) →
      motive (item :: items) (item :: replaceAll find items))
    (replaced : ∀ items replacement rest, find items = some (replacement, rest) →
      motive rest (replaceAll find rest) → motive items (replacement ++ replaceAll find rest)) :
    ∀ items, motive items (replaceAll find items) := by
  intro items
  induction hlength : items.length using Nat.strong_induction_on generalizing items with
  | _ length ih =>
    subst hlength
    cases hitems : items with
    | nil => exact nil
    | cons item rest =>
      cases hfind : find (item :: rest) with
      | none =>
        rw [replaceAll_of_none hfind]
        exact kept item rest hfind (ih rest.length (by rw [hitems, length_cons]; exact Nat.lt_succ_self _) rest rfl)
      | some found =>
        obtain ⟨replacement, behind⟩ := found
        rw [replaceAll_of_some hshort hfind]
        exact replaced _ _ _ hfind (ih behind.length (by rw [hitems]; exact hshort _ _ _ hfind) behind rfl)

end Rewriting
