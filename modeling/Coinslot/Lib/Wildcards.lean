import Mathlib.Data.List.Infix

/-!
# Patterns with a wild sign

A pattern is a text in which one sign is wild: it stands for any signs, none included, and every other sign stands
for itself. A text fits a pattern (`Fits`), or begins with a text that does (`Opens`). Both are read from the left,
sign by sign.
-/

namespace Wildcards

open List

variable {α : Type} {wild c : α} {pattern text : List α}

/-- A text fits a pattern. -/
inductive Fits (wild : α) : List α → List α → Prop
  | nil : Fits wild [] []
  | any (skipped : List α) {pattern text : List α} : Fits wild pattern text →
      Fits wild (wild :: pattern) (skipped ++ text)
  | self {c : α} {pattern text : List α} : c ≠ wild → Fits wild pattern text →
      Fits wild (c :: pattern) (c :: text)

def Opens (wild : α) (pattern text : List α) : Prop := ∃ start, start <+: text ∧ Fits wild pattern start

@[simp] theorem opens_nil : Opens wild [] text := ⟨[], nil_prefix, .nil⟩

theorem opens_wild_iff :
    Opens wild (wild :: pattern) text ↔ ∃ skipped rest, text = skipped ++ rest ∧ Opens wild pattern rest := by
  constructor
  · rintro ⟨start, ⟨after, rfl⟩, hfits⟩
    cases hfits with
    | any skipped hfits => exact ⟨skipped, _, append_assoc .., _, prefix_append .., hfits⟩
    | self hself => exact absurd rfl hself
  · rintro ⟨skipped, rest, rfl, start, ⟨after, rfl⟩, hfits⟩
    exact ⟨skipped ++ start, ⟨after, append_assoc ..⟩, hfits.any skipped⟩

theorem not_opens_nil (hc : c ≠ wild) : ¬ Opens wild (c :: pattern) [] := by
  rintro ⟨start, hstart, hfits⟩
  obtain rfl := prefix_nil.1 hstart
  generalize htext : ([] : List α) = text at hfits
  cases hfits with
  | any skipped hfits => exact hc rfl
  | self hself hfits => cases htext

theorem opens_self_iff (hc : c ≠ wild) {d : α} :
    Opens wild (c :: pattern) (d :: text) ↔ c = d ∧ Opens wild pattern text := by
  constructor
  · rintro ⟨start, ⟨after, hstart⟩, hfits⟩
    generalize hpattern : c :: pattern = whole at hfits
    cases hfits with
    | nil => cases hpattern
    | any skipped hfits => exact absurd (List.cons.inj hpattern).1 hc
    | self hself hfits =>
      obtain ⟨rfl, rfl⟩ := List.cons.inj hpattern
      obtain ⟨rfl, rfl⟩ := List.cons.inj hstart
      exact ⟨rfl, _, prefix_append .., hfits⟩
  · rintro ⟨rfl, start, ⟨after, rfl⟩, hfits⟩
    exact ⟨c :: start, ⟨after, rfl⟩, hfits.self hc⟩

end Wildcards
