import Mathlib.Algebra.Ring.Nat
import Mathlib.Data.List.Nodup

/-!
# Dictionaries in insertion order

A map from keys to values that lists its entries in the order their keys came in, each key once: a
key that is set again keeps its place, and a key that is deleted and set again comes last. The
operations are specified by what `get` reads after them (`get_set`, `get_delete`).
-/

/-- A dictionary: its entries in the order their keys came in, and no key twice. -/
structure Dict (κ α : Type*) where
  entries : List (κ × α)
  distinct : (entries.map Prod.fst).Nodup

namespace Dict

open List

variable {κ α : Type*}

def empty : Dict κ α := ⟨[], List.nodup_nil⟩

def values (d : Dict κ α) : List α := d.entries.map Prod.snd

variable [DecidableEq κ]

/-- The value an entry list has under a key. -/
def find (k : κ) : List (κ × α) → Option α
  | [] => none
  | (j, b) :: rest => if j = k then some b else find k rest

/-- The entries with a value put under a key, in the key's own place where it has one. -/
def put (k : κ) (a : α) : List (κ × α) → List (κ × α)
  | [] => [(k, a)]
  | (j, b) :: rest => if j = k then (k, a) :: rest else (j, b) :: put k a rest

theorem put_keys (k : κ) (a : α) (l : List (κ × α)) : (put k a l).map Prod.fst =
      if k ∈ l.map Prod.fst then l.map Prod.fst else l.map Prod.fst ++ [k] := by
  induction l with
  | nil => rfl
  | cons e rest ih =>
    obtain ⟨j, b⟩ := e
    by_cases hj : j = k
    · simp [put, hj]
    · have hk : k ≠ j := fun h => hj h.symm
      simp only [put, if_neg hj, map_cons, ih, mem_cons, hk, false_or]
      split <;> rfl

variable {l : List (κ × α)}

theorem put_distinct (k : κ) (a : α) (h : (l.map Prod.fst).Nodup) : ((put k a l).map Prod.fst).Nodup := by
  rw [put_keys]
  split
  · exact h
  · next hk => exact List.Nodup.append h (nodup_singleton k) (by simpa using hk)

section

variable (d : Dict κ α)

/-- The value under a key. -/
def get (k : κ) : Option α := find k d.entries

/-- Whether there is a value under a key. -/
def has (k : κ) : Bool := (d.get k).isSome

/-- The dictionary with a value put under a key. -/
def set (k : κ) (a : α) : Dict κ α := ⟨put k a d.entries, put_distinct k a d.distinct⟩

def delete (k : κ) : Dict κ α :=
  ⟨d.entries.filter fun e => e.1 ≠ k, d.distinct.sublist (List.filter_sublist.map _)⟩

/-- The dictionary without the entries whose value meets a test. -/
def dropping (p : α → Bool) : Dict κ α :=
  ⟨d.entries.filter fun e => !p e.2, d.distinct.sublist (List.filter_sublist.map _)⟩

def mapValues (f : α → α) : Dict κ α :=
  ⟨d.entries.map fun e => (e.1, f e.2), by simpa [Function.comp_def] using d.distinct⟩

end

/-! ## What is read after an operation -/

theorem find_put (k j : κ) (a : α) (l : List (κ × α)) : find j (put k a l) = if j = k then some a else find j l := by
  induction l with
  | nil =>
    by_cases hj : j = k
    · simp [put, find, hj]
    · simp [put, find, hj, Ne.symm hj]
  | cons e rest ih =>
    obtain ⟨i, b⟩ := e
    by_cases hi : i = k
    · by_cases hj : j = k
      · simp [put, find, hi, hj]
      · simp [put, find, hi, hj, Ne.symm hj]
    · by_cases hj : i = j
      · subst hj
        simp [put, find, hi]
      · simp [put, find, hi, hj, ih]

theorem find_filter (k j : κ) (l : List (κ × α)) :
    find j (l.filter fun e => e.1 ≠ k) = if j = k then none else find j l := by
  induction l with
  | nil => simp [find]
  | cons e rest ih =>
    obtain ⟨i, b⟩ := e
    by_cases hi : i = k
    · rw [filter_cons_of_neg (by simpa using hi), ih]
      by_cases hj : j = k
      · simp [hj]
      · simp [find, hi, hj, Ne.symm hj]
    · rw [filter_cons_of_pos (by simpa using hi)]
      by_cases hj : i = j
      · subst hj
        simp [find, hi]
      · simp only [find, if_neg hj, ih]

theorem get_set (d : Dict κ α) (k j : κ) (a : α) : (d.set k a).get j = if j = k then some a else d.get j :=
  find_put k j a d.entries

@[simp] theorem get_set_self (d : Dict κ α) (k : κ) (a : α) : (d.set k a).get k = some a := by
  rw [get_set, if_pos rfl]

variable {k : κ}

theorem get_set_ne (d : Dict κ α) {j : κ} (a : α) (h : j ≠ k) : (d.set k a).get j = d.get j := by
  rw [get_set, if_neg h]

theorem get_delete (d : Dict κ α) (k j : κ) : (d.delete k).get j = if j = k then none else d.get j :=
  find_filter k j d.entries

variable {a b : α}

/-- What is read after a write was written, or was under another key. -/
theorem of_get_set {d : Dict κ α} {j : κ} (h : (d.set k a).get j = some b) :
    j = k ∧ a = b ∨ j ≠ k ∧ d.get j = some b := by
  rw [get_set] at h
  split at h
  · next hk => exact .inl ⟨hk, Option.some.inj h⟩
  · next hk => exact .inr ⟨hk, h⟩

theorem of_get_delete {d : Dict κ α} {j : κ} (h : (d.delete k).get j = some b) : j ≠ k ∧ d.get j = some b := by
  rw [get_delete] at h
  split at h
  · cases h
  · next hk => exact ⟨hk, h⟩

theorem mem_keys_of_find (h : find k l = some a) : k ∈ l.map Prod.fst := by
  induction l with
  | nil => cases h
  | cons e rest ih =>
    obtain ⟨j, b⟩ := e
    by_cases hj : j = k
    · rw [← hj]
      exact mem_cons_self ..
    · rw [find, if_neg hj] at h
      exact mem_cons_of_mem _ (ih h)

theorem find_dropping (p : α → Bool) (k : κ) (h : (l.map Prod.fst).Nodup) :
    find k (l.filter fun e => !p e.2) = (find k l).filter fun a => !p a := by
  induction l with
  | nil => rfl
  | cons e rest ih =>
    obtain ⟨j, b⟩ := e
    obtain ⟨hj, hrest⟩ := nodup_cons.1 h
    have ih := ih hrest
    by_cases hk : j = k
    · subst hk
      cases hp : p b with
      | false => simp [find, hp, Option.filter]
      | true =>
        have hnone : find j rest = none := by
          cases hfind : find j rest with
          | none => rfl
          | some a => exact absurd (mem_keys_of_find hfind) hj
        simp [find, hp, ih, hnone, Option.filter]
    · cases hp : p b <;> simp [find, hp, hk, ih]

theorem get_dropping (d : Dict κ α) (p : α → Bool) (k : κ) : (d.dropping p).get k = (d.get k).filter fun a => !p a :=
  find_dropping p k d.distinct

/-- What some keys lead to, where they lead to something, each under its key. -/
def gather (f : κ → Option α) (keys : List κ) : Dict κ α := keys.foldl (fun d k => (f k).elim d (d.set k)) .empty

theorem get_gather (f : κ → Option α) (keys : List κ) (j : κ) :
    (gather f keys).get j = if j ∈ keys then f j else none := by
  have hfrom : ∀ d : Dict κ α, (keys.foldl (fun d k => (f k).elim d (d.set k)) d).get j =
      if j ∈ keys then (f j).or (d.get j) else d.get j := by
    induction keys with
    | nil => exact fun d => rfl
    | cons k keys ih =>
      intro d
      have hone : ((f k).elim d (d.set k)).get j = if j = k then (f j).or (d.get j) else d.get j := by
        by_cases hj : j = k
        · subst hj
          cases f j <;> simp [get_set]
        · cases f k <;> simp [get_set, hj]
      rw [foldl_cons, ih, hone]
      by_cases hj : j = k
      · cases f j <;> simp [hj]
      · simp [hj]
  rw [gather, hfrom]
  split
  · exact Option.or_none
  · rfl

theorem get_mapValues (d : Dict κ α) (f : α → α) (k : κ) : (d.mapValues f).get k = (d.get k).map f := by
  have (l : List (κ × α)) : find k (l.map fun e => (e.1, f e.2)) = (find k l).map f := by
    induction l with
    | nil => rfl
    | cons e rest ih =>
      simp only [map_cons, find]
      split
      · rfl
      · exact ih
  exact this d.entries

variable {d : Dict κ α}

theorem exists_get_of_mem (h : a ∈ d.values) : ∃ k, d.get k = some a := by
  obtain ⟨entries, distinct⟩ := d
  show ∃ k, find k entries = some a
  induction entries with
  | nil => cases h
  | cons e rest ih =>
    obtain ⟨j, b⟩ := e
    obtain ⟨hnot, hrest⟩ := nodup_cons.1 distinct
    cases h with
    | head => exact ⟨j, by rw [find, if_pos rfl]⟩
    | tail _ hin =>
      obtain ⟨k, hk⟩ := ih hrest hin
      refine ⟨k, ?_⟩
      have hne : j ≠ k := by
        rintro rfl
        exact hnot (mem_keys_of_find hk)
      rw [find, if_neg hne, hk]

/-! ## The entries after an operation -/

omit [DecidableEq κ] in
theorem eq_of_entries {d' : Dict κ α} (h : d.entries = d'.entries) : d = d' := by
  obtain ⟨entries, distinct⟩ := d
  cases h
  rfl

theorem entries_under (d : Dict κ α) (k : κ) :
    (d.entries.filter fun e => e.1 = k) = (d.get k).toList.map (k, ·) := by
  obtain ⟨entries, distinct⟩ := d
  show entries.filter (fun e => e.1 = k) = (find k entries).toList.map (k, ·)
  induction entries with
  | nil => rfl
  | cons e rest ih =>
    obtain ⟨j, b⟩ := e
    obtain ⟨hnot, hrest⟩ := nodup_cons.1 distinct
    by_cases hj : j = k
    · subst hj
      have hnone : rest.filter (fun e => e.1 = j) = [] := by
        rw [filter_eq_nil_iff]
        intro e he hkey
        have hmem : e.1 ∈ rest.map Prod.fst := mem_map_of_mem he
        rw [of_decide_eq_true hkey] at hmem
        exact hnot hmem
      rw [filter_cons_of_pos (by simp), hnone, find, if_pos rfl]
      rfl
    · rw [filter_cons_of_neg (by simpa using hj), find, if_neg hj]
      exact ih hrest

theorem get_eq_some_iff : d.get k = some a ↔ (k, a) ∈ d.entries := by
  have hunder := d.entries_under k
  constructor
  · intro h
    have hmem : (k, a) ∈ d.entries.filter fun e => e.1 = k := by
      rw [hunder, h]
      exact mem_singleton.2 rfl
    exact (mem_filter.1 hmem).1
  · intro h
    have hmem : (k, a) ∈ d.entries.filter fun e => e.1 = k := mem_filter.2 ⟨h, by simp⟩
    rw [hunder] at hmem
    simpa using hmem

theorem put_of_find {b : α} (hl : (l.map Prod.fst).Nodup)
    (h : find k l = some a) : put k b l = l.map fun e => if e.1 = k then (k, b) else e := by
  induction l with
  | nil => cases h
  | cons e rest ih =>
    obtain ⟨j, c⟩ := e
    obtain ⟨hnot, hrest⟩ := nodup_cons.1 hl
    by_cases hj : j = k
    · subst hj
      have hsame : rest.map (fun e => if e.1 = j then (j, b) else e) = rest := by
        refine (map_congr_left fun e he => ?_).trans (map_id rest)
        have hmem : e.1 ∈ rest.map Prod.fst := mem_map_of_mem he
        refine if_neg ?_
        rintro rfl
        exact hnot hmem
      rw [put, if_pos rfl, map_cons, if_pos rfl, hsame]
    · rw [find, if_neg hj] at h
      rw [put, if_neg hj, map_cons, if_neg hj, ih hrest h]

theorem put_of_not_find {b : α} (h : find k l = none) : put k b l = l ++ [(k, b)] := by
  induction l with
  | nil => rfl
  | cons e rest ih =>
    obtain ⟨j, c⟩ := e
    by_cases hj : j = k
    · simp [find, hj] at h
    · rw [find, if_neg hj] at h
      rw [put, if_neg hj, ih h]
      rfl

theorem entries_set_of_some (h : d.get k = some a) (b : α) :
    (d.set k b).entries = d.entries.map fun e => if e.1 = k then (k, b) else e :=
  put_of_find d.distinct h

theorem entries_set_of_none (h : d.get k = none) (b : α) : (d.set k b).entries = d.entries ++ [(k, b)] :=
  put_of_not_find h

theorem set_same (h : d.get k = some a) : d.set k a = d := by
  refine eq_of_entries ?_
  rw [entries_set_of_some h]
  refine (map_congr_left fun e he => ?_).trans (map_id _)
  split
  · next hkey =>
    have hfound := get_eq_some_iff.2 he
    rw [hkey, h] at hfound
    rw [Option.some.inj hfound, ← hkey]
    rfl
  · rfl

theorem delete_set (h : d.get k = none) (b : α) : (d.set k b).delete k = d := by
  refine eq_of_entries ?_
  show (d.set k b).entries.filter (fun e => e.1 ≠ k) = d.entries
  rw [entries_set_of_none h, filter_append, filter_cons_of_neg (by simp), filter_nil, append_nil, filter_eq_self]
  intro e he
  have hne : e.1 ≠ k := by
    rintro rfl
    have := get_eq_some_iff.2 he
    rw [h] at this
    cases this
  simpa using hne

/-! ## Totals -/

section

variable (f : α → Nat)

/-- A quantity of the values, summed up. -/
def total (d : Dict κ α) : Nat := (d.values.map f).sum

/-- What a quantity comes to for the value under a key, where there is one. -/
def share (d : Dict κ α) (k : κ) : Nat := (d.get k).elim 0 f

theorem sum_put (k : κ) (a : α) (l : List (κ × α)) : (((put k a l).map Prod.snd).map f).sum + (find k l).elim 0 f =
      ((l.map Prod.snd).map f).sum + f a := by
  induction l with
  | nil => simp [put, find]
  | cons e rest ih =>
    obtain ⟨j, b⟩ := e
    by_cases hj : j = k
    · simp only [put, find, if_pos hj, map_cons, sum_cons, Option.elim_some]
      omega
    · simp only [put, find, if_neg hj, map_cons, sum_cons]
      omega

theorem sum_filter (k : κ) (h : (l.map Prod.fst).Nodup) :
    (((l.filter fun e => e.1 ≠ k).map Prod.snd).map f).sum + (find k l).elim 0 f = ((l.map Prod.snd).map f).sum := by
  induction l with
  | nil => rfl
  | cons e rest ih =>
    obtain ⟨j, b⟩ := e
    obtain ⟨hnot, hrest⟩ := nodup_cons.1 h
    by_cases hj : j = k
    · -- The key comes once: nothing else is left out.
      have hall : rest.filter (fun e => e.1 ≠ k) = rest := by
        rw [filter_eq_self]
        intro e he
        have hmem : e.1 ∈ rest.map Prod.fst := mem_map_of_mem he
        have hne : e.1 ≠ k := fun hk => hnot (by rwa [hk, ← hj] at hmem)
        simpa using hne
      rw [filter_cons_of_neg (by simpa using hj), hall]
      simp only [find, if_pos hj, map_cons, sum_cons, Option.elim_some]
      omega
    · have := ih hrest
      rw [filter_cons_of_pos (by simpa using hj)]
      simp only [find, if_neg hj, map_cons, sum_cons]
      omega

theorem total_set (d : Dict κ α) (k : κ) (a : α) : (d.set k a).total f + d.share f k = d.total f + f a :=
  sum_put f k a d.entries

theorem total_delete (d : Dict κ α) (k : κ) : (d.delete k).total f + d.share f k = d.total f :=
  sum_filter f k d.distinct

end

theorem total_mono {f g : α → Nat} (d : Dict κ α) (h : ∀ k a, d.get k = some a → f a ≤ g a) :
    d.total f ≤ d.total g := by
  have hall (l : List α) (hl : ∀ a ∈ l, f a ≤ g a) : (l.map f).sum ≤ (l.map g).sum := by
    induction l with
    | nil => exact Nat.le_refl _
    | cons a rest ih =>
      have ha := hl a (mem_cons_self ..)
      have hrest := ih fun b hb => hl b (mem_cons_of_mem _ hb)
      simp only [map_cons, sum_cons]
      omega
  refine hall d.values fun a ha => ?_
  obtain ⟨k, hk⟩ := exists_get_of_mem ha
  exact h k a hk

end Dict
