import Coinslot.Lib.Dict
import Mathlib.Data.List.Perm.Basic

/-!
# Tables

The rows of a table and the statements of a database on them. A row is inserted where no rule of the table
refuses it; rows are updated, or deleted, where a condition holds of them; and a reading lists the rows its
condition holds of in whatever order the database comes upon them.

Rows mirror a dictionary (`Mirrors`) when they hold its entries, each under the key its columns make. What a
statement does to the rows it names by that key, the dictionary's own operations do to the dictionary.
-/

namespace Rows

open List Dict

/-- The order a database comes upon the rows of a reading in. Nobody promised any. -/
structure Planner where
  scan : {ρ : Type} → List ρ → List ρ
  perm : ∀ {ρ : Type} (rows : List ρ), (scan rows).Perm rows

/-- What a database refuses a statement for: a rule that holds rows apart, a rule that what a row names is
there, or a value no column takes. -/
inductive Refusal where
  | unique (rule : String)
  | reference (rule : String)
  | parameter
  deriving DecidableEq, Repr

/-- A rule that holds the rows of a table apart. -/
structure UniqueRule (ρ : Type) where
  name : String
  clash : ρ → ρ → Bool

/-- A rule that what a row names is there. -/
structure ReferenceRule (ρ : Type) where
  name : String
  met : ρ → Bool

variable {ρ σ : Type}

/-- Inserts a row. Two rows that clash are found before a row that names what is not there. -/
def insert (uniques : List (UniqueRule ρ)) (references : List (ReferenceRule ρ)) (rows : List ρ) (row : ρ) :
    Except Refusal (List ρ) :=
  match uniques.find? fun rule => rows.any (rule.clash row) with
  | some rule => .error (.unique rule.name)
  | none =>
    match references.find? fun rule => !rule.met row with
    | some rule => .error (.reference rule.name)
    | none => .ok (rows ++ [row])

def update (rows : List ρ) (p : ρ → Bool) (set : ρ → ρ) : List ρ :=
  rows.map fun row => if p row then set row else row

def updated (rows : List ρ) (p : ρ → Bool) (set : ρ → ρ) : List ρ := (rows.filter p).map set

def delete (rows : List ρ) (p : ρ → Bool) : List ρ := rows.filter fun row => !p row

def select (planner : Planner) (rows : List ρ) (p : ρ → Bool) : List ρ := planner.scan (rows.filter p)

/-- Inserts a row, unless one is there that clashes with it under one rule (`on conflict do nothing`). -/
def insertUnless (target : UniqueRule ρ) (uniques : List (UniqueRule ρ)) (references : List (ReferenceRule ρ))
    (rows : List ρ) (row : ρ) : Except Refusal (List ρ × Option ρ) :=
  if rows.any (target.clash row) then .ok (rows, none)
  else (insert uniques references rows row).map fun rows => (rows, some row)

/-- Inserts a row, or sets the one that is there and clashes with it under one rule
(`on conflict do update`). -/
def insertOver (target : UniqueRule ρ) (uniques : List (UniqueRule ρ)) (references : List (ReferenceRule ρ))
    (rows : List ρ) (row : ρ) (set : ρ → ρ) : Except Refusal (List ρ × Option ρ) :=
  if rows.any (target.clash row) then
    .ok (update rows (target.clash row) set, (updated rows (target.clash row) set).head?)
  else (insert uniques references rows row).map fun rows => (rows, some row)

/-- The pairs of rows of two tables a condition holds of. -/
def join (rows : List ρ) (others : List σ) (on : ρ → σ → Bool) : List (ρ × σ) :=
  rows.flatMap fun row => (others.filter (on row)).map (row, ·)

theorem filter_and (p q : ρ → Bool) (rows : List ρ) :
    (rows.filter fun row => p row && q row) = (rows.filter p).filter q := by
  rw [filter_filter]
  exact filter_congr fun row _ => Bool.and_comm _ _

variable {rows : List ρ} {p : ρ → Bool} {row : ρ}

theorem mem_update_of_not (h : row ∈ rows) (hp : p row = false) (set : ρ → ρ) : row ∈ update rows p set :=
  mem_map.2 ⟨row, h, if_neg (by rw [hp]; exact Bool.false_ne_true)⟩

theorem mem_update_of_set (h : row ∈ rows) (hp : p row = true) (set : ρ → ρ) : set row ∈ update rows p set :=
  mem_map.2 ⟨row, h, if_pos hp⟩

theorem map_update {α : Type*} {set : ρ → ρ} {f : ρ → α}
    (h : ∀ row, f (set row) = f row) : (update rows p set).map f = rows.map f := by
  rw [update, map_map]
  refine map_congr_left fun row _ => ?_
  simp only [Function.comp_apply]
  split
  · exact h row
  · rfl

theorem update_of_filter_nil (h : rows.filter p = []) (set : ρ → ρ) : update rows p set = rows := by
  rw [filter_eq_nil_iff] at h
  refine (map_congr_left fun row hrow => ?_).trans (map_id rows)
  exact if_neg (h row hrow)

theorem delete_of_filter_nil (h : rows.filter p = []) : delete rows p = rows := by
  rw [filter_eq_nil_iff] at h
  rw [delete, filter_eq_self]
  intro row hrow
  simpa using h row hrow

variable {uniques : List (UniqueRule ρ)} {references : List (ReferenceRule ρ)}

theorem insert_ok (hunique : ∀ rule ∈ uniques, rows.any (rule.clash row) = false)
    (hreference : ∀ rule ∈ references, rule.met row = true) :
    insert uniques references rows row = .ok (rows ++ [row]) := by
  have hu : (uniques.find? fun rule => rows.any (rule.clash row)) = none :=
    find?_eq_none.2 fun rule hrule => by simp [hunique rule hrule]
  have hr : (references.find? fun rule => !rule.met row) = none :=
    find?_eq_none.2 fun rule hrule => by simp [hreference rule hrule]
  rw [insert, hu, hr]

variable {rows' : List ρ}

theorem of_insert_ok (h : insert uniques references rows row = .ok rows') :
    rows' = rows ++ [row] ∧ ∀ rule ∈ uniques, rows.any (rule.clash row) = false := by
  unfold insert at h
  split at h
  · cases h
  · next hu =>
    split at h
    · cases h
    · cases h
      exact ⟨rfl, fun rule hrule => by simpa using find?_eq_none.1 hu rule hrule⟩

theorem of_insertUnless_ok {target : UniqueRule ρ} {inserted : Option ρ}
    (h : insertUnless target uniques references rows row = .ok (rows', inserted)) :
    rows' = rows ∨ rows' = rows ++ [row] ∧ ∀ rule ∈ uniques, rows.any (rule.clash row) = false := by
  unfold insertUnless at h
  split at h
  · cases h; exact .inl rfl
  · cases hinsert : insert uniques references rows row with
    | error refused => rw [hinsert] at h; cases h
    | ok after => rw [hinsert] at h; cases h; exact .inr (of_insert_ok hinsert)

theorem insert_error (uniques : List (UniqueRule ρ)) (references : List (ReferenceRule ρ))
    (h : (∃ rule ∈ uniques, rows.any (rule.clash row) = true) ∨ ∃ rule ∈ references, rule.met row = false) :
    ∃ refused, insert uniques references rows row = .error refused := by
  unfold insert
  split
  · exact ⟨_, rfl⟩
  · next hu =>
    split
    · exact ⟨_, rfl⟩
    · next hr =>
      rcases h with ⟨rule, hrule, hclash⟩ | ⟨rule, hrule, hmet⟩
      · exact absurd hclash (find?_eq_none.1 hu rule hrule)
      · exact absurd (by simpa using hmet) (find?_eq_none.1 hr rule hrule)

theorem insertOver_new (target : UniqueRule ρ) (uniques : List (UniqueRule ρ))
    (references : List (ReferenceRule ρ)) (row : ρ) (set : ρ → ρ) (hnone : rows.filter (target.clash row) = [])
    (hunique : ∀ rule ∈ uniques, rows.any (rule.clash row) = false)
    (hreference : ∀ rule ∈ references, rule.met row = true) :
    insertOver target uniques references rows row set = .ok (rows ++ [row], some row) := by
  have hany : ¬ rows.any (target.clash row) = true := by
    rw [any_eq_true]
    rintro ⟨held, hheld, hclash⟩
    exact filter_eq_nil_iff.1 hnone held hheld hclash
  rw [insertOver, if_neg hany, insert_ok hunique hreference]
  rfl

theorem insertOver_held (target : UniqueRule ρ) (uniques : List (UniqueRule ρ))
    (references : List (ReferenceRule ρ)) (row : ρ) (set : ρ → ρ) {held : ρ}
    (hheld : rows.filter (target.clash row) = [held]) : insertOver target uniques references rows row set =
      .ok (update rows (target.clash row) set, some (set held)) := by
  have hany : rows.any (target.clash row) = true := by
    rw [any_eq_true]
    have hmem : held ∈ rows.filter (target.clash row) := hheld ▸ mem_singleton.2 rfl
    exact ⟨held, mem_filter.1 hmem⟩
  rw [insertOver, if_pos hany, updated, hheld]
  rfl

theorem scan_toList (planner : Planner) (row : Option ρ) : planner.scan row.toList = row.toList := by
  cases row with
  | none => exact perm_nil.1 (planner.perm [])
  | some row => exact perm_singleton.1 (planner.perm [row])

theorem select_head {o : Option ρ} (h : rows.filter p = o.toList)
    (planner : Planner) : (select planner rows p).head? = o := by
  rw [select, h, scan_toList]
  cases o <;> rfl

/-! ## Rows and dictionaries -/

variable {κ α : Type}

/-- The rows of a table hold the entries of a dictionary: what a row reads as, under the key its columns
make. -/
def Mirrors (rows : List ρ) (index : ρ → κ) (view : ρ → α) (d : Dict κ α) : Prop :=
  (rows.map fun row => (index row, view row)).Perm d.entries

namespace Mirrors

variable {rows : List ρ} {index : ρ → κ} {view : ρ → α} {d : Dict κ α}

theorem nil : Mirrors ([] : List ρ) index view .empty := List.Perm.refl []

theorem distinct (h : Mirrors rows index view d) : (rows.map index).Nodup := by
  have hkeys : (rows.map index).Perm (d.entries.map Prod.fst) := by
    have := h.map Prod.fst
    rwa [map_map] at this
  exact hkeys.nodup_iff.2 d.distinct

variable {row : ρ}

theorem row_eq (h : Mirrors rows index view d) {other : ρ} (hrow : row ∈ rows) (hother : other ∈ rows)
    (hkey : index row = index other) : row = other :=
  inj_on_of_nodup_map h.distinct hrow hother hkey

theorem values (h : Mirrors rows index view d) : (rows.map view).Perm d.values := by
  have := h.map Prod.snd
  rwa [map_map] at this

variable {p : ρ → Bool} {q : α → Bool}

section

variable (h : Mirrors rows index view d)
include h

theorem values_filter (hp : ∀ row ∈ rows, p row = q (view row)) :
    ((rows.filter p).map view).Perm (d.values.filter q) := by
  have hrows : (rows.filter p).map view = (rows.map view).filter q := by
    rw [filter_map]
    exact congrArg _ (filter_congr hp)
  rw [hrows]
  exact h.values.filter q

theorem list (planner : Planner) (le : ρ → ρ → Bool) (hp : ∀ row ∈ rows, p row = q (view row)) :
    (((select planner rows p).mergeSort le).map view).Perm (d.values.filter q) :=
  (((mergeSort_perm _ le).trans (planner.perm _)).map view).trans (h.values_filter hp)

theorem update_of_same {set : ρ → ρ}
    (hindex : ∀ row, index (set row) = index row) (hview : ∀ row, view (set row) = view row) :
    Mirrors (Rows.update rows p set) index view d := by
  rw [Mirrors, Rows.update, map_map]
  refine List.Perm.trans (List.Perm.of_eq (map_congr_left fun row _ => ?_)) h
  simp only [Function.comp_apply]
  split
  · rw [hindex, hview]
  · rfl

theorem dropping (hp : ∀ row ∈ rows, p row = q (view row)) :
    Mirrors (Rows.delete rows p) index view (d.dropping q) := by
  refine List.Perm.trans (List.Perm.of_eq ?_) (h.filter fun e => !q e.2)
  rw [Rows.delete, filter_map]
  refine congrArg _ (filter_congr fun row hrow => ?_)
  simp [hp row hrow]

end

/-! ## What is under a key -/

variable [DecidableEq κ]

variable {k : κ}

section

variable (h : Mirrors rows index view d)
include h

theorem get_iff {a : α} : d.get k = some a ↔ ∃ row ∈ rows, index row = k ∧ view row = a := by
  rw [get_eq_some_iff, ← h.mem_iff, mem_map]
  simp only [Prod.mk.injEq]

theorem get_of_mem (hrow : row ∈ rows) : d.get (index row) = some (view row) := h.get_iff.2 ⟨row, hrow, rfl, rfl⟩

/-- **The rows under a key.** A key finds nothing and no row makes it, or one row makes it and the key
finds what that row reads as. -/
theorem under (k : κ) : (d.get k = none ∧ (rows.filter fun row => index row = k) = []) ∨
      ∃ row ∈ rows, index row = k ∧ d.get k = some (view row) ∧ (rows.filter fun row => index row = k) = [row] := by
  cases hget : d.get k with
  | none =>
    refine .inl ⟨rfl, ?_⟩
    rw [filter_eq_nil_iff]
    intro row hrow hkey
    rw [← of_decide_eq_true hkey, h.get_of_mem hrow] at hget
    cases hget
  | some a =>
    obtain ⟨row, hrow, hkey, rfl⟩ := h.get_iff.1 hget
    refine .inr ⟨row, hrow, hkey, rfl, ?_⟩
    have hnodup : (rows.filter fun row => index row = k).Nodup := (List.Nodup.of_map _ h.distinct).filter _
    have hall : ∀ other ∈ rows.filter (fun row => index row = k), other = row := by
      intro other hother
      obtain ⟨hmem, hother⟩ := mem_filter.1 hother
      exact h.row_eq hmem hrow ((of_decide_eq_true hother).trans hkey.symm)
    have hin : row ∈ rows.filter fun row => index row = k := mem_filter.2 ⟨hrow, decide_eq_true hkey⟩
    exact perm_singleton.1 ((perm_ext_iff_of_nodup hnodup (nodup_singleton row)).2
      fun other => ⟨fun hother => mem_singleton.2 (hall other hother), fun hother => mem_singleton.1 hother ▸ hin⟩)

theorem any (k : κ) : (rows.any fun row => index row = k) = d.has k := by
  rcases h.under k with ⟨hget, hrows⟩ | ⟨row, hrow, hkey, hget, -⟩
  · have hnone : ∀ row ∈ rows, ¬ (decide (index row = k)) = true := filter_eq_nil_iff.1 hrows
    rw [Dict.has, hget, any_eq_false.2 hnone]
    rfl
  · rw [Dict.has, hget, any_eq_true.2 ⟨row, hrow, decide_eq_true hkey⟩]
    rfl

theorem map_under (k : κ) : (rows.filter fun row => index row = k).map view = (d.get k).toList := by
  rcases h.under k with ⟨hget, hrows⟩ | ⟨row, -, -, hget, hrows⟩ <;> rw [hget, hrows] <;> rfl

theorem read (planner : Planner) (hp : ∀ row ∈ rows, p row = (decide (index row = k) && q (view row))) :
    (select planner rows p).head?.map view = (d.get k).filter q := by
  have hrows : rows.filter p = (rows.filter fun row => index row = k).filter fun row => q (view row) := by
    rw [← filter_and]
    exact filter_congr hp
  rcases h.under k with ⟨hget, hunder⟩ | ⟨row, -, -, hget, hunder⟩
  · rw [hunder, filter_nil] at hrows
    rw [select_head (o := none) hrows, hget]
    rfl
  · rw [hunder] at hrows
    rw [hget]
    cases hq : q (view row) with
    | false =>
      rw [filter_cons_of_neg (by simp [hq]), filter_nil] at hrows
      rw [select_head (o := none) hrows, Option.filter_some_neg (by simp [hq])]
      rfl
    | true =>
      rw [filter_cons_of_pos (by simp [hq]), filter_nil] at hrows
      rw [select_head (o := some row) hrows, Option.filter_some_pos (by simp [hq])]
      rfl

theorem read_key (planner : Planner) (k : κ) :
    (select planner rows fun row => index row = k).head?.map view = d.get k := by
  rw [h.read planner (q := fun _ => true) fun row _ => (Bool.and_true _).symm]
  cases d.get k <;> rfl

end

theorem filter_none (hrows : (rows.filter fun row => index row = k) = []) (c : ρ → Bool) :
    (rows.filter fun row => index row = k && c row) = [] := by
  rw [filter_and, hrows, filter_nil]

section

variable (h : Mirrors rows index view d)
include h

variable {c : ρ → Bool}

theorem filter_neg (hrow : row ∈ rows) (hkey : index row = k) (hc : c row = false) :
    (rows.filter fun row => index row = k && c row) = [] := by
  rw [filter_eq_nil_iff]
  intro other hother hboth
  rw [Bool.and_eq_true, decide_eq_true_eq] at hboth
  obtain rfl := h.row_eq hother hrow (hboth.1.trans hkey.symm)
  rw [hc] at hboth
  exact nomatch hboth.2

theorem filter_pos (hrow : row ∈ rows) (hkey : index row = k) (hc : c row = true) :
    ∀ other ∈ rows, (decide (index other = k) && c other) = true ↔ index other = k := by
  intro other hother
  rw [Bool.and_eq_true, decide_eq_true_eq]
  refine ⟨And.left, fun hother' => ⟨hother', ?_⟩⟩
  obtain rfl := h.row_eq hother hrow (hother'.trans hkey.symm)
  exact hc

theorem filter_row (hrow : row ∈ rows) (hkey : index row = k) (hc : c row = true) :
    (rows.filter fun row => index row = k && c row) = [row] := by
  have hsame : (rows.filter fun row => index row = k && c row) = rows.filter fun row => index row = k := by
    refine filter_congr fun other hother => ?_
    rw [Bool.eq_iff_iff, decide_eq_true_eq]
    exact h.filter_pos hrow hkey hc other hother
  rw [hsame]
  rcases h.under k with ⟨hget, -⟩ | ⟨other, hother, hkey', -, hrows⟩
  · rw [← hkey, h.get_of_mem hrow] at hget
    cases hget
  · rw [hrows, h.row_eq hrow hother (hkey.trans hkey'.symm)]

theorem through {mark : ρ → κ} {d' : Dict κ κ} (h' : Mirrors rows mark index d') (planner : Planner) (k : κ) :
    (select planner rows fun row => mark row = k).head?.map view = (d'.get k).bind d.get := by
  rcases h'.under k with ⟨hget, hrows⟩ | ⟨row, hrow, -, hget, hrows⟩
  · rw [select_head (o := none) hrows, hget]
    rfl
  · rw [select_head (o := some row) hrows, hget, Option.bind_some, h.get_of_mem hrow]
    rfl

/-! ## What statements do -/

theorem append (hnone : d.get (index row) = none) :
    Mirrors (rows ++ [row]) index view (d.set (index row) (view row)) := by
  rw [Mirrors, entries_set_of_none hnone, map_append]
  exact List.Perm.append_right _ h

theorem update {set : ρ → ρ} {b : α}
    (hrow : row ∈ rows) (hkey : index row = k) (hp : ∀ other ∈ rows, p other = true ↔ index other = k)
    (hindex : index (set row) = k) (hview : view (set row) = b) :
    Mirrors (Rows.update rows p set) index view (d.set k b) := by
  have hget : d.get k = some (view row) := hkey ▸ h.get_of_mem hrow
  rw [Mirrors, entries_set_of_some hget, Rows.update, map_map]
  refine List.Perm.trans (List.Perm.of_eq ?_) (h.map fun e : κ × α => if e.1 = k then (k, b) else e)
  rw [map_map]
  refine map_congr_left fun other hother => ?_
  by_cases hother' : index other = k
  · obtain rfl := h.row_eq hother hrow (hother'.trans hkey.symm)
    simp only [Function.comp_apply, if_pos ((hp _ hother).2 hother'), if_pos hother', hindex, hview]
  · have hneg : ¬ p other = true := fun hpos => hother' ((hp _ hother).1 hpos)
    simp only [Function.comp_apply, if_neg hneg, if_neg hother']

theorem delete (hp : ∀ row ∈ rows, p row = true ↔ index row = k) :
    Mirrors (Rows.delete rows p) index view (d.delete k) := by
  refine List.Perm.trans (List.Perm.of_eq ?_) (h.filter fun e => e.1 ≠ k)
  rw [Rows.delete, filter_map]
  refine congrArg _ (filter_congr fun row hrow => ?_)
  by_cases hkey : index row = k
  · simp [(hp row hrow).2 hkey, hkey]
  · have hneg : ¬ p row = true := fun hpos => hkey ((hp row hrow).1 hpos)
    simp [hneg, hkey]

theorem join (others : List σ) (key : σ → κ) (on : σ → ρ → Bool)
    (hon : ∀ other row, on other row = decide (index row = key other)) {β : Type} (f : σ → α → β) :
    (Rows.join others rows on).map (fun e => f e.1 (view e.2)) =
      others.filterMap fun other => (d.get (key other)).map (f other) := by
  induction others with
  | nil => rfl
  | cons other others ih =>
    have hrows : (rows.filter (on other)).map view = (d.get (key other)).toList := by
      rw [filter_congr fun row _ => hon other row]
      exact h.map_under (key other)
    have hfirst : ((rows.filter (on other)).map (other, ·)).map (fun e => f e.1 (view e.2)) =
        (d.get (key other)).toList.map (f other) := by
      rw [← hrows, map_map, map_map]
      rfl
    rw [Rows.join, flatMap_cons, map_append, hfirst, filterMap_cons]
    cases d.get (key other) with
    | none => exact ih
    | some a => exact congrArg (f other a :: ·) ih

end

end Mirrors

end Rows
