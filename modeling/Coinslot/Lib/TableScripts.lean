import Coinslot.Lib.Conduct

/-!
# Statements on one table

The rows of a database are of many tables. A table is the rows of one kind among them (`Table`), and a
statement on it is written, and argued about, in terms of its own rows.
-/

namespace Txn

open List

variable {κ ι ρ σ α γ : Type}

/-- The rows of one kind. -/
structure Table (ρ σ : Type) where
  into : σ → ρ
  outOf : ρ → Option σ
  outOf_into : ∀ row, outOf (into row) = some row
  into_of_outOf : ∀ {row r}, outOf row = some r → row = into r

namespace Table

variable (t : Table ρ σ)

def holds (cond : Dict κ ρ → σ → Bool) (db : Dict κ ρ) (row : ρ) : Bool := (t.outOf row).any (cond db)

/-- What becomes of a row of a table. The rows of the others stay as they are. -/
def lift (set : σ → σ) (row : ρ) : ρ := ((t.outOf row).map fun r => t.into (set r)).getD row

def rows (db : Dict κ ρ) : List σ := db.values.filterMap t.outOf

def found (cond : Dict κ ρ → σ → Bool) (db : Dict κ ρ) : List σ := (t.rows db).filter (cond db)

def selectWhere (cond : Dict κ ρ → σ → Bool) : Script κ ι ρ (List σ) :=
  .runs (.select (t.holds cond)) fun rows => .done (rows.filterMap t.outOf)

section

variable (cond : σ → Bool)

def select : Script κ ι ρ (List σ) := t.selectWhere fun _ => cond

def selectOne : Script κ ι ρ (Option σ) :=
  .runs (.select (t.holds fun _ => cond)) fun rows => .done (rows.filterMap t.outOf).head?

def selectForUpdate : Script κ ι ρ (Option σ) :=
  .runs (.selectForUpdate (t.holds fun _ => cond)) fun rows => .done (rows.filterMap t.outOf).head?

end

def insert (row : σ) : Script κ ι ρ Unit := .runs (.insert (t.into row)) fun _ => .done ()

/-- Inserts a row, unless one has a key or an entry already. Hands back whether it did. -/
def insertUnless (row : σ) (target : Lockable κ ι) : Script κ ι ρ (Option σ) :=
  .runs (.insertUnless (t.into row) target) fun rows => .done (rows.filterMap t.outOf).head?

/-- Inserts a row, or sets the one that has a key or an entry already. -/
def insertOver (row : σ) (target : Lockable κ ι) (set : σ → σ) : Script κ ι ρ Unit :=
  .runs (.insertOver (t.into row) target (t.lift set)) fun _ => .done ()

/-- Sets the rows a condition holds of, which may look at the other tables. -/
def updateWhere (cond : Dict κ ρ → σ → Bool) (set : σ → σ) : Script κ ι ρ (List σ) :=
  .runs (.update (t.holds cond) (t.lift set)) fun rows => .done (rows.filterMap t.outOf)

def update (cond : σ → Bool) (set : σ → σ) : Script κ ι ρ (List σ) := t.updateWhere (fun _ => cond) set

/-- Deletes the rows a condition holds of, which may look at the other tables. -/
def deleteWhere (cond : Dict κ ρ → σ → Bool) : Script κ ι ρ (List σ) :=
  .runs (.delete (t.holds cond)) fun rows => .done (rows.filterMap t.outOf)

def delete (cond : σ → Bool) : Script κ ι ρ (List σ) := t.deleteWhere fun _ => cond

variable {t}

@[simp] theorem lift_into (set : σ → σ) (r : σ) : t.lift set (t.into r) = t.into (set r) := by
  simp [lift, t.outOf_into]

theorem into_inj {r r' : σ} (h : t.into r = t.into r') : r = r' := by
  have := congrArg t.outOf h
  rwa [t.outOf_into, t.outOf_into, Option.some.injEq] at this

@[simp] theorem filterMap_map_into (rs : List σ) : (rs.map t.into).filterMap t.outOf = rs := by
  rw [filterMap_map, show t.outOf ∘ t.into = some from funext t.outOf_into, filterMap_some]

theorem matching_holds (cond : Dict κ ρ → σ → Bool) (db : Dict κ ρ) :
    Schema.matching db (t.holds cond) = (t.found cond db).map t.into := by
  rw [Schema.matching, found, rows]
  induction db.values with
  | nil => rfl
  | cons row rest ih =>
    cases hrow : t.outOf row with
    | none => simpa [holds, hrow] using ih
    | some r =>
      rw [t.into_of_outOf hrow]
      cases hcond : cond db r with
      | false => simpa [holds, t.outOf_into, hcond] using ih
      | true => simpa [holds, t.outOf_into, hcond] using ih

theorem filterMap_rows {τ δ : Type} {g : σ → Option τ} {f : ρ → Option δ} {e : δ → Option τ}
    (hread : ∀ row, (f row).bind e = (t.outOf row).bind g) (db : Dict κ ρ) :
    (t.rows db).filterMap g = (db.values.filterMap f).filterMap e := by
  rw [rows, filterMap_filterMap, filterMap_filterMap]
  exact filterMap_congr fun row _ => (hread row).symm

section

variable [DecidableEq κ] {S : Schema κ ι ρ} {db : Dict κ ρ}

variable {r r' : σ}

theorem mem_rows (hfine : S.Fine db) : r ∈ t.rows db ↔ db.get (S.key (t.into r)) = some (t.into r) := by
  rw [rows, mem_filterMap]
  constructor
  · rintro ⟨row, hrow, hout⟩
    rw [← t.into_of_outOf hout]
    exact hfine.keyed.get_of_mem hrow
  · exact fun h => ⟨_, Schema.mem_values_iff.2 ⟨_, h⟩, t.outOf_into r⟩

variable {cond : Dict κ ρ → σ → Bool}

theorem mem_found (hfine : S.Fine db) :
    r ∈ t.found cond db ↔ db.get (S.key (t.into r)) = some (t.into r) ∧ cond db r = true := by
  rw [found, mem_filter, mem_rows hfine]

theorem rows_inj (hfine : S.Fine db) (hr : r ∈ t.rows db) (hr' : r' ∈ t.rows db)
    (hkey : S.key (t.into r) = S.key (t.into r')) : r = r' := by
  rw [mem_rows hfine] at hr hr'
  rw [hkey, hr'] at hr
  exact (into_inj (Option.some.inj hr)).symm

theorem rows_inj_of_entry (hfine : S.Fine db) (hr : r ∈ t.rows db) (hr' : r' ∈ t.rows db) {e : ι}
    (he : e ∈ S.entries (t.into r)) (he' : e ∈ S.entries (t.into r')) : r = r' :=
  rows_inj hfine hr hr' (hfine.distinct ((mem_rows hfine).1 hr) ((mem_rows hfine).1 hr') he he')

variable [DecidableEq ι] {K : Conduct κ ι ρ γ} {post : γ → α → Prop} {g : γ}

variable {next : List σ → Script κ ι ρ α}

theorem keeps_selectWhere
    (h : ∀ db, S.Fine db → K.sees g db → ∃ g', K.does g db [] [] ((t.found cond db).map t.into) g' ∧
      (next (t.found cond db)).Keeps S K post g') : ((t.selectWhere cond).bind next).Keeps S K post g := by
  intro db hfine hsees writes rows houtcome
  cases houtcome
  obtain ⟨g', hdoes, hnext⟩ := h db hfine hsees
  rw [matching_holds]
  exact ⟨g', hdoes, by simpa only [Script.done_bind, filterMap_map_into] using hnext⟩

theorem keeps_selectOne {cond : σ → Bool} {next : Option σ → Script κ ι ρ α}
    (h : ∀ db, S.Fine db → K.sees g db → ∃ g', K.does g db [] [] ((t.found (fun _ => cond) db).map t.into) g' ∧
      (next (t.found (fun _ => cond) db).head?).Keeps S K post g') :
    ((t.selectOne cond).bind next).Keeps S K post g := by
  intro db hfine hsees writes rows houtcome
  cases houtcome
  obtain ⟨g', hdoes, hnext⟩ := h db hfine hsees
  rw [matching_holds]
  exact ⟨g', hdoes, by simpa only [Script.done_bind, filterMap_map_into] using hnext⟩

theorem keeps_selectForUpdate {cond : σ → Bool} {next : Option σ → Script κ ι ρ α}
    (h : ∀ db, S.Fine db → K.sees g db → ∃ g',
      K.does g db ((t.found (fun _ => cond) db).map fun r => (.row (S.key (t.into r)), .update)) []
        ((t.found (fun _ => cond) db).map t.into) g' ∧ (next (t.found (fun _ => cond) db).head?).Keeps S K post g') :
    ((t.selectForUpdate cond).bind next).Keeps S K post g := by
  intro db hfine hsees writes rows houtcome
  cases houtcome
  obtain ⟨g', hdoes, hnext⟩ := h db hfine hsees
  refine ⟨g', ?_, ?_⟩
  · simpa only [Schema.effect, matching_holds, map_map, Function.comp_def] using hdoes
  · simpa only [matching_holds, Script.done_bind, filterMap_map_into] using hnext

theorem keeps_insert {row : σ} {next : Unit → Script κ ι ρ α}
    (h : ∀ db, S.Fine db → K.sees g db → db.get (S.key (t.into row)) = none → ∃ g',
      K.does g db (S.inserts db (t.into row)).locks [(S.key (t.into row), some (t.into row))] [t.into row] g' ∧
      (next ()).Keeps S K post g') : ((t.insert row).bind next).Keeps S K post g := by
  intro db hfine hsees writes rows houtcome
  obtain ⟨hnone, rfl, rfl⟩ := Schema.of_inserts houtcome
  exact h db hfine hsees hnone

theorem keeps_updateWhere {set : σ → σ} (h : ∀ db, S.Fine db → K.sees g db → ∃ g',
      K.does g db (S.sets db ((t.found cond db).map t.into) (t.lift set)).locks
        ((t.found cond db).map fun r => (S.key (t.into r), some (t.into (set r))))
        ((t.found cond db).map fun r => t.into (set r)) g' ∧ (next ((t.found cond db).map set)).Keeps S K post g') :
    ((t.updateWhere cond set).bind next).Keeps S K post g := by
  intro db hfine hsees writes rows houtcome
  simp only [Schema.effect, matching_holds] at houtcome ⊢
  obtain ⟨rfl, rfl⟩ := Schema.of_sets houtcome
  obtain ⟨g', hdoes, hnext⟩ := h db hfine hsees
  refine ⟨g', ?_, ?_⟩
  · simpa only [map_map, Function.comp_def, lift_into] using hdoes
  · have hrows : ((t.found cond db).map t.into).map (t.lift set) = ((t.found cond db).map set).map t.into := by
      simp only [map_map, Function.comp_def, lift_into]
    simpa only [Script.done_bind, hrows, filterMap_map_into] using hnext

theorem keeps_deleteWhere (h : ∀ db, S.Fine db → K.sees g db → ∃ g',
      K.does g db (S.effect db (.delete (t.holds cond))).locks
        ((t.found cond db).map fun r => (S.key (t.into r), none)) ((t.found cond db).map t.into) g' ∧
      (next (t.found cond db)).Keeps S K post g') : ((t.deleteWhere cond).bind next).Keeps S K post g := by
  intro db hfine hsees writes rows houtcome
  cases houtcome
  obtain ⟨g', hdoes, hnext⟩ := h db hfine hsees
  refine ⟨g', ?_, ?_⟩
  · simpa only [matching_holds, map_map, Function.comp_def] using hdoes
  · simpa only [matching_holds, Script.done_bind, filterMap_map_into] using hnext

end

end Table

end Txn
