import Coinslot.Lib.Dict
import Coinslot.Lib.Reactor

/-!
# Transactions

Calls that work on one database at once, statement by statement. What a transaction writes is its own until it
commits; what it locks it holds to its end. A statement sees what has been committed, and what its own
transaction has written, at the moment it runs (read committed), and it runs when nobody holds what it wants to
lock. A row that is inserted, or set so that it names another row, locks what it names against being deleted or
given another key; and a unique index is locked where an entry of it comes or goes.

A call is a script: statements, each of which hands rows back to what comes next, readings of the clock and
commits. It can end at any point without its last transaction, as a call does whose process dies or whose
statement is refused.
-/

namespace Txn

variable {κ ι ρ ν α β : Type}

/-- How strongly something is locked. -/
inductive LockMode where
  | keyShare
  | noKeyUpdate
  | update
  deriving DecidableEq, Repr

/-- Whether two transactions cannot hold two locks on one thing. -/
def LockMode.bars : LockMode → LockMode → Bool
  | keyShare, keyShare | keyShare, noKeyUpdate | noKeyUpdate, keyShare => false
  | _, _ => true

/-- What can be locked: a row, under its key, or an entry of an index. -/
inductive Lockable (κ ι : Type) where
  | row (key : κ)
  | entry (entry : ι)
  deriving DecidableEq, Repr

abbrev Lock (κ ι : Type) := Lockable κ ι × LockMode

/-- What is known of the rows: their keys, their entries in unique indexes, and the rows they name. -/
structure Schema (κ ι ρ : Type) where
  key : ρ → κ
  entries : ρ → List ι
  references : ρ → List κ

/-- Rows that were written, under their keys, and keys whose rows were deleted, in order. -/
abbrev Writes (κ ρ : Type) := List (κ × Option ρ)

section Overlay

variable [DecidableEq κ]

section

variable (db : Dict κ ρ)

/-- A database with one thing more written. -/
def writeTo (write : κ × Option ρ) : Dict κ ρ :=
  match write.2 with
  | some row => db.set write.1 row
  | none => db.delete write.1

def overlay (writes : Writes κ ρ) : Dict κ ρ := writes.foldl writeTo db

@[simp] theorem overlay_nil : overlay db [] = db := rfl

theorem overlay_append (ws vs : Writes κ ρ) : overlay db (ws ++ vs) = overlay (overlay db ws) vs := List.foldl_append

theorem get_writeTo (write : κ × Option ρ) (k : κ) :
    (writeTo db write).get k = if write.1 = k then write.2 else db.get k := by
  obtain ⟨j, row⟩ := write
  cases row with
  | none => simp [writeTo, Dict.get_delete, eq_comm]
  | some row => simp [writeTo, Dict.get_set, eq_comm]

theorem get_overlay (ws : Writes κ ρ) (k : κ) :
    (k, (overlay db ws).get k) ∈ ws ∨ (overlay db ws).get k = db.get k ∧ ∀ o, (k, o) ∉ ws := by
  induction ws using List.reverseRecOn with
  | nil => exact .inr ⟨rfl, fun _ => List.not_mem_nil⟩
  | append_singleton ws w ih =>
    rw [overlay_append, show overlay (overlay db ws) [w] = writeTo (overlay db ws) w from rfl, get_writeTo]
    by_cases hw : w.1 = k
    · rw [if_pos hw, ← hw]
      exact .inl (by simp)
    · rw [if_neg hw]
      rcases ih with ih | ⟨ih, hno⟩
      · exact .inl (List.mem_append_left _ ih)
      · refine .inr ⟨ih, fun o ho => ?_⟩
        rcases List.mem_append.1 ho with ho | ho
        · exact hno o ho
        · rw [List.mem_singleton] at ho
          exact hw (by rw [← ho])

end

variable {ws : Writes κ ρ}

variable {db : Dict κ ρ} {k : κ}

theorem get_overlay_of_not_mem (h : ∀ o, (k, o) ∉ ws) :
    (overlay db ws).get k = db.get k := by
  rcases get_overlay db ws k with hw | ⟨heq, -⟩
  · exact absurd hw (h _)
  · exact heq

theorem mem_of_get_overlay {row : ρ} (h : (overlay db ws).get k = some row) :
    (k, some row) ∈ ws ∨ db.get k = some row ∧ ∀ o, (k, o) ∉ ws := by
  rcases get_overlay db ws k with hw | ⟨heq, hno⟩
  · exact .inl (h ▸ hw)
  · exact .inr ⟨heq ▸ h, hno⟩

theorem get_overlay_of_mem (db' : Dict κ ρ) {o : Option ρ} (h : (k, o) ∈ ws) :
    (overlay db ws).get k = (overlay db' ws).get k := by
  induction ws using List.reverseRecOn with
  | nil => cases h
  | append_singleton ws w ih =>
    rw [overlay_append, overlay_append, show overlay (overlay db ws) [w] = writeTo (overlay db ws) w from rfl,
      show overlay (overlay db' ws) [w] = writeTo (overlay db' ws) w from rfl, get_writeTo, get_writeTo]
    by_cases hw : w.1 = k
    · rw [if_pos hw, if_pos hw]
    · rw [if_neg hw, if_neg hw]
      rcases List.mem_append.1 h with h | h
      · exact ih h
      · rw [List.mem_singleton] at h
        exact absurd (by rw [← h]) hw

end Overlay

/-- A statement. Its condition may look at the whole database, as one with a subquery does. -/
inductive Statement (κ ι ρ : Type) where
  | select (cond : Dict κ ρ → ρ → Bool)
  | selectForUpdate (cond : Dict κ ρ → ρ → Bool)
  | insert (row : ρ)
  | insertUnless (row : ρ) (target : Lockable κ ι)
  | insertOver (row : ρ) (target : Lockable κ ι) (set : ρ → ρ)
  | update (cond : Dict κ ρ → ρ → Bool) (set : ρ → ρ)
  | delete (cond : Dict κ ρ → ρ → Bool)
  | lock (entry : ι)

/-- What a statement does to the database it sees: what it waits for, what it locks, and what it writes and
hands back, where nothing refuses it. -/
structure Effect (κ ι ρ : Type) where
  waits : List (Lock κ ι)
  locks : List (Lock κ ι)
  outcome : Option (Writes κ ρ × List ρ)

namespace Schema

variable [DecidableEq κ] [DecidableEq ι] (S : Schema κ ι ρ) (db : Dict κ ρ)

def clashes (row : ρ) : Bool :=
  db.values.any fun other => S.key other ≠ S.key row && (S.entries row).any fun entry => entry ∈ S.entries other

/-- Whether a row has an entry, or a key. -/
def holds (row : ρ) : Lockable κ ι → Bool
  | .row key => S.key row = key
  | .entry entry => entry ∈ S.entries row

def matching (cond : Dict κ ρ → ρ → Bool) : List ρ := db.values.filter (cond db)

/-- Inserts a row. -/
def inserts (row : ρ) : Effect κ ι ρ where
  waits := []
  locks := (.row (S.key row), .update) :: (S.entries row).map (.entry ·, .update) ++
    (S.references row).map (.row ·, .keyShare)
  outcome :=
    if db.has (S.key row) || S.clashes db row || (S.references row).any fun key => !db.has key then none
    else some ([(S.key row, some row)], [row])

/-- What a row is locked by that is set: a lock that lets others name the row where its entries stay. -/
def locksOf (row new : ρ) : List (Lock κ ι) :=
  (if S.entries new = S.entries row then [(.row (S.key row), .noKeyUpdate)]
    else (.row (S.key row), .update) :: (S.entries row ++ S.entries new).map (.entry ·, .update)) ++
    ((S.references new).filter (· ∉ S.references row)).map (.row ·, .keyShare)

/-- Sets rows. A row keeps its key. -/
def sets (rows : List ρ) (set : ρ → ρ) : Effect κ ι ρ where
  waits := []
  locks := rows.flatMap fun row => S.locksOf row (set row)
  outcome :=
    let writes := rows.map fun row => (S.key row, some (set row))
    if rows.any fun row => S.key (set row) ≠ S.key row || S.clashes (overlay db writes) (set row) ||
        ((S.references (set row)).filter (· ∉ S.references row)).any fun key => !db.has key then none
    else some (writes, rows.map set)

/-- What a statement does to the database it sees. -/
def effect : Statement κ ι ρ → Effect κ ι ρ
  | .select cond => ⟨[], [], some ([], matching db cond)⟩
  | .selectForUpdate cond =>
    let rows := matching db cond
    ⟨[], rows.map fun row => (.row (S.key row), .update), some ([], rows)⟩
  | .insert row => S.inserts db row
  | .insertUnless row target =>
    if db.values.any (S.holds · target) then ⟨[(target, .keyShare)], [], some ([], [])⟩ else S.inserts db row
  | .insertOver row target set =>
    match db.values.find? (S.holds · target) with
    | some held => S.sets db [held] set
    | none => S.inserts db row
  | .update cond set => S.sets db (matching db cond) set
  | .delete cond =>
    let rows := matching db cond
    ⟨[], rows.flatMap fun row => (.row (S.key row), .update) :: (S.entries row).map (.entry ·, .update),
      some (rows.map fun row => (S.key row, none), rows)⟩
  | .lock entry => ⟨[], [(.entry entry, .update)], some ([], [])⟩

end Schema

def Schema.Keyed (S : Schema κ ι ρ) [DecidableEq κ] (db : Dict κ ρ) : Prop :=
  ∀ ⦃k row⦄, db.get k = some row → S.key row = k

/-- No two rows have an entry in common. -/
def Schema.Distinct (S : Schema κ ι ρ) [DecidableEq κ] (db : Dict κ ρ) : Prop :=
  ∀ ⦃k k' row row'⦄, db.get k = some row → db.get k' = some row' →
    ∀ ⦃e⦄, e ∈ S.entries row → e ∈ S.entries row' → k = k'

/-- A database whose rows are under their keys and share no entries. -/
structure Schema.Fine (S : Schema κ ι ρ) [DecidableEq κ] (db : Dict κ ρ) : Prop where
  keyed : S.Keyed db
  distinct : S.Distinct db

theorem Schema.fine_of_entries {S : Schema κ ι ρ} [DecidableEq κ] {db : Dict κ ρ}
    (hkeyed : ∀ e ∈ db.entries, S.key e.2 = e.1)
    (hdistinct : ∀ e ∈ db.entries, ∀ e' ∈ db.entries, ∀ x ∈ S.entries e.2, x ∈ S.entries e'.2 → e.1 = e'.1) :
    S.Fine db where
  keyed _ _ h := hkeyed _ (Dict.get_eq_some_iff.1 h)
  distinct _ _ _ _ h h' _ hx hx' := hdistinct _ (Dict.get_eq_some_iff.1 h) _ (Dict.get_eq_some_iff.1 h') _ hx hx'

/-- What a statement writes on a database it has locked, with the entries that its rows newly have and the rows
that they newly name, and no two rows share an entry after it. -/
structure Schema.Covers (S : Schema κ ι ρ) [DecidableEq κ] (db : Dict κ ρ) (locks : List (Lock κ ι))
    (writes : Writes κ ρ) : Prop where
  keyed : ∀ ⦃k row⦄, (k, some row) ∈ writes → S.key row = k
  rows : ∀ ⦃k o⦄, (k, o) ∈ writes → ∃ m, (.row k, m) ∈ locks ∧ m ≠ .keyShare
  entries : ∀ ⦃k row e⦄, (k, some row) ∈ writes → e ∈ S.entries row →
    (.entry e, .update) ∈ locks ∨ ∃ old, db.get k = some old ∧ e ∈ S.entries old
  names : ∀ ⦃k row j⦄, (k, some row) ∈ writes → j ∈ S.references row →
    (∃ m, (.row j, m) ∈ locks) ∨ ∃ old, db.get k = some old ∧ j ∈ S.references old
  distinct : S.Distinct (overlay db writes)

namespace Schema

variable {S : Schema κ ι ρ} {db : Dict κ ρ}

variable {row : ρ}

theorem mem_matching {cond : Dict κ ρ → ρ → Bool} :
    row ∈ matching db cond ↔ row ∈ db.values ∧ cond db row = true := List.mem_filter

variable [DecidableEq κ]

theorem mem_values_iff : row ∈ db.values ↔ ∃ k, db.get k = some row := by
  refine ⟨Dict.exists_get_of_mem, ?_⟩
  rintro ⟨k, hk⟩
  exact List.mem_map.2 ⟨(k, row), Dict.get_eq_some_iff.1 hk, rfl⟩

theorem Keyed.get_of_mem (hkeyed : S.Keyed db) (h : row ∈ db.values) : db.get (S.key row) = some row := by
  obtain ⟨k, hk⟩ := mem_values_iff.1 h
  rw [hkeyed hk]
  exact hk

variable {ws : Writes κ ρ} {old : List ρ}

theorem Keyed.overlay (hkeyed : S.Keyed db) (hws : ∀ ⦃k row⦄, (k, some row) ∈ ws → S.key row = k) :
    S.Keyed (Txn.overlay db ws) := by
  intro k row hk
  rcases mem_of_get_overlay hk with hw | ⟨hdb, -⟩
  · exact hws hw
  · exact hkeyed hdb

theorem covers_nil (hdistinct : S.Distinct db) (locks : List (Lock κ ι)) : S.Covers db locks [] where
  keyed := by simp
  rows := by simp
  entries := by simp
  names := by simp
  distinct := by rwa [overlay_nil]

theorem Covers.append {locks locks' : List (Lock κ ι)} {vs : Writes κ ρ} (h : S.Covers db locks ws)
    (h' : S.Covers (Txn.overlay db ws) locks' vs) : S.Covers db (locks ++ locks') (ws ++ vs) where
  keyed := by
    intro k row hrow
    rcases List.mem_append.1 hrow with hrow | hrow
    · exact h.keyed hrow
    · exact h'.keyed hrow
  rows := by
    intro k o ho
    rcases List.mem_append.1 ho with ho | ho
    · obtain ⟨m, hm, hne⟩ := h.rows ho
      exact ⟨m, List.mem_append_left _ hm, hne⟩
    · obtain ⟨m, hm, hne⟩ := h'.rows ho
      exact ⟨m, List.mem_append_right _ hm, hne⟩
  entries := by
    intro k row e hrow he
    rcases List.mem_append.1 hrow with hrow | hrow
    · exact (h.entries hrow he).imp_left (List.mem_append_left _)
    · rcases h'.entries hrow he with hlock | ⟨old, hold, he⟩
      · exact .inl (List.mem_append_right _ hlock)
      · rcases mem_of_get_overlay hold with hw | ⟨hdb, -⟩
        · exact (h.entries hw he).imp_left (List.mem_append_left _)
        · exact .inr ⟨old, hdb, he⟩
  names := by
    intro k row j hrow hj
    have hleft : ∀ {row}, (k, some row) ∈ ws → j ∈ S.references row →
        (∃ m, (.row j, m) ∈ locks ++ locks') ∨ ∃ old, db.get k = some old ∧ j ∈ S.references old := by
      intro row hrow hj
      exact (h.names hrow hj).imp_left fun ⟨m, hm⟩ => ⟨m, List.mem_append_left _ hm⟩
    rcases List.mem_append.1 hrow with hrow | hrow
    · exact hleft hrow hj
    · rcases h'.names hrow hj with ⟨m, hm⟩ | ⟨old, hold, hj⟩
      · exact .inl ⟨m, List.mem_append_right _ hm⟩
      · rcases mem_of_get_overlay hold with hw | ⟨hdb, -⟩
        · exact hleft hw hj
        · exact .inr ⟨old, hdb, hj⟩
  distinct := by
    rw [overlay_append]
    exact h'.distinct

variable [DecidableEq ι]

theorem Distinct.overlay (hdistinct : S.Distinct db) (hkeyed : S.Keyed (Txn.overlay db ws))
    (hclash : ∀ ⦃k row⦄, (k, some row) ∈ ws → S.clashes (Txn.overlay db ws) row = false) :
    S.Distinct (Txn.overlay db ws) := by
  have hone : ∀ {k k' row row'}, (Txn.overlay db ws).get k = some row → (Txn.overlay db ws).get k' = some row' →
      (k, some row) ∈ ws → ∀ {e}, e ∈ S.entries row → e ∈ S.entries row' → k = k' := by
    intro k k' row row' hk hk' hw e he he'
    have hno := hclash hw
    simp only [clashes, List.any_eq_false] at hno
    by_contra hne
    refine hno row' (mem_values_iff.2 ⟨k', hk'⟩) ?_
    simp only [Bool.and_eq_true, decide_eq_true_eq, List.any_eq_true]
    exact ⟨by rw [hkeyed hk, hkeyed hk']; exact fun h => hne h.symm, e, he, he'⟩
  intro k k' row row' hk hk' e he he'
  rcases mem_of_get_overlay hk with hw | ⟨hdb, -⟩
  · exact hone hk hk' hw he he'
  rcases mem_of_get_overlay hk' with hw' | ⟨hdb', -⟩
  · exact (hone hk' hk hw' he' he).symm
  · exact hdistinct hdb hdb' he he'

variable {writes : Writes κ ρ} {rows : List ρ}

theorem of_inserts (h : (S.inserts db row).outcome = some (writes, rows)) :
    db.get (S.key row) = none ∧ writes = [(S.key row, some row)] ∧ rows = [row] := by
  simp only [inserts] at h
  split at h
  · cases h
  next hno =>
  cases h
  simp only [Bool.or_eq_true, not_or, Bool.not_eq_true, Dict.has, Option.isSome_eq_false_iff,
    Option.isNone_iff_eq_none] at hno
  exact ⟨hno.1.1, rfl, rfl⟩

theorem of_sets {set : ρ → ρ} (h : (S.sets db old set).outcome = some (writes, rows)) :
    writes = old.map (fun row => (S.key row, some (set row))) ∧ rows = old.map set := by
  simp only [sets] at h
  split at h
  · cases h
  · cases h
    exact ⟨rfl, rfl⟩

theorem covers_inserts (hkeyed : S.Keyed db) (hdistinct : S.Distinct db)
    (h : (S.inserts db row).outcome = some (writes, rows)) : S.Covers db (S.inserts db row).locks writes := by
  simp only [inserts] at h
  split at h
  · cases h
  next hno =>
  simp only [Bool.or_eq_true, not_or, Bool.not_eq_true] at hno
  cases h
  have hmem : ∀ {k o}, (k, o) ∈ [(S.key row, some row)] → S.key row = k ∧ some row = o := by
    intro k o ho
    rw [List.mem_singleton] at ho
    cases ho
    exact ⟨rfl, rfl⟩
  have hws : ∀ ⦃k new⦄, (k, some new) ∈ [(S.key row, some row)] → S.key new = k := by
    intro k new hnew
    obtain ⟨hk, hrow⟩ := hmem hnew
    cases hrow
    exact hk
  refine ⟨hws, ?_, ?_, ?_, hdistinct.overlay (hkeyed.overlay hws) ?_⟩
  · intro k o ho
    obtain ⟨rfl, -⟩ := hmem ho
    exact ⟨.update, by simp [inserts], by decide⟩
  · intro k new e hnew he
    obtain ⟨-, hrow⟩ := hmem hnew
    cases hrow
    exact .inl (by simp [inserts, he])
  · intro k new j hnew hj
    obtain ⟨-, hrow⟩ := hmem hnew
    cases hrow
    exact .inl ⟨.keyShare, by simp [inserts, hj]⟩
  · intro k new hnew
    obtain ⟨rfl, hrow⟩ := hmem hnew
    cases hrow
    have hclash := hno.1.2
    simp only [clashes, List.any_eq_false, Bool.and_eq_true, decide_eq_true_eq, not_and, Bool.not_eq_true] at hclash ⊢
    intro other hother hne
    obtain ⟨k, hk⟩ := mem_values_iff.1 hother
    rcases mem_of_get_overlay hk with hw | ⟨hdb, -⟩
    · obtain ⟨-, hrow⟩ := hmem hw
      cases hrow
      exact absurd rfl hne
    · exact hclash other (mem_values_iff.2 ⟨k, hdb⟩) hne

theorem covers_sets (hkeyed : S.Keyed db) (hdistinct : S.Distinct db) (hold : ∀ row ∈ old, row ∈ db.values)
    {set : ρ → ρ} (h : (S.sets db old set).outcome = some (writes, rows)) :
    S.Covers db (S.sets db old set).locks writes := by
  simp only [sets] at h
  split at h
  · cases h
  next hno =>
  cases h
  have hmem : ∀ {k o}, (k, o) ∈ old.map (fun row => (S.key row, some (set row))) →
      ∃ row ∈ old, S.key row = k ∧ some (set row) = o := by
    intro k o ho
    obtain ⟨row, hrow, heq⟩ := List.mem_map.1 ho
    cases heq
    exact ⟨row, hrow, rfl, rfl⟩
  have hok : ∀ row ∈ old, S.key (set row) = S.key row ∧
      S.clashes (Txn.overlay db (old.map fun row => (S.key row, some (set row)))) (set row) = false := by
    intro row hrow
    simp only [List.any_eq_true, not_exists, not_and, Bool.not_eq_true] at hno
    have := hno row hrow
    simp only [Bool.or_eq_false_iff, decide_eq_false_iff_not, ne_eq, not_not] at this
    exact ⟨this.1.1, this.1.2⟩
  have hws : ∀ ⦃k new⦄, (k, some new) ∈ old.map (fun row => (S.key row, some (set row))) → S.key new = k := by
    intro k new hnew
    obtain ⟨row, hrow, hk, hset⟩ := hmem hnew
    cases hset
    rw [(hok row hrow).1, hk]
  have hlock : ∀ {row l}, row ∈ old → l ∈ S.locksOf row (set row) → l ∈ (S.sets db old set).locks :=
    fun hrow hl => List.mem_flatMap.2 ⟨_, hrow, hl⟩
  refine ⟨hws, ?_, ?_, ?_, hdistinct.overlay (hkeyed.overlay hws) ?_⟩
  · intro k o ho
    obtain ⟨row, hrow, rfl, -⟩ := hmem ho
    by_cases hsame : S.entries (set row) = S.entries row
    · exact ⟨.noKeyUpdate, hlock hrow (by simp [locksOf, hsame]), by decide⟩
    · exact ⟨.update, hlock hrow (by simp [locksOf, hsame]), by decide⟩
  · intro k new e hnew he
    obtain ⟨row, hrow, rfl, hset⟩ := hmem hnew
    cases hset
    by_cases hsame : S.entries (set row) = S.entries row
    · exact .inr ⟨row, hkeyed.get_of_mem (hold row hrow), hsame ▸ he⟩
    · exact .inl (hlock hrow (by simp [locksOf, hsame, he]))
  · intro k new j hnew hj
    obtain ⟨row, hrow, rfl, hset⟩ := hmem hnew
    cases hset
    by_cases hnamed : j ∈ S.references row
    · exact .inr ⟨row, hkeyed.get_of_mem (hold row hrow), hnamed⟩
    · exact .inl ⟨.keyShare, hlock hrow (by simp [locksOf, hj, hnamed])⟩
  · intro k new hnew
    obtain ⟨row, hrow, -, hset⟩ := hmem hnew
    cases hset
    exact (hok row hrow).2

theorem covers_effect (hkeyed : S.Keyed db) (hdistinct : S.Distinct db) {statement : Statement κ ι ρ}
    (h : (S.effect db statement).outcome = some (writes, rows)) :
    S.Covers db (S.effect db statement).locks writes := by
  cases statement with
  | select cond =>
    cases h
    exact covers_nil hdistinct _
  | selectForUpdate cond =>
    cases h
    exact covers_nil hdistinct _
  | insert row => exact covers_inserts hkeyed hdistinct h
  | insertUnless row target =>
    simp only [effect] at h ⊢
    split at h
    · next hheld =>
      cases h
      exact covers_nil hdistinct _
    · next hheld =>
      rw [if_neg hheld]
      exact covers_inserts hkeyed hdistinct h
  | insertOver row target set =>
    simp only [effect] at h ⊢
    split at h
    · next held hheld =>
      refine covers_sets hkeyed hdistinct ?_ h
      intro row hrow
      rw [List.mem_singleton] at hrow
      rw [hrow]
      exact List.mem_of_find?_eq_some hheld
    · exact covers_inserts hkeyed hdistinct h
  | update cond set => exact covers_sets hkeyed hdistinct (fun row hrow => (mem_matching.1 hrow).1) h
  | delete cond =>
    cases h
    have hmem : ∀ {k o}, (k, o) ∈ (matching db cond).map (fun row => (S.key row, (none : Option ρ))) →
        ∃ row ∈ matching db cond, S.key row = k ∧ none = o := by
      intro k o ho
      obtain ⟨row, hrow, heq⟩ := List.mem_map.1 ho
      cases heq
      exact ⟨row, hrow, rfl, rfl⟩
    have hnone : ∀ {k row}, (k, some row) ∉ (matching db cond).map (fun row => (S.key row, (none : Option ρ))) := by
      intro k row hrow
      obtain ⟨-, -, -, heq⟩ := hmem hrow
      cases heq
    refine ⟨fun _ _ hrow => absurd hrow hnone, ?_, fun _ _ _ hrow => absurd hrow hnone,
      fun _ _ _ hrow => absurd hrow hnone,
      hdistinct.overlay (hkeyed.overlay fun _ _ hrow => absurd hrow hnone) fun _ _ hrow => absurd hrow hnone⟩
    intro k o ho
    obtain ⟨row, hrow, rfl, -⟩ := hmem ho
    exact ⟨.update, List.mem_flatMap.2 ⟨row, hrow, by simp⟩, by decide⟩
  | lock entry =>
    cases h
    exact covers_nil hdistinct _

end Schema

/-- What a call does: it ends with an answer, or without one, reads the clock, runs a statement, or commits. -/
inductive Script (κ ι ρ α : Type) where
  | done (answer : α)
  | fails
  | reads (next : Int → Script κ ι ρ α)
  | runs (statement : Statement κ ι ρ) (next : List ρ → Script κ ι ρ α)
  | commits (next : Script κ ι ρ α)

namespace Script

/-- One script after another. -/
def bind : Script κ ι ρ α → (α → Script κ ι ρ β) → Script κ ι ρ β
  | done answer, f => f answer
  | fails, _ => fails
  | reads next, f => reads fun now => (next now).bind f
  | runs statement next, f => runs statement fun rows => (next rows).bind f
  | commits next, f => commits (next.bind f)

instance : Monad (Script κ ι ρ) where
  pure := done
  bind := bind

@[simp] theorem pure_def (a : α) : (pure a : Script κ ι ρ α) = done a := rfl

@[simp] theorem bind_def (s : Script κ ι ρ α) (f : α → Script κ ι ρ β) : s >>= f = s.bind f := rfl

@[simp] theorem done_bind (a : α) (f : α → Script κ ι ρ β) : (done a : Script κ ι ρ α).bind f = f a := rfl

@[simp] theorem fails_bind (f : α → Script κ ι ρ β) : (fails : Script κ ι ρ α).bind f = fails := rfl

@[simp] theorem reads_bind (next : Int → Script κ ι ρ α) (f : α → Script κ ι ρ β) :
    (reads next).bind f = reads fun now => (next now).bind f := rfl

@[simp] theorem runs_bind (statement : Statement κ ι ρ) (next : List ρ → Script κ ι ρ α)
    (f : α → Script κ ι ρ β) : (runs statement next).bind f = runs statement fun rows => (next rows).bind f := rfl

@[simp] theorem commits_bind (next : Script κ ι ρ α) (f : α → Script κ ι ρ β) :
    (commits next).bind f = commits (next.bind f) := rfl

theorem bind_assoc {δ : Type} (s : Script κ ι ρ α) (f : α → Script κ ι ρ β) (h : β → Script κ ι ρ δ) :
    (s.bind f).bind h = s.bind fun a => (f a).bind h := by
  induction s with
  | done answer => rfl
  | fails => rfl
  | reads next ih => simp [ih]
  | runs statement next ih => simp [ih]
  | commits next ih => simp [ih]

def clock : Script κ ι ρ Int := reads done

/-- A statement and the rows it hands back. -/
def run (statement : Statement κ ι ρ) : Script κ ι ρ (List ρ) := runs statement done

/-- A transaction: what it does is committed at its end. -/
def transaction (body : Script κ ι ρ α) : Script κ ι ρ α := do
  let answer ← body
  commits (done answer)

end Script

end Txn
