import Coinslot.Lib.TableScripts

/-!
# A call that has the database to itself

What a call answers, and what it leaves behind, where nothing else is under way (`Script.alone`). It is what the
machine comes to when the call begins there and goes on to its end (`World.run_alone`).

What is read of every row of a table in the order of the rows is the same after writes that keep it
(`filterMap_overlay`).
-/

namespace Txn

open List

variable {κ ι ρ σ ν α β δ : Type} [DecidableEq κ]

variable {f : ρ → Option δ} {v db : Dict κ ρ} {ws : Writes κ ρ} {s : Script κ ι ρ α} {a : α}

/-- What is read of the rows in their order stays where a row is set to one of which the same is read, and where
a row of which nothing is read comes or goes. -/
theorem filterMap_writeTo {k : κ} {o : Option ρ} (h : o.bind f = (db.get k).bind f) :
    (writeTo db (k, o)).values.filterMap f = db.values.filterMap f := by
  obtain ⟨entries, hdistinct⟩ := db
  simp only [Dict.values, Dict.get] at h ⊢
  cases o with
  | some row =>
    simp only [writeTo, Dict.set]
    induction entries with
    | nil => simpa [Dict.put, Dict.find] using h
    | cons entry rest ih =>
      obtain ⟨j, old⟩ := entry
      by_cases hj : j = k
      · simp only [Dict.find, if_pos hj, Option.bind_some] at h
        simp only [Dict.put, if_pos hj, map_cons, filterMap_cons, h]
      · simp only [Dict.find, if_neg hj] at h
        simp only [Dict.put, if_neg hj, map_cons, filterMap_cons, ih (nodup_cons.1 hdistinct).2 h]
  | none =>
    simp only [writeTo, Dict.delete]
    induction entries with
    | nil => rfl
    | cons entry rest ih =>
      obtain ⟨j, old⟩ := entry
      obtain ⟨hnotin, hrest⟩ := nodup_cons.1 hdistinct
      by_cases hj : j = k
      · simp only [Dict.find, if_pos hj, Option.bind_some, Option.bind_none] at h
        have hkeep : rest.filter (fun e => e.1 ≠ k) = rest := by
          refine filter_eq_self.2 fun e he => ?_
          have : e.1 ≠ j := fun heq => hnotin (mem_map.2 ⟨e, he, heq⟩)
          simpa [hj] using this
        rw [filter_cons_of_neg (by simp [hj]), hkeep, map_cons, filterMap_cons, ← h]
      · simp only [Dict.find, if_neg hj] at h
        rw [filter_cons_of_pos (by simp [hj]), map_cons, map_cons, filterMap_cons, filterMap_cons, ih hrest h]

theorem filterMap_overlay (h : ∀ {k o}, (k, o) ∈ ws → o.bind f = (db.get k).bind f) :
    (overlay db ws).values.filterMap f = db.values.filterMap f := by
  induction ws generalizing db with
  | nil => rfl
  | cons w ws ih =>
    obtain ⟨j, p⟩ := w
    have hone : p.bind f = (db.get j).bind f := h mem_cons_self
    rw [show overlay db ((j, p) :: ws) = overlay (writeTo db (j, p)) ws from rfl, ih, filterMap_writeTo hone]
    intro k o ho
    rw [get_writeTo]
    split
    · next heq =>
      rw [show p.bind f = (db.get k).bind f from heq ▸ hone]
      exact h (mem_cons_of_mem _ ho)
    · exact h (mem_cons_of_mem _ ho)

variable [DecidableEq ι]

/-- What a call answers, and what it leaves behind, where nothing else is under way and the clock stands still. -/
def Script.alone (S : Schema κ ι ρ) (now : Int) : Script κ ι ρ α → Dict κ ρ → Writes κ ρ → Option α × Dict κ ρ
  | .done answer, db, _ => (some answer, db)
  | .fails, db, _ => (none, db)
  | .reads next, db, writes => (next now).alone S now db writes
  | .runs statement next, db, writes =>
    match (S.effect (overlay db writes) statement).outcome with
    | none => (none, db)
    | some (more, rows) => (next rows).alone S now db (writes ++ more)
  | .commits next, db, writes => next.alone S now (overlay db writes) []

section

variable {S : Schema κ ι ρ} {programs : ν → Script κ ι ρ α} {c : Nat} {w w' : World κ ι ρ ν α}

end

/-! ## What it sees on the way -/

/-- What a script answers, and the database as it sees it at its end, where nothing else is under way. -/
def Script.viewed (S : Schema κ ι ρ) (now : Int) : Script κ ι ρ α → Dict κ ρ → Option (α × Dict κ ρ)
  | .done answer, db => some (answer, db)
  | .fails, _ => none
  | .reads next, db => (next now).viewed S now db
  | .runs statement next, db =>
    match (S.effect db statement).outcome with
    | none => none
    | some (writes, rows) => (next rows).viewed S now (overlay db writes)
  | .commits next, db => next.viewed S now db

variable {S : Schema κ ι ρ} {now : Int}

theorem alone_transaction_iff :
    (Script.transaction s).alone S now db ws = (some a, v) ↔ s.viewed S now (overlay db ws) = some (a, v) := by
  change (s.bind fun answer => .commits (.done answer)).alone S now db ws = (some a, v) ↔ _
  induction s generalizing db ws with
  | done answer => simp [Script.alone, Script.viewed]
  | fails => simp [Script.alone, Script.viewed]
  | reads next ih => exact ih now
  | runs statement next ih =>
    simp only [Script.runs_bind, Script.alone, Script.viewed]
    cases (S.effect (overlay db ws) statement).outcome with
    | none => simp
    | some res =>
      simp only [← overlay_append]
      exact ih res.2
  | commits next ih => exact ih

/-- A conduct whose notes say what is seen. -/
def Conduct.asserts : Conduct κ ι ρ (Dict κ ρ → Prop) where
  sees P db := P db
  does _ db _ writes _ Q := Q (overlay db writes)
  commits _ db Q := Q db

theorem Script.Keeps.viewed {post : (Dict κ ρ → Prop) → α → Prop} {P : Dict κ ρ → Prop}
    (h : s.Keeps S .asserts post P) (hfine : S.Fine db) (hP : P db) (hviewed : s.viewed S now db = some (a, v)) :
    S.Fine v ∧ ∃ Q, post Q a ∧ Q v := by
  induction s generalizing P db with
  | done answer =>
    cases hviewed
    exact ⟨hfine, P, h, hP⟩
  | fails => cases hviewed
  | reads next ih => exact ih now (h now) hfine hP hviewed
  | runs statement next ih =>
    simp only [Script.viewed] at hviewed
    split at hviewed
    · cases hviewed
    next writes rows houtcome =>
    obtain ⟨Q, hdoes, hnext⟩ := h db hfine hP writes rows houtcome
    have hcovers := Schema.covers_effect hfine.keyed hfine.distinct houtcome
    exact ih rows hnext ⟨hfine.keyed.overlay hcovers.keyed, hcovers.distinct⟩ hdoes hviewed
  | commits next ih =>
    obtain ⟨Q, hcommits, hnext⟩ := h db hfine hP
    exact ih hnext hfine hcommits hviewed

/-! ## What a statement comes to -/

theorem alone_selectWhere (t : Table ρ σ) (cond : Dict κ ρ → σ → Bool) (next : List σ → Script κ ι ρ α)
    (db : Dict κ ρ) : ((t.selectWhere cond).bind next).alone S now db [] =
      (next (t.found cond db)).alone S now db [] := by
  simp only [Table.selectWhere, Script.runs_bind, Script.done_bind, Script.alone, Schema.effect,
    Table.matching_holds, Table.filterMap_map_into, append_nil, overlay_nil]

theorem alone_selectOne (t : Table ρ σ) (cond : σ → Bool) (next : Option σ → Script κ ι ρ α)
    (db : Dict κ ρ) : ((t.selectOne cond).bind next).alone S now db [] =
      (next (t.found (fun _ => cond) db).head?).alone S now db [] := by
  simp only [Table.selectOne, Script.runs_bind, Script.done_bind, Script.alone, Schema.effect,
    Table.matching_holds, Table.filterMap_map_into, append_nil, overlay_nil]

theorem Schema.sets_outcome (hfine : S.Fine db) {old : List ρ} (hold : ∀ row ∈ old, row ∈ db.values) {set : ρ → ρ}
    (hset : ∀ row ∈ old, S.key (set row) = S.key row ∧ S.entries (set row) = S.entries row ∧
      S.references (set row) = S.references row) :
    (S.sets db old set).outcome = some (old.map (fun row => (S.key row, some (set row))), old.map set) := by
  have hwas : ∀ {k row}, (overlay db (old.map fun row => (S.key row, some (set row)))).get k = some row →
      ∃ was, db.get k = some was ∧ S.entries row = S.entries was := by
    intro k row hk
    rcases mem_of_get_overlay hk with hw | ⟨hdb, -⟩
    · obtain ⟨was, hwas, heq⟩ := mem_map.1 hw
      cases heq
      exact ⟨was, hfine.keyed.get_of_mem (hold was hwas), (hset was hwas).2.1⟩
    · exact ⟨row, hdb, rfl⟩
  have hno : (old.any fun row => S.key (set row) ≠ S.key row ||
      S.clashes (overlay db (old.map fun row => (S.key row, some (set row)))) (set row) ||
      ((S.references (set row)).filter (· ∉ S.references row)).any fun key => !db.has key) = false := by
    rw [any_eq_false]
    intro row hrow
    obtain ⟨hkey, hentries, hreferences⟩ := hset row hrow
    have hclash : S.clashes (overlay db (old.map fun row => (S.key row, some (set row)))) (set row) = false := by
      simp only [Schema.clashes, any_eq_false, Bool.and_eq_true, decide_eq_true_eq, any_eq_true, not_and, not_exists]
      intro other hother hne e he he'
      obtain ⟨k, hk⟩ := Schema.mem_values_iff.1 hother
      obtain ⟨was, hdb, hsame⟩ := hwas hk
      have hother' : S.key other = k := by
        rcases mem_of_get_overlay hk with hw | ⟨hdb, -⟩
        · obtain ⟨was, hwas, heq⟩ := mem_map.1 hw
          cases heq
          exact (hset was hwas).1
        · exact hfine.keyed hdb
      refine hne ?_
      rw [hother', hkey]
      exact hfine.distinct hdb (hfine.keyed.get_of_mem (hold row hrow)) (hsame ▸ he') (hentries ▸ he)
    simp only [hkey, hclash, hreferences, ne_eq, not_true_eq_false, decide_false, Bool.or_false, Bool.false_or,
      Bool.not_eq_true, any_eq_false, mem_filter, decide_eq_true_eq, and_imp]
    exact fun k hk hnot => absurd hk hnot
  simp only [Schema.sets]
  rw [if_neg (by rw [hno]; decide)]

end Txn
