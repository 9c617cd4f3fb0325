import Coinslot.Lib.TableScripts

/-!
# What a script writes

Much of what a script does an argument need not look into: it is enough that what it writes is under keys of some
kind (`Script.WritesOn`). Such a script keeps to every conduct that lets rows of that kind be written
(`Script.WritesOn.keeps`), whatever else it says.
-/

namespace Txn

open List

variable {κ ι ρ σ α β γ : Type}

/-- The conduct of what is written under keys of one kind, in a transaction that goes on. -/
def Conduct.writing (T : κ → Prop) : Conduct κ ι ρ Unit where
  sees _ _ := True
  does _ _ _ writes _ _ := ∀ k o, (k, o) ∈ writes → T k
  commits _ _ _ := False

section

variable [DecidableEq κ] [DecidableEq ι] {S : Schema κ ι ρ} {T : κ → Prop}

/-- Whatever a script writes is under keys of one kind, and it does not commit. -/
def Script.WritesOn (S : Schema κ ι ρ) (T : κ → Prop) (s : Script κ ι ρ α) : Prop :=
  s.Keeps S (Conduct.writing T) (fun _ _ => True) ()

namespace Script.WritesOn

theorem done (a : α) : (Script.done a : Script κ ι ρ α).WritesOn S T := trivial

theorem fails : (Script.fails : Script κ ι ρ α).WritesOn S T := trivial

theorem clock : (Script.clock : Script κ ι ρ Int).WritesOn S T := fun _ => trivial

variable {s : Script κ ι ρ α}

theorem bind {f : α → Script κ ι ρ β} (h : s.WritesOn S T) (hf : ∀ a, (f a).WritesOn S T) :
    (s.bind f).WritesOn S T :=
  Script.Keeps.bind (Script.Keeps.mono (fun _ a _ => hf a) h)

/-- **A conduct that lets such rows be written is kept to.** -/
theorem keeps {K : Conduct κ ι ρ γ} {g : γ} (h : s.WritesOn S T)
    (hK : ∀ db, S.Fine db → K.sees g db → ∀ locks writes rows, (∀ k o, (k, o) ∈ writes → T k) →
      K.does g db locks writes rows g) : s.Keeps S K (fun g' _ => g' = g) g := by
  induction s with
  | done a => rfl
  | fails => trivial
  | reads next ih => exact fun now => ih now (h now)
  | runs statement next ih =>
    intro db hfine hsees writes rows houtcome
    obtain ⟨_, hwrites, hnext⟩ := h db hfine trivial writes rows houtcome
    exact ⟨g, hK db hfine hsees _ writes rows hwrites, ih rows hnext⟩
  | commits next ih =>
    intro db hfine hsees
    obtain ⟨_, hno, _⟩ := h db hfine trivial
    exact hno.elim

end Script.WritesOn

theorem World.get_of_ends {ν : Type} {w : World κ ι ρ ν α} {c c' : Nat} {call : Call κ ι ρ ν α}
    (h : (w.ends c).calls.get c' = some call) : w.calls.get c' = some call := by
  exact (Dict.of_get_delete h).2

theorem Schema.mem_rows_of_effect {db : Dict κ ρ} {statement : Statement κ ι ρ} {writes : Writes κ ρ} {rows : List ρ}
    (h : (S.effect db statement).outcome = some (writes, rows)) {row : ρ} (hrow : row ∈ rows) :
    row ∈ db.values ∨ ∃ k, (k, some row) ∈ writes := by
  have hinserts {new : ρ} (h : (S.inserts db new).outcome = some (writes, rows)) : ∃ k, (k, some row) ∈ writes := by
    obtain ⟨-, rfl, rfl⟩ := Schema.of_inserts h
    rw [mem_singleton] at hrow
    exact ⟨_, by rw [hrow]; exact mem_singleton_self _⟩
  have hsets {old : List ρ} {set : ρ → ρ} (h : (S.sets db old set).outcome = some (writes, rows)) :
      ∃ k, (k, some row) ∈ writes := by
    obtain ⟨rfl, rfl⟩ := Schema.of_sets h
    obtain ⟨was, hwas, rfl⟩ := mem_map.1 hrow
    exact ⟨_, mem_map.2 ⟨was, hwas, rfl⟩⟩
  cases statement with
  | select cond | selectForUpdate cond | delete cond =>
    cases h
    exact .inl (Schema.mem_matching.1 hrow).1
  | insert new => exact .inr (hinserts h)
  | insertUnless new target =>
    simp only [Schema.effect] at h
    split at h
    · cases h
      cases hrow
    · exact .inr (hinserts h)
  | insertOver new target set =>
    simp only [Schema.effect] at h
    split at h
    · exact .inr (hsets h)
    · exact .inr (hinserts h)
  | update cond set => exact .inr (hsets h)
  | lock entry =>
    cases h
    cases hrow

/-! ## The statements on a table -/

namespace Table

variable {t : Table ρ σ}

theorem writesOn_selectWhere (cond : Dict κ ρ → σ → Bool) :
    (t.selectWhere cond : Script κ ι ρ (List σ)).WritesOn S T := by
  intro db _ _ writes rows houtcome
  cases houtcome
  exact ⟨(), by simp [Conduct.writing], trivial⟩

theorem writesOn_select (cond : σ → Bool) : (t.select cond : Script κ ι ρ (List σ)).WritesOn S T :=
  writesOn_selectWhere _

theorem writesOn_selectOne (cond : σ → Bool) : (t.selectOne cond : Script κ ι ρ (Option σ)).WritesOn S T := by
  intro db _ _ writes rows houtcome
  cases houtcome
  exact ⟨(), by simp [Conduct.writing], trivial⟩

variable (hT : ∀ r, T (S.key (t.into r)))

include hT

theorem writesOn_insert (row : σ) : (t.insert row : Script κ ι ρ Unit).WritesOn S T := by
  intro db _ _ writes rows houtcome
  obtain ⟨-, rfl, rfl⟩ := Schema.of_inserts houtcome
  refine ⟨(), fun k o ho => ?_, trivial⟩
  cases mem_singleton.1 ho
  exact hT row

theorem writesOn_insertUnless (row : σ) (target : Lockable κ ι) :
    (t.insertUnless row target : Script κ ι ρ (Option σ)).WritesOn S T := by
  intro db _ _ writes rows houtcome
  simp only [Schema.effect] at houtcome ⊢
  split at houtcome
  · cases houtcome
    exact ⟨(), by simp [Conduct.writing], trivial⟩
  · obtain ⟨-, rfl, rfl⟩ := Schema.of_inserts houtcome
    refine ⟨(), fun k o ho => ?_, trivial⟩
    cases mem_singleton.1 ho
    exact hT row

theorem writesOn_updateWhere (cond : Dict κ ρ → σ → Bool) (set : σ → σ) :
    (t.updateWhere cond set : Script κ ι ρ (List σ)).WritesOn S T := by
  intro db _ _ writes rows houtcome
  simp only [Schema.effect, matching_holds] at houtcome
  obtain ⟨rfl, rfl⟩ := Schema.of_sets houtcome
  refine ⟨(), fun k o ho => ?_, trivial⟩
  simp only [map_map, mem_map, Function.comp_apply] at ho
  obtain ⟨r, -, heq⟩ := ho
  cases heq
  exact hT r

theorem writesOn_update (cond : σ → Bool) (set : σ → σ) : (t.update cond set : Script κ ι ρ (List σ)).WritesOn S T :=
  writesOn_updateWhere hT _ set

theorem writesOn_deleteWhere (cond : Dict κ ρ → σ → Bool) :
    (t.deleteWhere cond : Script κ ι ρ (List σ)).WritesOn S T := by
  intro db _ _ writes rows houtcome
  cases houtcome
  refine ⟨(), fun k o ho => ?_, trivial⟩
  rw [matching_holds, map_map] at ho
  obtain ⟨r, -, heq⟩ := mem_map.1 ho
  cases heq
  exact hT r

theorem writesOn_delete (cond : σ → Bool) : (t.delete cond : Script κ ι ρ (List σ)).WritesOn S T :=
  writesOn_deleteWhere hT _

end Table

end

end Txn
