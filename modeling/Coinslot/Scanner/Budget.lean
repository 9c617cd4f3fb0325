import Mathlib.Tactic.Linarith
import Mathlib.Tactic.Ring
import Coinslot.Lib.Amounts
import Coinslot.Lib.Reactor
import Coinslot.Scanner.Observations

/-!
# The browser's budget balances

What is reserved and used of a day is what the observations of that day have reserved and used, after any
operations in any order (`Balanced`). So what an observation gives back to its day was reserved there, and
no clamp is ever reached.

A day stays within the budget it was reserved under as long as no report goes beyond what the observation
has recorded and reserved. A report within the reservation is enough for that only until the rest of it was
given back: from then on another run may have reserved what a later report adds (`reported_twice`).
-/

namespace Coinslot

/-! ## What a row and a day carry -/

section
variable {Doc : Type} {row : ObservationRow Doc} {days : Dict Int BudgetDayRow} {day : Int}

def ObservationRow.reservedOn (row : ObservationRow Doc) (day : Int) : Rat :=
  if row.budgetDay = some day then row.budgetReservedUsd else 0

def ObservationRow.usedOn (row : ObservationRow Doc) (day : Int) : Rat :=
  if row.budgetDay = some day then row.usageUsd.getD 0 else 0

def reservedOn (days : Dict Int BudgetDayRow) (day : Int) : Rat := ((days.get day).map (·.reservedUsd)).getD 0

def usedOn (days : Dict Int BudgetDayRow) (day : Int) : Rat := ((days.get day).map (·.usageUsd)).getD 0

/-- What an observation's money looks like: nothing is negative, nothing is reserved on no day, and one
that is not over used nothing yet and keeps a reservation where it made one. -/
structure ObservationRow.Sound (row : ObservationRow Doc) : Prop where
  reserved : 0 ≤ row.budgetReservedUsd
  used : 0 ≤ row.usageUsd.getD 0
  onADay : row.budgetDay = none → row.budgetReservedUsd = 0
  unused : row.status.terminal = false → row.usageUsd = none
  kept : row.status.terminal = false → row.budgetDay.isSome = true → 0 < row.budgetReservedUsd

theorem ObservationRow.Sound.reservedOn_nonneg (h : row.Sound) : 0 ≤ row.reservedOn day := by
  unfold ObservationRow.reservedOn
  split
  · exact h.reserved
  · exact le_rfl

/-- The ledger balances. -/
structure ObservationDb.Balanced (db : ObservationDb Doc) : Prop where
  rows : ∀ id row, db.observations.get id = some row → row.Sound
  /-- A day an observation is paid from has a row. -/
  known : ∀ id row day, db.observations.get id = some row → row.budgetDay = some day →
    db.days.has day = true
  reserved : ∀ day, Coinslot.reservedOn db.days day = db.observations.amount (·.reservedOn day)
  used : ∀ day, Coinslot.usedOn db.days day = db.observations.amount (·.usedOn day)

variable {db : ObservationDb Doc} {id : String}

theorem ObservationDb.Balanced.le_reservedOn (h : db.Balanced)
    (hid : db.observations.get id = some row) (day : Int) : row.reservedOn day ≤ reservedOn db.days day := by
  rw [h.reserved day]
  exact Dict.le_amount (f := fun row : ObservationRow Doc => row.reservedOn day)
    (fun j other hj => (h.rows j other hj).reservedOn_nonneg) hid

variable {row' : ObservationRow Doc} {findings : Dict String (List (BrowserFinding Doc))}

theorem ObservationDb.Balanced.changes (h : db.Balanced)
    (hid : db.observations.get id = some row) (hsound : row'.Sound)
    (hday : row'.budgetDay.all days.has = true) (hdays : ∀ day, db.days.has day = true → days.has day = true)
    (hreserved : ∀ day, reservedOn days day = reservedOn db.days day + (row'.reservedOn day - row.reservedOn day))
    (hused : ∀ day, usedOn days day = usedOn db.days day + (row'.usedOn day - row.usedOn day)) :
    (⟨db.observations.set id row', findings, days⟩ : ObservationDb Doc).Balanced := by
  refine ⟨?_, ?_, ?_, ?_⟩
  · intro j other hj
    simp only [Dict.get_set] at hj
    split at hj
    · cases hj; exact hsound
    · exact h.rows j other hj
  · intro j other day hj hother
    rcases Dict.of_get_set hj with ⟨-, rfl⟩ | ⟨-, hj⟩
    · simpa [hother] using hday
    · exact hdays day (h.known j other day hj hother)
  · intro day
    rw [hreserved day, h.reserved day]
    exact (Dict.amount_set_of_get (fun row : ObservationRow Doc => row.reservedOn day) hid).symm
  · intro day
    rw [hused day, h.used day]
    exact (Dict.amount_set_of_get (fun row : ObservationRow Doc => row.usedOn day) hid).symm

theorem ObservationDb.Balanced.keeps (h : db.Balanced)
    (hid : db.observations.get id = some row) (hstatus : row'.status.terminal = row.status.terminal)
    (hday : row'.budgetDay = row.budgetDay) (hreserved : row'.budgetReservedUsd = row.budgetReservedUsd)
    (husage : row'.usageUsd = row.usageUsd) : (db.puts id row').Balanced := by
  have hsound := h.rows id row hid
  refine h.changes hid ⟨?_, ?_, ?_, ?_, ?_⟩ ?_ (fun _ hd => hd) (fun day => ?_) (fun day => ?_)
  · rw [hreserved]; exact hsound.reserved
  · rw [husage]; exact hsound.used
  · rw [hday, hreserved]; exact hsound.onADay
  · rw [hstatus, husage]; exact hsound.unused
  · rw [hstatus, hday, hreserved]; exact hsound.kept
  · rw [hday]
    cases hd : row.budgetDay with
    | none => rfl
    | some day => exact h.known id row day hid hd
  · simp [ObservationRow.reservedOn, hday, hreserved]
  · simp [ObservationRow.usedOn, hday, husage]

theorem ObservationDb.Balanced.enqueues (h : db.Balanced) (operationId actorId actorBuild : String)
    (t : Int) : (db.enqueue id operationId actorId actorBuild t).Balanced := by
  unfold ObservationDb.enqueue
  split
  · exact h
  · next hnew =>
    have hnone : db.observations.get id = none := by simpa [Dict.has] using hnew
    refine ⟨?_, ?_, ?_, ?_⟩
    · intro j other hj
      rcases Dict.of_get_set hj with ⟨-, rfl⟩ | ⟨-, hj⟩
      · exact ⟨le_rfl, le_rfl, fun _ => rfl, fun _ => rfl, by rintro - ⟨⟩⟩
      · exact h.rows j other hj
    · intro j other day hj hother
      rcases Dict.of_get_set hj with ⟨-, rfl⟩ | ⟨-, hj⟩
      · cases hother
      · exact h.known j other day hj hother
    · intro day
      rw [h.reserved day]
      refine ((Dict.amount_set_of_none _ hnone).trans ?_).symm
      simp [ObservationRow.reservedOn]
    · intro day
      rw [h.used day]
      refine ((Dict.amount_set_of_none _ hnone).trans ?_).symm
      simp [ObservationRow.usedOn]

/-! ## What an operation does to a day -/

variable {settledUsd usageUsd : Rat} {t : Int}

theorem ObservationDb.reservedOn_settleDay
    (hday : db.days.has day = true) (hle : settledUsd ≤ reservedOn db.days day) (other : Int) :
    reservedOn (db.settleDay (some day) settledUsd usageUsd t) other =
      reservedOn db.days other - if day = other then settledUsd else 0 := by
  obtain ⟨totals, htotals⟩ := Option.isSome_iff_exists.1 hday
  have hle : settledUsd ≤ totals.reservedUsd := by simpa [reservedOn, htotals] using hle
  unfold ObservationDb.settleDay
  simp only [htotals]
  by_cases ho : day = other
  · subst ho
    simp [reservedOn, htotals, hle]
  · simp [reservedOn, Dict.get_set_ne _ _ (Ne.symm ho), ho]

theorem ObservationDb.usedOn_settleDay (hday : db.days.has day = true) (other : Int) :
    usedOn (db.settleDay (some day) settledUsd usageUsd t) other =
      usedOn db.days other + if day = other then usageUsd else 0 := by
  obtain ⟨totals, htotals⟩ := Option.isSome_iff_exists.1 hday
  unfold ObservationDb.settleDay
  simp only [htotals]
  by_cases ho : day = other
  · subst ho
    simp [usedOn, htotals]
  · simp [usedOn, Dict.get_set_ne _ _ (Ne.symm ho), ho]

theorem ObservationDb.has_settleDay {of : Option Int}
    (hday : db.days.has day = true) : (db.settleDay of settledUsd usageUsd t).has day = true := by
  unfold ObservationDb.settleDay
  split
  · exact hday
  · split
    · exact hday
    · simp only [Dict.has, Dict.get_set] at hday ⊢
      split
      · rfl
      · exact hday

/-- An observation settles with its day: it gives back of its reservation, and takes on usage, as much as
the day. -/
theorem ObservationDb.Balanced.settles {addedUsd : Rat} (h : db.Balanced) (hid : db.observations.get id = some row)
    (hsound : row'.Sound) (hday : row'.budgetDay = row.budgetDay) (hle : settledUsd ≤ row.budgetReservedUsd)
    (hreserved : row'.budgetReservedUsd = row.budgetReservedUsd - settledUsd)
    (hused : row'.usageUsd.getD 0 = row.usageUsd.getD 0 + addedUsd) :
    (⟨db.observations.set id row', findings, db.settleDay row.budgetDay settledUsd addedUsd t⟩ :
      ObservationDb Doc).Balanced := by
  cases hd : row.budgetDay with
  | none =>
    rw [hd] at hday
    refine h.changes hid hsound (by rw [hday]; rfl) (fun _ hd => hd) (fun day => ?_) (fun day => ?_)
    · simp [ObservationRow.reservedOn, hd, hday, ObservationDb.settleDay]
    · simp [ObservationRow.usedOn, hd, hday, ObservationDb.settleDay]
  | some paid =>
    have hhas := h.known id row paid hid hd
    have hpaid : settledUsd ≤ reservedOn db.days paid := by
      have := h.le_reservedOn hid paid
      simp only [ObservationRow.reservedOn, hd, if_true] at this
      exact hle.trans this
    rw [hd] at hday
    refine h.changes hid hsound ?_ (fun _ => has_settleDay) (fun day => ?_) (fun day => ?_)
    · rw [hday]; exact has_settleDay hhas
    · rw [reservedOn_settleDay hhas hpaid, ObservationRow.reservedOn, ObservationRow.reservedOn, hday, hd, hreserved]
      by_cases ho : paid = day
      · simp only [ho, if_true]; ring
      · simp [ho]
    · rw [usedOn_settleDay hhas, ObservationRow.usedOn, ObservationRow.usedOn, hday, hd, hused]
      by_cases ho : paid = day
      · simp only [ho, if_true]; ring
      · simp [ho]

/-! ## What an operation does to the ledger -/

theorem actualUsageUsd_nonneg {value : Option Rat} {reservedUsd : Rat} (h : 0 ≤ reservedUsd) :
    0 ≤ actualUsageUsd value reservedUsd := by
  unfold actualUsageUsd
  split
  · split
    · next hv => exact le_min hv (by norm_num)
    · exact h
  · exact h

theorem ObservationDb.remainingReservation_eq (reservedUsd usageUsd : Rat) :
    remainingReservation reservedUsd usageUsd = reservedUsd - min reservedUsd usageUsd :=
  max_eq_right (sub_nonneg.2 (min_le_left _ _))

theorem ObservationDb.settledAtTheEnd_eq (hsound : row.Sound) (hopen : row.status.terminal = false)
    (usageUsd : Rat) (t : Int) : db.settledAtTheEnd row usageUsd t =
      db.settleDay row.budgetDay (min row.budgetReservedUsd usageUsd) usageUsd t := by
  unfold ObservationDb.settledAtTheEnd
  split
  · rfl
  · next hnone =>
    cases hd : row.budgetDay with
    | none => rfl
    | some day => exact absurd (hsound.kept hopen (by rw [hd]; rfl)) hnone

section

variable (h : db.Balanced)
include h

namespace ObservationDb.Balanced

theorem ends (hid : db.observations.get id = some row) (hopen : row.status.terminal = false)
    (hover : row'.status.terminal = true) (hday : row'.budgetDay = row.budgetDay)
    (hused : row'.usageUsd = some usageUsd) (husage : 0 ≤ usageUsd)
    (hreserved : row'.budgetReservedUsd = remainingReservation row.budgetReservedUsd usageUsd) :
    (⟨db.observations.set id row', findings, db.settledAtTheEnd row usageUsd t⟩ : ObservationDb Doc).Balanced := by
  have hsound := h.rows id row hid
  rw [remainingReservation_eq] at hreserved
  rw [settledAtTheEnd_eq hsound hopen]
  refine h.settles hid ⟨?_, ?_, ?_, ?_, ?_⟩ hday (min_le_left _ _) hreserved ?_
  · rw [hreserved]; exact sub_nonneg.2 (min_le_left _ _)
  · rw [hused]; exact husage
  · intro hnone
    rw [hreserved, hsound.onADay (hday ▸ hnone), min_eq_left husage, sub_zero]
  · intro hnot; rw [hover] at hnot; cases hnot
  · intro hnot; rw [hover] at hnot; cases hnot
  · rw [hused, hsound.unused hopen]
    simp

theorem reconciles {deltaUsd : Rat}
    (hid : db.observations.get id = some row) (hover : row.status.terminal = true)
    (hdelta : 0 ≤ deltaUsd) (husage : usageUsd = row.usageUsd.getD 0 + deltaUsd) (t : Int) :
    (db.reconciled id row usageUsd deltaUsd t).1.Balanced := by
  have hsound := h.rows id row hid
  refine h.settles hid ⟨le_rfl, ?_, fun _ => rfl, ?_, ?_⟩ rfl le_rfl (sub_self _).symm husage
  · rw [husage]; exact add_nonneg hsound.used hdelta
  · intro hnot; cases hover.symm.trans hnot
  · intro hnot; cases hover.symm.trans hnot

theorem claims (job : BrowserObservationJob)
    (now leaseMs : Int) (leaseToken : String) : (db.claim job now leaseMs leaseToken).1.Balanced := by
  unfold ObservationDb.claim
  split
  · exact h
  · next row hid =>
    split
    · exact h
    · split
      · exact h
      · next hopen =>
        split
        · exact h
        · exact h.keeps hid (by simpa [ObservationStatus.terminal] using hopen) rfl rfl rfl

theorem attaches (id leaseToken runId : String)
    (t leaseMs : Int) : (db.attachRun id leaseToken runId t leaseMs).1.Balanced := by
  unfold ObservationDb.attachRun
  split
  · exact h
  · next row hid =>
    split
    · next hheld => exact h.keeps hid (by simp [hheld.1, ObservationStatus.terminal]) rfl rfl rfl
    · split <;> exact h

theorem beats (id leaseToken : String) (t leaseMs : Int) :
    (db.heartbeat id leaseToken t leaseMs).1.Balanced := by
  unfold ObservationDb.heartbeat
  split
  · exact h
  · next row hid =>
    split
    · exact h.keeps hid rfl rfl rfl rfl
    · exact h

theorem cleans (id runId : String) (t : Int) :
    (db.markStorageCleaned id runId t).1.Balanced := by
  unfold ObservationDb.markStorageCleaned
  split
  · exact h
  · next row hid =>
    split
    · exact h.keeps hid rfl rfl rfl rfl
    · exact h

theorem reserves (id leaseToken : String)
    {maxRunUsd : Rat} (hmax : 0 < maxRunUsd) (dailyBudgetUsd : Rat) (t : Int) :
    (db.reserveDailyBudget id leaseToken maxRunUsd dailyBudgetUsd t).1.Balanced := by
  -- A day that gets a row keeps what is reserved and used there.
  have totals (day : Int) : (db.dayTotals day t).reservedUsd = reservedOn db.days day ∧
      (db.dayTotals day t).usageUsd = usedOn db.days day := by
    unfold ObservationDb.dayTotals reservedOn usedOn
    cases db.days.get day <;> exact ⟨rfl, rfl⟩
  have grown (totals : BudgetDayRow) (day other : Int) (hother : db.days.has other = true) :
      (db.days.set day totals).has other = true := by
    simp only [Dict.has, Dict.get_set] at hother ⊢
    split
    · rfl
    · exact hother
  unfold ObservationDb.reserveDailyBudget
  split
  · exact h
  · next row hid =>
    split
    · exact h
    · next hheld =>
      split
      · exact h
      · next hfree =>
        have hsound := h.rows id row hid
        have hactive : row.status.active = true := by
          simp only [Bool.not_eq_true', Bool.not_eq_false, Bool.and_eq_true] at hheld
          exact hheld.2
        have hopen : row.status.terminal = false := by
          cases hs : row.status <;> rw [hs] at hactive <;> first | rfl | cases hactive
        -- It has no day yet: one it had would keep its reservation.
        have hday : row.budgetDay = none := by
          cases hd : row.budgetDay with
          | none => rfl
          | some day => exact absurd (hsound.kept hopen (by rw [hd]; rfl)) hfree
        dsimp only
        split
        · refine ⟨h.rows, fun j other day hj hd => grown _ _ _ (h.known j other day hj hd),
            fun day => ?_, fun day => ?_⟩
          · rw [← h.reserved day]
            by_cases ho : day = utcBudgetDay t
            · subst ho
              rw [← (totals _).1]
              simp [reservedOn]
            · simp [reservedOn, Dict.get_set_ne _ _ ho]
          · rw [← h.used day]
            by_cases ho : day = utcBudgetDay t
            · subst ho
              rw [← (totals _).2]
              simp [usedOn]
            · simp [usedOn, Dict.get_set_ne _ _ ho]
        · refine h.changes hid ⟨hmax.le, hsound.used, by rintro ⟨⟩, hsound.unused,
            fun _ _ => hmax⟩ ?_ (grown _ _) (fun day => ?_) (fun day => ?_)
          · simp [Dict.has]
          · by_cases ho : day = utcBudgetDay t
            · subst ho
              simp [reservedOn, ObservationRow.reservedOn, hday, (totals _).1]
            · simp [reservedOn, ObservationRow.reservedOn, hday, Dict.get_set_ne _ _ ho, Ne.symm ho]
          · by_cases ho : day = utcBudgetDay t
            · subst ho
              simp [usedOn, ObservationRow.usedOn, hday, (totals _).2, hsound.unused hopen]
            · simp [usedOn, ObservationRow.usedOn, hday, Dict.get_set_ne _ _ ho, Ne.symm ho]

theorem completes (id leaseToken : String)
    (output : BrowserOutput Doc) (usage : Option Rat) (t : Int) :
    (db.complete id leaseToken output usage t).1.Balanced := by
  unfold ObservationDb.complete
  split
  · exact h
  · next row hid =>
    split
    · exact h
    · next hheld =>
      simp only [not_or] at hheld
      have hopen : row.status.terminal = false := by
        cases hs : row.status <;> first | rfl | exact absurd (by rw [hs]; rfl) hheld.2.2
      refine h.ends hid hopen ?_ rfl rfl (actualUsageUsd_nonneg (h.rows id row hid).reserved) rfl
      cases output.status <;> rfl

theorem givesUp (id leaseToken : String) (status : GivenUp)
    (failureCode : String) (usage : Option Rat) (t : Int) :
    (db.markTerminal id leaseToken status failureCode usage t).1.Balanced := by
  unfold ObservationDb.markTerminal
  split
  · exact h
  · next row hid =>
    split
    · exact h
    · next hheld =>
      simp only [not_or, Bool.not_eq_true] at hheld
      refine h.ends hid hheld.2 ?_ rfl rfl (actualUsageUsd_nonneg (h.rows id row hid).reserved) rfl
      cases status <;> rfl

theorem reconcilesUsage (id runId : String)
    (usage : Option Rat) (t : Int) : (db.reconcileUsage id runId usage t).1.Balanced := by
  unfold ObservationDb.reconcileUsage
  split
  · exact h
  · next row hid =>
    split
    · exact h
    · next hover =>
      simp only [not_or, Bool.not_eq_false] at hover
      refine h.reconciles hid hover.2 (le_max_left _ _) ?_ t
      rw [max_eq_right (sub_nonneg.2 (le_max_left _ _)), add_sub_cancel]

theorem settlesUsage (id : String) (t : Int) :
    (db.settleUsageConservatively id t).1.Balanced := by
  unfold ObservationDb.settleUsageConservatively
  split
  · exact h
  · next row hid =>
    split
    · exact h
    · next hover => exact h.reconciles hid (by simpa using hover) (h.rows id row hid).reserved rfl t

end ObservationDb.Balanced

end

end

/-! ## The ledger over a run -/

/-- The operations, with all they are called with. -/
inductive LedgerAction (Doc : Type) where
  | enqueues (id operationId actorId actorBuild : String) (t : Int)
  | claims (job : BrowserObservationJob) (now leaseMs : Int) (leaseToken : String)
  | attaches (id leaseToken runId : String) (t leaseMs : Int)
  | beats (id leaseToken : String) (t leaseMs : Int)
  | reserves (id leaseToken : String) (maxRunUsd dailyBudgetUsd : Rat) (t : Int)
  | completes (id leaseToken : String) (output : BrowserOutput Doc) (usage : Option Rat) (t : Int)
  | givesUp (id leaseToken : String) (status : ObservationDb.GivenUp) (failureCode : String)
      (usage : Option Rat) (t : Int)
  | reconciles (id runId : String) (usage : Option Rat) (t : Int)
  | settles (id : String) (t : Int)
  | cleans (id runId : String) (t : Int)

/-- The tables, with the largest budget each day was reserved under. -/
structure BudgetLedger (Doc : Type) where
  db : ObservationDb Doc
  largest : Dict Int Rat

namespace BudgetLedger

variable {Doc : Type} (s : BudgetLedger Doc)

/-- The largest budget a day was reserved under. -/
def largestOn (day : Int) : Rat := (s.largest.get day).getD 0

/-- The largest budgets after a reservation, where one was made. -/
def noted (id : String) (dailyBudgetUsd : Rat) (t : Int) : BudgetAnswer → Dict Int Rat
  | .reserved =>
    match s.db.observations.get id with
    | none => s.largest
    | some row =>
      if 0 < row.budgetReservedUsd then s.largest
      else s.largest.set (utcBudgetDay t) (max (s.largestOn (utcBudgetDay t)) dailyBudgetUsd)
  | _ => s.largest

/-- One operation. The price of a run is above nothing. -/
def step : LedgerAction Doc → Except Unit (BudgetLedger Doc × List Empty)
  | .enqueues id operationId actorId actorBuild t =>
    .ok ({ s with db := s.db.enqueue id operationId actorId actorBuild t }, [])
  | .claims job now leaseMs leaseToken => .ok ({ s with db := (s.db.claim job now leaseMs leaseToken).1 }, [])
  | .attaches id leaseToken runId t leaseMs =>
    .ok ({ s with db := (s.db.attachRun id leaseToken runId t leaseMs).1 }, [])
  | .beats id leaseToken t leaseMs => .ok ({ s with db := (s.db.heartbeat id leaseToken t leaseMs).1 }, [])
  | .reserves id leaseToken maxRunUsd dailyBudgetUsd t =>
    if maxRunUsd ≤ 0 then .error ()
    else
      let came := s.db.reserveDailyBudget id leaseToken maxRunUsd dailyBudgetUsd t
      .ok (⟨came.1, s.noted id dailyBudgetUsd t came.2⟩, [])
  | .completes id leaseToken output usage t =>
    .ok ({ s with db := (s.db.complete id leaseToken output usage t).1 }, [])
  | .givesUp id leaseToken status failureCode usage t =>
    .ok ({ s with db := (s.db.markTerminal id leaseToken status failureCode usage t).1 }, [])
  | .reconciles id runId usage t => .ok ({ s with db := (s.db.reconcileUsage id runId usage t).1 }, [])
  | .settles id t => .ok ({ s with db := (s.db.settleUsageConservatively id t).1 }, [])
  | .cleans id runId t => .ok ({ s with db := (s.db.markStorageCleaned id runId t).1 }, [])

/-- A report does not go beyond what an observation that is paid from a day has recorded and reserved. -/
def Covers (id : String) (usage : Option Rat) : Prop :=
  ∀ row value, s.db.observations.get id = some row → row.budgetDay.isSome = true →
    usage = some value → value ≤ row.usageUsd.getD 0 + row.budgetReservedUsd

/-- The condition of a step: what it reports is covered. -/
def Covered : LedgerAction Doc → Prop
  | .completes id _ _ usage _ | .givesUp id _ _ _ usage _ | .reconciles id _ usage _ => s.Covers id usage
  | _ => True

end BudgetLedger

def ledgerMachine (Doc : Type) : Reactor (BudgetLedger Doc) (LedgerAction Doc) Empty Unit := ⟨BudgetLedger.step⟩

def ledgerRun {Doc : Type} (actions : List (LedgerAction Doc)) : BudgetLedger Doc :=
  (ledgerMachine Doc).run ⟨.empty, .empty⟩ actions

section
variable {Doc : Type} {s s' : BudgetLedger Doc} {action : LedgerAction Doc} {out : List Empty}
  {db : ObservationDb Doc} {row : ObservationRow Doc} {day : Int} {id : String}

theorem BudgetLedger.step_balanced (h : s.db.Balanced) (hstep : s.step action = .ok (s', out)) : s'.db.Balanced := by
  cases action with
  | enqueues id operationId actorId actorBuild t => cases hstep; exact h.enqueues _ _ _ _
  | claims job now leaseMs leaseToken => cases hstep; exact h.claims _ _ _ _
  | attaches id leaseToken runId t leaseMs => cases hstep; exact h.attaches _ _ _ _ _
  | beats id leaseToken t leaseMs => cases hstep; exact h.beats _ _ _ _
  | reserves id leaseToken maxRunUsd dailyBudgetUsd t =>
    simp only [step] at hstep
    split at hstep
    · cases hstep
    · next hmax => cases hstep; exact h.reserves _ _ (not_le.1 hmax) _ _
  | completes id leaseToken output usage t => cases hstep; exact h.completes _ _ _ _ _
  | givesUp id leaseToken status failureCode usage t => cases hstep; exact h.givesUp _ _ _ _ _ _
  | reconciles id runId usage t => cases hstep; exact h.reconcilesUsage _ _ _ _
  | settles id t => cases hstep; exact h.settlesUsage _ _
  | cleans id runId t => cases hstep; exact h.cleans _ _ _

theorem ledgerRun_balanced (actions : List (LedgerAction Doc)) : (ledgerRun actions).db.Balanced :=
  (ledgerMachine Doc).run_induction (P := fun s => s.db.Balanced)
    (fun h hstep => BudgetLedger.step_balanced h hstep)
    ⟨fun _ _ h => (by cases h), fun _ _ _ h => (by cases h), fun _ => rfl, fun _ => rfl⟩ actions

/-! ## A day stays within its budget -/

def comesTo (days : Dict Int BudgetDayRow) (day : Int) : Rat := reservedOn days day + usedOn days day

variable {usageUsd : Rat} {usage : Option Rat}

theorem ObservationDb.Balanced.comesTo_settleDay (h : db.Balanced) (hid : db.observations.get id = some row)
    {settledUsd : Rat} {t : Int} (hle : settledUsd ≤ row.budgetReservedUsd) (day : Int) :
    comesTo (db.settleDay row.budgetDay settledUsd usageUsd t) day =
      comesTo db.days day + if row.budgetDay = some day then usageUsd - settledUsd else 0 := by
  cases hd : row.budgetDay with
  | none => simp [ObservationDb.settleDay]
  | some paid =>
    have hpaid : settledUsd ≤ reservedOn db.days paid := by
      have := h.le_reservedOn hid paid
      simp only [ObservationRow.reservedOn, hd, if_true] at this
      exact hle.trans this
    have hhas := h.known id row paid hid hd
    unfold comesTo
    rw [reservedOn_settleDay hhas hpaid, usedOn_settleDay hhas]
    by_cases ho : paid = day
    · simp only [ho, if_true]; ring
    · simp [ho]

theorem actualUsageUsd_le {reservedUsd most : Rat} (hle : reservedUsd ≤ most)
    (h : ∀ value, usage = some value → value ≤ most) : actualUsageUsd usage reservedUsd ≤ most := by
  unfold actualUsageUsd
  split
  · next value =>
    split
    · exact (min_le_left _ _).trans (h value rfl)
    · exact hle
  · exact hle

theorem ObservationDb.Balanced.comesTo_ends (h : db.Balanced) (hid : db.observations.get id = some row)
    (hopen : row.status.terminal = false) (t : Int)
    (hcovered : row.budgetDay.isSome = true → ∀ value, usage = some value →
      value ≤ row.usageUsd.getD 0 + row.budgetReservedUsd) (day : Int) :
    comesTo (db.settledAtTheEnd row (actualUsageUsd usage row.budgetReservedUsd) t) day ≤ comesTo db.days day := by
  have hsound := h.rows id row hid
  rw [settledAtTheEnd_eq hsound hopen, h.comesTo_settleDay hid (min_le_left _ _)]
  split
  · next hday =>
    have hle : actualUsageUsd usage row.budgetReservedUsd ≤ row.budgetReservedUsd := by
      refine actualUsageUsd_le le_rfl fun value hv => ?_
      have := hcovered (by rw [hday]; rfl) value hv
      rwa [hsound.unused hopen, Option.getD_none, zero_add] at this
    rw [min_eq_right hle, sub_self, add_zero]
  · rw [add_zero]

theorem ObservationDb.Balanced.comesTo_reconciles (h : db.Balanced) (hid : db.observations.get id = some row)
    {deltaUsd : Rat} (t : Int) (hdelta : row.budgetDay.isSome = true → deltaUsd ≤ row.budgetReservedUsd) (day : Int) :
    comesTo (db.reconciled id row usageUsd deltaUsd t).1.days day ≤ comesTo db.days day := by
  show comesTo (db.settleDay _ _ _ _) day ≤ _
  rw [h.comesTo_settleDay hid le_rfl]
  split
  · next hday =>
    have := hdelta (by rw [hday]; rfl)
    linarith
  · rw [add_zero]

/-- Every day stays within the largest budget it was reserved under. -/
def BudgetLedger.Within (s : BudgetLedger Doc) : Prop := ∀ day, comesTo s.db.days day ≤ s.largestOn day

theorem BudgetLedger.Within.of_le (h : s.Within) (hlargest : s'.largest = s.largest)
    (hle : ∀ day, comesTo s'.db.days day ≤ comesTo s.db.days day) : s'.Within := by
  intro day
  unfold largestOn
  rw [hlargest]
  exact (hle day).trans (h day)

theorem BudgetLedger.Within.reserves (h : s.Within) (id leaseToken : String)
    (maxRunUsd dailyBudgetUsd : Rat) (t : Int) : BudgetLedger.Within
      ⟨(s.db.reserveDailyBudget id leaseToken maxRunUsd dailyBudgetUsd t).1, s.noted id dailyBudgetUsd t
          (s.db.reserveDailyBudget id leaseToken maxRunUsd dailyBudgetUsd t).2⟩ := by
  have totals (day : Int) : (s.db.dayTotals day t).reservedUsd + (s.db.dayTotals day t).usageUsd =
      comesTo s.db.days day := by
    unfold ObservationDb.dayTotals comesTo reservedOn usedOn
    cases s.db.days.get day <;> rfl
  unfold ObservationDb.reserveDailyBudget
  split
  · exact h
  · next row hid =>
    split
    · exact h
    · split
      · next hkept =>
        refine h.of_le ?_ fun day => le_rfl
        simp [noted, hid, hkept]
      · next hfree =>
        dsimp only
        split
        · refine h.of_le rfl fun day => ?_
          by_cases ho : day = utcBudgetDay t
          · subst ho
            rw [← totals]
            simp [comesTo, reservedOn, usedOn]
          · simp [comesTo, reservedOn, usedOn, Dict.get_set_ne _ _ ho]
        · next hroom =>
          intro day
          simp only [largestOn, noted, hid, hfree, if_false]
          by_cases ho : day = utcBudgetDay t
          · subst ho
            simp only [comesTo, reservedOn, usedOn, Dict.get_set_self, Option.map_some, Option.getD_some]
            refine le_trans ?_ (le_max_right _ _)
            linarith [not_lt.1 hroom]
          · have hday := h day
            simp only [comesTo, reservedOn, usedOn, largestOn] at hday ⊢
            rw [Dict.get_set_ne _ _ ho, Dict.get_set_ne _ _ ho]
            exact hday

theorem BudgetLedger.step_within (hb : s.db.Balanced) (h : s.Within) (hc : s.Covered action)
    (hstep : s.step action = .ok (s', out)) : s'.Within := by
  cases action with
  | enqueues id operationId actorId actorBuild t =>
    cases hstep
    refine h.of_le rfl fun day => le_of_eq ?_
    unfold ObservationDb.enqueue
    split <;> rfl
  | claims job now leaseMs leaseToken =>
    cases hstep
    refine h.of_le rfl fun day => le_of_eq ?_
    unfold ObservationDb.claim
    repeat' split
    all_goals rfl
  | attaches id leaseToken runId t leaseMs =>
    cases hstep
    refine h.of_le rfl fun day => le_of_eq ?_
    unfold ObservationDb.attachRun
    repeat' split
    all_goals rfl
  | beats id leaseToken t leaseMs =>
    cases hstep
    refine h.of_le rfl fun day => le_of_eq ?_
    unfold ObservationDb.heartbeat
    repeat' split
    all_goals rfl
  | cleans id runId t =>
    cases hstep
    refine h.of_le rfl fun day => le_of_eq ?_
    unfold ObservationDb.markStorageCleaned
    repeat' split
    all_goals rfl
  | reserves id leaseToken maxRunUsd dailyBudgetUsd t =>
    simp only [step] at hstep
    split at hstep
    · cases hstep
    · cases hstep; exact h.reserves _ _ _ _ _
  | completes id leaseToken output usage t =>
    cases hstep
    refine h.of_le rfl fun day => ?_
    unfold ObservationDb.complete
    split
    · exact le_rfl
    · next row hid =>
      split
      · exact le_rfl
      · next hheld =>
        simp only [not_or] at hheld
        have hopen : row.status.terminal = false := by
          cases hs : row.status <;> first | rfl | exact absurd (by rw [hs]; rfl) hheld.2.2
        exact hb.comesTo_ends hid hopen t (fun hday value hv => hc row value hid hday hv) day
  | givesUp id leaseToken status failureCode usage t =>
    cases hstep
    refine h.of_le rfl fun day => ?_
    unfold ObservationDb.markTerminal
    split
    · exact le_rfl
    · next row hid =>
      split
      · exact le_rfl
      · next hheld =>
        simp only [not_or, Bool.not_eq_true] at hheld
        exact hb.comesTo_ends hid hheld.2 t (fun hday value hv => hc row value hid hday hv) day
  | reconciles id runId usage t =>
    cases hstep
    refine h.of_le rfl fun day => ?_
    unfold ObservationDb.reconcileUsage
    split
    · exact le_rfl
    · next row hid =>
      split
      · exact le_rfl
      · refine hb.comesTo_reconciles hid t (fun hday => ?_) day
        have hsound := hb.rows id row hid
        refine max_le hsound.reserved (sub_le_iff_le_add'.2 (max_le ?_ ?_))
        · linarith [hsound.reserved]
        · refine actualUsageUsd_le ?_ fun value hv => hc row value hid hday hv
          linarith [hsound.reserved, hsound.used]
  | settles id t =>
    cases hstep
    refine h.of_le rfl fun day => ?_
    unfold ObservationDb.settleUsageConservatively
    split
    · exact le_rfl
    · next row hid =>
      split
      · exact le_rfl
      · exact hb.comesTo_reconciles hid t (fun _ => le_rfl) day

end

/-- **The budget ledger balances.** After any operations of any callers at any instants: of every day as much
is reserved and used as its observations have reserved and used, and as much is reserved as any one of them
could give back. And where every report is covered by what its observation has recorded and reserved, no
day comes to more than the largest budget it was reserved under. -/
theorem budget_balances {Doc : Type} (actions : List (LedgerAction Doc)) :
    let s := ledgerRun actions
    (∀ day, reservedOn s.db.days day = s.db.observations.amount (·.reservedOn day) ∧
      usedOn s.db.days day = s.db.observations.amount (·.usedOn day)) ∧
    (∀ id row day, s.db.observations.get id = some row → row.budgetDay = some day →
      row.budgetReservedUsd ≤ reservedOn s.db.days day) ∧
    ((ledgerMachine Doc).Meets BudgetLedger.Covered ⟨.empty, .empty⟩ actions →
      ∀ day, comesTo s.db.days day ≤ s.largestOn day) := by
  intro s
  have hb : s.db.Balanced := ledgerRun_balanced actions
  refine ⟨fun day => ⟨hb.reserved day, hb.used day⟩, ?_, fun hc => ?_⟩
  · intro id row day hid hday
    have := hb.le_reservedOn hid day
    simpa [ObservationRow.reservedOn, hday] using this
  · exact ((ledgerMachine Doc).run_induction_meeting
      (P := fun s => s.db.Balanced ∧ s.Within)
      (fun h hc hstep => ⟨BudgetLedger.step_balanced h.1 hstep, BudgetLedger.step_within h.1 h.2 hc hstep⟩)
      ⟨ledgerRun_balanced [], fun _ => le_of_eq (add_zero (0 : Rat))⟩ actions hc).2

/-- An observation is queued and claimed, and the price of its run is reserved. -/
def budgetedRun (id : String) (maxRunUsd : Rat) : List (LedgerAction Unit) :=
  [.enqueues id id "actor" "1.0.42" 0, .claims ⟨id, id, 1⟩ 0 90000 id, .reserves id id maxRunUsd 1 0]

/-- A run that is reported within its reservation leaves its day within the budget. -/
theorem budget_balances_once :
    comesTo (ledgerRun (budgetedRun "a" 1 ++
      [.givesUp "a" "a" .failed "provider_failed" (some (1 / 2)) 1])).db.days 0 ≤ 1 := by
  have h := (budget_balances (budgetedRun "a" 1 ++
    [.givesUp "a" "a" .failed "provider_failed" (some (1 / 2)) 1])).2.2 ?_ 0
  · exact h.trans (by decide +kernel)
  · have hroom : ((ledgerRun (budgetedRun "a" 1)).db.observations.get "a").all (fun row =>
        decide (1 / 2 ≤ row.usageUsd.getD 0 + row.budgetReservedUsd)) = true := by decide +kernel
    refine ⟨trivial, trivial, trivial, ?_, trivial⟩
    intro row value hrow _ hvalue
    have hrow : (ledgerRun (budgetedRun "a" 1)).db.observations.get "a" = some row := hrow
    rw [hrow] at hroom
    cases hvalue
    simpa using hroom

/-- A run that is reported twice, each time within its reservation, takes the day past the budget: another
run has reserved what the first report gave back. -/
theorem reported_twice :
    let s := ledgerRun (budgetedRun "a" 1 ++
      [.attaches "a" "a" "run" 0 90000, .givesUp "a" "a" .failed "provider_failed" (some (1 / 5)) 1,
        .reconciles "a" "run" (some (1 / 5)) 2] ++ budgetedRun "b" (4 / 5) ++
      [.reconciles "a" "run" (some (1 / 2)) 3])
    s.largestOn 0 = 1 ∧ comesTo s.db.days 0 = 13 / 10 := by
  decide +kernel

end Coinslot
