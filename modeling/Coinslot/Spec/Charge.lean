import Coinslot.Lib.Reactor

/-!
# What it means to charge a buyer once

The protocol of one authorisation to charge, in its own terms: five words are said about a charge and
a monitor reads them. A charge may be executed only on a payment that checked out, only one execution
is unanswered at a time, a settled charge is never executed again, and a failed one is executed again
only once the purchase was repeated and its new payment checked out.

Every word the monitor reads has the four properties at the end of the module: `inFlight_count`,
`settled_last`, `executions_apart` and `executions_le_verified`. The words are read off a log of any
type by `letter`.
-/

namespace Coinslot.Spec

/-- What is said about the charge of one purchase. -/
inductive ChargeWord where
  | verified
  | execute
  | settled
  | failed
  | repeated
  deriving DecidableEq, Repr

/-- Where the charge stands. -/
inductive ChargeStage where
  /-- No payment has checked out yet. -/
  | fresh
  /-- A payment checked out and has not been executed. -/
  | cleared
  /-- The execution was asked for and has not been answered. -/
  | charging
  /-- The money moved. -/
  | captured
  /-- The execution failed. -/
  | refused
  /-- It failed, and the purchase was repeated since. -/
  | reopened
  deriving DecidableEq, Repr

/-- The protocol of a charge. A word it has no row for is one that must not be said. -/
def chargeProtocol : Monitor ChargeWord ChargeStage where
  next
    | .fresh, .verified => some .cleared
    | .fresh, .repeated => some .fresh
    | .cleared, .verified => some .cleared
    | .cleared, .repeated => some .cleared
    | .cleared, .execute => some .charging
    | .charging, .settled => some .captured
    | .charging, .failed => some .refused
    | .charging, .repeated => some .charging
    | .captured, .repeated => some .captured
    | .refused, .repeated => some .reopened
    | .reopened, .repeated => some .reopened
    | .reopened, .verified => some .cleared
    | _, _ => none

section
variable {β : Type} {letter : β → Option ChargeWord}

def said (letter : β → Option ChargeWord) (word : ChargeWord) (log : List β) : Nat :=
  log.countP fun b => letter b = some word

@[simp] theorem said_nil (word : ChargeWord) : said letter word [] = 0 := rfl

theorem said_concat (word : ChargeWord) (log : List β) (b : β) : said letter word (log ++ [b]) =
      said letter word log + if letter b = some word then 1 else 0 := by
  simp [said, List.countP_append, List.countP_cons]

variable {q : ChargeStage}

variable {q' : ChargeStage} {b x y : β}

/-- One letter of a log, read by the protocol: nothing about the charge was said, or a row of the
protocol was taken. -/
theorem charge_step (h : (chargeProtocol.along letter).next q b = some q') :
    (letter b = none ∧ q' = q) ∨ ∃ word, letter b = some word ∧ chargeProtocol.next q word = some q' := by
  cases hb : letter b with
  | none =>
    rw [chargeProtocol.along_next_none hb] at h
    exact .inl ⟨rfl, (Option.some.inj h).symm⟩
  | some word =>
    rw [chargeProtocol.along_next_some hb] at h
    exact .inr ⟨word, rfl, h⟩

/-- **At most one execution is out.** The executions exceed the answers to them by one while a
charge is out, and not otherwise. -/
theorem inFlight_count {log : List β} (h : (chargeProtocol.along letter).reads .fresh log = some q) :
    said letter .execute log =
      said letter .settled log + said letter .failed log + if q = .charging then 1 else 0 := by
  have := (chargeProtocol.along letter).reads_induction
    (P := fun q log => said letter .execute log =
      said letter .settled log + said letter .failed log + if q = .charging then 1 else 0)
    (u := []) (fun {q log b q'} ih hb => by
      simp only [said_concat]
      rcases charge_step hb with ⟨hn, rfl⟩ | ⟨word, hw, hrow⟩
      · simp [hn, ih]
      · cases q <;> cases word <;> cases hrow <;> simp_all <;> omega) rfl h
  simpa using this

theorem executions_le_verified {log : List β} (h : (chargeProtocol.along letter).reads .fresh log = some q) :
    said letter .execute log ≤ said letter .verified log := by
  have := (chargeProtocol.along letter).reads_induction
    (P := fun q log => said letter .execute log + (if q = .cleared then 1 else 0) ≤ said letter .verified log)
    (u := []) (fun {q log b q'} ih hb => by
      simp only [said_concat]
      rcases charge_step hb with ⟨hn, rfl⟩ | ⟨word, hw, hrow⟩
      · simpa [hn] using ih
      · cases q <;> cases word <;> cases hrow <;> simp_all; omega) (by simp) h
  simp only [List.nil_append] at this
  omega

theorem captured_stays {log : List β}
    (h : (chargeProtocol.along letter).reads .captured log = some q) : q = .captured := by
  by_contra hq
  obtain ⟨_, b, _, p, p', -, rfl, hnext, hp', -⟩ :=
    (chargeProtocol.along letter).exit (A := (· = .captured)) h rfl hq
  rcases charge_step hnext with ⟨-, rfl⟩ | ⟨word, -, hrow⟩
  · exact hp' rfl
  · cases word <;> cases hrow
    exact hp' rfl

theorem execute_step (hb : letter b = some .execute) (h : (chargeProtocol.along letter).next q b = some q') :
    q = .cleared ∧ q' = .charging := by
  rw [chargeProtocol.along_next_some hb] at h
  cases q <;> cases h
  exact ⟨rfl, rfl⟩

/-- **Settled is the last word.** No execution follows a settled charge. -/
theorem settled_last {before after : List β}
    (h : (chargeProtocol.along letter).reads .fresh (before ++ y :: after) = some q) (hy : letter y = some .execute)
    (hx : x ∈ before) : letter x ≠ some .settled := by
  intro hsettled
  obtain ⟨p, hp, hrest⟩ := Monitor.reads_append_inv _ h
  obtain ⟨p', hexec, -⟩ := Monitor.reads_cons_inv _ hrest
  obtain ⟨w₁, w₂, rfl⟩ := List.append_of_mem hx
  obtain ⟨r, -, hr⟩ := Monitor.reads_append_inv _ hp
  obtain ⟨r', hstep, hrest'⟩ := Monitor.reads_cons_inv _ hr
  rw [chargeProtocol.along_next_some hsettled] at hstep
  have hcap : r' = .captured := by cases r <;> cases hstep; rfl
  subst hcap
  have hpc : p = .captured := captured_stays hrest'
  cases hpc.symm.trans (execute_step hy hexec).1

/-- **Executions are apart.** Between two executions lie, in this order, a failed answer, a repeated
purchase and a payment that checked out. -/
theorem executions_apart {before between after : List β}
    (h : (chargeProtocol.along letter).reads .fresh (before ++ x :: (between ++ y :: after)) = some q)
    (hx : letter x = some .execute) (hy : letter y = some .execute) :
    ∃ w₁ a w₂ b w₃ c w₄, between = w₁ ++ a :: (w₂ ++ b :: (w₃ ++ c :: w₄)) ∧
      letter a = some .failed ∧ letter b = some .repeated ∧ letter c = some .verified := by
  obtain ⟨p, -, hrest⟩ := Monitor.reads_append_inv _ h
  obtain ⟨p', hexec, hrest⟩ := Monitor.reads_cons_inv _ hrest
  obtain ⟨-, rfl⟩ := execute_step hx hexec
  obtain ⟨r, hbetween, hrest⟩ := Monitor.reads_append_inv _ hrest
  obtain ⟨r', hexec', -⟩ := Monitor.reads_cons_inv _ hrest
  obtain ⟨rfl, -⟩ := execute_step hy hexec'
  -- The way from `charging` back to `cleared` leads through `refused` and `reopened`.
  obtain ⟨w₁, a, w₂, _, s₁, rfl, rfl, ha, hs₁, h₁⟩ := Monitor.exit _ (A := (· = .charging)) hbetween rfl (by simp)
  rcases charge_step ha with ⟨-, rfl⟩ | ⟨word, haw, hrow⟩
  · exact absurd rfl hs₁
  cases word <;> cases hrow
  · cases captured_stays h₁
  · obtain ⟨w₂, b, w₃, _, s₂, rfl, rfl, hb, hs₂, h₂⟩ := Monitor.exit _ (A := (· = .refused)) h₁ rfl (by simp)
    rcases charge_step hb with ⟨-, rfl⟩ | ⟨word, hbw, hrow⟩
    · exact absurd rfl hs₂
    cases word <;> cases hrow
    obtain ⟨w₃, c, w₄, _, s₃, rfl, rfl, hc, hs₃, -⟩ := Monitor.exit _ (A := (· = .reopened)) h₂ rfl (by simp)
    rcases charge_step hc with ⟨-, rfl⟩ | ⟨word, hcw, hrow⟩
    · exact absurd rfl hs₃
    cases word <;> cases hrow
    · exact ⟨w₁, a, w₂, b, w₃, c, w₄, rfl, haw, hbw, hcw⟩
    · exact absurd rfl hs₃
  · exact absurd rfl hs₁

end

end Coinslot.Spec
