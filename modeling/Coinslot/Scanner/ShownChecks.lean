import Coinslot.Scanner.OneAttempt
import Coinslot.Scanner.PublicOnly
import Coinslot.Scanner.Runner

/-!
# What is shown while a scan runs is what it ends with

No check is told of twice, and where a scan comes to an evaluation each of its checks was told of once, with the
result it has in the evaluation (`shown_as_ended`). A scan that throws, as it does where its robots file may
not be fetched, tells of no more than it got to (`hidden_site_shows_nothing`).

What was told of is kept by how far the scan is (`ShownSound`): the checks of a part read none of what is
fetched later, so their results stay as they were (`CheckSuite.mem_withPages`, `CheckSuite.mem_withRest`).
-/

namespace Coinslot

open List

/-- The results that were passed on. -/
def passedOf (log : List (Happening ScanRunAction ScanRunNotice)) : List CheckResult :=
  log.flatMap fun
    | .emitted (.passed results) => results
    | _ => []

/-- What was passed on is an evaluation: each of its checks once, with the same result. -/
structure ShownAsEnded (passed : List CheckResult) (evaluation : ScanEvaluation) : Prop where
  once : ∀ id ∈ CheckSuite.checkIds, (passed.map (·.id)).count id = 1
  same : ∀ shown ∈ passed, ∀ ended ∈ evaluation.checks, ended.id = shown.id → shown = ended

/-- Results of an evaluation with the identifiers of a list. -/
structure Shown (passed : List CheckResult) (ids : List Nat) (checks : List CheckResult) : Prop where
  ids : passed.map (·.id) = ids
  same : ∀ check ∈ passed, check ∈ checks

/-- What was passed on, by how far a scan is. -/
def ShownSound (L : ScanLib) (now : Int) (emitted : List Nat) (stage : ScanStage) (passed : List CheckResult) :
    Prop :=
  match stage with
  | .fetchesRobots _ => emitted = [] ∧ passed = []
  | .tellsRobots site results => emitted = [] ∧ results.map (·.id) = robotsPhaseIds ∧
      Shown passed robotsPhaseIds (L.suite.evaluateChecks site.initialArtifacts now)
  | .fetchesPages site _ => emitted = robotsPhaseIds ∧
      Shown passed robotsPhaseIds (L.suite.evaluateChecks site.initialArtifacts now)
  | .tellsPages _ artifacts results => emitted = robotsPhaseIds ∧ results.map (·.id) = pagesPhaseIds ∧
      Shown passed (robotsPhaseIds ++ pagesPhaseIds) (L.suite.evaluateChecks artifacts now)
  | .fetchesRest _ artifacts _ => emitted = robotsPhaseIds ++ pagesPhaseIds ∧
      Shown passed (robotsPhaseIds ++ pagesPhaseIds) (L.suite.evaluateChecks artifacts now)
  | .tellsRest _ evaluation _ =>
      Shown passed (robotsPhaseIds ++ pagesPhaseIds ++ [5, 6, 11, 12, 15]) evaluation.checks
  | .returned _ evaluation =>
      Shown passed (robotsPhaseIds ++ pagesPhaseIds ++ [5, 6, 11, 12, 15]) evaluation.checks
  | .threw _ => ∃ ids, ids.Nodup ∧ passed.map (·.id) = ids

variable {L : ScanLib} {job : ScanRunJob} {now : Int} {target : Url} {s s' : ScanRunner}
  {action : ScanRunAction} {out : List ScanRunNotice} {passed : List CheckResult} {emitted : List Nat}
  {stage : ScanStage}

theorem passedOf_step {log : List (Happening ScanRunAction ScanRunNotice)} :
    passedOf (log ++ Reactor.stepLog action out) = passedOf log ++ passedOf (out.map .emitted) := by
  simp [passedOf, Reactor.stepLog]

theorem passedOf_passes (results : List CheckResult) :
    passedOf ((ScanRunner.passes results).map .emitted) = results := by
  unfold ScanRunner.passes
  split
  · next hnone => rw [hnone]; rfl
  · simp [passedOf]

/-! ## What is told of -/

theorem ids_emits (s : ScanRunner) (artifacts : ScanArtifacts) (ids : List Nat) :
    (s.emits L now artifacts ids).map (·.id) =
      CheckSuite.checkIds.filter fun id => ids.contains id && !s.emitted.contains id := by
  rw [← L.suite.evaluateChecks_ids artifacts now, filter_map]
  rfl

theorem mem_of_mem_emits {artifacts : ScanArtifacts} {ids : List Nat} {check : CheckResult}
    (h : check ∈ s.emits L now artifacts ids) : check ∈ L.suite.evaluateChecks artifacts now :=
  (mem_filter.1 h).1

theorem Shown.append {ids ids' : List Nat} {checks checks' results : List CheckResult}
    (h : Shown passed ids checks) (hsame : ∀ check ∈ checks, check.id ∈ ids → check ∈ checks')
    (hresults : Shown results ids' checks') : Shown (passed ++ results) (ids ++ ids') checks' := by
  refine ⟨by rw [map_append, h.ids, hresults.ids], fun check hcheck => ?_⟩
  rcases mem_append.1 hcheck with hcheck | hcheck
  · refine hsame check (h.same check hcheck) ?_
    rw [← h.ids]
    exact mem_map_of_mem hcheck
  · exact hresults.same check hcheck

theorem Shown.ended {evaluation : ScanEvaluation}
    (h : Shown passed (robotsPhaseIds ++ pagesPhaseIds ++ [5, 6, 11, 12, 15]) evaluation.checks) :
    ShownAsEnded passed evaluation := by
  have hnodup : (evaluation.checks.map (·.id)).Nodup := by rw [evaluation.complete]; decide
  refine ⟨?_, fun shown hshown ended hended hid => ?_⟩
  · rw [h.ids]
    decide
  · exact inj_on_of_nodup_map hnodup (h.same shown hshown) hended hid.symm

/-! ## Steps -/

namespace ShownSound

theorem issue (h : ShownSound L now emitted stage passed) (f : Nat) :
    ShownSound L now emitted (stage.issue f) passed := by
  cases stage <;> exact h

theorem settle (h : ShownSound L now emitted stage passed) (f : Nat) (o : Except FetchFailure FetchArtifact) :
    ShownSound L now emitted (stage.settle f o) passed := by
  cases stage <;> exact h

theorem nodup (h : ShownSound L now emitted stage passed) : (passed.map (·.id)).Nodup := by
  cases stage with
  | fetchesRobots p => rw [h.2]; exact nodup_nil
  | tellsRobots site results => rw [h.2.2.ids]; decide
  | fetchesPages site p => rw [h.2.ids]; decide
  | tellsPages site artifacts results => rw [h.2.2.ids]; decide
  | fetchesRest site artifacts p => rw [h.2.ids]; decide
  | tellsRest site evaluation results => rw [h.ids]; decide
  | returned site evaluation => rw [h.ids]; decide
  | threw failure =>
    obtain ⟨ids, hids, heq⟩ := h
    rw [heq]
    exact hids

theorem publishes (h : ShownSound L now s.emitted s.stage passed)
    (hpublishes : s.publishes L job now target = some (s', out)) :
    ShownSound L now s'.emitted s'.stage (passed ++ passedOf (out.map .emitted)) := by
  obtain ⟨fetcher, aborted, requests, emitted, stage⟩ := s
  unfold ScanRunner.publishes at hpublishes
  dsimp only at h hpublishes
  split at hpublishes
  · next robots =>
    obtain ⟨hemitted, hpassed⟩ : emitted = [] ∧ passed = [] := h
    subst hemitted hpassed
    split at hpublishes
    · cases hpublishes
      exact ⟨[], nodup_nil, rfl⟩
    · cases hpublishes
      rw [passedOf_passes, nil_append]
      exact ⟨rfl, ids_emits _ _ _, ids_emits _ _ _, fun check hcheck => mem_of_mem_emits hcheck⟩
  · next site pages =>
    obtain ⟨hemitted, hshown⟩ := h
    subst hemitted
    cases hpublishes
    rw [passedOf_passes]
    refine ⟨rfl, ids_emits _ _ _, hshown.append (fun check hcheck hid => ?_) ⟨ids_emits _ _ _, fun check hcheck =>
      mem_of_mem_emits hcheck⟩⟩
    exact CheckSuite.mem_withPages pages hcheck hid
  · next site artifacts oauth representative =>
    obtain ⟨hemitted, hshown⟩ := h
    subst hemitted
    cases hpublishes
    rw [passedOf_passes]
    refine hshown.append (fun check hcheck hid => ?_) ⟨?_, fun check hcheck => mem_of_mem_emits hcheck⟩
    · exact CheckSuite.mem_withRest oauth representative hcheck hid
    · rfl
  · cases hpublishes

theorem told (h : ShownSound L now s.emitted s.stage passed) (htold : s.told L = some s') :
    ShownSound L now s'.emitted s'.stage passed := by
  obtain ⟨fetcher, aborted, requests, emitted, stage⟩ := s
  unfold ScanRunner.told at htold
  dsimp only at h htold
  split at htold
  · next site results =>
    cases htold
    obtain ⟨hemitted, hids, hshown⟩ := h
    subst hemitted
    exact ⟨hids, hshown⟩
  · next site artifacts results =>
    cases htold
    obtain ⟨hemitted, hids, hshown⟩ := h
    subst hemitted
    exact ⟨congrArg (robotsPhaseIds ++ ·) hids, hshown⟩
  · next site evaluation results => cases htold; exact h
  · cases htold

theorem step (h : ShownSound L now s.emitted s.stage passed)
    (hstep : s.step L job now target action = .ok (s', out)) :
    ShownSound L now s'.emitted s'.stage (passed ++ passedOf (out.map .emitted)) := by
  have hquiet (heard : List FetchNotice) : passedOf ((heard.map ScanRunNotice.fetched).map .emitted) = [] := by
    simp [passedOf]
  cases ScanRunner.step_cases hstep with
  | refused request failure hnext hrefused =>
    rw [show passedOf _ = [] from rfl, append_nil]
    exact (h.issue _).settle _ _
  | begun request x hnext hbegin =>
    rw [show passedOf _ = [] from rfl, append_nil]
    exact h.issue _
  | fetched action fetcher heard htakes hfetch =>
    rw [hquiet, append_nil]
    exact h
  | settled f x o hx hover =>
    rw [show passedOf _ = [] from rfl, append_nil]
    exact h.settle _ _
  | expired =>
    rw [show passedOf _ = [] from rfl, append_nil]
    exact h
  | published s' out hpublishes => exact h.publishes hpublishes
  | told s' htold =>
    rw [show passedOf _ = [] from rfl, append_nil]
    exact h.told htold
  | unheard message htelling =>
    rw [show passedOf _ = [] from rfl, append_nil]
    exact ⟨_, h.nodup, rfl⟩

end ShownSound

/-- **What is shown while a scan runs is what it ends with.** Whatever a site answers, in whatever order: no
check is told of twice, and a scan that comes to an evaluation has told of each of its checks once, with the
result it has there. -/
theorem shown_as_ended (L : ScanLib) (job : ScanRunJob) (now : Int) (target : Url) (appBaseUrl : String)
    (actions : List ScanRunAction) :
    ((passedOf ((scanRunMachine L job now target).log (.start L job target appBaseUrl) actions)).map
        (·.id)).Nodup ∧
      ∀ evaluation,
        ((scanRunMachine L job now target).run (.start L job target appBaseUrl) actions).stage.outcome =
          some (.ok evaluation) →
        ShownAsEnded (passedOf ((scanRunMachine L job now target).log (.start L job target appBaseUrl) actions))
          evaluation := by
  have hend := (scanRunMachine L job now target).log_induction
    (P := fun s log => ShownSound L now s.emitted s.stage (passedOf log))
    (fun hs hstep => passedOf_step ▸ hs.step hstep) (s := .start L job target appBaseUrl) (l := []) ⟨rfl, rfl⟩
    actions
  rw [List.nil_append] at hend
  refine ⟨hend.nodup, fun evaluation houtcome => ?_⟩
  revert hend houtcome
  cases ((scanRunMachine L job now target).run (.start L job target appBaseUrl) actions).stage with
  | returned site ended =>
    intro hend houtcome
    cases houtcome
    exact Shown.ended hend
  | tellsRobots site results => intro _ houtcome; cases houtcome
  | tellsPages site artifacts results => intro _ houtcome; cases houtcome
  | tellsRest site ended results => intro _ houtcome; cases houtcome
  | threw failure => intro _ houtcome; cases houtcome
  | fetchesRobots p => intro _ houtcome; simp [ScanStage.outcome] at houtcome
  | fetchesPages site p => intro _ houtcome; simp [ScanStage.outcome] at houtcome
  | fetchesRest site artifacts p => intro _ houtcome; simp [ScanStage.outcome] at houtcome

/-! ## A platform of one host -/

/-- The URL of a text, if it is one of example's. -/
def parseExample (text : String) : Option Url :=
  if "https://example.com/".toList.isPrefixOf text.toList then
    some { exampleHome with pathname := String.ofList (text.toList.drop "https://example.com".length) }
  else none

theorem exampleHome_lowered : lowered exampleHome.hostname.toList = exampleHome.hostname.toList := by decide +kernel

theorem parseExample_lowered (text : String) (url : Url) (h : parseExample text = some url)
    (_ : url.protocol = "http:" ∨ url.protocol = "https:") : lowered url.hostname.toList = url.hostname.toList := by
  unfold parseExample at h
  split at h
  · cases h
    exact exampleHome_lowered
  · cases h

/-- A platform that knows of one host. -/
def exampleHost : UrlLib where
  parse := parseExample
  resolve location source :=
    if location.toList.head? = some '/' then some { source with pathname := location } else none
  keys _ := []
  delete search _ := search
  parse_hostname := parseExample_lowered
  keys_delete := noKeys_delete

def exampleLib : ScanLib := ⟨exampleHost, sampleSuite, fun hostname => some hostname, fun _ => false, lowered⟩

/-- A scan of the host, as a page of no shop. -/
def exampleJob : ScanRunJob := ⟨"https://example.com/", .owner, false, some 60000⟩

/-- The name of the host leads to an address of a local network, and the robots file is not fetched. -/
def hiddenSite : List ScanRunAction :=
  [.issues, .fetches (.turns 0), .fetches (.resolves 0 (.ok [⟨"10.0.0.1", 4⟩])), .settles 0]

/-- The scan is over, and has told of no check. -/
theorem hidden_site_shows_nothing : ¬ ∀ (L : ScanLib) (job : ScanRunJob) (now : Int) (target : Url)
    (appBaseUrl : String) (actions : List ScanRunAction) (outcome : Except FetchFailure ScanEvaluation),
    job.begins L now = .ok target →
    ((scanRunMachine L job now target).run (.start L job target appBaseUrl) actions).stage.outcome = some outcome →
    ∃ evaluation, outcome = .ok evaluation ∧
      ShownAsEnded (passedOf ((scanRunMachine L job now target).log (.start L job target appBaseUrl) actions))
        evaluation := by
  intro h
  obtain ⟨evaluation, hok, -⟩ := h exampleLib exampleJob 0 exampleHome "https://agentify.ad" hiddenSite
    (.error (.failed "ssrf_blocked:private")) (by rfl) (by rfl)
  cases hok

end Coinslot
