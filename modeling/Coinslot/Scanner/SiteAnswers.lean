import Coinslot.Scanner.KeptRules
import Coinslot.Scanner.SideRequests

/-!
# What a scan of a site comes to

A site that answers every request as it does (`Network`) decides what a fetch comes to (`fetchEval`), and with it
what a scan does: every run of the runner over that site, in whatever order its answers arrive, comes to the
evaluation `scanEval` says, where the budget of requests is not spent and the deadline does not pass
(`AnswersAs.answered`). A fetch is followed from hop to hop, of which it has at most six before it
(`SafeFetch.hopsLeft`).
-/

namespace Coinslot

open List Dict

/-! ## A fetch at a site -/

/-- A resolver and a transport that answer the same whenever they are asked the same. -/
structure Network where
  resolve : String → Except String (List ResolvedAddress)
  request : PinnedTransportRequest → Except String TransportAnswer

/-- How many more URLs a fetch may go to. -/
def SafeFetch.hopsLeft (x : SafeFetch) : Nat :=
  5 - x.redirects + if x.redirects = 0 ∧ x.usedHttpFallback = false then 1 else 0

/-- What the network answers a fetch at its URL. -/
def Network.answers (net : Network) (defaultUserAgent : String) (x : SafeFetch) : Except String TransportAnswer :=
  match net.resolve x.url.hostname with
  | .error message => .error message
  | .ok answers =>
    match assertPublicAddresses (answers.map (·.address)) with
    | .error message => .error message
    | .ok () =>
      match selectPinnedAddress answers with
      | .error message => .error message
      | .ok address => net.request (x.request defaultUserAgent address)

/-- What a fetch comes to, that may go to so many URLs. -/
def SafeFetch.goesTo (U : UrlLib) (net : Network) (defaultUserAgent : String) :
    Nat → SafeFetch → Except FetchFailure FetchArtifact
  | 0, _ => .error (.failed "")
  | left + 1, x =>
    match net.answers defaultUserAgent x with
    | .error message => .error (.failed message)
    | .ok answer =>
      let landed := (x.lands U answer).1
      match landed.phase with
      | .returned artifact => .ok artifact
      | .threw failure => .error failure
      | _ => goesTo U net defaultUserAgent left landed

/-- What a fetch comes to at a site. -/
def fetchEval (U : UrlLib) (net : Network) (defaultUserAgent : String) (r : ScanRequest) :
    Except FetchFailure FetchArtifact :=
  match SafeFetch.begin U r.input r.options with
  | .error failure => .error failure
  | .ok x => x.goesTo U net defaultUserAgent 7

variable {U : UrlLib} {net : Network} {agent : String} {x x' : SafeFetch} {o : Except FetchFailure FetchArtifact}

theorem SafeFetch.goesTo_phase (x : SafeFetch) (phase : FetchPhase) (left : Nat) :
    { x with phase := phase }.goesTo U net agent left = x.goesTo U net agent left := by
  cases left <;> rfl

theorem SafeFetch.goesTo_lost {message : String} (h : net.answers agent x = .error message) (left : Nat) :
    x.goesTo U net agent (left + 1) = .error (.failed message) := by
  simp only [goesTo, h]

variable {answer : TransportAnswer}

theorem SafeFetch.goesTo_answered (h : net.answers agent x = .ok answer) (left : Nat) :
    x.goesTo U net agent (left + 1) = match (x.lands U answer).1.phase with
      | .returned artifact => .ok artifact
      | .threw failure => .error failure
      | _ => (x.lands U answer).1.goesTo U net agent left := by
  rw [goesTo, h]

theorem SafeFetch.lands_hops (hbounded : x.redirects ≤ 5) (h : (x.lands U answer).1.phase = .turning) :
    (x.lands U answer).1.hopsLeft < x.hopsLeft ∧ (x.lands U answer).1.redirects ≤ 5 := by
  revert h
  unfold lands
  split
  · next hfalls =>
    simp only [fallsBack, Bool.and_eq_true, Bool.not_eq_true', decide_eq_true_eq] at hfalls
    obtain ⟨⟨⟨⟨-, hunused⟩, hnone⟩, -⟩, -⟩ := hfalls
    intro _
    simp [hopsLeft, hnone, hunused]
  · split
    · intro h; cases h
    · split
      · intro h; cases h
      · next hfew =>
        split
        · intro h; cases h
        · intro _
          simp only [hopsLeft]
          have hnever : ¬ (x.redirects + 1 = 0 ∧ x.usedHttpFallback = false) := by simp
          constructor
          · split <;> omega
          · omega

theorem SafeFetch.lands_phase (x : SafeFetch) (U : UrlLib) (answer : TransportAnswer) :
    (∃ artifact, (x.lands U answer).1.phase = .returned artifact) ∨
      (∃ failure, (x.lands U answer).1.phase = .threw failure) ∨ (x.lands U answer).1.phase = .turning := by
  unfold lands
  split
  · exact .inr (.inr rfl)
  · split
    · exact .inl ⟨_, rfl⟩
    · split
      · exact .inl ⟨_, rfl⟩
      · split
        · exact .inr (.inl ⟨_, rfl⟩)
        · exact .inr (.inr rfl)

theorem SafeFetch.lands_over (h : (x.lands U answer).1.phase.over = true) :
    (x.lands U answer).1.redirects = x.redirects := by
  revert h
  unfold lands
  split
  · intro h; cases h
  · split
    · intro _; rfl
    · split
      · intro _; rfl
      · split
        · intro _; rfl
        · intro h; cases h

theorem SafeFetch.goesTo_congr {left left' : Nat} (hbounded : x.redirects ≤ 5) (h : x.hopsLeft < left)
    (h' : x.hopsLeft < left') : x.goesTo U net agent left = x.goesTo U net agent left' := by
  induction left generalizing x left' with
  | zero => exact absurd h (Nat.not_lt_zero _)
  | succ left ih =>
    obtain ⟨left', rfl⟩ : ∃ n, left' = n + 1 := ⟨left' - 1, by omega⟩
    cases hnet : net.answers agent x with
    | error message => rw [goesTo_lost hnet, goesTo_lost hnet]
    | ok answer =>
      rw [goesTo_answered hnet, goesTo_answered hnet]
      rcases x.lands_phase U answer with ⟨artifact, hphase⟩ | ⟨failure, hphase⟩ | hphase
      · rw [hphase]
      · rw [hphase]
      · rw [hphase]
        obtain ⟨hhops, hredirects⟩ := x.lands_hops hbounded hphase
        exact ih hredirects (by omega) (by omega)

/-! ## The fetcher at a site -/

/-- Whether what a step brings is what the network answers, on a budget that is not spent. -/
def SafeFetcher.AnswersAs (net : Network) (s : SafeFetcher) : FetchAction → Prop
  | .starts _ _ _ => True
  | .aborts _ => False
  | .turns _ => s.count < s.maximum
  | .resolves f answers => ∀ x, s.fetches.get f = some x → answers = net.resolve x.url.hostname
  | .requests _ => True
  | .quits _ => True
  | .answers f answer => ∀ x, s.fetches.get f = some x → answer = net.answers s.defaultUserAgent x

/-- What a fetch has still to come to, by how far it is. -/
def SafeFetch.ComesTo (U : UrlLib) (net : Network) (agent : String) (x : SafeFetch)
    (o : Except FetchFailure FetchArtifact) : Prop :=
  match x.phase with
  | .returned artifact => o = .ok artifact
  | .threw failure => o = .error failure
  | _ => x.goesTo U net agent 7 = o

/-- A fetch on its way at a site. -/
structure SafeFetch.OnWay (U : UrlLib) (net : Network) (agent : String) (x : SafeFetch)
    (o : Except FetchFailure FetchArtifact) : Prop where
  goes : x.aborted = false
  bounded : x.redirects ≤ 5
  comes : x.ComesTo U net agent o

namespace SafeFetch

section

variable (h : x.OnWay U net agent o)
include h

section

variable (hlive : x.phase.over = false)
include hlive

theorem OnWay.live : x.goesTo U net agent 7 = o := by
  have hcomes := h.comes
  unfold ComesTo at hcomes
  split at hcomes
  · next hphase => rw [hphase] at hlive; cases hlive
  · next hphase => rw [hphase] at hlive; cases hlive
  · exact hcomes

theorem OnWay.later {phase : FetchPhase}
    (hlater : phase.over = false) : { x with phase := phase }.OnWay U net agent o := by
  refine ⟨h.goes, h.bounded, ?_⟩
  have hgoes := (x.goesTo_phase phase 7).trans (h.live hlive)
  unfold ComesTo
  dsimp only
  split
  · cases hlater
  · cases hlater
  · exact hgoes

theorem OnWay.lost {message : String} (hlost : net.answers agent x = .error message) :
    { x with phase := .threw (.failed message) }.OnWay U net agent o := by
  refine ⟨h.goes, h.bounded, ?_⟩
  have hgoes := h.live hlive
  rw [goesTo_lost hlost] at hgoes
  exact hgoes.symm

theorem OnWay.answered {answer : TransportAnswer}
    (hanswer : net.answers agent x = .ok answer) : (x.lands U answer).1.OnWay U net agent o := by
  have hgoes := h.live hlive
  rw [goesTo_answered hanswer] at hgoes
  have hkeeps : (x.lands U answer).1.aborted = x.aborted := by
    unfold lands
    split
    · rfl
    · split
      · rfl
      · split
        · rfl
        · split <;> rfl
  refine ⟨hkeeps.trans h.goes, ?_, ?_⟩
  · rcases x.lands_phase U answer with ⟨artifact, hphase⟩ | ⟨failure, hphase⟩ | hphase
    · exact (lands_over (by rw [hphase]; rfl)).trans_le h.bounded
    · exact (lands_over (by rw [hphase]; rfl)).trans_le h.bounded
    · exact (x.lands_hops h.bounded hphase).2
  · unfold ComesTo
    rcases x.lands_phase U answer with ⟨artifact, hphase⟩ | ⟨failure, hphase⟩ | hphase
    · rw [hphase] at hgoes ⊢
      exact hgoes.symm
    · rw [hphase] at hgoes ⊢
      exact hgoes.symm
    · rw [hphase] at hgoes ⊢
      obtain ⟨hhops, hredirects⟩ := x.lands_hops h.bounded hphase
      have hmost : x.hopsLeft ≤ 6 := by unfold hopsLeft; split <;> omega
      exact (goesTo_congr hredirects (by omega) (by omega)).trans hgoes

end

end

end SafeFetch

/-- A step of the fetcher takes one fetch on, as the site has it. -/
theorem SafeFetcher.step_onWay {s s' : SafeFetcher} {action : FetchAction} {out : List FetchNotice}
    (outcome : Nat → Except FetchFailure FetchArtifact)
    (h : ∀ f x, s.fetches.get f = some x → x.OnWay U net s.defaultUserAgent (outcome f))
    (hanswers : s.AnswersAs net action) (htakes : action.takesOn.isSome = true)
    (hstep : s.step U action = .ok (s', out)) :
    ∃ f x count x', s.fetches.get f = some x ∧ s' = { s with count := count }.goes f x' ∧
      x'.OnWay U net s.defaultUserAgent (outcome f) := by
  have hlive {x : SafeFetch} {phase : FetchPhase} (hphase : x.phase = phase) (hover : phase.over = false) :
      x.phase.over = false := hphase ▸ hover
  cases action with
  | starts f input options => cases htakes
  | aborts f => exact hanswers.elim
  | turns f =>
    simp only [step] at hstep
    split at hstep
    · next x hx =>
      split at hstep
      · cases hstep
      · next hphase =>
        have hphase : x.phase = .turning := Classical.not_not.1 hphase
        rw [if_neg (by rw [(h f x hx).goes]; exact Bool.false_ne_true), if_neg (Nat.not_le.2 hanswers)] at hstep
        cases hstep
        exact ⟨f, x, _, _, hx, rfl, (h f x hx).later (hlive hphase rfl) rfl⟩
    · cases hstep
  | resolves f answers =>
    simp only [step] at hstep
    split at hstep
    · next x hx =>
      split at hstep
      · next hphase =>
        have hway := h f x hx
        have hunder := hlive hphase rfl
        obtain rfl := hanswers x hx
        have hs' := Except.ok.inj hstep
        unfold SafeFetcher.resolves at hs'
        cases hresolve : net.resolve x.url.hostname with
        | error message =>
          rw [hresolve] at hs'
          cases hs'
          exact ⟨f, x, _, _, hx, rfl, hway.lost hunder (by simp only [Network.answers, hresolve])⟩
        | ok answers =>
          rw [hresolve] at hs'
          dsimp only at hs'
          split at hs'
          · next message hprivate =>
            cases hs'
            exact ⟨f, x, _, _, hx, rfl, hway.lost hunder (by simp only [Network.answers, hresolve, hprivate])⟩
          · next hpublic =>
            split at hs'
            · next message hnone =>
              cases hs'
              exact ⟨f, x, _, _, hx, rfl, hway.lost hunder (by simp only [Network.answers, hresolve, hpublic, hnone])⟩
            · cases hs'
              exact ⟨f, x, _, _, hx, rfl, hway.later hunder rfl⟩
      · cases hstep
    · cases hstep
  | requests f =>
    simp only [step] at hstep
    split at hstep
    · next x hx =>
      split at hstep
      · next address hphase =>
        split at hstep
        · cases hstep
          exact ⟨f, x, _, _, hx, rfl, (h f x hx).later (hlive hphase rfl) rfl⟩
        · cases hstep
      · cases hstep
    · cases hstep
  | quits f =>
    simp only [step] at hstep
    split at hstep
    · next x hx =>
      split at hstep
      · rw [if_neg (by rw [(h f x hx).goes]; exact Bool.false_ne_true)] at hstep
        cases hstep
      · cases hstep
    · cases hstep
  | answers f answer =>
    simp only [step] at hstep
    split at hstep
    · next x hx =>
      split at hstep
      · next hphase =>
        have hway := h f x hx
        have hunder := hlive hphase rfl
        have hanswer := hanswers x hx
        split at hstep
        · next message =>
          cases hstep
          exact ⟨f, x, _, _, hx, rfl, hway.lost hunder hanswer.symm⟩
        · next answer =>
          cases hstep
          exact ⟨f, x, s.count, _, hx, rfl, hway.answered hunder hanswer.symm⟩
      · cases hstep
    · cases hstep

/-! ## The parts of a scan are begun as they are written -/

section Unsent

variable {L : ScanLib} {site : ScanSite}

theorem unsent_fetch {source : ScanSource} {input : FetchInput} {options : SafeFetchOptions} :
    (L.fetch source input options).Unsent := by
  intro o
  cases o with
  | ok artifact => trivial
  | error failure =>
    dsimp only
    split
    · trivial
    · split
      · trivial
      · split <;> trivial

namespace ScanSite

variable {source : ScanSource}

theorem unsent_ifAllowed {url : Url} {options : SafeFetchOptions} :
    (site.fetchIfRobotsAllowed L source url options).Unsent := by
  unfold fetchIfRobotsAllowed
  split
  · exact unsent_fetch
  · trivial

theorem unsent_discovery {path : String} :
    (site.fetchExplicitDiscovery L source path).Unsent := by
  unfold fetchExplicitDiscovery
  split
  · exact unsent_fetch
  · trivial

theorem unsent_walk (left : Nat) (pending : List Url) (seen : List String) (artifacts : List FetchArtifact) :
    (site.sitemapWalk L left pending seen artifacts).Unsent := by
  induction left generalizing pending seen artifacts with
  | zero => trivial
  | succ left ih =>
    simp only [sitemapWalk]
    split
    · trivial
    · exact unsent_ifAllowed.bind fun artifact => ih _ _ _

theorem unsent_pages : (site.pagesPromise L).Unsent := by
  refine ⟨⟨?_, ?_, fun _ _ => trivial⟩, ⟨?_, ?_, fun _ _ => trivial⟩, fun _ _ => trivial⟩
  · unfold contentPromise
    split
    · refine Promise.Unsent.all fun p hp => ?_
      simp only [mem_cons, not_mem_nil, or_false] at hp
      rcases hp with rfl | rfl | rfl | rfl <;> exact unsent_fetch
    · trivial
  · unfold sitemapPromise
    split
    · exact unsent_walk _ _ _ _
    · trivial
  · unfold llmsPromise
    split
    · exact unsent_ifAllowed
    · trivial
  · refine Promise.Unsent.all fun p hp => ?_
    rw [mem_append, mem_append] at hp
    rcases hp with (hp | hp) | hp
    · simp only [mem_cons, not_mem_nil, or_false] at hp
      rcases hp with rfl | rfl <;> exact unsent_discovery
    · split at hp
      · rw [mem_singleton.1 hp]
        exact unsent_discovery
      · cases hp
    · rw [mem_singleton.1 hp]
      exact unsent_discovery

theorem unsent_rest {artifacts : ScanArtifacts} : (site.restPromise L artifacts).Unsent := by
  refine ⟨?_, ?_, fun _ _ => trivial⟩
  · unfold oauthPromise
    split
    · refine Promise.Unsent.all fun p hp => ?_
      simp only [mem_cons, not_mem_nil, or_false] at hp
      rcases hp with rfl | rfl <;> exact unsent_discovery
    · trivial
  · unfold representativePromise
    split
    · refine Promise.Unsent.bind (Promise.Unsent.all fun p hp => ?_) fun heads => ?_
      · obtain ⟨candidate, -, rfl⟩ := mem_map.1 hp
        exact unsent_fetch
      · split
        · trivial
        · exact unsent_fetch.bind fun _ => trivial
    · trivial

end ScanSite

end Unsent

namespace ScanStage

/-- Of a scan no more was begun than is under way. -/
def Sent : ScanStage → Prop
  | fetchesRobots p => p.Sent
  | fetchesPages _ p => p.Sent
  | fetchesRest _ _ p => p.Sent
  | _ => True

variable {stage : ScanStage} {f g : Nat} {r : ScanRequest}

theorem Sent.issue (h : stage.Sent) : (stage.issue f).Sent := by
  cases stage with
  | fetchesRobots p => exact Promise.Sent.issue h
  | fetchesPages site p => exact Promise.Sent.issue h
  | fetchesRest site artifacts p => exact Promise.Sent.issue h
  | _ => trivial

theorem Sent.settle (h : stage.Sent) : (stage.settle f o).Sent := by
  cases stage with
  | fetchesRobots p => exact Promise.Sent.normal (Promise.Sent.settle h)
  | fetchesPages site p => exact Promise.Sent.normal (Promise.Sent.settle h)
  | fetchesRest site artifacts p => exact Promise.Sent.normal (Promise.Sent.settle h)
  | _ => trivial

theorem of_awaited_issue (h : (g, r) ∈ (stage.issue f).awaited) :
    (g, r) ∈ stage.awaited ∨ g = f ∧ stage.next = some r := by
  cases stage with
  | fetchesRobots p => exact Promise.of_awaited_issue h
  | fetchesPages site p => exact Promise.of_awaited_issue h
  | fetchesRest site artifacts p => exact Promise.of_awaited_issue h
  | tellsRobots site results => exact .inl h
  | tellsPages site artifacts results => exact .inl h
  | tellsRest site evaluation results => exact .inl h
  | returned site evaluation => exact .inl h
  | threw failure => exact .inl h

theorem Sent.of_awaited_settle (hs : stage.Sent) (h : (g, r) ∈ (stage.settle f o).awaited) :
    (g, r) ∈ stage.awaited := by
  have hpart {α : Type} {p : ScanPromise α} (hp : p.Sent) (h : (g, r) ∈ (p.settle f o).normal.awaited) :
      (g, r) ∈ p.awaited :=
    hp.of_awaited_settle (hp.settle.of_awaited_normal h)
  cases stage with
  | fetchesRobots p => exact hpart hs h
  | fetchesPages site p => exact hpart hs h
  | fetchesRest site artifacts p => exact hpart hs h
  | tellsRobots site results => exact h
  | tellsPages site artifacts results => exact h
  | tellsRest site evaluation results => exact h
  | returned site evaluation => exact h
  | threw failure => exact h

end ScanStage

/-! ## A scan at a site -/

/-- Whether a step is one of a scan at a site: what it brings is what the network answers, the budget is not
spent, the deadline does not pass, and what is told of is heard. -/
def ScanRunner.AnswersAs (net : Network) (s : ScanRunner) : ScanRunAction → Prop
  | .fetches action => s.fetcher.AnswersAs net action
  | .expires => False
  | .refuses _ => False
  | _ => True

/-- What a scan asked for is on its way at a site. -/
structure SiteSound (L : ScanLib) (net : Network) (agent : String) (s : ScanRunner) : Prop where
  named : s.fetcher.defaultUserAgent = agent
  goes : s.aborted = false
  sent : s.stage.Sent
  numbered : ∀ f q, (f, q) ∈ s.stage.awaited → s.requests[f]? = some q
  begun : ∀ f x, s.fetcher.fetches.get f = some x → f < s.requests.length
  onWay : ∀ f x q, s.fetcher.fetches.get f = some x → s.requests[f]? = some q →
    x.OnWay L.urls net agent (fetchEval L.urls net agent q)

namespace SiteSound

variable {L : ScanLib} {job : ScanRunJob} {now : Int} {target : Url} {s s' : ScanRunner} {stage : ScanStage}
  {action : ScanRunAction} {out : List ScanRunNotice}

theorem idle (h : SiteSound L net agent s) (stage : ScanStage) (hsent : stage.Sent) (hidle : stage.awaited = [])
    {emitted : List Nat} : SiteSound L net agent { s with emitted := emitted, stage := stage } := by
  refine ⟨h.named, h.goes, hsent, fun f q hq => ?_, h.begun, h.onWay⟩
  rw [hidle] at hq
  cases hq

theorem begins {α : Type} {p : ScanPromise α} (hp : p.Unsent) : p.normal.Sent ∧ p.normal.awaited = [] :=
  ⟨hp.normal.sent, hp.normal.awaited⟩

section

variable (h : SiteSound L net agent s)
include h

theorem settle (f : Nat) (o : Except FetchFailure FetchArtifact) :
    SiteSound L net agent { s with stage := s.stage.settle f o } :=
  ⟨h.named, h.goes, h.sent.settle, fun g q hq => h.numbered g q (h.sent.of_awaited_settle hq), h.begun, h.onWay⟩

variable {r : ScanRequest}

theorem ask (hnext : s.stage.next = some r) : SiteSound L net agent
      { s with requests := s.requests ++ [r], stage := s.stage.issue s.requests.length } := by
  refine ⟨h.named, h.goes, h.sent.issue, fun f q hq => ?_, fun f x hx => ?_, fun f x q hx hq => ?_⟩
  · rcases ScanStage.of_awaited_issue hq with hawaited | ⟨rfl, hasked⟩
    · have hsome := h.numbered f q hawaited
      rw [getElem?_append_left (List.getElem?_eq_some_iff.1 hsome).1]
      exact hsome
    · rw [hnext] at hasked
      cases hasked
      exact getElem?_concat_length
  · rw [length_append]
    exact Nat.lt_succ_of_lt (h.begun f x hx)
  · rw [getElem?_append_left (h.begun f x hx)] at hq
    exact h.onWay f x q hx hq

theorem begin (hnext : s.stage.next = some r) (hbegin : SafeFetch.begin L.urls r.input r.options = .ok x) :
    SiteSound L net agent { s with
      requests := s.requests ++ [r]
      stage := s.stage.issue s.requests.length
      fetcher := s.fetcher.goes s.requests.length x } := by
  have hasked := h.ask hnext
  refine ⟨h.named, h.goes, hasked.sent, hasked.numbered, fun f y hy => ?_, fun f y q hy hq => ?_⟩
  · simp only [SafeFetcher.goes, get_set] at hy
    split at hy
    · next heq => rw [heq, length_append]; exact Nat.lt_succ_self _
    · exact hasked.begun f y hy
  · simp only [SafeFetcher.goes, get_set] at hy
    split at hy
    · next heq =>
      cases hy
      rw [heq, getElem?_concat_length] at hq
      cases hq
      have heval : fetchEval L.urls net agent r = x.goesTo L.urls net agent 7 := by simp only [fetchEval, hbegin]
      rw [heval]
      unfold SafeFetch.begin at hbegin
      dsimp only at hbegin
      split at hbegin
      · cases hbegin
      · split at hbegin
        · cases hbegin
        · cases hbegin; exact ⟨rfl, Nat.zero_le _, rfl⟩
    · exact hasked.onWay f y q hy hq

theorem fetch {action : FetchAction} {fetcher : SafeFetcher}
    {heard : List FetchNotice} (hanswers : s.fetcher.AnswersAs net action) (htakes : action.takesOn.isSome = true)
    (hfetch : s.fetcher.step L.urls action = .ok (fetcher, heard)) :
    SiteSound L net agent { s with fetcher := fetcher } := by
  have hagent := h.named
  obtain ⟨f, x, count, x', hx, rfl, hway⟩ := SafeFetcher.step_onWay
    (fun f => (s.requests[f]?).elim (.error .aborted) (fetchEval L.urls net agent))
    (fun f x hx => by
      have hlt := h.begun f x hx
      rw [hagent, getElem?_eq_getElem hlt]
      exact h.onWay f x _ hx (getElem?_eq_getElem hlt)) hanswers htakes hfetch
  refine ⟨h.named, h.goes, h.sent, h.numbered, fun g y hy => ?_, fun g y q hy hq => ?_⟩
  · simp only [SafeFetcher.goes, get_set] at hy
    split at hy
    · next heq => exact heq ▸ h.begun f x hx
    · exact h.begun g y hy
  · rcases of_get_set hy with ⟨rfl, rfl⟩ | ⟨-, hy⟩
    · rw [hagent, hq] at hway
      exact hway
    · exact h.onWay g y q hy hq

theorem step (hanswers : s.AnswersAs net action)
    (hstep : s.step L job now target action = .ok (s', out)) : SiteSound L net agent s' := by
  cases ScanRunner.step_cases hstep with
  | refused request failure hnext hrefused => exact (h.ask hnext).settle _ _
  | begun request x hnext hbegin => exact h.begin hnext hbegin
  | fetched action fetcher heard htakes hfetch => exact h.fetch hanswers htakes hfetch
  | settled f x o hx hover => exact h.settle f o
  | expired => exact hanswers.elim
  | published s' out hpublishes =>
    unfold ScanRunner.publishes at hpublishes
    split at hpublishes
    · split at hpublishes
      · cases hpublishes; exact h.idle _ (by trivial) rfl
      · cases hpublishes; exact h.idle _ (by trivial) rfl
    · cases hpublishes; exact h.idle _ (by trivial) rfl
    · cases hpublishes; exact h.idle _ (by trivial) rfl
    · cases hpublishes
  | told s' htold =>
    unfold ScanRunner.told at htold
    split at htold
    · next site results _ =>
      cases htold
      obtain ⟨hsent, hidle⟩ := begins (site.unsent_pages (L := L))
      exact h.idle (.fetchesPages site _) hsent hidle
    · next site artifacts results _ =>
      cases htold
      have hunsent : (site.restPromise L artifacts).Unsent := ScanSite.unsent_rest
      obtain ⟨hsent, hidle⟩ := begins hunsent
      exact h.idle (.fetchesRest site artifacts _) hsent hidle
    · cases htold; exact h.idle _ (by trivial) rfl
    · cases htold
  | unheard message htelling => exact hanswers.elim

theorem answered (hanswers : s.AnswersAs net action) : AnsweredBy L (fetchEval L.urls net agent) s action := by
  cases action with
  | issues =>
    intro r q hnext hq
    obtain rfl : r = q := by
      rcases ScanStage.of_awaited_issue hq with hq | ⟨-, hq⟩
      · have hnone : s.requests[s.requests.length]? = none := getElem?_eq_none (Nat.le_refl _)
        rw [h.numbered _ q hq] at hnone
        cases hnone
      · exact Option.some.inj (hnext.symm.trans hq)
    refine ⟨fun haborted => ?_, fun failure _ hbegin => by simp only [fetchEval, hbegin]⟩
    rw [h.goes] at haborted
    cases haborted
  | settles f =>
    intro x q hx hq
    have hcomes := (h.onWay f x q hx (h.numbered f q hq)).comes
    refine ⟨fun artifact hphase => ?_, fun failure hphase => ?_⟩
    · simpa [SafeFetch.ComesTo, hphase] using hcomes
    · simpa [SafeFetch.ComesTo, hphase] using hcomes
  | refuses message => exact hanswers.elim
  | fetches action => trivial
  | expires => trivial
  | publishes => trivial
  | told => trivial

end

end SiteSound

/-- The name a scan's fetcher goes by. -/
def scanAgent (appBaseUrl : String) : String :=
  let appBaseUrl := if appBaseUrl.toList.getLast? = some '/' then appBaseUrl.toList.dropLast else appBaseUrl.toList
  "agentify-scanner/1.0 (+" ++ String.ofList appBaseUrl ++ "/scanner)"

theorem SiteSound.start (L : ScanLib) (net : Network) (job : ScanRunJob) (target : Url) (appBaseUrl : String) :
    SiteSound L net (scanAgent appBaseUrl) (.start L job target appBaseUrl) := by
  have hunsent : (job.robotsPromise L target).Unsent := unsent_fetch
  have hnone (f : Nat) : (ScanRunner.start L job target appBaseUrl).fetcher.fetches.get f = none := rfl
  refine ⟨rfl, rfl, hunsent.sent, fun f q hq => ?_, fun f x hx => ?_, fun f x q hx => ?_⟩
  · have hidle : (f, q) ∈ (job.robotsPromise L target).awaited := hq
    cases hidle
  · rw [hnone] at hx; cases hx
  · rw [hnone] at hx; cases hx

/-- **A run over a site comes to what the site is evaluated to.** In whatever order the answers of a site arrive, a
run that comes to an evaluation comes to the site's, and one that throws does so where that is none. -/
theorem site_evaluates (L : ScanLib) (net : Network) (job : ScanRunJob) (now : Int) (target : Url)
    (appBaseUrl : String) (actions : List ScanRunAction)
    (h : (scanRunMachine L job now target).Meets (ScanRunner.AnswersAs net) (.start L job target appBaseUrl) actions)
    {outcome : Except FetchFailure ScanEvaluation}
    (houtcome : ((scanRunMachine L job now target).run (.start L job target appBaseUrl) actions).stage.outcome =
      some outcome) : (∃ evaluation, outcome = .ok evaluation ∧
        scanEval L job now target (fetchEval L.urls net (scanAgent appBaseUrl)) = .ok evaluation) ∨
      ∃ thrown failure, outcome = .error thrown ∧
        scanEval L job now target (fetchEval L.urls net (scanAgent appBaseUrl)) = .error failure :=
  run_evaluates L job now target appBaseUrl _ actions
    (Reactor.Meets.of_invariant (scanRunMachine L job now target) (P := SiteSound L net (scanAgent appBaseUrl))
      (fun hs hanswers hstep => hs.step hanswers hstep) (fun hs hanswers => hs.answered hanswers)
      (.start L net job target appBaseUrl) h) houtcome

end Coinslot
