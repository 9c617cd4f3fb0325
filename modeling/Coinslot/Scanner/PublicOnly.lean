import Coinslot.Scanner.Fetches
import Coinslot.Scanner.HiddenIps

/-!
# The fetcher reaches only public addresses

Whatever the resolver and the transport answer, a request that is handed to the transport is pinned to an
address of the answer that was got for it, all of which are public, and goes to a URL that the policy lets
pass; a fetch follows at most five redirects, ends after at most 28 steps, and all the fetches together take no
more requests than the budget has (`reaches_only_public`). That no hop goes from `https:` to `http:` but the
one retry of an address without a scheme takes one thing of what is typed in: the scheme is looked for before
the blanks around the text are taken off it, so that an address behind a blank passes for one without a scheme,
and is retried over `http:` although `https:` was asked for (`SchemeSeen`).

The invariant (`FetchSound`) says of a fetch what was heard of it last, which is what its next request is made
of.
-/

namespace Coinslot

open List Dict FetchAction SafeFetch

/-! ## What is heard of a fetch -/

/-- The fetch that a notice is of. -/
def FetchNotice.fetch : FetchNotice → Nat
  | .started f _ => f
  | .resolved f _ _ => f
  | .requested f _ => f
  | .answered f _ => f
  | .redirected f => f

/-- The request that a notice tells of. -/
def FetchNotice.asked : FetchNotice → Option PinnedTransportRequest
  | .requested _ request => some request
  | _ => none

/-- Whether a notice tells of a redirect that is followed. -/
def FetchNotice.follows : FetchNotice → Bool
  | .redirected _ => true
  | _ => false

section

variable (log : List (Happening FetchAction FetchNotice))

/-- What was heard of a fetch. -/
def heardOf (f : Nat) : List FetchNotice :=
  log.filterMap fun
    | .emitted notice => if notice.fetch = f then some notice else none
    | .accepted _ => none

/-- How many steps a fetch was taken on by. -/
def stepsOf (f : Nat) : Nat :=
  log.countP fun
    | .accepted action => action.takesOn = some f
    | .emitted _ => false

/-- The requests that were handed to the transport. -/
def requestsOf : List PinnedTransportRequest :=
  log.filterMap fun
    | .emitted notice => notice.asked
    | .accepted _ => none

end

def lastAsked (heard : List FetchNotice) : Option PinnedTransportRequest :=
  (heard.filterMap FetchNotice.asked).getLast?

def redirectsIn (heard : List FetchNotice) : Nat := heard.countP FetchNotice.follows

/-! ## What a request must be -/

/-- All that was heard of a fetch is that it was started on an address that was typed in without a scheme, and
that its one request came to nothing, in a way that allows for another over `http:`. -/
def RetriesOnce (heard : List FetchNotice) (f : Nat) (previous : PinnedTransportRequest) (url : Url) : Prop :=
  ∃ text answers answer,
    heard = [.started f (.typed text), .resolved f previous.url.hostname answers, .requested f previous,
      .answered f answer] ∧
    hasScheme (trimmed text.toList) = false ∧ (∃ code ∈ retryCodes, answer.artifact.errorCode = some code) ∧
    url = previous.url.asHttp

/-- A request that a fetch may make after what was heard of it: it is pinned to an address of the last answer
there was, which was for its host and public as a whole, it goes to a URL that was taken for a target and
passes, and no less safely than the one before it, but for the one retry. -/
structure SafeRequest (U : UrlLib) (heard : List FetchNotice) (f : Nat) (request : PinnedTransportRequest) :
    Prop where
  pinned : ∃ answers, heard.getLast? = some (.resolved f request.url.hostname answers) ∧
    request.address ∈ answers ∧ ∀ answer ∈ answers, (classifyIp answer.address).isAllowed = true
  method : request.method = "GET" ∨ request.method = "HEAD"
  scheme : request.url.protocol = "http:" ∨ request.url.protocol = "https:"
  taken : ∃ text url, U.canonicalizeTarget text = .ok url ∧ (request.url = url ∨ request.url = url.asHttp)
  passes : U.refusal request.url = none
  secure : ∀ previous, lastAsked heard = some previous → previous.url.protocol = "https:" →
    request.url.protocol = "http:" → RetriesOnce heard.dropLast f previous request.url

/-- What fetches on a budget may do. -/
structure ReachesPublic (U : UrlLib) (maximum : Nat) (log : List (Happening FetchAction FetchNotice)) :
    Prop where
  requests : Along (fun before happening => ∀ f request, happening = .emitted (.requested f request) →
    SafeRequest U (heardOf before f) f request) log
  redirects : ∀ f, redirectsIn (heardOf log f) ≤ 5
  budget : (requestsOf log).length ≤ maximum
  ends : ∀ f, stepsOf log f ≤ 28

/-- Whether a step starts no fetch on a text whose `https:` scheme is behind a blank. -/
def SchemeSeen (U : UrlLib) (_ : SafeFetcher) : FetchAction → Prop
  | .starts _ (.typed text) _ =>
    hasScheme text.toList = false → hasScheme (trimmed text.toList) = true →
      ∀ url, U.canonicalizeTarget text = .ok url → url.protocol ≠ "https:"
  | _ => True

/-! ## What a step adds to what is heard -/

variable {U : UrlLib} {log : List (Happening FetchAction FetchNotice)} {f : Nat} {x x' : SafeFetch}
  {action : FetchAction} {out : List FetchNotice}

theorem heardOf_step (g : Nat) : heardOf (log ++ Reactor.stepLog action out) g =
    heardOf log g ++ out.filter fun notice => notice.fetch = g := by
  have hout : heardOf (out.map .emitted) g = out.filter fun notice => notice.fetch = g := by
    induction out with
    | nil => rfl
    | cons notice out ih =>
      unfold heardOf at ih ⊢
      by_cases hg : notice.fetch = g
      · simpa [hg] using ih
      · simpa [hg] using ih
  rw [← hout]
  simp [heardOf, Reactor.stepLog]

theorem stepsOf_step (g : Nat) : stepsOf (log ++ Reactor.stepLog action out) g =
    stepsOf log g + if action.takesOn = some g then 1 else 0 := by
  have hout : stepsOf (out.map .emitted) g = 0 := by
    rw [stepsOf, countP_eq_zero]
    intro happening h
    obtain ⟨notice, -, rfl⟩ := mem_map.1 h
    exact Bool.false_ne_true
  unfold stepsOf at hout ⊢
  rw [Reactor.stepLog, countP_append, countP_cons, hout, Nat.zero_add]
  simp

theorem requestsOf_step : requestsOf (log ++ Reactor.stepLog action out) =
    requestsOf log ++ out.filterMap FetchNotice.asked := by
  simp [requestsOf, Reactor.stepLog, filterMap_map]

theorem filter_fetch (h : ∀ notice ∈ out, notice.fetch = f) (g : Nat) :
    (out.filter fun notice => notice.fetch = g) = if f = g then out else [] := by
  split
  · next heq =>
    refine filter_eq_self.2 fun notice hnotice => ?_
    rw [h notice hnotice, heq]
    exact decide_eq_true rfl
  · next hne =>
    refine filter_eq_nil_iff.2 fun notice hnotice => ?_
    rw [h notice hnotice]
    simpa using hne

/-! ## What a step can do -/

/-- Whether a fetch is over. -/
def FetchPhase.over : FetchPhase → Bool
  | .returned _ => true
  | .threw _ => true
  | _ => false

/-- What one accepted step does to a fetch that has started, with the budget that is used after it. -/
inductive FetchMove (U : UrlLib) (s : SafeFetcher) (f : Nat) (x : SafeFetch) :
    FetchAction → Nat → SafeFetch → List FetchNotice → Prop
  | aborted : FetchMove U s f x (.aborts f) s.count { x with aborted := true } []
  | taken (hphase : x.phase = .turning) (hbudget : s.count < s.maximum) :
    FetchMove U s f x (.turns f) (s.count + 1) { x with phase := .resolving } []
  | pinned (answers : List ResolvedAddress) (address : ResolvedAddress) (hphase : x.phase = .resolving)
      (hpublic : assertPublicAddresses (answers.map (·.address)) = .ok ())
      (hchosen : selectPinnedAddress answers = .ok address) :
    FetchMove U s f x (.resolves f (.ok answers)) s.count { x with phase := .acquiring address }
      [.resolved f x.url.hostname answers]
  | requested (address : ResolvedAddress) (hphase : x.phase = .acquiring address) :
    FetchMove U s f x (.requests f) s.count { x with phase := .requesting }
      [.requested f (x.request s.defaultUserAgent address)]
  | answered (answer : TransportAnswer) (hphase : x.phase = .requesting) :
    FetchMove U s f x (.answers f (.ok answer)) s.count (x.lands U answer).1
      (.answered f answer :: if (x.lands U answer).2 then [.redirected f] else [])
  | threw (action : FetchAction) (failure : FetchFailure) (out : List FetchNotice)
      (haction : action.takesOn = some f) (hphase : x.phase.over = false)
      (hout : out = [] ∨ ∃ answers, out = [.resolved f x.url.hostname answers]) :
    FetchMove U s f x action s.count { x with phase := .threw failure } out

namespace SafeFetcher

variable {s s' : SafeFetcher}

theorem resolves_cases {x : SafeFetch} (hphase : x.phase = .resolving)
    (answers : Except String (List ResolvedAddress)) (hs' : s.resolves f x answers = (s', out)) :
    ∃ count x', FetchMove U s f x (.resolves f answers) count x' out ∧ s' = { s with count := count }.goes f x' := by
  have hlive : x.phase.over = false := by rw [hphase]; rfl
  unfold resolves at hs'
  cases answers with
  | error message =>
    cases hs'
    exact ⟨_, _, .threw _ _ _ rfl hlive (.inl rfl), rfl⟩
  | ok answers =>
    dsimp only at hs'
    split at hs'
    · cases hs'
      exact ⟨_, _, .threw _ _ _ rfl hlive (.inr ⟨answers, rfl⟩), rfl⟩
    · next hpublic =>
      split at hs'
      · cases hs'
        exact ⟨_, _, .threw _ _ _ rfl hlive (.inr ⟨answers, rfl⟩), rfl⟩
      · next address hchosen =>
        cases hs'
        exact ⟨_, _, .pinned answers address hphase hpublic hchosen, rfl⟩

theorem step_cases (h : s.step U action = .ok (s', out)) :
    (∃ f input options, action = .starts f input options ∧ s.fetches.get f = none ∧ (s' = s ∧ out = [] ∨
        ∃ x, SafeFetch.begin U input options = .ok x ∧ s' = s.goes f x ∧ out = [.started f input])) ∨
    ∃ f x count x', s.fetches.get f = some x ∧ FetchMove U s f x action count x' out ∧
      s' = { s with count := count }.goes f x' := by
  cases action with
  | starts f input options =>
    refine .inl ⟨f, input, options, rfl, ?_⟩
    simp only [step] at h
    split at h
    · cases h
    · next hfree =>
      refine ⟨by simpa [Dict.has] using hfree, ?_⟩
      split at h
      · cases h; exact .inl ⟨rfl, rfl⟩
      · next x hbegin => cases h; exact .inr ⟨x, hbegin, rfl, rfl⟩
  | aborts f =>
    simp only [step] at h
    split at h
    · cases h
    · next x hx => cases h; exact .inr ⟨f, x, _, _, hx, .aborted, rfl⟩
  | turns f =>
    simp only [step] at h
    split at h
    · next x hx =>
      split at h
      · cases h
      · next hphase =>
        have hphase : x.phase = .turning := Classical.not_not.1 hphase
        have hlive : x.phase.over = false := by rw [hphase]; rfl
        split at h
        · cases h; exact .inr ⟨f, x, _, _, hx, .threw _ _ _ rfl hlive (.inl rfl), rfl⟩
        · split at h
          · cases h; exact .inr ⟨f, x, _, _, hx, .threw _ _ _ rfl hlive (.inl rfl), rfl⟩
          · next hbudget =>
            cases h
            exact .inr ⟨f, x, _, _, hx, .taken hphase (Nat.lt_of_not_le hbudget), rfl⟩
    · cases h
  | resolves f answers =>
    simp only [step] at h
    split at h
    · next x hx =>
      split at h
      · next hphase =>
        obtain ⟨count, x', hmove, hs'⟩ := resolves_cases hphase answers (Except.ok.inj h)
        exact .inr ⟨f, x, count, x', hx, hmove, hs'⟩
      · cases h
    · cases h
  | requests f =>
    simp only [step] at h
    split at h
    · next x hx =>
      split at h
      · next address hphase =>
        split at h
        · cases h; exact .inr ⟨f, x, _, _, hx, .requested address hphase, rfl⟩
        · cases h
      · cases h
    · cases h
  | quits f =>
    simp only [step] at h
    split at h
    · next x hx =>
      split at h
      · next address hphase =>
        have hlive : x.phase.over = false := by rw [hphase]; rfl
        split at h
        · cases h; exact .inr ⟨f, x, _, _, hx, .threw _ _ _ rfl hlive (.inl rfl), rfl⟩
        · cases h
      · cases h
    · cases h
  | answers f answer =>
    simp only [step] at h
    split at h
    · next x hx =>
      split at h
      · next hphase =>
        have hlive : x.phase.over = false := by rw [hphase]; rfl
        split at h
        · cases h; exact .inr ⟨f, x, _, _, hx, .threw _ _ _ rfl hlive (.inl rfl), rfl⟩
        · next answer => cases h; exact .inr ⟨f, x, _, _, hx, .answered answer hphase, rfl⟩
      · cases h
    · cases h

end SafeFetcher

/-! ## The invariant -/

/-- How many steps a fetch has before it, at most: four for each URL it may still go to. -/
def SafeFetch.left (x : SafeFetch) : Nat :=
  let hops := 5 - x.redirects + if x.redirects = 0 ∧ x.usedHttpFallback = false then 1 else 0
  match x.phase with
  | .turning => 4 * hops + 4
  | .resolving => 4 * hops + 3
  | .acquiring _ => 4 * hops + 2
  | .requesting => 4 * hops + 1
  | .returned _ => 0
  | .threw _ => 0

/-- What was heard of a fetch whose next request is still to be resolved. -/
structure Due (heard : List FetchNotice) (f : Nat) (x : SafeFetch) : Prop where
  fresh : x.redirects = 0 → x.usedHttpFallback = false → heard = [.started f x.input]
  secure : ∀ previous, lastAsked heard = some previous → previous.url.protocol = "https:" →
    x.url.protocol = "http:" → RetriesOnce heard f previous x.url

/-- What was heard of a fetch, by how far it is. -/
def FetchStanding (heard : List FetchNotice) (f : Nat) (x : SafeFetch) : Prop :=
  match x.phase with
  | .turning => Due heard f x
  | .resolving => Due heard f x
  | .acquiring address => ∃ earlier answers, heard = earlier ++ [.resolved f x.url.hostname answers] ∧
      address ∈ answers ∧ (∀ answer ∈ answers, (classifyIp answer.address).isAllowed = true) ∧ Due earlier f x
  | .requesting => ∃ earlier answers request,
      heard = earlier ++ [.resolved f x.url.hostname answers, .requested f request] ∧ request.url = x.url ∧
        (x.redirects = 0 → x.usedHttpFallback = false → earlier = [.started f x.input])
  | .returned _ => True
  | .threw _ => True

theorem Due.same {heard : List FetchNotice} (h : Due heard f x) (hinput : x'.input = x.input)
    (hurl : x'.url = x.url) (hredirects : x'.redirects = x.redirects)
    (hfallback : x'.usedHttpFallback = x.usedHttpFallback) : Due heard f x' := by
  refine ⟨fun hnone hunused => ?_, fun previous hprevious hhttps hhttp => ?_⟩
  · rw [hinput]
    exact h.fresh (hredirects ▸ hnone) (hfallback ▸ hunused)
  · rw [hurl] at hhttp ⊢
    exact h.secure previous hprevious hhttps hhttp

theorem FetchStanding.abort {heard : List FetchNotice} (h : FetchStanding heard f x) :
    FetchStanding heard f { x with aborted := true } := by
  unfold FetchStanding at h ⊢
  split
  · next hphase => rw [hphase] at h; exact h.same rfl rfl rfl rfl
  · next hphase => rw [hphase] at h; exact h.same rfl rfl rfl rfl
  · next address hphase =>
    rw [hphase] at h
    obtain ⟨earlier, answers, hheard, hmem, hpublic, hdue⟩ := h
    exact ⟨earlier, answers, hheard, hmem, hpublic, hdue.same rfl rfl rfl rfl⟩
  · next hphase => rw [hphase] at h; exact h
  · trivial
  · trivial

/-- A fetch is in order, after what was heard of it and the steps it took. -/
structure FetchSound (U : UrlLib) (heard : List FetchNotice) (steps : Nat) (f : Nat) (x : SafeFetch) :
    Prop where
  method : x.method = "GET" ∨ x.method = "HEAD"
  taken : ∃ text url, U.canonicalizeTarget text = .ok url ∧ (x.url = url ∨ x.url = url.asHttp)
  passes : U.refusal x.url = none
  lacks : x.schemeWasMissing = true → x.redirects = 0 → x.usedHttpFallback = false →
    x.url.protocol = "https:" → ∃ text, x.input = .typed text ∧ hasScheme (trimmed text.toList) = false
  redirects : redirectsIn heard = x.redirects
  bounded : x.redirects ≤ 5
  steps : steps + x.left ≤ 28
  standing : FetchStanding heard f x

theorem lastAsked_append_of_none {heard later : List FetchNotice} (h : later.filterMap FetchNotice.asked = []) :
    lastAsked (heard ++ later) = lastAsked heard := by
  rw [lastAsked, filterMap_append, h, append_nil, lastAsked]

theorem lastAsked_concat (heard : List FetchNotice) (request : PinnedTransportRequest) :
    lastAsked (heard ++ [.requested f request]) = some request := by
  simp [lastAsked, FetchNotice.asked]

theorem redirectsIn_append (heard later : List FetchNotice) :
    redirectsIn (heard ++ later) = redirectsIn heard + redirectsIn later :=
  countP_append

theorem selectPinnedAddress_mem {answers : List ResolvedAddress} {address : ResolvedAddress}
    (h : selectPinnedAddress answers = .ok address) : address ∈ answers := by
  unfold selectPinnedAddress at h
  split at h
  · cases h
  · next selected hselected =>
    cases h
    rcases Option.or_eq_some_iff.1 hselected with h4 | ⟨-, h6⟩
    · exact mem_of_find?_eq_some h4
    · exact mem_of_find?_eq_some h6

/-- Only over `http:` is a URL over `http:` the same. -/
theorem Url.asHttp_asHttp (url : Url) : url.asHttp.asHttp = url.asHttp := by
  unfold Url.asHttp
  by_cases hport : url.port = "80"
  · simp [hport]
  · simp [hport]

theorem UrlLib.validateRedirect_taken {source url : Url} {location : String}
    (h : U.validateRedirect source location = .ok url) : ∃ text, U.canonicalizeTarget text = .ok url := by
  unfold validateRedirect at h
  split at h
  · cases h
  · split at h
    · cases h
    · next candidate hcandidate =>
      split at h
      · cases h
      · cases h; exact ⟨_, hcandidate⟩

namespace FetchSound

variable {s : SafeFetcher} {heard : List FetchNotice} {steps : Nat}

theorem begin {input : FetchInput} {options : SafeFetchOptions} (hbegin : SafeFetch.begin U input options = .ok x)
    (hseen : SchemeSeen U s (.starts f input options)) : FetchSound U [.started f input] 0 f x := by
  unfold SafeFetch.begin at hbegin
  dsimp only at hbegin
  split at hbegin
  · cases hbegin
  · next url hurl =>
    split at hbegin
    · cases hbegin
    · next hmethod =>
      cases hbegin
      refine ⟨?_, ⟨_, url, hurl, .inl rfl⟩, U.canonicalizeTarget_passes hurl, fun hmissing _ _ hhttps => ?_, rfl,
        Nat.zero_le _, Nat.le_refl _, fun _ _ => rfl, nofun⟩
      · by_contra hneither
        exact hmethod (not_or.1 hneither)
      · cases input with
        | url target => exact absurd hmissing Bool.false_ne_true
        | typed text =>
          refine ⟨text, rfl, ?_⟩
          by_contra hscheme
          have hmissing : hasScheme text.toList = false := by simpa using hmissing
          exact hseen hmissing (by simpa using hscheme) url hurl hhttps

section

variable (h : FetchSound U heard steps f x)
include h

/-- What a fetch has before it when it is answered. -/
theorem lands (hphase : x.phase = .requesting) (answer : TransportAnswer) :
    FetchSound U (heard ++ .answered f answer :: if (x.lands U answer).2 then [.redirected f] else [])
      (steps + 1) f (x.lands U answer).1 := by
  have hsteps := h.steps
  have hbounded := h.bounded
  obtain ⟨earlier, answers, request, hheard, hurl, hfresh⟩ :
      ∃ earlier answers request,
        heard = earlier ++ [.resolved f x.url.hostname answers, .requested f request] ∧ request.url = x.url ∧
          (x.redirects = 0 → x.usedHttpFallback = false → earlier = [.started f x.input]) := by
    simpa [FetchStanding, hphase] using h.standing
  have hlast : lastAsked heard = some request := by
    rw [hheard, append_cons earlier _ [_]]
    exact lastAsked_concat _ request
  have hleft : x.left = 4 * (5 - x.redirects +
      if x.redirects = 0 ∧ x.usedHttpFallback = false then 1 else 0) + 1 := by
    simp [SafeFetch.left, hphase]
  unfold SafeFetch.lands
  split
  · next hfalls =>
    simp only [SafeFetch.fallsBack, Bool.and_eq_true, Bool.not_eq_true', decide_eq_true_eq] at hfalls
    obtain ⟨⟨⟨⟨hmissing, hunused⟩, hnone⟩, hhttps⟩, hcode⟩ := hfalls
    refine ⟨h.method, ?_, U.refusal_asHttp h.passes, fun _ _ hunused => absurd hunused.symm Bool.false_ne_true, ?_,
      hbounded, ?_, fun _ hunused => absurd hunused.symm Bool.false_ne_true, fun previous hprevious _ _ => ?_⟩
    · obtain ⟨text, url, htext, htaken | htaken⟩ := h.taken
      · exact ⟨text, url, htext, .inr (by rw [htaken])⟩
      · exact ⟨text, url, htext, .inr (by rw [htaken, Url.asHttp_asHttp])⟩
    · exact (redirectsIn_append heard _).trans h.redirects
    · rw [hleft, if_pos ⟨hnone, hunused⟩] at hsteps
      simp only [SafeFetch.left, if_neg fun h : x.redirects = 0 ∧ true = false => nomatch h.2]
      omega
    · -- The one request there was is the one that is retried.
      have heq : previous = request := by
        rw [lastAsked_append_of_none rfl, hlast] at hprevious
        exact (Option.some.inj hprevious).symm
      obtain ⟨text, htyped, hlacks⟩ := h.lacks hmissing hnone hunused hhttps
      obtain ⟨code, hsome, hmem⟩ := (Option.any_eq_true ..).1 hcode
      refine ⟨text, answers, answer, ?_, hlacks, ⟨code, by simpa using hmem, hsome⟩, ?_⟩
      · rw [heq, hheard, hfresh hnone hunused, htyped, hurl]
        rfl
      · rw [heq, hurl]
  · split
    · refine ⟨h.method, h.taken, h.passes, h.lacks, (redirectsIn_append heard _).trans h.redirects, hbounded, ?_,
        trivial⟩
      simp only [SafeFetch.left]
      omega
    · next location _ =>
      split
      · refine ⟨h.method, h.taken, h.passes, h.lacks, (redirectsIn_append heard _).trans h.redirects, hbounded, ?_,
          trivial⟩
        simp only [SafeFetch.left]
        omega
      · next hfew =>
        split
        · refine ⟨h.method, h.taken, h.passes, h.lacks, (redirectsIn_append heard _).trans h.redirects, hbounded,
            ?_, trivial⟩
          simp only [SafeFetch.left]
          omega
        · next url hredirect =>
          obtain ⟨hpasses, hsafe⟩ := U.validateRedirect_passes hredirect
          obtain ⟨text, htext⟩ := U.validateRedirect_taken hredirect
          refine ⟨h.method, ⟨text, url, htext, .inl rfl⟩, hpasses, fun _ hnone => absurd hnone (Nat.succ_ne_zero _),
            ?_, by dsimp only; omega, ?_, fun hnone => absurd hnone (Nat.succ_ne_zero _),
            fun previous hprevious hhttps hhttp => ?_⟩
          · rw [redirectsIn_append, h.redirects]
            rfl
          · simp only [SafeFetch.left]
            have hnever : ¬ (x.redirects + 1 = 0 ∧ x.usedHttpFallback = false) := by simp
            rw [if_neg hnever]
            omega
          · -- A redirect is not followed from `https:` to `http:`.
            rw [lastAsked_append_of_none rfl, hlast] at hprevious
            cases hprevious
            rw [hurl] at hhttps
            rw [hsafe hhttps] at hhttp
            exact absurd hhttp (by decide)

/-- A fetch that is taken on stays in order. -/
theorem moves {count : Nat} (hmove : FetchMove U s f x action count x' out) :
    FetchSound U (heard ++ out) (steps + if action.takesOn = some f then 1 else 0) f x' := by
  have hsteps := h.steps
  have hstanding := h.standing
  cases hmove with
  | aborted =>
    rw [append_nil]
    exact ⟨h.method, h.taken, h.passes, h.lacks, h.redirects, h.bounded, hsteps, hstanding.abort⟩
  | taken hphase hbudget =>
    rw [append_nil]
    refine ⟨h.method, h.taken, h.passes, h.lacks, h.redirects, h.bounded, ?_, ?_⟩
    · simp only [SafeFetch.left, hphase] at hsteps
      rw [if_pos (show takesOn (.turns f) = some f from rfl)]
      simp only [SafeFetch.left]
      omega
    · have hdue : Due heard f x := by simpa [FetchStanding, hphase] using hstanding
      exact hdue.same rfl rfl rfl rfl
  | pinned answers address hphase hpublic hchosen =>
    refine ⟨h.method, h.taken, h.passes, h.lacks, (redirectsIn_append heard _).trans h.redirects, h.bounded, ?_, ?_⟩
    · simp only [SafeFetch.left, hphase] at hsteps
      rw [if_pos (show takesOn (.resolves f (.ok answers)) = some f from rfl)]
      simp only [SafeFetch.left]
      omega
    · refine ⟨heard, answers, rfl, selectPinnedAddress_mem hchosen, fun answer hanswer => ?_, ?_⟩
      · exact (assertPublicAddresses_ok.1 hpublic).2 _ (mem_map_of_mem hanswer)
      · have hdue : Due heard f x := by simpa [FetchStanding, hphase] using hstanding
        exact hdue.same rfl rfl rfl rfl
  | requested address hphase =>
    refine ⟨h.method, h.taken, h.passes, h.lacks, (redirectsIn_append heard _).trans h.redirects, h.bounded, ?_, ?_⟩
    · simp only [SafeFetch.left, hphase] at hsteps
      rw [if_pos (show takesOn (.requests f) = some f from rfl)]
      simp only [SafeFetch.left]
      omega
    · obtain ⟨earlier, answers, hheard, -, -, hdue⟩ :
          ∃ earlier answers, heard = earlier ++ [.resolved f x.url.hostname answers] ∧ address ∈ answers ∧
            (∀ answer ∈ answers, (classifyIp answer.address).isAllowed = true) ∧ Due earlier f x := by
        simpa [FetchStanding, hphase] using hstanding
      refine ⟨earlier, answers, x.request s.defaultUserAgent address, ?_, rfl, hdue.fresh⟩
      rw [hheard, append_assoc]
      rfl
  | answered answer hphase =>
    rw [if_pos (show takesOn (.answers f (.ok answer)) = some f from rfl)]
    exact h.lands hphase answer
  | threw action failure out haction hphase hout =>
    refine ⟨h.method, h.taken, h.passes, h.lacks, ?_, h.bounded, ?_, trivial⟩
    · rcases hout with rfl | ⟨answers, rfl⟩
      · rw [append_nil]; exact h.redirects
      · exact (redirectsIn_append heard _).trans h.redirects
    · have hlive : 0 < x.left := by
        unfold SafeFetch.left
        cases hwhere : x.phase with
        | turning => exact Nat.succ_pos _
        | resolving => exact Nat.succ_pos _
        | acquiring address => exact Nat.succ_pos _
        | requesting => exact Nat.succ_pos _
        | returned artifact => rw [hwhere] at hphase; cases hphase
        | threw failure => rw [hwhere] at hphase; cases hphase
      rw [if_pos haction]
      simp only [SafeFetch.left]
      omega

theorem safe {address : ResolvedAddress} (hphase : x.phase = .acquiring address)
    (defaultUserAgent : String) : SafeRequest U heard f (x.request defaultUserAgent address) := by
  obtain ⟨earlier, answers, rfl, hmem, hpublic, hdue⟩ :
      ∃ earlier answers, heard = earlier ++ [.resolved f x.url.hostname answers] ∧ address ∈ answers ∧
        (∀ answer ∈ answers, (classifyIp answer.address).isAllowed = true) ∧ Due earlier f x := by
    simpa [FetchStanding, hphase] using h.standing
  refine ⟨⟨answers, getLast?_concat, hmem, hpublic⟩, h.method, (U.refusal_eq_none.1 h.passes).1, h.taken,
    h.passes, fun previous hprevious => ?_⟩
  rw [lastAsked_append_of_none rfl] at hprevious
  rw [dropLast_concat]
  exact hdue.secure previous hprevious

end

end FetchSound

variable {s : SafeFetcher}

theorem FetchMove.fetch {count : Nat} (h : FetchMove U s f x action count x' out) :
    ∀ notice ∈ out, notice.fetch = f := by
  cases h with
  | aborted => nofun
  | taken hphase hbudget => nofun
  | pinned answers address hphase hpublic hchosen => simp [FetchNotice.fetch]
  | requested address hphase => simp [FetchNotice.fetch]
  | answered answer hphase =>
    split
    · simp [FetchNotice.fetch]
    · simp [FetchNotice.fetch]
  | threw action failure out haction hphase hout =>
    rcases hout with rfl | ⟨answers, rfl⟩
    · nofun
    · simp [FetchNotice.fetch]

/-! ## The budget -/

/-- Whether a fetch has a request that it took off the budget and has not made. -/
def SafeFetch.owed (x : SafeFetch) : Nat :=
  match x.phase with
  | .resolving => 1
  | .acquiring _ => 1
  | _ => 0

theorem FetchMove.owed {count : Nat} (h : FetchMove U s f x action count x' out) (hcount : s.count ≤ s.maximum) :
    (out.filterMap FetchNotice.asked).length + x'.owed + s.count ≤ x.owed + count ∧ count ≤ s.maximum := by
  cases h with
  | aborted => exact ⟨Nat.le_of_eq (by simp [owed]), hcount⟩
  | taken hphase hbudget => exact ⟨by simp [owed, hphase, Nat.add_comm], hbudget⟩
  | pinned answers address hphase hpublic hchosen =>
    exact ⟨by simp [owed, hphase, FetchNotice.asked], hcount⟩
  | requested address hphase => exact ⟨by simp [owed, hphase, FetchNotice.asked], hcount⟩
  | answered answer hphase =>
    refine ⟨?_, hcount⟩
    have hnone : (x.lands U answer).1.owed = 0 := by
      unfold SafeFetch.lands
      split
      · rfl
      · split
        · rfl
        · split
          · rfl
          · split
            · rfl
            · rfl
    have hquiet : ((.answered f answer :: if (x.lands U answer).2 then [.redirected f] else []).filterMap
        FetchNotice.asked).length = 0 := by
      split
      · rfl
      · rfl
    omega
  | threw action failure out haction hphase hout =>
    refine ⟨?_, hcount⟩
    have hquiet : (out.filterMap FetchNotice.asked).length = 0 := by
      rcases hout with rfl | ⟨answers, rfl⟩
      · rfl
      · rfl
    have hnone : owed { x with phase := .threw failure } = 0 := rfl
    omega

/-! ## Every run -/

/-- The fetches are in order, and within the budget, after what was heard of them. -/
structure SafeFetcher.Sound (U : UrlLib) (maximum : Nat) (s : SafeFetcher)
    (log : List (Happening FetchAction FetchNotice)) : Prop where
  each : ∀ f x, s.fetches.get f = some x → FetchSound U (heardOf log f) (stepsOf log f) f x
  unheard : ∀ f, s.fetches.get f = none → heardOf log f = [] ∧ stepsOf log f = 0
  budget : (requestsOf log).length + s.fetches.total SafeFetch.owed ≤ s.count
  count : s.count ≤ s.maximum
  maximum : s.maximum = maximum
  requests : Along (fun before happening => ∀ f request, happening = .emitted (.requested f request) →
    SafeRequest U (heardOf before f) f request) log

namespace SafeFetcher

variable {s s' : SafeFetcher} {maximum : Nat}

theorem along_of_unasked {Q : List (Happening FetchAction FetchNotice) → Nat → PinnedTransportRequest → Prop}
    (h : Along (fun before happening => ∀ f request, happening = .emitted (.requested f request) →
      Q before f request) log) (hout : ∀ notice ∈ out, notice.asked = none) :
    Along (fun before happening => ∀ f request, happening = .emitted (.requested f request) →
      Q before f request) (log ++ Reactor.stepLog action out) := by
  refine h.append fun happening hmem before f request heq => ?_
  subst heq
  rcases mem_cons.1 hmem with hmem | hmem
  · cases hmem
  · obtain ⟨notice, hnotice, heq⟩ := mem_map.1 hmem
    cases heq
    cases hout _ hnotice

/-- One move of one fetch keeps them all in order. -/
theorem Sound.moves {count : Nat} (hs : s.Sound U maximum log) (hx : s.fetches.get f = some x)
    (hmove : FetchMove U s f x action count x' out) :
    ({ s with count := count }.goes f x').Sound U maximum (log ++ Reactor.stepLog action out) := by
  have hfetch := hmove.fetch
  have howed := hmove.owed hs.count
  have hsteps {g : Nat} (hne : g ≠ f) : stepsOf (log ++ Reactor.stepLog action out) g = stepsOf log g := by
    rw [stepsOf_step]
    have hother : action.takesOn ≠ some g := by
      intro hg
      cases hmove with
      | aborted => cases hg
      | taken hphase hbudget => cases hg; exact hne rfl
      | pinned answers address hphase hpublic hchosen => cases hg; exact hne rfl
      | requested address hphase => cases hg; exact hne rfl
      | answered answer hphase => cases hg; exact hne rfl
      | threw action failure out haction hphase hout =>
        rw [haction] at hg
        exact hne (Option.some.inj hg).symm
    rw [if_neg hother, Nat.add_zero]
  have hheard {g : Nat} (hne : g ≠ f) : heardOf (log ++ Reactor.stepLog action out) g = heardOf log g := by
    rw [heardOf_step, filter_fetch hfetch, if_neg (Ne.symm hne), append_nil]
  refine ⟨fun g y hy => ?_, fun g hg => ?_, ?_, howed.2, hs.maximum, ?_⟩
  · simp only [goes, get_set] at hy
    split at hy
    · next heq =>
      subst heq
      cases hy
      rw [heardOf_step, filter_fetch hfetch, if_pos rfl, stepsOf_step]
      exact (hs.each _ x hx).moves hmove
    · next hne =>
      rw [hheard hne, hsteps hne]
      exact hs.each g y hy
  · simp only [goes, get_set] at hg
    split at hg
    · cases hg
    · next hne =>
      rw [hheard hne, hsteps hne]
      exact hs.unheard g hg
  · have htotal := s.fetches.total_set owed f x'
    have hshare : s.fetches.share owed f = x.owed := by simp [Dict.share, hx]
    have hbudget := hs.budget
    rw [requestsOf_step, length_append]
    simp only [goes]
    omega
  · cases hmove with
    | requested address hphase =>
      rw [Reactor.stepLog, append_cons]
      refine (hs.requests.append fun happening hmem before g request heq => ?_).concat fun g request heq => ?_
      · subst heq
        simp at hmem
      · cases heq
        have hsame : heardOf (log ++ [.accepted (.requests f)]) f = heardOf log f := by simp [heardOf]
        rw [hsame]
        exact (hs.each f x hx).safe hphase _
    | aborted | taken => exact along_of_unasked hs.requests fun notice hnotice => absurd hnotice not_mem_nil
    | pinned answers address hphase hpublic hchosen =>
      exact along_of_unasked hs.requests (by simp [FetchNotice.asked])
    | answered answer hphase =>
      refine along_of_unasked hs.requests ?_
      split
      · simp [FetchNotice.asked]
      · simp [FetchNotice.asked]
    | threw action failure out haction hphase hout =>
      refine along_of_unasked hs.requests ?_
      rcases hout with rfl | ⟨answers, rfl⟩
      · exact fun notice hnotice => absurd hnotice not_mem_nil
      · simp [FetchNotice.asked]

theorem Sound.steps (hs : s.Sound U maximum log) (hseen : SchemeSeen U s action)
    (h : s.step U action = .ok (s', out)) : s'.Sound U maximum (log ++ Reactor.stepLog action out) := by
  rcases step_cases h with ⟨f, input, options, rfl, hfree, hstart⟩ | ⟨f, x, count, x', hx, hmove, rfl⟩
  · rcases hstart with ⟨rfl, rfl⟩ | ⟨x, hbegin, rfl, rfl⟩
    · refine ⟨fun g y hy => ?_, fun g hg => ?_, ?_, hs.count, hs.maximum,
        along_of_unasked hs.requests fun notice hnotice => absurd hnotice not_mem_nil⟩
      · rw [heardOf_step, stepsOf_step]
        simpa [takesOn] using hs.each g y hy
      · rw [heardOf_step, stepsOf_step]
        simpa [takesOn] using hs.unheard g hg
      · rw [requestsOf_step]
        simpa using hs.budget
    · obtain ⟨hheard, hsteps⟩ := hs.unheard f hfree
      have hfetch : ∀ notice ∈ [FetchNotice.started f input], notice.fetch = f := by simp [FetchNotice.fetch]
      refine ⟨fun g y hy => ?_, fun g hg => ?_, ?_, hs.count, hs.maximum,
        along_of_unasked hs.requests (by simp [FetchNotice.asked])⟩
      · simp only [goes, get_set] at hy
        rw [heardOf_step, filter_fetch hfetch, stepsOf_step]
        split at hy
        · next heq =>
          subst heq
          cases hy
          rw [if_pos rfl, hheard, hsteps]
          exact FetchSound.begin hbegin hseen
        · next hne =>
          rw [if_neg (Ne.symm hne), append_nil]
          exact hs.each g y hy
      · simp only [goes, get_set] at hg
        rw [heardOf_step, filter_fetch hfetch, stepsOf_step]
        split at hg
        · cases hg
        · next hne =>
          rw [if_neg (Ne.symm hne), append_nil]
          exact hs.unheard g hg
      · have howed : x.owed = 0 := by
          unfold SafeFetch.begin at hbegin
          dsimp only at hbegin
          split at hbegin
          · cases hbegin
          · split at hbegin
            · cases hbegin
            · cases hbegin; rfl
        have htotal := s.fetches.total_set owed f x
        have hbudget := hs.budget
        rw [requestsOf_step, length_append]
        simp only [goes, filterMap_cons, FetchNotice.asked, filterMap_nil, length_nil]
        omega
  · exact hs.moves hx hmove

theorem goes_on (U : UrlLib) (hx : s.fetches.get f = some x) (hlive : x.phase.over = false)
    (hsome : 0 < s.perOriginConcurrency) :
    ∃ action g came, action.takesOn = some g ∧ s.step U action = .ok came := by
  cases hphase : x.phase with
  | turning =>
    refine ⟨.turns f, f, ?_⟩
    by_cases haborted : x.aborted = true
    · simp [step, hx, hphase, haborted, takesOn]
    · by_cases hspent : s.maximum ≤ s.count
      · simp [step, hx, hphase, haborted, hspent, takesOn]
      · simp [step, hx, hphase, haborted, hspent, takesOn]
  | resolving => exact ⟨.resolves f (.ok []), f, by simp [step, hx, hphase, takesOn]⟩
  | acquiring address =>
    by_cases hfree : s.active x.url.origin < s.perOriginConcurrency
    · exact ⟨.requests f, f, by simp [step, hx, hphase, hfree, takesOn]⟩
    · -- The origin is busy: the transport owes an answer to one of its requests.
      have hbusy : 0 < s.active x.url.origin := by omega
      obtain ⟨y, hy, hat⟩ := countP_pos_iff.1 hbusy
      obtain ⟨g, hg⟩ := exists_get_of_mem hy
      have hrequesting : y.phase = .requesting := by
        simp only [SafeFetch.isAt, Bool.and_eq_true, decide_eq_true_eq] at hat
        exact hat.1
      exact ⟨.answers g (.error "network_error"), g, by simp [step, hg, hrequesting, takesOn]⟩
  | requesting => exact ⟨.answers f (.error "network_error"), f, by simp [step, hx, hphase, takesOn]⟩
  | returned artifact => rw [hphase] at hlive; cases hlive
  | threw failure => rw [hphase] at hlive; cases hlive

theorem start_sound (U : UrlLib) (defaultUserAgent : String) (maximum perOriginConcurrency : Nat) :
    (start defaultUserAgent maximum perOriginConcurrency).Sound U maximum [] := by
  refine ⟨fun f x hx => ?_, fun f hf => ⟨rfl, rfl⟩, ?_, Nat.zero_le _, rfl, along_nil _⟩
  · cases hx
  · simp [start, requestsOf, Dict.total, Dict.values, Dict.empty]

theorem Sound.reaches (hs : s.Sound U maximum log) : ReachesPublic U maximum log := by
  refine ⟨hs.requests, fun f => ?_, ?_, fun f => ?_⟩
  · cases hx : s.fetches.get f with
    | none =>
      rw [(hs.unheard f hx).1]
      exact Nat.zero_le _
    | some x => exact Nat.le_trans (Nat.le_of_eq (hs.each f x hx).redirects) (hs.each f x hx).bounded
  · have hbudget := hs.budget
    have hcount := hs.count
    rw [hs.maximum] at hcount
    omega
  · cases hx : s.fetches.get f with
    | none =>
      rw [(hs.unheard f hx).2]
      exact Nat.zero_le _
    | some x => exact Nat.le_trans (Nat.le_add_right _ _) (hs.each f x hx).steps

end SafeFetcher

/-- **The fetcher reaches only public addresses.** In every run in which no text is typed in with a blank before
its `https:` scheme, whatever the resolver and the transport answer, every request is pinned to an address of
the answer that was got for it, which was public as a whole, and goes to a URL that passes; a fetch follows at
most five redirects and no one from `https:` to `http:`, but that an address without a scheme is tried once
more; the requests are within the budget; and every fetch ends: it takes at most 28 steps, and while one is not
over, one can be taken on. -/
theorem reaches_only_public (U : UrlLib) (defaultUserAgent : String) (maximum perOriginConcurrency : Nat)
    (actions : List FetchAction)
    (h : (fetchMachine U).Meets (SchemeSeen U) (.start defaultUserAgent maximum perOriginConcurrency) actions) :
    ReachesPublic U maximum (fetchLog U (.start defaultUserAgent maximum perOriginConcurrency) actions) ∧
      ∀ s, s = fetchRun U (.start defaultUserAgent maximum perOriginConcurrency) actions →
        0 < s.perOriginConcurrency → ∀ f x, s.fetches.get f = some x → x.phase.over = false →
          ∃ action g came, action.takesOn = some g ∧ s.step U action = .ok came := by
  have hstart := SafeFetcher.start_sound U defaultUserAgent maximum perOriginConcurrency
  have hend := (fetchMachine U).log_induction_meeting (P := fun s log => s.Sound U maximum log)
    (fun hs hseen hstep => hs.steps hseen hstep) hstart actions h
  rw [List.nil_append] at hend
  exact ⟨hend.reaches, fun s _ hsome f x hx hlive => SafeFetcher.goes_on U hx hlive hsome⟩

/-- Example's home page, over `https:`. -/
def exampleHome : Url := ⟨"https:", "", "", "example.com", "", "/", "", ""⟩

theorem noKeys_delete (_ _ other : String) (h : other ∈ ([] : List String)) : other ∈ ([] : List String) := h

/-- A platform that knows of one page. -/
def examplePlatform : UrlLib where
  parse text := if text = "https://example.com" ∨ text = "https://example.com/" then some exampleHome else none
  resolve _ _ := none
  keys _ := []
  delete search _ := search
  parse_hostname := by
    intro text url h _
    split at h
    · cases h; decide +kernel
    · cases h
  keys_delete := noKeys_delete

def noAnswer : TransportAnswer :=
  ⟨⟨"https://example.com/", 0, [], "", 0, false, 12, 12, some "network_error"⟩, none⟩

/-- Where example's host name leads. -/
def exampleAddress : ResolvedAddress := ⟨"93.184.216.34", 4⟩

/-- A fetch whose first request comes to nothing. -/
def triesTwice (text : String) : List FetchAction :=
  [.starts 0 (.typed text) ⟨none, none, none, none, none⟩, .turns 0, .resolves 0 (.ok [exampleAddress]), .requests 0,
    .answers 0 (.ok noAnswer), .turns 0, .resolves 0 (.ok [exampleAddress]), .requests 0]

/-- Where the address came without a scheme, the second request may be made. -/
theorem bare_address_reaches :
    ReachesPublic examplePlatform 18
        (fetchLog examplePlatform (.start "scanner" 18 2) (triesTwice "example.com")) ∧
      ∀ s, s = fetchRun examplePlatform (.start "scanner" 18 2) (triesTwice "example.com") →
        0 < s.perOriginConcurrency → ∀ f x, s.fetches.get f = some x → x.phase.over = false →
          ∃ action g came, action.takesOn = some g ∧ s.step examplePlatform action = .ok came :=
  reaches_only_public examplePlatform "scanner" 18 2 (triesTwice "example.com")
    ⟨fun _ hscheme => absurd hscheme (by decide +kernel), trivial, trivial, trivial, trivial, trivial, trivial,
      trivial, trivial⟩

/-- Where it came with a blank before `https:`, the second request goes to `http:` all the same. -/
theorem blank_address_downgrades : ¬ ∀ (U : UrlLib) (defaultUserAgent : String)
    (maximum perOriginConcurrency : Nat) (actions : List FetchAction),
    ReachesPublic U maximum (fetchLog U (.start defaultUserAgent maximum perOriginConcurrency) actions) := by
  intro h
  have hreaches := h examplePlatform "scanner" 18 2 (triesTwice " https://example.com/")
  have hsplit : fetchLog examplePlatform (.start "scanner" 18 2) (triesTwice " https://example.com/") =
      [.accepted (.starts 0 (.typed " https://example.com/") ⟨none, none, none, none, none⟩),
        .emitted (.started 0 (.typed " https://example.com/")), .accepted (.turns 0),
        .accepted (.resolves 0 (.ok [exampleAddress])),
        .emitted (.resolved 0 "example.com" [exampleAddress]), .accepted (.requests 0),
        .emitted (.requested 0 ⟨exampleHome, exampleAddress, "GET",
          [("user-agent", "scanner"), ("accept", "text/html,application/xhtml+xml;q=0.9,*/*;q=0.1"),
            ("accept-encoding", "gzip, deflate, br"), ("connection", "close")], 8000, 3000, 2 * 1024 * 1024⟩),
        .accepted (.answers 0 (.ok noAnswer)), .emitted (.answered 0 noAnswer), .accepted (.turns 0),
        .accepted (.resolves 0 (.ok [exampleAddress])),
        .emitted (.resolved 0 "example.com" [exampleAddress]), .accepted (.requests 0)] ++
      .emitted (.requested 0 ⟨exampleHome.asHttp, exampleAddress, "GET",
          [("user-agent", "scanner"), ("accept", "text/html,application/xhtml+xml;q=0.9,*/*;q=0.1"),
            ("accept-encoding", "gzip, deflate, br"), ("connection", "close")], 8000, 3000, 2 * 1024 * 1024⟩) ::
        [] := by
    rfl
  obtain ⟨text, answers, answer, hheard, hlacks, -⟩ :=
    (hreaches.requests _ _ _ hsplit 0 _ rfl).secure _ rfl rfl rfl
  cases hheard
  exact absurd hlacks (by decide +kernel)

end Coinslot
