import Coinslot.Lib.Reactor
import Coinslot.Lib.Dict
import Coinslot.Scanner.Checks
import Coinslot.Scanner.Ips
import Coinslot.Scanner.Urls

/-!
# The scanner's fetcher

A fetch (`apps/scanner-worker/src/safe-fetch.ts`) goes from URL to URL: it takes a request off the budget, asks
for the addresses of the host, refuses them unless all are public, waits for a turn at the origin and hands
the request to the transport, pinned to one of the addresses; what the transport answers ends the fetch, leads
to the next URL, or, where the first request of an address that was typed in without a scheme comes to nothing,
to the same one over `http:`. Any number of fetches is under way at once, on one budget. What is answered, by
the resolver as by the transport, may be anything.
-/

namespace Coinslot

/-- An address that a host name was resolved to. -/
structure ResolvedAddress where
  address : String
  family : Nat
  deriving DecidableEq, Repr

/-- What a fetch is asked for. -/
structure SafeFetchOptions where
  method : Option String
  accept : Option String
  userAgent : Option String
  bodyLimit : Option Nat
  timeoutMs : Option Nat
  deriving DecidableEq, Repr

/-- What is fetched: a text that was typed in, or a URL. -/
inductive FetchInput where
  | typed (text : String)
  | url (url : Url)
  deriving DecidableEq, Repr

/-- What is fetched, as a text. -/
def FetchInput.text : FetchInput → String
  | typed text => text
  | url target => target.text

/-- What the transport is handed. -/
structure PinnedTransportRequest where
  url : Url
  address : ResolvedAddress
  method : String
  headers : List (String × String)
  timeoutMs : Nat
  connectTimeoutMs : Nat
  maxDecodedBytes : Nat
  deriving DecidableEq, Repr

/-- What the transport answers. -/
structure TransportAnswer where
  artifact : FetchArtifact
  redirectLocation : Option String
  deriving DecidableEq, Repr

/-- What a fetch throws. -/
inductive FetchFailure where
  | urlPolicy (code : String)
  | aborted
  | failed (message : String)
  deriving DecidableEq, Repr

/-- The address a request is pinned to. -/
def selectPinnedAddress (answers : List ResolvedAddress) : Except String ResolvedAddress :=
  match (answers.find? (·.family = 4)).or (answers.find? (·.family = 6)) with
  | none => .error "dns_no_answers"
  | some selected => .ok selected

/-- What an address that was typed in without a scheme is tried once more after, over `http:`. -/
def retryCodes : List String := ["network_error", "connection_reset", "dns_error", "fetch_timeout"]

/-- How far a fetch is. -/
inductive FetchPhase where
  | turning
  | resolving
  | acquiring (address : ResolvedAddress)
  | requesting
  | returned (artifact : FetchArtifact)
  | threw (failure : FetchFailure)
  deriving DecidableEq, Repr

/-- A fetch. -/
structure SafeFetch where
  input : FetchInput
  options : SafeFetchOptions
  method : String
  schemeWasMissing : Bool
  url : Url
  redirects : Nat
  usedHttpFallback : Bool
  aborted : Bool
  phase : FetchPhase
  deriving DecidableEq, Repr

namespace SafeFetch

/-- The fetch before the first turn of its loop. -/
def begin (U : UrlLib) (input : FetchInput) (options : SafeFetchOptions) : Except FetchFailure SafeFetch :=
  let schemeWasMissing :=
    match input with
    | .typed text => !hasScheme text.toList
    | .url _ => false
  match U.canonicalizeTarget input.text with
  | .error code => .error (.urlPolicy code)
  | .ok url =>
    let method := options.method.getD "GET"
    if method ≠ "GET" ∧ method ≠ "HEAD" then .error (.urlPolicy "method_blocked")
    else .ok ⟨input, options, method, schemeWasMissing, url, 0, false, false, .turning⟩

variable (x : SafeFetch)

/-- The request a fetch hands to the transport. -/
def request (defaultUserAgent : String) (address : ResolvedAddress) : PinnedTransportRequest :=
  { url := x.url
    address := address
    method := x.method
    headers :=
      [("user-agent", x.options.userAgent.getD defaultUserAgent),
        ("accept", x.options.accept.getD "text/html,application/xhtml+xml;q=0.9,*/*;q=0.1"),
        ("accept-encoding", "gzip, deflate, br"),
        ("connection", "close")]
    timeoutMs := min (x.options.timeoutMs.getD 8000) 8000
    connectTimeoutMs := 3000
    maxDecodedBytes := x.options.bodyLimit.getD (2 * 1024 * 1024) }

/-- Whether a fetch tries the same address over `http:`. -/
def fallsBack (answer : TransportAnswer) : Bool :=
  x.schemeWasMissing && !x.usedHttpFallback && x.redirects = 0 && x.url.protocol = "https:" &&
    answer.artifact.errorCode.any (· ∈ retryCodes)

/-- Where an answer redirects a fetch to, if it does. -/
def redirectOf (answer : TransportAnswer) : Option String :=
  if answer.artifact.status < 300 ∨ 400 ≤ answer.artifact.status then none
  else answer.redirectLocation.filter (· ≠ "")

/-- What becomes of a fetch that is answered, and whether it follows a redirect. -/
def lands (U : UrlLib) (answer : TransportAnswer) : SafeFetch × Bool :=
  if x.fallsBack answer then ({ x with url := x.url.asHttp, usedHttpFallback := true, phase := .turning }, false)
  else
    match redirectOf answer with
    | none => ({ x with phase := .returned answer.artifact }, false)
    | some location =>
      if 5 ≤ x.redirects then
        ({ x with
          phase := .returned { answer.artifact with errorCode := some "redirect_limit_exceeded" } }, false)
      else
        match U.validateRedirect x.url location with
        | .error code => ({ x with phase := .threw (.urlPolicy code) }, false)
        | .ok url => ({ x with url := url, redirects := x.redirects + 1, phase := .turning }, true)

def isAt (origin : String) : Bool := x.phase = .requesting && x.url.origin = origin

end SafeFetch

/-- Everything that can happen next. -/
inductive FetchAction where
  | starts (f : Nat) (input : FetchInput) (options : SafeFetchOptions)
  | aborts (f : Nat)
  | turns (f : Nat)
  | resolves (f : Nat) (answers : Except String (List ResolvedAddress))
  | requests (f : Nat)
  | quits (f : Nat)
  | answers (f : Nat) (answer : Except String TransportAnswer)

/-- The fetch that an action takes on, of those that have started. -/
def FetchAction.takesOn : FetchAction → Option Nat
  | .starts _ _ _ => none
  | .aborts _ => none
  | .turns f => some f
  | .resolves f _ => some f
  | .requests f => some f
  | .quits f => some f
  | .answers f _ => some f

/-- What is heard of a fetch. -/
inductive FetchNotice where
  | started (f : Nat) (input : FetchInput)
  | resolved (f : Nat) (hostname : String) (answers : List ResolvedAddress)
  | requested (f : Nat) (request : PinnedTransportRequest)
  | answered (f : Nat) (answer : TransportAnswer)
  | redirected (f : Nat)
  deriving DecidableEq

/-- The fetches on one budget. -/
structure SafeFetcher where
  defaultUserAgent : String
  maximum : Nat
  perOriginConcurrency : Nat
  count : Nat
  fetches : Dict Nat SafeFetch

namespace SafeFetcher

/-- A fetcher on a budget of its own. -/
def start (defaultUserAgent : String) (maximum perOriginConcurrency : Nat) : SafeFetcher :=
  { defaultUserAgent := defaultUserAgent
    maximum := maximum
    perOriginConcurrency := perOriginConcurrency
    count := 0
    fetches := .empty }

variable (U : UrlLib) (s : SafeFetcher) (f : Nat) (x : SafeFetch)

def goes : SafeFetcher := { s with fetches := s.fetches.set f x }

/-- The addresses of a host are checked, and one is chosen. -/
def resolves (answers : Except String (List ResolvedAddress)) : SafeFetcher × List FetchNotice :=
  match answers with
  | .error message => (s.goes f { x with phase := .threw (.failed message) }, [])
  | .ok answers =>
    let heard := [.resolved f x.url.hostname answers]
    match assertPublicAddresses (answers.map (·.address)) with
    | .error message => (s.goes f { x with phase := .threw (.failed message) }, heard)
    | .ok () =>
      match selectPinnedAddress answers with
      | .error message => (s.goes f { x with phase := .threw (.failed message) }, heard)
      | .ok address => (s.goes f { x with phase := .acquiring address }, heard)

def active (origin : String) : Nat := s.fetches.values.countP (SafeFetch.isAt · origin)

/-- The transport is answered. -/
def answered (answer : TransportAnswer) : SafeFetcher × List FetchNotice :=
  let landed := x.lands U answer
  (s.goes f landed.1, .answered f answer :: if landed.2 then [.redirected f] else [])

/-- One step. -/
def step : FetchAction → Except Unit (SafeFetcher × List FetchNotice)
  | .starts f input options =>
    if s.fetches.has f then .error ()
    else
      match SafeFetch.begin U input options with
      | .error _ => .ok (s, [])
      | .ok x => .ok (s.goes f x, [.started f input])
  | .aborts f =>
    match s.fetches.get f with
    | none => .error ()
    | some x => .ok (s.goes f { x with aborted := true }, [])
  | .turns f =>
    match s.fetches.get f with
    | some x =>
      if x.phase ≠ .turning then .error ()
      else if x.aborted then .ok (s.goes f { x with phase := .threw .aborted }, [])
      else if s.maximum ≤ s.count then
        .ok (s.goes f { x with phase := .threw (.failed "request_budget_exhausted") }, [])
      else .ok ({ s with count := s.count + 1 }.goes f { x with phase := .resolving }, [])
    | none => .error ()
  | .resolves f answers =>
    match s.fetches.get f with
    | some x => if x.phase = .resolving then .ok (s.resolves f x answers) else .error ()
    | none => .error ()
  | .requests f =>
    match s.fetches.get f with
    | some x =>
      match x.phase with
      | .acquiring address =>
        if s.active x.url.origin < s.perOriginConcurrency then
          .ok (s.goes f { x with phase := .requesting }, [.requested f (x.request s.defaultUserAgent address)])
        else .error ()
      | _ => .error ()
    | none => .error ()
  | .quits f =>
    match s.fetches.get f with
    | some x =>
      match x.phase with
      | .acquiring _ => if x.aborted then .ok (s.goes f { x with phase := .threw .aborted }, []) else .error ()
      | _ => .error ()
    | none => .error ()
  | .answers f answer =>
    match s.fetches.get f with
    | some x =>
      if x.phase = .requesting then
        match answer with
        | .error message => .ok (s.goes f { x with phase := .threw (.failed message) }, [])
        | .ok answer => .ok (s.answered U f x answer)
      else .error ()
    | none => .error ()

end SafeFetcher

def fetchMachine (U : UrlLib) : Reactor SafeFetcher FetchAction FetchNotice Unit := ⟨SafeFetcher.step U⟩

def fetchRun (U : UrlLib) (s : SafeFetcher) (actions : List FetchAction) : SafeFetcher :=
  (fetchMachine U).run s actions

/-- What happened on the way. -/
def fetchLog (U : UrlLib) (s : SafeFetcher) (actions : List FetchAction) :
    List (Happening FetchAction FetchNotice) :=
  (fetchMachine U).log s actions

end Coinslot
