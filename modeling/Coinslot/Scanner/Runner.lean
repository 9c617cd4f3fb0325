import Coinslot.Lib.Promises
import Coinslot.Scanner.Fetches
import Coinslot.Scanner.Robots
import Coinslot.Scanner.Scans

/-!
# The runner of a scan

What a scan fetches of a site (`ScanRunner.run`, `apps/scanner-worker/src/scan-runner.ts`): the robots file;
once it is known, and as it allows, the pages of the target, its sitemaps, and the documents it may describe
itself by; and last what those lead to. Each of the three parts is a promise whose requests are answered in any
order. The checks are told of part by part, and all of them are evaluated at the end.

The runner works over the fetcher (`SafeFetcher`): a request of a promise is a fetch, that goes on step by step
beside the others, and the promise goes on when the fetch is over. At the deadline every fetch is aborted.
Which part of a host name is the domain, and whether a document tells of an authorization, are as the libraries
have it (`ScanLib`). The clock stands still while a scan runs.
-/

namespace Coinslot

/-- What scans are made with. -/
structure ScanLib where
  urls : UrlLib
  suite : CheckSuite
  getDomain : String → Option String
  declaresAuth : String → Bool
  lowerCase : List Char → List Char

/-- What a scan is asked for. -/
structure ScanRunJob where
  canonicalTargetUrl : String
  segment : Segment
  submittedWithoutScheme : Bool
  deadlineAt : Option Int
  deriving DecidableEq, Repr

/-! ## What is asked for -/

/-- What a request of a scan is for. -/
inductive ScanSource where
  | robots
  | base
  | markdown
  | chatgptProbe
  | claudeProbe
  | sitemap
  | llms
  | mcp
  | mcpCard
  | ucp
  | a2a
  | authorizationServer
  | protectedResource
  | head
  | representative
  deriving DecidableEq, Repr

/-- A request of a scan. -/
structure ScanRequest where
  source : ScanSource
  input : FetchInput
  options : SafeFetchOptions
  deriving DecidableEq, Repr

abbrev ScanPromise (α : Type) : Type 1 := Promise ScanRequest FetchArtifact FetchFailure α

/-- An artifact that was not to be had. -/
def unavailableArtifact (url : Url) (errorCode : String) : FetchArtifact :=
  { url := url.text
    status := 0
    headers := []
    body := ""
    decodedBytes := 0
    truncated := false
    durationMs := 0
    ttfbMs := 0
    errorCode := some errorCode }

def fetchOptions (bodyLimit : Nat) (accept : Option String) : SafeFetchOptions :=
  ⟨none, accept, none, some bodyLimit, none⟩

namespace ScanLib

variable (L : ScanLib)

/-- A request. What it throws is thrown, but for an abort and a budget that is spent. -/
def fetch (source : ScanSource) (input : FetchInput) (options : SafeFetchOptions) : ScanPromise FetchArtifact :=
  .asks ⟨source, input, options⟩ fun
    | .ok artifact => .done artifact
    | .error failure =>
      match L.urls.canonicalizeTarget input.text with
      | .error code => .fails (.urlPolicy code)
      | .ok canonical =>
        if failure = .aborted then .done (unavailableArtifact canonical "global_deadline")
        else if failure = .failed "request_budget_exhausted" then
          .done (unavailableArtifact canonical "request_budget_exhausted")
        else .fails failure

/-- Whether two URLs are of one site. -/
def isSameSite (left right : Url) : Bool :=
  left.hostname = right.hostname ||
    (L.getDomain left.hostname).isSome && L.getDomain left.hostname = L.getDomain right.hostname

/-- A URL that a text names of the target's site. -/
def canonicalSameSiteUrl (value : String) (target : Url) (useFallbackOrigin : Bool) : Option Url :=
  match L.urls.canonicalizeTarget value with
  | .error _ => none
  | .ok candidate =>
    if !L.isSameSite candidate target then none
    else if useFallbackOrigin && candidate.hostname = target.hostname then
      some { candidate with protocol := target.protocol, port := target.port }
    else some candidate

/-- Whether documents tell of an authorization. -/
def authDeclared (artifacts : ScanArtifacts) : Bool :=
  (artifacts.mcp ++ artifacts.ucp.toList).any fun artifact => L.declaresAuth artifact.body

end ScanLib

def discoveryUrl (target : Url) (path : String) : Url :=
  { target with username := "", password := "", pathname := path, search := "", hash := "" }

/-- Whether a path is one a shop has its products under. -/
def isProductPath (pathname : String) : Bool :=
  let segments := (lowered pathname.toList).splitOn '/'
  segments.any (["product", "products", "shop", "item", "items", "sku"].map String.toList).contains ||
    segments.tail.dropLast.any (· = "p".toList)

/-- The URLs of a list whose texts were not seen before. -/
def unseenUrls : List String → List Url → List Url
  | _, [] => []
  | seen, url :: urls =>
    if url.text ∈ seen then unseenUrls seen urls else url :: unseenUrls (url.text :: seen) urls

/-! ## The site, once its robots file is known -/

/-- What is known of a site with its robots file. -/
structure ScanSite where
  segment : Segment
  target : Url
  usedHttpFallback : Bool
  robots : FetchArtifact
  deriving DecidableEq, Repr

namespace ScanSite

variable (L : ScanLib) (site : ScanSite)

def parsedRobots : RobotsParseResult := parseRobots L.lowerCase site.robots.body

/-- Whether the robots file came without an error. -/
def robotsAnswered : Bool := site.robots.errorCode.all (· = "")

/-- Whether it is known what the robots file says. -/
def robotsDecisionKnown : Bool :=
  site.robotsAnswered &&
    (site.robots.status = 404 || site.robots.status = 410 ||
      site.robots.status = 200 && !(site.parsedRobots L).fatal)

/-- Whether the rules of the robots file allow a path. -/
def rulesAllow (path : String) : Bool :=
  site.robots.status = 404 || site.robots.status = 410 ||
    site.robots.status = 200 && site.robotsAnswered && !(site.parsedRobots L).fatal &&
      isPathAllowed L.lowerCase (site.parsedRobots L) "agentify-scanner" path

def robotsAllows (url : Url) : Bool := site.rulesAllow L (if url.pathname = "" then "/" else url.pathname)

def targetAllowed : Bool := site.robotsAllows L site.target

/-- The sitemaps a scan begins with. -/
def sitemapTargets : List Url :=
  let declared := ((site.parsedRobots L).sitemaps.filterMap fun value =>
    L.canonicalSameSiteUrl value site.target site.usedHttpFallback).take 3
  if declared = [] then [discoveryUrl site.target "/sitemap.xml"] else declared

/-- What is told of a URL that may not be fetched. -/
def blockedCode : String := if site.robotsDecisionKnown L then "robots_disallowed" else "robots_unavailable"

/-- A request that is made as far as the robots file allows it. -/
def fetchIfRobotsAllowed (source : ScanSource) (url : Url) (options : SafeFetchOptions) :
    ScanPromise FetchArtifact :=
  if site.robotsAllows L url then L.fetch source (.url url) options
  else .done (unavailableArtifact url (site.blockedCode L))

/-- A request that is made once the robots file is known, for a document meant to be found. -/
def fetchExplicitDiscovery (source : ScanSource) (path : String) : ScanPromise FetchArtifact :=
  if site.robotsDecisionKnown L then
    L.fetch source (.url (discoveryUrl site.target path))
      (fetchOptions (1024 * 1024) (some "application/json,*/*;q=0.1"))
  else .done (unavailableArtifact (discoveryUrl site.target path) "robots_unavailable")

/-- The pages of the target, as different agents are shown them. -/
def contentPromise : ScanPromise (List FetchArtifact) :=
  if site.targetAllowed L then
    .all
      [L.fetch .base (.url site.target) (fetchOptions (2 * 1024 * 1024) none),
        L.fetch .markdown (.url site.target) (fetchOptions (2 * 1024 * 1024) (some "text/markdown")),
        L.fetch .chatgptProbe (.url site.target)
          { fetchOptions (2 * 1024 * 1024) none with userAgent := some "ChatGPT-User/1.0" },
        L.fetch .claudeProbe (.url site.target)
          { fetchOptions (2 * 1024 * 1024) none with userAgent := some "Claude-User" }]
  else .done []

/-- The sitemaps an index leads to. -/
def childSitemaps (seen : List String) (artifact : FetchArtifact) : List Url :=
  if artifact.errorCode.any (· ≠ "") || artifact.status < 200 || 300 ≤ artifact.status then []
  else
    let parsed := L.suite.parseSitemap artifact.body
    if !parsed.valid || !parsed.isIndex then []
    else
      (parsed.urls.filterMap fun value =>
        L.canonicalSameSiteUrl value site.target site.usedHttpFallback).filter fun url => !(url.text ∈ seen)

/-- The sitemaps, one after the other: those an index leads to come next. -/
def sitemapWalk : Nat → List Url → List String → List FetchArtifact → ScanPromise (List FetchArtifact)
  | 0, _, _, artifacts => .done artifacts
  | left + 1, pending, seen, artifacts =>
    match pending.dropWhile fun url => url.text ∈ seen with
    | [] => .done artifacts
    | url :: pending =>
      (site.fetchIfRobotsAllowed L .sitemap url
        (fetchOptions (5 * 1024 * 1024) (some "application/xml,text/xml,*/*;q=0.1"))).bind fun artifact =>
          sitemapWalk left (site.childSitemaps L (url.text :: seen) artifact ++ pending) (url.text :: seen)
            (artifacts ++ [artifact])

def sitemapPromise : ScanPromise (List FetchArtifact) :=
  if site.targetAllowed L then site.sitemapWalk L 3 (site.sitemapTargets L) [] []
  else .done ((site.sitemapTargets L).map (unavailableArtifact · "robots_disallowed"))

def llmsPromise : ScanPromise FetchArtifact :=
  let llmsUrl := discoveryUrl site.target "/llms.txt"
  if site.targetAllowed L then
    site.fetchIfRobotsAllowed L .llms llmsUrl
      (fetchOptions (512 * 1024) (some "text/plain,text/markdown,*/*;q=0.1"))
  else .done (unavailableArtifact llmsUrl "robots_disallowed")

/-- The documents a site describes itself by. -/
def wellKnown : ScanPromise (List FetchArtifact) :=
  .all <|
    [site.fetchExplicitDiscovery L .mcp "/.well-known/mcp.json",
      site.fetchExplicitDiscovery L .mcpCard "/.well-known/mcp/server-card.json"] ++
    (if site.segment = .store then [site.fetchExplicitDiscovery L .ucp "/.well-known/ucp"] else []) ++
    [site.fetchExplicitDiscovery L .a2a "/.well-known/agent-card.json"]

/-- What is fetched once the robots file is known. -/
def pagesPromise : ScanPromise PhasePages :=
  .both (.both (site.contentPromise L) (site.sitemapPromise L) fun content sitemap => .done (content, sitemap))
    (.both (site.llmsPromise L) (site.wellKnown L) fun llms known => .done (llms, known))
    fun (content, sitemap) (llms, known) =>
      .done
        { base := content[0]?
          markdown := content[1]?
          chatgptProbe := content[2]?
          claudeProbe := content[3]?
          sitemap := sitemap
          llms := some llms
          mcp := known.take 2
          ucp := if site.segment = .store then known[2]? else none
          a2a := if site.segment = .store then known[3]? else known[2]? }

def initialArtifacts : ScanArtifacts := .skeleton site.segment site.target.text site.robots

def oauthPromise (artifacts : ScanArtifacts) : ScanPromise (List FetchArtifact) :=
  if L.authDeclared artifacts then
    .all
      [site.fetchExplicitDiscovery L .authorizationServer "/.well-known/oauth-authorization-server",
        site.fetchExplicitDiscovery L .protectedResource "/.well-known/oauth-protected-resource"]
  else .done []

/-- The pages of products that sitemaps tell of, two at most. -/
def productCandidates (sitemap : List FetchArtifact) : List Url :=
  let values := sitemap.flatMap fun artifact =>
    let parsed := L.suite.parseSitemap artifact.body
    if parsed.valid && !parsed.isIndex then parsed.urls else []
  (unseenUrls [] ((values.filterMap fun value =>
    L.canonicalSameSiteUrl value site.target site.usedHttpFallback).filter fun url =>
      isProductPath url.pathname)).take 2

/-- Which of the pages that were looked at is fetched: the first that is there, or else the first that may
only be fetched as a whole. -/
def chosenHead (heads : List FetchArtifact) : Option Nat :=
  (heads.findIdx? fun head => 200 ≤ head.status && head.status < 400).or
    (heads.findIdx? fun head => head.status = 405 || head.status = 501)

/-- The page that stands for the products of a shop. -/
def representativePromise (sitemap : List FetchArtifact) : ScanPromise (Option FetchArtifact) :=
  if site.segment = .store && site.robotsDecisionKnown L && site.targetAllowed L then
    let candidates := (site.productCandidates L sitemap).filter (site.robotsAllows L)
    (Promise.all (candidates.map fun candidate =>
      L.fetch .head (.url candidate) ⟨some "HEAD", some "text/html,*/*;q=0.1", none, some 0, none⟩)).bind
        fun heads =>
          match (chosenHead heads).bind (candidates[·]?) with
          | none => .done none
          | some candidate =>
            (L.fetch .representative (.url candidate) (fetchOptions (2 * 1024 * 1024) none)).bind fun artifact =>
              .done (some artifact)
  else .done none

/-- What the pages lead to. -/
def restPromise (artifacts : ScanArtifacts) : ScanPromise (List FetchArtifact × Option FetchArtifact) :=
  .both (site.oauthPromise L artifacts) (site.representativePromise L artifacts.sitemap) fun oauth representative =>
    .done (oauth, representative)

end ScanSite

/-! ## The robots file -/

namespace ScanRunJob

variable (L : ScanLib) (job : ScanRunJob) (target : Url)

/-- The target of a scan that begins. -/
def begins (now : Int) : Except FetchFailure Url :=
  match L.urls.canonicalizeTarget job.canonicalTargetUrl with
  | .error code => .error (.urlPolicy code)
  | .ok target =>
    if job.deadlineAt.any fun deadlineAt => now < min deadlineAt (now + 55000) then .ok target
    else .error (.failed "scan_deadline_expired")

def robotsPromise : ScanPromise FetchArtifact :=
  L.fetch .robots
    (if job.submittedWithoutScheme then .typed (target.host ++ "/robots.txt")
      else .url (discoveryUrl target "/robots.txt"))
    (fetchOptions (512 * 1024) (some "text/plain,*/*;q=0.1"))

/-- What is known of a site with its robots file. Where that came over `http:` only, so does the rest. -/
def knows (robots : FetchArtifact) : Except FetchFailure ScanSite :=
  if job.submittedWithoutScheme then
    match L.urls.parse robots.url with
    | none => .error (.failed "Invalid URL")
    | some url =>
      if url.protocol = "http:" then .ok ⟨job.segment, target.asHttp, true, robots⟩
      else .ok ⟨job.segment, target, false, robots⟩
  else .ok ⟨job.segment, target, false, robots⟩

end ScanRunJob

/-! ## The runner -/

/-- How far a scan is. -/
inductive ScanStage : Type 1 where
  | fetchesRobots (p : ScanPromise FetchArtifact)
  | tellsRobots (site : ScanSite) (results : List CheckResult)
  | fetchesPages (site : ScanSite) (p : ScanPromise PhasePages)
  | tellsPages (site : ScanSite) (artifacts : ScanArtifacts) (results : List CheckResult)
  | fetchesRest (site : ScanSite) (artifacts : ScanArtifacts)
      (p : ScanPromise (List FetchArtifact × Option FetchArtifact))
  | tellsRest (site : ScanSite) (evaluation : ScanEvaluation) (results : List CheckResult)
  | returned (site : ScanSite) (evaluation : ScanEvaluation)
  | threw (failure : FetchFailure)

namespace ScanStage

/-- What a scan asks for next. -/
def next : ScanStage → Option ScanRequest
  | fetchesRobots p => p.next
  | fetchesPages _ p => p.next
  | fetchesRest _ _ p => p.next
  | _ => none

def issue (f : Nat) : ScanStage → ScanStage
  | fetchesRobots p => fetchesRobots (p.issue f)
  | fetchesPages site p => fetchesPages site (p.issue f)
  | fetchesRest site artifacts p => fetchesRest site artifacts (p.issue f)
  | stage => stage

/-- What is under way is answered, and the part goes on. -/
def settle (f : Nat) (o : Except FetchFailure FetchArtifact) : ScanStage → ScanStage
  | fetchesRobots p => fetchesRobots (p.settle f o).normal
  | fetchesPages site p => fetchesPages site (p.settle f o).normal
  | fetchesRest site artifacts p => fetchesRest site artifacts (p.settle f o).normal
  | stage => stage

/-- What is under way. -/
def awaited : ScanStage → List (Nat × ScanRequest)
  | fetchesRobots p => p.awaited
  | fetchesPages _ p => p.awaited
  | fetchesRest _ _ p => p.awaited
  | _ => []

/-- The site, once its robots file is known. -/
def site : ScanStage → Option ScanSite
  | tellsRobots site _ => some site
  | fetchesPages site _ => some site
  | tellsPages site _ _ => some site
  | fetchesRest site _ _ => some site
  | tellsRest site _ _ => some site
  | returned site _ => some site
  | _ => none

/-- What a scan threw, if it did. -/
def thrown : ScanStage → Option FetchFailure
  | fetchesRobots p => p.failure
  | fetchesPages _ p => p.failure
  | fetchesRest _ _ p => p.failure
  | threw failure => some failure
  | _ => none

/-- What became of a scan that is over. -/
def outcome : ScanStage → Option (Except FetchFailure ScanEvaluation)
  | returned _ evaluation => some (.ok evaluation)
  | stage => stage.thrown.map .error

/-- The checks that are told of. -/
def telling : ScanStage → List CheckResult
  | tellsRobots _ results => results
  | tellsPages _ _ results => results
  | tellsRest _ _ results => results
  | _ => []

end ScanStage

/-- Everything that can happen next. -/
inductive ScanRunAction where
  | issues
  | fetches (action : FetchAction)
  | settles (f : Nat)
  | expires
  | publishes
  | told
  | refuses (message : String)

/-- What is heard of a scan. -/
inductive ScanRunNotice where
  | asked (f : Nat) (request : ScanRequest)
  | fetched (notice : FetchNotice)
  | passed (results : List CheckResult)
  deriving DecidableEq

/-- A scan at work. -/
structure ScanRunner where
  fetcher : SafeFetcher
  aborted : Bool
  requests : List ScanRequest
  emitted : List Nat
  stage : ScanStage

namespace ScanRunner

variable (L : ScanLib) (job : ScanRunJob) (now : Int)

/-- A scan that has begun. -/
def start (target : Url) (appBaseUrl : String) : ScanRunner :=
  let appBaseUrl := if appBaseUrl.toList.getLast? = some '/' then appBaseUrl.toList.dropLast else appBaseUrl.toList
  { fetcher := .start ("agentify-scanner/1.0 (+" ++ String.ofList appBaseUrl ++ "/scanner)") 18 2
    aborted := false
    requests := []
    emitted := []
    stage := .fetchesRobots (job.robotsPromise L target) }

variable (s : ScanRunner)

/-- The results of some checks that were not told of yet. -/
def emits (artifacts : ScanArtifacts) (checkIds : List Nat) : List CheckResult :=
  (L.suite.evaluateChecks artifacts now).filter fun check =>
    checkIds.contains check.id && !s.emitted.contains check.id

/-- Checks are told of, unless there are none. -/
def passes (results : List CheckResult) : List ScanRunNotice := if results = [] then [] else [.passed results]

/-- The next request of a scan becomes a fetch. After the deadline, or where the fetcher refuses its URL, it is
over at once. -/
def issues (request : ScanRequest) : ScanRunner × List ScanRunNotice :=
  let f := s.requests.length
  let issued : ScanRunner := { s with requests := s.requests ++ [request], stage := s.stage.issue f }
  if s.aborted then ({ issued with stage := issued.stage.settle f (.error .aborted) }, [.asked f request])
  else
    match SafeFetch.begin L.urls request.input request.options with
    | .error failure => ({ issued with stage := issued.stage.settle f (.error failure) }, [.asked f request])
    | .ok x =>
      ({ issued with fetcher := s.fetcher.goes f x }, [.asked f request, .fetched (.started f request.input)])

/-- A part that is done is told of. -/
def publishes (target : Url) : Option (ScanRunner × List ScanRunNotice) :=
  match s.stage with
  | .fetchesRobots (.done robots) =>
    match job.knows L target robots with
    | .error failure => some ({ s with stage := .threw failure }, [])
    | .ok site =>
      let results := s.emits L now site.initialArtifacts robotsPhaseIds
      some ({ s with stage := .tellsRobots site results }, passes results)
  | .fetchesPages site (.done pages) =>
    let artifacts := site.initialArtifacts.withPages pages
    let results := s.emits L now artifacts pagesPhaseIds
    some ({ s with stage := .tellsPages site artifacts results }, passes results)
  | .fetchesRest site artifacts (.done (oauth, representative)) =>
    let artifacts := artifacts.withRest oauth representative
    let evaluation := L.suite.evaluateScan artifacts now
    let results := s.emits L now artifacts (evaluation.checks.map (·.id))
    some ({ s with stage := .tellsRest site evaluation results }, passes results)
  | _ => none

/-- What was told of was heard, and the scan goes on. -/
def told : Option ScanRunner :=
  let emitted := s.emitted ++ s.stage.telling.map (·.id)
  match s.stage with
  | .tellsRobots site _ =>
    some { s with emitted := emitted, stage := .fetchesPages site (site.pagesPromise L).normal }
  | .tellsPages site artifacts _ =>
    some { s with emitted := emitted, stage := .fetchesRest site artifacts (site.restPromise L artifacts).normal }
  | .tellsRest site evaluation _ => some { s with emitted := emitted, stage := .returned site evaluation }
  | _ => none

/-- One step. -/
def step (target : Url) : ScanRunAction → Except Unit (ScanRunner × List ScanRunNotice)
  | .issues =>
    match s.stage.next with
    | none => .error ()
    | some request => .ok (s.issues L request)
  | .fetches action =>
    if action.takesOn.isNone then .error ()
    else (s.fetcher.step L.urls action).map fun came => ({ s with fetcher := came.1 }, came.2.map .fetched)
  | .settles f =>
    match s.fetcher.fetches.get f with
    | none => .error ()
    | some x =>
      match x.phase with
      | .returned artifact => .ok ({ s with stage := s.stage.settle f (.ok artifact) }, [])
      | .threw failure => .ok ({ s with stage := s.stage.settle f (.error failure) }, [])
      | _ => .error ()
  | .expires =>
    .ok ({ s with
      aborted := true
      fetcher.fetches := s.fetcher.fetches.mapValues fun x => { x with aborted := true } }, [])
  | .publishes =>
    match s.publishes L job now target with
    | none => .error ()
    | some came => .ok came
  | .told =>
    match s.told L with
    | none => .error ()
    | some came => .ok (came, [])
  | .refuses message =>
    if s.stage.telling = [] then .error () else .ok ({ s with stage := .threw (.failed message) }, [])

end ScanRunner

/-! ## What a step can do -/

/-- Why a request of a scan is over at once: the deadline is past, or the fetcher refuses it. -/
def ScanRunner.Refuses (L : ScanLib) (s : ScanRunner) (request : ScanRequest) (failure : FetchFailure) : Prop :=
  s.aborted = true ∧ failure = .aborted ∨
    s.aborted = false ∧ SafeFetch.begin L.urls request.input request.options = .error failure

/-- What a fetch that is over came to. -/
inductive FetchPhase.CameTo : FetchPhase → Except FetchFailure FetchArtifact → Prop
  | returned (artifact : FetchArtifact) : CameTo (.returned artifact) (.ok artifact)
  | threw (failure : FetchFailure) : CameTo (.threw failure) (.error failure)

/-- What one accepted step does. -/
inductive ScanMove (L : ScanLib) (job : ScanRunJob) (now : Int) (target : Url) (s : ScanRunner) :
    ScanRunAction → ScanRunner → List ScanRunNotice → Prop
  | refused (request : ScanRequest) (failure : FetchFailure) (hnext : s.stage.next = some request)
      (hrefused : s.Refuses L request failure) :
    ScanMove L job now target s .issues
      { s with
        requests := s.requests ++ [request]
        stage := (s.stage.issue s.requests.length).settle s.requests.length (.error failure) }
      [.asked s.requests.length request]
  | begun (request : ScanRequest) (x : SafeFetch) (hnext : s.stage.next = some request)
      (hbegin : SafeFetch.begin L.urls request.input request.options = .ok x) :
    ScanMove L job now target s .issues
      { s with
        requests := s.requests ++ [request]
        stage := s.stage.issue s.requests.length
        fetcher := s.fetcher.goes s.requests.length x }
      [.asked s.requests.length request, .fetched (.started s.requests.length request.input)]
  | fetched (action : FetchAction) (fetcher : SafeFetcher) (heard : List FetchNotice)
      (htakes : action.takesOn.isSome = true) (hfetch : s.fetcher.step L.urls action = .ok (fetcher, heard)) :
    ScanMove L job now target s (.fetches action) { s with fetcher := fetcher } (heard.map .fetched)
  | settled (f : Nat) (x : SafeFetch) (o : Except FetchFailure FetchArtifact)
      (hx : s.fetcher.fetches.get f = some x) (hover : x.phase.CameTo o) :
    ScanMove L job now target s (.settles f) { s with stage := s.stage.settle f o } []
  | expired :
    ScanMove L job now target s .expires
      { s with
        aborted := true
        fetcher.fetches := s.fetcher.fetches.mapValues fun x => { x with aborted := true } } []
  | published (s' : ScanRunner) (out : List ScanRunNotice)
      (h : s.publishes L job now target = some (s', out)) : ScanMove L job now target s .publishes s' out
  | told (s' : ScanRunner) (h : s.told L = some s') : ScanMove L job now target s .told s' []
  | unheard (message : String) (h : s.stage.telling ≠ []) :
    ScanMove L job now target s (.refuses message) { s with stage := .threw (.failed message) } []

theorem ScanRunner.step_cases {L : ScanLib} {job : ScanRunJob} {now : Int} {target : Url} {s s' : ScanRunner}
    {action : ScanRunAction} {out : List ScanRunNotice} (h : s.step L job now target action = .ok (s', out)) :
    ScanMove L job now target s action s' out := by
  cases action with
  | issues =>
    simp only [step] at h
    split at h
    · cases h
    · next request hnext =>
      unfold issues at h
      split at h
      · next haborted => cases h; exact .refused request _ hnext (.inl ⟨haborted, rfl⟩)
      · next hgoing =>
        split at h
        · next failure hbegin =>
          cases h
          exact .refused request failure hnext (.inr ⟨by simpa using hgoing, hbegin⟩)
        · next x hbegin => cases h; exact .begun request x hnext hbegin
  | fetches action =>
    simp only [step] at h
    split at h
    · cases h
    · next htakes =>
      obtain ⟨⟨fetcher, heard⟩, hfetch, heq⟩ := Except.map_eq_ok_iff.1 h
      cases heq
      exact .fetched action fetcher heard (by simpa [Option.isSome_iff_ne_none] using htakes) hfetch
  | settles f =>
    simp only [step] at h
    split at h
    · cases h
    · next x hx =>
      split at h
      · next artifact hphase => cases h; exact .settled f x _ hx (hphase ▸ .returned artifact)
      · next failure hphase => cases h; exact .settled f x _ hx (hphase ▸ .threw failure)
      · cases h
  | expires => cases h; exact .expired
  | publishes =>
    simp only [step] at h
    split at h
    · cases h
    · next came hpublishes => cases h; exact .published _ _ hpublishes
  | told =>
    simp only [step] at h
    split at h
    · cases h
    · next came htold => cases h; exact .told _ htold
  | refuses message =>
    simp only [step] at h
    split at h
    · cases h
    · next htelling => cases h; exact .unheard message htelling

def scanRunMachine (L : ScanLib) (job : ScanRunJob) (now : Int) (target : Url) :
    Reactor ScanRunner ScanRunAction ScanRunNotice Unit := ⟨fun s => s.step L job now target⟩

end Coinslot
