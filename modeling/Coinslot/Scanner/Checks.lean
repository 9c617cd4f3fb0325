import Mathlib.Data.Rat.Floor

/-!
# What a scan checks

The checks of a scan (`packages/scanner/src/checks.ts`) and the score they come to
(`packages/scanner/src/scoring.ts`). A scan fetches artifacts in three phases and evaluates all eighteen
checks in each; what it already told of is not told again. Each check looks only at some of the artifacts
(`CheckSuite`): so the checks told of after a phase are the checks of the evaluation at the end, all but the
one of the sitemap, which looks at the clock as well (`sitemapCheck`).

What the other checks say, and how robots files, sitemaps and dates are read, are parameters.
-/

namespace Coinslot

/-! ## Results -/

/-- How a check came out. -/
inductive CheckStatus where
  | pass
  | partly
  | fail
  | unavailable
  | notApplicable
  deriving DecidableEq, Repr

/-- A value a check brings forward as evidence. -/
inductive EvidenceValue where
  | text (value : String)
  | number (value : Int)
  | flag (value : Bool)
  | texts (values : List String)
  deriving DecidableEq, Repr

/-- The result of a check. -/
structure CheckResult where
  id : Nat
  status : CheckStatus
  nominalWeight : Nat
  applicableWeight : Nat
  earnedWeight : Nat
  summaryCode : String
  evidence : List (String × EvidenceValue)
  userImpactCode : String
  fixCode : Option String
  durationMs : Nat
  errorCode : Option String
  deriving DecidableEq, Repr

/-- The nominal weights of the checks, in the order of their identifiers (`CHECK_WEIGHTS`). -/
def checkWeights : List Nat := [5, 8, 4, 6, 10, 12, 8, 2, 6, 6, 4, 10, 8, 4, 4, 0, 1, 2]

/-- What a check says: its result, but for its identifier and its weights. -/
structure ResultInput where
  status : CheckStatus
  earnedWeight : Nat
  summaryCode : String
  evidence : List (String × EvidenceValue)
  userImpactCode : String
  fixCode : Option String
  durationMs : Nat
  errorCode : Option String
  applicable : Bool

/-- The result of a check that says something. Empty codes are left out. -/
def result (id : Nat) (input : ResultInput) : CheckResult :=
  let weight := checkWeights.getD (id - 1) 0
  { id := id
    status := input.status
    nominalWeight := weight
    applicableWeight := if input.applicable then weight else 0
    earnedWeight := input.earnedWeight
    summaryCode := input.summaryCode
    evidence := input.evidence
    userImpactCode := input.userImpactCode
    fixCode := input.fixCode.filter (· ≠ "")
    durationMs := input.durationMs
    errorCode := input.errorCode.filter (· ≠ "") }

/-! ## Artifacts -/

/-- What came of fetching something. -/
structure FetchArtifact where
  url : String
  status : Nat
  headers : List (String × String)
  body : String
  decodedBytes : Nat
  truncated : Bool
  durationMs : Nat
  ttfbMs : Nat
  errorCode : Option String
  deriving DecidableEq, Repr

/-- The kind of business a site is scanned as. -/
inductive Segment where
  | store
  | owner
  | localBusiness
  deriving DecidableEq, Repr

/-- What was fetched of a site. -/
structure ScanArtifacts where
  segment : Segment
  canonicalTargetUrl : String
  robots : FetchArtifact
  base : Option FetchArtifact
  representative : Option FetchArtifact
  markdown : Option FetchArtifact
  chatgptProbe : Option FetchArtifact
  claudeProbe : Option FetchArtifact
  sitemap : List FetchArtifact
  llms : Option FetchArtifact
  mcp : List FetchArtifact
  ucp : Option FetchArtifact
  oauth : List FetchArtifact
  a2a : Option FetchArtifact
  deriving DecidableEq, Repr

/-- What was fetched once the robots file is known. -/
structure PhasePages where
  base : Option FetchArtifact
  markdown : Option FetchArtifact
  chatgptProbe : Option FetchArtifact
  claudeProbe : Option FetchArtifact
  sitemap : List FetchArtifact
  llms : Option FetchArtifact
  mcp : List FetchArtifact
  ucp : Option FetchArtifact
  a2a : Option FetchArtifact

namespace ScanArtifacts

/-- The artifacts of the first phase: the robots file. -/
def skeleton (segment : Segment) (canonicalTargetUrl : String) (robots : FetchArtifact) : ScanArtifacts :=
  { segment := segment
    canonicalTargetUrl := canonicalTargetUrl
    robots := robots
    base := none
    representative := none
    markdown := none
    chatgptProbe := none
    claudeProbe := none
    sitemap := []
    llms := none
    mcp := []
    ucp := none
    oauth := []
    a2a := none }

section

variable (artifacts : ScanArtifacts)

/-- The artifacts of the second phase. -/
def withPages (pages : PhasePages) : ScanArtifacts :=
  { artifacts with
    base := pages.base
    markdown := pages.markdown
    chatgptProbe := pages.chatgptProbe
    claudeProbe := pages.claudeProbe
    sitemap := pages.sitemap
    llms := pages.llms
    mcp := pages.mcp
    ucp := pages.ucp
    a2a := pages.a2a }

def withRest (oauth : List FetchArtifact) (representative : Option FetchArtifact) : ScanArtifacts :=
  { artifacts with oauth := oauth, representative := representative }

/-- The artifacts without those a site's robots file keeps from a scan. -/
def withoutContent : ScanArtifacts :=
  { artifacts with
    base := none
    representative := none
    markdown := none
    chatgptProbe := none
    claudeProbe := none }

end

end ScanArtifacts

/-! ## The checks -/

/-- What is read of a sitemap. -/
structure SitemapResult where
  valid : Bool
  isIndex : Bool
  urls : List String
  lastmods : List String

/-- How robots files, sitemaps and dates are read, and what the checks but the one of the sitemap say, each
of the artifacts it looks at. -/
structure CheckSuite where
  targetContentAllowed : FetchArtifact → String → Bool
  parseSitemap : String → SitemapResult
  dateParse : String → Option Int
  robots : FetchArtifact → ResultInput
  aiPolicy : FetchArtifact → ResultInput
  contentSignal : FetchArtifact → ResultInput
  jsonLdPresence : Option FetchArtifact → Option FetchArtifact → ResultInput
  verticalJsonLd : Segment → Option FetchArtifact → Option FetchArtifact → ResultInput
  markdownCheck : Option FetchArtifact → Option FetchArtifact → ResultInput
  llmsCheck : Option FetchArtifact → ResultInput
  mcpCheck : List FetchArtifact → ResultInput
  ucpCheck : Segment → Option FetchArtifact → ResultInput
  oauthCheck : List FetchArtifact → Option FetchArtifact → Option FetchArtifact →
    List FetchArtifact → ResultInput
  ssrCheck : Segment → Option FetchArtifact → Option FetchArtifact → ResultInput
  agentUaCheck : Option FetchArtifact → Option FetchArtifact → Option FetchArtifact → ResultInput
  performanceCheck : Option FetchArtifact → ResultInput
  feedCheck : Segment → Option FetchArtifact → Option FetchArtifact → ResultInput
  fingerprintCheck : ResultInput
  a2aCheck : Option FetchArtifact → ResultInput
  hreflangCheck : Option FetchArtifact → ResultInput

def FetchArtifact.inaccessible (artifact : FetchArtifact) : Bool :=
  artifact.errorCode.any (· ≠ "") || artifact.status = 0 || 500 ≤ artifact.status

def FetchArtifact.missing (artifact : FetchArtifact) : Bool := artifact.status = 404 || artifact.status = 410

/-- How long a page counts as fresh. -/
def staleMs : Int := 180 * 86400000

namespace CheckSuite

variable (K : CheckSuite)

/-- How many of the dates are stale, or no dates at all. -/
def stale (lastmods : List String) (now : Int) : Nat :=
  lastmods.countP fun value => (K.dateParse value).all (· < now - staleMs)

/-- The dates of what was read of a sitemap. -/
def lastmods (sitemap : List FetchArtifact) : List String :=
  let available := sitemap.filter fun artifact => !artifact.inaccessible && !artifact.missing
  ((available.map fun artifact => K.parseSitemap artifact.body).filter (·.valid)).flatMap (·.lastmods)

/-- Whether a site has a sitemap, and whether it is kept up to date at an instant. -/
def sitemapCheck (sitemap : List FetchArtifact) (now : Int) : ResultInput :=
  let available := sitemap.filter fun artifact => !artifact.inaccessible && !artifact.missing
  if available = [] then
    if sitemap.any (·.missing) then
      { status := .fail
        earnedWeight := 0
        summaryCode := "sitemap_missing"
        evidence := []
        userImpactCode := "sitemap_discovery_gap"
        fixCode := some "publish_sitemap"
        durationMs := 0
        errorCode := none
        applicable := true }
    else
      { status := .unavailable
        earnedWeight := 0
        summaryCode := "sitemap_unavailable"
        evidence := []
        userImpactCode := "sitemap_not_assessed"
        fixCode := none
        durationMs := 0
        errorCode := some ((sitemap.head?.bind (·.errorCode)).getD "sitemap_unavailable")
        applicable := true }
  else
    let valid := (available.map fun artifact => K.parseSitemap artifact.body).filter (·.valid)
    if valid.isEmpty then
      { status := .fail
        earnedWeight := 0
        summaryCode := "sitemap_invalid"
        evidence := [("files_checked", .number available.length)]
        userImpactCode := "sitemap_discovery_gap"
        fixCode := some "repair_sitemap"
        durationMs := 0
        errorCode := none
        applicable := true }
    else
      let lastmods := K.lastmods sitemap
      let stale := K.stale lastmods now
      let childUnavailable := valid.any (·.isIndex) && sitemap.any (·.inaccessible)
      -- More than four fifths of the dates are stale; where there are no dates, all of them are.
      let partly := childUnavailable || lastmods.isEmpty || 4 * lastmods.length < 5 * stale
      { status := if partly then .partly else .pass
        earnedWeight := if partly then if childUnavailable then 2 else 4 else 6
        summaryCode := if partly then "sitemap_partial" else "sitemap_valid"
        evidence :=
          [("files_checked", .number sitemap.length),
            ("url_count", .number (valid.flatMap (·.urls)).length),
            ("lastmod_count", .number lastmods.length),
            ("stale_ratio_percent", .number <|
              if lastmods.isEmpty then 100
              else ((200 * stale + lastmods.length) / (2 * lastmods.length) : Nat))]
        userImpactCode := "sitemap_discovery"
        fixCode := if partly then some "improve_sitemap" else none
        durationMs := (sitemap.map (·.durationMs)).sum
        errorCode := none
        applicable := true }

/-- Every check, at an instant. -/
def evaluateChecks (artifacts : ScanArtifacts) (now : Int) : List CheckResult :=
  let effective :=
    if K.targetContentAllowed artifacts.robots artifacts.canonicalTargetUrl then artifacts
    else artifacts.withoutContent
  [result 1 (K.robots artifacts.robots),
    result 2 (K.aiPolicy artifacts.robots),
    result 3 (K.contentSignal artifacts.robots),
    result 4 (K.sitemapCheck artifacts.sitemap now),
    result 5 (K.jsonLdPresence effective.base effective.representative),
    result 6 (K.verticalJsonLd effective.segment effective.base effective.representative),
    result 7 (K.markdownCheck effective.markdown effective.base),
    result 8 (K.llmsCheck artifacts.llms),
    result 9 (K.mcpCheck artifacts.mcp),
    result 10 (K.ucpCheck artifacts.segment artifacts.ucp),
    result 11 (K.oauthCheck artifacts.mcp artifacts.ucp artifacts.base artifacts.oauth),
    result 12 (K.ssrCheck effective.segment effective.base effective.representative),
    result 13 (K.agentUaCheck effective.base effective.chatgptProbe effective.claudeProbe),
    result 14 (K.performanceCheck effective.base),
    result 15 (K.feedCheck effective.segment effective.base effective.representative),
    result 16 K.fingerprintCheck,
    result 17 (K.a2aCheck artifacts.a2a),
    result 18 (K.hreflangCheck effective.base)]

def checkIds : List Nat := List.range' 1 18

theorem evaluateChecks_ids (artifacts : ScanArtifacts) (now : Int) :
    (K.evaluateChecks artifacts now).map (·.id) = checkIds := rfl

end CheckSuite

/-! ## The score -/

/-- How a scan that was evaluated ends. -/
inductive ScanEnding where
  | completed
  | partly
  | failed
  deriving DecidableEq, Repr

/-- How ready a site is. -/
inductive DiagnosticLevel where
  | invisible
  | readable
  | callableReady
  | aheadOfMarket
  | incomplete
  deriving DecidableEq, Repr

/-- What the checks of a scan come to. -/
structure ScanScore where
  score : Option Int
  coverage : Rat
  level : DiagnosticLevel
  terminalStatus : ScanEnding
  applicableWeight : Nat
  earnedWeight : Nat

/-- The level of a score. -/
def levelForScore (score : Int) (coverage : Rat) : DiagnosticLevel :=
  if coverage < 7 / 10 then .incomplete
  else if score ≤ 24 then .invisible
  else if score ≤ 49 then .readable
  else if score ≤ 69 then .callableReady
  else .aheadOfMarket

/-- A check that was assessed. -/
def CheckStatus.assessed : CheckStatus → Bool
  | pass | partly | fail => true
  | _ => false

/-- What checks come to. -/
def scoreChecks (checks : List CheckResult) : ScanScore :=
  let applicableWeight := (checks.map (·.applicableWeight)).sum
  let assessedWeight := (checks.map fun check => if check.status.assessed then check.applicableWeight else 0).sum
  let earnedWeight := (checks.map (·.earnedWeight)).sum
  let coverage : Rat := if applicableWeight = 0 then 0 else assessedWeight / applicableWeight
  let calculatedScore : Int :=
    if assessedWeight = 0 then 0 else ⌊(100 * earnedWeight / assessedWeight : Rat) + 1 / 2⌋
  { score := if coverage < 3 / 10 then none else some (max 0 (min 100 calculatedScore))
    coverage := coverage
    level := levelForScore calculatedScore coverage
    terminalStatus := if coverage < 3 / 10 then .failed else if coverage < 1 then .partly else .completed
    applicableWeight := applicableWeight
    earnedWeight := earnedWeight }

/-- What a scan is committed with: the results of all its checks. -/
structure ScanEvaluation where
  checks : List CheckResult
  complete : checks.map (·.id) = CheckSuite.checkIds
  deriving DecidableEq

def ScanEvaluation.score (evaluation : ScanEvaluation) : ScanScore := scoreChecks evaluation.checks

/-- The evaluation of artifacts at an instant. -/
def CheckSuite.evaluateScan (K : CheckSuite) (artifacts : ScanArtifacts) (now : Int) : ScanEvaluation :=
  ⟨K.evaluateChecks artifacts now, K.evaluateChecks_ids artifacts now⟩

end Coinslot
