import Coinslot.Lib.JsonTrees
import Coinslot.Scanner.Checks
import Coinslot.Scanner.Robots

/-!
# What the checks of a scan say

The eighteen checks (`packages/scanner/src/checks.ts`), each of the artifacts it looks at. Together they are the
suite a scan is evaluated with (`SiteReader.suite`).

The texts of a site are read by patterns and parsers (`packages/scanner/src/parsers.ts`), which are parameters of the
checks (`SiteReader`); robots files are read as they are (`parseRobots`).
-/

namespace Coinslot

open JsonTree

/-! ## Readers -/

abbrev JsonRecord (ν : Type) : Type := List (String × Json ν)

/-- What is read of the structured data of a page. -/
structure JsonLdResult (ν : Type) where
  nodes : List (JsonRecord ν)
  scriptCount : Nat
  invalidCount : Nat

/-- What is read of a page. -/
structure HtmlSignals where
  textLength : Nat
  hasH1 : Bool
  hasTitle : Bool
  hasPrice : Bool
  productLinkCount : Nat
  hreflangs : List String
  deriving DecidableEq, Repr

/-- How the texts of a site are read. -/
structure SiteReader (ν : Type) where
  lowerCase : List Char → List Char
  /-- The path of a URL. -/
  pathname : String → String
  parseSafeJson : String → Option (Json ν)
  parseJsonLd : String → JsonLdResult ν
  parseSitemap : String → SitemapResult
  dateParse : String → Option Int
  visibleText : String → String
  htmlSignals : String → HtmlSignals
  isChallenge : Nat → String → Bool
  comparableBodies : String → String → Bool
  stringify : JsonRecord ν → String
  /-- Whether a number is zero. -/
  isZero : ν → Bool
  /-- Whether a text has a heading of Markdown in it. -/
  hasHeading : String → Bool
  /-- Whether a text has a link of Markdown in it. -/
  hasLink : String → Bool
  /-- Whether pages link to a feed. -/
  hasFeedLink : String → Bool
  /-- Whether pages mark up products. -/
  marksProducts : String → Bool

/-- Whether a text holds a word, in whatever letter case. -/
def mentions (word text : String) : Bool := holds word.toList (lowered text.toList)

def FetchArtifact.header (artifact : FetchArtifact) (name : String) : Option String :=
  (artifact.headers.find? (·.1 = name)).map (·.2)

/-- What a check says at least. -/
def saying (status : CheckStatus) (earnedWeight : Nat) (summaryCode userImpactCode : String) : ResultInput where
  status := status
  earnedWeight := earnedWeight
  summaryCode := summaryCode
  evidence := []
  userImpactCode := userImpactCode
  fixCode := none
  durationMs := 0
  errorCode := none
  applicable := status ≠ .notApplicable

/-! ## Documents -/

section

variable {ν : Type}

/-- The value of a field, where it is there and not null. -/
def someField (record : JsonRecord ν) (name : String) : Option (Json ν) :=
  (record.find? (·.1 = name)).bind fun field => match field.2 with
    | .null => none
    | value => some value

/-- What stands in a field: of a list the first item. -/
def stepInto (part : String) : Json ν → Option (Json ν)
  | .object fields => (fields.find? (·.1 = part)).bind fun field => match field.2 with
    | .array items => items.head?
    | value => some value
  | _ => none

/-- Whether there is something at a path. -/
def fieldPresent (node : JsonRecord ν) (path : List String) : Bool :=
  match path.foldl (fun (current : Option (Json ν)) part => current.bind (stepInto part)) (some (.object node)) with
  | none => false
  | some .null => false
  | some (.string text) => text ≠ ""
  | some _ => true

/-- The types of a node of structured data. -/
def jsonLdTypes (node : JsonRecord ν) : List String :=
  match (node.find? (·.1 = "@type")).map Prod.snd with
  | some (Json.string type) => [type]
  | some (Json.array types) => types.filterMap fun
    | Json.string type => some type
    | _ => none
  | _ => []

end

namespace SiteReader

variable {ν : Type} (R : SiteReader ν)

/-- Whether a value counts as true. -/
def truthy : Json ν → Bool
  | .null => false
  | .bool value => value
  | .number value => !R.isZero value
  | .string text => text ≠ ""
  | _ => true

/-- Whether the first of some fields that is there counts as true. -/
def anyField (record : JsonRecord ν) (names : List String) : Bool :=
  (names.findSome? (someField record)).any R.truthy

/-- What a document says, where it was to be had. -/
def validDiscovery (artifact : FetchArtifact) : Option (JsonRecord ν) :=
  if artifact.status < 200 || 300 ≤ artifact.status then none
  else match R.parseSafeJson artifact.body with
    | some (.object fields) => some fields
    | _ => none

end SiteReader

/-! ## Robots -/

/-- The agents of the providers of models (`PROVIDERS`). -/
def aiProviders : List (String × List String) :=
  [("openai", ["gptbot", "oai-searchbot", "chatgpt-user"]), ("anthropic", ["claudebot", "claude-user"]),
    ("perplexity", ["perplexitybot"]), ("google", ["google-extended"])]

/-- The name of an agent without its version. -/
def withoutVersion : List Char → List Char
  | [] => []
  | c :: rest => if c = '/' ∧ rest ≠ [] ∧ rest.all (fun c => c.isDigit || c = '.') = true then []
    else c :: withoutVersion rest

/-- The providers a robots file names agents of, and which. -/
def explicitAiPolicies (parsed : RobotsParseResult) : List (String × List String) :=
  let tokens := parsed.groups.flatMap fun group =>
    group.agents.map fun agent => String.ofList (withoutVersion agent.toList)
  (aiProviders.map fun provider => (provider.1, provider.2.filter (· ∈ tokens))).filter (·.2 ≠ [])

namespace SiteReader

variable {ν : Type} (R : SiteReader ν)

section

variable (fetch : FetchArtifact)

/-- What the robots file says. -/
def robotsCheck : ResultInput :=
  let parsed := parseRobots R.lowerCase fetch.body
  if fetch.inaccessible then
    { saying .unavailable 0 "robots_unavailable" "robots_not_assessed" with
      errorCode := some (fetch.errorCode.getD "robots_http_error")
      durationMs := fetch.durationMs }
  else if fetch.missing then
    { saying .fail 0 "robots_missing" "robots_missing_impact" with
      evidence := [("status", .number fetch.status)]
      fixCode := some "publish_robots"
      durationMs := fetch.durationMs }
  else if fetch.status ≠ 200 || parsed.fatal then
    { saying .fail 0 "robots_invalid" "robots_invalid_impact" with
      evidence := [("status", .number fetch.status)]
      fixCode := some "repair_robots"
      durationMs := fetch.durationMs }
  else
    let partly := 0 < parsed.malformedDirectives || mentions "text/html" ((fetch.header "content-type").getD "")
    { saying (if partly then .partly else .pass) (if partly then 2 else 5)
        (if partly then "robots_partially_parseable" else "robots_parseable") "robots_policy_discoverability" with
      evidence := [("status", .number fetch.status), ("size", .number fetch.decodedBytes),
        ("sitemap_count", .number parsed.sitemaps.length), ("group_count", .number parsed.groups.length),
        ("malformed_directives", .number parsed.malformedDirectives)]
      fixCode := if partly then some "repair_robots" else none
      durationMs := fetch.durationMs }

/-- Which agents of models the robots file names. -/
def aiPolicyCheck : ResultInput :=
  let policies := explicitAiPolicies (parseRobots R.lowerCase fetch.body)
  let robots := R.robotsCheck fetch
  if robots.status = .unavailable then
    { saying .unavailable 0 "ai_policy_unavailable" "ai_policy_not_assessed" with errorCode := robots.errorCode }
  else if robots.status = .fail ∧ fetch.status ≠ 200 then
    { saying .fail 0 "ai_policy_absent" "ai_policy_ambiguity" with fixCode := some "declare_ai_policy" }
  else
    { saying (if policies.length = 4 then .pass else if policies.length ≠ 0 then .partly else .fail)
        (policies.length * 2)
        (if policies.length = 4 then "ai_policy_explicit"
          else if policies.length ≠ 0 then "ai_policy_partial" else "ai_policy_absent") "ai_policy_ambiguity" with
      evidence := [("provider_count", .number policies.length), ("providers", .texts (policies.map (·.1))),
        ("policy_tokens", .texts (policies.flatMap (·.2)))]
      fixCode := if policies.length = 4 then none else some "declare_ai_policy" }

/-- What the robots file says the contents may be used for. -/
def contentSignalCheck : ResultInput :=
  let parsed := parseRobots R.lowerCase fetch.body
  let robots := R.robotsCheck fetch
  let signals := (parsed.contentSignal.map (·.entries)).getD []
  if robots.status = .unavailable then
    { saying .unavailable 0 "content_signal_unavailable" "content_signal_not_assessed" with
      errorCode := robots.errorCode }
  else if parsed.contentSignal.isNone && !parsed.contentSignalMalformed then
    { saying .fail 0 "content_signal_absent" "content_signal_ambiguity" with
      fixCode := some "publish_content_signal" }
  else if parsed.contentSignalMalformed then
    { saying .partly 2 "content_signal_partial" "content_signal_ambiguity" with
      evidence := [("valid_keys", .texts (signals.map (·.1)))]
      fixCode := some "repair_content_signal" }
  else
    { saying .pass 4 "content_signal_parseable" "content_signal_explicit" with
      evidence := [("keys", .texts (signals.map (·.1))),
        ("values", .texts (signals.map fun signal => signal.1 ++ ":" ++ signal.2))] }

end

/-- Whether the robots file lets a scan look at its target. -/
def targetContentAllowed (robots : FetchArtifact) (canonicalTargetUrl : String) : Bool :=
  let parsed := parseRobots R.lowerCase robots.body
  let path := R.pathname canonicalTargetUrl
  robots.missing ||
    robots.status = 200 && !robots.errorCode.any (· ≠ "") && !parsed.fatal &&
      isPathAllowed R.lowerCase parsed "agentify-scanner" (if path = "" then "/" else path)

end SiteReader

/-! ## Structured data -/

/-- What a node of a type is asked for. -/
structure VerticalProfile (ν : Type) where
  selected : Option (JsonRecord ν)
  required : List (List String)
  recommended : List (List String)

section

variable {ν : Type} (segment : Segment) (nodes : List (JsonRecord ν))

def choose (types : List String) : Option (JsonRecord ν) :=
  nodes.find? fun node => (jsonLdTypes node).any (· ∈ types)

/-- The profile of a shop's nodes. -/
def productProfile (selected : Option (JsonRecord ν)) : VerticalProfile ν where
  selected := selected
  required := [["name"], ["image"], ["url"], ["offers", "price"], ["offers", "priceCurrency"]]
  recommended := [["offers", "availability"]]

/-- The profile a site's nodes are held against. -/
def verticalProfile : VerticalProfile ν :=
  match segment with
  | .store => productProfile (choose nodes ["Product"])
  | .localBusiness =>
    { selected := nodes.find? fun node => (jsonLdTypes node).any fun type =>
        type = "LocalBusiness" || "Business".toList.isSuffixOf type.toList ||
          type ∈ ["Restaurant", "Hotel", "Dentist", "Store"]
      required := [["name"], ["address"]]
      recommended := [["telephone"], ["openingHoursSpecification"], ["geo"], ["priceRange"], ["makesOffer"]] }
  | .owner =>
    match choose nodes ["Product"] with
    | some product => productProfile (some product)
    | none =>
      match choose nodes ["LocalBusiness", "Restaurant", "Hotel", "Store"] with
      | some business =>
        { selected := some business
          required := [["name"], ["address"]]
          recommended := [["telephone"], ["openingHoursSpecification"], ["geo"], ["priceRange"]] }
      | none =>
        match choose nodes ["Article", "NewsArticle", "BlogPosting"] with
        | some article =>
          { selected := some article
            required := [["headline"], ["image"], ["datePublished"]]
            recommended := [["author"], ["dateModified"]] }
        | none =>
          { selected := choose nodes ["Organization", "WebSite"]
            required := [["name"], ["url"]]
            recommended := [["contactPoint"], ["sameAs"], ["logo"]] }

end

def usablePages (base representative : Option FetchArtifact) : List FetchArtifact :=
  (base.toList ++ representative.toList).filter (!·.inaccessible)

def pagesError (base representative : Option FetchArtifact) : String :=
  (((base.bind (·.errorCode)).or (representative.bind (·.errorCode))).getD "base_unavailable")

def writtenPath (path : List String) : String := ".".intercalate path

namespace SiteReader

variable {ν : Type} (R : SiteReader ν)

/-- What is read of the structured data of pages. -/
def parsedPages (pages : List FetchArtifact) : JsonLdResult ν :=
  let parsed := pages.map fun page => R.parseJsonLd page.body
  { nodes := parsed.flatMap (·.nodes)
    scriptCount := (parsed.map (·.scriptCount)).sum
    invalidCount := (parsed.map (·.invalidCount)).sum }

/-- Whether the pages have structured data. -/
def jsonLdPresenceCheck (base representative : Option FetchArtifact) : ResultInput :=
  let pages := usablePages base representative
  if pages = [] then
    { saying .unavailable 0 "jsonld_unavailable" "structured_data_not_assessed" with
      errorCode := some (pagesError base representative) }
  else
    let parsed := R.parsedPages pages
    let presence : CheckStatus :=
      if parsed.nodes.isEmpty then .fail else if parsed.invalidCount ≠ 0 then .partly else .pass
    { saying presence (if presence = .pass then 10 else if presence = .partly then 4 else 0)
        (if presence = .pass then "jsonld_present"
          else if presence = .partly then "jsonld_partially_parseable" else "jsonld_absent_or_invalid")
        "structured_data_machine_readability" with
      evidence := [("script_count", .number parsed.scriptCount), ("node_count", .number parsed.nodes.length),
        ("invalid_script_count", .number parsed.invalidCount), ("pages_checked", .number pages.length)]
      fixCode := if presence = .pass then none else some "publish_valid_jsonld"
      durationMs := (pages.map (·.durationMs)).sum }

/-- What is earned with some of the fields that are asked for. -/
def verticalPoints (required requiredFound recommended recommendedFound : Nat) : Nat :=
  max 3 (min 9 ⌊12 * ((requiredFound / required : Rat) * (7 / 10) +
    (recommendedFound / recommended : Rat) * (3 / 10)) + 1 / 2⌋.toNat)

/-- Whether the structured data says what a site of its kind should. -/
def verticalJsonLdCheck (segment : Segment) (base representative : Option FetchArtifact) : ResultInput :=
  let pages := usablePages base representative
  if pages = [] then
    { saying .unavailable 0 "vertical_jsonld_unavailable" "structured_data_not_assessed" with
      errorCode := some (pagesError base representative) }
  else
    let nodes := (R.parsedPages pages).nodes
    if nodes.isEmpty then
      { saying .fail 0 "vertical_jsonld_missing" "vertical_data_gap" with fixCode := some "publish_vertical_jsonld" }
    else
      let profile := verticalProfile segment nodes
      match profile.selected with
      | none =>
        { saying .fail 0 "vertical_jsonld_wrong_type" "vertical_data_gap" with
          evidence := [("types", .texts ((nodes.flatMap jsonLdTypes).eraseDups.take 20))]
          fixCode := some "publish_vertical_jsonld" }
      | some node =>
        let requiredFound := profile.required.filter (fieldPresent node)
        let recommendedFound := profile.recommended.filter (fieldPresent node)
        let complete := requiredFound.length = profile.required.length ∧
          profile.recommended.length ≤ 2 * recommendedFound.length
        { saying (if complete then .pass else .partly)
            (if complete then 12 else verticalPoints profile.required.length requiredFound.length
              profile.recommended.length recommendedFound.length)
            (if complete then "vertical_jsonld_complete" else "vertical_jsonld_incomplete")
            "vertical_data_machine_readability" with
          evidence := [("type", .text ((jsonLdTypes node).head?.getD "unknown")),
            ("required_found", .texts (requiredFound.map writtenPath)),
            ("required_missing", .texts ((profile.required.filter (· ∉ requiredFound)).map writtenPath)),
            ("recommended_found", .texts (recommendedFound.map writtenPath))]
          fixCode := if complete then none else some "complete_vertical_jsonld" }

/-! ## Contents for agents -/

/-- Whether the caches of a page are told apart by what is accepted. -/
def variesByAccept (vary : String) : Bool :=
  (vary.toList.splitOn ',').any fun part => lowered (trimmed part) = "accept".toList

/-- Whether the site answers in Markdown. -/
def markdownVariantCheck (markdown base : Option FetchArtifact) : ResultInput :=
  match markdown.filter (!·.inaccessible) with
  | none =>
    { saying .unavailable 0 "markdown_unavailable" "markdown_not_assessed" with
      errorCode := some ((markdown.bind (·.errorCode)).getD "markdown_unavailable") }
  | some markdown =>
    let type := (markdown.header "content-type").getD ""
    let vary := (markdown.header "vary").getD ""
    let representationDiffers := base.any fun base => trimmed markdown.body.toList ≠ trimmed base.body.toList
    let semanticParity := base.any fun base => R.comparableBodies markdown.body base.body
    let correctType := mentions "text/markdown" type
    let nonEmpty : Bool := 20 < codeUnits (R.visibleText markdown.body).toList
    let fetched := 200 ≤ markdown.status && markdown.status < 300
    if fetched && correctType && variesByAccept vary && representationDiffers && semanticParity && nonEmpty then
      { saying .pass 8 "markdown_negotiation_valid" "markdown_available" with
        evidence := [("content_type", .text type), ("vary_accept", .flag true), ("differentiated", .flag true),
          ("semantic_parity", .flag true)] }
    else if fetched && correctType then
      { saying .partly (if '*' ∈ vary.toList || !nonEmpty then 2 else 6) "markdown_negotiation_partial"
          "markdown_incomplete" with
        evidence := [("content_type", .text type), ("vary_accept", .flag (mentions "accept" vary)),
          ("differentiated", .flag representationDiffers), ("semantic_parity", .flag semanticParity),
          ("non_empty", .flag nonEmpty)]
        fixCode := some "repair_markdown_negotiation" }
    else
      { saying .fail 0 "markdown_negotiation_absent" "markdown_absent" with
        evidence := [("content_type", .text type)]
        fixCode := some "add_markdown_negotiation" }

/-- Whether there is a file for models. -/
def llmsFileCheck (artifact : Option FetchArtifact) : ResultInput :=
  match artifact.filter (!·.missing) with
  | none => saying .notApplicable 0 "llms_absent" "llms_optional"
  | some artifact =>
    if artifact.inaccessible then
      { saying .unavailable 0 "llms_unavailable" "llms_not_assessed" with
        errorCode := some (artifact.errorCode.getD "llms_unavailable") }
    else
      let h1 := R.hasHeading artifact.body
      let links := R.hasLink artifact.body
      { saying (if h1 && links then .pass else .partly) (if h1 && links then 2 else 1)
          (if h1 && links then "llms_valid" else "llms_malformed") "llms_informational" with
        evidence := [("has_h1", .flag h1), ("has_links", .flag links)]
        fixCode := if h1 && links then none else some "repair_llms" }

/-! ## Interfaces for agents -/

def identity (document : JsonRecord ν) : Bool := R.anyField document ["name", "server", "id"]

def endpoint (document : JsonRecord ν) : Bool := R.anyField document ["endpoint", "url", "transport"]

/-- Whether there is a card of a server of tools. -/
def mcpCardCheck (mcp : List FetchArtifact) : ResultInput :=
  let documents := mcp.filterMap R.validDiscovery
  if documents.isEmpty then
    if mcp.any (·.inaccessible) then
      { saying .unavailable 0 "mcp_unavailable" "mcp_not_assessed" with errorCode := some "mcp_unavailable" }
    else { saying .fail 0 "mcp_absent" "mcp_callable_gap" with fixCode := some "publish_mcp_card" }
  else
    let valid := documents.any fun document => R.endpoint document && R.identity document
    { saying (if valid then .pass else .partly) (if valid then 6 else if 1 < documents.length then 4 else 2)
        (if valid then "mcp_card_valid" else "mcp_card_incomplete") "mcp_callable_readiness" with
      evidence := [("documents_found", .number documents.length),
        ("identity_present", .flag (documents.any R.identity)),
        ("endpoint_present", .flag (documents.any R.endpoint))]
      fixCode := if valid then none else some "complete_mcp_card" }

/-- Whether a shop has a profile for agents that buy. -/
def ucpProfileCheck (segment : Segment) (ucp : Option FetchArtifact) : ResultInput :=
  if segment ≠ .store then saying .notApplicable 0 "ucp_not_store" "ucp_store_only"
  else
    match ucp.bind R.validDiscovery with
    | none =>
      match ucp.filter (·.inaccessible) with
      | some ucp =>
        { saying .unavailable 0 "ucp_unavailable" "ucp_not_assessed" with
          errorCode := some (ucp.errorCode.getD "ucp_unavailable") }
      | none => { saying .fail 0 "ucp_absent" "ucp_commerce_gap" with fixCode := some "publish_ucp_profile" }
    | some document =>
      let fields := ["version", "services", "capabilities"].filter fun field => fieldPresent document [field]
      let endpoint := fieldPresent document ["endpoint"] || fieldPresent document ["transport"] ||
        fieldPresent document ["services", "shopping", "endpoint"]
      let complete := fields.length = 3 ∧ endpoint = true
      { saying (if complete then .pass else .partly)
          (if complete then 6 else max 2 (min 4 (fields.length + if endpoint then 1 else 0)))
          (if complete then "ucp_valid" else "ucp_incomplete") "ucp_commerce_readiness" with
        evidence := [("fields_present", .texts fields), ("endpoint_present", .flag endpoint),
          ("signing_keys_present", .flag (fieldPresent document ["signing_keys"]))]
        fixCode := if complete then none else some "complete_ucp_profile" }

/-- Whether what was fetched asks for authorization. -/
def asksForAuth (artifact : FetchArtifact) : Bool :=
  let header := (artifact.header "www-authenticate").getD ""
  mentions "bearer" header || mentions "oauth" header

/-- Whether a document speaks of authorization. -/
def speaksOfAuth (document : JsonRecord ν) : Bool :=
  let text := R.stringify document
  mentions "oauth" text || mentions "bearer" text || mentions "authorization" text

def declaresAuth (mcp : List FetchArtifact) (ucp base : Option FetchArtifact) : Bool :=
  ((mcp ++ ucp.toList).filterMap R.validDiscovery).any R.speaksOfAuth || (base.toList ++ mcp).any asksForAuth

/-- The addresses of a document on authorization. -/
def authAddresses (document : JsonRecord ν) : List String :=
  ["issuer", "resource", "authorization_endpoint", "token_endpoint"].filterMap fun name =>
    match (document.find? (·.1 = name)).map Prod.snd with
    | some (Json.string address) => some address
    | _ => none

/-- Whether a site that asks for authorization says how. -/
def oauthMetadataCheck (mcp : List FetchArtifact) (ucp base : Option FetchArtifact) (oauth : List FetchArtifact) :
    ResultInput :=
  if R.declaresAuth mcp ucp base then
    let documents := oauth.filterMap R.validDiscovery
    if documents.isEmpty then
      if oauth.any (·.inaccessible) then
        { saying .unavailable 0 "oauth_unavailable" "oauth_not_assessed" with errorCode := some "oauth_unavailable" }
      else
        { saying .fail 0 "oauth_metadata_absent" "oauth_discovery_gap" with
          fixCode := some "publish_oauth_metadata" }
    else
      let addresses := documents.flatMap authAddresses
      let consistent := addresses ≠ [] ∧
        addresses.all (fun address => "https://".toList.isPrefixOf address.toList) = true
      let complete := 2 ≤ documents.length ∧ consistent
      { saying (if complete then .pass else .partly)
          (if complete then 4 else if 2 ≤ documents.length then 3 else 1)
          (if complete then "oauth_metadata_valid" else "oauth_metadata_partial") "oauth_discovery" with
        evidence := [("documents_found", .number documents.length), ("https_fields", .flag consistent)]
        fixCode := if complete then none else some "complete_oauth_metadata" }
  else saying .notApplicable 0 "oauth_not_declared" "oauth_conditional"

/-! ## Pages -/

def shows (artifact : FetchArtifact) : Bool := !artifact.inaccessible && !R.isChallenge artifact.status artifact.body

/-- Whether the pages say something before any script runs. -/
def rawHtmlCheck (segment : Segment) (base representative : Option FetchArtifact) : ResultInput :=
  let usableBase := base.filter R.shows
  let usableRepresentative := representative.filter R.shows
  if usableBase.isNone && !(segment = .store && usableRepresentative.isSome) then
    { saying .unavailable 0 "ssr_unavailable" "ssr_not_assessed" with
      errorCode := some ((base.bind (·.errorCode)).getD
        (if base.isSome then "base_blocked" else "robots_disallowed")) }
  else
    let baseBody := (usableBase.map (·.body)).getD ""
    let representativeBody := (usableRepresentative.map (·.body)).getD ""
    let baseSignals := R.htmlSignals baseBody
    let representativeSignals := R.htmlSignals representativeBody
    let baseJsonLd : Bool := 0 < (R.parseJsonLd baseBody).nodes.length
    let representativeJsonLd : Bool := 0 < (R.parseJsonLd representativeBody).nodes.length
    let storeHomepagePass := 300 ≤ baseSignals.textLength &&
      (0 < baseSignals.productLinkCount || baseSignals.hasPrice && baseJsonLd)
    let representativePass := 150 ≤ representativeSignals.textLength && representativeSignals.hasPrice &&
      (representativeJsonLd || representativeSignals.hasH1)
    let pass := if segment = .store then storeHomepagePass || representativePass
      else 500 ≤ baseSignals.textLength && baseSignals.hasH1 && baseSignals.hasTitle
    let maximumTextLength := max baseSignals.textLength representativeSignals.textLength
    let anyJsonLd := baseJsonLd || representativeJsonLd
    let partly := !pass && (150 ≤ maximumTextLength || anyJsonLd)
    { saying (if pass then .pass else if partly then .partly else .fail)
        (if pass then 10 else if partly then 4 else 0)
        (if pass then "ssr_content_substantive" else if partly then "ssr_content_thin" else "ssr_shell_only")
        "ssr_machine_readability" with
      evidence := [("visible_text_chars", .number maximumTextLength),
        ("has_h1", .flag (baseSignals.hasH1 || representativeSignals.hasH1)),
        ("has_title", .flag (baseSignals.hasTitle || representativeSignals.hasTitle)),
        ("product_link_count", .number (baseSignals.productLinkCount + representativeSignals.productLinkCount : Nat)),
        ("has_price_signal", .flag (baseSignals.hasPrice || representativeSignals.hasPrice)),
        ("has_jsonld", .flag anyJsonLd), ("representative_checked", .flag usableRepresentative.isSome)]
      fixCode := if pass then none else some "render_substantive_html" }

/-- Whether agents see what a browser sees. -/
def agentProbesCheck (base chatgpt claude : Option FetchArtifact) : ResultInput :=
  match base.filter R.shows with
  | none =>
    { saying .unavailable 0 "agent_ua_neutral_unavailable" "agent_ua_not_assessed" with
      errorCode := some ((base.bind (·.errorCode)).getD "neutral_unavailable") }
  | some base =>
    match chatgpt.filter (!·.inaccessible), claude.filter (!·.inaccessible) with
    | some chatgpt, some claude =>
      let accessible (probe : FetchArtifact) : Bool := 200 ≤ probe.status && probe.status < 300 &&
        !R.isChallenge probe.status probe.body && R.comparableBodies base.body probe.body
      let count := (if accessible chatgpt then 1 else 0) + if accessible claude then 1 else 0
      { saying (if count = 2 then .pass else if count = 1 then .partly else .fail)
          (if count = 2 then 8 else if count = 1 then 4 else 0)
          (if count = 2 then "agent_ua_compatible" else if count = 1 then "agent_ua_partial" else "agent_ua_blocked")
          "agent_ua_accessibility" with
        evidence := [("chatgpt_probe_accessible", .flag (accessible chatgpt)),
          ("claude_probe_accessible", .flag (accessible claude))]
        fixCode := if count = 2 then none else some "allow_agent_user_agents" }
    | _, _ =>
      { saying .unavailable 0 "agent_ua_probe_unavailable" "agent_ua_not_assessed" with
        errorCode := some "agent_probe_unavailable" }

end SiteReader

/-- Whether the page is small and fast. -/
def pageBudgetCheck (base : Option FetchArtifact) : ResultInput :=
  match base.filter (!·.inaccessible) with
  | none =>
    { saying .unavailable 0 "page_performance_unavailable" "page_performance_not_assessed" with
      errorCode := some ((base.bind (·.errorCode)).getD "base_unavailable") }
  | some base =>
    if base.truncated || 8000 ≤ base.durationMs then
      { saying .fail 0 "page_performance_limit_exceeded" "page_performance_agent_cost" with
        evidence := [("decoded_bytes", .number base.decodedBytes), ("ttfb_ms", .number base.ttfbMs),
          ("total_ms", .number base.durationMs), ("truncated", .flag base.truncated)]
        fixCode := some "reduce_page_weight_latency" }
    else
      let weight : Bool := base.decodedBytes < 2 * 1024 * 1024
      let timing : Bool := base.ttfbMs < 1500 && base.durationMs < 4000
      { saying (if weight && timing then .pass else if weight || timing then .partly else .fail)
          (if weight && timing then 4 else if weight || timing then 2 else 0)
          (if weight && timing then "page_performance_within_budget"
            else if weight || timing then "page_performance_partial" else "page_performance_slow_heavy")
          "page_performance_agent_cost" with
        evidence := [("decoded_bytes", .number base.decodedBytes), ("ttfb_ms", .number base.ttfbMs),
          ("total_ms", .number base.durationMs), ("single_region_measurement", .flag true)]
        fixCode := if weight && timing then none else some "reduce_page_weight_latency" }

def platformCheck : ResultInput := saying .pass 0 "fingerprint_observed" "fingerprint_informational"

/-- Whether a language tag is well formed. -/
def isLocaleTag (tag : List Char) : Bool :=
  tag = "x-default".toList ||
    let language := tag.takeWhile (·.isLower)
    (language.length = 2 || language.length = 3) &&
      match tag.drop language.length with
      | [] => true
      | ['-', c, d] => c.isUpper && d.isUpper
      | _ => false

namespace SiteReader

variable {ν : Type} (R : SiteReader ν)

/-- Whether a shop's products can be found by machines. -/
def storeFeedCheck (segment : Segment) (base representative : Option FetchArtifact) : ResultInput :=
  if segment ≠ .store then saying .notApplicable 0 "feed_not_store" "feed_store_only"
  else
    let pages := usablePages base representative
    if pages = [] then
      { saying .unavailable 0 "feed_unavailable" "feed_not_assessed" with
        errorCode := some (pagesError base representative) }
    else
      let body := "
".intercalate (pages.map (·.body))
      let feedLink := R.hasFeedLink body
      let product := R.marksProducts body ||
        (R.parseJsonLd body).nodes.any fun node => "Product" ∈ jsonLdTypes node
      let priceAvailability := ["price", "availability", "in_stock", "out_of_stock"].any (mentions · body)
      let evidence := [("feed_link", EvidenceValue.flag feedLink), ("product_identifiers", .flag product),
        ("price_availability", .flag priceAvailability)]
      if feedLink then { saying .pass 4 "feed_discoverable" "feed_machine_discovery" with evidence := evidence }
      else if product then
        { saying .partly (if priceAvailability then 3 else 1) "feed_machine_signals_only"
            "feed_machine_discovery" with
          evidence := evidence
          fixCode := some "publish_product_feed" }
      else
        { saying .fail 0 "feed_signals_absent" "feed_machine_discovery_gap" with
          fixCode := some "publish_product_feed" }

/-- Whether there is a card of an agent. -/
def agentCardCheck (noncanonicalA2aHint : Bool) (a2a : Option FetchArtifact) : ResultInput :=
  match a2a.bind R.validDiscovery with
  | none =>
    match a2a.filter (·.inaccessible) with
    | some a2a =>
      { saying .unavailable 0 "a2a_unavailable" "a2a_not_assessed" with
        errorCode := some (a2a.errorCode.getD "a2a_unavailable") }
    | none =>
      if noncanonicalA2aHint || a2a.any (!·.missing) then
        { saying .partly 0 "a2a_noncanonical_or_malformed" "a2a_informational" with
          fixCode := some "repair_a2a_card" }
      else saying .notApplicable 0 "a2a_absent" "a2a_optional"
  | some document =>
    let interface := fieldPresent document ["url"] || fieldPresent document ["supportedInterfaces"]
    let valid := ["name", "version", "skills"].all (fun field => fieldPresent document [field]) && interface
    { saying (if valid then .pass else .partly) (if valid then 1 else 0)
        (if valid then "a2a_valid" else "a2a_malformed") "a2a_informational" with
      evidence := [("name_present", .flag (fieldPresent document ["name"])),
        ("version_present", .flag (fieldPresent document ["version"])), ("interface_present", .flag interface),
        ("skills_present", .flag (fieldPresent document ["skills"]))]
      fixCode := if valid then none else some "repair_a2a_card" }

/-- Whether the languages of a page are told apart. -/
def localesCheck (base : Option FetchArtifact) : ResultInput :=
  match base.filter (!·.inaccessible) with
  | none =>
    { saying .unavailable 0 "hreflang_unavailable" "hreflang_not_assessed" with
      errorCode := some ((base.bind (·.errorCode)).getD "base_unavailable") }
  | some base =>
    let tags := (R.htmlSignals base.body).hreflangs
    if tags.length < 2 then saying .notApplicable 0 "hreflang_single_locale" "hreflang_conditional"
    else
      let valid := tags.filter fun tag => isLocaleTag tag.toList
      let duplicate : Bool := ¬ tags.Nodup
      let complete := valid.length = tags.length ∧ duplicate = false
      { saying (if complete then .pass else .partly) (if complete then 2 else 1)
          (if complete then "hreflang_valid" else "hreflang_partial") "locale_discovery" with
        evidence := [("locale_count", .number tags.length), ("valid_locale_count", .number valid.length),
          ("duplicate", .flag duplicate)]
        fixCode := if complete then none else some "repair_hreflang" }

/-- The checks of a scan. -/
def suite (noncanonicalA2aHint : Bool) : CheckSuite where
  targetContentAllowed := R.targetContentAllowed
  parseSitemap := R.parseSitemap
  dateParse := R.dateParse
  robots := R.robotsCheck
  aiPolicy := R.aiPolicyCheck
  contentSignal := R.contentSignalCheck
  jsonLdPresence := R.jsonLdPresenceCheck
  verticalJsonLd := R.verticalJsonLdCheck
  markdownCheck := R.markdownVariantCheck
  llmsCheck := R.llmsFileCheck
  mcpCheck := R.mcpCardCheck
  ucpCheck := R.ucpProfileCheck
  oauthCheck := R.oauthMetadataCheck
  ssrCheck := R.rawHtmlCheck
  agentUaCheck := R.agentProbesCheck
  performanceCheck := pageBudgetCheck
  feedCheck := R.storeFeedCheck
  fingerprintCheck := platformCheck
  a2aCheck := R.agentCardCheck noncanonicalA2aHint
  hreflangCheck := R.localesCheck

/-- What the checks of a page look at: nothing, where the robots file does not let a scan look at its target. -/
def effective (artifacts : ScanArtifacts) : ScanArtifacts :=
  if R.targetContentAllowed artifacts.robots artifacts.canonicalTargetUrl then artifacts
  else artifacts.withoutContent

theorem evaluateChecks_eq (noncanonicalA2aHint : Bool) (artifacts : ScanArtifacts) (now : Int) :
    (R.suite noncanonicalA2aHint).evaluateChecks artifacts now = [result 1 (R.robotsCheck artifacts.robots),
        result 2 (R.aiPolicyCheck artifacts.robots), result 3 (R.contentSignalCheck artifacts.robots),
        result 4 ((R.suite noncanonicalA2aHint).sitemapCheck artifacts.sitemap now),
        result 5 (R.jsonLdPresenceCheck (R.effective artifacts).base (R.effective artifacts).representative),
        result 6 (R.verticalJsonLdCheck (R.effective artifacts).segment (R.effective artifacts).base
          (R.effective artifacts).representative),
        result 7 (R.markdownVariantCheck (R.effective artifacts).markdown (R.effective artifacts).base),
        result 8 (R.llmsFileCheck artifacts.llms), result 9 (R.mcpCardCheck artifacts.mcp),
        result 10 (R.ucpProfileCheck artifacts.segment artifacts.ucp),
        result 11 (R.oauthMetadataCheck artifacts.mcp artifacts.ucp artifacts.base artifacts.oauth),
        result 12 (R.rawHtmlCheck (R.effective artifacts).segment (R.effective artifacts).base
          (R.effective artifacts).representative),
        result 13 (R.agentProbesCheck (R.effective artifacts).base (R.effective artifacts).chatgptProbe
          (R.effective artifacts).claudeProbe), result 14 (pageBudgetCheck (R.effective artifacts).base),
        result 15 (R.storeFeedCheck (R.effective artifacts).segment (R.effective artifacts).base
          (R.effective artifacts).representative), result 16 platformCheck,
        result 17 (R.agentCardCheck noncanonicalA2aHint artifacts.a2a),
        result 18 (R.localesCheck (R.effective artifacts).base)] := rfl

end SiteReader

end Coinslot
