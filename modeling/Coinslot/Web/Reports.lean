import Coinslot.Web.SiteEvents

/-!
# Reports and shares

What a lead is shown of a scan of theirs (`getFullReport`), and what is shown of a scan to everybody
(`createPublicShare`), in `apps/web/lib/server/reporting.ts`, with the session that opens a report
(`apps/web/lib/server/auth.ts`).
-/

namespace Coinslot

open Txn

/-! ## Evidence that may be shown -/

/-- White space, as a regular expression has it. -/
def isRegexSpace (c : Char) : Bool :=
  c ∈ [' ', '\t', '\n', '\r', '\x0b', '\x0c', '\u00a0', '\u1680', '\u2028', '\u2029', '\u202f', '\u205f', '\u3000',
    '\ufeff'] || '\u2000' ≤ c && c ≤ '\u200a'

/-- Whether a pattern is found in a text, from any place in it on, with the character before it. -/
def foundAnywhere (pattern : Option Char → List Char → Bool) : Option Char → List Char → Bool
  | before, [] => pattern before []
  | before, c :: rest => pattern before (c :: rest) || foundAnywhere pattern (some c) rest

def beginsWithAny (words : List String) (text : List Char) : Bool := words.any fun word => word.toList.isPrefixOf text

/-- Whether what a name says is nobody else's business (`PRIVATE_EVIDENCE_KEY`). -/
def isPrivateEvidenceKey (key : String) : Bool :=
  foundAnywhere (fun _ text => beginsWithAny ["url", "host", "ip", "header", "endpoint", "body", "token", "cookie",
    "authorization", "trace"] text) none (key.toList.map Char.toLower)

/-- Whether a text is at its end, or goes on with white space. -/
def endsOrSpace : List Char → Bool
  | [] => true
  | c :: _ => isRegexSpace c

/-- Up to three digits, one at least, and what follows them. -/
def afterDigits (text : List Char) : Option (List Char) :=
  let digits := text.takeWhile Char.isDigit
  if 1 ≤ digits.length && digits.length ≤ 3 then some (text.drop digits.length) else none

/-- Whether a text begins with four numbers with points between them, and ends there or goes on with white space. -/
def beginsWithAddress : Nat → List Char → Bool
  | 0, text => (afterDigits text).any endsOrSpace
  | n + 1, text =>
    match afterDigits text with
    | some ('.' :: rest) => beginsWithAddress n rest
    | _ => false

/-- Whether a text begins with a point and a top-level domain, and a path, white space or its end after it. -/
def beginsWithDomain : List Char → Bool
  | '.' :: rest =>
    let letters := rest.takeWhile fun c => 'a' ≤ c && c ≤ 'z'
    2 ≤ letters.length &&
      match rest.drop letters.length with
      | [] => true
      | c :: _ => c = '/' || isRegexSpace c
  | _ => false

/-- Whether a text says where something is (`PRIVATE_EVIDENCE_VALUE`). -/
def isPrivateEvidenceValue (value : String) : Bool :=
  foundAnywhere (fun before text =>
    let begins := before.all isRegexSpace
    beginsWithAny ["http://", "https://", "www."] text ||
    begins && beginsWithAddress 3 text ||
    begins && beginsWithAny [".well-known", "/.well-known", "api/", "/api/"] text ||
    before.any (fun c => c.isAlphanum || c = '_' || c = '.' || c = '-') && beginsWithDomain text)
    none (value.toList.map Char.toLower)

/-- The beginning of a text, of so many units. -/
def sliceUnits (units : Nat) (text : String) : String :=
  let rec take : Nat → List Char → List Char
    | _, [] => []
    | left, c :: rest =>
      let size := if c.toNat < 0x10000 then 1 else 2
      if size ≤ left then c :: take (left - size) rest else []
  String.ofList (take units text.toList)

/-- What of a piece of evidence may be shown. -/
def sanitizeEvidenceValue : EvidenceValue → Option EvidenceValue
  | .text value => if isPrivateEvidenceValue value then none else some (.text (sliceUnits 300 value))
  | .number value => some (.number value)
  | .flag value => some (.flag value)
  | .texts values => some (.texts (((values.filter (!isPrivateEvidenceValue ·)).take 20).map (sliceUnits 200)))

/-- What of the evidence may be shown. -/
def sanitizeEvidence (evidence : List (String × EvidenceValue)) : List (String × EvidenceValue) :=
  evidence.filterMap fun (key, item) =>
    if isPrivateEvidenceKey key then none else (sanitizeEvidenceValue item).map (key, ·)

/-! ## A lead's report -/

/-- The session that a token opens, of a lead that a scan is linked to where one is asked for. -/
def getVerifiedSession (site : Site) (sessionToken : Option String) (scanId : Option String) :
    SiteScript (Option ReportSession) :=
  match sessionToken.filter (· ≠ "") with
  | none => pure none
  | some sessionToken => do
    let now ← Script.clock
    let session ← reportSessions.selectOne fun row =>
      row.sessionTokenHash = site.sha256 sessionToken && now < row.expiresAt && row.revokedAt.isNone
    match session with
    | none => pure none
    | some session => do
      let linked ← match scanId.filter (· ≠ "") with
        | some scanId => do
          let link ← leadScans.selectOne fun row => row.leadId = session.leadId && row.scanId = scanId
          pure link.isSome
        | none => pure true
      if linked then do
        let now ← Script.clock
        let _ ← Script.transaction
          (reportSessions.update (·.id = session.id) fun row => { row with lastSeenAt := now })
        pure (some session)
      else pure none

/-- The checks, as a report names them (`CHECK_DEFINITIONS`). -/
def checkDefinitions : List (Nat × String) :=
  [(1, "robots"), (2, "ai_policy"), (3, "content_signal"), (4, "sitemap"), (5, "json_ld_presence"),
    (6, "vertical_json_ld"), (7, "markdown_negotiation"), (8, "llms_txt"), (9, "mcp_server_card"),
    (10, "ucp_profile"), (11, "oauth_discovery"), (12, "raw_html_ssr"), (13, "agent_ua_accessibility"),
    (14, "page_weight_latency"), (15, "store_feed_signals"), (16, "platform_fingerprint"), (17, "a2a_agent_card"),
    (18, "hreflang_locales")]

/-- A check, as a report shows it. -/
structure ReportCheck where
  id : Nat
  labelCode : String
  status : CheckStatus
  summaryCode : Option String
  userImpactCode : Option String
  fixCode : Option String
  evidence : List (String × EvidenceValue)
  deriving DecidableEq, Repr

/-- How the scans of a segment did. -/
structure Benchmark where
  sampleSize : Nat
  averageScore : Rat
  deriving DecidableEq, Repr

/-- A lead's place in the queue, as a report shows it. -/
structure ReportWaitlist where
  entryId : String
  position : Nat
  answer : Option String
  deriving DecidableEq, Repr

/-- What a lead is shown of a scan. -/
structure ReportResponse where
  scanId : String
  host : String
  segment : Segment
  score : Option Int
  coverage : Rat
  level : DiagnosticLevel
  checks : List ReportCheck
  waitlist : ReportWaitlist
  benchmark : Option Benchmark
  deriving DecidableEq

/-- A check, as a report shows the row of it, if there is one. -/
def reportCheckRow (definition : Nat × String) (row : Option SiteCheck) : ReportCheck :=
  { id := definition.1
    labelCode := definition.2
    status := (row.map (·.result.status)).getD .unavailable
    summaryCode := row.map (·.result.summaryCode)
    userImpactCode := row.map (·.result.userImpactCode)
    fixCode := row.bind (·.result.fixCode)
    evidence := (row.map fun row => sanitizeEvidence row.result.evidence).getD [] }

def reportCheck (rows : List SiteCheck) (definition : Nat × String) : ReportCheck :=
  reportCheckRow definition (rows.find? (·.result.id = definition.1))

/-- Whether a scan counts among those of its segment. -/
def SiteScan.counts (segment : Segment) (row : SiteScan) : Bool :=
  row.segment = segment && (row.progress.status = .completed || row.progress.status = .partly) &&
    row.progress.coverage.any (7 / 10 ≤ ·)

/-- How the scans of a segment did, where there are enough of them. -/
def benchmarkOf (rows : List SiteScan) : Option Benchmark :=
  let scores : List Int := rows.filterMap (·.progress.score)
  if 30 ≤ rows.length && !scores.isEmpty then some ⟨rows.length, (scores.sum : Rat) / scores.length⟩ else none

/-- What a lead whose session was opened is shown of a scan. -/
def verifiedReport (benchmarkEnabled : Bool) (scanId leadId : String) : SiteScript (Option ReportResponse) := do
  let scan ← scans.selectOne (·.id = scanId)
  let waitlist ← waitlistEntries.selectOne fun row => row.leadId = leadId && row.scanId = scanId
  match scan, waitlist, scan.bind (·.progress.coverage), scan.bind (·.progress.level) with
  | some scan, some waitlist, some coverage, some level => do
    let checkRows ← scanChecks.select (·.scanId = scanId)
    let benchmark ← if benchmarkEnabled then do
        let rows ← scans.select (·.counts scan.segment)
        pure (benchmarkOf rows)
      else pure none
    pure (some
      { scanId := scan.id
        host := scan.targetHost
        segment := scan.segment
        score := scan.progress.score
        coverage := coverage
        level := level
        checks := checkDefinitions.map (reportCheck checkRows)
        waitlist := ⟨waitlist.id, waitlist.position, waitlist.painAnswer⟩
        benchmark := benchmark })
  | _, _, _, _ => pure none

/-- What a lead is shown of a scan of theirs. -/
def getFullReport (site : Site) (benchmarkEnabled : Bool) (scanId : String) (sessionToken : Option String) :
    SiteScript (Option ReportResponse) := do
  let verified ← getVerifiedSession site sessionToken (some scanId)
  match verified with
  | none => pure none
  | some verified => verifiedReport benchmarkEnabled scanId verified.leadId

end Coinslot
