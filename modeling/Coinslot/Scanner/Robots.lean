import Coinslot.Lib.Dict
import Coinslot.Scanner.Urls

/-!
# What a robots file says

A robots file is read line by line (`parseRobots`, `packages/scanner/src/robots.ts`) into groups of rules, each
under the names of the agents it is for, and into what it says besides. Of the rules of the groups that name an
agent most closely the longest that match a path decide (`isPathAllowed`). How the platform writes a text in
lower case is its own (`lowerCase`).
-/

namespace Coinslot

/-- The rules of some agents. -/
structure RobotsGroup where
  agents : List String
  allow : List String
  disallow : List String
  deriving DecidableEq, Repr

/-- What a robots file was read to say. -/
structure RobotsParseResult where
  groups : List RobotsGroup
  sitemaps : List String
  contentSignal : Option (Dict String String)
  contentSignalMalformed : Bool
  malformedDirectives : Nat
  fatal : Bool

def endsLine (c : Char) : Bool := c.toNat ∈ [0xa, 0xd, 0x2028, 0x2029]

/-! ## Lines -/

/-- The lines of a text: a carriage return before the end of a line is none of it. -/
def robotsLines (body : List Char) : List (List Char) :=
  let lines := body.splitOn '\n'
  lines.dropLast.map (fun line => if line.getLast? = some '\r' then line.dropLast else line) ++
    lines.getLast?.toList

/-- Whether a comment begins after blanks, and goes on to the end of the text. -/
def commentFollows (text : List Char) : Bool :=
  match text.dropWhile isBlank with
  | '#' :: comment => comment.all (!endsLine ·)
  | _ => false

/-- A line without the comment at its end. One that begins with the comment keeps it. -/
def withoutComment : List Char → List Char
  | [] => []
  | c :: line => if isBlank c && commentFollows line then [] else c :: withoutComment line

def contentSignalKeys : List String := ["search", "ai-input", "ai-train"]

/-- What one token of a content signal sets, where it is well formed. -/
def contentSignalOf (lowerCase : List Char → List Char) (token : List Char) : Option (String × String) :=
  match ((trimmed token).splitOn '=').map trimmed with
  | [key, setting] =>
    let key := String.ofList (lowerCase key)
    let setting := String.ofList (lowerCase setting)
    if key ∈ contentSignalKeys ∧ (setting = "yes" ∨ setting = "no") then some (key, setting) else none
  | _ => none

/-- Whether a text begins with `http://` or `https://`. -/
def isHttpText (text : List Char) : Bool :=
  "http://".toList.isPrefixOf (lowered text) || "https://".toList.isPrefixOf (lowered text)

/-- What was read so far. The group that rules are added to is the last; rules that were added to it begin
another with the next agent. -/
structure RobotsReading where
  result : RobotsParseResult
  seenRules : Bool

namespace RobotsReading

def start (fatal : Bool) : RobotsReading := ⟨⟨[], [], none, false, 0, fatal⟩, false⟩

variable (r : RobotsReading)

def malformed : RobotsReading := { r with result.malformedDirectives := r.result.malformedDirectives + 1 }

def group (f : RobotsGroup → RobotsGroup) : RobotsReading :=
  { r with result.groups := r.result.groups.dropLast ++ (r.result.groups.getLast?.map f).toList }

/-- A group for the agents that follow. -/
def opened : RobotsReading :=
  if r.result.groups = [] ∨ r.seenRules = true then
    { r with result.groups := r.result.groups ++ [⟨[], [], []⟩], seenRules := false }
  else r

section

variable (lowerCase : List Char → List Char)

/-- A content signal. -/
def signals (value : List Char) : RobotsReading :=
  let tokens := (value.splitOnP fun c => c = ';' || c = ',').map (contentSignalOf lowerCase)
  let parsed := tokens.filterMap id
  let r : RobotsReading :=
    { r with result.contentSignalMalformed := r.result.contentSignalMalformed || tokens.any (·.isNone) }
  if parsed = [] then r
  else
    { r with
      result.contentSignal :=
        some (parsed.foldl (fun signal entry => signal.set entry.1 entry.2)
          (r.result.contentSignal.getD .empty)) }

/-- One directive. -/
def directive (field value : List Char) : RobotsReading :=
  if field = "user-agent".toList then
    let r := r.opened
    if value = [] then r.malformed
    else r.group fun group => { group with agents := group.agents ++ [String.ofList (lowerCase value)] }
  else if field = "allow".toList then
    if r.result.groups = [] then r.malformed
    else
      { r.group fun group => { group with allow := group.allow ++ [String.ofList value] } with
        seenRules := true }
  else if field = "disallow".toList then
    if r.result.groups = [] then r.malformed
    else
      { r.group fun group => { group with disallow := group.disallow ++ [String.ofList value] } with
        seenRules := true }
  else if field = "sitemap".toList then
    if isHttpText value && r.result.sitemaps.length < 20 then
      { r with result.sitemaps := r.result.sitemaps ++ [String.ofList value] }
    else r.malformed
  else if field = "content-signal".toList then r.signals lowerCase value
  else r

/-- One line. -/
def line (r : RobotsReading) (original : List Char) : RobotsReading :=
  let line := trimmed (withoutComment original)
  if line = [] then r
  else
    let field := line.takeWhile (· ≠ ':')
    if field = [] ∨ field = line then r.malformed
    else r.directive lowerCase (lowerCase (trimmed field)) (trimmed (line.drop (field.length + 1)))

end

end RobotsReading

/-- What a robots file says. -/
def parseRobots (lowerCase : List Char → List Char) (body : String) : RobotsParseResult :=
  ((robotsLines body.toList).foldl (RobotsReading.line lowerCase)
    (RobotsReading.start (body.toList.any (·.toNat = 0)))).result

/-! ## Rules -/

/-- Whether what is left of a text after some characters of its line passes. -/
def someLeft (passes : List Char → Bool) : List Char → Bool
  | [] => passes []
  | c :: text => passes (c :: text) || !endsLine c && someLeft passes text

/-- Whether a path begins as a rule says, whose stars stand for any characters of a line. -/
def beginsAs : List Char → List Char → Bool
  | [], _ => true
  | '*' :: rule, path => someLeft (beginsAs rule) path
  | _ :: _, [] => false
  | c :: rule, d :: path => c = d && beginsAs rule path

def ruleMatches (path rule : String) : Bool := rule ≠ "" && beginsAs rule.toList path.toList

/-- Whether a text holds another. -/
def holds (part : List Char) : List Char → Bool
  | [] => part.isEmpty
  | c :: text => part.isPrefixOf (c :: text) || holds part text

/-- How closely a group names an agent. -/
def RobotsGroup.specificity (normalized : List Char) (group : RobotsGroup) : Int :=
  (group.agents.map fun agent =>
    if agent = "*" then 0 else if holds agent.toList normalized then (codeUnits agent.toList : Int) else -1).foldl
      max (-1)

/-- A rule, and whether it allows. -/
structure RobotsRule where
  rule : String
  allow : Bool
  deriving DecidableEq, Repr

def RobotsGroup.rules (group : RobotsGroup) : List RobotsRule :=
  group.allow.map (⟨·, true⟩) ++ group.disallow.map (⟨·, false⟩)

/-- Whether an agent may fetch a path. -/
def isPathAllowed (lowerCase : List Char → List Char) (parsed : RobotsParseResult) (userAgent path : String) :
    Bool :=
  let normalized := lowerCase userAgent.toList
  let maxSpecificity := (parsed.groups.map (·.specificity normalized)).foldl max (-1)
  let groups := parsed.groups.filter fun group =>
    group.specificity normalized = maxSpecificity && 0 ≤ group.specificity normalized
  let matching := (groups.flatMap (·.rules)).filter fun rule => ruleMatches path rule.rule
  let longest := (matching.map fun rule => codeUnits rule.rule.toList).foldl max 0
  matching = [] || (matching.filter fun rule => codeUnits rule.rule.toList = longest).any (·.allow)

/-- Of rules that match alike the one that allows decides, and the longer one before the shorter. -/
example :
    let parsed := parseRobots lowered "User-agent: *\r\nDisallow: /private # all of it\nAllow: /private/open"
    isPathAllowed lowered parsed "agentify-scanner" "/private/open?page=2" = true ∧
      isPathAllowed lowered parsed "agentify-scanner" "/private" = false := by
  decide +kernel

end Coinslot
