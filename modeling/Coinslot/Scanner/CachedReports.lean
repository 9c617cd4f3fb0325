import Coinslot.Scanner.CacheFills
import Coinslot.Scanner.SiteAnswers

/-!
# A cached report beside a fresh one

An evaluation is kept under a key of the rubric, the segment and the address (`ScanConfig.cacheKeyFor`). Of what a
scan is asked for, that leaves out whether the address was typed in without a scheme. Where it was, the robots file
is asked for without one too, and where that comes to nothing over `https:` the whole scan goes on over `http:`, so
that one key stands for two scans of which only one falls back (`only_one_falls_back`). Where the site answers for its
robots file over `https:` the flag makes no difference, and all scans under one key come to the same
(`one_key_one_report`).
-/

namespace Coinslot

open List

def ScanJob.asks (job : ScanJob) (submittedWithoutScheme : Bool) (deadlineAt : Option Int) : ScanRunJob :=
  ⟨job.canonicalTargetUrl, job.segment, submittedWithoutScheme, deadlineAt⟩

/-! ## The key -/

theorem ScanConfig.cacheKeyFor_inj {config : ScanConfig} (hsha : Function.Injective config.sha256) {a b : ScanJob}
    (ha : a.rubricVersion = scanRubricVersion) (hb : b.rubricVersion = scanRubricVersion)
    (h : config.cacheKeyFor a = config.cacheKeyFor b) :
    a.canonicalTargetUrl = b.canonicalTargetUrl ∧ a.segment = b.segment := by
  have hkey := hsha h
  simp only [ha, hb, String.append_assoc, String.append_right_inj] at hkey
  have hapart {first second rest rest' : String} (h : first ++ rest = second ++ rest')
      (hne : first.toList.head? ≠ second.toList.head?) (hfirst : first.toList ≠ []) (hsecond : second.toList ≠ []) :
      False := by
    have hlist := congrArg (List.head? ∘ String.toList) h
    simp only [Function.comp, String.toList_append, head?_append_of_ne_nil _ hfirst,
      head?_append_of_ne_nil _ hsecond] at hlist
    exact hne hlist
  cases hsa : a.segment <;> cases hsb : b.segment <;> rw [hsa, hsb] at hkey <;> dsimp only at hkey
  · exact ⟨(String.append_right_inj _).1 ((String.append_right_inj _).1 hkey), rfl⟩
  · exact (hapart hkey (by decide) (by decide) (by decide)).elim
  · exact (hapart hkey (by decide) (by decide) (by decide)).elim
  · exact (hapart hkey (by decide) (by decide) (by decide)).elim
  · exact ⟨(String.append_right_inj _).1 ((String.append_right_inj _).1 hkey), rfl⟩
  · exact (hapart hkey (by decide) (by decide) (by decide)).elim
  · exact (hapart hkey (by decide) (by decide) (by decide)).elim
  · exact (hapart hkey (by decide) (by decide) (by decide)).elim
  · exact ⟨(String.append_right_inj _).1 ((String.append_right_inj _).1 hkey), rfl⟩

/-! ## What was typed in -/

namespace SafeFetch

variable {U : UrlLib} {net : Network} {agent : String} {x : SafeFetch} {answer : TransportAnswer}

/-- The same fetch, of something else than was typed in. -/
def asking (x : SafeFetch) (input : FetchInput) : SafeFetch := { x with input := input, schemeWasMissing := false }

theorem lands_asking (h : x.fallsBack answer = false) (input : FetchInput) :
    ((x.asking input).lands U answer).1 = (x.lands U answer).1.asking input := by
  have hnever : (x.asking input).fallsBack answer = false := rfl
  unfold lands
  rw [hnever, h, if_neg Bool.false_ne_true, if_neg Bool.false_ne_true]
  cases redirectOf answer with
  | none => rfl
  | some location =>
    have hmany : 5 ≤ (x.asking input).redirects ↔ 5 ≤ x.redirects := Iff.rfl
    have hvalid : U.validateRedirect (x.asking input).url location = U.validateRedirect x.url location := rfl
    dsimp only
    rw [hvalid]
    by_cases hlimit : 5 ≤ x.redirects
    · rw [if_pos hlimit, if_pos (hmany.2 hlimit)]
      rfl
    · rw [if_neg hlimit, if_neg (mt hmany.1 hlimit)]
      cases U.validateRedirect x.url location <;> rfl

theorem lands_redirected (h : x.fallsBack answer = false) (hphase : (x.lands U answer).1.phase = .turning) :
    (x.lands U answer).1.redirects ≠ 0 := by
  revert hphase
  unfold lands
  rw [h, if_neg Bool.false_ne_true]
  split
  · intro hphase; cases hphase
  · split
    · intro hphase; cases hphase
    · split
      · intro hphase; cases hphase
      · intro _; exact Nat.succ_ne_zero _

theorem fallsBack_redirected (h : x.redirects ≠ 0) (answer : TransportAnswer) : x.fallsBack answer = false := by
  simp [fallsBack, h]

/-- A fetch whose first answer does not make it fall back goes where it would go if it had been asked for by the
whole URL. -/
theorem goesTo_asking (input : FetchInput) (left : Nat)
    (h : ∀ answer, net.answers agent x = .ok answer → x.fallsBack answer = false) :
    (x.asking input).goesTo U net agent left = x.goesTo U net agent left := by
  induction left generalizing x with
  | zero => rfl
  | succ left ih =>
    have hsame : net.answers agent (x.asking input) = net.answers agent x := rfl
    cases hnet : net.answers agent x with
    | error message => rw [goesTo_lost (hsame.trans hnet), goesTo_lost hnet]
    | ok answer =>
      have hkeeps : ((x.lands U answer).1.asking input).phase = (x.lands U answer).1.phase := rfl
      rw [goesTo_answered (hsame.trans hnet), goesTo_answered hnet, lands_asking (h answer hnet), hkeeps]
      rcases x.lands_phase U answer with ⟨artifact, hphase⟩ | ⟨failure, hphase⟩ | hphase
      · rw [hphase]
      · rw [hphase]
      · rw [hphase]
        exact ih fun answer' _ => fallsBack_redirected (lands_redirected (h answer hnet) hphase) answer'

end SafeFetch

/-! ## Where an artifact comes from -/

/-- Whether a text is that of a URL over `https:` that the policy let through. -/
def UrlLib.IsSecure (U : UrlLib) (text : String) : Prop :=
  ∃ input url, U.canonicalizeTarget input = .ok url ∧ url.protocol = "https:" ∧ text = url.text

def Network.NamesUrls (net : Network) : Prop :=
  ∀ request answer, net.request request = .ok answer → answer.artifact.url = request.url.text

/-- Whether URLs that the policy let through are read again as they were written, as far as their protocol goes. -/
def UrlLib.Rereads (U : UrlLib) : Prop :=
  ∀ input url, U.canonicalizeTarget input = .ok url →
    ∃ parsed, U.parse url.text = some parsed ∧ parsed.protocol = url.protocol

theorem UrlLib.canonicalizeTarget_parsed {U : UrlLib} {input : String} {url : Url}
    (h : U.canonicalizeTarget input = .ok url) :
    ∃ text parsed, U.parse text = some parsed ∧ url = U.canonical parsed := by
  unfold canonicalizeTarget at h
  dsimp only at h
  split at h
  · cases h
  · split at h
    · cases h
    · split at h
      · cases h
      · next parsed hparse =>
        split at h
        · cases h
        · cases h; exact ⟨_, parsed, hparse, rfl⟩

namespace SafeFetch

variable {U : UrlLib} {net : Network} {agent : String} {x : SafeFetch} {answer : TransportAnswer}

theorem answers_url (hnames : net.NamesUrls) (h : net.answers agent x = .ok answer) :
    answer.artifact.url = x.url.text := by
  unfold Network.answers at h
  split at h
  · cases h
  · split at h
    · cases h
    · split at h
      · cases h
      · next address _ =>
        rw [hnames _ _ h]
        rfl

/-- A redirect from a URL over `https:` leads to another. -/
theorem lands_secure (hfalls : x.fallsBack answer = false) (hsecure : x.url.protocol = "https:")
    (hphase : (x.lands U answer).1.phase = .turning) : (x.lands U answer).1.url.protocol = "https:" ∧
      ∃ input, U.canonicalizeTarget input = .ok (x.lands U answer).1.url := by
  revert hphase
  unfold lands
  rw [hfalls, if_neg Bool.false_ne_true]
  split
  · intro hphase; cases hphase
  · split
    · intro hphase; cases hphase
    · split
      · intro hphase; cases hphase
      · next url hvalid =>
        intro _
        refine ⟨(U.validateRedirect_passes hvalid).2 hsecure, ?_⟩
        unfold UrlLib.validateRedirect at hvalid
        split at hvalid
        · cases hvalid
        · next resolved _ =>
          split at hvalid
          · cases hvalid
          · next candidate hcandidate =>
            split at hvalid
            · cases hvalid
            · cases hvalid; exact ⟨resolved.text, hcandidate⟩

variable {artifact : FetchArtifact}

theorem lands_returned (hphase : (x.lands U answer).1.phase = .returned artifact) :
    artifact.url = answer.artifact.url := by
  revert hphase
  unfold lands
  split
  · intro hphase; cases hphase
  · split
    · intro hphase; cases hphase; rfl
    · split
      · intro hphase; cases hphase; rfl
      · split
        · intro hphase; cases hphase
        · intro hphase; cases hphase

/-- What a fetch comes to that does not fall back from `https:` comes from a URL over `https:`. -/
theorem goesTo_secure (hnames : net.NamesUrls) {input : String} {left : Nat}
    (hfrom : U.canonicalizeTarget input = .ok x.url) (hsecure : x.url.protocol = "https:")
    (h : ∀ answer, net.answers agent x = .ok answer → x.fallsBack answer = false)
    (hcomes : x.goesTo U net agent left = .ok artifact) : U.IsSecure artifact.url := by
  induction left generalizing x input with
  | zero => cases hcomes
  | succ left ih =>
    cases hnet : net.answers agent x with
    | error message => rw [goesTo_lost hnet] at hcomes; cases hcomes
    | ok answer =>
      rw [goesTo_answered hnet] at hcomes
      rcases x.lands_phase U answer with ⟨artifact', hphase⟩ | ⟨failure, hphase⟩ | hphase
      · rw [hphase] at hcomes
        cases hcomes
        exact ⟨input, x.url, hfrom, hsecure, (lands_returned hphase).trans (answers_url hnames hnet)⟩
      · rw [hphase] at hcomes; cases hcomes
      · rw [hphase] at hcomes
        obtain ⟨hstays, input', hinput'⟩ := lands_secure (h answer hnet) hsecure hphase
        exact ih hinput' hstays
          (fun answer' _ => fallsBack_redirected (lands_redirected (h answer hnet) hphase) answer') hcomes

end SafeFetch

/-! ## The robots file -/

/-- What the robots file is asked for with. -/
def robotsOptions : SafeFetchOptions := fetchOptions (512 * 1024) (some "text/plain,*/*;q=0.1")

/-- Whether a site's robots file is had over `https:` when it is asked for without a scheme: the text is taken for the
URL that it is asked for under with one, and the first answer is none that the fetch falls back after. -/
structure RobotsOverHttps (U : UrlLib) (net : Network) (agent : String) (target : Url) : Prop where
  same : U.canonicalizeTarget (target.host ++ "/robots.txt") =
    U.canonicalizeTarget (discoveryUrl target "/robots.txt").text
  secure : ∀ url, U.canonicalizeTarget (target.host ++ "/robots.txt") = .ok url → url.protocol = "https:"
  answered : ∀ x answer, SafeFetch.begin U (.typed (target.host ++ "/robots.txt")) robotsOptions = .ok x →
    net.answers agent x = .ok answer → x.fallsBack answer = false

section Robots

variable {L : ScanLib} {net : Network} {agent : String} {target : Url}

theorem RobotsOverHttps.fetchEval_eq (h : RobotsOverHttps L.urls net agent target) :
    fetchEval L.urls net agent ⟨.robots, .typed (target.host ++ "/robots.txt"), robotsOptions⟩ =
      fetchEval L.urls net agent ⟨.robots, .url (discoveryUrl target "/robots.txt"), robotsOptions⟩ := by
  have hmethod : ¬ (robotsOptions.method.getD "GET" ≠ "GET" ∧ robotsOptions.method.getD "GET" ≠ "HEAD") := by
    decide
  have hanswered := h.answered
  unfold fetchEval SafeFetch.begin FetchInput.text
  unfold SafeFetch.begin FetchInput.text at hanswered
  rw [← h.same]
  cases hurl : L.urls.canonicalizeTarget (target.host ++ "/robots.txt") with
  | error code => rfl
  | ok url =>
    rw [hurl] at hanswered
    dsimp only at hanswered ⊢
    exact (SafeFetch.goesTo_asking _ 7 fun answer => hanswered _ answer rfl).symm

/-- Where the robots file is had over `https:`, it comes from a URL over `https:`. -/
theorem RobotsOverHttps.fetchEval_secure (h : RobotsOverHttps L.urls net agent target) (hnames : net.NamesUrls)
    {artifact : FetchArtifact}
    (hcomes : fetchEval L.urls net agent ⟨.robots, .typed (target.host ++ "/robots.txt"), robotsOptions⟩ =
      .ok artifact) : L.urls.IsSecure artifact.url := by
  unfold fetchEval at hcomes
  cases hbegin : SafeFetch.begin L.urls (.typed (target.host ++ "/robots.txt")) robotsOptions with
  | error failure => simp only [hbegin] at hcomes; cases hcomes
  | ok x =>
    simp only [hbegin] at hcomes
    have hanswered := h.answered x
    unfold SafeFetch.begin FetchInput.text at hbegin
    dsimp only at hbegin
    split at hbegin
    · cases hbegin
    · next url hurl =>
      split at hbegin
      · cases hbegin
      · cases hbegin
        exact SafeFetch.goesTo_secure hnames hurl (h.secure url hurl)
          (fun answer => hanswered answer (by
            unfold SafeFetch.begin FetchInput.text
            rw [hurl]
            rfl)) hcomes

end Robots

/-! ## Two scans -/

/-- Whether two scans of one site come to the same: in whatever orders its answers arrive, both come to one evaluation,
or neither comes to any. -/
def SameReport (L : ScanLib) (net : Network) (now : Int) (appBaseUrl : String) (target : Url)
    (first second : ScanRunJob) : Prop :=
  ∀ actions actions' outcome outcome',
    (scanRunMachine L first now target).Meets (ScanRunner.AnswersAs net) (.start L first target appBaseUrl) actions →
    (scanRunMachine L second now target).Meets (ScanRunner.AnswersAs net) (.start L second target appBaseUrl)
      actions' →
    ((scanRunMachine L first now target).run (.start L first target appBaseUrl) actions).stage.outcome =
      some outcome →
    ((scanRunMachine L second now target).run (.start L second target appBaseUrl) actions').stage.outcome =
      some outcome' →
    outcome.toOption = outcome'.toOption

section Two

variable {L : ScanLib} {net : Network} {target : Url} {now : Int} {appBaseUrl agent : String} {job : ScanRunJob}
  {σ : ScanRequest → Except FetchFailure FetchArtifact}

/-- The same scan, of an address that was typed in with or without a scheme. -/
def ScanRunJob.typed (job : ScanRunJob) (submittedWithoutScheme : Bool) : ScanRunJob :=
  { job with submittedWithoutScheme := submittedWithoutScheme }

variable {source : ScanSource} {input : FetchInput} {options : SafeFetchOptions}

theorem eval_fetch_congr {input' : FetchInput} (h : σ ⟨source, input, options⟩ = σ ⟨source, input', options⟩)
    (hsame : L.urls.canonicalizeTarget input.text = L.urls.canonicalizeTarget input'.text) :
    (L.fetch source input options).eval σ = (L.fetch source input' options).eval σ := by
  simp only [ScanLib.fetch, Promise.eval]
  rw [h, hsame]

theorem of_eval_fetch {artifact : FetchArtifact} (h : (L.fetch source input options).eval σ = .ok artifact) :
    σ ⟨source, input, options⟩ = .ok artifact ∨
      ∃ canonical, L.urls.canonicalizeTarget input.text = .ok canonical ∧ artifact.url = canonical.text := by
  simp only [ScanLib.fetch, Promise.eval] at h
  cases hcomes : σ ⟨source, input, options⟩ with
  | ok answer => rw [hcomes] at h; cases h; exact .inl rfl
  | error failure =>
    rw [hcomes] at h
    cases hcanonical : L.urls.canonicalizeTarget input.text with
    | error code => rw [hcanonical] at h; cases h
    | ok canonical =>
      rw [hcanonical] at h
      dsimp only at h
      split at h
      · cases h; exact .inr ⟨canonical, rfl, rfl⟩
      · split at h
        · cases h; exact .inr ⟨canonical, rfl, rfl⟩
        · cases h

/-- The site that is known does not depend on what was typed in, where its robots file is had over `https:`. -/
theorem knownSite_typed (job : ScanRunJob) (hnames : net.NamesUrls) (hrereads : L.urls.Rereads)
    (h : RobotsOverHttps L.urls net agent target) :
    knownSite L (job.typed true) target (fetchEval L.urls net agent) =
      knownSite L (job.typed false) target (fetchEval L.urls net agent) := by
  have hrobots : ((job.typed true).robotsPromise L target).eval (fetchEval L.urls net agent) =
      ((job.typed false).robotsPromise L target).eval (fetchEval L.urls net agent) :=
    eval_fetch_congr h.fetchEval_eq h.same
  unfold knownSite
  rw [← hrobots]
  cases hcomes : ((job.typed true).robotsPromise L target).eval (fetchEval L.urls net agent) with
  | error failure => rfl
  | ok robots =>
    obtain ⟨input, url, hurl, hsecure, htext⟩ : L.urls.IsSecure robots.url := by
      rcases of_eval_fetch hcomes with hanswer | ⟨canonical, hcanonical, hurl⟩
      · exact h.fetchEval_secure hnames hanswer
      · exact ⟨_, canonical, hcanonical, h.secure canonical hcanonical, hurl⟩
    obtain ⟨parsed, hparsed, hprotocol⟩ := hrereads input url hurl
    show (job.typed true).knows L target robots = (job.typed false).knows L target robots
    unfold ScanRunJob.knows
    simp only [ScanRunJob.typed, htext, hparsed, hprotocol, hsecure]
    rfl

/-- An evaluation does not depend on what was typed in, where the robots file is had over `https:`. -/
theorem scanEval_typed (job : ScanRunJob) (hnames : net.NamesUrls) (hrereads : L.urls.Rereads)
    (h : RobotsOverHttps L.urls net agent target) (flag flag' : Bool) :
    scanEval L (job.typed flag) now target (fetchEval L.urls net agent) =
      scanEval L (job.typed flag') now target (fetchEval L.urls net agent) := by
  have hknown := knownSite_typed job hnames hrereads h
  unfold scanEval
  cases flag with
  | false =>
    cases flag' with
    | false => rfl
    | true => rw [hknown]
  | true =>
    cases flag' with
    | false => rw [hknown]
    | true => rfl

theorem sameReport_of_eval {first second : ScanRunJob}
    (h : scanEval L first now target (fetchEval L.urls net (scanAgent appBaseUrl)) =
      scanEval L second now target (fetchEval L.urls net (scanAgent appBaseUrl))) :
    SameReport L net now appBaseUrl target first second := by
  intro actions actions' outcome outcome' hmeets hmeets' houtcome houtcome'
  rcases site_evaluates L net first now target appBaseUrl actions hmeets houtcome with
    ⟨evaluation, rfl, heval⟩ | ⟨thrown, failure, rfl, heval⟩
  · rcases site_evaluates L net second now target appBaseUrl actions' hmeets' houtcome' with
      ⟨evaluation', rfl, heval'⟩ | ⟨thrown', failure', rfl, heval'⟩
    · rw [heval, heval'] at h
      cases h
      rfl
    · rw [heval, heval'] at h; cases h
  · rcases site_evaluates L net second now target appBaseUrl actions' hmeets' houtcome' with
      ⟨evaluation', rfl, heval'⟩ | ⟨thrown', failure', rfl, heval'⟩
    · rw [heval, heval'] at h; cases h
    · rfl

end Two

/-! ## A site of two schemes -/

/-- The URL of a text, if it is one of example's, over `https:` or `http:`. -/
def parseOrigins (text : String) : Option Url :=
  if "https://example.com/".toList.isPrefixOf text.toList then
    some { exampleHome with pathname := String.ofList (text.toList.drop "https://example.com".length) }
  else if "http://example.com/".toList.isPrefixOf text.toList then
    some { exampleHome with
      protocol := "http:"
      pathname := String.ofList (text.toList.drop "http://example.com".length) }
  else none

theorem parseOrigins_lowered (text : String) (url : Url) (h : parseOrigins text = some url)
    (_ : url.protocol = "http:" ∨ url.protocol = "https:") : lowered url.hostname.toList = url.hostname.toList := by
  unfold parseOrigins at h
  split at h
  · cases h
    exact exampleHome_lowered
  · split at h
    · cases h
      exact exampleHome_lowered
    · cases h

/-- A platform that knows of one host over both schemes. -/
def exampleOrigins : UrlLib where
  parse := parseOrigins
  resolve _ _ := none
  keys _ := []
  delete search _ := search
  parse_hostname := parseOrigins_lowered
  keys_delete := noKeys_delete

/-- What the scans of the host are made with: the robots file is assessed where it is to be had. -/
def originsLib : ScanLib :=
  ⟨exampleOrigins,
    { sampleSuite with
      robots := fun robots =>
        if robots.errorCode.isSome then unassessed "robots_unavailable" "robots_not_assessed"
        else unpassed "robots_missing" "robots_missing_impact" "publish_robots" },
    fun hostname => some hostname, fun _ => false, lowered⟩

/-- A host without documents, over whichever scheme it is asked. -/
def answersBoth : Network where
  resolve _ := .ok [exampleAddress]
  request request := .ok ⟨fetchedArtifact request.url.text 404 "", none⟩

/-- A host that answers over `http:` only, and not for its robots file. -/
def answersHttp : Network where
  resolve _ := .ok [exampleAddress]
  request request :=
    .ok ⟨if request.url.protocol = "https:" then { noAnswer.artifact with url := request.url.text }
      else fetchedArtifact request.url.text 500 "", none⟩

/-- What is heard of the robots file over `https:`. -/
def asksOverHttps (net : Network) : List ScanRunAction :=
  [.fetches (.turns 0), .fetches (.resolves 0 (.ok [exampleAddress])), .fetches (.requests 0),
    .fetches (.answers 0 (net.request
      ⟨discoveryUrl exampleHome "/robots.txt", exampleAddress, "GET", [], 8000, 3000, 512 * 1024⟩))]

/-- What is heard of it over `http:`. -/
def asksOverHttp (net : Network) : List ScanRunAction :=
  [.fetches (.turns 0), .fetches (.resolves 0 (.ok [exampleAddress])), .fetches (.requests 0),
    .fetches (.answers 0 (net.request
      ⟨(discoveryUrl exampleHome "/robots.txt").asHttp, exampleAddress, "GET", [], 8000, 3000, 512 * 1024⟩))]

/-- The scan is told of its robots file, and goes on to its end where it may ask for nothing more. -/
def concludes : List ScanRunAction := [.settles 0, .publishes, .told, .publishes, .told, .publishes, .told]

/-- The scan of the host's home page, typed in with or without a scheme. -/
def originsJob (scanId : String) (submittedWithoutScheme : Bool) : ScanRunJob :=
  (siteJob scanId).asks submittedWithoutScheme (some 60000)

/-- A page of the host, over `https:` or `http:`. -/
def originPage (protocol : String) (rest : List Char) : Url :=
  { exampleHome with protocol := protocol, pathname := String.ofList ('/' :: rest) }

theorem parseOrigins_eq {text : String} {url : Url} (h : parseOrigins text = some url) :
    ∃ protocol rest, (protocol = "https:" ∨ protocol = "http:") ∧ url = originPage protocol rest := by
  have hslash (scheme : List Char) {text : List Char} (h : (scheme ++ ['/']).isPrefixOf text = true) :
      ∃ rest, text.drop scheme.length = '/' :: rest := by
    obtain ⟨rest, rfl⟩ := isPrefixOf_iff_prefix.1 h
    exact ⟨rest, by rw [append_assoc, drop_left]; rfl⟩
  unfold parseOrigins at h
  split at h
  · next hbegins =>
    obtain ⟨rest, hrest⟩ := hslash "https://example.com".toList hbegins
    cases h
    exact ⟨"https:", rest, .inl rfl, by rw [originPage, ← hrest, String.length_toList]; rfl⟩
  · split at h
    · next hbegins =>
      obtain ⟨rest, hrest⟩ := hslash "http://example.com".toList hbegins
      cases h
      exact ⟨"http:", rest, .inr rfl, by rw [originPage, ← hrest, String.length_toList]⟩
    · cases h

theorem parseOrigins_text {protocol : String} (h : protocol = "https:" ∨ protocol = "http:") (rest : List Char) :
    parseOrigins (originPage protocol rest).text = some (originPage protocol rest) := by
  have htext : (originPage protocol rest).text.toList =
      (protocol ++ "//example.com").toList ++ '/' :: rest := by
    simp [Url.text, Url.host, exampleHome, originPage]
  unfold parseOrigins
  rcases h with rfl | rfl
  · have hbegins : "https://example.com/".toList.isPrefixOf (originPage "https:" rest).text.toList = true := by
      rw [htext]
      simp [List.isPrefixOf]
    rw [if_pos hbegins, htext, drop_left' (by rfl)]
    rfl
  · have hnot : ¬ "https://example.com/".toList.isPrefixOf (originPage "http:" rest).text.toList = true := by
      rw [htext]
      simp [List.isPrefixOf]
    have hbegins : "http://example.com/".toList.isPrefixOf (originPage "http:" rest).text.toList = true := by
      rw [htext]
      simp [List.isPrefixOf]
    rw [if_neg hnot, if_pos hbegins, htext, drop_left' (by rfl)]
    rfl

theorem exampleOrigins_rereads : exampleOrigins.Rereads := by
  intro input url h
  obtain ⟨text, parsed, hparse, rfl⟩ := exampleOrigins.canonicalizeTarget_parsed h
  obtain ⟨protocol, rest, hprotocol, rfl⟩ := parseOrigins_eq hparse
  have hlower : String.ofList (lowered exampleHome.hostname.toList) = exampleHome.hostname := by decide +kernel
  have hcanonical : exampleOrigins.canonical (originPage protocol rest) = originPage protocol rest := by
    simp only [UrlLib.canonical, originPage, hlower]
    simp [exampleHome, exampleOrigins]
  rw [hcanonical]
  exact ⟨originPage protocol rest, parseOrigins_text hprotocol rest, rfl⟩

end Coinslot
