import Coinslot.Scanner.Asked
import Coinslot.Scanner.ShownChecks

/-!
# What a scan asks for beside the robots file

Permission to fetch a page is asked for once, of the path of its URL, before the fetch begins. What is sent in
the end is another thing: the path goes out with its query, and a redirect leads the same fetch to a page that
nobody asked about. So the scan keeps to the robots file as long as the rules say of a path with its query what
they say of the path, and no redirect leads to a page of the site they forbid (`PermissionCovers`, `keeps_robots`);
where one does, the page is fetched all the same (`redirected_past_the_rules`).

That a fetch was permitted is kept as long as it is under way (`RulesSound`): it goes from URL to URL by
redirects only, since none but the robots file's is begun on a text without a scheme.
-/

namespace Coinslot

open List Dict

def Url.path (url : Url) : String := if url.pathname = "" then "/" else url.pathname

def Url.fullPath (url : Url) : String := url.path ++ url.search

/-- Whether a request is for content, of which the robots file decides. -/
def ScanSource.content (source : ScanSource) : Bool := source ≠ .robots && !source.discovery

/-- What is sent of a scan's request keeps to the robots file: that is known by then, and where the URL is one of
the target's origin, it allows the path with its query. -/
def KeepsRobots (L : ScanLib) (s : ScanRunner) (f : Nat) (request : PinnedTransportRequest) : Prop :=
  ∀ q, s.requests[f]? = some q → q.source.content = true →
    ∃ site, s.stage.site = some site ∧ site.robotsDecisionKnown L = true ∧
      (request.url.origin = site.target.origin → site.rulesAllow L request.url.fullPath = true)

/-- Whether the permission that is asked for covers what is sent. Where a request for content is issued, the rules
that allow its path allow it with its query, and a robots file that is missing came without an error; where such a
request is answered, no redirect leads to a path of the site that the rules forbid. -/
def PermissionCovers (L : ScanLib) (s : ScanRunner) : ScanRunAction → Prop
  | .issues => ∀ site request url canonical, s.stage.site = some site → s.stage.next = some request →
      request.source.content = true → request.input = .url url →
      L.urls.canonicalizeTarget url.text = .ok canonical →
      (site.robots.status = 404 ∨ site.robots.status = 410 → site.robotsAnswered = true) ∧
        (canonical.origin = site.target.origin → site.rulesAllow L url.path = true →
          site.rulesAllow L canonical.fullPath = true)
  | .fetches (.answers f (.ok answer)) => ∀ site q x location url, s.stage.site = some site →
      s.requests[f]? = some q → q.source.content = true → s.fetcher.fetches.get f = some x →
      SafeFetch.redirectOf answer = some location → L.urls.validateRedirect x.url location = .ok url →
      url.origin = site.target.origin → site.rulesAllow L url.fullPath = true
  | _ => True

/-! ## A fetch from URL to URL -/

variable {action : FetchAction} {out : List FetchNotice}

variable {U : UrlLib} {x x' : SafeFetch}

theorem FetchMove.goes_by_redirect {s : SafeFetcher} {f : Nat} {count : Nat}
    (h : FetchMove U s f x action count x' out) (hscheme : x.schemeWasMissing = false)
    (hlive : x'.phase.over = false) : x'.schemeWasMissing = false ∧
      (x'.url = x.url ∨ ∃ answer location, action = .answers f (.ok answer) ∧
        SafeFetch.redirectOf answer = some location ∧ U.validateRedirect x.url location = .ok x'.url) := by
  cases h with
  | aborted => exact ⟨hscheme, .inl rfl⟩
  | taken hphase hbudget => exact ⟨hscheme, .inl rfl⟩
  | pinned answers address hphase hpublic hchosen => exact ⟨hscheme, .inl rfl⟩
  | requested address hphase => exact ⟨hscheme, .inl rfl⟩
  | answered answer hphase =>
    have hstays : x.fallsBack answer = false := by simp [SafeFetch.fallsBack, hscheme]
    revert hlive
    simp only [SafeFetch.lands, hstays, Bool.false_eq_true, if_false]
    split
    · intro hlive; cases hlive
    · next location hlocation =>
      split
      · intro hlive; cases hlive
      · split
        · intro hlive; cases hlive
        · next url hurl => exact fun _ => ⟨hscheme, .inr ⟨answer, location, rfl, hlocation, hurl⟩⟩
  | threw action failure out haction hphase hout => cases hlive

theorem FetchMove.over {s : SafeFetcher} {f : Nat} {count : Nat} (h : FetchMove U s f x action count x' out)
    (hover : x.phase.over = true) : x'.phase.over = true := by
  cases h with
  | aborted => exact hover
  | taken hphase hbudget => rw [hphase] at hover; cases hover
  | pinned answers address hphase hpublic hchosen => rw [hphase] at hover; cases hover
  | requested address hphase => rw [hphase] at hover; cases hover
  | answered answer hphase => rw [hphase] at hover; cases hover
  | threw action failure out haction hphase hout => rfl

theorem FetchMove.sends {s : SafeFetcher} {f g : Nat} {count : Nat} {request : PinnedTransportRequest}
    (h : FetchMove U s f x action count x' out) (hmem : .requested g request ∈ out) :
    g = f ∧ x.phase.over = false ∧ request.url = x.url := by
  cases h with
  | aborted => cases hmem
  | taken hphase hbudget => cases hmem
  | pinned answers address hphase hpublic hchosen => simp at hmem
  | requested address hphase =>
    obtain ⟨rfl, rfl⟩ := FetchNotice.requested.inj (mem_singleton.1 hmem)
    exact ⟨rfl, by rw [hphase]; rfl, rfl⟩
  | answered answer hphase =>
    split at hmem
    · simp at hmem
    · simp at hmem
  | threw action failure out haction hphase hout =>
    rcases hout with rfl | ⟨answers, rfl⟩
    · cases hmem
    · simp at hmem

theorem ScanSite.known_of_allow {L : ScanLib} {site : ScanSite} {path : String} (h : site.rulesAllow L path = true)
    (hmissing : site.robots.status = 404 ∨ site.robots.status = 410 → site.robotsAnswered = true) :
    site.robotsDecisionKnown L = true := by
  simp only [rulesAllow, Bool.or_eq_true, Bool.and_eq_true, decide_eq_true_eq] at h
  simp only [robotsDecisionKnown, Bool.and_eq_true, Bool.or_eq_true, decide_eq_true_eq]
  rcases h with hnone | ⟨⟨⟨hok, hanswered⟩, hfatal⟩, -⟩
  · exact ⟨hmissing hnone, .inl hnone⟩
  · exact ⟨hanswered, .inr ⟨hok, hfatal⟩⟩

/-! ## The invariant -/

/-- What a scan may still ask for, by how far it is. -/
def StageAsks (L : ScanLib) : ScanStage → Prop
  | .fetchesRobots p => p.Everywhere fun r => r.source = .robots
  | .fetchesPages site p => p.Everywhere fun r => r.source ≠ .robots ∧ site.Permits L r
  | .fetchesRest site _ p => p.Everywhere fun r => r.source ≠ .robots ∧ site.Permits L r
  | _ => True

/-- A fetch for content that is under way was permitted, and goes only where the robots file allows. -/
structure FetchPermitted (L : ScanLib) (site : ScanSite) (x : SafeFetch) : Prop where
  known : site.robotsDecisionKnown L = true
  scheme : x.schemeWasMissing = false
  allowed : x.url.origin = site.target.origin → site.rulesAllow L x.url.fullPath = true

/-- What a scan asked for and has under way keeps to the robots file. -/
structure RulesSound (L : ScanLib) (s : ScanRunner) : Prop where
  asks : StageAsks L s.stage
  begun : ∀ f x, s.fetcher.fetches.get f = some x → f < s.requests.length
  awaited : ∀ f x, s.fetcher.fetches.get f = some x → x.phase.over = false → ∃ r, (f, r) ∈ s.stage.awaited
  permitted : ∀ f x q, s.fetcher.fetches.get f = some x → x.phase.over = false → s.requests[f]? = some q →
    q.source.content = true → ∃ site, s.stage.site = some site ∧ FetchPermitted L site x

variable {L : ScanLib} {job : ScanRunJob} {now : Int} {target : Url} {s s' : ScanRunner} {stage : ScanStage}
  {f g : Nat} {r : ScanRequest} {o : Except FetchFailure FetchArtifact}

namespace StageAsks

theorem issue (h : StageAsks L stage) (f : Nat) : StageAsks L (stage.issue f) := by
  cases stage with
  | fetchesRobots p => exact Promise.Everywhere.issue h
  | fetchesPages site p => exact Promise.Everywhere.issue h
  | fetchesRest site artifacts p => exact Promise.Everywhere.issue h
  | _ => trivial

theorem settle (h : StageAsks L stage) (f : Nat) (o : Except FetchFailure FetchArtifact) :
    StageAsks L (stage.settle f o) := by
  cases stage with
  | fetchesRobots p => exact Promise.Everywhere.normal (Promise.Everywhere.settle h)
  | fetchesPages site p => exact Promise.Everywhere.normal (Promise.Everywhere.settle h)
  | fetchesRest site artifacts p => exact Promise.Everywhere.normal (Promise.Everywhere.settle h)
  | _ => trivial

theorem next (h : StageAsks L stage) (hnext : stage.next = some r) :
    r.source = .robots ∨ ∃ site, stage.site = some site ∧ site.Permits L r := by
  cases stage with
  | fetchesRobots p => exact .inl (Promise.Everywhere.next h hnext)
  | fetchesPages site p => exact .inr ⟨site, rfl, (Promise.Everywhere.next h hnext).2⟩
  | fetchesRest site artifacts p => exact .inr ⟨site, rfl, (Promise.Everywhere.next h hnext).2⟩
  | tellsRobots site results => cases hnext
  | tellsPages site artifacts results => cases hnext
  | tellsRest site evaluation results => cases hnext
  | returned site evaluation => cases hnext
  | threw failure => cases hnext

end StageAsks

namespace ScanStage

@[simp] theorem site_issue (f : Nat) : (stage.issue f).site = stage.site := by cases stage <;> rfl

@[simp] theorem site_settle (f : Nat) (o : Except FetchFailure FetchArtifact) :
    (stage.settle f o).site = stage.site := by
  cases stage <;> rfl

theorem awaited_issue_next (hnext : stage.next = some r) : (f, r) ∈ (stage.issue f).awaited := by
  cases stage with
  | fetchesRobots p => exact Promise.awaited_issue_next hnext
  | fetchesPages site p => exact Promise.awaited_issue_next hnext
  | fetchesRest site artifacts p => exact Promise.awaited_issue_next hnext
  | tellsRobots site results => cases hnext
  | tellsPages site artifacts results => cases hnext
  | tellsRest site evaluation results => cases hnext
  | returned site evaluation => cases hnext
  | threw failure => cases hnext

theorem awaited_issue (h : (g, r) ∈ stage.awaited) : (g, r) ∈ (stage.issue f).awaited := by
  cases stage with
  | fetchesRobots p => exact Promise.awaited_issue h
  | fetchesPages site p => exact Promise.awaited_issue h
  | fetchesRest site artifacts p => exact Promise.awaited_issue h
  | tellsRobots site results => exact h
  | tellsPages site artifacts results => exact h
  | tellsRest site evaluation results => exact h
  | returned site evaluation => exact h
  | threw failure => exact h

theorem awaited_settle (h : (g, r) ∈ stage.awaited) (hother : g ≠ f) : (g, r) ∈ (stage.settle f o).awaited := by
  cases stage with
  | fetchesRobots p => exact Promise.awaited_normal (Promise.awaited_settle h hother)
  | fetchesPages site p => exact Promise.awaited_normal (Promise.awaited_settle h hother)
  | fetchesRest site artifacts p => exact Promise.awaited_normal (Promise.awaited_settle h hother)
  | tellsRobots site results => exact h
  | tellsPages site artifacts results => exact h
  | tellsRest site evaluation results => exact h
  | returned site evaluation => exact h
  | threw failure => exact h

end ScanStage

theorem ScanRunner.publishes_sends_nothing {out : List ScanRunNotice} {request : PinnedTransportRequest}
    (h : s.publishes L job now target = some (s', out)) : .fetched (.requested f request) ∉ out := by
  have hpasses (results : List CheckResult) : .fetched (.requested f request) ∉ passes results := by
    unfold passes
    split
    · nofun
    · simp
  unfold publishes at h
  split at h
  · split at h
    · cases h; nofun
    · cases h; exact hpasses _
  · cases h; exact hpasses _
  · cases h; exact hpasses _
  · cases h

namespace RulesSound

theorem idle (h : RulesSound L s) (hidle : s.stage.awaited = []) {emitted : List Nat}
    (hasks : StageAsks L stage) : RulesSound L { s with emitted := emitted, stage := stage } := by
  have hover (f : Nat) (x : SafeFetch) (hx : s.fetcher.fetches.get f = some x) (hlive : x.phase.over = false) :
      False := by
    obtain ⟨r, hr⟩ := h.awaited f x hx hlive
    rw [hidle] at hr
    cases hr
  exact ⟨hasks, h.begun, fun f x hx hlive => (hover f x hx hlive).elim,
    fun f x _ hx hlive => (hover f x hx hlive).elim⟩

theorem settle (h : RulesSound L s) (hover : ∀ x, s.fetcher.fetches.get f = some x → x.phase.over = true) :
    RulesSound L { s with stage := s.stage.settle f o } := by
  refine ⟨h.asks.settle f o, h.begun, fun g x hx hlive => ?_, fun g x q hx hlive hq hcontent => ?_⟩
  · obtain ⟨r, hr⟩ := h.awaited g x hx hlive
    refine ⟨r, ScanStage.awaited_settle hr ?_⟩
    rintro rfl
    rw [hover x hx] at hlive
    cases hlive
  · obtain ⟨site, hsite, hpermitted⟩ := h.permitted g x q hx hlive hq hcontent
    exact ⟨site, (ScanStage.site_settle f o).trans hsite, hpermitted⟩

theorem ask (h : RulesSound L s) (r : ScanRequest) :
    RulesSound L { s with requests := s.requests ++ [r], stage := s.stage.issue s.requests.length } := by
  refine ⟨h.asks.issue _, fun f x hx => ?_, fun f x hx hlive => ?_, fun f x q hx hlive hq hcontent => ?_⟩
  · rw [length_append]
    exact Nat.lt_succ_of_lt (h.begun f x hx)
  · obtain ⟨r, hr⟩ := h.awaited f x hx hlive
    exact ⟨r, ScanStage.awaited_issue hr⟩
  · rw [getElem?_append_left (h.begun f x hx)] at hq
    obtain ⟨site, hsite, hpermitted⟩ := h.permitted f x q hx hlive hq hcontent
    exact ⟨site, (ScanStage.site_issue _).trans hsite, hpermitted⟩

variable {x : SafeFetch}

theorem begins {U : UrlLib} {url : Url} {options : SafeFetchOptions}
    (h : SafeFetch.begin U (.url url) options = .ok x) :
    U.canonicalizeTarget url.text = .ok x.url ∧ x.schemeWasMissing = false := by
  unfold SafeFetch.begin at h
  dsimp only at h
  split at h
  · cases h
  · next canonical hcanonical =>
    split at h
    · cases h
    · cases h; exact ⟨hcanonical, rfl⟩

theorem begin (h : RulesSound L s) (hcovers : PermissionCovers L s .issues) (hnext : s.stage.next = some r)
    (hbegin : SafeFetch.begin L.urls r.input r.options = .ok x) : RulesSound L { s with
      requests := s.requests ++ [r]
      stage := s.stage.issue s.requests.length
      fetcher := s.fetcher.goes s.requests.length x } := by
  have hasked := h.ask r
  refine ⟨hasked.asks, fun f y hy => ?_, fun f y hy hlive => ?_, fun f y q hy hlive hq hcontent => ?_⟩
  · simp only [SafeFetcher.goes, get_set] at hy
    split at hy
    · next heq => rw [heq, length_append]; exact Nat.lt_succ_self _
    · exact hasked.begun f y hy
  · simp only [SafeFetcher.goes, get_set] at hy
    split at hy
    · next heq => rw [heq]; exact ⟨r, ScanStage.awaited_issue_next hnext⟩
    · exact hasked.awaited f y hy hlive
  · simp only [SafeFetcher.goes, get_set] at hy
    split at hy
    · next heq =>
      cases hy
      rw [heq, getElem?_concat_length] at hq
      cases hq
      rcases h.asks.next hnext with hrobots | ⟨site, hsite, hpermits⟩
      · rw [hrobots] at hcontent
        exact absurd hcontent (by decide)
      · have hcontent' := hcontent
        simp only [ScanSource.content, Bool.and_eq_true, Bool.not_eq_true'] at hcontent'
        obtain ⟨url, hurl, -, hallows⟩ := hpermits.allowed hcontent'.2
        rw [hurl] at hbegin
        obtain ⟨hcanonical, hscheme⟩ := begins hbegin
        obtain ⟨hmissing, hcovered⟩ := hcovers site r url x.url hsite hnext hcontent hurl hcanonical
        exact ⟨site, (ScanStage.site_issue _).trans hsite, ScanSite.known_of_allow hallows hmissing, hscheme,
          fun horigin => hcovered horigin hallows⟩
    · exact hasked.permitted f y q hy hlive hq hcontent

theorem fetch (h : RulesSound L s) {action : FetchAction} {fetcher : SafeFetcher} {heard : List FetchNotice}
    (hcovers : PermissionCovers L s (.fetches action)) (htakes : action.takesOn.isSome = true)
    (hfetch : s.fetcher.step L.urls action = .ok (fetcher, heard)) : RulesSound L { s with fetcher := fetcher } ∧
      ∀ f request, .requested f request ∈ heard → KeepsRobots L s f request := by
  rcases SafeFetcher.step_cases hfetch with ⟨f, input, options, rfl, -, -⟩ | ⟨f, x, count, x', hx, hmove, rfl⟩
  · cases htakes
  · have hwas (hlive : x'.phase.over = false) : x.phase.over = false := by
      cases hover : x.phase.over with
      | false => rfl
      | true => rw [hmove.over hover] at hlive; cases hlive
    refine ⟨⟨h.asks, fun g y hy => ?_, fun g y hy hlive => ?_, fun g y q hy hlive hq hcontent => ?_⟩,
      fun g request hmem q hq hcontent => ?_⟩
    · simp only [SafeFetcher.goes, get_set] at hy
      split at hy
      · next heq => exact heq ▸ h.begun f x hx
      · exact h.begun g y hy
    · rcases of_get_set hy with ⟨heq, rfl⟩ | ⟨-, hy⟩
      · exact heq ▸ h.awaited f x hx (hwas hlive)
      · exact h.awaited g y hy hlive
    · simp only [SafeFetcher.goes, get_set] at hy
      split at hy
      · next heq =>
        cases hy
        subst heq
        obtain ⟨site, hsite, hpermitted⟩ := h.permitted g x q hx (hwas hlive) hq hcontent
        obtain ⟨hscheme, hgoes⟩ := hmove.goes_by_redirect hpermitted.scheme hlive
        refine ⟨site, hsite, hpermitted.known, hscheme, fun horigin => ?_⟩
        rcases hgoes with hsame | ⟨answer, location, rfl, hlocation, hurl⟩
        · rw [hsame] at horigin ⊢
          exact hpermitted.allowed horigin
        · exact hcovers site q x location x'.url hsite hq hcontent hx hlocation hurl horigin
      · exact h.permitted g y q hy hlive hq hcontent
    · obtain ⟨rfl, hlive, hurl⟩ := hmove.sends hmem
      obtain ⟨site, hsite, hpermitted⟩ := h.permitted g x q hx hlive hq hcontent
      exact ⟨site, hsite, hpermitted.known, fun horigin => hurl ▸ hpermitted.allowed (hurl ▸ horigin)⟩

theorem expire (h : RulesSound L s) : RulesSound L { s with
      aborted := true
      fetcher.fetches := s.fetcher.fetches.mapValues fun x => { x with aborted := true } } := by
  have hsame {f : Nat} {y : SafeFetch}
      (hy : (s.fetcher.fetches.mapValues fun x => { x with aborted := true }).get f = some y) :
      ∃ x, s.fetcher.fetches.get f = some x ∧ y = { x with aborted := true } := by
    rw [get_mapValues] at hy
    obtain ⟨x, hx, rfl⟩ := Option.map_eq_some_iff.1 hy
    exact ⟨x, hx, rfl⟩
  refine ⟨h.asks, fun f y hy => ?_, fun f y hy hlive => ?_, fun f y q hy hlive hq hcontent => ?_⟩
  · obtain ⟨x, hx, -⟩ := hsame hy
    exact h.begun f x hx
  · obtain ⟨x, hx, rfl⟩ := hsame hy
    exact h.awaited f x hx hlive
  · obtain ⟨x, hx, rfl⟩ := hsame hy
    obtain ⟨site, hsite, hpermitted⟩ := h.permitted f x q hx hlive hq hcontent
    exact ⟨site, hsite, hpermitted.known, hpermitted.scheme, hpermitted.allowed⟩

theorem publishes (h : RulesSound L s) {out : List ScanRunNotice}
    (hpublishes : s.publishes L job now target = some (s', out)) : RulesSound L s' := by
  unfold ScanRunner.publishes at hpublishes
  split at hpublishes
  · next robots hstage =>
    have hidle : s.stage.awaited = [] := by rw [hstage]; rfl
    split at hpublishes
    · cases hpublishes; exact h.idle hidle trivial
    · cases hpublishes; exact h.idle hidle trivial
  · next site pages hstage =>
    cases hpublishes
    exact h.idle (by rw [hstage]; rfl) trivial
  · next site artifacts oauth representative hstage =>
    cases hpublishes
    exact h.idle (by rw [hstage]; rfl) trivial
  · cases hpublishes

theorem told (h : RulesSound L s) (htold : s.told L = some s') : RulesSound L s' := by
  unfold ScanRunner.told at htold
  split at htold
  · next site results hstage =>
    cases htold
    refine h.idle (by rw [hstage]; rfl) ?_
    exact Promise.Everywhere.normal (ScanSite.everywhere_pages fun r hsource hpermits => ⟨hsource, hpermits⟩)
  · next site artifacts results hstage =>
    cases htold
    refine h.idle (by rw [hstage]; rfl) ?_
    exact Promise.Everywhere.normal (ScanSite.everywhere_rest fun r hsource hpermits => ⟨hsource, hpermits⟩)
  · next site evaluation results hstage =>
    cases htold
    exact h.idle (by rw [hstage]; rfl) trivial
  · cases htold

theorem step (h : RulesSound L s) {action : ScanRunAction} {out : List ScanRunNotice}
    (hcovers : PermissionCovers L s action) (hstep : s.step L job now target action = .ok (s', out)) :
    RulesSound L s' ∧ ∀ f request, .fetched (.requested f request) ∈ out → KeepsRobots L s f request := by
  cases ScanRunner.step_cases hstep with
  | refused request failure hnext hrefused =>
    refine ⟨(h.ask request).settle fun x hx => absurd (h.begun _ x hx) (Nat.lt_irrefl _), ?_⟩
    simp
  | begun request x hnext hbegin =>
    refine ⟨h.begin hcovers hnext hbegin, ?_⟩
    simp
  | fetched action fetcher heard htakes hfetch =>
    obtain ⟨hsound, hsent⟩ := h.fetch hcovers htakes hfetch
    refine ⟨hsound, fun f request hmem => ?_⟩
    obtain ⟨notice, hnotice, heq⟩ := mem_map.1 hmem
    cases heq
    exact hsent f request hnotice
  | settled f x o hx hover =>
    refine ⟨h.settle fun y hy => ?_, nofun⟩
    rw [hx] at hy
    cases hy
    generalize x.phase = phase at hover ⊢
    cases hover with
    | returned artifact => rfl
    | threw failure => rfl
  | expired => exact ⟨h.expire, nofun⟩
  | published s' out hpublishes =>
    refine ⟨h.publishes hpublishes, fun f request hmem => ?_⟩
    exact absurd hmem (ScanRunner.publishes_sends_nothing hpublishes)
  | told s' htold => exact ⟨h.told htold, nofun⟩
  | unheard message htelling =>
    refine ⟨h.idle ?_ trivial, nofun⟩
    revert htelling
    cases s.stage with
    | fetchesRobots p => exact fun htelling => absurd rfl htelling
    | fetchesPages site p => exact fun htelling => absurd rfl htelling
    | fetchesRest site artifacts p => exact fun htelling => absurd rfl htelling
    | _ => exact fun _ => rfl

theorem start (L : ScanLib) (job : ScanRunJob) (target : Url) (appBaseUrl : String) :
    RulesSound L (.start L job target appBaseUrl) := by
  have hnone (f : Nat) : (ScanRunner.start L job target appBaseUrl).fetcher.fetches.get f = none := rfl
  refine ⟨everywhere_fetch rfl, fun f x hx => ?_, fun f x hx => ?_, fun f x q hx => ?_⟩
  · rw [hnone] at hx; cases hx
  · rw [hnone] at hx; cases hx
  · rw [hnone] at hx; cases hx

end RulesSound

/-- **A scan keeps to the robots file as far as permission covers what is sent.** Whatever a site answers: where
every step of a run is covered, every request for content is sent when the robots file is known, and to a URL of
the target's origin only where the file allows its path with its query. -/
theorem keeps_robots (L : ScanLib) (job : ScanRunJob) (now : Int) (target : Url) (appBaseUrl : String)
    (actions : List ScanRunAction)
    (h : (scanRunMachine L job now target).Meets (PermissionCovers L) (.start L job target appBaseUrl) actions)
    (before after : List ScanRunAction) (action : ScanRunAction) (hsplit : actions = before ++ action :: after)
    (s s' : ScanRunner) (hs : s = (scanRunMachine L job now target).run (.start L job target appBaseUrl) before)
    (out : List ScanRunNotice) (hstep : s.step L job now target action = .ok (s', out)) (f : Nat)
    (request : PinnedTransportRequest) (hsent : .fetched (.requested f request) ∈ out) :
    KeepsRobots L s f request := by
  subst hsplit hs
  obtain ⟨hbefore, hcovers, -⟩ := (scanRunMachine L job now target).meets_append.1 h
  have hsound := (scanRunMachine L job now target).run_induction_meeting (P := RulesSound L)
    (fun hs hcovers hstep => (hs.step hcovers hstep).1) (s := .start L job target appBaseUrl)
    (.start L job target appBaseUrl) before hbefore
  exact (hsound.step hcovers hstep).2 f request hsent

/-- A robots file that forbids one page. -/
def privateRobots : FetchArtifact :=
  fetchedArtifact "https://example.com/robots.txt" 200 "User-agent: *\nDisallow: /private"

/-- The robots file is fetched, and after it the home page, which redirects. -/
def redirectsTo (location : String) : List ScanRunAction :=
  [.issues, .fetches (.turns 0), .fetches (.resolves 0 (.ok [exampleAddress])), .fetches (.requests 0),
    .fetches (.answers 0 (.ok ⟨privateRobots, none⟩)), .settles 0, .publishes, .told, .issues, .fetches (.turns 1),
    .fetches (.resolves 1 (.ok [exampleAddress])), .fetches (.requests 1),
    .fetches (.answers 1 (.ok ⟨fetchedArtifact "https://example.com/" 302 "", some location⟩)), .fetches (.turns 1),
    .fetches (.resolves 1 (.ok [exampleAddress]))]

/-- The scan of example's home page, up to where its redirect is followed. -/
def redirectedTo (location : String) : ScanRunner :=
  (scanRunMachine exampleLib exampleJob 0 exampleHome).run
    (.start exampleLib exampleJob exampleHome "https://agentify.ad") (redirectsTo location)

theorem redirectsTo_open : (scanRunMachine exampleLib exampleJob 0 exampleHome).Meets (PermissionCovers exampleLib)
    (.start exampleLib exampleJob exampleHome "https://agentify.ad")
    (redirectsTo "/open" ++ [.fetches (.requests 1)]) := by
  refine ⟨?_, trivial, trivial, trivial, ?_, trivial, trivial, trivial, ?_, trivial, trivial, trivial, ?_, trivial,
    trivial, trivial, trivial⟩
  · intro site request url canonical hsite
    cases hsite
  · intro site q x location url hsite
    cases hsite
  · intro site request url canonical hsite hnext hcontent hinput hcanonical
    cases hsite
    cases hnext
    cases hinput
    have hhome : exampleHost.canonicalizeTarget exampleHome.text = .ok exampleHome := by rfl
    obtain rfl : exampleHome = canonical := Except.ok.inj (hhome.symm.trans hcanonical)
    exact ⟨fun _ => rfl, fun _ _ => by decide +kernel⟩
  · intro site q x location url hsite hq hcontent hx hlocation hurl horigin
    cases hsite
    cases hx
    cases hlocation
    have hopen : exampleHost.validateRedirect exampleHome "/open" = .ok { exampleHome with pathname := "/open" } := by
      rfl
    obtain rfl : { exampleHome with pathname := "/open" } = url := Except.ok.inj (hopen.symm.trans hurl)
    decide +kernel

/-- What is sent then is sent to that page, and the robots file allows it. -/
theorem redirect_keeps_robots : ∃ s' out request,
    (redirectedTo "/open").step exampleLib exampleJob 0 exampleHome (.fetches (.requests 1)) = .ok (s', out) ∧
      .fetched (.requested 1 request) ∈ out ∧ KeepsRobots exampleLib (redirectedTo "/open") 1 request :=
  ⟨_, _, _, rfl, List.mem_singleton_self _, keeps_robots exampleLib exampleJob 0 exampleHome "https://agentify.ad"
    (redirectsTo "/open" ++ [.fetches (.requests 1)]) redirectsTo_open (redirectsTo "/open") [] (.fetches (.requests 1))
    rfl (redirectedTo "/open") _ rfl _ rfl 1 _ (List.mem_singleton_self _)⟩

/-- Where the redirect leads to the page that the robots file forbids, that page is fetched. -/
theorem redirected_past_the_rules : ¬ ∀ (L : ScanLib) (job : ScanRunJob) (now : Int) (target : Url)
    (appBaseUrl : String) (actions : List ScanRunAction) (action : ScanRunAction) (s s' : ScanRunner)
    (out : List ScanRunNotice) (f : Nat) (request : PinnedTransportRequest), job.begins L now = .ok target →
    s = (scanRunMachine L job now target).run (.start L job target appBaseUrl) actions →
    s.step L job now target action = .ok (s', out) → .fetched (.requested f request) ∈ out →
    KeepsRobots L s f request := by
  intro h
  obtain ⟨site, hsite, -, hallowed⟩ := h exampleLib exampleJob 0 exampleHome "https://agentify.ad"
    (redirectsTo "/private") (.fetches (.requests 1)) (redirectedTo "/private") _ _ 1 _ rfl rfl rfl
    (List.mem_singleton_self _) _ rfl rfl
  cases hsite
  exact absurd (hallowed rfl) (by decide +kernel)
end Coinslot
