import Coinslot.Scanner.Asked
import Coinslot.Scanner.ShownChecks

/-!
# One bad side request

What a scan comes to at a site that answers every request as it does (`scanEval`), whatever the order of the
answers (`run_evaluates`). A request that a scan can do without may fail in two ways. Where the failure is an
artifact, with its error code, the scan goes on, and the checks that read neither the artifact nor what is found
through it come to the same as ever. Where it is thrown, as a refused redirect is, or an address that is not
public, or a name that is not resolved, the scan is over. So a bad request spares a scan exactly where nothing
that is asked for throws (`side_request_spares`).
-/

namespace Coinslot

open List

/-! ## What a scan comes to -/

section Evaluation

variable (L : ScanLib) (job : ScanRunJob) (now : Int) (target : Url)
  (σ : ScanRequest → Except FetchFailure FetchArtifact)

def knownSite : Except FetchFailure ScanSite := ((job.robotsPromise L target).eval σ).bind (job.knows L target)

def pagesEval (site : ScanSite) : Except FetchFailure ScanArtifacts :=
  ((site.pagesPromise L).eval σ).map site.initialArtifacts.withPages

def restEval (site : ScanSite) (artifacts : ScanArtifacts) : Except FetchFailure ScanArtifacts :=
  ((site.restPromise L artifacts).eval σ).map fun (oauth, representative) => artifacts.withRest oauth representative

/-- What a scan of a site comes to. -/
def scanEval : Except FetchFailure ScanEvaluation :=
  (knownSite L job target σ).bind fun site =>
    (pagesEval L σ site).bind fun artifacts => (restEval L σ site artifacts).map (L.suite.evaluateScan · now)

/-- What is asked for once the robots file of a site is known. -/
def scanAsked : List ScanRequest :=
  match knownSite L job target σ with
  | .error _ => []
  | .ok site =>
    (site.pagesPromise L).asked σ ++
      match pagesEval L σ site with
      | .error _ => []
      | .ok artifacts => (site.restPromise L artifacts).asked σ

end Evaluation

variable {L : ScanLib} {job : ScanRunJob} {now : Int} {target : Url}
  {σ τ : ScanRequest → Except FetchFailure FetchArtifact} {site : ScanSite}

theorem scanEval_isOk (now : Int) (hsite : knownSite L job target σ = .ok site) :
    (∃ evaluation, scanEval L job now target σ = .ok evaluation) ↔
      ∀ r ∈ scanAsked L job target σ, ¬ Throws L r (σ r) := by
  have hstrict : (site.pagesPromise L).Strict (Throws L) := ScanSite.strict_pages
  have hpages := hstrict.eval_isOk (σ := σ)
  simp only [scanEval, scanAsked, hsite, Except.bind, forall_mem_append, ← hpages]
  cases hp : (site.pagesPromise L).eval σ with
  | error e => simp [pagesEval, hp, Except.map]
  | ok pages =>
    have hstrict : (site.restPromise L (site.initialArtifacts.withPages pages)).Strict (Throws L) :=
      ScanSite.strict_rest
    have hrest := hstrict.eval_isOk (σ := σ)
    simp only [pagesEval, hp, Except.map, ← hrest]
    cases hr : (site.restPromise L (site.initialArtifacts.withPages pages)).eval σ with
    | error e => simp [restEval, hr, Except.map]
    | ok rest => simp [restEval, hr, Except.map]

/-! ## What the checks read -/

/-- The artifacts of a scan, by what they are of. -/
inductive ArtifactField where
  | robots
  | base
  | representative
  | markdown
  | chatgptProbe
  | claudeProbe
  | sitemap
  | llms
  | mcp
  | ucp
  | oauth
  | a2a
  deriving DecidableEq, Repr

/-- The artifacts of one kind. -/
def ScanArtifacts.field (artifacts : ScanArtifacts) : ArtifactField → List FetchArtifact
  | .robots => [artifacts.robots]
  | .base => artifacts.base.toList
  | .representative => artifacts.representative.toList
  | .markdown => artifacts.markdown.toList
  | .chatgptProbe => artifacts.chatgptProbe.toList
  | .claudeProbe => artifacts.claudeProbe.toList
  | .sitemap => artifacts.sitemap
  | .llms => artifacts.llms.toList
  | .mcp => artifacts.mcp
  | .ucp => artifacts.ucp.toList
  | .oauth => artifacts.oauth
  | .a2a => artifacts.a2a.toList

/-- What a check reads. The pages of the target are read as far as the robots file allows. -/
def checkReads : Nat → List ArtifactField
  | 1 => [.robots]
  | 2 => [.robots]
  | 3 => [.robots]
  | 4 => [.sitemap]
  | 5 => [.robots, .base, .representative]
  | 6 => [.robots, .base, .representative]
  | 7 => [.robots, .markdown, .base]
  | 8 => [.llms]
  | 9 => [.mcp]
  | 10 => [.ucp]
  | 11 => [.mcp, .ucp, .base, .oauth]
  | 12 => [.robots, .base, .representative]
  | 13 => [.robots, .base, .chatgptProbe, .claudeProbe]
  | 14 => [.robots, .base]
  | 15 => [.robots, .base, .representative]
  | 17 => [.a2a]
  | 18 => [.robots, .base]
  | _ => []

variable {α : Type} {K : CheckSuite} {b artifacts artifacts' : ScanArtifacts} {check : CheckResult}

theorem toList_injective {a b : Option α} (h : a.toList = b.toList) : a = b := by
  cases a with
  | none =>
    cases b with
    | none => rfl
    | some _ => cases h
  | some _ =>
    cases b with
    | none => cases h
    | some _ => exact congrArg some (head_eq_of_cons_eq h)

theorem CheckSuite.effective_congr {a : ScanArtifacts} (hrobots : a.robots = b.robots)
    (hurl : a.canonicalTargetUrl = b.canonicalTargetUrl) (read : ScanArtifacts → α) (hallowed : read a = read b)
    (hblocked : read a.withoutContent = read b.withoutContent) :
    read (if K.targetContentAllowed a.robots a.canonicalTargetUrl then a else a.withoutContent) =
      read (if K.targetContentAllowed b.robots b.canonicalTargetUrl then b else b.withoutContent) := by
  rw [hrobots, hurl]
  split
  · exact hallowed
  · exact hblocked

/-- A check comes to the same of artifacts that are the same where it reads. -/
theorem CheckSuite.mem_of_reads {a : ScanArtifacts} (h : check ∈ K.evaluateChecks a now)
    (hsegment : a.segment = b.segment) (hurl : a.canonicalTargetUrl = b.canonicalTargetUrl)
    (hreads : ∀ field ∈ checkReads check.id, a.field field = b.field field) : check ∈ K.evaluateChecks b now := by
  have hrobots (h : ArtifactField.robots ∈ checkReads check.id) : a.robots = b.robots :=
    head_eq_of_cons_eq (hreads .robots h)
  have hpage {α : Type} (read : ScanArtifacts → α) (h : ArtifactField.robots ∈ checkReads check.id)
      (hallowed : read a = read b) (hblocked : read a.withoutContent = read b.withoutContent) :=
    effective_congr (K := K) (hrobots h) hurl read hallowed hblocked
  have hbase (h : ArtifactField.base ∈ checkReads check.id) : a.base = b.base := toList_injective (hreads .base h)
  have hrepresentative (h : ArtifactField.representative ∈ checkReads check.id) :
      a.representative = b.representative := toList_injective (hreads .representative h)
  simp only [evaluateChecks, mem_cons, not_mem_nil, or_false] at h
  rcases h with rfl | rfl | rfl | rfl | rfl | rfl | rfl | rfl | rfl | rfl | rfl | rfl | rfl | rfl |
    rfl | rfl | rfl | rfl
  · rw [hrobots (show _ ∈ checkReads 1 by decide)]
    exact mem_of_getElem? (i := 0) rfl
  · rw [hrobots (show _ ∈ checkReads 2 by decide)]
    exact mem_of_getElem? (i := 1) rfl
  · rw [hrobots (show _ ∈ checkReads 3 by decide)]
    exact mem_of_getElem? (i := 2) rfl
  · rw [show a.sitemap = b.sitemap from hreads .sitemap (show _ ∈ checkReads 4 by decide)]
    exact mem_of_getElem? (i := 3) rfl
  · have hr : ArtifactField.robots ∈ checkReads 5 := by decide
    rw [hpage (·.base) hr (hbase (show _ ∈ checkReads 5 by decide)) rfl,
      hpage (·.representative) hr (hrepresentative (show _ ∈ checkReads 5 by decide)) rfl]
    exact mem_of_getElem? (i := 4) rfl
  · have hr : ArtifactField.robots ∈ checkReads 6 := by decide
    rw [hpage (·.segment) hr hsegment hsegment, hpage (·.base) hr (hbase (show _ ∈ checkReads 6 by decide)) rfl,
      hpage (·.representative) hr (hrepresentative (show _ ∈ checkReads 6 by decide)) rfl]
    exact mem_of_getElem? (i := 5) rfl
  · have hr : ArtifactField.robots ∈ checkReads 7 := by decide
    rw [hpage (·.markdown) hr (toList_injective (hreads .markdown (show _ ∈ checkReads 7 by decide))) rfl,
      hpage (·.base) hr (hbase (show _ ∈ checkReads 7 by decide)) rfl]
    exact mem_of_getElem? (i := 6) rfl
  · rw [toList_injective (hreads .llms (show _ ∈ checkReads 8 by decide))]
    exact mem_of_getElem? (i := 7) rfl
  · rw [show a.mcp = b.mcp from hreads .mcp (show _ ∈ checkReads 9 by decide)]
    exact mem_of_getElem? (i := 8) rfl
  · rw [hsegment, toList_injective (hreads .ucp (show _ ∈ checkReads 10 by decide))]
    exact mem_of_getElem? (i := 9) rfl
  · rw [show a.mcp = b.mcp from hreads .mcp (show _ ∈ checkReads 11 by decide),
      toList_injective (hreads .ucp (show _ ∈ checkReads 11 by decide)),
      hbase (show _ ∈ checkReads 11 by decide),
      show a.oauth = b.oauth from hreads .oauth (show _ ∈ checkReads 11 by decide)]
    exact mem_of_getElem? (i := 10) rfl
  · have hr : ArtifactField.robots ∈ checkReads 12 := by decide
    rw [hpage (·.segment) hr hsegment hsegment, hpage (·.base) hr (hbase (show _ ∈ checkReads 12 by decide)) rfl,
      hpage (·.representative) hr (hrepresentative (show _ ∈ checkReads 12 by decide)) rfl]
    exact mem_of_getElem? (i := 11) rfl
  · have hr : ArtifactField.robots ∈ checkReads 13 := by decide
    rw [hpage (·.base) hr (hbase (show _ ∈ checkReads 13 by decide)) rfl,
      hpage (·.chatgptProbe) hr (toList_injective (hreads .chatgptProbe (show _ ∈ checkReads 13 by decide))) rfl,
      hpage (·.claudeProbe) hr (toList_injective (hreads .claudeProbe (show _ ∈ checkReads 13 by decide))) rfl]
    exact mem_of_getElem? (i := 12) rfl
  · rw [hpage (·.base) (show _ ∈ checkReads 14 by decide) (hbase (show _ ∈ checkReads 14 by decide)) rfl]
    exact mem_of_getElem? (i := 13) rfl
  · have hr : ArtifactField.robots ∈ checkReads 15 := by decide
    rw [hpage (·.segment) hr hsegment hsegment, hpage (·.base) hr (hbase (show _ ∈ checkReads 15 by decide)) rfl,
      hpage (·.representative) hr (hrepresentative (show _ ∈ checkReads 15 by decide)) rfl]
    exact mem_of_getElem? (i := 14) rfl
  · exact mem_of_getElem? (i := 15) rfl
  · rw [toList_injective (hreads .a2a (show _ ∈ checkReads 17 by decide))]
    exact mem_of_getElem? (i := 16) rfl
  · rw [hpage (·.base) (show _ ∈ checkReads 18 by decide) (hbase (show _ ∈ checkReads 18 by decide)) rfl]
    exact mem_of_getElem? (i := 17) rfl

/-! ## What a request leads to -/

/-- The artifacts of a request, and those that are found through it. -/
def ScanSource.leadsTo : ScanSource → List ArtifactField
  | robots => [.robots, .base, .representative, .markdown, .chatgptProbe, .claudeProbe, .sitemap, .llms, .mcp,
      .ucp, .oauth, .a2a]
  | base => [.base]
  | markdown => [.markdown]
  | chatgptProbe => [.chatgptProbe]
  | claudeProbe => [.claudeProbe]
  | sitemap => [.sitemap, .representative]
  | llms => [.llms]
  | mcp => [.mcp, .oauth]
  | mcpCard => [.mcp, .oauth]
  | ucp => [.ucp, .oauth]
  | a2a => [.a2a]
  | authorizationServer => [.oauth]
  | protectedResource => [.oauth]
  | head => [.representative]
  | representative => [.representative]

/-- Artifacts that are of one scan, and the same but for those a request leads to. -/
structure SameBut (source : ScanSource) (a b : ScanArtifacts) : Prop where
  segment : a.segment = b.segment
  url : a.canonicalTargetUrl = b.canonicalTargetUrl
  field : ∀ field, field ∉ source.leadsTo → a.field field = b.field field

variable {a : ScanRequest}

section

variable (hsame : ∀ r, r ≠ a → σ r = τ r)
include hsame

theorem agree_of_source {sources : List ScanSource}
    (ha : a.source ∉ sources) : ∀ r : ScanRequest, r.source ∈ sources → σ r = τ r := by
  intro r hr
  refine hsame r fun heq => ha ?_
  rw [← heq]
  exact hr

theorem eval_elsewhere {α : Type}
    (sources : List ScanSource) {p : ScanPromise α} (hp : p.Everywhere fun r => r.source ∈ sources)
    (ha : a.source ∉ sources) {x y : α} (hx : p.eval σ = .ok x) (hy : p.eval τ = .ok y) : x = y := by
  have heq := hp.eval_congr (agree_of_source hsame ha)
  rw [hx, hy] at heq
  exact Except.ok.inj heq

theorem known_agree {known known' : List FetchArtifact}
    (hknown : (site.wellKnown L).eval σ = .ok known) (hknown' : (site.wellKnown L).eval τ = .ok known') :
    (a.source ∉ [ScanSource.mcp, .mcpCard] → known.take 2 = known'.take 2) ∧
    (a.source ≠ .ucp → site.segment = .store → known[2]? = known'[2]?) ∧ (a.source ≠ .a2a →
      (if site.segment = .store then known[3]? else known[2]?) =
        if site.segment = .store then known'[3]? else known'[2]?) := by
  have hone {source : ScanSource} (hsource : source.discovery = true) (hne : a.source ≠ source) {path : String}
      {x y : FetchArtifact} (hx : (site.fetchExplicitDiscovery L source path).eval σ = .ok x)
      (hy : (site.fetchExplicitDiscovery L source path).eval τ = .ok y) : x = y :=
    eval_elsewhere hsame [source]
      (ScanSite.everywhere_discovery hsource fun r hr _ => mem_singleton.2 hr) (by simpa using hne) hx hy
  have hall := Promise.eval_all σ hknown
  have hall' := Promise.eval_all τ hknown'
  by_cases hstore : site.segment = .store
  · simp only [hstore, if_true, cons_append, nil_append] at hall hall' ⊢
    cases hall with
    | cons h1 hall =>
      cases hall with
      | cons h2 hall =>
        cases hall with
        | cons h3 hall =>
          cases hall with
          | cons h4 hall =>
            cases hall' with
            | cons h1' hall' =>
              cases hall' with
              | cons h2' hall' =>
                cases hall' with
                | cons h3' hall' =>
                  cases hall' with
                  | cons h4' hall' =>
                    simp only [mem_cons, not_mem_nil, or_false, not_or]
                    refine ⟨fun ⟨hmcp, hcard⟩ => ?_, fun hucp _ => ?_, fun ha2a => ?_⟩
                    · rw [hone rfl hmcp h1 h1', hone rfl hcard h2 h2']
                      rfl
                    · exact congrArg some (hone rfl hucp h3 h3')
                    · exact congrArg some (hone rfl ha2a h4 h4')
  · simp only [hstore, if_false, cons_append, nil_append, append_nil] at hall hall' ⊢
    cases hall with
    | cons h1 hall =>
      cases hall with
      | cons h2 hall =>
        cases hall with
        | cons h3 hall =>
          cases hall' with
          | cons h1' hall' =>
            cases hall' with
            | cons h2' hall' =>
              cases hall' with
              | cons h3' hall' =>
                simp only [mem_cons, not_mem_nil, or_false, not_or]
                refine ⟨fun ⟨hmcp, hcard⟩ => ?_, fun _ h => absurd h (by simp), fun ha2a => ?_⟩
                · rw [hone rfl hmcp h1 h1', hone rfl hcard h2 h2']
                  rfl
                · exact congrArg some (hone rfl ha2a h3 h3')

end

theorem pages_agree (ha : a.source.auxiliary = true) (hsame : ∀ r, r ≠ a → σ r = τ r)
    (h : pagesEval L σ site = .ok artifacts) (h' : pagesEval L τ site = .ok artifacts') :
    SameBut a.source artifacts artifacts' := by
  obtain ⟨pages, hpages, rfl⟩ := Except.map_eq_ok_iff.1 h
  obtain ⟨pages', hpages', rfl⟩ := Except.map_eq_ok_iff.1 h'
  obtain ⟨⟨content, sitemap⟩, ⟨llms, known⟩, hfirst, hsecond, hmake⟩ := (Promise.eval_both σ).1 hpages
  obtain ⟨⟨content', sitemap'⟩, ⟨llms', known'⟩, hfirst', hsecond', hmake'⟩ := (Promise.eval_both τ).1 hpages'
  obtain ⟨_, _, hcontent, hsitemap, heq⟩ := (Promise.eval_both σ).1 hfirst
  cases heq
  obtain ⟨_, _, hllms, hknown, heq⟩ := (Promise.eval_both σ).1 hsecond
  cases heq
  obtain ⟨_, _, hcontent', hsitemap', heq⟩ := (Promise.eval_both τ).1 hfirst'
  cases heq
  obtain ⟨_, _, hllms', hknown', heq⟩ := (Promise.eval_both τ).1 hsecond'
  cases heq
  cases hmake
  cases hmake'
  have hsources : a.source ∉ [ScanSource.base, .markdown, .chatgptProbe, .claudeProbe] := by
    intro hmem
    simp only [mem_cons, not_mem_nil, or_false] at hmem
    rcases hmem with h | h | h | h <;> (rw [h] at ha; cases ha)
  have hcontents := eval_elsewhere hsame _ (ScanSite.everywhere_content fun _ hr _ => hr) hsources hcontent hcontent'
  obtain ⟨hmcp, hucp, ha2a⟩ := known_agree hsame hknown hknown'
  refine ⟨rfl, rfl, fun field hfield => ?_⟩
  cases field with
  | robots => rfl
  | base => simp only [ScanArtifacts.field, ScanArtifacts.withPages, hcontents]
  | representative => rfl
  | markdown => simp only [ScanArtifacts.field, ScanArtifacts.withPages, hcontents]
  | chatgptProbe => simp only [ScanArtifacts.field, ScanArtifacts.withPages, hcontents]
  | claudeProbe => simp only [ScanArtifacts.field, ScanArtifacts.withPages, hcontents]
  | sitemap =>
    refine eval_elsewhere hsame [.sitemap]
      (ScanSite.everywhere_sitemap fun _ hr _ => mem_singleton.2 hr) (fun hmem => hfield ?_) hsitemap hsitemap'
    rw [mem_singleton.1 hmem]
    decide
  | llms =>
    refine congrArg (fun x => [x]) (eval_elsewhere hsame [.llms]
      (ScanSite.everywhere_llms fun _ hr _ => mem_singleton.2 hr) (fun hmem => hfield ?_) hllms hllms')
    rw [mem_singleton.1 hmem]
    decide
  | mcp =>
    refine hmcp fun hmem => hfield ?_
    simp only [mem_cons, not_mem_nil, or_false] at hmem
    rcases hmem with h | h <;> (rw [h]; decide)
  | ucp =>
    simp only [ScanArtifacts.field, ScanArtifacts.withPages]
    split
    · next hstore => rw [hucp (fun hsource => hfield (by rw [hsource]; decide)) hstore]
    · rfl
  | oauth => rfl
  | a2a => exact congrArg Option.toList (ha2a fun hsource => hfield (by rw [hsource]; decide))

theorem rest_agree (hsame : ∀ r, r ≠ a → σ r = τ r) (hbut : SameBut a.source artifacts artifacts')
    {all all' : ScanArtifacts} (h : restEval L σ site artifacts = .ok all)
    (h' : restEval L τ site artifacts' = .ok all') :
    SameBut a.source all all' := by
  obtain ⟨⟨oauth, representative⟩, hrest, rfl⟩ := Except.map_eq_ok_iff.1 h
  obtain ⟨⟨oauth', representative'⟩, hrest', rfl⟩ := Except.map_eq_ok_iff.1 h'
  obtain ⟨_, _, hoauth, hrepresentative, heq⟩ := (Promise.eval_both σ).1 hrest
  cases heq
  obtain ⟨_, _, hoauth', hrepresentative', heq⟩ := (Promise.eval_both τ).1 hrest'
  cases heq
  refine ⟨hbut.segment, hbut.url, fun field hfield => ?_⟩
  have hfields (other : ArtifactField) (hother : other ∈ a.source.leadsTo → field ∈ a.source.leadsTo) :
      artifacts.field other = artifacts'.field other := hbut.field other fun hmem => hfield (hother hmem)
  cases field with
  | robots => exact hbut.field .robots hfield
  | base => exact hbut.field .base hfield
  | markdown => exact hbut.field .markdown hfield
  | chatgptProbe => exact hbut.field .chatgptProbe hfield
  | claudeProbe => exact hbut.field .claudeProbe hfield
  | sitemap => exact hbut.field .sitemap hfield
  | llms => exact hbut.field .llms hfield
  | mcp => exact hbut.field .mcp hfield
  | ucp => exact hbut.field .ucp hfield
  | a2a => exact hbut.field .a2a hfield
  | oauth =>
    -- What tells of an authorization is the same, so the same is asked for.
    have hmcp : artifacts.mcp = artifacts'.mcp := hfields .mcp (by cases a.source <;> decide)
    have hucp : artifacts.ucp = artifacts'.ucp := toList_injective (hfields .ucp (by cases a.source <;> decide))
    have hdeclared : L.authDeclared artifacts = L.authDeclared artifacts' := by
      simp only [ScanLib.authDeclared, hmcp, hucp]
    have hpromise : site.oauthPromise L artifacts = site.oauthPromise L artifacts' := by
      unfold ScanSite.oauthPromise
      rw [hdeclared]
    rw [← hpromise] at hoauth'
    refine eval_elsewhere hsame _ (ScanSite.everywhere_oauth fun _ hr _ => hr) (fun hmem => hfield ?_) hoauth hoauth'
    simp only [mem_cons, not_mem_nil, or_false] at hmem
    rcases hmem with h | h <;> (rw [h]; decide)
  | representative =>
    have hsitemap : artifacts.sitemap = artifacts'.sitemap := hfields .sitemap (by cases a.source <;> decide)
    rw [← hsitemap] at hrepresentative'
    refine congrArg Option.toList (eval_elsewhere hsame _ (ScanSite.everywhere_representative fun _ hr _ => hr)
      (fun hmem => hfield ?_) hrepresentative hrepresentative')
    simp only [mem_cons, not_mem_nil, or_false] at hmem
    rcases hmem with h | h <;> (rw [h]; decide)

/-! ## One bad request -/

theorem knownSite_agree (ha : a.source.auxiliary = true) (hsame : ∀ r, r ≠ a → σ r = τ r) :
    knownSite L job target σ = knownSite L job target τ := by
  have hsource : a.source ∉ [ScanSource.robots] := by
    intro hmem
    rw [mem_singleton.1 hmem] at ha
    cases ha
  have hrobots : (job.robotsPromise L target).Everywhere fun r => r.source ∈ [ScanSource.robots] :=
    everywhere_fetch (mem_singleton_self _)
  unfold knownSite
  rw [hrobots.eval_congr (agree_of_source hsame hsource)]

/-- A scan is spared a bad answer to a request: it comes to an evaluation, and each check that reads neither the
request's artifact nor one found through it has the result that it has where the request is answered well. -/
def SparesScan (L : ScanLib) (job : ScanRunJob) (now : Int) (target : Url)
    (σ : ScanRequest → Except FetchFailure FetchArtifact) (a : ScanRequest)
    (bad : Except FetchFailure FetchArtifact) : Prop :=
  ∃ spared, scanEval L job now target (Function.update σ a bad) = .ok spared ∧
    ∀ evaluation, scanEval L job now target σ = .ok evaluation → ∀ check ∈ evaluation.checks,
      (∀ field ∈ checkReads check.id, field ∉ a.source.leadsTo) → check ∈ spared.checks

theorem scanEval_agree (ha : a.source.auxiliary = true) (hsame : ∀ r, r ≠ a → σ r = τ r)
    {evaluation spared : ScanEvaluation} (h : scanEval L job now target σ = .ok evaluation)
    (h' : scanEval L job now target τ = .ok spared) (hcheck : check ∈ evaluation.checks)
    (hreads : ∀ field ∈ checkReads check.id, field ∉ a.source.leadsTo) : check ∈ spared.checks := by
  unfold scanEval at h h'
  rw [← knownSite_agree ha hsame] at h'
  cases hsite : knownSite L job target σ with
  | error e => rw [hsite] at h; cases h
  | ok site =>
    rw [hsite] at h h'
    simp only [Except.bind] at h h'
    cases hpages : pagesEval L σ site with
    | error e => rw [hpages] at h; cases h
    | ok artifacts =>
      cases hpages' : pagesEval L τ site with
      | error e => rw [hpages'] at h'; cases h'
      | ok artifacts' =>
        rw [hpages] at h
        rw [hpages'] at h'
        obtain ⟨all, hall, rfl⟩ := Except.map_eq_ok_iff.1 h
        obtain ⟨all', hall', rfl⟩ := Except.map_eq_ok_iff.1 h'
        have hbut := rest_agree hsame (pages_agree ha hsame hpages hpages') hall hall'
        exact CheckSuite.mem_of_reads hcheck hbut.segment hbut.url fun field hfield =>
          hbut.field field (hreads field hfield)

/-- **One bad side request.** At a site whose robots file and target are fetched, a bad answer to a request that a
scan does without spares the scan exactly where none of the requests it does without throws. -/
theorem side_request_spares (L : ScanLib) (job : ScanRunJob) (now : Int) (target : Url)
    (σ : ScanRequest → Except FetchFailure FetchArtifact) (a : ScanRequest)
    (bad : Except FetchFailure FetchArtifact) (ha : a.source.auxiliary = true)
    (hsite : ∃ site, knownSite L job target (Function.update σ a bad) = .ok site)
    (htarget : ∀ r ∈ scanAsked L job target (Function.update σ a bad), r.source.auxiliary = false →
      ¬ Throws L r (Function.update σ a bad r)) :
    SparesScan L job now target σ a bad ↔
      ∀ r ∈ scanAsked L job target (Function.update σ a bad), r.source.auxiliary = true →
        ¬ Throws L r (Function.update σ a bad r) := by
  obtain ⟨site, hsite⟩ := hsite
  have hok := scanEval_isOk now hsite
  have hsame : ∀ r, r ≠ a → σ r = Function.update σ a bad r := fun r hr => (Function.update_of_ne hr bad σ).symm
  constructor
  · rintro ⟨spared, hspared, -⟩ r hr -
    exact hok.1 ⟨spared, hspared⟩ r hr
  · intro hnone
    obtain ⟨spared, hspared⟩ := hok.2 fun r hr => by
      cases hsource : r.source.auxiliary with
      | false => exact htarget r hr hsource
      | true => exact hnone r hr hsource
    exact ⟨spared, hspared, fun evaluation hevaluation check hcheck hreads =>
      scanEval_agree ha hsame hevaluation hspared hcheck hreads⟩

def missingSite : ScanRequest → Except FetchFailure FetchArtifact := fun r =>
  .ok (fetchedArtifact r.input.text 404 "")

/-- The request for one of its documents. -/
def llmsRequest : ScanRequest :=
  ⟨.llms, .url { exampleHome with pathname := "/llms.txt" },
    fetchOptions (512 * 1024) (some "text/plain,text/markdown,*/*;q=0.1")⟩

theorem missingSite_target {bad : Except FetchFailure FetchArtifact} {r : ScanRequest}
    (hr : r.source.auxiliary = false) : ¬ Throws exampleLib r (Function.update missingSite llmsRequest bad r) := by
  rintro ⟨failure, hthrows, -⟩
  rw [Function.update_of_ne (fun heq => by rw [heq] at hr; cases hr)] at hthrows
  cases hthrows

/-- No answer that is an artifact ends the scan. -/
theorem lost_document_spares :
    SparesScan exampleLib exampleJob 0 exampleHome missingSite llmsRequest (.ok noAnswer.artifact) ↔
      ∀ r ∈ scanAsked exampleLib exampleJob exampleHome
          (Function.update missingSite llmsRequest (.ok noAnswer.artifact)),
        r.source.auxiliary = true →
          ¬ Throws exampleLib r (Function.update missingSite llmsRequest (.ok noAnswer.artifact) r) :=
  side_request_spares exampleLib exampleJob 0 exampleHome missingSite llmsRequest (.ok noAnswer.artifact) rfl
    ⟨_, rfl⟩ fun _ _ hr => missingSite_target hr

/-- Where the document redirects to a page without `https:`, the scan is over. -/
theorem refused_redirect_ends_scan : ¬ ∀ (L : ScanLib) (job : ScanRunJob) (now : Int) (target : Url)
    (σ : ScanRequest → Except FetchFailure FetchArtifact) (a : ScanRequest)
    (bad : Except FetchFailure FetchArtifact), a.source.auxiliary = true →
    (∃ site, knownSite L job target (Function.update σ a bad) = .ok site) →
    (∀ r ∈ scanAsked L job target (Function.update σ a bad), r.source.auxiliary = false →
      ¬ Throws L r (Function.update σ a bad r)) →
    SparesScan L job now target σ a bad := by
  intro h
  obtain ⟨spared, hspared, -⟩ := h exampleLib exampleJob 0 exampleHome missingSite llmsRequest
    (.error (.urlPolicy "redirect_downgrade_blocked")) rfl ⟨_, rfl⟩ fun _ _ hr => missingSite_target hr
  have herror : scanEval exampleLib exampleJob 0 exampleHome
      (Function.update missingSite llmsRequest (.error (.urlPolicy "redirect_downgrade_blocked"))) =
      .error (.urlPolicy "redirect_downgrade_blocked") := by
    rfl
  rw [herror] at hspared
  cases hspared

/-! ## The order of the answers -/

/-- What a step brings is answered as a site answers it, and what is told of is heard. -/
def AnsweredBy (L : ScanLib) (σ : ScanRequest → Except FetchFailure FetchArtifact) (s : ScanRunner) :
    ScanRunAction → Prop
  | .issues => ∀ r q, s.stage.next = some r →
      (s.requests.length, q) ∈ (s.stage.issue s.requests.length).awaited →
        (s.aborted = true → σ q = .error .aborted) ∧
        ∀ failure, s.aborted = false → SafeFetch.begin L.urls r.input r.options = .error failure →
          σ q = .error failure
  | .settles f => ∀ x q, s.fetcher.fetches.get f = some x → (f, q) ∈ s.stage.awaited →
      (∀ artifact, x.phase = .returned artifact → σ q = .ok artifact) ∧
        ∀ failure, x.phase = .threw failure → σ q = .error failure
  | .refuses _ => False
  | _ => True

/-- What a scan has still to come to is what it comes to from the start. -/
def EvalSound (L : ScanLib) (job : ScanRunJob) (now : Int) (target : Url)
    (σ : ScanRequest → Except FetchFailure FetchArtifact) : ScanStage → Prop
  | .fetchesRobots p => p.eval σ = (job.robotsPromise L target).eval σ
  | .tellsRobots site _ => knownSite L job target σ = .ok site
  | .fetchesPages site p => knownSite L job target σ = .ok site ∧ p.eval σ = (site.pagesPromise L).eval σ
  | .tellsPages site artifacts _ => knownSite L job target σ = .ok site ∧ pagesEval L σ site = .ok artifacts
  | .fetchesRest site artifacts p => knownSite L job target σ = .ok site ∧ pagesEval L σ site = .ok artifacts ∧
      p.eval σ = (site.restPromise L artifacts).eval σ
  | .tellsRest _ evaluation _ => scanEval L job now target σ = .ok evaluation
  | .returned _ evaluation => scanEval L job now target σ = .ok evaluation
  | .threw _ => ∃ failure, scanEval L job now target σ = .error failure

namespace EvalSound

variable {s s' : ScanRunner} {action : ScanRunAction} {out : List ScanRunNotice} {stage : ScanStage}

theorem issue (h : EvalSound L job now target σ stage) (f : Nat) : EvalSound L job now target σ (stage.issue f) := by
  cases stage with
  | fetchesRobots p => exact Promise.eval_issue.trans h
  | fetchesPages site p => exact ⟨h.1, Promise.eval_issue.trans h.2⟩
  | fetchesRest site artifacts p => exact ⟨h.1, h.2.1, Promise.eval_issue.trans h.2.2⟩
  | tellsRobots site results => exact h
  | tellsPages site artifacts results => exact h
  | tellsRest site evaluation results => exact h
  | returned site evaluation => exact h
  | threw failure => exact h

theorem settle (h : EvalSound L job now target σ stage) {f : Nat} {o : Except FetchFailure FetchArtifact}
    (ho : ∀ q, (f, q) ∈ stage.awaited → o = σ q) : EvalSound L job now target σ (stage.settle f o) := by
  cases stage with
  | fetchesRobots p => exact (Promise.eval_normal.trans (Promise.eval_settle ho)).trans h
  | fetchesPages site p => exact ⟨h.1, (Promise.eval_normal.trans (Promise.eval_settle ho)).trans h.2⟩
  | fetchesRest site artifacts p =>
    exact ⟨h.1, h.2.1, (Promise.eval_normal.trans (Promise.eval_settle ho)).trans h.2.2⟩
  | tellsRobots site results => exact h
  | tellsPages site artifacts results => exact h
  | tellsRest site evaluation results => exact h
  | returned site evaluation => exact h
  | threw failure => exact h

section

variable (h : EvalSound L job now target σ s.stage)
include h

theorem publishes
    (hpublishes : s.publishes L job now target = some (s', out)) : EvalSound L job now target σ s'.stage := by
  obtain ⟨fetcher, aborted, requests, emitted, stage⟩ := s
  unfold ScanRunner.publishes at hpublishes
  dsimp only at h hpublishes
  split at hpublishes
  · next robots =>
    have hrobots : (job.robotsPromise L target).eval σ = .ok robots := h.symm
    split at hpublishes
    · next failure hknows =>
      cases hpublishes
      exact ⟨failure, by simp only [scanEval, knownSite, hrobots, Except.bind, hknows]⟩
    · next site hknows =>
      cases hpublishes
      show knownSite L job target σ = .ok site
      simp only [knownSite, hrobots, Except.bind, hknows]
  · next site pages =>
    cases hpublishes
    have hpages : (site.pagesPromise L).eval σ = .ok pages := h.2.symm
    exact ⟨h.1, by rw [pagesEval, hpages]; rfl⟩
  · next site artifacts oauth representative =>
    cases hpublishes
    obtain ⟨hsite, hartifacts, hrest⟩ := h
    have hrest : (site.restPromise L artifacts).eval σ = .ok (oauth, representative) := hrest.symm
    show scanEval L job now target σ = .ok _
    simp only [scanEval, hsite, Except.bind, hartifacts, restEval, hrest, Except.map]
  · cases hpublishes

theorem told (htold : s.told L = some s') : EvalSound L job now target σ s'.stage := by
  obtain ⟨fetcher, aborted, requests, emitted, stage⟩ := s
  unfold ScanRunner.told at htold
  dsimp only at h htold
  split at htold
  · cases htold; exact ⟨h, Promise.eval_normal⟩
  · cases htold; exact ⟨h.1, h.2, Promise.eval_normal⟩
  · cases htold; exact h
  · cases htold

theorem step (hanswered : AnsweredBy L σ s action)
    (hstep : s.step L job now target action = .ok (s', out)) : EvalSound L job now target σ s'.stage := by
  cases ScanRunner.step_cases hstep with
  | refused request failure hnext hrefused =>
    refine (h.issue _).settle fun q hq => ?_
    rcases hrefused with ⟨haborted, rfl⟩ | ⟨hgoing, hbegin⟩
    · exact ((hanswered request q hnext hq).1 haborted).symm
    · exact ((hanswered request q hnext hq).2 failure hgoing hbegin).symm
  | begun request x hnext hbegin => exact h.issue _
  | fetched action fetcher heard htakes hfetch => exact h
  | settled f x o hx hover =>
    refine h.settle fun q hq => ?_
    obtain ⟨hreturned, hthrew⟩ := hanswered x q hx hq
    generalize hphase : x.phase = phase at hover
    cases hover with
    | returned artifact => exact (hreturned artifact hphase).symm
    | threw failure => exact (hthrew failure hphase).symm
  | expired => exact h
  | published s' out hpublishes => exact h.publishes hpublishes
  | told s' htold => exact h.told htold
  | unheard message htelling => exact hanswered.elim

end

end EvalSound

/-- **What a scan comes to does not depend on the order of the answers.** Every run that is answered as a site
answers it comes to what the site is evaluated to, where it comes to an evaluation, and throws only where that
does. -/
theorem run_evaluates (L : ScanLib) (job : ScanRunJob) (now : Int) (target : Url) (appBaseUrl : String)
    (σ : ScanRequest → Except FetchFailure FetchArtifact) (actions : List ScanRunAction)
    (h : (scanRunMachine L job now target).Meets (AnsweredBy L σ) (.start L job target appBaseUrl) actions)
    {outcome : Except FetchFailure ScanEvaluation}
    (houtcome : ((scanRunMachine L job now target).run (.start L job target appBaseUrl) actions).stage.outcome =
      some outcome) : (∃ evaluation, outcome = .ok evaluation ∧ scanEval L job now target σ = .ok evaluation) ∨
      ∃ thrown failure, outcome = .error thrown ∧ scanEval L job now target σ = .error failure := by
  have hend := (scanRunMachine L job now target).run_induction_meeting
    (P := fun s => EvalSound L job now target σ s.stage) (fun hs hanswered hstep => hs.step hanswered hstep)
    (s := .start L job target appBaseUrl) rfl actions h
  revert hend houtcome
  generalize ((scanRunMachine L job now target).run (.start L job target appBaseUrl) actions).stage = stage
  have hfails {α : Type} {p : ScanPromise α} (hp : p.failure.map (Except.error (α := ScanEvaluation)) = some outcome) :
      (∃ thrown, outcome = .error thrown) ∧ ∃ failure, p.eval σ = .error failure := by
    obtain ⟨thrown, hthrown, rfl⟩ := Option.map_eq_some_iff.1 hp
    exact ⟨⟨thrown, rfl⟩, Promise.eval_of_failure hthrown⟩
  intro houtcome hend
  cases stage with
  | returned site evaluation => cases houtcome; exact .inl ⟨evaluation, rfl, hend⟩
  | threw failure =>
    cases houtcome
    obtain ⟨thrown, hthrown⟩ := hend
    exact .inr ⟨failure, thrown, rfl, hthrown⟩
  | tellsRobots site results => cases houtcome
  | tellsPages site artifacts results => cases houtcome
  | tellsRest site evaluation results => cases houtcome
  | fetchesRobots p =>
    obtain ⟨⟨thrown, hthrown⟩, failure, hfailure⟩ := hfails houtcome
    have hrobots : (job.robotsPromise L target).eval σ = .error failure := hend.symm.trans hfailure
    exact .inr ⟨thrown, failure, hthrown, by simp only [scanEval, knownSite, hrobots, Except.bind]⟩
  | fetchesPages site p =>
    obtain ⟨⟨thrown, hthrown⟩, failure, hfailure⟩ := hfails houtcome
    have hpages : (site.pagesPromise L).eval σ = .error failure := hend.2.symm.trans hfailure
    exact .inr ⟨thrown, failure, hthrown, by
      simp only [scanEval, hend.1, Except.bind, pagesEval, hpages, Except.map]⟩
  | fetchesRest site artifacts p =>
    obtain ⟨⟨thrown, hthrown⟩, failure, hfailure⟩ := hfails houtcome
    have hrest : (site.restPromise L artifacts).eval σ = .error failure := hend.2.2.symm.trans hfailure
    exact .inr ⟨thrown, failure, hthrown, by
      simp only [scanEval, hend.1, Except.bind, hend.2.1, restEval, hrest, Except.map]⟩

end Coinslot
