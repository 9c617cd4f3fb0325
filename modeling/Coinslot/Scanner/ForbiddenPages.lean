import Coinslot.Scanner.Platforms

/-!
# Pages that robots files forbid

Where its robots file does not let a scan look at its target, the checks of the page see nothing of it
(`SiteReader.effective`). What is evaluated depends on the page all the same: whether a site declares that it asks
for authorization is also read of the header of the page, and the fingerprint is taken of nothing else. So two scans
that differ only in the pages come to the same just where the pages declare and look alike
(`forbidden_evaluations_iff`).
-/

namespace Coinslot

namespace SiteReader

variable {ν : Type} (R : SiteReader ν)

section

variable (artifacts : ScanArtifacts)

/-- Whether the documents of a site, apart from its page, declare that it asks for authorization. -/
def declaredElsewhere : Bool := R.declaresAuth artifacts.mcp artifacts.ucp none

def declaredByPage : Bool := artifacts.base.any asksForAuth

theorem declaresAuth_eq : R.declaresAuth artifacts.mcp artifacts.ucp artifacts.base =
      (R.declaredElsewhere artifacts || declaredByPage artifacts) := by
  rw [declaredElsewhere, declaredByPage, declaresAuth, declaresAuth]
  cases artifacts.base with
  | none => simp
  | some base => simp [Bool.or_assoc, Bool.or_comm, Bool.or_left_comm]

end

theorem oauth_notApplicable_iff (mcp : List FetchArtifact) (ucp base : Option FetchArtifact)
    (oauth : List FetchArtifact) :
    (R.oauthMetadataCheck mcp ucp base oauth).status = .notApplicable ↔ R.declaresAuth mcp ucp base = false := by
  rw [oauthMetadataCheck]
  cases R.declaresAuth mcp ucp base with
  | false => simp [saying]
  | true =>
    rw [if_pos rfl]
    constructor
    · intro h
      dsimp only at h
      split at h
      · split at h <;> cases h
      · dsimp only [saying] at h
        split at h <;> cases h
    · intro h
      cases h

theorem oauth_result_iff {mcp oauth : List FetchArtifact} {ucp base other : Option FetchArtifact} :
    result 11 (R.oauthMetadataCheck mcp ucp base oauth) = result 11 (R.oauthMetadataCheck mcp ucp other oauth) ↔
      R.declaresAuth mcp ucp base = R.declaresAuth mcp ucp other := by
  constructor
  · intro h
    have hstatus : (R.oauthMetadataCheck mcp ucp base oauth).status =
        (R.oauthMetadataCheck mcp ucp other oauth).status := congrArg CheckResult.status h
    have hnot := R.oauth_notApplicable_iff mcp ucp base oauth
    rw [hstatus, R.oauth_notApplicable_iff] at hnot
    exact Bool.eq_iff_iff.2 (by simpa using not_congr hnot.symm)
  · intro h
    rw [oauthMetadataCheck, oauthMetadataCheck, h]

variable {x y : ScanArtifacts}

theorem effective_forbidden (hforbidden : R.targetContentAllowed x.robots x.canonicalTargetUrl = false) :
    R.effective x = x.withoutContent := by
  rw [effective, hforbidden]
  rfl

theorem forbidden_checks_iff (hsame : x.withoutContent = y.withoutContent)
    (hforbidden : R.targetContentAllowed x.robots x.canonicalTargetUrl = false) (noncanonicalA2aHint : Bool)
    (now : Int) :
    (R.suite noncanonicalA2aHint).evaluateChecks x now = (R.suite noncanonicalA2aHint).evaluateChecks y now ↔
      (R.declaredElsewhere x = true ∨ declaredByPage x = declaredByPage y) := by
  have hx := R.effective_forbidden hforbidden
  have hfields := hsame
  simp only [ScanArtifacts.withoutContent, ScanArtifacts.mk.injEq, true_and] at hfields
  obtain ⟨hsegment, hurl, hrobots, hsitemap, hllms, hmcp, hucp, hoauth, ha2a⟩ := hfields
  have hy := R.effective_forbidden (x := y) (by rw [← hrobots, ← hurl, hforbidden])
  have helsewhere : R.declaredElsewhere x = R.declaredElsewhere y := by
    rw [declaredElsewhere, declaredElsewhere, hmcp, hucp]
  have hdeclared := R.declaresAuth_eq x
  rw [hmcp, hucp] at hdeclared
  rw [R.evaluateChecks_eq, R.evaluateChecks_eq, hx, hy, hsame, hsegment, hrobots, hsitemap, hllms, hmcp, hucp,
    hoauth, ha2a]
  simp only [List.cons.injEq, true_and, and_true]
  rw [R.oauth_result_iff, hdeclared, R.declaresAuth_eq, helsewhere]
  cases R.declaredElsewhere y <;> simp

/-- Two scans of one site, whose robots file does not let its target be looked at, come to the same just where the
site declares without its page that it asks for authorization, or both pages do or neither, and the pages look
alike. -/
theorem forbidden_evaluations_iff (hsame : x.withoutContent = y.withoutContent)
    (hforbidden : R.targetContentAllowed x.robots x.canonicalTargetUrl = false) (noncanonicalA2aHint : Bool)
    (now : Int) :
    R.evaluateScan noncanonicalA2aHint x now = R.evaluateScan noncanonicalA2aHint y now ↔
      (R.declaredElsewhere x = true ∨ declaredByPage x = declaredByPage y) ∧
        LooksAlike (corpus x.base) (corpus y.base) := by
  rw [← R.forbidden_checks_iff hsame hforbidden noncanonicalA2aHint now, ← sameFingerprint_iff]
  have hsegment : x.segment = y.segment := congrArg (fun artifacts => artifacts.segment) hsame
  constructor
  · intro h
    exact ⟨congrArg SiteEvaluation.checks h, congrArg SiteEvaluation.fingerprint h⟩
  · intro h
    rw [evaluateScan, evaluateScan, h.1, h.2, hsegment]

end SiteReader

/-- A reader of sites whose pages have nothing to read. -/
def plainReader : SiteReader Nat where
  lowerCase := lowered
  pathname _ := "/"
  parseSafeJson _ := none
  parseJsonLd _ := { nodes := [], scriptCount := 0, invalidCount := 0 }
  parseSitemap _ := { valid := false, isIndex := false, urls := [], lastmods := [] }
  dateParse _ := none
  visibleText body := body
  htmlSignals body :=
    { textLength := body.length, hasH1 := false, hasTitle := false, hasPrice := false, productLinkCount := 0,
      hreflangs := [] }
  isChallenge _ _ := false
  comparableBodies body other := body = other
  stringify _ := ""
  isZero n := n = 0
  hasHeading _ := false
  hasLink _ := false
  hasFeedLink _ := false
  marksProducts _ := false

/-- An answer with headers. -/
def answeredWith (url : String) (headers : List (String × String)) (body : String) : FetchArtifact :=
  { url := url
    status := 200
    headers := headers
    body := body
    decodedBytes := 80
    truncated := false
    durationMs := 20
    ttfbMs := 10
    errorCode := none }

/-- A site with nothing but a page, which its robots file forbids. -/
def forbiddenSite (base : Option FetchArtifact) : ScanArtifacts :=
  { segment := .owner
    canonicalTargetUrl := "https://example.com/"
    robots := answeredWith "https://example.com/robots.txt" [] "User-agent: *\nDisallow: /"
    base := base
    representative := none
    markdown := none
    chatgptProbe := none
    claudeProbe := none
    sitemap := []
    llms := none
    mcp := []
    ucp := none
    oauth := []
    a2a := none }

def plainPage (body : String) : FetchArtifact := answeredWith "https://example.com/" [] body

theorem plain_pages_alike :
    plainReader.evaluateScan false (forbiddenSite (some (plainPage "one"))) 0 =
      plainReader.evaluateScan false (forbiddenSite (some (plainPage "two"))) 0 := by
  have hsame : (forbiddenSite (some (plainPage "one"))).withoutContent =
    (forbiddenSite (some (plainPage "two"))).withoutContent := rfl
  refine (plainReader.forbidden_evaluations_iff hsame (by decide +kernel) false 0).2 ⟨by decide +kernel, ?_⟩
  have hone : leadingPlatform (corpus (some (plainPage "one"))) = none :=
    Option.isNone_iff_eq_none.1 (by decide +kernel)
  have htwo : leadingPlatform (corpus (some (plainPage "two"))) = none :=
    Option.isNone_iff_eq_none.1 (by decide +kernel)
  refine ⟨hone.trans htwo.symm, fun detector hmem => ?_, by decide +kernel⟩
  cases Option.mem_def.1 hmem ▸ hone

def tokenPage : FetchArtifact :=
  answeredWith "https://example.com/" [("www-authenticate", "Bearer")] "<script src=\"https://cdn.shopify.com/a.js\">"

/-- What a forbidden page asks for and what it is built with are told all the same. -/
theorem forbidden_page_told :
    (forbiddenSite (some tokenPage)).withoutContent = (forbiddenSite none).withoutContent ∧
      plainReader.targetContentAllowed (forbiddenSite (some tokenPage)).robots "https://example.com/" = false ∧
      (plainReader.evaluateScan false (forbiddenSite (some tokenPage)) 0).checks ≠
        (plainReader.evaluateScan false (forbiddenSite none) 0).checks ∧
      (plainReader.evaluateScan false (forbiddenSite (some tokenPage)) 0).fingerprint ≠
        (plainReader.evaluateScan false (forbiddenSite none) 0).fingerprint := by
  have hforbidden : plainReader.targetContentAllowed (forbiddenSite (some tokenPage)).robots "https://example.com/" =
    false := by decide +kernel
  have hsame : (forbiddenSite (some tokenPage)).withoutContent = (forbiddenSite none).withoutContent := rfl
  refine ⟨hsame, hforbidden, fun h => ?_, fun h => ?_⟩
  · exact absurd ((plainReader.forbidden_checks_iff hsame hforbidden false 0).1 h) (by decide +kernel)
  · have hleads := congrArg Option.isNone (sameFingerprint_iff.1 h).leads
    exact absurd hleads (by decide +kernel)

end Coinslot
