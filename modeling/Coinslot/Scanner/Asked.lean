import Coinslot.Scanner.Runner

/-!
# What a scan asks for

Every request of a scan is for one of its documents, and goes to a URL of the site: the target, a document of its
origin, or a URL that the robots file or a sitemap names (`ScanSite.Spanned`). The ones for pages and sitemaps
are made as far as the robots file allows; those for the documents a site describes itself by, as soon as it is
known. A part of a scan fails where one of its requests throws, and nowhere else (`Throws`).
-/

namespace Coinslot

open List

/-- Whether a request is for a document that is meant to be found. -/
def ScanSource.discovery : ScanSource → Bool
  | mcp => true
  | mcpCard => true
  | ucp => true
  | a2a => true
  | authorizationServer => true
  | protectedResource => true
  | _ => false

/-- Whether a request is one that a scan does without: not for the robots file, nor for the target. -/
def ScanSource.auxiliary : ScanSource → Bool
  | robots => false
  | base => false
  | markdown => false
  | chatgptProbe => false
  | claudeProbe => false
  | _ => true

/-- The URLs that a scan goes to besides those of the documents that are meant to be found. -/
inductive ScanSite.Spanned (L : ScanLib) (site : ScanSite) : Url → Prop where
  | target : Spanned L site site.target
  | sitemap : Spanned L site (discoveryUrl site.target "/sitemap.xml")
  | llms : Spanned L site (discoveryUrl site.target "/llms.txt")
  | named (value : String) (url : Url)
      (h : L.canonicalSameSiteUrl value site.target site.usedHttpFallback = some url) : Spanned L site url

/-- A request that is made once the robots file is known: to a URL, which is one the robots file allows, unless
the document is meant to be found. -/
structure ScanSite.Permits (L : ScanLib) (site : ScanSite) (request : ScanRequest) : Prop where
  known : request.source.discovery = true → site.robotsDecisionKnown L = true
  allowed : request.source.discovery = false →
    ∃ url, request.input = .url url ∧ site.Spanned L url ∧ site.robotsAllows L url = true

/-- A request throws that comes to an error, but for an abort and a budget that is spent, which are told of where
the URL is one that passes. -/
def Throws (L : ScanLib) (request : ScanRequest) (o : Except FetchFailure FetchArtifact) : Prop :=
  ∃ failure, o = .error failure ∧
    (failure = .aborted ∨ failure = .failed "request_budget_exhausted" →
      ∃ code, L.urls.canonicalizeTarget request.input.text = .error code)

variable {L : ScanLib} {site : ScanSite} {source : ScanSource} {input : FetchInput} {options : SafeFetchOptions}
  {Q : ScanRequest → Prop}

/-! ## One request -/

theorem everywhere_fetch (h : Q ⟨source, input, options⟩) : (L.fetch source input options).Everywhere Q := by
  refine ⟨h, fun o => ?_⟩
  cases o with
  | ok artifact => trivial
  | error failure =>
    dsimp only
    split
    · trivial
    · split
      · trivial
      · split
        · trivial
        · trivial

theorem strict_fetch : (L.fetch source input options).Strict (Throws L) := by
  intro o
  cases o with
  | ok artifact => exact ⟨fun ⟨_, h, _⟩ => (nomatch h), fun _ => trivial⟩
  | error failure =>
    cases hcanonical : L.urls.canonicalizeTarget input.text with
    | error code => exact ⟨fun _ => ⟨_, rfl⟩, fun h => (h ⟨failure, rfl, fun _ => ⟨code, hcanonical⟩⟩).elim⟩
    | ok canonical =>
      dsimp only
      have htold (h : failure = .aborted ∨ failure = .failed "request_budget_exhausted") :
          ¬ Throws L ⟨source, input, options⟩ (.error failure) := by
        rintro ⟨thrown, heq, hthrown⟩
        cases heq
        obtain ⟨code, hcode⟩ := hthrown h
        rw [hcanonical] at hcode
        cases hcode
      split
      · next haborted => exact ⟨fun h => absurd h (htold (.inl haborted)), fun _ => trivial⟩
      · next hgoing =>
        split
        · next hspent => exact ⟨fun h => absurd h (htold (.inr hspent)), fun _ => trivial⟩
        · next hleft =>
          refine ⟨fun _ => ⟨_, rfl⟩, fun h => (h ⟨failure, rfl, fun hor => ?_⟩).elim⟩
          rcases hor with haborted | hspent
          · exact absurd haborted hgoing
          · exact absurd hspent hleft

namespace ScanSite

variable {url : Url}

theorem everywhere_ifAllowed (hspanned : site.Spanned L url) (hsource : source.discovery = false)
    (hQ : ∀ r, r.source = source → site.Permits L r → Q r) :
    (site.fetchIfRobotsAllowed L source url options).Everywhere Q := by
  unfold fetchIfRobotsAllowed
  split
  · next hallowed =>
    refine everywhere_fetch (hQ _ rfl ⟨fun h => ?_, fun _ => ⟨url, rfl, hspanned, hallowed⟩⟩)
    rw [hsource] at h
    cases h
  · trivial

theorem strict_ifAllowed : (site.fetchIfRobotsAllowed L source url options).Strict (Throws L) := by
  unfold fetchIfRobotsAllowed
  split
  · exact strict_fetch
  · trivial

theorem everywhere_discovery {path : String} (hsource : source.discovery = true)
    (hQ : ∀ r, r.source = source → site.Permits L r → Q r) :
    (site.fetchExplicitDiscovery L source path).Everywhere Q := by
  unfold fetchExplicitDiscovery
  split
  · next hknown =>
    refine everywhere_fetch (hQ _ rfl ⟨fun _ => hknown, fun h => ?_⟩)
    rw [hsource] at h
    cases h
  · trivial

theorem strict_discovery {path : String} : (site.fetchExplicitDiscovery L source path).Strict (Throws L) := by
  unfold fetchExplicitDiscovery
  split
  · exact strict_fetch
  · trivial

/-! ## The parts of a scan -/

theorem permits_of_allows (hspanned : site.Spanned L url) (hallowed : site.robotsAllows L url = true)
    (hsource : source.discovery = false) : site.Permits L ⟨source, .url url, options⟩ :=
  ⟨fun h => absurd (hsource.symm.trans h) Bool.false_ne_true, fun _ => ⟨url, rfl, hspanned, hallowed⟩⟩

theorem everywhere_content
    (hQ : ∀ r, r.source ∈ [ScanSource.base, .markdown, .chatgptProbe, .claudeProbe] → site.Permits L r → Q r) :
    (site.contentPromise L).Everywhere Q := by
  unfold contentPromise
  split
  · next hallowed =>
    have hpermits (source : ScanSource) (hsource : source ∈ [ScanSource.base, .markdown, .chatgptProbe, .claudeProbe])
        (hdiscovery : source.discovery = false) (options : SafeFetchOptions) :
        (L.fetch source (.url site.target) options).Everywhere Q :=
      everywhere_fetch (hQ _ hsource (permits_of_allows .target hallowed hdiscovery))
    refine Promise.Everywhere.all fun p hp => ?_
    simp only [mem_cons, not_mem_nil, or_false] at hp
    rcases hp with rfl | rfl | rfl | rfl
    · exact hpermits .base (by decide) rfl _
    · exact hpermits .markdown (by decide) rfl _
    · exact hpermits .chatgptProbe (by decide) rfl _
    · exact hpermits .claudeProbe (by decide) rfl _
  · trivial

theorem strict_content : (site.contentPromise L).Strict (Throws L) := by
  unfold contentPromise
  split
  · refine Promise.Strict.all fun p hp => ?_
    simp only [mem_cons, not_mem_nil, or_false] at hp
    rcases hp with rfl | rfl | rfl | rfl <;> exact strict_fetch
  · trivial

theorem spanned_of_mem_sitemapTargets (h : url ∈ site.sitemapTargets L) : site.Spanned L url := by
  unfold sitemapTargets at h
  dsimp only at h
  split at h
  · rw [mem_singleton.1 h]
    exact .sitemap
  · obtain ⟨value, -, hvalue⟩ := mem_filterMap.1 (mem_of_mem_take h)
    exact .named value url hvalue

theorem spanned_of_mem_childSitemaps {seen : List String} {artifact : FetchArtifact}
    (h : url ∈ site.childSitemaps L seen artifact) : site.Spanned L url := by
  unfold childSitemaps at h
  split at h
  · cases h
  · dsimp only at h
    split at h
    · cases h
    · obtain ⟨value, -, hvalue⟩ := mem_filterMap.1 (mem_filter.1 h).1
      exact .named value url hvalue

theorem everywhere_walk (hQ : ∀ r, r.source = .sitemap → site.Permits L r → Q r) (left : Nat)
    {pending : List Url} (hpending : ∀ url ∈ pending, site.Spanned L url) (seen : List String)
    (artifacts : List FetchArtifact) : (site.sitemapWalk L left pending seen artifacts).Everywhere Q := by
  induction left generalizing pending seen artifacts with
  | zero => trivial
  | succ left ih =>
    simp only [sitemapWalk]
    split
    · trivial
    · next url rest hrest =>
      have hmem : ∀ other ∈ url :: rest, site.Spanned L other := fun other hother =>
        hpending other ((dropWhile_sublist _).subset (hrest ▸ hother))
      refine (everywhere_ifAllowed (hmem url (mem_cons_self ..)) rfl hQ).bind fun artifact => ih ?_ _ _
      intro other hother
      rcases mem_append.1 hother with hchild | hother
      · exact spanned_of_mem_childSitemaps hchild
      · exact hmem other (mem_cons_of_mem _ hother)

theorem strict_walk (left : Nat) (pending : List Url) (seen : List String) (artifacts : List FetchArtifact) :
    (site.sitemapWalk L left pending seen artifacts).Strict (Throws L) := by
  induction left generalizing pending seen artifacts with
  | zero => trivial
  | succ left ih =>
    simp only [sitemapWalk]
    split
    · trivial
    · exact strict_ifAllowed.bind fun artifact => ih _ _ _

theorem everywhere_sitemap (hQ : ∀ r, r.source = .sitemap → site.Permits L r → Q r) :
    (site.sitemapPromise L).Everywhere Q := by
  unfold sitemapPromise
  split
  · exact everywhere_walk hQ 3 (fun _ h => spanned_of_mem_sitemapTargets h) [] []
  · trivial

theorem everywhere_llms (hQ : ∀ r, r.source = .llms → site.Permits L r → Q r) :
    (site.llmsPromise L).Everywhere Q := by
  unfold llmsPromise
  split
  · exact everywhere_ifAllowed .llms rfl hQ
  · trivial

theorem everywhere_wellKnown (hQ : ∀ r, r.source ∈ [ScanSource.mcp, .mcpCard, .ucp, .a2a] → site.Permits L r → Q r) :
    (site.wellKnown L).Everywhere Q := by
  refine Promise.Everywhere.all fun p hp => ?_
  have hone (source : ScanSource) (hsource : source ∈ [ScanSource.mcp, .mcpCard, .ucp, .a2a])
      (hdiscovery : source.discovery = true) (path : String) :
      (site.fetchExplicitDiscovery L source path).Everywhere Q :=
    everywhere_discovery hdiscovery fun r hr => hQ r (hr ▸ hsource)
  rw [mem_append, mem_append] at hp
  rcases hp with (hp | hp) | hp
  · simp only [mem_cons, not_mem_nil, or_false] at hp
    rcases hp with rfl | rfl
    · exact hone .mcp (by decide) rfl _
    · exact hone .mcpCard (by decide) rfl _
  · split at hp
    · rw [mem_singleton.1 hp]
      exact hone .ucp (by decide) rfl _
    · cases hp
  · rw [mem_singleton.1 hp]
    exact hone .a2a (by decide) rfl _

theorem strict_pages : (site.pagesPromise L).Strict (Throws L) := by
  refine ⟨⟨strict_content, ?_, fun _ _ => trivial⟩, ⟨?_, ?_, fun _ _ => trivial⟩, fun _ _ => trivial⟩
  · unfold sitemapPromise
    split
    · exact strict_walk _ _ _ _
    · trivial
  · unfold llmsPromise
    split
    · exact strict_ifAllowed
    · trivial
  · refine Promise.Strict.all fun p hp => ?_
    rw [mem_append, mem_append] at hp
    rcases hp with (hp | hp) | hp
    · simp only [mem_cons, not_mem_nil, or_false] at hp
      rcases hp with rfl | rfl <;> exact strict_discovery
    · split at hp
      · rw [mem_singleton.1 hp]
        exact strict_discovery
      · cases hp
    · rw [mem_singleton.1 hp]
      exact strict_discovery

theorem everywhere_pages (hQ : ∀ r, r.source ≠ .robots → site.Permits L r → Q r) :
    (site.pagesPromise L).Everywhere Q := by
  have hsome {sources : List ScanSource} (hnot : ScanSource.robots ∉ sources) :
      ∀ r : ScanRequest, r.source ∈ sources → site.Permits L r → Q r := by
    intro r hr
    refine hQ r fun heq => hnot ?_
    rw [← heq]
    exact hr
  exact ⟨⟨everywhere_content (hsome (by decide)), everywhere_sitemap fun r hr => hQ r (by rw [hr]; decide),
    fun _ _ => trivial⟩, ⟨everywhere_llms fun r hr => hQ r (by rw [hr]; decide),
    everywhere_wellKnown (hsome (by decide)), fun _ _ => trivial⟩, fun _ _ => trivial⟩

theorem spanned_of_mem_unseen {urls : List Url} {seen : List String} (h : url ∈ unseenUrls seen urls) :
    url ∈ urls := by
  induction urls generalizing seen with
  | nil => cases h
  | cons first urls ih =>
    simp only [unseenUrls] at h
    split at h
    · exact mem_cons_of_mem _ (ih h)
    · rcases mem_cons.1 h with rfl | h
      · exact mem_cons_self ..
      · exact mem_cons_of_mem _ (ih h)

variable {sitemap : List FetchArtifact}

theorem spanned_of_mem_candidates (h : url ∈ site.productCandidates L sitemap) : site.Spanned L url := by
  have hnamed := (mem_filter.1 (spanned_of_mem_unseen (mem_of_mem_take h))).1
  obtain ⟨value, -, hvalue⟩ := mem_filterMap.1 hnamed
  exact .named value url hvalue

variable {artifacts : ScanArtifacts}

theorem everywhere_oauth
    (hQ : ∀ r, r.source ∈ [ScanSource.authorizationServer, .protectedResource] → site.Permits L r → Q r) :
    (site.oauthPromise L artifacts).Everywhere Q := by
  unfold oauthPromise
  split
  · refine Promise.Everywhere.all fun p hp => ?_
    simp only [mem_cons, not_mem_nil, or_false] at hp
    rcases hp with rfl | rfl
    · exact everywhere_discovery rfl fun r hr => hQ r (by rw [hr]; decide)
    · exact everywhere_discovery rfl fun r hr => hQ r (by rw [hr]; decide)
  · trivial

theorem everywhere_representative (hQ : ∀ r, r.source ∈ [ScanSource.head, .representative] → site.Permits L r → Q r) :
    (site.representativePromise L sitemap).Everywhere Q := by
  unfold representativePromise
  split
  · have hcandidate : ∀ url ∈ (site.productCandidates L sitemap).filter (site.robotsAllows L),
        site.Spanned L url ∧ site.robotsAllows L url = true := fun url hurl =>
      ⟨spanned_of_mem_candidates (mem_filter.1 hurl).1, (mem_filter.1 hurl).2⟩
    refine Promise.Everywhere.bind (Promise.Everywhere.all fun p hp => ?_) fun heads => ?_
    · obtain ⟨candidate, hmem, rfl⟩ := mem_map.1 hp
      obtain ⟨hspanned, hallowed⟩ := hcandidate candidate hmem
      exact everywhere_fetch (hQ _ (by simp) (permits_of_allows hspanned hallowed rfl))
    · split
      · trivial
      · next candidate hchosen =>
        obtain ⟨i, -, hi⟩ := Option.bind_eq_some_iff.1 hchosen
        obtain ⟨hspanned, hallowed⟩ := hcandidate candidate (mem_of_getElem? hi)
        exact (everywhere_fetch (hQ _ (by simp) (permits_of_allows hspanned hallowed rfl))).bind fun _ => trivial
  · trivial

theorem everywhere_rest (hQ : ∀ r, r.source ≠ .robots → site.Permits L r → Q r) :
    (site.restPromise L artifacts).Everywhere Q := by
  have hsome {sources : List ScanSource} (hnot : ScanSource.robots ∉ sources) :
      ∀ r : ScanRequest, r.source ∈ sources → site.Permits L r → Q r := by
    intro r hr
    refine hQ r fun heq => hnot ?_
    rw [← heq]
    exact hr
  exact ⟨everywhere_oauth (hsome (by decide)), everywhere_representative (hsome (by decide)), fun _ _ => trivial⟩

theorem strict_rest : (site.restPromise L artifacts).Strict (Throws L) := by
  refine ⟨?_, ?_, fun _ _ => trivial⟩
  · unfold oauthPromise
    split
    · refine Promise.Strict.all fun p hp => ?_
      simp only [mem_cons, not_mem_nil, or_false] at hp
      rcases hp with rfl | rfl <;> exact strict_discovery
    · trivial
  · unfold representativePromise
    split
    · refine Promise.Strict.bind (Promise.Strict.all fun p hp => ?_) fun heads => ?_
      · obtain ⟨candidate, -, rfl⟩ := mem_map.1 hp
        exact strict_fetch
      · split
        · trivial
        · exact strict_fetch.bind fun _ => trivial
    · trivial

end ScanSite

end Coinslot
