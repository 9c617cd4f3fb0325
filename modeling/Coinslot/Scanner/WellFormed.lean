import Coinslot.Scanner.SiteChecks

/-!
# The checks of a scan are well formed

Whatever a site answers, each check of a scan earns no more than its weight, and passes exactly where it earned all
of it (`SiteReader.wellFormed`). How a check's status goes with what it earned is one notion for all
(`ResultInput.Fair`), with a lemma for each check.
-/

namespace Coinslot

open JsonTree

/-! ## What a check earns -/

/-- What goes with a status, of a weight. -/
def CheckStatus.Earns (weight : Nat) (status : CheckStatus) (earned : Nat) : Prop :=
  match status with
  | .pass => earned = weight
  | .partly => earned < weight
  | .fail | .unavailable | .notApplicable => earned = 0

/-- What a check of a weight earns goes with its status, and it applies unless it says that it does not. -/
def ResultInput.Fair (weight : Nat) (input : ResultInput) : Prop :=
  input.applicable = decide (input.status ≠ .notApplicable) ∧ input.status.Earns weight input.earnedWeight

section

variable {weight most : Nat} {b c : Prop} [Decidable b] [Decidable c]

theorem earns_unless (h : most < weight) :
    CheckStatus.Earns weight (if b then .partly else .pass) (if b then most else weight) := by
  split
  · exact h
  · rfl

theorem earns_if (h : most < weight) :
    CheckStatus.Earns weight (if b then .pass else .partly) (if b then weight else most) := by
  split
  · rfl
  · exact h

theorem earns_if_if (h : most < weight) :
    CheckStatus.Earns weight (if b then .pass else if c then .partly else .fail)
      (if b then weight else if c then most else 0) := by
  split
  · rfl
  · split
    · exact h
    · rfl

end

namespace SiteReader

variable {ν : Type} (R : SiteReader ν)

theorem robotsCheck_fair (fetch : FetchArtifact) : (R.robotsCheck fetch).Fair 5 := by
  unfold robotsCheck
  dsimp only
  split
  · exact ⟨rfl, rfl⟩
  · split
    · exact ⟨rfl, rfl⟩
    · split
      · exact ⟨rfl, rfl⟩
      · exact ⟨rfl, earns_unless (by decide)⟩

theorem explicitAiPolicies_length (parsed : RobotsParseResult) : (explicitAiPolicies parsed).length ≤ 4 :=
  (List.length_filter_le _ _).trans (by rw [List.length_map]; decide)

theorem aiPolicyCheck_fair (fetch : FetchArtifact) : (R.aiPolicyCheck fetch).Fair 8 := by
  unfold aiPolicyCheck
  dsimp only
  split
  · exact ⟨rfl, rfl⟩
  · split
    · exact ⟨rfl, rfl⟩
    · have hfew := explicitAiPolicies_length (parseRobots R.lowerCase fetch.body)
      generalize explicitAiPolicies (parseRobots R.lowerCase fetch.body) = policies at hfew ⊢
      generalize policies.length = count at hfew ⊢
      refine ⟨rfl, ?_⟩
      split
      · next h => rw [h]; rfl
      · split
        · show count * 2 < 8
          omega
        · show count * 2 = 0
          omega

theorem contentSignalCheck_fair (fetch : FetchArtifact) : (R.contentSignalCheck fetch).Fair 4 := by
  unfold contentSignalCheck
  dsimp only
  split
  · exact ⟨rfl, rfl⟩
  · split
    · exact ⟨rfl, rfl⟩
    · split
      · exact ⟨rfl, show 2 < 4 by decide⟩
      · exact ⟨rfl, rfl⟩

theorem jsonLdPresenceCheck_fair (base representative : Option FetchArtifact) :
    (R.jsonLdPresenceCheck base representative).Fair 10 := by
  unfold jsonLdPresenceCheck
  dsimp only
  split
  · exact ⟨rfl, rfl⟩
  · refine ⟨rfl, ?_⟩
    split
    · rfl
    · split
      · show 4 < 10
        decide
      · rfl

theorem verticalPoints_lt (required requiredFound recommended recommendedFound : Nat) :
    verticalPoints required requiredFound recommended recommendedFound < 12 := by
  unfold verticalPoints
  omega

theorem verticalJsonLdCheck_fair (segment : Segment) (base representative : Option FetchArtifact) :
    (R.verticalJsonLdCheck segment base representative).Fair 12 := by
  unfold verticalJsonLdCheck
  dsimp only
  split
  · exact ⟨rfl, rfl⟩
  · split
    · exact ⟨rfl, rfl⟩
    · split
      · exact ⟨rfl, rfl⟩
      · exact ⟨rfl, earns_if (verticalPoints_lt ..)⟩

theorem markdownVariantCheck_fair (markdown base : Option FetchArtifact) :
    (R.markdownVariantCheck markdown base).Fair 8 := by
  unfold markdownVariantCheck
  split
  · exact ⟨rfl, rfl⟩
  · dsimp only
    split
    · exact ⟨rfl, rfl⟩
    · split
      · refine ⟨rfl, ?_⟩
        show (if _ then 2 else 6) < 8
        split <;> decide
      · exact ⟨rfl, rfl⟩

theorem llmsFileCheck_fair (artifact : Option FetchArtifact) : (R.llmsFileCheck artifact).Fair 2 := by
  unfold llmsFileCheck
  split
  · exact ⟨rfl, rfl⟩
  · split
    · exact ⟨rfl, rfl⟩
    · exact ⟨rfl, earns_if (by decide)⟩

theorem mcpCardCheck_fair (mcp : List FetchArtifact) : (R.mcpCardCheck mcp).Fair 6 := by
  unfold mcpCardCheck
  dsimp only
  split
  · split
    · exact ⟨rfl, rfl⟩
    · exact ⟨rfl, rfl⟩
  · refine ⟨rfl, earns_if ?_⟩
    split <;> decide

theorem ucpProfileCheck_fair (segment : Segment) (ucp : Option FetchArtifact) :
    (R.ucpProfileCheck segment ucp).Fair 6 := by
  unfold ucpProfileCheck
  split
  · exact ⟨rfl, rfl⟩
  · split
    · split
      · exact ⟨rfl, rfl⟩
      · exact ⟨rfl, rfl⟩
    · refine ⟨rfl, earns_if ?_⟩
      omega

theorem oauthMetadataCheck_fair (mcp : List FetchArtifact) (ucp base : Option FetchArtifact)
    (oauth : List FetchArtifact) : (R.oauthMetadataCheck mcp ucp base oauth).Fair 4 := by
  unfold oauthMetadataCheck
  split
  · dsimp only
    split
    · split
      · exact ⟨rfl, rfl⟩
      · exact ⟨rfl, rfl⟩
    · refine ⟨rfl, earns_if ?_⟩
      split <;> decide
  · exact ⟨rfl, rfl⟩

theorem rawHtmlCheck_fair (segment : Segment) (base representative : Option FetchArtifact) :
    (R.rawHtmlCheck segment base representative).Fair 10 := by
  unfold rawHtmlCheck
  dsimp only
  split
  · exact ⟨rfl, rfl⟩
  · exact ⟨rfl, earns_if_if (by decide)⟩

theorem agentProbesCheck_fair (base chatgpt claude : Option FetchArtifact) :
    (R.agentProbesCheck base chatgpt claude).Fair 8 := by
  unfold agentProbesCheck
  split
  · exact ⟨rfl, rfl⟩
  · split
    · exact ⟨rfl, earns_if_if (by decide)⟩
    · exact ⟨rfl, rfl⟩

theorem pageBudgetCheck_fair (base : Option FetchArtifact) : (pageBudgetCheck base).Fair 4 := by
  unfold pageBudgetCheck
  split
  · exact ⟨rfl, rfl⟩
  · split
    · exact ⟨rfl, rfl⟩
    · exact ⟨rfl, earns_if_if (by decide)⟩

theorem storeFeedCheck_fair (segment : Segment) (base representative : Option FetchArtifact) :
    (R.storeFeedCheck segment base representative).Fair 4 := by
  unfold storeFeedCheck
  split
  · exact ⟨rfl, rfl⟩
  · dsimp only
    split
    · exact ⟨rfl, rfl⟩
    · split
      · exact ⟨rfl, rfl⟩
      · split
        · refine ⟨rfl, ?_⟩
          show (if _ then 3 else 1) < 4
          split <;> decide
        · exact ⟨rfl, rfl⟩

theorem agentCardCheck_fair (noncanonicalA2aHint : Bool) (a2a : Option FetchArtifact) :
    (R.agentCardCheck noncanonicalA2aHint a2a).Fair 1 := by
  unfold agentCardCheck
  split
  · split
    · exact ⟨rfl, rfl⟩
    · split
      · exact ⟨rfl, show 0 < 1 by decide⟩
      · exact ⟨rfl, rfl⟩
  · exact ⟨rfl, earns_if (by decide)⟩

theorem localesCheck_fair (base : Option FetchArtifact) : (R.localesCheck base).Fair 2 := by
  unfold localesCheck
  split
  · exact ⟨rfl, rfl⟩
  · dsimp only
    split
    · exact ⟨rfl, rfl⟩
    · exact ⟨rfl, earns_if (by decide)⟩

end SiteReader

theorem CheckSuite.sitemapCheck_fair (K : CheckSuite) (sitemap : List FetchArtifact) (now : Int) :
    (K.sitemapCheck sitemap now).Fair 6 := by
  unfold sitemapCheck
  dsimp only
  split
  · split
    · exact ⟨rfl, rfl⟩
    · exact ⟨rfl, rfl⟩
  · split
    · exact ⟨rfl, rfl⟩
    · refine ⟨?_, earns_unless ?_⟩
      · split <;> rfl
      · split <;> decide

/-! ## The checks of a scan -/

/-- A result that earns no more than its weight, and passes where it earns all of it. The check that only observes
has no weight to earn. -/
structure CheckResult.WellFormed (check : CheckResult) : Prop where
  earned_le : check.earnedWeight ≤ check.applicableWeight
  applicable_le : check.applicableWeight ≤ check.nominalWeight
  unearned : check.status ≠ .pass → check.status ≠ .partly → check.earnedWeight = 0
  inapplicable : check.status = .notApplicable → check.applicableWeight = 0
  pass_iff : check.id ≠ 16 →
    (check.status = .pass ↔ check.status.assessed = true ∧ check.earnedWeight = check.nominalWeight)

/-- What a check of some weight says is well formed. -/
theorem wellFormed_result {id weight : Nat} (hweight : checkWeights.getD (id - 1) 0 = weight) (hpos : 0 < weight)
    {input : ResultInput} (h : input.Fair weight) : (result id input).WellFormed := by
  obtain ⟨happlicable, hearns⟩ := h
  have hnominal : (result id input).nominalWeight = weight := hweight
  have happlies : (result id input).applicableWeight = if input.status ≠ .notApplicable then weight else 0 := by
    show (if input.applicable = true then checkWeights.getD (id - 1) 0 else 0) = _
    rw [happlicable, hweight]
    simp only [decide_eq_true_eq]
  have hstatus : (result id input).status = input.status := rfl
  have hearned : (result id input).earnedWeight = input.earnedWeight := rfl
  cases hcase : input.status with
  | pass =>
    have hall : input.earnedWeight = weight := by rwa [hcase] at hearns
    rw [if_pos (by rw [hcase]; decide)] at happlies
    constructor
    · rw [hearned, happlies, hall]
    · rw [happlies, hnominal]
    · exact fun h => absurd (hstatus.trans hcase) h
    · exact fun h => absurd (hcase.symm.trans h) (by decide)
    · exact fun _ => iff_of_true hcase ⟨by rw [hstatus, hcase]; rfl, by rw [hearned, hnominal, hall]⟩
  | partly =>
    have hpart : input.earnedWeight < weight := by rwa [hcase] at hearns
    rw [if_pos (by rw [hcase]; decide)] at happlies
    constructor
    · rw [hearned, happlies]
      exact hpart.le
    · rw [happlies, hnominal]
    · exact fun _ h => absurd (hstatus.trans hcase) h
    · exact fun h => absurd (hcase.symm.trans h) (by decide)
    · refine fun _ => iff_of_false (fun h => absurd (hcase.symm.trans h) (by decide)) fun h => ?_
      rw [hearned, hnominal] at h
      exact absurd h.2 hpart.ne
  | fail =>
    have hnone : input.earnedWeight = 0 := by rwa [hcase] at hearns
    rw [if_pos (by rw [hcase]; decide)] at happlies
    constructor
    · rw [hearned, hnone]
      exact Nat.zero_le _
    · rw [happlies, hnominal]
    · exact fun _ _ => hearned.trans hnone
    · exact fun h => absurd (hcase.symm.trans h) (by decide)
    · refine fun _ => iff_of_false (fun h => absurd (hcase.symm.trans h) (by decide)) fun h => ?_
      rw [hearned, hnominal, hnone] at h
      exact absurd h.2 hpos.ne
  | unavailable =>
    have hnone : input.earnedWeight = 0 := by rwa [hcase] at hearns
    rw [if_pos (by rw [hcase]; decide)] at happlies
    constructor
    · rw [hearned, hnone]
      exact Nat.zero_le _
    · rw [happlies, hnominal]
    · exact fun _ _ => hearned.trans hnone
    · exact fun h => absurd (hcase.symm.trans h) (by decide)
    · refine fun _ => iff_of_false (fun h => absurd (hcase.symm.trans h) (by decide)) fun h => ?_
      rw [hstatus, hcase] at h
      exact Bool.false_ne_true h.1
  | notApplicable =>
    have hnone : input.earnedWeight = 0 := by rwa [hcase] at hearns
    rw [if_neg (fun h => h hcase)] at happlies
    constructor
    · rw [hearned, hnone]
      exact Nat.zero_le _
    · rw [happlies]
      exact Nat.zero_le _
    · exact fun _ _ => hearned.trans hnone
    · exact fun _ => happlies
    · refine fun _ => iff_of_false (fun h => absurd (hcase.symm.trans h) (by decide)) fun h => ?_
      rw [hstatus, hcase] at h
      exact Bool.false_ne_true h.1

theorem wellFormed_platform : (result 16 platformCheck).WellFormed where
  earned_le := le_rfl
  applicable_le := le_rfl
  unearned h _ := absurd rfl h
  inapplicable h := absurd h (by decide)
  pass_iff h := absurd rfl h

/-- **Every check of a scan is well formed.** -/
theorem SiteReader.wellFormed {ν : Type} (R : SiteReader ν) (noncanonicalA2aHint : Bool) (artifacts : ScanArtifacts)
    (now : Int) : ∀ check ∈ (R.suite noncanonicalA2aHint).evaluateChecks artifacts now, check.WellFormed := by
  unfold CheckSuite.evaluateChecks
  simp only [List.forall_mem_cons]
  exact ⟨wellFormed_result rfl (by decide) (R.robotsCheck_fair _),
    wellFormed_result rfl (by decide) (R.aiPolicyCheck_fair _),
    wellFormed_result rfl (by decide) (R.contentSignalCheck_fair _),
    wellFormed_result rfl (by decide) (CheckSuite.sitemapCheck_fair _ _ _),
    wellFormed_result rfl (by decide) (R.jsonLdPresenceCheck_fair _ _),
    wellFormed_result rfl (by decide) (R.verticalJsonLdCheck_fair _ _ _),
    wellFormed_result rfl (by decide) (R.markdownVariantCheck_fair _ _),
    wellFormed_result rfl (by decide) (R.llmsFileCheck_fair _),
    wellFormed_result rfl (by decide) (R.mcpCardCheck_fair _),
    wellFormed_result rfl (by decide) (R.ucpProfileCheck_fair _ _),
    wellFormed_result rfl (by decide) (R.oauthMetadataCheck_fair _ _ _ _),
    wellFormed_result rfl (by decide) (R.rawHtmlCheck_fair _ _ _),
    wellFormed_result rfl (by decide) (R.agentProbesCheck_fair _ _ _),
    wellFormed_result rfl (by decide) (pageBudgetCheck_fair _),
    wellFormed_result rfl (by decide) (R.storeFeedCheck_fair _ _ _),
    wellFormed_platform,
    wellFormed_result rfl (by decide) (R.agentCardCheck_fair _ _),
    wellFormed_result rfl (by decide) (R.localesCheck_fair _), fun _ hnone => absurd hnone List.not_mem_nil⟩

end Coinslot
