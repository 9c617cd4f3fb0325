import Coinslot.Scanner.SiteChecks

/-!
# What a scan tells of a site's texts

The results of the checks are kept as JSON, and the store takes JSON only where it takes the texts in it. Most of the
texts of a result are those the check is written with. Some are the site's own: the types of its structured data, the
type of its answer in Markdown, and the codes of what went wrong (`SiteReader.quoted`). The texts of a scan are taken
just where these are (`SiteReader.quoted_taken`).
-/

namespace Coinslot

open List Option Dict ResultInput

/-! ## Texts -/

/-- The texts in a value that is brought forward. -/
def EvidenceValue.quotes : EvidenceValue → List String
  | .text value => [value]
  | .texts values => values
  | _ => []

/-- The texts of a result. -/
def CheckResult.texts (check : CheckResult) : List String :=
  check.summaryCode :: check.userImpactCode :: (check.fixCode.toList ++ check.errorCode.toList ++
    check.evidence.flatMap fun entry => entry.1 :: entry.2.quotes)

/-- Every text that a check says is taken. -/
def ResultInput.Taken (takes : String → Prop) (input : ResultInput) : Prop :=
  takes input.summaryCode ∧ takes input.userImpactCode ∧ (∀ code, input.fixCode = some code → takes code) ∧
    (∀ code, input.errorCode = some code → takes code) ∧
    ∀ entry ∈ input.evidence, takes entry.1 ∧ ∀ text ∈ entry.2.quotes, takes text

theorem literal_clean (text : List Char) (h : text.all (·.toNat != 0) = true) :
    '\x00' ∉ (String.ofList text).toList := by
  rw [String.toList_ofList]
  exact fun hmem => by simpa using List.all_eq_true.1 h _ hmem

theorem append_clean {text other : String} (h : '\x00' ∉ text.toList) (hother : '\x00' ∉ other.toList) :
    '\x00' ∉ (text ++ other).toList := by
  rw [String.toList_append, mem_append, not_or]
  exact ⟨h, hother⟩

section

variable {takes : String → Prop} (htakes : ∀ text : String, '\x00' ∉ text.toList → takes text)

include htakes

theorem taken_filter (code : Option String) :
    (∀ text, code.filter (· ≠ "") = some text → takes text) ↔ ∀ text, code = some text → takes text := by
  refine ⟨fun h text htext => ?_, fun h text htext => h text (filter_eq_some_iff.1 htext).1⟩
  by_cases hnone : text = ""
  · exact hnone ▸ htakes "" (literal_clean [] rfl)
  · exact h text (filter_eq_some_iff.2 ⟨htext, by simpa using hnone⟩)

theorem taken_result (id : Nat) (input : ResultInput) :
    (∀ text ∈ (result id input).texts, takes text) ↔ input.Taken takes := by
  simp only [CheckResult.texts, forall_mem_cons, forall_mem_append, mem_toList, forall_mem_flatMap, Taken, and_assoc]
  exact and_congr_right' (and_congr_right' (and_congr (taken_filter htakes _)
    (and_congr_left' (taken_filter htakes _))))

theorem errorCode_of_accessible {artifact : FetchArtifact} (h : ¬artifact.inaccessible = true) :
    ∀ code, artifact.errorCode = some code → takes code := by
  refine (taken_filter htakes artifact.errorCode).1 fun code hcode => absurd ?_ h
  obtain ⟨hsome, hcode⟩ := filter_eq_some_iff.1 hcode
  unfold FetchArtifact.inaccessible
  rw [hsome, any_some, hcode]
  rfl

end

/-! ## The robots file -/

theorem explicitAiPolicies_clean (parsed : RobotsParseResult) : ∀ policy ∈ explicitAiPolicies parsed,
      '\x00' ∉ policy.1.toList ∧ ∀ agent ∈ policy.2, '\x00' ∉ agent.toList := by
  have hall : ∀ provider ∈ aiProviders,
      '\x00' ∉ provider.1.toList ∧ ∀ agent ∈ provider.2, '\x00' ∉ agent.toList := by
    simp only [aiProviders, forall_mem_cons, not_mem_nil, false_implies, implies_true, and_true]
    and_intros <;> exact literal_clean _ rfl
  intro policy hpolicy
  obtain ⟨provider, hprovider, rfl⟩ := List.mem_map.1 (mem_of_mem_filter hpolicy)
  obtain ⟨hname, hagents⟩ := hall provider hprovider
  exact ⟨hname, fun agent hagent => hagents agent (mem_of_mem_filter hagent)⟩

/-- A use of the contents that is known, with a setting that is. -/
def KnownSignal (signal : String × String) : Prop :=
  signal.1 ∈ contentSignalKeys ∧ (signal.2 = "yes" ∨ signal.2 = "no")

variable {signal : String × String} {ν : Type}

theorem known_clean (h : KnownSignal signal) :
    '\x00' ∉ signal.1.toList ∧ '\x00' ∉ (signal.1 ++ ":" ++ signal.2).toList := by
  obtain ⟨key, setting⟩ := signal
  obtain ⟨hkey, hsetting⟩ := h
  have hkeys : ∀ key ∈ contentSignalKeys, '\x00' ∉ key.toList := by
    simp only [contentSignalKeys, forall_mem_cons, not_mem_nil, false_implies, implies_true, and_true]
    and_intros <;> exact literal_clean _ rfl
  refine ⟨hkeys key hkey, append_clean (append_clean (hkeys key hkey) (literal_clean _ rfl)) ?_⟩
  rcases hsetting with rfl | rfl <;> exact literal_clean _ rfl

/-- What is read so far of the uses of the contents is known. -/
def RobotsReading.Known (r : RobotsReading) : Prop :=
  ∀ signals, r.result.contentSignal = some signals → ∀ key setting, signals.get key = some setting →
    KnownSignal (key, setting)

theorem contentSignalOf_known {lowerCase : List Char → List Char} {token : List Char}
    (h : contentSignalOf lowerCase token = some signal) : KnownSignal signal := by
  unfold contentSignalOf at h
  split at h
  · dsimp only at h
    split at h
    · next hknown =>
      cases h
      exact hknown
    · cases h
  · cases h

theorem known_foldl (parsed : List (String × String)) (hparsed : ∀ signal ∈ parsed, KnownSignal signal)
    (signals : Dict String String) (h : ∀ key setting, signals.get key = some setting → KnownSignal (key, setting)) :
    ∀ key setting, (parsed.foldl (fun signal entry => signal.set entry.1 entry.2) signals).get key = some setting →
      KnownSignal (key, setting) := by
  induction parsed generalizing signals with
  | nil => exact h
  | cons entry parsed ih =>
    refine ih (fun signal hsignal => hparsed signal (mem_cons_of_mem _ hsignal)) _ fun key setting hget => ?_
    rcases of_get_set hget with ⟨heq, rfl⟩ | ⟨-, hget⟩
    · rw [heq]
      exact hparsed entry mem_cons_self
    · exact h key setting hget

namespace RobotsReading

variable {r : RobotsReading} (lowerCase : List Char → List Char)

theorem known_signals (h : r.Known) (value : List Char) : (r.signals lowerCase value).Known := by
  unfold signals
  dsimp only
  split
  · exact h
  · intro signals hsignals
    cases hsignals
    refine known_foldl _ (fun signal hsignal => ?_) _ ?_
    · obtain ⟨token, htoken, hsome⟩ := mem_filterMap.1 hsignal
      obtain ⟨part, -, hpart⟩ := List.mem_map.1 htoken
      exact contentSignalOf_known (hpart.trans hsome)
    · cases hkept : r.result.contentSignal with
      | none =>
        intro key setting hget
        cases hget
      | some kept => exact h kept hkept

theorem known_directive (h : r.Known) (field value : List Char) : (r.directive lowerCase field value).Known := by
  unfold directive
  split
  · have hopened : r.opened.Known := by
      unfold opened
      split <;> exact h
    dsimp only
    split <;> exact hopened
  · split
    · split <;> exact h
    · split
      · split <;> exact h
      · split
        · split <;> exact h
        · split
          · exact known_signals lowerCase h value
          · exact h

theorem known_line (h : r.Known) (original : List Char) : (line lowerCase r original).Known := by
  unfold line
  dsimp only
  split
  · exact h
  · split
    · exact h
    · exact known_directive lowerCase h _ _

end RobotsReading

/-- **What a robots file says the contents may be used for is known.** -/
theorem parseRobots_known (lowerCase : List Char → List Char) (body : String) {signals : Dict String String}
    (h : (parseRobots lowerCase body).contentSignal = some signals) :
    ∀ signal ∈ signals.entries, KnownSignal signal := by
  have hlines : ∀ (lines : List (List Char)) (r : RobotsReading), r.Known →
      (lines.foldl (RobotsReading.line lowerCase) r).Known := by
    intro lines
    induction lines with
    | nil => exact fun _ h => h
    | cons original lines ih => exact fun r h => ih _ (RobotsReading.known_line lowerCase h original)
  intro signal hsignal
  refine hlines _ _ (fun _ hnone => ?_) signals h signal.1 signal.2 (get_eq_some_iff.2 hsignal)
  cases hnone

theorem verticalProfile_clean (segment : Segment) (nodes : List (JsonRecord ν)) :
    (∀ path ∈ (verticalProfile segment nodes).required, '\x00' ∉ (writtenPath path).toList) ∧
      ∀ path ∈ (verticalProfile segment nodes).recommended, '\x00' ∉ (writtenPath path).toList := by
  have hpath {field sub : String} (h : '\x00' ∉ field.toList) (hsub : '\x00' ∉ sub.toList) :
      '\x00' ∉ (writtenPath [field, sub]).toList :=
    append_clean (append_clean h (literal_clean _ rfl)) hsub
  have hone {field : String} (h : '\x00' ∉ field.toList) : '\x00' ∉ (writtenPath [field]).toList := h
  have hproduct (selected : Option (JsonRecord ν)) :
      (∀ path ∈ (productProfile selected).required, '\x00' ∉ (writtenPath path).toList) ∧
        ∀ path ∈ (productProfile selected).recommended, '\x00' ∉ (writtenPath path).toList := by
    simp only [productProfile, forall_mem_cons, not_mem_nil, false_implies, implies_true, and_true]
    exact ⟨⟨hone (literal_clean _ rfl), hone (literal_clean _ rfl), hone (literal_clean _ rfl),
      hpath (literal_clean _ rfl) (literal_clean _ rfl), hpath (literal_clean _ rfl) (literal_clean _ rfl)⟩,
      hpath (literal_clean _ rfl) (literal_clean _ rfl)⟩
  cases segment with
  | store => exact hproduct _
  | localBusiness =>
    simp only [verticalProfile, forall_mem_cons, not_mem_nil, false_implies, implies_true, and_true]
    and_intros <;> exact hone (literal_clean _ rfl)
  | owner =>
    unfold verticalProfile
    dsimp only
    split
    · exact hproduct _
    · split
      · simp only [forall_mem_cons, not_mem_nil, false_implies, implies_true, and_true]
        and_intros <;> exact hone (literal_clean _ rfl)
      · split
        · simp only [forall_mem_cons, not_mem_nil, false_implies, implies_true, and_true]
          and_intros <;> exact hone (literal_clean _ rfl)
        · simp only [forall_mem_cons, not_mem_nil, false_implies, implies_true, and_true]
          and_intros <;> exact hone (literal_clean _ rfl)

namespace SiteReader

variable {ν : Type} (R : SiteReader ν) {takes : String → Prop}
  (htakes : ∀ text : String, '\x00' ∉ text.toList → takes text)

include htakes

attribute [local simp] saying EvidenceValue.quotes

theorem robotsCheck_taken (fetch : FetchArtifact) :
    (R.robotsCheck fetch).Taken takes ↔ ∀ code, fetch.errorCode = some code → takes code := by
  unfold robotsCheck Taken
  dsimp only
  split
  · cases fetch.errorCode <;> simp (disch := exact literal_clean _ rfl) [htakes]
  · next h =>
    refine (iff_true_right (errorCode_of_accessible htakes h)).2 ?_
    split
    · simp (disch := exact literal_clean _ rfl) [htakes]
    · split
      · simp (disch := exact literal_clean _ rfl) [htakes]
      · simp (disch := exact literal_clean _ rfl) [htakes, apply_ite takes]

theorem aiPolicyCheck_taken {fetch : FetchArtifact}
    (hrobots : ∀ code, (R.robotsCheck fetch).errorCode = some code → takes code) :
    (R.aiPolicyCheck fetch).Taken takes := by
  have hpolicies := explicitAiPolicies_clean (parseRobots R.lowerCase fetch.body)
  unfold aiPolicyCheck Taken
  dsimp only
  split
  · simpa (disch := exact literal_clean _ rfl) [htakes] using hrobots
  · split
    · simp (disch := exact literal_clean _ rfl) [htakes]
    · simp (disch := exact literal_clean _ rfl) [htakes, apply_ite takes]
      exact ⟨fun text agents hpolicy => htakes text (hpolicies _ hpolicy).1,
        fun text provider agents hpolicy htext => htakes text ((hpolicies _ hpolicy).2 text htext)⟩

theorem contentSignalCheck_taken {fetch : FetchArtifact}
    (hrobots : ∀ code, (R.robotsCheck fetch).errorCode = some code → takes code) :
    (R.contentSignalCheck fetch).Taken takes := by
  have hknown : ∀ signal ∈ (((parseRobots R.lowerCase fetch.body).contentSignal.map (·.entries)).getD []),
      KnownSignal signal := by
    cases hsignals : (parseRobots R.lowerCase fetch.body).contentSignal with
    | none => exact fun signal hnone => absurd hnone not_mem_nil
    | some signals => exact parseRobots_known R.lowerCase fetch.body hsignals
  unfold contentSignalCheck Taken
  dsimp only
  generalize ((parseRobots R.lowerCase fetch.body).contentSignal.map (·.entries)).getD [] = signals at hknown ⊢
  split
  · simpa (disch := exact literal_clean _ rfl) [htakes] using hrobots
  · split
    · simp (disch := exact literal_clean _ rfl) [htakes]
    · split
      · simp (disch := exact literal_clean _ rfl) [htakes]
        exact fun key setting hsignal => htakes key (known_clean (hknown _ hsignal)).1
      · simp (disch := exact literal_clean _ rfl) [htakes]
        exact ⟨fun key setting hsignal => htakes key (known_clean (hknown _ hsignal)).1,
          fun text key setting hsignal htext => htakes text (htext ▸ (known_clean (hknown _ hsignal)).2)⟩

theorem jsonLdPresenceCheck_taken (base representative : Option FetchArtifact) :
    (R.jsonLdPresenceCheck base representative).Taken takes ↔
      (usablePages base representative = [] → takes (pagesError base representative)) := by
  unfold jsonLdPresenceCheck Taken
  dsimp only
  split
  · next h => simp (disch := exact literal_clean _ rfl) [htakes, h]
  · next h => simp (disch := exact literal_clean _ rfl) [htakes, apply_ite takes, h]

/-- The types of structured data that are told of: of the node that is asked for the first, and where there is none,
those there are. -/
def quotedTypes (segment : Segment) (base representative : Option FetchArtifact) : List String :=
  let nodes := (R.parsedPages (usablePages base representative)).nodes
  match (verticalProfile segment nodes).selected with
  | none => (nodes.flatMap jsonLdTypes).eraseDups.take 20
  | some node => (jsonLdTypes node).head?.toList

variable {base : Option FetchArtifact}

omit htakes in
theorem quotedTypes_of_none (segment : Segment) {representative : Option FetchArtifact}
    (h : (R.parsedPages (usablePages base representative)).nodes = []) :
    R.quotedTypes segment base representative = [] := by
  unfold quotedTypes
  dsimp only
  rw [h]
  cases segment <;> rfl

theorem verticalJsonLdCheck_taken (segment : Segment) (base representative : Option FetchArtifact) :
    (R.verticalJsonLdCheck segment base representative).Taken takes ↔
      (usablePages base representative = [] → takes (pagesError base representative)) ∧
        ∀ type ∈ R.quotedTypes segment base representative, takes type := by
  unfold verticalJsonLdCheck Taken
  dsimp only
  split
  · next h =>
    rw [R.quotedTypes_of_none segment (by rw [h]; rfl)]
    simp (disch := exact literal_clean _ rfl) [htakes, h]
  · next h =>
    split
    · next hnone =>
      rw [R.quotedTypes_of_none segment (List.isEmpty_iff.1 hnone)]
      simp (disch := exact literal_clean _ rfl) [htakes, h]
    · unfold quotedTypes
      dsimp only
      cases hselected : (verticalProfile segment (R.parsedPages (usablePages base representative)).nodes).selected with
      | none => simp (disch := exact literal_clean _ rfl) [htakes, h]
      | some node =>
        obtain ⟨hrequired, hrecommended⟩ :=
          verticalProfile_clean segment (R.parsedPages (usablePages base representative)).nodes
        simp (disch := exact literal_clean _ rfl) [htakes, apply_ite takes, h]
        constructor
        · rintro ⟨htype, -⟩ type hhead
          rwa [hhead] at htype
        · intro htype
          refine ⟨?_, fun text path hpath _ htext => htakes text (htext ▸ hrequired path hpath),
            fun text path hpath _ htext => htakes text (htext ▸ hrequired path hpath),
            fun text path hpath _ htext => htakes text (htext ▸ hrecommended path hpath)⟩
          cases hhead : (jsonLdTypes node).head? with
          | none => exact htakes _ (literal_clean _ rfl)
          | some type => exact htype type hhead

/-- What is told of an answer in Markdown: its type, or why it was not to be had. -/
def quotedMarkdown (markdown : Option FetchArtifact) : Option String :=
  match markdown.filter (!·.inaccessible) with
  | none => markdown.bind (·.errorCode)
  | some markdown => markdown.header "content-type"

theorem markdownVariantCheck_taken (markdown base : Option FetchArtifact) :
    (R.markdownVariantCheck markdown base).Taken takes ↔
      ∀ text, quotedMarkdown markdown = some text → takes text := by
  unfold markdownVariantCheck quotedMarkdown Taken
  cases markdown.filter (!·.inaccessible) with
  | none => cases markdown.bind (·.errorCode) <;> simp (disch := exact literal_clean _ rfl) [htakes]
  | some markdown =>
    dsimp only
    have htype : takes ((markdown.header "content-type").getD "") ↔
        ∀ text, markdown.header "content-type" = some text → takes text := by
      cases markdown.header "content-type" <;> simp (disch := exact literal_clean _ rfl) [htakes]
    split
    · simpa (disch := exact literal_clean _ rfl) [htakes] using htype
    · split
      · simpa (disch := exact literal_clean _ rfl) [htakes] using htype
      · simpa (disch := exact literal_clean _ rfl) [htakes] using htype

/-- Why the file for models was not to be had. -/
def llmsError (artifact : Option FetchArtifact) : Option String := (artifact.filter (!·.missing)).bind (·.errorCode)

theorem llmsFileCheck_taken (artifact : Option FetchArtifact) :
    (R.llmsFileCheck artifact).Taken takes ↔ ∀ code, llmsError artifact = some code → takes code := by
  unfold llmsFileCheck llmsError Taken
  split
  · next hnone => simp (disch := exact literal_clean _ rfl) [htakes, hnone]
  · next artifact hartifact =>
    rw [hartifact]
    dsimp only [bind_some]
    split
    · cases artifact.errorCode <;> simp (disch := exact literal_clean _ rfl) [htakes]
    · next h =>
      refine (iff_true_right (errorCode_of_accessible htakes h)).2 ?_
      simp (disch := exact literal_clean _ rfl) [htakes, apply_ite takes]

theorem mcpCardCheck_taken (mcp : List FetchArtifact) : (R.mcpCardCheck mcp).Taken takes := by
  unfold mcpCardCheck Taken
  dsimp only
  split
  · split <;> simp (disch := exact literal_clean _ rfl) [htakes]
  · simp (disch := exact literal_clean _ rfl) [htakes, apply_ite takes]

/-- Why the profile of a shop was not to be had. -/
def ucpError (segment : Segment) (ucp : Option FetchArtifact) : Option String :=
  if segment = .store ∧ (ucp.bind R.validDiscovery).isNone then ucp.bind (·.errorCode) else none

theorem ucpProfileCheck_taken (segment : Segment) (ucp : Option FetchArtifact) :
    (R.ucpProfileCheck segment ucp).Taken takes ↔ ∀ code, R.ucpError segment ucp = some code → takes code := by
  unfold ucpProfileCheck ucpError Taken
  split
  · next h => simp (disch := exact literal_clean _ rfl) [htakes, h]
  · next h =>
    cases hdocument : ucp.bind R.validDiscovery with
    | some document => simp (disch := exact literal_clean _ rfl) [htakes, apply_ite takes]
    | none =>
      rw [if_pos ⟨not_not.1 h, rfl⟩]
      cases ucp with
      | none => simp (disch := exact literal_clean _ rfl) [htakes]
      | some ucp =>
        dsimp only [bind_some]
        cases hreached : ucp.inaccessible with
        | true =>
          simp only [filter_some, hreached, if_true]
          cases ucp.errorCode <;> simp (disch := exact literal_clean _ rfl) [htakes]
        | false =>
          refine (iff_true_right (errorCode_of_accessible htakes (by simp [hreached]))).2 ?_
          simp only [filter_some, hreached, Bool.false_eq_true, if_false]
          simp (disch := exact literal_clean _ rfl) [htakes]

theorem oauthMetadataCheck_taken (mcp : List FetchArtifact) (ucp base : Option FetchArtifact)
    (oauth : List FetchArtifact) : (R.oauthMetadataCheck mcp ucp base oauth).Taken takes := by
  unfold oauthMetadataCheck Taken
  split
  · dsimp only
    split
    · split <;> simp (disch := exact literal_clean _ rfl) [htakes]
    · generalize (oauth.filterMap R.validDiscovery).flatMap authAddresses = addresses
      generalize addresses.all _ = secure
      simp (disch := exact literal_clean _ rfl) [htakes, apply_ite takes]
  · simp (disch := exact literal_clean _ rfl) [htakes]

/-! ## Pages -/

theorem rawHtmlCheck_taken (segment : Segment) (representative : Option FetchArtifact)
    (h : ∀ code, base.bind (·.errorCode) = some code → takes code) :
    (R.rawHtmlCheck segment base representative).Taken takes := by
  unfold rawHtmlCheck Taken
  dsimp only
  split
  · cases hcode : base.bind (·.errorCode) with
    | none => simp (disch := exact literal_clean _ rfl) [htakes, apply_ite takes]
    | some code => simp (disch := exact literal_clean _ rfl) [htakes, h code hcode]
  · simp (disch := exact literal_clean _ rfl) [htakes, apply_ite takes]

theorem agentProbesCheck_taken (chatgpt claude : Option FetchArtifact)
    (h : ∀ code, base.bind (·.errorCode) = some code → takes code) :
    (R.agentProbesCheck base chatgpt claude).Taken takes := by
  unfold agentProbesCheck Taken
  split
  · cases hcode : base.bind (·.errorCode) with
    | none => simp (disch := exact literal_clean _ rfl) [htakes]
    | some code => simp (disch := exact literal_clean _ rfl) [htakes, h code hcode]
  · split
    · simp (disch := exact literal_clean _ rfl) [htakes, apply_ite takes]
    · simp (disch := exact literal_clean _ rfl) [htakes]

theorem pageBudgetCheck_taken (base : Option FetchArtifact) :
    (pageBudgetCheck base).Taken takes ↔ ∀ code, base.bind (·.errorCode) = some code → takes code := by
  unfold pageBudgetCheck Taken
  cases base with
  | none => simp (disch := exact literal_clean _ rfl) [htakes]
  | some base =>
    dsimp only [bind_some]
    cases hreached : base.inaccessible with
    | true =>
      simp only [filter_some, hreached, Bool.not_true, Bool.false_eq_true, if_false]
      cases base.errorCode <;> simp (disch := exact literal_clean _ rfl) [htakes]
    | false =>
      simp only [filter_some, hreached, Bool.not_false, if_true]
      refine (iff_true_right (errorCode_of_accessible htakes (by simp [hreached]))).2 ?_
      split
      · simp (disch := exact literal_clean _ rfl) [htakes]
      · simp (disch := exact literal_clean _ rfl) [htakes, apply_ite takes]

theorem storeFeedCheck_taken (segment : Segment) {representative : Option FetchArtifact}
    (h : usablePages base representative = [] → takes (pagesError base representative)) :
    (R.storeFeedCheck segment base representative).Taken takes := by
  unfold storeFeedCheck Taken
  split
  · simp (disch := exact literal_clean _ rfl) [htakes]
  · dsimp only
    split
    · next hnone => simp (disch := exact literal_clean _ rfl) [htakes, h hnone]
    · split
      · simp (disch := exact literal_clean _ rfl) [htakes]
      · split
        · simp (disch := exact literal_clean _ rfl) [htakes]
        · simp (disch := exact literal_clean _ rfl) [htakes]

theorem platformCheck_taken : platformCheck.Taken takes := by
  unfold platformCheck Taken
  simp (disch := exact literal_clean _ rfl) [htakes]

def agentCardError (a2a : Option FetchArtifact) : Option String :=
  if (a2a.bind R.validDiscovery).isNone then a2a.bind (·.errorCode) else none

theorem agentCardCheck_taken (noncanonicalA2aHint : Bool) (a2a : Option FetchArtifact) :
    (R.agentCardCheck noncanonicalA2aHint a2a).Taken takes ↔
      ∀ code, R.agentCardError a2a = some code → takes code := by
  unfold agentCardCheck agentCardError Taken
  cases hdocument : a2a.bind R.validDiscovery with
  | some document => simp (disch := exact literal_clean _ rfl) [htakes, apply_ite takes]
  | none =>
    rw [if_pos (show (none : Option (JsonRecord ν)).isNone = true from rfl)]
    cases a2a with
    | none =>
      dsimp only [filter_none]
      split <;> simp (disch := exact literal_clean _ rfl) [htakes]
    | some a2a =>
      dsimp only [bind_some]
      cases hreached : a2a.inaccessible with
      | true =>
        simp only [filter_some, hreached, if_true]
        cases a2a.errorCode <;> simp (disch := exact literal_clean _ rfl) [htakes]
      | false =>
        refine (iff_true_right (errorCode_of_accessible htakes (by simp [hreached]))).2 ?_
        simp only [filter_some, hreached, Bool.false_eq_true, if_false]
        split <;> simp (disch := exact literal_clean _ rfl) [htakes]

theorem localesCheck_taken
    (h : ∀ code, base.bind (·.errorCode) = some code → takes code) : (R.localesCheck base).Taken takes := by
  unfold localesCheck Taken
  split
  · cases hcode : base.bind (·.errorCode) with
    | none => simp (disch := exact literal_clean _ rfl) [htakes]
    | some code => simp (disch := exact literal_clean _ rfl) [htakes, h code hcode]
  · dsimp only
    split
    · simp (disch := exact literal_clean _ rfl) [htakes]
    · simp (disch := exact literal_clean _ rfl) [htakes, apply_ite takes]

end SiteReader

/-- Why the sitemap was not to be had. -/
def sitemapError (sitemap : List FetchArtifact) : Option String :=
  if sitemap.all (fun artifact => artifact.inaccessible && !artifact.missing) then sitemap.head?.bind (·.errorCode)
  else none

theorem CheckSuite.sitemapCheck_taken (K : CheckSuite) {takes : String → Prop}
    (htakes : ∀ text : String, '\x00' ∉ text.toList → takes text) (sitemap : List FetchArtifact) (now : Int) :
    (K.sitemapCheck sitemap now).Taken takes ↔ ∀ code, sitemapError sitemap = some code → takes code := by
  unfold sitemapCheck sitemapError Taken
  dsimp only
  split
  · next hnone =>
    split
    · next hmissing =>
      obtain ⟨artifact, hmem, hartifact⟩ := List.any_eq_true.1 hmissing
      rw [if_neg fun hall => by simpa [hartifact] using List.all_eq_true.1 hall artifact hmem]
      simp (disch := exact literal_clean _ rfl) [htakes]
    · next hpresent =>
      have hall : sitemap.all (fun artifact => artifact.inaccessible && !artifact.missing) = true := by
        refine List.all_eq_true.2 fun artifact hmem => ?_
        have hmissing : artifact.missing = false :=
          Bool.eq_false_iff.2 fun h => hpresent (List.any_eq_true.2 ⟨artifact, hmem, h⟩)
        have hreached := filter_eq_nil_iff.1 hnone artifact hmem
        simpa [hmissing] using hreached
      rw [if_pos hall]
      cases sitemap.head?.bind (·.errorCode) <;> simp (disch := exact literal_clean _ rfl) [htakes]
  · next hsome =>
    have hreached : ¬sitemap.all (fun artifact => artifact.inaccessible && !artifact.missing) = true := by
      refine fun hall => hsome (filter_eq_nil_iff.2 fun artifact hmem => ?_)
      have h := List.all_eq_true.1 hall artifact hmem
      rw [Bool.and_eq_true] at h
      simp [h.1]
    rw [if_neg hreached]
    split
    · simp (disch := exact literal_clean _ rfl) [EvidenceValue.quotes, htakes]
    · simp (disch := exact literal_clean _ rfl) [EvidenceValue.quotes, htakes, apply_ite takes]

/-! ## All of it -/

/-- What of a site's texts the checks of a scan tell of. -/
def SiteReader.quoted {ν : Type} (R : SiteReader ν) (artifacts : ScanArtifacts) : List String :=
  let effective := R.effective artifacts
  R.quotedTypes effective.segment effective.base effective.representative ++
    (quotedMarkdown effective.markdown).toList ++
    (if usablePages effective.base effective.representative = [] then
      [pagesError effective.base effective.representative] else []) ++
    (artifacts.robots.errorCode.toList ++ (sitemapError artifacts.sitemap).toList ++
      (llmsError artifacts.llms).toList ++ (R.ucpError artifacts.segment artifacts.ucp).toList ++
      (effective.base.bind (·.errorCode)).toList ++ (R.agentCardError artifacts.a2a).toList)

/-- **The texts of a scan are taken just where those of the site are that it tells of.** -/
theorem SiteReader.quoted_taken (R : SiteReader ν) (noncanonicalA2aHint : Bool) {takes : String → Prop}
    (htakes : ∀ text : String, '\x00' ∉ text.toList → takes text) (artifacts : ScanArtifacts) (now : Int) :
    (∀ check ∈ (R.suite noncanonicalA2aHint).evaluateChecks artifacts now, ∀ text ∈ check.texts, takes text) ↔
      ∀ text ∈ R.quoted artifacts, takes text := by
  unfold quoted
  rw [R.evaluateChecks_eq]
  dsimp only
  generalize R.effective artifacts = effective
  simp only [forall_mem_cons, taken_result htakes, not_mem_nil, false_implies, implies_true, and_true,
    forall_mem_append, mem_toList]
  rw [R.robotsCheck_taken htakes, CheckSuite.sitemapCheck_taken _ htakes, R.jsonLdPresenceCheck_taken htakes,
    R.verticalJsonLdCheck_taken htakes, R.markdownVariantCheck_taken htakes, R.llmsFileCheck_taken htakes,
    R.ucpProfileCheck_taken htakes, pageBudgetCheck_taken htakes, R.agentCardCheck_taken htakes]
  have hpages : (∀ text ∈ if usablePages effective.base effective.representative = [] then
        [pagesError effective.base effective.representative] else [], takes text) ↔
      (usablePages effective.base effective.representative = [] →
        takes (pagesError effective.base effective.representative)) := by
    split <;> simp [*]
  rw [hpages]
  constructor
  · rintro ⟨hrobots, -, -, hsitemap, hpages, ⟨-, htypes⟩, hmarkdown, hllms, -, hucp, -, -, -, hbase, -, -, hcard, -⟩
    exact ⟨⟨⟨htypes, hmarkdown⟩, hpages⟩, ⟨⟨⟨⟨hrobots, hsitemap⟩, hllms⟩, hucp⟩, hbase⟩, hcard⟩
  · rintro ⟨⟨⟨htypes, hmarkdown⟩, hpages⟩, ⟨⟨⟨⟨herror, hsitemap⟩, hllms⟩, hucp⟩, hbase⟩, hcard⟩
    have hcode := ((R.robotsCheck_taken htakes _).2 herror).2.2.2.1
    exact ⟨herror, R.aiPolicyCheck_taken htakes hcode, R.contentSignalCheck_taken htakes hcode, hsitemap, hpages,
      ⟨hpages, htypes⟩, hmarkdown, hllms, R.mcpCardCheck_taken htakes _, hucp,
      R.oauthMetadataCheck_taken htakes _ _ _ _, R.rawHtmlCheck_taken htakes _ _ hbase,
      R.agentProbesCheck_taken htakes _ _ hbase, hbase, R.storeFeedCheck_taken htakes _ hpages,
      platformCheck_taken htakes, hcard, R.localesCheck_taken htakes hbase⟩

end Coinslot
