import Coinslot.Scanner.SiteChecks
import Mathlib.Data.List.Find

/-!
# What a site is built with

A page is looked through for marks of platforms, of networks in front of it and of payment providers
(`packages/scanner/src/fingerprint.ts`). The checks of a site, the score they come to, these marks and the findings
that are told first (`packages/scanner/src/findings.ts`) are the evaluation of a scan (`SiteReader.evaluateScan`,
`packages/scanner/src/engine.ts`).
-/

namespace Coinslot

open List Option

/-! ## Marks -/

def isWordChar (c : Char) : Bool := c.isAlphanum || c = '_'

/-- Whether a word begins here, and ends where it does. -/
def wordHere (word text : List Char) : Bool :=
  word.isPrefixOf text && !(text.drop word.length).head?.any isWordChar

/-- Whether a word stands by itself somewhere, after a character that was read. -/
def standsIn (word : List Char) : Option Char → List Char → Bool
  | _, [] => false
  | before, c :: text => !before.any isWordChar && wordHere word (c :: text) || standsIn word (some c) text

/-- Whether a text has a word that stands by itself, in whatever letter case. -/
def mentionsWord (word text : String) : Bool := standsIn word.toList none (lowered text.toList)

/-- Whether a line has one text after another, in whatever letter case. -/
def mentionsBoth (first second text : String) : Bool :=
  (lowered text.toList).tails.any fun rest => first.toList.isPrefixOf rest &&
    someLeft (second.toList.isPrefixOf ·) (rest.drop first.toList.length)

/-- A pattern: how it is written, and what it is found in. -/
structure PagePattern where
  source : String
  test : String → Bool

/-- What something is told by. -/
structure Detector where
  value : String
  strong : List PagePattern
  weak : List PagePattern

/-- How sure a mark is. -/
inductive Confidence where
  | low
  | medium
  | high
  deriving DecidableEq, Repr

/-- How sure a mark is, as a number. -/
def Confidence.rank : Confidence → Nat
  | low => 1
  | medium => 2
  | high => 3

/-- What was found, how sure that is and what tells of it. -/
structure FingerprintSignal where
  value : String
  confidence : Confidence
  signals : List String
  deriving DecidableEq, Repr

def platformDetectors : List Detector :=
  [⟨"Shopify", [⟨"cdn\\.shopify\\.com", mentions "cdn.shopify.com"⟩, ⟨"shopify-section", mentions "shopify-section"⟩],
      [⟨"shopify", mentions "shopify"⟩]⟩,
    ⟨"WooCommerce/WordPress", [⟨"wp-content\\/", mentions "wp-content/"⟩, ⟨"woocommerce", mentions "woocommerce"⟩],
      [⟨"wp-includes", mentions "wp-includes"⟩, ⟨"wordpress", mentions "wordpress"⟩]⟩,
    ⟨"Magento/Adobe Commerce", [⟨"Magento_Ui", mentions "magento_ui"⟩, ⟨"mage\\/cookies", mentions "mage/cookies"⟩],
      [⟨"magento", mentions "magento"⟩]⟩,
    ⟨"Wix", [⟨"static\\.wixstatic\\.com", mentions "static.wixstatic.com"⟩,
        ⟨"wix-viewer-model", mentions "wix-viewer-model"⟩],
      [⟨"wix", mentions "wix"⟩]⟩,
    ⟨"Webflow", [⟨"data-wf-page=", mentions "data-wf-page="⟩,
        ⟨"assets\\.website-files\\.com", mentions "assets.website-files.com"⟩],
      [⟨"webflow", mentions "webflow"⟩]⟩,
    ⟨"Squarespace", [⟨"static1\\.squarespace\\.com", mentions "static1.squarespace.com"⟩,
        ⟨"squarespace-cdn", mentions "squarespace-cdn"⟩],
      [⟨"squarespace", mentions "squarespace"⟩]⟩]

def wafDetectors : List Detector :=
  [⟨"Cloudflare", [⟨"\\bcf-ray\\b", mentionsWord "cf-ray"⟩, ⟨"cloudflare", mentions "cloudflare"⟩],
      [⟨"cf-cache-status", mentions "cf-cache-status"⟩]⟩,
    ⟨"Akamai", [⟨"akamai", mentions "akamai"⟩, ⟨"akamai-ghost", mentions "akamai-ghost"⟩],
      [⟨"x-akamai", mentions "x-akamai"⟩]⟩,
    ⟨"Fastly", [⟨"\\bfastly\\b", mentionsWord "fastly"⟩, ⟨"x-served-by", mentions "x-served-by"⟩],
      [⟨"x-cache-hits", mentions "x-cache-hits"⟩]⟩,
    ⟨"Vercel", [⟨"x-vercel-id", mentions "x-vercel-id"⟩, ⟨"\\bvercel\\b", mentionsWord "vercel"⟩],
      [⟨"_next\\/static", mentions "_next/static"⟩]⟩,
    ⟨"Netlify", [⟨"x-nf-request-id", mentions "x-nf-request-id"⟩, ⟨"\\bnetlify\\b", mentionsWord "netlify"⟩],
      [⟨"netlify", mentions "netlify"⟩]⟩]

def pspDetectors : List Detector :=
  [⟨"Stripe", [⟨"js\\.stripe\\.com", mentions "js.stripe.com"⟩, ⟨"stripe-js", mentions "stripe-js"⟩],
      [⟨"stripe", mentions "stripe"⟩]⟩,
    ⟨"PayPal", [⟨"paypal\\.com\\/sdk\\/js", mentions "paypal.com/sdk/js"⟩], [⟨"paypal", mentions "paypal"⟩]⟩,
    ⟨"Adyen", [⟨"checkoutshopper-.*\\.adyen\\.com", mentionsBoth "checkoutshopper-" ".adyen.com"⟩,
        ⟨"adyen-checkout", mentions "adyen-checkout"⟩],
      [⟨"adyen", mentions "adyen"⟩]⟩,
    ⟨"Shopify Payments", [⟨"shopify_payments", mentions "shopify_payments"⟩],
      [⟨"shopify payments", mentions "shopify payments"⟩]⟩,
    ⟨"Square", [⟨"web\\.squarecdn\\.com", mentions "web.squarecdn.com"⟩,
        ⟨"squareup\\.com\\/v1\\/square", mentions "squareup.com/v1/square"⟩],
      [⟨"square payments", mentions "square payments"⟩]⟩]

/-- The first characters of a text that fit into so many units. No pattern matches half of a pair. -/
def fitting : Nat → List Char → List Char
  | _, [] => []
  | units, c :: text =>
    let size := if c.toNat < 0x10000 then 1 else 2
    if size ≤ units then c :: fitting (units - size) text else []

/-- What of a page is looked through: its headers and the beginning of its body. -/
def corpus : Option FetchArtifact → String
  | none => ""
  | some artifact => "\n".intercalate (artifact.headers.map fun header => header.1 ++ ":" ++ header.2) ++ "\n" ++
      String.ofList (fitting 524288 artifact.body.toList)

def matchedSources (input : String) (patterns : List PagePattern) : List String :=
  (patterns.filter (·.test input)).map (·.source)

/-- What a detector finds. -/
def detect (input : String) (detector : Detector) : Option FingerprintSignal :=
  let strong := matchedSources input detector.strong
  let weak := matchedSources input detector.weak
  let count := strong.length + weak.length
  if count = 0 then none
  else some
    { value := detector.value
      confidence := if 2 ≤ count then .high else if strong.length = 1 then .medium else .low
      signals := (strong.map ("strong:" ++ ·) ++ weak.map ("weak:" ++ ·)).take 5 }

/-- What a page tells of what a site is built with. -/
structure Fingerprint where
  detectorVersion : String
  platform : FingerprintSignal
  wafCdn : List FingerprintSignal
  pspMarkers : List FingerprintSignal
  deriving DecidableEq, Repr

def fingerprint (artifact : Option FetchArtifact) : Fingerprint :=
  let input := corpus artifact
  let platforms := platformDetectors.filterMap (detect input)
  { detectorVersion := "fingerprint-v1.0.0"
    platform := (platforms.mergeSort fun left right => right.confidence.rank ≤ left.confidence.rank).head?.getD
      ⟨"custom/unknown", .low, []⟩
    wafCdn := wafDetectors.filterMap (detect input)
    pspMarkers := pspDetectors.filterMap (detect input) }

/-! ## Findings -/

/-- Which checks matter most to a kind of business. -/
def findingPriority : Segment → List Nat
  | .store => [6, 15, 12, 13, 4, 7]
  | .localBusiness => [6, 12, 13, 4, 7]
  | .owner => [12, 6, 13, 4, 7]

/-- What a check is about, where others are about the same. -/
def findingCluster (id : Nat) : String :=
  (([(1, "robots"), (2, "robots-policy"), (3, "robots-policy"), (5, "structured-data"), (6, "structured-data"),
    (9, "callable-metadata"), (10, "callable-metadata"), (11, "callable-auth"), (12, "content-access"),
    (13, "content-access"), (15, "commerce-machine-data")].find? (·.1 = id)).map (·.2)).getD s!"check-{id}"

def priorityIndex (segment : Segment) (id : Nat) : Nat :=
  ((findingPriority segment).findIdx? (· = id)).getD (100 + id)

/-- Whether one of two checks that went wrong is told before the other. -/
def toldBefore (segment : Segment) (left right : CheckResult) : Bool :=
  if left.status ≠ right.status then left.status = .fail
  else if priorityIndex segment left.id ≠ priorityIndex segment right.id then
    priorityIndex segment left.id < priorityIndex segment right.id
  else
    let leftLoss : Int := (left.applicableWeight : Int) - left.earnedWeight
    let rightLoss : Int := (right.applicableWeight : Int) - right.earnedWeight
    if rightLoss ≠ leftLoss then rightLoss < leftLoss else left.id ≤ right.id

/-- The first so many checks, of each cluster the first. -/
def clusterHeads : Nat → List String → List CheckResult → List Nat
  | 0, _, _ => []
  | _, _, [] => []
  | left + 1, clusters, check :: checks =>
    if findingCluster check.id ∈ clusters then clusterHeads (left + 1) clusters checks
    else check.id :: clusterHeads left (findingCluster check.id :: clusters) checks

/-- The checks that are told first. -/
structure Findings where
  negativeCheckIds : List Nat
  positiveCheckId : Option Nat
  deriving DecidableEq, Repr

def selectFindings (segment : Segment) (checks : List CheckResult) : Findings where
  negativeCheckIds := clusterHeads 3 []
    ((checks.filter fun check => check.status = .fail || check.status = .partly).mergeSort (toldBefore segment))
  positiveCheckId := (((checks.filter fun check => check.status = .pass && 0 < check.earnedWeight).mergeSort
    fun left right => right.earnedWeight < left.earnedWeight ||
      right.earnedWeight = left.earnedWeight && left.id ≤ right.id).head?).map (·.id)

/-! ## The evaluation -/

/-- What a scan comes to. -/
structure SiteEvaluation where
  checks : List CheckResult
  score : ScanScore
  fingerprint : Fingerprint
  findings : Findings

/-- What a scan comes to, of the artifacts it has. -/
def SiteReader.evaluateScan {ν : Type} (R : SiteReader ν) (noncanonicalA2aHint : Bool) (artifacts : ScanArtifacts)
    (now : Int) : SiteEvaluation :=
  let checks := (R.suite noncanonicalA2aHint).evaluateChecks artifacts now
  { checks := checks
    score := scoreChecks checks
    fingerprint := fingerprint artifacts.base
    findings := selectFindings artifacts.segment checks }

/-! ## What leads -/

theorem head?_mergeSort {α : Type} {le : α → α → Bool} (trans : ∀ a b c, le a b → le b c → le a c)
    (total : ∀ a b, (le a b || le b a) = true) (l : List α) :
    (l.mergeSort le).head? = l.find? fun a => l.all (le a) := by
  induction l with
  | nil => simp
  | cons a l ih =>
    obtain ⟨before, after, hsort, hrest, hbefore⟩ := mergeSort_cons trans total a l
    rw [hsort]
    cases before with
    | nil =>
      have hsorted := pairwise_mergeSort trans total (a :: l)
      rw [hsort, nil_append, pairwise_cons] at hsorted
      have hleast : (a :: l).all (le a) = true := by
        rw [List.all_eq_true]
        intro b hb
        rcases mem_cons.1 hb with rfl | hb
        · simpa using total b b
        · exact hsorted.1 b (by rwa [← nil_append after, ← hrest, mem_mergeSort])
      exact (find?_cons_of_pos (p := fun c => (a :: l).all (le c)) hleast).symm
    | cons b before =>
      have hab : le a b = false := by simpa using hbefore b mem_cons_self
      have hba : le b a = true := by simpa [hab] using total a b
      have hb : b ∈ l := mem_mergeSort.1 (by rw [hrest]; exact mem_cons_self)
      have hnot : ¬ (a :: l).all (le a) = true := by
        intro hall
        rw [List.all_eq_true.1 hall b (mem_cons_of_mem a hb)] at hab
        cases hab
      rw [find?_cons_of_neg (p := fun c => (a :: l).all (le c)) hnot]
      calc (b :: before ++ a :: after).head? = (l.mergeSort le).head? := by rw [hrest]; rfl
        _ = l.find? fun c => l.all (le c) := ih
        _ = l.find? fun c => (a :: l).all (le c) := find?_congr fun c _ => by
          rw [all_cons, Bool.eq_and_self]
          exact fun hall => trans c b a (List.all_eq_true.1 hall b hb) hba

/-! ## What a fingerprint tells -/

/-- How sure a detector is of what it finds: not at all, where it finds nothing. -/
def Detector.rank (input : String) (detector : Detector) : Nat :=
  ((detect input detector).map (·.confidence.rank)).getD 0

/-- The platform that most speaks for: the first of those that are surest. -/
def leadingPlatform (input : String) : Option Detector :=
  platformDetectors.find? fun detector =>
    0 < detector.rank input && platformDetectors.all fun other => other.rank input ≤ detector.rank input

section

variable (detector : Detector)

/-- Every pattern of a detector is found in two texts, or in neither. -/
def Detector.SameMarks (input other : String) : Prop :=
  ∀ pattern ∈ detector.strong ++ detector.weak, pattern.test input = pattern.test other

instance (detector : Detector) (input other : String) : Decidable (detector.SameMarks input other) :=
  inferInstanceAs (Decidable (∀ pattern ∈ detector.strong ++ detector.weak, pattern.test input = pattern.test other))

/-- Two texts bear the same marks: of the platform that leads, and of all that stands in front of a site or takes
payments for it. -/
structure LooksAlike (input other : String) : Prop where
  leads : leadingPlatform input = leadingPlatform other
  platform : ∀ detector ∈ leadingPlatform input, detector.SameMarks input other
  others : ∀ detector ∈ wafDetectors ++ pspDetectors, detector.SameMarks input other

/-- The patterns of a detector, under what they are told by. -/
def Detector.marks : List (String × PagePattern) :=
  detector.strong.map (fun pattern => ("strong:" ++ pattern.source, pattern)) ++
    detector.weak.map fun pattern => ("weak:" ++ pattern.source, pattern)

/-- The marks of a detector can be told apart, and all of them fit into a signal. -/
def Detector.Distinct : Prop := (detector.marks.map (·.1)).Nodup ∧ detector.marks.length ≤ 5

end

theorem detectors_distinct : ∀ detector ∈ platformDetectors ++ wafDetectors ++ pspDetectors, detector.Distinct := by
  simp [platformDetectors, wafDetectors, pspDetectors, Detector.Distinct, Detector.marks]

theorem values_distinct : (platformDetectors.map (·.value)).Nodup ∧ (wafDetectors.map (·.value)).Nodup ∧
    (pspDetectors.map (·.value)).Nodup := by
  simp [platformDetectors, wafDetectors, pspDetectors]

theorem marks_found (input : String) (detector : Detector) :
    (detector.marks.filter (·.2.test input)).map (·.1) = (matchedSources input detector.strong).map ("strong:" ++ ·) ++
      (matchedSources input detector.weak).map ("weak:" ++ ·) := by
  simp [Detector.marks, matchedSources, List.filter_map, Function.comp_def]

variable {detector : Detector}

theorem signals_detect (hdistinct : detector.Distinct) (input : String) :
    ((detect input detector).map (·.signals)).getD [] = (detector.marks.filter (·.2.test input)).map (·.1) := by
  have hlength := length_filter_le (fun mark : String × PagePattern => mark.2.test input) detector.marks
  rw [← length_map (·.1), marks_found] at hlength
  rw [marks_found, detect]
  split
  · rename_i hnone
    rw [Nat.add_eq_zero_iff, length_eq_zero_iff, length_eq_zero_iff] at hnone
    rw [hnone.1, hnone.2]
    rfl
  · exact take_of_length_le (Nat.le_trans hlength hdistinct.2)

theorem tests_of_names {β : Type} {name : β → String} {l : List β} (hnodup : (l.map name).Nodup) {p q : β → Bool}
    (h : (l.filter p).map name = (l.filter q).map name) : ∀ x ∈ l, p x = true → q x = true := by
  intro x hx hp
  have hmem : name x ∈ (l.filter q).map name := h ▸ List.mem_map_of_mem (mem_filter.2 ⟨hx, hp⟩)
  obtain ⟨y, hy, hname⟩ := List.mem_map.1 hmem
  rw [← inj_on_of_nodup_map hnodup (mem_filter.1 hy).1 hx hname]
  exact (mem_filter.1 hy).2

variable {input : String}

theorem detect_eq_iff (hdistinct : detector.Distinct) {other : String} :
    detect input detector = detect other detector ↔ detector.SameMarks input other := by
  constructor
  · intro h pattern hpattern
    have hfound : (detector.marks.filter (·.2.test input)).map (·.1) =
        (detector.marks.filter (·.2.test other)).map (·.1) := by
      rw [← signals_detect hdistinct, ← signals_detect hdistinct, h]
    obtain ⟨name, hmark⟩ : ∃ name, (name, pattern) ∈ detector.marks := by
      rcases mem_append.1 hpattern with hp | hp
      · exact ⟨_, mem_append_left _ (List.mem_map_of_mem hp)⟩
      · exact ⟨_, mem_append_right _ (List.mem_map_of_mem hp)⟩
    exact Bool.eq_iff_iff.2
      ⟨tests_of_names hdistinct.1 hfound _ hmark, tests_of_names hdistinct.1 hfound.symm _ hmark⟩
  · intro h
    have hstrong : matchedSources input detector.strong = matchedSources other detector.strong := congrArg _
      (filter_congr fun pattern hp => h pattern (mem_append_left _ hp))
    have hweak : matchedSources input detector.weak = matchedSources other detector.weak := congrArg _
      (filter_congr fun pattern hp => h pattern (mem_append_right _ hp))
    rw [detect, detect, hstrong, hweak]

theorem value_detect {signal : FingerprintSignal}
    (h : detect input detector = some signal) : signal.value = detector.value := by
  rw [detect] at h
  split at h
  · cases h
  · cases h
    rfl

theorem found_eq_iff {other : String} : ∀ {detectors : List Detector}, (detectors.map (·.value)).Nodup →
    (detectors.filterMap (detect input) = detectors.filterMap (detect other) ↔
      ∀ detector ∈ detectors, detect input detector = detect other detector)
  | [], _ => by simp
  | detector :: detectors, hnodup => by
    rw [map_cons, nodup_cons] at hnodup
    have habsent : ∀ {text : String} {signal : FingerprintSignal}, signal.value = detector.value →
        signal ∉ detectors.filterMap (detect text) := by
      intro text signal hvalue hmem
      obtain ⟨found, hfound, hdetect⟩ := mem_filterMap.1 hmem
      exact hnodup.1 (List.mem_map.2 ⟨found, hfound, (value_detect hdetect).symm.trans hvalue⟩)
    rw [forall_mem_cons, ← found_eq_iff hnodup.2]
    cases hinput : detect input detector with
    | none =>
      cases hother : detect other detector with
      | none => simp [hinput, hother]
      | some signal =>
        simp only [filterMap_cons, hinput, hother, reduceCtorEq, false_and, iff_false]
        exact fun h => habsent (value_detect hother) (h ▸ mem_cons_self)
    | some signal =>
      cases hother : detect other detector with
      | none =>
        simp only [filterMap_cons, hinput, hother, reduceCtorEq, false_and, iff_false]
        exact fun h => habsent (value_detect hinput) (h ▸ mem_cons_self)
      | some told => simp [hinput, hother]

theorem rank_pos_iff : 0 < detector.rank input ↔ (detect input detector).isSome = true := by
  rw [Detector.rank]
  cases detect input detector with
  | none => simp
  | some signal => cases h : signal.confidence <;> simp [h, Confidence.rank]

theorem platform_fingerprint (artifact : Option FetchArtifact) :
    (fingerprint artifact).platform = ((leadingPlatform (corpus artifact)).bind (detect (corpus artifact))).getD
      ⟨"custom/unknown", .low, []⟩ := by
  have htrans : ∀ a b c : FingerprintSignal, decide (b.confidence.rank ≤ a.confidence.rank) = true →
      decide (c.confidence.rank ≤ b.confidence.rank) = true →
      decide (c.confidence.rank ≤ a.confidence.rank) = true := by
    simp only [decide_eq_true_eq]
    omega
  have htotal : ∀ a b : FingerprintSignal, (decide (b.confidence.rank ≤ a.confidence.rank) ||
      decide (a.confidence.rank ≤ b.confidence.rank)) = true := by
    simp only [Bool.or_eq_true, decide_eq_true_eq]
    omega
  dsimp only [fingerprint]
  rw [head?_mergeSort htrans htotal, find?_filterMap, leadingPlatform]
  congr 2
  refine find?_congr fun detector _ => ?_
  cases hfound : detect (corpus artifact) detector with
  | none => simp [Detector.rank, hfound]
  | some signal =>
    have hpos := rank_pos_iff.2 (isSome_iff_exists.2 ⟨signal, hfound⟩)
    have hrank : detector.rank (corpus artifact) = signal.confidence.rank := by simp [Detector.rank, hfound]
    rw [any_some, decide_eq_true hpos, Bool.true_and, all_filterMap, hrank]
    refine congrArg _ (funext fun other => ?_)
    rw [Detector.rank]
    cases detect (corpus artifact) other <;> simp

theorem leading_mem (h : leadingPlatform input = some detector) :
    detector ∈ platformDetectors ∧ ∃ signal, detect input detector = some signal := by
  refine ⟨mem_of_find?_eq_some h, isSome_iff_exists.1 (rank_pos_iff.1 ?_)⟩
  have := find?_some h
  simp only [Bool.and_eq_true, decide_eq_true_eq] at this
  exact this.1

theorem leads_of_platform {other : String}
    (h : ((leadingPlatform input).bind (detect input)).getD ⟨"custom/unknown", .low, []⟩ =
      ((leadingPlatform other).bind (detect other)).getD ⟨"custom/unknown", .low, []⟩) :
    leadingPlatform input = leadingPlatform other := by
  have hvalues : ∀ detector ∈ platformDetectors, detector.value ≠ "custom/unknown" := by simp [platformDetectors]
  have hname := congrArg FingerprintSignal.value h
  cases hinput : leadingPlatform input with
  | none =>
    cases hother : leadingPlatform other with
    | none => rfl
    | some detector =>
      obtain ⟨hlisted, signal, hsignal⟩ := leading_mem hother
      rw [hinput, hother, bind_some, hsignal] at hname
      exact absurd ((value_detect hsignal).symm.trans hname.symm) (hvalues detector hlisted)
  | some detector =>
    obtain ⟨hlisted, signal, hsignal⟩ := leading_mem hinput
    cases hother : leadingPlatform other with
    | none =>
      rw [hinput, hother, bind_some, hsignal] at hname
      exact absurd ((value_detect hsignal).symm.trans hname) (hvalues detector hlisted)
    | some told =>
      obtain ⟨htold, found, hfound⟩ := leading_mem hother
      rw [hinput, hother, bind_some, bind_some, hsignal, hfound] at hname
      have hsame : detector.value = told.value :=
        (value_detect hsignal).symm.trans (hname.trans (value_detect hfound))
      rw [inj_on_of_nodup_map values_distinct.1 hlisted htold hsame]

theorem sameFingerprint_iff {artifact other : Option FetchArtifact} :
    fingerprint artifact = fingerprint other ↔ LooksAlike (corpus artifact) (corpus other) := by
  have hdistinct : ∀ detector ∈ platformDetectors ++ wafDetectors ++ pspDetectors, detector.Distinct :=
    detectors_distinct
  simp only [forall_mem_append] at hdistinct
  obtain ⟨⟨hplatforms, hwafs⟩, hpsps⟩ := hdistinct
  have hothers : ∀ {detectors : List Detector}, (∀ detector ∈ detectors, detector.Distinct) →
      (detectors.map (·.value)).Nodup →
      (detectors.filterMap (detect (corpus artifact)) = detectors.filterMap (detect (corpus other)) ↔
        ∀ detector ∈ detectors, detector.SameMarks (corpus artifact) (corpus other)) := fun hall hnodup =>
    (found_eq_iff hnodup).trans (forall₂_congr fun detector hmem => detect_eq_iff (hall detector hmem))
  have hwaf := hothers hwafs values_distinct.2.1
  have hpsp := hothers hpsps values_distinct.2.2
  constructor
  · intro h
    have hplatform := congrArg Fingerprint.platform h
    rw [platform_fingerprint, platform_fingerprint] at hplatform
    have hleads := leads_of_platform hplatform
    refine ⟨hleads, fun detector hmem => ?_, forall_mem_append.2
      ⟨hwaf.1 (congrArg Fingerprint.wafCdn h), hpsp.1 (congrArg Fingerprint.pspMarkers h)⟩⟩
    obtain ⟨hlisted, signal, hsignal⟩ := leading_mem hmem
    obtain ⟨-, told, htold⟩ := leading_mem (hleads ▸ hmem)
    rw [← hleads, mem_def.1 hmem, bind_some, bind_some, hsignal, htold] at hplatform
    exact (detect_eq_iff (hplatforms detector hlisted)).1 (by rw [hsignal, htold]; exact congrArg some hplatform)
  · intro h
    have hplatform : (fingerprint artifact).platform = (fingerprint other).platform := by
      rw [platform_fingerprint, platform_fingerprint, ← h.leads]
      cases hleads : leadingPlatform (corpus artifact) with
      | none => rfl
      | some detector =>
        rw [bind_some, bind_some, (detect_eq_iff (hplatforms detector (leading_mem hleads).1)).2
          (h.platform detector hleads)]
    have hall := forall_mem_append.1 h.others
    have hw := hwaf.2 hall.1
    have hp := hpsp.2 hall.2
    dsimp only [fingerprint] at hplatform ⊢
    rw [hplatform, hw, hp]

end Coinslot
