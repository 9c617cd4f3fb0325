import Coinslot.Scanner.Urls

/-!
# Targets stay canonical

A target is canonicalized when its scan is asked for and again by the worker (`canonicalizeTarget`,
`packages/scanner/src/url.ts`). The length of a target is looked at as it was typed, and a URL can be written longer
than it was typed; and a host name is not one of a local network with a dot behind it. Where the URL class keeps to
its standard (`WhatwgUrls`), a target stays canonical just where neither happens (`stays_canonical_iff`).
-/

namespace Coinslot

open IpText List

/-- What the standard says of the records of URLs that the platform holds: it makes them of texts, they stay such
without a key of their query, without their fragment and without their port, and those of websites are read back from
what they are written as, which has no blanks in it. -/
structure WhatwgUrls (U : UrlLib) (IsRecord : Url → Prop) : Prop where
  parsed : ∀ text url, U.parse text = some url → IsRecord url
  deleted : ∀ url key, IsRecord url → IsRecord { url with search := U.delete url.search key }
  unhashed : ∀ url, IsRecord url → IsRecord { url with hash := "" }
  portless : ∀ url, IsRecord url → IsRecord { url with port := "" }
  read_back : ∀ url, IsRecord url → url.protocol = "http:" ∨ url.protocol = "https:" → U.parse url.text = some url
  no_blanks : ∀ url, IsRecord url → url.protocol = "http:" ∨ url.protocol = "https:" →
    ∀ c ∈ url.text.toList, isBlank c = false
  gone : ∀ search key, key ∉ U.keys (U.delete search key)

namespace UrlLib

variable (U : UrlLib)

/-- The URL that a text stands for that was typed in. -/
def typedUrl (input : String) : Option Url :=
  let text := trimmed input.toList
  U.parse (String.ofList (if hasScheme text then text else "https://".toList ++ text))

/-- A target is canonical, and stays so. -/
structure StaysCanonical (url : Url) : Prop where
  again : U.canonicalizeTarget url.text = .ok url
  scheme : url.protocol = "http:" ∨ url.protocol = "https:"
  credentials : url.username = "" ∧ url.password = ""
  fragment : url.hash = ""
  keys : ∀ key ∈ U.keys url.search, isTrackingKey key = false ∧ isSecretKey key = false
  numeric : isIP (numericCandidate url.hostname.toList) = 0 ∧
    looksLikeObfuscatedIpv4 (numericCandidate url.hostname.toList) = false
  port : url.port = "" ∨ url.port = "80" ∨ url.port = "443"
  host : ∀ name, url.hostname.toList = name ∨ url.hostname.toList = name ++ ['.'] → isBlockedHost name = false

end UrlLib

/-- A host name of a local network, with a dot behind it. -/
def isDottedLocal (hostname : List Char) : Bool := hostname.getLast? = some '.' && isBlockedHost hostname.dropLast

theorem not_isDottedLocal_iff {hostname : List Char} : isDottedLocal hostname = false ↔
    ∀ name, hostname = name ++ ['.'] → isBlockedHost name = false := by
  rw [isDottedLocal, Bool.and_eq_false_imp, decide_eq_true_eq]
  constructor
  · rintro h name rfl
    simpa using h
  · intro h hdot
    obtain ⟨name, rfl⟩ := getLast?_eq_some_iff.1 hdot
    simpa using h name rfl

/-- The text of a website's URL begins with its scheme. -/
theorem hasScheme_text {url : Url} (hscheme : url.protocol = "http:" ∨ url.protocol = "https:") :
    hasScheme url.text.toList = true := by
  have htext : ∃ rest, url.text.toList = url.protocol.toList ++ rest := by
    simp only [Url.text, String.toList_append, append_assoc]
    exact ⟨_, rfl⟩
  obtain ⟨rest, htext⟩ := htext
  rw [htext]
  rcases hscheme with hscheme | hscheme
  · rw [hscheme]
    rfl
  · rw [hscheme]
    rfl

theorem trimmed_of_no_blanks {text : List Char} (h : ∀ c ∈ text, isBlank c = false) : trimmed text = text := by
  have hdrop : ∀ {part : List Char}, (∀ c ∈ part, isBlank c = false) → part.dropWhile isBlank = part := by
    intro part hpart
    cases part with
    | nil => rfl
    | cons c part => rw [dropWhile_cons, hpart c mem_cons_self]; rfl
  rw [trimmed, hdrop h, hdrop (fun c hc => h c (mem_reverse.1 hc)), reverse_reverse]

namespace UrlLib

variable {U : UrlLib} {IsRecord : Url → Prop} (hstandard : WhatwgUrls U IsRecord)

include hstandard

theorem isRecord_deleted (keys : List String) : ∀ {url : Url}, IsRecord url →
    IsRecord { url with search := keys.foldl U.delete url.search } := by
  induction keys with
  | nil => exact fun h => h
  | cons key keys ih => exact fun h => ih (hstandard.deleted _ key h)

/-- Keys that are deleted one after another are gone. -/
theorem deleted_gone (keys : List String) (search : String) {key : String} (hkey : key ∈ keys) :
    key ∉ U.keys (keys.foldl U.delete search) := by
  induction keys generalizing search with
  | nil => cases hkey
  | cons first keys ih =>
    rcases mem_cons.1 hkey with rfl | hkey
    · exact fun hmem => hstandard.gone search key (U.keys_foldl_delete keys _ hmem)
    · exact ih _ hkey

/-- The canonical form of a URL that was read has no tracking keys. -/
theorem untracked (url : Url) : ∀ key ∈ U.keys (U.canonical url).search, isTrackingKey key = false := by
  intro key hkey
  cases htracks : isTrackingKey key with
  | false => rfl
  | true =>
    exact absurd hkey (deleted_gone hstandard _ _ (mem_filter.2 ⟨U.keys_foldl_delete _ _ hkey, htracks⟩))

theorem isRecord_canonical {text : String} {url : Url} (hparse : U.parse text = some url)
    (hscheme : url.protocol = "http:" ∨ url.protocol = "https:") : IsRecord (U.canonical url) := by
  have hlower := U.parse_hostname text url hparse hscheme
  have hrecord := hstandard.unhashed _ (isRecord_deleted hstandard ((U.keys url.search).filter isTrackingKey)
    (hstandard.parsed text url hparse))
  rw [canonical, hlower, String.ofList_toList]
  split
  · exact hstandard.portless _ hrecord
  · exact hrecord

omit hstandard in
/-- What is accepted: the canonical form of a URL that is not refused, of a text that is not too long. -/
theorem canonicalizeTarget_eq_ok {input : String} {url : Url} : U.canonicalizeTarget input = .ok url ↔
    trimmed input.toList ≠ [] ∧ codeUnits (trimmed input.toList) ≤ 2048 ∧
      ∃ parsed, U.typedUrl input = some parsed ∧ U.refusal parsed = none ∧ U.canonical parsed = url := by
  rw [canonicalizeTarget]
  by_cases hempty : trimmed input.toList = []
  · rw [if_pos hempty]
    exact ⟨fun h => (by cases h), fun h => absurd hempty h.1⟩
  by_cases hlong : 2048 < codeUnits (trimmed input.toList)
  · rw [if_neg hempty, if_pos hlong]
    exact ⟨fun h => (by cases h), fun h => absurd h.2.1 (Nat.not_le.2 hlong)⟩
  rw [if_neg hempty, if_neg hlong, ← typedUrl.eq_def]
  cases U.typedUrl input with
  | none => exact ⟨fun h => (by cases h), fun ⟨_, _, parsed, hparsed, _⟩ => (by cases hparsed)⟩
  | some parsed =>
    dsimp only
    cases hrefused : U.refusal parsed with
    | some code =>
      refine ⟨fun h => (by cases h), fun ⟨_, _, found, hfound, hpasses, _⟩ => ?_⟩
      cases hfound
      rw [hrefused] at hpasses
      cases hpasses
    | none =>
      refine ⟨fun h => ?_, fun ⟨_, _, found, hfound, _, hcanonical⟩ => ?_⟩
      · cases h
        exact ⟨hempty, Nat.le_of_not_lt hlong, parsed, rfl, hrefused, rfl⟩
      · cases hfound
        exact congrArg Except.ok hcanonical

/-- A URL that is canonical is its own canonical form. -/
theorem canonical_eq_self {text : String} {parsed : Url} (hparse : U.parse text = some parsed)
    (hscheme : parsed.protocol = "http:" ∨ parsed.protocol = "https:") :
    U.canonical (U.canonical parsed) = U.canonical parsed := by
  have hlower := U.parse_hostname text parsed hparse hscheme
  have hnone : (U.keys (U.canonical parsed).search).filter isTrackingKey = [] := by
    rw [filter_eq_nil_iff]
    exact fun key hkey => by simp [untracked hstandard parsed key hkey]
  have hagain : U.canonical (U.canonical parsed) =
      { U.canonical parsed with
        hostname := String.ofList (lowered (U.canonical parsed).hostname.toList)
        port := if (U.canonical parsed).protocol = "https:" ∧ (U.canonical parsed).port = "443" ∨
          (U.canonical parsed).protocol = "http:" ∧ (U.canonical parsed).port = "80" then ""
          else (U.canonical parsed).port } := by
    rw [canonical, hnone]
    rfl
  rw [hagain]
  simp only [canonical, hlower, String.ofList_toList]
  split
  · simp
  · simp

/-- A canonical target is canonicalized again just where it is not too long. -/
theorem canonicalizeTarget_again {text : String} {parsed : Url} (hparse : U.parse text = some parsed)
    (hpasses : U.refusal parsed = none) : U.canonicalizeTarget (U.canonical parsed).text = .ok (U.canonical parsed) ↔
      codeUnits (U.canonical parsed).text.toList ≤ 2048 := by
  have hscheme := (U.refusal_eq_none.1 hpasses).1
  have hrecord := isRecord_canonical hstandard hparse hscheme
  have hscheme' : (U.canonical parsed).protocol = "http:" ∨ (U.canonical parsed).protocol = "https:" := hscheme
  have hread := hstandard.read_back _ hrecord hscheme'
  have htrim := trimmed_of_no_blanks (hstandard.no_blanks _ hrecord hscheme')
  have hopens := hasScheme_text hscheme'
  have htyped : U.typedUrl (U.canonical parsed).text = some (U.canonical parsed) := by
    rw [typedUrl, htrim, hopens, if_pos rfl, String.ofList_toList, hread]
  rw [canonicalizeTarget_eq_ok, htrim, htyped]
  constructor
  · exact fun h => h.2.1
  · refine fun hlength => ⟨fun hempty => ?_, hlength, _, rfl, U.refusal_canonical hparse hpasses,
      canonical_eq_self hstandard hparse hscheme⟩
    rw [hempty] at hopens
    cases hopens

/-- A target that is accepted is canonical and stays so just where its canonical form is written in 2048 units and its
host name is none of a local network with a dot behind it. No redirect leads from a secure page to one that is not. -/
theorem stays_canonical_iff {input : String} {url parsed : Url} (h : U.canonicalizeTarget input = .ok url)
    (hparsed : U.typedUrl input = some parsed) :
    (U.StaysCanonical url ↔
      codeUnits (U.canonical parsed).text.toList ≤ 2048 ∧ isDottedLocal parsed.hostname.toList = false) ∧
      ∀ source location target, U.validateRedirect source location = .ok target → source.protocol = "https:" →
        target.protocol = "https:" := by
  refine ⟨?_, fun source location target hleads => (U.validateRedirect_passes hleads).2⟩
  obtain ⟨-, -, found, hfound, hpasses, rfl⟩ := canonicalizeTarget_eq_ok.1 h
  cases hparsed.symm.trans hfound
  have hhost : (U.canonical parsed).hostname.toList = parsed.hostname.toList := by
    rw [canonical, U.parse_hostname _ _ hparsed (U.refusal_eq_none.1 hpasses).1, String.ofList_toList]
  obtain ⟨hscheme, husername, hpassword, hallowed, hport, hkeys⟩ :=
    U.refusal_eq_none.1 (U.refusal_canonical hparsed hpasses)
  have hagain := canonicalizeTarget_again hstandard hparsed hpasses
  rw [List.any_eq_false] at hkeys
  constructor
  · intro hstays
    refine ⟨hagain.1 hstays.again, not_isDottedLocal_iff.2 fun name hname => hstays.host name (.inr ?_)⟩
    rw [hhost, hname]
  · rintro ⟨hlength, hdotted⟩
    unfold hostRefusal at hallowed
    split at hallowed
    · cases hallowed
    · split at hallowed
      · cases hallowed
      · next hblocked =>
        split at hallowed
        · cases hallowed
        · next hnumeric =>
          refine ⟨hagain.2 hlength, hscheme, ⟨husername, hpassword⟩, rfl,
            fun key hkey => ⟨untracked hstandard parsed key hkey, by simpa using hkeys key hkey⟩,
            by simpa using hnumeric, hport, fun name hname => ?_⟩
          rcases hname with rfl | hname
          · simpa using hblocked
          · exact not_isDottedLocal_iff.1 hdotted name (hhost.symm.trans hname)

end UrlLib

def frontPage (hostname : String) : Url := ⟨"https:", "", "", hostname, "", "/", "", ""⟩

/-- A platform that knows of two front pages. -/
def frontPages : UrlLib where
  parse text := [frontPage "example.com", frontPage "localhost."].find? (·.text = text)
  resolve _ _ := none
  keys _ := []
  delete search _ := search
  parse_hostname := by
    intro text url h _
    have hmem := List.mem_of_find?_eq_some h
    simp only [List.mem_cons, List.not_mem_nil, or_false] at hmem
    rcases hmem with rfl | rfl
    · decide +kernel
    · decide +kernel
  keys_delete _ _ _ h := h

theorem frontPages_standard : WhatwgUrls frontPages (· ∈ [frontPage "example.com", frontPage "localhost."]) := by
  have hpages : ∀ url ∈ [frontPage "example.com", frontPage "localhost."],
      url = { url with hash := "" } ∧ url = { url with port := "" } ∧ frontPages.parse url.text = some url ∧
        url.text.toList.all (!isBlank ·) = true := by
    simp only [forall_mem_cons, not_mem_nil, false_imp_iff, implies_true, and_true]
    exact ⟨⟨rfl, rfl, by decide +kernel, by decide +kernel⟩, rfl, rfl, by decide +kernel, by decide +kernel⟩
  constructor
  case parsed =>
    intro text url h
    exact mem_of_find?_eq_some (p := fun page : Url => decide (page.text = text)) h
  case deleted => exact fun url key h => h
  case unhashed => exact fun url h => (hpages url h).1 ▸ h
  case portless => exact fun url h => (hpages url h).2.1 ▸ h
  case read_back => exact fun url h _ => (hpages url h).2.2.1
  case no_blanks => exact fun url h _ c hc => by simpa using all_eq_true.1 (hpages url h).2.2.2 c hc
  case gone =>
    intro search key hkey
    cases hkey

theorem front_page_stays_canonical : frontPages.StaysCanonical (frontPage "example.com") := by
  have haccepted : frontPages.canonicalizeTarget "https://example.com/" = .ok (frontPage "example.com") := by
    decide +kernel
  have htyped : frontPages.typedUrl "https://example.com/" = some (frontPage "example.com") := by decide +kernel
  exact (UrlLib.stays_canonical_iff frontPages_standard haccepted htyped).1.2 (by decide +kernel)

/-- The host name of the computer itself is accepted with a dot behind it. -/
theorem dotted_localhost_accepted : ¬ ∀ (U : UrlLib) (IsRecord : Url → Prop), WhatwgUrls U IsRecord →
    ∀ (input : String) (url : Url), U.canonicalizeTarget input = .ok url → U.StaysCanonical url := by
  intro h
  have hstays := h frontPages _ frontPages_standard "https://localhost./" (frontPage "localhost.") (by decide +kernel)
  exact absurd (hstays.host "localhost".toList (.inr (by decide +kernel))) (by decide +kernel)

end Coinslot
