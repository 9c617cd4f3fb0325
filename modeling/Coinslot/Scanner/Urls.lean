import Coinslot.Lib.IpText

/-!
# Which addresses a scan may be pointed at

The policy of the scanner for URLs (`packages/scanner/src/url.ts`): what a target that was typed in is taken
for, and which URLs it refuses. Texts are parsed as URLs, and resolved against one, by the platform
(`UrlLib`); of its parser the policy relies on host names in lower case, and of its queries on keys that are
gone once they are deleted.
-/

namespace Coinslot

open IpText

/-- A URL, by its parts. -/
structure Url where
  protocol : String
  username : String
  password : String
  hostname : String
  port : String
  pathname : String
  search : String
  hash : String
  deriving DecidableEq, Repr

namespace Url

variable (url : Url)

def host : String := if url.port = "" then url.hostname else url.hostname ++ ":" ++ url.port

def origin : String := url.protocol ++ "//" ++ url.host

/-- The text of a URL. -/
def text : String :=
  let credentials :=
    if url.username = "" ∧ url.password = "" then ""
    else if url.password = "" then url.username ++ "@"
    else url.username ++ ":" ++ url.password ++ "@"
  url.protocol ++ "//" ++ credentials ++ url.host ++ url.pathname ++ url.search ++ url.hash

/-- The URL with the protocol set to `http:`, whose own port is not written. -/
def asHttp : Url := { url with protocol := "http:", port := if url.port = "80" then "" else url.port }

end Url

def lowered (text : List Char) : List Char := text.map Char.toLower

/-- How the platform makes URLs of texts, and queries of keys. -/
structure UrlLib where
  parse : String → Option Url
  resolve : String → Url → Option Url
  keys : String → List String
  delete : String → String → String
  parse_hostname : ∀ text url, parse text = some url → url.protocol = "http:" ∨ url.protocol = "https:" →
    lowered url.hostname.toList = url.hostname.toList
  keys_delete : ∀ search key other, other ∈ keys (delete search key) → other ∈ keys search

/-! ## Texts -/

/-- What is trimmed off a text: white space and line ends. -/
def isBlank (c : Char) : Bool :=
  c.toNat ∈ [0x9, 0xa, 0xb, 0xc, 0xd, 0x20, 0xa0, 0x1680, 0x2000, 0x2001, 0x2002, 0x2003, 0x2004, 0x2005,
    0x2006, 0x2007, 0x2008, 0x2009, 0x200a, 0x2028, 0x2029, 0x202f, 0x205f, 0x3000, 0xfeff]

def trimmed (text : List Char) : List Char := ((text.dropWhile isBlank).reverse.dropWhile isBlank).reverse

def codeUnits (text : List Char) : Nat := (text.map fun c => if c.toNat < 0x10000 then 1 else 2).sum

/-- Whether a text begins with a scheme. -/
def hasScheme : List Char → Bool
  | [] => false
  | c :: rest => c.isAlpha && (rest.dropWhile fun c => c.isAlphanum || c ∈ ['+', '.', '-']).head? = some ':'

/-! ## What is refused -/

/-- Whether a key of a query tells where a visitor came from. -/
def isTrackingKey (key : String) : Bool :=
  let key := lowered key.toList
  key = "fbclid".toList || key = "gclid".toList ||
    "utm_".toList.isPrefixOf key && 4 < key.length &&
      key.all fun c => !(c.toNat ∈ [0xa, 0xd, 0x2028, 0x2029])

/-- Whether a key of a query names a secret: one of its words does. -/
def isSecretKey (key : String) : Bool :=
  ((lowered key.toList).splitOnP fun c => c = '_' || c = '-').any fun word =>
    word ∈ ["token", "key", "secret", "password", "signature", "auth"].map String.toList

/-- Whether a host name is one of a local network. -/
def isBlockedHost (hostname : List Char) : Bool :=
  ((lowered hostname).splitOn '.').getLast?.any fun label =>
    label ∈ ["localhost", "local", "internal"].map String.toList

def isHexNumber (text : List Char) : Bool :=
  "0x".toList.isPrefixOf (lowered text) && 2 < text.length && (text.drop 2).all (· ∈ hexDigits)

def isDecNumber (text : List Char) : Bool := text ≠ [] && text.all (· ∈ digits)

/-- Whether a host name is an IPv4 address that is written to look like something else. -/
def looksLikeObfuscatedIpv4 (hostname : List Char) : Bool :=
  isHexNumber hostname || isDecNumber hostname ||
    let parts := hostname.splitOn '.'
    (parts.all fun part => isHexNumber part || isDecNumber part) &&
      parts.any fun part => "0x".toList.isPrefixOf part || 1 < part.length && part.head? = some '0'

/-- The host name without the brackets around it. -/
def numericCandidate (hostname : List Char) : List Char :=
  let opened := if hostname.head? = some '[' then hostname.tail else hostname
  if opened.getLast? = some ']' then opened.dropLast else opened

/-- Why a host name is refused, if it is. -/
def hostRefusal (hostname : List Char) : Option String :=
  if 253 < codeUnits hostname then some "hostname_too_long"
  else if isBlockedHost hostname then some "hostname_blocked"
  else if isIP (numericCandidate hostname) ≠ 0 || looksLikeObfuscatedIpv4 (numericCandidate hostname) then
    some "numeric_host_blocked"
  else none

section

variable (U : UrlLib)

/-- Why a URL is refused, if it is. -/
def UrlLib.refusal (url : Url) : Option String :=
  if url.protocol ≠ "http:" ∧ url.protocol ≠ "https:" then some "scheme_blocked"
  else if url.username ≠ "" ∨ url.password ≠ "" then some "credentials_blocked"
  else
    match hostRefusal url.hostname.toList with
    | some code => some code
    | none =>
      if url.port ≠ "" ∧ url.port ≠ "80" ∧ url.port ≠ "443" then some "port_blocked"
      else if (U.keys url.search).any isSecretKey then some "secret_query_blocked"
      else none

/-- A URL that is not refused, without what is of no matter. -/
def UrlLib.canonical (url : Url) : Url :=
  { url with
    search := ((U.keys url.search).filter isTrackingKey).foldl U.delete url.search
    hash := ""
    hostname := String.ofList (lowered url.hostname.toList)
    port :=
      if url.protocol = "https:" ∧ url.port = "443" ∨ url.protocol = "http:" ∧ url.port = "80" then ""
      else url.port }

/-- What a text is taken for that was typed in. -/
def UrlLib.canonicalizeTarget (input : String) : Except String Url :=
  let text := trimmed input.toList
  if text = [] then .error "url_empty"
  else if 2048 < codeUnits text then .error "url_too_long"
  else
    match U.parse (String.ofList (if hasScheme text then text else "https://".toList ++ text)) with
    | none => .error "url_invalid"
    | some url =>
      match U.refusal url with
      | some code => .error code
      | none => .ok (U.canonical url)

/-- Where a redirect leads. -/
def UrlLib.validateRedirect (source : Url) (location : String) : Except String Url :=
  match U.resolve location source with
  | none => .error "redirect_invalid"
  | some url =>
    match U.canonicalizeTarget url.text with
    | .error code => .error code
    | .ok candidate =>
      if source.protocol = "https:" ∧ candidate.protocol ≠ "https:" then .error "redirect_downgrade_blocked"
      else .ok candidate

end

/-! ## What passes -/

namespace UrlLib

variable (U : UrlLib)

variable {url : Url}

theorem refusal_eq_none : U.refusal url = none ↔
    (url.protocol = "http:" ∨ url.protocol = "https:") ∧ url.username = "" ∧ url.password = "" ∧
      hostRefusal url.hostname.toList = none ∧ (url.port = "" ∨ url.port = "80" ∨ url.port = "443") ∧
      (U.keys url.search).any isSecretKey = false := by
  unfold refusal
  cases hostRefusal url.hostname.toList with
  | some code => grind
  | none => grind

theorem keys_foldl_delete (keys : List String) (search : String) {key : String}
    (h : key ∈ U.keys (keys.foldl U.delete search)) : key ∈ U.keys search := by
  induction keys generalizing search with
  | nil => exact h
  | cons first keys ih => exact U.keys_delete search first key (ih _ h)

theorem refusal_canonical {text : String} (hparse : U.parse text = some url) (h : U.refusal url = none) :
    U.refusal (U.canonical url) = none := by
  obtain ⟨hprotocol, husername, hpassword, hhost, hport, hkeys⟩ := U.refusal_eq_none.1 h
  refine U.refusal_eq_none.2 ⟨hprotocol, husername, hpassword, ?_, ?_, ?_⟩
  · have hlower := U.parse_hostname text url hparse hprotocol
    simpa [canonical, hlower] using hhost
  · simp only [canonical]
    split
    · exact .inl rfl
    · exact hport
  · rw [List.any_eq_false] at hkeys ⊢
    intro key hkey
    exact hkeys key (U.keys_foldl_delete _ _ hkey)

theorem canonicalizeTarget_passes {input : String} (h : U.canonicalizeTarget input = .ok url) :
    U.refusal url = none := by
  unfold canonicalizeTarget at h
  dsimp only at h
  split at h
  · cases h
  · split at h
    · cases h
    · split at h
      · cases h
      · next parsed hparse =>
        split at h
        · cases h
        · next hpasses => cases h; exact U.refusal_canonical hparse hpasses

theorem validateRedirect_passes {source : Url} {location : String}
    (h : U.validateRedirect source location = .ok url) :
    U.refusal url = none ∧ (source.protocol = "https:" → url.protocol = "https:") := by
  unfold validateRedirect at h
  split at h
  · cases h
  · split at h
    · cases h
    · next candidate hcandidate =>
      split at h
      · cases h
      · next hsafe =>
        cases h
        refine ⟨U.canonicalizeTarget_passes hcandidate, fun hsource => ?_⟩
        by_contra hdown
        exact hsafe ⟨hsource, hdown⟩

/-- A URL that passes still passes over `http:`. -/
theorem refusal_asHttp (h : U.refusal url = none) : U.refusal url.asHttp = none := by
  obtain ⟨-, husername, hpassword, hhost, hport, hkeys⟩ := U.refusal_eq_none.1 h
  refine U.refusal_eq_none.2 ⟨.inl rfl, husername, hpassword, hhost, ?_, hkeys⟩
  simp only [Url.asHttp]
  split
  · exact .inl rfl
  · exact hport

end UrlLib

end Coinslot
