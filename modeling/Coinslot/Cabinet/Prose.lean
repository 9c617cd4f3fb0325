import Coinslot.Lib.Rewriting
import Coinslot.Lib.Percent
import Mathlib.Data.List.TakeWhile

/-!
# A shop's prose as text

How the HTML of a shop becomes a card's prose (`plainTextOf` of `apps/cabinet/src/woo-catalog.ts`): hidden blocks go,
then tags, then the references are put back, and last runs of white space become one space and the ends are trimmed.
Each of the four goes once over the text, from left to right.

A text may be written as HTML in many ways, character by character as itself or as a reference (`Piece`). Where it is
written so that no character of it could be read as the beginning of a tag or of a reference, it comes out as it was
meant, but for one thing: the names are looked up in an object, and an object answers for a name it inherited as well
(`INHERITED`). Of these the only one that can be written as a reference is `constructor`.
-/

namespace Coinslot.Prose

open Utf16 Rewriting List

/-! ## Characters -/

section

variable (u : CodeUnit)

/-- `[a-z]`, in either case. -/
def isLetter : Bool := within 'a' 'z' u || within 'A' 'Z' u

/-- `\d`. -/
def isDigit : Bool := within '0' '9' u

/-- `\w`, between which and anything else there is a `\b`. -/
def isWordCharacter : Bool := isLetter u || isDigit u || u == unit '_'

/-- `\s`. -/
def isBlank : Bool := isSpace u.val

end

/-- The characters HTML has to spell out, and others an editor spells out, by the names they have. -/
def NAMED_CHARACTERS : List (Text × Text) :=
  [(text "amp", text "&"), (text "lt", text "<"), (text "gt", text ">"), (text "quot", text "\u0022"),
    (text "apos", text "\u0027"), (text "nbsp", text " "), (text "ndash", text "\u2013"),
    (text "mdash", text "\u2014"), (text "hellip", text "\u2026"), (text "laquo", text "\u00ab"),
    (text "raquo", text "\u00bb"), (text "ldquo", text "\u201c"), (text "rdquo", text "\u201d"),
    (text "lsquo", text "\u2018"), (text "rsquo", text "\u2019")]

def nativeCode (name : String) : Text := text "function " ++ text name ++ text "() \x7b [native code] \x7d"

/-- What every object inherits, by name, as a text. -/
def INHERITED : List (Text × Text) :=
  [(text "constructor", nativeCode "Object"), (text "__defineGetter__", nativeCode "__defineGetter__"),
    (text "__defineSetter__", nativeCode "__defineSetter__"), (text "hasOwnProperty", nativeCode "hasOwnProperty"),
    (text "__lookupGetter__", nativeCode "__lookupGetter__"),
    (text "__lookupSetter__", nativeCode "__lookupSetter__"), (text "isPrototypeOf", nativeCode "isPrototypeOf"),
    (text "propertyIsEnumerable", nativeCode "propertyIsEnumerable"), (text "toString", nativeCode "toString"),
    (text "valueOf", nativeCode "valueOf"), (text "__proto__", text "[object Object]"),
    (text "toLocaleString", nativeCode "toLocaleString")]

/-- `NAMED_CHARACTERS[name]`, as a text. -/
def property (name : Text) : Option Text := (NAMED_CHARACTERS.lookup name).or (INHERITED.lookup name)

/-- The elements a browser puts on a line of their own. -/
def BREAKS_THE_LINE : List Text :=
  [text "p", text "div", text "br", text "hr", text "li", text "ul", text "ol", text "dl", text "dt", text "dd",
    text "tr", text "td", text "th", text "table", text "thead", text "tbody", text "h1", text "h2", text "h3",
    text "h4", text "h5", text "h6", text "blockquote", text "pre", text "section", text "article", text "header",
    text "footer", text "figure", text "figcaption"]

/-! ## The four passes -/

/-- What stands behind some letters, in either case, at the front of a text. -/
def behind (letters : Text) (html : Text) : Option Text :=
  if (html.take letters.length).map lowered = letters then some (html.drop letters.length) else none

/-- What stands behind the rest of a tag: `[^>]*>`. -/
def behindTag (html : Text) : Option Text :=
  match html.dropWhile (· ≠ unit '>') with
  | [] => none
  | _ :: rest => some rest

/-- What stands behind the closing tag of a block, where one is at the front: `<\/\1\s*>`. -/
def behindClosing (element : Text) (html : Text) : Option Text :=
  match (behind (text "</" ++ element) html).map (·.dropWhile isBlank) with
  | some (u :: rest) => if u = unit '>' then some rest else none
  | _ => none

/-- What stands behind the first closing tag of a block: `[\s\S]*?<\/\1\s*>`. -/
def behindBlock (element : Text) : Text → Option Text
  | [] => none
  | u :: html => (behindClosing element (u :: html)).or (behindBlock element html)

/-- A block a browser does not show: `<(script|style)\b[^>]*>[\s\S]*?<\/\1\s*>`. -/
def hiddenBlockOf (element : Text) (html : Text) : Option Text :=
  match behind (unit '<' :: element) html with
  | none => none
  | some rest => if rest.head?.any isWordCharacter then none else (behindTag rest).bind (behindBlock element)

/-- A hidden block becomes a space, so that the words around it stay two. -/
def hiddenBlock : Pattern CodeUnit := fun html =>
  ((hiddenBlockOf (text "script") html).or (hiddenBlockOf (text "style") html)).map fun rest => ([unit ' '], rest)

/-- The text behind `<` and the slash of a closing tag. -/
def behindSlash (html : Text) : Text :=
  match html with
  | [] => []
  | u :: rest => if u = unit '/' then rest else u :: rest

/-- A tag, `<\/?([a-z][a-z0-9]*)\b[^>]*>`, which becomes a space where it ends a line and nothing where it does not. -/
def tag : Pattern CodeUnit
  | [] => none
  | u :: html =>
    let opened := behindSlash html
    let name := opened.takeWhile fun v => isLetter v || isDigit v
    let rest := opened.dropWhile fun v => isLetter v || isDigit v
    if u = unit '<' ∧ name.head?.any isLetter ∧ ¬ rest.head?.any isWordCharacter then
      (behindTag rest).map ((if name.map lowered ∈ BREAKS_THE_LINE then [unit ' '] else []), ·)
    else none

/-- What may stand between `&` and `;`: `#x[0-9a-f]+|#\d+|[a-z]+`, in either case. -/
def isReferenceBody (body : Text) : Bool :=
  match body with
  | [] => false
  | u :: rest =>
    if u = unit '#' then
      match rest with
      | [] => false
      | v :: digits =>
        if lowered v = unit 'x' then digits ≠ [] && digits.all fun d => (hexValue? d).isSome
        else (v :: digits).all isDigit
    else (u :: rest).all isLetter

/-- `Number.parseInt`, of digits. -/
def parseInt (digits : Text) (radix : Nat) : Nat :=
  digits.foldl (fun value d => value * radix + (hexValue? d).getD 0) 0

/-- One character from its number, or nothing where that number is not one. -/
def codePoint (value : Nat) : Option Text := if 0x10ffff < value then none else some (unitsOfScalar value)

/-- What a reference is replaced by. -/
def referredTo (whole name : Text) : Text :=
  if (text "#x").isPrefixOf name || (text "#X").isPrefixOf name then
    (codePoint (parseInt (name.drop 2) 16)).getD whole
  else if (text "#").isPrefixOf name then (codePoint (parseInt (name.drop 1) 10)).getD whole
  else (property (name.map lowered)).getD whole

/-- A reference with its ampersand and its semicolon. -/
def reference (body : Text) : Text := unit '&' :: (body ++ [unit ';'])

/-- A reference, put back as the character it refers to. -/
def referenceAt : Pattern CodeUnit
  | [] => none
  | u :: html =>
    let body := html.takeWhile (· ≠ unit ';')
    match html.dropWhile (· ≠ unit ';') with
    | [] => none
    | _ :: rest =>
      if u = unit '&' ∧ isReferenceBody body then some (referredTo (reference body) body, rest) else none

/-- A run of white space, which becomes one space. -/
def blanks : Pattern CodeUnit
  | [] => none
  | u :: rest => if isBlank u then some ([unit ' '], rest.dropWhile isBlank) else none

/-- `trim`. -/
def trim (t : Text) : Text := ((t.dropWhile isBlank).reverse.dropWhile isBlank).reverse

/-- A text with its runs of white space collapsed and its ends trimmed. -/
def collapsed (t : Text) : Text := trim (replaceAll blanks t)

/-- A shop's prose as text. -/
def plainTextOf (html : Text) : Text :=
  let withoutHiddenBlocks := replaceAll hiddenBlock html
  let withoutTags := replaceAll tag withoutHiddenBlocks
  let decoded := replaceAll referenceAt withoutTags
  collapsed decoded

example : plainTextOf (text "<p>A single-use access code <em>by email</em>.</p>") =
    text "A single-use access code by email." := by decide +kernel

example : plainTextOf (text "<script>alert(1)</script><p>Real text.</p>") = text "Real text." := by decide +kernel

/-! ## Ways of writing a text -/

/-- A place of a text from which on it could be read as a tag. -/
def ReadsAsTag (html : Text) : Prop :=
  ∃ slash first name attributes rest, html = unit '<' :: (slash ++ first :: (name ++ (attributes ++ unit '>' :: rest))) ∧
    (slash = [] ∨ slash = [unit '/']) ∧ isLetter first = true ∧
    (∀ u ∈ name, (isLetter u || isDigit u) = true) ∧ attributes.head?.any isWordCharacter = false ∧
    unit '>' ∉ attributes

def ReadsAsReference (html : Text) : Prop := ∃ body rest, html = reference body ++ rest ∧ isReferenceBody body = true

/-- A piece of HTML that says a character, or a reference that says none. -/
inductive Piece where
  | itself (u : CodeUnit)
  | decimal (digits : Text)
  /-- The letter is the x behind the number sign. -/
  | hexadecimal (letter : CodeUnit) (digits : Text)
  | named (name character : Text)
  | unlisted (body : Text)

/-- How a piece is written. -/
def Piece.html : Piece → Text
  | .itself u => [u]
  | .decimal digits => reference (unit '#' :: digits)
  | .hexadecimal letter digits => reference (unit '#' :: letter :: digits)
  | .named name _ => reference name
  | .unlisted body => reference body

/-- What a piece says. -/
def Piece.means : Piece → Text
  | .itself u => [u]
  | .decimal digits => unitsOfScalar (parseInt digits 10)
  | .hexadecimal _ digits => unitsOfScalar (parseInt digits 16)
  | .named _ character => character
  | .unlisted body => reference body

def htmlOf (pieces : List Piece) : Text := pieces.flatMap Piece.html

def textOf (pieces : List Piece) : Text := pieces.flatMap Piece.means

/-- A reference that is neither a listed name nor the number of a character. -/
structure Unlisted (body : Text) : Prop where
  reads : isReferenceBody body = true
  name : NAMED_CHARACTERS.lookup (body.map lowered) = none
  decimal : ∀ digits, body = unit '#' :: digits → (digits.all isDigit) = true → 0x10ffff < parseInt digits 10
  hexadecimal : ∀ letter digits, body = unit '#' :: letter :: digits → lowered letter = unit 'x' →
    0x10ffff < parseInt digits 16

/-- A piece that may stand in front of some HTML. A character stands as itself where it could not be read as the
beginning of anything else; a reference to a character is its number, in digits that may begin with zeros, or a name
it is listed by. The name of the space that does not break is listed as a space. -/
def Piece.Fits (after : Text) : Piece → Prop
  | .itself u => ¬ ReadsAsTag (u :: after) ∧ ¬ ReadsAsReference (u :: after)
  | .decimal digits => digits ≠ [] ∧ (∀ d ∈ digits, isDigit d = true) ∧ parseInt digits 10 ≤ 0x10ffff
  | .hexadecimal letter digits => lowered letter = unit 'x' ∧ digits ≠ [] ∧
    (∀ d ∈ digits, (hexValue? d).isSome = true) ∧ parseInt digits 16 ≤ 0x10ffff
  | .named name character =>
    NAMED_CHARACTERS.lookup (name.map lowered) = some character ∨
      name.map lowered = text "nbsp" ∧ character = text "\u00a0"
  | .unlisted body => Unlisted body

/-- Pieces that may stand one after another. -/
def Fit : List Piece → Prop
  | [] => True
  | piece :: pieces => piece.Fits (htmlOf pieces) ∧ Fit pieces

/-! ## Letters and digits -/

variable {u : CodeUnit}

theorem isLetter_iff : isLetter u = true ↔ (97 ≤ u.val ∧ u.val ≤ 122) ∨ (65 ≤ u.val ∧ u.val ≤ 90) := by
  rw [isLetter, Bool.or_eq_true, within_iff, within_iff]
  exact Iff.rfl

theorem isDigit_iff : isDigit u = true ↔ 48 ≤ u.val ∧ u.val ≤ 57 := by
  rw [isDigit, within_iff]
  exact Iff.rfl

theorem isLetter_lowered : isLetter (lowered u) = true ↔ isLetter u = true := by
  rw [isLetter_iff, isLetter_iff, lowered_val]
  split <;> omega

variable {v letter : CodeUnit}

theorem eq_of_lowered (h : lowered u = v) (hv : isLetter v = false) : u = v := by
  by_cases hu : isLetter u = true
  · rw [← isLetter_lowered, h, hv] at hu
    cases hu
  · rw [isLetter_iff] at hu
    rw [← h, Fin.ext_iff, lowered_val, if_neg fun hrange => hu (.inr hrange)]

variable {body : Text}

theorem of_mem_body (h : isReferenceBody body = true) : ∀ u ∈ body, u ≠ unit '<' ∧ u ≠ unit ';' := by
  have hhash : unit '#' ≠ unit '<' ∧ unit '#' ≠ unit ';' := by decide
  have hletter : ∀ {u}, isLetter u = true → u ≠ unit '<' ∧ u ≠ unit ';' := by
    intro u hu
    constructor <;> (rintro rfl; exact absurd hu (by decide))
  have hdigit : ∀ {u}, isDigit u = true → u ≠ unit '<' ∧ u ≠ unit ';' := by
    intro u hu
    constructor <;> (rintro rfl; exact absurd hu (by decide))
  have hhex : ∀ {u}, (hexValue? u).isSome = true → u ≠ unit '<' ∧ u ≠ unit ';' := by
    intro u hu
    constructor <;> (rintro rfl; exact absurd hu (by decide))
  intro u hu
  cases body with
  | nil => exact absurd hu not_mem_nil
  | cons first rest =>
    unfold isReferenceBody at h
    dsimp only at h
    split at h
    · next hfirst =>
      rcases mem_cons.mp hu with rfl | hu
      · rw [hfirst]
        exact hhash
      · cases rest with
        | nil => exact absurd hu not_mem_nil
        | cons letter digits =>
          dsimp only at h
          split at h
          · next hx =>
            rw [Bool.and_eq_true, all_eq_true] at h
            rcases mem_cons.mp hu with rfl | hu
            · have hletterx : isLetter u = true := by
                rw [← isLetter_lowered, hx]
                decide
              exact hletter hletterx
            · exact hhex (h.2 u hu)
          · rw [all_eq_true] at h
            exact hdigit (h u hu)
    · rw [all_eq_true] at h
      exact hletter (h u hu)

/-! ## The first two passes -/

variable {html rest : Text}

theorem behind_eq_some {letters : Text} (h : behind letters html = some rest) :
    html.take letters.length ++ rest = html ∧ (html.take letters.length).map lowered = letters := by
  unfold behind at h
  split at h
  · next heq =>
    cases h
    exact ⟨take_append_drop _ _, heq⟩
  · cases h

theorem behindTag_eq_some (h : behindTag html = some rest) :
    ∃ attributes, html = attributes ++ unit '>' :: rest ∧ unit '>' ∉ attributes := by
  have hsplit := takeWhile_append_dropWhile (p := (· ≠ unit '>')) (l := html)
  unfold behindTag at h
  split at h
  · cases h
  · next u behind hdrop =>
    cases h
    have hu : u = unit '>' := by
      have := head?_dropWhile_not (· ≠ unit '>') html
      rw [hdrop] at this
      simpa using this
    rw [hdrop, hu] at hsplit
    exact ⟨_, hsplit.symm, fun hmem => absurd (mem_takeWhile_imp hmem) (by decide)⟩

theorem head?_any_of_append {p : CodeUnit → Bool} (h : (html ++ rest).head?.any p = false) :
    html.head?.any p = false := by
  cases html with
  | nil => rfl
  | cons u html => exact h

variable {found : Text × Text}

theorem readsAsTag_of_tag (h : tag html = some found) : ReadsAsTag html := by
  cases html with
  | nil => cases h
  | cons u html =>
    simp only [tag] at h
    split at h
    · next hopens =>
      obtain ⟨rfl, hfirst, hword⟩ := hopens
      obtain ⟨rest, hrest, -⟩ := Option.map_eq_some_iff.mp h
      obtain ⟨attributes, hends, hmem⟩ := behindTag_eq_some hrest
      set opened := behindSlash html with hopened
      have hsplit := takeWhile_append_dropWhile (p := fun v => isLetter v || isDigit v) (l := opened)
      rw [hends] at hsplit hword
      cases hname : opened.takeWhile fun v => isLetter v || isDigit v with
      | nil =>
        rw [hname] at hfirst
        cases hfirst
      | cons first name =>
        have hall : ∀ v ∈ first :: name, (isLetter v || isDigit v) = true := by
          rw [← hname]
          exact fun v hv => mem_takeWhile_imp (p := fun v => isLetter v || isDigit v) hv
        rw [hname] at hsplit hfirst
        obtain ⟨slash, hslash, heq⟩ : ∃ slash, (slash = [] ∨ slash = [unit '/']) ∧ html = slash ++ opened := by
          cases html with
          | nil => exact ⟨[], .inl rfl, rfl⟩
          | cons v html =>
            by_cases hv : v = unit '/'
            · exact ⟨[unit '/'], .inr rfl, by rw [hopened, behindSlash, if_pos hv, hv]; rfl⟩
            · exact ⟨[], .inl rfl, by rw [hopened, behindSlash, if_neg hv]; rfl⟩
        rw [Bool.not_eq_true] at hword
        exact ⟨slash, first, name, attributes, rest, by rw [heq, ← hsplit]; rfl, hslash, hfirst,
          fun v hv => hall v (mem_cons_of_mem _ hv), head?_any_of_append hword, hmem⟩
    · cases h

theorem readsAsTag_of_hiddenBlockOf {element : Text} (hne : element ≠ [])
    (hletters : ∀ u ∈ element, isLetter u = true) (h : hiddenBlockOf element html = some rest) : ReadsAsTag html := by
  unfold hiddenBlockOf at h
  split at h
  · cases h
  · next behind hbehind =>
    split at h
    · cases h
    · next hword =>
      obtain ⟨after, hafter, -⟩ := Option.bind_eq_some_iff.mp h
      obtain ⟨attributes, rfl, hmem⟩ := behindTag_eq_some hafter
      obtain ⟨hhtml, hlowered⟩ := behind_eq_some hbehind
      cases hfront : html.take (unit '<' :: element).length with
      | nil =>
        rw [hfront] at hlowered
        cases hlowered
      | cons opens name =>
        rw [hfront, map_cons, List.cons.injEq] at hlowered
        have hopens := eq_of_lowered hlowered.1 (by decide)
        have hname : ∀ u ∈ name, isLetter u = true := by
          intro u hu
          rw [← isLetter_lowered]
          exact hletters _ (hlowered.2 ▸ mem_map_of_mem hu)
        cases name with
        | nil => exact absurd hlowered.2.symm hne
        | cons first name =>
          rw [Bool.not_eq_true] at hword
          exact ⟨[], first, name, attributes, after, by rw [← hhtml, hfront, hopens]; rfl, .inl rfl,
            hname first mem_cons_self, fun u hu => by rw [hname u (mem_cons_of_mem _ hu), Bool.true_or],
            head?_any_of_append hword, hmem⟩

theorem readsAsTag_of_hiddenBlock (h : hiddenBlock html = some found) : ReadsAsTag html := by
  obtain ⟨rest, hrest, -⟩ := Option.map_eq_some_iff.mp h
  rcases Option.or_eq_some_iff.mp hrest with hscript | ⟨-, hstyle⟩
  · exact readsAsTag_of_hiddenBlockOf (by decide) (all_eq_true.mp (by decide)) hscript
  · exact readsAsTag_of_hiddenBlockOf (by decide) (all_eq_true.mp (by decide)) hstyle

theorem kept_of_no_tag {find : Pattern CodeUnit}
    (hfind : ∀ {html : Text} {found : Text × Text}, find html = some found → ReadsAsTag html)
    (h : ∀ rest, rest <:+ html → ¬ ReadsAsTag rest) : replaceAll find html = html := by
  refine replaceAll_eq_self fun rest hrest => ?_
  cases hfound : find rest with
  | none => rfl
  | some found => exact absurd (hfind hfound) (h rest hrest)

theorem ReadsAsTag.head (h : ReadsAsTag (u :: html)) : u = unit '<' := by
  obtain ⟨slash, first, name, attributes, rest, heq, -⟩ := h
  exact (List.cons.inj heq).1

theorem suffix_of_readsAsTag {front : Text} (hfront : ∀ u ∈ front, u ≠ unit '<')
    (hrest : rest <:+ front ++ html) (h : ReadsAsTag rest) : rest <:+ html := by
  induction front with
  | nil => exact hrest
  | cons u front ih =>
    rw [cons_append, suffix_cons_iff] at hrest
    rcases hrest with rfl | hrest
    · exact absurd h.head (hfront u mem_cons_self)
    · exact ih (fun v hv => hfront v (mem_cons_of_mem _ hv)) hrest

theorem of_mem_reference (h : isReferenceBody body = true) : ∀ u ∈ reference body, u ≠ unit '<' := by
  intro u hu
  rw [reference, mem_cons, mem_append, mem_singleton] at hu
  rcases hu with rfl | hu | rfl
  · decide
  · exact (of_mem_body h u hu).1
  · decide

/-! ## References -/

theorem isReferenceBody_decimal {digits : Text} (hne : digits ≠ []) (h : ∀ d ∈ digits, isDigit d = true) :
    isReferenceBody (unit '#' :: digits) = true := by
  cases digits with
  | nil => exact absurd rfl hne
  | cons d digits =>
    have hd : lowered d ≠ unit 'x' := by
      intro hx
      have hdigit := isDigit_iff.mp (h d mem_cons_self)
      have hletter : isLetter d = true := by
        rw [← isLetter_lowered, hx]
        decide
      rw [isLetter_iff] at hletter
      omega
    unfold isReferenceBody
    dsimp only
    rw [if_pos rfl, if_neg hd, all_eq_true]
    exact h

theorem isReferenceBody_hexadecimal {digits : Text} (hx : lowered letter = unit 'x') (hne : digits ≠ [])
    (h : ∀ d ∈ digits, (hexValue? d).isSome = true) :
    isReferenceBody (unit '#' :: letter :: digits) = true := by
  unfold isReferenceBody
  dsimp only
  rw [if_pos rfl, if_pos hx, Bool.and_eq_true, decide_eq_true_iff, all_eq_true]
  exact ⟨hne, h⟩

variable {name : Text}

theorem isReferenceBody_name (hne : name ≠ []) (h : ∀ u ∈ name, isLetter u = true) :
    isReferenceBody name = true := by
  cases name with
  | nil => exact absurd rfl hne
  | cons u name =>
    have hu : u ≠ unit '#' := by
      rintro rfl
      exact absurd (h _ mem_cons_self) (by decide)
    unfold isReferenceBody
    dsimp only
    rw [if_neg hu, all_eq_true]
    exact h

theorem letters_of_listed {character : Text} (h : NAMED_CHARACTERS.lookup name = some character) :
    name ≠ [] ∧ ∀ u ∈ name, isLetter u = true := by
  have hall : NAMED_CHARACTERS.all (fun listed => listed.1 ≠ [] && listed.1.all isLetter) = true := by decide +kernel
  have hmem : (name, character) ∈ NAMED_CHARACTERS := by
    obtain ⟨front, back, heq, -⟩ := lookup_eq_some_iff.mp h
    rw [heq]
    exact mem_append_right _ mem_cons_self
  have hname := all_eq_true.mp hall _ hmem
  rw [Bool.and_eq_true, decide_eq_true_iff, all_eq_true] at hname
  exact hname

theorem isReferenceBody_of_lowered (hne : name.map lowered ≠ [])
    (h : ∀ u ∈ name.map lowered, isLetter u = true) : isReferenceBody name = true :=
  isReferenceBody_name (fun hnil => hne (by rw [hnil]; rfl)) fun u hu => isLetter_lowered.mp (h _ (mem_map_of_mem hu))

theorem Piece.Fits.reads {after : Text} : ∀ {piece : Piece}, piece.Fits after →
    (∃ u, piece = .itself u) ∨ ∃ body, piece.html = reference body ∧ isReferenceBody body = true
  | .itself u, _ => .inl ⟨u, rfl⟩
  | .decimal digits, ⟨hne, hdigits, _⟩ => .inr ⟨_, rfl, isReferenceBody_decimal hne hdigits⟩
  | .hexadecimal letter digits, ⟨hx, hne, hdigits, _⟩ => .inr ⟨_, rfl, isReferenceBody_hexadecimal hx hne hdigits⟩
  | .named name character, hlisted => by
    refine .inr ⟨name, rfl, ?_⟩
    rcases hlisted with hlisted | ⟨hnbsp, -⟩
    · obtain ⟨hne, hletters⟩ := letters_of_listed hlisted
      exact isReferenceBody_of_lowered hne hletters
    · exact isReferenceBody_of_lowered (by rw [hnbsp]; decide) (by rw [hnbsp]; exact all_eq_true.mp (by decide))
  | .unlisted body, hunlisted => .inr ⟨body, rfl, Unlisted.reads hunlisted⟩

theorem Fit.no_tag : ∀ {pieces : List Piece}, Fit pieces → ∀ rest, rest <:+ htmlOf pieces → ¬ ReadsAsTag rest
  | [], _, rest, hrest => by
    rw [htmlOf, flatMap_nil, suffix_nil] at hrest
    rintro ⟨slash, first, name, attributes, behind, heq, -⟩
    rw [hrest] at heq
    cases heq
  | piece :: pieces, ⟨hpiece, hpieces⟩, rest, hrest => by
    intro htag
    rw [htmlOf, flatMap_cons] at hrest
    rcases hpiece.reads with ⟨u, rfl⟩ | ⟨body, hhtml, hbody⟩
    · rw [Piece.html, singleton_append, suffix_cons_iff] at hrest
      rcases hrest with rfl | hrest
      · exact hpiece.1 htag
      · exact hpieces.no_tag rest hrest htag
    · rw [hhtml] at hrest
      exact hpieces.no_tag rest (suffix_of_readsAsTag (of_mem_reference hbody) hrest htag) htag

/-! ## The third pass -/

theorem referenceAt_shortens : Shortens referenceAt := by
  intro html replacement rest h
  cases html with
  | nil => cases h
  | cons u html =>
    simp only [referenceAt] at h
    split at h
    · cases h
    · next v behind hdrop =>
      split at h
      · cases h
        have hle := (dropWhile_suffix (fun w => decide (w ≠ unit ';')) (l := html)).length_le
        rw [hdrop] at hle
        simp only [length_cons] at hle ⊢
        omega
      · cases h

theorem span_reference (h : ∀ u ∈ body, u ≠ unit ';') : (body ++ unit ';' :: rest).takeWhile (· ≠ unit ';') = body ∧
      (body ++ unit ';' :: rest).dropWhile (· ≠ unit ';') = unit ';' :: rest := by
  have hbody : ∀ u ∈ body, decide (u ≠ unit ';') = true := fun u hu => decide_eq_true (h u hu)
  rw [takeWhile_append_of_pos hbody, dropWhile_append_of_pos hbody]
  exact ⟨by simp, by simp⟩

theorem referenceAt_reference (h : isReferenceBody body = true) (rest : Text) :
    referenceAt (reference body ++ rest) = some (referredTo (reference body) body, rest) := by
  obtain ⟨htake, hdrop⟩ := @span_reference body rest fun u hu => (of_mem_body h u hu).2
  have hwhole : reference body ++ rest = unit '&' :: (body ++ unit ';' :: rest) := by
    rw [reference, cons_append, append_assoc, singleton_append]
  rw [hwhole]
  simp only [referenceAt, htake, hdrop, h, and_self, if_true]

theorem readsAsReference_of_referenceAt (h : referenceAt html = some found) : ReadsAsReference html := by
  cases html with
  | nil => cases h
  | cons u html =>
    have hsplit := takeWhile_append_dropWhile (p := (· ≠ unit ';')) (l := html)
    simp only [referenceAt] at h
    split at h
    · cases h
    · next v behind hdrop =>
      split at h
      · next hreads =>
        have hv : v = unit ';' := by
          have := head?_dropWhile_not (· ≠ unit ';') html
          rw [hdrop] at this
          simpa using this
        rw [hdrop, hv] at hsplit
        refine ⟨_, behind, ?_, hreads.2⟩
        rw [reference, hreads.1, cons_append, append_assoc, singleton_append, hsplit]
      · cases h

theorem inherited_of_letters {found : Text} (h : INHERITED.lookup name = some found)
    (hletters : ∀ u ∈ name, (isLetter u && (lowered u == u)) = true) :
    name = text "constructor" ∧ found = nativeCode "Object" := by
  have hall : INHERITED.all (fun listed => !(listed.1.all fun u => isLetter u && (lowered u == u)) ||
      (listed.1 == text "constructor" && listed.2 == nativeCode "Object")) = true := by decide +kernel
  have hmem : (name, found) ∈ INHERITED := by
    obtain ⟨front, back, heq, -⟩ := lookup_eq_some_iff.mp h
    rw [heq]
    exact mem_append_right _ mem_cons_self
  have hname := all_eq_true.mp hall _ hmem
  rw [all_eq_true.mpr hletters, Bool.not_true, Bool.false_or, Bool.and_eq_true, beq_iff_eq, beq_iff_eq] at hname
  exact hname

theorem lowered_lowered (u : CodeUnit) : lowered (lowered u) = lowered u := by
  rw [Fin.ext_iff, lowered_val, lowered_val]
  split
  · rw [if_neg (by omega)]
  · rfl

/-- What a piece comes out as. -/
def Piece.comesOut : Piece → Text
  | .itself u => [u]
  | .decimal digits => unitsOfScalar (parseInt digits 10)
  | .hexadecimal _ digits => unitsOfScalar (parseInt digits 16)
  | .named name _ => (NAMED_CHARACTERS.lookup (name.map lowered)).getD []
  | .unlisted body => if body.map lowered = text "constructor" then nativeCode "Object" else reference body

theorem lowered_eq_x : lowered u = unit 'x' ↔ u = unit 'x' ∨ u = unit 'X' := by
  have hx : (unit 'x').val = 120 := rfl
  have hX : (unit 'X').val = 88 := rfl
  rw [Fin.ext_iff, Fin.ext_iff, Fin.ext_iff, lowered_val, hx, hX]
  split <;> omega

theorem prefix_mark (letter : Char) (h : text (String.ofList ['#', letter]) = [unit '#', unit letter]) :
    (text (String.ofList ['#', letter])).isPrefixOf (u :: v :: rest) = true ↔ u = unit '#' ∧ v = unit letter := by
  rw [h, isPrefixOf_cons_cons, isPrefixOf_cons_cons, isPrefixOf_nil_left, Bool.and_true, Bool.and_eq_true,
    beq_iff_eq, beq_iff_eq]
  exact and_congr eq_comm eq_comm

theorem referredTo_hexadecimal (whole : Text) (digits : Text) (h : lowered letter = unit 'x') :
    referredTo whole (unit '#' :: letter :: digits) = (codePoint (parseInt digits 16)).getD whole := by
  have hprefix : ((text "#x").isPrefixOf (unit '#' :: letter :: digits) ||
      (text "#X").isPrefixOf (unit '#' :: letter :: digits)) = true := by
    rw [Bool.or_eq_true]
    rcases lowered_eq_x.mp h with rfl | rfl
    · exact .inl ((prefix_mark 'x' (by decide)).mpr ⟨rfl, rfl⟩)
    · exact .inr ((prefix_mark 'X' (by decide)).mpr ⟨rfl, rfl⟩)
  rw [referredTo, if_pos hprefix]
  rfl

theorem referredTo_decimal (whole : Text) {digits : Text} (hne : digits ≠ []) (h : ∀ d ∈ digits, isDigit d = true) :
    referredTo whole (unit '#' :: digits) = (codePoint (parseInt digits 10)).getD whole := by
  cases digits with
  | nil => exact absurd rfl hne
  | cons d digits =>
    have hd := h d mem_cons_self
    have hprefix : ¬ ((text "#x").isPrefixOf (unit '#' :: d :: digits) ||
        (text "#X").isPrefixOf (unit '#' :: d :: digits)) = true := by
      rw [Bool.or_eq_true]
      rintro (hx | hX)
      · rw [((prefix_mark 'x' (by decide)).mp hx).2] at hd
        exact absurd hd (by decide)
      · rw [((prefix_mark 'X' (by decide)).mp hX).2] at hd
        exact absurd hd (by decide)
    rw [referredTo, if_neg hprefix, if_pos (by rfl)]
    rfl

theorem referredTo_name (whole : Text) (h : ∀ u ∈ name, isLetter u = true) :
    referredTo whole name = (property (name.map lowered)).getD whole := by
  have hhash : ∀ {front : Text}, (unit '#' :: front).isPrefixOf name = false := by
    intro front
    cases name with
    | nil => rfl
    | cons u name =>
      have hu : (unit '#' == u) = false := by
        rw [beq_eq_false_iff_ne]
        rintro rfl
        exact absurd (h _ mem_cons_self) (by decide)
      rw [isPrefixOf_cons_cons, hu, Bool.false_and]
  have hx : text "#x" = [unit '#', unit 'x'] := by decide
  have hX : text "#X" = [unit '#', unit 'X'] := by decide
  have hmark : text "#" = [unit '#'] := by decide
  rw [referredTo, hx, hX, hmark, hhash, hhash, hhash]
  rfl

theorem codePoint_of_le {value : Nat} (h : value ≤ 0x10ffff) : codePoint value = some (unitsOfScalar value) :=
  if_neg (Nat.not_lt.mpr h)

theorem referredTo_unlisted (h : Unlisted body) :
    referredTo (reference body) body = Piece.comesOut (.unlisted body) := by
  have hreads := h.reads
  have hnot : ∀ rest, body = unit '#' :: rest → Piece.comesOut (.unlisted body) = reference body := by
    rintro rest rfl
    rw [Piece.comesOut, if_neg]
    intro heq
    have hhead := congrArg List.head? heq
    rw [map_cons, head?_cons, show (text "constructor").head? = some (unit 'c') by decide,
      Option.some_inj] at hhead
    exact absurd hhead (by decide)
  cases hbody : body with
  | nil =>
    rw [hbody] at hreads
    cases hreads
  | cons u rest =>
    rw [← hbody]
    unfold isReferenceBody at hreads
    rw [hbody] at hreads
    dsimp only at hreads
    split at hreads
    · next hu =>
      subst hu
      rw [hnot rest hbody]
      cases rest with
      | nil => cases hreads
      | cons letter digits =>
        dsimp only at hreads
        split at hreads
        · next hx =>
          have hlarge := h.hexadecimal letter digits hbody hx
          nth_rewrite 2 [hbody]
          rw [referredTo_hexadecimal _ digits hx, codePoint, if_pos hlarge, Option.getD_none]
        · have hlarge := h.decimal (letter :: digits) hbody hreads
          nth_rewrite 2 [hbody]
          rw [referredTo_decimal _ (cons_ne_nil _ _) (all_eq_true.mp hreads), codePoint, if_pos hlarge,
            Option.getD_none]
    · rw [all_eq_true, ← hbody] at hreads
      rw [referredTo_name _ hreads, property, h.name, Option.none_or, Piece.comesOut]
      cases hfound : INHERITED.lookup (body.map lowered) with
      | none =>
        rw [Option.getD_none, if_neg]
        intro hconstructor
        rw [hconstructor] at hfound
        exact absurd hfound (by decide)
      | some found =>
        obtain ⟨hname, rfl⟩ := inherited_of_letters hfound fun v hv => by
          obtain ⟨w, hw, rfl⟩ := mem_map.mp hv
          rw [isLetter_lowered.mpr (hreads w hw), lowered_lowered, beq_self_eq_true, Bool.and_self]
        rw [Option.getD_some, if_pos hname]

theorem Piece.Fits.replaced {after : Text} : ∀ {piece : Piece}, piece.Fits after → ∀ body,
    piece.html = reference body → isReferenceBody body = true → referredTo (reference body) body = piece.comesOut
  | .itself u, _, body, hhtml, _ => by
    have hlength := congrArg List.length hhtml
    rw [reference, length_cons, length_append] at hlength
    exact absurd hlength (by simp [Piece.html])
  | .decimal digits, ⟨hne, hdigits, hle⟩, body, hhtml, _ => by
    rw [Piece.html, reference, reference, List.cons.injEq, append_cancel_right_eq] at hhtml
    rw [← hhtml.2, referredTo_decimal _ hne hdigits, codePoint_of_le hle]
    rfl
  | .hexadecimal letter digits, ⟨hx, _, _, hle⟩, body, hhtml, _ => by
    rw [Piece.html, reference, reference, List.cons.injEq, append_cancel_right_eq] at hhtml
    rw [← hhtml.2, referredTo_hexadecimal _ digits hx, codePoint_of_le hle]
    rfl
  | .named name character, hlisted, body, hhtml, _ => by
    rw [Piece.html, reference, reference, List.cons.injEq, append_cancel_right_eq] at hhtml
    obtain ⟨listed, hlookup⟩ : ∃ listed, NAMED_CHARACTERS.lookup (name.map lowered) = some listed := by
      rcases hlisted with hlookup | ⟨hnbsp, -⟩
      · exact ⟨character, hlookup⟩
      · rw [hnbsp]
        exact ⟨text " ", by decide⟩
    have hletters : ∀ u ∈ name, isLetter u = true :=
      fun u hu => isLetter_lowered.mp ((letters_of_listed hlookup).2 _ (mem_map_of_mem hu))
    rw [← hhtml.2, referredTo_name _ hletters, property, Piece.comesOut, hlookup]
    rfl
  | .unlisted body', hunlisted, body, hhtml, _ => by
    rw [Piece.html, reference, reference, List.cons.injEq, append_cancel_right_eq] at hhtml
    rw [← hhtml.2]
    exact referredTo_unlisted hunlisted

theorem decoded_pieces : ∀ {pieces : List Piece}, Fit pieces →
    replaceAll referenceAt (htmlOf pieces) = pieces.flatMap Piece.comesOut
  | [], _ => rfl
  | piece :: pieces, ⟨hpiece, hpieces⟩ => by
    have hrest := decoded_pieces hpieces
    rw [htmlOf] at hrest
    rw [htmlOf, flatMap_cons, flatMap_cons]
    rcases hpiece.reads with ⟨u, rfl⟩ | ⟨body, hhtml, hbody⟩
    · have hnone : referenceAt (u :: htmlOf pieces) = none := by
        cases hfound : referenceAt (u :: htmlOf pieces) with
        | none => rfl
        | some found => exact absurd (readsAsReference_of_referenceAt hfound) hpiece.2
      rw [Piece.html, singleton_append]
      rw [htmlOf] at hnone
      rw [replaceAll_of_none hnone, hrest]
      rfl
    · rw [hhtml, replaceAll_of_some referenceAt_shortens (referenceAt_reference hbody _), hrest,
        hpiece.replaced body hhtml hbody]

/-! ## The last pass -/

/-- Any white space as a space. -/
def spaced (u : CodeUnit) : CodeUnit := if isBlank u then unit ' ' else u

theorem isBlank_spaced (u : CodeUnit) : isBlank (spaced u) = isBlank u := by
  unfold spaced
  split
  · next hblank =>
    rw [hblank]
    decide
  · rfl

theorem blanks_shortens : Shortens blanks := by
  intro items replacement rest h
  cases items with
  | nil => cases h
  | cons u items =>
    simp only [blanks] at h
    split at h
    · cases h
      exact Nat.lt_succ_of_le (dropWhile_suffix isBlank).length_le
    · cases h

theorem blanks_of_blank (h : isBlank u = true) (rest : Text) :
    blanks (u :: rest) = some ([unit ' '], rest.dropWhile isBlank) :=
  if_pos h

theorem blanks_of_not (h : isBlank u = false) (rest : Text) : blanks (u :: rest) = none :=
  if_neg (by rw [h]; exact Bool.false_ne_true)

theorem blanks_eq_some {items replacement : Text} (h : blanks items = some (replacement, rest)) :
    replacement = [unit ' '] ∧ ∃ u more, items = u :: more ∧ isBlank u = true ∧ rest = more.dropWhile isBlank := by
  cases items with
  | nil => cases h
  | cons u more =>
    simp only [blanks] at h
    split at h
    · next hblank =>
      cases h
      exact ⟨rfl, u, more, rfl, hblank, rfl⟩
    · cases h

theorem not_blank_of_none (h : blanks (u :: rest) = none) : isBlank u = false := by
  cases hblank : isBlank u with
  | false => rfl
  | true =>
    rw [blanks_of_blank hblank] at h
    cases h

theorem collapsed_spaced (t : Text) : collapsed (t.map spaced) = collapsed t := by
  have hblank : isBlank ∘ spaced = isBlank := funext isBlank_spaced
  have hruns : replaceAll blanks (t.map spaced) = replaceAll blanks t := by
    refine replaceAll_induction blanks_shortens (motive := fun t out => replaceAll blanks (t.map spaced) = out)
      rfl (fun u items hnone ih => ?_) (fun items replacement rest hfound ih => ?_) t
    · have hkept := not_blank_of_none hnone
      have hspaced : spaced u = u := if_neg (by rw [hkept]; exact Bool.false_ne_true)
      rw [map_cons, hspaced, replaceAll_of_none (blanks_of_not hkept _), ih]
    · obtain ⟨rfl, u, more, rfl, hu, rfl⟩ := blanks_eq_some hfound
      rw [map_cons, replaceAll_of_some blanks_shortens (blanks_of_blank (by rw [isBlank_spaced, hu]) _),
        dropWhile_map, hblank, ih]
  rw [collapsed, collapsed, hruns]

def shown (t : Text) : Text := t.filter fun u => !isBlank u

theorem shown_append (t s : Text) : shown (t ++ s) = shown t ++ shown s := filter_append ..

theorem shown_dropWhile (t : Text) : shown (t.dropWhile isBlank) = shown t := by
  induction t with
  | nil => rfl
  | cons u t ih =>
    rw [dropWhile_cons]
    split
    · next hblank => rw [ih, shown, shown, filter_cons, hblank, Bool.not_true, if_neg Bool.false_ne_true]
    · rfl

theorem shown_reverse (t : Text) : shown t.reverse = (shown t).reverse := by
  rw [shown, shown, filter_reverse]

theorem shown_collapsed (t : Text) : shown (collapsed t) = shown t := by
  have hruns : shown (replaceAll blanks t) = shown t := by
    refine replaceAll_induction blanks_shortens (motive := fun t out => shown out = shown t)
      rfl (fun u items _ ih => ?_) (fun items replacement rest hfound ih => ?_) t
    · rw [← singleton_append, shown_append, ih, ← shown_append, singleton_append]
    · obtain ⟨rfl, u, more, rfl, hu, rfl⟩ := blanks_eq_some hfound
      have hspace : shown [unit ' '] = [] := by decide
      have halone : shown [u] = [] := by rw [shown, filter_cons, hu]; rfl
      rw [shown_append, ih, hspace, shown_dropWhile, ← singleton_append (l := more), shown_append, halone]
  rw [collapsed, trim, shown_reverse, shown_dropWhile, shown_reverse, shown_dropWhile, reverse_reverse, hruns]

theorem shown_map_spaced_length (t : Text) : (shown (t.map spaced)).length = (shown t).length := by
  rw [shown, shown, filter_map, length_map]
  have hblank : ((fun u => !isBlank u) ∘ spaced) = fun u => !isBlank u :=
    funext fun u => congrArg (! ·) (isBlank_spaced u)
  rw [hblank]

/-! ## What comes out -/

/-- A reference to the name that is inherited. -/
def Piece.IsInherited : Piece → Prop
  | .unlisted body => body.map lowered = text "constructor"
  | _ => False

theorem Piece.Fits.comesOut_spaced {after : Text} : ∀ {piece : Piece}, piece.Fits after → ¬ piece.IsInherited →
    piece.comesOut.map spaced = piece.means.map spaced
  | .itself u, _, _ => rfl
  | .decimal digits, _, _ => rfl
  | .hexadecimal letter digits, _, _ => rfl
  | .named name character, hlisted, _ => by
    rw [Piece.comesOut, Piece.means]
    rcases hlisted with hlookup | ⟨hnbsp, rfl⟩
    · rw [hlookup, Option.getD_some]
    · rw [hnbsp]
      decide
  | .unlisted body, _, hinherited => by
    have hname : ¬ body.map lowered = text "constructor" := hinherited
    rw [Piece.comesOut, Piece.means, if_neg hname]

theorem shown_inherited {piece : Piece} (h : piece.IsInherited) :
    (shown piece.means).length < (shown piece.comesOut).length := by
  cases piece with
  | unlisted body =>
    have hname : body.map lowered = text "constructor" := h
    have hlength : body.length = 11 := by
      have := congrArg List.length hname
      rw [length_map] at this
      exact this
    have hnative : (shown (nativeCode "Object")).length = 30 := by decide +kernel
    have hle : (shown (reference body)).length ≤ (reference body).length := length_filter_le ..
    have hwritten : (reference body).length = body.length + 2 := by
      rw [reference, length_cons, length_append]
      rfl
    rw [Piece.comesOut, if_pos hname, hnative, Piece.means]
    omega
  | itself u => cases h
  | decimal digits => cases h
  | hexadecimal letter digits => cases h
  | named name character => cases h

theorem Fit.comesOut_spaced : ∀ {pieces : List Piece}, Fit pieces → (∀ piece ∈ pieces, ¬ piece.IsInherited) →
    (pieces.flatMap Piece.comesOut).map spaced = (textOf pieces).map spaced
  | [], _, _ => rfl
  | piece :: pieces, ⟨hpiece, hpieces⟩, hnone => by
    have hrest := hpieces.comesOut_spaced fun q hq => hnone q (mem_cons_of_mem _ hq)
    rw [textOf, flatMap_cons, flatMap_cons, map_append, map_append,
      hpiece.comesOut_spaced (hnone piece mem_cons_self), hrest, textOf]

theorem Fit.shown_le : ∀ {pieces : List Piece}, Fit pieces →
    (shown (textOf pieces)).length ≤ (shown (pieces.flatMap Piece.comesOut)).length ∧
      ((∃ piece ∈ pieces, piece.IsInherited) →
        (shown (textOf pieces)).length < (shown (pieces.flatMap Piece.comesOut)).length)
  | [], _ => ⟨Nat.le_refl _, fun ⟨_, hmem, _⟩ => absurd hmem not_mem_nil⟩
  | piece :: pieces, ⟨hpiece, hpieces⟩ => by
    obtain ⟨hle, hlt⟩ := hpieces.shown_le
    have hmeans : (shown (textOf (piece :: pieces))).length =
        (shown piece.means).length + (shown (textOf pieces)).length := by
      rw [textOf, flatMap_cons, shown_append, length_append, textOf]
    have hout : (shown ((piece :: pieces).flatMap Piece.comesOut)).length =
        (shown piece.comesOut).length + (shown (pieces.flatMap Piece.comesOut)).length := by
      rw [flatMap_cons, shown_append, length_append]
    by_cases hinherited : piece.IsInherited
    · have hmore := shown_inherited hinherited
      exact ⟨by omega, fun _ => by omega⟩
    · have hsame : (shown piece.comesOut).length = (shown piece.means).length := by
        rw [← shown_map_spaced_length, hpiece.comesOut_spaced hinherited, shown_map_spaced_length]
      refine ⟨by omega, fun ⟨q, hq, hqi⟩ => ?_⟩
      rcases mem_cons.mp hq with rfl | hq
      · exact absurd hqi hinherited
      · have := hlt ⟨q, hq, hqi⟩
        omega

theorem plainTextOf_pieces {pieces : List Piece} (h : Fit pieces) :
    plainTextOf (htmlOf pieces) = collapsed (pieces.flatMap Piece.comesOut) := by
  rw [plainTextOf, kept_of_no_tag readsAsTag_of_hiddenBlock h.no_tag, kept_of_no_tag readsAsTag_of_tag h.no_tag,
    decoded_pieces h]

/-- **Shop prose is unescaped exactly once**, however it is written, and a reference that says no character stays as
it is written, exactly where no reference names what every object inherits. -/
theorem plainTextOf_iff (pieces : List Piece) (h : Fit pieces) :
    plainTextOf (htmlOf pieces) = collapsed (textOf pieces) ↔ ∀ piece ∈ pieces, ¬ piece.IsInherited := by
  rw [plainTextOf_pieces h]
  constructor
  · intro heq piece hpiece hinherited
    have hlt := h.shown_le.2 ⟨piece, hpiece, hinherited⟩
    rw [← shown_collapsed (textOf pieces), ← heq, shown_collapsed] at hlt
    exact Nat.lt_irrefl _ hlt
  · intro hnone
    rw [← collapsed_spaced, h.comesOut_spaced hnone, collapsed_spaced]

/-! ## Every text is a way of writing one -/

theorem fits_itself (htag : u ≠ unit '<') (hreference : u ≠ unit '&') (after : Text) :
    Piece.Fits after (.itself u) := by
  refine ⟨fun h => htag h.head, fun ⟨body, rest, heq, _⟩ => hreference ?_⟩
  exact (List.cons.inj heq).1

/-- The three characters of `lt;` behind a reference to an ampersand, which together are no reference. -/
def escapedTwice : List Piece :=
  [.named (text "amp") (text "&"), .itself (unit 'l'), .itself (unit 't'), .itself (unit ';')]

theorem escapedTwice_fit : Fit escapedTwice :=
  ⟨.inl (by decide), fits_itself (by decide) (by decide) _, fits_itself (by decide) (by decide) _,
    fits_itself (by decide) (by decide) _, trivial⟩

theorem plainTextOf_escapedTwice : Fit escapedTwice ∧ htmlOf escapedTwice = text "&amp;lt;" ∧
    textOf escapedTwice = text "&lt;" ∧
    (plainTextOf (htmlOf escapedTwice) = collapsed (textOf escapedTwice) ↔
      ∀ piece ∈ escapedTwice, ¬ piece.IsInherited) :=
  ⟨escapedTwice_fit, by decide +kernel, by decide +kernel, plainTextOf_iff escapedTwice escapedTwice_fit⟩

theorem constructor_unlisted : Unlisted (text "constructor") where
  reads := by decide +kernel
  name := by decide +kernel
  decimal digits heq := by
    have hhead := congrArg List.head? heq
    rw [head?_cons, show (text "constructor").head? = some (unit 'c') by decide, Option.some_inj] at hhead
    exact absurd hhead (by decide)
  hexadecimal letter digits heq := by
    have hhead := congrArg List.head? heq
    rw [head?_cons, show (text "constructor").head? = some (unit 'c') by decide, Option.some_inj] at hhead
    exact absurd hhead (by decide)

/-- A reference to no character that does not come out as it is written. -/
theorem constructor_comes_out : Fit [.unlisted (text "constructor")] ∧
    htmlOf [.unlisted (text "constructor")] = text "&constructor;" ∧
    plainTextOf (text "&constructor;") = text "function Object() \x7b [native code] \x7d" ∧
    collapsed (textOf [.unlisted (text "constructor")]) = text "&constructor;" :=
  ⟨⟨constructor_unlisted, trivial⟩, by decide +kernel, by decide +kernel, by decide +kernel⟩

end Coinslot.Prose
