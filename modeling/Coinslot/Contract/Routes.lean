import Coinslot.Lib.Percent
import Coinslot.Lib.Dict
import Coinslot.Lib.Reactor

/-!
# The addresses of the routes

How the address of a call is built from its route's path (`expandPath` of `packages/contracts/src/api.ts`): every
parameter of the path takes its value, encoded, and nothing else of the path changes. A path is scanned by the
regular expression `:([a-z][a-z0-9_]*)`, and so are its pieces here (`pieces`).

A route's path is segments behind slashes, each either written out or a parameter in whole (`Route`). An address
built from one has the segments of the path, each parameter's decoding to its value, so long as every value is well
formed: a surrogate that stands alone is taken by `IdentifierSchema` and thrown at by `encodeURIComponent`.
-/

namespace Coinslot.Contract

open Utf16 List Dict

/-! ## Identifiers -/

/-- The code points of a text: a surrogate that stands alone is one of its own. -/
def codePoints : Text → List Nat
  | [] => []
  | [u] => [u.val]
  | u :: v :: rest =>
    if isHighSurrogate u && isLowSurrogate v then paired u v :: codePoints rest
    else u.val :: codePoints (v :: rest)

/-- `UNPRINTABLE`: characters that show nothing. -/
def isUnprintable (c : Nat) : Bool :=
  decide (c ≤ 0x1f) || c == 0x7f || (decide (0x200b ≤ c) && decide (c ≤ 0x200f)) ||
    (decide (0x2060 ≤ c) && decide (c ≤ 0x2064)) || c == 0xfeff

/-- `IdentifierSchema`: neither empty nor padded with whitespace, and nothing in it that shows nothing. -/
def IdentifierSchema (t : Text) : Bool :=
  let points := codePoints t
  points.all (fun c => !isUnprintable c) &&
    points.head?.any (fun c => !isSpace c) && points.getLast?.any (fun c => !isSpace c)

/-! ## Paths -/

/-- A part of a path: a character, or a parameter with its name. -/
inductive Piece where
  | literal (u : CodeUnit)
  | parameter (name : Text)
deriving DecidableEq

/-- `[a-z]`. -/
def opensName (u : CodeUnit) : Bool := within 'a' 'z' u

/-- `[a-z0-9_]`. -/
def goesOnName (u : CodeUnit) : Bool := within 'a' 'z' u || within '0' '9' u || u == unit '_'

/-- The pieces of a path, from its first character on: a colon with a name after it is a parameter, and the name
goes on for as long as it can. -/
def piecesFrom : Option Text → Text → List Piece
  | none, [] => []
  | some name, [] => [.parameter name]
  | none, u :: rest =>
    if u == unit ':' && rest.head?.any opensName then piecesFrom (some []) rest
    else .literal u :: piecesFrom none rest
  | some name, u :: rest =>
    if goesOnName u then piecesFrom (some (name ++ [u])) rest
    else .parameter name ::
      (if u == unit ':' && rest.head?.any opensName then piecesFrom (some []) rest
        else .literal u :: piecesFrom none rest)

def pieces (path : Text) : List Piece := piecesFrom none path

/-- The name of a piece that is a parameter. -/
def Piece.name? : Piece → Option Text
  | .literal _ => none
  | .parameter name => some name

/-- The parameters an address takes, in the order it writes them. -/
def pathParamsOf (path : Text) : List Text := (pieces path).filterMap Piece.name?

/-- What is given for a parameter: a string, or something of another type. -/
inductive Given where
  | string (value : Text)
  | other
deriving DecidableEq

/-- What is thrown. -/
inductive Thrown where
  | typeError (message : Text)
  | uriError
deriving DecidableEq

/-- The complaint about a parameter without a value. -/
def noneGiven (path name : Text) : Thrown :=
  .typeError (text "\"" ++ path ++ text "\" needs a value for \":" ++ name ++ text "\" and was given none")

/-- What stands in the place of a piece. -/
def filled (path : Text) (values : Dict Text Given) : Piece → Except Thrown Text
  | .literal u => .ok [u]
  | .parameter name =>
    match values.get name with
    | some (.string value) =>
      if value = [] then .error (noneGiven path name)
      else if value = text "." ∨ value = text ".." then
        .error (.typeError (text "\"" ++ path ++ text "\" was given \"" ++ value ++ text "\" for \":" ++ name ++
          text "\", which is a step through the path rather than a value in it"))
      else
        match encodeURIComponent value with
        | some encoded => .ok encoded
        | none => .error .uriError
    | _ => .error (noneGiven path name)

/-- The address of one call, with its parameters filled in and encoded. -/
def expandPath (path : Text) (values : Dict Text Given) : Except Thrown Text :=
  let wanted := pathParamsOf path
  let unwanted := (values.entries.map Prod.fst).filter fun name => !wanted.contains name
  if unwanted = [] then ((pieces path).mapM (filled path values)).map List.flatten
  else
    .error (.typeError (text "\"" ++ path ++ text "\" takes " ++
      (if wanted = [] then text "no path parameters" else (text ", ").intercalate wanted) ++
      text ", so there is nowhere to put " ++ (text ", ").intercalate unwanted))

/-! ## Routes -/

/-- A segment of a route's path: written out, or a parameter in whole. -/
inductive Segment where
  | literal (written : Text)
  | parameter (name : Text)
deriving DecidableEq

/-- A segment holds no slash; no colon is written out, and a parameter is named as the expression has it. -/
def Segment.fits : Segment → Bool
  | .literal written => written.all fun u => u != unit '/' && u != unit ':'
  | .parameter [] => false
  | .parameter (u :: rest) => opensName u && rest.all goesOnName

/-- How a segment is written in the path. -/
def Segment.path : Segment → Text
  | .literal written => written
  | .parameter name => unit ':' :: name

/-- A route's path, as its segments. -/
structure Route where
  segments : List Segment
  fits : ∀ segment ∈ segments, segment.fits = true

def Route.path (route : Route) : Text := route.segments.flatMap fun segment => unit '/' :: segment.path

/-- The parameters of a route. -/
def Route.parameters (route : Route) : List Text :=
  route.segments.filterMap fun segment =>
    match segment with
    | .literal _ => none
    | .parameter name => some name

def segmentsOf (address : Text) : List Text := address.splitOn (unit '/')

/-! ## The pieces of a route's path -/

/-- The pieces a segment is scanned as. -/
def Segment.pieces : Segment → List Piece
  | .literal written => written.map .literal
  | .parameter name => [.parameter name]

/-- A text before which a name ends: nothing, or a slash. -/
def EndsName (rest : Text) : Prop := rest = [] ∨ ∃ rest', rest = unit '/' :: rest'

theorem piecesFrom_slash (rest : Text) :
    piecesFrom none (unit '/' :: rest) = .literal (unit '/') :: piecesFrom none rest := by
  rw [piecesFrom, if_neg]
  intro h
  rw [Bool.and_eq_true] at h
  exact absurd h.1 (by decide)

theorem piecesFrom_name {rest : Text} (hrest : EndsName rest) : ∀ {name : Text}, name.all goesOnName = true →
    ∀ before : Text, piecesFrom (some before) (name ++ rest) = .parameter (before ++ name) :: piecesFrom none rest
  | [], _, before => by
    rw [nil_append, append_nil]
    rcases hrest with rfl | ⟨rest', rfl⟩
    · rfl
    · have hends : ¬ goesOnName (unit '/') = true := by decide
      have hnone : ¬ (unit '/' == unit ':' && rest'.head?.any opensName) = true := by
        rw [Bool.and_eq_true]
        exact fun h => absurd h.1 (by decide)
      rw [piecesFrom_slash, piecesFrom, if_neg hends, if_neg hnone]
  | u :: name, hname, before => by
    rw [all_cons, Bool.and_eq_true] at hname
    rw [cons_append, piecesFrom, if_pos hname.1, piecesFrom_name hrest hname.2, append_assoc]
    rfl

theorem piecesFrom_literal (rest : Text) : ∀ {written : Text}, (∀ u ∈ written, u ≠ unit ':') →
    piecesFrom none (written ++ rest) = written.map .literal ++ piecesFrom none rest
  | [], _ => rfl
  | u :: written, h => by
    have hu : ¬ (u == unit ':' && (written ++ rest).head?.any opensName) = true := by
      rw [Bool.and_eq_true, beq_iff_eq]
      exact fun hh => h u mem_cons_self hh.1
    rw [cons_append, piecesFrom, if_neg hu, piecesFrom_literal rest fun v hv => h v (mem_cons_of_mem _ hv)]
    rfl

variable {segment : Segment} {α β ε : Type} {name : Text}

theorem Segment.piecesFrom_path (h : segment.fits = true) {rest : Text} (hrest : EndsName rest) :
    piecesFrom none (segment.path ++ rest) = segment.pieces ++ piecesFrom none rest := by
  cases segment with
  | literal written =>
    refine piecesFrom_literal rest fun u hu => ?_
    have hunit := all_eq_true.mp h u hu
    rw [Bool.and_eq_true, bne_iff_ne, bne_iff_ne] at hunit
    exact hunit.2
  | parameter name =>
    cases name with
    | nil => cases h
    | cons u name =>
      rw [Segment.fits, Bool.and_eq_true] at h
      have hopens : goesOnName u = true := by
        rw [goesOnName, Bool.or_eq_true, Bool.or_eq_true]
        exact .inl (.inl h.1)
      have hall : (u :: name).all goesOnName = true := by
        rw [all_cons, Bool.and_eq_true]
        exact ⟨hopens, h.2⟩
      have hcolon : (unit ':' == unit ':' && ((u :: name) ++ rest).head?.any opensName) = true := by
        rw [Bool.and_eq_true]
        exact ⟨by decide, h.1⟩
      rw [Segment.path, cons_append, piecesFrom, if_pos hcolon, piecesFrom_name hrest hall]
      rfl

theorem Route.pieces_path (route : Route) :
    Contract.pieces route.path = route.segments.flatMap fun segment => .literal (unit '/') :: segment.pieces := by
  obtain ⟨segments, hfits⟩ := route
  unfold Contract.pieces Route.path
  induction segments with
  | nil => rfl
  | cons segment segments ih =>
    have hrest : EndsName (segments.flatMap fun s => unit '/' :: s.path) := by
      cases segments with
      | nil => exact .inl rfl
      | cons next segments => exact .inr ⟨_, rfl⟩
    rw [flatMap_cons, flatMap_cons, cons_append, piecesFrom_slash,
      Segment.piecesFrom_path (hfits segment mem_cons_self) hrest,
      ih fun s hs => hfits s (mem_cons_of_mem _ hs)]
    rfl

theorem Segment.filterMap_pieces (segment : Segment) : segment.pieces.filterMap Piece.name? = match segment with
      | .literal _ => []
      | .parameter name => [name] := by
  cases segment with
  | literal written =>
    rw [Segment.pieces, filterMap_map, filterMap_eq_nil_iff]
    exact fun _ _ => rfl
  | parameter name => rfl

theorem Route.pathParamsOf_path (route : Route) : pathParamsOf route.path = route.parameters := by
  rw [pathParamsOf, route.pieces_path, Route.parameters]
  induction route.segments with
  | nil => rfl
  | cons segment segments ih =>
    rw [flatMap_cons, filterMap_append, ih, filterMap_cons, Piece.name?, segment.filterMap_pieces]
    cases segment with
    | literal written => rfl
    | parameter name => rfl

/-! ## Filling a route in -/

/-- What stands in the place of a segment. -/
def Segment.filled (path : Text) (values : Dict Text Given) : Segment → Except Thrown Text
  | .literal written => .ok written
  | .parameter name => Contract.filled path values (.parameter name)

theorem mapM_ok_iff {f : α → Except ε β} : ∀ {l : List α} {out : List β},
    l.mapM f = .ok out ↔ List.Forall₂ (fun a b => f a = .ok b) l out
  | [], out => by
    constructor
    · intro h
      cases h
      exact .nil
    · intro h
      cases h
      rfl
  | a :: l, out => by
    rw [mapM_cons]
    constructor
    · intro h
      cases ha : f a with
      | error e =>
        rw [ha] at h
        cases h
      | ok b =>
        cases hl : l.mapM f with
        | error e =>
          rw [ha, hl] at h
          cases h
        | ok bs =>
          rw [ha, hl] at h
          cases h
          exact .cons ha (mapM_ok_iff.mp hl)
    · intro h
      cases h with
      | cons ha hl =>
        rw [ha, mapM_ok_iff.mpr hl]
        rfl

theorem ok_of_mapM {f : α → Except ε β} {l : List α} {out : List β} (h : l.mapM f = .ok out) :
    ∀ a ∈ l, ∃ b, f a = .ok b := by
  have hall := mapM_ok_iff.mp h
  intro a ha
  induction hall with
  | nil => cases ha
  | cons hab _ ih =>
    rcases mem_cons.mp ha with rfl | ha
    · exact ⟨_, hab⟩
    · exact ih (mapM_ok_iff.mpr ‹_›) ha

theorem mapM_ok_of {f : α → Except ε β} : ∀ {l : List α}, (∀ a ∈ l, ∃ b, f a = .ok b) →
    ∃ out, l.mapM f = .ok out
  | [], _ => ⟨[], rfl⟩
  | a :: l, h => by
    obtain ⟨b, hb⟩ := h a mem_cons_self
    obtain ⟨bs, hbs⟩ := mapM_ok_of fun a' ha' => h a' (mem_cons_of_mem _ ha')
    refine ⟨b :: bs, ?_⟩
    rw [mapM_cons, hb, hbs]
    rfl

theorem mapM_literal (path : Text) (values : Dict Text Given) : ∀ written : Text,
    (written.map Piece.literal).mapM (filled path values) = .ok (written.map fun u => [u])
  | [] => rfl
  | u :: written => by
    rw [map_cons, mapM_cons, mapM_literal path values written]
    rfl

theorem flatten_singletons : ∀ written : Text, (written.map fun u => [u]).flatten = written
  | [] => rfl
  | u :: written => by
    rw [map_cons, flatten_cons, flatten_singletons]
    rfl

theorem Segment.mapM_pieces (path : Text) (values : Dict Text Given) (segment : Segment) :
    (segment.pieces.mapM (Contract.filled path values)).map List.flatten = segment.filled path values := by
  cases segment with
  | literal written => rw [Segment.pieces, mapM_literal, Segment.filled, Except.map, flatten_singletons]
  | parameter name =>
    rw [Segment.pieces, mapM_cons, mapM_nil, Segment.filled]
    cases Contract.filled path values (.parameter name) with
    | error e => rfl
    | ok value =>
      show Except.ok ([value].flatten) = .ok value
      rw [flatten_singleton]

theorem Route.mapM_pieces (path : Text) (values : Dict Text Given) (segments : List Segment) :
    ((segments.flatMap fun s => Piece.literal (unit '/') :: s.pieces).mapM (filled path values)).map List.flatten =
      (segments.mapM (Segment.filled path values)).map (List.flatMap fun out => unit '/' :: out) := by
  induction segments with
  | nil => rfl
  | cons segment segments ih =>
    have hsegment := segment.mapM_pieces path values
    rw [flatMap_cons, cons_append, mapM_cons, mapM_append, mapM_cons]
    cases hone : segment.pieces.mapM (filled path values) with
    | error e =>
      rw [hone] at hsegment
      rw [← hsegment]
      rfl
    | ok parts =>
      rw [hone] at hsegment
      rw [← hsegment]
      cases hrest : (segments.flatMap fun s => Piece.literal (unit '/') :: s.pieces).mapM (filled path values) with
      | error e =>
        rw [hrest] at ih
        cases hall : segments.mapM (Segment.filled path values) with
        | error e' =>
          rw [hall] at ih
          cases ih
          rfl
        | ok outs =>
          rw [hall] at ih
          cases ih
      | ok rest =>
        rw [hrest] at ih
        cases hall : segments.mapM (Segment.filled path values) with
        | error e' =>
          rw [hall] at ih
          cases ih
        | ok outs =>
          rw [hall] at ih
          have hflat : rest.flatten = outs.flatMap fun out => unit '/' :: out := Except.ok.inj ih
          show Except.ok ([unit '/'] :: (parts ++ rest)).flatten =
            .ok (parts.flatten :: outs |>.flatMap fun out => unit '/' :: out)
          rw [flatten_cons, flatten_append, hflat, flatMap_cons]
          rfl

/-! ## What an address keeps -/

/-- Values given for exactly the parameters of a route, each an identifier and none a step through the path. -/
structure Assigns (route : Route) (values : Dict Text Given) : Prop where
  exactly : ∀ name, name ∈ route.parameters ↔ (values.get name).isSome
  identifies : ∀ name given, values.get name = some given →
    ∃ value, given = .string value ∧ IdentifierSchema value = true ∧ value ≠ text "." ∧ value ≠ text ".."

/-- What stands in an address where a segment of the route does: what is written out as it is, and for a parameter
what decodes to its value. -/
def Stands (values : Dict Text Given) : Segment → Text → Prop
  | .literal written, out => out = written
  | .parameter name, out => ∃ value, values.get name = some (.string value) ∧ decodeURIComponent out = some value

/-- The address is built, and has the segments of the route. -/
def KeepsRoute (route : Route) (values : Dict Text Given) : Prop :=
  ∃ out outs, expandPath route.path values = .ok out ∧ segmentsOf out = [] :: outs ∧
    (segmentsOf out).length = (segmentsOf route.path).length ∧ List.Forall₂ (Stands values) route.segments outs

theorem segmentsOf_flatMap {outs : List Text} (h : ∀ out ∈ outs, unit '/' ∉ out) :
    segmentsOf (outs.flatMap fun out => unit '/' :: out) = [] :: outs := by
  have hjoined : ∀ outs : List Text,
      (outs.flatMap fun out => unit '/' :: out) = [unit '/'].intercalate ([] :: outs) := by
    intro outs
    induction outs with
    | nil => rfl
    | cons out outs ih =>
      rw [flatMap_cons, ih]
      cases outs with
      | nil => simp
      | cons next outs => simp
  rw [hjoined, segmentsOf, splitOn_intercalate _ ?_ (by simp)]
  intro out hout
  rcases mem_cons.mp hout with rfl | hout
  · exact not_mem_nil
  · exact h out hout

theorem Segment.path_slashless (h : segment.fits = true) : unit '/' ∉ segment.path := by
  cases segment with
  | literal written =>
    intro hmem
    have hunit := all_eq_true.mp h _ hmem
    exact absurd hunit (by decide)
  | parameter name =>
    cases name with
    | nil => cases h
    | cons u name =>
      rw [Segment.fits, Bool.and_eq_true] at h
      intro hmem
      rcases mem_cons.mp hmem with heq | hmem
      · exact absurd heq (by decide)
      · rcases mem_cons.mp hmem with heq | hmem
        · rw [← heq] at h
          exact absurd h.1 (by decide)
        · exact absurd (all_eq_true.mp h.2 _ hmem) (by decide)

theorem Route.segmentsOf_path (route : Route) : segmentsOf route.path = [] :: route.segments.map Segment.path := by
  have hpath : route.path = (route.segments.map Segment.path).flatMap fun out => unit '/' :: out := by
    rw [Route.path, flatMap_map]
  rw [hpath, segmentsOf_flatMap]
  intro out hout
  obtain ⟨segment, hsegment, rfl⟩ := mem_map.mp hout
  exact segment.path_slashless (route.fits segment hsegment)

theorem encoded_slashless {value out : Text} (h : encodeURIComponent value = some out) : unit '/' ∉ out := by
  intro hmem
  rcases encoded_units h _ hmem with hun | heq
  · exact absurd hun (by decide)
  · exact absurd heq (by decide)

variable {route : Route} {values : Dict Text Given}

theorem Assigns.expandPath_eq (h : Assigns route values) : expandPath route.path values =
      (route.segments.mapM (Segment.filled route.path values)).map (List.flatMap fun out => unit '/' :: out) := by
  have hunwanted :
      ((values.entries.map Prod.fst).filter fun name => !(pathParamsOf route.path).contains name) = [] := by
    rw [filter_eq_nil_iff]
    intro name hname
    have hget : (values.get name).isSome := by
      obtain ⟨entry, hentry, rfl⟩ := mem_map.mp hname
      rw [get_eq_some_iff.mpr hentry]
      rfl
    have hmem := (h.exactly name).mpr hget
    rw [route.pathParamsOf_path]
    simpa using hmem
  rw [expandPath, if_pos hunwanted, route.pieces_path, Route.mapM_pieces]

theorem Assigns.filled_parameter (h : Assigns route values) (hname : name ∈ route.parameters) :
    ∃ value, values.get name = some (.string value) ∧ Segment.filled route.path values (.parameter name) =
        match encodeURIComponent value with
        | some encoded => .ok encoded
        | none => .error .uriError := by
  obtain ⟨given, hget⟩ := Option.isSome_iff_exists.mp ((h.exactly name).mp hname)
  obtain ⟨value, rfl, hid, hdot, hdots⟩ := h.identifies name given hget
  have hne : value ≠ [] := by
    rintro rfl
    exact absurd hid (by decide)
  refine ⟨value, hget, ?_⟩
  rw [Segment.filled, filled, hget]
  dsimp only
  rw [if_neg hne, if_neg (not_or.mpr ⟨hdot, hdots⟩)]

theorem mem_parameters : name ∈ route.parameters ↔ .parameter name ∈ route.segments := by
  rw [Route.parameters, mem_filterMap]
  constructor
  · rintro ⟨segment, hsegment, h⟩
    cases segment with
    | literal written => cases h
    | parameter name' =>
      cases h
      exact hsegment
  · exact fun h => ⟨_, h, rfl⟩

section

variable (h : Assigns route values)
include h

variable {out : Text}

theorem Assigns.stands {segment : Segment} (hsegment : segment ∈ route.segments)
    (hout : segment.filled route.path values = .ok out) :
    Stands values segment out ∧ unit '/' ∉ out := by
  cases segment with
  | literal written =>
    have hslash := Segment.path_slashless (route.fits _ hsegment)
    cases hout
    exact ⟨rfl, hslash⟩
  | parameter name =>
    obtain ⟨value, hget, hfilled⟩ := h.filled_parameter (mem_parameters.mpr hsegment)
    rw [hfilled] at hout
    cases hencoded : encodeURIComponent value with
    | none =>
      rw [hencoded] at hout
      cases hout
    | some encoded =>
      rw [hencoded] at hout
      cases hout
      exact ⟨⟨value, hget, decodeURIComponent_encode hencoded⟩, encoded_slashless hencoded⟩

theorem Assigns.built (hout : expandPath route.path values = .ok out) :
    ∃ outs, route.segments.mapM (Segment.filled route.path values) = .ok outs ∧ segmentsOf out = [] :: outs ∧
      List.Forall₂ (Stands values) route.segments outs := by
  rw [h.expandPath_eq] at hout
  obtain ⟨outs, houts, rfl⟩ := Except.map_eq_ok_iff.mp hout
  have hfilled := mapM_ok_iff.mp houts
  have hall : ∀ segments : List Segment, (∀ s ∈ segments, s ∈ route.segments) → ∀ outs,
      List.Forall₂ (fun s o => Segment.filled route.path values s = .ok o) segments outs →
        List.Forall₂ (Stands values) segments outs ∧ ∀ o ∈ outs, unit '/' ∉ o := by
    intro segments hin outs hf
    induction hf with
    | nil => exact ⟨.nil, fun o ho => absurd ho not_mem_nil⟩
    | @cons s o segments outs hso _ ih =>
      obtain ⟨hstands, hslash⟩ := h.stands (hin s mem_cons_self) hso
      obtain ⟨hrest, hslashes⟩ := ih fun s' hs' => hin s' (mem_cons_of_mem _ hs')
      refine ⟨.cons hstands hrest, fun o' ho' => ?_⟩
      rcases mem_cons.mp ho' with rfl | ho'
      · exact hslash
      · exact hslashes o' ho'
  obtain ⟨hstands, hslashes⟩ := hall route.segments (fun _ hs => hs) outs hfilled
  exact ⟨outs, houts, segmentsOf_flatMap hslashes, hstands⟩

theorem Assigns.keepsRoute_iff : KeepsRoute route values ↔
      ∀ name value, values.get name = some (.string value) → isWellFormed value = true := by
  constructor
  · rintro ⟨out, -, hout, -⟩ name value hget
    obtain ⟨outs, houts, -, -⟩ := h.built hout
    have hname : name ∈ route.parameters := (h.exactly name).mpr (by rw [hget]; rfl)
    obtain ⟨value', hget', hfilled⟩ := h.filled_parameter hname
    rw [hget] at hget'
    cases hget'
    obtain ⟨o, ho⟩ := ok_of_mapM houts _ (mem_parameters.mp hname)
    rw [hfilled] at ho
    rw [← encodeURIComponent_isSome]
    cases hencoded : encodeURIComponent value with
    | none =>
      rw [hencoded] at ho
      cases ho
    | some encoded => rfl
  · intro hwell
    have hok : ∀ segment ∈ route.segments, ∃ out, segment.filled route.path values = .ok out := by
      intro segment hsegment
      cases segment with
      | literal written => exact ⟨written, rfl⟩
      | parameter name =>
        obtain ⟨value, hget, hfilled⟩ := h.filled_parameter (mem_parameters.mpr hsegment)
        have hsome := hwell name value hget
        rw [← encodeURIComponent_isSome] at hsome
        obtain ⟨encoded, hencoded⟩ := Option.isSome_iff_exists.mp hsome
        exact ⟨encoded, by rw [hfilled, hencoded]⟩
    obtain ⟨outs, houts⟩ := mapM_ok_of hok
    have hout : expandPath route.path values = .ok (outs.flatMap fun out => unit '/' :: out) := by
      rw [h.expandPath_eq, houts]
      rfl
    obtain ⟨outs', houts', hsegments, hstands⟩ := h.built hout
    refine ⟨_, outs', hout, hsegments, ?_, hstands⟩
    rw [hsegments, route.segmentsOf_path, length_cons, length_cons, length_map, hstands.length_eq]

theorem Assigns.get_eq {values' : Dict Text Given} (h' : Assigns route values')
    (hout : expandPath route.path values = .ok out) (hout' : expandPath route.path values' = .ok out) (name : Text) :
    values.get name = values'.get name := by
  obtain ⟨outs, -, hsegments, hstands⟩ := h.built hout
  obtain ⟨outs', -, hsegments', hstands'⟩ := h'.built hout'
  have houts : outs = outs' := (List.cons.inj (hsegments.symm.trans hsegments')).2
  subst houts
  by_cases hname : name ∈ route.parameters
  · have hboth : ∀ {segments : List Segment} {outs : List Text}, List.Forall₂ (Stands values) segments outs →
        List.Forall₂ (Stands values') segments outs → .parameter name ∈ segments →
          values.get name = values'.get name := by
      intro segments outs hone hother hmem
      induction hone with
      | nil => cases hmem
      | cons hso _ ih =>
        cases hother with
        | cons hso' hrest =>
          rcases mem_cons.mp hmem with heq | hmem
          · rw [← heq] at hso hso'
            obtain ⟨value, hget, hdecode⟩ := hso
            obtain ⟨value', hget', hdecode'⟩ := hso'
            rw [hdecode] at hdecode'
            rw [hget, hget', Option.some.inj hdecode']
          · exact ih hrest hmem
    exact hboth hstands hstands' (mem_parameters.mp hname)
  · have hnone : values.get name = none := by
      rw [← Option.not_isSome_iff_eq_none]
      exact fun hh => hname ((h.exactly name).mpr hh)
    have hnone' : values'.get name = none := by
      rw [← Option.not_isSome_iff_eq_none]
      exact fun hh => hname ((h'.exactly name).mpr hh)
    rw [hnone, hnone']

end

theorem expandPath_throws (path : Text) (values : Dict Text Given)
    (h : (∃ name ∈ pathParamsOf path, values.get name = none) ∨
      ∃ name, (values.get name).isSome ∧ name ∉ pathParamsOf path) :
    ∃ thrown, expandPath path values = .error thrown := by
  rw [expandPath]
  split
  · next hunwanted =>
    rcases h with ⟨name, hname, hnone⟩ | ⟨name, hsome, hname⟩
    · cases hall : (pieces path).mapM (filled path values) with
      | error thrown => exact ⟨thrown, rfl⟩
      | ok parts =>
        rw [pathParamsOf, mem_filterMap] at hname
        obtain ⟨piece, hpiece, hpname⟩ := hname
        obtain ⟨part, hpart⟩ := ok_of_mapM hall piece hpiece
        cases piece with
        | literal u => cases hpname
        | parameter name' =>
          cases hpname
          rw [filled, hnone] at hpart
          cases hpart
    · rw [filter_eq_nil_iff] at hunwanted
      obtain ⟨given, hget⟩ := Option.isSome_iff_exists.mp hsome
      have hin := hunwanted name (mem_map.mpr ⟨_, get_eq_some_iff.mp hget, rfl⟩)
      exact absurd (by simpa using hin) hname
  · exact ⟨_, rfl⟩

/-- **Building an address from a route keeps the route** exactly where no value holds a surrogate that stands
alone. Two assignments never give one address, and what is given amiss is thrown at. -/
theorem expandPath_keeps_route (route : Route) (values : Dict Text Given) :
    (Assigns route values →
      (KeepsRoute route values ↔ ∀ name value, values.get name = some (.string value) → isWellFormed value = true)) ∧
    (∀ values', Assigns route values → Assigns route values' → ∀ out,
      expandPath route.path values = .ok out → expandPath route.path values' = .ok out →
        ∀ name, values.get name = values'.get name) ∧
    ∀ path, ((∃ name ∈ pathParamsOf path, values.get name = none) ∨
      ∃ name, (values.get name).isSome ∧ name ∉ pathParamsOf path) →
        ∃ thrown, expandPath path values = .error thrown :=
  ⟨fun h => h.keepsRoute_iff, fun _ h h' _ hout hout' name => h.get_eq h' hout hout' name,
    fun path => expandPath_throws path values⟩

/-! ## An identifier without an address -/

/-- The route an order is read at. -/
def orderRoute : Route where
  segments := [.literal (text "v0"), .literal (text "orders"), .parameter (text "order_id")]
  fits := by decide

def halfCharacter : Text := text "order" ++ [codeUnit 0xd83d]

def halfGiven : Dict Text Given := Dict.empty.set (text "order_id") (.string halfCharacter)

theorem halfGiven_assigns : Assigns orderRoute halfGiven := by
  refine ⟨fun name => ?_, fun name given hget => ?_⟩
  · have hparameters : orderRoute.parameters = [text "order_id"] := by decide
    rw [hparameters, halfGiven, get_set, mem_singleton]
    split
    · next heq => simp [heq]
    · next hne => simp [hne, Dict.get, Dict.empty, Dict.find]
  · rw [halfGiven, get_set] at hget
    split at hget
    · cases hget
      exact ⟨halfCharacter, rfl, by decide, by decide, by decide⟩
    · cases hget

/-- `IdentifierSchema` takes it, and no address is built of it. -/
theorem half_character_throws : Assigns orderRoute halfGiven ∧ ¬ KeepsRoute orderRoute halfGiven ∧
    expandPath orderRoute.path halfGiven = .error .uriError := by
  have hthrown : expandPath orderRoute.path halfGiven = .error .uriError := by decide +kernel
  refine ⟨halfGiven_assigns, ?_, hthrown⟩
  rintro ⟨out, -, hout, -⟩
  cases hout

end Coinslot.Contract
