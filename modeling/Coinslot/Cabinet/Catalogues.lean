import Mathlib.Data.Rat.Floor
import Coinslot.Lib.Decimals

/-!
# Reading a shop's catalogue

The walk through the pages of a shop's public catalogue (`catalogueOf` of `apps/cabinet/src/woo-shop.ts`). What a
page is answered with comes of the shop; how a text is parsed and what a document is held to are parameters, since
nothing here turns on them.

A page is asked for as long as every page before it was full and the ceiling is not passed, and so the pages that
are asked for are told by the shop and the ceiling alone (`Asks`). The import is the whole catalogue or a failure
said in words, but where the body of a page breaks off while it is read: that is thrown past the walk, which
catches what the call throws and not what the reading does (`BreaksOff`).
-/

namespace Coinslot

open List

/-- How many products are asked for at a time. -/
def PER_PAGE : Nat := 100

/-- What asking for an address comes to. -/
inductive PageFetched where
  /-- The call itself was thrown out of: nobody there, or nobody in time. -/
  | threw (thrown : String)
  /-- A status, and the body: the text of it, or what its reading was thrown out of with. -/
  | answered (status : Nat) (body : Except String String)

/-- The parts of the walk that come from elsewhere. -/
structure ShopReader (Doc Product : Type) where
  /-- What the shop answers an address with. -/
  fetch : String → PageFetched
  /-- `JSON.parse`. -/
  parse : String → Option Doc
  /-- The message a document of the shop's carries, where it is a text with something in it. -/
  messageOf : Doc → Option String
  /-- `StoreProductsSchema.safeParse`: the products, or the first complaint where there is one. -/
  safeParse : Doc → Except (Option String) (List Product)
  /-- How a number is written. -/
  numeral : Rat → String

/-- `CatalogueRead`. -/
inductive CatalogueRead (Product : Type) where
  | ok (products : List Product)
  | failed (why : String)

/-- What one page is read as. -/
inductive PageRead (Product : Type) where
  | products (data : List Product)
  | failed (why : String)
  | threw (thrown : String)

namespace ShopReader

variable {Doc Product : Type} (reader : ShopReader Doc Product) (shopUrl : String)

def addressOf (page : Nat) : String := s!"{shopUrl}/wp-json/wc/store/v1/products?per_page={PER_PAGE}&page={page}"

/-- What the shop said, out of its own error document, or the status where there is nothing to read. -/
def whatTheShopSaid (said : String) (status : Nat) : String :=
  match (reader.parse said).bind reader.messageOf with
  | some message => message
  | none => s!"the answer carried no message we could read (HTTP {status})."

/-- One page, read or refused. -/
def readPage (page : Nat) : PageRead Product :=
  match reader.fetch (addressOf shopUrl page) with
  | .threw thrown => .failed s!"Your shop did not answer: {thrown}"
  | .answered _ (.error thrown) => .threw thrown
  | .answered status (.ok said) =>
    if status < 200 ∨ 299 < status then
      .failed (s!"Your shop answered {status} when we asked for its catalogue: " ++
        reader.whatTheShopSaid said status)
    else
      match reader.parse said with
      | none =>
        .failed ("Your shop answered the catalogue address with something that is not JSON. Check that" ++
          " nothing in front of it is serving a page of its own at /wp-json.")
      | some document =>
        match reader.safeParse document with
        | .error complaint =>
          .failed ("Your shop answered the catalogue address with a document we could not read as a list" ++
            " of products: " ++ complaint.getD "the shape was not the expected one" ++ ".")
        | .ok data => .products data

/-- What is said of a shop with more products than are brought over. -/
def tooMany (atMost : Rat) : String :=
  s!"Your shop offers more than {reader.numeral atMost} products, which is more than this brings over in one" ++
    " go. Nothing was imported."

/-- The walk from a page on, with the pages that are left to it and the products so far: what it comes to, and how
many requests that takes. -/
def readFrom (atMost : Rat) : Nat → Nat → List Product → Except String (CatalogueRead Product) × Nat
  | 0, _, _ => (.ok (.failed (reader.tooMany atMost)), 0)
  | left + 1, page, products =>
    match reader.readPage shopUrl page with
    | .threw thrown => (.error thrown, 1)
    | .failed why => (.ok (.failed why), 1)
    | .products data =>
      if atMost < ((products ++ data).length : Rat) then (.ok (.failed (reader.tooMany atMost)), 1)
      else if data.length < PER_PAGE then (.ok (.ok (products ++ data)), 1)
      else
        let rest := readFrom atMost left (page + 1) (products ++ data)
        (rest.1, rest.2 + 1)

/-- How many pages the walk goes for at most: `Math.ceil(atMost / PER_PAGE) + 1`. -/
def pagesFor (atMost : Rat) : Nat := (⌈atMost / PER_PAGE⌉ + 1).toNat

/-- The whole of a shop's public catalogue, with the number of requests it took. -/
def catalogueOf (atMost : Rat) : Except String (CatalogueRead Product) × Nat :=
  reader.readFrom shopUrl atMost (pagesFor atMost) 1 []

/-! ## A shop with stable paging -/

def pageOf (catalogue : List Product) (page : Nat) : List Product :=
  (catalogue.drop (PER_PAGE * (page - 1))).take PER_PAGE

/-- Paging is stable over a catalogue where every page that can be read holds its own part of it. -/
def Stable (catalogue : List Product) : Prop :=
  ∀ page data, 1 ≤ page → reader.readPage shopUrl page = .products data → data = pageOf catalogue page

def Readable (page : Nat) : Prop := ∃ data, reader.readPage shopUrl page = .products data

/-- A page whose body breaks off while it is read. -/
def BreaksOff (page : Nat) : Prop := ∃ thrown, reader.readPage shopUrl page = .threw thrown

/-- Pages that were read, were full and did not pass the ceiling. -/
def Walked (catalogue : List Product) (atMost : Rat) (first last : Nat) : Prop :=
  ∀ page, first ≤ page → page < last →
    reader.Readable shopUrl page ∧ PER_PAGE * page ≤ catalogue.length ∧ ((PER_PAGE * page : Nat) : Rat) ≤ atMost

def Asks (catalogue : List Product) (atMost : Rat) (page : Nat) : Prop :=
  1 ≤ page ∧ page ≤ pagesFor atMost ∧ reader.Walked shopUrl catalogue atMost 1 page

/-- What an import is held to: it is the whole catalogue where that fits and every page of it can be read, and a
failure said in words where a page cannot; and it takes no more requests than there are pages to go for. -/
structure ImportsWhole (catalogue : List Product) (atMost : Rat) : Prop where
  whole : ∀ products, (reader.catalogueOf shopUrl atMost).1 = .ok (.ok products) → products = catalogue
  ok_iff : (∃ products, (reader.catalogueOf shopUrl atMost).1 = .ok (.ok products)) ↔
    (catalogue.length : Rat) ≤ atMost ∧
      ∀ page, 1 ≤ page → page ≤ catalogue.length / PER_PAGE + 1 → reader.Readable shopUrl page
  requests : (reader.catalogueOf shopUrl atMost).2 ≤ pagesFor atMost
  unreadable : ∀ page, 1 ≤ page → page ≤ catalogue.length / PER_PAGE + 1 → ¬ reader.Readable shopUrl page →
    ∃ why, (reader.catalogueOf shopUrl atMost).1 = .ok (.failed why)

/-! ## The walk -/

/-- How a walk ends. -/
inductive WalkEnds (catalogue : List Product) (atMost : Rat) (first left : Nat) :
    Except String (CatalogueRead Product) → Prop
  | failed {page : Nat} {why : String} (hfirst : first ≤ page) (hlast : page < first + left)
      (hbefore : reader.Walked shopUrl catalogue atMost first page)
      (hpage : reader.readPage shopUrl page = .failed why) :
      WalkEnds catalogue atMost first left (.ok (.failed why))
  | threw {page : Nat} {thrown : String} (hfirst : first ≤ page) (hlast : page < first + left)
      (hbefore : reader.Walked shopUrl catalogue atMost first page)
      (hpage : reader.readPage shopUrl page = .threw thrown) :
      WalkEnds catalogue atMost first left (.error thrown)
  | passed {page : Nat} (hfirst : first ≤ page) (hlast : page < first + left)
      (hbefore : reader.Walked shopUrl catalogue atMost first page) (hpage : reader.Readable shopUrl page)
      (hpassed : atMost < (PER_PAGE * page : Nat)) (hover : atMost < catalogue.length) :
      WalkEnds catalogue atMost first left (.ok (.failed (reader.tooMany atMost)))
  | ranOut (hwalked : reader.Walked shopUrl catalogue atMost first (first + left)) :
      WalkEnds catalogue atMost first left (.ok (.failed (reader.tooMany atMost)))
  | whole {page : Nat} (hfirst : first ≤ page) (hlast : page < first + left)
      (hbefore : reader.Walked shopUrl catalogue atMost first page) (hpage : reader.Readable shopUrl page)
      (hends : page = catalogue.length / PER_PAGE + 1) (hfits : (catalogue.length : Rat) ≤ atMost) :
      WalkEnds catalogue atMost first left (.ok (.ok catalogue))

variable {reader} {shopUrl} {catalogue : List Product} {atMost : Rat}

theorem Walked.cons {first last : Nat} (hread : reader.Readable shopUrl first)
    (hfull : PER_PAGE * first ≤ catalogue.length) (hceiling : ((PER_PAGE * first : Nat) : Rat) ≤ atMost)
    (h : reader.Walked shopUrl catalogue atMost (first + 1) last) :
    reader.Walked shopUrl catalogue atMost first last := by
  intro page hfirst hlast
  rcases Nat.eq_or_lt_of_le hfirst with rfl | hlt
  · exact ⟨hread, hfull, hceiling⟩
  · exact h page hlt hlast

theorem Walked.nil (first : Nat) : reader.Walked shopUrl catalogue atMost first first :=
  fun _ hfirst hlast => absurd hlast (Nat.not_lt.mpr hfirst)

theorem WalkEnds.cons {first left : Nat} {result : Except String (CatalogueRead Product)}
    (hread : reader.Readable shopUrl first) (hfull : PER_PAGE * first ≤ catalogue.length)
    (hceiling : ((PER_PAGE * first : Nat) : Rat) ≤ atMost)
    (h : reader.WalkEnds shopUrl catalogue atMost (first + 1) left result) :
    reader.WalkEnds shopUrl catalogue atMost first (left + 1) result := by
  cases h with
  | failed hfirst hlast hbefore hpage =>
    exact .failed (by omega) (by omega) (hbefore.cons hread hfull hceiling) hpage
  | threw hfirst hlast hbefore hpage =>
    exact .threw (by omega) (by omega) (hbefore.cons hread hfull hceiling) hpage
  | passed hfirst hlast hbefore hpage hpassed hover =>
    exact .passed (by omega) (by omega) (hbefore.cons hread hfull hceiling) hpage hpassed hover
  | ranOut hwalked =>
    rw [Nat.add_right_comm, Nat.add_assoc] at hwalked
    exact .ranOut (hwalked.cons hread hfull hceiling)
  | whole hfirst hlast hbefore hpage hends hfits =>
    exact .whole (by omega) (by omega) (hbefore.cons hread hfull hceiling) hpage hends hfits

variable {page : Nat}

theorem take_page (catalogue : List Product) (h : 1 ≤ page) :
    catalogue.take (PER_PAGE * (page - 1)) ++ pageOf catalogue page = catalogue.take (PER_PAGE * page) := by
  obtain ⟨n, rfl⟩ := Nat.exists_eq_add_of_le' h
  rw [pageOf, Nat.add_sub_cancel, Nat.mul_succ, ← take_add]

theorem pageOf_length (catalogue : List Product) (page : Nat) :
    (pageOf catalogue page).length = min PER_PAGE (catalogue.length - PER_PAGE * (page - 1)) := by
  rw [pageOf, length_take, length_drop]

theorem readFrom_ends (hstable : reader.Stable shopUrl catalogue) (left : Nat) : ∀ page, 1 ≤ page →
    PER_PAGE * (page - 1) ≤ catalogue.length → reader.WalkEnds shopUrl catalogue atMost page left
        (reader.readFrom shopUrl atMost left page (catalogue.take (PER_PAGE * (page - 1)))).1 ∧
      (reader.readFrom shopUrl atMost left page (catalogue.take (PER_PAGE * (page - 1)))).2 ≤ left := by
  induction left with
  | zero => exact fun page _ _ => ⟨.ranOut (Walked.nil page), Nat.le_refl 0⟩
  | succ left ih =>
    intro page hpage hroom
    rw [readFrom]
    cases hread : reader.readPage shopUrl page with
    | threw thrown => exact ⟨.threw (Nat.le_refl page) (by omega) (Walked.nil page) hread, by simp⟩
    | failed why => exact ⟨.failed (Nat.le_refl page) (by omega) (Walked.nil page) hread, by simp⟩
    | products data =>
      have hreadable : reader.Readable shopUrl page := ⟨data, hread⟩
      have hdata := hstable page data hpage hread
      have hlength := pageOf_length catalogue page
      have htaken : (catalogue.take (PER_PAGE * page)).length = min (PER_PAGE * page) catalogue.length :=
        length_take
      have hsucc : PER_PAGE * page = PER_PAGE * (page - 1) + 100 := by
        unfold PER_PAGE
        omega
      dsimp only
      rw [hdata, take_page catalogue hpage]
      split
      · next hover =>
        have hpassed : atMost < (PER_PAGE * page : Nat) := by
          refine lt_of_lt_of_le hover ?_
          rw [htaken]
          exact_mod_cast Nat.min_le_left _ _
        have hmore : atMost < catalogue.length := by
          refine lt_of_lt_of_le hover ?_
          rw [htaken]
          exact_mod_cast Nat.min_le_right _ _
        exact ⟨.passed (Nat.le_refl page) (by omega) (Walked.nil page) hreadable hpassed hmore, by simp⟩
      · next hunder =>
        rw [not_lt] at hunder
        split
        · next hshort =>
          have hlast : catalogue.length < PER_PAGE * page := by
            unfold PER_PAGE at *
            omega
          have hall : catalogue.take (PER_PAGE * page) = catalogue := take_of_length_le (Nat.le_of_lt hlast)
          have hends : page = catalogue.length / PER_PAGE + 1 := by
            unfold PER_PAGE at *
            omega
          rw [hall] at hunder ⊢
          exact ⟨.whole (Nat.le_refl page) (by omega) (Walked.nil page) hreadable hends hunder, by simp⟩
        · next hfull =>
          have hmore : PER_PAGE * page ≤ catalogue.length := by
            unfold PER_PAGE at *
            omega
          have hceiling : ((PER_PAGE * page : Nat) : Rat) ≤ atMost := by
            rwa [htaken, Nat.min_eq_left hmore] at hunder
          obtain ⟨hends, hrequests⟩ := ih (page + 1) (by omega) (by simpa using hmore)
          exact ⟨hends.cons hreadable hmore hceiling, Nat.succ_le_succ hrequests⟩

theorem over_of_walked (h : reader.Walked shopUrl catalogue atMost 1 (1 + pagesFor atMost)) :
    atMost < catalogue.length := by
  have hceil : atMost ≤ (⌈atMost / PER_PAGE⌉ : Rat) * PER_PAGE := by
    have hle := Int.le_ceil (atMost / PER_PAGE)
    rwa [div_le_iff₀ (by norm_num [PER_PAGE])] at hle
  rcases Nat.eq_zero_or_pos (pagesFor atMost) with hzero | hpos
  · have hneg : ⌈atMost / PER_PAGE⌉ ≤ -1 := by
      unfold pagesFor at hzero
      omega
    have hneg' : (⌈atMost / PER_PAGE⌉ : Rat) ≤ -1 := by exact_mod_cast hneg
    have hper : (PER_PAGE : Rat) = 100 := by norm_num [PER_PAGE]
    have hlength : (0 : Rat) ≤ catalogue.length := Nat.cast_nonneg _
    rw [hper] at hceil hneg'
    linarith
  · exfalso
    obtain ⟨-, -, hlast⟩ := h (pagesFor atMost) hpos (by omega)
    have hpages : (pagesFor atMost : Rat) = (⌈atMost / PER_PAGE⌉ : Rat) + 1 := by
      have : ((pagesFor atMost : Nat) : Int) = ⌈atMost / PER_PAGE⌉ + 1 := by
        unfold pagesFor at hpos ⊢
        omega
      exact_mod_cast this
    have hper : (PER_PAGE : Rat) = 100 := by norm_num [PER_PAGE]
    push_cast at hlast
    rw [hpages, hper] at hlast
    rw [hper] at hceil
    linarith

theorem catalogueOf_ends (hstable : reader.Stable shopUrl catalogue) (atMost : Rat) :
    reader.WalkEnds shopUrl catalogue atMost 1 (pagesFor atMost) (reader.catalogueOf shopUrl atMost).1 ∧
      (reader.catalogueOf shopUrl atMost).2 ≤ pagesFor atMost :=
  readFrom_ends hstable (pagesFor atMost) 1 (Nat.le_refl 1) (Nat.zero_le _)

theorem Walked.page_le (hpage : 1 ≤ page) (h : reader.Walked shopUrl catalogue atMost 1 page) :
    page ≤ catalogue.length / PER_PAGE + 1 := by
  rcases Nat.eq_or_lt_of_le hpage with rfl | hlt
  · exact Nat.le_add_left 1 _
  · obtain ⟨-, hfull, -⟩ := h (page - 1) (by omega) (by omega)
    have hle : page - 1 ≤ catalogue.length / PER_PAGE := by
      rw [Nat.le_div_iff_mul_le (by decide), Nat.mul_comm]
      exact hfull
    omega

theorem Walked.all (h : reader.Walked shopUrl catalogue atMost 1 page)
    (hpage : reader.Readable shopUrl page) (hends : page = catalogue.length / PER_PAGE + 1) :
    ∀ q, 1 ≤ q → q ≤ catalogue.length / PER_PAGE + 1 → reader.Readable shopUrl q := by
  intro q hq hle
  rcases Nat.lt_or_ge q page with hlt | hge
  · exact (h q hq hlt).1
  · have heq : q = page := by omega
    rwa [heq]

theorem not_readable_of_failed {why : String} (h : reader.readPage shopUrl page = .failed why) :
    ¬ reader.Readable shopUrl page := by
  rintro ⟨data, hdata⟩
  rw [h] at hdata
  cases hdata

theorem BreaksOff.not_readable (h : reader.BreaksOff shopUrl page) : ¬ reader.Readable shopUrl page := by
  obtain ⟨thrown, hthrown⟩ := h
  rintro ⟨data, hdata⟩
  rw [hthrown] at hdata
  cases hdata

theorem threw_of_breaksOff (hstable : reader.Stable shopUrl catalogue)
    (hasks : reader.Asks shopUrl catalogue atMost page) (hbreaks : reader.BreaksOff shopUrl page) :
    ∃ thrown, (reader.catalogueOf shopUrl atMost).1 = .error thrown := by
  obtain ⟨hends, -⟩ := catalogueOf_ends hstable atMost
  obtain ⟨hpage, hlast, hbefore⟩ := hasks
  generalize hresult : (reader.catalogueOf shopUrl atMost).1 = result at hends
  cases hends with
  | threw _ _ _ _ => exact ⟨_, rfl⟩
  | @failed stop why hfirst _ hwalked hstop =>
    rcases Nat.lt_trichotomy page stop with hlt | rfl | hgt
    · exact absurd (hwalked page hpage hlt).1 hbreaks.not_readable
    · obtain ⟨thrown, hthrown⟩ := hbreaks
      rw [hthrown] at hstop
      cases hstop
    · exact absurd (hbefore stop hfirst hgt).1 (not_readable_of_failed hstop)
  | @passed stop hfirst _ hwalked hstop hpassed _ =>
    rcases Nat.lt_trichotomy page stop with hlt | rfl | hgt
    · exact absurd (hwalked page hpage hlt).1 hbreaks.not_readable
    · exact absurd hstop hbreaks.not_readable
    · exact absurd hpassed (not_lt.mpr (hbefore stop hfirst hgt).2.2)
  | ranOut hwalked => exact absurd (hwalked page hpage (by omega)).1 hbreaks.not_readable
  | @whole stop hfirst _ hwalked hstop hlastPage _ =>
    rcases Nat.lt_trichotomy page stop with hlt | rfl | hgt
    · exact absurd (hwalked page hpage hlt).1 hbreaks.not_readable
    · exact absurd hstop hbreaks.not_readable
    · have := hbefore.page_le hpage
      omega

theorem importsWhole_of_answered (hstable : reader.Stable shopUrl catalogue)
    (h : ∀ thrown, (reader.catalogueOf shopUrl atMost).1 ≠ .error thrown) :
    reader.ImportsWhole shopUrl catalogue atMost := by
  obtain ⟨hends, hrequests⟩ := catalogueOf_ends hstable atMost
  generalize hresult : (reader.catalogueOf shopUrl atMost).1 = result at hends h
  cases hends with
  | threw _ _ _ _ => exact absurd rfl (h _)
  | @failed page why hfirst hlast hbefore hpage =>
    refine ⟨fun products hok => ?_, ⟨fun ⟨products, hok⟩ => ?_, fun ⟨_, hall⟩ => ?_⟩, hrequests,
      fun _ _ _ _ => ⟨why, hresult⟩⟩
    · rw [hresult] at hok
      cases hok
    · rw [hresult] at hok
      cases hok
    · exact absurd (hall page hfirst (hbefore.page_le hfirst)) (not_readable_of_failed hpage)
  | passed _ _ _ _ _ hover =>
    refine ⟨fun products hok => ?_, ⟨fun ⟨products, hok⟩ => ?_, fun ⟨hfits, _⟩ => ?_⟩, hrequests,
      fun _ _ _ _ => ⟨_, hresult⟩⟩
    · rw [hresult] at hok
      cases hok
    · rw [hresult] at hok
      cases hok
    · exact absurd hover (not_lt.mpr hfits)
  | ranOut hwalked =>
    refine ⟨fun products hok => ?_, ⟨fun ⟨products, hok⟩ => ?_, fun ⟨hfits, _⟩ => ?_⟩, hrequests,
      fun _ _ _ _ => ⟨_, hresult⟩⟩
    · rw [hresult] at hok
      cases hok
    · rw [hresult] at hok
      cases hok
    · exact absurd (over_of_walked hwalked) (not_lt.mpr hfits)
  | @whole page hfirst hlast hbefore hpage hends hfits =>
    have hall := hbefore.all hpage hends
    refine ⟨fun products hok => ?_, ⟨fun _ => ⟨hfits, hall⟩, fun _ => ⟨_, hresult⟩⟩, hrequests,
      fun q hq hle hnot => absurd (hall q hq hle) hnot⟩
    rw [hresult] at hok
    cases hok
    rfl

/-- **An import is the whole catalogue or a failure in words** exactly where no page that is asked for breaks off
while it is read. -/
theorem importsWhole_iff (reader : ShopReader Doc Product) (shopUrl : String) (catalogue : List Product)
    (hstable : reader.Stable shopUrl catalogue) (atMost : Rat) :
    reader.ImportsWhole shopUrl catalogue atMost ↔
      ¬ ∃ page, reader.Asks shopUrl catalogue atMost page ∧ reader.BreaksOff shopUrl page := by
  constructor
  · rintro himports ⟨page, hasks, hbreaks⟩
    obtain ⟨why, hwhy⟩ := himports.unreadable page hasks.1 (hasks.2.2.page_le hasks.1) hbreaks.not_readable
    obtain ⟨thrown, hthrown⟩ := threw_of_breaksOff hstable hasks hbreaks
    rw [hwhy] at hthrown
    cases hthrown
  · intro hnone
    refine importsWhole_of_answered hstable fun thrown hthrown => hnone ?_
    have hends := (catalogueOf_ends hstable atMost).1
    rw [hthrown] at hends
    cases hends with
    | @threw page _ hfirst hlast hbefore hpage => exact ⟨page, ⟨hfirst, by omega, hbefore⟩, thrown, hpage⟩

end ShopReader

/-! ## Two shops -/

/-- A shop of two products, all on its first page. -/
def smallShop : ShopReader (List Nat) Nat where
  fetch address :=
    if address = ShopReader.addressOf "https://shop" 1 then .answered 200 (.ok "[11,12]")
    else .answered 200 (.ok "[]")
  parse said := if said = "[11,12]" then some [11, 12] else if said = "[]" then some [] else none
  messageOf _ := none
  safeParse document := .ok document
  numeral atMost := s!"{atMost.num}"

theorem addressOf_inj {shopUrl : String} {page other : Nat}
    (h : ShopReader.addressOf shopUrl page = ShopReader.addressOf shopUrl other) : page = other := by
  unfold ShopReader.addressOf at h
  simp only [String.append_right_inj] at h
  exact Decimals.toString_inj h

theorem smallShop_stable : smallShop.Stable "https://shop" [11, 12] := by
  intro page data hpage hread
  rcases Nat.eq_or_lt_of_le hpage with rfl | hlt
  · have hone : smallShop.readPage "https://shop" 1 = .products [11, 12] := by
      simp [ShopReader.readPage, smallShop]
    cases hread
    rfl
  · have hother : ShopReader.addressOf "https://shop" page ≠ ShopReader.addressOf "https://shop" 1 :=
      fun h => Nat.ne_of_gt hlt (addressOf_inj h)
    have hempty : smallShop.readPage "https://shop" page = .products [] := by
      simp [ShopReader.readPage, smallShop, hother]
    rw [hempty] at hread
    cases hread
    rw [ShopReader.pageOf, drop_eq_nil_of_le, take_nil]
    simp only [length_cons, length_nil, PER_PAGE]
    omega

theorem importsWhole_smallShop : smallShop.Stable "https://shop" [11, 12] ∧
    (smallShop.ImportsWhole "https://shop" [11, 12] 200 ↔
      ¬ ∃ page, smallShop.Asks "https://shop" [11, 12] 200 page ∧ smallShop.BreaksOff "https://shop" page) :=
  ⟨smallShop_stable, ShopReader.importsWhole_iff smallShop "https://shop" [11, 12] smallShop_stable 200⟩

/-- The same shop behind a connection that goes away in the middle of every answer. -/
def brokenShop : ShopReader (List Nat) Nat :=
  { smallShop with fetch := fun _ => .answered 200 (.error "TypeError: terminated") }

/-- The walk is thrown out of where a body breaks off, and says nothing of the shop. -/
theorem broken_body_throws : brokenShop.Stable "https://shop" [11, 12] ∧
    (brokenShop.catalogueOf "https://shop" 200).1 = .error "TypeError: terminated" ∧
    ¬ brokenShop.ImportsWhole "https://shop" [11, 12] 200 := by
  have hthrows : (brokenShop.catalogueOf "https://shop" 200).1 = .error "TypeError: terminated" := by
    have hpages : ShopReader.pagesFor 200 = 2 + 1 := by decide +kernel
    rw [ShopReader.catalogueOf, hpages]
    rfl
  have hunread : ¬ brokenShop.Readable "https://shop" 1 := by
    rintro ⟨data, hdata⟩
    cases hdata
  refine ⟨fun page data _ hread => ?_, hthrows, fun himports => ?_⟩
  · cases hread
  · obtain ⟨why, hwhy⟩ := himports.unreadable 1 (Nat.le_refl 1) (by decide) hunread
    rw [hthrows] at hwhy
    cases hwhy

end Coinslot
