import Coinslot.Gateway.OnSale
import Coinslot.Orders.Prices

/-!
# What an agent is asked to pay

The challenge of a product (`apps/gateway/src/http/x402.ts`): a price in dollars is charged in the
network's own token, in its smallest unit, to the merchant's address. What cannot be written exactly is
refused. The token of a network comes from the payment scheme's table (`getDefaultAsset`).

The publish door asks for an address and a name and not for a price that can be charged: of what is on
sale, what can be paid for is exactly what `PaymentEdge.CanCharge` says.
-/

namespace Coinslot

open List Dict

/-! ## The encoder -/

/-- The token a network is paid in. -/
structure Asset where
  asset : String
  decimals : Nat
  name : String
  version : String
  deriving DecidableEq, Repr

/-- The payment protocol at the edge. -/
structure PaymentEdge where
  config : PaymentConfig
  timeoutSeconds : Int
  /-- The token of each network. -/
  getDefaultAsset : String → Asset

/-- What an agent is asked to pay, to whom, and for which order. -/
structure PaymentRequirements where
  scheme : String
  network : String
  asset : String
  amount : String
  payTo : String
  maxTimeoutSeconds : Int
  extra : List (String × String)
  deriving DecidableEq, Repr

def wholeOf (amount : String) : List Char := amount.toList.takeWhile (· ≠ '.')

def fractionOf (amount : String) : List Char := ((amount.toList.dropWhile (· ≠ '.')).drop 1).takeWhile (· ≠ '.')

/-- The zeros in front of another digit go. -/
def dropLeadingZeros : List Char → List Char
  | '0' :: c :: rest => if c.isDigit then dropLeadingZeros (c :: rest) else '0' :: c :: rest
  | written => written

/-- A price in the smallest unit the token has. One that is written finer is refused rather than
rounded. -/
def atomicUnits (amount : String) (decimals : Nat) : Except String String :=
  let fraction := fractionOf amount
  if decimals < fraction.length then
    .error (s!"{amount} is written to {fraction.length} places and this token carries {decimals}, " ++
      "so there is no exact amount to charge")
  else
    .ok (String.ofList (dropLeadingZeros
      (wholeOf amount ++ (fraction ++ List.replicate (decimals - fraction.length) '0'))))

/-- The currencies a price may be charged in (`PAYABLE`). -/
def payable : List String := ["USD", "USDC"]

namespace PaymentEdge

section

variable (edge : PaymentEdge)

def token : Asset := edge.getDefaultAsset edge.config.network

/-- The address the sandbox names where the merchant has set none. -/
def sandboxPlaceholder : Except String String :=
  if isSandboxFacilitator edge.config.facilitatorUrl then
    match edge.config.payTo with
    | none =>
      .error ("there is nowhere to send the money: no payment address is configured, so no payment " ++
        "can be asked for")
    | some configured => .ok configured
  else
    .error ("there is nowhere to send the money: the merchant who published this product has set no " ++
      "wallet to be paid at, and this gateway will not stand its own address in for theirs")

/-- The address a product is paid to. -/
def addressFor (payoutWallet : Option String) : Except String String :=
  match payoutWallet with
  | some wallet => .ok wallet
  | none => edge.sandboxPlaceholder

/-- What an agent is asked to pay, whose address it is paid to, and which order it is for. -/
def requirementsFor (price : Money) (orderId payoutWallet : Option String) : Except String PaymentRequirements :=
  if payable.contains price.currency.toUpper then do
    let payTo ← edge.addressFor payoutWallet
    let amount ← atomicUnits price.amount edge.token.decimals
    .ok
      { scheme := "exact"
        network := edge.config.network
        asset := edge.token.asset
        amount := amount
        payTo := payTo
        maxTimeoutSeconds := edge.timeoutSeconds
        extra :=
          [("name", edge.token.name), ("version", edge.token.version)] ++
            (orderId.map fun id => ("order_id", id)).toList }
  else
    .error (s!"{price.currency} is not a currency this gateway can charge in, and it will not " ++
      "invent a rate to one that is")

end

/-- What can be charged: a price in dollars, written no finer than the token is counted, and, where the
merchant has no wallet, an address of the operator's. -/
structure CanCharge (edge : PaymentEdge) (price : Money) (payoutWallet : Option String) : Prop where
  dollars : price.currency = "USD" ∨ price.currency = "USDC"
  exact : (fractionOf price.amount).length ≤ edge.token.decimals
  address : payoutWallet = none → edge.config.payTo.isSome

section
variable {edge : PaymentEdge} {wallet orderId : Option String} {price : Money}

theorem atomicUnits_isOk {amount : String} {decimals : Nat} :
    (atomicUnits amount decimals).isOk ↔ (fractionOf amount).length ≤ decimals := by
  unfold atomicUnits
  dsimp only
  split
  · next h => exact iff_of_false (by simp [Except.isOk, Except.toBool]) (Nat.not_le.2 h)
  · next h => exact iff_of_true rfl (Nat.not_lt.1 h)

theorem addressFor_isOk (h : payableTo wallet edge.config = true) :
    (edge.addressFor wallet).isOk ↔ (wallet = none → edge.config.payTo.isSome) := by
  cases wallet with
  | some address => exact iff_of_true rfl (by simp)
  | none =>
    have hsandbox : isSandboxFacilitator edge.config.facilitatorUrl = true := h
    unfold addressFor sandboxPlaceholder
    rw [if_pos hsandbox]
    cases edge.config.payTo <;> simp [Except.isOk, Except.toBool]

theorem toUpper_letter {c : Char} (h : c.isUpper = true ∨ c.isDigit = true) : c.toUpper = c := by
  refine dif_neg ?_
  rintro ⟨hlow, -⟩
  have hupper : c.isUpper = decide (c.val ≥ 'A'.val ∧ c.val ≤ 'Z'.val) := rfl
  simp only [hupper, Char.isDigit, Bool.and_eq_true, decide_eq_true_eq, UInt32.le_iff_toNat_le, ge_iff_le] at h hlow
  have ha : 'a'.val.toNat = 97 := rfl
  have hZ : 'Z'.val.toNat = 90 := rfl
  have h9 : '9'.val.toNat = 57 := rfl
  omega

theorem toUpper_currencyCode {code : String} (h : isCurrencyCode code = true) : code.toUpper = code := by
  have hletters : ∀ c ∈ code.toList, c.isUpper = true ∨ c.isDigit = true := by
    unfold isCurrencyCode at h
    split at h
    · cases h
    · next c rest hcode =>
      simp only [Bool.and_eq_true, all_eq_true, Bool.or_eq_true] at h
      rw [hcode]
      intro d hd
      rcases mem_cons.1 hd with rfl | hd
      · exact .inl h.1.1.1
      · exact h.1.1.2 d hd
  refine String.toList_injective ?_
  rw [String.toUpper, String.toList_map]
  exact (map_congr_left fun c hc => toUpper_letter (hletters c hc)).trans (map_id _)

/-- **What can be charged.** For a currency code, and where a sale could be paid for at all, the
requirements are written out exactly for what can be charged. -/
theorem requirementsFor_isOk (hcode : isCurrencyCode price.currency = true)
    (hpayable : payableTo wallet edge.config = true) :
    (edge.requirementsFor price orderId wallet).isOk ↔ edge.CanCharge price wallet := by
  have haddress := addressFor_isOk hpayable
  have hamount := @atomicUnits_isOk price.amount edge.token.decimals
  unfold requirementsFor
  rw [toUpper_currencyCode hcode]
  by_cases hd : price.currency = "USD" ∨ price.currency = "USDC"
  · rw [if_pos (by simpa [payable] using hd)]
    cases ha : edge.addressFor wallet with
    | error words =>
      rw [ha] at haddress
      exact iff_of_false (by simp [Except.isOk, Except.toBool, bind, Except.bind])
        fun h => by simpa [Except.isOk, Except.toBool] using haddress.2 h.address
    | ok address =>
      rw [ha] at haddress
      cases hu : atomicUnits price.amount edge.token.decimals with
      | error words =>
        rw [hu] at hamount
        exact iff_of_false (by simp [Except.isOk, Except.toBool, bind, Except.bind])
          fun h => by simpa [Except.isOk, Except.toBool] using hamount.2 h.exact
      | ok units =>
        rw [hu] at hamount
        exact iff_of_true rfl ⟨hd, hamount.1 rfl, haddress.1 rfl⟩
  · rw [if_neg (by simpa [payable] using hd)]
    exact iff_of_false (by simp [Except.isOk, Except.toBool]) fun h => hd h.dollars

end

end PaymentEdge

/-! ## The shelf -/

section
variable {words : CardWords} {config : PaymentConfig} {s : Shelf}

theorem checkMoney_wellFormed {value : Option JsonValue} {money : Money}
    (h : checkMoney words value = .ok money) : money.wellFormed = true := by
  have hfield {name expected : String} {passes : String → Bool} {field : Option JsonValue}
      (hnil : moneyField words name passes expected field = []) : passes (textOf field) = true := by
    unfold moneyField at hnil
    split at hnil
    · split at hnil
      · assumption
      · cases hnil
    · cases hnil
  unfold checkMoney at h
  split at h
  · dsimp only at h
    split at h
    · next hnone =>
      cases h
      rw [append_eq_nil_iff, append_eq_nil_iff] at hnone
      exact Bool.and_eq_true_iff.2 ⟨hfield hnone.1.1, hfield hnone.1.2⟩
    · cases h
  · cases h

theorem checkCard_wellFormed {body : WrittenCard} {card : Card} {price : Money}
    (h : checkCard words body = .ok (card, price)) : price.wellFormed = true := by
  unfold checkCard at h
  split at h
  · cases h
  · next named hprice =>
    have hnamed : named.wellFormed = true := by
      unfold checkCardPrice at hprice
      split at hprice
      · split at hprice
        · cases hprice
        · exact checkMoney_wellFormed hprice
      · exact checkMoney_wellFormed hprice
    split at h <;> cases h
    exact hnamed

/-- What holds of a shelf: the price of every card is written as one, and its merchant is there. -/
def Shelf.Stocked (s : Shelf) : Prop :=
  ∀ id card, s.cards.get id = some card →
    card.price.wellFormed = true ∧ s.merchants.has card.merchantId = true

variable {id : String} {change : StoredMerchant → StoredMerchant}

theorem Shelf.changeMerchant_has {other : String} (h : s.merchants.has other = true) :
    (s.changeMerchant id change).merchants.has other = true := by
  unfold changeMerchant
  split
  · exact h
  · unfold Dict.has at h ⊢
    rw [get_set]
    split
    · rfl
    · exact h

theorem Shelf.changeMerchant_stocked (h : s.Stocked) : (s.changeMerchant id change).Stocked := by
  have hcards : (s.changeMerchant id change).cards = s.cards := by
    unfold changeMerchant
    split <;> rfl
  intro key card hc
  rw [hcards] at hc
  exact ⟨(h key card hc).1, changeMerchant_has (h key card hc).2⟩

/-- **The step lemma of the shelf.** A card comes with a price that is written as one, and through a door
that asks for its merchant. -/
theorem Shelf.next_stocked (action : ShelfAction) (h : s.Stocked) : (s.next words config action).Stocked := by
  cases action with
  | addMerchant id =>
    unfold next addMerchant
    dsimp only
    split
    · exact h
    · intro key card hc
      refine ⟨(h key card hc).1, ?_⟩
      have hthere := (h key card hc).2
      unfold Dict.has at hthere ⊢
      rw [get_set]
      split
      · rfl
      · exact hthere
  | setSelling id selling => exact changeMerchant_stocked h
  | setServiceName id serviceName => exact changeMerchant_stocked h
  | setPayoutWallet id payoutWallet => exact changeMerchant_stocked h
  | publishCard merchantId body t fresh =>
    unfold next publishCard
    dsimp only
    split
    · exact h
    · next card price hchecked =>
      split
      · next hnone =>
        intro key found hc
        unfold putCard at hc ⊢
        rcases of_get_set hc with ⟨-, rfl⟩ | ⟨-, hc⟩
        · refine ⟨checkCard_wellFormed hchecked, ?_⟩
          -- A merchant who is not there has no name either, and is turned away.
          unfold Dict.has
          cases hm : s.merchants.get merchantId with
          | some merchant => rfl
          | none => simp [missing, hm, listedUnder] at hnone
        · exact h key found hc
      · exact h
  | setCardPaused merchantId id paused =>
    unfold next setCardPaused
    dsimp only
    split
    · exact h
    · next found hfound =>
      split
      · exact h
      · intro key card hc
        rcases of_get_set hc with ⟨-, rfl⟩ | ⟨-, hc⟩
        · exact h id found hfound
        · exact h key card hc

theorem shelfRun_stocked (actions : List ShelfAction) : (shelfRun words config actions).Stocked := by
  have hall (s : Shelf) (h : s.Stocked) : (actions.foldl (Shelf.next words config) s).Stocked := by
    induction actions generalizing s with
    | nil => exact h
    | cons action rest ih => exact ih (s.next words config action) (Shelf.next_stocked action h)
  refine hall .empty ?_
  rintro id card ⟨⟩

theorem mapM_ok {α β : Type} {f : α → Except String β} {P : β → Prop} {l : List α}
    (h : ∀ a ∈ l, ∃ b, f a = .ok b ∧ P b) : ∃ bs, l.mapM f = .ok bs ∧ ∀ b ∈ bs, P b := by
  induction l with
  | nil => exact ⟨[], rfl, by simp⟩
  | cons a rest ih =>
    obtain ⟨b, hb, hPb⟩ := h a (mem_cons_self ..)
    obtain ⟨bs, hbs, hP⟩ := ih fun c hc => h c (mem_cons_of_mem _ hc)
    refine ⟨b :: bs, ?_, ?_⟩
    · rw [mapM_cons, hb, hbs]
      rfl
    · intro c hc
      rcases mem_cons.1 hc with rfl | hc
      · exact hPb
      · exact hP c hc

theorem sellingFor_open {merchant : MerchantSelling} {card : StoredCard} {sellable : Bool}
    (h : sellingFor merchant card sellable = .open) : sellable = true := by
  unfold sellingFor at h
  split at h
  · cases h
  · next hnot =>
    subst h
    cases sellable with
    | true => rfl
    | false => simp at hnot

/-- **What the catalog lists.** Every card of it has a price that is written as one, and a merchant whose
sale could be paid for. -/
theorem Shelf.Stocked.catalog (h : s.Stocked) : ∃ entries, s.catalog config = .ok entries ∧
    ∀ entry ∈ entries, entry.card.price.wellFormed = true ∧ payableTo entry.payoutWallet config = true := by
  have hread : ∀ card ∈ s.cards.values, ∃ entry : CatalogEntry, (do
      let selling ← s.sellingOf card.merchantId
      let merchant := s.merchants.get card.merchantId
      .ok ⟨card, selling, merchant.bind (·.payoutWallet), merchant.bind (·.serviceName)⟩ :
        Except String CatalogEntry) = .ok entry ∧ entry.card.price.wellFormed = true := by
    intro card hcard
    obtain ⟨id, hid⟩ := exists_get_of_mem hcard
    obtain ⟨hprice, hthere⟩ := h id card hid
    obtain ⟨merchant, hm⟩ := Option.isSome_iff_exists.1 hthere
    refine ⟨⟨card, merchant.selling, merchant.payoutWallet, merchant.serviceName⟩, ?_, hprice⟩
    unfold sellingOf
    rw [hm]
    rfl
  obtain ⟨entries, hentries, hprices⟩ := mapM_ok hread
  refine ⟨_, by unfold Shelf.catalog catalogEntries; rw [hentries]; rfl, fun entry he => ?_⟩
  obtain ⟨hin, hopen⟩ := mem_filter.1 he
  have hsellable := sellingFor_open (of_decide_eq_true hopen)
  exact ⟨hprices entry hin, (Bool.and_eq_true_iff.1 hsellable).1⟩

end

/-! ## What is on sale and what can be paid for -/

/-- **What is on sale can be paid for where it can be charged.** The catalog is read without fail, and for
every card it lists, and every price an order of that card is given, the payment requirements are built
exactly where the card is priced in dollars, the price is written no finer than the token is counted, and
an address stands in for a wallet that was never set. -/
theorem on_sale_payable (words : CardWords) (edge : PaymentEdge) (actions : List ShelfAction) :
    ∃ entries, (shelfRun words edge.config actions).catalog edge.config = .ok entries ∧
      ∀ entry ∈ entries,
        (∀ orderId, (edge.requirementsFor entry.card.price orderId entry.payoutWallet).isOk ↔
          edge.CanCharge entry.card.price entry.payoutWallet) ∧
        ∀ birth : Birth, birth.input.cardPrice =
            ⟨entry.card.price.amount, entry.card.price.currency, entry.card.asOf⟩ →
          ∀ events price, (birth.run events).price = some price → ∀ orderId,
            ((edge.requirementsFor ⟨price.amount, price.currency⟩ orderId entry.payoutWallet).isOk ↔
              edge.CanCharge ⟨price.amount, entry.card.price.currency⟩ entry.payoutWallet) := by
  have hstocked : (shelfRun words edge.config actions).Stocked := shelfRun_stocked actions
  obtain ⟨entries, hentries, hall⟩ := @Shelf.Stocked.catalog edge.config _ hstocked
  refine ⟨entries, hentries, fun entry he => ?_⟩
  obtain ⟨hprice, hpayable⟩ := hall entry he
  have hcode : isCurrencyCode entry.card.price.currency = true := (Bool.and_eq_true_iff.1 hprice).2
  refine ⟨fun orderId => PaymentEdge.requirementsFor_isOk hcode hpayable, ?_⟩
  intro birth hcard events price hnamed orderId
  have hunit : price.currency = entry.card.price.currency := by
    rw [Birth.run_inCardCurrency hnamed, hcard]
  rw [hunit]
  exact PaymentEdge.requirementsFor_isOk hcode hpayable

/-- A gateway on a chain whose token is counted to six places. -/
def sampleEdge : PaymentEdge where
  config := { facilitatorUrl := "https://x402.org/facilitator", network := "eip155:84532", payTo := none }
  timeoutSeconds := 60
  getDefaultAsset := fun _ => ⟨"0xusdc", 6, "USDC", "2"⟩

/-- The words of a schema library. -/
def sampleCardWords : CardWords where
  toSchemaWords := sampleWords
  notAnObject := fun _ => ("invalid_type", "not an object")

/-- A merchant with a name and a wallet publishes a card at the price given. -/
def publishing (price : String) : List ShelfAction :=
  [.addMerchant "mrc_1", .setServiceName "mrc_1" (some "Shop"), .setPayoutWallet "mrc_1" "0xseller",
    .publishCard "mrc_1" ⟨some (.string price), ⟨"sku-1", .empty, none, none⟩, [], []⟩ 0 "itm_1"]

/-- The card as it is then listed. -/
def listedAt (amount currency : String) : CatalogEntry :=
  { card := ⟨⟨"itm_1", "mrc_1", ⟨"sku-1", .empty, none, none⟩, 0, false⟩, ⟨amount, currency⟩⟩
    merchant := .open
    payoutWallet := some "0xseller"
    serviceName := some "Shop" }

/-- A card priced in euros is published and listed, and so is one priced finer than the token is counted,
and neither can be asked to be paid for. -/
theorem unpayable_on_sale :
    (shelfRun sampleCardWords sampleEdge.config (publishing "1.00 EUR")).catalog sampleEdge.config =
        .ok [listedAt "1.00" "EUR"] ∧
      sampleEdge.requirementsFor ⟨"1.00", "EUR"⟩ none (some "0xseller") =
        .error ("EUR is not a currency this gateway can charge in, and it will not invent a rate " ++
          "to one that is") ∧
      (shelfRun sampleCardWords sampleEdge.config (publishing "0.0000001 USD")).catalog
          sampleEdge.config = .ok [listedAt "0.0000001" "USD"] ∧
      sampleEdge.requirementsFor ⟨"0.0000001", "USD"⟩ none (some "0xseller") =
        .error ("0.0000001 is written to 7 places and this token carries 6, so there is no exact " ++
          "amount to charge") := by
  refine ⟨rfl, ?_, rfl, ?_⟩ <;> decide +kernel

end Coinslot
