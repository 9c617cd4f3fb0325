import Coinslot.Gateway.Catalog

/-!
# What is on sale

The catalog with its prices (`apps/gateway/src/app/gateway.ts`): the grammar a price is held to
(`packages/contracts/src/primitives.ts`, `card.ts`), the door a card is published through, and the list
an agent reads, which is the cards whose merchant could make a sale. Of the checks of a card the one on
its price is here; what the others find comes in with the card.
-/

namespace Coinslot

/-! ## The grammar of a price -/

/-- A sum of money: how much, in what. -/
structure Money where
  amount : String
  currency : String
  deriving DecidableEq, Repr

/-- The digits before the dot: a zero alone, or up to eighteen that begin with another digit. -/
def isWhole : List Char → Bool
  | [] => false
  | ['0'] => true
  | c :: digits => c.isDigit && c ≠ '0' && digits.all Char.isDigit && digits.length ≤ 17

/-- The dot and the one to eighteen digits after it, or nothing. -/
def isFraction : List Char → Bool
  | [] => true
  | dot :: digits => dot = '.' && digits.all Char.isDigit && 1 ≤ digits.length && digits.length ≤ 18

/-- Whether a text is an amount (`AmountSchema`). -/
def isAmount (text : String) : Bool :=
  isWhole (text.toList.takeWhile (· ≠ '.')) && isFraction (text.toList.dropWhile (· ≠ '.'))

/-- Whether a text is a currency code (`CurrencyCodeSchema`): three to eight upper-case letters and
digits, a letter first. -/
def isCurrencyCode (text : String) : Bool :=
  match text.toList with
  | [] => false
  | c :: rest => c.isUpper && rest.all (fun d => d.isUpper || d.isDigit) && 2 ≤ rest.length && rest.length ≤ 7

def Money.wellFormed (money : Money) : Bool := isAmount money.amount && isCurrencyCode money.currency

/-- The schema library's words for what is no object, besides its others. -/
structure CardWords extends SchemaWords where
  notAnObject : Option JsonValue → String × String

def priceFinding (path : List String) (found : String × String) : Problem := ⟨"price" :: path, found.1, found.2⟩

/-- What is wrong with one field of a sum of money. -/
def moneyField (words : CardWords) (name : String) (passes : String → Bool) (expected : String)
    (value : Option JsonValue) : List Problem :=
  match value with
  | some (.string text) => if passes text then [] else [priceFinding [name] (words.patternCode, expected)]
  | other => [priceFinding [name] (words.wrongType .string other)]

/-- The text of a field, where it has one. -/
def textOf : Option JsonValue → String
  | some (.string text) => text
  | _ => ""

/-- The check of a sum of money (`MoneySchema`): the two fields, and nothing else. -/
def checkMoney (words : CardWords) (value : Option JsonValue) : Except (List Problem) Money :=
  match value with
  | some (.object fields) =>
    let amount := fields.lookup "amount"
    let currency := fields.lookup "currency"
    let declared :=
      moneyField words "amount" isAmount
        "an amount is an exact decimal number written as text, such as \"5.00\"" amount ++
      moneyField words "currency" isCurrencyCode
        "a currency code is written in upper case, such as \"USD\"" currency
    let strangers := (fields.map Prod.fst).filter fun name => name ≠ "amount" && name ≠ "currency"
    let undeclared := if strangers.isEmpty then [] else [priceFinding [] (words.unrecognizedKeys strangers)]
    match declared ++ undeclared with
    | [] => .ok ⟨textOf amount, textOf currency⟩
    | problems => .error problems
  | other => .error [priceFinding [] (words.notAnObject other)]

/-- What a price that is neither of the two forms is told. -/
def priceExpected : String :=
  "a price is either the amount and the currency as one string, \"5.00 USD\", or the two written " ++
    "out, \x7b amount: \"5.00\", currency: \"USD\" \x7d"

/-- A price written as one string: the amount, one space, the currency code. -/
def priceWrittenShort (text : String) : Option (String × String) :=
  let amount := text.toList.takeWhile (· ≠ ' ')
  match text.toList.dropWhile (· ≠ ' ') with
  | [] => none
  | _ :: currency =>
    if amount.isEmpty || currency.isEmpty || (amount ++ currency).any isBlankLetter then none
    else some (String.ofList amount, String.ofList currency)

/-- A card's price: the two fields, or the one string that becomes them (`CardPriceSchema`). -/
def checkCardPrice (words : CardWords) (value : Option JsonValue) : Except (List Problem) Money :=
  match value with
  | some (.string text) =>
    match priceWrittenShort text with
    | none => .error [priceFinding [] ("custom", priceExpected)]
    | some (amount, currency) =>
      checkMoney words (some (.object [("amount", .string amount), ("currency", .string currency)]))
  | other => checkMoney words other

/-! ## The records -/

/-- A merchant, as far as selling goes. -/
structure StoredMerchant where
  id : String
  selling : MerchantSelling
  /-- The name the merchant's products are listed under. -/
  serviceName : Option String
  /-- Where the merchant is paid. -/
  payoutWallet : Option String
  deriving DecidableEq, Repr

/-- A card in the catalog, with its price. -/
structure PricedCard extends StoredCard where
  price : Money

/-- A card with everything that decides whether it is offered. -/
structure CatalogEntry where
  card : PricedCard
  merchant : MerchantSelling
  payoutWallet : Option String
  serviceName : Option String

/-- The merchants and their cards. The identifier of a card is kept under its merchant's own key for the
product. -/
structure Shelf where
  merchants : Dict String StoredMerchant
  cards : Dict String PricedCard
  cardIds : Dict (String × String) String

/-- How the deployment is paid. -/
structure PaymentConfig where
  facilitatorUrl : String
  network : String
  /-- The operator's own address, where one is configured. -/
  payTo : Option String
  deriving DecidableEq, Repr

/-- Whether this deployment settles against nothing. -/
def isSandboxFacilitator (facilitatorUrl : String) : Bool := facilitatorUrl = "sandbox:scripted"

/-- Whether a sale of this merchant's card could be paid for at all. -/
def payableTo (payoutWallet : Option String) (config : PaymentConfig) : Bool :=
  payoutWallet.isSome || isSandboxFacilitator config.facilitatorUrl

/-- Whether there is a seller for a payment request to name. -/
def listedUnder (serviceName : Option String) : Bool := serviceName.isSome

/-- Whether this merchant could make a sale at all. -/
def sellableBy (payoutWallet serviceName : Option String) (config : PaymentConfig) : Bool :=
  payableTo payoutWallet config && listedUnder serviceName

/-- The word a card is selling under. -/
def sellingFor (merchant : MerchantSelling) (card : StoredCard) (sellable : Bool) : MerchantSelling :=
  if merchant = .open ∧ (card.paused || !sellable) then .paused else merchant

/-! ## The publish door -/

/-- A card as its merchant writes it: its price, the card its other fields make, and what their checks
find, of the fields before the price and of those after it. -/
structure WrittenCard where
  price : Option JsonValue
  card : Card
  ahead : List Problem
  behind : List Problem

/-- The check of a whole card (`CardSchema`). -/
def checkCard (words : CardWords) (body : WrittenCard) : Except (List Problem) (Card × Money) :=
  match checkCardPrice words body.price with
  | .error found => .error (body.ahead ++ found ++ body.behind)
  | .ok price =>
    match body.ahead ++ body.behind with
    | [] => .ok (body.card, price)
    | problems => .error problems

/-- The finding a merchant without a name meets. -/
def noSellerName : Problem :=
  { path := []
    code := "no_seller_name"
    message :=
      "this merchant has not set the name their products are sold under, and a card published" ++
        " without one is offered for sale through a payment request that names no seller at all;" ++
        " set a name with POST /v0/seller-name and publish this card again" }

/-- The finding a merchant who is paid nowhere meets. -/
def noPayoutWallet : Problem :=
  { path := []
    code := "no_payout_wallet"
    message :=
      "this merchant has not set a wallet to be paid at, so the money from sales of this card" ++
        " would have nowhere to go — a buyer's agent pays the merchant's own address directly and" ++
        " nothing of it is held here; set one with POST /v0/payout-wallet and publish this card" ++
        " again" }

/-- A refusal of a card, with everything that stands in its way. One that names nothing is not sent. -/
def cardRejected (problems : List Problem) : Except String CallError :=
  match problems with
  | [] => .error "a card was refused with nothing named as standing in its way"
  | first :: _ =>
    let counted := if problems.length = 1 then "one thing stands" else s!"{problems.length} things stand"
    .ok
      { code := "card_rejected"
        message := s!"this card was not published: {counted} between it and the catalog, and the " ++
          s!"first of them is {misfitOf first}"
        retryable := false
        problems := problems }

/-- What came of publishing a card. -/
inductive PublishResult where
  | published (id : String)
  | rejected (error : CallError)
  deriving DecidableEq, Repr

namespace Shelf

/-- Nobody sells anything. -/
def empty : Shelf := { merchants := .empty, cards := .empty, cardIds := .empty }

/-- Writes a card down, with its price (`publishCard` of the store). -/
def putCard (s : Shelf) (merchantId : String) (card : Card) (price : Money) (t : Int)
    (fresh : String) : Shelf × String :=
  let existing := s.cardIds.get (merchantId, card.merchantItemId)
  let id := existing.getD fresh
  let paused := ((existing.bind s.cards.get).map (·.paused)).getD false
  ({ s with
      cardIds := s.cardIds.set (merchantId, card.merchantItemId) id
      cards := s.cards.set id
        { id := id, merchantId := merchantId, card := card, asOf := t, paused := paused,
          price := price } }, id)

/-- What keeps a merchant from publishing anything. -/
def missing (s : Shelf) (config : PaymentConfig) (merchantId : String) : List Problem :=
  let merchant := s.merchants.get merchantId
  (if listedUnder (merchant.bind (·.serviceName)) then [] else [noSellerName]) ++
    (if payableTo (merchant.bind (·.payoutWallet)) config then [] else [noPayoutWallet])

/-- Puts one card in the catalog, or says everything standing in its way (`publishCard`). -/
def publishCard (words : CardWords) (config : PaymentConfig) (s : Shelf) (merchantId : String)
    (body : WrittenCard) (t : Int) (fresh : String) : Shelf × Except String PublishResult :=
  match checkCard words body with
  | .error found => (s, (cardRejected (s.missing config merchantId ++ found)).map .rejected)
  | .ok (card, price) =>
    if (s.missing config merchantId).isEmpty then
      let (s', id) := s.putCard merchantId card price t fresh
      (s', .ok (.published id))
    else (s, (cardRejected (s.missing config merchantId)).map .rejected)

/-! ## The list an agent reads -/

/-- The word for a merchant's selling. -/
def sellingOf (s : Shelf) (merchantId : String) : Except String MerchantSelling :=
  match s.merchants.get merchantId with
  | none => .error s!"there is no merchant {merchantId}, so there is no word for their selling"
  | some merchant => .ok merchant.selling

/-- Every card with everything that decides whether it is offered. -/
def catalogEntries (s : Shelf) : Except String (List CatalogEntry) :=
  s.cards.values.mapM fun card => do
    let selling ← s.sellingOf card.merchantId
    let merchant := s.merchants.get card.merchantId
    .ok ⟨card, selling, merchant.bind (·.payoutWallet), merchant.bind (·.serviceName)⟩

/-- The catalog an agent reads: the cards that are for sale (`catalog`), before they are written out for
him. -/
def catalog (config : PaymentConfig) (s : Shelf) : Except String (List CatalogEntry) := do
  let entries ← s.catalogEntries
  .ok (entries.filter fun entry =>
    sellingFor entry.merchant entry.card.toStoredCard
      (sellableBy entry.payoutWallet entry.serviceName config) = .open)

/-! ## The other ways the shelf changes -/

section

variable (s : Shelf)

section

variable (id : String)

/-- Writes a merchant down. One that is there already is left alone. -/
def addMerchant : Shelf :=
  if s.merchants.has id then s
  else { s with merchants := s.merchants.set id ⟨id, .open, none, none⟩ }

/-- Changes a merchant that is there. -/
def changeMerchant (change : StoredMerchant → StoredMerchant) : Shelf :=
  match s.merchants.get id with
  | none => s
  | some merchant => { s with merchants := s.merchants.set id (change merchant) }

/-- Stops or starts a merchant's selling. -/
def setSelling (selling : MerchantSelling) : Shelf :=
  s.changeMerchant id fun merchant => { merchant with selling := selling }

/-- Names a merchant to buyers, or takes the name away. -/
def setServiceName (serviceName : Option String) : Shelf :=
  s.changeMerchant id fun merchant => { merchant with serviceName := serviceName }

end

/-- Says where a merchant is paid. An address is not taken away again. -/
def setPayoutWallet (id payoutWallet : String) : Shelf :=
  s.changeMerchant id fun merchant => { merchant with payoutWallet := some payoutWallet }

/-- Takes one card off sale, or puts it back. Another merchant's card is not found. -/
def setCardPaused (merchantId id : String) (paused : Bool) : Shelf :=
  match s.cards.get id with
  | none => s
  | some found =>
    if found.merchantId ≠ merchantId then s
    else { s with cards := s.cards.set id { found with paused := paused } }

end

end Shelf

/-- Everything that can happen to what is on sale. -/
inductive ShelfAction where
  | addMerchant (id : String)
  | setSelling (id : String) (selling : MerchantSelling)
  | setServiceName (id : String) (serviceName : Option String)
  | setPayoutWallet (id payoutWallet : String)
  | publishCard (merchantId : String) (body : WrittenCard) (t : Int) (fresh : String)
  | setCardPaused (merchantId id : String) (paused : Bool)

/-- What is on sale after one more thing has happened. -/
def Shelf.next (words : CardWords) (config : PaymentConfig) (s : Shelf) : ShelfAction → Shelf
  | .addMerchant id => s.addMerchant id
  | .setSelling id selling => s.setSelling id selling
  | .setServiceName id serviceName => s.setServiceName id serviceName
  | .setPayoutWallet id payoutWallet => s.setPayoutWallet id payoutWallet
  | .publishCard merchantId body t fresh => (s.publishCard words config merchantId body t fresh).1
  | .setCardPaused merchantId id paused => s.setCardPaused merchantId id paused

/-- What is on sale after everything that happened. -/
def shelfRun (words : CardWords) (config : PaymentConfig) (actions : List ShelfAction) : Shelf :=
  actions.foldl (Shelf.next words config) .empty

end Coinslot
