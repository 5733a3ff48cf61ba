import MicroCoin.Decimal

/-!
# `internal/models`

The records the services pass around (`internal/models/types.go`,
`internal/models/requests.go`). The enumerations of the source are Go `string` types
with named constants (`models.OrderSideBuy = "BUY"`, ...); they stay strings here, so a
request may carry any text where the code expects one of the constants, as a decoded
JSON body can. A `uuid.UUID` is compared only for equality, and `uuid.New()` only has to
be fresh: it is a natural number, `uuid.Nil` being `0`.

Fields that no modelled function reads are left out: `CreatedAt` of trades, ledger
entries and idempotency keys, the `BIGSERIAL` id of a ledger entry, and `Quote.TS`.
-/

namespace MicroCoin

/-- `uuid.UUID`. -/
abbrev UUID := ℕ

/-- `uuid.Nil`, the all-zero UUID. -/
def uuidNil : UUID := 0

/-- `models.Currency` (`types.go`, lines 10–17). -/
abbrev Currency := String

def currencyUSD : Currency := "USD"
def currencyBTC : Currency := "BTC"
def currencyETH : Currency := "ETH"

/-- `models.OrderSide` (lines 19–25). -/
abbrev OrderSide := String

def orderSideBuy : OrderSide := "BUY"
def orderSideSell : OrderSide := "SELL"

/-- `models.OrderType` (lines 27–33). -/
abbrev OrderType := String

def orderTypeMarket : OrderType := "MARKET"
def orderTypeLimit : OrderType := "LIMIT"

/-- `models.OrderStatus` (lines 35–44). -/
abbrev OrderStatus := String

def orderStatusNew : OrderStatus := "NEW"
def orderStatusPartiallyFilled : OrderStatus := "PARTIALLY_FILLED"
def orderStatusFilled : OrderStatus := "FILLED"
def orderStatusCanceled : OrderStatus := "CANCELED"
def orderStatusRejected : OrderStatus := "REJECTED"

/-- `models.Symbol` (lines 46–52). -/
abbrev Symbol := String

def symbolBTCUSD : Symbol := "BTC-USD"
def symbolETHUSD : Symbol := "ETH-USD"

/-- `models.Account` (lines 63–69): one row of `accounts`. -/
structure Account where
  id : UUID
  userId : UUID
  currency : Currency
  balanceAvailable : Decimal
  balanceHold : Decimal
  deriving DecidableEq, Repr, Inhabited

/-- `models.LedgerEntry` (lines 72–81): one row of `ledger_entries`. -/
structure LedgerEntry where
  journalId : UUID
  accountId : UUID
  amount : Decimal
  currency : Currency
  refType : String
  refId : UUID
  deriving DecidableEq, Repr, Inhabited

/-- `models.Order` (lines 84–95), and `limitbook.Order`, which has the same fields: a row
    of `orders`, or an order object of the book. `price` is the `*decimal.Decimal`
    pointer, `none` for `nil`; `createdAt` is the `time.Time` as a count of ticks. -/
structure Order where
  id : UUID
  userId : UUID
  symbol : Symbol
  side : OrderSide
  type : OrderType
  price : Option Decimal
  qty : Decimal
  filledQty : Decimal
  status : OrderStatus
  createdAt : ℕ
  deriving DecidableEq, Repr, Inhabited

/-- `models.Trade` (lines 126–135). -/
structure Trade where
  id : UUID
  symbol : Symbol
  side : OrderSide
  price : Decimal
  qty : Decimal
  takerId : UUID
  makerId : UUID
  deriving DecidableEq, Repr, Inhabited

/-- `models.Quote` (lines 118–123). -/
structure Quote where
  symbol : Symbol
  bid : Decimal
  ask : Decimal
  deriving DecidableEq, Repr, Inhabited

/-- `models.CreateOrderRequest` (`requests.go`, lines 31–37). -/
structure CreateOrderRequest where
  symbol : Symbol
  side : OrderSide
  type : OrderType
  price : Option Decimal
  qty : Decimal
  deriving DecidableEq, Repr, Inhabited

/-- `models.CreateOrderResponse` (`requests.go`, lines 40–45). -/
structure CreateOrderResponse where
  orderId : UUID
  status : OrderStatus
  filledQty : Decimal
  avgFillPrice : Option Decimal
  deriving DecidableEq, Repr, Inhabited

/-- The body of a reply: `json.Marshal` of a `TopUpResponse` (`requests.go`, lines 26–28)
    or a `CreateOrderResponse`. Marshalling these never fails and is injective, so a body is
    the value it encodes. -/
inductive ResponseBody
  | topUp (balance : Decimal)
  | order (r : CreateOrderResponse)
  deriving DecidableEq, Repr, Inhabited

/-- `models.IdempotencyKey` (`types.go`, lines 98–106): one row of `idempotency_keys`. -/
structure IdempotencyKey where
  userId : UUID
  idemKey : String
  requestFingerprint : String
  responseCode : ℕ
  responseBody : ResponseBody
  deriving DecidableEq, Repr, Inhabited

end MicroCoin
