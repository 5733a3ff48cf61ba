import MicroCoin.Ledger.Service

/-!
# `orders.Service`: the order engine

Model of `package orders` (`src/unnamed/part_007`): `CreateOrder` validates the request,
prices a MARKET order from the quote feed, holds the required funds through
`ledger.Service.HoldFunds` (its own transaction), inserts the order row (committed on
its own), matches a copy of the order against the symbol's book, settles each trade
with `processTrade` (two `TransferFunds`, each its own transaction; a failure is printed
and skipped), writes the order's fills and status in a last transaction, and adds the
book copy to the book when the status it wrote is NEW or PARTIALLY_FILLED.
`loadOrdersIntoBooks` rebuilds the books from the open order rows.

Nothing is undone when a later step fails: `App` keeps what earlier steps committed and
what `MatchOrder` did to the book.
-/

namespace MicroCoin

/-! ## `internal/database/order.go` -/

/-- The rows `GetActiveOrdersBySymbol(symbol)` returns (order.go, lines 136–175): the
    symbol's NEW and PARTIALLY_FILLED orders by `created_at`, ties in table order. -/
def Store.activeOrdersBySymbol (s : Store) (symbol : Symbol) : List Order :=
  List.insertionSort (fun a b => a.createdAt ≤ b.createdAt)
    (s.orders.filter fun o => o.symbol = symbol ∧
      (o.status = orderStatusNew ∨ o.status = orderStatusPartiallyFilled))

/-- `r.CreateOrder(order)` (lines 23–45): the row, committed on its own. -/
def OrderRepository.createOrder (order : Order) : App Unit := do
  orFail "failed to create order" (← exec (.insertOrder order))

/-- `r.UpdateOrder(tx, order)` (lines 121–133): `FilledQty` and `Status` of the rows with
    the order's ID. -/
def OrderRepository.updateOrder (tx : Tx) (order : Order) : App Tx := do
  orFail "failed to update order" (← txExec tx (.updateOrder order.id order.filledQty order.status))

namespace Orders

/-- `validateOrderRequest(req)` (lines 174–190). -/
def validateOrderRequest (req : CreateOrderRequest) : App Unit := do
  if req.qty.lessThanOrEqual Decimal.zero then throw (.text "quantity must be positive")
  if req.type = orderTypeLimit ∧ (req.price.map (·.lessThanOrEqual Decimal.zero)).getD true then
    throw (.text "limit orders must have a positive price")
  if req.symbol ≠ symbolBTCUSD ∧ req.symbol ≠ symbolETHUSD then throw (.invalidSymbol req.symbol)

/-- `calculateRequiredAmount(req, fillPrice)` (lines 192–212): `price · qty` USD for a BUY,
    `qty` of the base currency otherwise, the price being the quote's for a MARKET order
    and `*req.Price` for any other type, which panics when it is `nil`. -/
def calculateRequiredAmount (req : CreateOrderRequest) (fillPrice : Option Decimal) :
    App Decimal := do
  let price ←
    if req.type = orderTypeMarket then
      match fillPrice with
      | some p => pure p
      | none => throw (.text "fill price required for market orders")
    else
      match req.price with
      | some p => pure p
      | none => throw (.panic .nilDereference)
  return if req.side = orderSideBuy then price.mul req.qty else req.qty

/-- The currency `holdFunds` reserves: USD for a BUY, the base currency otherwise. -/
def holdCurrency (side : OrderSide) (symbol : Symbol) : Option Currency :=
  if side = orderSideBuy then some currencyUSD
  else if symbol = symbolBTCUSD then some currencyBTC
  else if symbol = symbolETHUSD then some currencyETH
  else none

/-- `s.holdFunds(userID, req, amount)` (lines 214–232). -/
def holdFunds (userId : UUID) (req : CreateOrderRequest) (amount : Decimal) : App Unit :=
  match holdCurrency req.side req.symbol with
  | some currency => MicroCoin.holdFunds userId currency amount
  | none => throw (.invalidSymbol req.symbol)

/-- The base currency of a trade's symbol, as `processTrade` picks it: BTC for BTC-USD,
    ETH for any other symbol. -/
def baseCurrency (symbol : Symbol) : Currency :=
  if symbol = symbolBTCUSD then currencyBTC else currencyETH

/-- `s.processTrade(trade)` (lines 234–327). It begins a transaction it never uses; the
    two legs are `TransferFunds` calls, each committed on its own. The BTC and ETH
    branches of the source differ only in the currency. -/
def processTrade (trade : Trade) : App Unit := do
  let tx ← orFail "failed to begin transaction" (← begin)
  let base := baseCurrency trade.symbol
  let takerUSD ← wrapErr "failed to get taker USD account"
    (getAccountByUserIDAndCurrency trade.takerId currencyUSD)
  let makerUSD ← wrapErr "failed to get maker USD account"
    (getAccountByUserIDAndCurrency trade.makerId currencyUSD)
  let takerBase ← wrapErr s!"failed to get taker {base} account"
    (getAccountByUserIDAndCurrency trade.takerId base)
  let makerBase ← wrapErr s!"failed to get maker {base} account"
    (getAccountByUserIDAndCurrency trade.makerId base)
  let tradeValue := trade.price.mul trade.qty
  if trade.side = orderSideBuy then
    wrapErr "failed to transfer USD"
      (transferFunds takerUSD.id makerUSD.id tradeValue currencyUSD "TRADE" trade.id)
    wrapErr s!"failed to transfer {base}"
      (transferFunds makerBase.id takerBase.id trade.qty base "TRADE" trade.id)
  else
    wrapErr s!"failed to transfer {base}"
      (transferFunds takerBase.id makerBase.id trade.qty base "TRADE" trade.id)
    wrapErr "failed to transfer USD"
      (transferFunds makerUSD.id takerUSD.id tradeValue currencyUSD "TRADE" trade.id)
  orFail "failed to commit transaction" (← commit tx)

/-- `s.convertToBookOrder(order)` (lines 329–343): a new `limitbook.Order` with the same
    fields. -/
def convertToBookOrder (o : Order) : App Ptr := do
  let w ← get
  let (p, m) := w.mem.allocOrder o
  set { w with mem := m }
  return p

/-- `s.orderBooks[symbol].MatchOrder(order)`: a panic or a loop that outlives the fuel
    ends the request. -/
def matchOrder (symbol : Symbol) (p : Ptr) : App (List Trade) := do
  let w ← get
  let env ← read
  match (w.books symbol).matchOrder (env.visit w.clock) env.fuel w.mem p with
  | none => throw .outOfFuel
  | some (.error e) => throw (.panic e)
  | some (.ok (m, ob, trades)) =>
    set { w with mem := m, books := fun s => if s = symbol then ob else w.books s }
    return trades

/-- `s.orderBooks[symbol].AddOrder(order)`. -/
def addOrder (symbol : Symbol) (p : Ptr) : App Unit := do
  let w ← get
  match (w.books symbol).addOrder w.mem p with
  | .error e => throw (.panic e)
  | .ok (m, ob) => set { w with mem := m, books := fun s => if s = symbol then ob else w.books s }

/-- The settlement loop of `CreateOrder` (lines 108–119): a trade whose `processTrade`
    fails is printed and left out of the totals. -/
def settleTrades (trades : List Trade) : App (Decimal × Decimal) :=
  trades.foldlM (fun (qty, value) trade =>
    tryCatch (do processTrade trade; pure (qty.add trade.qty, value.add (trade.price.mul trade.qty)))
      fun _ => pure (qty, value)) (⟨0, 0⟩, ⟨0, 0⟩)

/-- The status `CreateOrder` writes for an order of `qty` with `filled` settled. -/
def settledStatus (qty filled : Decimal) : OrderStatus :=
  if filled.equal qty then orderStatusFilled
  else if filled.greaterThan Decimal.zero then orderStatusPartiallyFilled
  else orderStatusNew

/-- Lines 51–80 of `CreateOrder`: the checks of the request, the quote of a MARKET order,
    the required amount and `holdFunds`, everything before the hold commits. -/
def reserveFunds (userId : UUID) (req : CreateOrderRequest) : App Unit := do
  validateOrderRequest req
  let fillPrice ←
    if req.type = orderTypeMarket then
      let symbol := req.symbol
      match (← read).quote symbol with
      | none => throw (.wrap "failed to get quote" (.text s!"no quote available for symbol {symbol}"))
      | some q => pure (some (if req.side = orderSideBuy then q.ask else q.bid))
    else pure none
  let requiredAmount ← calculateRequiredAmount req fillPrice
  holdFunds userId req requiredAmount

/-- Lines 101–161 of `CreateOrder`, once the order row is in: matching a copy of the order
    against the book of its symbol, settlement, the row's update and the book. The status is
    computed from `order.Qty`, which is `req.Qty`. -/
def settleOrder (order : Order) : App CreateOrderResponse := do
  let bookOrder ← convertToBookOrder order
  let trades ← matchOrder order.symbol bookOrder
  let (totalFillQty, totalFillValue) ← settleTrades trades
  let status := settledStatus order.qty totalFillQty
  let order := { order with filledQty := totalFillQty, status := status }
  let tx ← orFail "failed to begin transaction" (← begin)
  let tx ← wrapErr "failed to update order" (OrderRepository.updateOrder tx order)
  orFail "failed to commit transaction" (← commit tx)
  if status = orderStatusNew ∨ status = orderStatusPartiallyFilled then
    addOrder order.symbol bookOrder
  let avgFillPrice :=
    if totalFillQty.greaterThan Decimal.zero then some (totalFillValue.div totalFillQty) else none
  return ⟨order.id, status, totalFillQty, avgFillPrice⟩

/-- Lines 82–161 of `CreateOrder`: the order row, committed on its own, then the rest. -/
def placeOrder (userId : UUID) (req : CreateOrderRequest) : App CreateOrderResponse := do
  let id ← newUuid
  let createdAt ← now
  let order : Order := ⟨id, userId, req.symbol, req.side, req.type, req.price, req.qty,
    Decimal.zero, orderStatusNew, createdAt⟩
  wrapErr "failed to create order" (OrderRepository.createOrder order)
  settleOrder order

/-- `s.CreateOrder(userID, req)` (lines 49–162). -/
def createOrder (userId : UUID) (req : CreateOrderRequest) : App CreateOrderResponse := do
  reserveFunds userId req
  placeOrder userId req

/-- What an order row still reserves, as the specification sizes holds: `Price × (Qty −
    FilledQty)` of USD for an open LIMIT BUY, `Qty − FilledQty` of the base currency for
    an open LIMIT SELL, nothing otherwise. -/
def reservation (o : Order) (currency : Currency) : Decimal :=
  if o.type = orderTypeLimit ∧ (o.status = orderStatusNew ∨ o.status = orderStatusPartiallyFilled) ∧
      holdCurrency o.side o.symbol = some currency then
    if o.side = orderSideBuy then (o.price.getD 0).mul (o.qty.sub o.filledQty)
    else o.qty.sub o.filledQty
  else 0

/-- The reservations of a user's order rows in one currency. -/
def reservedFor (s : Store) (userId : UUID) (currency : Currency) : Decimal :=
  ((s.orders.filter (·.userId = userId)).map (reservation · currency)).foldl Decimal.add 0

set_option smartUnfolding false in
/-- User 2 (5 BTC) rests a LIMIT SELL of 1 @ 100; user 1 (1000 USD) sends a LIMIT BUY of
    1 @ 100, which fills and is written FILLED. User 1 has no open order left, yet its
    USD hold is still the 100 it placed: settlement pays from the available balance and
    no hold is released. -/
theorem createOrder_fill_keeps_hold :
    let acct (id user : UUID) (c : Currency) (b : Decimal) : Account := ⟨id, user, c, b, 0⟩
    let s : Store := ⟨[acct 10 1 currencyUSD 1000, acct 11 1 currencyBTC 0,
      acct 20 2 currencyUSD 0, acct 21 2 currencyBTC 5], [], [], []⟩
    let env : Env := ⟨fun _ => false, fun _ => none, fun _ _ => [], 4⟩
    let (r, w) := (do
      let _ ← createOrder 2 ⟨symbolBTCUSD, orderSideSell, orderTypeLimit, some 100, 1⟩
      createOrder 1 ⟨symbolBTCUSD, orderSideBuy, orderTypeLimit, some 100, 1⟩).run'
        env (World.ofStore s)
    (r.map (·.status)) = .ok orderStatusFilled ∧
      ((w.store.accountByUserAndCurrency 1 currencyUSD).map (·.balanceHold.equal 100)) = some true ∧
      (reservedFor w.store 1 currencyUSD).isZero := by
  decide

set_option smartUnfolding false in
/-- Users 1 and 3 (1000 USD each) rest LIMIT BUYs of 1 @ 90 and 1 @ 110; user 2 (5 BTC)
    sends a LIMIT SELL of 1 @ 100. The SELL meets the top of the bid min-heap, 90, stops
    there since 90 < 100, and rests at 100 below the bid at 110. -/
theorem createOrder_crosses_book :
    let acct (id user : UUID) (c : Currency) (b : Decimal) : Account := ⟨id, user, c, b, 0⟩
    let s : Store := ⟨[acct 10 1 currencyUSD 1000, acct 21 2 currencyBTC 5,
      acct 30 3 currencyUSD 1000], [], [], []⟩
    let env : Env := ⟨fun _ => false, fun _ => none, fun _ _ => [], 4⟩
    let (r, w) := (do
      let _ ← createOrder 1 ⟨symbolBTCUSD, orderSideBuy, orderTypeLimit, some 90, 1⟩
      let _ ← createOrder 3 ⟨symbolBTCUSD, orderSideBuy, orderTypeLimit, some 110, 1⟩
      createOrder 2 ⟨symbolBTCUSD, orderSideSell, orderTypeLimit, some 100, 1⟩).run'
        env (World.ofStore s)
    (r.map (·.status), decide ((w.books symbolBTCUSD).Uncrossed w.mem)) =
      (.ok orderStatusNew, false) := by
  decide

/-- The orders of one symbol, loaded into its book in order. -/
def loadSymbol (symbol : Symbol) : App Unit := do
  match ← query (Store.activeOrdersBySymbol · symbol) with
  | .error _ => pure ()
  | .ok orders => orders.forM fun o => do addOrder symbol (← convertToBookOrder o)

/-- `s.loadOrdersIntoBooks()` (lines 345–359), for the two books of `NewService`; the
    books are independent, so the order in which `range` visits them does not matter. -/
def loadOrdersIntoBooks : App Unit := do
  loadSymbol symbolBTCUSD
  loadSymbol symbolETHUSD

/-- `NewService(db, quotesService)` (lines 28–47): new books, then the open orders. -/
def newService : App Unit := do
  modify fun w => { w with books := newOrderBook }
  loadOrdersIntoBooks

/-- The resting orders of a side, level by level in map order, as the order rows record
    them: ID, price, `FilledQty` and status. -/
def restingRows (m : Mem) (bs : BookSide) : List (UUID × Option Decimal × Decimal × OrderStatus) :=
  (bs.resting m).map fun p => ((m.order p).id, (m.order p).price, (m.order p).filledQty,
    (m.order p).status)

set_option smartUnfolding false in
/-- User 2 rests a LIMIT SELL of 1 @ 100 and user 1's LIMIT BUY of 1 @ 100 fills it. In
    memory the ask has left its level; its row is still NEW with nothing filled, since
    `CreateOrder` writes only the taker's row, so a restart loads it back onto the asks. -/
theorem createOrder_maker_row_not_written :
    let acct (id user : UUID) (c : Currency) (b : Decimal) : Account := ⟨id, user, c, b, 0⟩
    let s : Store := ⟨[acct 10 1 currencyUSD 1000, acct 11 1 currencyBTC 0,
      acct 20 2 currencyUSD 0, acct 21 2 currencyBTC 5], [], [], []⟩
    let env : Env := ⟨fun _ => false, fun _ => none, fun _ _ => [], 4⟩
    let w := ((do
      let _ ← createOrder 2 ⟨symbolBTCUSD, orderSideSell, orderTypeLimit, some 100, 1⟩
      createOrder 1 ⟨symbolBTCUSD, orderSideBuy, orderTypeLimit, some 100, 1⟩).run'
        env (World.ofStore s)).2
    let w' := (newService.run' env w).2
    (restingRows w.mem (w.books symbolBTCUSD).asks,
      (restingRows w'.mem (w'.books symbolBTCUSD).asks).map (·.2.2.2)) = ([], [orderStatusNew]) := by
  decide

end Orders

end MicroCoin
