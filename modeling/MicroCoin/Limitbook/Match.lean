import MicroCoin.Limitbook.Book
import Mathlib.Data.List.Sort

/-!
# `OrderBook.MatchOrder`

Model of `MatchOrder` (`internal/limitbook/orderbook.go`, lines 181–321). Its BUY and
SELL branches differ only in the side they walk and in the LIMIT check
(`level.Price.GreaterThan(*order.Price)` for a BUY, `LessThan` for a SELL): both are
`matchLoop`, given the side and the check.

The inner `for i, askOrder := range level.Orders` evaluates the slice once, so it reads
the backing array captured at the start while
`level.Orders = append(level.Orders[:i], level.Orders[i+1:]...)` shifts that same array
in place. `Sweep.arr` is that array and `Sweep.len` the current length: after a removal
the next index reads the element two places on, and the last slots keep stale pointers.
The slice expression `level.Orders[i+1:]` panics when `i + 1 > len(level.Orders)`.

The outer `for remainingQty.GreaterThan(decimal.Zero)` loop has no bound: `matchLoop`
runs it for at most `fuel` iterations, and `MatchReturns` says that some fuel is enough.
An emptied level calls `ob.Asks.RemoveOrder(uuid.Nil)`, whose map range visits the keys
in the order `visit k` at the `k`-th iteration.

The reference matcher of the specification (§4.4 "Match") is `Spec.refMatch`, over the
side as a list of levels, best price first, each a FIFO queue.
-/

namespace MicroCoin

/-- The state of `for i, askOrder := range level.Orders` (lines 203–243, and 264–304 for
    the bids): the backing array the range reads, `len(level.Orders)`, `remainingQty`,
    the trades so far and the memory. -/
structure Sweep where
  arr : List Ptr
  len : ℕ
  remaining : Decimal
  trades : List Trade
  mem : Mem

/-- `level.Orders = append(level.Orders[:i], level.Orders[i+1:]...)` on the backing
    array, for `i < len`: elements `i+1 … len-1` move down one slot, which writes in
    place since `len-1 ≤ cap`; slots from `len-1` on keep what they held. -/
def shiftDown (arr : List Ptr) (len i : ℕ) : List Ptr :=
  arr.take i ++ (arr.drop (i + 1)).take (len - (i + 1)) ++ arr.drop (len - 1)

/-- The body of the range loop at index `i`, after the `remainingQty <= 0` break test,
    for a maker with something left (lines 213–242):
    ```
    fillQty := decimal.Min(remainingQty, askRemaining)
    trade := &models.Trade{ID: uuid.New(), ..., Price: level.Price, Qty: fillQty, ...}
    trades = append(trades, trade)
    order.FilledQty = order.FilledQty.Add(fillQty)
    askOrder.FilledQty = askOrder.FilledQty.Add(fillQty)
    remainingQty = remainingQty.Sub(fillQty)
    if askOrder.FilledQty.Equal(askOrder.Qty) {
        level.Orders = append(level.Orders[:i], level.Orders[i+1:]...)
        askOrder.Status = models.OrderStatusFilled
    } else {
        askOrder.Status = models.OrderStatusPartiallyFilled
    }
    ``` -/
def fillMaker (price : Decimal) (taker maker : Ptr) (makerRemaining : Decimal) (st : Sweep)
    (i : ℕ) : Except Panic Sweep :=
  let fillQty := st.remaining.min makerRemaining
  let t := st.mem.order taker
  let (id, m) := st.mem.newUuid
  let trade : Trade := ⟨id, t.symbol, t.side, price, fillQty, t.userId, (m.order maker).userId⟩
  let m := m.setOrder taker { t with filledQty := t.filledQty.add fillQty }
  let m := m.setOrder maker { m.order maker with filledQty := (m.order maker).filledQty.add fillQty }
  let remaining := st.remaining.sub fillQty
  if (m.order maker).filledQty.equal (m.order maker).qty then
    if st.len < i + 1 then .error (.sliceBoundsOutOfRange (i + 1) st.len)
    else .ok ⟨shiftDown st.arr st.len i, st.len - 1, remaining, st.trades ++ [trade],
      m.setOrder maker { m.order maker with status := orderStatusFilled }⟩
  else .ok ⟨st.arr, st.len, remaining, st.trades ++ [trade],
      m.setOrder maker { m.order maker with status := orderStatusPartiallyFilled }⟩

/-- The range loop over the indices `is` (`0 … len-1` of the slice as it was when the
    loop started), at the level's price:
    ```
    if remainingQty.LessThanOrEqual(decimal.Zero) { break }
    askRemaining := askOrder.Qty.Sub(askOrder.FilledQty)
    if askRemaining.LessThanOrEqual(decimal.Zero) { continue }
    ...
    ``` -/
def sweep (price : Decimal) (taker : Ptr) : List ℕ → Sweep → Except Panic Sweep
  | [], st => .ok st
  | i :: is, st =>
    if st.remaining.lessThanOrEqual Decimal.zero then .ok st
    else
      let maker := st.arr.getD i 0
      let makerRemaining := (st.mem.order maker).qty.sub (st.mem.order maker).filledQty
      if makerRemaining.lessThanOrEqual Decimal.zero then sweep price taker is st
      else
        match fillMaker price taker maker makerRemaining st i with
        | .error e => .error e
        | .ok st => sweep price taker is st

/-- The range loop over a whole level: it starts on the level's slice and ends by storing
    the slice it leaves, the first `len` slots of the array, into `level.Orders`. -/
def sweepLevel (taker l : Ptr) (m : Mem) (remaining : Decimal) (trades : List Trade) :
    Except Panic Sweep :=
  let orders := (m.level l).orders
  (sweep (m.level l).price taker (List.range orders.length)
      ⟨orders, orders.length, remaining, trades, m⟩).map fun st =>
    { st with mem := st.mem.setLevel l { st.mem.level l with orders := st.arr.take st.len } }

/-- The state of the outer loop: memory, the side walked, `remainingQty` and the trades. -/
abbrev MatchState := Mem × BookSide × Decimal × List Trade

/-- One branch of `MatchOrder` (lines 189–249 for a BUY, 250–311 for a SELL), from the
    `k`-th iteration on, for at most `fuel` iterations; `none` when the fuel runs out.
    `stops levelPrice limitPrice` is the LIMIT test.
    ```
    for remainingQty.GreaterThan(decimal.Zero) {
        level, hasLevel := ob.Asks.GetBestLevel()
        if !hasLevel { break }
        if order.Type == models.OrderTypeLimit && order.Price != nil &&
            level.Price.GreaterThan(*order.Price) { break }
        for i, askOrder := range level.Orders { ... }
        if len(level.Orders) == 0 {
            ob.Asks.RemoveOrder(uuid.Nil) // This won't work properly, but for simplicity
        }
    }
    ``` -/
def matchLoop (stops : Decimal → Decimal → Bool) (visit : ℕ → List Decimal) (taker : Ptr) :
    ℕ → ℕ → MatchState → Option (Except Panic MatchState)
  | 0, _, _ => none
  | fuel + 1, k, (m, side, remaining, trades) =>
    if !remaining.greaterThan Decimal.zero then some (.ok (m, side, remaining, trades))
    else
      match side.getBestLevel with
      | none => some (.ok (m, side, remaining, trades))
      | some l =>
        let t := m.order taker
        if t.type = orderTypeLimit ∧ (t.price.map (stops (m.level l).price)).getD false then
          some (.ok (m, side, remaining, trades))
        else
          match sweepLevel taker l m remaining trades with
          | .error e => some (.error e)
          | .ok st =>
            let (m, side) :=
              if st.len = 0 then
                let (m, side, _) := side.removeOrder st.mem uuidNil (visit k)
                (m, side)
              else (st.mem, side)
            matchLoop stops visit taker fuel (k + 1) (m, side, st.remaining, st.trades)

/-- The status update after the loop (lines 313–318). -/
def setTakerStatus (m : Mem) (taker : Ptr) : Mem :=
  let t := m.order taker
  if t.filledQty.equal t.qty then m.setOrder taker { t with status := orderStatusFilled }
  else if t.filledQty.greaterThan Decimal.zero then
    m.setOrder taker { t with status := orderStatusPartiallyFilled }
  else m

namespace OrderBook

/-- `ob.MatchOrder(order)` (lines 181–321) with at most `fuel` iterations of the outer
    loop: the new memory, book and trades, a panic, or `none` when the fuel runs out. -/
def matchOrder (visit : ℕ → List Decimal) (fuel : ℕ) (m : Mem) (ob : OrderBook) (taker : Ptr) :
    Option (Except Panic (Mem × OrderBook × List Trade)) :=
  let t := m.order taker
  let remaining := t.qty.sub t.filledQty
  let run :=
    if t.side = orderSideBuy then
      (matchLoop Decimal.greaterThan visit taker fuel 0 (m, ob.asks, remaining, [])).map
        (Except.map fun (m, asks, _, trades) => (m, { ob with asks := asks }, trades))
    else
      (matchLoop Decimal.lessThan visit taker fuel 0 (m, ob.bids, remaining, [])).map
        (Except.map fun (m, bids, _, trades) => (m, { ob with bids := bids }, trades))
  run.map (Except.map fun (m, ob, trades) => (setTakerStatus m taker, ob, trades))

/-- `ob.MatchOrder(order)` returns `r`. -/
def MatchReturns (visit : ℕ → List Decimal) (m : Mem) (ob : OrderBook) (taker : Ptr)
    (r : Mem × OrderBook × List Trade) : Prop :=
  ∃ fuel, ob.matchOrder visit fuel m taker = some (.ok r)

end OrderBook

/-! ## The reference matcher (specification §4.4) -/

namespace Spec

/-- A resting order as the specification's matcher sees it: the order, its owner and
    `qty − filled_qty`. -/
structure Resting where
  ref : Ptr
  userId : UUID
  remaining : Decimal
  deriving DecidableEq, Repr

/-- A price level: its price and FIFO queue. -/
structure Level where
  price : Decimal
  queue : List Resting
  deriving DecidableEq, Repr

/-- A trade of the reference matcher: price, quantity, taker's and maker's users. -/
structure Fill where
  price : Decimal
  qty : Decimal
  takerId : UUID
  makerId : UUID
  deriving DecidableEq, Repr

/-- "For each resting order at that level, in FIFO order, while `remaining > 0`": the
    fills at one level, the queue left, and the taker's remainder. -/
def fillQueue (price : Decimal) (taker : UUID) : Decimal → List Resting →
    List Fill × List Resting × Decimal
  | rem, [] => ([], [], rem)
  | rem, r :: rs =>
    if rem.lessThanOrEqual Decimal.zero then ([], r :: rs, rem)
    else
      let q := rem.min r.remaining
      let (fs, rest, rem') := fillQueue price taker (rem.sub q) rs
      (⟨price, q, taker, r.userId⟩ :: fs,
        if q.equal r.remaining then rest else { r with remaining := r.remaining.sub q } :: rest,
        rem')

/-- The walk of §4.4 over the opposite side, best level first: stop when the remainder
    is zero or at the first level that does not `cross`; emptied levels leave the side. -/
def refMatch (crosses : Decimal → Bool) (taker : UUID) : Decimal → List Level →
    List Fill × List Level
  | _, [] => ([], [])
  | rem, lv :: lvs =>
    if rem.lessThanOrEqual Decimal.zero ∨ !crosses lv.price then ([], lv :: lvs)
    else
      let (fs, queue, rem') := fillQueue lv.price taker rem lv.queue
      let (fs', lvs') := refMatch crosses taker rem' lvs
      (fs ++ fs', if queue = [] then lvs' else ⟨lv.price, queue⟩ :: lvs')

/-- `a` goes before `b` on the side: lower asks first, higher bids first. -/
def better (isBid : Bool) (a b : Level) : Bool :=
  if isBid then b.price.lessThan a.price else a.price.lessThan b.price

/-- The side of the code's book as the reference sees it: the levels of the map, best
    first, each with its queue. -/
def sideView (m : Mem) (bs : BookSide) (isBid : Bool) : List Level :=
  List.insertionSort (fun a b => better isBid a b = true) <| bs.levels.map fun (_, l) =>
    ⟨(m.level l).price, (m.level l).orders.map fun p =>
      ⟨p, (m.order p).userId, (m.order p).qty.sub (m.order p).filledQty⟩⟩

/-- The trade of the code as a reference fill. -/
def Fill.ofTrade (t : Trade) : Fill := ⟨t.price, t.qty, t.takerId, t.makerId⟩

end Spec

/-- A new book with the bids `1 @ 90` (user 10) and `1 @ 110` (user 11) satisfies the
    representation invariant. A MARKET SELL of 1 (user 12) against it returns one trade
    at 90, the top of the bid min-heap; the reference matcher trades at 110. -/
theorem matchOrder_sell_two_bids :
    let bid (id : UUID) (p : Decimal) : Order :=
      ⟨id, id, symbolBTCUSD, orderSideBuy, orderTypeLimit, some p, 1, 0, orderStatusNew, id⟩
    let sell : Order := ⟨12, 12, symbolBTCUSD, orderSideSell, orderTypeMarket, none, 1, 0,
      orderStatusNew, 12⟩
    ((newOrderBook symbolBTCUSD).addOrders (Mem.ofOrders [bid 10 90, bid 11 110, sell])
        [0, 1]).map (fun (m, ob) =>
      (decide (ob.Invariant m),
        (ob.matchOrder (fun _ => ob.bids.levels.map Prod.fst) 2 m 2).map
          (Except.map fun r => r.2.2.map Spec.Fill.ofTrade),
        (Spec.refMatch (fun _ => true) 12 1 (Spec.sideView m ob.bids true)).1)) =
      .ok (true, some (.ok [⟨90, 1, 12, 10⟩]), [⟨110, 1, 12, 11⟩]) := by
  decide

end MicroCoin
