import MicroCoin.Limitbook.Heap

/-!
# `internal/limitbook/orderbook.go`: sides and books

A `BookSide` is a map from `price.String()` to `*PriceLevel` together with a
`PriceHeap` of the same levels. `String()` trims trailing zeros, so the map is keyed
here by `Decimal.canonical` of the price. Go visits the keys of a map in an unspecified
order, which `RemoveOrder`'s `range bs.levels` depends on: the model takes that order as
an argument `visit`.

A Go panic is an `Except Panic` error. The operations of this file, and `MatchOrder`,
are the only writers of a book; each returns the new memory and the new book.
-/

namespace MicroCoin

/-- The Go runtime panics the modelled code can raise. -/
inductive Panic
  /-- `runtime error: invalid memory address or nil pointer dereference`. -/
  | nilDereference
  /-- `runtime error: slice bounds out of range [low:high]`. -/
  | sliceBoundsOutOfRange (low high : ℕ)
  deriving DecidableEq, Repr

/-- Results are compared by value, so that runs on fixed inputs can be evaluated. -/
instance instDecidableEqExcept [DecidableEq ε] [DecidableEq α] : DecidableEq (Except ε α)
  | .error a, .error b => decidable_of_iff (a = b) ⟨congrArg _, Except.error.inj⟩
  | .ok a, .ok b => decidable_of_iff (a = b) ⟨congrArg _, Except.ok.inj⟩
  | .error _, .ok _ => isFalse Except.noConfusion
  | .ok _, .error _ => isFalse Except.noConfusion

/-- `limitbook.BookSide` (lines 34–39): `levels` is the map, as a list of its entries,
    `heap` the `PriceHeap` array. The mutex is not modelled: every call is one step. -/
structure BookSide where
  levels : List (Decimal × Ptr)
  heap : List Ptr
  deriving DecidableEq, Repr, Inhabited

/-- `NewBookSide(isBid)` (lines 41–47). `isBid` reaches `NewPriceHeap`, which ignores it. -/
def newBookSide (_isBid : Bool) : BookSide := ⟨[], []⟩

namespace BookSide

/-- The price of the level `l` points to, as `PriceHeap.Less` reads it. -/
def levelPrice (m : Mem) (l : Ptr) : Decimal := (m.level l).price

/-- `bs.AddOrder(order)` (lines 49–67):
    ```
    priceStr := order.Price.String()
    level, exists := bs.levels[priceStr]
    if !exists {
        level = &PriceLevel{Price: *order.Price, Orders: make([]*Order, 0)}
        bs.levels[priceStr] = level
        heap.Push(bs.heap, level)
    }
    level.Orders = append(level.Orders, order)
    ```
    A `nil` price panics at `order.Price.String()`. -/
def addOrder (m : Mem) (bs : BookSide) (o : Ptr) : Except Panic (Mem × BookSide) :=
  match (m.order o).price with
  | none => .error .nilDereference
  | some p =>
    let (l, m, bs) : Ptr × Mem × BookSide :=
      match bs.levels.lookup p.canonical with
      | some l => (l, m, bs)
      | none =>
        let (l, m) := m.allocLevel ⟨p, []⟩
        (l, m, ⟨bs.levels ++ [(p.canonical, l)], push (levelPrice m) bs.heap l⟩)
    .ok (m.setLevel l { m.level l with orders := (m.level l).orders ++ [o] }, bs)

/-- `bs.RemoveOrder(orderID)` (lines 69–93), the keys of `bs.levels` being visited in the
    order `visit`: the first order with that ID, in the first level that has one, leaves
    its slice; an emptied level leaves the map, but not the heap:
    ```
    level.Orders = append(level.Orders[:i], level.Orders[i+1:]...)
    if len(level.Orders) == 0 {
        delete(bs.levels, priceStr)
        // Note: We don't remove from heap here for simplicity
    }
    return true
    ``` -/
def removeOrder (m : Mem) (bs : BookSide) (orderID : UUID) :
    List Decimal → Mem × BookSide × Bool
  | [] => (m, bs, false)
  | k :: visit =>
    match bs.levels.lookup k with
    | none => removeOrder m bs orderID visit
    | some l =>
      match (m.level l).orders.findIdx? (fun p => (m.order p).id = orderID) with
      | none => removeOrder m bs orderID visit
      | some i =>
        let orders := (m.level l).orders.eraseIdx i
        (m.setLevel l { m.level l with orders := orders },
          if orders.length = 0 then { bs with levels := bs.levels.filter (·.1 ≠ k) } else bs,
          true)

/-- `bs.GetBestLevel()` (lines 108–119): `(*bs.heap)[0]`, if the heap is not empty. -/
def getBestLevel (bs : BookSide) : Option Ptr := bs.heap.head?

/-- `bs.GetBestPrice()` (lines 95–106): the price of `(*bs.heap)[0]`. -/
def getBestPrice (m : Mem) (bs : BookSide) : Option Decimal :=
  bs.getBestLevel.map (levelPrice m)

end BookSide

/-- `limitbook.OrderBook` (lines 121–127). -/
structure OrderBook where
  symbol : Symbol
  bids : BookSide
  asks : BookSide
  deriving DecidableEq, Repr, Inhabited

/-- `NewOrderBook(symbol)` (lines 129–136). -/
def newOrderBook (symbol : Symbol) : OrderBook := ⟨symbol, newBookSide true, newBookSide false⟩

namespace OrderBook

/-- `ob.AddOrder(order)` (lines 138–148): BUY orders go to the bids, every other side
    to the asks. -/
def addOrder (m : Mem) (ob : OrderBook) (o : Ptr) : Except Panic (Mem × OrderBook) :=
  if (m.order o).side = orderSideBuy then
    (ob.bids.addOrder m o).map fun (m, bids) => (m, { ob with bids := bids })
  else
    (ob.asks.addOrder m o).map fun (m, asks) => (m, { ob with asks := asks })

/-- `ob.RemoveOrder(orderID)` (lines 150–156):
    `ob.Bids.RemoveOrder(orderID) || ob.Asks.RemoveOrder(orderID)`, each map ranged over
    in its own order. -/
def removeOrder (m : Mem) (ob : OrderBook) (orderID : UUID) (visitBids visitAsks : List Decimal) :
    Mem × OrderBook × Bool :=
  let (m, bids, found) := ob.bids.removeOrder m orderID visitBids
  if found then (m, { ob with bids := bids }, true)
  else
    let (m, asks, found) := ob.asks.removeOrder m orderID visitAsks
    (m, { ob with asks := asks }, found)

/-- A sequence of `ob.AddOrder` calls. -/
def addOrders (m : Mem) (ob : OrderBook) : List Ptr → Except Panic (Mem × OrderBook)
  | [] => .ok (m, ob)
  | p :: ps => match ob.addOrder m p with
    | .ok (m, ob) => addOrders m ob ps
    | .error e => .error e

/-- `ob.GetBestBid()` (lines 158–161). -/
def getBestBid (m : Mem) (ob : OrderBook) : Option Decimal := ob.bids.getBestPrice m

/-- `ob.GetBestAsk()` (lines 163–166). -/
def getBestAsk (m : Mem) (ob : OrderBook) : Option Decimal := ob.asks.getBestPrice m

/-- A new book with the bids `1 @ 90` and `1 @ 110` added: `GetBestBid` reports `90`,
    because the bid heap is a min-heap. -/
theorem getBestBid_two_bids :
    let bid (id : UUID) (p : Decimal) : Order :=
      ⟨id, id, symbolBTCUSD, orderSideBuy, orderTypeLimit, some p, 1, 0, orderStatusNew, id⟩
    ((newOrderBook symbolBTCUSD).addOrders (Mem.ofOrders [bid 1 90, bid 2 110]) [0, 1]).map
        (fun (m, ob) => (ob.getBestBid m,
          (ob.bids.levels.flatMap fun e => (m.level e.2).orders).map fun p => (m.order p).price)) =
      .ok (some 90, [some 90, some 110]) := by
  decide

end OrderBook

/-! ## The representation invariant -/

namespace BookSide

/-- The levels of the map. -/
def mapLevels (bs : BookSide) : List Ptr := bs.levels.map Prod.snd

/-- The orders resting on a side: those queued in the levels of its map. -/
def resting (m : Mem) (bs : BookSide) : List Ptr :=
  bs.mapLevels.flatMap fun l => (m.level l).orders

/-- An order that may rest on the bids (`isBid`) or the asks: a LIMIT order with a
    price, whose `Side` is the side's (BUY for the bids, SELL for the asks), with
    `0 ≤ FilledQty < Qty`. -/
def Restable (m : Mem) (isBid : Bool) (p : Ptr) : Prop :=
  (m.order p).type = orderTypeLimit ∧ (m.order p).price.isSome ∧
    (m.order p).side = (if isBid then orderSideBuy else orderSideSell) ∧
    (m.order p).filledQty.lessThan Decimal.zero = false ∧
    (m.order p).filledQty.lessThan (m.order p).qty

instance (m : Mem) (isBid : Bool) (p : Ptr) : Decidable (Restable m isBid p) :=
  inferInstanceAs (Decidable (_ ∧ _))

/-- The representation invariant of a side: the heap holds exactly the levels of the
    map, each once; every level of the map is non-empty, keyed by its price's
    `String()`, and holds only orders of that price; no two levels have equal prices;
    every resting order is `Restable`. -/
structure Invariant (m : Mem) (bs : BookSide) (isBid : Bool) : Prop where
  heap_perm : bs.heap.Perm bs.mapLevels
  levels_nodup : bs.mapLevels.Nodup
  level_nonempty : ∀ e ∈ bs.levels, (m.level e.2).orders ≠ []
  level_key : ∀ e ∈ bs.levels, e.1 = (m.level e.2).price.canonical
  level_price : ∀ e ∈ bs.levels, ∀ p ∈ (m.level e.2).orders,
    ((m.order p).price.map fun q => q.equal (m.level e.2).price) = some true
  prices_distinct : (bs.levels.map fun e => (m.level e.2).price).Pairwise
    fun a b => a.equal b = false
  resting_ok : ∀ p ∈ bs.resting m, Restable m isBid p

instance (m : Mem) (bs : BookSide) (isBid : Bool) : Decidable (bs.Invariant m isBid) :=
  decidable_of_iff (bs.heap.Perm bs.mapLevels ∧ bs.mapLevels.Nodup ∧
      (∀ e ∈ bs.levels, (m.level e.2).orders ≠ []) ∧
      (∀ e ∈ bs.levels, e.1 = (m.level e.2).price.canonical) ∧
      (∀ e ∈ bs.levels, ∀ p ∈ (m.level e.2).orders,
        ((m.order p).price.map fun q => q.equal (m.level e.2).price) = some true) ∧
      (bs.levels.map fun e => (m.level e.2).price).Pairwise (fun a b => a.equal b = false) ∧
      ∀ p ∈ bs.resting m, Restable m isBid p)
    ⟨fun ⟨a, b, c, d, e, f, g⟩ => ⟨a, b, c, d, e, f, g⟩,
      fun ⟨a, b, c, d, e, f, g⟩ => ⟨a, b, c, d, e, f, g⟩⟩

end BookSide

/-- The representation invariant of a book: both sides', and every resting order rests
    once in the whole book. -/
structure OrderBook.Invariant (m : Mem) (ob : OrderBook) : Prop where
  bids : ob.bids.Invariant m true
  asks : ob.asks.Invariant m false
  resting_nodup : (ob.bids.resting m ++ ob.asks.resting m).Nodup

instance (m : Mem) (ob : OrderBook) : Decidable (ob.Invariant m) :=
  decidable_of_iff (ob.bids.Invariant m true ∧ ob.asks.Invariant m false ∧
      (ob.bids.resting m ++ ob.asks.resting m).Nodup)
    ⟨fun ⟨a, b, c⟩ => ⟨a, b, c⟩, fun ⟨a, b, c⟩ => ⟨a, b, c⟩⟩

/-- The book is not crossed: every resting bid is priced below every resting ask. -/
def OrderBook.Uncrossed (m : Mem) (ob : OrderBook) : Prop :=
  ∀ b ∈ ob.bids.resting m, ∀ a ∈ ob.asks.resting m,
    ∀ pb ∈ (m.order b).price, ∀ pa ∈ (m.order a).price, pb.lessThan pa = true

instance (m : Mem) (ob : OrderBook) : Decidable (ob.Uncrossed m) :=
  inferInstanceAs (Decidable (∀ _ ∈ _, _))

/-- A new book with one ask `1 @ 100` added satisfies the invariant; once `RemoveOrder`
    has taken the ask out, the level has left the map but not the heap, and the invariant
    fails. -/
theorem removeOrder_keeps_heap_level :
    let ask : Order := ⟨1, 1, symbolBTCUSD, orderSideSell, orderTypeLimit, some 100, 1, 0,
      orderStatusNew, 0⟩
    ((newOrderBook symbolBTCUSD).addOrder (Mem.ofOrders [ask]) 0).map (fun (m, ob) =>
        let (m', ob', found) := ob.removeOrder m 1 [] [(100 : Decimal).canonical]
        (decide (ob.Invariant m), found, ob'.asks.levels.length, ob'.asks.heap.length,
          decide (ob'.Invariant m'))) =
      .ok (true, true, 0, 1, false) := by
  decide

end MicroCoin
