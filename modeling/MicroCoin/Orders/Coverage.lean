import MicroCoin.Limitbook.Fills
import MicroCoin.Orders.Service
import Mathlib.Algebra.Order.BigOperators.Group.List
import Mathlib.Algebra.BigOperators.Ring.List

/-!
# What the hold of `CreateOrder` covers

`CreateOrder` holds `calculateRequiredAmount(req, fillPrice)` before the order meets the book:
`price · qty` USD for a BUY and `qty` of the base currency otherwise, the price being the
quote's ask or bid for a MARKET order and `*req.Price` for every other type. What the taker pays
is what `processTrade` moves out of its accounts: `Price × Qty` USD a trade for a BUY, `Qty` of
the base currency a trade for a SELL (`takerPays`).

A SELL never trades more than its `Qty`, and a LIMIT BUY never trades above its price, so for
those the hold covers every fill. A MARKET BUY is held at the quote's ask and filled at the
book's.

Results:
* `OrderBook.matchOrder_trades_within`: every trade of a returning `MatchOrder` takes a positive
  quantity at a price within a LIMIT taker's, and together they take no more than it had left.
* `matchOrder_within_hold`: for a LIMIT order or a SELL that validation accepts, what the taker
  pays for the trades `MatchOrder` makes for it, on any book, is at most the amount held.
* `matchOrder_market_buy_over_hold`: a MARKET BUY of 2 quoted at an ask of 100 holds 200 USD and,
  against an ask at 150, pays 300.
-/

namespace MicroCoin

/-- Every trade of a `MatchOrder` that returned takes a positive quantity at a price within a
    LIMIT taker's price, and together the trades take no more than the taker had left. -/
theorem OrderBook.matchOrder_trades_within {visit : ℕ → List Decimal} {fuel : ℕ} {m m' : Mem}
    {ob ob' : OrderBook} {taker : Ptr} {trades : List Trade}
    (h : ob.matchOrder visit fuel m taker = some (.ok (m', ob', trades))) :
    (∀ t ∈ trades, 0 < t.qty.toRat ∧ ((m.order taker).type = orderTypeLimit →
      ∀ p ∈ (m.order taker).price, if (m.order taker).side = orderSideBuy
        then t.price.toRat ≤ p.toRat else p.toRat ≤ t.price.toRat)) ∧
    (trades ≠ [] → tradedQty trades ≤ ((m.order taker).qty.sub (m.order taker).filledQty).toRat) := by
  obtain ⟨r, makers, run, -, -⟩ := OrderBook.matchOrder_run h
  refine ⟨fun t ht => ?_, fun hne => by linarith [run.nonneg hne, run.remaining]⟩
  rw [← List.map_fst_zip trades makers run.length.ge] at ht
  obtain ⟨tp, htp, rfl⟩ := List.mem_map.1 ht
  obtain ⟨hq, -, -, l, -, hp, -, hgo⟩ := run.made tp htp
  exact ⟨hq, fun hlim p hpe => by rw [hp]; exact price_within hgo hlim hpe⟩

namespace Orders

variable {env : Env} {w : World}

/-- A request that `validateOrderRequest` accepts has a positive `Qty`, and a positive price when
    it is a LIMIT order. -/
theorem validateOrderRequest_ok {req : CreateOrderRequest}
    (h : ((validateOrderRequest req).run' env w).1 = .ok ()) :
    0 < req.qty.toRat ∧ (req.type = orderTypeLimit → ∃ p, req.price = some p ∧ 0 < p.toRat) := by
  unfold validateOrderRequest at h
  have hq : req.qty.lessThanOrEqual Decimal.zero = false := by
    by_contra hq
    simp only [Bool.not_eq_false] at hq
    simp [hq, App.run'_bind] at h
  have hl : ¬(req.type = orderTypeLimit ∧
      (req.price.map (·.lessThanOrEqual Decimal.zero)).getD true = true) := fun hl => by
    simp only [hq, hl, App.run'_bind] at h
    simp at h
  refine ⟨by simpa only [← Bool.not_eq_true, Decimal.lessThanOrEqual_iff, Decimal.toRat_zero,
    not_le] using hq, fun hlim => ?_⟩
  cases hp : req.price with
  | none => simp [hlim, hp] at hl
  | some p => exact ⟨p, rfl, by simpa [hlim, hp] using hl⟩

/-- What `calculateRequiredAmount` returns: `price · qty` for a BUY and `qty` otherwise, the
    price being `*req.Price` for every type but MARKET. -/
theorem calculateRequiredAmount_ok {req : CreateOrderRequest} {fillPrice : Option Decimal}
    {amount : Decimal} (h : ((calculateRequiredAmount req fillPrice).run' env w).1 = .ok amount) :
    ∃ price, (req.type ≠ orderTypeMarket → req.price = some price) ∧
      amount = if req.side = orderSideBuy then price.mul req.qty else req.qty := by
  unfold calculateRequiredAmount at h
  by_cases hm : req.type = orderTypeMarket
  · cases fillPrice with
    | none => simp [hm, App.run'_bind] at h
    | some p =>
      refine ⟨p, fun h' => absurd hm h', ?_⟩
      simpa [hm, App.run'_bind, eq_comm] using h
  · cases hp : req.price with
    | none => simp [hm, hp, App.run'_bind] at h
    | some p =>
      refine ⟨p, fun _ => rfl, ?_⟩
      simpa [hm, hp, App.run'_bind, eq_comm] using h

/-- What the taker pays for `trades` when `processTrade` settles them: `Price × Qty` USD a
    trade for a BUY, `Qty` of the base currency a trade otherwise. -/
def takerPays (side : OrderSide) (trades : List Trade) : ℚ :=
  if side = orderSideBuy then (trades.map fun t => (t.price.mul t.qty).toRat).sum
  else tradedQty trades

/-- For a LIMIT order or a SELL that validation accepts, placed as `placeOrder` places it (no
    fill yet), the trades `MatchOrder` makes on any book cost the taker at most what
    `calculateRequiredAmount` asked `holdFunds` to hold. -/
theorem matchOrder_within_hold {req : CreateOrderRequest} {fillPrice : Option Decimal}
    {amount : Decimal} (hv : ((validateOrderRequest req).run' env w).1 = .ok ())
    (ha : ((calculateRequiredAmount req fillPrice).run' env w).1 = .ok amount)
    (hty : req.type = orderTypeLimit ∨ req.side ≠ orderSideBuy) {id userId : UUID}
    {createdAt : ℕ} {visit : ℕ → List Decimal} {fuel : ℕ} {m m' : Mem} {ob ob' : OrderBook}
    {taker : Ptr} {trades : List Trade}
    (ht : m.order taker = ⟨id, userId, req.symbol, req.side, req.type, req.price, req.qty,
      Decimal.zero, orderStatusNew, createdAt⟩)
    (h : ob.matchOrder visit fuel m taker = some (.ok (m', ob', trades))) :
    takerPays req.side trades ≤ amount.toRat := by
  obtain ⟨hqty, hlimit⟩ := validateOrderRequest_ok hv
  obtain ⟨price, hprice, rfl⟩ := calculateRequiredAmount_ok ha
  obtain ⟨hper, htot⟩ := OrderBook.matchOrder_trades_within h
  simp only [ht] at hper htot
  -- together the trades take at most `Qty`
  have hsum : tradedQty trades ≤ req.qty.toRat := by
    by_cases hne : trades = []
    · rw [hne, tradedQty_nil]
      exact hqty.le
    · simpa using htot hne
  unfold takerPays
  split_ifs with hb
  · -- a LIMIT BUY: every trade is at most the limit
    have hlim : req.type = orderTypeLimit := hty.resolve_right (not_not.2 hb)
    obtain ⟨p, hp, hpos⟩ := hlimit hlim
    have hpp : price = p := Option.some_injective _ ((hprice (by rw [hlim]; decide)).symm.trans hp)
    subst hpp
    calc (trades.map fun t => (t.price.mul t.qty).toRat).sum
        ≤ (trades.map fun t => price.toRat * t.qty.toRat).sum := List.sum_le_sum fun t ht => by
          have hle := (hper t ht).2 hlim price hp
          rw [if_pos hb] at hle
          rw [Decimal.toRat_mul]
          exact mul_le_mul_of_nonneg_right hle (hper t ht).1.le
      _ = price.toRat * tradedQty trades := List.sum_map_mul_left _ _ _
      _ ≤ price.toRat * req.qty.toRat := mul_le_mul_of_nonneg_left hsum hpos.le
      _ = (price.mul req.qty).toRat := (Decimal.toRat_mul _ _).symm
  · exact hsum


set_option smartUnfolding false in
/-- A LIMIT BUY of 2 @ 120 against one ask `3 @ 100`: 240 USD held, 200 paid. -/
theorem matchOrder_within_hold_limit_buy :
    let req : CreateOrderRequest := ⟨symbolBTCUSD, orderSideBuy, orderTypeLimit, some 120, 2⟩
    let ask : Order := ⟨1, 1, symbolBTCUSD, orderSideSell, orderTypeLimit, some 100, 3, 0,
      orderStatusNew, 1⟩
    let buy : Order := ⟨2, 2, req.symbol, req.side, req.type, req.price, req.qty, Decimal.zero,
      orderStatusNew, 2⟩
    let env : Env := ⟨fun _ => false, fun _ => none, fun _ _ => [], 2⟩
    let w := World.ofStore ⟨[], [], [], []⟩
    ∃ amount m ob m' ob' trades,
      ((validateOrderRequest req).run' env w).1 = .ok () ∧
      ((calculateRequiredAmount req none).run' env w).1 = .ok amount ∧
      (req.type = orderTypeLimit ∨ req.side ≠ orderSideBuy) ∧
      (newOrderBook symbolBTCUSD).addOrder (Mem.ofOrders [ask, buy]) 0 = .ok (m, ob) ∧
      m.order 1 = buy ∧ ob.matchOrder (fun _ => []) 2 m 1 = some (.ok (m', ob', trades)) ∧
      takerPays req.side trades ≤ amount.toRat := by
  intro req ask buy env w
  have hv : ((validateOrderRequest req).run' env w).1 = .ok () := rfl
  have hadd : (newOrderBook symbolBTCUSD).addOrder (Mem.ofOrders [ask, buy]) 0 = .ok (_, _) := rfl
  -- the book `hadd` computes is the one the theorem is applied to
  have hcover {m ob m' ob' trades}
      (_ : (newOrderBook symbolBTCUSD).addOrder (Mem.ofOrders [ask, buy]) 0 = .ok (m, ob)) :=
    @matchOrder_within_hold env w req none _ hv rfl (.inl rfl) 2 2 2 (fun _ => []) 2 m m' ob ob' 1
      trades
  unfold buy req ask env w at *
  exact ⟨_, _, _, _, _, _, hv, rfl, .inl rfl, hadd, rfl, rfl, hcover hadd rfl rfl⟩

set_option smartUnfolding false in
/-- A MARKET BUY of 2 quoted at an ask of 100 is held at 200 USD, and against an ask `3 @ 150`
    in the book makes one trade of 2 at 150: it pays 300. -/
theorem matchOrder_market_buy_over_hold :
    let req : CreateOrderRequest := ⟨symbolBTCUSD, orderSideBuy, orderTypeMarket, none, 2⟩
    let ask : Order := ⟨1, 1, symbolBTCUSD, orderSideSell, orderTypeLimit, some 150, 3, 0,
      orderStatusNew, 1⟩
    let buy : Order := ⟨2, 2, req.symbol, req.side, req.type, req.price, req.qty, Decimal.zero,
      orderStatusNew, 2⟩
    let env : Env := ⟨fun _ => false, fun _ => some ⟨symbolBTCUSD, 99, 100⟩, fun _ _ => [], 2⟩
    let w := World.ofStore ⟨[], [], [], []⟩
    let trade : Trade := ⟨1, symbolBTCUSD, orderSideBuy, 150, 2, 2, 1⟩
    ∃ m ob m' ob',
      ((validateOrderRequest req).run' env w).1 = .ok () ∧
      ((calculateRequiredAmount req ((env.quote req.symbol).map (·.ask))).run' env w).1 =
        .ok 200 ∧
      (newOrderBook symbolBTCUSD).addOrder (Mem.ofOrders [ask, buy]) 0 = .ok (m, ob) ∧
      m.order 1 = buy ∧ ob.matchOrder (fun _ => []) 2 m 1 = some (.ok (m', ob', [trade])) ∧
      (200 : Decimal).toRat < takerPays req.side [trade] :=
  ⟨_, _, _, _, rfl, rfl, rfl, rfl, rfl, by
    norm_num [takerPays]
    rw [Decimal.toRat_ofNat, Decimal.toRat_ofNat, Decimal.toRat_ofNat]
    norm_num⟩

set_option smartUnfolding false in
/-- User 1 holds 1000 USD and sends a LIMIT BUY of 0.0000000001 BTC @ 1.5, which validation
    accepts. `CreateOrder` checks and holds `1.5 × 0.0000000001 = 0.00000000015` USD, but the
    `NUMERIC(30,10)` columns of the account store 999.9999999999 available and 0.0000000002 held:
    the account has gained 0.0000000001 USD. -/
theorem createOrder_hold_rounded :
    let s : Store := ⟨[⟨10, 1, currencyUSD, 1000, 0⟩], [], [], []⟩
    let env : Env := ⟨fun _ => false, fun _ => none, fun _ _ => [], 1⟩
    let req : CreateOrderRequest :=
      ⟨symbolBTCUSD, orderSideBuy, orderTypeLimit, some ⟨15, -1⟩, ⟨1, -10⟩⟩
    let (r, w) := (createOrder 1 req).run' env (World.ofStore s)
    ((validateOrderRequest req).run' env (World.ofStore s)).1 = .ok () ∧
      ((calculateRequiredAmount req none).run' env (World.ofStore s)).1 = .ok ⟨15, -11⟩ ∧
      r.map (·.status) = .ok orderStatusNew ∧
      w.store.accounts.map (fun a => (a.balanceAvailable, a.balanceHold)) =
        [(⟨9999999999999, -10⟩, ⟨2, -10⟩)] := by
  decide

end Orders

end MicroCoin
