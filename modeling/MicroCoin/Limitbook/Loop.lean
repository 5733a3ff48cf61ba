import MicroCoin.Limitbook.Match

/-!
# `MatchOrder`'s loops: what they write, where they spin, where they panic

`MatchOrder` writes the memory in three places: `fillMaker` sets the fill and status of the
taker and of one maker, `sweepLevel` stores the slice the range loop leaves into the level,
and `RemoveOrder(uuid.Nil)` erases an order from a level and an entry from the map. None of
them touches the heap. `Mem.FillsOnly m m'` says what that leaves of `m`: every order keeps
all its fields but `FilledQty` and `Status`, every level keeps its price and loses orders
only.

When the best level has nothing left to fill and the taker still has quantity, the outer
loop's iteration sweeps nothing, calls `RemoveOrder(uuid.Nil)`, which finds no order with
the ID `uuid.Nil`, and meets the same level at the top of the heap again.

Results:
* `sweep_fillsOnly`, `BookSide.removeOrder_fillsOnly`: the range loop and the removal write
  only fills, statuses and shorter queues, and leave the heap (`Fills.lean` carries this
  through the outer loop).
* `matchLoop_none_of_emptied`: an iteration that empties the best level while the taker
  still has quantity is followed by iterations that change nothing, so the loop never ends.
* `matchOrder_one_ask_spins`: one ask of 1, then a MARKET BUY of 2: `MatchOrder` never
  returns, whatever the fuel and the order in which maps are ranged over.
* `matchOrder_two_asks_panics`: two asks of 1 at one price, then a MARKET BUY of 2: the
  second removal slices `level.Orders[2:]` of a slice of length 1.
-/

namespace MicroCoin

/-! ## What a match writes -/

/-- `o'` is `o` with at most its `FilledQty` and `Status` changed. -/
def Order.SameTerms (o o' : Order) : Prop :=
  o' = { o with filledQty := o'.filledQty, status := o'.status }

namespace Order.SameTerms

variable {o o' o'' : Order}

theorem refl (o : Order) : o.SameTerms o := rfl

theorem trans (h : o.SameTerms o') (h' : o'.SameTerms o'') : o.SameTerms o'' := by
  rw [SameTerms, h']
  rw [h]

theorem id_eq (h : o.SameTerms o') : o'.id = o.id := by rw [h]
theorem userId_eq (h : o.SameTerms o') : o'.userId = o.userId := by rw [h]
theorem symbol_eq (h : o.SameTerms o') : o'.symbol = o.symbol := by rw [h]
theorem side_eq (h : o.SameTerms o') : o'.side = o.side := by rw [h]
theorem type_eq (h : o.SameTerms o') : o'.type = o.type := by rw [h]
theorem price_eq (h : o.SameTerms o') : o'.price = o.price := by rw [h]
theorem qty_eq (h : o.SameTerms o') : o'.qty = o.qty := by rw [h]

end Order.SameTerms

/-- What `MatchOrder` leaves of the memory `m` in `m'`: every order keeps its terms, every
    level its price, and a level's queue only loses orders. -/
structure Mem.FillsOnly (m m' : Mem) : Prop where
  order : ∀ p, (m.order p).SameTerms (m'.order p)
  level_price : ∀ l, (m'.level l).price = (m.level l).price
  level_orders : ∀ l, (m'.level l).orders ⊆ (m.level l).orders
  next : m'.next = m.next

namespace Mem.FillsOnly

variable {m m' m'' : Mem}

theorem refl (m : Mem) : m.FillsOnly m :=
  ⟨fun _ => .refl _, fun _ => rfl, fun _ => List.Subset.refl _, rfl⟩

theorem trans (h : m.FillsOnly m') (h' : m'.FillsOnly m'') : m.FillsOnly m'' where
  order p := (h.order p).trans (h'.order p)
  level_price l := (h'.level_price l).trans (h.level_price l)
  level_orders l := (h'.level_orders l).trans (h.level_orders l)
  next := h'.next.trans h.next

/-- Setting the fill or status of one order. -/
theorem setOrder (h : m.FillsOnly m') {p : Ptr} {o : Order} (ho : (m'.order p).SameTerms o) :
    m.FillsOnly (m'.setOrder p o) where
  order q := by
    rw [Mem.setOrder_order]
    split
    · next hq => exact (h.order q).trans (hq ▸ ho)
    · exact h.order q
  level_price := h.level_price
  level_orders := h.level_orders
  next := h.next

/-- Storing into a level a queue of some of its orders. -/
theorem setLevel (h : m.FillsOnly m') {l : Ptr} {orders : List Ptr}
    (ho : orders ⊆ (m.level l).orders) :
    m.FillsOnly (m'.setLevel l { m'.level l with orders := orders }) where
  order := h.order
  level_price q := by
    rw [Mem.setLevel_level]
    split
    · next hq => subst hq; exact h.level_price q
    · exact h.level_price q
  level_orders q := by
    rw [Mem.setLevel_level]
    split
    · next hq => subst hq; exact ho
    · exact h.level_orders q
  next := h.next

theorem newUuid (h : m.FillsOnly m') : m.FillsOnly m'.newUuid.2 :=
  ⟨h.order, h.level_price, h.level_orders, h.next⟩

end Mem.FillsOnly

/-! ## One fill, one level -/

/-- The shifted array holds only elements of the array. -/
theorem shiftDown_subset (arr : List Ptr) (len i : ℕ) : shiftDown arr len i ⊆ arr :=
  List.append_subset.2 ⟨List.append_subset.2 ⟨List.take_subset _ _,
    (List.take_subset _ _).trans (List.drop_subset _ _)⟩, List.drop_subset _ _⟩

/-- A fill writes the fills and statuses of the taker and the maker, and shifts the array
    at most. -/
theorem fillMaker_fillsOnly {price : Decimal} {taker maker : Ptr} {makerRemaining : Decimal}
    {st st' : Sweep} {i : ℕ} (h : fillMaker price taker maker makerRemaining st i = .ok st') :
    st.mem.FillsOnly st'.mem ∧ st'.arr ⊆ st.arr := by
  unfold fillMaker at h
  dsimp only at h
  split at h
  · split at h
    · cases h
    · cases h
      refine ⟨(((Mem.FillsOnly.refl _).newUuid.setOrder ?_).setOrder ?_).setOrder ?_,
        shiftDown_subset _ _ _⟩ <;> exact rfl
  · cases h
    refine ⟨(((Mem.FillsOnly.refl _).newUuid.setOrder ?_).setOrder ?_).setOrder ?_,
      List.Subset.refl _⟩ <;> exact rfl

/-- The range loop writes the fills and statuses of orders, and shifts the array at most. -/
theorem sweep_fillsOnly (price : Decimal) (taker : Ptr) :
    ∀ (is : List ℕ) {st st' : Sweep}, sweep price taker is st = .ok st' →
      st.mem.FillsOnly st'.mem ∧ st'.arr ⊆ st.arr
  | [], _, _, h => by cases h; exact ⟨.refl _, List.Subset.refl _⟩
  | i :: is, st, st', h => by
    simp only [sweep] at h
    split at h
    · cases h; exact ⟨.refl _, List.Subset.refl _⟩
    split at h
    · exact sweep_fillsOnly price taker is h
    split at h
    · cases h
    · next st₁ h₁ =>
      obtain ⟨hm₁, ha₁⟩ := fillMaker_fillsOnly h₁
      obtain ⟨hm, ha⟩ := sweep_fillsOnly price taker is h
      exact ⟨hm₁.trans hm, ha.trans ha₁⟩

/-- What the range loop over a level stores: the first `len` slots of the array. -/
theorem sweepLevel_level {taker l : Ptr} {m : Mem} {remaining : Decimal} {trades : List Trade}
    {st : Sweep} (h : sweepLevel taker l m remaining trades = .ok st) :
    m.FillsOnly st.mem ∧ (st.mem.level l).orders = st.arr.take st.len := by
  unfold sweepLevel at h
  dsimp only at h
  rcases hs : sweep (m.level l).price taker (List.range (m.level l).orders.length)
    ⟨(m.level l).orders, (m.level l).orders.length, remaining, trades, m⟩ with _ | st₁ <;>
    rw [hs] at h <;> cases h
  obtain ⟨hm, ha⟩ := sweep_fillsOnly _ _ _ hs
  refine ⟨hm.setLevel ((List.take_subset _ _).trans ha), ?_⟩
  simp

/-! ## `RemoveOrder` -/

namespace BookSide

theorem mem_of_lookup {levels : List (Decimal × Ptr)} {k : Decimal} {l : Ptr}
    (h : levels.lookup k = some l) : (k, l) ∈ levels := by
  obtain ⟨_, _, rfl, -⟩ := List.lookup_eq_some_iff.1 h
  simp

/-- `RemoveOrder` erases at most one order of one level and one entry of the map, and
    never touches the orders or the heap. -/
theorem removeOrder_fillsOnly (m : Mem) (bs : BookSide) (orderID : UUID) :
    ∀ visit, let r := bs.removeOrder m orderID visit
      m.FillsOnly r.1 ∧ r.1.order = m.order ∧ r.2.1.heap = bs.heap ∧ r.2.1.levels ⊆ bs.levels
  | [] => ⟨.refl _, rfl, rfl, List.Subset.refl _⟩
  | k :: visit => by
    simp only [removeOrder]
    split
    · exact removeOrder_fillsOnly m bs orderID visit
    split
    · exact removeOrder_fillsOnly m bs orderID visit
    · refine ⟨(Mem.FillsOnly.refl m).setLevel (List.eraseIdx_subset _ _), rfl, ?_, ?_⟩ <;> split
      · rfl
      · rfl
      · exact List.filter_subset' _
      · exact List.Subset.refl _

/-- `RemoveOrder(id)` changes nothing when no level of the map holds an order with that
    ID, whatever order the map is ranged over in. -/
theorem removeOrder_of_absent {m : Mem} {bs : BookSide} {orderID : UUID}
    (h : ∀ e ∈ bs.levels, ∀ p ∈ (m.level e.2).orders, (m.order p).id ≠ orderID) :
    ∀ visit, bs.removeOrder m orderID visit = (m, bs, false)
  | [] => rfl
  | k :: visit => by
    simp only [removeOrder]
    split
    · exact removeOrder_of_absent h visit
    · next l hl =>
      rw [(List.findIdx?_eq_none_iff).2 fun p hp => by
        simpa using h _ (mem_of_lookup hl) p hp]
      exact removeOrder_of_absent h visit

end BookSide

/-! ## The outer loop -/

section Loop
variable {stops : Decimal → Decimal → Bool} {visit : ℕ → List Decimal} {taker : Ptr}

/-- `askRemaining.LessThanOrEqual(decimal.Zero)`: the maker at `p` has nothing left to
    fill. -/
def Exhausted (m : Mem) (p : Ptr) : Prop :=
  ((m.order p).qty.sub (m.order p).filledQty).lessThanOrEqual Decimal.zero = true

/-- A range over makers with nothing left to fill fills nothing. -/
theorem sweep_of_exhausted (price : Decimal) :
    ∀ (is : List ℕ) (st : Sweep), (∀ i ∈ is, Exhausted st.mem (st.arr.getD i 0)) →
      sweep price taker is st = .ok st
  | [], _, _ => rfl
  | i :: is, st, h => by
    simp only [sweep]
    split
    · rfl
    · rw [if_pos (show _ = true from h i (.head _))]
      exact sweep_of_exhausted price is st fun j hj => h j (.tail _ hj)

/-- A state of the outer loop that the next iteration leaves as it is: the taker has
    quantity left, the best level `l` is not past the taker's limit and has nothing left to
    fill, and no order of the map has the ID `uuid.Nil`. -/
structure Stuck (stops : Decimal → Decimal → Bool) (taker : Ptr) (m : Mem) (side : BookSide)
    (remaining : Decimal) (l : Ptr) : Prop where
  remaining_pos : remaining.greaterThan Decimal.zero = true
  best : side.getBestLevel = some l
  not_stops : ¬((m.order taker).type = orderTypeLimit ∧
    ((m.order taker).price.map (stops (m.level l).price)).getD false)
  exhausted : ∀ p ∈ (m.level l).orders, Exhausted m p
  no_nil : ∀ e ∈ side.levels, ∀ p ∈ (m.level e.2).orders, (m.order p).id ≠ uuidNil

theorem matchLoop_of_stuck {m : Mem} {side : BookSide} {remaining : Decimal} {l : Ptr}
    (h : Stuck stops taker m side remaining l) (fuel k : ℕ)
    (trades : List Trade) :
    matchLoop stops visit taker (fuel + 1) k (m, side, remaining, trades) =
      matchLoop stops visit taker fuel (k + 1) (m, side, remaining, trades) := by
  have hsweep : sweepLevel taker l m remaining trades =
      .ok ⟨(m.level l).orders, (m.level l).orders.length, remaining, trades, m⟩ := by
    simp only [sweepLevel]
    rw [sweep_of_exhausted _ _ _ fun i hi => ?_]
    · simp only [Except.map, List.take_length]
      congr
      exact Mem.setLevel_self m l
    · have hi : i < (m.level l).orders.length := List.mem_range.1 hi
      rw [List.getD_eq_getElem _ _ hi]
      exact h.exhausted _ (List.getElem_mem hi)
  simp only [matchLoop, h.remaining_pos, h.best, Bool.not_true, Bool.false_eq_true, if_false,
    if_neg h.not_stops, hsweep]
  split
  · rw [BookSide.removeOrder_of_absent h.no_nil]
  · rfl

/-- From a stuck state the outer loop never ends: no fuel is enough. -/
theorem matchLoop_none_of_stuck {m : Mem} {side : BookSide} {remaining : Decimal} {l : Ptr}
    (h : Stuck stops taker m side remaining l) :
    ∀ (fuel k : ℕ) (trades : List Trade), matchLoop stops visit taker fuel k (m, side, remaining, trades) = none
  | 0, _, _ => rfl
  | fuel + 1, k, trades =>
    (matchLoop_of_stuck h fuel k trades).trans (matchLoop_none_of_stuck h fuel (k + 1) trades)

/-- An iteration that empties the best level while the taker still has quantity left (so
    that `RemoveOrder(uuid.Nil)` is called) is followed by iterations that change nothing:
    when no order of the map has the ID `uuid.Nil`, the outer loop never ends. -/
theorem matchLoop_none_of_emptied {m : Mem} {side : BookSide} {remaining : Decimal}
    {trades : List Trade} {l : Ptr} {st : Sweep}
    (hpos : remaining.greaterThan Decimal.zero = true) (hbest : side.getBestLevel = some l)
    (hgo : ¬((m.order taker).type = orderTypeLimit ∧
      ((m.order taker).price.map (stops (m.level l).price)).getD false))
    (hsweep : sweepLevel taker l m remaining trades = .ok st) (hlen : st.len = 0)
    (hrem : st.remaining.greaterThan Decimal.zero = true)
    (hnil : ∀ e ∈ side.levels, ∀ p ∈ (m.level e.2).orders, (m.order p).id ≠ uuidNil) :
    ∀ fuel k, matchLoop stops visit taker fuel k (m, side, remaining, trades) = none := by
  obtain ⟨hm, hl⟩ := sweepLevel_level hsweep
  have hnil' : ∀ e ∈ side.levels, ∀ p ∈ (st.mem.level e.2).orders, (st.mem.order p).id ≠ uuidNil :=
    fun e he p hp => by
      rw [(hm.order p).id_eq]
      exact hnil e he p (hm.level_orders _ hp)
  have hstuck : Stuck stops taker st.mem side st.remaining l :=
    { remaining_pos := hrem
      best := hbest
      not_stops := by rwa [(hm.order taker).type_eq, (hm.order taker).price_eq, hm.level_price]
      exhausted := by simp [hl, hlen]
      no_nil := hnil' }
  rintro (_ | fuel) k
  · rfl
  simp only [matchLoop, hpos, hbest, Bool.not_true, Bool.false_eq_true, if_false, if_neg hgo,
    hsweep, hlen, if_true, BookSide.removeOrder_of_absent hnil']
  exact matchLoop_none_of_stuck hstuck fuel (k + 1) st.trades

end Loop

set_option smartUnfolding false in
/-- A new book with one ask `1 @ 100` added, and a MARKET BUY of 2: the first iteration fills
    the ask and empties its level with 1 left to buy, and `MatchOrder` never returns, whatever
    the fuel and the order the map is ranged over in. -/
theorem matchOrder_one_ask_spins :
    let ask : Order := ⟨1, 1, symbolBTCUSD, orderSideSell, orderTypeLimit, some 100, 1, 0,
      orderStatusNew, 1⟩
    let buy : Order := ⟨2, 2, symbolBTCUSD, orderSideBuy, orderTypeMarket, none, 2, 0,
      orderStatusNew, 2⟩
    ∃ m ob, (newOrderBook symbolBTCUSD).addOrders (Mem.ofOrders [ask, buy]) [0] = .ok (m, ob) ∧
      ∀ visit fuel, ob.matchOrder visit fuel m 1 = none := by
  refine ⟨_, _, rfl, fun visit fuel => ?_⟩
  simp only [OrderBook.matchOrder]
  split
  · rw [matchLoop_none_of_emptied (l := 2) ?_ ?_ ?_ ?sweep ?_ ?_ ?_]
    · rfl
    case sweep => rfl
    all_goals decide
  · next h => exact absurd rfl h

/-! ## The slice panic -/

set_option smartUnfolding false in
/-- A new book with two asks `1 @ 100` added, and a MARKET BUY of 2: the range loop fills
    the first ask at `i = 0` and shifts the second into slot 0; at `i = 1` it reads the stale
    copy left in slot 1, fills it, and `level.Orders[2:]` on a slice of length 1 panics. -/
theorem matchOrder_two_asks_panics :
    let ask (id : UUID) : Order := ⟨id, id, symbolBTCUSD, orderSideSell, orderTypeLimit,
      some 100, 1, 0, orderStatusNew, id⟩
    let buy : Order := ⟨3, 3, symbolBTCUSD, orderSideBuy, orderTypeMarket, none, 2, 0,
      orderStatusNew, 3⟩
    ∃ m ob, (newOrderBook symbolBTCUSD).addOrders (Mem.ofOrders [ask 1, ask 2, buy]) [0, 1] =
        .ok (m, ob) ∧
      ∀ visit fuel, ob.matchOrder visit (fuel + 1) m 2 =
        some (.error (.sliceBoundsOutOfRange 2 1)) :=
  ⟨_, _, rfl, fun _ _ => rfl⟩

end MicroCoin
