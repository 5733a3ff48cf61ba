import MicroCoin.Limitbook.Fills

/-!
# Books reached by `AddOrder`, `RemoveOrder` and `MatchOrder`

`Reachable m ob`: the memory `m` and the book `ob` after any sequence of calls of
`package limitbook` from `NewOrderBook`, with the caller allocating orders in between
(`convertToBookOrder`) and passing pointers to them. The representation invariant of
`Book.lean` does not hold of every such book (`removeOrder_keeps_heap_level`): stale levels
stay in the heap, and a level may queue filled or duplicated orders. What does hold is
`OrderBook.SidesApart`: the bids queue BUY orders only and the asks none, and no level is
reached from both sides. So a taker is never among the makers `MatchOrder` walks, and the
fills of `Fills.lean` add up.

Results:
* `Reachable.sidesApart`: every reachable book keeps its sides apart; one preservation lemma
  per call.
* `matchOrder_fills`: on a reachable book, a `MatchOrder` that returns fills the taker by the
  quantity traded, the makers by the same total, none past its `Qty`, with the statuses of
  `fillMaker`; a taker that traded ends FILLED, since the heap's top never changes during a
  call and a returning loop has left the taker nothing.
-/

namespace MicroCoin

namespace BookSide

/-- The levels a side points to, from its heap or its map. -/
def allLevels (bs : BookSide) : List Ptr := bs.heap ++ bs.mapLevels

variable {m m' : Mem} {bs bs' : BookSide} {o : Ptr}

/-- What a returning `AddOrder` does: it writes no order, allocates at most one level, and
    appends `o` to one level of the side, an old one or the fresh one; no other level
    changes. -/
theorem addOrder_ok (h : bs.addOrder m o = .ok (m', bs')) :
    m'.order = m.order ∧ m.next ≤ m'.next ∧
      (∀ l, l < m.next → l ∉ bs.allLevels → m'.level l = m.level l) ∧
      ∀ l ∈ bs'.allLevels, (l ∈ bs.allLevels ∨ m.next ≤ l ∧ l < m'.next) ∧
        ∀ p ∈ (m'.level l).orders, p = o ∨ l ∈ bs.allLevels ∧ p ∈ (m.level l).orders := by
  unfold addOrder at h
  split at h
  · cases h
  dsimp only at h
  split at h
  next l hl =>
    -- the price has a level: `o` joins it
    simp only [Except.ok.injEq, Prod.mk.injEq] at h
    obtain ⟨rfl, rfl⟩ := h
    have hl' : l ∈ bs.allLevels :=
      List.mem_append_right _ (List.mem_map.2 ⟨_, mem_of_lookup hl, rfl⟩)
    refine ⟨rfl, le_rfl, fun l' _ hl'' => ?_, fun l' hl'' => ⟨.inl hl'', fun p hp => ?_⟩⟩
    · simp [ne_of_mem_of_not_mem hl' hl'' |>.symm]
    · by_cases hn : l' = l
      · subst hn
        simp only [Mem.setLevel_level, if_true, List.mem_append, List.mem_singleton] at hp
        exact hp.symm.imp id fun hp => ⟨hl'', hp⟩
      · simp only [Mem.setLevel_level, hn, if_false] at hp
        exact .inr ⟨hl'', hp⟩
  · -- a fresh level at `m.next`, holding `o` only
    simp only [Except.ok.injEq, Prod.mk.injEq] at h
    obtain ⟨rfl, rfl⟩ := h
    refine ⟨rfl, by simp, fun l hl _ => by simp [hl.ne], fun l hl => ?_⟩
    replace hl : l ∈ bs.allLevels ∨ l = m.next := by
      simp only [allLevels, mapLevels, List.map_append, List.map_cons, List.map_nil,
        List.mem_append, List.mem_singleton, Mem.allocLevel_fst] at hl
      rcases hl with hl | hl | hl
      · exact (mem_of_mem_push hl).symm.imp (List.mem_append_left _) id
      · exact .inl (List.mem_append_right _ hl)
      · exact .inr hl
    refine ⟨?_, fun p hp => ?_⟩
    · rcases hl with hl | rfl
      · exact .inl hl
      · exact .inr ⟨le_rfl, by simp⟩
    · by_cases hn : l = m.next
      · simp [hn] at hp
        exact .inl hp
      · simp [hn] at hp
        exact .inr ⟨hl.resolve_right hn, hp⟩

/-- Every level the side `bs` points to is allocated and queues allocated orders, each of a
    side that `S` accepts. -/
def Holds (m : Mem) (bs : BookSide) (S : OrderSide → Prop) : Prop :=
  ∀ l ∈ bs.allLevels, l < m.next ∧ ∀ p ∈ (m.level l).orders, p < m.next ∧ S (m.order p).side

/-- A side that kept its heap and lost map entries points to no new level. -/
theorem allLevels_subset (hh : bs'.heap = bs.heap) (hl : bs'.levels ⊆ bs.levels) :
    bs'.allLevels ⊆ bs.allLevels := by
  intro l
  simp only [allLevels, mapLevels, List.mem_append, hh]
  exact Or.imp_right (List.map_subset _ hl ·)

namespace Holds

variable {S T : OrderSide → Prop}

/-- A side that lost levels holds of a memory that only filled orders and shortened queues. -/
theorem of_fillsOnly (h : bs.Holds m S) (hm : m.FillsOnly m')
    (hl : bs'.allLevels ⊆ bs.allLevels) : bs'.Holds m' S := fun l hl' => by
  obtain ⟨hn, hs⟩ := h l (hl hl')
  refine ⟨hm.next ▸ hn, fun p hp => ?_⟩
  rw [hm.next, (hm.order p).side_eq]
  exact hs p (hm.level_orders l hp)

/-- A side holds of a memory that kept its levels and the allocated orders. -/
theorem of_frame (h : bs.Holds m S) (hord : ∀ p, p < m.next → m'.order p = m.order p)
    (hnext : m.next ≤ m'.next) (hlev : ∀ l ∈ bs.allLevels, m'.level l = m.level l) :
    bs.Holds m' S := fun l hl => by
  obtain ⟨hn, hs⟩ := h l hl
  refine ⟨hn.trans_le hnext, fun p hp => ?_⟩
  rw [hlev l hl] at hp
  obtain ⟨hp, hS⟩ := hs p hp
  exact ⟨hp.trans_le hnext, hord p hp ▸ hS⟩

/-- `AddOrder` of an allocated order of a side `S` accepts, to a side `a` that shares no
    level with `b`: both still hold, and still share no level. -/
theorem addOrder {a a' b : BookSide} (h : a.addOrder m o = .ok (m', a')) (ha : a.Holds m S)
    (hb : b.Holds m T) (hd : ∀ l ∈ a.allLevels, l ∉ b.allLevels) (ho : o < m.next)
    (hS : S (m.order o).side) :
    a'.Holds m' S ∧ b.Holds m' T ∧ ∀ l ∈ a'.allLevels, l ∉ b.allLevels := by
  obtain ⟨hord, hnext, hlev, hnew⟩ := addOrder_ok h
  refine ⟨fun l hl => ?_, hb.of_frame (fun p _ => by rw [hord]) hnext
    fun l hl => hlev l (hb l hl).1 fun ha => hd l ha hl, fun l hl hlb => ?_⟩
  · obtain ⟨hl₁, hl₂⟩ := hnew l hl
    refine ⟨hl₁.elim (fun hl₁ => (ha l hl₁).1.trans_le hnext) And.right, fun p hp => ?_⟩
    rw [hord]
    rcases hl₂ p hp with rfl | ⟨hl₁, hp⟩
    · exact ⟨ho.trans_le hnext, hS⟩
    · exact ((ha l hl₁).2 p hp).imp_left (·.trans_le hnext)
  · rcases (hnew l hl).1 with hl₁ | ⟨hl₁, -⟩
    · exact hd l hl₁ hlb
    · exact absurd (hb l hlb).1 hl₁.not_lt

end Holds

end BookSide

/-- The bids queue BUY orders only and the asks none, and no level is reached from both
    sides. -/
structure OrderBook.SidesApart (m : Mem) (ob : OrderBook) : Prop where
  bids : ob.bids.Holds m (· = orderSideBuy)
  asks : ob.asks.Holds m (· ≠ orderSideBuy)
  disjoint : ∀ l ∈ ob.bids.allLevels, l ∉ ob.asks.allLevels

/-- The memory and one book after calls of `package limitbook` from `NewOrderBook`, the
    caller allocating the orders it passes (`convertToBookOrder`). -/
inductive Reachable : Mem → OrderBook → Prop
  | new (m : Mem) (symbol : Symbol) : Reachable m (newOrderBook symbol)
  | allocOrder {m : Mem} {ob : OrderBook} (o : Order) :
      Reachable m ob → Reachable (m.allocOrder o).2 ob
  | addOrder {m m' : Mem} {ob ob' : OrderBook} {o : Ptr} :
      Reachable m ob → o < m.next → ob.addOrder m o = .ok (m', ob') → Reachable m' ob'
  | removeOrder {m m' : Mem} {ob ob' : OrderBook} {orderID : UUID}
      {visitBids visitAsks : List Decimal} {found : Bool} :
      Reachable m ob → ob.removeOrder m orderID visitBids visitAsks = (m', ob', found) →
      Reachable m' ob'
  | matchOrder {m m' : Mem} {ob ob' : OrderBook} {visit : ℕ → List Decimal} {fuel : ℕ}
      {taker : Ptr} {trades : List Trade} :
      Reachable m ob → ob.matchOrder visit fuel m taker = some (.ok (m', ob', trades)) →
      Reachable m' ob'

namespace OrderBook.SidesApart

variable {m m' : Mem} {ob ob' : OrderBook}

/-- A new book has no level. -/
theorem newOrderBook (m : Mem) (symbol : Symbol) : (newOrderBook symbol).SidesApart m :=
  ⟨fun _ h => (List.not_mem_nil _ h).elim, fun _ h => (List.not_mem_nil _ h).elim,
    fun _ h => (List.not_mem_nil _ h).elim⟩

/-- Allocating an order writes at `m.next`, past every order a level queues. -/
theorem allocOrder (hs : ob.SidesApart m) (o : Order) : ob.SidesApart (m.allocOrder o).2 := by
  have hord p (hp : p < m.next) : (m.allocOrder o).2.order p = m.order p := by simp [hp.ne]
  exact ⟨hs.bids.of_frame hord (by simp) fun _ _ => rfl,
    hs.asks.of_frame hord (by simp) fun _ _ => rfl, hs.disjoint⟩

/-- Sides that only lost levels, over a memory that only filled orders and shortened queues. -/
theorem of_fillsOnly (hs : ob.SidesApart m) (hm : m.FillsOnly m')
    (hb : ob'.bids.allLevels ⊆ ob.bids.allLevels) (ha : ob'.asks.allLevels ⊆ ob.asks.allLevels) :
    ob'.SidesApart m' :=
  ⟨hs.bids.of_fillsOnly hm hb, hs.asks.of_fillsOnly hm ha,
    fun l hl hl' => hs.disjoint l (hb hl) (ha hl')⟩

/-- `AddOrder` puts a BUY order in the bids and any other in the asks. -/
theorem addOrder {o : Ptr} (hs : ob.SidesApart m) (ho : o < m.next)
    (h : ob.addOrder m o = .ok (m', ob')) : ob'.SidesApart m' := by
  unfold OrderBook.addOrder at h
  split_ifs at h with hS
  · rcases hb : ob.bids.addOrder m o with _ | ⟨m₁, bids⟩ <;>
      simp only [hb, Except.map, Except.ok.injEq, Prod.mk.injEq, reduceCtorEq] at h
    obtain ⟨rfl, rfl⟩ := h
    obtain ⟨h₁, h₂, h₃⟩ := hs.bids.addOrder hb hs.asks hs.disjoint ho hS
    exact ⟨h₁, h₂, h₃⟩
  · rcases ha : ob.asks.addOrder m o with _ | ⟨m₁, asks⟩ <;>
      simp only [ha, Except.map, Except.ok.injEq, Prod.mk.injEq, reduceCtorEq] at h
    obtain ⟨rfl, rfl⟩ := h
    obtain ⟨h₁, h₂, h₃⟩ := hs.asks.addOrder ha hs.bids (fun l hl hl' => hs.disjoint l hl' hl) ho hS
    exact ⟨h₂, h₁, fun l hl hl' => h₃ l hl' hl⟩

/-- `RemoveOrder` tries the bids, then the asks; each try only shortens queues and the map. -/
theorem removeOrder {orderID : UUID} {visitBids visitAsks : List Decimal} {found : Bool}
    (hs : ob.SidesApart m) (h : ob.removeOrder m orderID visitBids visitAsks = (m', ob', found)) :
    ob'.SidesApart m' := by
  obtain ⟨hm₁, -, hh₁, hl₁⟩ := ob.bids.removeOrder_fillsOnly m orderID visitBids
  unfold OrderBook.removeOrder at h
  rcases hb : ob.bids.removeOrder m orderID visitBids with ⟨m₁, bids, f⟩
  rw [hb] at hm₁ hh₁ hl₁ h
  dsimp only at h
  split_ifs at h
  · simp only [Prod.mk.injEq] at h
    obtain ⟨rfl, rfl, -⟩ := h
    exact hs.of_fillsOnly hm₁ (BookSide.allLevels_subset hh₁ hl₁) (List.Subset.refl _)
  · obtain ⟨hm₂, -, hh₂, hl₂⟩ := ob.asks.removeOrder_fillsOnly m₁ orderID visitAsks
    rcases ha : ob.asks.removeOrder m₁ orderID visitAsks with ⟨m₂, asks, f'⟩
    rw [ha] at hm₂ hh₂ hl₂ h
    simp only [Prod.mk.injEq] at h
    obtain ⟨rfl, rfl, -⟩ := h
    exact hs.of_fillsOnly (hm₁.trans hm₂) (List.Subset.refl _) (BookSide.allLevels_subset hh₂ hl₂)

/-- `MatchOrder` walks one side, keeping its heap and shortening its map and queues, and
    writes only fills and statuses. -/
theorem matchOrder {visit : ℕ → List Decimal} {fuel : ℕ} {taker : Ptr} {trades : List Trade}
    (hs : ob.SidesApart m) (h : ob.matchOrder visit fuel m taker = some (.ok (m', ob', trades))) :
    ob'.SidesApart m' := by
  obtain ⟨r, makers, hr, rfl, rfl⟩ := OrderBook.matchOrder_run h
  have hm := hr.frame.trans (setTakerStatus_fillsOnly r.1 taker)
  have hl := BookSide.allLevels_subset hr.heap hr.levels
  split_ifs at hl ⊢
  · exact hs.of_fillsOnly hm (List.Subset.refl _) hl
  · exact hs.of_fillsOnly hm hl (List.Subset.refl _)

end OrderBook.SidesApart

/-- Every reachable book keeps its sides apart. -/
theorem Reachable.sidesApart {m : Mem} {ob : OrderBook} (h : Reachable m ob) : ob.SidesApart m := by
  induction h with
  | new m symbol => exact .newOrderBook m symbol
  | allocOrder o _ ih => exact ih.allocOrder o
  | addOrder _ ho h ih => exact ih.addOrder ho h
  | removeOrder _ h ih => exact ih.removeOrder h
  | matchOrder _ h ih => exact ih.matchOrder h

/-! ## What a match does on a reachable book -/

/-- On a book whose sides are apart, no level `MatchOrder` walks for a taker queues it. -/
theorem OrderBook.SidesApart.taker_not_mem {m : Mem} {ob : OrderBook} (hs : ob.SidesApart m)
    (taker : Ptr) : ∀ l ∈ (if (m.order taker).side = orderSideBuy then ob.asks else ob.bids).heap,
      taker ∉ (m.level l).orders := by
  intro l hl ht
  split_ifs at hl with hb
  · exact ((hs.asks l (List.mem_append_left _ hl)).2 taker ht).2 hb
  · exact hb ((hs.bids l (List.mem_append_left _ hl)).2 taker ht).2

/-- A run that traded and returned has left the taker nothing: it traded all it had. -/
theorem LoopRun.tradedQty_eq {stops : Decimal → Decimal → Bool} {taker : Ptr} {m : Mem}
    {side : BookSide} {remaining : Decimal} {trades : List Trade} {r : MatchState}
    {new : List Trade} {makers : List Ptr}
    (hr : LoopRun stops taker m side remaining trades r new makers) (hne : new ≠ []) :
    tradedQty new = remaining.toRat := by
  have hle : r.2.2.1.toRat ≤ 0 := by
    rcases hr.exit with h | ⟨h, -⟩
    · simpa only [← Bool.not_eq_true, Decimal.greaterThan_iff, Decimal.toRat_zero, not_lt] using h
    · exact absurd h hne
  linarith [hr.nonneg hne, hr.remaining]

/-- On a reachable book, what a `MatchOrder` that returns did to the orders: each trade takes a
    positive quantity from one maker for the taker, the taker's `FilledQty` grows by the
    quantity traded and stays within its `Qty`, the makers' grow by the same total, and a
    taker that traded has the status its fill gives it. -/
theorem matchOrder_fills {visit : ℕ → List Decimal} {fuel : ℕ} {m m' : Mem} {ob ob' : OrderBook}
    {taker : Ptr} {trades : List Trade} (hr : Reachable m ob)
    (hq : (m.order taker).filledQty.toRat ≤ (m.order taker).qty.toRat)
    (h : ob.matchOrder visit fuel m taker = some (.ok (m', ob', trades))) :
    ∃ makers : List Ptr, makers.length = trades.length ∧
      (∀ tp ∈ trades.zip makers, 0 < tp.1.qty.toRat ∧ tp.1.takerId = (m.order taker).userId ∧
        tp.1.makerId = (m.order tp.2).userId) ∧
      Fills taker m m' trades makers ∧
      (m'.order taker).filledQty.toRat ≤ (m'.order taker).qty.toRat ∧
      (makers.toFinset.sum fun p => (m'.order p).filledQty.toRat - (m.order p).filledQty.toRat) =
        tradedQty trades ∧
      (trades ≠ [] → (m'.order taker).status =
        if (m'.order taker).filledQty.equal (m'.order taker).qty then orderStatusFilled
        else orderStatusPartiallyFilled) := by
  obtain ⟨r, makers, hrun, rfl, -⟩ := OrderBook.matchOrder_run h
  have hf := (hrun.fills (hr.sidesApart.taker_not_mem taker)).setTakerStatus
  have hst := (setTakerStatus_fillsOnly r.1 taker).order taker
  have hqty : ((setTakerStatus r.1 taker).order taker).qty = (m.order taker).qty :=
    hst.qty_eq.trans (hrun.frame.order taker).qty_eq
  -- a taker that traded traded all it had
  have hfull (hne : trades ≠ []) : ((setTakerStatus r.1 taker).order taker).filledQty.toRat =
      ((setTakerStatus r.1 taker).order taker).qty.toRat := by
    rw [hf.taker_filled, hrun.tradedQty_eq hne, hqty, Decimal.toRat_sub]
    ring
  refine ⟨makers, hrun.length, fun tp htp => ?_, hf, ?_, hf.total_growth hrun.length, fun hne => ?_⟩
  · obtain ⟨hpos, ht, hmk, -⟩ := hrun.made tp htp
    exact ⟨hpos, ht, hmk⟩
  · by_cases hne : trades = []
    · rw [hf.taker_filled, hne, tradedQty_nil, add_zero, hqty]
      exact hq
    · exact (hfull hne).le
  · have he := Decimal.equal_iff.2 (hfull hne)
    rw [if_pos he]
    apply setTakerStatus_filled
    rwa [← setTakerStatus_filledQty, ← hst.qty_eq]

set_option smartUnfolding false in
/-- A new book with one ask `3 @ 100` added, and a LIMIT BUY of 2 @ 120: the buy takes 2 of
    the ask and ends FILLED. -/
theorem matchOrder_fills_one_ask :
    let ask : Order := ⟨1, 1, symbolBTCUSD, orderSideSell, orderTypeLimit, some 100, 3, 0,
      orderStatusNew, 1⟩
    let buy : Order := ⟨2, 2, symbolBTCUSD, orderSideBuy, orderTypeLimit, some 120, 2, 0,
      orderStatusNew, 2⟩
    ∃ m ob m' ob' trades,
      (newOrderBook symbolBTCUSD).addOrder (Mem.ofOrders [ask, buy]) 0 = .ok (m, ob) ∧
      Reachable m ob ∧ (m.order 1).filledQty.toRat ≤ (m.order 1).qty.toRat ∧
      ob.matchOrder (fun _ => []) 2 m 1 = some (.ok (m', ob', trades)) ∧
      ∃ makers : List Ptr, makers.length = trades.length ∧
        (∀ tp ∈ trades.zip makers, 0 < tp.1.qty.toRat ∧ tp.1.takerId = (m.order 1).userId ∧
          tp.1.makerId = (m.order tp.2).userId) ∧
        Fills 1 m m' trades makers ∧
        (m'.order 1).filledQty.toRat ≤ (m'.order 1).qty.toRat ∧
        (makers.toFinset.sum fun p => (m'.order p).filledQty.toRat - (m.order p).filledQty.toRat) =
          tradedQty trades ∧
        (trades ≠ [] → (m'.order 1).status =
          if (m'.order 1).filledQty.equal (m'.order 1).qty then orderStatusFilled
          else orderStatusPartiallyFilled) := by
  intro ask buy
  have hr := @Reachable.addOrder _ _ _ _ 0 (.new (Mem.ofOrders [ask, buy]) symbolBTCUSD)
    (by decide) rfl
  unfold ask buy at hr ⊢
  have hq : (0 : Decimal).toRat ≤ (2 : Decimal).toRat := by
    rw [Decimal.toRat_ofNat, Decimal.toRat_ofNat]
    norm_num
  exact ⟨_, _, _, _, _, rfl, hr, hq, rfl, @matchOrder_fills (fun _ => []) 2 _ _ _ _ 1 _ hr hq rfl⟩

end MicroCoin
