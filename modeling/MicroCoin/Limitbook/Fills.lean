import MicroCoin.Limitbook.Loop
import Mathlib.Algebra.BigOperators.Group.Finset
import Mathlib.Tactic.Linarith

/-!
# What `MatchOrder`'s trades are

The trades of `MatchOrder` (`internal/limitbook/orderbook.go`, lines 181–321) and what they do
to the orders, as invariants of its two loops. `fillMaker` makes one trade; the range loop
`sweep` makes the trades of one level; the outer loop `matchLoop` makes the trades of the
levels it meets at the top of the heap.

Two kinds of facts, proved in one induction:

* the trades themselves, for every book: each has a positive quantity, the taker's user,
  the user of a maker queued in a level of the walked side's heap, and that level's price;
  the taker's remainder falls by exactly the quantity traded and never below zero;
* what the trades do to the orders (`Fills`), when the taker does not sit in a level it
  walks: the taker's `FilledQty` grows by the quantity traded, each maker's by what its trades
  took, no fill takes a maker past its `Qty`, each maker's status says whether it is full,
  and every other order is untouched.

The heap is never popped, so the top level of the walked side is the same at every
iteration. An iteration that neither trades nor ends the loop is the one of
`matchLoop_none_of_emptied`; a run that returns after a trade has therefore used up the
taker's remainder.

Results:
* `matchLoop_run`: the run lemma of the outer loop.
* `matchOrder_trade_prices`: every trade of a `MatchOrder` that returned is at the price of a
  level of the opposite side's heap that held its maker, and within a LIMIT taker's price.
-/

namespace MicroCoin

/-! ## Quantities traded -/

/-- The quantity of a list of trades. -/
def tradedQty (trades : List Trade) : ℚ := (trades.map fun t => t.qty.toRat).sum

@[simp] theorem tradedQty_nil : tradedQty [] = 0 := rfl

@[simp] theorem tradedQty_cons (t : Trade) (trades : List Trade) :
    tradedQty (t :: trades) = t.qty.toRat + tradedQty trades := by
  simp [tradedQty]

@[simp] theorem tradedQty_append (a b : List Trade) :
    tradedQty (a ++ b) = tradedQty a + tradedQty b := by
  simp [tradedQty, List.sum_append]

/-- The quantity that the trades, the `i`-th against the maker `makers[i]`, took from the maker
    at `p`. -/
def filledBy (trades : List Trade) (makers : List Ptr) (p : Ptr) : ℚ :=
  tradedQty (((trades.zip makers).filter fun tp => tp.2 = p).map Prod.fst)

@[simp] theorem filledBy_nil (p : Ptr) : filledBy [] [] p = 0 := rfl

theorem filledBy_append {t₁ t₂ : List Trade} {k₁ k₂ : List Ptr} (hk : k₁.length = t₁.length)
    (p : Ptr) : filledBy (t₁ ++ t₂) (k₁ ++ k₂) p = filledBy t₁ k₁ p + filledBy t₂ k₂ p := by
  simp [filledBy, List.zip_append hk.symm]

theorem filledBy_singleton (t : Trade) (maker p : Ptr) :
    filledBy [t] [maker] p = if maker = p then t.qty.toRat else 0 := by
  by_cases h : maker = p <;> simp [filledBy, h]

theorem filledBy_cons (t : Trade) (trades : List Trade) (maker : Ptr) (makers : List Ptr)
    (p : Ptr) : filledBy (t :: trades) (maker :: makers) p =
      (if maker = p then t.qty.toRat else 0) + filledBy trades makers p := by
  rw [← List.singleton_append, ← List.singleton_append (l := makers), filledBy_append rfl,
    filledBy_singleton]

/-- Summed over a set of pointers holding every maker, what the trades took from each maker is
    the quantity traded. -/
theorem sum_filledBy (S : Finset Ptr) :
    ∀ (trades : List Trade) (makers : List Ptr), makers.length = trades.length →
      (∀ p ∈ makers, p ∈ S) → S.sum (filledBy trades makers) = tradedQty trades
  | [], [], _, _ => by simp
  | t :: trades, maker :: makers, hl, hS => by
    simp only [filledBy_cons, Finset.sum_add_distrib, Finset.sum_ite_eq, hS maker (.head _),
      if_true, tradedQty_cons]
    rw [sum_filledBy S trades makers (by simpa using hl) fun p hp => hS p (.tail _ hp)]
  | [], _ :: _, hl, _ => by simp at hl
  | _ :: _, [], hl, _ => by simp at hl

/-! ## What the trades do to the orders -/

/-- What the trades `trades`, the `i`-th against the maker `makers[i]`, did to the orders from
    the memory `m` to `m'`: the taker's `FilledQty` grew by the quantity traded and each maker's
    by what its trades took; no maker is the taker, none is past its `Qty`, and each one's
    status is FILLED when it is full and PARTIALLY_FILLED otherwise; every other order is as it
    was. -/
structure Fills (taker : Ptr) (m m' : Mem) (trades : List Trade) (makers : List Ptr) : Prop where
  maker_ne : ∀ p ∈ makers, p ≠ taker
  taker_filled :
    (m'.order taker).filledQty.toRat = (m.order taker).filledQty.toRat + tradedQty trades
  maker_filled : ∀ p, p ≠ taker →
    (m'.order p).filledQty.toRat = (m.order p).filledQty.toRat + filledBy trades makers p
  maker_bound : ∀ p ∈ makers, (m'.order p).filledQty.toRat ≤ (m'.order p).qty.toRat
  maker_status : ∀ p ∈ makers, (m'.order p).status =
    if (m'.order p).filledQty.equal (m'.order p).qty then orderStatusFilled
    else orderStatusPartiallyFilled
  untouched : ∀ p, p ≠ taker → p ∉ makers → m'.order p = m.order p

namespace Fills

variable {taker : Ptr} {m m₁ m₂ : Mem}

/-- A step that writes no order makes no trade. -/
theorem nil (h : m₁.order = m.order) : Fills taker m m₁ [] [] where
  maker_ne _ h := nomatch h
  taker_filled := by simp [h]
  maker_filled _ _ := by simp [h]
  maker_bound _ h := nomatch h
  maker_status _ h := nomatch h
  untouched _ _ _ := by rw [h]

/-- `Fills` reads the orders of the memories only. -/
theorem congr {m₁' m₂' : Mem} {t : List Trade} {k : List Ptr} (h : Fills taker m₁ m₂ t k)
    (h₁ : m₁'.order = m₁.order) (h₂ : m₂'.order = m₂.order) : Fills taker m₁' m₂' t k := by
  obtain ⟨a, b, c, d, e, f⟩ := h
  exact ⟨a, by rwa [h₁, h₂], by rwa [h₁, h₂], by rwa [h₂], by rwa [h₂], by rwa [h₁, h₂]⟩

theorem trans {t₁ t₂ : List Trade} {k₁ k₂ : List Ptr} (h₁ : Fills taker m m₁ t₁ k₁)
    (h₂ : Fills taker m₁ m₂ t₂ k₂) (hk : k₁.length = t₁.length) :
    Fills taker m m₂ (t₁ ++ t₂) (k₁ ++ k₂) where
  maker_ne p hp := (List.mem_append.1 hp).elim (h₁.maker_ne p) (h₂.maker_ne p)
  taker_filled := by rw [h₂.taker_filled, h₁.taker_filled, tradedQty_append, add_assoc]
  maker_filled p hp := by
    rw [h₂.maker_filled p hp, h₁.maker_filled p hp, filledBy_append hk, add_assoc]
  maker_bound p hp := by
    by_cases h : p ∈ k₂
    · exact h₂.maker_bound p h
    · rw [h₂.untouched p (h₁.maker_ne p ((List.mem_append.1 hp).resolve_right h)) h]
      exact h₁.maker_bound p ((List.mem_append.1 hp).resolve_right h)
  maker_status p hp := by
    by_cases h : p ∈ k₂
    · exact h₂.maker_status p h
    · rw [h₂.untouched p (h₁.maker_ne p ((List.mem_append.1 hp).resolve_right h)) h]
      exact h₁.maker_status p ((List.mem_append.1 hp).resolve_right h)
  untouched p hp hk' := by
    rw [List.mem_append, not_or] at hk'
    rw [h₂.untouched p hp hk'.2, h₁.untouched p hp hk'.1]

/-- The makers' fills grew, in all, by the quantity traded. -/
theorem total_growth {trades : List Trade} {makers : List Ptr} (h : Fills taker m m₁ trades makers)
    (hk : makers.length = trades.length) :
    (makers.toFinset.sum fun p => (m₁.order p).filledQty.toRat - (m.order p).filledQty.toRat) =
      tradedQty trades := by
  rw [Finset.sum_congr rfl fun p hp => by
    rw [h.maker_filled p (h.maker_ne p (List.mem_toFinset.1 hp)), add_sub_cancel_left]]
  exact sum_filledBy _ _ _ hk fun p hp => List.mem_toFinset.2 hp

end Fills

/-! ## One fill -/

/-- The writes of one fill of `q` between the taker and another maker, after `uuid.New()`, the
    maker's status then set to FILLED or PARTIALLY_FILLED as it is full or not: the trade `t` of
    `q` against that maker. -/
theorem Fills.fill {m : Mem} {taker maker : Ptr} (hne : maker ≠ taker) {q : Decimal} {t : Trade}
    (ht : t.qty = q) (hq : q.toRat ≤ ((m.order maker).qty.sub (m.order maker).filledQty).toRat)
    {status : OrderStatus}
    (hstatus : status = if ((m.order maker).filledQty.add q).equal (m.order maker).qty
      then orderStatusFilled else orderStatusPartiallyFilled) :
    let m₀ := m.newUuid.2
    let m₁ := m₀.setOrder taker { m₀.order taker with filledQty := (m₀.order taker).filledQty.add q }
    let m₂ := m₁.setOrder maker { m₁.order maker with filledQty := (m₁.order maker).filledQty.add q }
    Fills taker m (m₂.setOrder maker { m₂.order maker with status := status }) [t] [maker] where
  maker_ne p hp := by rw [List.mem_singleton.1 hp]; exact hne
  taker_filled := by simp [Ne.symm hne, ht]
  maker_filled p hp := by
    by_cases hpm : p = maker
    · subst hpm
      simp [hne, ht, filledBy_singleton]
    · simp [hpm, hp, filledBy_singleton, Ne.symm hpm]
  maker_bound p hp := by
    rw [List.mem_singleton.1 hp]
    simp only [Decimal.toRat_sub] at hq
    simp [hne]
    linarith
  maker_status p hp := by
    rw [List.mem_singleton.1 hp]
    simp [hne, hstatus]
  untouched p hp hpm := by
    rw [List.mem_singleton] at hpm
    simp [hp, hpm]

theorem length_shiftDown {arr : List Ptr} {len i : ℕ} (hi : i < len) (hlen : len ≤ arr.length) :
    (shiftDown arr len i).length = arr.length := by
  simp only [shiftDown, List.length_append, List.length_take, List.length_drop]
  omega

/-- What a fill that did not panic returns: the trade of `min(remainingQty, askRemaining)`
    at the level's price, the remainder less that quantity, the two fills advanced and the
    maker's status set; the array only loses elements and keeps its length. -/
theorem fillMaker_ok {price : Decimal} {taker maker : Ptr} {mr : Decimal} {st st' : Sweep}
    {i : ℕ} (hlen : st.len ≤ st.arr.length) (h : fillMaker price taker maker mr st i = .ok st') :
    let q := st.remaining.min mr
    let m₀ := st.mem.newUuid.2
    let m₁ := m₀.setOrder taker { m₀.order taker with filledQty := (m₀.order taker).filledQty.add q }
    let m₂ := m₁.setOrder maker { m₁.order maker with filledQty := (m₁.order maker).filledQty.add q }
    (∃ t, st'.trades = st.trades ++ [t] ∧ t.qty = q ∧ t.price = price ∧
      t.takerId = (st.mem.order taker).userId ∧ t.makerId = (st.mem.order maker).userId) ∧
    st'.remaining = st.remaining.sub q ∧
    (∃ status, st'.mem = m₂.setOrder maker { m₂.order maker with status } ∧
      status = if (m₂.order maker).filledQty.equal (m₂.order maker).qty then orderStatusFilled
        else orderStatusPartiallyFilled) ∧
    st'.arr ⊆ st.arr ∧ st'.arr.length = st.arr.length ∧ st'.len ≤ st'.arr.length := by
  unfold fillMaker at h
  dsimp only at h
  split at h
  · next hfull =>
    split at h
    · cases h
    · next hi =>
      cases h
      exact ⟨⟨_, rfl, rfl, rfl, rfl, rfl⟩, rfl, ⟨_, rfl, (if_pos hfull).symm⟩, shiftDown_subset _ _ _,
        length_shiftDown (by omega) hlen, show st.len - 1 ≤ (shiftDown st.arr st.len i).length by
          rw [length_shiftDown (by omega) hlen]; omega⟩
  · next hfull =>
    cases h
    exact ⟨⟨_, rfl, rfl, rfl, rfl, rfl⟩, rfl, ⟨_, rfl, (if_neg hfull).symm⟩, List.Subset.refl _, rfl,
      hlen⟩

/-- The range loop between the states `st₀` and `st`, having made the trades `new`, the
    `i`-th against the maker `makers[i]`, at the level's price `price`: each trade has a
    positive quantity, the taker's user and its maker's, and its maker was in the array;
    `remainingQty` fell by the quantity traded, and not below zero once a trade was made; the
    array lost elements only, and the fills are `Fills` when the taker is not in the array. -/
structure SweepRun (price : Decimal) (taker : Ptr) (st₀ st : Sweep) (new : List Trade)
    (makers : List Ptr) : Prop where
  frame : st₀.mem.FillsOnly st.mem
  trades : st.trades = st₀.trades ++ new
  length : makers.length = new.length
  made : ∀ tp ∈ new.zip makers, 0 < tp.1.qty.toRat ∧ tp.1.takerId = (st₀.mem.order taker).userId ∧
    tp.1.makerId = (st₀.mem.order tp.2).userId ∧ tp.1.price = price ∧ tp.2 ∈ st₀.arr
  remaining : st.remaining.toRat = st₀.remaining.toRat - tradedQty new
  nonneg : new ≠ [] → 0 ≤ st.remaining.toRat
  arr : st.arr ⊆ st₀.arr
  arr_length : st.arr.length = st₀.arr.length
  len : st.len ≤ st.arr.length
  fills : taker ∉ st₀.arr → Fills taker st₀.mem st.mem new makers

namespace SweepRun

variable {price : Decimal} {taker : Ptr} {st₀ st₁ st₂ : Sweep}

theorem refl (st : Sweep) (h : st.len ≤ st.arr.length) : SweepRun price taker st st [] [] where
  frame := .refl _
  trades := by simp
  length := rfl
  made _ h := nomatch h
  remaining := by simp
  nonneg h := absurd rfl h
  arr := List.Subset.refl _
  arr_length := rfl
  len := h
  fills _ := .nil rfl

theorem trans {t₁ t₂ : List Trade} {k₁ k₂ : List Ptr} (h₁ : SweepRun price taker st₀ st₁ t₁ k₁)
    (h₂ : SweepRun price taker st₁ st₂ t₂ k₂) :
    SweepRun price taker st₀ st₂ (t₁ ++ t₂) (k₁ ++ k₂) where
  frame := h₁.frame.trans h₂.frame
  trades := by rw [h₂.trades, h₁.trades, List.append_assoc]
  length := by simp [h₁.length, h₂.length]
  made tp htp := by
    rw [List.zip_append h₁.length.symm, List.mem_append] at htp
    rcases htp with htp | htp
    · exact h₁.made tp htp
    · obtain ⟨hq, ht, hm, hp, ha⟩ := h₂.made tp htp
      exact ⟨hq, by rw [ht, (h₁.frame.order taker).userId_eq],
        by rw [hm, (h₁.frame.order tp.2).userId_eq], hp, h₁.arr ha⟩
  remaining := by rw [h₂.remaining, h₁.remaining, tradedQty_append, sub_add_eq_sub_sub]
  nonneg h := by
    by_cases h₂₀ : t₂ = []
    · subst h₂₀
      rw [h₂.remaining, tradedQty_nil, sub_zero]
      exact h₁.nonneg (by simpa using h)
    · exact h₂.nonneg h₂₀
  arr := h₂.arr.trans h₁.arr
  arr_length := h₂.arr_length.trans h₁.arr_length
  len := h₂.len
  fills h := (h₁.fills h).trans (h₂.fills fun h' => h (h₁.arr h')) h₁.length

end SweepRun

/-- One fill of a maker in the array with something left, while the taker has something left:
    one step of the range loop's run. -/
theorem fillMaker_run {price : Decimal} {taker maker : Ptr} {st st' : Sweep} {i : ℕ}
    (hrem : 0 < st.remaining.toRat) (hmaker : maker ∈ st.arr) (hlen : st.len ≤ st.arr.length)
    (hmr : 0 < ((st.mem.order maker).qty.sub (st.mem.order maker).filledQty).toRat)
    (h : fillMaker price taker maker ((st.mem.order maker).qty.sub (st.mem.order maker).filledQty)
      st i = .ok st') :
    ∃ t, SweepRun price taker st st' [t] [maker] := by
  obtain ⟨⟨t, htr, htq, htp, htt, htm⟩, hr, ⟨status, hm, hs⟩, harr, hal, hl⟩ := fillMaker_ok hlen h
  have hq := Decimal.toRat_min st.remaining
    ((st.mem.order maker).qty.sub (st.mem.order maker).filledQty)
  refine ⟨t, (fillMaker_fillsOnly h).1, htr, rfl, ?_, ?_, fun _ => ?_, harr, hal, hl, fun ht => ?_⟩
  · intro tp htp'
    simp only [List.zip_cons_cons, List.zip_nil_left, List.mem_singleton] at htp'
    subst htp'
    exact ⟨htq ▸ hq ▸ lt_min hrem hmr, htt, htm, htp, hmaker⟩
  · rw [hr, Decimal.toRat_sub, tradedQty_cons, tradedQty_nil, add_zero, htq]
  · rw [hr, Decimal.toRat_sub, hq, sub_nonneg]
    exact min_le_left _ _
  · have hne : maker ≠ taker := fun h => ht (h ▸ hmaker)
    rw [hm]
    refine Fills.fill hne htq (hq ▸ min_le_right _ _) ?_
    simpa [hne] using hs

/-! ## One level -/

/-- The range loop over indices of the array: its run from `st`. -/
theorem sweep_run (price : Decimal) (taker : Ptr) :
    ∀ (is : List ℕ) {st st' : Sweep}, sweep price taker is st = .ok st' →
      (∀ i ∈ is, i < st.arr.length) → st.len ≤ st.arr.length →
      ∃ new makers, SweepRun price taker st st' new makers
  | [], st, _, h, _, hlen => by cases h; exact ⟨[], [], .refl st hlen⟩
  | i :: is, st, st', h, his, hlen => by
    simp only [sweep] at h
    split at h
    · cases h; exact ⟨[], [], .refl st hlen⟩
    next hrem =>
    split at h
    · exact sweep_run price taker is h (fun j hj => his j (.tail _ hj)) hlen
    next hmr =>
    split at h
    · cases h
    next st₁ h₁ =>
    have hi := his i (.head _)
    obtain ⟨t, r₁⟩ := fillMaker_run (by simpa using hrem)
      (List.getD_eq_getElem _ _ hi ▸ List.getElem_mem hi) hlen (by simpa using hmr) h₁
    obtain ⟨new, makers, r₂⟩ := sweep_run price taker is h
      (fun j hj => r₁.arr_length ▸ his j (.tail _ hj)) r₁.len
    exact ⟨_, _, r₁.trans r₂⟩

/-- The range loop over the level `l` and the store of the slice it leaves: a run from the
    state the loop starts in, the level's queue, to the state it ends in. -/
theorem sweepLevel_run {taker l : Ptr} {m : Mem} {remaining : Decimal} {trades : List Trade}
    {st : Sweep} (h : sweepLevel taker l m remaining trades = .ok st) :
    ∃ new makers, SweepRun (m.level l).price taker
      ⟨(m.level l).orders, (m.level l).orders.length, remaining, trades, m⟩ st new makers ∧
      (st.mem.level l).orders = st.arr.take st.len := by
  unfold sweepLevel at h
  dsimp only at h
  rcases hs : sweep (m.level l).price taker (List.range (m.level l).orders.length)
    ⟨(m.level l).orders, (m.level l).orders.length, remaining, trades, m⟩ with _ | st₁ <;>
    rw [hs] at h <;> cases h
  obtain ⟨new, makers, r⟩ := sweep_run _ _ _ hs (fun i hi => List.mem_range.1 hi) le_rfl
  refine ⟨new, makers, { r with
    frame := r.frame.setLevel ((List.take_subset _ _).trans r.arr)
    fills := fun ht => (r.fills ht).congr rfl rfl }, by simp⟩

/-! ## The outer loop -/

/-- The LIMIT test of `MatchOrder` stops the walk at the level `l`:
    `order.Type == models.OrderTypeLimit && order.Price != nil && stops(level.Price, *order.Price)`. -/
def Stops (stops : Decimal → Decimal → Bool) (m : Mem) (taker l : Ptr) : Prop :=
  (m.order taker).type = orderTypeLimit ∧
    ((m.order taker).price.map (stops (m.level l).price)).getD false

/-- The LIMIT test reads what a match does not write. -/
theorem Stops.congr {stops : Decimal → Decimal → Bool} {m m' : Mem} (h : m.FillsOnly m')
    (taker l : Ptr) : Stops stops m' taker l ↔ Stops stops m taker l := by
  rw [Stops, Stops, (h.order taker).type_eq, (h.order taker).price_eq, h.level_price]

/-- A run of the outer loop from `(m, side, remaining, trades)` that returned `r`, having made
    the trades `new`, the `i`-th against the maker `makers[i]`: each trade has a positive
    quantity, the taker's user and its maker's, and is at the price of a level of the heap that
    held its maker and where the LIMIT test did not stop; `remainingQty` fell by the quantity
    traded, and not below zero once a trade was made; the loop ended because nothing was left,
    or, with no trade, because the heap was empty or its top past the limit. The heap is as it
    was and the map lost entries only; the fills are `Fills` when the taker is in no level of
    the heap. -/
structure LoopRun (stops : Decimal → Decimal → Bool) (taker : Ptr) (m : Mem) (side : BookSide)
    (remaining : Decimal) (trades : List Trade) (r : MatchState) (new : List Trade)
    (makers : List Ptr) : Prop where
  frame : m.FillsOnly r.1
  heap : r.2.1.heap = side.heap
  levels : r.2.1.levels ⊆ side.levels
  trades : r.2.2.2 = trades ++ new
  length : makers.length = new.length
  made : ∀ tp ∈ new.zip makers, 0 < tp.1.qty.toRat ∧ tp.1.takerId = (m.order taker).userId ∧
    tp.1.makerId = (m.order tp.2).userId ∧ ∃ l ∈ side.heap, tp.1.price = (m.level l).price ∧
      tp.2 ∈ (m.level l).orders ∧ ¬Stops stops m taker l
  remaining : r.2.2.1.toRat = remaining.toRat - tradedQty new
  nonneg : new ≠ [] → 0 ≤ r.2.2.1.toRat
  exit : r.2.2.1.greaterThan Decimal.zero = false ∨
    (new = [] ∧ ∀ l, side.getBestLevel = some l → Stops stops m taker l)
  fills : (∀ l ∈ side.heap, taker ∉ (m.level l).orders) → Fills taker m r.1 new makers

namespace LoopRun

variable {stops : Decimal → Decimal → Bool} {taker : Ptr} {m : Mem} {side : BookSide}
  {remaining : Decimal} {trades : List Trade}

/-- The loop returns at once. -/
theorem stop (h : remaining.greaterThan Decimal.zero = false ∨
    ∀ l, side.getBestLevel = some l → Stops stops m taker l) :
    LoopRun stops taker m side remaining trades (m, side, remaining, trades) [] [] where
  frame := .refl _
  heap := rfl
  levels := List.Subset.refl _
  trades := by simp
  length := rfl
  made _ h := nomatch h
  remaining := by simp
  nonneg h := absurd rfl h
  exit := h.imp_right fun h => ⟨rfl, h⟩
  fills _ := .nil rfl

/-- One iteration that sweeps the best level `l` and removes nothing or an emptied level,
    followed by a run from the state it leaves, is a run. -/
theorem step {l : Ptr} {st : Sweep} {m₁ : Mem} {side₁ : BookSide} {r : MatchState}
    {new₂ : List Trade} {k₂ : List Ptr} (hbest : side.getBestLevel = some l)
    (hgo : ¬Stops stops m taker l) (hs : sweepLevel taker l m remaining trades = .ok st)
    (hm₁ : st.mem.FillsOnly m₁) (ho₁ : m₁.order = st.mem.order) (hh₁ : side₁.heap = side.heap)
    (hl₁ : side₁.levels ⊆ side.levels)
    (hr : LoopRun stops taker m₁ side₁ st.remaining st.trades r new₂ k₂) :
    ∃ new makers, LoopRun stops taker m side remaining trades r new makers := by
  obtain ⟨new₁, k₁, s, -⟩ := sweepLevel_run hs
  have hl : l ∈ side.heap := List.mem_of_mem_head? hbest
  have hm : m.FillsOnly m₁ := s.frame.trans hm₁
  refine ⟨new₁ ++ new₂, k₁ ++ k₂, hm.trans hr.frame, hr.heap.trans hh₁, hr.levels.trans hl₁,
    by rw [hr.trades, s.trades, List.append_assoc], by simp [s.length, hr.length], ?_,
    by rw [hr.remaining, s.remaining, tradedQty_append, sub_add_eq_sub_sub], ?_, ?_, ?_⟩
  · intro tp htp
    rw [List.zip_append s.length.symm, List.mem_append] at htp
    rcases htp with htp | htp
    · obtain ⟨hq, ht, hmk, hp, ha⟩ := s.made tp htp
      exact ⟨hq, ht, hmk, l, hl, hp, ha, hgo⟩
    · obtain ⟨hq, ht, hmk, l', hl', hp, ha, hgo'⟩ := hr.made tp htp
      exact ⟨hq, by rw [ht, (hm.order taker).userId_eq], by rw [hmk, (hm.order _).userId_eq],
        l', hh₁ ▸ hl', by rw [hp, hm.level_price], hm.level_orders _ ha,
        fun h => hgo' ((Stops.congr hm _ _).2 h)⟩
  · intro hne
    by_cases h₂ : new₂ = []
    · subst h₂
      rw [hr.remaining, tradedQty_nil, sub_zero]
      exact s.nonneg (by simpa using hne)
    · exact hr.nonneg h₂
  · rcases hr.exit with h | ⟨-, h⟩
    · exact .inl h
    · have hbest₁ : side₁.getBestLevel = some l := by rw [BookSide.getBestLevel, hh₁]; exact hbest
      exact absurd ((Stops.congr hm _ _).1 (h l hbest₁)) hgo
  · intro hnot
    exact (s.fills (hnot l hl)).trans ((hr.fills fun l' hl' ha =>
      hnot l' (hh₁ ▸ hl') (hm.level_orders l' ha)).congr ho₁.symm rfl) s.length

end LoopRun

section Run
variable {stops : Decimal → Decimal → Bool} {visit : ℕ → List Decimal} {taker : Ptr}

/-- Every run of the outer loop that returns is a `LoopRun`. -/
theorem matchLoop_run :
    ∀ (fuel k : ℕ) {m : Mem} {side : BookSide} {remaining : Decimal} {trades : List Trade}
      {r : MatchState}, matchLoop stops visit taker fuel k (m, side, remaining, trades) = some (.ok r) →
      ∃ new makers, LoopRun stops taker m side remaining trades r new makers
  | 0, _, _, _, _, _, _, h => by cases h
  | fuel + 1, k, m, side, remaining, trades, r, h => by
    simp only [matchLoop] at h
    split at h
    · next hrem => cases h; exact ⟨[], [], .stop (.inl (by simpa using hrem))⟩
    split at h
    · next hnone => cases h; exact ⟨[], [], .stop (.inr fun l hl => by simp [hnone] at hl)⟩
    next l hl =>
    split at h
    · next hstop =>
      cases h
      exact ⟨[], [], .stop (.inr fun l' hl' => by rw [hl, Option.some.injEq] at hl'; exact hl' ▸ hstop)⟩
    next hgo =>
    split at h
    · cases h
    next st hs =>
    by_cases hlen : st.len = 0
    · simp only [hlen, if_true] at h
      obtain ⟨hfo, ho, hh, hlv⟩ := BookSide.removeOrder_fillsOnly st.mem side uuidNil (visit k)
      obtain ⟨new₂, k₂, hr⟩ := matchLoop_run fuel (k + 1) h
      exact LoopRun.step hl hgo hs hfo ho hh hlv hr
    · simp only [hlen, if_false] at h
      obtain ⟨new₂, k₂, hr⟩ := matchLoop_run fuel (k + 1) h
      exact LoopRun.step hl hgo hs (.refl _) rfl rfl (List.Subset.refl _) hr

end Run

/-! ## `MatchOrder` -/

section TakerStatus
variable {m : Mem} {taker : Ptr}

theorem setTakerStatus_order_ne {p : Ptr} (hp : p ≠ taker) :
    (setTakerStatus m taker).order p = m.order p := by
  unfold setTakerStatus
  dsimp only
  split_ifs <;> simp [hp]

theorem setTakerStatus_filledQty (p : Ptr) :
    ((setTakerStatus m taker).order p).filledQty = (m.order p).filledQty := by
  unfold setTakerStatus
  dsimp only
  split_ifs <;> simp only [Mem.setOrder_order] <;> split <;> simp_all

theorem setTakerStatus_fillsOnly (m : Mem) (taker : Ptr) : m.FillsOnly (setTakerStatus m taker) := by
  unfold setTakerStatus
  dsimp only
  split_ifs
  · exact (Mem.FillsOnly.refl m).setOrder rfl
  · exact (Mem.FillsOnly.refl m).setOrder rfl
  · exact .refl m

/-- A taker whose fill reached its quantity is written FILLED. -/
theorem setTakerStatus_filled (h : (m.order taker).filledQty.equal (m.order taker).qty = true) :
    ((setTakerStatus m taker).order taker).status = orderStatusFilled := by
  simp [setTakerStatus, h]

/-- The status update of the taker keeps what the fills did to the orders. -/
theorem Fills.setTakerStatus {m₀ : Mem} {trades : List Trade} {makers : List Ptr}
    (h : Fills taker m₀ m trades makers) :
    Fills taker m₀ (MicroCoin.setTakerStatus m taker) trades makers where
  maker_ne := h.maker_ne
  taker_filled := by rw [setTakerStatus_filledQty]; exact h.taker_filled
  maker_filled p hp := by rw [setTakerStatus_order_ne hp]; exact h.maker_filled p hp
  maker_bound p hp := by rw [setTakerStatus_order_ne (h.maker_ne p hp)]; exact h.maker_bound p hp
  maker_status p hp := by rw [setTakerStatus_order_ne (h.maker_ne p hp)]; exact h.maker_status p hp
  untouched p hp hk := by rw [setTakerStatus_order_ne hp]; exact h.untouched p hp hk

end TakerStatus

/-- A `MatchOrder` that returned is a run of its branch from the taker's remainder and no trade,
    on the opposite side (the asks for a BUY, the bids otherwise), followed by the update of the
    taker's status. -/
theorem OrderBook.matchOrder_run {visit : ℕ → List Decimal} {fuel : ℕ} {m m' : Mem}
    {ob ob' : OrderBook} {taker : Ptr} {trades : List Trade}
    (h : ob.matchOrder visit fuel m taker = some (.ok (m', ob', trades))) :
    let buy := (m.order taker).side = orderSideBuy
    ∃ r makers, LoopRun (if buy then Decimal.greaterThan else Decimal.lessThan) taker m
        (if buy then ob.asks else ob.bids) ((m.order taker).qty.sub (m.order taker).filledQty) []
        r trades makers ∧ m' = setTakerStatus r.1 taker ∧
      ob' = if buy then { ob with asks := r.2.1 } else { ob with bids := r.2.1 } := by
  unfold OrderBook.matchOrder at h
  dsimp only at h ⊢
  split at h <;> next hbuy =>
  · rcases hr : matchLoop _ visit taker fuel 0 _ with _ | _ | r <;> rw [hr] at h <;> cases h
    obtain ⟨new, makers, run⟩ := matchLoop_run fuel 0 hr
    have htr : new = r.2.2.2 := by rw [run.trades, List.nil_append]
    subst htr
    exact ⟨r, makers, by simpa only [hbuy, if_true, if_false] using run, rfl,
      by simp only [hbuy, if_true, if_false]⟩

/-- A level where the LIMIT test of the taker's branch did not stop is within a LIMIT taker's
    price: at most it for a BUY, at least it for a SELL. -/
theorem price_within {m : Mem} {taker l : Ptr}
    (hgo : ¬Stops (if (m.order taker).side = orderSideBuy then Decimal.greaterThan
      else Decimal.lessThan) m taker l)
    (hlim : (m.order taker).type = orderTypeLimit) {p : Decimal} (hp : p ∈ (m.order taker).price) :
    if (m.order taker).side = orderSideBuy then (m.level l).price.toRat ≤ p.toRat
    else p.toRat ≤ (m.level l).price.toRat := by
  rw [Option.mem_def] at hp
  simp only [Stops, hlim, hp, Option.map_some', Option.getD_some, true_and] at hgo
  split_ifs at hgo ⊢ <;> simpa using hgo

/-- Every trade of a `MatchOrder` that returned, on any book, is at the price of a level in the
    heap of the opposite side that held its maker, and a LIMIT taker's trades are within its
    price: at most it for a BUY, at least it for a SELL. -/
theorem matchOrder_trade_prices {visit : ℕ → List Decimal} {fuel : ℕ} {m m' : Mem}
    {ob ob' : OrderBook} {taker : Ptr} {trades : List Trade}
    (h : ob.matchOrder visit fuel m taker = some (.ok (m', ob', trades))) :
    let t := m.order taker
    ∃ makers : List Ptr, makers.length = trades.length ∧ ∀ tp ∈ trades.zip makers,
      tp.1.makerId = (m.order tp.2).userId ∧
      ∃ l ∈ (if t.side = orderSideBuy then ob.asks else ob.bids).heap,
        tp.1.price = (m.level l).price ∧ tp.2 ∈ (m.level l).orders ∧
        (t.type = orderTypeLimit → ∀ p ∈ t.price,
          if t.side = orderSideBuy then tp.1.price.toRat ≤ p.toRat
          else p.toRat ≤ tp.1.price.toRat) := by
  obtain ⟨r, makers, run, -, -⟩ := OrderBook.matchOrder_run h
  refine ⟨makers, run.length, fun tp htp => ?_⟩
  obtain ⟨-, -, hmk, l, hl, hp, ha, hgo⟩ := run.made tp htp
  exact ⟨hmk, l, hl, hp, ha, fun hlim p hpe => by rw [hp]; exact price_within hgo hlim hpe⟩

set_option smartUnfolding false in
/-- A new book with one ask `3 @ 100` added, and a LIMIT BUY of 2 @ 120: one trade, at 100. -/
theorem matchOrder_trade_prices_one_ask :
    let ask : Order := ⟨1, 1, symbolBTCUSD, orderSideSell, orderTypeLimit, some 100, 3, 0,
      orderStatusNew, 1⟩
    let buy : Order := ⟨2, 2, symbolBTCUSD, orderSideBuy, orderTypeLimit, some 120, 2, 0,
      orderStatusNew, 2⟩
    ∃ m ob m' ob' trades,
      (newOrderBook symbolBTCUSD).addOrders (Mem.ofOrders [ask, buy]) [0] = .ok (m, ob) ∧
      ob.matchOrder (fun _ => []) 2 m 1 = some (.ok (m', ob', trades)) ∧
      ∃ makers : List Ptr, makers.length = trades.length ∧ ∀ tp ∈ trades.zip makers,
        tp.1.makerId = (m.order tp.2).userId ∧
        ∃ l ∈ (if (m.order 1).side = orderSideBuy then ob.asks else ob.bids).heap,
          tp.1.price = (m.level l).price ∧ tp.2 ∈ (m.level l).orders ∧
          ((m.order 1).type = orderTypeLimit → ∀ p ∈ (m.order 1).price,
            if (m.order 1).side = orderSideBuy then tp.1.price.toRat ≤ p.toRat
            else p.toRat ≤ tp.1.price.toRat) :=
  ⟨_, _, _, _, _, rfl, rfl, @matchOrder_trade_prices (fun _ => []) 2 _ _ _ _ 1 _ rfl⟩

end MicroCoin
