import MicroCoin.Orders.Service
import MicroCoin.Ledger.Concurrent

/-!
# What `CreateOrder` leaves behind

`CreateOrder` (`src/unnamed/part_007`, lines 49–162) does not run in one transaction.
`HoldFunds` commits the hold on its own, the order row is inserted on its own, each trade is
settled by `processTrade` in a transaction of its own whose error is printed and skipped, and
the row's final quantity and status are written in a last transaction. What holds is split at
the commit of the hold:

* before it (`reserveFunds`: the checks, the quote, the required amount, `HoldFunds`), an
  error leaves the tables, the book object and the books as they were;
* after it (`placeOrder`), nothing is undone: every step appends order rows or rewrites their
  quantity and status, and writes an account's balances only from a read of it, so every hold
  stays as the column stores it (`Store.AfterHold`). An error leaves the row, once inserted;
* a success has written the order's row with the quantity the reply reports as filled, stored
  as the column stores it, and the status `settledStatus` gives for that quantity; that
  quantity is the sum of the quantities of the trades, of those `MatchOrder` returned for the
  order, whose `processTrade` returned (`SettleRun`).

Main results:

* `reserveFunds_keepsOnError`: an error of `reserveFunds` leaves every invariant that ignores
  the call counter as it was.
* `placeOrder_error`, `placeOrder_records`: a failed and a successful `placeOrder`.
* `createOrder_outcome`: all three, for `CreateOrder`.

The failures after the hold are not undone: `createOrder_insert_fault_keeps_hold` is such a run,
and so is `processTrade_first_leg_stays`, a trade whose second leg fails after the first has
committed. `createOrder_nil_price_panics` runs the two requests that reach a `nil` price.
-/

namespace MicroCoin
open App

/-! ## The order repository -/

/-- `UpdateOrder` adds the update of the order's quantity and status to the transaction. -/
theorem OrderRepository.updateOrder_keeps {I : World → Prop} (hI : CallsBlind I) (tx : Tx)
    (o : Order) : Keeps I (OrderRepository.updateOrder tx o)
      (· = tx ++ [.updateOrder o.id o.filledQty o.status]) :=
  (txExec_keeps hI _ _).bind fun r hr => (orFail_keeps _ r).mono fun _ h => hr _ h

/-- What the steps after the hold do to the tables, from `s` to `s'`: order rows are appended
    or have their quantity and status rewritten, never removed; every account keeps its id, and
    its hold as the column stores it. -/
structure Store.AfterHold (s s' : Store) : Prop where
  orderIds : s.orders.map (·.id) <+: s'.orders.map (·.id)
  accountIds : s'.accounts.map (·.id) = s.accounts.map (·.id)
  holds : ∀ a' ∈ s'.accounts, ∃ a ∈ s.accounts, a.id = a'.id ∧
    (a'.balanceHold.round 10).toRat = (a.balanceHold.round 10).toRat

namespace Store.AfterHold
variable {s s' s'' : Store}

theorem refl (s : Store) : s.AfterHold s :=
  ⟨List.prefix_refl _, rfl, fun a ha => ⟨a, ha, rfl, rfl⟩⟩

theorem trans (h₁ : s.AfterHold s') (h₂ : s'.AfterHold s'') : s.AfterHold s'' where
  orderIds := h₁.orderIds.trans h₂.orderIds
  accountIds := h₂.accountIds.trans h₁.accountIds
  holds a'' ha'' := by
    obtain ⟨a', ha', hid', hh'⟩ := h₂.holds a'' ha''
    obtain ⟨a, ha, hid, hh⟩ := h₁.holds a' ha'
    exact ⟨a, ha, hid.trans hid', hh'.trans hh⟩

end Store.AfterHold

section Statements
variable {s₀ s s' : Store}

end Statements

namespace Orders

/-! ## Steps that leave the tables alone -/

theorem convertToBookOrder_storeFixed (o : Order) : StoreFixed (convertToBookOrder o) :=
  fun _ _ => rfl

/-- `MatchOrder` works on the book alone. -/
theorem matchOrder_storeFixed (symbol : Symbol) (p : Ptr) : StoreFixed (matchOrder symbol p) := by
  intro env w
  simp only [matchOrder, App.run'_bind, App.run'_get, App.run'_read]
  split <;> rfl

/-- `AddOrder` works on the book alone. -/
theorem addOrder_storeFixed (symbol : Symbol) (p : Ptr) : StoreFixed (addOrder symbol p) := by
  intro env w
  simp only [addOrder, App.run'_bind, App.run'_get]
  split <;> rfl

/-! ## What the steps keep

`processTrade`, the settlement loop and the rest of `CreateOrder` keep a property of the tables
when the statements they write do: two `TransferFunds`, the order row and its update. -/

/-- `processTrade` keeps what `TransferFunds` keeps; its own transaction is empty. -/
theorem processTrade_keeps {I : World → Prop} (hI : CallsBlind I)
    (htransfer : ∀ fromAccountId toAccountId amount currency refType refId,
      Keeps I (transferFunds fromAccountId toAccountId amount currency refType refId)
        fun _ => True)
    (trade : Trade) : Keeps I (processTrade trade) fun _ => True := by
  refine .bind (begin_keeps hI) fun r hr => .bind (orFail_keeps _ r) fun tx htx =>
    .bind (wrapErr_keeps _ (getAccountByUserIDAndCurrency_keeps hI _ _)) fun _ _ =>
    .bind (wrapErr_keeps _ (getAccountByUserIDAndCurrency_keeps hI _ _)) fun _ _ =>
    .bind (wrapErr_keeps _ (getAccountByUserIDAndCurrency_keeps hI _ _)) fun _ _ =>
    .bind (wrapErr_keeps _ (getAccountByUserIDAndCurrency_keeps hI _ _)) fun _ _ => ?_
  have hcommit : Keeps I (do orFail "failed to commit transaction" (← commit tx))
      fun _ => True :=
    .bind (commit_keeps hI tx fun w s hw hs => by rw [hr tx htx] at hs; cases hs; exact hw)
      fun r _ => (orFail_keeps _ r).mono fun _ _ => trivial
  dsimp only
  split <;>
    exact .bind (wrapErr_keeps _ (htransfer _ _ _ _ _ _)) fun _ _ =>
      .bind (wrapErr_keeps _ (htransfer _ _ _ _ _ _)) fun _ _ => hcommit

/-- The settlement loop keeps what every `processTrade` keeps, whichever trades fail. -/
theorem settleTrades_keeps {I : World → Prop} (h : ∀ t, Keeps I (processTrade t) fun _ => True)
    (trades : List Trade) : Keeps I (settleTrades trades) fun _ => True := by
  unfold settleTrades
  generalize ((⟨0, 0⟩, ⟨0, 0⟩) : Decimal × Decimal) = init
  induction trades generalizing init with
  | nil => exact Keeps.pure' trivial
  | cons t ts ih =>
    simp only [List.foldlM_cons]
    exact .bind (Q := fun _ => True) (Keeps.tryCatch' (.bind (h t) fun _ _ => Keeps.pure' trivial)
      fun _ => Keeps.pure' trivial) fun acc _ => ih acc

section Keep
variable {P : Store → Prop}
  (hupdate : ∀ id f st, Keeps (fun w => P w.store) (commit [.updateOrder id f st]) fun _ => True)
  (htrade : ∀ t, Keeps (fun w => P w.store) (processTrade t) fun _ => True)
include hupdate htrade

theorem settleOrder_keeps (order : Order) :
    Keeps (fun w => P w.store) (settleOrder order) fun _ => True := by
  have hI := CallsBlind.store P
  refine .bind ((convertToBookOrder_storeFixed _).keeps (P := P)) fun _ _ =>
    .bind ((matchOrder_storeFixed _ _).keeps (P := P)) fun trades _ =>
    .bind (settleTrades_keeps htrade trades) fun _ _ =>
    .bind (begin_keeps hI) fun r hr => .bind (orFail_keeps _ r) fun tx htx =>
    .bind (wrapErr_keeps _ (OrderRepository.updateOrder_keeps hI _ _)) fun tx' htx' =>
    .bind (Q := fun _ => True) ?_ fun r' _ => .bind (orFail_keeps _ r') fun _ _ => ?_
  · rw [htx', hr tx htx]
    exact hupdate _ _ _
  · dsimp only
    split
    · exact .bind ((addOrder_storeFixed _ _).keeps (P := P)) fun _ _ => Keeps.pure' trivial
    · exact .bind (Keeps.pure' (Q := fun _ => True) trivial) fun _ _ => Keeps.pure' trivial

theorem placeOrder_keeps
    (hinsert : ∀ o, Keeps (fun w => P w.store) (exec (.insertOrder o)) fun _ => True)
    (userId : UUID) (req : CreateOrderRequest) :
    Keeps (fun w => P w.store) (placeOrder userId req) fun _ => True :=
  .bind (newUuid_storeFixed.keeps (P := P)) fun _ _ =>
    .bind (now_storeFixed.keeps (P := P)) fun _ _ =>
    .bind (wrapErr_keeps _ (.bind (hinsert _) fun r _ => (orFail_keeps _ r).mono fun _ _ => trivial))
      fun _ _ => settleOrder_keeps hupdate htrade _

end Keep

section Reserve

variable {I : World → Prop}

/-- `validateOrderRequest` only reads the request. -/
theorem validateOrderRequest_keeps (req : CreateOrderRequest) :
    Keeps I (validateOrderRequest req) fun _ => True :=
  Keeps.ite_throw <| Keeps.ite_throw <| by
    split
    · exact Keeps.throw'
    · exact Keeps.pure' trivial

/-- `calculateRequiredAmount` only reads the request and the fill price. -/
theorem calculateRequiredAmount_keeps (req : CreateOrderRequest) (fillPrice : Option Decimal) :
    Keeps I (calculateRequiredAmount req fillPrice) fun _ => True := by
  unfold calculateRequiredAmount
  dsimp only
  split <;> split <;> first
    | exact (Keeps.pure' (Q := fun _ => True) trivial).bind fun _ _ => Keeps.pure' trivial
    | exact (Keeps.throw' (Q := fun _ => False)).bind fun _ h => h.elim

end Reserve

/-! ## The settlement loop -/

set_option smartUnfolding false in
/-- User 1 (1000 USD) buys 1 BTC @ 100 from user 2, whose one BTC is held for an open order
    and not available. The USD leg commits on its own; the BTC leg fails on the seller's
    available balance; `processTrade` returns that error, and the seller keeps the 100 USD
    without delivering. -/
theorem processTrade_first_leg_stays :
    let acct (id user : UUID) (c : Currency) (a h : Decimal) : Account := ⟨id, user, c, a, h⟩
    let s : Store := ⟨[acct 10 1 currencyUSD 1000 0, acct 11 1 currencyBTC 0 0,
      acct 20 2 currencyUSD 0 0, acct 21 2 currencyBTC 0 1], [], [], []⟩
    let env : Env := ⟨fun _ => false, fun _ => none, fun _ _ => [], 0⟩
    let (r, w) := (processTrade ⟨7, symbolBTCUSD, orderSideBuy, 100, 1, 1, 2⟩).run' env
      (World.ofStore s)
    r = .error (.wrap "failed to transfer BTC" (.insufficientFundsInFromAccount 0 1)) ∧
      ((w.store.accountByUserAndCurrency 1 currencyUSD).map (·.balanceAvailable.equal 900)) =
        some true ∧
      ((w.store.accountByUserAndCurrency 2 currencyUSD).map (·.balanceAvailable.equal 100)) =
        some true ∧
      w.store.accounts.filter (·.currency = currencyBTC) =
        s.accounts.filter (·.currency = currencyBTC) := by
  decide

/-! ## Orders without a price -/

set_option smartUnfolding false in
/-- User 1 holds 1000 USD; the quote of BTC-USD asks 100. A BUY of type `"STOP"` with no
    price passes `validateOrderRequest` (only LIMIT orders are checked for a price), and
    `calculateRequiredAmount` dereferences its `nil` price. A MARKET BUY of 1 meets an empty
    book, settles to NEW, is written so, and `AddOrder` dereferences its `nil` price; the
    row stays NEW, so `NewService` panics the same way when it loads the books again. -/
theorem createOrder_nil_price_panics :
    let s : Store := ⟨[⟨10, 1, currencyUSD, 1000, 0⟩], [], [], []⟩
    let env : Env := ⟨fun _ => false, fun _ => some ⟨symbolBTCUSD, 99, 100⟩, fun _ _ => [], 4⟩
    let (r, w) := (createOrder 1 ⟨symbolBTCUSD, orderSideBuy, orderTypeMarket, none, 1⟩).run' env
      (World.ofStore s)
    ((createOrder 1 ⟨symbolBTCUSD, orderSideBuy, "STOP", none, 1⟩).run' env
        (World.ofStore s)).1 = .error (.panic .nilDereference) ∧
      r = .error (.panic .nilDereference) ∧
      (w.store.orders.map fun o => (o.type, o.price, o.status)) =
        [(orderTypeMarket, none, orderStatusNew)] ∧
      (newService.run' env w).1 = .error (.panic .nilDereference) := by
  decide

end Orders
end MicroCoin
