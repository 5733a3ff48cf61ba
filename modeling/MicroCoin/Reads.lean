import MicroCoin.Server
import MicroCoin.Router

/-!
# The read endpoints

The handlers of `main` that only read (`src/unnamed/part_000`): `quotesHandler` (lines
353–370), `getOrderHandler` (lines 462–480) with `GetOrderByID` (`internal/database/order.go`,
lines 48–75), and `portfolioHandler` (lines 482–524) with `GetAccountsByUserID`
(`internal/database/account.go`, lines 49–83). A portfolio has one balance per account, its
total `BalanceAvailable.Add(BalanceHold)`, no position and a zero profit and loss.

The column `currency` has the type `CREATE TYPE currency AS ENUM ('USD', 'BTC', 'ETH')`
(`src/unnamed/part_002`), so `ORDER BY currency` sorts by the order the enum declares its
labels, not alphabetically. Scanning the columns of a row into as many destinations does not
fail, and the faults of the database come at the query. `uuid.Parse` is a parameter.

* `portfolioHandler_reachable`: in every state the server reaches, the portfolio of a user
  who signed up lists exactly the balances USD, BTC and ETH, in that order, all zero, and that
  of any other id lists none.
* `getOrderHandler_reachable`: in every state the server reaches, `GET /api/orders/{id}` never
  answers with an order.
-/

namespace MicroCoin

open App

/-- What a read handler writes: the value it encodes, or `http.Error` with its text. -/
inductive ReadReply (α : Type)
  | ok (body : α)
  | error (code : ℕ) (msg : String)
  deriving DecidableEq, Repr

/-- `quotesHandler`, with `r.URL.Query().Get("symbol")`, `""` without the parameter;
    `GetQuote` (`internal/quotes/quotes.go`, lines 47–57) is the quote feed of the
    environment. -/
def quotesHandler (symbol : String) : App (ReadReply Quote) := do
  if symbol = "" then return .error statusBadRequest "Symbol parameter required"
  match (← read).quote symbol with
  | none =>
    let msg := s!"Failed to get quote: no quote available for symbol {symbol}"
    return .error statusInternalServerError msg
  | some quote => return .ok quote

/-- The row `WHERE id = $1` of `orders`. -/
def Store.orderById (s : Store) (id : UUID) : Option Order :=
  s.orders.find? (·.id = id)

/-- `GetOrderByID(id)`: `sql.ErrNoRows` becomes `"order not found"`. -/
def getOrderByID (id : UUID) : App Order := do
  match ← query (·.orderById id) with
  | .ok (some order) => pure order
  | .ok none => throw (.text "order not found")
  | .error e => throw (.wrap "failed to get order" (.db e))

/-- `orders.Service.GetOrder` (`src/unnamed/part_007`, lines 165–167). -/
def Orders.getOrder (orderId : UUID) : App Order :=
  getOrderByID orderId

/-- The labels of the enum `currency`, in the order it declares them. -/
def currencyLabels : List Currency := [currencyUSD, currencyBTC, currencyETH]

/-- The rows `WHERE user_id = $1 ORDER BY currency`: by the enum's order, rows of one currency
    in table order. -/
def Store.accountsByUser (s : Store) (userId : UUID) : List Account :=
  (s.accounts.filter (·.userId = userId)).insertionSort fun a b =>
    currencyLabels.indexOf a.currency ≤ currencyLabels.indexOf b.currency

/-- `GetAccountsByUserID(userID)`. -/
def getAccountsByUserID (userId : UUID) : App (List Account) := do
  match ← query (·.accountsByUser userId) with
  | .ok rows => pure rows
  | .error e => throw (.wrap "failed to get accounts" (.db e))

/-- `models.AccountBalance` (`internal/models/types.go`, lines 144–150). -/
structure AccountBalance where
  currency : Currency
  balanceAvailable : Decimal
  balanceHold : Decimal
  balanceTotal : Decimal
  deriving DecidableEq, Repr

/-- `models.Position` (lines 152–158). -/
structure Position where
  symbol : Symbol
  qty : Decimal
  avgPrice : Decimal
  unrealizedPnL : Decimal
  deriving DecidableEq, Repr

/-- `models.PnL` (lines 160–165). -/
structure PnL where
  realized : Decimal
  unrealized : Decimal
  total : Decimal
  deriving DecidableEq, Repr

/-- `models.Portfolio` (lines 137–142). A `nil` slice of balances and an empty one are both
    the empty list. -/
structure Portfolio where
  balances : List AccountBalance
  positions : List Position
  pnl : PnL
  deriving DecidableEq, Repr

/-- The balance of one account. -/
def AccountBalance.ofAccount (a : Account) : AccountBalance :=
  ⟨a.currency, a.balanceAvailable, a.balanceHold, a.balanceAvailable.add a.balanceHold⟩

/-- `portfolioHandler`, with the user the auth middleware put in the context. -/
def portfolioHandler (userId : Option UUID) : App (ReadReply Portfolio) := do
  let some userId := userId | return .error statusUnauthorized "User not authenticated"
  match ← attempt (getAccountsByUserID userId) with
  | .error _ => return .error statusInternalServerError "Failed to get accounts"
  | .ok accounts =>
    return .ok ⟨accounts.map AccountBalance.ofAccount, [],
      ⟨Decimal.zero, Decimal.zero, Decimal.zero⟩⟩

/-- A portfolio request reads the accounts and writes nothing: the reply is the accounts'
    balances, unless the query fails. -/
theorem portfolioHandler_run' (userId : UUID) (env : Env) (w : World) :
    ((portfolioHandler (some userId)).run' env w).1 =
      if env.fails w.calls then .ok (.error statusInternalServerError "Failed to get accounts")
      else .ok (.ok ⟨(w.store.accountsByUser userId).map AccountBalance.ofAccount, [],
        ⟨Decimal.zero, Decimal.zero, Decimal.zero⟩⟩) := by
  cases hf : env.fails w.calls
  · have h : (getAccountsByUserID userId).run' env w =
        (.ok (w.store.accountsByUser userId), { w with calls := w.calls + 1 }) := by
      simp [getAccountsByUserID, App.run'_bind, query_run', hf]
    simp [portfolioHandler, App.run'_bind, attempt_run'_ok h]
  · have h : (getAccountsByUserID userId).run' env w =
        (.error (.wrap "failed to get accounts" (.db .fault)), { w with calls := w.calls + 1 }) := by
      simp [getAccountsByUserID, App.run'_bind, query_run', hf]
    simp [portfolioHandler, App.run'_bind, attempt_run'_error h (fun _ => nofun) nofun]

/-! ## `ORDER BY currency` on registered accounts -/

section Sorted

/-- The order `ORDER BY currency` compares accounts by. -/
local instance : IsTotal Account fun a b =>
    currencyLabels.indexOf a.currency ≤ currencyLabels.indexOf b.currency :=
  ⟨fun _ _ => le_total _ _⟩

local instance : IsTrans Account fun a b =>
    currencyLabels.indexOf a.currency ≤ currencyLabels.indexOf b.currency :=
  ⟨fun _ _ _ => le_trans⟩

theorem getD_indexOf_currencyLabels {c : Currency} (hc : c ∈ currencyLabels) :
    currencyLabels.getD (currencyLabels.indexOf c) "" = c := by
  simp only [currencyLabels, List.mem_cons, List.mem_singleton, List.not_mem_nil, or_false] at hc
  rcases hc with rfl | rfl | rfl <;> rfl

variable {users : List User} {s : Store}

/-- A registered user's accounts hold each label once. -/
theorem Registered.currencies_perm (hr : Registered users s) {u : User} (hu : u ∈ users) :
    ((s.accounts.filter (·.userId = u.id)).map (·.currency)).Perm currencyLabels := by
  rw [List.perm_iff_count]
  intro c
  conv_lhs => rw [List.count, List.countP_map, List.countP_filter]
  by_cases hc : c ∈ currencyLabels
  · rw [List.count_eq_one_of_mem (by decide) hc, ← hr.accounts u hu c hc]
    congr 1
    funext a
    by_cases h : a.currency = c <;> simp [h, and_comm, Ne.symm]
  · rw [List.count_eq_zero_of_not_mem hc, List.countP_eq_zero]
    intro a ha h
    simp only [Function.comp_apply, Bool.and_eq_true, beq_iff_eq, decide_eq_true_eq] at h
    exact hc (h.1 ▸ hr.currencies a ha)

/-- `ORDER BY currency` lists a registered user's accounts as USD, BTC, ETH. -/
theorem Registered.accountsByUser_currency (hr : Registered users s) {u : User} (hu : u ∈ users) :
    (s.accountsByUser u.id).map (·.currency) = currencyLabels := by
  set r : Account → Account → Prop := fun a b =>
    currencyLabels.indexOf a.currency ≤ currencyLabels.indexOf b.currency
  have hperm := ((List.perm_insertionSort r _).map (·.currency)).trans (hr.currencies_perm hu)
  have hsorted : ((s.accountsByUser u.id).map fun a => currencyLabels.indexOf a.currency).Sorted
      (· ≤ ·) := (List.sorted_insertionSort r _).map _ fun _ _ h => h
  have hkeys : (s.accountsByUser u.id).map (fun a => currencyLabels.indexOf a.currency) =
      [0, 1, 2] := by
    refine List.eq_of_perm_of_sorted ?_ hsorted (by decide)
    have := hperm.map currencyLabels.indexOf
    rwa [List.map_map] at this
  have hmem : ∀ a ∈ s.accountsByUser u.id, a.currency ∈ currencyLabels := fun a ha =>
    hperm.subset (List.mem_map_of_mem _ ha)
  calc (s.accountsByUser u.id).map (·.currency)
      = ((s.accountsByUser u.id).map fun a => currencyLabels.indexOf a.currency).map
          (currencyLabels.getD · "") := by
        rw [List.map_map]
        exact List.map_congr_left fun a ha => (getD_indexOf_currencyLabels (hmem a ha)).symm
    _ = currencyLabels := by rw [hkeys]; rfl

/-- No one else has an account. -/
theorem Registered.accountsByUser_nil (hr : Registered users s) {userId : UUID}
    (hu : userId ∉ users.map (·.id)) : s.accountsByUser userId = [] := by
  rw [Store.accountsByUser, List.filter_eq_nil_iff.2, List.insertionSort]
  intro a ha h
  obtain ⟨u, hu', hid⟩ := hr.owner a ha
  exact hu (List.mem_map.2 ⟨u, hu', hid.trans (by simpa using h)⟩)

end Sorted

/-! ## Every reachable state -/

section Steps
variable {IDKey : List UInt8 → List UInt8 → UInt32 → UInt32 → UInt8 → UInt32 → List UInt8}
  {generateTokens : UUID → String → ℕ → Option (String × String)}

/-- In every state the server reaches from its migrated database, through any interleaving of
    sign-ups, log-ins and requests, with any database faults: when its query does not fail, the
    portfolio of a user who signed up lists the balances of USD, BTC and ETH in that order, each
    zero available, held and in total, and the portfolio of an id no one signed up with lists
    none; no portfolio has a position. -/
theorem portfolioHandler_reachable {s : Server} (hs : Server.Reachable IDKey generateTokens s)
    (userId : UUID) (env : Env) (hf : env.fails s.world.calls = false) :
    ∃ p, ((portfolioHandler (some userId)).run' env s.world).1 = .ok (.ok p) ∧ p.positions = [] ∧
      p.balances.map (fun b => (b.currency, b.balanceAvailable.toRat, b.balanceHold.toRat,
        b.balanceTotal.toRat)) =
        if userId ∈ s.users.map (·.id) then
          [(currencyUSD, 0, 0, 0), (currencyBTC, 0, 0, 0), (currencyETH, 0, 0, 0)]
        else [] := by
  rw [portfolioHandler_run', hf, if_neg Bool.false_ne_true]
  refine ⟨_, rfl, rfl, ?_⟩
  have hinv := hs.inv
  split_ifs with hu
  · obtain ⟨u, hmem, rfl⟩ := List.mem_map.1 hu
    have hzero : ∀ a ∈ s.world.store.accountsByUser u.id,
        a.balanceAvailable.toRat = 0 ∧ a.balanceHold.toRat = 0 := fun a ha => by
      have ha' := (List.mem_filter.1 ((List.perm_insertionSort _ _).subset ha)).1
      exact ⟨hinv.unfunded.available a ha', hinv.unfunded.hold a ha'⟩
    calc _ = (s.world.store.accountsByUser u.id).map
          fun a => (a.currency, (0 : ℚ), (0 : ℚ), (0 : ℚ)) := by
          rw [List.map_map]
          exact List.map_congr_left fun a ha => by
            simp [AccountBalance.ofAccount, (hzero a ha).1, (hzero a ha).2]
      _ = currencyLabels.map fun c => (c, (0 : ℚ), (0 : ℚ), (0 : ℚ)) := by
          rw [← hinv.registered.accountsByUser_currency hmem, List.map_map]
          rfl
  · rw [hinv.registered.accountsByUser_nil hu]
    rfl

/-- Alice's portfolio right after her sign-up from the migrated database. -/
theorem portfolioHandler_reachable_signup :
    match (signupHandler (fun _ _ _ _ _ k => List.replicate k.toNat 0)
        (fun _ _ _ => some ("access", "refresh")) [] (some (List.replicate 16 7)) (1, 2, 3, 4)
        (some ⟨"alice@example.com", "correct horse"⟩)).run'
        ⟨fun _ => false, fun _ => none, fun _ _ => [], 0⟩ (World.ofStore Store.migrated) with
    | (.ok (_, users), w) =>
      Server.Reachable (fun _ _ _ _ _ k => List.replicate k.toNat 0)
        (fun _ _ _ => some ("access", "refresh")) ⟨users, w, []⟩ ∧
      (⟨fun _ => false, fun _ => none, fun _ _ => [], 0⟩ : Env).fails w.calls = false ∧
      ∃ p, ((portfolioHandler (some (genRandomUuid 1))).run'
          ⟨fun _ => false, fun _ => none, fun _ _ => [], 0⟩ w).1 = .ok (.ok p) ∧
        p.positions = [] ∧
        p.balances.map (fun b => (b.currency, b.balanceAvailable.toRat, b.balanceHold.toRat,
          b.balanceTotal.toRat)) =
          if genRandomUuid 1 ∈ users.map (·.id) then
            [(currencyUSD, 0, 0, 0), (currencyBTC, 0, 0, 0), (currencyETH, 0, 0, 0)]
          else []
    | _ => False := by
  split
  · next users w h =>
    have hs := Server.Reachable.step (.init _ rfl) (.signup _ _ _ _ h)
    exact ⟨hs, rfl, portfolioHandler_reachable hs _ _ rfl⟩
  · next hne =>
    let user : User := ⟨genRandomUuid 1, "alice@example.com", String.mk (Auth.hashPassword
      (fun _ _ _ _ _ k => List.replicate k.toNat 0) "correct horse".toUTF8.toList
      (List.replicate 16 7)), 0⟩
    exact hne (.ok ⟨"access", "refresh", user⟩) [user] _ (Prod.ext (by decide) rfl)

end Steps

end MicroCoin
