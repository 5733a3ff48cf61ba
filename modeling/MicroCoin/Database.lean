import MicroCoin.Limitbook.Match

/-!
# The database and the world a request runs in

The tables the core writes (the schema in `src/unnamed/part_002`) and the statements
the repositories run on them (`internal/database`, `internal/ledger/ledger.go`,
`internal/idempotency`), through `database/sql`: `r.db.QueryRow` and `r.db.Exec`
outside any transaction, `db.Begin`, `tx.Exec`, `tx.Commit`.

A statement fails when it breaks the schema: a ledger entry must name an existing
account (`REFERENCES accounts(id)`), an enumerated column takes only its labels, `symbol`
is `CHECK`ed, `(user_id, idem_key)` is `UNIQUE`, and a value stored in a
`NUMERIC(30,10)` column is rounded to 10 fractional digits and keeps fewer than 20
integer digits. Any call may also fail for reasons outside the program (a lost
connection, a timeout): `Env.fails n` says whether the `n`-th call of a run fails.
A transaction is the list of its statements; `Commit` applies them. The deferred
`tx.Rollback()` only drops that list. The `users` table is not modelled: the user of a
request exists.

`World` is everything a request of the engine reads and writes: the database, the
objects of the books, the books of `orders.Service`, the clock and the count of
database calls. `App` is the monad of a request: an error does not undo what was done
before it.
-/

namespace MicroCoin

/-- The rows of the tables the core writes. -/
structure Store where
  accounts : List Account
  entries : List LedgerEntry
  orders : List Order
  idempotencyKeys : List IdempotencyKey
  deriving DecidableEq, Repr, Inhabited

/-- Why a call to the database failed. -/
inductive DbError
  | fault
  | foreignKeyViolation
  | uniqueViolation
  | checkViolation
  | invalidEnumValue
  | numericFieldOverflow
  deriving DecidableEq, Repr

/-- A value stored in a `NUMERIC(30,10)` column, as it reads back: rounded to 10
    fractional digits, printed with exactly 10 of them. -/
def numeric (d : Decimal) : Except DbError Decimal :=
  let r := d.round 10
  if r.value.natAbs * 10 ^ (r.exp + 10).toNat < 10 ^ 30 then .ok ⟨r.rescale (-10), -10⟩
  else .error .numericFieldOverflow

/-- A value with at most 10 fractional digits and fewer than 20 integer digits is stored as
    the number it is. -/
theorem numeric_exact {d : Decimal} (hexp : -10 ≤ d.exp)
    (hbound : d.value.natAbs * 10 ^ (d.exp + 10).toNat < 10 ^ 30) :
    ∃ d', numeric d = .ok d' ∧ d'.toRat = d.toRat := by
  have hr : d.round 10 = d := if_pos hexp
  exact ⟨⟨d.rescale (-10), -10⟩, by rw [numeric, hr, if_pos hbound], Decimal.rescale_mul_zpow hexp⟩

/-- A stored value is the number rounded to 10 fractional digits. -/
theorem toRat_numeric {d d' : Decimal} (h : numeric d = .ok d') : d'.toRat = (d.round 10).toRat := by
  unfold numeric at h
  dsimp only at h
  split at h
  · cases h
    exact Decimal.rescale_mul_zpow (Decimal.le_round_exp d 10)
  · cases h

/-- A stored value has 10 fractional digits, so a number with more is stored changed. -/
theorem numeric_rounds {d d' : Decimal} (h : numeric d = .ok d')
    (hd : ∀ z : ℤ, d.toRat ≠ z / 10 ^ 10) : d'.toRat ≠ d.toRat := by
  rw [numeric] at h
  split at h
  · cases h
    exact fun heq => hd ((d.round 10).rescale (-10))
      (by rw [← heq, Decimal.toRat, zpow_neg, div_eq_mul_inv]; norm_num)
  · cases h

/-- The statements of the repositories. -/
inductive Write
  /-- `UpdateAccountBalance` (account.go, lines 85–98). -/
  | updateAccountBalance (accountId : UUID) (available hold : Decimal)
  /-- The `INSERT INTO ledger_entries` of `CreateJournal` (ledger.go, lines 278–295). -/
  | insertLedgerEntry (e : LedgerEntry)
  /-- `OrderRepository.CreateOrder` (order.go, lines 22–45). -/
  | insertOrder (o : Order)
  /-- `UpdateOrder` (order.go, lines 120–133). -/
  | updateOrder (id : UUID) (filledQty : Decimal) (status : OrderStatus)
  /-- `CreateIdempotencyKey` (`src/unnamed/part_006`, lines 55–73). -/
  | insertIdempotencyKey (k : IdempotencyKey)
  deriving DecidableEq, Repr

/-- An enumerated column accepts only its labels. -/
def enumValue (labels : List String) (v : String) : Except DbError Unit :=
  if v ∈ labels then .ok () else .error .invalidEnumValue

/-- The table after one statement, or the error it raises. -/
def Store.run (s : Store) : Write → Except DbError Store
  | .updateAccountBalance id a h => do
    let a ← numeric a
    let h ← numeric h
    return { s with accounts := s.accounts.map fun acc =>
      if acc.id = id then { acc with balanceAvailable := a, balanceHold := h } else acc }
  | .insertLedgerEntry e => do
    enumValue [currencyUSD, currencyBTC, currencyETH] e.currency
    let amount ← numeric e.amount
    if s.accounts.any (·.id = e.accountId) then
      return { s with entries := s.entries ++ [{ e with amount := amount }] }
    else throw .foreignKeyViolation
  | .insertOrder o => do
    enumValue [orderSideBuy, orderSideSell] o.side
    enumValue [orderTypeMarket, orderTypeLimit] o.type
    enumValue [orderStatusNew, orderStatusPartiallyFilled, orderStatusFilled,
      orderStatusCanceled, orderStatusRejected] o.status
    let price ← o.price.mapM numeric
    let qty ← numeric o.qty
    let filledQty ← numeric o.filledQty
    if o.symbol = symbolBTCUSD ∨ o.symbol = symbolETHUSD then
      return { s with orders := s.orders ++ [{ o with price, qty, filledQty }] }
    else throw .checkViolation
  | .updateOrder id f st => do
    enumValue [orderStatusNew, orderStatusPartiallyFilled, orderStatusFilled,
      orderStatusCanceled, orderStatusRejected] st
    let f ← numeric f
    return { s with orders := s.orders.map fun o =>
      if o.id = id then { o with filledQty := f, status := st } else o }
  | .insertIdempotencyKey k =>
    if s.idempotencyKeys.any (fun k' => k'.userId = k.userId ∧ k'.idemKey = k.idemKey) then
      .error .uniqueViolation
    else .ok { s with idempotencyKeys := s.idempotencyKeys ++ [k] }

/-- The statements of a transaction, one after the other. -/
def Store.runAll (s : Store) : List Write → Except DbError Store
  | [] => .ok s
  | w :: ws => match s.run w with
    | .ok s => s.runAll ws
    | .error e => .error e

section Statements
variable {s s' : Store}

theorem Store.run_updateAccountBalance {id : UUID} {a h : Decimal} :
    s.run (.updateAccountBalance id a h) = .ok s' ↔ ∃ a' h', numeric a = .ok a' ∧
      numeric h = .ok h' ∧ s' = { s with accounts := s.accounts.map fun acc =>
        if acc.id = id then { acc with balanceAvailable := a', balanceHold := h' } else acc } := by
  simp only [Store.run, bind, Except.bind, pure, Except.pure]
  cases numeric a <;> cases numeric h <;> simp [eq_comm]

theorem Store.run_insertLedgerEntry {e : LedgerEntry} :
    s.run (.insertLedgerEntry e) = .ok s' ↔ e.currency ∈ [currencyUSD, currencyBTC, currencyETH] ∧
      ∃ amount, numeric e.amount = .ok amount ∧ s.accounts.any (·.id = e.accountId) ∧
        s' = { s with entries := s.entries ++ [{ e with amount := amount }] } := by
  simp only [Store.run, enumValue, bind, Except.bind, pure, Except.pure]
  by_cases hc : e.currency ∈ [currencyUSD, currencyBTC, currencyETH] <;>
    simp only [hc, if_true, if_false]
  · cases numeric e.amount <;>
      simp only [true_and, reduceCtorEq, false_and, exists_false, Except.ok.injEq, exists_eq_left']
    split
    · next h => simp only [h, Except.ok.injEq, true_and, eq_comm]
    · next h => simp [h, throw, throwThe, MonadExceptOf.throw]
  · simp

theorem Store.run_insertOrder {o : Order} (h : s.run (.insertOrder o) = .ok s') :
    ∃ price qty filledQty,
      s' = { s with orders := s.orders ++ [{ o with price, qty, filledQty }] } := by
  simp only [Store.run, enumValue, bind, Except.bind, pure, Except.pure] at h
  repeat' split at h
  all_goals first | exact ⟨_, _, _, (Except.ok.inj h).symm⟩ | cases h

theorem Store.run_updateOrder {id : UUID} {f : Decimal} {st : OrderStatus} :
    s.run (.updateOrder id f st) = .ok s' ↔ st ∈ [orderStatusNew, orderStatusPartiallyFilled,
      orderStatusFilled, orderStatusCanceled, orderStatusRejected] ∧ ∃ f', numeric f = .ok f' ∧
        s' = { s with orders := s.orders.map fun o =>
          if o.id = id then { o with filledQty := f', status := st } else o } := by
  simp only [Store.run, enumValue, bind, Except.bind, pure, Except.pure]
  by_cases hc : st ∈ [orderStatusNew, orderStatusPartiallyFilled, orderStatusFilled,
    orderStatusCanceled, orderStatusRejected] <;> simp only [hc, if_true, if_false]
  · cases numeric f <;> simp [eq_comm]
  · simp

theorem Store.runAll_append {t u : List Write} :
    s.runAll (t ++ u) = (s.runAll t).bind fun s => s.runAll u := by
  induction t generalizing s with
  | nil => rfl
  | cons wr t ih =>
    simp only [List.cons_append, Store.runAll]
    cases s.run wr <;> simp [ih, Except.bind]

/-- The statements of the ledger: balance updates and journal entries. -/
def Write.IsLedger : Write → Prop
  | .updateAccountBalance .. | .insertLedgerEntry _ => True
  | _ => False

/-- A statement of the ledger that sets the balances of the accounts `ids` only. -/
def Write.Within (ids : List UUID) : Write → Prop
  | .updateAccountBalance id .. => id ∈ ids
  | .insertLedgerEntry _ => True
  | _ => False

theorem Write.Within.isLedger {wr : Write} {ids : List UUID} (h : wr.Within ids) : wr.IsLedger := by
  cases wr <;> trivial

/-- No statement deletes or rewrites an idempotency record: the records only grow. -/
theorem Store.run_idempotencyKeys {wr : Write} (hr : s.run wr = .ok s') :
    s.idempotencyKeys <+: s'.idempotencyKeys := by
  cases wr with
  | updateAccountBalance =>
    obtain ⟨_, _, -, -, rfl⟩ := Store.run_updateAccountBalance.1 hr; exact List.prefix_refl _
  | insertLedgerEntry =>
    obtain ⟨-, _, -, -, rfl⟩ := Store.run_insertLedgerEntry.1 hr; exact List.prefix_refl _
  | insertOrder => obtain ⟨_, _, _, rfl⟩ := Store.run_insertOrder hr; exact List.prefix_refl _
  | updateOrder => obtain ⟨-, _, -, rfl⟩ := Store.run_updateOrder.1 hr; exact List.prefix_refl _
  | insertIdempotencyKey k =>
    simp only [Store.run] at hr
    split at hr
    · cases hr
    · cases hr; exact List.prefix_append _ _

theorem Store.runAll_idempotencyKeys {tx : List Write} (hr : s.runAll tx = .ok s') :
    s.idempotencyKeys <+: s'.idempotencyKeys := by
  induction tx generalizing s with
  | nil => cases hr; exact List.prefix_refl _
  | cons wr tx ih =>
    simp only [Store.runAll] at hr
    split at hr
    · next s₁ h₁ => exact (Store.run_idempotencyKeys h₁).trans (ih hr)
    · cases hr

end Statements

/-- The errors of the services: `fmt.Errorf` texts (`text`, and `wrap ctx e` for
    `fmt.Errorf("ctx: %w", e)`), the errors that carry amounts, a failed database call,
    a Go panic, and a `MatchOrder` loop that did not stop within the fuel. -/
inductive Err
  | text (msg : String)
  | insufficientFunds (available required : Decimal)
  | insufficientHeldFunds (held required : Decimal)
  | insufficientFundsInFromAccount (available required : Decimal)
  | journalNotBalanced (total : Decimal)
  | invalidSymbol (symbol : Symbol)
  | db (e : DbError)
  | wrap (ctx : String) (e : Err)
  | panic (p : Panic)
  | outOfFuel
  deriving DecidableEq, Repr

/-- What a run may consult but not change: which database calls fail, the quote feed
    `quotesService.GetQuote`, the order in which a `range` over a book's map visits its
    keys (`visit t k` in the `k`-th iteration of the `MatchOrder` started at clock `t`),
    and how many iterations of `MatchOrder`'s outer loop a call may take. -/
structure Env where
  fails : ℕ → Bool
  quote : Symbol → Option Quote
  visit : ℕ → ℕ → List Decimal
  fuel : ℕ

/-- The same environment, with no database fault. -/
def Env.faultless (env : Env) : Env := { env with fails := fun _ => false }

@[simp] theorem Env.faultless_fails (env : Env) (n : ℕ) : env.faultless.fails n = false := rfl

/-- Everything a request reads and writes. -/
structure World where
  store : Store
  calls : ℕ
  mem : Mem
  books : Symbol → OrderBook
  clock : ℕ

/-- A world over the tables `s`, with no book object and empty books. -/
def World.ofStore (s : Store) : World := ⟨s, 0, Mem.ofOrders [], newOrderBook, 0⟩

/-- The monad of a request. -/
abbrev App := ExceptT Err (ReaderT Env (StateM World))

/-- `x` run from `w`: its result and the world it leaves. -/
def App.run' (x : App α) (env : Env) (w : World) : Except Err α × World :=
  ((x.run).run env).run w

/-! ## `database/sql` calls -/

/-- One round trip to the database, which fails when `Env.fails` says so. -/
def call : App (Except DbError Unit) := do
  let w ← get
  set { w with calls := w.calls + 1 }
  return if (← read).fails w.calls then .error .fault else .ok ()

/-- `r.db.QueryRow(...)` reading `f` of the committed tables. -/
def query (f : Store → α) : App (Except DbError α) := do
  let r ← call
  let s := (← get).store
  return r.map fun _ => f s

/-- `r.db.Exec(...)`: a statement committed on its own. -/
def exec (wr : Write) : App (Except DbError Unit) := do
  match ← call with
  | .error e => return .error e
  | .ok () =>
    match (← get).store.run wr with
    | .ok s => modify fun w => { w with store := s }; return .ok ()
    | .error e => return .error e

/-- A transaction: the statements it has run. -/
abbrev Tx := List Write

/-- `db.Begin()`. -/
def begin : App (Except DbError Tx) := return (← call).map fun _ => []

/-- `tx.Exec(...)`: the statement runs on the tables as the transaction sees them. -/
def txExec (tx : Tx) (wr : Write) : App (Except DbError Tx) := do
  let r ← call
  let s := (← get).store
  return r.bind fun _ => (s.runAll (tx ++ [wr])).map fun _ => tx ++ [wr]

/-- `tx.Commit()`. -/
def commit (tx : Tx) : App (Except DbError Unit) := do
  match ← call with
  | .error e => return .error e
  | .ok () =>
    match (← get).store.runAll tx with
    | .ok s => modify fun w => { w with store := s }; return .ok ()
    | .error e => return .error e

/-- `if err != nil { return fmt.Errorf("ctx: %w", err) }` after a database call. -/
def orFail (ctx : String) : Except DbError α → App α
  | .ok a => pure a
  | .error e => throw (.wrap ctx (.db e))

/-- `if err != nil { return fmt.Errorf("ctx: %w", err) }` after a call that returns an
    error of its own. -/
def wrapErr (ctx : String) (x : App α) : App α :=
  tryCatch x fun e => throw (.wrap ctx e)

/-- `uuid.New()`. -/
def newUuid : App UUID := do
  let w ← get
  let (id, m) := w.mem.newUuid
  set { w with mem := m }
  return id

/-- `time.Now()`: the clock ticks at every reading. -/
def now : App ℕ := do
  let w ← get
  set { w with clock := w.clock + 1 }
  return w.clock

variable {α β : Type}

/-! ## Running a request

How `App.run'` runs the operations of the monad, and how a bind that returned or failed
comes apart. -/

section Run
variable (env : Env) (w : World)

@[simp] theorem App.run'_pure (a : α) : (pure a : App α).run' env w = (.ok a, w) := rfl

@[simp] theorem App.run'_throw (e : Err) : (throw e : App α).run' env w = (.error e, w) := rfl

@[simp] theorem App.run'_get : (get : App World).run' env w = (.ok w, w) := rfl

@[simp] theorem App.run'_set (w' : World) : (set w' : App PUnit).run' env w = (.ok ⟨⟩, w') := rfl

@[simp] theorem App.run'_read : (read : App Env).run' env w = (.ok env, w) := rfl

theorem App.run'_bind (x : App α) (f : α → App β) :
    (x >>= f).run' env w = match x.run' env w with
      | (.ok a, w') => (f a).run' env w'
      | (.error e, w') => (.error e, w') := by
  simp only [App.run', ExceptT.run_bind, ReaderT.run_bind, StateT.run_bind]
  rcases StateT.run ((ExceptT.run x).run env) w with ⟨_ | a, w'⟩ <;> rfl

theorem App.run'_tryCatch (x : App α) (h : Err → App α) :
    (tryCatch x h).run' env w = match x.run' env w with
      | (.ok a, w') => (.ok a, w')
      | (.error e, w') => (h e).run' env w' := by
  show StateT.run (ReaderT.run (ExceptT.run (ExceptT.tryCatch x h)) env) w = _
  rw [ExceptT.tryCatch, ExceptT.run_mk, ReaderT.run_bind, StateT.run_bind,
    show x.run' env w = (ReaderT.run x env).run w from rfl]
  rcases (ReaderT.run x env).run w with ⟨_ | a, w'⟩ <;> rfl

theorem App.run'_map (x : App α) (f : α → β) :
    (f <$> x).run' env w = match x.run' env w with
      | (.ok a, w') => (.ok (f a), w')
      | (.error e, w') => (.error e, w') := by
  simp only [App.run', ExceptT.run_map, ReaderT.run_map, StateT.run_map]
  rcases StateT.run ((ExceptT.run x).run env) w with ⟨_ | a, w'⟩ <;> rfl

/-- Mapping the result leaves the world the run reaches. -/
@[simp] theorem App.run'_map_snd (x : App α) (f : α → β) :
    ((f <$> x).run' env w).2 = (x.run' env w).2 := by
  rw [App.run'_map]
  rcases x.run' env w with ⟨_ | _, _⟩ <;> rfl

variable {env w}

theorem App.run'_bind_ok {x : App α} {f : α → App β} {b : β} {w'' : World}
    (h : (x >>= f).run' env w = (.ok b, w'')) :
    ∃ a w', x.run' env w = (.ok a, w') ∧ (f a).run' env w' = (.ok b, w'') := by
  rw [App.run'_bind] at h
  rcases hx : x.run' env w with ⟨_ | a, w'⟩ <;> rw [hx] at h
  · cases h
  · exact ⟨a, w', rfl, h⟩

theorem App.run'_bind_error {x : App α} {f : α → App β} {e : Err} {w'' : World}
    (h : (x >>= f).run' env w = (.error e, w'')) :
    x.run' env w = (.error e, w'') ∨
      ∃ a w', x.run' env w = (.ok a, w') ∧ (f a).run' env w' = (.error e, w'') := by
  rw [App.run'_bind] at h
  rcases hx : x.run' env w with ⟨_ | a, w'⟩ <;> simp only [hx] at h
  · simp only [Prod.mk.injEq, Except.error.injEq] at h
    rw [h.1, h.2]
    exact .inl rfl
  · exact .inr ⟨a, w', rfl, h⟩

end Run

/-! ## Invariants of a request

`App.Keeps I x Q` is an invariant `I` of the world that `x` keeps, with a property `Q` of
what it returns; it composes along binds. `App.KeepsOnError` only asks `I` of the worlds
in which `x` fails. -/

/-- From every world satisfying `I`, `x` leaves a world satisfying `I` and, when it
    returns, returns a value satisfying `Q`. -/
def App.Keeps (I : World → Prop) (x : App α) (Q : α → Prop) : Prop :=
  ∀ env w, I w → I (x.run' env w).2 ∧ ∀ a, (x.run' env w).1 = .ok a → Q a

namespace App.Keeps

variable {I : World → Prop} {x : App α} {Q R : α → Prop}

theorem pure' {a : α} (h : Q a) : Keeps I (pure a) Q := fun _ _ hw => ⟨hw, by simp [h]⟩

theorem throw' {e : Err} : Keeps I (throw e : App α) Q := fun _ _ hw => ⟨hw, by simp⟩

theorem bind {f : α → App β} {R : β → Prop} (hx : Keeps I x Q)
    (hf : ∀ a, Q a → Keeps I (f a) R) : Keeps I (x >>= f) R := by
  intro env w hw
  rw [App.run'_bind]
  obtain ⟨hw', hQ⟩ := hx env w hw
  rcases hr : x.run' env w with ⟨_ | a, w'⟩ <;> rw [hr] at hw' hQ
  · exact ⟨hw', by simp⟩
  · exact hf a (hQ a rfl) env w' hw'

theorem tryCatch' {h : Err → App α} (hx : Keeps I x Q) (hh : ∀ e, Keeps I (h e) Q) :
    Keeps I (tryCatch x h) Q := by
  intro env w hw
  rw [App.run'_tryCatch]
  obtain ⟨hw', hQ⟩ := hx env w hw
  rcases hr : x.run' env w with ⟨e | a, w'⟩ <;> rw [hr] at hw' hQ
  · exact hh e env w' hw'
  · exact ⟨hw', by simpa using hQ a rfl⟩

theorem map {f : α → β} {R : β → Prop} (hx : Keeps I x Q) (hf : ∀ a, Q a → R (f a)) :
    Keeps I (f <$> x) R := by
  rw [← bind_pure_comp]
  exact hx.bind fun a h => pure' (hf a h)

theorem mono (hx : Keeps I x Q) (h : ∀ a, Q a → R a) : Keeps I x R :=
  fun env w hw => ⟨(hx env w hw).1, fun a ha => h a ((hx env w hw).2 a ha)⟩

end App.Keeps

/-- `I` does not read the count of database calls. -/
def CallsBlind (I : World → Prop) : Prop := ∀ w n, I { w with calls := n } ↔ I w

/-- An invariant of the tables alone does not read the count. -/
theorem CallsBlind.store (P : Store → Prop) : CallsBlind fun w => P w.store := fun _ _ => Iff.rfl

/-! ## The database calls, one lemma each -/

section Primitives
variable (env : Env) (w : World)

theorem call_run' : call.run' env w =
    (.ok (if env.fails w.calls then .error .fault else .ok ()), { w with calls := w.calls + 1 }) :=
  rfl

theorem query_run' (f : Store → α) : (query f).run' env w =
    (.ok (if env.fails w.calls then .error .fault else .ok (f w.store)),
      { w with calls := w.calls + 1 }) := by
  cases h : env.fails w.calls <;> simp [query, App.run'_bind, App.run'_map, call_run', h, Except.map]

theorem begin_run' : begin.run' env w =
    (.ok (if env.fails w.calls then .error .fault else .ok []), { w with calls := w.calls + 1 }) := by
  cases h : env.fails w.calls <;> simp [begin, App.run'_map, call_run', h, Except.map]

theorem txExec_run' (tx : Tx) (wr : Write) : (txExec tx wr).run' env w =
    (.ok (if env.fails w.calls then .error .fault
      else (w.store.runAll (tx ++ [wr])).map fun _ => tx ++ [wr]),
      { w with calls := w.calls + 1 }) := by
  cases h : env.fails w.calls <;> simp [txExec, App.run'_bind, App.run'_map, call_run', h, Except.bind]

theorem commit_run' (tx : Tx) : (commit tx).run' env w =
    if env.fails w.calls then (.ok (.error .fault), { w with calls := w.calls + 1 })
    else match w.store.runAll tx with
      | .ok s => (.ok (.ok ()), { w with calls := w.calls + 1, store := s })
      | .error e => (.ok (.error e), { w with calls := w.calls + 1 }) := by
  cases h : env.fails w.calls <;>
    simp only [commit, App.run'_bind, call_run', h, Bool.false_eq_true, if_false, if_true,
      App.run'_get, App.run'_pure]
  rcases w.store.runAll tx with e | s <;> rfl

theorem exec_run' (wr : Write) : (exec wr).run' env w =
    if env.fails w.calls then (.ok (.error .fault), { w with calls := w.calls + 1 })
    else match w.store.run wr with
      | .ok s => (.ok (.ok ()), { w with calls := w.calls + 1, store := s })
      | .error e => (.ok (.error e), { w with calls := w.calls + 1 }) := by
  cases h : env.fails w.calls <;>
    simp only [exec, App.run'_bind, call_run', h, Bool.false_eq_true, if_false, if_true,
      App.run'_get, App.run'_pure]
  rcases w.store.run wr with e | s <;> rfl

@[simp] theorem orFail_run' (ctx : String) (r : Except DbError α) : (orFail ctx r).run' env w =
    (r.mapError (.wrap ctx ∘ .db), w) := by
  cases r <;> rfl

theorem wrapErr_run' (ctx : String) (x : App α) : (wrapErr ctx x).run' env w =
    match x.run' env w with
      | (.ok a, w') => (.ok a, w')
      | (.error e, w') => (.error (.wrap ctx e), w') :=
  App.run'_tryCatch env w x _

@[simp] theorem newUuid_run' : newUuid.run' env w =
    (.ok (w.mem.freshUuid + 1), { w with mem := { w.mem with freshUuid := w.mem.freshUuid + 1 } }) :=
  rfl

@[simp] theorem now_run' : now.run' env w = (.ok w.clock, { w with clock := w.clock + 1 }) := rfl

end Primitives

/-- From every world satisfying `I`, `x` fails only in a world satisfying `I`. -/
def App.KeepsOnError (I : World → Prop) (x : App α) : Prop :=
  ∀ env w e w', I w → x.run' env w = (.error e, w') → I w'

theorem App.Keeps.keepsOnError {I : World → Prop} {x : App α} {Q : α → Prop}
    (hx : App.Keeps I x Q) : App.KeepsOnError I x := fun env w e w' hw h => by
  simpa [h] using (hx env w hw).1

theorem App.KeepsOnError.bind {I : World → Prop} {x : App α} {Q : α → Prop} {f : α → App β}
    (hx : App.Keeps I x Q) (hf : ∀ a, Q a → App.KeepsOnError I (f a)) :
    App.KeepsOnError I (x >>= f) := fun env w e w'' hw h => by
  rcases App.run'_bind_error h with h | ⟨a, w', ha, h⟩
  · exact hx.keepsOnError env w e w'' hw h
  · have := hx env w hw
    rw [ha] at this
    exact hf a (this.2 a rfl) env w' e w'' this.1 h

section Keeps
variable {I : World → Prop} (hI : CallsBlind I)
include hI

theorem call_keeps : App.Keeps I call fun _ => True := fun env w hw => by
  simp [call_run', hI _ _, hw]

theorem query_keeps (f : Store → α) : App.Keeps I (query f) fun _ => True := fun env w hw => by
  simp [query_run', hI _ _, hw]

theorem begin_keeps : App.Keeps I begin fun r => ∀ tx, r = .ok tx → tx = [] :=
  fun env w hw => by
    cases h : env.fails w.calls <;> simp [begin_run', hI _ _, hw, h]

theorem txExec_keeps (tx : Tx) (wr : Write) :
    App.Keeps I (txExec tx wr) fun r => ∀ tx', r = .ok tx' → tx' = tx ++ [wr] :=
  fun env w hw => by
    rw [txExec_run']
    refine ⟨(hI _ _).2 hw, fun a ha tx' h => ?_⟩
    simp only [Except.ok.injEq] at ha
    subst ha
    split at h
    · cases h
    · cases hr : w.store.runAll (tx ++ [wr]) <;> simp [hr, Except.map] at h
      exact h.symm

theorem commit_keeps (tx : Tx) (h : ∀ w s, I w → w.store.runAll tx = .ok s → I { w with store := s }) :
    App.Keeps I (commit tx) fun _ => True := fun env w hw => by
  refine ⟨?_, fun _ _ => trivial⟩
  rw [commit_run']
  cases hf : env.fails w.calls
  · cases hr : w.store.runAll tx <;> simp only [hf, hr, Bool.false_eq_true, if_false]
    · exact (hI _ _).2 hw
    · exact (hI { w with store := _ } _).2 (h w _ hw hr)
  · exact (hI _ _).2 hw

theorem exec_keeps (wr : Write) (h : ∀ w s, I w → w.store.run wr = .ok s → I { w with store := s }) :
    App.Keeps I (exec wr) fun _ => True := fun env w hw => by
  refine ⟨?_, fun _ _ => trivial⟩
  rw [exec_run']
  cases hf : env.fails w.calls
  · cases hr : w.store.run wr <;> simp only [hf, hr, Bool.false_eq_true, if_false]
    · exact (hI _ _).2 hw
    · exact (hI { w with store := _ } _).2 (h w _ hw hr)
  · exact (hI _ _).2 hw

end Keeps

theorem orFail_keeps {I : World → Prop} (ctx : String) (r : Except DbError α) :
    App.Keeps I (orFail ctx r) fun a => r = .ok a := fun env w hw => by
  cases r <;> simp [hw, Except.mapError]

theorem wrapErr_keeps {I : World → Prop} {Q : α → Prop} {x : App α} (ctx : String)
    (hx : App.Keeps I x Q) : App.Keeps I (wrapErr ctx x) Q :=
  App.Keeps.tryCatch' hx fun _ => App.Keeps.throw'

/-- `x` does not write the database. -/
def App.StoreFixed (x : App α) : Prop := ∀ env w, (x.run' env w).2.store = w.store

theorem App.StoreFixed.keeps {x : App α} {P : Store → Prop} (hx : App.StoreFixed x) :
    App.Keeps (fun w => P w.store) x fun _ => True :=
  fun env w hw => ⟨show P (x.run' env w).2.store by rw [hx env w]; exact hw, fun _ _ => trivial⟩

theorem newUuid_storeFixed : App.StoreFixed newUuid := fun _ _ => rfl

theorem now_storeFixed : App.StoreFixed now := fun _ _ => rfl

/-- `if c then throw e` in a `do` block, before the rest `jp` of the block, which runs only
    when `c` fails. -/
theorem App.Keeps.ite_throw_of_not {I : World → Prop} {Q : α → Prop} {c : Prop} [Decidable c]
    {e : Err} {jp : PUnit → App α} (h : ¬c → App.Keeps I (jp ⟨⟩) Q) :
    App.Keeps I (if c then throw e >>= jp else pure ⟨⟩ >>= jp) Q := by
  split
  · exact (App.Keeps.throw' (Q := fun _ => False)).bind fun _ h => h.elim
  · exact (App.Keeps.pure' (Q := fun _ => True) trivial).bind fun _ _ => h ‹_›

/-- `if c then throw e` in a `do` block, before the rest `jp` of the block. -/
theorem App.Keeps.ite_throw {I : World → Prop} {Q : α → Prop} {c : Prop} [Decidable c] {e : Err}
    {jp : PUnit → App α} (h : App.Keeps I (jp ⟨⟩) Q) :
    App.Keeps I (if c then throw e >>= jp else pure ⟨⟩ >>= jp) Q :=
  App.Keeps.ite_throw_of_not fun _ => h

/-- The same for `KeepsOnError`. -/
theorem App.KeepsOnError.ite_throw {I : World → Prop} {c : Prop} [Decidable c] {e : Err}
    {jp : PUnit → App α} (h : App.KeepsOnError I (jp ⟨⟩)) :
    App.KeepsOnError I (if c then throw e >>= jp else pure ⟨⟩ >>= jp) := by
  split
  · exact ((App.Keeps.throw' (Q := fun _ => False)).bind (R := fun _ => True)
      fun _ h => h.elim).keepsOnError
  · exact App.KeepsOnError.bind (App.Keeps.pure' (Q := fun _ => True) trivial) fun _ _ => h

theorem App.Keeps.ok {I : World → Prop} {x : App α} {Q : α → Prop} {env : Env} {w w' : World}
    {a : α} (hx : App.Keeps I x Q) (hw : I w) (h : x.run' env w = (.ok a, w')) : I w' ∧ Q a := by
  have := hx env w hw
  rw [h] at this
  exact ⟨this.1, this.2 a rfl⟩

theorem wrapErr_ok {ctx : String} {x : App α} {env : Env} {w w' : World} {a : α}
    (h : (wrapErr ctx x).run' env w = (.ok a, w')) : x.run' env w = (.ok a, w') := by
  rw [wrapErr_run'] at h
  rcases hx : x.run' env w with ⟨_ | _, _⟩ <;> simp_all

theorem commit_ok {tx : Tx} {env : Env} {w w' : World}
    (h : (commit tx).run' env w = (.ok (.ok ()), w')) : w.store.runAll tx = .ok w'.store := by
  rw [commit_run'] at h
  cases hf : env.fails w.calls
  · cases hr : w.store.runAll tx <;> simp only [hf, hr, Bool.false_eq_true, if_false,
      Prod.mk.injEq, Except.ok.injEq, reduceCtorEq, false_and] at h
    rw [← h.2]
  · simp [hf] at h

theorem orFail_ok {ctx : String} {r : Except DbError α} {env : Env} {w w' : World} {a : α}
    (h : (orFail ctx r).run' env w = (.ok a, w')) : r = .ok a ∧ w' = w := by
  cases r <;> simp_all [Except.mapError]

end MicroCoin
