import MicroCoin.Ledger.Concurrent
import MicroCoin.Orders.Outcome
import MicroCoin.Handlers
import Mathlib.Algebra.BigOperators.Group.List

/-!
# Journals stay balanced

The reads of `LedgerRepository` (`ledger.go`) that check the ledger: `GetLedgerEntriesByJournalID`
(lines 61–99), `GetLedgerEntriesByAccountID` (lines 101–141) and `ValidateJournalBalance`
(lines 143–157), which sums a journal with `COALESCE(SUM(amount), 0)`.

Every row of `ledger_entries` is inserted by `CreateJournal` inside the transaction of a
`TopUpUser` or a `TransferFunds`, and both write a journal of two entries under one journal
id: the amount and its negation. `NUMERIC(30,10)` rounds both halves away from zero, so the
stored pair still adds up to zero (`Decimal.round_neg`), and a transaction commits its
entries together or not at all. Results:

* `Store.runAll_journalSum`: a transaction adds to the sum of a journal what each of its
  entries for that journal adds, as the column stores it.
* `LedgerOp.prepare_balanced`: every balance operation builds a transaction whose entries add
  up to zero in every journal.
* `interleave_validateJournalBalance`: after ledger operations run at once, in any schedule,
  with any faults, from tables whose journals add up to zero, `ValidateJournalBalance` reports
  every journal balanced. The run lemma is `interleave_preserves`, for any property of the
  tables that committing the transactions the operations build keeps.
-/

namespace MicroCoin

/-! ## `ledger.go`: reading the journals -/

/-- The entries of journal `journalId`, in table order: `created_at` is the start of the
    transaction that wrote an entry, and the entries of one journal come from one
    transaction. -/
def Store.journalEntries (s : Store) (journalId : UUID) : List LedgerEntry :=
  s.entries.filter (·.journalId = journalId)

/-- `SELECT COALESCE(SUM(amount), 0) FROM ledger_entries WHERE journal_id = $1`: the `SUM` of
    `NUMERIC` values is exact. -/
def Store.journalSum (s : Store) (journalId : UUID) : Decimal :=
  (s.journalEntries journalId).foldl (fun total e => total.add e.amount) ⟨0, 0⟩

/-- `ValidateJournalBalance(journalID)` (lines 143–157): whether the journal adds up to zero. -/
def validateJournalBalance (journalId : UUID) : App Bool := do
  match ← query (·.journalSum journalId) with
  | .ok total => pure total.isZero
  | .error e => throw (.wrap "failed to validate journal balance" (.db e))

/-- The error of `rows.Scan(dest...)` (`database/sql`) when the number of destinations is not
    the number of columns. -/
def scanArityError (columns dests : ℕ) : String :=
  "sql: expected " ++ toString columns ++ " destination arguments in Scan, not " ++ toString dests

/-- `for rows.Next() { ... rows.Scan(dest...) ... entries = append(entries, entry) }` over
    rows of `columns` columns scanned into `dests` destinations: `Scan` first compares the two
    counts. -/
def scanEntries (columns dests : ℕ) (rows : List LedgerEntry) : App (List LedgerEntry) :=
  rows.foldlM (fun entries e =>
    if dests = columns then pure (entries ++ [e])
    else throw (.wrap "failed to scan ledger entry" (.text (scanArityError columns dests)))) []

/-- `GetLedgerEntriesByJournalID(journalID)` (lines 61–99): eight columns into eight
    destinations. -/
def getLedgerEntriesByJournalID (journalId : UUID) : App (List LedgerEntry) := do
  match ← query (·.journalEntries journalId) with
  | .ok rows => scanEntries 8 8 rows
  | .error e => throw (.wrap "failed to get ledger entries" (.db e))

/-- The rows of `WHERE account_id = $1 ORDER BY created_at DESC LIMIT $2 OFFSET $3`, latest
    first (ties in reverse table order); PostgreSQL refuses a negative `LIMIT` or `OFFSET`. -/
def Store.accountEntriesWindow (s : Store) (accountId : UUID) (limit offset : ℤ) :
    Except String (List LedgerEntry) :=
  if limit < 0 then .error "pq: LIMIT must not be negative"
  else if offset < 0 then .error "pq: OFFSET must not be negative"
  else .ok (((s.entries.filter (·.accountId = accountId)).reverse.drop offset.toNat).take limit.toNat)

/-- `GetLedgerEntriesByAccountID(accountID, limit, offset)` (lines 101–141): the query returns
    eight columns, and the loop scans them into nine destinations (`&entry.Amount` twice). -/
def getLedgerEntriesByAccountID (accountId : UUID) (limit offset : ℤ) :
    App (List LedgerEntry) := do
  match ← query (·.accountEntriesWindow accountId limit offset) with
  | .ok (.ok rows) => scanEntries 8 9 rows
  | .ok (.error msg) => throw (.wrap "failed to get ledger entries" (.text msg))
  | .error e => throw (.wrap "failed to get ledger entries" (.db e))

/-! ## The sum of a journal -/

/-- What statement `wr` adds to the sum of journal `journalId`: the amount of the entry it
    inserts into that journal, as the column stores it. -/
def Write.journalDelta (journalId : UUID) : Write → ℚ
  | .insertLedgerEntry e => if e.journalId = journalId then (e.amount.round 10).toRat else 0
  | _ => 0

/-- The entries a transaction inserts add up to zero in every journal. -/
def Tx.Balanced (tx : Tx) : Prop := ∀ journalId, (tx.map (·.journalDelta journalId)).sum = 0

/-- Every journal of the table adds up to zero: what `ValidateJournalBalance` checks. -/
def Store.JournalsBalanced (s : Store) : Prop := ∀ journalId, (s.journalSum journalId).toRat = 0

theorem Store.toRat_journalSum (s : Store) (journalId : UUID) :
    (s.journalSum journalId).toRat = ((s.journalEntries journalId).map (·.amount.toRat)).sum := by
  rw [Store.journalSum, toRat_foldl_add_amount]
  simp [Decimal.toRat]

section Statements
variable {s s' : Store}

/-- A statement adds its `journalDelta` to the sum of every journal. -/
theorem Store.run_journalSum {wr : Write} (h : s.run wr = .ok s') (journalId : UUID) :
    (s'.journalSum journalId).toRat = (s.journalSum journalId).toRat + wr.journalDelta journalId := by
  simp only [Store.toRat_journalSum, Store.journalEntries]
  cases wr with
  | insertLedgerEntry e =>
    obtain ⟨-, amount, hn, -, rfl⟩ := Store.run_insertLedgerEntry.1 h
    by_cases hj : e.journalId = journalId <;>
      simp [List.filter_append, List.sum_append, hj, Write.journalDelta, toRat_numeric hn]
  | updateAccountBalance =>
    obtain ⟨_, _, -, -, rfl⟩ := Store.run_updateAccountBalance.1 h
    simp [Write.journalDelta]
  | insertOrder => obtain ⟨_, _, _, rfl⟩ := Store.run_insertOrder h; simp [Write.journalDelta]
  | updateOrder => obtain ⟨-, _, -, rfl⟩ := Store.run_updateOrder.1 h; simp [Write.journalDelta]
  | insertIdempotencyKey =>
    simp only [Store.run] at h
    split at h <;> cases h
    simp [Write.journalDelta]

/-- A transaction adds the `journalDelta`s of its statements. -/
theorem Store.runAll_journalSum {tx : Tx} (h : s.runAll tx = .ok s') (journalId : UUID) :
    (s'.journalSum journalId).toRat =
      (s.journalSum journalId).toRat + (tx.map (·.journalDelta journalId)).sum := by
  induction tx generalizing s with
  | nil => cases h; simp
  | cons wr tx ih =>
    simp only [Store.runAll] at h
    split at h
    · next s₁ h₁ => rw [ih h, Store.run_journalSum h₁, List.map_cons, List.sum_cons, add_assoc]
    · cases h

/-- Committing a balanced transaction keeps every journal balanced. -/
theorem Store.JournalsBalanced.runAll {tx : Tx} (hs : s.JournalsBalanced) (ht : tx.Balanced)
    (h : s.runAll tx = .ok s') : s'.JournalsBalanced := fun journalId => by
  rw [Store.runAll_journalSum h, hs journalId, ht journalId, add_zero]

/-- Tables with no entry have only balanced journals. -/
theorem Store.journalsBalanced_of_entries (h : s.entries = []) : s.JournalsBalanced := fun _ => by
  simp [Store.toRat_journalSum, Store.journalEntries, h]

end Statements

/-! ## What the operations insert -/

section Prepare
open App
variable (userId : UUID) (currency : Currency) (amount : Decimal)

theorem topUpUserTx_balanced :
    Keeps (fun _ => True) (topUpUserTx userId amount) fun r => r.1.Balanced := by
  have hI := CallsBlind.store fun _ => True
  refine requirePositive_begin_keeps hI _ fun _ =>
    .bind (wrapErr_keeps _ (getAccountByUserIDAndCurrency_keeps hI _ _)) fun _ _ =>
    .bind (newUuid_storeFixed.keeps (P := fun _ => True)) fun _ _ =>
    .bind (wrapErr_keeps _ (createJournal_keeps hI _ _)) fun tx₁ h₁ =>
    .bind (wrapErr_keeps _ (updateAccountBalance_keeps hI _ _ _ _)) fun tx₂ h₂ =>
    .pure' fun journalId => ?_
  subst h₁ h₂
  simp only [List.nil_append, List.map_append, List.map_cons, List.map_nil, List.sum_append,
    List.sum_cons, List.sum_nil, Write.journalDelta, Decimal.round_neg, Decimal.toRat_neg]
  split_ifs <;> ring

theorem holdFundsTx_balanced : Keeps (fun _ => True) (holdFundsTx userId currency amount) Tx.Balanced := by
  have hI := CallsBlind.store fun _ => True
  exact requirePositive_begin_keeps hI _ fun _ =>
    .bind (wrapErr_keeps _ (getAccountByUserIDAndCurrency_keeps hI _ _)) fun _ _ =>
    Keeps.ite_throw <| (wrapErr_keeps _ (updateAccountBalance_keeps hI _ _ _ _)).mono
      fun tx h journalId => by simp [h, Write.journalDelta]

theorem releaseHoldTx_balanced :
    Keeps (fun _ => True) (releaseHoldTx userId currency amount) Tx.Balanced := by
  have hI := CallsBlind.store fun _ => True
  exact requirePositive_begin_keeps hI _ fun _ =>
    .bind (wrapErr_keeps _ (getAccountByUserIDAndCurrency_keeps hI _ _)) fun _ _ =>
    Keeps.ite_throw <| (wrapErr_keeps _ (updateAccountBalance_keeps hI _ _ _ _)).mono
      fun tx h journalId => by simp [h, Write.journalDelta]

theorem transferFundsTx_balanced (fromAccountId toAccountId : UUID) (refType : String)
    (refId : UUID) :
    Keeps (fun _ => True)
      (transferFundsTx fromAccountId toAccountId amount currency refType refId) Tx.Balanced := by
  have hI := CallsBlind.store fun _ => True
  refine requirePositive_begin_keeps hI _ fun _ =>
    .bind (wrapErr_keeps _ (getAccountByID_keeps hI _)) fun _ _ =>
    .bind (wrapErr_keeps _ (getAccountByID_keeps hI _)) fun _ _ => .ite_throw ?_
  refine .bind (newUuid_storeFixed.keeps (P := fun _ => True)) fun _ _ =>
    .bind (wrapErr_keeps _ (createJournal_keeps hI _ _)) fun tx₁ h₁ =>
    .bind (wrapErr_keeps _ (updateAccountBalance_keeps hI _ _ _ _)) fun tx₂ h₂ =>
    (wrapErr_keeps _ (updateAccountBalance_keeps hI _ _ _ _)).mono fun tx₃ h₃ journalId => ?_
  subst h₁ h₂ h₃
  simp only [List.nil_append, List.map_append, List.map_cons, List.map_nil, List.sum_append,
    List.sum_cons, List.sum_nil, Write.journalDelta, Decimal.round_neg, Decimal.toRat_neg]
  split_ifs <;> ring

end Prepare

/-- Every balance operation builds a transaction whose entries add up to zero in every
    journal. -/
theorem LedgerOp.prepare_balanced (op : LedgerOp) :
    App.Keeps (fun _ => True) op.prepare Tx.Balanced := by
  cases op with
  | topUpUser => exact (topUpUserTx_balanced _ _).map fun _ h => h
  | holdFunds => exact holdFundsTx_balanced _ _ _
  | releaseHold => exact releaseHoldTx_balanced _ _ _
  | transferFunds => exact transferFundsTx_balanced _ _ _ _ _ _

/-! ## Operations run at once -/

section Run
variable {ops : List LedgerOp} {env : Env} (P : Store → Prop) (T : Tx → Prop)

/-- A property `P` of the tables and a property `T` of transactions, such that an operation
    builds a `T` transaction from tables satisfying `P` and committing a `T` transaction keeps
    `P`: a run from tables satisfying `P`, where every transaction already built satisfies `T`,
    leaves tables satisfying `P`. -/
theorem interleave_preserves
    (hprep : ∀ (op : LedgerOp) env w tx w', P w.store → op.prepare.run' env w = (.ok tx, w') → T tx)
    (hcommit : ∀ s tx s', P s → T tx → s.runAll tx = .ok s' → P s') :
    ∀ (schedule : List ℕ) (ps : List Progress) (wc : World), P wc.store →
      (∀ (j : ℕ) (tx : Tx), ps[j]? = some (.prepared tx) → T tx) →
      P ((interleave ops schedule ps).run' env wc).2.store
  | [], _, _, hP, _ => hP
  | e :: schedule, ps, wc, hP, hT => by
    have ih := interleave_preserves hprep hcommit schedule
    -- operation `e` reaching `p` keeps every built transaction a `T` one
    have hset : ∀ p : Progress, (∀ tx, p = .prepared tx → T tx) →
        ∀ (j : ℕ) (tx : Tx), (ps.set e p)[j]? = some (.prepared tx) → T tx := fun p hp j tx hj => by
      rw [List.getElem?_set] at hj
      split_ifs at hj
      · exact hp tx (Option.some.inj hj)
      · exact hT j tx hj
    rcases hop : ops[e]? with _ | op
    · simp only [interleave, hop]
      exact ih ps wc hP hT
    rcases hp : ps[e]? with _ | _ | tx | _
    · simp only [interleave, hop, hp]
      exact ih ps wc hP hT
    · -- the reads leave the tables, and build a `T` transaction
      have hkeep := (op.prepare_within wc.store env wc rfl).1
      simp only [interleave, hop, hp, App.run'_bind, App.run'_tryCatch, App.run'_map]
      rcases hr : op.prepare.run' env wc with ⟨_ | tx, w'⟩ <;> rw [hr] at hkeep <;>
        simp only [App.run'_pure]
      · exact ih _ w' (hkeep ▸ hP) (hset _ fun _ h => by cases h)
      · exact ih _ w' (hkeep ▸ hP) (hset _ fun _ h => by cases h; exact hprep op env wc tx w' hP hr)
    · -- the commit
      have hfin := hset .finished fun _ h => by cases h
      simp only [interleave, hop, hp, App.run'_bind, commit_run']
      cases hf : env.fails wc.calls
      · rcases hc : wc.store.runAll tx with _ | s' <;>
          simp only [hf, hc, Bool.false_eq_true, if_false, App.run'_map_snd]
        · exact ih _ _ hP hfin
        · exact ih _ _ (hcommit _ _ _ hP (hT e tx hp) hc) hfin
      · simp only [if_true]
        exact ih _ _ hP hfin
    · simp only [interleave, hop, hp]
      exact ih ps wc hP hT

end Run

/-- Ledger operations run at once keep every journal balanced. -/
theorem interleave_journalsBalanced (ops : List LedgerOp) (schedule : List ℕ) (env : Env)
    {w : World} (hw : w.store.JournalsBalanced) :
    ((interleave ops schedule (ops.map fun _ => .idle)).run' env w).2.store.JournalsBalanced :=
  interleave_preserves _ Tx.Balanced
    (fun op env w _ _ _ h => by simpa [h] using ((op.prepare_balanced) env w trivial).2)
    (fun _ _ _ hs ht hc => hs.runAll ht hc) schedule _ w hw fun j tx hj => by
      rw [List.getElem?_map] at hj
      cases h : ops[j]? <;> simp [h] at hj

/-- `ValidateJournalBalance` on tables whose journals all add up to zero: `true`, unless its
    query fails. -/
theorem validateJournalBalance_run' {w : World} (hw : w.store.JournalsBalanced) (env : Env)
    (journalId : UUID) :
    ((validateJournalBalance journalId).run' env w).1 =
      if env.fails w.calls then .error (.wrap "failed to validate journal balance" (.db .fault))
      else .ok true := by
  cases hf : env.fails w.calls <;>
    simp [validateJournalBalance, App.run'_bind, query_run', hf, Decimal.isZero_iff, hw journalId]

/-- Balance operations run at once, with any amounts, any schedule of their steps and any
    database faults, from tables whose journals all add up to zero: afterwards
    `ValidateJournalBalance` reports every journal balanced, unless its own query fails. -/
theorem interleave_validateJournalBalance (ops : List LedgerOp) (schedule : List ℕ) (env : Env)
    (w : World) (hw : w.store.JournalsBalanced) (env' : Env) (journalId : UUID) :
    let w' := ((interleave ops schedule (ops.map fun _ => .idle)).run' env w).2
    ((validateJournalBalance journalId).run' env' w').1 =
      if env'.fails w'.calls then .error (.wrap "failed to validate journal balance" (.db .fault))
      else .ok true :=
  validateJournalBalance_run' (interleave_journalsBalanced ops schedule env hw) env' journalId

/-- Two transfers between accounts 10 and 20 run at once, from tables with no entry. -/
theorem interleave_validateJournalBalance_transfers :
    let s : Store := ⟨[⟨10, 1, currencyUSD, 100, 0⟩, ⟨20, 2, currencyUSD, 0, 0⟩], [], [], []⟩
    let env : Env := ⟨fun _ => false, fun _ => none, fun _ _ => [], 0⟩
    let ops := [LedgerOp.transferFunds 10 20 5 currencyUSD "TRADE" 7,
      LedgerOp.transferFunds 20 10 1 currencyUSD "TRADE" 8]
    let w' := ((interleave ops [0, 1, 0, 1] (ops.map fun _ => .idle)).run' env (World.ofStore s)).2
    s.JournalsBalanced ∧ ((validateJournalBalance 1).run' env w').1 =
      if env.fails w'.calls then .error (.wrap "failed to validate journal balance" (.db .fault))
      else .ok true := by
  intro s env ops w'
  have hs : s.JournalsBalanced := Store.journalsBalanced_of_entries rfl
  exact ⟨hs, interleave_validateJournalBalance ops [0, 1, 0, 1] env (World.ofStore s) hs env 1⟩

/-! ## Requests keep the journals balanced

Outside `interleave`, entries are written by the `TransferFunds` calls of `processTrade`, for
every trade a `CreateOrder` settles, and by the `TopUpUser` of `topupHandler`. Every
transaction a request commits has entries that add up to zero in every journal, so each step
of a request keeps any property of the tables that such a commit keeps: that every journal is
balanced, or that the idempotency records extend a given list. `Server.lean` carries both
over every step of the server. -/

/-- A property of the tables that committing a transaction keeps, when the transaction's
    entries add up to zero in every journal. -/
def Store.CommitStable (P : Store → Prop) : Prop :=
  ∀ s tx s', P s → Tx.Balanced tx → s.runAll tx = .ok s' → P s'

/-- No statement removes or rewrites a record. -/
theorem Store.commitStable_idempotencyKeys (ks : List IdempotencyKey) :
    Store.CommitStable fun s => ks <+: s.idempotencyKeys :=
  fun _ _ _ hs _ hc => hs.trans (Store.runAll_idempotencyKeys hc)

section Requests
open App

/-- A computation that writes nothing, whatever the tables, keeps every property of them. -/
theorem App.Keeps.of_storeFixed {x : App α} {Q : α → Prop}
    (hfix : ∀ s₀, Keeps (fun w => w.store = s₀) x fun _ => True)
    (hQ : Keeps (fun _ => True) x Q) (P : Store → Prop) : Keeps (fun w => P w.store) x Q :=
  fun env w hw => ⟨show P (x.run' env w).2.store by rw [(hfix w.store env w rfl).1]; exact hw,
    (hQ env w trivial).2⟩

/-- `v, err := f(...)`: the error as a value keeps what `f` keeps. -/
theorem attempt_keeps {I : World → Prop} {x : App α} {Q : α → Prop} (hx : Keeps I x Q) :
    Keeps I (attempt x) fun r => ∀ a, r = .ok a → Q a := by
  refine Keeps.tryCatch' (hx.map fun a h b hb => by cases hb; exact h) fun e => ?_
  split
  · exact Keeps.throw'
  · exact Keeps.throw'
  · exact Keeps.pure' fun _ h => by cases h

namespace Orders

/-- `reserveFunds` keeps what `holdFunds` keeps, and returns only when `holdFunds` does. -/
theorem reserveFunds_keeps {I : World → Prop} {Q : Unit → Prop}
    (hhold : ∀ userId req amount, Keeps I (holdFunds userId req amount) Q)
    (userId : UUID) (req : CreateOrderRequest) : Keeps I (reserveFunds userId req) Q := by
  have rest : ∀ fillPrice, Keeps I (do
      holdFunds userId req (← calculateRequiredAmount req fillPrice)) Q := fun _ =>
    .bind (calculateRequiredAmount_keeps req _) fun _ _ => hhold userId req _
  refine .bind (validateOrderRequest_keeps req) fun _ _ => ?_
  dsimp only
  split
  · refine .bind (Q := fun _ => True) (fun _ _ hw => ⟨hw, fun _ _ => trivial⟩) fun _ _ => ?_
    split
    · exact (Keeps.throw' (Q := fun _ => False)).bind fun _ h => h.elim
    · exact .bind (Keeps.pure' (Q := fun _ => True) trivial) fun _ _ => rest _
  · exact .bind (Keeps.pure' (Q := fun _ => True) trivial) fun _ _ => rest _

end Orders

variable {P : Store → Prop} (hP : Store.CommitStable P)
include hP

/-- Committing a balanced transaction. -/
theorem commit_stable {tx : Tx} (ht : tx.Balanced) :
    Keeps (fun w => P w.store) (commit tx) fun _ => True :=
  commit_keeps (CallsBlind.store P) tx fun _ _ hw hs => hP _ _ _ hw ht hs

/-- A statement that inserts no entry, committed on its own. -/
theorem exec_stable {wr : Write} (h : ∀ journalId, wr.journalDelta journalId = 0) :
    Keeps (fun w => P w.store) (exec wr) fun _ => True :=
  exec_keeps (CallsBlind.store P) wr fun _ _ hw hs =>
    hP _ [wr] _ hw (fun journalId => by simp [h]) (by simp [Store.runAll, hs])

/-- Every balance operation, run as its caller runs it. -/
theorem LedgerOp.run_stable (op : LedgerOp) : Keeps (fun w => P w.store) op.run fun _ => True := by
  rw [op.run_eq]
  exact .bind (Keeps.of_storeFixed (fun s₀ => (op.prepare_within s₀).mono fun _ _ => trivial)
    op.prepare_balanced _) fun tx ht => .bind (commit_stable hP ht) fun r _ =>
      (orFail_keeps _ r).mono fun _ _ => trivial

theorem topUpUser_stable (userId : UUID) (amount : Decimal) :
    Keeps (fun w => P w.store) (topUpUser userId amount) fun _ => True :=
  .bind (Keeps.of_storeFixed (fun s₀ => (topUpUserTx_within s₀ _ _).mono fun _ _ => trivial)
    (topUpUserTx_balanced _ _) _) fun _ hr => .bind (commit_stable hP hr) fun r' _ =>
      .bind (orFail_keeps _ r') fun _ _ => Keeps.pure' trivial

namespace Orders

/-- `processTrade`: two `TransferFunds`, and the commit of its empty transaction. -/
theorem processTrade_stable (trade : Trade) :
    Keeps (fun w => P w.store) (processTrade trade) fun _ => True :=
  processTrade_keeps (CallsBlind.store P)
    (fun _ _ _ _ _ _ => LedgerOp.run_stable hP (.transferFunds _ _ _ _ _ _)) trade

theorem holdFunds_stable (userId : UUID) (req : CreateOrderRequest) (amount : Decimal) :
    Keeps (fun w => P w.store) (holdFunds userId req amount) fun _ => True := by
  unfold holdFunds
  split
  · exact LedgerOp.run_stable hP (.holdFunds _ _ _)
  · exact Keeps.throw'

/-- `placeOrder` inserts the order row, settles the trades and updates the row: none of it
    inserts an entry outside a `TransferFunds`. -/
theorem placeOrder_stable (userId : UUID) (req : CreateOrderRequest) :
    Keeps (fun w => P w.store) (placeOrder userId req) fun _ => True :=
  placeOrder_keeps (fun _ _ _ => commit_stable hP fun _ => by simp [Write.journalDelta])
    (processTrade_stable hP) (fun _ => exec_stable hP fun _ => rfl) userId req

/-- `CreateOrder` keeps the property, whatever fails. -/
theorem createOrder_stable (userId : UUID) (req : CreateOrderRequest) :
    Keeps (fun w => P w.store) (createOrder userId req) fun _ => True :=
  .bind (reserveFunds_keeps (holdFunds_stable hP) userId req) fun _ _ =>
    placeOrder_stable hP userId req

end Orders

/-- Storing the record of a request inserts no entry. -/
theorem record_stable (userId : UUID) (key fingerprint : String) (body : ResponseBody) :
    Keeps (fun w => P w.store) (record userId key fingerprint body) fun _ => True := by
  have hI := CallsBlind.store P
  refine .bind (begin_keeps hI) fun r hr => ?_
  rcases r with _ | tx
  · exact Keeps.pure' trivial
  refine .bind (attempt_keeps ((txExec_keeps hI _ _).bind fun r hr =>
    (orFail_keeps _ r).mono fun _ h => hr _ h)) fun r' hr' => ?_
  rcases r' with _ | tx'
  · exact Keeps.pure' trivial
  refine .bind (commit_stable hP (show Tx.Balanced tx' from ?_)) fun r'' _ => ?_
  · rw [hr' tx' rfl, hr tx rfl]
    intro
    simp [Write.journalDelta]
  · rcases r'' with _ | ⟨⟩ <;> exact Keeps.pure' trivial

end Requests

/-! ### The steps of a request -/

section Handlers
open App
variable {I : World → Prop}

theorem perform_keeps {operate : UUID → α → App ResponseBody}
    (hop : ∀ userId req, Keeps I (operate userId req) fun _ => True) (failure : String)
    (userId : UUID) (req : α) : Keeps I (perform operate failure userId req) fun _ => True :=
  .bind (attempt_keeps (hop userId req)) fun res _ => by
    rcases res with _ | _ <;> exact Keeps.pure' trivial

variable (hI : CallsBlind I)
include hI

theorem getIdempotencyKey_keeps (userId : UUID) (key : String) :
    Keeps I (getIdempotencyKey userId key) fun _ => True :=
  .bind (query_keeps hI _) fun r _ => by
    rcases r with _ | _
    · exact Keeps.throw'
    · exact Keeps.pure' trivial

theorem checkIdempotency_keeps (userId : UUID) (key fingerprint : String) :
    Keeps I (checkIdempotency userId key fingerprint) fun _ => True :=
  .bind (getIdempotencyKey_keeps hI _ _) fun k _ => by
    rcases k with _ | k
    · exact Keeps.pure' trivial
    · dsimp only
      split
      · exact Keeps.throw'
      · exact Keeps.pure' trivial

/-- The steps before the operation only read. -/
theorem precheck_keeps (r : Request α) : Keeps I (precheck r) fun _ => True := by
  unfold precheck
  split
  · dsimp only
    split
    · exact Keeps.pure' trivial
    · refine .bind (Keeps.pure' (Q := fun _ => True) trivial) fun _ _ => ?_
      refine .bind (attempt_keeps (checkIdempotency_keeps hI _ _ _)) fun res _ => ?_
      rcases res with _ | _ | _ <;> dsimp only
      · exact Keeps.pure' trivial
      · split <;> exact Keeps.pure' trivial
      · exact Keeps.pure' trivial
  · exact Keeps.pure' trivial

/-- A step of a request keeps what its operation and the storing of its record keep. -/
theorem Stage.step_keeps {operate : UUID → α → App ResponseBody}
    (hop : ∀ userId req, Keeps I (operate userId req) fun _ => True)
    (hrecord : ∀ userId key fingerprint body,
      Keeps I (record userId key fingerprint body) fun _ => True)
    (failure : String) (st : Stage α) : Keeps I (st.step operate failure) fun _ => True := by
  cases st with
  | start r =>
    exact .bind (precheck_keeps hI r) fun res _ => by
      rcases res with _ | _ <;> exact Keeps.pure' trivial
  | admitted r userId fingerprint req =>
    exact .bind (perform_keeps hop failure userId req) fun res _ => by
      rcases res with _ | _ <;> exact Keeps.pure' trivial
  | performed => exact (hrecord _ _ _ _).map fun _ _ => trivial
  | done => exact Keeps.pure' trivial

end Handlers

end MicroCoin
