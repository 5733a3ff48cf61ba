import MicroCoin.Database

/-!
# `internal/ledger`: journals and balance operations

`CreateJournal` (`ledger.go`, lines 23–59) and the four balance operations of
`ledger.Service` (`service.go`): `TopUpUser`, `HoldFunds`, `ReleaseHold`,
`TransferFunds`, with the account reads of `internal/database/account.go`.

Each operation reads the accounts it needs through `r.db`, outside its transaction,
then writes absolute balances computed from those reads inside its transaction and
commits. `TransferFunds` reads the source and the destination before it writes either:
with `fromAccountID = toAccountID` the second `UpdateAccountBalance` overwrites the first
from the stale read (`transferFunds_same_account`).
-/

namespace MicroCoin

/-! ## `internal/database/account.go` -/

/-- The row `WHERE user_id = $1 AND currency = $2`. -/
def Store.accountByUserAndCurrency (s : Store) (userId : UUID) (currency : Currency) :
    Option Account :=
  s.accounts.find? fun a => a.userId = userId ∧ a.currency = currency

/-- The row `WHERE id = $1`. -/
def Store.accountById (s : Store) (id : UUID) : Option Account :=
  s.accounts.find? fun a => a.id = id

/-- The result of `QueryRow(...).Scan(...)` for an account: `sql.ErrNoRows` becomes
    `"account not found"`, any other error `"failed to get account: %w"`. -/
def scanAccount : Except DbError (Option Account) → App Account
  | .ok (some a) => pure a
  | .ok none => throw (.text "account not found")
  | .error e => throw (.wrap "failed to get account" (.db e))

/-- `GetAccountByUserIDAndCurrency` (lines 23–46). -/
def getAccountByUserIDAndCurrency (userId : UUID) (currency : Currency) : App Account := do
  scanAccount (← query (·.accountByUserAndCurrency userId currency))

/-- `GetAccountByID` (lines 100–123). -/
def getAccountByID (id : UUID) : App Account := do
  scanAccount (← query (·.accountById id))

/-- `UpdateAccountBalance(tx, accountID, available, hold)` (lines 85–98). -/
def updateAccountBalance (tx : Tx) (accountId : UUID) (available hold : Decimal) : App Tx := do
  orFail "failed to update account balance"
    (← txExec tx (.updateAccountBalance accountId available hold))

/-! ## `ledger.go` -/

/-- The sum of the amounts of a journal, from Go's zero `decimal.Decimal`. -/
def journalTotal (entries : List LedgerEntry) : Decimal :=
  entries.foldl (fun total e => total.add e.amount) ⟨0, 0⟩

/-- `CreateJournal(tx, entries)` (lines 23–59): refuse an empty journal and one whose
    amounts do not add up to zero, then insert every entry. -/
def createJournal (tx : Tx) (entries : List LedgerEntry) : App Tx := do
  if entries.length = 0 then throw (.text "journal must have at least one entry")
  let total := journalTotal entries
  if !total.isZero then throw (.journalNotBalanced total)
  entries.foldlM (fun tx e => do
    orFail "failed to create ledger entry" (← txExec tx (.insertLedgerEntry e))) tx

theorem toRat_foldl_add_amount (init : Decimal) (entries : List LedgerEntry) :
    (entries.foldl (fun total e => total.add e.amount) init).toRat =
      init.toRat + (entries.map (·.amount.toRat)).sum := by
  induction entries generalizing init with
  | nil => simp
  | cons e entries ih => simp [ih, add_assoc]

/-- The total of a journal is the sum of its amounts, whatever their currencies. -/
theorem toRat_journalTotal (entries : List LedgerEntry) :
    (journalTotal entries).toRat = (entries.map (·.amount.toRat)).sum := by
  rw [journalTotal, toRat_foldl_add_amount]
  simp [Decimal.toRat]

/-- `CreateJournal` on a non-empty journal goes on to insert the entries exactly when all
    its amounts, in whatever currencies, add up to zero; otherwise it fails with
    `journal is not balanced` and writes nothing. -/
theorem createJournal_balanced (tx : Tx) (entries : List LedgerEntry) (hne : entries ≠ [])
    (env : Env) (w : World) :
    (createJournal tx entries).run' env w =
      if (entries.map (·.amount.toRat)).sum = 0 then
        (entries.foldlM (fun tx e => do
          orFail "failed to create ledger entry" (← txExec tx (.insertLedgerEntry e))) tx).run' env w
      else (.error (.journalNotBalanced (journalTotal entries)), w) := by
  have hlen : entries.length ≠ 0 := by simpa using hne
  rw [← toRat_journalTotal]
  simp only [← Decimal.isZero_iff]
  rcases hz : (journalTotal entries).isZero <;> simp [createJournal, hlen, hz, App.run'_bind]

/-- The top-up journal of 5 USD, credit and equity debit. -/
theorem createJournal_balanced_topUp :
    let entries : List LedgerEntry :=
      [⟨1, 10, 5, currencyUSD, "TOPUP", 1⟩, ⟨1, uuidNil, (5 : Decimal).neg, currencyUSD, "TOPUP", 1⟩]
    entries ≠ [] ∧
      (createJournal [] entries).run' ⟨fun _ => false, fun _ => none, fun _ _ => [], 0⟩
          (World.ofStore default) =
        if (entries.map (·.amount.toRat)).sum = 0 then
          (entries.foldlM (fun tx e => do
            orFail "failed to create ledger entry" (← txExec tx (.insertLedgerEntry e))) []).run'
              ⟨fun _ => false, fun _ => none, fun _ _ => [], 0⟩ (World.ofStore default)
        else (.error (.journalNotBalanced (journalTotal entries)), World.ofStore default) :=
  ⟨List.cons_ne_nil _ _, createJournal_balanced _ _ (List.cons_ne_nil _ _) _ _⟩

set_option smartUnfolding false in
/-- A journal of +1 USD on account 10 and −1 BTC on account 21: neither currency balances on
    its own, yet the amounts add up to zero and `CreateJournal` inserts both entries. -/
theorem createJournal_cross_currency :
    let s : Store := ⟨[⟨10, 1, currencyUSD, 0, 0⟩, ⟨21, 2, currencyBTC, 0, 0⟩], [], [], []⟩
    let entries : List LedgerEntry :=
      [⟨1, 10, 1, currencyUSD, "TRADE", 7⟩, ⟨1, 21, (1 : Decimal).neg, currencyBTC, "TRADE", 7⟩]
    (journalTotal (entries.filter (·.currency = currencyUSD))).isZero = false ∧
      (journalTotal (entries.filter (·.currency = currencyBTC))).isZero = false ∧
      ((createJournal [] entries).run' ⟨fun _ => false, fun _ => none, fun _ _ => [], 0⟩
        (World.ofStore s)).1 = .ok (entries.map .insertLedgerEntry) := by
  decide

/-! ## `service.go` -/

/-- `if amount.LessThanOrEqual(decimal.Zero) { return ..., fmt.Errorf("amount must be
    positive") }`, the first check of every operation. -/
def requirePositive (amount : Decimal) : App Unit :=
  if amount.lessThanOrEqual Decimal.zero then throw (.text "amount must be positive")
  else pure ()

/-- Lines 32–79 of `TopUpUser(userID, amount)`: a journal crediting the user's USD account
    and debiting the system equity placeholder `uuid.Nil`, and the new available balance,
    in a transaction not yet committed; with the account it returns. -/
def topUpUserTx (userId : UUID) (amount : Decimal) : App (Tx × Account) := do
  requirePositive amount
  let tx ← orFail "failed to begin transaction" (← begin)
  let account ← wrapErr "failed to get USD account"
    (getAccountByUserIDAndCurrency userId currencyUSD)
  let journalId ← newUuid
  let entries : List LedgerEntry :=
    [⟨journalId, account.id, amount, currencyUSD, "TOPUP", journalId⟩,
     ⟨journalId, uuidNil, amount.neg, currencyUSD, "TOPUP", journalId⟩]
  let tx ← wrapErr "failed to create journal" (createJournal tx entries)
  let newBalance := account.balanceAvailable.add amount
  let tx ← wrapErr "failed to update account balance"
    (updateAccountBalance tx account.id newBalance account.balanceHold)
  return (tx, { account with balanceAvailable := newBalance })

/-- `TopUpUser(userID, amount)` (lines 30–87). -/
def topUpUser (userId : UUID) (amount : Decimal) : App Account := do
  let (tx, account) ← topUpUserTx userId amount
  orFail "failed to commit transaction" (← commit tx)
  return account

/-- Lines 91–120 of `HoldFunds(userID, currency, amount)`: move `amount` from available to
    hold, if available, in a transaction not yet committed. -/
def holdFundsTx (userId : UUID) (currency : Currency) (amount : Decimal) : App Tx := do
  requirePositive amount
  let tx ← orFail "failed to begin transaction" (← begin)
  let account ← wrapErr "failed to get account" (getAccountByUserIDAndCurrency userId currency)
  if account.balanceAvailable.lessThan amount then
    throw (.insufficientFunds account.balanceAvailable amount)
  wrapErr "failed to update account balance"
    (updateAccountBalance tx account.id (account.balanceAvailable.sub amount)
      (account.balanceHold.add amount))

/-- `HoldFunds(userID, currency, amount)` (lines 89–126). -/
def holdFunds (userId : UUID) (currency : Currency) (amount : Decimal) : App Unit := do
  let tx ← holdFundsTx userId currency amount
  orFail "failed to commit transaction" (← commit tx)

/-- Lines 130–159 of `ReleaseHold(userID, currency, amount)`: move `amount` from hold back
    to available, if held, in a transaction not yet committed. -/
def releaseHoldTx (userId : UUID) (currency : Currency) (amount : Decimal) : App Tx := do
  requirePositive amount
  let tx ← orFail "failed to begin transaction" (← begin)
  let account ← wrapErr "failed to get account" (getAccountByUserIDAndCurrency userId currency)
  if account.balanceHold.lessThan amount then
    throw (.insufficientHeldFunds account.balanceHold amount)
  wrapErr "failed to update account balance"
    (updateAccountBalance tx account.id (account.balanceAvailable.add amount)
      (account.balanceHold.sub amount))

/-- `ReleaseHold(userID, currency, amount)` (lines 128–165). -/
def releaseHold (userId : UUID) (currency : Currency) (amount : Decimal) : App Unit := do
  let tx ← releaseHoldTx userId currency amount
  orFail "failed to commit transaction" (← commit tx)

/-- Lines 169–233 of `TransferFunds(fromAccountID, toAccountID, amount, currency, refType,
    refID)`: both accounts are read, then the journal is written and both balances are set
    from the reads, in a transaction not yet committed. -/
def transferFundsTx (fromAccountId toAccountId : UUID) (amount : Decimal) (currency : Currency)
    (refType : String) (refId : UUID) : App Tx := do
  requirePositive amount
  let tx ← orFail "failed to begin transaction" (← begin)
  let fromAccount ← wrapErr "failed to get from account" (getAccountByID fromAccountId)
  let toAccount ← wrapErr "failed to get to account" (getAccountByID toAccountId)
  if fromAccount.balanceAvailable.lessThan amount then
    throw (.insufficientFundsInFromAccount fromAccount.balanceAvailable amount)
  let journalId ← newUuid
  let entries : List LedgerEntry :=
    [⟨journalId, fromAccountId, amount.neg, currency, refType, refId⟩,
     ⟨journalId, toAccountId, amount, currency, refType, refId⟩]
  let tx ← wrapErr "failed to create journal" (createJournal tx entries)
  let tx ← wrapErr "failed to update from account balance"
    (updateAccountBalance tx fromAccountId (fromAccount.balanceAvailable.sub amount)
      fromAccount.balanceHold)
  wrapErr "failed to update to account balance"
    (updateAccountBalance tx toAccountId (toAccount.balanceAvailable.add amount)
      toAccount.balanceHold)

/-- `TransferFunds(...)` (lines 167–239). -/
def transferFunds (fromAccountId toAccountId : UUID) (amount : Decimal) (currency : Currency)
    (refType : String) (refId : UUID) : App Unit := do
  let tx ← transferFundsTx fromAccountId toAccountId amount currency refType refId
  orFail "failed to commit transaction" (← commit tx)

/-! ## What the operations keep

One `Keeps` lemma per operation, for the invariants that do not read the count of
database calls. A balance operation writes accounts and ledger entries only, so it keeps
the order rows; `HoldFunds` writes nothing until its last step commits. -/

section Keeps
open App
variable {I : World → Prop}

theorem requirePositive_keeps (a : Decimal) : Keeps I (requirePositive a) fun _ => 0 < a.toRat := by
  unfold requirePositive; split
  · exact Keeps.throw'
  · next h => exact Keeps.pure' (by simpa using h)

theorem scanAccount_keeps (r : Except DbError (Option Account)) :
    Keeps I (scanAccount r) fun _ => True := by
  rcases r with _ | _ | _ <;> first | exact Keeps.throw' | exact Keeps.pure' trivial

variable (hI : CallsBlind I)
include hI

theorem getAccountByUserIDAndCurrency_keeps (userId : UUID) (currency : Currency) :
    Keeps I (getAccountByUserIDAndCurrency userId currency) fun _ => True :=
  (query_keeps hI _).bind fun r _ => scanAccount_keeps r

theorem getAccountByID_keeps (id : UUID) : Keeps I (getAccountByID id) fun _ => True :=
  (query_keeps hI _).bind fun r _ => scanAccount_keeps r

theorem updateAccountBalance_keeps (tx : Tx) (id : UUID) (a h : Decimal) :
    Keeps I (updateAccountBalance tx id a h) (· = tx ++ [.updateAccountBalance id a h]) :=
  (txExec_keeps hI _ _).bind fun r hr => (orFail_keeps _ r).mono fun _ h => hr _ h

theorem insertEntries_keeps (entries : List LedgerEntry) (tx : Tx) :
    Keeps I (entries.foldlM (fun tx e => do
      orFail "failed to create ledger entry" (← txExec tx (.insertLedgerEntry e))) tx)
      (· = tx ++ entries.map .insertLedgerEntry) := by
  induction entries generalizing tx with
  | nil => exact Keeps.pure' (by simp)
  | cons e entries ih =>
    simp only [List.foldlM_cons]
    exact ((txExec_keeps hI _ _).bind fun r hr => (orFail_keeps _ r).mono fun _ h => hr _ h).bind
      fun tx' h => (ih tx').mono fun _ h' => by simp [h', h]

theorem createJournal_keeps (tx : Tx) (entries : List LedgerEntry) :
    Keeps I (createJournal tx entries) (· = tx ++ entries.map .insertLedgerEntry) :=
  Keeps.ite_throw (Keeps.ite_throw (insertEntries_keeps hI entries tx))

/-- The opening of every balance operation: the amount check, after which the amount is
    positive, then `Begin`, which starts an empty transaction. -/
theorem requirePositive_begin_keeps (amount : Decimal) {f : Tx → App β} {Q : β → Prop}
    (h : 0 < amount.toRat → Keeps I (f []) Q) :
    Keeps I (do
      requirePositive amount
      let tx ← orFail "failed to begin transaction" (← begin)
      f tx) Q :=
  .bind (requirePositive_keeps _) fun _ hpos => .bind (begin_keeps hI) fun r hr =>
    .bind (orFail_keeps _ r) fun tx htx => hr tx htx ▸ h hpos

end Keeps

/-- The transaction of `TransferFunds` is a journal and the balances of the two accounts; it
    writes nothing before its commit. -/
theorem transferFundsTx_keeps (P : Store → Prop) (fromAccountId toAccountId : UUID)
    (amount : Decimal) (currency : Currency) (refType : String) (refId : UUID) :
    App.Keeps (fun w => P w.store)
      (transferFundsTx fromAccountId toAccountId amount currency refType refId)
      fun tx => ∀ wr ∈ tx, wr.Within [fromAccountId, toAccountId] := by
  have hI := CallsBlind.store P
  refine requirePositive_begin_keeps hI _ fun _ =>
    .bind (wrapErr_keeps _ (getAccountByID_keeps hI _)) fun _ _ =>
    .bind (wrapErr_keeps _ (getAccountByID_keeps hI _)) fun _ _ => .ite_throw ?_
  refine .bind (newUuid_storeFixed.keeps (P := P)) fun _ _ =>
    .bind (wrapErr_keeps _ (createJournal_keeps hI _ _)) fun tx₁ h₁ =>
    .bind (wrapErr_keeps _ (updateAccountBalance_keeps hI _ _ _ _)) fun tx₂ h₂ =>
    (wrapErr_keeps _ (updateAccountBalance_keeps hI _ _ _ _)).mono fun tx₃ h₃ => ?_
  simp [h₃, h₂, h₁, Write.Within]

/-- The sum of the amounts of the ledger entries written for account `id`. -/
def Store.ledgerSum (s : Store) (id : UUID) : Decimal :=
  (s.entries.filter (·.accountId = id)).foldl (fun t e => t.add e.amount) ⟨0, 0⟩

/-- `BalanceAvailable + BalanceHold` of account `id`, less its ledger sum: what the
    account holds that no journal accounts for. -/
def Store.unjournaled (s : Store) (id : UUID) : Decimal :=
  (((s.accountById id).map fun (a : Account) => a.balanceAvailable.add a.balanceHold).getD 0).sub
    (s.ledgerSum id)

/-- A transfer of 5 from an account holding 10 (and no entries) to itself succeeds with a
    balanced journal of −5 and +5 on the account, but both `UpdateAccountBalance`s start
    from the same read and the second leaves `BalanceAvailable = 15`: the part of the
    account no journal accounts for goes from 10 to 15. -/
theorem transferFunds_same_account :
    let s : Store := ⟨[⟨1, 1, currencyUSD, 10, 0⟩], [], [], []⟩
    let (r, w) := (transferFunds 1 1 5 currencyUSD "TRADE" 9).run'
      ⟨fun _ => false, fun _ => none, fun _ _ => [], 0⟩ (World.ofStore s)
    r = .ok () ∧ w.store.entries.length = 2 ∧ (w.store.ledgerSum 1).isZero ∧
      (s.unjournaled 1).equal 10 ∧ (w.store.unjournaled 1).equal 15 := by
  decide

end MicroCoin
