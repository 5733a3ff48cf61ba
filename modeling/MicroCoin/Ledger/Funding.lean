import MicroCoin.Ledger.Journal

/-!
# Top-ups that never commit

`TopUpUser` (`internal/ledger/service.go`, lines 30–87) credits the user's USD account and
debits `uuid.Nil`, the "System equity account (placeholder)" of line 61. No migration and no
statement of the program creates an account with that id, and `ledger_entries.account_id`
`REFERENCES accounts(id)`: from tables without it, the insert of the debit fails, the
transaction is never committed, and the top-up fails having written nothing.

Without a top-up no balance leaves zero, and `HoldFunds` (lines 89–126) then refuses every
amount: a positive one is more than the zero available, any other is not positive. So every
`CreateOrder` (`src/unnamed/part_007`) fails at its reservation, before its order row.

Each of these is a `Keeps` over the worlds with one fixed tables `s₀`, with the postcondition
`False`: the computation writes nothing and never returns.

* `topUpUser_fails_without_nil_account`: from tables without an account `uuid.Nil`, every
  top-up fails and writes nothing; when no call fails, its error is the foreign key of the
  journal's debit.
* `Orders.createOrder_fails`: from tables whose balances are all zero, every order fails and
  writes nothing.
-/

namespace MicroCoin

open App

/-! ## Statements on a missing account -/

section Statements
variable {s : Store}

/-- A transaction of the ledger that ends with an entry on an account the tables lack fails. -/
theorem Store.runAll_insertLedgerEntry_missing {tx : Tx} (hl : ∀ wr ∈ tx, wr.IsLedger)
    {e : LedgerEntry} (he : ¬s.accounts.any (·.id = e.accountId)) (s' : Store) :
    s.runAll (tx ++ [.insertLedgerEntry e]) ≠ .ok s' := by
  rw [Store.runAll_append]
  rcases h : s.runAll tx with _ | s₁
  · exact fun h' => nomatch h'
  · intro h'
    simp only [Except.bind, Store.runAll] at h'
    rcases hr : s₁.run (.insertLedgerEntry e) with _ | s₂ <;> rw [hr] at h'
    · cases h'
    · obtain ⟨-, _, -, hany, -⟩ := Store.run_insertLedgerEntry.1 hr
      rw [Store.any_id_eq_keys, Store.runAll_keys hl h, ← Store.any_id_eq_keys] at hany
      exact he hany

end Statements

/-- A value and its negation fit the column alike. -/
theorem numeric_neg {d d' : Decimal} (h : numeric d = .ok d') : numeric d.neg = .ok d'.neg := by
  unfold numeric at h ⊢
  rw [Decimal.round_neg]
  dsimp only at h ⊢
  split at h
  · cases h
    rw [if_pos (by simpa [Decimal.neg] using ‹_›)]
    simp [Decimal.neg, Decimal.rescale]
  · cases h

/-! ## Computations that never return -/

/-- A computation that never returns fails from every world of its invariant. -/
theorem App.Keeps.error {I : World → Prop} {x : App α} (hx : Keeps I x fun _ => False)
    {env : Env} {w : World} (hw : I w) : ∃ e, (x.run' env w).1 = .error e := by
  rcases h : (x.run' env w).1 with e | a
  · exact ⟨e, rfl⟩
  · exact ((hx env w hw).2 a h).elim

section Fixed
variable (s₀ : Store)

/-- `Tx.Exec` on fixed tables returns the transaction with the statement only when the tables
    take it. -/
theorem txExec_found (tx : Tx) (wr : Write) :
    Keeps (fun w => w.store = s₀) (txExec tx wr) fun r =>
      ∀ tx', r = .ok tx' → tx' = tx ++ [wr] ∧ ∃ s, s₀.runAll (tx ++ [wr]) = .ok s :=
  fun env w hw => by
    subst hw
    rw [txExec_run']
    refine ⟨rfl, fun r hr tx' h => ?_⟩
    cases hr
    split at h
    · cases h
    · cases hrun : w.store.runAll (tx ++ [wr]) <;> simp only [hrun, Except.map] at h
      · cases h
      · exact ⟨(Except.ok.inj h).symm, _, rfl⟩

/-- The inserts of a journal with an entry on an account the tables lack never all succeed. -/
theorem insertEntries_fails (entries : List LedgerEntry) :
    ∀ tx : Tx, (∀ wr ∈ tx, wr.IsLedger) →
      (∃ e ∈ entries, ¬s₀.accounts.any (·.id = e.accountId)) →
      Keeps (fun w => w.store = s₀) (entries.foldlM (fun tx e => do
        orFail "failed to create ledger entry" (← txExec tx (.insertLedgerEntry e))) tx)
        fun _ => False := by
  induction entries with
  | nil => exact fun _ _ ⟨_, h, _⟩ => nomatch h
  | cons e entries ih =>
    intro tx htx ⟨e', he', hmiss'⟩
    simp only [List.foldlM_cons]
    refine .bind ((txExec_found s₀ tx _).bind fun r hr =>
      (orFail_keeps _ r).mono fun tx' h => hr tx' h) fun tx' ⟨htx', s, hs⟩ => ?_
    have hl : ∀ wr ∈ tx ++ [.insertLedgerEntry e], wr.IsLedger := fun wr h => by
      rcases List.mem_append.1 h with h | h
      · exact htx wr h
      · rw [List.mem_singleton.1 h]; trivial
    by_cases hmiss : s₀.accounts.any (·.id = e.accountId)
    · rcases List.mem_cons.1 he' with rfl | he'
      · exact absurd hmiss hmiss'
      · exact htx' ▸ ih _ hl ⟨e', he', hmiss'⟩
    · exact absurd hs (Store.runAll_insertLedgerEntry_missing htx hmiss _)

/-- `CreateJournal` with an entry on an account the tables lack never returns. -/
theorem createJournal_fails (tx : Tx) (htx : ∀ wr ∈ tx, wr.IsLedger) (entries : List LedgerEntry)
    (he : ∃ e ∈ entries, ¬s₀.accounts.any (·.id = e.accountId)) :
    Keeps (fun w => w.store = s₀) (createJournal tx entries) fun _ => False :=
  Keeps.ite_throw (Keeps.ite_throw (insertEntries_fails s₀ entries tx htx he))

variable {s₀}

/-- The journal of `TopUpUser` debits `uuid.Nil`: from tables without that account, its
    transaction never gets past the journal. -/
theorem topUpUserTx_fails (hs : ∀ a ∈ s₀.accounts, a.id ≠ uuidNil) (userId : UUID)
    (amount : Decimal) :
    Keeps (fun w => w.store = s₀) (topUpUserTx userId amount) fun _ => False :=
  requirePositive_begin_keeps (CallsBlind.store (· = s₀)) _ fun _ =>
    .bind (wrapErr_keeps _ (getAccountByUserIDAndCurrency_keeps (CallsBlind.store (· = s₀)) _ _))
      fun _ _ => .bind (newUuid_storeFixed.keeps (P := (· = s₀))) fun _ _ =>
    .bind (wrapErr_keeps _ (createJournal_fails s₀ [] (by simp) _
      ⟨_, .tail _ (.head _), by simpa using hs⟩)) fun _ h => h.elim

theorem topUpUser_fails (hs : ∀ a ∈ s₀.accounts, a.id ≠ uuidNil) (userId : UUID)
    (amount : Decimal) : Keeps (fun w => w.store = s₀) (topUpUser userId amount) fun _ => False :=
  .bind (topUpUserTx_fails hs userId amount) fun _ h => h.elim

/-- `if c then throw e` in a `do` block, when `c` holds. -/
theorem App.Keeps.ite_throw_of {I : World → Prop} {Q : α → Prop} {c : Prop} [Decidable c]
    {e : Err} {jp : PUnit → App α} (h : c) :
    Keeps I (if c then throw e >>= jp else pure ⟨⟩ >>= jp) Q := by
  rw [if_pos h]
  exact (Keeps.throw' (Q := fun _ => False)).bind fun _ h => h.elim

/-- From tables whose available balances are all zero, `HoldFunds` refuses every amount. -/
theorem holdFundsTx_fails (hs : ∀ a ∈ s₀.accounts, a.balanceAvailable.toRat = 0)
    (userId : UUID) (currency : Currency) (amount : Decimal) :
    Keeps (fun w => w.store = s₀) (holdFundsTx userId currency amount) fun _ => False :=
  requirePositive_begin_keeps (CallsBlind.store (· = s₀)) _ fun hpos =>
    .bind (wrapErr_keeps _ (getAccountByUserIDAndCurrency_found s₀ _ _)) fun acc hacc =>
      Keeps.ite_throw_of (by
        rw [Decimal.lessThan_iff, hs acc (List.mem_of_find?_eq_some hacc)]
        exact hpos)

theorem holdFunds_fails (hs : ∀ a ∈ s₀.accounts, a.balanceAvailable.toRat = 0) (userId : UUID)
    (currency : Currency) (amount : Decimal) :
    Keeps (fun w => w.store = s₀) (holdFunds userId currency amount) fun _ => False :=
  .bind (holdFundsTx_fails hs userId currency amount) fun _ h => h.elim

namespace Orders

theorem holdFunds_fails (hs : ∀ a ∈ s₀.accounts, a.balanceAvailable.toRat = 0) (userId : UUID)
    (req : CreateOrderRequest) (amount : Decimal) :
    Keeps (fun w => w.store = s₀) (holdFunds userId req amount) fun _ => False := by
  unfold holdFunds
  split
  · exact MicroCoin.holdFunds_fails hs _ _ _
  · exact Keeps.throw'

/-- From tables whose available balances are all zero, every `CreateOrder` fails at its
    reservation and writes nothing. -/
theorem createOrder_fails (hs : ∀ a ∈ s₀.accounts, a.balanceAvailable.toRat = 0)
    (userId : UUID) (req : CreateOrderRequest) :
    Keeps (fun w => w.store = s₀) (createOrder userId req) fun _ => False :=
  .bind (reserveFunds_keeps (holdFunds_fails hs) userId req) fun _ h => h.elim

end Orders

end Fixed

/-- `TopUpUser`'s transaction when no call fails, for a positive amount that fits the column and
    a user with a USD account: the credit is inserted, and the debit of `uuid.Nil` breaks the
    foreign key. -/
theorem topUpUserTx_foreignKey {userId : UUID} {amount d : Decimal} {env : Env} {w : World}
    {a : Account} (hw : ∀ a ∈ w.store.accounts, a.id ≠ uuidNil) (hf : ∀ n, env.fails n = false)
    (hpos : 0 < amount.toRat) (hd : numeric amount = .ok d)
    (ha : w.store.accountByUserAndCurrency userId currencyUSD = some a) :
    ((topUpUserTx userId amount).run' env w).1 =
      .error (.wrap "failed to create journal"
        (.wrap "failed to create ledger entry" (.db .foreignKeyViolation))) := by
  have hle : amount.lessThanOrEqual Decimal.zero = false := by
    rw [Bool.eq_false_iff, ne_eq, Decimal.lessThanOrEqual_iff, Decimal.toRat_zero]
    exact not_le.2 hpos
  have hacc : w.store.accounts.any (·.id = a.id) :=
    List.any_eq_true.2 ⟨a, List.mem_of_find?_eq_some ha, by simp⟩
  have hnil : w.store.accounts.any (·.id = uuidNil) = false := by simpa using hw
  simp only [topUpUserTx, requirePositive, hle, App.run'_bind, begin_run', hf,
    getAccountByUserIDAndCurrency, query_run', ha, newUuid_run', wrapErr_run', App.run'_pure,
    orFail_run', scanAccount, Bool.false_eq_true, if_false, Except.mapError,
    createJournal_balanced _ _ (List.cons_ne_nil _ _), List.map_cons, List.map_nil, List.sum_cons,
    List.sum_nil, Decimal.toRat_neg, add_neg_cancel, add_zero, if_true, List.foldlM_cons,
    List.foldlM_nil, txExec_run', List.nil_append, List.singleton_append]
  simp [Store.runAll, Store.run, enumValue, currencyUSD, hd, numeric_neg hd, hacc, hnil, Except.map,
    bind, Except.bind, pure, Except.pure, throw, throwThe, MonadExceptOf.throw]

/-- From tables with no account `uuid.Nil`, every `TopUpUser` fails and writes nothing. When no
    database call fails, the amount is positive and fits `NUMERIC(30,10)`, and the user has a USD
    account, it fails at the journal's debit of `uuid.Nil`, on the foreign key. -/
theorem topUpUser_fails_without_nil_account (userId : UUID) (amount : Decimal) (env : Env)
    (w : World) (hw : ∀ a ∈ w.store.accounts, a.id ≠ uuidNil) :
    (∃ e, ((topUpUser userId amount).run' env w).1 = .error e) ∧
      ((topUpUser userId amount).run' env w).2.store = w.store ∧
      ((∀ n, env.fails n = false) → 0 < amount.toRat → (∃ d, numeric amount = .ok d) →
        (w.store.accountByUserAndCurrency userId currencyUSD).isSome →
        ((topUpUser userId amount).run' env w).1 =
          .error (.wrap "failed to create journal"
            (.wrap "failed to create ledger entry" (.db .foreignKeyViolation)))) := by
  refine ⟨(topUpUser_fails hw userId amount).error rfl,
    ((topUpUser_fails hw userId amount) env w rfl).1, fun hf hpos ⟨d, hd⟩ hacc => ?_⟩
  obtain ⟨a, ha⟩ := Option.isSome_iff_exists.1 hacc
  have h := topUpUserTx_foreignKey hw hf hpos hd ha
  rw [topUpUser, App.run'_bind]
  rcases hr : (topUpUserTx userId amount).run' env w with ⟨r, w'⟩
  rw [hr] at h
  cases h
  rfl

/-- A top-up of 5 USD by user 1, whose USD account is the only account. -/
theorem topUpUser_fails_without_nil_account_five :
    let w := World.ofStore ⟨[⟨10, 1, currencyUSD, 0, 0⟩], [], [], []⟩
    let env : Env := ⟨fun _ => false, fun _ => none, fun _ _ => [], 0⟩
    (∀ a ∈ w.store.accounts, a.id ≠ uuidNil) ∧ (∀ n, env.fails n = false) ∧
      0 < (5 : Decimal).toRat ∧ (∃ d, numeric 5 = .ok d) ∧
      (w.store.accountByUserAndCurrency 1 currencyUSD).isSome ∧
      (∃ e, ((topUpUser 1 5).run' env w).1 = .error e) ∧
      ((topUpUser 1 5).run' env w).2.store = w.store ∧
      ((∀ n, env.fails n = false) → 0 < (5 : Decimal).toRat → (∃ d, numeric 5 = .ok d) →
        (w.store.accountByUserAndCurrency 1 currencyUSD).isSome →
        ((topUpUser 1 5).run' env w).1 =
          .error (.wrap "failed to create journal"
            (.wrap "failed to create ledger entry" (.db .foreignKeyViolation)))) := by
  intro w env
  have hw : ∀ a ∈ w.store.accounts, a.id ≠ uuidNil := by decide
  exact ⟨hw, fun _ => rfl, by rw [Decimal.toRat_ofNat]; norm_num, ⟨_, rfl⟩, rfl,
    topUpUser_fails_without_nil_account 1 5 env w hw⟩

end MicroCoin
