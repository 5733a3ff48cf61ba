import MicroCoin.Ledger.Service

/-!
# Ledger operations run at once

`TopUpUser`, `HoldFunds`, `ReleaseHold` and `TransferFunds` (`service.go`, lines 30–239)
read their accounts through `r.db`, outside their transaction and with no row lock, and
write absolute balances with `UpdateAccountBalance`. Each operation is split here at its
commit: `LedgerOp.prepare` makes the reads and builds the transaction, `commit` applies it.
`interleave` runs the steps of several operations in the order a schedule gives them, and
the serial run of the same operations is `List.forM LedgerOp.run`.

* `LedgerOp.prepare_agree`: an operation that builds a transaction, with any database faults,
  builds the same one, up to the ids of its journal, with none, from any tables in which the
  rows it reads are the same.
* `interleave_serializable`: when no two operations that name a common account overlap, the
  operations that commit, run one after another in the order they committed and with no
  database fault, all commit and leave the same balances. The run lemma is
  `interleave_simulates`, from the step lemmas of `Simulates`.
* `interleave_loses_hold`: two holds on one account that overlap both commit, and the
  second overwrites the first.
-/

namespace MicroCoin

/-- The columns of an account no ledger statement writes: its id, owner and currency. -/
def Account.key (a : Account) : UUID × UUID × Currency := (a.id, a.userId, a.currency)

/-- The keys of the accounts table, row by row. -/
def Store.keys (s : Store) : List (UUID × UUID × Currency) := s.accounts.map Account.key

/-- An entry with its journal and reference ids blanked. -/
def LedgerEntry.anonymize (e : LedgerEntry) : LedgerEntry := { e with journalId := 0, refId := 0 }

/-- A statement with the journal and reference ids of its entry blanked. -/
def Write.anonymize : Write → Write
  | .insertLedgerEntry e => .insertLedgerEntry e.anonymize
  | wr => wr

/-- Two transactions of the ledger that differ at most in the journal and reference ids of
    their entries. -/
def Tx.Similar (tx₁ tx₂ : Tx) : Prop :=
  tx₁.map Write.anonymize = tx₂.map Write.anonymize ∧ ∀ wr ∈ tx₁, wr.IsLedger

section Statements
variable {s s' s₁ s₂ : Store} {wr₁ wr₂ : Write}

theorem Store.any_id_eq_keys (s : Store) (id : UUID) :
    s.accounts.any (·.id = id) = s.keys.any (·.1 = id) := by
  unfold Store.keys
  induction s.accounts with
  | nil => rfl
  | cons a l ih => simp [Account.key, ih]

theorem Write.anonymize_eq_ledger (hl : wr₁.IsLedger) (hw : wr₁.anonymize = wr₂.anonymize) :
    (∃ id a h, wr₁ = .updateAccountBalance id a h ∧ wr₂ = wr₁) ∨
      ∃ e₁ e₂, wr₁ = .insertLedgerEntry e₁ ∧ wr₂ = .insertLedgerEntry e₂ ∧
        e₁.accountId = e₂.accountId ∧ e₁.amount = e₂.amount ∧ e₁.currency = e₂.currency := by
  cases wr₁ <;> cases wr₂ <;> simp_all [Write.anonymize, LedgerEntry.anonymize, Write.IsLedger]

theorem Write.IsLedger.of_anonymize (hl : wr₁.IsLedger) (hw : wr₁.anonymize = wr₂.anonymize) :
    wr₂.IsLedger := by
  cases wr₁ <;> cases wr₂ <;> simp_all [Write.anonymize, Write.IsLedger]

/-- A statement of the ledger keeps the keys of the accounts. -/
theorem Store.run_keys (hl : wr₁.IsLedger) (h : s.run wr₁ = .ok s') : s'.keys = s.keys := by
  cases wr₁ with
  | updateAccountBalance =>
    obtain ⟨_, _, -, -, rfl⟩ := Store.run_updateAccountBalance.1 h
    simp only [Store.keys, List.map_map]
    congr 1; funext acc; simp only [Function.comp_apply, Account.key]; split <;> rfl
  | insertLedgerEntry => obtain ⟨-, _, -, -, rfl⟩ := Store.run_insertLedgerEntry.1 h; rfl
  | _ => cases hl

/-- A statement of the ledger succeeds, or fails with the same error, on tables with the same
    keys: what it checks is the values it writes and that the account of an entry exists. -/
theorem Store.run_congr_keys (hl : wr₁.IsLedger) (hw : wr₁.anonymize = wr₂.anonymize)
    (hk : s₁.keys = s₂.keys) : (s₁.run wr₁).map (fun _ => ()) = (s₂.run wr₂).map (fun _ => ()) := by
  rcases Write.anonymize_eq_ledger hl hw with
    ⟨id, a, h, rfl, rfl⟩ | ⟨e₁, e₂, rfl, rfl, hid, hm, hc⟩
  · simp only [Store.run, bind, Except.bind, pure, Except.pure]
    cases numeric a <;> cases numeric h <;> rfl
  · simp only [Store.run, enumValue, bind, Except.bind, pure, Except.pure, hc, hm, hid,
      Store.any_id_eq_keys, hk]
    repeat' split
    all_goals rfl

/-- On tables with the same accounts, a statement of the ledger leaves the same accounts. -/
theorem Store.run_congr_accounts (hl : wr₁.IsLedger) (hw : wr₁.anonymize = wr₂.anonymize)
    (ha : s₁.accounts = s₂.accounts) :
    (s₁.run wr₁).map (·.accounts) = (s₂.run wr₂).map (·.accounts) := by
  rcases Write.anonymize_eq_ledger hl hw with
    ⟨id, a, h, rfl, rfl⟩ | ⟨e₁, e₂, rfl, rfl, hid, hm, hc⟩
  · simp only [Store.run, bind, Except.bind, pure, Except.pure, ha]
    cases numeric a <;> cases numeric h <;> rfl
  · simp only [Store.run, enumValue, bind, Except.bind, pure, Except.pure, hc, hm, hid, ha]
    repeat' split
    all_goals rfl

theorem Tx.Similar.cons {wr₁ : Write} {tx₁ tx₂ : Tx} (h : Tx.Similar (wr₁ :: tx₁) tx₂) :
    ∃ wr₂ tx₂', tx₂ = wr₂ :: tx₂' ∧ wr₁.anonymize = wr₂.anonymize ∧ wr₁.IsLedger ∧
      Tx.Similar tx₁ tx₂' := by
  obtain ⟨hm, hl⟩ := h
  cases tx₂ with
  | nil => cases hm
  | cons wr₂ tx₂' =>
    simp only [List.map_cons, List.cons.injEq] at hm
    exact ⟨wr₂, tx₂', rfl, hm.1, hl _ (.head _), hm.2, fun w hw => hl w (.tail _ hw)⟩

/-- A transaction of the ledger keeps the keys of the accounts. -/
theorem Store.runAll_keys {tx : Tx} (hl : ∀ wr ∈ tx, wr.IsLedger) (h : s.runAll tx = .ok s') :
    s'.keys = s.keys := by
  induction tx generalizing s with
  | nil => cases h; rfl
  | cons wr tx ih =>
    simp only [Store.runAll] at h
    split at h
    · next s₁ h₁ => rw [ih (fun w hw => hl w (.tail _ hw)) h, Store.run_keys (hl wr (.head _)) h₁]
    · cases h

/-- Similar transactions of the ledger both commit, or fail with the same error, on tables
    with the same keys. -/
theorem Store.runAll_congr_keys {tx₁ tx₂ : Tx} (hs : Tx.Similar tx₁ tx₂) (hk : s₁.keys = s₂.keys) :
    (s₁.runAll tx₁).map (fun _ => ()) = (s₂.runAll tx₂).map (fun _ => ()) := by
  induction tx₁ generalizing tx₂ s₁ s₂ with
  | nil => obtain rfl : tx₂ = [] := List.map_eq_nil_iff.1 hs.1.symm; rfl
  | cons wr tx ih =>
    obtain ⟨wr₂, tx₂, rfl, hw, hl, hs⟩ := hs.cons
    have hr := Store.run_congr_keys hl hw hk
    simp only [Store.runAll]
    rcases h₁ : s₁.run wr with _ | s₁' <;> rcases h₂ : s₂.run wr₂ with _ | s₂' <;>
      rw [h₁, h₂] at hr <;> simp only [Except.map, Except.error.injEq, reduceCtorEq] at hr ⊢
    · exact hr
    · exact ih hs (by rw [Store.run_keys hl h₁, Store.run_keys (hl.of_anonymize hw) h₂, hk])

/-- Similar transactions of the ledger leave the same accounts on tables with the same
    accounts. -/
theorem Store.runAll_congr_accounts {tx₁ tx₂ : Tx} (hs : Tx.Similar tx₁ tx₂)
    (ha : s₁.accounts = s₂.accounts) :
    (s₁.runAll tx₁).map (·.accounts) = (s₂.runAll tx₂).map (·.accounts) := by
  induction tx₁ generalizing tx₂ s₁ s₂ with
  | nil =>
    obtain rfl : tx₂ = [] := List.map_eq_nil_iff.1 hs.1.symm
    simp [Store.runAll, Except.map, ha]
  | cons wr tx ih =>
    obtain ⟨wr₂, tx₂, rfl, hw, hl, hs⟩ := hs.cons
    have hr := Store.run_congr_accounts hl hw ha
    simp only [Store.runAll]
    rcases h₁ : s₁.run wr with _ | s₁' <;> rcases h₂ : s₂.run wr₂ with _ | s₂' <;>
      rw [h₁, h₂] at hr <;>
      simp only [Except.map, Except.error.injEq, Except.ok.injEq, reduceCtorEq] at hr ⊢
    · exact hr
    · exact ih hs hr

/-- The account of a user and currency is found by its key. -/
theorem Store.accountByUserAndCurrency_id (s : Store) (userId : UUID)
    (currency : Currency) : (s.accountByUserAndCurrency userId currency).map (·.id) =
      (s.keys.find? fun k => k.2.1 = userId ∧ k.2.2 = currency).map (·.1) := by
  rw [Store.accountByUserAndCurrency, Store.keys, List.find?_map, Option.map_map]
  rfl

/-- Setting the balances of account `id` leaves a row found by its keys, unless it is that
    account. -/
theorem find?_setBalances {l : List Account} {p : Account → Bool}
    (hp : ∀ a x y, p { a with balanceAvailable := x, balanceHold := y } = p a) {id : UUID}
    {x y : Decimal} (hr : ∀ r ∈ l.find? p, r.id ≠ id) :
    l.find? p = (l.map fun acc =>
      if acc.id = id then { acc with balanceAvailable := x, balanceHold := y } else acc).find? p := by
  rw [List.find?_map]
  have hpg : (p ∘ fun acc => if acc.id = id then { acc with balanceAvailable := x, balanceHold := y }
      else acc) = p := funext fun a => by simp only [Function.comp_apply]; split <;> simp [hp]
  rw [hpg]
  cases h : l.find? p with
  | none => rfl
  | some r => simp [hr r h]

end Statements

/-! ## A run with faults against one without

Every database call of a balance operation fails the operation when it faults: a run that
returns met no fault that mattered. So a run that returns, with any faults, is matched by the
run with none, from tables on which it reads the same. -/

/-- The result of a run with faults against that of a run without: when the first returned,
    the second returned a value related by `Q`. -/
def Except.Agree (Q : α → α → Prop) : Except ε α → Except ε α → Prop
  | .ok a, .ok b => Q a b
  | .ok _, .error _ => False
  | .error _, _ => True

/-- `x₁`, run with any database faults, and `x₂`, run with none, from worlds whose tables are
    related by `S`: when `x₁` returns, `x₂` returns a value related by `Q`, and the two leave
    tables related by `S`. -/
def App.Agree (S : Store → Store → Prop) (x₁ x₂ : App α) (Q : α → α → Prop) : Prop :=
  ∀ env w₁ w₂ a w₁', S w₁.store w₂.store → x₁.run' env w₁ = (.ok a, w₁') →
    ∃ b w₂', x₂.run' env.faultless w₂ = (.ok b, w₂') ∧ Q a b ∧ S w₁'.store w₂'.store

namespace App.Agree

variable {S : Store → Store → Prop} {x₁ x₂ : App α} {Q : α → α → Prop}

theorem pure' {a b : α} (h : Q a b) : Agree S (pure a) (pure b) Q := by
  rintro env w₁ w₂ _ _ hS ⟨⟩
  exact ⟨b, w₂, rfl, h, hS⟩

/-- A run that fails asks nothing of the other. -/
theorem throw' {e : Err} : Agree S (throw e : App α) x₂ Q := by
  rintro env w₁ w₂ _ _ _ ⟨⟩

theorem bind {f₁ f₂ : α → App β} {R : β → β → Prop} (hx : Agree S x₁ x₂ Q)
    (hf : ∀ a b, Q a b → Agree S (f₁ a) (f₂ b) R) : Agree S (x₁ >>= f₁) (x₂ >>= f₂) R := by
  intro env w₁ w₂ c w₁' hS h
  obtain ⟨a, w₁'', h₁, k₁⟩ := App.run'_bind_ok h
  obtain ⟨b, w₂'', h₂, hQ, hS'⟩ := hx env w₁ w₂ a w₁'' hS h₁
  obtain ⟨d, w₂', k₂, hR, hS''⟩ := hf a b hQ env w₁'' w₂'' c w₁' hS' k₁
  exact ⟨d, w₂', by rw [App.run'_bind, h₂]; exact k₂, hR, hS''⟩

theorem wrapErr {c₁ c₂ : String} (hx : Agree S x₁ x₂ Q) :
    Agree S (wrapErr c₁ x₁) (wrapErr c₂ x₂) Q := by
  intro env w₁ w₂ a w₁' hS h
  obtain ⟨b, w₂', h₂, hQ, hS'⟩ := hx env w₁ w₂ a w₁' hS (wrapErr_ok h)
  exact ⟨b, w₂', by rw [wrapErr_run', h₂], hQ, hS'⟩

theorem map {f : α → β} {R : β → β → Prop} (hx : Agree S x₁ x₂ Q)
    (hf : ∀ a b, Q a b → R (f a) (f b)) : Agree S (f <$> x₁) (f <$> x₂) R := by
  rw [← bind_pure_comp, ← bind_pure_comp]
  exact hx.bind fun a b h => pure' (hf a b h)

/-- `if c then throw e` in a `do` block, before the rest `jp` of the block, with conditions
    that hold together. -/
theorem ite_throw {c₁ c₂ : Prop} [Decidable c₁] [Decidable c₂] {e₁ e₂ : Err}
    {jp₁ jp₂ : PUnit → App α} (hc : c₁ ↔ c₂) (h : Agree S (jp₁ ⟨⟩) (jp₂ ⟨⟩) Q) :
    Agree S (if c₁ then throw e₁ >>= jp₁ else pure ⟨⟩ >>= jp₁)
      (if c₂ then throw e₂ >>= jp₂ else pure ⟨⟩ >>= jp₂) Q := by
  by_cases h₁ : c₁
  · rw [if_pos h₁, if_pos (hc.1 h₁)]
    exact throw'.bind (Q := fun _ _ => False) fun _ _ h => h.elim
  · rw [if_neg h₁, if_neg (mt hc.2 h₁)]
    exact (pure' (Q := fun _ _ => True) trivial).bind fun _ _ _ => h

theorem orFail {c : String} {r₁ r₂ : Except DbError α} (h : Except.Agree Q r₁ r₂) :
    Agree S (MicroCoin.orFail c r₁) (MicroCoin.orFail c r₂) Q := by
  intro env w₁ w₂ a w₁' hS h₁
  obtain ⟨rfl, rfl⟩ := orFail_ok h₁
  rcases r₂ with _ | b
  · exact h.elim
  · exact ⟨b, w₂, rfl, h, hS⟩

end App.Agree

theorem Tx.Similar.refl {tx : Tx} (h : ∀ wr ∈ tx, wr.IsLedger) : Tx.Similar tx tx := ⟨rfl, h⟩

theorem Tx.Similar.append {t₁ t₂ u₁ u₂ : Tx} (ht : Tx.Similar t₁ t₂) (hu : Tx.Similar u₁ u₂) :
    Tx.Similar (t₁ ++ u₁) (t₂ ++ u₂) :=
  ⟨by simp only [List.map_append, ht.1, hu.1],
    fun wr h => (List.mem_append.1 h).elim (ht.2 wr) (hu.2 wr)⟩

/-- The entries of two journals that differ at most in journal and reference ids. -/
theorem Tx.similar_entries {es₁ es₂ : List LedgerEntry}
    (he : es₁.map LedgerEntry.anonymize = es₂.map LedgerEntry.anonymize) :
    Tx.Similar (es₁.map .insertLedgerEntry) (es₂.map .insertLedgerEntry) :=
  ⟨by simpa only [List.map_map, Function.comp_def, Write.anonymize] using
      congrArg (List.map Write.insertLedgerEntry) he,
    fun wr h => by obtain ⟨e, -, rfl⟩ := List.mem_map.1 h; trivial⟩

theorem journalTotal_anonymize (es : List LedgerEntry) :
    journalTotal (es.map LedgerEntry.anonymize) = journalTotal es := by
  simp only [journalTotal, List.foldl_map]
  rfl

section Primitives
open App
variable {S : Store → Store → Prop}

theorem query_agree (f : Store → α) (hf : ∀ s₁ s₂, S s₁ s₂ → f s₁ = f s₂) :
    Agree S (query f) (query f) (Except.Agree (· = ·)) := by
  intro env w₁ w₂ r w₁' hS h
  rw [query_run', Prod.mk.injEq, Except.ok.injEq] at h
  obtain ⟨rfl, rfl⟩ := h
  refine ⟨_, _, query_run' _ _ _, ?_, hS⟩
  cases env.fails w₁.calls
  · exact hf _ _ hS
  · trivial

theorem begin_agree :
    Agree S begin begin (Except.Agree fun t₁ t₂ => t₁ = [] ∧ t₂ = []) := by
  intro env w₁ w₂ r w₁' hS h
  rw [begin_run', Prod.mk.injEq, Except.ok.injEq] at h
  obtain ⟨rfl, rfl⟩ := h
  refine ⟨_, _, begin_run' _ _, ?_, hS⟩
  cases env.fails w₁.calls
  · exact ⟨rfl, rfl⟩
  · trivial

theorem newUuid_agree : Agree S newUuid newUuid fun _ _ => True := by
  rintro env w₁ w₂ _ _ hS ⟨⟩
  exact ⟨_, _, rfl, trivial, hS⟩

theorem scanAccount_agree {r₁ r₂ : Except DbError (Option Account)}
    (h : Except.Agree (· = ·) r₁ r₂) : Agree S (scanAccount r₁) (scanAccount r₂) (· = ·) := by
  rcases r₁ with _ | _ | a
  · exact .throw'
  · exact .throw'
  · rcases r₂ with _ | _ | b <;> cases h
    exact .pure' rfl

theorem getAccountByUserIDAndCurrency_agree (userId : UUID) (currency : Currency)
    (h : ∀ s₁ s₂, S s₁ s₂ →
      s₁.accountByUserAndCurrency userId currency = s₂.accountByUserAndCurrency userId currency) :
    Agree S (getAccountByUserIDAndCurrency userId currency)
      (getAccountByUserIDAndCurrency userId currency) (· = ·) :=
  (query_agree _ h).bind fun _ _ hr => scanAccount_agree hr

theorem getAccountByID_agree (id : UUID)
    (h : ∀ s₁ s₂, S s₁ s₂ → s₁.accountById id = s₂.accountById id) :
    Agree S (getAccountByID id) (getAccountByID id) (· = ·) :=
  (query_agree _ h).bind fun _ _ hr => scanAccount_agree hr

variable (hk : ∀ s₁ s₂, S s₁ s₂ → s₁.keys = s₂.keys)
include hk

theorem txExec_agree {tx₁ tx₂ : Tx} {wr₁ wr₂ : Write} (h : Tx.Similar (tx₁ ++ [wr₁]) (tx₂ ++ [wr₂])) :
    Agree S (txExec tx₁ wr₁) (txExec tx₂ wr₂) (Except.Agree Tx.Similar) := by
  intro env w₁ w₂ r w₁' hS h₁
  rw [txExec_run', Prod.mk.injEq, Except.ok.injEq] at h₁
  obtain ⟨rfl, rfl⟩ := h₁
  refine ⟨_, _, txExec_run' _ _ _ _, ?_, hS⟩
  cases env.fails w₁.calls
  · have hr := Store.runAll_congr_keys h (hk _ _ hS)
    simp only [Env.faultless_fails, Bool.false_eq_true, if_false]
    rcases h₁ : w₁.store.runAll (tx₁ ++ [wr₁]) with _ | s₁' <;>
      rcases h₂ : w₂.store.runAll (tx₂ ++ [wr₂]) with _ | s₂' <;>
      rw [h₁, h₂] at hr <;> first | exact h | trivial
  · trivial

theorem updateAccountBalance_agree {tx₁ tx₂ : Tx} (h : Tx.Similar tx₁ tx₂) (id : UUID)
    (a b : Decimal) :
    Agree S (updateAccountBalance tx₁ id a b) (updateAccountBalance tx₂ id a b) Tx.Similar :=
  (txExec_agree hk (h.append (.refl fun _ h => by simp at h; simp [h, Write.IsLedger]))).bind
    fun _ _ hr => .orFail hr

theorem insertEntries_agree {es₁ es₂ : List LedgerEntry}
    (he : es₁.map LedgerEntry.anonymize = es₂.map LedgerEntry.anonymize) {tx₁ tx₂ : Tx}
    (h : Tx.Similar tx₁ tx₂) :
    Agree S (es₁.foldlM (fun tx e => do
        orFail "failed to create ledger entry" (← txExec tx (.insertLedgerEntry e))) tx₁)
      (es₂.foldlM (fun tx e => do
        orFail "failed to create ledger entry" (← txExec tx (.insertLedgerEntry e))) tx₂)
      Tx.Similar := by
  induction es₁ generalizing es₂ tx₁ tx₂ with
  | nil => obtain rfl : es₂ = [] := List.map_eq_nil_iff.1 he.symm; exact .pure' h
  | cons e es ih =>
    cases es₂ with
    | nil => cases he
    | cons e₂ es₂ => ?_
    simp only [List.map_cons, List.cons.injEq] at he
    simp only [List.foldlM_cons]
    exact ((txExec_agree hk (h.append (@Tx.similar_entries [e] [e₂]
      (by simp [he.1])))).bind fun _ _ hr => .orFail hr).bind fun _ _ htx => ih he.2 htx

theorem createJournal_agree {es₁ es₂ : List LedgerEntry}
    (he : es₁.map LedgerEntry.anonymize = es₂.map LedgerEntry.anonymize) {tx₁ tx₂ : Tx}
    (h : Tx.Similar tx₁ tx₂) :
    Agree S (createJournal tx₁ es₁) (createJournal tx₂ es₂) Tx.Similar := by
  have hlen : es₁.length = es₂.length := by simpa using congrArg List.length he
  have htot : journalTotal es₁ = journalTotal es₂ := by
    rw [← journalTotal_anonymize, he, journalTotal_anonymize]
  unfold createJournal
  exact .ite_throw (by rw [hlen]) (.ite_throw (by rw [htot]) (insertEntries_agree hk he h))

end Primitives

/-! ## The ledger operations -/

/-- A call to one of the balance operations of `ledger.Service`. -/
inductive LedgerOp
  | topUpUser (userId : UUID) (amount : Decimal)
  | holdFunds (userId : UUID) (currency : Currency) (amount : Decimal)
  | releaseHold (userId : UUID) (currency : Currency) (amount : Decimal)
  | transferFunds (fromAccountId toAccountId : UUID) (amount : Decimal) (currency : Currency)
      (refType : String) (refId : UUID)
  deriving DecidableEq, Repr

namespace LedgerOp

/-- The operation as its caller runs it. -/
def run : LedgerOp → App Unit
  | topUpUser userId amount => Functor.discard (MicroCoin.topUpUser userId amount)
  | holdFunds userId currency amount => MicroCoin.holdFunds userId currency amount
  | releaseHold userId currency amount => MicroCoin.releaseHold userId currency amount
  | transferFunds fromAccountId toAccountId amount currency refType refId =>
    MicroCoin.transferFunds fromAccountId toAccountId amount currency refType refId

/-- Everything the operation does before its commit: the checks, the reads and the statements
    of its transaction. -/
def prepare : LedgerOp → App Tx
  | topUpUser userId amount => Prod.fst <$> topUpUserTx userId amount
  | holdFunds userId currency amount => holdFundsTx userId currency amount
  | releaseHold userId currency amount => releaseHoldTx userId currency amount
  | transferFunds fromAccountId toAccountId amount currency refType refId =>
    transferFundsTx fromAccountId toAccountId amount currency refType refId

/-- Every operation is its transaction, then the commit. -/
theorem run_eq (op : LedgerOp) :
    op.run = op.prepare >>= fun tx => commit tx >>= orFail "failed to commit transaction" := by
  cases op with
  | topUpUser =>
    simp only [run, prepare, MicroCoin.topUpUser, Functor.discard, map_const, Function.comp_apply,
      map_bind, bind_map_left, map_pure, Function.const_apply, bind_pure_unit]
  | _ => rfl

/-- The rows the operation reads. -/
def reads (s : Store) : LedgerOp → List (Option Account)
  | topUpUser userId _ => [s.accountByUserAndCurrency userId currencyUSD]
  | holdFunds userId currency _ | releaseHold userId currency _ =>
    [s.accountByUserAndCurrency userId currency]
  | transferFunds fromAccountId toAccountId .. =>
    [s.accountById fromAccountId, s.accountById toAccountId]

/-- The ids of the accounts the operation reads and sets. -/
def ids (s : Store) : LedgerOp → List UUID
  | topUpUser userId _ => ((s.accountByUserAndCurrency userId currencyUSD).map (·.id)).toList
  | holdFunds userId currency _ | releaseHold userId currency _ =>
    ((s.accountByUserAndCurrency userId currency).map (·.id)).toList
  | transferFunds fromAccountId toAccountId .. => [fromAccountId, toAccountId]

/-- Tables on which the operation reads the same rows, among the same keys. -/
def Sees (op : LedgerOp) (s₁ s₂ : Store) : Prop := s₁.keys = s₂.keys ∧ op.reads s₁ = op.reads s₂

theorem Sees.refl (op : LedgerOp) (s : Store) : op.Sees s s := ⟨rfl, rfl⟩

theorem Sees.trans {op : LedgerOp} {s₁ s₂ s₃ : Store} (h₁ : op.Sees s₁ s₂) (h₂ : op.Sees s₂ s₃) :
    op.Sees s₁ s₃ := ⟨h₁.1.trans h₂.1, h₁.2.trans h₂.2⟩

/-- The accounts an operation names are fixed by the keys. -/
theorem ids_congr (op : LedgerOp) {s₁ s₂ : Store} (hk : s₁.keys = s₂.keys) :
    op.ids s₁ = op.ids s₂ := by
  cases op <;> simp only [ids, Store.accountByUserAndCurrency_id, hk]

/-- A statement of the ledger that sets no balance of an account of `op` leaves what `op`
    reads. -/
theorem sees_run {op : LedgerOp} {wr : Write} {X : List UUID} {s s' : Store} (hX : wr.Within X)
    (hd : ∀ id ∈ X, id ∉ op.ids s) (h : s.run wr = .ok s') : op.Sees s s' := by
  refine ⟨(Store.run_keys hX.isLedger h).symm, ?_⟩
  cases wr with
  | updateAccountBalance id a b =>
    obtain ⟨a', b', -, -, rfl⟩ := Store.run_updateAccountBalance.1 h
    have hid := hd id hX
    cases op with
    | transferFunds =>
      simp only [ids, List.mem_cons, List.mem_singleton, List.not_mem_nil, or_false, not_or] at hid
      simp only [reads, Store.accountById, List.cons.injEq, and_true]
      exact ⟨find?_setBalances (by intros; rfl) fun r hr h =>
          hid.1 (by simpa [h] using List.find?_some hr),
        find?_setBalances (by intros; rfl) fun r hr h =>
          hid.2 (by simpa [h] using List.find?_some hr)⟩
    | _ =>
      simp only [reads, Store.accountByUserAndCurrency, List.cons.injEq, and_true]
      exact find?_setBalances (by intros; rfl) fun r hr h =>
        hid (by rw [ids, Store.accountByUserAndCurrency, Option.mem_def.1 hr]; simp [h])
  | insertLedgerEntry => obtain ⟨-, _, -, -, rfl⟩ := Store.run_insertLedgerEntry.1 h; rfl
  | _ => cases hX

/-- A transaction of the ledger that sets no balance of an account of `op` leaves what `op`
    reads. -/
theorem sees_runAll {op : LedgerOp} {tx : Tx} {X : List UUID} {s s' : Store}
    (hX : ∀ wr ∈ tx, wr.Within X) (hd : ∀ id ∈ X, id ∉ op.ids s) (h : s.runAll tx = .ok s') :
    op.Sees s s' := by
  induction tx generalizing s with
  | nil => cases h; exact .refl _ _
  | cons wr tx ih =>
    simp only [Store.runAll] at h
    split at h
    · next s₁ h₁ =>
      have h₁' := sees_run (hX wr (.head _)) hd h₁
      exact h₁'.trans (ih (fun w hw => hX w (.tail _ hw)) (by rwa [← op.ids_congr h₁'.1]) h)
    · cases h

/-- What an operation sees of the tables is in their accounts. -/
theorem sees_of_accounts (op : LedgerOp) {s₁ s₂ : Store} (h : s₁.accounts = s₂.accounts) :
    op.Sees s₁ s₂ := by
  refine ⟨by simp only [Store.keys, h], ?_⟩
  cases op <;> simp only [reads, Store.accountByUserAndCurrency, Store.accountById, h]

end LedgerOp

/-! ## What an operation writes, and what it reads -/

section Prepare
open App

theorem query_found (s₀ : Store) (f : Store → α) :
    Keeps (fun w => w.store = s₀) (query f) fun r => ∀ a, r = .ok a → a = f s₀ :=
  fun env w hw => by
    subst hw
    cases h : env.fails w.calls <;> simp [query_run', h]

theorem scanAccount_found {I : World → Prop} (r : Except DbError (Option Account)) :
    Keeps I (scanAccount r) fun a => r = .ok (some a) := by
  rcases r with _ | _ | _ <;> first | exact Keeps.throw' | exact Keeps.pure' rfl

/-- The account `GetAccountByUserIDAndCurrency` returns is the row of the user and currency. -/
theorem getAccountByUserIDAndCurrency_found (s₀ : Store) (userId : UUID) (currency : Currency) :
    Keeps (fun w => w.store = s₀) (getAccountByUserIDAndCurrency userId currency)
      fun a => s₀.accountByUserAndCurrency userId currency = some a :=
  (query_found s₀ _).bind fun r hr =>
    (scanAccount_found r).mono fun _ ha => (hr _ ha).symm

/-- The account `GetAccountByID` returns is the row of that id. -/
theorem getAccountByID_found (s₀ : Store) (id : UUID) :
    Keeps (fun w => w.store = s₀) (getAccountByID id) fun a => s₀.accountById id = some a :=
  (query_found s₀ _).bind fun r hr =>
    (scanAccount_found r).mono fun _ ha => (hr _ ha).symm

variable (s₀ : Store) (userId : UUID) (currency : Currency) (amount : Decimal)

/-- The transaction of `TopUpUser` sets the balance of the user's USD account only. -/
theorem topUpUserTx_within :
    Keeps (fun w => w.store = s₀) (topUpUserTx userId amount) fun r => ∀ wr ∈ r.1,
      wr.Within ((s₀.accountByUserAndCurrency userId currencyUSD).map (·.id)).toList :=
  requirePositive_begin_keeps (CallsBlind.store (· = s₀)) _ fun _ =>
    .bind (wrapErr_keeps _ (getAccountByUserIDAndCurrency_found s₀ _ _)) fun acc hacc =>
    .bind (newUuid_storeFixed.keeps (P := (· = s₀))) fun _ _ =>
    .bind (wrapErr_keeps _ (createJournal_keeps (CallsBlind.store (· = s₀)) _ _)) fun tx₁ h₁ =>
    .bind (wrapErr_keeps _ (updateAccountBalance_keeps (CallsBlind.store (· = s₀)) _ _ _ _))
      fun tx₂ h₂ => .pure' (by simp [h₂, h₁, hacc, Write.Within])

/-- The transaction of `HoldFunds` sets the balances of the user's account in the currency. -/
theorem holdFundsTx_within :
    Keeps (fun w => w.store = s₀) (holdFundsTx userId currency amount) fun tx => ∀ wr ∈ tx,
      wr.Within ((s₀.accountByUserAndCurrency userId currency).map (·.id)).toList :=
  requirePositive_begin_keeps (CallsBlind.store (· = s₀)) _ fun _ =>
    .bind (wrapErr_keeps _ (getAccountByUserIDAndCurrency_found s₀ _ _)) fun acc hacc =>
    Keeps.ite_throw <| (wrapErr_keeps _
      (updateAccountBalance_keeps (CallsBlind.store (· = s₀)) _ _ _ _)).mono
        fun _ h => by simp [h, hacc, Write.Within]

/-- The transaction of `ReleaseHold` sets the balances of the user's account in the currency. -/
theorem releaseHoldTx_within :
    Keeps (fun w => w.store = s₀) (releaseHoldTx userId currency amount) fun tx => ∀ wr ∈ tx,
      wr.Within ((s₀.accountByUserAndCurrency userId currency).map (·.id)).toList :=
  requirePositive_begin_keeps (CallsBlind.store (· = s₀)) _ fun _ =>
    .bind (wrapErr_keeps _ (getAccountByUserIDAndCurrency_found s₀ _ _)) fun acc hacc =>
    Keeps.ite_throw <| (wrapErr_keeps _
      (updateAccountBalance_keeps (CallsBlind.store (· = s₀)) _ _ _ _)).mono
        fun _ h => by simp [h, hacc, Write.Within]

theorem requirePositive_agree {S : Store → Store → Prop} (amount : Decimal) :
    Agree S (requirePositive amount) (requirePositive amount) fun _ _ => True := by
  unfold requirePositive
  split
  · exact .throw'
  · exact .pure' trivial

/-- The opening of every balance operation: the amount check, then `Begin`. -/
theorem requirePositive_begin_agree {S : Store → Store → Prop} (amount : Decimal)
    {f₁ f₂ : Tx → App β} {R : β → β → Prop} (h : Agree S (f₁ []) (f₂ []) R) :
    Agree S (do
        requirePositive amount
        let tx ← orFail "failed to begin transaction" (← begin)
        f₁ tx)
      (do
        requirePositive amount
        let tx ← orFail "failed to begin transaction" (← begin)
        f₂ tx) R := by
  refine (requirePositive_agree _).bind fun _ _ _ => begin_agree.bind fun _ _ hr => ?_
  refine Agree.bind (Agree.orFail hr) ?_
  rintro _ _ ⟨rfl, rfl⟩
  exact h

/-- `TopUpUser` before its commit, from tables on which it reads the same. -/
theorem topUpUserTx_agree : Agree (LedgerOp.topUpUser userId amount).Sees
    (topUpUserTx userId amount) (topUpUserTx userId amount) fun r₁ r₂ => Tx.Similar r₁.1 r₂.1 := by
  have hk : ∀ s₁ s₂, (LedgerOp.topUpUser userId amount).Sees s₁ s₂ → s₁.keys = s₂.keys :=
    fun _ _ h => h.1
  refine requirePositive_begin_agree _ ?_
  refine (Agree.wrapErr (getAccountByUserIDAndCurrency_agree _ _ fun _ _ h =>
    List.head_eq_of_cons_eq h.2)).bind ?_
  rintro acc _ rfl
  refine newUuid_agree.bind fun _ _ _ =>
    (Agree.wrapErr (createJournal_agree hk ?_ (.refl (by simp)))).bind fun _ _ ht =>
    (Agree.wrapErr (updateAccountBalance_agree hk ht _ _ _)).bind fun _ _ ht => .pure' ht
  rfl

/-- `HoldFunds` before its commit, from tables on which it reads the same. -/
theorem holdFundsTx_agree : Agree (LedgerOp.holdFunds userId currency amount).Sees
    (holdFundsTx userId currency amount) (holdFundsTx userId currency amount) Tx.Similar := by
  refine requirePositive_begin_agree _ ?_
  refine (Agree.wrapErr (getAccountByUserIDAndCurrency_agree _ _ fun _ _ h =>
    List.head_eq_of_cons_eq h.2)).bind ?_
  rintro acc _ rfl
  exact .ite_throw Iff.rfl (.wrapErr (updateAccountBalance_agree (fun _ _ h => h.1)
    (.refl (by simp)) _ _ _))

/-- `ReleaseHold` before its commit, from tables on which it reads the same. -/
theorem releaseHoldTx_agree : Agree (LedgerOp.releaseHold userId currency amount).Sees
    (releaseHoldTx userId currency amount) (releaseHoldTx userId currency amount) Tx.Similar := by
  refine requirePositive_begin_agree _ ?_
  refine (Agree.wrapErr (getAccountByUserIDAndCurrency_agree _ _ fun _ _ h =>
    List.head_eq_of_cons_eq h.2)).bind ?_
  rintro acc _ rfl
  exact .ite_throw Iff.rfl (.wrapErr (updateAccountBalance_agree (fun _ _ h => h.1)
    (.refl (by simp)) _ _ _))

/-- `TransferFunds` before its commit, from tables on which it reads the same. -/
theorem transferFundsTx_agree (fromAccountId toAccountId : UUID) (refType : String) (refId : UUID) :
    Agree (LedgerOp.transferFunds fromAccountId toAccountId amount currency refType refId).Sees
      (transferFundsTx fromAccountId toAccountId amount currency refType refId)
      (transferFundsTx fromAccountId toAccountId amount currency refType refId) Tx.Similar := by
  have hk : ∀ s₁ s₂, (LedgerOp.transferFunds fromAccountId toAccountId amount currency refType
      refId).Sees s₁ s₂ → s₁.keys = s₂.keys := fun _ _ h => h.1
  refine requirePositive_begin_agree _ ?_
  refine (Agree.wrapErr (getAccountByID_agree _ fun _ _ h => List.head_eq_of_cons_eq h.2)).bind ?_
  rintro _ _ rfl
  refine (Agree.wrapErr (getAccountByID_agree _ fun _ _ h =>
    List.head_eq_of_cons_eq (List.tail_eq_of_cons_eq h.2))).bind ?_
  rintro _ _ rfl
  refine .ite_throw Iff.rfl (newUuid_agree.bind fun _ _ _ =>
    (Agree.wrapErr (createJournal_agree hk ?_ (.refl (by simp)))).bind fun _ _ ht =>
    (Agree.wrapErr (updateAccountBalance_agree hk ht _ _ _)).bind fun _ _ ht =>
    .wrapErr (updateAccountBalance_agree hk ht _ _ _))
  rfl

end Prepare

/-- An operation writes nothing before its commit, and its transaction sets the balances of its
    own accounts only. -/
theorem LedgerOp.prepare_within (op : LedgerOp) (s₀ : Store) :
    App.Keeps (fun w => w.store = s₀) op.prepare fun tx => ∀ wr ∈ tx, wr.Within (op.ids s₀) := by
  cases op with
  | topUpUser => exact (topUpUserTx_within _ _ _).map fun _ h => h
  | holdFunds => exact holdFundsTx_within _ _ _ _
  | releaseHold => exact releaseHoldTx_within _ _ _ _
  | transferFunds => exact transferFundsTx_keeps (· = s₀) _ _ _ _ _ _

/-- From tables on which it reads the same, an operation that builds a transaction with any
    database faults builds a similar one with none. -/
theorem LedgerOp.prepare_agree (op : LedgerOp) :
    App.Agree op.Sees op.prepare op.prepare Tx.Similar := by
  cases op with
  | topUpUser => exact (topUpUserTx_agree _ _).map fun _ _ h => h
  | holdFunds => exact holdFundsTx_agree _ _ _
  | releaseHold => exact releaseHoldTx_agree _ _ _
  | transferFunds => exact transferFundsTx_agree _ _ _ _ _ _

/-! ## Operations run at once -/

/-- How far an operation of a concurrent run has got: not started, past its reads with its
    transaction built, or over. -/
inductive Progress
  | idle
  | prepared (tx : Tx)
  | finished
  deriving DecidableEq, Repr

/-- Ledger operations run at once: `schedule` says, by index, whose step comes next. The first
    step of an operation is everything before its commit, the second its commit. The result is
    the operations that commit, in the order they do. -/
def interleave (ops : List LedgerOp) : List ℕ → List Progress → App (List LedgerOp)
  | [], _ => pure []
  | i :: schedule, ps =>
    match ops[i]?, ps[i]? with
    | some op, some .idle => do
      let p ← tryCatch (Progress.prepared <$> op.prepare) fun _ => pure .finished
      interleave ops schedule (ps.set i p)
    | some op, some (.prepared tx) => do
      match ← commit tx with
      | .ok () => (op :: ·) <$> interleave ops schedule (ps.set i .finished)
      | .error _ => interleave ops schedule (ps.set i .finished)
    | _, _ => interleave ops schedule ps

/-- Every step of operation `i` comes before every step of operation `j`: once `j` has taken a
    step, `i` takes none. -/
def Separate (schedule : List ℕ) (i j : ℕ) : Prop := i ∉ schedule.dropWhile (· ≠ j)

instance instDecidableSeparate (schedule : List ℕ) (i j : ℕ) : Decidable (Separate schedule i j) :=
  inferInstanceAs (Decidable (i ∉ _))

/-- Operations `i` and `j` of `ops` name a common account of the tables `s`. -/
def Conflict (s : Store) (ops : List LedgerOp) (i j : ℕ) : Bool :=
  match ops[i]?, ops[j]? with
  | some a, some b => (a.ids s).any (· ∈ b.ids s)
  | _, _ => false

theorem Conflict.bounds {s : Store} {ops : List LedgerOp} {i j : ℕ} (h : Conflict s ops i j) :
    i < ops.length ∧ j < ops.length := by
  unfold Conflict at h
  split at h
  · next ha hb => exact ⟨(List.getElem?_eq_some_iff.1 ha).1, (List.getElem?_eq_some_iff.1 hb).1⟩
  · cases h

theorem Separate.tail {e : ℕ} {rest : List ℕ} {i j : ℕ} (h : Separate (e :: rest) i j) :
    Separate rest i j := by
  unfold Separate at h ⊢
  rw [List.dropWhile_cons] at h
  split at h
  · exact h
  · exact fun hi => h (.tail _ ((List.dropWhile_suffix _).subset hi))

theorem takeWhile_ne_cons {e j : ℕ} (rest : List ℕ) (hej : e ≠ j) :
    (e :: rest).takeWhile (· ≠ j) = e :: rest.takeWhile (· ≠ j) := by
  rw [List.takeWhile_cons, if_pos (by simpa using hej)]

/-- If `i` steps before `j`'s first step in `l`, then `j` steps after `i`'s first step. -/
theorem mem_dropWhile_of_mem_takeWhile {l : List ℕ} {i j : ℕ} (hi : i ∈ l.takeWhile (· ≠ j))
    (hj : j ∈ l) : j ∈ l.dropWhile (· ≠ i) := by
  induction l with
  | nil => cases hj
  | cons x l ih =>
    rw [List.takeWhile_cons] at hi
    rw [List.dropWhile_cons]
    by_cases hxj : x = j
    · simp [hxj] at hi
    · simp only [ne_eq, hxj, not_false_eq_true, decide_True, if_true, List.mem_cons] at hi
      by_cases hxi : x = i
      · subst hxi
        simpa using hj
      · simp only [ne_eq, hxi, not_false_eq_true, decide_True, if_true]
        exact ih (hi.resolve_left (Ne.symm hxi)) ((List.mem_cons.1 hj).resolve_left (Ne.symm hxj))

/-- An operation that has built `tx` from tables on which it reads what it reads in the world
    `ws`, run at once in `ws`, does to the accounts what committing `tx` does to tables with the
    accounts of `ws`. -/
theorem LedgerOp.run_of_prepare {env : Env} {op : LedgerOp}
    {w w' ws : World} {tx : Tx} {s s' : Store} (hp : op.prepare.run' env w = (.ok tx, w'))
    (hs : op.Sees w.store ws.store) (ha : s.accounts = ws.store.accounts)
    (hc : s.runAll tx = .ok s') :
    ∃ ws', op.run.run' env.faultless ws = (.ok (), ws') ∧ ws'.store.accounts = s'.accounts := by
  obtain ⟨tx', ws₁, hr, hq, -⟩ := op.prepare_agree env w ws tx w' hs hp
  have hkeep := (op.prepare_within ws.store env.faultless ws rfl).1
  rw [hr] at hkeep
  have hacc := Store.runAll_congr_accounts hq (ha.trans (congrArg Store.accounts hkeep.symm))
  rw [hc] at hacc
  rcases hc' : ws₁.store.runAll tx' with _ | s'' <;> rw [hc'] at hacc
  · cases hacc
  · refine ⟨{ ws₁ with calls := ws₁.calls + 1, store := s'' }, ?_, (Except.ok.inj hacc).symm⟩
    rw [LedgerOp.run_eq, App.run'_bind, hr]
    simp only [App.run'_bind, commit_run', Env.faultless_fails, hc', Bool.false_eq_true, if_false,
      orFail_run']
    rfl

section Serial
variable (ops : List LedgerOp) (env : Env) (s₀ : Store)

/-- Operation `j` has built `tx` from tables on which it reads what it reads in `s`; `tx` sets
    the balances of its own accounts only; and no operation naming one of them steps in `rest`
    before `j` steps again. -/
def Fresh (s : Store) (rest : List ℕ) (j : ℕ) (tx : Tx) : Prop :=
  ∃ op, ops[j]? = some op ∧ (∃ w w', op.prepare.run' env w = (.ok tx, w') ∧ op.Sees w.store s) ∧
    (∀ wr ∈ tx, wr.Within (op.ids s₀)) ∧
    ∀ i, i ≠ j → Conflict s₀ ops i j → i ∉ rest.takeWhile (· ≠ j)

/-- A concurrent run at `ps` in the world `wc`, with `rest` of its schedule to come, against
    the serial run, in the world `ws`, of the operations it has committed. -/
structure Simulates (ps : List Progress) (wc ws : World) (rest : List ℕ) : Prop where
  accounts : wc.store.accounts = ws.store.accounts
  keys : wc.store.keys = s₀.keys
  separate : ∀ i < ops.length, ∀ j < ops.length, i ≠ j → Conflict s₀ ops i j →
    Separate rest i j ∨ Separate rest j i
  fresh : ∀ j tx, ps[j]? = some (.prepared tx) → j ∈ rest → Fresh ops env s₀ wc.store rest j tx

variable {ops env s₀}

theorem Fresh.tail {s : Store} {e j : ℕ} {rest : List ℕ} {tx : Tx}
    (h : Fresh ops env s₀ s (e :: rest) j tx) (hej : e ≠ j) : Fresh ops env s₀ s rest j tx := by
  obtain ⟨op, hop, hw, hX, hc⟩ := h
  exact ⟨op, hop, hw, hX, fun i hij hconf hi =>
    hc i hij hconf (by rw [takeWhile_ne_cons _ hej]; exact .tail _ hi)⟩

/-- An operation that steps before `j` steps again names no account of `j`. -/
theorem Fresh.no_conflict {s : Store} {e j : ℕ} {rest : List ℕ} {tx : Tx}
    (h : Fresh ops env s₀ s (e :: rest) j tx) (hej : e ≠ j) : Conflict s₀ ops e j = false := by
  obtain ⟨-, -, -, -, hc⟩ := h
  by_contra hcon
  exact hc e hej (by simpa using hcon) (by rw [takeWhile_ne_cons _ hej]; exact .head _)

section Steps
variable {ps : List Progress} {wc ws : World} {e : ℕ} {rest : List ℕ}

theorem Simulates.separate_tail (h : Simulates ops env s₀ ps wc ws (e :: rest)) :
    ∀ i < ops.length, ∀ j < ops.length, i ≠ j → Conflict s₀ ops i j →
      Separate rest i j ∨ Separate rest j i :=
  fun i hi j hj hij hc => (h.separate i hi j hj hij hc).imp Separate.tail Separate.tail

/-- A step that leaves the tables as they are keeps the simulation, once every operation
    between its two steps is fresh again. -/
theorem Simulates.of_store {ps' : List Progress} {wc' : World}
    (h : Simulates ops env s₀ ps wc ws (e :: rest)) (hs : wc'.store = wc.store)
    (hfresh : ∀ j tx, ps'[j]? = some (.prepared tx) → j ∈ rest →
      Fresh ops env s₀ wc.store rest j tx) :
    Simulates ops env s₀ ps' wc' ws rest where
  accounts := hs ▸ h.accounts
  keys := hs ▸ h.keys
  separate := h.separate_tail
  fresh j tx hj hjr := hs ▸ hfresh j tx hj hjr

/-- A step that moves operation `e` to `p` keeps every other operation fresh. -/
theorem Simulates.fresh_set (h : Simulates ops env s₀ ps wc ws (e :: rest)) (p : Progress)
    (j : ℕ) (tx : Tx) (hj : (ps.set e p)[j]? = some (.prepared tx)) (hne : e ≠ j)
    (hjr : j ∈ rest) : Fresh ops env s₀ wc.store rest j tx := by
  rw [List.getElem?_set_ne hne] at hj
  exact (h.fresh j tx hj (.tail _ hjr)).tail hne

theorem Simulates.set_finished_ne {j : ℕ} {tx : Tx} (hlt : e < ps.length)
    (hj : (ps.set e .finished)[j]? = some (.prepared tx)) : e ≠ j := by
  rintro rfl
  simp [List.getElem?_set_self hlt] at hj

/-- A step of an operation that is not between its two steps changes nothing. -/
theorem Simulates.tail (h : Simulates ops env s₀ ps wc ws (e :: rest))
    (he : ∀ tx, ps[e]? ≠ some (.prepared tx)) : Simulates ops env s₀ ps wc ws rest :=
  h.of_store rfl fun j tx hj hjr =>
    (h.fresh j tx hj (.tail _ hjr)).tail fun hej => he tx (hej ▸ hj)

/-- The first step of operation `e`: the tables do not change, and `e` is fresh against them. -/
theorem Simulates.read {wc' : World} {op : LedgerOp} {r : Except Err Progress}
    (h : Simulates ops env s₀ ps wc ws (e :: rest)) (hop : ops[e]? = some op)
    (hidle : ps[e]? = some .idle)
    (hrun : (tryCatch (Progress.prepared <$> op.prepare) fun _ => pure .finished).run' env wc =
      (r, wc')) :
    ∃ p, r = .ok p ∧ Simulates ops env s₀ (ps.set e p) wc' ws rest := by
  have hkeep := (op.prepare_within wc.store env wc rfl).1
  have hX := (op.prepare_within wc.store env wc rfl).2
  have hlt : e < ps.length := (List.getElem?_eq_some_iff.1 hidle).1
  rw [App.run'_tryCatch, App.run'_map] at hrun
  rcases hp : op.prepare.run' env wc with ⟨_ | tx, w'⟩ <;> rw [hp] at hrun hkeep hX <;>
    simp only [App.run'_pure, Prod.mk.injEq] at hrun <;> obtain ⟨rfl, rfl⟩ := hrun
  · exact ⟨.finished, rfl, h.of_store hkeep fun j tx hj hjr =>
      h.fresh_set _ j tx hj (Simulates.set_finished_ne hlt hj) hjr⟩
  · refine ⟨.prepared tx, rfl, h.of_store hkeep fun j tx' hj hjr => ?_⟩
    by_cases hej : e = j
    · subst hej
      rw [List.getElem?_set_self hlt, Option.some.injEq, Progress.prepared.injEq] at hj
      subst hj
      have hX := hX tx rfl
      rw [op.ids_congr h.keys] at hX
      refine ⟨op, hop, ⟨wc, w', hp, .refl _ _⟩, hX, fun i hie hc hi => ?_⟩
      rcases h.separate i (Conflict.bounds hc).1 e (Conflict.bounds hc).2 hie hc with hs | hs
      · simp only [Separate, List.dropWhile_cons, ne_eq, not_true_eq_false, decide_False,
          Bool.false_eq_true, if_false, List.mem_cons, not_or] at hs
        exact hs.2 ((List.takeWhile_sublist _).subset hi)
      · simp only [Separate, List.dropWhile_cons, ne_eq, Ne.symm hie, not_false_eq_true,
          decide_True, if_true] at hs
        exact hs (mem_dropWhile_of_mem_takeWhile hi hjr)
    · exact h.fresh_set _ j tx' hj hej hjr

/-- The commit of operation `e`, when it succeeds: the serial run runs `e` at once, and leaves the
    same accounts. -/
theorem Simulates.commit_ok {op : LedgerOp} {tx : Tx}
    {s' : Store} (h : Simulates ops env s₀ ps wc ws (e :: rest)) (hop : ops[e]? = some op)
    (hprep : ps[e]? = some (.prepared tx)) (hc : wc.store.runAll tx = .ok s') :
    ∃ ws', op.run.run' env.faultless ws = (.ok (), ws') ∧ Simulates ops env s₀ (ps.set e .finished)
      { wc with calls := wc.calls + 1, store := s' } ws' rest := by
  obtain ⟨op', hop', ⟨w, w', hp, hs⟩, hX, -⟩ := h.fresh e tx hprep (.head _)
  rw [hop, Option.some.injEq] at hop'
  subst hop'
  obtain ⟨ws', hrun, hacc⟩ :=
    LedgerOp.run_of_prepare hp (hs.trans (op.sees_of_accounts h.accounts)) h.accounts hc
  have hlt : e < ps.length := (List.getElem?_eq_some_iff.1 hprep).1
  refine ⟨ws', hrun, hacc.symm, (Store.runAll_keys (fun wr h => (hX wr h).isLedger) hc).trans h.keys,
    h.separate_tail, fun j tx' hj hjr => ?_⟩
  have hej := Simulates.set_finished_ne hlt hj
  rw [List.getElem?_set_ne hej] at hj
  have hfj := h.fresh j tx' hj (.tail _ hjr)
  obtain ⟨opj, hopj, ⟨wj, wj', hpj, hsj⟩, hXj, hfreej⟩ := hfj.tail hej
  -- `e` names no account of `j`, or `j` would not be fresh
  have hd : ∀ id ∈ op.ids s₀, id ∉ opj.ids wc.store := by
    rw [opj.ids_congr h.keys]
    simpa only [Conflict, hop, hopj, List.any_eq_false, decide_eq_true_eq] using
      hfj.no_conflict hej
  exact ⟨opj, hopj, ⟨wj, wj', hpj, hsj.trans (LedgerOp.sees_runAll hX hd hc)⟩, hXj, hfreej⟩

/-- The commit of operation `e`, when it fails: nothing changes. -/
theorem Simulates.commit_error {tx : Tx} (h : Simulates ops env s₀ ps wc ws (e :: rest))
    (hprep : ps[e]? = some (.prepared tx)) :
    Simulates ops env s₀ (ps.set e .finished) { wc with calls := wc.calls + 1 } ws rest :=
  h.of_store rfl fun j tx' hj hjr => h.fresh_set _ j tx' hj
    (Simulates.set_finished_ne (List.getElem?_eq_some_iff.1 hprep).1 hj) hjr

end Steps

/-- The concurrent run from `ps` in `wc` commits operations that, run one after another from
    `ws` with no database fault, all commit and leave the same accounts. -/
theorem interleave_simulates :
    ∀ (rest : List ℕ) (ps : List Progress) (wc ws : World), Simulates ops env s₀ ps wc ws rest →
      ∃ committed wc' ws', (interleave ops rest ps).run' env wc = (.ok committed, wc') ∧
        (committed.forM LedgerOp.run).run' env.faultless ws = (.ok (), ws') ∧
        wc'.store.accounts = ws'.store.accounts
  | [], _, wc, ws, h => ⟨[], wc, ws, rfl, rfl, h.accounts⟩
  | e :: rest, ps, wc, ws, h => by
    have ih := interleave_simulates rest
    rcases hop : ops[e]? with _ | op
    · have he : ∀ tx, ps[e]? ≠ some (.prepared tx) := fun tx htx => by
        obtain ⟨_, hop', -⟩ := h.fresh e tx htx (.head _)
        rw [hop] at hop'
        cases hop'
      simp only [interleave, hop]
      exact ih ps wc ws (h.tail he)
    rcases hp : ps[e]? with _ | _ | tx | _
    · simp only [interleave, hop, hp]
      exact ih ps wc ws (h.tail fun _ h' => by rw [hp] at h'; cases h')
    · simp only [interleave, hop, hp, App.run'_bind]
      rcases hrun : (tryCatch (Progress.prepared <$> op.prepare) fun _ => pure .finished).run' env wc
        with ⟨r, wc'⟩
      obtain ⟨p, rfl, h'⟩ := h.read hop hp hrun
      exact ih _ wc' ws h'
    · simp only [interleave, hop, hp, App.run'_bind, commit_run']
      rcases env.fails wc.calls
      case true => exact ih _ _ ws (h.commit_error hp)
      simp only [Bool.false_eq_true, if_false]
      rcases hc : wc.store.runAll tx with _ | s'
      · exact ih _ _ ws (h.commit_error hp)
      · obtain ⟨ws₁, hrun, h'⟩ := h.commit_ok hop hp hc
        obtain ⟨committed, wc', ws', hi, hs, ha⟩ := ih _ _ ws₁ h'
        refine ⟨op :: committed, wc', ws', ?_, ?_, ha⟩
        · simp only [App.run'_map, hi]
        · simp only [List.forM, App.run'_bind, hrun]
          exact hs
    · simp only [interleave, hop, hp]
      exact ih ps wc ws (h.tail fun _ h' => by rw [hp] at h'; cases h')

end Serial

/-- Ledger operations run at once, where any two that name a common account do not overlap
    (every step of one comes before every step of the other): the operations that commit, run
    one after another in the order they committed with no database fault, all commit and leave
    the same balances. Faults in the concurrent run only stop operations. -/
theorem interleave_serializable (ops : List LedgerOp) (schedule : List ℕ) (env : Env) (w : World)
    (hsep : ∀ i < ops.length, ∀ j < ops.length, i ≠ j → Conflict w.store ops i j →
      Separate schedule i j ∨ Separate schedule j i) :
    ∃ committed wc ws,
      (interleave ops schedule (ops.map fun _ => .idle)).run' env w = (.ok committed, wc) ∧
      (committed.forM LedgerOp.run).run' env.faultless w = (.ok (), ws) ∧
      wc.store.accounts = ws.store.accounts :=
  interleave_simulates schedule _ w w
    ⟨rfl, rfl, hsep, fun j tx hj _ => by
      rw [List.getElem?_map] at hj
      cases h : ops[j]? <;> simp [h] at hj⟩

/-- Two users hold 10 USD each, from their own accounts, at once: no two operations share an
    account, so the run is the serial one. -/
theorem interleave_serializable_two_users :
    let s : Store := ⟨[⟨10, 1, currencyUSD, 100, 0⟩, ⟨20, 2, currencyUSD, 100, 0⟩], [], [], []⟩
    let env : Env := ⟨fun _ => false, fun _ => none, fun _ _ => [], 0⟩
    let ops := [LedgerOp.holdFunds 1 currencyUSD 10, LedgerOp.holdFunds 2 currencyUSD 10]
    (∀ i < ops.length, ∀ j < ops.length, i ≠ j → Conflict s ops i j →
      Separate [0, 1, 0, 1] i j ∨ Separate [0, 1, 0, 1] j i) ∧
    ∃ committed wc ws,
      (interleave ops [0, 1, 0, 1] (ops.map fun _ => .idle)).run' env (World.ofStore s) =
        (.ok committed, wc) ∧
      (committed.forM LedgerOp.run).run' env.faultless (World.ofStore s) = (.ok (), ws) ∧
      wc.store.accounts = ws.store.accounts :=
  ⟨by decide, interleave_serializable _ _ _ _ (by decide)⟩

set_option smartUnfolding false in
/-- User 1 has 100 USD available. `HoldFunds(1, USD, 10)` and `HoldFunds(1, USD, 20)` run at
    once, each reading the account before the other commits: both commit, and the account ends
    at 80 available and 20 held, the second commit overwriting the first. Run one after the
    other, in either order, the same two holds leave 70 available and 30 held. -/
theorem interleave_loses_hold :
    let s : Store := ⟨[⟨10, 1, currencyUSD, 100, 0⟩], [], [], []⟩
    let env : Env := ⟨fun _ => false, fun _ => none, fun _ _ => [], 0⟩
    let hold₁ := LedgerOp.holdFunds 1 currencyUSD 10
    let hold₂ := LedgerOp.holdFunds 1 currencyUSD 20
    let (r, wc) := (interleave [hold₁, hold₂] [0, 1, 0, 1] [.idle, .idle]).run' env (World.ofStore s)
    r = .ok [hold₁, hold₂] ∧
      (wc.store.accounts.map fun a => (a.balanceAvailable.equal 80, a.balanceHold.equal 20)) =
        [(true, true)] ∧
      ∀ order ∈ [[hold₁, hold₂], [hold₂, hold₁]],
        (((order.forM LedgerOp.run).run' env (World.ofStore s)).2.store.accounts.map fun a =>
          (a.balanceAvailable.equal 70, a.balanceHold.equal 30)) = [(true, true)] := by
  decide

end MicroCoin
