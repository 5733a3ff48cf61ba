import MicroCoin.Ledger.Concurrent
import Mathlib.Tactic.Linarith

/-!
# Balances stay non-negative

Every balance operation writes absolute balances computed from the account it read, once
that read has passed the operation's own guards: `amount > 0` (`requirePositive`),
`BalanceAvailable ≥ amount` for `HoldFunds` and the source of `TransferFunds`,
`BalanceHold ≥ amount` for `ReleaseHold`. Read from committed tables whose balances are
non-negative, every pair it writes is non-negative, whichever other operations commit
between its read and its own commit. `NUMERIC(30,10)` rounding keeps the sign.

* `LedgerOp.prepare_solvent`: from solvent tables, an operation builds a transaction that
  sets non-negative balances only (both writes of a `TransferFunds` from an account to
  itself included).
* `interleave_solvent`: ledger operations run at once, with any amounts, any faults and any
  schedule, leave solvent tables from solvent tables. Every committed state of a run is the
  end of the run of a prefix of its schedule, so every committed state is solvent.
-/

namespace MicroCoin

/-- Both balances of every account are non-negative. -/
def Store.Solvent (s : Store) : Prop :=
  ∀ a ∈ s.accounts, 0 ≤ a.balanceAvailable.toRat ∧ 0 ≤ a.balanceHold.toRat

/-- Solvency is decided on the values: a decimal is non-negative when its value is. -/
instance instDecidableStoreSolvent (s : Store) : Decidable s.Solvent :=
  decidable_of_iff (∀ a ∈ s.accounts, 0 ≤ a.balanceAvailable.value ∧ 0 ≤ a.balanceHold.value) <| by
    simp only [Store.Solvent, Decimal.toRat_nonneg_iff]

/-- A statement that sets balances sets non-negative ones. -/
def Write.Solvent : Write → Prop
  | .updateAccountBalance _ a h => 0 ≤ a.toRat ∧ 0 ≤ h.toRat
  | _ => True

/-! ## The tables -/

/-- A `NUMERIC(30,10)` column stores a non-negative value as a non-negative one. -/
theorem numeric_nonneg {d d' : Decimal} (h : numeric d = .ok d') (hd : 0 ≤ d.toRat) :
    0 ≤ d'.toRat := by
  unfold numeric at h
  dsimp only at h
  split at h
  · cases h
    rw [Decimal.toRat_nonneg_iff] at hd ⊢
    exact mul_nonneg (Decimal.round_value_nonneg 10 hd) (by positivity)
  · cases h

section Statements
variable {s s' : Store}

theorem Store.run_solvent {wr : Write} (hs : s.Solvent) (hw : wr.Solvent)
    (h : s.run wr = .ok s') : s'.Solvent := by
  cases wr with
  | updateAccountBalance id a b =>
    obtain ⟨a', b', ha, hb, rfl⟩ := Store.run_updateAccountBalance.1 h
    intro acc hacc
    obtain ⟨acc₀, h₀, rfl⟩ := List.mem_map.1 hacc
    split
    · exact ⟨numeric_nonneg ha hw.1, numeric_nonneg hb hw.2⟩
    · exact hs acc₀ h₀
  | insertLedgerEntry => obtain ⟨-, _, -, -, rfl⟩ := Store.run_insertLedgerEntry.1 h; exact hs
  | insertOrder => obtain ⟨_, _, _, rfl⟩ := Store.run_insertOrder h; exact hs
  | updateOrder => obtain ⟨-, _, -, rfl⟩ := Store.run_updateOrder.1 h; exact hs
  | insertIdempotencyKey =>
    simp only [Store.run] at h
    split at h <;> cases h
    exact hs

theorem Store.runAll_solvent {tx : Tx} (hs : s.Solvent) (hw : ∀ wr ∈ tx, wr.Solvent)
    (h : s.runAll tx = .ok s') : s'.Solvent := by
  induction tx generalizing s with
  | nil => cases h; exact hs
  | cons wr tx ih =>
    simp only [Store.runAll] at h
    split at h
    · next s₁ h₁ =>
      exact ih (Store.run_solvent hs (hw wr (.head _)) h₁) (fun w hw' => hw w (.tail _ hw')) h
    · cases h

end Statements

/-! ## What an operation writes -/

section Prepare
open App
variable (s₀ : Store) (hs : s₀.Solvent) (userId : UUID) (currency : Currency) (amount : Decimal)
include hs

/-- The balances of an account of solvent tables. -/
theorem Store.Solvent.found {a : Account} {p : Account → Bool} (h : s₀.accounts.find? p = some a) :
    0 ≤ a.balanceAvailable.toRat ∧ 0 ≤ a.balanceHold.toRat :=
  hs a (List.mem_of_find?_eq_some h)

theorem topUpUserTx_solvent :
    Keeps (fun w => w.store = s₀) (topUpUserTx userId amount) fun r => ∀ wr ∈ r.1, wr.Solvent :=
  requirePositive_begin_keeps (CallsBlind.store (· = s₀)) _ fun hpos =>
    .bind (wrapErr_keeps _ (getAccountByUserIDAndCurrency_found s₀ _ _)) fun acc hacc =>
    .bind (newUuid_storeFixed.keeps (P := (· = s₀))) fun _ _ =>
    .bind (wrapErr_keeps _ (createJournal_keeps (CallsBlind.store (· = s₀)) _ _)) fun tx₁ h₁ =>
    .bind (wrapErr_keeps _ (updateAccountBalance_keeps (CallsBlind.store (· = s₀)) _ _ _ _))
      fun tx₂ h₂ => .pure' fun wr hwr => by
    obtain ⟨ha, hh⟩ := Store.Solvent.found s₀ hs hacc
    simp only [h₂, h₁, List.nil_append, List.map_cons, List.map_nil, List.cons_append,
      List.singleton_append, List.mem_cons, List.mem_singleton, List.not_mem_nil, or_false] at hwr
    rcases hwr with rfl | rfl | rfl <;> simp only [Write.Solvent, Decimal.toRat_add, true_and]
    constructor <;> linarith

theorem holdFundsTx_solvent :
    Keeps (fun w => w.store = s₀) (holdFundsTx userId currency amount) fun tx =>
      ∀ wr ∈ tx, wr.Solvent :=
  requirePositive_begin_keeps (CallsBlind.store (· = s₀)) _ fun hpos =>
    .bind (wrapErr_keeps _ (getAccountByUserIDAndCurrency_found s₀ _ _)) fun acc hacc =>
    Keeps.ite_throw_of_not fun hc =>
    (wrapErr_keeps _ (updateAccountBalance_keeps (CallsBlind.store (· = s₀)) _ _ _ _)).mono
      fun tx h wr hwr => by
    obtain ⟨ha, hh⟩ := Store.Solvent.found s₀ hs hacc
    simp only [h, List.nil_append, List.mem_singleton] at hwr
    simp only [Decimal.lessThan_iff, not_lt] at hc
    subst hwr
    simp only [Write.Solvent, Decimal.toRat_sub, Decimal.toRat_add]
    constructor <;> linarith

theorem releaseHoldTx_solvent :
    Keeps (fun w => w.store = s₀) (releaseHoldTx userId currency amount) fun tx =>
      ∀ wr ∈ tx, wr.Solvent :=
  requirePositive_begin_keeps (CallsBlind.store (· = s₀)) _ fun hpos =>
    .bind (wrapErr_keeps _ (getAccountByUserIDAndCurrency_found s₀ _ _)) fun acc hacc =>
    Keeps.ite_throw_of_not fun hc =>
    (wrapErr_keeps _ (updateAccountBalance_keeps (CallsBlind.store (· = s₀)) _ _ _ _)).mono
      fun tx h wr hwr => by
    obtain ⟨ha, hh⟩ := Store.Solvent.found s₀ hs hacc
    simp only [h, List.nil_append, List.mem_singleton] at hwr
    simp only [Decimal.lessThan_iff, not_lt] at hc
    subst hwr
    simp only [Write.Solvent, Decimal.toRat_sub, Decimal.toRat_add]
    constructor <;> linarith

/-- Both balance writes of `TransferFunds` start from the two reads: the source's passed the
    guard, the destination's only gains. With the two accounts equal, the second write
    overwrites the first, and is still non-negative. -/
theorem transferFundsTx_solvent (fromAccountId toAccountId : UUID) (refType : String)
    (refId : UUID) :
    Keeps (fun w => w.store = s₀)
      (transferFundsTx fromAccountId toAccountId amount currency refType refId) fun tx =>
        ∀ wr ∈ tx, wr.Solvent :=
  requirePositive_begin_keeps (CallsBlind.store (· = s₀)) _ fun hpos =>
    .bind (wrapErr_keeps _ (getAccountByID_found s₀ _)) fun fa hfa =>
    .bind (wrapErr_keeps _ (getAccountByID_found s₀ _)) fun ta hta =>
    Keeps.ite_throw_of_not fun hc =>
    .bind (newUuid_storeFixed.keeps (P := (· = s₀))) fun _ _ =>
    .bind (wrapErr_keeps _ (createJournal_keeps (CallsBlind.store (· = s₀)) _ _)) fun tx₁ h₁ =>
    .bind (wrapErr_keeps _ (updateAccountBalance_keeps (CallsBlind.store (· = s₀)) _ _ _ _))
      fun tx₂ h₂ =>
    (wrapErr_keeps _ (updateAccountBalance_keeps (CallsBlind.store (· = s₀)) _ _ _ _)).mono
      fun tx₃ h₃ wr hwr => by
    obtain ⟨hfa₁, hfa₂⟩ := Store.Solvent.found s₀ hs hfa
    obtain ⟨hta₁, hta₂⟩ := Store.Solvent.found s₀ hs hta
    simp only [Decimal.lessThan_iff, not_lt] at hc
    simp only [h₃, h₂, h₁, List.nil_append, List.map_cons, List.map_nil, List.cons_append,
      List.singleton_append, List.mem_cons, List.mem_singleton, List.not_mem_nil, or_false] at hwr
    rcases hwr with rfl | rfl | rfl | rfl <;>
      simp only [Write.Solvent, Decimal.toRat_sub, Decimal.toRat_add, true_and]
    · exact ⟨by linarith, hfa₂⟩
    · exact ⟨by linarith, hta₂⟩

end Prepare

/-- From solvent tables, an operation builds a transaction that sets non-negative balances
    only. -/
theorem LedgerOp.prepare_solvent (op : LedgerOp) {s₀ : Store} (hs : s₀.Solvent) :
    App.Keeps (fun w => w.store = s₀) op.prepare fun tx => ∀ wr ∈ tx, wr.Solvent := by
  cases op with
  | topUpUser => exact (topUpUserTx_solvent s₀ hs _ _).map fun _ h => h
  | holdFunds => exact holdFundsTx_solvent s₀ hs _ _ _
  | releaseHold => exact releaseHoldTx_solvent s₀ hs _ _ _
  | transferFunds => exact transferFundsTx_solvent s₀ hs _ _ _ _ _ _

/-! ## Operations run at once -/

section Run
variable {ops : List LedgerOp} {env : Env}

/-- A concurrent run at `ps` in the world `w`: the committed tables are solvent, and so is
    every transaction built and not yet committed. -/
structure SolventRun (ps : List Progress) (w : World) : Prop where
  store : w.store.Solvent
  prepared : ∀ (j : ℕ) (tx : Tx), ps[j]? = some (.prepared tx) → ∀ wr ∈ tx, Write.Solvent wr

/-- Operation `e` reaches `p`, the tables become `w'`'s, and both are solvent. -/
theorem SolventRun.set {ps : List Progress} {w w' : World} (h : SolventRun ps w) (e : ℕ)
    {p : Progress} (hs : w'.store.Solvent) (hp : ∀ tx, p = .prepared tx → ∀ wr ∈ tx, wr.Solvent) :
    SolventRun (ps.set e p) w' where
  store := hs
  prepared j tx hj := by
    rw [List.getElem?_set] at hj
    split_ifs at hj
    · exact hp tx (Option.some.inj hj)
    · exact h.prepared j tx hj

/-- The first step of an operation: its reads leave the tables, and what it builds is
    solvent. -/
theorem SolventRun.read {ps : List Progress} {wc wc' : World} {e : ℕ} {op : LedgerOp}
    {r : Except Err Progress} (h : SolventRun ps wc)
    (hrun : (tryCatch (Progress.prepared <$> op.prepare) fun _ => pure .finished).run' env wc =
      (r, wc')) :
    ∃ p, r = .ok p ∧ SolventRun (ps.set e p) wc' := by
  have hkeep := (op.prepare_within wc.store env wc rfl).1
  have hX := (op.prepare_solvent h.store env wc rfl).2
  rw [App.run'_tryCatch, App.run'_map] at hrun
  rcases hp : op.prepare.run' env wc with ⟨_ | tx, w'⟩ <;> rw [hp] at hrun hkeep hX <;>
    simp only [App.run'_pure, Prod.mk.injEq] at hrun <;> obtain ⟨rfl, rfl⟩ := hrun
  · exact ⟨_, rfl, h.set e (hkeep ▸ h.store) fun _ h => by cases h⟩
  · exact ⟨_, rfl, h.set e (hkeep ▸ h.store) fun _ h => by cases h; exact hX tx rfl⟩

/-- The run from `ps` in `wc` leaves solvent tables. -/
theorem interleave_solvent_of :
    ∀ (schedule : List ℕ) (ps : List Progress) (wc : World), SolventRun ps wc →
      ((interleave ops schedule ps).run' env wc).2.store.Solvent
  | [], _, _, h => h.store
  | e :: schedule, ps, wc, h => by
    have ih := interleave_solvent_of schedule
    rcases hop : ops[e]? with _ | op
    · simp only [interleave, hop]
      exact ih ps wc h
    rcases hp : ps[e]? with _ | _ | tx | _
    · simp only [interleave, hop, hp]
      exact ih ps wc h
    · simp only [interleave, hop, hp, App.run'_bind]
      rcases hrun : (tryCatch (Progress.prepared <$> op.prepare) fun _ => pure .finished).run' env wc
        with ⟨r, wc'⟩
      obtain ⟨p, rfl, h'⟩ := h.read (e := e) hrun
      exact ih _ wc' h'
    · have hfin : ∀ tx, Progress.finished = .prepared tx → ∀ wr ∈ tx, wr.Solvent :=
        fun _ h => by cases h
      simp only [interleave, hop, hp, App.run'_bind, commit_run']
      cases hf : env.fails wc.calls
      · rcases hc : wc.store.runAll tx with _ | s' <;>
          simp only [hf, hc, Bool.false_eq_true, if_false, App.run'_map_snd]
        · exact ih _ _ (h.set e h.store hfin)
        · exact ih _ _ (h.set e (Store.runAll_solvent h.store (h.prepared e tx hp) hc) hfin)
      · simp only [if_true]
        exact ih _ _ (h.set e h.store hfin)
    · simp only [interleave, hop, hp]
      exact ih ps wc h

end Run

/-- Ledger operations run at once, with any amounts (source and destination of a transfer
    possibly equal), any schedule of their steps and any database faults: from tables whose
    balances are all non-negative, the tables they leave have non-negative balances. -/
theorem interleave_solvent (ops : List LedgerOp) (schedule : List ℕ) (env : Env) (w : World)
    (hw : w.store.Solvent) :
    ((interleave ops schedule (ops.map fun _ => .idle)).run' env w).2.store.Solvent :=
  interleave_solvent_of schedule _ w ⟨hw, fun j tx hj => by
    rw [List.getElem?_map] at hj
    cases h : ops[j]? <;> simp [h] at hj⟩

set_option smartUnfolding false in
/-- User 1 has 100 USD available and holds 60 twice at once, both reading the account before
    either commits: both commit (the second overwrites the first), and the balances stay
    non-negative. -/
theorem interleave_solvent_two_holds :
    let s : Store := ⟨[⟨10, 1, currencyUSD, 100, 0⟩], [], [], []⟩
    let env : Env := ⟨fun _ => false, fun _ => none, fun _ _ => [], 0⟩
    let ops := [LedgerOp.holdFunds 1 currencyUSD 60, LedgerOp.holdFunds 1 currencyUSD 60]
    s.Solvent ∧ ((interleave ops [0, 1, 0, 1] (ops.map fun _ => .idle)).run' env
      (World.ofStore s)).2.store.Solvent :=
  ⟨by decide, interleave_solvent _ _ _ _ (by decide)⟩

end MicroCoin
