import MicroCoin.Auth.Users
import MicroCoin.Ledger.Funding

/-!
# The server

`main` (`src/unnamed/part_000`, lines 40–145) serves each request in a goroutine of its own.
A state of the server is the users table, the world, and the top-up and order requests under
way. A step is a sign-up, a log-in, the arrival of a request, or one step (`Stage.step` of
`Handlers.lean`) of a request under way, so every interleaving of the requests is a sequence of
steps; a step that panics ends its request. `Server.Reachable` are the states reached from the
migrated database, whose tables are empty.

Every account comes from the trigger of a sign-up, with an id `gen_random_uuid()` drew, which
is never `uuid.Nil`. So no top-up ever commits (`Ledger/Funding.lean`), no balance leaves zero,
and every order fails at its hold.

* `Server.reachable_unfunded`: in every reachable state no account is `uuid.Nil`, every
  balance is zero, no entry, order row or idempotency record exists, every top-up and every
  order fails, and no request has been answered with success.
* `Server.reachable_registered`: in every reachable state every user has exactly one account
  of each currency, and every account is a user's.
* `loginHandler_after_signupHandler`: after a sign-up, in every later state, a log-in with the
  same email and password answers with the user the sign-up created.

From any state, not only the reachable ones, every step keeps what a balanced commit keeps
(`Server.stable`):

* `Server.journalsBalanced`: requests served in any interleaving, with any faults, keep every
  journal adding up to zero.
* `idempotentRequest_replay`: after a request is answered with success, in every later state a
  request with the same user and key is answered from the record, with no operation run.
-/

namespace MicroCoin

open App

/-- `topupHandler`'s operation: `TopUpUser`, and the new balance as the body. -/
def topUpOperation (userId : UUID) (amount : Decimal) : App ResponseBody := do
  let account ← topUpUser userId amount
  pure (.topUp account.balanceAvailable)

/-- `createOrderHandler`'s operation: `CreateOrder`, and its response as the body. -/
def createOrderOperation (userId : UUID) (req : CreateOrderRequest) : App ResponseBody :=
  .order <$> Orders.createOrder userId req

/-- A request under way: a top-up or an order, at the stage it has reached. -/
inductive Pending
  | topUp (st : Stage Decimal)
  | order (st : Stage CreateOrderRequest)

/-- The next step of a request under way. -/
def Pending.step : Pending → App Pending
  | .topUp st => .topUp <$> st.step topUpOperation "Failed to top up"
  | .order st => .order <$> st.step createOrderOperation "Failed to create order"

/-- The state of the server: the users table, the world, and the requests under way. -/
structure Server where
  users : List User
  world : World
  pending : List Pending

/-- The tables after the migrations: all empty. -/
def Store.migrated : Store := ⟨[], [], [], []⟩

section Steps

-- `argon2.IDKey` and `auth.GenerateTokens`, as in `Auth/Users.lean`
variable (IDKey : List UInt8 → List UInt8 → UInt32 → UInt32 → UInt8 → UInt32 → List UInt8)
  (generateTokens : UUID → String → ℕ → Option (String × String))

/-- One step of the server. -/
inductive Server.Step : Server → Server → Prop
  /-- A request to `/auth/signup`. -/
  | signup {s : Server} (env : Env) (salt : Option (List UInt8)) (draws : ℕ × ℕ × ℕ × ℕ)
      (req : Option AuthRequest) {reply : AuthReply} {users : List User} {w : World}
      (h : (signupHandler IDKey generateTokens s.users salt draws req).run' env s.world =
        (.ok (reply, users), w)) :
      Server.Step s ⟨users, w, s.pending⟩
  /-- A request to `/auth/login`. -/
  | login {s : Server} (env : Env) (req : Option AuthRequest) {r : Except Err AuthReply}
      {w : World} (h : (loginHandler IDKey generateTokens s.users req).run' env s.world = (r, w)) :
      Server.Step s { s with world := w }
  /-- A request to `/api/fund/topup` arrives. -/
  | receiveTopUp {s : Server} (r : Request Decimal) :
      Server.Step s { s with pending := s.pending ++ [.topUp (.start r)] }
  /-- A request to `/api/orders` arrives. -/
  | receiveOrder {s : Server} (r : Request CreateOrderRequest) :
      Server.Step s { s with pending := s.pending ++ [.order (.start r)] }
  /-- The `i`-th request under way takes a step. -/
  | advance {s : Server} (i : ℕ) {p : Pending} (hp : s.pending.get? i = some p) (env : Env)
      {p' : Pending} {w : World} (h : p.step.run' env s.world = (.ok p', w)) :
      Server.Step s { s with world := w, pending := s.pending.set i p' }
  /-- The `i`-th request under way panics, which ends it. -/
  | abort {s : Server} (i : ℕ) {p : Pending} (hp : s.pending.get? i = some p) (env : Env)
      {e : Err} {w : World} (h : p.step.run' env s.world = (.error e, w)) :
      Server.Step s { s with world := w, pending := s.pending.eraseIdx i }

/-- The states the server reaches from the migrated database. -/
inductive Server.Reachable : Server → Prop
  | init (w : World) (hw : w.store = Store.migrated) : Server.Reachable ⟨[], w, []⟩
  | step {s s' : Server} (hs : Server.Reachable s) (h : Server.Step IDKey generateTokens s s') :
      Server.Reachable s'

end Steps

/-! ## The invariant -/

/-- Tables into which no money has come: no account is `uuid.Nil`, every balance is zero, and
    no ledger entry, order row or idempotency record has been written. -/
structure Store.Unfunded (s : Store) : Prop where
  noNil : ∀ a ∈ s.accounts, a.id ≠ uuidNil
  available : ∀ a ∈ s.accounts, a.balanceAvailable.toRat = 0
  hold : ∀ a ∈ s.accounts, a.balanceHold.toRat = 0
  entries : s.entries = []
  orders : s.orders = []
  idempotencyKeys : s.idempotencyKeys = []

/-- The users table and the accounts as the schema and the trigger keep them: user ids and
    emails are unique, every account is a user's and of one of the three currencies, and every
    user has one account of each currency. -/
structure Registered (users : List User) (s : Store) : Prop where
  ids : (users.map (·.id)).Nodup
  emails : (users.map (·.email)).Nodup
  owner : ∀ a ∈ s.accounts, ∃ u ∈ users, u.id = a.userId
  currencies : ∀ a ∈ s.accounts, a.currency ∈ [currencyUSD, currencyBTC, currencyETH]
  accounts : ∀ u ∈ users, ∀ c ∈ [currencyUSD, currencyBTC, currencyETH],
    s.accounts.countP (fun a => a.userId = u.id ∧ a.currency = c) = 1

/-- A request that has not got past its operation and, if answered, was answered with an
    error. -/
def Stage.Failing : Stage α → Prop
  | .start _ | .admitted .. => True
  | .performed .. => False
  | .done reply => ∃ code msg cause, reply = .error code msg cause

/-- A request under way that has not succeeded. -/
def Pending.Failing : Pending → Prop
  | .topUp st => st.Failing
  | .order st => st.Failing

/-- What every reachable state satisfies. -/
structure Server.Inv (s : Server) : Prop where
  registered : Registered s.users s.world.store
  unfunded : s.world.store.Unfunded
  failing : ∀ p ∈ s.pending, p.Failing

/-! ## A sign-up keeps the invariant -/

section Insert
variable {users users' : List User} {s s' : Store} {user : User} {draws : ℕ × ℕ × ℕ}

theorem userAccounts_mem {a : Account} (h : a ∈ userAccounts user.id draws) :
    a.id ≠ uuidNil ∧ a.userId = user.id ∧ a.balanceAvailable.toRat = 0 ∧
      a.balanceHold.toRat = 0 := by
  simp only [userAccounts, List.mem_cons, List.mem_singleton, List.not_mem_nil, or_false] at h
  rcases h with rfl | rfl | rfl <;> simp [genRandomUuid_ne_nil, Decimal.toRat]

theorem Store.Unfunded.insertUser (hs : s.Unfunded)
    (h : s.insertUser users user draws = .ok (users', s')) : s'.Unfunded := by
  obtain ⟨-, -, rfl⟩ := Store.insertUser_ok h
  refine ⟨?_, ?_, ?_, hs.entries, hs.orders, hs.idempotencyKeys⟩ <;> intro a ha <;>
    rcases List.mem_append.1 ha with ha | ha
  · exact hs.noNil a ha
  · exact (userAccounts_mem ha).1
  · exact hs.available a ha
  · exact (userAccounts_mem ha).2.2.1
  · exact hs.hold a ha
  · exact (userAccounts_mem ha).2.2.2

/-- The trigger gives the new user one account of each currency, and no one else any. -/
theorem Registered.insertUser (hr : Registered users s)
    (h : s.insertUser users user draws = .ok (users', s')) : Registered users' s' := by
  obtain ⟨hfresh, rfl, rfl⟩ := Store.insertUser_ok h
  have hold : ∀ a ∈ s.accounts, a.userId ≠ user.id := fun a ha heq => by
    obtain ⟨u, hu, hid⟩ := hr.owner a ha
    exact (hfresh u hu).1 (hid.trans heq)
  refine ⟨?_, ?_, fun a ha => ?_, fun a ha => ?_, fun u hu c hc => ?_⟩
  · rw [List.map_append, List.nodup_append]
    exact ⟨hr.ids, List.nodup_singleton _, by simpa using fun u hu => (hfresh u hu).1⟩
  · rw [List.map_append, List.nodup_append]
    exact ⟨hr.emails, List.nodup_singleton _, by simpa using fun u hu => (hfresh u hu).2⟩
  · rcases List.mem_append.1 ha with ha | ha
    · obtain ⟨u, hu, hid⟩ := hr.owner a ha
      exact ⟨u, List.mem_append_left _ hu, hid⟩
    · exact ⟨user, List.mem_append_right _ (List.mem_singleton_self _),
        (userAccounts_mem ha).2.1.symm⟩
  · rcases List.mem_append.1 ha with ha | ha
    · exact hr.currencies a ha
    · simp only [userAccounts, List.mem_cons, List.mem_singleton, List.not_mem_nil,
        or_false] at ha
      rcases ha with rfl | rfl | rfl <;> simp
  · rw [List.countP_append]
    rcases List.mem_append.1 hu with hu | hu
    · rw [hr.accounts u hu c hc, List.countP_eq_zero.2 fun a ha h => (hfresh u hu).1 (by
        simp only [decide_eq_true_eq] at h
        exact h.1.symm.trans (userAccounts_mem ha).2.1)]
    · rw [List.mem_singleton.1 hu, List.countP_eq_zero.2 fun a ha h => hold a ha (by
        simp only [decide_eq_true_eq] at h
        exact h.1)]
      simp only [List.mem_cons, List.mem_singleton, List.not_mem_nil, or_false] at hc
      rcases hc with rfl | rfl | rfl <;> simp [userAccounts, currencyUSD, currencyBTC, currencyETH]

end Insert

/-! ## A step of a request keeps the invariant

From unfunded tables, a step of a request that has not succeeded writes nothing and leaves the
request not succeeded: `CheckIdempotency` finds no record, so nothing is replayed, and the
operation always fails. -/

section Fixed
variable {s₀ : Store}

theorem getIdempotencyKey_found (s₀ : Store) (userId : UUID) (key : String) :
    Keeps (fun w => w.store = s₀) (getIdempotencyKey userId key)
      (· = s₀.idempotencyKey userId key) :=
  (query_found s₀ _).bind fun r hr => by
    rcases r with _ | k
    · exact Keeps.throw'
    · exact Keeps.pure' (hr k rfl)

/-- Without records, `CheckIdempotency` finds none. -/
theorem checkIdempotency_fresh (hk : s₀.idempotencyKeys = []) (userId : UUID)
    (key fingerprint : String) :
    Keeps (fun w => w.store = s₀) (checkIdempotency userId key fingerprint) (· = none) :=
  .bind (getIdempotencyKey_found s₀ userId key) fun k hk' => by
    rw [hk', Store.idempotencyKey, hk, List.find?_nil]
    exact Keeps.pure' rfl

/-- Without records, the steps before the operation never answer with a stored reply. -/
theorem precheck_fresh (hk : s₀.idempotencyKeys = []) (r : Request α) :
    Keeps (fun w => w.store = s₀) (precheck r) fun res =>
      ∀ code body, res ≠ .inl (.ok code body) := by
  unfold precheck
  split
  · dsimp only
    split
    · exact Keeps.pure' (by simp)
    · refine .bind (Keeps.pure' (Q := fun _ => True) trivial) fun _ _ => ?_
      refine .bind (attempt_keeps (checkIdempotency_fresh hk _ _ _)) fun res hres => ?_
      rcases res with _ | _ | k <;> dsimp only
      · exact Keeps.pure' (by simp)
      · split <;> exact Keeps.pure' (by simp)
      · exact absurd (hres _ rfl) (by simp)
  · exact Keeps.pure' (by simp)

/-- An operation that never returns makes `perform` answer with its error. -/
theorem perform_fails {I : World → Prop} {operate : UUID → α → App ResponseBody}
    (hop : ∀ userId req, Keeps I (operate userId req) fun _ => False) (failure : String)
    (userId : UUID) (req : α) :
    Keeps I (perform operate failure userId req) fun res =>
      ∃ e, res = .inl (.error statusInternalServerError failure (some e)) :=
  .bind (attempt_keeps (hop userId req)) fun res hres => by
    rcases res with e | body
    · exact Keeps.pure' ⟨e, rfl⟩
    · exact (hres body rfl).elim

theorem Stage.step_failing (hk : s₀.idempotencyKeys = []) {operate : UUID → α → App ResponseBody}
    (hop : ∀ userId req, Keeps (fun w => w.store = s₀) (operate userId req) fun _ => False)
    (failure : String) :
    ∀ st : Stage α, st.Failing → Keeps (fun w => w.store = s₀) (st.step operate failure) Stage.Failing
  | .start r, _ => .bind (precheck_fresh hk r) fun res hres => by
    rcases res with reply | _
    · refine Keeps.pure' ?_
      cases reply with
      | ok code body => exact absurd rfl (hres code body)
      | error code msg cause => exact ⟨code, msg, cause, rfl⟩
    · exact Keeps.pure' trivial
  | .admitted _ userId _ req, _ => .bind (perform_fails hop failure userId req) fun _ ⟨_, he⟩ => by
    subst he
    exact Keeps.pure' ⟨_, _, _, rfl⟩
  | .performed .., h => h.elim
  | .done _, h => Keeps.pure' h

theorem Pending.step_failing (hs : s₀.Unfunded) :
    ∀ p : Pending, p.Failing → Keeps (fun w => w.store = s₀) p.step Pending.Failing
  | .topUp st, hp => (Stage.step_failing hs.idempotencyKeys (fun userId amount =>
      .bind (topUpUser_fails hs.noNil userId amount) fun _ h => h.elim) _ st hp).map fun _ h => h
  | .order st, hp => (Stage.step_failing hs.idempotencyKeys (fun userId req =>
      (Orders.createOrder_fails hs.available userId req).map fun _ h => h) _ st hp).map
        fun _ h => h

end Fixed

/-! ## Every reachable state -/

section Steps
variable {IDKey : List UInt8 → List UInt8 → UInt32 → UInt32 → UInt8 → UInt32 → List UInt8}
  {generateTokens : UUID → String → ℕ → Option (String × String)}

theorem getUserByEmail_keeps {I : World → Prop} (hI : CallsBlind I) (users : List User)
    (email : String) : Keeps I (getUserByEmail users email) fun _ => True :=
  .bind (call_keeps hI) fun r _ => by
    rcases r with _ | _ | _ <;> simp only [Except.map] <;> unfold scanUser <;>
      (try split) <;> first | exact Keeps.throw' | exact Keeps.pure' trivial

/-- A log-in reads the users and writes no table. -/
theorem loginHandler_keeps (P : Store → Prop) (users : List User) (req : Option AuthRequest) :
    Keeps (fun w => P w.store) (loginHandler IDKey generateTokens users req) fun _ => True := by
  unfold loginHandler
  rcases req with _ | req
  · exact Keeps.pure' trivial
  refine .bind (attempt_keeps (getUserByEmail_keeps (CallsBlind.store P) _ _)) fun res _ => ?_
  rcases res with _ | user
  · exact Keeps.pure' trivial
  dsimp only
  split
  · exact .bind (now_storeFixed.keeps (P := P)) fun _ _ => by split <;> exact Keeps.pure' trivial
  · exact Keeps.pure' trivial

/-- One step of the server keeps the invariant. -/
theorem Server.Step.inv {s s' : Server} (h : Server.Step IDKey generateTokens s s') (hs : s.Inv) :
    s'.Inv := by
  cases h with
  | signup env salt draws req h =>
    rcases signupHandler_cases IDKey generateTokens h with
      ⟨rfl, hst, -⟩ | ⟨-, -, _, -, -, -, -, hins, -⟩
    · exact ⟨hst ▸ hs.registered, hst ▸ hs.unfunded, hs.failing⟩
    · exact ⟨hs.registered.insertUser hins, hs.unfunded.insertUser hins, hs.failing⟩
  | login env req h =>
    have hst :=
      (@loginHandler_keeps IDKey generateTokens (· = s.world.store) s.users req env s.world rfl).1
    rw [h] at hst
    exact ⟨hst ▸ hs.registered, hst ▸ hs.unfunded, hs.failing⟩
  | receiveTopUp r =>
    refine ⟨hs.registered, hs.unfunded, fun p hp => ?_⟩
    rcases List.mem_append.1 hp with hp | hp
    · exact hs.failing p hp
    · rw [List.mem_singleton.1 hp]; trivial
  | receiveOrder r =>
    refine ⟨hs.registered, hs.unfunded, fun p hp => ?_⟩
    rcases List.mem_append.1 hp with hp | hp
    · exact hs.failing p hp
    · rw [List.mem_singleton.1 hp]; trivial
  | advance i hp env h =>
    have := Pending.step_failing hs.unfunded _ (hs.failing _ (List.get?_mem hp)) env s.world rfl
    rw [h] at this
    obtain ⟨hst, hQ⟩ := this
    refine ⟨hst ▸ hs.registered, hst ▸ hs.unfunded, fun q hq => ?_⟩
    rcases List.mem_or_eq_of_mem_set hq with hq | rfl
    · exact hs.failing q hq
    · exact hQ _ rfl
  | abort i hp env h =>
    have := (Pending.step_failing hs.unfunded _ (hs.failing _ (List.get?_mem hp)) env s.world rfl).1
    rw [h] at this
    exact ⟨this ▸ hs.registered, this ▸ hs.unfunded,
      fun q hq => hs.failing q (List.mem_of_mem_eraseIdx hq)⟩

/-- Every reachable state satisfies the invariant. -/
theorem Server.Reachable.inv {s : Server} (h : Server.Reachable IDKey generateTokens s) : s.Inv := by
  induction h with
  | init w hw =>
    have hr : Registered [] Store.migrated :=
      ⟨List.nodup_nil, List.nodup_nil, nofun, nofun, nofun⟩
    have hu : Store.migrated.Unfunded := ⟨nofun, nofun, nofun, rfl, rfl, rfl⟩
    exact ⟨hw ▸ hr, hw ▸ hu, fun _ h => nomatch h⟩
  | step _ h ih => exact h.inv ih

theorem Server.Reachable.reflTransGen {s s' : Server} (hs : Server.Reachable IDKey generateTokens s)
    (h : Relation.ReflTransGen (Server.Step IDKey generateTokens) s s') :
    Server.Reachable IDKey generateTokens s' := by
  induction h with
  | refl => exact hs
  | tail _ h ih => exact ih.step h

/-- Only a sign-up writes the users table, and it appends. -/
theorem Server.Step.users_prefix {s s' : Server} (h : Server.Step IDKey generateTokens s s') :
    s.users <+: s'.users := by
  cases h with
  | signup env salt draws req h =>
    rcases signupHandler_cases IDKey generateTokens h with
      ⟨rfl, -, -⟩ | ⟨-, -, _, -, -, -, -, hins, -⟩
    · exact List.prefix_refl _
    · rw [(Store.insertUser_ok hins).2.1]
      exact List.prefix_append _ _
  | _ => exact List.prefix_refl _

theorem Server.users_prefix {s s' : Server}
    (h : Relation.ReflTransGen (Server.Step IDKey generateTokens) s s') : s.users <+: s'.users := by
  induction h with
  | refl => exact List.prefix_refl _
  | tail _ h ih => exact ih.trans h.users_prefix

/-- In every state the server reaches from its migrated database, through sign-ups, log-ins,
    and top-up and order requests served in any interleaving of their steps, with any database
    faults: no account is `uuid.Nil` and every balance is zero; no ledger entry, order row or
    idempotency record exists; every `TopUpUser` and every `CreateOrder` run from the state
    fails; and no top-up or order request has got past its operation or been answered with
    success. -/
theorem Server.reachable_unfunded {s : Server} (hs : Server.Reachable IDKey generateTokens s) :
    (∀ a ∈ s.world.store.accounts,
      a.id ≠ uuidNil ∧ a.balanceAvailable.toRat = 0 ∧ a.balanceHold.toRat = 0) ∧
    s.world.store.entries = [] ∧ s.world.store.orders = [] ∧
    s.world.store.idempotencyKeys = [] ∧
    (∀ userId amount env, ∃ e, ((topUpUser userId amount).run' env s.world).1 = .error e) ∧
    (∀ userId req env, ∃ e, ((Orders.createOrder userId req).run' env s.world).1 = .error e) ∧
    ∀ p ∈ s.pending, p.Failing := by
  have hu := hs.inv.unfunded
  exact ⟨fun a ha => ⟨hu.noNil a ha, hu.available a ha, hu.hold a ha⟩, hu.entries, hu.orders,
    hu.idempotencyKeys, fun userId amount _ => (topUpUser_fails hu.noNil userId amount).error rfl,
    fun userId req _ => (Orders.createOrder_fails hu.available userId req).error rfl,
    hs.inv.failing⟩

/-- The state after one sign-up from the migrated database. -/
theorem Server.reachable_unfunded_signup :
    match (signupHandler (fun _ _ _ _ _ k => List.replicate k.toNat 0)
        (fun _ _ _ => some ("access", "refresh")) [] (some (List.replicate 16 7)) (1, 2, 3, 4)
        (some ⟨"alice@example.com", "correct horse"⟩)).run'
        ⟨fun _ => false, fun _ => none, fun _ _ => [], 0⟩ (World.ofStore Store.migrated) with
    | (.ok (_, users), w) =>
      Server.Reachable (fun _ _ _ _ _ k => List.replicate k.toNat 0)
        (fun _ _ _ => some ("access", "refresh")) ⟨users, w, []⟩ ∧
      (∀ a ∈ w.store.accounts,
        a.id ≠ uuidNil ∧ a.balanceAvailable.toRat = 0 ∧ a.balanceHold.toRat = 0) ∧
      w.store.entries = [] ∧ w.store.orders = [] ∧ w.store.idempotencyKeys = [] ∧
      (∀ userId amount env, ∃ e, ((topUpUser userId amount).run' env w).1 = .error e) ∧
      (∀ userId req env, ∃ e, ((Orders.createOrder userId req).run' env w).1 = .error e) ∧
      ∀ p ∈ ([] : List Pending), p.Failing
    | _ => False := by
  split
  · next users w h =>
    have hs := Server.Reachable.step (.init _ rfl) (.signup _ _ _ _ h)
    exact ⟨hs, Server.reachable_unfunded hs⟩
  · next hne =>
    let user : User := ⟨genRandomUuid 1, "alice@example.com", String.mk (Auth.hashPassword
      (fun _ _ _ _ _ k => List.replicate k.toNat 0) "correct horse".toUTF8.toList
      (List.replicate 16 7)), 0⟩
    exact hne (.ok ⟨"access", "refresh", user⟩) [user] _ (Prod.ext (by decide) rfl)

/-- In every reachable state user ids and emails are unique, every account is a user's, and
    every user has exactly one account of each currency. -/
theorem Server.reachable_registered {s : Server} (hs : Server.Reachable IDKey generateTokens s) :
    (s.users.map (·.id)).Nodup ∧ (s.users.map (·.email)).Nodup ∧
    (∀ a ∈ s.world.store.accounts, ∃ u ∈ s.users, u.id = a.userId) ∧
    ∀ u ∈ s.users, ∀ c ∈ [currencyUSD, currencyBTC, currencyETH],
      s.world.store.accounts.countP (fun a => a.userId = u.id ∧ a.currency = c) = 1 :=
  have hr := hs.inv.registered
  ⟨hr.ids, hr.emails, hr.owner, hr.accounts⟩

/-- The state after one sign-up from the migrated database: one user and its three accounts. -/
theorem Server.reachable_registered_signup :
    match (signupHandler (fun _ _ _ _ _ k => List.replicate k.toNat 0)
        (fun _ _ _ => some ("access", "refresh")) [] (some (List.replicate 16 7)) (1, 2, 3, 4)
        (some ⟨"alice@example.com", "correct horse"⟩)).run'
        ⟨fun _ => false, fun _ => none, fun _ _ => [], 0⟩ (World.ofStore Store.migrated) with
    | (.ok (_, users), w) =>
      Server.Reachable (fun _ _ _ _ _ k => List.replicate k.toNat 0)
        (fun _ _ _ => some ("access", "refresh")) ⟨users, w, []⟩ ∧
      (users.map (·.id)).Nodup ∧ (users.map (·.email)).Nodup ∧
      (∀ a ∈ w.store.accounts, ∃ u ∈ users, u.id = a.userId) ∧
      ∀ u ∈ users, ∀ c ∈ [currencyUSD, currencyBTC, currencyETH],
        w.store.accounts.countP (fun a => a.userId = u.id ∧ a.currency = c) = 1
    | _ => False := by
  split
  · next users w h =>
    have hs := Server.Reachable.step (.init _ rfl) (.signup _ _ _ _ h)
    exact ⟨hs, Server.reachable_registered hs⟩
  · next hne =>
    let user : User := ⟨genRandomUuid 1, "alice@example.com", String.mk (Auth.hashPassword
      (fun _ _ _ _ _ k => List.replicate k.toNat 0) "correct horse".toUTF8.toList
      (List.replicate 16 7)), 0⟩
    exact hne (.ok ⟨"access", "refresh", user⟩) [user] _ (Prod.ext (by decide) rfl)

/-- A sign-up that succeeded from a reachable state: in every state reached after it, a log-in
    with the same email and password, when its query does not fail, answers with the user the
    sign-up created and the tokens signed for it then. -/
theorem loginHandler_after_signupHandler
    (hIDKey : ∀ p s t m th k, (IDKey p s t m th k).length = k.toNat)
    {s : Server} (hs : Server.Reachable IDKey generateTokens s) {env : Env}
    {salt : Option (List UInt8)} {draws : ℕ × ℕ × ℕ × ℕ} {req : AuthRequest}
    {resp : AuthResponse} {users : List User} {w : World}
    (h : (signupHandler IDKey generateTokens s.users salt draws (some req)).run' env s.world =
      (.ok (.ok resp, users), w))
    {s' : Server}
    (hrun : Relation.ReflTransGen (Server.Step IDKey generateTokens) ⟨users, w, s.pending⟩ s')
    (env' : Env) (hf : env'.fails s'.world.calls = false) :
    ((loginHandler IDKey generateTokens s'.users (some req)).run' env' s'.world).1 =
      match generateTokens resp.user.id resp.user.email s'.world.clock with
      | none => .ok (.error statusInternalServerError "Failed to generate tokens")
      | some (accessToken, refreshToken) => .ok (.ok ⟨accessToken, refreshToken, resp.user⟩) := by
  have hs' := (hs.step (.signup env salt draws (some req) h)).reflTransGen hrun
  rcases signupHandler_cases IDKey generateTokens h with
    ⟨-, -, hno⟩ | ⟨r, salt', user, hr, -, hemail, hhash, hins, huser⟩
  · exact absurd rfl (hno resp)
  cases hr
  rw [huser resp rfl]
  have hmem : user ∈ s'.users := (Server.users_prefix hrun).subset (by
    rw [(Store.insertUser_ok hins).2.1]
    exact List.mem_append_right _ (List.mem_singleton_self _))
  have hreq : req = ⟨user.email, req.password⟩ := by rw [hemail]
  rw [hreq]
  exact loginHandler_run'_of_mem IDKey generateTokens hIDKey hs'.inv.registered.emails hmem hhash
    env' s'.world hf

/-- A sign-up of `alice@example.com` from the migrated database, and her log-in right after, with
    a key derivation function that returns zero bytes. -/
theorem loginHandler_after_signupHandler_zeroKey :
    match (signupHandler (fun _ _ _ _ _ k => List.replicate k.toNat 0)
        (fun _ _ _ => some ("access", "refresh")) [] (some (List.replicate 16 7)) (1, 2, 3, 4)
        (some ⟨"alice@example.com", "correct horse"⟩)).run'
        ⟨fun _ => false, fun _ => none, fun _ _ => [], 0⟩ (World.ofStore Store.migrated) with
    | (.ok (.ok resp, users), w) =>
      (∀ p s t m th k,
        ((fun _ _ _ _ _ k => List.replicate k.toNat 0 : List UInt8 → List UInt8 → UInt32 →
          UInt32 → UInt8 → UInt32 → List UInt8) p s t m th k).length = k.toNat) ∧
      Server.Reachable (fun _ _ _ _ _ k => List.replicate k.toNat 0)
        (fun _ _ _ => some ("access", "refresh")) ⟨[], World.ofStore Store.migrated, []⟩ ∧
      (⟨fun _ => false, fun _ => none, fun _ _ => [], 0⟩ : Env).fails w.calls = false ∧
      ((loginHandler (fun _ _ _ _ _ k => List.replicate k.toNat 0)
          (fun _ _ _ => some ("access", "refresh")) users
          (some ⟨"alice@example.com", "correct horse"⟩)).run'
          ⟨fun _ => false, fun _ => none, fun _ _ => [], 0⟩ w).1 =
        match (fun _ _ _ => some ("access", "refresh") : UUID → String → ℕ → Option (String × String))
          resp.user.id resp.user.email w.clock with
        | none => .ok (.error statusInternalServerError "Failed to generate tokens")
        | some (accessToken, refreshToken) => .ok (.ok ⟨accessToken, refreshToken, resp.user⟩)
    | _ => False := by
  split
  · next resp users w h =>
    have hIDKey : ∀ p s t m th k,
        ((fun _ _ _ _ _ k => List.replicate k.toNat 0 : List UInt8 → List UInt8 → UInt32 →
          UInt32 → UInt8 → UInt32 → List UInt8) p s t m th k).length = k.toNat :=
      fun _ _ _ _ _ _ => List.length_replicate _ _
    exact ⟨hIDKey, .init _ rfl, rfl,
      loginHandler_after_signupHandler hIDKey (.init _ rfl) h .refl _ rfl⟩
  · next hne =>
    let user : User := ⟨genRandomUuid 1, "alice@example.com", String.mk (Auth.hashPassword
      (fun _ _ _ _ _ k => List.replicate k.toNat 0) "correct horse".toUTF8.toList
      (List.replicate 16 7)), 0⟩
    exact hne ⟨"access", "refresh", user⟩ [user] _ (Prod.ext (by decide) rfl)

/-! ## From any state: what every step keeps

The results above start from the migrated database. From any state, a step keeps every
property of the tables that committing a balanced transaction keeps and that a sign-up's new
accounts keep (`Store.CommitStable`, `Ledger/Journal.lean`): the journals adding up to zero,
and the idempotency records extending a given list. -/

/-- A request under way keeps what a balanced commit keeps. -/
theorem Pending.step_stable {P : Store → Prop} (hP : Store.CommitStable P) (p : Pending) :
    Keeps (fun w => P w.store) p.step fun _ => True := by
  have hI := CallsBlind.store P
  cases p with
  | topUp st =>
    exact (Stage.step_keeps hI (fun _ _ => .bind (topUpUser_stable hP _ _) fun _ _ =>
      Keeps.pure' trivial) (record_stable hP) _ st).map fun _ _ => trivial
  | order st =>
    exact (Stage.step_keeps hI (fun _ _ => (Orders.createOrder_stable hP _ _).map fun _ _ =>
      trivial) (record_stable hP) _ st).map fun _ _ => trivial

section Stable
variable {P : Store → Prop} (hP : Store.CommitStable P)
  (haccounts : ∀ s as, P s → P { s with accounts := s.accounts ++ as })
include hP haccounts

theorem Server.Step.stable {s s' : Server} (h : Server.Step IDKey generateTokens s s')
    (hs : P s.world.store) : P s'.world.store := by
  cases h with
  | signup env salt draws req h =>
    rcases signupHandler_cases IDKey generateTokens h with
      ⟨-, hst, -⟩ | ⟨-, -, _, -, -, -, -, hins, -⟩
    · exact hst ▸ hs
    · rw [(Store.insertUser_ok hins).2.2]
      exact haccounts _ _ hs
  | login env req h =>
    have hst := (@loginHandler_keeps IDKey generateTokens P s.users req env s.world hs).1
    rwa [h] at hst
  | receiveTopUp | receiveOrder => exact hs
  | @advance _ p _ env _ _ h | @abort _ p _ env _ _ h =>
    have hst := (Pending.step_stable hP p env s.world hs).1
    rwa [h] at hst

theorem Server.stable {s s' : Server}
    (h : Relation.ReflTransGen (Server.Step IDKey generateTokens) s s') (hs : P s.world.store) :
    P s'.world.store := by
  induction h with
  | refl => exact hs
  | tail _ h ih => exact h.stable hP haccounts ih

end Stable

/-- The idempotency records only grow, over every step of the server. -/
theorem Server.idempotencyKeys_prefix {s s' : Server}
    (h : Relation.ReflTransGen (Server.Step IDKey generateTokens) s s') :
    s.world.store.idempotencyKeys <+: s'.world.store.idempotencyKeys :=
  Server.stable (Store.commitStable_idempotencyKeys _) (fun _ _ h => h) h (List.prefix_refl _)

/-- A request answered with success is answered again from its record: in every state the
    server reaches afterwards, through sign-ups, log-ins, and top-up and order requests served
    in any interleaving of their steps with any database faults, a request with the same user
    and `Idempotency-Key`, to either handler, gets the same code and body (as `ResponseBody`
    values) if its fingerprint is the first one's, and `409 Idempotency key mismatch`
    otherwise, when its one read does not fault. It runs no operation and changes nothing but
    the count of calls. -/
theorem idempotentRequest_replay {operate : UUID → α → App ResponseBody} {failure : String}
    {r : Request α} {code : ℕ} {body : ResponseBody} {env : Env} {w : World} {s s₂ : Server}
    (h : (idempotentRequest operate failure r).run' env w = (.ok (.ok code body), s.world))
    (hs : Relation.ReflTransGen (Server.Step IDKey generateTokens) s s₂)
    (operate₂ : UUID → β → App ResponseBody) (failure₂ : String) (r₂ : Request β)
    (huser : r₂.userId = r.userId) (hkey : r₂.idemKey = r.idemKey) (env₂ : Env)
    (hf : env₂.fails s₂.world.calls = false) :
    (idempotentRequest operate₂ failure₂ r₂).run' env₂ s₂.world =
      (.ok (if generateFingerprint r₂.body r₂.headers = generateFingerprint r.body r.headers
        then .ok code body else .error statusConflict "Idempotency key mismatch" none),
        { s₂.world with calls := s₂.world.calls + 1 }) :=
  idempotentRequest_replay_of_prefix h operate₂ failure₂ r₂ huser hkey env₂ s₂.world
    (Server.idempotencyKeys_prefix hs) hf

set_option smartUnfolding false in
/-- User 1 (1000 USD) places one LIMIT BUY of 1 @ 100 with the key `k`; a copy of the request
    arrives, and is answered from the record. -/
theorem idempotentRequest_replay_order :
    let r : Request CreateOrderRequest :=
      ⟨some 1, "k", "b", [], some ⟨symbolBTCUSD, orderSideBuy, orderTypeLimit, some 100, 1⟩⟩
    let env : Env := ⟨fun _ => false, fun _ => none, fun _ _ => [], 4⟩
    let w := World.ofStore ⟨[⟨10, 1, currencyUSD, 1000, 0⟩], [], [], []⟩
    let s : Server := ⟨[], ((createOrderHandler r).run' env w).2, []⟩
    let s₂ : Server := { s with pending := s.pending ++ [.order (.start r)] }
    (createOrderHandler r).run' env w = (.ok (.ok 200 (.order ⟨1, orderStatusNew, 0, none⟩)),
      s.world) ∧
    Relation.ReflTransGen (Server.Step (fun _ _ _ _ _ _ => []) fun _ _ _ => none) s s₂ ∧
    env.fails s₂.world.calls = false ∧
    (createOrderHandler r).run' env s₂.world =
      (.ok (if generateFingerprint r.body r.headers = generateFingerprint r.body r.headers
        then .ok 200 (.order ⟨1, orderStatusNew, 0, none⟩)
        else .error statusConflict "Idempotency key mismatch" none),
        { s₂.world with calls := s₂.world.calls + 1 }) := by
  refine ⟨?h, ?hs, rfl, idempotentRequest_replay ?h ?hs _ _ _ rfl rfl _ rfl⟩
  · exact Prod.ext (by decide) rfl
  · exact .single (.receiveOrder _)

end Steps

end MicroCoin
