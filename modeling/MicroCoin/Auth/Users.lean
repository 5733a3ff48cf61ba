import MicroCoin.Auth.Password
import MicroCoin.Handlers

/-!
# Users: sign-up and log-in

The `users` table and the trigger that opens a new user's accounts (the schema,
`src/unnamed/part_002`, lines 19–24 and 91–106), `CreateUser` and `GetUserByEmail`
(`internal/database/user.go`, lines 22–66), and the two handlers of `main` that use them,
`signupHandler` and `loginHandler` (`src/unnamed/part_000`, lines 176–256).

`INSERT INTO users` gives the row the id `gen_random_uuid()`, a version-4 UUID. The trigger
`create_user_accounts` then inserts the user's USD, BTC and ETH accounts, each with an id of
its own and both balances at the column default, 0. The statement is atomic: when the trigger
fails, no row stays. The users table is passed to the statements that read it and returned by
the one that writes it, `CreateUser`.

`argon2.IDKey` is a parameter, as in `Auth/Password.lean`, and so is the signing of
`GenerateTokens` (HMAC-SHA256 over claims that carry the time it reads).

* `Store.insertUser_ok`: what a successful `INSERT INTO users` writes.
* `createUser_run'`, `signupHandler_cases`: what `CreateUser` and `signupHandler` do.
* `loginHandler_run'_of_mem`: with unique emails, the log-in of a user with the password its
  hash was made from answers with that user.
-/

namespace MicroCoin

/-- `models.User` (`types.go`, lines 55–60): one row of `users`. -/
structure User where
  id : UUID
  email : String
  passwordHash : String
  createdAt : ℕ
  deriving DecidableEq, Repr

/-- `gen_random_uuid()`: the version-4 UUID of the 122 random bits `r`, read as a number from
    its first byte. Byte 6 has the version, 4, in its high half; byte 8 has the variant bits
    `10` at its top. -/
def genRandomUuid (r : ℕ) : UUID :=
  r % 2 ^ 62 + 2 ^ 63 + r / 2 ^ 62 % 2 ^ 12 * 2 ^ 64 + 4 * 2 ^ 76 + r / 2 ^ 74 % 2 ^ 48 * 2 ^ 80

/-- The variant bits make every generated id differ from `uuid.Nil`. -/
theorem genRandomUuid_ne_nil (r : ℕ) : genRandomUuid r ≠ uuidNil := by
  simp [genRandomUuid, uuidNil]

/-! ## `INSERT INTO users` and its trigger -/

/-- The rows `create_user_accounts` inserts for the new user `userId` (lines 92–101): one
    account per currency, each with the id `gen_random_uuid()` draws from its bits in `draws`,
    and both balances at the column default, `0`, read back with ten fractional digits. -/
def userAccounts (userId : UUID) (draws : ℕ × ℕ × ℕ) : List Account :=
  [⟨genRandomUuid draws.1, userId, currencyUSD, ⟨0, -10⟩, ⟨0, -10⟩⟩,
   ⟨genRandomUuid draws.2.1, userId, currencyBTC, ⟨0, -10⟩, ⟨0, -10⟩⟩,
   ⟨genRandomUuid draws.2.2, userId, currencyETH, ⟨0, -10⟩, ⟨0, -10⟩⟩]

/-- One row of `INSERT INTO accounts`: the primary key, `UNIQUE (user_id, currency)` and
    `user_id REFERENCES users(id)`. -/
def Store.insertAccount (s : Store) (users : List User) (a : Account) : Except DbError Store :=
  if s.accounts.any fun b => b.id = a.id ∨ b.userId = a.userId ∧ b.currency = a.currency then
    .error .uniqueViolation
  else if users.any (·.id = a.userId) then .ok { s with accounts := s.accounts ++ [a] }
  else .error .foreignKeyViolation

/-- `INSERT INTO users (email, password_hash) VALUES ($1, $2)` (user.go, lines 24–27) of the
    row `user`, with the primary key and `email UNIQUE`, then its `AFTER INSERT` trigger: the
    new users table and tables, or the constraint the statement breaks. -/
def Store.insertUser (s : Store) (users : List User) (user : User) (draws : ℕ × ℕ × ℕ) :
    Except DbError (List User × Store) := do
  if users.any fun u => u.id = user.id ∨ u.email = user.email then throw .uniqueViolation
  let users := users ++ [user]
  let s ← (userAccounts user.id draws).foldlM (fun s a => s.insertAccount users a) s
  return (users, s)

/-- `r.CreateUser(email, passwordHash)` (lines 22–41). `draws` are the random bits of the
    statement's four `gen_random_uuid()`, the user's first; `created_at` is `NOW()`. -/
def createUser (users : List User) (draws : ℕ × ℕ × ℕ × ℕ) (email passwordHash : String) :
    App (User × List User) := do
  let createdAt ← now
  let user : User := ⟨genRandomUuid draws.1, email, passwordHash, createdAt⟩
  match ← call with
  | .error e => throw (.wrap "failed to create user" (.db e))
  | .ok () =>
    let w ← get
    match w.store.insertUser users user draws.2 with
    | .ok (users, s) =>
      set { w with store := s }
      return (user, users)
    | .error e => throw (.wrap "failed to create user" (.db e))

/-- The result of `QueryRow(...).Scan(...)` for a user: `sql.ErrNoRows` becomes
    `"user not found"`, any other error `"failed to get user: %w"`. -/
def scanUser : Except DbError (Option User) → App User
  | .ok (some u) => pure u
  | .ok none => throw (.text "user not found")
  | .error e => throw (.wrap "failed to get user" (.db e))

/-- `r.GetUserByEmail(email)` (lines 44–66). -/
def getUserByEmail (users : List User) (email : String) : App User := do
  scanUser ((← call).map fun _ => users.find? (·.email = email))

/-! ## The handlers -/

/-- `models.AuthRequest` (`requests.go`, lines 8–11). No code reads its `validate` tags. -/
structure AuthRequest where
  email : String
  password : String
  deriving DecidableEq, Repr

/-- `models.AuthResponse` (`requests.go`, lines 14–18). -/
structure AuthResponse where
  token : String
  refreshToken : String
  user : User
  deriving DecidableEq, Repr

/-- What the two handlers write: the encoded `AuthResponse`, or `http.Error` with its status
    and text. -/
inductive AuthReply
  | ok (body : AuthResponse)
  | error (code : ℕ) (msg : String)
  deriving DecidableEq, Repr

section Handlers

-- `argon2.IDKey(password, salt, time, memory, threads, keyLen)`, and `auth.GenerateTokens`
-- at a time: the access and refresh tokens, or `none` when signing fails
variable (IDKey : List UInt8 → List UInt8 → UInt32 → UInt32 → UInt8 → UInt32 → List UInt8)
  (generateTokens : UUID → String → ℕ → Option (String × String))

/-- `signupHandler` (lines 176–215). `req` is what `json.Decoder` made of the body, `none` for a
    body it rejects; `salt` is what `generateRandomBytes(SaltLength)` read, `none` when
    `rand.Read` failed; `draws` are the random bits of `CreateUser`. -/
def signupHandler (users : List User) (salt : Option (List UInt8)) (draws : ℕ × ℕ × ℕ × ℕ)
    (req : Option AuthRequest) : App (AuthReply × List User) := do
  let some req := req | return (.error statusBadRequest "Invalid request body", users)
  let some salt := salt
    | return (.error statusInternalServerError "Failed to hash password", users)
  let passwordHash := String.mk (Auth.hashPassword IDKey req.password.toUTF8.toList salt)
  match ← attempt (createUser users draws req.email passwordHash) with
  | .error _ => return (.error statusInternalServerError "Failed to create user", users)
  | .ok (user, users) =>
    match generateTokens user.id user.email (← now) with
    | none => return (.error statusInternalServerError "Failed to generate tokens", users)
    | some (accessToken, refreshToken) => return (.ok ⟨accessToken, refreshToken, user⟩, users)

/-- `loginHandler` (lines 217–256). -/
def loginHandler (users : List User) (req : Option AuthRequest) : App AuthReply := do
  let some req := req | return .error statusBadRequest "Invalid request body"
  match ← attempt (getUserByEmail users req.email) with
  | .error _ => return .error statusUnauthorized "Invalid credentials"
  | .ok user =>
    match Auth.verifyPassword IDKey req.password.toUTF8.toList user.passwordHash.toList with
    | .ok true =>
      match generateTokens user.id user.email (← now) with
      | none => return .error statusInternalServerError "Failed to generate tokens"
      | some (accessToken, refreshToken) => return .ok ⟨accessToken, refreshToken, user⟩
    | _ => return .error statusUnauthorized "Invalid credentials"

end Handlers

/-! ## What the statements do -/

section Statements
variable {s s' : Store} {users users' : List User}

theorem Store.insertAccount_ok {a : Account} (h : s.insertAccount users a = .ok s') :
    s' = { s with accounts := s.accounts ++ [a] } := by
  unfold Store.insertAccount at h
  split at h
  · cases h
  · split at h
    · exact (Except.ok.inj h).symm
    · cases h

theorem Store.insertAccounts_ok {accounts : List Account} :
    ∀ {s : Store}, accounts.foldlM (fun s a => s.insertAccount users a) s = .ok s' →
      s' = { s with accounts := s.accounts ++ accounts } := by
  induction accounts with
  | nil => intro s h; cases h; simp
  | cons a accounts ih =>
    intro s h
    rw [List.foldlM_cons] at h
    cases ha : s.insertAccount users a with
    | error => rw [ha] at h; cases h
    | ok s₁ => rw [ha] at h; rw [ih h, Store.insertAccount_ok ha]; simp

/-- A successful `INSERT INTO users`: the email and the id were not taken, the row is appended,
    and the trigger's three accounts are. -/
theorem Store.insertUser_ok {user : User} {draws : ℕ × ℕ × ℕ}
    (h : s.insertUser users user draws = .ok (users', s')) :
    (∀ u ∈ users, u.id ≠ user.id ∧ u.email ≠ user.email) ∧ users' = users ++ [user] ∧
      s' = { s with accounts := s.accounts ++ userAccounts user.id draws } := by
  unfold Store.insertUser at h
  split at h
  · cases h
  · next hany =>
    rw [Bool.not_eq_true, List.any_eq_false] at hany
    simp only [pure_bind] at h
    rcases hf : (userAccounts user.id draws).foldlM
      (fun s a => s.insertAccount (users ++ [user]) a) s with _ | s₁ <;> rw [hf] at h
    · cases h
    · cases h
      exact ⟨fun u hu => by simpa [not_or] using hany u hu, rfl, Store.insertAccounts_ok hf⟩

end Statements

/-- `CreateUser` from any world: the statement's result after `NOW()` and the round trip. -/
theorem createUser_run' (users : List User) (draws : ℕ × ℕ × ℕ × ℕ) (email passwordHash : String)
    (env : Env) (w : World) :
    (createUser users draws email passwordHash).run' env w =
      if env.fails w.calls then
        (.error (.wrap "failed to create user" (.db .fault)),
          { w with clock := w.clock + 1, calls := w.calls + 1 })
      else match w.store.insertUser users ⟨genRandomUuid draws.1, email, passwordHash, w.clock⟩
          draws.2 with
        | .ok (users', s) => (.ok (⟨genRandomUuid draws.1, email, passwordHash, w.clock⟩, users'),
            { w with clock := w.clock + 1, calls := w.calls + 1, store := s })
        | .error e => (.error (.wrap "failed to create user" (.db e)),
            { w with clock := w.clock + 1, calls := w.calls + 1 }) := by
  cases hf : env.fails w.calls <;>
    simp only [createUser, App.run'_bind, now_run', call_run', hf, Bool.false_eq_true, if_false,
      if_true, App.run'_get, App.run'_throw]
  rcases w.store.insertUser _ _ _ with _ | ⟨_, _⟩ <;> rfl

section CreateUser
variable {users users' : List User} {draws : ℕ × ℕ × ℕ × ℕ} {email passwordHash : String}
  {env : Env} {w w' : World}

/-- A `CreateUser` that returned inserted its row. -/
theorem createUser_ok {user : User}
    (h : (createUser users draws email passwordHash).run' env w = (.ok (user, users'), w')) :
    user = ⟨genRandomUuid draws.1, email, passwordHash, w.clock⟩ ∧
      w.store.insertUser users user draws.2 = .ok (users', w'.store) := by
  rw [createUser_run'] at h
  split at h
  · cases h
  · split at h
    · next hins => cases h; exact ⟨rfl, hins⟩
    · cases h

/-- A `CreateUser` that failed wrote nothing. -/
theorem createUser_error {e : Err}
    (h : (createUser users draws email passwordHash).run' env w = (.error e, w')) :
    (∃ d, e = .wrap "failed to create user" (.db d)) ∧ w'.store = w.store := by
  rw [createUser_run'] at h
  split at h
  · cases h; exact ⟨⟨_, rfl⟩, rfl⟩
  · split at h
    · cases h
    · cases h; exact ⟨⟨_, rfl⟩, rfl⟩

end CreateUser

/-- `GetUserByEmail` from any world. -/
theorem getUserByEmail_run' (users : List User) (email : String) (env : Env) (w : World) :
    (getUserByEmail users email).run' env w =
      if env.fails w.calls then
        (.error (.wrap "failed to get user" (.db .fault)), { w with calls := w.calls + 1 })
      else match users.find? (·.email = email) with
        | some u => (.ok u, { w with calls := w.calls + 1 })
        | none => (.error (.text "user not found"), { w with calls := w.calls + 1 }) := by
  cases hf : env.fails w.calls <;>
    simp only [getUserByEmail, App.run'_bind, call_run', hf, Bool.false_eq_true, if_false, if_true,
      Except.map, scanUser, App.run'_throw]
  rcases users.find? _ with _ | _ <;> rfl

/-- With unique emails, `WHERE email = $1` finds the row of that email. -/
theorem find?_email {users : List User} (h : (users.map (·.email)).Nodup) {u : User}
    (hu : u ∈ users) : users.find? (·.email = u.email) = some u := by
  rcases hf : users.find? (·.email = u.email) with _ | v
  · exact absurd (List.find?_eq_none.1 hf u hu) (by simp)
  · exact hf.trans (congrArg some (List.inj_on_of_nodup_map h (List.mem_of_find?_eq_some hf) hu
      (by simpa using List.find?_some hf)))

section Handlers
variable (IDKey : List UInt8 → List UInt8 → UInt32 → UInt32 → UInt8 → UInt32 → List UInt8)
  (generateTokens : UUID → String → ℕ → Option (String × String))

/-- Everything a sign-up can do to the tables: nothing, with an error reply; or the
    `INSERT INTO users` of a row with the request's email and the hash of its password, whose
    user is the one any success reply carries. -/
theorem signupHandler_cases {users users' : List User} {salt : Option (List UInt8)}
    {draws : ℕ × ℕ × ℕ × ℕ} {req : Option AuthRequest} {env : Env} {w w' : World}
    {reply : AuthReply}
    (h : (signupHandler IDKey generateTokens users salt draws req).run' env w =
      (.ok (reply, users'), w')) :
    (users' = users ∧ w'.store = w.store ∧ ∀ resp, reply ≠ .ok resp) ∨
      ∃ r salt' user, req = some r ∧ salt = some salt' ∧ user.email = r.email ∧
        user.passwordHash = String.mk (Auth.hashPassword IDKey r.password.toUTF8.toList salt') ∧
        w.store.insertUser users user draws.2 = .ok (users', w'.store) ∧
        ∀ resp, reply = .ok resp → resp.user = user := by
  rcases req with _ | r
  · obtain ⟨⟨rfl, rfl⟩, rfl⟩ : (_ ∧ _) ∧ _ := by simpa [signupHandler] using h
    exact .inl ⟨rfl, rfl, by simp⟩
  rcases salt with _ | salt
  · obtain ⟨⟨rfl, rfl⟩, rfl⟩ : (_ ∧ _) ∧ _ := by simpa [signupHandler] using h
    exact .inl ⟨rfl, rfl, by simp⟩
  rcases hc : (createUser users draws r.email
    (String.mk (Auth.hashPassword IDKey r.password.toUTF8.toList salt))).run' env w with
    ⟨_ | ⟨user, users₁⟩, w₁⟩
  · obtain ⟨⟨d, rfl⟩, hst⟩ := createUser_error hc
    simp only [signupHandler, App.run'_bind, attempt_run'_error hc (by simp) (by simp),
      App.run'_pure, Prod.mk.injEq, Except.ok.injEq] at h
    obtain ⟨⟨rfl, rfl⟩, rfl⟩ := h
    exact .inl ⟨rfl, hst, by simp⟩
  · obtain ⟨rfl, hins⟩ := createUser_ok hc
    simp only [signupHandler, App.run'_bind, attempt_run'_ok hc, now_run'] at h
    refine .inr ⟨r, salt, ⟨genRandomUuid draws.1, r.email, _, w.clock⟩, rfl, rfl, rfl, rfl, ?_⟩
    rcases hg : generateTokens (genRandomUuid draws.1) r.email w₁.clock with
      _ | ⟨accessToken, refreshToken⟩ <;>
      simp only [hg, App.run'_pure, Prod.mk.injEq, Except.ok.injEq] at h <;>
      obtain ⟨⟨rfl, rfl⟩, rfl⟩ := h
    · exact ⟨hins, by simp⟩
    · exact ⟨hins, fun resp h => by cases h; rfl⟩

/-- A password verifies against its own hash, for a key derivation function that returns
    `keyLen` bytes. -/
theorem Auth.verifyPassword_hashPassword
    (hIDKey : ∀ p s t m th k, (IDKey p s t m th k).length = k.toNat) (password salt : List UInt8) :
    Auth.verifyPassword IDKey password (Auth.hashPassword IDKey password salt) = .ok true := by
  have hlen := hIDKey password salt (UInt32.ofNat Auth.iterations) (UInt32.ofNat Auth.memory)
    (UInt8.ofNat Auth.parallelism) (UInt32.ofNat Auth.keyLength)
  simp only [Auth.verifyPassword, Auth.hashPassword, Auth.decodeHash_sprintf, hlen]
  simp [Auth.constantTimeCompare]
  rfl

/-- A log-in with the email of a row and the password its hash was made from, when emails are
    unique and the query does not fail, answers with that row and the tokens signed for it. -/
theorem loginHandler_run'_of_mem
    (hIDKey : ∀ p s t m th k, (IDKey p s t m th k).length = k.toNat)
    {users : List User} (hemails : (users.map (·.email)).Nodup) {user : User} (hu : user ∈ users)
    {password : String} {salt : List UInt8}
    (hhash : user.passwordHash = String.mk (Auth.hashPassword IDKey password.toUTF8.toList salt))
    (env : Env) (w : World) (hf : env.fails w.calls = false) :
    ((loginHandler IDKey generateTokens users (some ⟨user.email, password⟩)).run' env w).1 =
      match generateTokens user.id user.email w.clock with
      | none => .ok (.error statusInternalServerError "Failed to generate tokens")
      | some (accessToken, refreshToken) => .ok (.ok ⟨accessToken, refreshToken, user⟩) := by
  have hget : (getUserByEmail users user.email).run' env w =
      (.ok user, { w with calls := w.calls + 1 }) := by
    rw [getUserByEmail_run', hf, find?_email hemails hu]
    rfl
  simp only [loginHandler, App.run'_bind, attempt_run'_ok hget, hhash, String.toList,
    Auth.verifyPassword_hashPassword IDKey hIDKey, now_run']
  rcases generateTokens user.id user.email w.clock with _ | ⟨_, _⟩ <;> rfl

end Handlers

end MicroCoin
