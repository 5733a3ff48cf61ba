import MicroCoin.Orders.Service

/-!
# Idempotent requests

`package idempotency` (`src/unnamed/part_006`) and the two money handlers of `main`
(`src/unnamed/part_000`): `topupHandler` (lines 258–351) and `createOrderHandler`
(lines 372–460). Both run the same steps around their business operation:

1. `CheckIdempotency(userID, idemKey, fingerprint)` reads the record of `(user, key)`;
2. without one, the operation runs (`TopUpUser` or `CreateOrder`, in their own
   transactions);
3. only then is the record stored, in a transaction of its own.

A handler is `precheck`, `perform` and `record` in sequence. Two requests served at once
interleave their steps; each step is an `App` computation on the one world, so an
interleaving is a sequence of the steps of both.

* `createOrderHandler_duplicate_interleaving` — two copies of one request, each admitted
  before the other stores its record, both create the order: the operation takes effect
  twice, and the second reply is an error although its order was placed.
* `idempotentRequest_replay_of_prefix` — one after the other, the record does its work: a
  request answered with success is answered again from its record, with no operation run
  (`Server.lean` carries it over every later step of the server).

The hash of `GenerateFingerprint` is left out: the fingerprint is the string it hashes,
so two fingerprints are equal exactly when the hashed strings are. That string depends on
the order a map is ranged over, and two requests can give one string
(`generateFingerprint_not_canonical`).
-/

namespace MicroCoin

/-! ## `package idempotency` -/

/-- The record `WHERE user_id = $1 AND idem_key = $2`. -/
def Store.idempotencyKey (s : Store) (userId : UUID) (key : String) : Option IdempotencyKey :=
  s.idempotencyKeys.find? fun k => k.userId = userId ∧ k.idemKey = key

/-- `r.GetIdempotencyKey(userID, key)` (lines 29–53): `sql.ErrNoRows` is no record, not an
    error. -/
def getIdempotencyKey (userId : UUID) (key : String) : App (Option IdempotencyKey) := do
  match ← query (·.idempotencyKey userId key) with
  | .ok k => pure k
  | .error e => throw (.wrap "failed to get idempotency key" (.db e))

/-- `r.CreateIdempotencyKey(tx, idemKey)` (lines 56–73). -/
def createIdempotencyKey (tx : Tx) (k : IdempotencyKey) : App Tx := do
  orFail "failed to create idempotency key" (← txExec tx (.insertIdempotencyKey k))

/-- `s.GenerateFingerprint(body, headers)` (lines 88–100), without the SHA-256: the body,
    then `key:value` for the `Authorization` and `Content-Type` headers, in the order
    `range headers` visits them. -/
def generateFingerprint (body : String) (headers : List (String × String)) : String :=
  headers.foldl (fun data (key, value) =>
    if key = "Authorization" ∨ key = "Content-Type" then data ++ key ++ ":" ++ value
    else data) body

/-- The string `GenerateFingerprint` hashes is no encoding of the body and the two headers:
    with both headers present, the two orders in which `range` may visit them give two
    strings, whatever the body and the values; and with no separator, the body
    `body ++ "Authorization:" ++ t` without the header gives the string of `body` with
    `Authorization: t`. -/
theorem generateFingerprint_not_canonical :
    (∀ body t c : String, generateFingerprint body [("Authorization", t), ("Content-Type", c)] ≠
      generateFingerprint body [("Content-Type", c), ("Authorization", t)]) ∧
    ∀ body t : String, generateFingerprint (body ++ "Authorization:" ++ t) [] =
      generateFingerprint body [("Authorization", t)] := by
  refine ⟨fun body t c h => ?_, fun body t => ?_⟩
  · have := congrArg String.data h
    simp [generateFingerprint] at this
  · simp only [generateFingerprint, List.foldl, true_or, if_true]
    rw [String.append_assoc body "Authorization"]
    rfl

/-- `s.CheckIdempotency(userID, key, fingerprint)` (lines 103–119). -/
def checkIdempotency (userId : UUID) (key fingerprint : String) :
    App (Option IdempotencyKey) := do
  match ← getIdempotencyKey userId key with
  | none => pure none
  | some k =>
    if k.requestFingerprint ≠ fingerprint then throw (.text "idempotency key mismatch")
    else pure (some k)

/-- `s.StoreIdempotency(tx, userID, key, fingerprint, responseCode, responseBody)`
    (lines 122–132). -/
def storeIdempotency (tx : Tx) (userId : UUID) (key fingerprint : String) (responseCode : ℕ)
    (responseBody : ResponseBody) : App Tx :=
  createIdempotencyKey tx ⟨userId, key, fingerprint, responseCode, responseBody⟩

/-! ## The handlers -/

/-- `http.StatusOK`. -/
def statusOK : ℕ := 200
/-- `http.StatusBadRequest`. -/
def statusBadRequest : ℕ := 400
/-- `http.StatusUnauthorized`. -/
def statusUnauthorized : ℕ := 401
/-- `http.StatusConflict`. -/
def statusConflict : ℕ := 409
/-- `http.StatusInternalServerError`. -/
def statusInternalServerError : ℕ := 500

/-- A request to a handler: the user the auth middleware put in the context, the
    `Idempotency-Key` header, the body, the first value of each header in the order
    `range r.Header` visits them, and what `json.Unmarshal` makes of the body (`none` for
    a body it rejects). -/
structure Request (α : Type) where
  userId : Option UUID
  idemKey : String
  body : String
  headers : List (String × String)
  parsed : Option α

/-- What a handler writes: a status code and a body, or `http.Error` with its text and the
    error it prints with `%v`, if any. -/
inductive Reply
  | ok (code : ℕ) (body : ResponseBody)
  | error (code : ℕ) (msg : String) (cause : Option Err)
  deriving DecidableEq, Repr

/-- `v, err := f(...)` followed by `if err != nil`: the error as a value. A Go panic, and a
    loop that does not stop, are not error values and end the request. -/
def attempt (x : App α) : App (Except Err α) :=
  tryCatch (Except.ok <$> x) fun e =>
    match e with
    | .panic _ | .outOfFuel => throw e
    | e => pure (.error e)

/-- `v, err := f(...)` of a computation that returned. -/
theorem attempt_run'_ok {x : App α} {env : Env} {w w' : World} {a : α}
    (h : x.run' env w = (.ok a, w')) : (attempt x).run' env w = (.ok (.ok a), w') := by
  rw [attempt, App.run'_tryCatch, App.run'_map, h]

/-- `v, err := f(...)` of a computation that failed with an error value. -/
theorem attempt_run'_error {x : App α} {env : Env} {w w' : World} {e : Err}
    (h : x.run' env w = (.error e, w')) (hp : ∀ p, e ≠ .panic p) (hf : e ≠ .outOfFuel) :
    (attempt x).run' env w = (.ok (.error e), w') := by
  rw [attempt, App.run'_tryCatch, App.run'_map, h]
  dsimp only
  split
  · exact absurd rfl (hp _)
  · exact absurd rfl hf
  · rfl

/-- `v, err := f(...)` with no error: `f` returned that value. -/
theorem attempt_ok {x : App α} {a : α}
    (h : (attempt x).run' env w = (.ok (.ok a), w')) : x.run' env w = (.ok a, w') := by
  rw [attempt, App.run'_tryCatch, App.run'_map] at h
  rcases hx : x.run' env w with ⟨e | a', w₁⟩ <;> rw [hx] at h
  · dsimp only at h
    split at h <;> simp at h
  · simpa using h

/-- The steps before the operation: the user, the key, the fingerprint and
    `CheckIdempotency`. The reply when the handler stops there, otherwise the user, the
    fingerprint and the parsed request. -/
def precheck (r : Request α) : App (Reply ⊕ UUID × String × α) := do
  let some userId := r.userId
    | return .inl (.error statusUnauthorized "User not authenticated" none)
  if r.idemKey = "" then
    return .inl (.error statusBadRequest "Idempotency-Key header required" none)
  let fingerprint := generateFingerprint r.body r.headers
  match ← attempt (checkIdempotency userId r.idemKey fingerprint) with
  | .error _ => return .inl (.error statusConflict "Idempotency key mismatch" none)
  | .ok (some k) => return .inl (.ok k.responseCode k.responseBody)
  | .ok none =>
    let some req := r.parsed | return .inl (.error statusBadRequest "Invalid request body" none)
    return .inr (userId, fingerprint, req)

/-- The business operation, with the text of the reply to its error. -/
def perform (operate : UUID → α → App ResponseBody) (failure : String) (userId : UUID)
    (req : α) : App (Reply ⊕ ResponseBody) := do
  match ← attempt (operate userId req) with
  | .error e => return .inl (.error statusInternalServerError failure (some e))
  | .ok body => return .inr body

/-- Storing the record in a transaction of its own, then the reply. -/
def record (userId : UUID) (key fingerprint : String) (body : ResponseBody) : App Reply := do
  let .ok tx ← begin
    | return .error statusInternalServerError "Failed to begin transaction" none
  let .ok tx ← attempt (storeIdempotency tx userId key fingerprint statusOK body)
    | return .error statusInternalServerError "Failed to store idempotency key" none
  let .ok () ← commit tx
    | return .error statusInternalServerError "Failed to commit transaction" none
  return .ok statusOK body

/-- The body shared by `topupHandler` and `createOrderHandler`, which differ only in the
    operation and the text of its error reply. -/
def idempotentRequest (operate : UUID → α → App ResponseBody) (failure : String)
    (r : Request α) : App Reply := do
  match ← precheck r with
  | .inl reply => pure reply
  | .inr (userId, fingerprint, req) =>
    match ← perform operate failure userId req with
    | .inl reply => pure reply
    | .inr body => record userId r.idemKey fingerprint body

/-- `topupHandler` (lines 258–351); the body is a `TopUpRequest`, its `Amount`. -/
def topupHandler : Request Decimal → App Reply :=
  idempotentRequest (fun userId amount => do
    let account ← topUpUser userId amount
    pure (.topUp account.balanceAvailable)) "Failed to top up"

/-- `createOrderHandler` (lines 372–460). -/
def createOrderHandler : Request CreateOrderRequest → App Reply :=
  idempotentRequest (fun userId req => .order <$> Orders.createOrder userId req)
    "Failed to create order"

/-! ## Requests served at once -/

/-- How far a request has got: not started, admitted (with its user, fingerprint and
    parsed body), performed (with the body of its reply), or replied. -/
inductive Stage (α : Type)
  | start (r : Request α)
  | admitted (r : Request α) (userId : UUID) (fingerprint : String) (req : α)
  | performed (r : Request α) (userId : UUID) (fingerprint : String) (body : ResponseBody)
  | done (reply : Reply)

/-- The reply of a request that has finished. -/
def Stage.reply? : Stage α → Option Reply
  | .done reply => some reply
  | _ => none

/-- The next step of a request handled by `idempotentRequest operate failure`. -/
def Stage.step (operate : UUID → α → App ResponseBody) (failure : String) :
    Stage α → App (Stage α)
  | .start r => do
    match ← precheck r with
    | .inl reply => pure (.done reply)
    | .inr (userId, fingerprint, req) => pure (.admitted r userId fingerprint req)
  | .admitted r userId fingerprint req => do
    match ← perform operate failure userId req with
    | .inl reply => pure (.done reply)
    | .inr body => pure (.performed r userId fingerprint body)
  | .performed r userId fingerprint body => .done <$> record userId r.idemKey fingerprint body
  | .done reply => pure (.done reply)

/-- Requests served at once: `schedule` says whose step comes next, by index. -/
def serve (operate : UUID → α → App ResponseBody) (failure : String) :
    List ℕ → List (Stage α) → App (List (Stage α))
  | [], stages => pure stages
  | i :: schedule, stages =>
    match stages.get? i with
    | none => serve operate failure schedule stages
    | some st => do
      let st ← st.step operate failure
      serve operate failure schedule (stages.set i st)

set_option smartUnfolding false in
/-- User 1 (1000 USD) sends one LIMIT BUY of 1 @ 100 twice with the key `k`. Served at
    once, both requests pass `CheckIdempotency` before either stores its record: both
    orders are created and 200 USD is held, one record is stored, and the second request
    replies with an error although its order was placed. -/
theorem createOrderHandler_duplicate_interleaving :
    let s : Store := ⟨[⟨10, 1, currencyUSD, 1000, 0⟩], [], [], []⟩
    let r : Request CreateOrderRequest :=
      ⟨some 1, "k", "b", [], some ⟨symbolBTCUSD, orderSideBuy, orderTypeLimit, some 100, 1⟩⟩
    let (stages, w) := (serve (fun userId req => .order <$> Orders.createOrder userId req)
      "Failed to create order" [0, 1, 0, 1, 0, 1] [.start r, .start r]).run'
        ⟨fun _ => false, fun _ => none, fun _ _ => [], 4⟩ (World.ofStore s)
    stages.map (List.map Stage.reply?) = .ok [some (.ok 200 (.order ⟨1, orderStatusNew, 0, none⟩)),
        some (.error 500 "Failed to store idempotency key" none)] ∧
      (w.store.orders.map (·.userId)) = [1, 1] ∧ w.store.idempotencyKeys.length = 1 ∧
      (w.store.accounts.map (·.balanceHold.equal 200)) = [true] := by
  decide

/-! ## Replaying a request

`CheckIdempotency` finds the record `StoreIdempotency` stored in any later tables whose records
extend those the request left. So a request answered with success is answered again from its
record, and no operation runs.

* `idempotentRequest_replay_of_prefix` — after a success, a request with the same user and key
  gets the same code and body if its fingerprint is the first one's, and `409` otherwise.

The record's body is a `ResponseBody` value: the `JSONB` column gives it back re-serialised,
and the replay is written without the `Content-Type` of the first reply, so the two answers
are the same as JSON values, not byte for byte.
-/

section Replay
variable {s s' : Store} {env : Env} {w w' : World}

/-- A record found stays found when records are added after it. -/
theorem Store.idempotencyKey_of_prefix (hp : s.idempotencyKeys <+: s'.idempotencyKeys)
    {userId : UUID} {key : String} {k : IdempotencyKey}
    (h : s.idempotencyKey userId key = some k) : s'.idempotencyKey userId key = some k := by
  obtain ⟨t, ht⟩ := hp
  rw [Store.idempotencyKey, ← ht, List.find?_append]
  rw [Store.idempotencyKey] at h
  rw [h]
  rfl

/-- The record a committed `CreateIdempotencyKey` inserts is found for its user and key. -/
theorem Store.idempotencyKey_insert {k : IdempotencyKey}
    (h : s.runAll [.insertIdempotencyKey k] = .ok s') :
    s'.idempotencyKey k.userId k.idemKey = some k := by
  by_cases hk : s.idempotencyKeys.any (fun k' => k'.userId = k.userId ∧ k'.idemKey = k.idemKey)
  · simp only [Store.runAll, Store.run, hk, if_true] at h
    cases h
  · simp only [Store.runAll, Store.run, hk, Bool.false_eq_true, if_false] at h
    cases h
    rw [Store.idempotencyKey, List.find?_append, List.find?_eq_none.2 fun k' hk' hp => hk
      (List.any_eq_true.2 ⟨k', hk', hp⟩)]
    simp

/-- `CheckIdempotency` in closed form: one read, then the record of the user and key. -/
theorem checkIdempotency_run' (userId : UUID) (key fingerprint : String) (env : Env) (w : World) :
    (checkIdempotency userId key fingerprint).run' env w =
      (if env.fails w.calls then .error (.wrap "failed to get idempotency key" (.db .fault))
        else match w.store.idempotencyKey userId key with
          | none => .ok none
          | some k => if k.requestFingerprint = fingerprint then .ok (some k)
            else .error (.text "idempotency key mismatch"),
        { w with calls := w.calls + 1 }) := by
  cases hf : env.fails w.calls
  · rcases hk : w.store.idempotencyKey userId key with _ | k
    · simp [checkIdempotency, getIdempotencyKey, App.run'_bind, query_run', hf, hk]
    · by_cases hp : k.requestFingerprint = fingerprint <;>
        simp [checkIdempotency, getIdempotencyKey, App.run'_bind, query_run', hf, hk, hp]
  · simp [checkIdempotency, getIdempotencyKey, App.run'_bind, query_run', hf]

/-- The steps before the operation in closed form. A fault of the one read answers as a
    mismatch does. -/
theorem precheck_run' (r : Request α) (env : Env) (w : World) :
    (precheck r).run' env w =
      match r.userId with
      | none => (.ok (.inl (.error statusUnauthorized "User not authenticated" none)), w)
      | some userId =>
        if r.idemKey = "" then
          (.ok (.inl (.error statusBadRequest "Idempotency-Key header required" none)), w)
        else
          (.ok (if env.fails w.calls then .inl (.error statusConflict "Idempotency key mismatch" none)
            else match w.store.idempotencyKey userId r.idemKey with
              | some k => .inl (if k.requestFingerprint = generateFingerprint r.body r.headers
                  then .ok k.responseCode k.responseBody
                  else .error statusConflict "Idempotency key mismatch" none)
              | none => match r.parsed with
                | none => .inl (.error statusBadRequest "Invalid request body" none)
                | some req => .inr (userId, generateFingerprint r.body r.headers, req)),
            { w with calls := w.calls + 1 }) := by
  unfold precheck
  rcases hu : r.userId with _ | userId
  · rfl
  by_cases hk : r.idemKey = ""
  · simp [hk]
  cases hf : env.fails w.calls
  · rcases hi : w.store.idempotencyKey userId r.idemKey with _ | k
    · rcases hp : r.parsed with _ | req <;>
        simp [hk, hi, hp, hf, App.run'_bind, attempt, App.run'_tryCatch, App.run'_map,
          checkIdempotency_run']
    · by_cases hp : k.requestFingerprint = generateFingerprint r.body r.headers <;>
        simp [hk, hi, hp, hf, App.run'_bind, attempt, App.run'_tryCatch, App.run'_map,
          checkIdempotency_run']
  · simp [hk, hf, App.run'_bind, attempt, App.run'_tryCatch, App.run'_map, checkIdempotency_run']

/-- `perform` stops the handler only with the error reply of its operation. -/
theorem perform_inl {operate : UUID → α → App ResponseBody} {failure : String} {userId : UUID}
    {req : α} {reply : Reply}
    (h : (perform operate failure userId req).run' env w = (.ok (.inl reply), w')) :
    ∃ e, reply = .error statusInternalServerError failure (some e) := by
  obtain ⟨a, w₁, -, h⟩ := App.run'_bind_ok h
  rcases a with e | body <;> simp at h
  exact ⟨e, h.1.symm⟩

/-- Storing the record answers with success only when its transaction committed: the record
    is then the one found for its user and key. -/
theorem record_ok {userId : UUID} {key fingerprint : String} {body body' : ResponseBody}
    {code : ℕ} (h : (record userId key fingerprint body).run' env w = (.ok (.ok code body'), w')) :
    code = statusOK ∧ body' = body ∧
      w'.store.idempotencyKey userId key = some ⟨userId, key, fingerprint, statusOK, body⟩ := by
  obtain ⟨r₁, w₁, hb, h⟩ := App.run'_bind_ok h
  rcases r₁ with _ | tx
  · simp at h
  obtain ⟨r₂, w₂, hs, h⟩ := App.run'_bind_ok h
  rcases r₂ with _ | tx'
  · simp at h
  obtain ⟨r₃, w₃, hc, h⟩ := App.run'_bind_ok h
  rcases r₃ with _ | ⟨⟩
  · simp at h
  simp only [App.run'_pure, Prod.mk.injEq, Except.ok.injEq, Reply.ok.injEq] at h
  obtain ⟨⟨rfl, rfl⟩, rfl⟩ := h
  refine ⟨rfl, rfl, ?_⟩
  have htx : tx = [] := by
    rw [begin_run'] at hb
    split at hb <;> simp at hb
    exact hb.1
  obtain ⟨r, w₄, htx', hor⟩ := App.run'_bind_ok (attempt_ok hs)
  obtain ⟨rfl, rfl⟩ := orFail_ok hor
  rw [txExec_run'] at htx'
  have hw₂ : w₂.store = w₁.store ∧
      tx' = tx ++ [.insertIdempotencyKey ⟨userId, key, fingerprint, statusOK, body⟩] := by
    split at htx'
    · simp at htx'
    · simp only [Except.map, Prod.mk.injEq, Except.ok.injEq] at htx'
      split at htx'
      · simp at htx'
      · rw [← htx'.2]
        exact ⟨rfl, (Except.ok.inj htx'.1).symm⟩
  rw [hw₂.2, htx] at hc
  exact Store.idempotencyKey_insert (hw₂.1 ▸ commit_ok hc)

/-- A success answer leaves the record of the request's user and key, holding the request's
    fingerprint and the answer's code and body. -/
theorem idempotentRequest_ok {operate : UUID → α → App ResponseBody} {failure : String}
    {r : Request α} {code : ℕ} {body : ResponseBody}
    (h : (idempotentRequest operate failure r).run' env w = (.ok (.ok code body), w')) :
    ∃ userId k, r.userId = some userId ∧ r.idemKey ≠ "" ∧
      w'.store.idempotencyKey userId r.idemKey = some k ∧
      k.requestFingerprint = generateFingerprint r.body r.headers ∧
      k.responseCode = code ∧ k.responseBody = body := by
  obtain ⟨a, w₁, hp, h⟩ := App.run'_bind_ok h
  rw [precheck_run'] at hp
  rcases hu : r.userId with _ | userId
  · simp only [hu, Prod.mk.injEq, Except.ok.injEq] at hp
    obtain ⟨rfl, rfl⟩ := hp
    simp at h
  have hk : r.idemKey ≠ "" := fun hk => by
    simp only [hu, hk, if_true, Prod.mk.injEq, Except.ok.injEq] at hp
    obtain ⟨rfl, rfl⟩ := hp
    simp at h
  simp only [hu, hk, if_false, Prod.mk.injEq, Except.ok.injEq] at hp
  obtain ⟨rfl, rfl⟩ := hp
  refine ⟨userId, ?_⟩
  cases hf : env.fails w.calls
  · rcases hi : w.store.idempotencyKey userId r.idemKey with _ | k
    · rcases hr : r.parsed with _ | req
      · simp [hf, hi, hr] at h
      · simp only [hf, hi, hr, Bool.false_eq_true, if_false] at h
        obtain ⟨b, w₂, hperf, h⟩ := App.run'_bind_ok h
        rcases b with reply | body'
        · obtain ⟨e, rfl⟩ := perform_inl hperf
          simp at h
        · obtain ⟨rfl, rfl, hrec⟩ := record_ok h
          exact ⟨_, rfl, hk, hrec, rfl, rfl, rfl⟩
    · by_cases hfp : k.requestFingerprint = generateFingerprint r.body r.headers
      · simp [hf, hi, hfp] at h
        obtain ⟨⟨rfl, rfl⟩, rfl⟩ := h
        exact ⟨k, rfl, hk, hi, hfp, rfl, rfl⟩
      · simp [hf, hi, hfp] at h
  · simp [hf] at h

/-- A request answered with success is answered again from its record: in any later world whose
    records extend those it left, a request with the same user and `Idempotency-Key`, to either
    handler, gets the same code and body if its fingerprint is the first one's, and
    `409 Idempotency key mismatch` otherwise, when its one read does not fault. It runs no
    operation and changes nothing but the count of calls. -/
theorem idempotentRequest_replay_of_prefix {operate : UUID → α → App ResponseBody}
    {failure : String} {r : Request α} {code : ℕ} {body : ResponseBody}
    (h : (idempotentRequest operate failure r).run' env w = (.ok (.ok code body), w'))
    (operate₂ : UUID → β → App ResponseBody) (failure₂ : String) (r₂ : Request β)
    (huser : r₂.userId = r.userId) (hkey : r₂.idemKey = r.idemKey) (env₂ : Env) (w₂ : World)
    (hw : w'.store.idempotencyKeys <+: w₂.store.idempotencyKeys)
    (hf : env₂.fails w₂.calls = false) :
    (idempotentRequest operate₂ failure₂ r₂).run' env₂ w₂ =
      (.ok (if generateFingerprint r₂.body r₂.headers = generateFingerprint r.body r.headers
        then .ok code body else .error statusConflict "Idempotency key mismatch" none),
        { w₂ with calls := w₂.calls + 1 }) := by
  obtain ⟨userId, k, hu, hk, hi, hfp, rfl, rfl⟩ := idempotentRequest_ok h
  rw [idempotentRequest, App.run'_bind, precheck_run', huser, hu, hkey]
  simp only [hk, if_false, hf, Bool.false_eq_true, Store.idempotencyKey_of_prefix hw hi, hfp,
    eq_comm]
  split_ifs <;> rfl

end Replay

end MicroCoin
