import MicroCoin.Handlers
import MicroCoin.Rate.Limiter

/-!
# `main`'s router and its middlewares

`main` (`src/unnamed/part_000`, lines 78–113) registers its routes on a `mux.Router` and wraps
the handler of every matched route in the middlewares of `router.Use`, the first registered
outermost: `auth.AuthMiddleware` (`internal/auth/middleware.go`, lines 16–51), then
`rate.RateLimitMiddleware` when Redis answered (`internal/rate/middleware.go`, lines 16–65),
`corsMiddleware` and `loggingMiddleware` (lines 147–169). A path with no route gets `404` and a
method its route does not accept gets `405`, both from `mux` itself, before any middleware.

`RateLimitMiddleware` runs `Allow` on the bucket `rate:<userID>`; the buckets of all users are
the state the router keeps from one request to the next. A request is served at one time, in
milliseconds, which the readings of `time.Now()` in `RateLimitMiddleware` share.
`ValidateToken` (HMAC-SHA256 with `JWTSecret`, and the times of `jwt.RegisteredClaims`) is a
parameter: the user of the claims a token carries at a time, if it is valid then. What the
router answers is the response it writes itself, or the route whose handler runs, with the
request and the user in its context; the handlers are modelled in their own modules.

Results:
* `serveHTTP_authenticated`: every route except `/health`, `/auth/signup` and `/auth/login`
  runs its handler only for a header `Authorization: Bearer <token>` whose token is valid, with
  the token's user in the context; those three run with no user. The handler runs only on the
  route the path matches, with the method it was registered with.
* `serveHTTP_never_unauthenticated_rate`: `RateLimitMiddleware`'s `401 User not authenticated`
  is never written: it skips exactly the paths `AuthMiddleware` skips.
* `serveAll_handled_le`: over any stream of requests at non-decreasing times, the handlers run
  for one user within any `[t0, t1]` (in ms) at most `60 + (t1 − t0) / 1000` times, whatever
  the other users send.
* `serveHTTP_preflight`: an `OPTIONS` request to any path except `/ws/quotes` is answered by
  `mux` with `404` or `405`, without the headers `corsMiddleware` sets.
* `serveHTTP_public`: `/health`, `/auth/signup` and `/auth/login` run their handlers from any
  buckets, without a token, and leave the buckets as they were: logins are never limited.
* `serveHTTP_cors`: a response carries `Access-Control-Allow-Origin` only when a handler ran or
  a preflight was answered `200`, and off `/ws/quotes` always then; no `401`, `404`, `405` or
  `429` carries it.
-/

namespace MicroCoin

/-- `http.StatusNotFound`. -/
def statusNotFound : ℕ := 404
/-- `http.StatusMethodNotAllowed`. -/
def statusMethodNotAllowed : ℕ := 405
/-- `http.StatusTooManyRequests`. -/
def statusTooManyRequests : ℕ := 429

/-- `models.ErrorCodeRateLimit` (`internal/models/requests.go`, line 61). -/
def errorCodeRateLimit : String := "RATE_LIMIT"

/-- A request as the router and the middlewares read it: the method, the path (`r.URL.Path`,
    which `mux` has cleaned), and `r.Header.Get("Authorization")`, `""` without the header. -/
structure HttpRequest where
  method : String
  path : String
  authorization : String
  deriving DecidableEq, Repr

/-- The routes of `main`, `/api/orders/{id}` with its `id`. -/
inductive Route
  | health
  | signup
  | login
  | topup
  | quotes
  | createOrder
  | getOrder (id : String)
  | portfolio
  | wsQuotes
  deriving DecidableEq, Repr

/-- The routes `AuthMiddleware` lets through without a token. -/
def Route.isPublic : Route → Bool
  | .health | .signup | .login => true
  | _ => false

/-- `models.ErrorDetail` without its `RequestID`, a fresh `uuid.New()`. -/
structure ErrorDetail where
  code : String
  message : String
  deriving DecidableEq, Repr

/-- What answers a request: `http.Error` with its text, a status with no body of the code's
    own (`mux`'s `405`, `corsMiddleware`'s `200`), a `models.ErrorResponse` in JSON, or the
    route's handler, run on the request with the user its context holds. -/
inductive Outcome
  | error (code : ℕ) (msg : String)
  | status (code : ℕ)
  | errorResponse (code : ℕ) (detail : ErrorDetail)
  | handle (route : Route) (r : HttpRequest) (userId : Option UUID)
  deriving DecidableEq, Repr

/-- A response: the headers the middlewares set, in order, and what answers. -/
structure Response where
  header : List (String × String)
  outcome : Outcome
  deriving DecidableEq, Repr

/-- The headers `hs`, set before the rest of the response is written. -/
def Response.withHeader (hs : List (String × String)) (resp : Response) : Response :=
  { resp with header := hs ++ resp.header }

@[simp] theorem Response.withHeader_outcome (hs : List (String × String)) (resp : Response) :
    (resp.withHeader hs).outcome = resp.outcome := rfl

/-- The buckets `rate:<userID>` of Redis, by user (`userID.String()` is injective). -/
abbrev Buckets := UUID → Option Rate.Bucket

/-- An `http.Handler`, reached with the user the request's context holds, if any. -/
abbrev Handler := HttpRequest → Option UUID → StateM Buckets Response

/-! ## The middlewares -/

/-- The loop of `shouldSkipAuth` and `shouldSkipRateLimit`: is `path` one of `skipPaths`? -/
def skipPath (skipPaths : List String) (path : String) : Bool :=
  skipPaths.any (path == ·)

/-- `shouldSkipAuth` (`internal/auth/middleware.go`, lines 60–76). -/
def shouldSkipAuth : String → Bool :=
  skipPath ["/auth/signup", "/auth/login", "/health", "/metrics"]

/-- `shouldSkipRateLimit` (`internal/rate/middleware.go`, lines 68–83). -/
def shouldSkipRateLimit : String → Bool :=
  skipPath ["/health", "/metrics", "/auth/signup", "/auth/login"]

theorem skipPath_perm {l₁ l₂ : List String} (h : l₁.Perm l₂) : skipPath l₁ = skipPath l₂ :=
  funext fun path => Bool.eq_iff_iff.2 (by simp [skipPath, h.mem_iff])

/-- The two lists hold the same paths in another order. -/
theorem shouldSkipRateLimit_eq : shouldSkipRateLimit = shouldSkipAuth :=
  skipPath_perm (by decide)

/-- `strings.SplitN(s, " ", 2)` on the characters of `s`: the text before the first space
    and, if there is a space, the text after it. -/
def splitAtSpace : List Char → List Char × Option (List Char)
  | [] => ([], none)
  | c :: cs => if c = ' ' then ([], some cs) else (c :: (splitAtSpace cs).1, (splitAtSpace cs).2)

/-- `strings.SplitN(s, " ", 2)`. -/
def splitN (s : String) : List String :=
  match splitAtSpace s.toList with
  | (a, none) => [String.mk a]
  | (a, some b) => [String.mk a, String.mk b]

theorem splitAtSpace_some : ∀ {cs a b : List Char}, splitAtSpace cs = (a, some b) →
    cs = a ++ ' ' :: b
  | [], _, _, h => by simp [splitAtSpace] at h
  | c :: cs, a, b, h => by
    by_cases hc : c = ' '
    · simp only [splitAtSpace, if_pos hc, Prod.mk.injEq, Option.some.injEq] at h
      obtain ⟨rfl, rfl⟩ := h
      simp [hc]
    · simp only [splitAtSpace, if_neg hc, Prod.mk.injEq] at h
      obtain ⟨rfl, h2⟩ := h
      exact congrArg (c :: ·) (splitAtSpace_some (Prod.ext rfl h2))

/-- Two parts come from a space: the header is the first part, a space and the second. -/
theorem splitN_eq_pair {s a b : String} (h : splitN s = [a, b]) : s = a ++ " " ++ b := by
  unfold splitN at h
  split at h
  · simp at h
  · next a' b' hs =>
    simp only [List.cons.injEq, and_true] at h
    obtain ⟨rfl, rfl⟩ := h
    exact String.ext (by simpa using splitAtSpace_some hs)

/-- `auth.AuthMiddleware(next)`, with `validateToken` the claims' user of `ValidateToken` at the
    request's time. -/
def authMiddleware (validateToken : String → Option UUID) (next : Handler) : Handler :=
  fun r ctx =>
    if shouldSkipAuth r.path then next r ctx
    else if r.authorization = "" then
      pure ⟨[], .error statusUnauthorized "Authorization header required"⟩
    else match splitN r.authorization with
      | [scheme, token] =>
        if scheme ≠ "Bearer" then
          pure ⟨[], .error statusUnauthorized "Invalid authorization header format"⟩
        else match validateToken token with
          | none => pure ⟨[], .error statusUnauthorized "Invalid token"⟩
          | some userId => next r (some userId)
      | _ => pure ⟨[], .error statusUnauthorized "Invalid authorization header format"⟩

/-- `rate.RateLimitMiddleware(limiter)(next)` at `now`. A failed `Eval` is not modelled, so
    `GetRemainingTokens` always gives the headers. -/
def rateLimitMiddleware (limiter : Rate.Limiter) (now : ℤ) (next : Handler) : Handler :=
  fun r ctx => do
    if shouldSkipRateLimit r.path then return ← next r ctx
    let some userId := ctx
      | return ⟨[], .error statusUnauthorized "User not authenticated"⟩
    let (allowed, key) := limiter.allow now ((← get) userId)
    modify (Function.update · userId key)
    if !allowed then
      return ⟨[("Content-Type", "application/json")],
        .errorResponse statusTooManyRequests ⟨errorCodeRateLimit, "Rate limit exceeded"⟩⟩
    let remaining := limiter.getRemainingTokens now ((← get) userId)
    let resp ← next r ctx
    return resp.withHeader [("X-RateLimit-Remaining", toString remaining),
      ("X-RateLimit-Reset", toString ((now + 60 * 1000) / 1000))]

/-- The headers `corsMiddleware` sets. -/
def corsHeaders : List (String × String) :=
  [("Access-Control-Allow-Origin", "*"),
    ("Access-Control-Allow-Methods", "GET, POST, PUT, DELETE, OPTIONS"),
    ("Access-Control-Allow-Headers", "Content-Type, Authorization, Idempotency-Key")]

/-- `corsMiddleware(next)`: `200` to an `OPTIONS` request, which `next` never sees. -/
def corsMiddleware (next : Handler) : Handler := fun r ctx => do
  if r.method = "OPTIONS" then return ⟨corsHeaders, .status statusOK⟩
  return (← next r ctx).withHeader corsHeaders

/-- `loggingMiddleware(next)`: `next`, and a log line, which is not modelled. -/
def loggingMiddleware (next : Handler) : Handler := next

/-! ## Routing -/

/-- The `{id}` of `/api/orders/{id}`: the rest of the path after `/api/orders/`, when it is
    not empty and holds no `/` (`mux`'s default pattern `[^/]+`). -/
def orderIdOf (path : String) : Option String :=
  let pre := "/api/orders/".toList
  if pre.isPrefixOf path.toList then
    let id := path.toList.drop pre.length
    if id ≠ [] ∧ '/' ∉ id then some (String.mk id) else none
  else none

/-- `mux.Router.Match` on the routes of `main` (lines 88–109), in the order they are
    registered: the route the path matches and the method it was registered with, `none` for
    `/ws/quotes`, registered without `Methods`. -/
def routeOf (path : String) : Option (Route × Option String) :=
  if path = "/health" then some (.health, some "GET")
  else if path = "/auth/signup" then some (.signup, some "POST")
  else if path = "/auth/login" then some (.login, some "POST")
  else if path = "/api/fund/topup" then some (.topup, some "POST")
  else if path = "/api/quotes" then some (.quotes, some "GET")
  else if path = "/api/orders" then some (.createOrder, some "POST")
  else match orderIdOf path with
    | some id => some (.getOrder id, some "GET")
    | none =>
      if path = "/api/portfolio" then some (.portfolio, some "GET")
      else if path = "/ws/quotes" then some (.wsQuotes, none)
      else none

/-- The handler of a route, which the router reaches but does not run here. -/
def routeHandler (route : Route) : Handler := fun r ctx => pure ⟨[], .handle route r ctx⟩

/-- The middlewares of `router.Use` in `main` (lines 81–86), the first registered outermost;
    `rateLimiter` is `nil` when Redis did not answer `Ping`. The pass-through middleware of the
    `/auth` subrouter (lines 93–98) is `next` itself and is left out. -/
def middlewares (validateToken : String → Option UUID) (rateLimiter : Option Rate.Limiter)
    (now : ℤ) : List (Handler → Handler) :=
  [authMiddleware validateToken] ++ (rateLimiter.map (rateLimitMiddleware · now)).toList ++
    [corsMiddleware, loggingMiddleware]

/-- `mux.Router.ServeHTTP` on `main`'s router at `now`. -/
def serveHTTP (validateToken : ℤ → String → Option UUID) (rateLimiter : Option Rate.Limiter)
    (now : ℤ) (r : HttpRequest) : StateM Buckets Response :=
  match routeOf r.path with
  | none => pure ⟨[], .error statusNotFound "404 page not found"⟩
  | some (route, method) =>
    if method.all (· == r.method) then
      (middlewares (validateToken now) rateLimiter now).foldr (· ·) (routeHandler route) r none
    else pure ⟨[], .status statusMethodNotAllowed⟩

/-- `rate.NewLimiter(redisClient, 60, time.Minute)` of `main`. -/
def mainRateLimiter : Rate.Limiter := ⟨60, 60 * 10 ^ 9⟩

/-- Requests served one after another, each at its time, from the buckets `b`: each
    request's time and response. -/
def serveAll (validateToken : ℤ → String → Option UUID) (rateLimiter : Option Rate.Limiter) :
    Buckets → List (ℤ × HttpRequest) → List (ℤ × Response)
  | _, [] => []
  | b, (now, r) :: rs =>
    let (resp, b') := (serveHTTP validateToken rateLimiter now r).run b
    (now, resp) :: serveAll validateToken rateLimiter b' rs

/-- Did a handler run for `userId`? -/
def Response.handles (userId : UUID) (resp : Response) : Bool :=
  match resp.outcome with
  | .handle _ _ (some u) => u == userId
  | _ => false

/-- The number of requests within `[t0, t1]` whose handler ran for `userId`. -/
def handledIn (userId : UUID) (t0 t1 : ℤ) (resps : List (ℤ × Response)) : ℕ :=
  resps.countP fun p => p.2.handles userId && decide (t0 ≤ p.1) && decide (p.1 ≤ t1)

/-! ## One request -/

section Serve

variable (validateToken : String → Option UUID)

theorem middlewares_foldr (rateLimiter : Option Rate.Limiter) (now : ℤ) (h : Handler) :
    (middlewares validateToken rateLimiter now).foldr (· ·) h =
      authMiddleware validateToken
        ((rateLimiter.map (rateLimitMiddleware · now)).toList.foldr (· ·) (corsMiddleware h)) := by
  cases rateLimiter <;> rfl

/-- `AuthMiddleware` skips the path, answers `401`, or hands the request on with the user of a
    valid bearer token. -/
theorem authMiddleware_cases (next : Handler) (r : HttpRequest) (ctx : Option UUID) :
    (shouldSkipAuth r.path = true ∧ authMiddleware validateToken next r ctx = next r ctx) ∨
    (shouldSkipAuth r.path = false ∧ ∃ msg ∈ ["Authorization header required",
        "Invalid authorization header format", "Invalid token"],
      authMiddleware validateToken next r ctx = pure ⟨[], .error statusUnauthorized msg⟩) ∨
    (shouldSkipAuth r.path = false ∧ ∃ token u, r.authorization = "Bearer " ++ token ∧
      validateToken token = some u ∧ authMiddleware validateToken next r ctx = next r (some u)) := by
  unfold authMiddleware
  by_cases hs : shouldSkipAuth r.path
  · exact .inl ⟨hs, by simp [hs]⟩
  simp only [hs, Bool.false_eq_true, if_false, false_and, false_or, true_and]
  split_ifs
  · exact .inl ⟨_, by simp, rfl⟩
  split
  · next scheme token hsplit =>
    split_ifs with hb
    · exact .inl ⟨_, by simp, rfl⟩
    · have hb : scheme = "Bearer" := not_not.1 hb
      subst hb
      split
      · exact .inl ⟨_, by simp, rfl⟩
      · next u hu => exact .inr ⟨token, u, splitN_eq_pair hsplit, hu, rfl⟩
  · exact .inl ⟨_, by simp, rfl⟩

theorem authMiddleware_skip (next : Handler) {r : HttpRequest} (hs : shouldSkipAuth r.path = true)
    (ctx : Option UUID) : authMiddleware validateToken next r ctx = next r ctx := by
  simp [authMiddleware, hs]

/-- `RateLimitMiddleware` on a path it does not skip, for a user: the user's bucket after
    `Allow`, and `429` or `next` with the rate headers. -/
theorem rateLimitMiddleware_run (l : Rate.Limiter) (now : ℤ) (next : Handler) (r : HttpRequest)
    (u : UUID) (b : Buckets) (hs : shouldSkipRateLimit r.path = false) :
    (rateLimitMiddleware l now next r (some u)).run b =
      if (l.allow now (b u)).1 then
        let res := (next r (some u)).run (Function.update b u (l.allow now (b u)).2)
        (res.1.withHeader [("X-RateLimit-Remaining",
            toString (l.getRemainingTokens now (l.allow now (b u)).2)),
          ("X-RateLimit-Reset", toString ((now + 60 * 1000) / 1000))], res.2)
      else (⟨[("Content-Type", "application/json")],
          .errorResponse statusTooManyRequests ⟨errorCodeRateLimit, "Rate limit exceeded"⟩⟩,
        Function.update b u (l.allow now (b u)).2) := by
  rcases ha : l.allow now (b u) with ⟨_ | _, key⟩ <;>
    simp [-Rate.Limiter.allow_fst, -Rate.Limiter.allow_snd, rateLimitMiddleware, hs, ha,
      StateT.run, bind, StateT.bind, get, getThe, MonadStateOf.get, StateT.get, modify, modifyGet,
      MonadStateOf.modifyGet, StateT.modifyGet, pure, StateT.pure]
  rfl

theorem rateLimitMiddleware_skip (l : Rate.Limiter) (now : ℤ) (next : Handler) {r : HttpRequest}
    (hs : shouldSkipRateLimit r.path = true) (ctx : Option UUID) :
    rateLimitMiddleware l now next r ctx = next r ctx := by
  simp [rateLimitMiddleware, hs]

/-- `corsMiddleware` in front of a route's handler: `200` to `OPTIONS`, the handler otherwise,
    with the CORS headers either way. -/
theorem corsMiddleware_routeHandler (route : Route) (r : HttpRequest) (ctx : Option UUID) :
    corsMiddleware (routeHandler route) r ctx =
      pure ⟨corsHeaders, if r.method = "OPTIONS" then .status statusOK else .handle route r ctx⟩ := by
  by_cases hm : r.method = "OPTIONS" <;>
    simp [corsMiddleware, routeHandler, hm, Response.withHeader]

end Serve

theorem shouldSkipAuth_eq_true {path : String} : shouldSkipAuth path = true ↔
    path = "/auth/signup" ∨ path = "/auth/login" ∨ path = "/health" ∨ path = "/metrics" := by
  simp [shouldSkipAuth, skipPath]

theorem shouldSkipAuth_of_orderIdOf {path id : String} (h : orderIdOf path = some id) :
    shouldSkipAuth path = false := by
  by_contra hs
  rcases shouldSkipAuth_eq_true.1 (Bool.not_eq_false _ ▸ hs) with rfl | rfl | rfl | rfl <;> cases h

/-- The routes of `main` and the paths that reach them, said once. -/
theorem routeOf_some {path : String} {route : Route} {m : Option String}
    (h : routeOf path = some (route, m)) :
    (path, route, m) ∈ [("/health", .health, some "GET"), ("/auth/signup", .signup, some "POST"),
      ("/auth/login", .login, some "POST"), ("/api/fund/topup", .topup, some "POST"),
      ("/api/quotes", .quotes, some "GET"), ("/api/orders", .createOrder, some "POST"),
      ("/api/portfolio", .portfolio, some "GET"), ("/ws/quotes", .wsQuotes, none)] ∨
    ∃ id, orderIdOf path = some id ∧ route = .getOrder id ∧ m = some "GET" := by
  unfold routeOf at h
  by_cases h1 : path = "/health"
  · simp_all
  rw [if_neg h1] at h
  by_cases h2 : path = "/auth/signup"
  · simp_all
  rw [if_neg h2] at h
  by_cases h3 : path = "/auth/login"
  · simp_all
  rw [if_neg h3] at h
  by_cases h4 : path = "/api/fund/topup"
  · simp_all
  rw [if_neg h4] at h
  by_cases h5 : path = "/api/quotes"
  · simp_all
  rw [if_neg h5] at h
  by_cases h6 : path = "/api/orders"
  · simp_all
  rw [if_neg h6] at h
  rcases ho : orderIdOf path with _ | id <;> simp only [ho] at h
  · by_cases h7 : path = "/api/portfolio"
    · simp_all
    rw [if_neg h7] at h
    by_cases h8 : path = "/ws/quotes"
    · simp_all
    rw [if_neg h8] at h
    cases h
  · simp_all

/-- A route is public exactly when `AuthMiddleware` skips its path. -/
theorem routeOf_isPublic {path : String} {route : Route} {m : Option String}
    (h : routeOf path = some (route, m)) : shouldSkipAuth path = route.isPublic := by
  rcases routeOf_some h with hmem | ⟨id, ho, rfl, -⟩
  · simp only [List.mem_cons, Prod.mk.injEq, List.mem_singleton, List.not_mem_nil,
      or_false] at hmem
    rcases hmem with ⟨rfl, rfl, -⟩ | ⟨rfl, rfl, -⟩ | ⟨rfl, rfl, -⟩ | ⟨rfl, rfl, -⟩ |
      ⟨rfl, rfl, -⟩ | ⟨rfl, rfl, -⟩ | ⟨rfl, rfl, -⟩ | ⟨rfl, rfl, -⟩ <;> rfl
  · exact shouldSkipAuth_of_orderIdOf ho

/-- Every route but `/ws/quotes` was registered with a method other than `OPTIONS`. -/
theorem routeOf_method_options {path : String} {route : Route} {m : Option String}
    (h : routeOf path = some (route, m)) (hp : path ≠ "/ws/quotes") :
    m.all (· == "OPTIONS") = false := by
  rcases routeOf_some h with hmem | ⟨-, -, -, rfl⟩
  · simp only [List.mem_cons, Prod.mk.injEq, List.mem_singleton, List.not_mem_nil,
      or_false] at hmem
    rcases hmem with ⟨-, -, rfl⟩ | ⟨-, -, rfl⟩ | ⟨-, -, rfl⟩ | ⟨-, -, rfl⟩ |
      ⟨-, -, rfl⟩ | ⟨-, -, rfl⟩ | ⟨-, -, rfl⟩ | ⟨rfl, -, -⟩
    all_goals first | rfl | exact absurd rfl hp
  · rfl

/-! ## The router -/

section Router

variable (validateToken : ℤ → String → Option UUID) (rateLimiter : Option Rate.Limiter) (now : ℤ)

/-- What the router does with a request, up to `AuthMiddleware`, said once: it answers by
    itself with no header and leaves the buckets (no route, a method the route does not
    accept, or a `401` of `AuthMiddleware`); it answers `OPTIONS` or runs a public route's
    handler with no user; or it hands a request with a valid bearer token, with the token's
    user, to the rest of the chain. -/
theorem serveHTTP_cases (r : HttpRequest) (b : Buckets) :
    (∃ o, (serveHTTP validateToken rateLimiter now r).run b = (⟨[], o⟩, b) ∧
      (o = .error statusNotFound "404 page not found" ∨ o = .status statusMethodNotAllowed ∨
        ∃ msg ∈ ["Authorization header required", "Invalid authorization header format",
          "Invalid token"], o = .error statusUnauthorized msg)) ∨
    (∃ route m, routeOf r.path = some (route, m) ∧ m.all (· == r.method) = true ∧
      route.isPublic = true ∧
      (serveHTTP validateToken rateLimiter now r).run b = (⟨corsHeaders,
        if r.method = "OPTIONS" then .status statusOK else .handle route r none⟩, b)) ∨
    (∃ route m token u, routeOf r.path = some (route, m) ∧ m.all (· == r.method) = true ∧
      route.isPublic = false ∧
      r.authorization = "Bearer " ++ token ∧ validateToken now token = some u ∧
      (serveHTTP validateToken rateLimiter now r).run b =
        ((rateLimiter.map (rateLimitMiddleware · now)).toList.foldr (· ·)
          (corsMiddleware (routeHandler route)) r (some u)).run b) := by
  unfold serveHTTP
  split
  · exact .inl ⟨_, rfl, .inl rfl⟩
  · next route m hr =>
    by_cases hm : m.all (· == r.method) = true
    · rw [if_pos hm, middlewares_foldr]
      have hpub := routeOf_isPublic hr
      rcases authMiddleware_cases (validateToken now) ((rateLimiter.map (rateLimitMiddleware · now)).toList.foldr (· ·)
          (corsMiddleware (routeHandler route))) r none with
        ⟨hs, he⟩ | ⟨hs, msg, hmsg, he⟩ | ⟨hs, token, u, ha, hv, he⟩
      · refine .inr (.inl ⟨route, m, hr, hm, hpub ▸ hs, ?_⟩)
        rw [he]
        cases rateLimiter
        · simp [corsMiddleware_routeHandler]
        · have hs' : shouldSkipRateLimit r.path = true := shouldSkipRateLimit_eq ▸ hs
          simp [rateLimitMiddleware_skip _ _ _ hs', corsMiddleware_routeHandler]
      · exact .inl ⟨_, by rw [he]; rfl, .inr (.inr ⟨msg, hmsg, rfl⟩)⟩
      · exact .inr (.inr ⟨route, m, token, u, hr, hm, hpub ▸ hs, ha, hv, by rw [he]⟩)
    · exact .inl ⟨_, by rw [if_neg hm]; rfl, .inr (.inl rfl)⟩

/-- The public routes are neither authenticated nor rate limited: from any buckets, a request to
    `/health`, `/auth/signup` or `/auth/login` with its route's method runs the route's handler
    with no user and the CORS headers, and touches no bucket. So nothing bounds how often
    `loginHandler` runs, for one account or for many. -/
theorem serveHTTP_public {r : HttpRequest} {route : Route} {m : String}
    (hr : routeOf r.path = some (route, some m)) (hp : route.isPublic = true) (hm : r.method = m)
    (b : Buckets) :
    (serveHTTP validateToken rateLimiter now r).run b = (⟨corsHeaders, .handle route r none⟩, b) := by
  have hs : shouldSkipAuth r.path = true := (routeOf_isPublic hr).trans hp
  have ho : r.method ≠ "OPTIONS" := by
    have := routeOf_method_options hr fun he => by rw [he] at hr; cases hr
    simpa [hm] using this
  unfold serveHTTP
  simp only [hr, hm, Option.all_some, beq_self_eq_true, if_true, middlewares_foldr,
    authMiddleware_skip _ _ hs]
  cases rateLimiter
  · simp [corsMiddleware_routeHandler, ho]
  · simp [rateLimitMiddleware_skip _ _ _ (shouldSkipRateLimit_eq ▸ hs), corsMiddleware_routeHandler,
      ho]

/-- A `POST /auth/login` with no `Authorization` header, behind `main`'s limiter. -/
theorem serveHTTP_public_login :
    routeOf "/auth/login" = some (.login, some "POST") ∧ Route.login.isPublic = true ∧
    (serveHTTP (fun _ _ => none) (some mainRateLimiter) 0 ⟨"POST", "/auth/login", ""⟩).run
        (fun _ => none) =
      (⟨corsHeaders, .handle .login ⟨"POST", "/auth/login", ""⟩ none⟩, fun _ => none) :=
  ⟨by decide, rfl, serveHTTP_public _ _ _ (by decide) (by rfl) rfl _⟩

/-- What the rest of the chain after `AuthMiddleware` answers a user, said once: the `429` of
    `RateLimitMiddleware` with its one header, or `corsMiddleware`'s answer, its CORS headers
    behind the rate headers. -/
theorem rest_cors {route : Route} {r : HttpRequest} {u : UUID} (b : Buckets)
    (hs : shouldSkipAuth r.path = false) :
    ∃ resp b', ((rateLimiter.map (rateLimitMiddleware · now)).toList.foldr (· ·)
      (corsMiddleware (routeHandler route)) r (some u)).run b = (resp, b') ∧
    ((resp.header = [("Content-Type", "application/json")] ∧
        resp.outcome = .errorResponse statusTooManyRequests ⟨errorCodeRateLimit, "Rate limit exceeded"⟩) ∨
      ∃ hs, resp.header = hs ++ corsHeaders ∧
        resp.outcome = if r.method = "OPTIONS" then .status statusOK else .handle route r (some u)) := by
  cases rateLimiter with
  | none =>
    simp only [Option.map_none', Option.toList_none, List.foldr_nil, corsMiddleware_routeHandler]
    exact ⟨_, _, rfl, .inr ⟨[], rfl, rfl⟩⟩
  | some l =>
    simp only [Option.map_some', Option.toList_some, List.foldr_cons, List.foldr_nil,
      rateLimitMiddleware_run l now _ r u b (shouldSkipRateLimit_eq ▸ hs), corsMiddleware_routeHandler]
    by_cases ha : (l.allow now (b u)).1
    · rw [if_pos ha]
      exact ⟨_, _, rfl, .inr ⟨_, rfl, rfl⟩⟩
    · rw [if_neg ha]
      exact ⟨_, _, rfl, .inl ⟨rfl, rfl⟩⟩

/-- After `AuthMiddleware`, the rest of the chain runs the route's handler only on the same
    request and with the same user. -/
theorem rest_handle {route route' : Route} {r r' : HttpRequest} {u : UUID} {ctx : Option UUID}
    {b : Buckets} (hs : shouldSkipAuth r.path = false)
    (h : (((rateLimiter.map (rateLimitMiddleware · now)).toList.foldr (· ·)
      (corsMiddleware (routeHandler route)) r (some u)).run b).1.outcome =
        .handle route' r' ctx) :
    route' = route ∧ r' = r ∧ ctx = some u := by
  obtain ⟨resp, b', hrun, ⟨-, ho⟩ | ⟨-, -, ho⟩⟩ := rest_cors rateLimiter now b hs <;>
    rw [hrun] at h <;> dsimp only at h <;> rw [ho] at h
  · cases h
  · split_ifs at h
    cases h
    exact ⟨rfl, rfl, rfl⟩

/-- Every route except `/health`, `/auth/signup` and `/auth/login` runs its handler only for a
    header `Authorization: Bearer <token>` with a token valid at the request's time, and with
    the token's user in the context; those three run theirs with no user. Either way the
    handler gets the request as it came, on the route its path and method match. -/
theorem serveHTTP_authenticated (r : HttpRequest) (b : Buckets) {route : Route}
    {r' : HttpRequest} {ctx : Option UUID}
    (h : ((serveHTTP validateToken rateLimiter now r).run b).1.outcome = .handle route r' ctx) :
    r' = r ∧ (∃ m, routeOf r.path = some (route, m) ∧ m.all (· == r.method) = true) ∧
      if route.isPublic then ctx = none
      else ∃ token u, ctx = some u ∧ r.authorization = "Bearer " ++ token ∧
        validateToken now token = some u := by
  rcases serveHTTP_cases validateToken rateLimiter now r b with
    ⟨o, he, ho⟩ | ⟨route₀, m, hr, hm, hp, he⟩ | ⟨route₀, m, token, u, hr, hm, hp, ha, hv, he⟩
  · rw [he] at h
    rcases ho with rfl | rfl | ⟨msg, -, rfl⟩ <;> cases h
  · rw [he] at h
    split_ifs at h
    cases h
    exact ⟨rfl, ⟨m, hr, hm⟩, by simp [hp]⟩
  · rw [he] at h
    obtain ⟨rfl, rfl, rfl⟩ := rest_handle rateLimiter now (routeOf_isPublic hr ▸ hp) h
    exact ⟨rfl, ⟨m, hr, hm⟩, by simpa [hp] using ⟨token, ha, hv⟩⟩

/-- A `GET /api/portfolio` with a valid token, when Redis did not answer. -/
theorem serveHTTP_authenticated_portfolio :
    ((serveHTTP (fun _ t => if t = "tok" then some 7 else none) none 0
        ⟨"GET", "/api/portfolio", "Bearer tok"⟩).run (fun _ => none)).1.outcome =
      .handle .portfolio ⟨"GET", "/api/portfolio", "Bearer tok"⟩ (some 7) ∧
    ((⟨"GET", "/api/portfolio", "Bearer tok"⟩ : HttpRequest) =
        ⟨"GET", "/api/portfolio", "Bearer tok"⟩ ∧
      (∃ m, routeOf "/api/portfolio" = some (.portfolio, m) ∧ m.all (· == "GET") = true) ∧
      if Route.portfolio.isPublic then (some 7 : Option UUID) = none
      else ∃ token u, (some 7 : Option UUID) = some u ∧ "Bearer tok" = "Bearer " ++ token ∧
        (if token = "tok" then some 7 else none) = some u) :=
  have h : ((serveHTTP (fun _ t => if t = "tok" then some 7 else none) none 0
      ⟨"GET", "/api/portfolio", "Bearer tok"⟩).run (fun _ => none)).1.outcome =
        .handle .portfolio ⟨"GET", "/api/portfolio", "Bearer tok"⟩ (some 7) := by decide
  ⟨h, serveHTTP_authenticated _ none 0 _ _ h⟩

/-- `RateLimitMiddleware` never answers `401 User not authenticated`: it skips exactly the
    paths `AuthMiddleware` skips, and on the others `AuthMiddleware` has put a user in the
    context or answered by itself. -/
theorem serveHTTP_never_unauthenticated_rate (r : HttpRequest) (b : Buckets) :
    ((serveHTTP validateToken rateLimiter now r).run b).1.outcome ≠
      .error statusUnauthorized "User not authenticated" := by
  rcases serveHTTP_cases validateToken rateLimiter now r b with
    ⟨o, he, ho⟩ | ⟨route, m, hr, -, hp, he⟩ | ⟨route, m, token, u, hr, -, hp, ha, hv, he⟩
  · rw [he]
    dsimp only
    rcases ho with rfl | rfl | ⟨msg, hmsg, rfl⟩
    · decide
    · decide
    · rintro ⟨⟩
      simp at hmsg
  · rw [he]
    split_ifs <;> nofun
  · obtain ⟨resp, b', hrun, ⟨-, ho⟩ | ⟨-, -, ho⟩⟩ :=
      rest_cors rateLimiter now b (routeOf_isPublic hr ▸ hp) <;>
      rw [he, hrun] <;> dsimp only <;> rw [ho]
    · nofun
    · split_ifs <;> nofun

/-- Serving a request changes at most one user's bucket, by that user's `Allow`, and runs a
    handler for a user only when that `Allow` allowed the call. -/
theorem serveHTTP_buckets (l : Rate.Limiter) {r : HttpRequest} {b b' : Buckets} {resp : Response}
    (h : (serveHTTP validateToken (some l) now r).run b = (resp, b')) :
    (b' = b ∧ ∀ u, resp.handles u = false) ∨
      ∃ u, b' = Function.update b u (l.allow now (b u)).2 ∧
        ∀ v, resp.handles v = true → v = u ∧ (l.allow now (b u)).1 = true := by
  rcases serveHTTP_cases validateToken (some l) now r b with
    ⟨o, he, ho⟩ | ⟨route, m, hr, -, hp, he⟩ | ⟨route, m, token, u, hr, -, hp, ha, hv, he⟩
  · rw [he] at h
    cases h
    refine .inl ⟨rfl, fun u => ?_⟩
    rcases ho with rfl | rfl | ⟨msg, -, rfl⟩ <;> rfl
  · rw [he] at h
    cases h
    refine .inl ⟨rfl, fun u => ?_⟩
    simp only [Response.handles]
    split_ifs <;> rfl
  · have hs : shouldSkipRateLimit r.path = false := by rw [shouldSkipRateLimit_eq, routeOf_isPublic hr, hp]
    simp only [he, Option.map_some', Option.toList_some, List.foldr_cons, List.foldr_nil,
      rateLimitMiddleware_run l now _ r u b hs] at h
    refine .inr ⟨u, ?_⟩
    split_ifs at h with hal
    · simp only [corsMiddleware_routeHandler] at h
      cases h
      refine ⟨rfl, fun v hv => ⟨?_, hal⟩⟩
      simp only [Response.handles, corsMiddleware_routeHandler, Response.withHeader_outcome] at hv
      split_ifs at hv
      · exact absurd hv Bool.false_ne_true
      · exact (beq_iff_eq.1 hv).symm
    · cases h
      exact ⟨rfl, fun v hv => by simp [Response.handles] at hv⟩

/-- `OPTIONS` requests, the preflights of CORS, never reach `corsMiddleware` except on
    `/ws/quotes`: every other route was registered with `Methods("GET")` or `Methods("POST")`,
    so `mux` answers `405`, or `404` without a route, with none of the CORS headers. -/
theorem serveHTTP_preflight (r : HttpRequest) (b : Buckets) (hm : r.method = "OPTIONS")
    (hp : r.path ≠ "/ws/quotes") :
    (serveHTTP validateToken rateLimiter now r).run b =
        (⟨[], .error statusNotFound "404 page not found"⟩, b) ∨
      (serveHTTP validateToken rateLimiter now r).run b = (⟨[], .status statusMethodNotAllowed⟩, b) := by
  unfold serveHTTP
  split
  · exact .inl rfl
  · next route m hr =>
    rw [if_neg (by rw [hm]; simp [routeOf_method_options hr hp])]
    exact .inr rfl

/-- The preflight of `POST /api/orders`. -/
theorem serveHTTP_preflight_orders :
    (⟨"OPTIONS", "/api/orders", ""⟩ : HttpRequest).method = "OPTIONS" ∧
    (⟨"OPTIONS", "/api/orders", ""⟩ : HttpRequest).path ≠ "/ws/quotes" ∧
    ((serveHTTP (fun _ _ => none) (some mainRateLimiter) 0 ⟨"OPTIONS", "/api/orders", ""⟩).run
        (fun _ => none) = (⟨[], .error statusNotFound "404 page not found"⟩, fun _ => none) ∨
      (serveHTTP (fun _ _ => none) (some mainRateLimiter) 0 ⟨"OPTIONS", "/api/orders", ""⟩).run
        (fun _ => none) = (⟨[], .status statusMethodNotAllowed⟩, fun _ => none)) :=
  ⟨rfl, by decide, serveHTTP_preflight _ _ _ _ _ rfl (by decide)⟩

end Router

theorem handledIn_cons (userId : UUID) (t0 t1 t : ℤ) (resp : Response) (rest : List (ℤ × Response)) :
    handledIn userId t0 t1 ((t, resp) :: rest) =
      handledIn userId t0 t1 rest + if resp.handles userId && decide (t0 ≤ t) && decide (t ≤ t1) then 1 else 0 :=
  List.countP_cons _ _ _

/-- Over a stream of requests, the handlers run for a user no more often within a window than
    `Allow` allows the calls of that user alone, at some of the stream's times: the buckets of
    other users are other keys. -/
theorem serveAll_handledIn_le (validateToken : ℤ → String → Option UUID) (l : Rate.Limiter)
    (userId : UUID) (t0 t1 : ℤ) :
    ∀ (b : Buckets) (rs : List (ℤ × HttpRequest)), ∃ ts : List ℤ, ts.Sublist (rs.map Prod.fst) ∧
      handledIn userId t0 t1 (serveAll validateToken (some l) b rs) ≤
        Rate.allowedIn t0 t1 (l.run (b userId) ts)
  | _, [] => ⟨[], List.Sublist.slnil, by simp [serveAll, handledIn]⟩
  | b, (now, r) :: rs => by
    rcases hres : (serveHTTP validateToken (some l) now r).run b with ⟨resp, b'⟩
    have hcons : serveAll validateToken (some l) b ((now, r) :: rs) =
        (now, resp) :: serveAll validateToken (some l) b' rs := by
      simp only [serveAll, hres]
    rw [hcons, handledIn_cons]
    rcases serveHTTP_buckets validateToken now l hres with ⟨rfl, hno⟩ | ⟨u, rfl, hyes⟩
    · obtain ⟨ts, hsub, hle⟩ := serveAll_handledIn_le validateToken l userId t0 t1 _ rs
      exact ⟨ts, hsub.cons _, by simpa [hno userId] using hle⟩
    by_cases hu : u = userId
    · subst hu
      obtain ⟨ts, hsub, hle⟩ := serveAll_handledIn_le validateToken l u t0 t1
        (Function.update b u (l.allow now (b u)).2) rs
      rw [Function.update_same] at hle
      refine ⟨now :: ts, hsub.cons₂ _, ?_⟩
      rw [Rate.Limiter.run, Rate.allowedIn_cons]
      have hhead : (if resp.handles u && decide (t0 ≤ now) && decide (now ≤ t1) then 1 else 0) ≤
          if (l.allow now (b u)).1 && decide (t0 ≤ now) && decide (now ≤ t1) then 1 else 0 := by
        cases hh : resp.handles u
        · simp
        · rw [(hyes u hh).2]
      omega
    · obtain ⟨ts, hsub, hle⟩ := serveAll_handledIn_le validateToken l userId t0 t1
        (Function.update b u (l.allow now (b u)).2) rs
      rw [Function.update_noteq (Ne.symm hu)] at hle
      have hno : resp.handles userId = false := by
        by_contra hh
        exact hu (hyes userId (by simpa using hh)).1.symm
      exact ⟨ts, hsub.cons _, by simpa [hno] using hle⟩

theorem mainRateLimiter_refillPerSec : mainRateLimiter.refillPerSec = 1 := by
  norm_num [Rate.Limiter.refillPerSec, mainRateLimiter]

/-- With `main`'s limiter, over any stream of requests at non-decreasing times and whatever the
    other users send, the handlers run for one user within any `[t0, t1]` (in ms) at most
    `60 + (t1 − t0) / 1000` times: a full bucket and one token a second. -/
theorem serveAll_handled_le (validateToken : ℤ → String → Option UUID)
    (rs : List (ℤ × HttpRequest)) (hrs : (rs.map Prod.fst).Pairwise (· ≤ ·)) (userId : UUID)
    {t0 t1 : ℤ} (h01 : t0 ≤ t1) :
    (handledIn userId t0 t1 (serveAll validateToken (some mainRateLimiter) (fun _ => none) rs) : ℚ) ≤
      60 + ((t1 - t0 : ℤ) : ℚ) / 1000 := by
  obtain ⟨ts, hsub, hle⟩ :=
    serveAll_handledIn_le validateToken mainRateLimiter userId t0 t1 (fun _ => none) rs
  have hbound := Rate.allowedIn_run_le_capacity (l := mainRateLimiter) (by norm_num [mainRateLimiter])
    (by rw [mainRateLimiter_refillPerSec]; norm_num)
    (by rw [mainRateLimiter_refillPerSec]; norm_num [mainRateLimiter]) h01 ts none (by simp)
    (hrs.sublist hsub)
  calc (handledIn userId t0 t1 (serveAll validateToken (some mainRateLimiter) (fun _ => none) rs) : ℚ)
      ≤ Rate.allowedIn t0 t1 (mainRateLimiter.run none ts) := by exact_mod_cast hle
    _ ≤ _ := hbound
    _ = 60 + ((t1 - t0 : ℤ) : ℚ) / 1000 := by
      rw [mainRateLimiter_refillPerSec, mul_one]; norm_num [mainRateLimiter]

/-- Two users' requests interleaved at 0, 10 and 20 ms. -/
theorem serveAll_handled_le_twoUsers :
    (([(0, ⟨"GET", "/api/portfolio", "Bearer a"⟩), (10, ⟨"GET", "/api/portfolio", "Bearer b"⟩),
        (20, ⟨"GET", "/api/quotes", "Bearer a"⟩)] : List (ℤ × HttpRequest)).map Prod.fst).Pairwise
        (· ≤ ·) ∧ (0 : ℤ) ≤ 1000 ∧
    (handledIn 1 0 1000 (serveAll (fun _ t => if t = "a" then some 1 else if t = "b" then some 2 else none)
      (some mainRateLimiter) (fun _ => none)
      [(0, ⟨"GET", "/api/portfolio", "Bearer a"⟩), (10, ⟨"GET", "/api/portfolio", "Bearer b"⟩),
        (20, ⟨"GET", "/api/quotes", "Bearer a"⟩)]) : ℚ) ≤ 60 + ((1000 - 0 : ℤ) : ℚ) / 1000 :=
  ⟨by decide, by decide, serveAll_handled_le _ _ (by decide) 1 (by decide)⟩

end MicroCoin
