import Mathlib.Algebra.Order.Field.Rat
import Mathlib.Data.Rat.Floor
import Mathlib.Tactic.Linarith

/-!
# `internal/rate`: the token bucket of `Limiter.Allow`

`Allow` (`limiter.go`, lines 28–72) runs one Lua script on Redis: it reads `tokens` and
`last_refill` of the hash `rate:<userID>` (a missing key reads as a full bucket refilled now),
adds `refill_per_sec` tokens for every second since `last_refill`, up to `capacity`, and then
refuses the call (fewer than one token) or takes one token. Either way it writes the tokens and
`now` back and sets `EXPIRE key 60`. `refill_per_sec` is `capacity / refill.Seconds()`: an empty
bucket fills in `refill`. `GetRemainingTokens` (lines 75–110) runs the same refill without
writing and returns its floor.

Lua numbers are exact rationals here and times are `UnixMilli` integers. Redis deletes a key once
the time is past the one its `EXPIRE` set, 60 s after the script's `now`. A failed `Eval` is not
modelled.

Results:
* `run_allowedIn_le`: when `refill` is at most 60 s, for calls at non-decreasing times the calls
  allowed within any `[t0, t1]` number at most `capacity + refill_per_sec · (t1 − t0)`.
* `allow_expired_refill`: with a refill period of 120 s, the key expires before the bucket would
  have refilled, and two calls 60.001 s apart are both allowed with a capacity of 1.
-/

namespace MicroCoin

namespace Rate

/-- The hash at `rate:<userID>`, fields `tokens` and `last_refill`, and the time its `EXPIRE`
    set. -/
structure Bucket where
  tokens : ℚ
  lastRefill : ℤ
  expireAt : ℤ
  deriving DecidableEq, Repr

/-- `redis.call('HMGET', key, 'tokens', 'last_refill')` at `now`: a key past its expiry is
    gone. -/
def hmget (key : Option Bucket) (now : ℤ) : Option Bucket :=
  key.filter fun b => decide (now ≤ b.expireAt)

/-- `new_tokens` of both scripts: `tonumber(bucket[1]) or capacity` and
    `tonumber(bucket[2]) or now`, then
    `math.min(capacity, tokens + (now - last_refill) / 1000.0 * refill_per_sec)`. -/
def refilled (capacity refillPerSec : ℚ) (now : ℤ) (key : Option Bucket) : ℚ :=
  let bucket := hmget key now
  let tokens := (bucket.map (·.tokens)).getD capacity
  let lastRefill := (bucket.map (·.lastRefill)).getD now
  let elapsed := ((now - lastRefill : ℤ) : ℚ) / 1000
  min capacity (tokens + elapsed * refillPerSec)

/-- The script of `Allow`: its answer (`1`, allowed, is `true`) and the hash it writes with
    `HMSET` and `EXPIRE key 60`. -/
def allowScript (capacity refillPerSec : ℚ) (now : ℤ) (key : Option Bucket) : Bool × Bucket :=
  let newTokens := refilled capacity refillPerSec now key
  if newTokens < 1 then (false, ⟨newTokens, now, now + 60 * 1000⟩)
  else (true, ⟨newTokens - 1, now, now + 60 * 1000⟩)

/-- `rate.Limiter`: `capacity`, and `refill`, a `time.Duration` in nanoseconds. -/
structure Limiter where
  capacity : ℤ
  refill : ℤ

/-- `refillPerSec := float64(l.capacity) / l.refill.Seconds()`. -/
def Limiter.refillPerSec (l : Limiter) : ℚ := l.capacity / ((l.refill : ℚ) / 10 ^ 9)

/-- `l.Allow(ctx, userID)` at `now = time.Now().UnixMilli()`, on the user's key: the answer and
    the key after the script. -/
def Limiter.allow (l : Limiter) (now : ℤ) (key : Option Bucket) : Bool × Option Bucket :=
  let (allowed, b) := allowScript l.capacity l.refillPerSec now key
  (allowed, some b)

/-- `l.GetRemainingTokens(ctx, userID)` at `now`: `math.floor(new_tokens)`. -/
def Limiter.getRemainingTokens (l : Limiter) (now : ℤ) (key : Option Bucket) : ℤ :=
  ⌊refilled l.capacity l.refillPerSec now key⌋

/-- `Allow` called at the times `ts`, one after the other, from the key `key`: each call's time
    and answer. -/
def Limiter.run (l : Limiter) : Option Bucket → List ℤ → List (ℤ × Bool)
  | _, [] => []
  | key, now :: ts => (now, (l.allow now key).1) :: l.run (l.allow now key).2 ts

/-- The number of calls allowed at a time within `[t0, t1]`. -/
def allowedIn (t0 t1 : ℤ) (calls : List (ℤ × Bool)) : ℕ :=
  calls.countP fun c => c.2 && decide (t0 ≤ c.1) && decide (c.1 ≤ t1)

/-! ## One script -/

section Script

variable {c ρ : ℚ} {now : ℤ} {key : Option Bucket}

@[simp] theorem allowScript_fst : (allowScript c ρ now key).1 = decide (1 ≤ refilled c ρ now key) := by
  simp only [allowScript]
  split_ifs with h <;> simp [h, not_lt.1]

/-- The script takes one token when it allows the call, none otherwise. -/
theorem allowScript_tokens (c ρ : ℚ) (now : ℤ) (key : Option Bucket) :
    (allowScript c ρ now key).2.tokens + (if (allowScript c ρ now key).1 then 1 else 0) =
      refilled c ρ now key := by
  by_cases h : refilled c ρ now key < 1 <;> simp [allowScript, h]

@[simp] theorem allowScript_lastRefill : (allowScript c ρ now key).2.lastRefill = now := by
  simp only [allowScript]; split_ifs <;> rfl

@[simp] theorem allowScript_expireAt : (allowScript c ρ now key).2.expireAt = now + 60 * 1000 := by
  simp only [allowScript]; split_ifs <;> rfl

theorem refilled_le_capacity (c ρ : ℚ) (now : ℤ) (key : Option Bucket) : refilled c ρ now key ≤ c :=
  min_le_left _ _

/-- A missing key reads as a full bucket. -/
@[simp] theorem refilled_none : refilled c ρ now none = c := by simp [refilled, hmget]

/-- So does a key past its expiry. -/
theorem refilled_expired {b : Bucket} (h : b.expireAt < now) : refilled c ρ now (some b) = c := by
  simp [refilled, hmget, Option.filter, not_le.2 h]

/-- A key the script wrote: no negative tokens, and deleted 60 s after `last_refill`. -/
structure Bucket.Valid (b : Bucket) : Prop where
  tokens_nonneg : 0 ≤ b.tokens
  expireAt_eq : b.expireAt = b.lastRefill + 60 * 1000

/-- A valid key plus what refills until a later time is not negative. -/
theorem Bucket.Valid.refill_nonneg {b : Bucket} (hb : b.Valid) (hρ : 0 ≤ ρ) {t : ℤ}
    (ht : b.lastRefill ≤ t) : 0 ≤ b.tokens + ((t - b.lastRefill : ℤ) : ℚ) / 1000 * ρ := by
  have helapsed : (0 : ℚ) ≤ ((t - b.lastRefill : ℤ) : ℚ) := by
    exact_mod_cast (by omega : (0 : ℤ) ≤ t - b.lastRefill)
  exact add_nonneg hb.tokens_nonneg (mul_nonneg (div_nonneg helapsed (by norm_num)) hρ)

/-- The refill never takes tokens away, when time does not go back. -/
theorem refilled_nonneg (hc : 0 ≤ c) (hρ : 0 ≤ ρ)
    (hkey : ∀ b ∈ key, b.Valid ∧ b.lastRefill ≤ now) : 0 ≤ refilled c ρ now key := by
  simp only [refilled]
  cases hb : hmget key now with
  | none => simpa using hc
  | some b =>
    obtain ⟨hv, hle⟩ := hkey b (Option.filter_eq_some.1 hb).1
    exact le_min hc (hv.refill_nonneg hρ hle)

/-- The script writes a valid key. -/
theorem allowScript_valid (now : ℤ) (key : Option Bucket) (hc : 0 ≤ c) (hρ : 0 ≤ ρ)
    (hkey : ∀ b ∈ key, b.Valid ∧ b.lastRefill ≤ now) : (allowScript c ρ now key).2.Valid := by
  refine ⟨?_, by simp⟩
  have htok := allowScript_tokens c ρ now key
  cases ha : (allowScript c ρ now key).1
  · simp only [ha, Bool.false_eq_true, if_false, add_zero] at htok
    linarith [refilled_nonneg hc hρ hkey]
  · have h1 : 1 ≤ refilled c ρ now key := by simpa using ha
    simp only [ha, if_true] at htok
    linarith

/-- When an empty bucket refills within 60 s (`c ≤ 60 ρ`), the expiry of a key hands back no
    more than refilling would: the script sees at most the tokens it stored plus those refilled
    since. -/
theorem refilled_le_refill (now : ℤ) (hρ : 0 ≤ ρ) (h60 : c ≤ 60 * ρ) {b : Bucket} (hb : b.Valid) :
    refilled c ρ now (some b) ≤ b.tokens + ((now - b.lastRefill : ℤ) : ℚ) / 1000 * ρ := by
  by_cases hlive : now ≤ b.expireAt
  · simp [refilled, hmget, Option.filter, hlive]
  · have helapsed : (60 : ℚ) ≤ ((now - b.lastRefill : ℤ) : ℚ) / 1000 := by
      rw [le_div_iff₀ (by norm_num)]
      exact_mod_cast (by have := hb.expireAt_eq; omega : (60 * 1000 : ℤ) ≤ now - b.lastRefill)
    rw [refilled_expired (not_le.1 hlive)]
    calc c ≤ 60 * ρ := h60
      _ ≤ ((now - b.lastRefill : ℤ) : ℚ) / 1000 * ρ := mul_le_mul_of_nonneg_right helapsed hρ
      _ ≤ b.tokens + ((now - b.lastRefill : ℤ) : ℚ) / 1000 * ρ :=
        le_add_of_nonneg_left hb.tokens_nonneg

end Script

/-! ## Calls one after the other -/

section Run

variable (l : Limiter)

@[simp] theorem Limiter.allow_fst (now : ℤ) (key : Option Bucket) :
    (l.allow now key).1 = (allowScript l.capacity l.refillPerSec now key).1 := rfl

@[simp] theorem Limiter.allow_snd (now : ℤ) (key : Option Bucket) :
    (l.allow now key).2 = some (allowScript l.capacity l.refillPerSec now key).2 := rfl

/-- The calls of a run are at the times it was given. -/
theorem Limiter.map_fst_run : ∀ (key : Option Bucket) (ts : List ℤ), (l.run key ts).map Prod.fst = ts
  | _, [] => rfl
  | key, t :: ts => by simp [Limiter.run, Limiter.map_fst_run _ ts]

theorem allowedIn_cons (t0 t1 t : ℤ) (a : Bool) (cs : List (ℤ × Bool)) :
    allowedIn t0 t1 ((t, a) :: cs) =
      allowedIn t0 t1 cs + if a && decide (t0 ≤ t) && decide (t ≤ t1) then 1 else 0 :=
  List.countP_cons _ _ _

theorem allowedIn_cons_le (t0 t1 t : ℤ) (a : Bool) (cs : List (ℤ × Bool)) :
    (allowedIn t0 t1 ((t, a) :: cs) : ℚ) ≤ allowedIn t0 t1 cs + if a then 1 else 0 := by
  rw [allowedIn_cons]
  cases a <;> split_ifs <;> simp_all

theorem allowedIn_cons_of_lt {t0 t1 t : ℤ} (h : t < t0) (a : Bool) (cs : List (ℤ × Bool)) :
    allowedIn t0 t1 ((t, a) :: cs) = allowedIn t0 t1 cs := by
  simp [allowedIn_cons, not_le.2 h]

/-- Calls after the window count for nothing. -/
theorem allowedIn_run_of_lt {t0 t1 : ℤ} {key : Option Bucket} {ts : List ℤ}
    (h : ∀ t ∈ ts, t1 < t) : allowedIn t0 t1 (l.run key ts) = 0 := by
  rw [allowedIn, List.countP_eq_zero]
  intro c hc
  have := h c.1 (l.map_fst_run key ts ▸ List.mem_map_of_mem _ hc)
  simp only [Bool.and_eq_true, decide_eq_true_eq, not_and, not_le]
  exact fun _ => this

/-- So do the calls from one past the window on. -/
theorem allowedIn_run_cons_of_lt {t0 t1 t : ℤ} {key : Option Bucket} {ts : List ℤ} (h1 : t1 < t)
    (hts : ∀ u ∈ ts, t ≤ u) : allowedIn t0 t1 (l.run key (t :: ts)) = 0 :=
  allowedIn_run_of_lt l fun u hu =>
    (List.mem_cons.1 hu).elim (· ▸ h1) fun hu => lt_of_lt_of_le h1 (hts u hu)

variable {l}

/-- Once a call inside the window has written the key `b`, the calls allowed up to `t1` are at
    most the tokens `b` holds and those that refill until `t1`: each call takes one token of what
    it sees, and it sees no more than the tokens stored and refilled since. -/
theorem allowedIn_run_le_tokens (hc : 0 ≤ (l.capacity : ℚ)) (hρ : 0 ≤ l.refillPerSec)
    (h60 : (l.capacity : ℚ) ≤ 60 * l.refillPerSec) (t0 t1 : ℤ) :
    ∀ (ts : List ℤ) (b : Bucket), b.Valid → ts.Pairwise (· ≤ ·) →
      (∀ t ∈ ts, b.lastRefill ≤ t) → b.lastRefill ≤ t1 →
      (allowedIn t0 t1 (l.run (some b) ts) : ℚ) ≤
        b.tokens + ((t1 - b.lastRefill : ℤ) : ℚ) / 1000 * l.refillPerSec
  | [], b, hb, _, _, h1 => by simpa [Limiter.run, allowedIn] using hb.refill_nonneg hρ h1
  | t :: ts, b, hb, hts, hge, h1 => by
    rw [List.pairwise_cons] at hts
    have hbt := hge t (List.mem_cons_self _ _)
    have hr := allowScript_valid t (some b) hc hρ (by simp [hb, hbt])
    by_cases ht : t ≤ t1
    · have ih := allowedIn_run_le_tokens hc hρ h60 t0 t1 ts _ hr hts.2 (by simpa using hts.1)
        (by simpa using ht)
      have htok := allowScript_tokens l.capacity l.refillPerSec t (some b)
      have hrefill := refilled_le_refill t hρ h60 hb
      have htel : ((t - b.lastRefill : ℤ) : ℚ) / 1000 * l.refillPerSec +
          ((t1 - t : ℤ) : ℚ) / 1000 * l.refillPerSec =
          ((t1 - b.lastRefill : ℤ) : ℚ) / 1000 * l.refillPerSec := by
        push_cast; ring
      have hcons := allowedIn_cons_le t0 t1 t (l.allow t (some b)).1 (l.run (l.allow t (some b)).2 ts)
      simp only [allowScript_lastRefill] at ih
      simp only [Limiter.run, Limiter.allow_fst, Limiter.allow_snd] at hcons ⊢
      linarith
    · rw [allowedIn_run_cons_of_lt l (not_le.1 ht) hts.1]
      simpa using hb.refill_nonneg hρ h1

/-- From no key, or from a key the script wrote before the first call, the calls allowed within
    `[t0, t1]` are at most a full bucket and what refills in the window: the first call inside
    the window sees at most `capacity` tokens. -/
theorem allowedIn_run_le_capacity (hc : 0 ≤ (l.capacity : ℚ)) (hρ : 0 ≤ l.refillPerSec)
    (h60 : (l.capacity : ℚ) ≤ 60 * l.refillPerSec) {t0 t1 : ℤ} (h01 : t0 ≤ t1) (ts : List ℤ) :
    ∀ key : Option Bucket, (∀ b ∈ key, b.Valid ∧ ∀ t ∈ ts, b.lastRefill ≤ t) →
      ts.Pairwise (· ≤ ·) →
      (allowedIn t0 t1 (l.run key ts) : ℚ) ≤
        l.capacity + ((t1 - t0 : ℤ) : ℚ) / 1000 * l.refillPerSec := by
  have hbound : 0 ≤ (l.capacity : ℚ) + ((t1 - t0 : ℤ) : ℚ) / 1000 * l.refillPerSec :=
    Bucket.Valid.refill_nonneg (b := ⟨l.capacity, t0, t0 + 60 * 1000⟩) ⟨hc, rfl⟩ hρ h01
  induction ts with
  | nil => exact fun _ _ _ => by simpa [Limiter.run, allowedIn] using hbound
  | cons t ts ih =>
    intro key hkey hts
    rw [List.pairwise_cons] at hts
    rcases lt_or_le t1 t with h1 | h1
    · -- after the window
      rw [allowedIn_run_cons_of_lt l h1 hts.1]
      simpa using hbound
    have hr := allowScript_valid t key hc hρ
      fun b hb => ⟨(hkey b hb).1, (hkey b hb).2 t (List.mem_cons_self _ _)⟩
    simp only [Limiter.run, Limiter.allow_fst, Limiter.allow_snd]
    rcases lt_or_le t t0 with h0 | h0
    · -- before the window
      rw [allowedIn_cons_of_lt h0]
      exact ih _ (by simpa using ⟨hr, hts.1⟩) hts.2
    · -- the first call inside the window
      have hw := allowedIn_run_le_tokens hc hρ h60 t0 t1 ts _ hr hts.2 (by simpa using hts.1)
        (by simpa using h1)
      have htok := allowScript_tokens l.capacity l.refillPerSec t key
      have hcap := refilled_le_capacity (l.capacity : ℚ) l.refillPerSec t key
      have hshort : ((t1 - t : ℤ) : ℚ) / 1000 * l.refillPerSec ≤
          ((t1 - t0 : ℤ) : ℚ) / 1000 * l.refillPerSec := by
        have hle : ((t1 - t : ℤ) : ℚ) ≤ ((t1 - t0 : ℤ) : ℚ) := by exact_mod_cast (by omega)
        exact mul_le_mul_of_nonneg_right (div_le_div_of_nonneg_right hle (by norm_num)) hρ
      have hcons := allowedIn_cons_le t0 t1 t (l.allow t key).1 (l.run (l.allow t key).2 ts)
      simp only [Limiter.allow_fst, Limiter.allow_snd] at hcons
      simp only [allowScript_lastRefill] at hw
      linarith

end Run

/-- When `refill` is at most 60 s, the calls to `Allow` at non-decreasing times, from the user's
    first call on, are allowed within any `[t0, t1]` (times in ms) at most
    `capacity + refill_per_sec · (t1 − t0)` times. -/
theorem run_allowedIn_le (l : Limiter) (hc : 0 < l.capacity) (hR : 0 < l.refill)
    (h60 : l.refill ≤ 60 * 10 ^ 9) (ts : List ℤ) (hts : ts.Pairwise (· ≤ ·)) {t0 t1 : ℤ}
    (h01 : t0 ≤ t1) :
    (allowedIn t0 t1 (l.run none ts) : ℚ) ≤
      l.capacity + l.refillPerSec * (((t1 - t0 : ℤ) : ℚ) / 1000) := by
  have hR' : (0 : ℚ) < l.refill := by exact_mod_cast hR
  have hc' : (0 : ℚ) ≤ l.capacity := by exact_mod_cast hc.le
  have hρ : 0 ≤ l.refillPerSec := div_nonneg hc' (div_nonneg hR'.le (by norm_num))
  -- an empty bucket refills within the 60 s of the expiry
  have hfill : (l.capacity : ℚ) ≤ 60 * l.refillPerSec := by
    have : (l.refill : ℚ) ≤ 60 * 10 ^ 9 := by exact_mod_cast h60
    rw [Limiter.refillPerSec, div_div_eq_mul_div, mul_div_assoc', le_div_iff₀ hR']
    nlinarith
  rw [mul_comm]
  exact allowedIn_run_le_capacity hc' hρ hfill h01 ts none (by simp) hts

/-- `main`'s limiter, `NewLimiter(redisClient, 60, time.Minute)`, with calls at 0, 500 and
    1000 ms. -/
theorem run_allowedIn_le_main :
    0 < (Limiter.mk 60 (60 * 10 ^ 9)).capacity ∧ 0 < (Limiter.mk 60 (60 * 10 ^ 9)).refill ∧
    (Limiter.mk 60 (60 * 10 ^ 9)).refill ≤ 60 * 10 ^ 9 ∧
    ([0, 500, 1000] : List ℤ).Pairwise (· ≤ ·) ∧ (0 : ℤ) ≤ 1000 ∧
    (allowedIn 0 1000 ((Limiter.mk 60 (60 * 10 ^ 9)).run none [0, 500, 1000]) : ℚ) ≤
      (Limiter.mk 60 (60 * 10 ^ 9)).capacity +
        (Limiter.mk 60 (60 * 10 ^ 9)).refillPerSec * (((1000 - 0 : ℤ) : ℚ) / 1000) :=
  ⟨by decide, by decide, by decide, by decide, by decide,
    run_allowedIn_le _ (by decide) (by decide) (by decide) _ (by decide) (by decide)⟩

/-- With a capacity of 1 and a refill period of 120 s, calls at 0 and at 60.001 s are both
    allowed: the second finds the key expired, so a full bucket, where refilling would have given
    it half a token. Two calls within `[0, 60001]` exceed `1 + (1 / 120) · 60.001`. -/
theorem allow_expired_refill :
    (Limiter.mk 1 (120 * 10 ^ 9)).run none [0, 60001] = [(0, true), (60001, true)] ∧
      ((Limiter.mk 1 (120 * 10 ^ 9)).capacity : ℚ) +
          (Limiter.mk 1 (120 * 10 ^ 9)).refillPerSec * (((60001 - 0 : ℤ) : ℚ) / 1000) <
        allowedIn 0 60001 ((Limiter.mk 1 (120 * 10 ^ 9)).run none [0, 60001]) := by
  have hexpired : (allowScript 1 (Limiter.mk 1 (120 * 10 ^ 9)).refillPerSec 0
      none).2.expireAt < 60001 := by
    rw [allowScript_expireAt]; decide
  have hrun : (Limiter.mk 1 (120 * 10 ^ 9)).run none [0, 60001] = [(0, true), (60001, true)] := by
    simp only [Limiter.run, Limiter.allow_fst, Limiter.allow_snd, allowScript_fst, refilled_none,
      refilled_expired hexpired, Int.cast_one, le_refl, decide_True]
  refine ⟨hrun, ?_⟩
  rw [hrun]
  norm_num [allowedIn, Limiter.refillPerSec]

end Rate

end MicroCoin
