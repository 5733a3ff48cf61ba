import MicroCoin.Models
import Mathlib.Data.List.Nodup
import Mathlib.Logic.Function.Basic

/-!
# `internal/quotes`: the quote fan-out

`quotes.Service` (`quotes.go`) keeps, for each symbol, a slice of subscriber channels, each
`make(chan *models.Quote, 10)`. `Subscribe` appends a new channel under the write lock.
`Unsubscribe` finds the channel, removes it with `append(subscribers[:i], subscribers[i+1:]...)`
and closes it, under the write lock. `updateQuote` stores the quote, copies the symbol's slice
under the read lock, releases the lock, and only then sends to each channel of the copy, with a
`select` that skips a full channel.

The copy is a slice header: it shares its backing array with the service's slice, and the
`range` loop reads each element when it reaches it. `Service` holds the Go heap the slices live
on: `arrays a j` is the element `j` of the backing array `a`, and a channel is a positive number,
`nil` being `0`. How `append` sizes a new array is a `GrowthPolicy`, and the results hold for
every one. A step is a `Subscribe`, an `Unsubscribe`, an `updateQuote` up to its copy, one
iteration of the loop of an `updateQuote` in flight, or a receive of `websocketQuotesHandler`,
in any order.

Results:
* `view_subscribe`, `view_unsubscribe`: on the heap, `Subscribe` appends a fresh channel to the
  symbol's subscribers and `Unsubscribe` erases the channel from them.
* `run_no_double_close`: in every interleaving, `Unsubscribe` never closes a closed channel.
* `run_ok_of_quiet`: when no `Unsubscribe` runs while an `updateQuote` is between its copy and
  its last send, no step panics.
* `updateQuote_sends_on_closed`: a `Subscribe`, the copy of an `updateQuote`, an `Unsubscribe` of
  the channel, and then the send of the `updateQuote`: the send panics.
-/

namespace MicroCoin

namespace Quotes

/-- A `chan *models.Quote`: a positive number, `nil` being `0`. -/
abbrev Chan := ℕ

/-- A slice header: its backing array, length and capacity. `nil` has capacity 0. -/
structure Slice where
  array : ℕ
  len : ℕ
  cap : ℕ
  deriving DecidableEq, Repr

/-- How `append` sizes a new backing array (`growslice`): from the new length and the old
    capacity, a capacity that holds the new length. -/
structure GrowthPolicy where
  newCap : ℕ → ℕ → ℕ
  le_newCap : ∀ newLen oldCap, newLen ≤ newCap newLen oldCap

/-- An `updateQuote` goroutine past its copy of the subscribers: the quote it sends, the slice it
    copied, and the index of its next send. -/
structure Sender where
  quote : Quote
  subscribers : Slice
  next : ℕ

/-- A Go panic of the fan-out. -/
inductive Panic
  /-- `send on closed channel` -/
  | sendOnClosedChannel
  /-- `close of closed channel` -/
  | closeOfClosedChannel
  deriving DecidableEq, Repr

/-- `quotes.Service` with the Go heap of its subscriber slices and channels, and its
    `updateQuote` goroutines in flight. The Redis client is not modelled. -/
structure Service where
  quotes : Symbol → Option Quote
  subscribers : Symbol → Slice
  arrays : ℕ → ℕ → Chan
  buffer : Chan → List Quote
  closed : Chan → Bool
  nextArray : ℕ
  nextChan : Chan
  senders : List Sender

/-- `NewService(redisClient)`: no quote, and every subscriber slice `nil`. -/
def newService : Service :=
  ⟨fun _ => none, fun _ => ⟨0, 0, 0⟩, fun _ _ => 0, fun _ => [], fun _ => false, 0, 1, []⟩

/-- The elements of a slice, as a `range` over it reads them now. -/
def readSlice (arrays : ℕ → ℕ → Chan) (s : Slice) : List Chan :=
  (List.range s.len).map (arrays s.array)

namespace Service

/-- The subscribers of `symbol`. -/
def view (sv : Service) (symbol : Symbol) : List Chan := readSlice sv.arrays (sv.subscribers symbol)

/-- `append(s, ch)`: in place when the capacity allows, otherwise into a new array that holds a
    copy of the elements. -/
def append (P : GrowthPolicy) (sv : Service) (s : Slice) (ch : Chan) : Slice × Service :=
  if s.len < s.cap then
    (⟨s.array, s.len + 1, s.cap⟩,
      { sv with
        arrays := Function.update sv.arrays s.array (Function.update (sv.arrays s.array) s.len ch) })
  else
    (⟨sv.nextArray, s.len + 1, P.newCap (s.len + 1) s.cap⟩,
      { sv with
        arrays := Function.update sv.arrays sv.nextArray fun j =>
          if j < s.len then sv.arrays s.array j else if j = s.len then ch else 0
        nextArray := sv.nextArray + 1 })

/-- `append(s[:i], s[i+1:]...)`: the elements after `i` move one place down, in place. -/
def removeAt (sv : Service) (s : Slice) (i : ℕ) : Slice × Service :=
  (⟨s.array, s.len - 1, s.cap⟩,
    { sv with
      arrays := Function.update sv.arrays s.array fun j =>
        if i ≤ j ∧ j + 1 < s.len then sv.arrays s.array (j + 1) else sv.arrays s.array j })

/-- `close(ch)`. -/
def close (sv : Service) (ch : Chan) : Except Panic Service :=
  if sv.closed ch then .error .closeOfClosedChannel
  else .ok { sv with closed := Function.update sv.closed ch true }

/-- `select { case ch <- quote: default: }`: a send on a closed channel panics; a full channel
    (10 quotes buffered) and `nil` are skipped. -/
def trySend (sv : Service) (ch : Chan) (quote : Quote) : Except Panic Service :=
  if ch = 0 then .ok sv
  else if sv.closed ch then .error .sendOnClosedChannel
  else if (sv.buffer ch).length < 10 then
    .ok { sv with buffer := Function.update sv.buffer ch (sv.buffer ch ++ [quote]) }
  else .ok sv

/-- `s.Subscribe(symbol)` (lines 59–68): `make` gives the next channel, which is appended to the
    symbol's slice. -/
def subscribe (P : GrowthPolicy) (sv : Service) (symbol : Symbol) : Chan × Service :=
  let ch := sv.nextChan
  let r := sv.append P (sv.subscribers symbol) ch
  (ch, { r.2 with subscribers := Function.update r.2.subscribers symbol r.1, nextChan := ch + 1 })

/-- `s.Unsubscribe(symbol, ch)` (lines 70–83): the first index of the symbol's slice that holds
    `ch` is removed, and `close(subscriber)` closes that element, `ch`. -/
def unsubscribe (sv : Service) (symbol : Symbol) (ch : Chan) : Except Panic Service :=
  let subscribers := sv.subscribers symbol
  match (List.range subscribers.len).find? (fun i => sv.arrays subscribers.array i == ch) with
  | none => .ok sv
  | some i =>
    let r := sv.removeAt subscribers i
    close { r.2 with subscribers := Function.update r.2.subscribers symbol r.1 } ch

/-- Lines 108–115 of `updateQuote(quote)`: the quote is stored, and the slice of its symbol is
    copied under the read lock; the goroutine goes on to its sends. -/
def updateQuote (sv : Service) (quote : Quote) : Service :=
  { sv with
    quotes := Function.update sv.quotes quote.symbol (some quote)
    senders := sv.senders ++ [⟨quote, sv.subscribers quote.symbol, 0⟩] }

/-- One iteration of the `range` loop (lines 117–124) of the `k`-th `updateQuote` in flight: it
    reads the element of the shared array and sends to it; past the last element the goroutine
    returns. -/
def sendNext (sv : Service) (k : ℕ) : Except Panic Service :=
  match sv.senders[k]? with
  | none => .ok sv
  | some snd =>
    if snd.next < snd.subscribers.len then
      trySend { sv with senders := sv.senders.set k { snd with next := snd.next + 1 } }
        (sv.arrays snd.subscribers.array snd.next) snd.quote
    else .ok { sv with senders := sv.senders.eraseIdx k }

/-- `<-ch` in `websocketQuotesHandler`: the oldest buffered quote is taken. -/
def receive (sv : Service) (ch : Chan) : Service :=
  { sv with buffer := Function.update sv.buffer ch (sv.buffer ch).tail }

end Service

/-- A step of a run. -/
inductive Action
  | subscribe (symbol : Symbol)
  | unsubscribe (symbol : Symbol) (ch : Chan)
  /-- `updateQuote(quote)` up to its copy of the subscribers. -/
  | updateQuote (quote : Quote)
  /-- The next iteration of the loop of the `k`-th `updateQuote` in flight. -/
  | send (k : ℕ)
  | receive (ch : Chan)

/-- One step; a panic stops the process. -/
def step (P : GrowthPolicy) (sv : Service) : Action → Except Panic Service
  | .subscribe symbol => .ok (sv.subscribe P symbol).2
  | .unsubscribe symbol ch => sv.unsubscribe symbol ch
  | .updateQuote quote => .ok (sv.updateQuote quote)
  | .send k => sv.sendNext k
  | .receive ch => .ok (sv.receive ch)

/-- The steps one after the other. -/
def run (P : GrowthPolicy) (sv : Service) : List Action → Except Panic Service
  | [] => .ok sv
  | a :: as =>
    match step P sv a with
    | .ok sv => run P sv as
    | .error p => .error p

/-! ## The heap -/

/-- Writing an array changes no element a slice reads, except those it writes. -/
theorem readSlice_update {arrays : ℕ → ℕ → Chan} {s : Slice} {a : ℕ} {f : ℕ → Chan}
    (h : s.array = a → ∀ j < s.len, f j = arrays a j) :
    readSlice (Function.update arrays a f) s = readSlice arrays s := by
  unfold readSlice
  refine List.map_congr_left fun j hj => ?_
  by_cases ha : s.array = a
  · subst ha
    rw [Function.update_same, h rfl j (List.mem_range.1 hj)]
  · rw [Function.update_noteq ha]

namespace Service

section Heap

variable (P : GrowthPolicy) (sv : Service) (s : Slice) (ch : Chan) (i : ℕ)

@[simp] theorem append_subscribers : (sv.append P s ch).2.subscribers = sv.subscribers := by
  unfold append; split_ifs <;> rfl

@[simp] theorem append_closed : (sv.append P s ch).2.closed = sv.closed := by
  unfold append; split_ifs <;> rfl

@[simp] theorem append_senders : (sv.append P s ch).2.senders = sv.senders := by
  unfold append; split_ifs <;> rfl

/-- The slice `append` returns reads the elements of `s`, then `ch`. -/
theorem readSlice_append :
    readSlice (sv.append P s ch).2.arrays (sv.append P s ch).1 = readSlice sv.arrays s ++ [ch] := by
  unfold append readSlice
  split_ifs with h
  · simp only [List.range_succ, List.map_append, List.map_singleton, Function.update_same]
    exact congrArg (· ++ _)
      (List.map_congr_left fun j hj => Function.update_noteq (List.mem_range.1 hj).ne _ _)
  · simp only [List.range_succ, List.map_append, List.map_singleton, Function.update_same,
      lt_irrefl, if_false, if_true]
    exact congrArg (· ++ _) (List.map_congr_left fun j hj => if_pos (List.mem_range.1 hj))

/-- `append` to `s` writes no element of a slice `t` that is no longer than `s` on the array
    `s` grows in place, and was allocated before a new array. -/
theorem readSlice_append_of {t : Slice} (hin : s.len < s.cap → t.array = s.array → t.len ≤ s.len)
    (hnew : 0 < t.len → t.array < sv.nextArray) :
    readSlice (sv.append P s ch).2.arrays t = readSlice sv.arrays t := by
  unfold append
  split_ifs with h
  · exact readSlice_update fun ht j hj => Function.update_noteq (by have := hin h ht; omega) _ _
  · exact readSlice_update fun ht j hj => absurd ht (hnew (by omega)).ne

@[simp] theorem removeAt_subscribers : (sv.removeAt s i).2.subscribers = sv.subscribers := rfl

@[simp] theorem removeAt_closed : (sv.removeAt s i).2.closed = sv.closed := rfl

/-- After `append(s[:i], s[i+1:]...)` the slice reads the elements of `s` but the `i`-th. -/
theorem readSlice_removeAt (hi : i < s.len) :
    readSlice (sv.removeAt s i).2.arrays (sv.removeAt s i).1 = (readSlice sv.arrays s).eraseIdx i := by
  apply List.ext_getElem
  · rw [List.length_eraseIdx_of_lt (l := readSlice sv.arrays s) (by simpa [readSlice] using hi)]
    simp [readSlice, removeAt]
  · intro j h1 h2
    simp only [readSlice, removeAt, List.length_map, List.length_range] at h1
    rw [List.getElem_eraseIdx]
    split_ifs with hj <;> simp [readSlice, removeAt, hj] <;> omega

/-- `append(s[:i], s[i+1:]...)` writes no element of a slice on another array. -/
theorem readSlice_removeAt_of {t : Slice} (ht : 0 < t.len → t.array ≠ s.array) :
    readSlice (sv.removeAt s i).2.arrays t = readSlice sv.arrays t :=
  readSlice_update fun h j hj => absurd h (ht (by omega))

end Heap

end Service

/-! ## Two levels: the slices on the heap, and the subscriber lists they stand for -/

/-- The subscriber lists as the service means them: a channel is in one list at most, once, was
    made, and is open; a channel not yet made is open. -/
structure RegistryInv (view : Symbol → List Chan) (closed : Chan → Bool) (nextChan : Chan) :
    Prop where
  nodup : ∀ sym, (view sym).Nodup
  disjoint : ∀ sym sym', sym ≠ sym' → ∀ c ∈ view sym, c ∉ view sym'
  lt_nextChan : ∀ sym, ∀ c ∈ view sym, c < nextChan
  subscribed_open : ∀ sym, ∀ c ∈ view sym, closed c = false
  fresh_open : ∀ c, nextChan ≤ c → closed c = false

section Registry

variable {view : Symbol → List Chan} {closed : Chan → Bool} {n : Chan}

theorem mem_update_append {sym s : Symbol} {c : Chan} :
    c ∈ Function.update view sym (view sym ++ [n]) s ↔ c ∈ view s ∨ s = sym ∧ c = n := by
  rw [Function.update_apply]
  split_ifs with hs <;> simp [hs]

/-- Subscribing a new channel keeps the lists valid. -/
theorem RegistryInv.subscribe (h : RegistryInv view closed n) (sym : Symbol) :
    RegistryInv (Function.update view sym (view sym ++ [n])) closed (n + 1) := by
  have hfresh : ∀ sym', n ∉ view sym' := fun sym' hn => lt_irrefl n (h.lt_nextChan sym' n hn)
  constructor
  · intro sym'
    rcases eq_or_ne sym' sym with rfl | hs
    · simpa [List.nodup_append] using ⟨h.nodup sym', hfresh sym'⟩
    · simpa [hs] using h.nodup sym'
  · intro s1 s2 hne c hc1 hc2
    rw [mem_update_append] at hc1 hc2
    rcases hc1 with hc1 | ⟨rfl, rfl⟩ <;> rcases hc2 with hc2 | ⟨h2, h2'⟩
    · exact h.disjoint _ _ hne c hc1 hc2
    · exact hfresh _ (h2' ▸ hc1)
    · exact hfresh _ hc2
    · exact hne h2.symm
  · intro sym' c hc
    rcases mem_update_append.1 hc with hc | ⟨-, rfl⟩
    · exact Nat.lt_succ_of_lt (h.lt_nextChan _ c hc)
    · exact Nat.lt_succ_self c
  · intro sym' c hc
    rcases mem_update_append.1 hc with hc | ⟨-, rfl⟩
    · exact h.subscribed_open _ c hc
    · exact h.fresh_open c le_rfl
  · exact fun c hc => h.fresh_open c (Nat.le_of_succ_le hc)

/-- Unsubscribing a subscribed channel, which erases it from its list and closes it, keeps the
    lists valid: the channel was in no other list and only once in its own. -/
theorem RegistryInv.unsubscribe (h : RegistryInv view closed n) {sym : Symbol} {ch : Chan}
    (hch : ch ∈ view sym) :
    RegistryInv (Function.update view sym ((view sym).erase ch)) (Function.update closed ch true)
      n := by
  have hmem : ∀ {s c}, c ∈ Function.update view sym ((view sym).erase ch) s → c ∈ view s ∧ c ≠ ch := by
    intro s c hc
    rw [Function.update_apply] at hc
    split_ifs at hc with hs
    · subst hs
      exact ((h.nodup s).mem_erase_iff.1 hc).symm
    · exact ⟨hc, fun hc' => h.disjoint sym s (Ne.symm hs) ch hch (hc' ▸ hc)⟩
  constructor
  · intro s
    rw [Function.update_apply]
    split_ifs with hs
    · exact (h.nodup sym).erase ch
    · exact h.nodup s
  · intro s1 s2 hne c hc1 hc2
    exact h.disjoint s1 s2 hne c (hmem hc1).1 (hmem hc2).1
  · exact fun s c hc => h.lt_nextChan s c (hmem hc).1
  · intro s c hc
    rw [Function.update_noteq (hmem hc).2]
    exact h.subscribed_open s c (hmem hc).1
  · intro c hc
    rw [Function.update_noteq (ne_of_gt (lt_of_lt_of_le (h.lt_nextChan sym ch hch) hc))]
    exact h.fresh_open c hc

end Registry

namespace Service

/-- The slices of `subscribers` on the heap: each holds its elements, and each allocated one has
    its own array, allocated before `nextArray`. -/
structure HeapInv (sv : Service) : Prop where
  len_le_cap : ∀ sym, (sv.subscribers sym).len ≤ (sv.subscribers sym).cap
  array_lt : ∀ sym, 0 < (sv.subscribers sym).cap → (sv.subscribers sym).array < sv.nextArray
  array_inj : ∀ sym sym', 0 < (sv.subscribers sym).cap → 0 < (sv.subscribers sym').cap →
    (sv.subscribers sym).array = (sv.subscribers sym').array → sym = sym'

/-- The invariant of the service: its slices are sound on the heap, and the lists they stand for
    are valid. -/
structure Inv (sv : Service) : Prop where
  heap : sv.HeapInv
  registry : RegistryInv sv.view sv.closed sv.nextChan

section Refinement

variable (P : GrowthPolicy) {sv : Service}

@[simp] theorem subscribe_closed (sym : Symbol) : (sv.subscribe P sym).2.closed = sv.closed := by
  simp [subscribe]

@[simp] theorem subscribe_nextChan (sym : Symbol) :
    (sv.subscribe P sym).2.nextChan = sv.nextChan + 1 := rfl

@[simp] theorem subscribe_senders (sym : Symbol) :
    (sv.subscribe P sym).2.senders = sv.senders := by
  simp [subscribe]

/-- `append` to one symbol's slice writes no element of another symbol's. -/
theorem HeapInv.readSlice_append_other (h : sv.HeapInv) {sym sym' : Symbol} (hne : sym' ≠ sym)
    (ch : Chan) :
    readSlice (sv.append P (sv.subscribers sym) ch).2.arrays (sv.subscribers sym') = sv.view sym' := by
  have hl' := h.len_le_cap sym'
  refine readSlice_append_of P sv _ ch (fun hlt ha => ?_) fun hl => h.array_lt _ (by omega)
  by_contra hgt
  exact hne (h.array_inj _ _ (by omega) (by omega) ha)

/-- `Subscribe` appends the new channel to the symbol's subscribers. -/
theorem view_subscribe (h : sv.HeapInv) (sym : Symbol) :
    (sv.subscribe P sym).2.view = Function.update sv.view sym (sv.view sym ++ [sv.nextChan]) := by
  funext sym'
  rcases eq_or_ne sym' sym with rfl | hs
  · simp only [view, subscribe, append_subscribers, Function.update_same]
    exact readSlice_append P sv _ _
  · simp only [view, subscribe, append_subscribers, Function.update_noteq hs]
    exact h.readSlice_append_other P hs _

/-- The slice `append` returns is one longer and within its capacity, on the array of `s` with
    its capacity, or on a new array. -/
theorem append_fst (sv : Service) (s : Slice) (ch : Chan) :
    (sv.append P s ch).1.len ≤ (sv.append P s ch).1.cap ∧
      ((sv.append P s ch).1.array = s.array ∧ (sv.append P s ch).1.cap = s.cap ∧ 0 < s.cap ∧
          (sv.append P s ch).2.nextArray = sv.nextArray ∨
        (sv.append P s ch).1.array = sv.nextArray ∧
          (sv.append P s ch).2.nextArray = sv.nextArray + 1) := by
  unfold append
  split_ifs with hlt
  · exact ⟨hlt, .inl ⟨rfl, rfl, by omega, rfl⟩⟩
  · exact ⟨P.le_newCap _ _, .inr ⟨rfl, rfl⟩⟩

/-- Replacing the slice of one symbol by a slice within its capacity, on an array allocated
    before the new `nextArray` and used by no other symbol, keeps the slices sound. -/
theorem HeapInv.update (h : sv.HeapInv) {sym : Symbol} {t : Slice} {na : ℕ}
    (hna : sv.nextArray ≤ na) (hlen : t.len ≤ t.cap) (hlt : 0 < t.cap → t.array < na)
    (hown : ∀ sym', sym' ≠ sym → 0 < t.cap → 0 < (sv.subscribers sym').cap →
      (sv.subscribers sym').array ≠ t.array)
    {sv' : Service} (hs : sv'.subscribers = Function.update sv.subscribers sym t)
    (hn : sv'.nextArray = na) : sv'.HeapInv := by
  refine ⟨fun s1 => ?_, fun s1 hc => ?_, fun s1 s2 h1 h2 ha => ?_⟩ <;>
    simp only [hs, hn, Function.update_apply] at *
  · split_ifs
    exacts [hlen, h.len_le_cap s1]
  · split_ifs at hc ⊢
    exacts [hlt hc, lt_of_lt_of_le (h.array_lt s1 hc) hna]
  · split_ifs at h1 h2 ha with e1 e2 e2
    · exact e1.trans e2.symm
    · exact absurd ha.symm (hown s2 e2 h1 h2)
    · exact absurd ha (hown s1 e1 h2 h1)
    · exact h.array_inj s1 s2 h1 h2 ha

/-- `Subscribe` keeps the slices sound: in place, the new length is within the capacity; a new
    array is fresh and holds the new length. -/
theorem HeapInv.subscribe (h : sv.HeapInv) (sym : Symbol) : (sv.subscribe P sym).2.HeapInv := by
  obtain ⟨hle, hcase⟩ := append_fst P sv (sv.subscribers sym) sv.nextChan
  have hs : (sv.subscribe P sym).2.subscribers =
      Function.update sv.subscribers sym (sv.append P (sv.subscribers sym) sv.nextChan).1 := by
    show Function.update _ _ _ = _
    rw [append_subscribers]
  have hna : (sv.subscribe P sym).2.nextArray =
      (sv.append P (sv.subscribers sym) sv.nextChan).2.nextArray := rfl
  rcases hcase with ⟨ha, -, hpos, hn⟩ | ⟨ha, hn⟩
  · exact h.update hn.ge hle (fun _ => ha ▸ hn ▸ h.array_lt sym hpos)
      (fun s' hne _ hc' heq => hne (h.array_inj _ _ hc' hpos (heq.trans ha))) hs hna
  · exact h.update (hn ▸ Nat.le_succ _) hle (fun _ => by rw [ha, hn]; exact Nat.lt_succ_self _)
      (fun s' _ _ hc' heq => (h.array_lt s' hc').ne (heq.trans ha)) hs hna

/-- Slices that keep their arrays and capacities and do not grow stay sound. -/
theorem HeapInv.of_shrink {sv' : Service} (h : sv.HeapInv) (hna : sv'.nextArray = sv.nextArray)
    (hs : ∀ sym, (sv'.subscribers sym).array = (sv.subscribers sym).array ∧
      (sv'.subscribers sym).cap = (sv.subscribers sym).cap ∧
      (sv'.subscribers sym).len ≤ (sv.subscribers sym).len) : sv'.HeapInv := by
  refine ⟨fun sym => ?_, fun sym hc => ?_, fun s1 s2 h1 h2 ha => ?_⟩
  · obtain ⟨-, hc, hl⟩ := hs sym
    have := h.len_le_cap sym
    omega
  · obtain ⟨ha, hc', -⟩ := hs sym
    rw [ha, hna]
    exact h.array_lt sym (hc' ▸ hc)
  · obtain ⟨ha1, hc1, -⟩ := hs s1
    obtain ⟨ha2, hc2, -⟩ := hs s2
    exact h.array_inj s1 s2 (hc1 ▸ h1) (hc2 ▸ h2) (ha1 ▸ ha2 ▸ ha)

/-- `Unsubscribe` of the channel found at `i` erases it from the symbol's subscribers. -/
theorem view_unsubscribe (h : sv.HeapInv) {sym : Symbol} (hnd : (sv.view sym).Nodup) {i : ℕ}
    (hi : i < (sv.subscribers sym).len) :
    ({ (sv.removeAt (sv.subscribers sym) i).2 with
        subscribers := Function.update sv.subscribers sym (sv.removeAt (sv.subscribers sym) i).1 } :
        Service).view =
      Function.update sv.view sym ((sv.view sym).erase (sv.arrays (sv.subscribers sym).array i)) := by
  funext sym'
  rcases eq_or_ne sym' sym with rfl | hs
  · simp only [view, Function.update_same]
    rw [readSlice_removeAt _ _ _ hi]
    change (sv.view sym').eraseIdx i = (sv.view sym').erase _
    have hlt : i < (sv.view sym').length := by simpa [view, readSlice] using hi
    have hget : sv.arrays (sv.subscribers sym').array i = (sv.view sym')[i] := by
      simp [view, readSlice]
    rw [hget, hnd.erase_getElem]
  · simp only [view, Function.update_noteq hs]
    exact readSlice_removeAt_of _ _ _ fun hl ha => hs (h.array_inj _ _
      (by have := h.len_le_cap sym'; omega) (by have := h.len_le_cap sym; omega) ha)

/-- `Unsubscribe` never panics: the channel it finds is subscribed, hence open. And it keeps the
    invariant. -/
theorem Inv.unsubscribe (h : sv.Inv) (sym : Symbol) (ch : Chan) :
    ∃ sv', sv.unsubscribe sym ch = .ok sv' ∧ sv'.Inv ∧ sv'.senders = sv.senders := by
  simp only [Service.unsubscribe]
  split
  · exact ⟨sv, rfl, h, rfl⟩
  · next i hf =>
    obtain ⟨hch, hi, -⟩ := List.find?_range_eq_some.1 hf
    rw [beq_iff_eq] at hch
    rw [List.mem_range] at hi
    have hmem : ch ∈ sv.view sym := hch ▸ List.mem_map_of_mem _ (List.mem_range.2 hi)
    have hopen := h.registry.subscribed_open sym ch hmem
    simp only [Service.close, removeAt_closed, hopen, Bool.false_eq_true, if_false]
    refine ⟨_, rfl, ⟨?_, ?_⟩, rfl⟩
    · refine h.heap.of_shrink rfl fun sym' => ?_
      rcases eq_or_ne sym' sym with rfl | hs
      · simp [removeAt]
      · simp [Function.update_noteq hs]
    · have hv := view_unsubscribe h.heap (h.registry.nodup sym) hi
      rw [hch] at hv
      convert h.registry.unsubscribe hmem using 1

theorem Inv.subscribe (h : sv.Inv) (sym : Symbol) : (sv.subscribe P sym).2.Inv := by
  refine ⟨h.heap.subscribe P sym, ?_⟩
  rw [view_subscribe P h.heap, subscribe_closed, subscribe_nextChan]
  exact h.registry.subscribe sym

end Refinement

/-- A step that leaves the slices, the heap and the channels as they were. -/
def SameHeap (sv sv' : Service) : Prop :=
  sv'.subscribers = sv.subscribers ∧ sv'.arrays = sv.arrays ∧ sv'.closed = sv.closed ∧
    sv'.nextArray = sv.nextArray ∧ sv'.nextChan = sv.nextChan

theorem Inv.of_sameHeap {sv sv' : Service} (h : sv.Inv) (hs : SameHeap sv sv') : sv'.Inv := by
  obtain ⟨h1, h2, h3, h4, h5⟩ := hs
  have hv : sv'.view = sv.view := funext fun sym => by simp [view, h1, h2]
  exact ⟨h.heap.of_shrink h4 fun sym => by simp [h1], by rw [hv, h3, h5]; exact h.registry⟩

theorem newService_inv : newService.Inv where
  heap := ⟨fun _ => le_rfl, fun _ h => absurd h (lt_irrefl 0), fun _ _ h => absurd h (lt_irrefl 0)⟩
  registry := by
    have hv : newService.view = fun _ => [] := rfl
    rw [hv]
    exact ⟨fun _ => List.nodup_nil, fun _ _ _ _ h => absurd h (List.not_mem_nil _),
      fun _ _ h => absurd h (List.not_mem_nil _), fun _ _ h => absurd h (List.not_mem_nil _),
      fun _ _ => rfl⟩

/-- One iteration of a loop in flight either panics on a closed channel that the goroutine's copy
    holds, or changes buffers and goroutines only, each goroutine keeping its copy. -/
theorem sendNext_cases (sv : Service) (k : ℕ) :
    (sv.sendNext k = .error .sendOnClosedChannel ∧
      ∃ snd ∈ sv.senders, ∃ c ∈ readSlice sv.arrays snd.subscribers, sv.closed c = true) ∨
    ∃ sv', sv.sendNext k = .ok sv' ∧ SameHeap sv sv' ∧
      ∀ snd' ∈ sv'.senders, ∃ snd ∈ sv.senders, snd'.subscribers = snd.subscribers := by
  unfold sendNext
  split
  · exact .inr ⟨sv, rfl, ⟨rfl, rfl, rfl, rfl, rfl⟩, fun snd h => ⟨snd, h, rfl⟩⟩
  · next snd hk =>
    have hmem : snd ∈ sv.senders := List.getElem?_mem hk
    have hset : ∀ snd' ∈ sv.senders.set k { snd with next := snd.next + 1 },
        ∃ snd ∈ sv.senders, snd'.subscribers = snd.subscribers := fun snd' h' =>
      (List.mem_or_eq_of_mem_set h').elim (fun h => ⟨snd', h, rfl⟩) fun h => ⟨snd, hmem, h ▸ rfl⟩
    split_ifs with hnext
    · unfold trySend
      split_ifs with h0 hc hbuf
      · exact .inr ⟨_, rfl, ⟨rfl, rfl, rfl, rfl, rfl⟩, hset⟩
      · exact .inl ⟨rfl, snd, hmem, _, List.mem_map_of_mem _ (List.mem_range.2 hnext), hc⟩
      · exact .inr ⟨_, rfl, ⟨rfl, rfl, rfl, rfl, rfl⟩, hset⟩
      · exact .inr ⟨_, rfl, ⟨rfl, rfl, rfl, rfl, rfl⟩, hset⟩
    · exact .inr ⟨_, rfl, ⟨rfl, rfl, rfl, rfl, rfl⟩,
        fun snd' h' => ⟨snd', List.mem_of_mem_eraseIdx h', rfl⟩⟩

end Service

/-- Whether an action is an `Unsubscribe`. -/
def Action.isUnsubscribe : Action → Bool
  | .unsubscribe _ _ => true
  | _ => false

/-- Whether every `Unsubscribe` of a schedule runs while no `updateQuote` is between its copy and
    its last send. -/
def quiet (P : GrowthPolicy) : Service → List Action → Bool
  | _, [] => true
  | sv, a :: as =>
    (!a.isUnsubscribe || sv.senders.isEmpty) &&
      match step P sv a with
      | .ok sv' => quiet P sv' as
      | .error _ => true

/-- `append` doubling the capacity, as `growslice` does for slices of pointers shorter than 256. -/
def doubling : GrowthPolicy := ⟨fun newLen oldCap => max newLen (2 * oldCap), fun _ _ => le_max_left _ _⟩

/-! ## Runs -/

open Service

section Run

variable (P : GrowthPolicy)

/-- A step keeps the invariant, unless it is a send that panics. -/
theorem Service.Inv.step {sv : Service} (h : sv.Inv) (a : Action) :
    (∃ sv', step P sv a = .ok sv' ∧ sv'.Inv) ∨ step P sv a = .error .sendOnClosedChannel := by
  cases a with
  | subscribe sym => exact .inl ⟨_, rfl, h.subscribe P sym⟩
  | unsubscribe sym ch =>
    obtain ⟨sv', hs, h', -⟩ := h.unsubscribe sym ch
    exact .inl ⟨sv', hs, h'⟩
  | updateQuote q => exact .inl ⟨_, rfl, h.of_sameHeap ⟨rfl, rfl, rfl, rfl, rfl⟩⟩
  | send k =>
    rcases sendNext_cases sv k with ⟨hs, -⟩ | ⟨sv', hs, hsame, -⟩
    · exact .inr hs
    · exact .inl ⟨sv', hs, h.of_sameHeap hsame⟩
  | receive ch => exact .inl ⟨_, rfl, h.of_sameHeap ⟨rfl, rfl, rfl, rfl, rfl⟩⟩

theorem run_ne_closeOfClosedChannel {sv : Service} (h : sv.Inv) (acts : List Action) :
    run P sv acts ≠ .error .closeOfClosedChannel := by
  induction acts generalizing sv with
  | nil => simp [run]
  | cons a as ih =>
    rcases h.step P a with ⟨sv', hs, h'⟩ | hs
    · simp only [run, hs]
      exact ih h'
    · simp [run, hs]

/-- In every interleaving of `Subscribe`, `Unsubscribe` and the steps of `updateQuote`,
    `Unsubscribe` never closes a closed channel. -/
theorem run_no_double_close (acts : List Action) :
    run P newService acts ≠ .error .closeOfClosedChannel :=
  run_ne_closeOfClosedChannel P newService_inv acts

/-! ### Sends that no `Unsubscribe` overtakes -/

/-- The `updateQuote` goroutines in flight read open channels: their copies hold open channels,
    on arrays allocated before `nextArray`, and no copy is longer than the slice of the service
    that still has its array. -/
structure Service.SendersInv (sv : Service) : Prop where
  copy_open : ∀ snd ∈ sv.senders, ∀ c ∈ readSlice sv.arrays snd.subscribers, sv.closed c = false
  array_lt : ∀ snd ∈ sv.senders, 0 < snd.subscribers.len → snd.subscribers.array < sv.nextArray
  len_le : ∀ snd ∈ sv.senders, ∀ sym, 0 < (sv.subscribers sym).cap →
    (sv.subscribers sym).array = snd.subscribers.array →
      snd.subscribers.len ≤ (sv.subscribers sym).len

theorem Service.SendersInv.of_sameHeap {sv sv' : Service} (h : sv.SendersInv)
    (hs : SameHeap sv sv')
    (hsub : ∀ snd' ∈ sv'.senders, ∃ snd ∈ sv.senders, snd'.subscribers = snd.subscribers) :
    sv'.SendersInv := by
  obtain ⟨h1, h2, h3, h4, -⟩ := hs
  refine ⟨fun snd' hm => ?_, fun snd' hm => ?_, fun snd' hm => ?_⟩ <;>
    obtain ⟨snd, hm, he⟩ := hsub snd' hm <;> rw [he]
  · rw [h2, h3]; exact h.copy_open snd hm
  · rw [h4]; exact h.array_lt snd hm
  · rw [h1]; exact h.len_le snd hm

/-- `Subscribe` writes no element of a copy in flight: it writes past the copy's length on a
    shared array, or on a new array. -/
theorem Service.SendersInv.subscribe {sv : Service} (h : sv.SendersInv) (sym : Symbol) : (sv.subscribe P sym).2.SendersInv := by
  obtain ⟨-, hcase⟩ := append_fst P sv (sv.subscribers sym) sv.nextChan
  set t := sv.append P (sv.subscribers sym) sv.nextChan
  have hsub : (sv.subscribe P sym).2.subscribers = Function.update sv.subscribers sym t.1 := by
    show Function.update t.2.subscribers sym t.1 = _
    rw [append_subscribers]
  have hread : ∀ snd ∈ sv.senders,
      readSlice t.2.arrays snd.subscribers = readSlice sv.arrays snd.subscribers := fun snd hm =>
    readSlice_append_of P sv _ _ (fun hlt ha => h.len_le snd hm sym (by omega) ha.symm)
      (h.array_lt snd hm)
  have hna : sv.nextArray ≤ t.2.nextArray := by
    rcases hcase with ⟨-, -, -, hn⟩ | ⟨-, hn⟩ <;> omega
  refine ⟨fun snd hm c hc => ?_, fun snd hm hl => ?_, fun snd hm s1 hc ha => ?_⟩
  · rw [subscribe_senders] at hm
    rw [subscribe_closed]
    exact h.copy_open snd hm c (hread snd hm ▸ hc)
  · rw [subscribe_senders] at hm
    exact lt_of_lt_of_le (h.array_lt snd hm hl) hna
  · rw [subscribe_senders] at hm
    rw [hsub, Function.update_apply] at hc ha ⊢
    split_ifs at hc ha ⊢ with h1
    · subst h1
      rcases hcase with ⟨ha', hc', hpos, -⟩ | ⟨ha', -⟩
      · have := h.len_le snd hm s1 hpos (ha' ▸ ha)
        have : t.1.len = (sv.subscribers s1).len + 1 := by
          simp only [t, append]; split_ifs <;> rfl
        omega
      · by_contra hgt
        exact (h.array_lt snd hm (by omega)).ne (ha' ▸ ha).symm
    · exact h.len_le snd hm s1 hc ha

/-- A new copy holds the subscribers, which are open, and is as long as the slice it copies. -/
theorem Service.SendersInv.updateQuote {sv : Service} (hi : sv.Inv) (h : sv.SendersInv)
    (q : Quote) : (sv.updateQuote q).SendersInv := by
  have hnew : ∀ snd ∈ (sv.updateQuote q).senders, snd ∈ sv.senders ∨
      snd = ⟨q, sv.subscribers q.symbol, 0⟩ := by
    simp [Service.updateQuote]
  have hl := hi.heap.len_le_cap q.symbol
  refine ⟨fun snd hm => ?_, fun snd hm => ?_, fun snd hm => ?_⟩ <;>
    rcases hnew snd hm with hm | rfl
  · exact h.copy_open snd hm
  · exact hi.registry.subscribed_open q.symbol
  · exact h.array_lt snd hm
  · exact fun hlen => hi.heap.array_lt q.symbol
      (by have : 0 < (sv.subscribers q.symbol).len := hlen; omega)
  · exact h.len_le snd hm
  · intro sym hc ha
    by_cases hlen : (sv.subscribers q.symbol).len = 0
    · simp [hlen]
    · obtain rfl := hi.heap.array_inj sym q.symbol hc (by omega) ha
      exact le_rfl

/-- A step of a schedule in which `Unsubscribe` waits for the goroutines in flight keeps both
    invariants and never panics. -/
theorem step_quiet {sv : Service} (hi : sv.Inv) (h : sv.SendersInv) {a : Action}
    (ha : a.isUnsubscribe = true → sv.senders = []) :
    ∃ sv', step P sv a = .ok sv' ∧ sv'.Inv ∧ sv'.SendersInv := by
  cases a with
  | subscribe sym => exact ⟨_, rfl, hi.subscribe P sym, h.subscribe P sym⟩
  | unsubscribe sym ch =>
    obtain ⟨sv', hs, hi', hsend⟩ := hi.unsubscribe sym ch
    have hnil : sv'.senders = [] := hsend.trans (ha rfl)
    exact ⟨sv', hs, hi', ⟨by simp [hnil], by simp [hnil], by simp [hnil]⟩⟩
  | updateQuote q => exact ⟨_, rfl, hi.of_sameHeap ⟨rfl, rfl, rfl, rfl, rfl⟩, h.updateQuote hi q⟩
  | send k =>
    rcases sendNext_cases sv k with ⟨-, snd, hm, c, hc, hclosed⟩ | ⟨sv', hs, hsame, hsub⟩
    · exact absurd (h.copy_open snd hm c hc) (by simp [hclosed])
    · exact ⟨sv', hs, hi.of_sameHeap hsame, h.of_sameHeap hsame hsub⟩
  | receive ch =>
    exact ⟨_, rfl, hi.of_sameHeap ⟨rfl, rfl, rfl, rfl, rfl⟩,
      h.of_sameHeap ⟨rfl, rfl, rfl, rfl, rfl⟩ fun snd hm => ⟨snd, hm, rfl⟩⟩

theorem run_ok_of_quiet_from {sv : Service} (hi : sv.Inv) (h : sv.SendersInv) (acts : List Action)
    (hq : quiet P sv acts = true) : ∃ sv', run P sv acts = .ok sv' := by
  induction acts generalizing sv with
  | nil => exact ⟨sv, rfl⟩
  | cons a as ih =>
    simp only [quiet, Bool.and_eq_true, Bool.or_eq_true, Bool.not_eq_true', List.isEmpty_iff] at hq
    obtain ⟨hq1, hq2⟩ := hq
    obtain ⟨sv', hs, hi', h'⟩ :=
      step_quiet P hi h fun (hu : a.isUnsubscribe = true) => hq1.resolve_left (by simp [hu])
    rw [hs] at hq2
    obtain ⟨sv'', hr⟩ := ih hi' h' hq2
    exact ⟨sv'', by simp [run, hs, hr]⟩

/-- When no `Unsubscribe` runs while an `updateQuote` is between its copy of the subscribers and
    its last send, no step panics. -/
theorem run_ok_of_quiet (acts : List Action) (hq : quiet P newService acts = true) :
    ∃ sv, run P newService acts = .ok sv :=
  run_ok_of_quiet_from P newService_inv ⟨by simp [newService], by simp [newService],
    by simp [newService]⟩ acts hq

/-- The schedule of `updateQuote_sends_on_closed` with the `Unsubscribe` after the last send of
    the `updateQuote`: it is quiet, and the run returns. -/
theorem run_ok_of_quiet_unsubscribe_last :
    quiet doubling newService [.subscribe symbolBTCUSD, .updateQuote ⟨symbolBTCUSD, 99, 100⟩,
        .send 0, .send 0, .unsubscribe symbolBTCUSD 1] = true ∧
      ∃ sv, run doubling newService [.subscribe symbolBTCUSD,
        .updateQuote ⟨symbolBTCUSD, 99, 100⟩, .send 0, .send 0, .unsubscribe symbolBTCUSD 1] =
          .ok sv :=
  ⟨rfl, run_ok_of_quiet doubling _ rfl⟩

end Run

/-- A websocket handler subscribes to BTC-USD and gets channel 1; `updateQuote` copies the slice
    `[1]`; the handler's deferred `Unsubscribe` removes and closes channel 1; the `updateQuote`
    then sends on channel 1 and panics. -/
theorem updateQuote_sends_on_closed (P : GrowthPolicy) :
    run P newService [.subscribe symbolBTCUSD, .updateQuote ⟨symbolBTCUSD, 99, 100⟩,
      .unsubscribe symbolBTCUSD 1, .send 0] = .error .sendOnClosedChannel := by
  rfl

end Quotes

end MicroCoin
