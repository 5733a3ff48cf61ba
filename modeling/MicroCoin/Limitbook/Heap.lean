import MicroCoin.Models
import Mathlib.Data.List.GetD

/-!
# `internal/limitbook/heap.go`

The book holds its orders and price levels through Go pointers: a level's queue is a
slice of `*Order`, and the same `*PriceLevel` sits both in a side's `levels` map and in
its `PriceHeap`. `Mem` is the part of the Go heap these objects live in: a pointer is a
natural number, and `Mem.order`, `Mem.level` read the object it points to.

`PriceHeap` is driven by `container/heap`. The book only ever calls `heap.Push` (never
`Pop`, `Remove` or `Fix`), which appends and then sifts the new element up with
`PriceHeap.Less`. `NewPriceHeap(isBid)` ignores `isBid`, and `Less` compares
`h[i].Price.LessThan(h[j].Price)` on both sides: every heap is a min-heap on price.
-/

namespace MicroCoin

/-- A Go pointer. -/
abbrev Ptr := ℕ

/-- `limitbook.PriceLevel` (`orderbook.go`, lines 28–32). `orders` is the contents of the
    slice `Orders`. -/
structure PriceLevel where
  price : Decimal
  orders : List Ptr
  deriving DecidableEq, Repr, Inhabited

/-- The objects of `package limitbook` on the Go heap, the allocator (`next` is the next
    fresh pointer) and the source of `uuid.New()` (`freshUuid` is the next one). -/
structure Mem where
  order : Ptr → Order
  level : Ptr → PriceLevel
  next : Ptr
  freshUuid : UUID

namespace Mem

/-- A memory holding the orders `os` at pointers `0, 1, …` and no level. -/
def ofOrders (os : List Order) : Mem := ⟨fun p => os.getD p default, fun _ => default, os.length, 0⟩

/-- `*p = o` for an order pointer. -/
def setOrder (m : Mem) (p : Ptr) (o : Order) : Mem :=
  { m with order := fun q => if q = p then o else m.order q }

/-- `*l = v` for a level pointer. -/
def setLevel (m : Mem) (l : Ptr) (v : PriceLevel) : Mem :=
  { m with level := fun q => if q = l then v else m.level q }

/-- `uuid.New()`: never `uuid.Nil`. -/
def newUuid (m : Mem) : UUID × Mem := (m.freshUuid + 1, { m with freshUuid := m.freshUuid + 1 })

/-- `&v`: a fresh pointer to a new level. -/
def allocLevel (m : Mem) (v : PriceLevel) : Ptr × Mem :=
  (m.next, { m with next := m.next + 1 }.setLevel m.next v)

/-- `&o`: a fresh pointer to a new order. -/
def allocOrder (m : Mem) (o : Order) : Ptr × Mem :=
  (m.next, { m with next := m.next + 1 }.setOrder m.next o)

@[simp] theorem setOrder_order (m : Mem) (p q : Ptr) (o : Order) :
    (m.setOrder p o).order q = if q = p then o else m.order q := rfl

@[simp] theorem setOrder_level (m : Mem) (p : Ptr) (o : Order) :
    (m.setOrder p o).level = m.level := rfl

@[simp] theorem setOrder_next (m : Mem) (p : Ptr) (o : Order) :
    (m.setOrder p o).next = m.next := rfl

@[simp] theorem setOrder_freshUuid (m : Mem) (p : Ptr) (o : Order) :
    (m.setOrder p o).freshUuid = m.freshUuid := rfl

@[simp] theorem setLevel_level (m : Mem) (l q : Ptr) (v : PriceLevel) :
    (m.setLevel l v).level q = if q = l then v else m.level q := rfl

@[simp] theorem setLevel_order (m : Mem) (l : Ptr) (v : PriceLevel) :
    (m.setLevel l v).order = m.order := rfl

@[simp] theorem setLevel_next (m : Mem) (l : Ptr) (v : PriceLevel) :
    (m.setLevel l v).next = m.next := rfl

@[simp] theorem setLevel_freshUuid (m : Mem) (l : Ptr) (v : PriceLevel) :
    (m.setLevel l v).freshUuid = m.freshUuid := rfl

@[simp] theorem newUuid_order (m : Mem) : m.newUuid.2.order = m.order := rfl

@[simp] theorem newUuid_level (m : Mem) : m.newUuid.2.level = m.level := rfl

@[simp] theorem newUuid_next (m : Mem) : m.newUuid.2.next = m.next := rfl

@[simp] theorem allocLevel_fst (m : Mem) (v : PriceLevel) : (m.allocLevel v).1 = m.next := rfl

@[simp] theorem allocLevel_order (m : Mem) (v : PriceLevel) :
    (m.allocLevel v).2.order = m.order := rfl

@[simp] theorem allocLevel_level (m : Mem) (v : PriceLevel) (q : Ptr) :
    (m.allocLevel v).2.level q = if q = m.next then v else m.level q := rfl

@[simp] theorem allocLevel_next (m : Mem) (v : PriceLevel) :
    (m.allocLevel v).2.next = m.next + 1 := rfl

@[simp] theorem allocOrder_fst (m : Mem) (o : Order) : (m.allocOrder o).1 = m.next := rfl

@[simp] theorem allocOrder_order (m : Mem) (o : Order) (q : Ptr) :
    (m.allocOrder o).2.order q = if q = m.next then o else m.order q := rfl

@[simp] theorem allocOrder_level (m : Mem) (o : Order) :
    (m.allocOrder o).2.level = m.level := rfl

@[simp] theorem allocOrder_next (m : Mem) (o : Order) :
    (m.allocOrder o).2.next = m.next + 1 := rfl

/-- Writing back the level a pointer holds changes nothing. -/
@[simp] theorem setLevel_self (m : Mem) (l : Ptr) : m.setLevel l (m.level l) = m := by
  cases m
  simp only [setLevel, mk.injEq, and_true, true_and]
  funext q
  split <;> simp_all

end Mem

/-! ## `container/heap` on `PriceHeap` -/

/-- `h.Swap(i, j)`. -/
def swap (h : List Ptr) (i j : ℕ) : List Ptr := (h.set i (h.getD j 0)).set j (h.getD i 0)

/-- `up(h, j)` of `container/heap`, with `PriceHeap.Less(j, i)` =
    `h[j].Price.LessThan(h[i].Price)`, for at most `fuel` iterations:
    ```
    for {
        i := (j - 1) / 2 // parent
        if i == j || !h.Less(j, i) { break }
        h.Swap(i, j)
        j = i
    }
    ```
    Go's `(0 - 1) / 2` truncates to `0`, as `ℕ` subtraction does. -/
def up (price : Ptr → Decimal) : ℕ → List Ptr → ℕ → List Ptr
  | 0, h, _ => h
  | fuel + 1, h, j =>
    let i := (j - 1) / 2
    if i = j ∨ !(price (h.getD j 0)).lessThan (price (h.getD i 0)) then h
    else up price fuel (swap h i j) i

/-- `heap.Push(h, x)`: `h.Push(x)` appends, then `up(h, h.Len()-1)`. Each iteration of
    `up` halves `j`, so `h.Len()` iterations are enough. -/
def push (price : Ptr → Decimal) (h : List Ptr) (x : Ptr) : List Ptr :=
  up price (h.length + 1) (h ++ [x]) h.length

@[simp] theorem length_swap (h : List Ptr) (i j : ℕ) : (swap h i j).length = h.length := by
  simp [swap]

/-- `Swap` only moves elements of the heap. -/
theorem mem_of_mem_swap {h : List Ptr} {i j : ℕ} (hi : i < h.length) (hj : j < h.length) {x : Ptr}
    (hx : x ∈ swap h i j) : x ∈ h := by
  rcases List.mem_or_eq_of_mem_set hx with hx | rfl
  · rcases List.mem_or_eq_of_mem_set hx with hx | rfl
    · exact hx
    · exact List.getD_eq_getElem _ _ hj ▸ List.getElem_mem hj
  · exact List.getD_eq_getElem _ _ hi ▸ List.getElem_mem hi

/-- Sifting up only moves elements of the heap. -/
theorem mem_of_mem_up (price : Ptr → Decimal) :
    ∀ (fuel : ℕ) (h : List Ptr) (j : ℕ), j < h.length → ∀ x ∈ up price fuel h j, x ∈ h
  | 0, _, _, _, _, hx => hx
  | fuel + 1, h, j, hj, x, hx => by
    simp only [up] at hx
    split at hx
    · exact hx
    · have hi : (j - 1) / 2 < h.length := by omega
      exact mem_of_mem_swap hi hj
        (mem_of_mem_up price fuel _ _ (by rwa [length_swap]) x hx)

/-- `heap.Push(h, y)` holds `y` and the elements of `h`, and nothing else. -/
theorem mem_of_mem_push {price : Ptr → Decimal} {h : List Ptr} {x y : Ptr}
    (hx : x ∈ push price h y) : x = y ∨ x ∈ h := by
  have := mem_of_mem_up price _ _ _ (by simp) x hx
  rw [List.mem_append, List.mem_singleton] at this
  exact this.symm

end MicroCoin
