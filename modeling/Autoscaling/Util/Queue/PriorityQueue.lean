import Autoscaling.Lib.Heap
import Autoscaling.Lib.Go
import Autoscaling.Lib.Transition

/-!
# A priority queue with stable handles (`pkg/util/queue/priorityqueue.go`)

`PriorityQueue[T]` wraps `container/heap` around a slice of pointers to items, each item
knowing its index in the slice so that a handle to it can change its value and restore the heap
(`ItemHandle.Update`); an item that has left the queue has index `-1`, and updating it panics.

Go's pointers are modelled by a store of the items allocated so far: a pointer is a position in
`items`, which only grows. A handle is such a pointer (the model has one queue, so the handle's
pointer to the queue is left out).

The queue refines a finite map from handles to values, `entry`: `Push` adds a fresh handle,
`Pop` removes the handle `Peek` reads, `Update` changes the value of a handle still there, and
the swaps of `container/heap` change nothing. `Consistent` is what makes that so: each item
in the heap has its index there, and every other item has `-1`.
-/

namespace Autoscaling.Util.Queue

open Go

/-- `item[T]`: a value, and its index in the heap (`-1` once it has left it). -/
structure Item (T : Type) where
  v : T
  index : Int
deriving DecidableEq, Repr

/-- `innerQueue[T]`, with the items allocated so far. -/
structure InnerQueue (T : Type) where
  values : List Nat
  items : List (Item T)
  less : T → T → Bool

namespace InnerQueue

variable {T : Type} (q : InnerQueue T)

/-- The value of the item at index `i` of the heap. -/
def valueAt (i : Nat) : Option T := do
  let p ← q.values[i]?
  let it ← q.items[p]?
  pure it.v

/-- `q.Len()`. -/
def len : Nat := q.values.length

/-- `q.Less(i, j)`; `container/heap` asks only about indices in the heap. -/
def lessAt (i j : Nat) : Bool :=
  match q.valueAt i, q.valueAt j with
  | some a, some b => q.less a b
  | _, _ => false

/-- `q.Swap(i, j)`: the two pointers exchanged, and each item told its new index. -/
def swap (i j : Nat) : InnerQueue T :=
  match q.values[i]?, q.values[j]? with
  | some pi, some pj =>
    { q with
      values := (q.values.set i pj).set j pi
      items := (q.items.modify pj fun it => { it with index := i }).modify pi
        fun it => { it with index := j } }
  | _, _ => q

/-- `q.Push(x)` for the item at pointer `p`: told its index, and appended. -/
def pushItem (p : Nat) : InnerQueue T :=
  { q with
    values := q.values ++ [p]
    items := q.items.modify p fun it => { it with index := q.len } }

/-- `q.Pop()`: the last pointer removed, its item told that it has left. -/
def popItem : Option Nat × InnerQueue T :=
  match q.values.getLast? with
  | none => (none, q)
  | some p =>
    (some p, { q with
      values := q.values.dropLast
      items := q.items.modify p fun it => { it with index := -1 } })

/-- A new item of value `v` and index `-1`, allocated at the next pointer. -/
def alloc (v : T) : InnerQueue T := { q with items := q.items ++ [⟨v, -1⟩] }

/-- The item at pointer `p` given the value `v`, in place. -/
def setValue (p : Nat) (v : T) : InnerQueue T :=
  { q with items := q.items.modify p fun it => { it with v } }

/-- The queue as `container/heap` sees it. -/
def heap : Heap.Interface (InnerQueue T) := ⟨len, lessAt, swap⟩

/-- The value of each pointer in the heap. -/
def entry (p : Nat) : Option T :=
  if p ∈ q.values then (q.items[p]?).map (·.v) else none

/-- The items know their places: each pointer in the heap is allocated and its item has its
index there, and every other allocated item has index `-1`. -/
structure Consistent : Prop where
  allocated : ∀ p ∈ q.values, p < q.items.length
  placed : ∀ i p : Nat, q.values[i]? = some p → (q.items[p]?).map (·.index) = some (i : Int)
  removed : ∀ p it, p ∉ q.values → q.items[p]? = some it → it.index = -1

variable {q}

theorem Consistent.stored (c : q.Consistent) {p : Nat} (member : p ∈ q.values) :
    ∃ it, q.items[p]? = some it :=
  ⟨_, List.getElem?_eq_getElem (c.allocated p member)⟩

/-- An item in the heap has its own index there. -/
theorem Consistent.index_of_mem (c : q.Consistent) {p : Nat} {it : Item T} (member : p ∈ q.values)
    (stored : q.items[p]? = some it) : ∃ i : Nat, q.values[i]? = some p ∧ it.index = i := by
  obtain ⟨i, found⟩ := List.mem_iff_getElem?.mp member
  have := c.placed i p found
  rw [stored, Option.map_some, Option.some_inj] at this
  exact ⟨i, found, this⟩

/-- A pointer is at one index of the heap only. -/
theorem Consistent.index_inj (c : q.Consistent) {i j p : Nat} (atI : q.values[i]? = some p)
    (atJ : q.values[j]? = some p) : i = j := by
  have := (c.placed i p atI).symm.trans (c.placed j p atJ)
  simpa using this

/-- Telling an item its index changes no value. -/
theorem value_reindex (items : List (Item T)) (p p' : Nat) (n : Int) :
    ((items.modify p fun it => { it with index := n })[p']?).map (·.v) =
      (items[p']?).map (·.v) := by
  rw [List.getElem?_modify]
  cases items[p']? with
  | none => rfl
  | some it => simp only [Functor.map, Option.map_some]; split_ifs <;> rfl

@[simp] theorem v_reindex (n : Int) :
    ((fun it : Item T => it.v) ∘ fun it : Item T => { it with index := n }) = fun it => it.v :=
  rfl

/-! ### `Swap` -/

variable {i j : Nat}

theorem swap_values (hi : i < q.values.length) (hj : j < q.values.length) (k : Nat) :
    (q.swap i j).values[k]? =
      if k = j then q.values[i]? else if k = i then q.values[j]? else q.values[k]? := by
  have atI : q.values[i]? = some q.values[i] := List.getElem?_eq_getElem hi
  have atJ : q.values[j]? = some q.values[j] := List.getElem?_eq_getElem hj
  simp only [swap, atI, atJ, List.getElem?_set, List.length_set]
  by_cases kj : k = j
  · subst kj
    simp [hj]
  · by_cases ki : k = i
    · subst ki
      simp [Ne.symm kj, kj, hi]
    · simp [Ne.symm kj, Ne.symm ki, kj, ki]

theorem swap_mem (hi : i < q.values.length) (hj : j < q.values.length) (p : Nat) :
    p ∈ (q.swap i j).values ↔ p ∈ q.values := by
  simp only [List.mem_iff_getElem?, swap_values hi hj]
  constructor
  · rintro ⟨k, found⟩
    split_ifs at found
    · exact ⟨i, found⟩
    · exact ⟨j, found⟩
    · exact ⟨k, found⟩
  · rintro ⟨k, found⟩
    by_cases ki : k = i
    · subst ki
      exact ⟨j, by simp [found]⟩
    · by_cases kj : k = j
      · subst kj
        exact ⟨i, by simp [Ne.symm ki, found]⟩
      · exact ⟨k, by simp [ki, kj, found]⟩

theorem swap_item_value (p : Nat) :
    ((q.swap i j).items[p]?).map (·.v) = (q.items[p]?).map (·.v) := by
  unfold swap
  split
  · simp only [value_reindex]
  · rfl

theorem swap_entry (hi : i < q.values.length) (hj : j < q.values.length) :
    (q.swap i j).entry = q.entry := by
  funext p
  simp only [entry, swap_mem hi hj, swap_item_value]

@[simp] theorem swap_length : (q.swap i j).values.length = q.values.length := by
  unfold swap
  split <;> simp

@[simp] theorem swap_less : (q.swap i j).less = q.less := by
  unfold swap
  split <;> rfl

@[simp] theorem swap_items_length : (q.swap i j).items.length = q.items.length := by
  unfold swap
  split <;> simp

theorem Consistent.swap (c : q.Consistent) (hi : i < q.values.length) (hj : j < q.values.length) :
    (q.swap i j).Consistent := by
  have atI : q.values[i]? = some q.values[i] := List.getElem?_eq_getElem hi
  have atJ : q.values[j]? = some q.values[j] := List.getElem?_eq_getElem hj
  -- the items of the two pointers swapped are told their new indices; no other item changes
  have items : ∀ p, (q.swap i j).items[p]? = (q.items[p]?).map fun it =>
      if q.values[i] = p then { it with index := j }
      else if q.values[j] = p then { it with index := i } else it := by
    intro p
    simp only [InnerQueue.swap, atI, atJ, List.getElem?_modify]
    cases q.items[p]? with
    | none => rfl
    | some it => simp only [Functor.map, Option.map_some]; split_ifs <;> rfl
  constructor
  · intro p member
    rw [swap_items_length]
    exact c.allocated p ((swap_mem hi hj p).mp member)
  · intro k p found
    rw [swap_values hi hj] at found
    rw [items]
    split_ifs at found with kj ki
    · -- the pointer from `i` is now at `j`
      rw [atI] at found
      cases found
      simp [kj]
      rcases (Option.map_eq_some_iff.mp (c.placed i _ atI)) with ⟨it, stored, -⟩
      simp [stored]
    · rw [atJ] at found
      cases found
      have distinct : q.values[i] ≠ q.values[j] := fun same =>
        kj (ki ▸ c.index_inj atI (same ▸ atJ))
      rcases (Option.map_eq_some_iff.mp (c.placed j _ atJ)) with ⟨it, stored, -⟩
      simp [stored, distinct, ki]
    · -- any other pointer is at neither index, so its item keeps its index
      have notI : q.values[i] ≠ p := fun same => ki (c.index_inj found (same ▸ atI))
      have notJ : q.values[j] ≠ p := fun same => kj (c.index_inj found (same ▸ atJ))
      have := c.placed k p found
      rcases (Option.map_eq_some_iff.mp this) with ⟨it, stored, indexed⟩
      simp [stored, notI, notJ, indexed]
  · intro p it absent stored
    have absent' : p ∉ q.values := fun member => absent ((swap_mem hi hj p).mpr member)
    have notI : q.values[i] ≠ p := fun same => absent' (same ▸ List.getElem_mem hi)
    have notJ : q.values[j] ≠ p := fun same => absent' (same ▸ List.getElem_mem hj)
    rw [items] at stored
    simp only [notI, notJ, if_false, Option.map_id'] at stored
    exact c.removed p it absent' stored

/-! ### Allocating, pushing and popping an item -/

variable {p : Nat}

theorem Consistent.alloc (c : q.Consistent) (v : T) : (q.alloc v).Consistent := by
  constructor
  · intro p member
    simp only [InnerQueue.alloc, List.length_append, List.length_singleton]
    have := c.allocated p member
    omega
  · intro i p found
    have below := c.allocated p (List.mem_of_getElem? found)
    simp only [InnerQueue.alloc, List.getElem?_append_left below]
    exact c.placed i p found
  · intro p it absent stored
    simp only [InnerQueue.alloc] at stored
    by_cases below : p < q.items.length
    · rw [List.getElem?_append_left below] at stored
      exact c.removed p it absent stored
    · -- the only item past the old ones is the new one, of index `-1`
      rw [List.getElem?_append_right (by omega), List.getElem?_singleton] at stored
      split_ifs at stored
      cases stored
      rfl

theorem alloc_entry (c : q.Consistent) (v : T) : (q.alloc v).entry = q.entry := by
  funext p
  unfold entry
  by_cases member : p ∈ q.values
  · simp [InnerQueue.alloc, member, List.getElem?_append_left (c.allocated p member)]
  · simp [InnerQueue.alloc, member]

theorem alloc_item (v : T) : (q.alloc v).items[q.items.length]? = some ⟨v, -1⟩ := by
  simp [InnerQueue.alloc]

theorem Consistent.pushItem (c : q.Consistent) (allocated : p < q.items.length)
    (fresh : p ∉ q.values) : (q.pushItem p).Consistent := by
  constructor
  · intro p' member
    simp only [InnerQueue.pushItem, List.mem_append, List.mem_singleton] at member
    simp only [InnerQueue.pushItem, List.length_modify]
    rcases member with old | rfl
    · exact c.allocated p' old
    · exact allocated
  · intro i p' found
    simp only [InnerQueue.pushItem] at found ⊢
    by_cases below : i < q.values.length
    · -- an old pointer, which is not the pushed one
      rw [List.getElem?_append_left below] at found
      have other : p ≠ p' := fun same => fresh (same ▸ List.mem_of_getElem? found)
      rw [List.getElem?_modify_ne _ _ other]
      exact c.placed i p' found
    · rw [List.getElem?_append_right (by omega), List.getElem?_singleton] at found
      split_ifs at found with last
      cases found
      obtain ⟨it, stored⟩ : ∃ it, q.items[p]? = some it :=
        ⟨_, List.getElem?_eq_getElem allocated⟩
      simp [stored, len]
      omega
  · intro p' it absent stored
    simp only [InnerQueue.pushItem, List.mem_append, List.mem_singleton, not_or] at absent stored
    rw [List.getElem?_modify_ne _ _ (Ne.symm absent.2)] at stored
    exact c.removed p' it absent.1 stored

theorem pushItem_entry (fresh : p ∉ q.values) :
    (q.pushItem p).entry = Function.update q.entry p ((q.items[p]?).map (·.v)) := by
  funext p'
  by_cases same : p' = p
  · subst same
    simp [entry, InnerQueue.pushItem]
  · simp [entry, InnerQueue.pushItem, same, value_reindex]

/-- `Pop` of the collection, when its last pointer is `p`: the pointers before it stay. -/
theorem popItem_eq {ys : List Nat} (last : q.values = ys ++ [p]) :
    q.popItem = (some p, { q with
      values := ys
      items := q.items.modify p fun it => { it with index := -1 } }) := by
  simp [InnerQueue.popItem, last]

section PopItem

variable {ys : List Nat} (c : q.Consistent) (last : q.values = ys ++ [p])
include c last

/-- The pointer popped is in none of the places before it. -/
theorem Consistent.not_mem_front : p ∉ ys := by
  intro member
  obtain ⟨i, found⟩ := List.mem_iff_getElem?.mp member
  have atI : q.values[i]? = some p := by
    rw [last, List.getElem?_append_left ((List.getElem?_eq_some_iff.mp found).1)]
    exact found
  have atLast : q.values[ys.length]? = some p := by simp [last]
  have := c.index_inj atI atLast
  have : i < ys.length := (List.getElem?_eq_some_iff.mp found).1
  omega

theorem Consistent.popItem : q.popItem.2.Consistent := by
  rw [popItem_eq last]
  have front := c.not_mem_front last
  constructor
  · intro p' member
    simp only [List.length_modify]
    exact c.allocated p' (by simp [last, member])
  · intro i p' found
    have other : p ≠ p' := fun same => front (same ▸ List.mem_of_getElem? found)
    simp only [List.getElem?_modify_ne _ _ other]
    refine c.placed i p' ?_
    rw [last, List.getElem?_append_left ((List.getElem?_eq_some_iff.mp found).1)]
    exact found
  · intro p' it absent stored
    simp only at absent stored
    by_cases same : p' = p
    · -- the popped item is told it has left
      subst same
      obtain ⟨old, -, rfl⟩ := Option.map_eq_some_iff.mp
        (by simpa [List.getElem?_modify] using stored)
      rfl
    · rw [List.getElem?_modify_ne _ _ (Ne.symm same)] at stored
      exact c.removed p' it (by simp [last, absent, same]) stored

theorem popItem_entry : q.popItem.2.entry = Function.update q.entry p none := by
  rw [popItem_eq last]
  have front := c.not_mem_front last
  funext p'
  by_cases same : p' = p
  · subst same
    simp [entry, front]
  · simp [entry, last, same, value_reindex]

omit c in
/-- The item popped keeps its value. -/
theorem popItem_value : (q.popItem.2.items[p]?).map (·.v) = q.entry p := by
  rw [popItem_eq last]
  simp [entry, last]

end PopItem

/-! ### Changing a value -/

theorem Consistent.setValue (c : q.Consistent) (v : T) : (q.setValue p v).Consistent := by
  -- only the value changes, so every index stays what it was
  have index : ∀ p' : Nat,
      ((q.setValue p v).items[p']?).map (·.index) = (q.items[p']?).map (·.index) := by
    intro p'
    simp only [InnerQueue.setValue, List.getElem?_modify]
    cases q.items[p']? with
    | none => rfl
    | some it => simp only [Functor.map, Option.map_some]; split_ifs <;> rfl
  constructor
  · intro p' member
    simpa [InnerQueue.setValue] using c.allocated p' member
  · intro i p' found
    rw [index]
    exact c.placed i p' found
  · intro p' it absent stored
    have := index p'
    rw [stored] at this
    obtain ⟨old, stored', same⟩ := Option.map_eq_some_iff.mp this.symm
    simp only at same
    rw [← same]
    exact c.removed p' old absent stored'

theorem setValue_entry (c : q.Consistent) (member : p ∈ q.values) (v : T) :
    (q.setValue p v).entry = Function.update q.entry p (some v) := by
  funext p'
  by_cases same : p' = p
  · subst same
    obtain ⟨it, stored⟩ : ∃ it, q.items[p']? = some it :=
      ⟨_, List.getElem?_eq_getElem (c.allocated p' member)⟩
    simp [entry, InnerQueue.setValue, member, stored]
  · simp [entry, InnerQueue.setValue, List.getElem?_modify_ne _ _ (Ne.symm same), same]

/-! ### What `container/heap` does to the queue -/

/-- `q` is `q₀` with its pointers below `n` shuffled: what the swaps of `container/heap` among
those indices keep. -/
structure Reordered (q₀ q : InnerQueue T) (n : Nat) : Prop where
  consistent : q.Consistent
  entry : q.entry = q₀.entry
  length : q.values.length = q₀.values.length
  above : ∀ k, n ≤ k → q.values[k]? = q₀.values[k]?

theorem Reordered.refl (c : q.Consistent) (n : Nat) : Reordered q q n :=
  ⟨c, rfl, rfl, fun _ _ => rfl⟩

theorem Reordered.swap {q₀ : InnerQueue T} {n : Nat} (r : Reordered q₀ q n)
    (bound : n ≤ q₀.values.length) (lt : i < j) (below : j < n) :
    Reordered q₀ (q.swap i j) n := by
  have hi : i < q.values.length := by rw [r.length]; omega
  have hj : j < q.values.length := by rw [r.length]; omega
  refine ⟨r.consistent.swap hi hj, ?_, ?_, ?_⟩
  · rw [swap_entry hi hj, r.entry]
  · simp [r.length]
  · intro k above
    rw [swap_values hi hj, if_neg (by omega), if_neg (by omega)]
    exact r.above k above

theorem heap_push (c : q.Consistent) :
    Reordered q (Heap.push heap q) q.values.length :=
  Heap.push_keeps heap (Reordered q · q.values.length) q
    (fun _ _ _ lt below r => r.swap le_rfl lt below) (Reordered.refl c _)

theorem heap_fix (c : q.Consistent) (inRange : i < q.values.length) :
    Reordered q (Heap.fix heap q i) q.values.length :=
  Heap.fix_keeps heap (Reordered q · q.values.length) q i inRange
    (fun _ _ _ lt below r => r.swap le_rfl lt below) (Reordered.refl c _)

/-- `Pop` swaps the first pointer to the end and shuffles those before it. -/
theorem heap_pop (c : q.Consistent) (nonempty : 0 < q.values.length) :
    Reordered q (Heap.pop heap q) q.values.length ∧
      (Heap.pop heap q).values[q.values.length - 1]? = q.values[0]? := by
  have h0 : 0 < q.values.length := nonempty
  have hn : q.values.length - 1 < q.values.length := by omega
  -- after the first swap, `down` shuffles only the pointers before the last
  have shuffled : Reordered (q.swap 0 (q.values.length - 1)) (Heap.pop heap q)
      (q.values.length - 1) :=
    Heap.down_keeps heap (Reordered (q.swap 0 (q.values.length - 1)) · (q.values.length - 1))
      (fun _ _ _ lt below r => r.swap (by simp) lt below) _ 0
      (Reordered.refl (c.swap h0 hn) _)
  refine ⟨⟨shuffled.consistent, ?_, ?_, fun k above => ?_⟩, ?_⟩
  · rw [shuffled.entry, swap_entry h0 hn]
  · simp [shuffled.length]
  · have : q.values[k]? = none := List.getElem?_eq_none above
    rw [this]
    have : (Heap.pop heap q).values[k]? = none :=
      List.getElem?_eq_none (by simp [shuffled.length]; omega)
    exact this
  · rw [shuffled.above _ le_rfl, swap_values h0 hn, if_pos rfl]

/-! ### The heap order

`Less` compares the values at two indices. On a consistent queue every index of the heap holds
a value, so `Less` is a strict weak order on the indices where `less` is one on the values; and
a swap exchanges the values at two indices. The collection's own `Push`, `Pop` and setting of a
value leave the values at the other indices as they were. -/

theorem valueAt_eq (k : Nat) :
    q.valueAt k = q.values[k]?.bind fun p => (q.items[p]?).map (·.v) := by
  simp only [valueAt, Option.bind_eq_bind, Option.pure_def, Option.map_eq_bind]
  rfl

theorem lessAt_of_valueAt {a b : Nat} {x y : T} (atA : q.valueAt a = some x)
    (atB : q.valueAt b = some y) : q.lessAt a b = q.less x y := by
  simp [lessAt, atA, atB]

theorem lessAt_eq {q' : InnerQueue T} {a b : Nat} (sameA : q'.valueAt a = q.valueAt a)
    (sameB : q'.valueAt b = q.valueAt b) (less : q'.less = q.less) :
    q'.lessAt a b = q.lessAt a b := by
  simp only [lessAt, sameA, sameB, less]

/-- Queues that hold the same values below `n` compare the indices below `n` alike. -/
theorem lessAt_congr {q' : InnerQueue T} {n : Nat} (less : q'.less = q.less)
    (same : ∀ k, k < n → q'.valueAt k = q.valueAt k) :
    ∀ a b, a < n → b < n → q'.lessAt a b = q.lessAt a b :=
  fun _ _ ha hb => lessAt_eq (same _ ha) (same _ hb) less

theorem valueAt_swap (hi : i < q.values.length) (hj : j < q.values.length) (k : Nat) :
    (q.swap i j).valueAt k = q.valueAt (Equiv.swap i j k) := by
  simp only [valueAt_eq, swap_values hi hj, swap_item_value, Equiv.swap_apply_def]
  by_cases ki : k = i
  · subst ki
    by_cases kj : k = j
    · subst kj
      simp
    · simp [kj]
  · by_cases kj : k = j
    · subst kj
      simp [ki]
    · simp [ki, kj]

theorem lessAt_swap (hi : i < q.values.length) (hj : j < q.values.length) (a b : Nat) :
    (q.swap i j).lessAt a b = q.lessAt (Equiv.swap i j a) (Equiv.swap i j b) := by
  simp only [lessAt, valueAt_swap hi hj, swap_less]

@[simp] theorem heap_len : (heap : Heap.Interface (InnerQueue T)).len q = q.len := rfl

@[simp] theorem heap_less : (heap : Heap.Interface (InnerQueue T)).less q = q.lessAt := rfl

theorem heap_swapLawful : Heap.SwapLawful (heap : Heap.Interface (InnerQueue T)) :=
  ⟨fun _ _ _ _ _ => swap_length, fun _ _ _ hi hj => lessAt_swap hi hj⟩

theorem Consistent.valueAt_of_lt (c : q.Consistent) {k : Nat} (inRange : k < q.values.length) :
    ∃ v, q.valueAt k = some v := by
  have found : q.values[k]? = some q.values[k] := List.getElem?_eq_getElem inRange
  obtain ⟨it, stored⟩ := c.stored (List.getElem_mem inRange)
  exact ⟨it.v, by simp [valueAt_eq, found, stored]⟩

/-- Each value in the queue is at an index of the heap. -/
theorem valueAt_of_entry {p : Nat} {v : T} (live : q.entry p = some v) :
    ∃ k, k < q.values.length ∧ q.valueAt k = some v := by
  unfold entry at live
  split_ifs at live with member
  obtain ⟨k, found⟩ := List.mem_iff_getElem?.mp member
  exact ⟨k, (List.getElem?_eq_some_iff.mp found).1, by simp [valueAt_eq, found, live]⟩

/-- On a consistent queue, `Less` is a strict weak order on the indices where `less` is one on
the values. -/
theorem Consistent.strictWeakAt (c : q.Consistent)
    (order : IsStrictWeakOrder T fun a b => q.less a b = true) :
    Heap.StrictWeakAt heap q :=
  Heap.StrictWeakAt.of_values q.less q.valueAt (fun _ inRange => c.valueAt_of_lt inRange)
    (fun _ _ _ _ atA atB => lessAt_of_valueAt atA atB)

theorem Consistent.valueAt_pushItem (c : q.Consistent) (v : T) {k : Nat}
    (inRange : k < q.values.length) :
    ((q.alloc v).pushItem q.items.length).valueAt k = q.valueAt k := by
  obtain ⟨p, found⟩ : ∃ p, q.values[k]? = some p := ⟨_, List.getElem?_eq_getElem inRange⟩
  have below := c.allocated p (List.mem_of_getElem? found)
  simp only [valueAt_eq, InnerQueue.pushItem, InnerQueue.alloc, List.getElem?_append_left inRange, found,
    Option.bind_some, value_reindex, List.getElem?_append_left below]

theorem valueAt_popItem {ys : List Nat} (last : q.values = ys ++ [p]) {k : Nat}
    (inRange : k < ys.length) : q.popItem.2.valueAt k = q.valueAt k := by
  rw [popItem_eq last]
  simp only [valueAt_eq, value_reindex, last, List.getElem?_append_left inRange]

theorem valueAt_setValue {k : Nat} (other : q.values[k]? ≠ some p) (v : T) :
    (q.setValue p v).valueAt k = q.valueAt k := by
  simp only [valueAt_eq, setValue]
  cases found : q.values[k]? with
  | none => rfl
  | some p' =>
    have ne : p ≠ p' := fun same => other (same ▸ found)
    simp [List.getElem?_modify_ne _ _ ne]

@[simp] theorem popItem_less : q.popItem.2.less = q.less := by
  unfold popItem
  split <;> rfl

theorem heap_push_less : (Heap.push heap q).less = q.less :=
  Heap.push_keeps heap (·.less = q.less) q (fun _ _ _ _ _ kept => swap_less.trans kept) rfl

theorem heap_pop_less : (Heap.pop heap q).less = q.less :=
  Heap.down_keeps heap (·.less = q.less) (fun _ _ _ _ _ kept => swap_less.trans kept) _ 0
    swap_less

theorem heap_fix_less (inRange : i < q.values.length) : (Heap.fix heap q i).less = q.less :=
  Heap.fix_keeps heap (·.less = q.less) q i inRange (fun _ _ _ _ _ kept => swap_less.trans kept)
    rfl

end InnerQueue

/-- `PriorityQueue[T]`. -/
structure PriorityQueue (T : Type) where
  inner : InnerQueue T

/-- `ItemHandle[T]`, by the pointer to its item. -/
structure ItemHandle where
  item : Nat
deriving DecidableEq, Repr

namespace PriorityQueue

variable {T : Type}

/-- `New(sooner)`. -/
def new (sooner : T → T → Bool) : PriorityQueue T := ⟨⟨[], [], sooner⟩⟩

/-- `q.Len()`. -/
def len (q : PriorityQueue T) : Nat := q.inner.len

/-- `q.Push(value)`: a new item, pushed on the heap, and the handle to it. -/
def push (q : PriorityQueue T) (value : T) : PriorityQueue T × ItemHandle :=
  let p := q.inner.items.length
  (⟨Heap.push InnerQueue.heap ((q.inner.alloc value).pushItem p)⟩, ⟨p⟩)

/-- `q.Peek()`. -/
def peek (q : PriorityQueue T) : Option T := if q.len = 0 then none else q.inner.valueAt 0

/-- `q.Pop()`. -/
def pop (q : PriorityQueue T) : Option T × PriorityQueue T :=
  if q.len = 0 then (none, q)
  else
    match (Heap.pop InnerQueue.heap q.inner).popItem with
    | (some p, inner) => ((inner.items[p]?).map (·.v), ⟨inner⟩)
    | (none, inner) => (none, ⟨inner⟩)

/-- The panic of `Update` on an item that has left the queue. -/
def itemRemoved : String := "item has since been removed from the queue"

/-- `it.Update(update)`, for an update that may itself panic. -/
def update (q : PriorityQueue T) (it : ItemHandle) (f : T → Except String T) :
    Except String (PriorityQueue T) :=
  match q.inner.items[it.item]? with
  | none => throw itemRemoved
  | some item =>
    if item.index = -1 then throw itemRemoved
    else do
      let v ← f item.v
      pure ⟨Heap.fix InnerQueue.heap (q.inner.setValue it.item v) item.index.toNat⟩

/-- What the queue holds: the value of each handle whose item is in the heap. -/
def entry (q : PriorityQueue T) (it : ItemHandle) : Option T := q.inner.entry it.item

/-! ### The queue as a finite map of handles -/

theorem consistent_new (sooner : T → T → Bool) : (new sooner).inner.Consistent :=
  ⟨by simp [new], by simp [new], by simp [new]⟩

theorem new_entry (sooner : T → T → Bool) : (new sooner).entry = fun _ => none := by
  funext it
  simp [new, entry, InnerQueue.entry]

variable {q : PriorityQueue T} {it : ItemHandle} {v : T}

/-- A handle with a value is to an item in the heap. -/
theorem mem_of_entry (live : q.entry it = some v) :
    it.item ∈ q.inner.values ∧
      ∃ item : Item T, q.inner.items[it.item]? = some item ∧ item.v = v := by
  simp only [entry, InnerQueue.entry] at live
  split_ifs at live with member
  exact ⟨member, Option.map_eq_some_iff.mp live⟩

/-- The handle `Push` returns is to the next item allocated. -/
theorem push_handle (value : T) : (q.push value).2 = ⟨q.inner.items.length⟩ := rfl

theorem peek_of_empty (empty : q.inner.values = []) : q.peek = none := by
  simp [peek, len, InnerQueue.len, empty]

theorem pop_of_empty (empty : q.inner.values = []) : q.pop = (none, q) := by
  simp [pop, len, InnerQueue.len, empty]

section Specs

variable (c : q.inner.Consistent)
include c

theorem entry_of_mem {p : Nat} (member : p ∈ q.inner.values) :
    ∃ v, q.entry ⟨p⟩ = some v := by
  obtain ⟨item, stored⟩ := c.stored member
  exact ⟨item.v, by simp [entry, InnerQueue.entry, member, stored]⟩

/-! #### `Push` -/

theorem push_fresh (value : T) : q.entry (q.push value).2 = none := by
  -- a pointer in the heap is allocated, and the new one is not yet
  have absent : q.inner.items.length ∉ q.inner.values := fun member =>
    Nat.lt_irrefl _ (c.allocated _ member)
  rw [push_handle]
  simp [entry, InnerQueue.entry, absent]

theorem push_consistent (value : T) : (q.push value).1.inner.Consistent := by
  have absent : q.inner.items.length ∉ q.inner.values := fun member =>
    Nat.lt_irrefl _ (c.allocated _ member)
  have pushed := (c.alloc value).pushItem (by simp [InnerQueue.alloc]) absent
  exact (InnerQueue.heap_push pushed).consistent

theorem push_entry (value : T) :
    (q.push value).1.entry = Function.update q.entry (q.push value).2 (some value) := by
  have absent : q.inner.items.length ∉ q.inner.values := fun member =>
    Nat.lt_irrefl _ (c.allocated _ member)
  have absent' : q.inner.items.length ∉ (q.inner.alloc value).values := absent
  have pushed := (c.alloc value).pushItem (by simp [InnerQueue.alloc]) absent'
  funext it'
  -- the heap's swaps keep the map, and the collection's `Push` adds the new item to it
  have shuffled := congrFun (InnerQueue.heap_push pushed).entry it'.item
  simp only [push, entry] at shuffled ⊢
  rw [shuffled, InnerQueue.pushItem_entry absent', InnerQueue.alloc_entry c, InnerQueue.alloc_item]
  by_cases same : it' = ⟨q.inner.items.length⟩
  · subst same
    simp
  · have : it'.item ≠ q.inner.items.length := fun h => same (by cases it'; simp_all)
    simp [Function.update_of_ne this, Function.update_of_ne same, entry]

/-! #### `Peek` and `Pop` -/

theorem peek_of_head {p : Nat} (head : q.inner.values[0]? = some p) : q.peek = q.entry ⟨p⟩ := by
  have member := List.mem_of_getElem? head
  obtain ⟨item, stored⟩ := c.stored member
  have nonempty : q.len ≠ 0 := by
    have := (List.getElem?_eq_some_iff.mp head).1
    simp only [len, InnerQueue.len]
    omega
  simp [peek, nonempty, InnerQueue.valueAt, head, entry, InnerQueue.entry, member, stored]

/-- `Pop` returns the value at the head and removes its handle. -/
theorem pop_of_head {p : Nat} (head : q.inner.values[0]? = some p) :
    q.pop.1 = q.entry ⟨p⟩ ∧ q.pop.2.entry = Function.update q.entry ⟨p⟩ none ∧
      q.pop.2.inner.Consistent := by
  have nonempty : 0 < q.inner.values.length := (List.getElem?_eq_some_iff.mp head).1
  obtain ⟨shuffled, atLast⟩ := InnerQueue.heap_pop c nonempty
  -- the pointer that was at the head is now the last, which the collection's `Pop` removes
  obtain ⟨ys, last⟩ : ∃ ys, (Heap.pop InnerQueue.heap q.inner).values = ys ++ [p] := by
    apply List.getLast?_eq_some_iff.mp
    rw [List.getLast?_eq_getElem?, shuffled.length, atLast, head]
  have notEmpty : q.len ≠ 0 := by simp only [len, InnerQueue.len]; omega
  have popped := InnerQueue.popItem_eq last
  simp only [pop, notEmpty, if_false, popped]
  refine ⟨?_, ?_, ?_⟩
  · have := InnerQueue.popItem_value (q := Heap.pop InnerQueue.heap q.inner) last
    rw [popped] at this
    rw [this, shuffled.entry]
    rfl
  · funext it'
    have := congrFun (InnerQueue.popItem_entry shuffled.consistent last) it'.item
    rw [popped] at this
    simp only [entry, this, shuffled.entry]
    by_cases same : it' = ⟨p⟩
    · subst same
      simp
    · have : it'.item ≠ p := fun h => same (by cases it'; simp_all)
      simp [Function.update_of_ne this, Function.update_of_ne same, entry]
  · have := InnerQueue.Consistent.popItem shuffled.consistent last
    rw [popped] at this
    exact this

theorem pop_consistent : q.pop.2.inner.Consistent := by
  cases head : q.inner.values[0]? with
  | none =>
    have empty : q.inner.values = [] := by
      simpa [List.getElem?_eq_none_iff] using head
    rw [pop_of_empty empty]
    exact c
  | some p => exact (pop_of_head c head).2.2

/-! #### `Update` -/

/-- An update that succeeds was through a handle with a value, and replaced that value by what
the update made of it. -/
theorem update_eq_ok {f : T → Except String T} {q' : PriorityQueue T}
    (updated : q.update it f = .ok q') :
    ∃ v v', q.entry it = some v ∧ f v = .ok v' ∧
      q'.entry = Function.update q.entry it (some v') ∧ q'.inner.Consistent := by
  unfold update at updated
  split at updated
  · cases updated
  next item stored =>
    split_ifs at updated with removed
    obtain ⟨v', made, done⟩ := bind_eq_ok.mp updated
    obtain rfl := pure_eq_ok.mp done
    -- an item whose index is not `-1` is in the heap, at that index
    have member : it.item ∈ q.inner.values := by
      by_contra absent
      exact removed (c.removed _ _ absent stored)
    obtain ⟨i, at_i, indexed⟩ := c.index_of_mem member stored
    have inRange : i < q.inner.values.length := (List.getElem?_eq_some_iff.mp at_i).1
    have set := c.setValue (p := it.item) v'
    have fixed := InnerQueue.heap_fix set (i := item.index.toNat)
      (by simpa [indexed, InnerQueue.setValue] using inRange)
    refine ⟨item.v, v', by simp [entry, InnerQueue.entry, member, stored], made, ?_,
      fixed.consistent⟩
    funext it'
    have := congrFun fixed.entry it'.item
    simp only [entry, this, InnerQueue.setValue_entry c member]
    by_cases same : it' = it
    · subst same
      simp
    · have : it'.item ≠ it.item := fun h => same (by cases it'; cases it; simp_all)
      simp [Function.update_of_ne this, Function.update_of_ne same, entry]

/-- An update through a handle with a value succeeds where the update itself does. -/
theorem update_ok {f : T → Except String T} {v' : T} (live : q.entry it = some v)
    (made : f v = .ok v') : ∃ q', q.update it f = .ok q' := by
  obtain ⟨member, item, stored, rfl⟩ := mem_of_entry live
  obtain ⟨i, -, indexed⟩ := c.index_of_mem member stored
  have kept : item.index ≠ -1 := by omega
  exact ⟨⟨Heap.fix InnerQueue.heap (q.inner.setValue it.item v') item.index.toNat⟩,
    by simp [update, stored, kept, made]⟩

/-- An update that succeeds sets the value of the handle's item, at its index `i` in the heap,
and fixes the heap at `i`. -/
theorem update_eq_fix {f : T → Except String T} {q' : PriorityQueue T}
    (updated : q.update it f = .ok q') :
    ∃ i v', q.inner.values[i]? = some it.item ∧
      q' = ⟨Heap.fix InnerQueue.heap (q.inner.setValue it.item v') i⟩ := by
  unfold update at updated
  split at updated
  · cases updated
  next item stored =>
    split_ifs at updated with removed
    obtain ⟨v', -, done⟩ := bind_eq_ok.mp updated
    obtain rfl := pure_eq_ok.mp done
    have member : it.item ∈ q.inner.values := by
      by_contra absent
      exact removed (c.removed _ _ absent stored)
    obtain ⟨i, atI, indexed⟩ := c.index_of_mem member stored
    exact ⟨i, v', atI, by rw [show item.index.toNat = i by omega]⟩

theorem pop_fst : q.pop.1 = q.peek := by
  cases head : q.inner.values[0]? with
  | none =>
    have empty : q.inner.values = [] := by simpa [List.getElem?_eq_none_iff] using head
    rw [pop_of_empty empty, peek_of_empty empty]
  | some p => exact (pop_of_head c head).1.trans (peek_of_head c head).symm

/-- `Peek` returns the value at the head. -/
theorem peek_eq_some (peeked : q.peek = some v) :
    ∃ p, q.inner.values[0]? = some p ∧ q.entry ⟨p⟩ = some v := by
  cases head : q.inner.values[0]? with
  | none =>
    have empty : q.inner.values = [] := by simpa [List.getElem?_eq_none_iff] using head
    rw [peek_of_empty empty] at peeked
    cases peeked
  | some p => exact ⟨p, rfl, (peek_of_head c head).symm.trans peeked⟩

/-- The value `Peek` returns is in the queue. -/
theorem peek_mem (peeked : q.peek = some v) : ∃ it, q.entry it = some v :=
  let ⟨p, _, live⟩ := peek_eq_some c peeked
  ⟨⟨p⟩, live⟩

/-- `Peek` returns a value whenever the queue holds one. -/
theorem peek_of_entry {w : T} (live : q.entry it = some w) : ∃ v, q.peek = some v := by
  obtain ⟨member, -⟩ := mem_of_entry live
  obtain ⟨p, head⟩ : ∃ p, q.inner.values[0]? = some p := by
    cases values : q.inner.values with
    | nil => simp [values] at member
    | cons p rest => exact ⟨p, rfl⟩
  rw [peek_of_head c head]
  exact entry_of_mem c (List.mem_of_getElem? head)

theorem update_less {f : T → Except String T} {q' : PriorityQueue T}
    (updated : q.update it f = .ok q') : q'.inner.less = q.inner.less := by
  obtain ⟨i, v', atI, rfl⟩ := update_eq_fix c updated
  exact InnerQueue.heap_fix_less (List.getElem?_eq_some_iff.mp atI).1

end Specs

/-! #### The order the queue compares by -/

theorem push_less (value : T) : (q.push value).1.inner.less = q.inner.less :=
  InnerQueue.heap_push_less

theorem pop_less : q.pop.2.inner.less = q.inner.less := by
  unfold pop
  split
  · rfl
  · -- whichever way the collection's `Pop` goes, it keeps `less`, as the heap's does
    have kept : (Heap.pop InnerQueue.heap q.inner).popItem.2.less = q.inner.less := by
      rw [InnerQueue.popItem_less, InnerQueue.heap_pop_less]
    split <;> (rename_i popped; rw [popped] at kept; exact kept)

/-! ### The heap order

Every operation keeps the heap in order where `less` is a strict weak order, so no value in the
queue is sooner than the one `Peek` and `Pop` return. `Op` is one operation on the queue; the
order holds in every queue reachable from `New` by them. -/

/-- What the operations keep besides the map: the items know their places, and no value is
sooner than its parent's. -/
structure Ordered (q : PriorityQueue T) : Prop where
  consistent : q.inner.Consistent
  heaped : Heap.Heaped InnerQueue.heap q.inner q.inner.len

theorem ordered_new (sooner : T → T → Bool) : (new sooner).Ordered :=
  ⟨consistent_new sooner, fun _ _ none => absurd none (Nat.not_lt_zero _)⟩

section Order

variable (order : IsStrictWeakOrder T fun a b => q.inner.less a b = true)
include order

theorem Ordered.push (o : q.Ordered) (value : T) : (q.push value).1.Ordered := by
  have c := o.consistent
  have absent : q.inner.items.length ∉ q.inner.values := fun member =>
    Nat.lt_irrefl _ (c.allocated _ member)
  have pushed := (c.alloc value).pushItem (by simp [InnerQueue.alloc]) absent
  -- the collection's `Push` appends an index, and keeps the values at the others
  have before : Heap.Heaped InnerQueue.heap ((q.inner.alloc value).pushItem q.inner.items.length)
      q.inner.len :=
    o.heaped.congr (InnerQueue.lessAt_congr rfl fun _ inRange => c.valueAt_pushItem value inRange)
  have grown : ((q.inner.alloc value).pushItem q.inner.items.length).len = q.inner.len + 1 := by
    simp [InnerQueue.pushItem, InnerQueue.alloc, InnerQueue.len]
  have heaped := Heap.push_heaped InnerQueue.heap_swapLawful (pushed.strictWeakAt order)
    (by simp only [InnerQueue.heap_len, grown, Nat.add_sub_cancel]; exact before)
    (by simp only [InnerQueue.heap_len, grown]; omega)
  refine ⟨push_consistent c value, ?_⟩
  have len : (q.push value).1.inner.len =
      ((q.inner.alloc value).pushItem q.inner.items.length).len :=
    (InnerQueue.heap_push pushed).length
  rw [len]
  exact heaped

theorem Ordered.pop (o : q.Ordered) : q.pop.2.Ordered := by
  have c := o.consistent
  refine ⟨pop_consistent c, ?_⟩
  cases head : q.inner.values[0]? with
  | none =>
    have empty : q.inner.values = [] := by simpa [List.getElem?_eq_none_iff] using head
    rw [pop_of_empty empty]
    exact o.heaped
  | some p =>
    have nonempty : 0 < q.inner.values.length := (List.getElem?_eq_some_iff.mp head).1
    obtain ⟨shuffled, atLast⟩ := InnerQueue.heap_pop c nonempty
    obtain ⟨ys, last⟩ : ∃ ys, (Heap.pop InnerQueue.heap q.inner).values = ys ++ [p] := by
      apply List.getLast?_eq_some_iff.mp
      rw [List.getLast?_eq_getElem?, shuffled.length, atLast, head]
    have ysLen : ys.length = q.inner.len - 1 := by
      have := congrArg List.length last
      rw [shuffled.length] at this
      simp only [List.length_append, List.length_singleton] at this
      simp only [InnerQueue.len]
      omega
    have notEmpty : q.len ≠ 0 := by simp only [len, InnerQueue.len]; omega
    have popped : q.pop.2 = ⟨(Heap.pop InnerQueue.heap q.inner).popItem.2⟩ := by
      simp only [PriorityQueue.pop, notEmpty, if_false, InnerQueue.popItem_eq last]
    have len : (Heap.pop InnerQueue.heap q.inner).popItem.2.len = q.inner.len - 1 := by
      rw [InnerQueue.popItem_eq last, ← ysLen]
      rfl
    have heaped := Heap.pop_heaped InnerQueue.heap_swapLawful (c.strictWeakAt order) o.heaped
      nonempty
    -- after the heap's `Pop`, the collection's removes the last index and keeps the others
    rw [popped]
    show Heap.Heaped _ _ (Heap.pop InnerQueue.heap q.inner).popItem.2.len
    rw [len]
    exact heaped.congr (InnerQueue.lessAt_congr InnerQueue.popItem_less fun _ inRange =>
      InnerQueue.valueAt_popItem last (by rw [InnerQueue.heap_len] at inRange; omega))

theorem Ordered.update (o : q.Ordered) {it : ItemHandle} {f : T → Except String T}
    {q' : PriorityQueue T} (updated : q.update it f = .ok q') : q'.Ordered := by
  have c := o.consistent
  refine ⟨(update_eq_ok c updated).choose_spec.choose_spec.2.2.2, ?_⟩
  obtain ⟨i, v', atI, rfl⟩ := update_eq_fix c updated
  have inRange : i < q.inner.values.length := (List.getElem?_eq_some_iff.mp atI).1
  -- only the value at `i` changed, so `Fix` at `i` starts from a heap out of order at `i`
  have other : ∀ k, k ≠ i → q.inner.values[k]? ≠ some it.item := fun k ne found =>
    ne (c.index_inj found atI)
  have fixOrder : Heap.FixOrder InnerQueue.heap (q.inner.setValue it.item v') q.inner.len i :=
    o.heaped.fixOrder (c.strictWeakAt order) le_rfl fun a b ai bi =>
      InnerQueue.lessAt_eq (InnerQueue.valueAt_setValue (other a ai) v')
        (InnerQueue.valueAt_setValue (other b bi) v') rfl
  have heaped := Heap.fix_heaped InnerQueue.heap_swapLawful
    ((c.setValue (p := it.item) v').strictWeakAt order) fixOrder inRange
  have len : (Heap.fix InnerQueue.heap (q.inner.setValue it.item v') i).len = q.inner.len :=
    (InnerQueue.heap_fix (c.setValue (p := it.item) v') (i := i) inRange).length
  show Heap.Heaped _ _ (Heap.fix InnerQueue.heap (q.inner.setValue it.item v') i).len
  rw [len]
  exact heaped

/-- No value in the queue is sooner than the one `Peek` returns. -/
theorem Ordered.peek_least (o : q.Ordered) {v w : T} {it : ItemHandle} (peeked : q.peek = some v)
    (live : q.entry it = some w) : q.inner.less w v = false := by
  have nonempty : q.len ≠ 0 := by
    intro empty
    simp [peek, empty] at peeked
  have root : q.inner.valueAt 0 = some v := by simpa [peek, nonempty] using peeked
  obtain ⟨k, inRange, atK⟩ := InnerQueue.valueAt_of_entry live
  have least := o.heaped.root_least (o.consistent.strictWeakAt order) le_rfl k inRange
  exact (InnerQueue.lessAt_of_valueAt atK root).symm.trans least

end Order

/-- One operation on the queue: a `Push`, a `Pop`, or an `Update` that did not panic. -/
inductive Op : PriorityQueue T → PriorityQueue T → Prop
  | push (q : PriorityQueue T) (value : T) : Op q (q.push value).1
  | pop (q : PriorityQueue T) : Op q q.pop.2
  | update (q : PriorityQueue T) (it : ItemHandle) (f : T → Except String T) {q' : PriorityQueue T} :
    q.update it f = .ok q' → Op q q'

/-- Each operation keeps the order the queue compares by and the heap in order. -/
theorem Op.ordered {q' : PriorityQueue T} (order : IsStrictWeakOrder T fun a b => q.inner.less a b = true)
    (o : q.Ordered) (op : Op q q') : q'.inner.less = q.inner.less ∧ q'.Ordered := by
  cases op with
  | push value => exact ⟨push_less value, o.push order value⟩
  | pop => exact ⟨pop_less, o.pop order⟩
  | update it f updated => exact ⟨update_less o.consistent updated, o.update order updated⟩

theorem reachable_ordered {sooner : T → T → Bool}
    (order : IsStrictWeakOrder T fun a b => sooner a b = true)
    (reachable : Trans.Reachable (· = new sooner) Op q) : q.inner.less = sooner ∧ q.Ordered :=
  Trans.Reachable.invariant (fun q => q.inner.less = sooner ∧ q.Ordered)
    (fun _ start => start ▸ ⟨rfl, ordered_new sooner⟩)
    (fun _ _ ⟨less, o⟩ op => by
      obtain ⟨kept, o'⟩ := op.ordered (less ▸ order) o
      exact ⟨kept.trans less, o'⟩)
    reachable

/-- In a queue made by `New(sooner)`, with `sooner` a strict weak order, after any operations,
no value in the queue is sooner than the one `Pop` returns. -/
theorem pop_soonest {sooner : T → T → Bool} (order : IsStrictWeakOrder T fun a b => sooner a b = true)
    (reachable : Trans.Reachable (· = new sooner) Op q) {v w : T} {it : ItemHandle}
    (popped : q.pop.1 = some v) (live : q.entry it = some w) : sooner w v = false := by
  obtain ⟨less, o⟩ := reachable_ordered order reachable
  subst less
  exact o.peek_least order ((pop_fst o.consistent).symm.trans popped) live

theorem pop_soonest_sample :
    (((new fun a b : Nat => decide (a < b)).push 2).1.push 1).1.pop.1 = some 1 ∧
      (((new fun a b : Nat => decide (a < b)).push 2).1.push 1).1.entry ⟨0⟩ = some 2 ∧
      decide (2 < 1) = false :=
  have popped : (((new fun a b : Nat => decide (a < b)).push 2).1.push 1).1.pop.1 = some 1 := rfl
  have live : (((new fun a b : Nat => decide (a < b)).push 2).1.push 1).1.entry ⟨0⟩ = some 2 :=
    rfl
  ⟨popped, live, pop_soonest
    (show IsStrictWeakOrder Nat fun a b => decide (a < b) = true from
      { irrefl := fun a => by simp
        trans := fun a b c => by simp only [decide_eq_true_eq]; omega
        incomp_trans := fun a b c => by simp only [decide_eq_true_eq]; omega })
    (.step (.step (.init rfl) (.push _ 2)) (.push _ 1)) popped live⟩

end PriorityQueue

end Autoscaling.Util.Queue
