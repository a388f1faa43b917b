import Mathlib

/-!
# Go's `container/heap`

`container/heap` keeps any collection that offers `Len`, `Less` and `Swap` as a binary min-heap,
the element at index `i` having its children at `2 * i + 1` and `2 * i + 2`. `up` moves the
element at an index towards the root while it is less than its parent; `down` moves one towards
the leaves, below a bound, while one of its children is less than it; `Push`, `Pop` and `Fix`
are built from the two, around the collection's own `Push` and `Pop`, which append and remove
at the end. This is the standard library's code, with Go's `int` indices as natural numbers
(the overflow check of `down` cannot fire on them).

The loops run for at most a fuel argument, one round per level being enough. All that the two
loops do to the collection is swap an element with its parent, so the lemmas are the rules that
turn what a collection's `Swap` keeps into what `Push`, `Pop` and `Fix` keep, with the range of
the indices swapped.
-/

namespace Heap

/-- What `container/heap` calls on the collection it orders: `Len`, `Less` and `Swap`. -/
structure Interface (σ : Type) where
  len : σ → Nat
  less : σ → Nat → Nat → Bool
  swap : σ → Nat → Nat → σ

variable {σ : Type} (h : Interface σ)

/-- `up(h, j)`, for at most `fuel` rounds: while the element at `j` is less than its parent,
swap the two. -/
def up : Nat → σ → Nat → σ
  | 0, s, _ => s
  | fuel + 1, s, j =>
    let i := (j - 1) / 2
    if i == j || !h.less s j i then s else up fuel (h.swap s i j) i

/-- The loop of `down(h, i0, n)`, from `i`, for at most `fuel` rounds: while a child below `n`
is less than the element at `i`, swap the element with the lesser child. The collection, and the
index the element ended at. -/
def downFrom : Nat → σ → Nat → Nat → σ × Nat
  | 0, s, i, _ => (s, i)
  | fuel + 1, s, i, n =>
    let j1 := 2 * i + 1
    if n ≤ j1 then (s, i)
    else
      let j := if j1 + 1 < n && h.less s (j1 + 1) j1 then j1 + 1 else j1
      if !h.less s j i then (s, i) else downFrom fuel (h.swap s i j) j n

/-- `down(h, i0, n)`: the collection, and whether the element moved. -/
def down (s : σ) (i0 n : Nat) : σ × Bool :=
  let (s, i) := downFrom h n s i0 n
  (s, decide (i0 < i))

/-- `heap.Push(h, x)` once the collection's `Push` has appended `x`: `up` from the last index. -/
def push (s : σ) : σ := up h (h.len s) s (h.len s - 1)

/-- `heap.Pop(h)` up to the collection's final `Pop`: the first element swapped with the last,
and the new first one moved down among the others. -/
def pop (s : σ) : σ :=
  let n := h.len s - 1
  (down h (h.swap s 0 n) 0 n).1

/-- `heap.Fix(h, i)`: `down` from `i`, and `up` from it where that did not move it. -/
def fix (s : σ) (i : Nat) : σ :=
  let (s, moved) := down h s i (h.len s)
  if moved then s else up h (i + 1) s i

/-! ### What the swaps keep -/

/-- `up` from `j` swaps only an index with its parent, both at most `j`. -/
theorem up_keeps (P : σ → Prop) :
    ∀ (fuel : Nat) (s : σ) (j : Nat),
      (∀ s i k, i < k → k ≤ j → P s → P (h.swap s i k)) → P s →
        P (up h fuel s j) := by
  intro fuel
  induction fuel with
  | zero => exact fun s j _ inv => inv
  | succ fuel ih =>
    intro s j keeps inv
    simp only [up]
    split
    · exact inv
    next going =>
      -- the parent is below `j`, and the swaps from it are among smaller indices
      have below : (j - 1) / 2 < j := by
        simp only [Bool.or_eq_true, beq_iff_eq, Bool.not_eq_true', not_or] at going
        omega
      exact ih _ _ (fun s' i k lt le inv' => keeps s' i k lt (by omega) inv')
        (keeps s _ j below le_rfl inv)

/-- The loop of `down` swaps only an index with a larger one below the bound. -/
theorem downFrom_keeps (P : σ → Prop) {n : Nat}
    (keeps : ∀ s i k, i < k → k < n → P s → P (h.swap s i k)) :
    ∀ (fuel : Nat) (s : σ) (i : Nat), P s → P (downFrom h fuel s i n).1 := by
  intro fuel
  induction fuel with
  | zero => exact fun s i inv => inv
  | succ fuel ih =>
    intro s i inv
    simp only [downFrom]
    split
    · exact inv
    next inRange =>
      -- the child swapped with is the left one, or the right one where that is below the bound
      split
      next right =>
        simp only [Bool.and_eq_true, decide_eq_true_eq] at right
        split
        · exact inv
        · exact ih _ _ (keeps s i _ (by omega) right.1 inv)
      next =>
        split
        · exact inv
        · exact ih _ _ (keeps s i _ (by omega) (by omega) inv)

theorem down_keeps (P : σ → Prop) {n : Nat}
    (keeps : ∀ s i k, i < k → k < n → P s → P (h.swap s i k)) (s : σ) (i0 : Nat)
    (inv : P s) :
    P (down h s i0 n).1 :=
  downFrom_keeps h P keeps n s i0 inv

/-- `Push` swaps indices below the length. -/
theorem push_keeps (P : σ → Prop) (s : σ)
    (keeps : ∀ s' i k, i < k → k < h.len s → P s' → P (h.swap s' i k)) (inv : P s) :
    P (push h s) :=
  up_keeps h P _ s _ (fun s' i k lt le inv' => keeps s' i k lt (by omega) inv') inv

/-- `Fix` swaps indices below the length. -/
theorem fix_keeps (P : σ → Prop) (s : σ) (i : Nat) (inRange : i < h.len s)
    (keeps : ∀ s' i k, i < k → k < h.len s → P s' → P (h.swap s' i k)) (inv : P s) :
    P (fix h s i) := by
  simp only [fix]
  have afterDown := down_keeps h P keeps s i inv
  split
  · exact afterDown
  · -- `up` from `i` swaps indices at most `i`
    exact up_keeps h P _ _ i (fun s' a b lt le inv' => keeps s' a b lt (by omega) inv')
      afterDown

/-! ### The heap order

`container/heap` keeps a min-heap, no element less than its parent, from what it asks of the
collection: `Less` a strict weak order on the indices of each state (`StrictWeakAt`), and `Swap`
exchanging two indices for `Len` and `Less` (`SwapLawful`). The loops are the sifts of a heap with
one element out of place: `UpOrder` is what `up` keeps, `DownOrder` what the loop of `down`
keeps, and `FixOrder` what `Fix` starts from, a heap where the value at one index changed. -/

/-- The index of the parent of `c`, as `up` computes it. -/
def parent (c : Nat) : Nat := (c - 1) / 2

theorem parent_lt {c : Nat} (pos : 0 < c) : parent c < c := by
  unfold parent
  omega

/-- The children of `i` are `2 * i + 1` and `2 * i + 2`. -/
theorem child_range {c i : Nat} (pos : 0 < c) (child : parent c = i) :
    2 * i + 1 ≤ c ∧ c ≤ 2 * i + 2 := by
  unfold parent at child
  omega

/-- `Less` is a strict weak order on the indices of the collection `s`. -/
structure StrictWeakAt (s : σ) : Prop where
  irrefl : ∀ i, i < h.len s → h.less s i i = false
  trans : ∀ i j k, i < h.len s → j < h.len s → k < h.len s →
    h.less s i j = true → h.less s j k = true → h.less s i k = true
  not_trans : ∀ i j k, i < h.len s → j < h.len s → k < h.len s →
    h.less s i j = false → h.less s j k = false → h.less s i k = false

/-- `Swap` exchanges two indices of the collection, for `Len` and for `Less`. -/
structure SwapLawful : Prop where
  len_swap : ∀ s i j, i < h.len s → j < h.len s → h.len (h.swap s i j) = h.len s
  less_swap : ∀ s i j, i < h.len s → j < h.len s → ∀ a b,
    h.less (h.swap s i j) a b = h.less s (Equiv.swap i j a) (Equiv.swap i j b)

/-- Below `n`, no element is less than its parent. -/
def Heaped (s : σ) (n : Nat) : Prop := ∀ c, 0 < c → c < n → h.less s c (parent c) = false

/-- What `up` from `j` keeps: every pair off `j` in order, and the children of `j` not less than
the parent of `j`. -/
structure UpOrder (s : σ) (n j : Nat) : Prop where
  except : ∀ c, 0 < c → c < n → c ≠ j → h.less s c (parent c) = false
  grand : 0 < j → ∀ c, 0 < c → c < n → parent c = j → h.less s c (parent j) = false

/-- What the loop of `down` from `i` keeps: every pair but those below `i` in order, and the
children of `i` not less than the parent of `i`. -/
structure DownOrder (s : σ) (n i : Nat) : Prop where
  except : ∀ c, 0 < c → c < n → parent c ≠ i → h.less s c (parent c) = false
  grand : 0 < i → ∀ c, 0 < c → c < n → parent c = i → h.less s c (parent i) = false

/-- What `Fix` at `i` starts from: every pair off `i` in order, and the children of `i` not less
than the parent of `i`, as in the heap before the value at `i` changed. -/
structure FixOrder (s : σ) (n i : Nat) : Prop where
  except : ∀ c, 0 < c → c < n → c ≠ i → parent c ≠ i → h.less s c (parent c) = false
  grand : 0 < i → ∀ c, 0 < c → c < n → parent c = i → h.less s c (parent i) = false

/-- The child the loop of `down` moves an element to: the right one where it is below the bound
and less than the left one. -/
def lesserChild (s : σ) (i n : Nat) : Nat :=
  if 2 * i + 1 + 1 < n && h.less s (2 * i + 1 + 1) (2 * i + 1) then 2 * i + 1 + 1 else 2 * i + 1

theorem up_succ (fuel : Nat) (s : σ) (j : Nat) :
    up h (fuel + 1) s j =
      if parent j == j || !h.less s j (parent j) then s
      else up h fuel (h.swap s (parent j) j) (parent j) := rfl

theorem downFrom_succ (fuel : Nat) (s : σ) (i n : Nat) :
    downFrom h (fuel + 1) s i n =
      if n ≤ 2 * i + 1 then (s, i)
      else if !h.less s (lesserChild h s i n) i then (s, i)
      else downFrom h fuel (h.swap s i (lesserChild h s i n)) (lesserChild h s i n) n := rfl

theorem down_eq (s : σ) (i0 n : Nat) :
    down h s i0 n = ((downFrom h n s i0 n).1, decide (i0 < (downFrom h n s i0 n).2)) := rfl

theorem fix_eq (s : σ) (i : Nat) :
    fix h s i =
      if i < (downFrom h (h.len s) s i (h.len s)).2 then (downFrom h (h.len s) s i (h.len s)).1
      else up h (i + 1) (downFrom h (h.len s) s i (h.len s)).1 i := by
  simp only [fix, down_eq, decide_eq_true_eq]

section Order

variable {h} {s : σ} {n i j : Nat}

/-- A strict weak order is negatively transitive: not being less is transitive. -/
theorem not_lt_trans {α : Type} {r : α → α → Prop} [IsStrictWeakOrder α r] {a b c : α}
    (ab : ¬r a b) (bc : ¬r b c) : ¬r a c := by
  intro ac
  -- `b` is less than neither `a` nor `c`, so it is incomparable to both, and so are they
  have ba : ¬r b a := fun ba => bc (trans_of r ba ac)
  have cb : ¬r c b := fun cb => ab (trans_of r ac cb)
  exact (IsStrictWeakOrder.incomp_trans a b c ⟨ab, ba⟩ ⟨bc, cb⟩).1 ac

/-- `Less` is a strict weak order on the indices where every index holds a value and `Less`
compares the values by one. -/
theorem StrictWeakAt.of_values {α : Type} (r : α → α → Bool)
    [IsStrictWeakOrder α fun a b => r a b = true] (value : Nat → Option α)
    (valued : ∀ i, i < h.len s → ∃ a, value i = some a)
    (compares : ∀ i j a b, value i = some a → value j = some b → h.less s i j = r a b) :
    StrictWeakAt h s := by
  refine ⟨fun i hi => ?_, fun i j k hi hj hk => ?_, fun i j k hi hj hk => ?_⟩
  · obtain ⟨a, ai⟩ := valued i hi
    rw [compares i i a a ai ai]
    exact Bool.eq_false_iff.mpr (irrefl_of (fun a b => r a b = true) a)
  · obtain ⟨a, ai⟩ := valued i hi
    obtain ⟨b, bj⟩ := valued j hj
    obtain ⟨c, ck⟩ := valued k hk
    rw [compares i j a b ai bj, compares j k b c bj ck, compares i k a c ai ck]
    exact trans_of (fun a b => r a b = true)
  · obtain ⟨a, ai⟩ := valued i hi
    obtain ⟨b, bj⟩ := valued j hj
    obtain ⟨c, ck⟩ := valued k hk
    rw [compares i j a b ai bj, compares j k b c bj ck, compares i k a c ai ck]
    intro ab bc
    exact Bool.eq_false_iff.mpr
      (not_lt_trans (r := fun a b => r a b = true) (Bool.eq_false_iff.mp ab) (Bool.eq_false_iff.mp bc))

theorem StrictWeakAt.asymm (ord : StrictWeakAt h s) (hi : i < h.len s) (hj : j < h.len s)
    (lt : h.less s i j = true) : h.less s j i = false := by
  cases back : h.less s j i with
  | false => rfl
  | true =>
    have := ord.trans i j i hi hj hi lt back
    rw [ord.irrefl i hi] at this
    cases this

theorem swap_apply_lt {a b k m : Nat} (ha : a < m) (hb : b < m) (hk : k < m) :
    Equiv.swap a b k < m := by
  rw [Equiv.swap_apply_def]
  split_ifs <;> assumption

/-- A strict weak order on the indices stays one when two of them are exchanged. -/
theorem StrictWeakAt.swap (law : SwapLawful h) (ord : StrictWeakAt h s) (hi : i < h.len s)
    (hj : j < h.len s) : StrictWeakAt h (h.swap s i j) := by
  have len := law.len_swap s i j hi hj
  have less := law.less_swap s i j hi hj
  refine ⟨fun a ha => ?_, fun a b c ha hb hc => ?_, fun a b c ha hb hc => ?_⟩
  · rw [len] at ha
    rw [less]
    exact ord.irrefl _ (swap_apply_lt hi hj ha)
  · rw [len] at ha hb hc
    simp only [less]
    exact ord.trans _ _ _ (swap_apply_lt hi hj ha) (swap_apply_lt hi hj hb)
      (swap_apply_lt hi hj hc)
  · rw [len] at ha hb hc
    simp only [less]
    exact ord.not_trans _ _ _ (swap_apply_lt hi hj ha) (swap_apply_lt hi hj hb)
      (swap_apply_lt hi hj hc)

/-- The heap order below `n` depends only on how `Less` compares the indices below `n`. -/
theorem Heaped.congr {s' : σ} (heaped : Heaped h s n)
    (same : ∀ a b, a < n → b < n → h.less s' a b = h.less s a b) : Heaped h s' n := by
  intro c pos cn
  have := parent_lt pos
  rw [same c _ cn (by omega)]
  exact heaped c pos cn

/-- A heap where the value at `i` changes is what `Fix` at `i` starts from. -/
theorem Heaped.fixOrder {s' : σ} (ord : StrictWeakAt h s) (heaped : Heaped h s n)
    (nlen : n ≤ h.len s) (same : ∀ a b, a ≠ i → b ≠ i → h.less s' a b = h.less s a b) :
    FixOrder h s' n i where
  except c pos cn other otherParent := by
    rw [same c _ other otherParent]
    exact heaped c pos cn
  grand ipos c pos cn child := by
    have := parent_lt ipos
    obtain ⟨lower, -⟩ := child_range pos child
    rw [same c _ (by omega) (by omega)]
    -- below `i` in the old heap, and `i` below its parent
    have below := heaped c pos cn
    rw [child] at below
    exact ord.not_trans c i (parent i) (by omega) (by omega) (by omega) below
      (heaped i ipos (by omega))

/-- In a heap, `up` may start from any index. -/
theorem Heaped.upOrder (ord : StrictWeakAt h s) (heaped : Heaped h s n) (nlen : n ≤ h.len s) :
    UpOrder h s n j where
  except c pos cn _ := heaped c pos cn
  grand jpos c pos cn child := by
    have := parent_lt jpos
    have := parent_lt pos
    have below := heaped c pos cn
    rw [child] at below
    exact ord.not_trans c j (parent j) (by omega) (by omega) (by omega) below
      (heaped j jpos (by omega))

/-- In a heap, no element is less than the first. -/
theorem Heaped.root_least (ord : StrictWeakAt h s) (heaped : Heaped h s n) (nlen : n ≤ h.len s) :
    ∀ c, c < n → h.less s c 0 = false := by
  intro c
  -- along the chain of parents down to the root
  induction c using Nat.strongRecOn with
  | ind c ih =>
    intro cn
    rcases Nat.eq_zero_or_pos c with rfl | pos
    · exact ord.irrefl 0 (by omega)
    · have up := parent_lt pos
      exact ord.not_trans c (parent c) 0 (by omega) (by omega) (by omega) (heaped c pos cn)
        (ih (parent c) up (by omega))

/-! #### `up` -/

theorem UpOrder.stop (o : UpOrder h s n j) (settled : j = 0 ∨ h.less s j (parent j) = false) :
    Heaped h s n := by
  intro c pos cn
  by_cases atJ : c = j
  · subst atJ
    rcases settled with root | inOrder
    · omega
    · exact inOrder
  · exact o.except c pos cn atJ

/-- Swapping an element less than its parent with the parent moves the element out of place one
level up. -/
theorem UpOrder.swap (law : SwapLawful h) (ord : StrictWeakAt h s) (o : UpOrder h s n j)
    (pos : 0 < j) (jn : j < n) (nlen : n ≤ h.len s) (rising : h.less s j (parent j) = true) :
    UpOrder h (h.swap s (parent j) j) n (parent j) := by
  have pj := parent_lt pos
  have less := law.less_swap s (parent j) j (by omega) (by omega)
  -- the old parent, now at `j`, is not less than the element that rose above it
  have fallen : h.less s (parent j) j = false := ord.asymm (by omega) (by omega) rising
  constructor
  · intro c cpos cn other
    rw [less]
    have cp := parent_lt cpos
    by_cases atJ : c = j
    · subst atJ
      rw [Equiv.swap_apply_right, Equiv.swap_apply_left]
      exact fallen
    · rw [Equiv.swap_apply_of_ne_of_ne other atJ]
      by_cases underJ : parent c = j
      · -- a child of `j` is now below the old parent
        rw [underJ, Equiv.swap_apply_right]
        exact o.grand pos c cpos cn underJ
      · by_cases sibling : parent c = parent j
        · -- a sibling of `j`, not less than the old parent, is not less than what rose
          rw [sibling, Equiv.swap_apply_left]
          have kept := o.except c cpos cn atJ
          rw [sibling] at kept
          cases lessJ : h.less s c j with
          | false => rfl
          | true =>
            have := ord.trans c j (parent j) (by omega) (by omega) (by omega) lessJ rising
            rw [kept] at this
            cases this
        · rw [Equiv.swap_apply_of_ne_of_ne sibling underJ]
          exact o.except c cpos cn atJ
  · intro ppos c cpos cn child
    have gp := parent_lt ppos
    have fixed : Equiv.swap (parent j) j (parent (parent j)) = parent (parent j) :=
      Equiv.swap_apply_of_ne_of_ne (by omega) (by omega)
    rw [less, fixed]
    have aboveJ := o.except (parent j) ppos (by omega) (by omega)
    by_cases atJ : c = j
    · subst atJ
      rw [Equiv.swap_apply_right]
      exact aboveJ
    · have cp : c ≠ parent j := by
        intro same
        rw [same] at child
        omega
      rw [Equiv.swap_apply_of_ne_of_ne cp atJ]
      have kept := o.except c cpos cn atJ
      rw [child] at kept
      exact ord.not_trans c (parent j) (parent (parent j)) (by omega) (by omega) (by omega) kept
        aboveJ

/-- `up` from an element out of place, with fuel above its index, leaves a heap. -/
theorem up_heaped (law : SwapLawful h) :
    ∀ (fuel : Nat) (s : σ) (j : Nat), StrictWeakAt h s → UpOrder h s n j → j < n →
      n ≤ h.len s → j < fuel → Heaped h (up h fuel s j) n := by
  intro fuel
  induction fuel with
  | zero => exact fun _ _ _ _ _ _ none => absurd none (Nat.not_lt_zero _)
  | succ fuel ih =>
    intro s j ord o jn nlen enough
    rw [up_succ]
    split
    next settled =>
      -- the element is at the root, or not less than its parent
      simp only [Bool.or_eq_true, beq_iff_eq, Bool.not_eq_eq_eq_not, Bool.not_true] at settled
      refine o.stop (settled.imp (fun root => ?_) id)
      unfold parent at root
      omega
    next rising =>
      simp only [Bool.or_eq_true, beq_iff_eq, Bool.not_eq_eq_eq_not, Bool.not_true, not_or,
        Bool.not_eq_false] at rising
      have pos : 0 < j := by
        unfold parent at rising
        omega
      have pj := parent_lt pos
      exact ih _ _ (ord.swap law (by omega) (by omega)) (o.swap law ord pos jn nlen rising.2)
        (by omega) (by rw [law.len_swap s _ j (by omega) (by omega)]; exact nlen) (by omega)

/-! #### `down` -/

theorem lesserChild_parent (s : σ) (i n : Nat) : parent (lesserChild h s i n) = i := by
  unfold lesserChild parent
  split <;> omega

theorem lesserChild_lt (s : σ) (inside : 2 * i + 1 < n) : lesserChild h s i n < n := by
  unfold lesserChild
  split
  next right =>
    simp only [Bool.and_eq_true, decide_eq_true_eq] at right
    exact right.1
  next => exact inside

theorem lesserChild_gt (s : σ) (i n : Nat) : i < lesserChild h s i n := by
  unfold lesserChild
  split <;> omega

/-- No child is less than the one `down` picks. -/
theorem lesserChild_least (ord : StrictWeakAt h s) (inside : 2 * i + 1 < n) (nlen : n ≤ h.len s) :
    ∀ c, 0 < c → c < n → parent c = i → h.less s c (lesserChild h s i n) = false := by
  intro c pos cn child
  obtain ⟨lower, upper⟩ := child_range pos child
  unfold lesserChild
  split
  next right =>
    simp only [Bool.and_eq_true, decide_eq_true_eq] at right
    rcases (show c = 2 * i + 1 ∨ c = 2 * i + 1 + 1 by omega) with rfl | rfl
    · exact ord.asymm (by omega) (by omega) right.2
    · exact ord.irrefl _ (by omega)
  next left =>
    simp only [Bool.and_eq_true, decide_eq_true_eq, not_and, Bool.not_eq_true] at left
    rcases (show c = 2 * i + 1 ∨ c = 2 * i + 1 + 1 by omega) with rfl | rfl
    · exact ord.irrefl _ (by omega)
    · exact left cn

theorem DownOrder.stop (ord : StrictWeakAt h s) (o : DownOrder h s n i) (nlen : n ≤ h.len s)
    (settled : n ≤ 2 * i + 1 ∨ h.less s (lesserChild h s i n) i = false) : Heaped h s n := by
  intro c pos cn
  by_cases under : parent c = i
  · -- a child of `i`, which then has a lesser child not less than it
    obtain ⟨lower, -⟩ := child_range pos under
    have inside : 2 * i + 1 < n := by omega
    have settled := settled.resolve_left (by omega)
    have least := lesserChild_least ord inside nlen c pos cn under
    have picked := lesserChild_lt (h := h) s inside
    rw [under]
    exact ord.not_trans c _ i (by omega) (by omega) (by omega) least settled
  · exact o.except c pos cn under

/-- Swapping an element with its lesser child, less than it, moves the element out of place one
level down. -/
theorem DownOrder.swap (law : SwapLawful h) (ord : StrictWeakAt h s) (o : DownOrder h s n i)
    (inside : 2 * i + 1 < n) (nlen : n ≤ h.len s)
    (sinking : h.less s (lesserChild h s i n) i = true) :
    DownOrder h (h.swap s i (lesserChild h s i n)) n (lesserChild h s i n) := by
  have jn := lesserChild_lt (h := h) s inside
  have ij := lesserChild_gt (h := h) s i n
  have jp := lesserChild_parent (h := h) s i n
  have less := law.less_swap s i (lesserChild h s i n) (by omega) (by omega)
  have least := lesserChild_least ord inside nlen
  constructor
  · intro c cpos cn other
    rw [less]
    by_cases atJ : c = lesserChild h s i n
    · -- the element that sank, below what rose
      rw [atJ, Equiv.swap_apply_right, jp, Equiv.swap_apply_left]
      exact ord.asymm (by omega) (by omega) sinking
    · by_cases atI : c = i
      · -- what rose, below the parent of `i`
        subst atI
        have pc := parent_lt cpos
        rw [Equiv.swap_apply_left, Equiv.swap_apply_of_ne_of_ne (by omega) (by omega)]
        exact o.grand cpos _ (by omega) jn jp
      · rw [Equiv.swap_apply_of_ne_of_ne atI atJ]
        by_cases under : parent c = i
        · -- the other child of `i`, below what rose
          rw [under, Equiv.swap_apply_left]
          exact least c cpos cn under
        · rw [Equiv.swap_apply_of_ne_of_ne under other]
          exact o.except c cpos cn under
  · intro _ c cpos cn child
    obtain ⟨lower, -⟩ := child_range cpos child
    rw [less, jp, Equiv.swap_apply_of_ne_of_ne (by omega) (by omega), Equiv.swap_apply_left]
    have kept := o.except c cpos cn (by omega)
    rw [child] at kept
    exact kept

/-- The loop of `down`, from an element out of place, with enough fuel, leaves a heap. -/
theorem downFrom_heaped (law : SwapLawful h) :
    ∀ (fuel : Nat) (s : σ) (i : Nat), StrictWeakAt h s → DownOrder h s n i → n ≤ h.len s →
      n ≤ fuel + i + 1 → Heaped h (downFrom h fuel s i n).1 n := by
  intro fuel
  induction fuel with
  | zero =>
    intro s i ord o nlen enough
    exact o.stop ord nlen (.inl (by omega))
  | succ fuel ih =>
    intro s i ord o nlen enough
    rw [downFrom_succ]
    split_ifs with leaf settled
    · exact o.stop ord nlen (.inl leaf)
    · simp only [Bool.not_eq_eq_eq_not, Bool.not_true] at settled
      exact o.stop ord nlen (.inr settled)
    · simp only [Bool.not_eq_eq_eq_not, Bool.not_true, Bool.not_eq_false] at settled
      have inside : 2 * i + 1 < n := by omega
      have jn := lesserChild_lt (h := h) s inside
      have ij := lesserChild_gt (h := h) s i n
      exact ih _ _ (ord.swap law (by omega) (by omega)) (o.swap law ord inside nlen settled)
        (by rw [law.len_swap s i _ (by omega) (by omega)]; exact nlen) (by omega)

/-- The loop of `down` keeps the length and the order on the indices. -/
theorem downFrom_lawful (law : SwapLawful h) (ord : StrictWeakAt h s) (nlen : n ≤ h.len s)
    (fuel i : Nat) :
    StrictWeakAt h (downFrom h fuel s i n).1 ∧ h.len (downFrom h fuel s i n).1 = h.len s :=
  downFrom_keeps h (fun s' => StrictWeakAt h s' ∧ h.len s' = h.len s)
    (fun s' a b ab bn ⟨ord', len'⟩ => ⟨ord'.swap law (by omega) (by omega),
      (law.len_swap s' a b (by omega) (by omega)).trans len'⟩) fuel s i ⟨ord, rfl⟩

/-- Where no child of `i` is less than it, the loop of `down` does nothing. -/
theorem downFrom_settled (fuel : Nat)
    (settled : n ≤ 2 * i + 1 ∨ h.less s (lesserChild h s i n) i = false) :
    downFrom h (fuel + 1) s i n = (s, i) := by
  rw [downFrom_succ]
  split_ifs with leaf rising
  · rfl
  · rfl
  · simp only [Bool.not_eq_eq_eq_not, Bool.not_true, Bool.not_eq_false] at rising
    rcases settled with leaf' | inOrder
    · exact absurd leaf' leaf
    · rw [inOrder] at rising
      cases rising

/-! #### `Push`, `Pop` and `Fix` -/

/-- `Push` of an element appended to a heap leaves a heap. -/
theorem push_heaped (law : SwapLawful h) (ord : StrictWeakAt h s)
    (heaped : Heaped h s (h.len s - 1)) (nonempty : 0 < h.len s) :
    Heaped h (push h s) (h.len s) := by
  have o : UpOrder h s (h.len s) (h.len s - 1) := by
    constructor
    · intro c pos cn other
      exact heaped c pos (by omega)
    · intro _ c pos cn child
      have := child_range pos child
      omega
  exact up_heaped law _ s _ ord o (by omega) le_rfl (by omega)

/-- `Pop` leaves the elements before the last a heap. -/
theorem pop_heaped (law : SwapLawful h) (ord : StrictWeakAt h s) (heaped : Heaped h s (h.len s))
    (nonempty : 0 < h.len s) : Heaped h (pop h s) (h.len s - 1) := by
  have less := law.less_swap s 0 (h.len s - 1) nonempty (by omega)
  -- after the first element is swapped with the last, only the pairs below the first are out
  have o : DownOrder h (h.swap s 0 (h.len s - 1)) (h.len s - 1) 0 := by
    constructor
    · intro c pos cn notRoot
      have := parent_lt pos
      rw [less, Equiv.swap_apply_of_ne_of_ne (by omega) (by omega),
        Equiv.swap_apply_of_ne_of_ne notRoot (by omega)]
      exact heaped c pos (by omega)
    · intro root
      omega
  exact downFrom_heaped law _ _ 0 (ord.swap law nonempty (by omega)) o
    (by rw [law.len_swap s 0 _ nonempty (by omega)]; omega) (by omega)

/-- `Fix` at an index whose value changed in a heap leaves a heap. -/
theorem fix_heaped (law : SwapLawful h) (ord : StrictWeakAt h s) (o : FixOrder h s (h.len s) i)
    (inRange : i < h.len s) : Heaped h (fix h s i) (h.len s) := by
  obtain ⟨m, lenIs⟩ : ∃ m, h.len s = m + 1 := ⟨h.len s - 1, by omega⟩
  rw [fix_eq]
  by_cases rising : 0 < i ∧ h.less s i (parent i) = true
  · -- the element goes up: no child of `i` is less than it, so `down` leaves it
    have children : ∀ c, 0 < c → c < h.len s → parent c = i → h.less s c i = false := by
      intro c pos cn child
      have := parent_lt rising.1
      cases lessI : h.less s c i with
      | false => rfl
      | true =>
        have := ord.trans c i (parent i) (by omega) (by omega) (by omega) lessI rising.2
        rw [o.grand rising.1 c pos cn child] at this
        cases this
    have settled : downFrom h (h.len s) s i (h.len s) = (s, i) := by
      rw [lenIs, downFrom_settled]
      by_cases inside : 2 * i + 1 < m + 1
      · refine .inr (children _ ?_ ?_ (lesserChild_parent (h := h) s i _))
        · have := lesserChild_gt (h := h) s i (m + 1)
          omega
        · rw [lenIs]
          exact lesserChild_lt (h := h) s inside
      · exact .inl (by omega)
    have upOrder : UpOrder h s (h.len s) i := by
      constructor
      · intro c pos cn other
        by_cases under : parent c = i
        · rw [under]
          exact children c pos cn under
        · exact o.except c pos cn other under
      · exact o.grand
    rw [settled]
    simp only [lt_self_iff_false, if_false]
    exact up_heaped law _ s i ord upOrder inRange le_rfl (by omega)
  · -- the element is not less than its parent: `down` alone restores the heap
    have downOrder : DownOrder h s (h.len s) i := by
      constructor
      · intro c pos cn other
        by_cases atI : c = i
        · subst atI
          simpa [pos] using rising
        · exact o.except c pos cn atI other
      · exact o.grand
    have heaped := downFrom_heaped law (h.len s) s i ord downOrder le_rfl (by omega)
    obtain ⟨ord', len'⟩ := downFrom_lawful law ord le_rfl (h.len s) i
    split
    · exact heaped
    · exact up_heaped law _ _ i ord' (heaped.upOrder ord' (by omega)) inRange (by omega)
        (by omega)

end Order

end Heap
