import Autoscaling.Plugin.State.XactMap

/-!
# The scheduler plugin's state of a node (`pkg/plugin/state/node.go`, `pod.go`)

A `Node` holds the pods the plugin knows on it, in transactional maps, and for CPU and memory a
running `Reserved` total and the part of it that ongoing live migrations will free
(`Migrating`). Every operation on pods updates the totals incrementally: a pod's amount counts
after its overcommit factor (`applyOvercommit`), computed in `int64` and converted back to the
unsigned resource type, whose arithmetic wraps. `Speculatively` runs changes on a copy of the
node whose maps are transactions over the node's own, and commits them or drops them.

The resource types are generic over an unsigned `T`; here `T` has `w` bits and is `BitVec w`
(`MilliCPU` is 32 bits, `Bytes` 64). A `resource.Quantity` is modelled by the two readings made
of it, `Value()` and `MilliValue()`, and a pod's `*resource.Quantity` overcommit by the quantity
it points to: the pods the plugin builds always have one. A panic is `Except.error` with the
panic's text as the source writes it, format verbs included.

The one floating-point computation, the watermark `T(float64(total) * watermarkFraction)`, is a
parameter: a function from the total to the watermark, for each width.
-/

namespace Autoscaling.Plugin.State

open Go

/-- `resource.Quantity`, by its `Value()` and its `MilliValue()`. -/
structure Quantity where
  value : Int64
  milliValue : Int64
deriving DecidableEq, Repr

/-- `util.NamespacedName`. -/
structure NamespacedName where
  «namespace» : String
  name : String
deriving DecidableEq, Repr

/-- `PodResources[T]`. -/
structure PodResources (w : Nat) where
  reserved : BitVec w
  requested : BitVec w
  factor : BitVec w
  overcommit : Quantity
deriving DecidableEq, Repr

/-- `Pod`, with `CreatedAt` in nanoseconds. -/
structure Pod where
  namespacedName : NamespacedName
  uid : String
  createdAt : Int
  virtualMachine : NamespacedName
  migratable : Bool
  alwaysMigrate : Bool
  migrating : Bool
  cpu : PodResources 32
  mem : PodResources 64
deriving DecidableEq, Repr

/-- `NodeResources[T]`. -/
structure NodeResources (w : Nat) where
  total : BitVec w
  reserved : BitVec w
  migrating : BitVec w
  watermark : BitVec w
deriving DecidableEq, Repr

/-- `Node`. -/
structure Node where
  name : String
  labels : XactMap String String
  pods : XactMap String Pod
  migratablePods : XactMap String Unit
  cpu : NodeResources 32
  mem : NodeResources 64

/-! ### Resources -/

/-- `applyOvercommit(value, overcommit)`: `int64(value) * 1000 / overcommit.MilliValue()`, back
in the unsigned type. The division panics on a zero `MilliValue()`. -/
def applyOvercommit {w : Nat} (value : BitVec w) (overcommit : Quantity) :
    Except String (BitVec w) := do
  let scaled ← div (toInt64 value * 1000) overcommit.milliValue
  pure (ofInt64 w scaled)

/-- The amount the node counts for a pod's resource: what `applyOvercommit` gives for its
reserved amount, when it does not panic. -/
def PodResources.charge {w : Nat} (p : PodResources w) : BitVec w :=
  ofInt64 w (toInt64 p.reserved * 1000 / p.overcommit.milliValue)

theorem applyOvercommit_eq_ok {w : Nat} {p : PodResources w} {c : BitVec w} :
    applyOvercommit p.reserved p.overcommit = .ok c ↔
      p.overcommit.milliValue ≠ 0 ∧ c = p.charge := by
  by_cases zero : p.overcommit.milliValue = 0
  · simp [applyOvercommit, div, zero]
  · simp [applyOvercommit, div, zero, PodResources.charge, eq_comm]

namespace NodeResources

variable {w : Nat}

/-- What `add` and `remove` share: the pod's amount after overcommit, combined by `op` into
`Reserved`, and into `Migrating` for a migrating pod. -/
def account (op : BitVec w → BitVec w → BitVec w) (r : NodeResources w) (p : PodResources w)
    (migrating : Bool) : Except String (NodeResources w) := do
  let actualReserved ← applyOvercommit p.reserved p.overcommit
  let r := { r with reserved := op r.reserved actualReserved }
  pure (if migrating then { r with migrating := op r.migrating actualReserved } else r)

/-- `r.add(p, migrating)`. -/
def add (r : NodeResources w) (p : PodResources w) (migrating : Bool) :
    Except String (NodeResources w) :=
  account (· + ·) r p migrating

/-- `r.remove(p, migrating)`. -/
def remove (r : NodeResources w) (p : PodResources w) (migrating : Bool) :
    Except String (NodeResources w) :=
  account (· - ·) r p migrating

/-- `add` and `remove` panic exactly on a zero overcommit, and otherwise combine the pod's amount
into `Reserved`, and into `Migrating` for a migrating pod. -/
theorem account_eq_ok {op : BitVec w → BitVec w → BitVec w} {r r' : NodeResources w}
    {p : PodResources w} {migrating : Bool} :
    r.account op p migrating = .ok r' ↔ p.overcommit.milliValue ≠ 0 ∧
      r' = { r with reserved := op r.reserved p.charge,
                    migrating := if migrating then op r.migrating p.charge else r.migrating } := by
  unfold account
  cases applied : applyOvercommit p.reserved p.overcommit with
  | error e =>
    have zero : p.overcommit.milliValue = 0 := by
      by_contra nonzero
      simp [applyOvercommit, div, nonzero] at applied
    simp [zero]
  | ok c =>
    obtain ⟨nonzero, rfl⟩ := applyOvercommit_eq_ok.mp applied
    cases migrating <;> simp [nonzero, eq_comm]

/-- `r.reconcilePod(p, migrating)`: the resources, the pod's resources after it, and whether all
that was requested is reserved. A decrease is granted at once; an increase as far as the room
left on the node allows, seen through the pod's overcommit and rounded down to a multiple of the
pod's `Factor` (a division that panics on a zero `Factor`). -/
def reconcilePod (r : NodeResources w) (p : PodResources w) (migrating : Bool) :
    Except String (NodeResources w × PodResources w × Bool) := do
  if p.requested = p.reserved then return (r, p, true)
  if p.requested < p.reserved then
    let r ← r.remove p migrating
    let p := { p with reserved := p.requested }
    let r ← r.add p migrating
    return (r, p, true)
  let desiredIncrease := p.requested - p.reserved
  let remaining :=
    ofInt64 w (toInt64 (saturatingSub r.total r.reserved) * p.overcommit.milliValue / 1000)
  let maxIncrease := (← div remaining p.factor) * p.factor
  -- Go's `min`
  let actualIncrease := if maxIncrease ≤ desiredIncrease then maxIncrease else desiredIncrease
  let (r, p) ← if actualIncrease ≠ 0 then do
      let r ← r.remove p migrating
      let p := { p with reserved := p.reserved + actualIncrease }
      let r ← r.add p migrating
      pure (r, p)
    else pure (r, p)
  return (r, p, decide (p.reserved = p.requested))

/-- `reconcilePod` leaves the resources and the pod as they were, or removes the pod's old amount
and adds its new one. -/
theorem reconcilePod_eq_ok {r r' : NodeResources w} {p p' : PodResources w} {migrating done : Bool}
    (reconciled : r.reconcilePod p migrating = .ok (r', p', done)) :
    (r' = r ∧ p' = p) ∨ ∃ r₁, r.remove p migrating = .ok r₁ ∧ r₁.add p' migrating = .ok r' := by
  unfold reconcilePod at reconciled
  split at reconciled
  · simp only [pure_eq_ok, Prod.mk.injEq] at reconciled
    exact .inl ⟨reconciled.1.symm, reconciled.2.1.symm⟩
  split at reconciled
  · -- a decrease
    obtain ⟨r₁, removed, rest⟩ := bind_eq_ok.mp reconciled
    obtain ⟨r₂, added, rest⟩ := bind_eq_ok.mp rest
    simp only [pure_eq_ok, Prod.mk.injEq] at rest
    obtain ⟨rfl, rfl, -⟩ := rest
    exact .inr ⟨r₁, removed, added⟩
  obtain ⟨q, -, rest⟩ := bind_eq_ok.mp reconciled
  simp only at rest
  -- whatever the increase granted, a zero one changes nothing and another is a removal and an
  -- addition
  generalize (if q * p.factor ≤ p.requested - p.reserved then q * p.factor
    else p.requested - p.reserved) = increase at rest
  split at rest
  · obtain ⟨r₁, removed, rest⟩ := bind_eq_ok.mp rest
    obtain ⟨r₃, added, rest⟩ := bind_eq_ok.mp rest
    simp only [pure_bind, pure_eq_ok, Prod.mk.injEq] at rest
    obtain ⟨rfl, rfl, -⟩ := rest
    exact .inr ⟨r₁, removed, added⟩
  · simp only [pure_bind, pure_eq_ok, Prod.mk.injEq] at rest
    exact .inl ⟨rest.1.symm, rest.2.1.symm⟩

/-- The panic of `UnmigratedAboveWatermark`. -/
def migratingAboveReserved : String :=
  "unexpectedly migrating more resources than are reserved: %v > %v"

/-- `r.UnmigratedAboveWatermark()`. -/
def unmigratedAboveWatermark (r : NodeResources w) : Except String (BitVec w) := do
  if r.migrating > r.reserved then throw migratingAboveReserved
  let unmigrating := r.reserved - r.migrating
  pure (saturatingSub unmigrating r.watermark)

theorem unmigratedAboveWatermark_of_le {r : NodeResources w} (le : r.migrating ≤ r.reserved) :
    r.unmigratedAboveWatermark = .ok (saturatingSub (r.reserved - r.migrating) r.watermark) := by
  simp [unmigratedAboveWatermark, BitVec.not_lt.mpr le]

end NodeResources

/-! ### Building a node -/

/-- `T(float64(total) * watermarkFraction)` for the fraction the node is built with: the
watermark of each total, for the unsigned type of each width. -/
abbrev WatermarkFn := (w : Nat) → BitVec w → BitVec w

/-- `NodeStateFromParams(name, totalCPU, totalMem, watermarkFraction, labels)`. -/
def nodeStateFromParams (watermark : WatermarkFn) (name : String) (totalCPU : BitVec 32)
    (totalMem : BitVec 64) (labels : GoMap String String) : Node where
  name := name
  labels := labels.entries.foldl (fun m e => m.set e.1 e.2) XactMap.newXactMap
  pods := XactMap.newXactMap
  migratablePods := XactMap.newXactMap
  cpu := ⟨totalCPU, 0, 0, watermark 32 totalCPU⟩
  mem := ⟨totalMem, 0, 0, watermark 64 totalMem⟩

/-- What `NodeStateFromK8sObj` reads of a `corev1.Node`: its name, its labels, and its
allocatable CPU and memory (`none` where `Cpu()` or `Memory()` is nil). -/
structure K8sNode where
  name : String
  labels : GoMap String String
  allocatableCPU : Option Quantity
  allocatableMemory : Option Quantity

/-- The error of `NodeStateFromK8sObj` without a CPU amount, as the source spells it. -/
def noAllocatableCPU : String := "Node hsa no Allocatable CPU limit"

/-- The error of `NodeStateFromK8sObj` without a memory amount. -/
def noAllocatableMemory : String := "Node has no Allocatable Memory limit"

/-- `NodeStateFromK8sObj(node, watermarkFraction, keepLabels)`: the totals are
`MilliCPUFromResourceQuantity` and `BytesFromResourceQuantity` of the allocatable amounts, and
each kept label is copied, as `""` where the node lacks it. -/
def nodeStateFromK8sObj (watermark : WatermarkFn) (node : K8sNode) (keepLabels : List String) :
    Except String Node := do
  let some cpuQ := node.allocatableCPU | throw noAllocatableCPU
  let totalCPU := ofInt64 32 cpuQ.milliValue
  let some memQ := node.allocatableMemory | throw noAllocatableMemory
  let totalMem := ofInt64 64 memQ.value
  let labels := keepLabels.foldl
    (fun labels lbl => labels.insert lbl ((node.labels.lookup lbl).getD "")) ∅
  pure (nodeStateFromParams watermark node.name totalCPU totalMem labels)

theorem nodeStateFromK8sObj_eq_ok {watermark : WatermarkFn} {node : K8sNode}
    {keepLabels : List String} {n : Node} (built : nodeStateFromK8sObj watermark node keepLabels = .ok n) :
    ∃ totalCPU totalMem labels, n = nodeStateFromParams watermark node.name totalCPU totalMem labels := by
  cases cpuIs : node.allocatableCPU with
  | none =>
    simp only [nodeStateFromK8sObj, cpuIs] at built
    cases built
  | some cpuQ =>
    cases memIs : node.allocatableMemory with
    | none =>
      simp only [nodeStateFromK8sObj, cpuIs, memIs] at built
      cases built
    | some memQ =>
      simp only [nodeStateFromK8sObj, cpuIs, memIs, pure_eq_ok] at built
      exact ⟨_, _, _, built.symm⟩

/-! ### Pods -/

namespace Node

/-- The panic of `AddPod` on a pod already there. -/
def podExists : String := "cannot add Pod that already exists"

/-- `n.AddPod(pod)`. -/
def addPod (n : Node) (pod : Pod) : Except String Node := do
  if (n.pods.get pod.uid).isSome then throw podExists
  let cpu ← n.cpu.add pod.cpu pod.migrating
  let mem ← n.mem.add pod.mem pod.migrating
  let migratablePods :=
    if pod.migratable then n.migratablePods.set pod.uid () else n.migratablePods
  pure { n with cpu, mem, pods := n.pods.set pod.uid pod, migratablePods }

theorem addPod_eq_ok {n n' : Node} {pod : Pod} (added : n.addPod pod = .ok n') :
    n.pods.view pod.uid = none ∧ ∃ cpu mem, n.cpu.add pod.cpu pod.migrating = .ok cpu ∧
      n.mem.add pod.mem pod.migrating = .ok mem ∧
      n' = { n with cpu, mem, pods := n.pods.set pod.uid pod,
                    migratablePods := if pod.migratable then n.migratablePods.set pod.uid ()
                      else n.migratablePods } := by
  cases present : (n.pods.get pod.uid).isSome
  · simp only [addPod, present, Bool.false_eq_true, if_false] at added
    obtain ⟨cpu, cpuAdded, rest⟩ := bind_eq_ok.mp added
    obtain ⟨mem, memAdded, rest⟩ := bind_eq_ok.mp rest
    refine ⟨?_, cpu, mem, cpuAdded, memAdded, (pure_eq_ok.mp rest).symm⟩
    rw [← XactMap.get_eq_view]
    simpa using present
  · simp [addPod, present] at added

/-- `n.RemovePod(uid)`, with whether the pod was there. -/
def removePod (n : Node) (uid : String) : Except String (Node × Bool) :=
  match n.pods.get uid with
  | none => pure (n, false)
  | some pod => do
    let pods := n.pods.delete uid
    let migratablePods := n.migratablePods.delete uid
    let cpu ← n.cpu.remove pod.cpu pod.migrating
    let mem ← n.mem.remove pod.mem pod.migrating
    pure ({ n with pods, migratablePods, cpu, mem }, true)

theorem removePod_eq_ok {n n' : Node} {uid : String} {existed : Bool}
    (removed : n.removePod uid = .ok (n', existed)) :
    (n.pods.view uid = none ∧ n' = n) ∨ ∃ pod cpu mem, n.pods.view uid = some pod ∧
      n.cpu.remove pod.cpu pod.migrating = .ok cpu ∧ n.mem.remove pod.mem pod.migrating = .ok mem ∧
      n' = { n with pods := n.pods.delete uid, migratablePods := n.migratablePods.delete uid,
                    cpu, mem } := by
  unfold removePod at removed
  rw [XactMap.get_eq_view] at removed
  split at removed
  next absent =>
    simp only [pure_eq_ok, Prod.mk.injEq] at removed
    exact .inl ⟨absent, removed.1.symm⟩
  next pod found =>
    obtain ⟨cpu, cpuRemoved, rest⟩ := bind_eq_ok.mp removed
    obtain ⟨mem, memRemoved, rest⟩ := bind_eq_ok.mp rest
    simp only [pure_eq_ok, Prod.mk.injEq] at rest
    exact .inr ⟨pod, cpu, mem, found, cpuRemoved, memRemoved, rest.1.symm⟩

/-- The panic of `UpdatePod` on a pod whose UID changed. -/
def podUIDChanged : String := "Pod UID changed from %q to %q"

/-- The panic of `UpdatePod` on a pod whose name changed. -/
def podNameChanged : String := "Pod name changed from %v to %v"

/-- The panic of `UpdatePod` on a pod migrating but not migratable. -/
def migratingNotMigratable : String := "new pod state is migrating but not migratable"

/-- The panic of `UpdatePod` on a pod not there. -/
def updateMissingPod : String := "cannot update Pod that doesn't exist in the node state"

/-- `n.UpdatePod(oldPod, newPod)`, with whether the pod changed: the checks, then the pod stored
under the UID removed and the new one added. -/
def updatePod (n : Node) (oldPod newPod : Pod) : Except String (Node × Bool) := do
  if oldPod.uid ≠ newPod.uid then throw podUIDChanged
  else if oldPod.namespacedName ≠ newPod.namespacedName then throw podNameChanged
  else if newPod.migrating && !newPod.migratable then throw migratingNotMigratable
  else if (n.pods.get oldPod.uid).isNone then throw updateMissingPod
  let (n, _) ← n.removePod oldPod.uid
  let n ← n.addPod newPod
  pure (n, decide (oldPod ≠ newPod))

/-- Past its checks, `UpdatePod` is `RemovePod` followed by `AddPod`. -/
theorem updatePod_eq_ok {n n' : Node} {oldPod newPod : Pod} {changed : Bool}
    (updated : n.updatePod oldPod newPod = .ok (n', changed)) :
    ∃ n₁ existed, n.removePod oldPod.uid = .ok (n₁, existed) ∧ n₁.addPod newPod = .ok n' := by
  unfold updatePod at updated
  -- each of the four checks panics or passes
  split at updated
  · cases updated
  split at updated
  · cases updated
  split at updated
  · cases updated
  split at updated
  · cases updated
  obtain ⟨⟨n₁, existed⟩, removed, rest⟩ := bind_eq_ok.mp updated
  obtain ⟨n₂, added, rest⟩ := bind_eq_ok.mp rest
  simp only [pure_eq_ok, Prod.mk.injEq] at rest
  exact ⟨n₁, existed, removed, rest.1 ▸ added⟩

/-- The panic of `ReconcilePodReserved` on a pod not there. -/
def reconcileMissingPod : String :=
  "cannot reconcile reserved resources for Pod that doesn't exist in the node state"

/-- `n.ReconcilePodReserved(&pod)`: the node, the pod as the call leaves it, and whether
everything requested is reserved. The resources are reconciled from the caller's copy of the pod,
not from the one stored. -/
def reconcilePodReserved (n : Node) (pod : Pod) : Except String (Node × Pod × Bool) := do
  if (n.pods.get pod.uid).isNone then throw reconcileMissingPod
  let (cpu, podCPU, cpuDone) ← n.cpu.reconcilePod pod.cpu pod.migrating
  let (mem, podMem, memDone) ← n.mem.reconcilePod pod.mem pod.migrating
  let pod := { pod with cpu := podCPU, mem := podMem }
  pure ({ n with cpu, mem, pods := n.pods.set pod.uid pod }, pod, cpuDone && memDone)

theorem reconcilePodReserved_eq_ok {n n' : Node} {pod pod' : Pod} {done : Bool}
    (reconciled : n.reconcilePodReserved pod = .ok (n', pod', done)) :
    ∃ cpu podCPU cpuDone mem podMem memDone,
      n.cpu.reconcilePod pod.cpu pod.migrating = .ok (cpu, podCPU, cpuDone) ∧
      n.mem.reconcilePod pod.mem pod.migrating = .ok (mem, podMem, memDone) ∧
      pod' = { pod with cpu := podCPU, mem := podMem } ∧
      n' = { n with cpu, mem, pods := n.pods.set pod.uid pod' } := by
  unfold reconcilePodReserved at reconciled
  split at reconciled
  · cases reconciled
  obtain ⟨⟨cpu, podCPU, cpuDone⟩, cpuReconciled, rest⟩ := bind_eq_ok.mp reconciled
  obtain ⟨⟨mem, podMem, memDone⟩, memReconciled, rest⟩ := bind_eq_ok.mp rest
  simp only [pure_eq_ok, Prod.mk.injEq] at rest
  obtain ⟨rfl, rfl, -⟩ := rest
  exact ⟨cpu, podCPU, cpuDone, mem, podMem, memDone, cpuReconciled, memReconciled, rfl, rfl⟩

/-- The panic of `MigratablePods` on a UID without a pod. -/
def migratableWithoutPod : String :=
  "pod with UID %s preset in migratablePods map but not pods map"

/-- `for uid, pod := range n.MigratablePods() { body }`, for a body that leaves the node alone and
says whether to go on: the loop over `migratablePods`, which looks up each pod and panics on a UID
without one. The loop's state is the body's, or the panic. -/
def rangeMigratablePods {σ : Type} (n : Node) (body : σ → String × Pod → σ × Bool) (st : σ) :
    Except String σ :=
  (n.migratablePods.rangeEntries (fun acc e =>
    match acc with
    | .error err => (.error err, [], false)
    | .ok st =>
      match n.pods.get e.1 with
      | none => (.error migratableWithoutPod, [], false)
      | some pod => ((.ok (body st (e.1, pod)).1), [], (body st (e.1, pod)).2)) (.ok st)).state

/-! ### Whole-node changes -/

/-- The panic of `Update` on another node's state. -/
def nodeNameChanged : String := "Node name changed from %q to %q"

/-- `n.Update(newState)`, with whether anything changed: the new totals and watermarks, and the
labels of `newState`, set where they differ and deleted where `newState` lacks them (during a
loop over the node's own labels). -/
def update (n newState : Node) : Except String (Node × Bool) := do
  if n.name ≠ newState.name then throw nodeNameChanged
  let changed := newState.cpu.total != n.cpu.total || newState.mem.total != n.mem.total ||
    newState.cpu.watermark != n.cpu.watermark || newState.mem.watermark != n.mem.watermark
  let (labels, changed) := (newState.labels.rangeEntries
    (fun (acc : XactMap String String × Bool) e =>
      match acc.1.get e.1 with
      | some v => if v ≠ e.2 then ((acc.1.set e.1 e.2, true), [], true) else (acc, [], true)
      | none => ((acc.1.set e.1 e.2, true), [], true))
    (n.labels, changed)).state
  let removed := labels.rangeEntries (fun changed e =>
      if (newState.labels.get e.1).isNone then (true, [e.1], true) else (changed, [], true))
    changed
  if !removed.state then return ({ n with labels := removed.store }, false)
  return ({ n with
    labels := removed.store
    cpu := { n.cpu with total := newState.cpu.total, watermark := newState.cpu.watermark }
    mem := { n.mem with total := newState.mem.total, watermark := newState.mem.watermark } },
    true)

/-- `Update` changes only the labels, the totals and the watermarks. -/
theorem update_eq_ok {n n' newState : Node} {changed : Bool}
    (updated : n.update newState = .ok (n', changed)) :
    n'.pods = n.pods ∧ n'.migratablePods = n.migratablePods ∧
      n'.cpu.reserved = n.cpu.reserved ∧ n'.cpu.migrating = n.cpu.migrating ∧
      n'.mem.reserved = n.mem.reserved ∧ n'.mem.migrating = n.mem.migrating := by
  unfold update at updated
  split at updated
  · cases updated
  simp only at updated
  -- with or without a change, the node keeps its pods and running totals
  split at updated
  all_goals
    simp only [pure_eq_ok, Prod.mk.injEq] at updated
    obtain ⟨rfl, -⟩ := updated
    exact ⟨rfl, rfl, rfl, rfl, rfl, rfl⟩

/-- The two ways `Update`'s loops find the labels changed: a label of the new state that the node
lacks or holds with another value, or a label of the node that the new state lacks. -/
theorem labels_differ_iff {K V : Type} (old new : K → Option V) :
    ((∃ k v, new k = some v ∧ old k ≠ some v) ∨ ∃ k, ((new k).or (old k)).isSome ∧ new k = none) ↔
      ∃ k, old k ≠ new k := by
  constructor
  · rintro (⟨k, v, found, differs⟩ | ⟨k, present, absent⟩)
    · exact ⟨k, found ▸ differs⟩
    · refine ⟨k, fun same => ?_⟩
      rw [absent, Option.none_or, same, absent] at present
      cases present
  · rintro ⟨k, differs⟩
    cases found : new k with
    | some v => exact .inl ⟨k, v, found, found ▸ differs⟩
    | none =>
      refine .inr ⟨k, ?_, found⟩
      rw [found, Option.none_or]
      rw [found] at differs
      exact Option.ne_none_iff_isSome.mp differs

/-- `Update` makes the node's labels those of the new state, in a map over the same parent as
before, and reports a change exactly when a total, a watermark or a label differs; only then does
it take the new totals and watermarks. -/
theorem update_spec (n newState : Node) (sameName : n.name = newState.name) :
    ∃ labels changed, labels.view = newState.labels.view ∧ labels.parent = n.labels.parent ∧
      (changed = true ↔ newState.cpu.total ≠ n.cpu.total ∨ newState.mem.total ≠ n.mem.total ∨
        newState.cpu.watermark ≠ n.cpu.watermark ∨ newState.mem.watermark ≠ n.mem.watermark ∨
        ∃ k, n.labels.view k ≠ newState.labels.view k) ∧
      n.update newState = .ok ((if changed then
        { n with
          labels
          cpu := { n.cpu with total := newState.cpu.total, watermark := newState.cpu.watermark }
          mem := { n.mem with total := newState.mem.total, watermark := newState.mem.watermark } }
        else { n with labels }), changed) := by
  unfold update
  rw [if_neg (not_not.mpr sameName)]
  dsimp only
  -- the first loop lays the new labels over the node's
  generalize first : @XactMap.rangeEntries String String _ (XactMap String String × Bool) _ _
    newState.labels = r
  obtain ⟨⟨labels₁, changed₁⟩, store₁, handed₁, stopped₁⟩ := r
  obtain ⟨view₁, parent₁, flag₁⟩ := XactMap.rangeEntries_setEach newState.labels first
    (fun acc e => by
      rw [XactMap.get_eq_view]
      cases found : acc.1.view e.1 with
      | none => simp [XactMap.view_set, XactMap.parent_set]
      | some v =>
        by_cases same : v = e.2
        · subst same
          simp only [ne_eq, not_true_eq_false, if_false, or_false, true_and]
          exact ⟨(Function.update_eq_self_iff.mpr found.symm).symm, trivial⟩
        · simp [same, XactMap.view_set, XactMap.parent_set])
  dsimp only at view₁ parent₁ flag₁ ⊢
  -- the second deletes those the new state lacks
  generalize second : @XactMap.rangeEntries String String _ Bool _ _ labels₁ = q
  obtain ⟨view₂, parent₂, flag₂⟩ := XactMap.rangeEntries_deleteWhere labels₁
    (fun k => (newState.labels.get k).isNone) second (fun _ _ => rfl)
  refine ⟨q.store, q.state, funext fun k => ?_, parent₂.trans parent₁, ?_, ?_⟩
  · simp only [view₂, view₁, XactMap.get_eq_view]
    cases newState.labels.view k <;> rfl
  · simp only [flag₂, flag₁, view₁, XactMap.get_eq_view, Option.isNone_iff_eq_none]
    rw [or_assoc, labels_differ_iff]
    simp only [Bool.or_eq_true, bne_iff_ne, ne_eq, or_assoc]
  · cases q.state <;> rfl

/-- `Update` on any node, its labels a transaction or not, with a new state of the same name: the
node's label entries become exactly those of the new state, in a map over the same parent; its
pods and running totals stay; its totals and watermarks become the new state's; and it reports a
change exactly when a total, a watermark or a label differed. -/
theorem update_takes_new_state (n newState : Node) (sameName : n.name = newState.name) :
    ∃ n' changed, n.update newState = .ok (n', changed) ∧
      (∀ e, e ∈ n'.labels.offered ↔ e ∈ newState.labels.offered) ∧
      n'.labels.parent = n.labels.parent ∧
      n'.pods = n.pods ∧ n'.migratablePods = n.migratablePods ∧
      n'.cpu.reserved = n.cpu.reserved ∧ n'.cpu.migrating = n.cpu.migrating ∧
      n'.mem.reserved = n.mem.reserved ∧ n'.mem.migrating = n.mem.migrating ∧
      n'.cpu.total = newState.cpu.total ∧ n'.cpu.watermark = newState.cpu.watermark ∧
      n'.mem.total = newState.mem.total ∧ n'.mem.watermark = newState.mem.watermark ∧
      (changed = true ↔ newState.cpu.total ≠ n.cpu.total ∨ newState.mem.total ≠ n.mem.total ∨
        newState.cpu.watermark ≠ n.cpu.watermark ∨ newState.mem.watermark ≠ n.mem.watermark ∨
        ∃ k, n.labels.view k ≠ newState.labels.view k) := by
  obtain ⟨labels, changed, view, parent, flag, updated⟩ := update_spec n newState sameName
  obtain ⟨pods, migratablePods, cpuReserved, cpuMigrating, memReserved, memMigrating⟩ :=
    update_eq_ok updated
  -- `Entries()` hands what the view holds
  have entries : ∀ e, e ∈ labels.offered ↔ e ∈ newState.labels.offered := fun e => by
    rw [XactMap.mem_offered, XactMap.mem_offered, view]
  cases changed with
  | true =>
    exact ⟨_, true, updated, entries, parent, pods, migratablePods, cpuReserved, cpuMigrating,
      memReserved, memMigrating, rfl, rfl, rfl, rfl, flag⟩
  | false =>
    -- nothing differed, so the totals and watermarks were the new state's already
    have unchanged := mt flag.mpr Bool.false_ne_true
    simp only [ne_eq, not_or, not_not] at unchanged
    obtain ⟨cpuTotal, memTotal, cpuWatermark, memWatermark, -⟩ := unchanged
    exact ⟨_, false, updated, entries, parent, pods, migratablePods, cpuReserved, cpuMigrating,
      memReserved, memMigrating, cpuTotal.symm, cpuWatermark.symm, memTotal.symm,
      memWatermark.symm, flag⟩

/-- `TestNodeLabelUpdates`' case "all-changes", on a node of 1 CPU and 1 GiB: a label kept, one
added and one removed (a key and its value swapped), and one modified. -/
def labelNodeBefore : Node :=
  nodeStateFromParams (fun _ total => total / 5 * 4) "test-node" 1000 (2 ^ 30)
    (((∅ : GoMap String String).insert "abc" "def" |>.insert "foo" "bar").insert "baz" "qux")

def labelNodeAfter : Node :=
  nodeStateFromParams (fun _ total => total / 5 * 4) "test-node" 1000 (2 ^ 30)
    (((∅ : GoMap String String).insert "abc" "def" |>.insert "bar" "foo").insert "baz" "qux2")

theorem update_takes_new_state_all_changes :
    labelNodeBefore.name = labelNodeAfter.name ∧
    ∃ n' changed, labelNodeBefore.update labelNodeAfter = .ok (n', changed) ∧
      (∀ e, e ∈ n'.labels.offered ↔ e ∈ labelNodeAfter.labels.offered) ∧
      n'.labels.parent = labelNodeBefore.labels.parent ∧
      n'.pods = labelNodeBefore.pods ∧ n'.migratablePods = labelNodeBefore.migratablePods ∧
      n'.cpu.reserved = labelNodeBefore.cpu.reserved ∧
      n'.cpu.migrating = labelNodeBefore.cpu.migrating ∧
      n'.mem.reserved = labelNodeBefore.mem.reserved ∧
      n'.mem.migrating = labelNodeBefore.mem.migrating ∧
      n'.cpu.total = labelNodeAfter.cpu.total ∧ n'.cpu.watermark = labelNodeAfter.cpu.watermark ∧
      n'.mem.total = labelNodeAfter.mem.total ∧ n'.mem.watermark = labelNodeAfter.mem.watermark ∧
      (changed = true ↔ labelNodeAfter.cpu.total ≠ labelNodeBefore.cpu.total ∨
        labelNodeAfter.mem.total ≠ labelNodeBefore.mem.total ∨
        labelNodeAfter.cpu.watermark ≠ labelNodeBefore.cpu.watermark ∨
        labelNodeAfter.mem.watermark ≠ labelNodeBefore.mem.watermark ∨
        ∃ k, labelNodeBefore.labels.view k ≠ labelNodeAfter.labels.view k) :=
  ⟨rfl, update_takes_new_state _ _ rfl⟩

/-- The map a transaction was opened on, once `m.Commit()` has replayed the transaction on it:
the node keeps that map by pointer, which the model reads as the committed map's parent. -/
def committedParent {K V : Type} [DecidableEq K] (m : XactMap K V) :
    Except String (XactMap K V) := do
  let committed ← m.commit
  match committed.parent with
  | some p => pure p
  | none => throw XactMap.commitWithoutParent

theorem committedParent_view {K V : Type} [DecidableEq K] {m p : XactMap K V}
    (committed : committedParent m = .ok p) : p.view = m.view := by
  cases parentIs : m.parent with
  | none => simp [committedParent, XactMap.commit, parentIs] at committed
  | some q =>
    obtain ⟨p', commits, view', -⟩ := XactMap.commit_view parentIs
    simp only [committedParent, commits] at committed
    cases committed
    exact view'

/-- On a transaction, the committed map is found, holds what the transaction held, and sits over
the map the transaction's parent sat over. -/
theorem committedParent_of_parent {K V : Type} [DecidableEq K] {m q : XactMap K V}
    (hp : m.parent = some q) :
    ∃ p, committedParent m = .ok p ∧ p.view = m.view ∧ p.parent = q.parent := by
  obtain ⟨p, commits, view', grandparent⟩ := XactMap.commit_view hp
  exact ⟨p, by simp only [committedParent, commits, ok_bind]; rfl, view', grandparent⟩

/-- The node `Speculatively` hands to `modify`: the same totals, and maps that are new
transactions over the node's. -/
def tentative (n : Node) : Node where
  name := n.name
  labels := n.labels.newTransaction
  pods := n.pods.newTransaction
  migratablePods := n.migratablePods.newTransaction
  cpu := n.cpu
  mem := n.mem

theorem tentative_pods_view (n : Node) : n.tentative.pods.view = n.pods.view :=
  XactMap.view_empty_over n.pods

/-- `n.Speculatively(modify)`, with whether it committed: `modify` changes the tentative node and
says whether to commit; committing replays its maps on the node's and takes its totals. -/
def speculatively (n : Node) (modify : Node → Except String (Node × Bool)) :
    Except String (Node × Bool) := do
  let (tmp, commit) ← modify n.tentative
  if commit then
    let labels ← committedParent tmp.labels
    let pods ← committedParent tmp.pods
    let migratablePods ← committedParent tmp.migratablePods
    pure ({ n with labels, pods, migratablePods, cpu := tmp.cpu, mem := tmp.mem }, true)
  else pure (n, false)

/-- `Speculatively` leaves the node as it was, or takes what the maps of the tentative node that
`modify` left hold, and its totals. -/
theorem speculatively_eq_ok {n n' : Node} {modify : Node → Except String (Node × Bool)}
    {committed : Bool} (ran : n.speculatively modify = .ok (n', committed)) :
    n' = n ∨ ∃ tmp, modify n.tentative = .ok (tmp, true) ∧ n'.pods.view = tmp.pods.view ∧
      n'.migratablePods.view = tmp.migratablePods.view ∧ n'.cpu = tmp.cpu ∧ n'.mem = tmp.mem := by
  unfold speculatively at ran
  obtain ⟨⟨tmp, commit⟩, modified, rest⟩ := bind_eq_ok.mp ran
  cases commit
  · simp only [Bool.false_eq_true, if_false, pure_eq_ok, Prod.mk.injEq] at rest
    exact .inl rest.1.symm
  · simp only [if_true] at rest
    obtain ⟨labels, -, rest⟩ := bind_eq_ok.mp rest
    obtain ⟨pods, podsCommitted, rest⟩ := bind_eq_ok.mp rest
    obtain ⟨migratablePods, migratableCommitted, rest⟩ := bind_eq_ok.mp rest
    simp only [pure_eq_ok, Prod.mk.injEq] at rest
    obtain ⟨rfl, -⟩ := rest
    exact .inr ⟨tmp, modified, committedParent_view podsCommitted,
      committedParent_view migratableCommitted, rfl, rfl⟩

/-- `n.Speculatively(modify)` for a `modify` that also sets a variable of its caller, as the
closures of `Filter` and `filterCheck` do: what it set comes back beside the result. -/
def speculativelyWith {α : Type} (n : Node) (modify : Node → Except String (Node × Bool × α)) :
    Except String ((Node × Bool) × α) := do
  let (tmp, commit, set) ← modify n.tentative
  let result ← n.speculatively (fun _ => pure (tmp, commit))
  pure (result, set)

theorem speculativelyWith_fst {α : Type} (n : Node) (modify : Node → Except String (Node × Bool × α)) :
    Prod.fst <$> n.speculativelyWith modify =
      n.speculatively (fun tmp => (fun r => (r.1, r.2.1)) <$> modify tmp) := by
  unfold speculativelyWith speculatively
  cases modified : modify n.tentative with
  | error e =>
    simp only [modified]
    rfl
  | ok r =>
    obtain ⟨tmp, commit, set⟩ := r
    cases commit <;> simp [modified]

/-- What `modify` set is what its run on the tentative node set. -/
theorem speculativelyWith_set {α : Type} {n : Node}
    {modify : Node → Except String (Node × Bool × α)} {result : Node × Bool} {set : α}
    (ran : n.speculativelyWith modify = .ok (result, set)) :
    ∃ tmp commit, modify n.tentative = .ok (tmp, commit, set) := by
  unfold speculativelyWith at ran
  obtain ⟨⟨tmp, commit, set'⟩, modified, rest⟩ := bind_eq_ok.mp ran
  obtain ⟨_, -, returned⟩ := bind_eq_ok.mp rest
  obtain ⟨-, rfl⟩ := Prod.mk.inj (pure_eq_ok.mp returned)
  exact ⟨tmp, commit, modified⟩

end Node

/-! ### Runs of changes -/

/-- A change made to a node through its methods or its exported `Labels` map; `speculatively`
makes its changes on the tentative node and then commits them or not. -/
inductive NodeOp
  | addPod (pod : Pod)
  | removePod (uid : String)
  | updatePod (oldPod newPod : Pod)
  | reconcilePodReserved (pod : Pod)
  | update (newState : Node)
  | setLabel (label value : String)
  | deleteLabel (label : String)
  | speculatively (modify : List NodeOp) (commit : Bool)

mutual

/-- The change, made on a node. -/
def NodeOp.run : NodeOp → Node → Except String Node
  | .addPod pod, n => n.addPod pod
  | .removePod uid, n => Prod.fst <$> n.removePod uid
  | .updatePod oldPod newPod, n => Prod.fst <$> n.updatePod oldPod newPod
  | .reconcilePodReserved pod, n => Prod.fst <$> n.reconcilePodReserved pod
  | .update newState, n => Prod.fst <$> n.update newState
  | .setLabel label value, n => pure { n with labels := n.labels.set label value }
  | .deleteLabel label, n => pure { n with labels := n.labels.delete label }
  | .speculatively modify commit, n =>
    Prod.fst <$> n.speculatively (fun tmp => (·, commit) <$> NodeOp.runAll modify tmp)

/-- The changes, made one after the other. -/
def NodeOp.runAll : List NodeOp → Node → Except String Node
  | [], n => pure n
  | op :: ops, n => do NodeOp.runAll ops (← op.run n)

end

mutual

/-- Whether the change is made as its callers make it: `ReconcilePodReserved` is given the pod
as the node stores it, and the changes a speculation makes are made so in turn. -/
def NodeOp.admissible : NodeOp → Node → Bool
  | .reconcilePodReserved pod, n => decide (n.pods.get pod.uid = some pod)
  | .speculatively modify _, n => NodeOp.admissibleAll modify n.tentative
  | _, _ => true

/-- Whether each change of the sequence is made so, from the node the previous ones leave. -/
def NodeOp.admissibleAll : List NodeOp → Node → Bool
  | [], _ => true
  | op :: ops, n => op.admissible n &&
    match op.run n with
    | .ok n' => NodeOp.admissibleAll ops n'
    | .error _ => true

end

end Autoscaling.Plugin.State
