import Autoscaling.Plugin.State.Node
import Autoscaling.Lib.Listing

/-!
# The node's running totals are sums over its pods

A node keeps `Reserved` and `Migrating` for CPU and memory as running totals that each operation
on a pod adjusts by the pod's amount after overcommit, rather than recomputing them. The
invariant `Accounted` says what those adjustments maintain: each total is the sum over the pods
the node holds, in the wrapping arithmetic of the unsigned type; the pods are held under their
UIDs with non-zero overcommit factors; and `migratablePods` holds exactly the UIDs of the
migratable pods.

The sums are over `offered`, the enumeration of what a transactional map holds; by the rules of
`Listing` they depend only on what the map holds, and change by one pod's amount when that pod
is added, removed or replaced. Each operation keeps the invariant, `Speculatively` because the
tentative node starts from the same holdings and committing hands them back; a run keeps it by
induction over the operations, speculations nested in them included.

Where the sum over all pods fits the unsigned type, the totals are the sums as integers,
`Migrating ≤ Reserved`, and neither `UnmigratedAboveWatermark` nor `MigratablePods` panics.
-/

namespace Autoscaling.Plugin.State

open Go

/-! ### Sums over what a map holds -/

namespace XactMap

variable {K V : Type} [DecidableEq K]

theorem offered_enumerates (m : XactMap K V) : Listing.Enumerates m.offered m.view :=
  ⟨offered_keys_nodup m, mem_offered m⟩

section Sum

variable {M : Type} [AddCommMonoid M] (weight : V → M)

/-- The sum of `weight` over the values the map holds. -/
def sumBy (m : XactMap K V) : M := (m.offered.map fun e => weight e.2).sum

theorem sumBy_congr {m m' : XactMap K V} (same : m.view = m'.view) :
    m.sumBy weight = m'.sumBy weight :=
  Listing.sum_eq _ (offered_enumerates m) ((offered_enumerates m').congr same.symm)

theorem sumBy_set_fresh {m : XactMap K V} {k : K} (fresh : m.view k = none) (v : V) :
    (m.set k v).sumBy weight = weight v + m.sumBy weight :=
  Listing.sum_insert (fun e => weight e.2) (offered_enumerates m) fresh
    ((offered_enumerates _).congr (view_set m k v))

theorem sumBy_delete {m : XactMap K V} {k : K} {v : V} (found : m.view k = some v) :
    m.sumBy weight = weight v + (m.delete k).sumBy weight :=
  Listing.sum_erase (fun e => weight e.2) (offered_enumerates m) found
    ((offered_enumerates _).congr (view_delete m k))

theorem sumBy_set_found {m : XactMap K V} {k : K} {v : V} (found : m.view k = some v) (v' : V) :
    (m.set k v').sumBy weight + weight v = m.sumBy weight + weight v' :=
  Listing.sum_replace (fun e => weight e.2) (offered_enumerates m) found
    ((offered_enumerates _).congr (view_set m k v'))

end Sum

variable {w : Nat}

/-- The sum of `weight`'s values as natural numbers, over the values the map holds. -/
def natSumBy (weight : V → BitVec w) (m : XactMap K V) : Nat :=
  (m.offered.map fun e => (weight e.2).toNat).sum

theorem toNat_sumBy (weight : V → BitVec w) (m : XactMap K V) :
    (m.sumBy weight).toNat = m.natSumBy weight % 2 ^ w :=
  toNat_sum m.offered fun e => weight e.2

theorem natSumBy_le {weight weight' : V → BitVec w}
    (le : ∀ v, (weight v).toNat ≤ (weight' v).toNat) (m : XactMap K V) :
    m.natSumBy weight ≤ m.natSumBy weight' :=
  List.sum_le_sum fun e _ => le e.2

end XactMap

/-! ### The totals of one resource -/

variable {w : Nat}

/-- `Reserved` and `Migrating` of a resource are the sums, over the pods held, of the amount
each pod counts for it, and of that of each migrating pod. -/
structure NodeResources.Totals (r : NodeResources w) (res : Pod → PodResources w)
    (pods : XactMap String Pod) : Prop where
  reserved : r.reserved = pods.sumBy fun pod => (res pod).charge
  migrating : r.migrating = pods.sumBy fun pod => if pod.migrating then (res pod).charge else 0

namespace NodeResources.Totals

variable {r r' r₁ : NodeResources w} {res : Pod → PodResources w} {pods : XactMap String Pod}
  {k : String} {pod pod' : Pod}

theorem congr (t : r.Totals res pods) {pods' : XactMap String Pod} (views : pods'.view = pods.view)
    (reserved : r'.reserved = r.reserved) (migrating : r'.migrating = r.migrating) :
    r'.Totals res pods' where
  reserved := by rw [reserved, t.reserved, XactMap.sumBy_congr _ views]
  migrating := by rw [migrating, t.migrating, XactMap.sumBy_congr _ views]

/-- Adding a pod under a fresh key adds its amounts. -/
theorem add (t : r.Totals res pods) (fresh : pods.view k = none)
    (added : r.add (res pod) pod.migrating = .ok r') : r'.Totals res (pods.set k pod) := by
  obtain ⟨-, rfl⟩ := account_eq_ok.mp added
  constructor
  · rw [XactMap.sumBy_set_fresh _ fresh, ← t.reserved, add_comm]
  · rw [XactMap.sumBy_set_fresh _ fresh, ← t.migrating]
    cases pod.migrating <;> simp [add_comm]

/-- Removing a pod takes its amounts away. -/
theorem remove (t : r.Totals res pods) (found : pods.view k = some pod)
    (removed : r.remove (res pod) pod.migrating = .ok r') : r'.Totals res (pods.delete k) := by
  obtain ⟨-, rfl⟩ := account_eq_ok.mp removed
  constructor
  · rw [t.reserved, XactMap.sumBy_delete _ found]
    exact add_sub_cancel_left _ _
  · rw [t.migrating, XactMap.sumBy_delete _ found]
    cases pod.migrating <;> simp

/-- Replacing a pod, its old amounts removed and its new ones added. -/
theorem replace (t : r.Totals res pods) (found : pods.view k = some pod)
    (sameMigrating : pod'.migrating = pod.migrating)
    (removed : r.remove (res pod) pod.migrating = .ok r₁)
    (added : r₁.add (res pod') pod.migrating = .ok r') : r'.Totals res (pods.set k pod') := by
  have gone := t.remove found removed
  -- setting over the deletion holds what setting over the pod would
  have views : (pods.set k pod').view = ((pods.delete k).set k pod').view := by
    rw [XactMap.view_set, XactMap.view_set, XactMap.view_delete, Function.update_idem]
  rw [← sameMigrating] at added
  exact (gone.add (by rw [XactMap.view_delete, Function.update_self]) added).congr views rfl rfl

/-- Replacing a pod by one that counts the same leaves the sums as they were. -/
theorem keep (t : r.Totals res pods) (found : pods.view k = some pod)
    (sameMigrating : pod'.migrating = pod.migrating) (sameRes : res pod' = res pod) :
    r.Totals res (pods.set k pod') := by
  constructor
  · have swapped := XactMap.sumBy_set_found (fun pod => (res pod).charge) found pod'
    rw [sameRes, ← t.reserved] at swapped
    exact (add_right_cancel swapped).symm
  · have swapped := XactMap.sumBy_set_found
      (fun pod => if pod.migrating then (res pod).charge else 0) found pod'
    rw [sameRes, sameMigrating, ← t.migrating] at swapped
    exact (add_right_cancel swapped).symm

/-- What `reconcilePod` does to the sums: the pod is replaced by one that counts the same, or
whose old amounts were removed and new ones added. -/
theorem reconcile (t : r.Totals res pods) (found : pods.view k = some pod)
    (sameMigrating : pod'.migrating = pod.migrating)
    (step : (r' = r ∧ res pod' = res pod) ∨
      ∃ r₁, r.remove (res pod) pod.migrating = .ok r₁ ∧ r₁.add (res pod') pod.migrating = .ok r') :
    r'.Totals res (pods.set k pod') := by
  rcases step with ⟨rfl, sameRes⟩ | ⟨r₁, removed, added⟩
  · exact t.keep found sameMigrating sameRes
  · exact t.replace found sameMigrating removed added

theorem migrating_le_charge (res : Pod → PodResources w) (pod : Pod) :
    (if pod.migrating then (res pod).charge else 0).toNat ≤ (res pod).charge.toNat := by
  split <;> simp

/-- Where the sum of the amounts fits the unsigned type, the totals are the sums as integers,
and `Migrating` is at most `Reserved`. -/
theorem toNat (t : r.Totals res pods)
    (fits : pods.natSumBy (fun pod => (res pod).charge) < 2 ^ w) :
    r.reserved.toNat = pods.natSumBy (fun pod => (res pod).charge) ∧
      r.migrating.toNat = pods.natSumBy (fun pod => if pod.migrating then (res pod).charge else 0) ∧
      r.migrating ≤ r.reserved := by
  have migratingLe := XactMap.natSumBy_le (migrating_le_charge res) pods
  have reserved : r.reserved.toNat = pods.natSumBy (fun pod => (res pod).charge) := by
    rw [t.reserved, XactMap.toNat_sumBy, Nat.mod_eq_of_lt fits]
  have migrating : r.migrating.toNat =
      pods.natSumBy (fun pod => if pod.migrating then (res pod).charge else 0) := by
    rw [t.migrating, XactMap.toNat_sumBy, Nat.mod_eq_of_lt (lt_of_le_of_lt migratingLe fits)]
  refine ⟨reserved, migrating, ?_⟩
  rw [BitVec.le_def, reserved, migrating]
  exact migratingLe

end NodeResources.Totals

/-! ### The invariant, and the operations that keep it -/

/-- What the node's bookkeeping keeps: each pod is held under its UID and has non-zero overcommit
factors, `migratablePods` holds exactly the UIDs of the migratable pods, and each resource's
`Reserved` and `Migrating` are the sums over the pods. -/
structure Accounted (n : Node) : Prop where
  keyed : ∀ uid pod, n.pods.view uid = some pod → pod.uid = uid
  overcommitted : ∀ uid pod, n.pods.view uid = some pod →
    pod.cpu.overcommit.milliValue ≠ 0 ∧ pod.mem.overcommit.milliValue ≠ 0
  migratable : ∀ uid, (n.migratablePods.view uid).isSome ↔
    ∃ pod, n.pods.view uid = some pod ∧ pod.migratable = true
  cpu : n.cpu.Totals (·.cpu) n.pods
  mem : n.mem.Totals (·.mem) n.pods

namespace Accounted

variable {n n' : Node}

/-- The invariant reads only what the maps hold and the two running totals of each resource. -/
theorem congr (acc : Accounted n) (pods : n'.pods.view = n.pods.view)
    (migratablePods : n'.migratablePods.view = n.migratablePods.view)
    (cpuReserved : n'.cpu.reserved = n.cpu.reserved)
    (cpuMigrating : n'.cpu.migrating = n.cpu.migrating)
    (memReserved : n'.mem.reserved = n.mem.reserved)
    (memMigrating : n'.mem.migrating = n.mem.migrating) : Accounted n' where
  keyed uid pod held := acc.keyed uid pod ((congrFun pods uid).symm.trans held)
  overcommitted uid pod held := acc.overcommitted uid pod ((congrFun pods uid).symm.trans held)
  migratable uid := by
    rw [migratablePods, pods]
    exact acc.migratable uid
  cpu := acc.cpu.congr pods cpuReserved cpuMigrating
  mem := acc.mem.congr pods memReserved memMigrating

theorem fromParams (watermark : WatermarkFn) (name : String) (totalCPU : BitVec 32)
    (totalMem : BitVec 64) (labels : GoMap String String) :
    Accounted (nodeStateFromParams watermark name totalCPU totalMem labels) where
  keyed uid pod held := by cases held
  overcommitted uid pod held := by cases held
  migratable uid := by simp [nodeStateFromParams, XactMap.newXactMap, XactMap.view]
  cpu := ⟨rfl, rfl⟩
  mem := ⟨rfl, rfl⟩

theorem fromK8sObj {watermark : WatermarkFn} {node : K8sNode} {keepLabels : List String}
    (built : nodeStateFromK8sObj watermark node keepLabels = .ok n) : Accounted n := by
  obtain ⟨totalCPU, totalMem, labels, rfl⟩ := nodeStateFromK8sObj_eq_ok built
  exact fromParams watermark node.name totalCPU totalMem labels

theorem addPod (acc : Accounted n) {pod : Pod} (added : n.addPod pod = .ok n') : Accounted n' := by
  obtain ⟨fresh, cpu, mem, cpuAdded, memAdded, rfl⟩ := Node.addPod_eq_ok added
  have migratableFresh : n.migratablePods.view pod.uid = none := by
    have held := acc.migratable pod.uid
    simp only [fresh, reduceCtorEq, false_and, exists_false, iff_false] at held
    simpa using held
  constructor
  · intro uid p held
    rw [XactMap.view_set] at held
    by_cases same : uid = pod.uid
    · subst same
      simp only [Function.update_self, Option.some.injEq] at held
      rw [← held]
    · rw [Function.update_of_ne same] at held
      exact acc.keyed uid p held
  · intro uid p held
    rw [XactMap.view_set] at held
    by_cases same : uid = pod.uid
    · subst same
      simp only [Function.update_self, Option.some.injEq] at held
      subst held
      exact ⟨(NodeResources.account_eq_ok.mp cpuAdded).1,
        (NodeResources.account_eq_ok.mp memAdded).1⟩
    · rw [Function.update_of_ne same] at held
      exact acc.overcommitted uid p held
  · -- the new pod's UID is migratable exactly when the pod is; no other UID changes
    intro uid
    by_cases same : uid = pod.uid
    · subst same
      cases isMigratable : pod.migratable <;>
        simp [XactMap.view_set, isMigratable, migratableFresh]
    · have before := acc.migratable uid
      cases pod.migratable <;> simpa [XactMap.view_set, Function.update_of_ne same] using before
  · exact acc.cpu.add fresh cpuAdded
  · exact acc.mem.add fresh memAdded

theorem removePod (acc : Accounted n) {uid : String} {existed : Bool}
    (removed : n.removePod uid = .ok (n', existed)) : Accounted n' := by
  rcases Node.removePod_eq_ok removed with
    ⟨-, rfl⟩ | ⟨pod, cpu, mem, found, cpuRemoved, memRemoved, rfl⟩
  · exact acc
  constructor
  · intro uid' p held
    rw [XactMap.view_delete] at held
    by_cases same : uid' = uid
    · subst same
      simp at held
    · exact acc.keyed uid' p (by rwa [Function.update_of_ne same] at held)
  · intro uid' p held
    rw [XactMap.view_delete] at held
    by_cases same : uid' = uid
    · subst same
      simp at held
    · exact acc.overcommitted uid' p (by rwa [Function.update_of_ne same] at held)
  · intro uid'
    by_cases same : uid' = uid
    · subst same
      simp [XactMap.view_delete]
    · simpa [XactMap.view_delete, Function.update_of_ne same] using acc.migratable uid'
  · exact acc.cpu.remove found cpuRemoved
  · exact acc.mem.remove found memRemoved

theorem updatePod (acc : Accounted n) {oldPod newPod : Pod} {changed : Bool}
    (updated : n.updatePod oldPod newPod = .ok (n', changed)) : Accounted n' := by
  obtain ⟨n₁, existed, removed, added⟩ := Node.updatePod_eq_ok updated
  exact (acc.removePod removed).addPod added

/-- The overcommit of a reconciled resource is one that an addition accepted, or the old one. -/
theorem reconciled_overcommit {r r' : NodeResources w} {p p' : PodResources w}
    {migrating : Bool} (old : p.overcommit.milliValue ≠ 0)
    (step : (r' = r ∧ p' = p) ∨ ∃ r₁, r.remove p migrating = .ok r₁ ∧ r₁.add p' migrating = .ok r') :
    p'.overcommit.milliValue ≠ 0 := by
  rcases step with ⟨-, rfl⟩ | ⟨_, -, added⟩
  · exact old
  · exact (NodeResources.account_eq_ok.mp added).1

/-- `ReconcilePodReserved` keeps the bookkeeping when it is given the pod as the node stores it:
it removes the amounts of the caller's copy. -/
theorem reconcilePodReserved (acc : Accounted n) {pod pod' : Pod} {done : Bool}
    (stored : n.pods.get pod.uid = some pod)
    (reconciled : n.reconcilePodReserved pod = .ok (n', pod', done)) : Accounted n' := by
  obtain ⟨cpu, podCPU, cpuDone, mem, podMem, memDone, cpuReconciled, memReconciled, rfl, rfl⟩ :=
    Node.reconcilePodReserved_eq_ok reconciled
  rw [XactMap.get_eq_view] at stored
  have cpuStep := NodeResources.reconcilePod_eq_ok cpuReconciled
  have memStep := NodeResources.reconcilePod_eq_ok memReconciled
  -- the pod keeps its UID, its flags and its overcommits; only its reserved amounts change
  constructor
  · intro uid p held
    rw [XactMap.view_set] at held
    by_cases same : uid = pod.uid
    · subst same
      simp only [Function.update_self, Option.some.injEq] at held
      rw [← held]
    · rw [Function.update_of_ne same] at held
      exact acc.keyed uid p held
  · intro uid p held
    rw [XactMap.view_set] at held
    by_cases same : uid = pod.uid
    · subst same
      simp only [Function.update_self, Option.some.injEq] at held
      subst held
      obtain ⟨cpuOld, memOld⟩ := acc.overcommitted _ _ stored
      exact ⟨reconciled_overcommit cpuOld cpuStep, reconciled_overcommit memOld memStep⟩
    · rw [Function.update_of_ne same] at held
      exact acc.overcommitted uid p held
  · intro uid
    by_cases same : uid = pod.uid
    · subst same
      simpa [XactMap.view_set, stored] using acc.migratable pod.uid
    · simpa [XactMap.view_set, Function.update_of_ne same] using acc.migratable uid
  · exact acc.cpu.reconcile stored rfl cpuStep
  · exact acc.mem.reconcile stored rfl memStep

theorem update (acc : Accounted n) {newState : Node} {changed : Bool}
    (updated : n.update newState = .ok (n', changed)) : Accounted n' := by
  obtain ⟨pods, migratablePods, cpuReserved, cpuMigrating, memReserved, memMigrating⟩ :=
    Node.update_eq_ok updated
  exact acc.congr (by rw [pods]) (by rw [migratablePods]) cpuReserved cpuMigrating memReserved
    memMigrating

theorem tentative (acc : Accounted n) : Accounted n.tentative :=
  acc.congr (XactMap.view_empty_over n.pods) (XactMap.view_empty_over n.migratablePods) rfl rfl
    rfl rfl

theorem speculatively (acc : Accounted n) {modify : Node → Except String (Node × Bool)}
    {committed : Bool}
    (keeps : ∀ tmp commit, modify n.tentative = .ok (tmp, commit) → Accounted tmp)
    (ran : n.speculatively modify = .ok (n', committed)) : Accounted n' := by
  rcases Node.speculatively_eq_ok ran with rfl | ⟨tmp, modified, pods, migratablePods, cpu, mem⟩
  · exact acc
  · exact (keeps tmp true modified).congr pods migratablePods (by rw [cpu]) (by rw [cpu])
      (by rw [mem]) (by rw [mem])

mutual

/-- Each change, made as its callers make it, keeps the bookkeeping; a speculation because the
changes it makes on the tentative node do. -/
theorem run : ∀ {op : NodeOp} {n n' : Node}, Accounted n → op.admissible n = true →
    op.run n = .ok n' → Accounted n'
  | .addPod _, _, _, acc, _, ran => acc.addPod ran
  | .removePod _, _, _, acc, _, ran => by
    obtain ⟨⟨_, _⟩, removed, rfl⟩ := map_eq_ok.mp ran
    exact acc.removePod removed
  | .updatePod _ _, _, _, acc, _, ran => by
    obtain ⟨⟨_, _⟩, updated, rfl⟩ := map_eq_ok.mp ran
    exact acc.updatePod updated
  | .reconcilePodReserved _, _, _, acc, admissible, ran => by
    obtain ⟨⟨_, _, _⟩, reconciled, rfl⟩ := map_eq_ok.mp ran
    exact acc.reconcilePodReserved (of_decide_eq_true admissible) reconciled
  | .update _, _, _, acc, _, ran => by
    obtain ⟨⟨_, _⟩, updated, rfl⟩ := map_eq_ok.mp ran
    exact acc.update updated
  -- the labels take no part in the bookkeeping
  | .setLabel _ _, _, _, acc, _, ran => by
    obtain rfl := pure_eq_ok.mp ran
    exact acc.congr rfl rfl rfl rfl rfl rfl
  | .deleteLabel _, _, _, acc, _, ran => by
    obtain rfl := pure_eq_ok.mp ran
    exact acc.congr rfl rfl rfl rfl rfl rfl
  | .speculatively _ _, _, _, acc, admissible, ran => by
    obtain ⟨⟨_, _⟩, speculated, rfl⟩ := map_eq_ok.mp ran
    refine acc.speculatively (fun tmp commit modified => ?_) speculated
    obtain ⟨tmp', ranAll, same⟩ := map_eq_ok.mp modified
    obtain ⟨rfl, -⟩ := Prod.mk.inj same
    exact acc.tentative.runAll admissible ranAll

/-- ... and so does a sequence of them. -/
theorem runAll : ∀ {ops : List NodeOp} {n n' : Node}, Accounted n →
    NodeOp.admissibleAll ops n = true → NodeOp.runAll ops n = .ok n' → Accounted n'
  | [], _, _, acc, _, ran => by
    cases ran
    exact acc
  | _ :: _, _, _, acc, admissible, ran => by
    obtain ⟨n₁, first, rest⟩ := bind_eq_ok.mp ran
    simp only [NodeOp.admissibleAll, first, Bool.and_eq_true] at admissible
    exact (acc.run admissible.1 first).runAll admissible.2 rest

end

/-- `MigratablePods` finds a pod for each UID it walks, so it never panics. -/
theorem rangeMigratablePods_ok (acc : Accounted n) {σ : Type}
    (body : σ → String × Pod → σ × Bool) (st : σ) : ∃ st', n.rangeMigratablePods body st = .ok st' := by
  refine XactMap.rangeEntries_state _ _ n.migratablePods
    (fun (acc : Except String σ) => ∃ st', acc = .ok st')
    (fun walked e s inv within current => ?_) ⟨st, rfl⟩
  obtain ⟨st', rfl⟩ := inv
  -- a UID still in the map is one the node had at the start of the loop
  obtain ⟨pod, held, -⟩ := (acc.migratable e.1).mp (by rw [within.view e.1 e.2 current]; rfl)
  rw [← XactMap.get_eq_view] at held
  exact ⟨(body st' (e.1, pod)).1, by simp only [held]⟩

end Accounted

/-! ### The bookkeeping of every node the plugin builds -/

/-- For every node built by `NodeStateFromParams` or `NodeStateFromK8sObj` and changed by a
sequence of the node's operations, speculations included, committed or not, each
`ReconcilePodReserved` given the pod as stored: each pod is held under its UID, with an
overcommit for which `applyOvercommit` does not panic; CPU's and memory's `Reserved` are the
sums over the pods of `applyOvercommit` of their reserved amounts, and `Migrating` the same sums
over the migrating pods, in the unsigned types' arithmetic; `migratablePods` holds exactly the
UIDs of the migratable pods. Where the sum over all pods fits the unsigned type, the totals are
the sums as integers, `Migrating ≤ Reserved`, and `UnmigratedAboveWatermark` does not panic; and
`MigratablePods` never does. -/
theorem node_totals_are_pod_sums (watermark : WatermarkFn) {start n : Node} {ops : List NodeOp}
    (built : (∃ name totalCPU totalMem labels,
        start = nodeStateFromParams watermark name totalCPU totalMem labels) ∨
      ∃ node keepLabels, nodeStateFromK8sObj watermark node keepLabels = .ok start)
    (admissible : NodeOp.admissibleAll ops start = true)
    (ran : NodeOp.runAll ops start = .ok n) :
    (∀ uid pod, n.pods.get uid = some pod → pod.uid = uid ∧
      applyOvercommit pod.cpu.reserved pod.cpu.overcommit = .ok pod.cpu.charge ∧
      applyOvercommit pod.mem.reserved pod.mem.overcommit = .ok pod.mem.charge) ∧
    n.cpu.reserved = n.pods.sumBy (·.cpu.charge) ∧
    n.cpu.migrating = n.pods.sumBy (fun pod => if pod.migrating then pod.cpu.charge else 0) ∧
    n.mem.reserved = n.pods.sumBy (·.mem.charge) ∧
    n.mem.migrating = n.pods.sumBy (fun pod => if pod.migrating then pod.mem.charge else 0) ∧
    (∀ uid, (n.migratablePods.get uid).isSome ↔
      ∃ pod, n.pods.get uid = some pod ∧ pod.migratable = true) ∧
    (n.pods.natSumBy (·.cpu.charge) < 2 ^ 32 →
      n.cpu.reserved.toNat = n.pods.natSumBy (·.cpu.charge) ∧
      n.cpu.migrating.toNat =
        n.pods.natSumBy (fun pod => if pod.migrating then pod.cpu.charge else 0) ∧
      n.cpu.migrating ≤ n.cpu.reserved ∧
      n.cpu.unmigratedAboveWatermark =
        .ok (saturatingSub (n.cpu.reserved - n.cpu.migrating) n.cpu.watermark)) ∧
    (n.pods.natSumBy (·.mem.charge) < 2 ^ 64 →
      n.mem.reserved.toNat = n.pods.natSumBy (·.mem.charge) ∧
      n.mem.migrating.toNat =
        n.pods.natSumBy (fun pod => if pod.migrating then pod.mem.charge else 0) ∧
      n.mem.migrating ≤ n.mem.reserved ∧
      n.mem.unmigratedAboveWatermark =
        .ok (saturatingSub (n.mem.reserved - n.mem.migrating) n.mem.watermark)) ∧
    ∀ (σ : Type) (body : σ → String × Pod → σ × Bool) (st : σ),
      ∃ st', n.rangeMigratablePods body st = .ok st' := by
  have initial : Accounted start := by
    rcases built with ⟨name, totalCPU, totalMem, labels, rfl⟩ | ⟨node, keepLabels, fromObj⟩
    · exact Accounted.fromParams watermark name totalCPU totalMem labels
    · exact Accounted.fromK8sObj fromObj
  have acc := initial.runAll admissible ran
  refine ⟨fun uid pod held => ?_, acc.cpu.reserved, acc.cpu.migrating, acc.mem.reserved,
    acc.mem.migrating, fun uid => ?_, fun fits => ?_, fun fits => ?_,
    fun σ body st => acc.rangeMigratablePods_ok body st⟩
  · rw [XactMap.get_eq_view] at held
    obtain ⟨cpuNonzero, memNonzero⟩ := acc.overcommitted uid pod held
    exact ⟨acc.keyed uid pod held, applyOvercommit_eq_ok.mpr ⟨cpuNonzero, rfl⟩,
      applyOvercommit_eq_ok.mpr ⟨memNonzero, rfl⟩⟩
  · rw [XactMap.get_eq_view, XactMap.get_eq_view]
    exact acc.migratable uid
  · obtain ⟨reserved, migrating, le⟩ := acc.cpu.toNat fits
    exact ⟨reserved, migrating, le, NodeResources.unmigratedAboveWatermark_of_le le⟩
  · obtain ⟨reserved, migrating, le⟩ := acc.mem.toNat fits
    exact ⟨reserved, migrating, le, NodeResources.unmigratedAboveWatermark_of_le le⟩

/-- A pod as `node_test.go` builds them, migratable and migrating as given, without overcommit
(`1000m`), with factors of `250m` and `1 GiB`. -/
def samplePod (uid : String) (cpuReserved cpuRequested : BitVec 32) (mem : BitVec 64)
    (migrating : Bool) : Pod where
  namespacedName := ⟨"test-namespace", uid⟩
  uid := uid
  createdAt := 0
  virtualMachine := ⟨"test-namespace", uid⟩
  migratable := migrating
  alwaysMigrate := false
  migrating := migrating
  cpu := ⟨cpuReserved, cpuRequested, 250, ⟨1, 1000⟩⟩
  mem := ⟨mem, mem, 2 ^ 30, ⟨1, 1000⟩⟩

/-- `node_test.go`'s node of 10 CPUs and 40 GiB, with a watermark of 80%. -/
def sampleNode : Node :=
  nodeStateFromParams (fun _ total => total / 5 * 4) "node-1" 10000 (40 * 2 ^ 30) ∅

/-- Two pods added, one of them migrating; a committed speculation replacing the other by a pod
that asks for more CPU than it has; and that pod's reservation reconciled. -/
def sampleOps : List NodeOp :=
  [.addPod (samplePod "pod-1" 2000 2000 (8 * 2 ^ 30) false),
   .addPod (samplePod "pod-2" 1000 1000 (4 * 2 ^ 30) true),
   .speculatively [.removePod "pod-1", .addPod (samplePod "pod-3" 3000 4000 (12 * 2 ^ 30) false)]
     true,
   .reconcilePodReserved (samplePod "pod-3" 3000 4000 (12 * 2 ^ 30) false)]

theorem node_totals_are_pod_sums_sample :
    ∃ n, NodeOp.runAll sampleOps sampleNode = .ok n ∧
      n.cpu.migrating ≤ n.cpu.reserved ∧ n.mem.migrating ≤ n.mem.reserved ∧
      n.cpu.reserved.toNat = n.pods.natSumBy (·.cpu.charge) := by
  have computed : (NodeOp.runAll sampleOps sampleNode).toOption.map (fun n =>
      decide (n.pods.natSumBy (·.cpu.charge) < 2 ^ 32) &&
        decide (n.pods.natSumBy (·.mem.charge) < 2 ^ 64)) = some true := by decide +kernel
  cases ran : NodeOp.runAll sampleOps sampleNode with
  | error e =>
    rw [ran] at computed
    simp [Except.toOption] at computed
  | ok n =>
    rw [ran] at computed
    simp only [Except.toOption, Option.map_some, Option.some.injEq, Bool.and_eq_true,
      decide_eq_true_eq] at computed
    obtain ⟨-, -, -, -, -, -, cpuFits, memFits, -⟩ :=
      node_totals_are_pod_sums _ (.inl ⟨_, _, _, _, rfl⟩) (by decide +kernel) ran
    obtain ⟨cpuReserved, -, cpuLe, -⟩ := cpuFits computed.1
    exact ⟨n, rfl, cpuLe, (memFits computed.2).2.2.1, cpuReserved⟩

end Autoscaling.Plugin.State
