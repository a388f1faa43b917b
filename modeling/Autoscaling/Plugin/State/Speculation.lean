import Autoscaling.Plugin.State.Accounting

/-!
# `Speculatively` is atomic (`pkg/plugin/state/node.go`)

`Speculatively` runs `modify` on a tentative node whose maps are new transactions over the
node's, and commits them only when `modify` says so. Every operation of a node reads its maps
through `Get` and `Entries()` alone, and a transaction shows what it was opened on; so the
tentative run and a run of the same operations on the node itself take the same branches, panic
alike, and end in nodes that hold the same, the tentative one in layers and the other flat.
Committing replays each layer onto the node's own map. A committed speculation therefore ends
where the direct run ends, and one that is dropped leaves the node as it was.

`Node.Same` is the relation between the two runs, and each operation keeps it (`Same.run`);
`Node.frame` is what no operation changes: the node's name and the map each of its maps is a
transaction over, which is what lets every commit find its parent.
-/

namespace Autoscaling.Plugin.State

open Go

namespace Node

/-- Two nodes that hold the same: the same name, the same labels, pods and migratable pods as
their maps show them, and the same resources. -/
structure Same (a b : Node) : Prop where
  name : a.name = b.name
  labels : a.labels.view = b.labels.view
  pods : a.pods.view = b.pods.view
  migratablePods : a.migratablePods.view = b.migratablePods.view
  cpu : a.cpu = b.cpu
  mem : a.mem = b.mem

/-- Two results of an operation that returns a value beside the node: the same value, and nodes
that hold the same. -/
def SameResult {α : Type} (x y : Node × α) : Prop := Same x.1 y.1 ∧ x.2 = y.2

theorem Same.symm {a b : Node} (same : Same a b) : Same b a :=
  ⟨same.name.symm, same.labels.symm, same.pods.symm, same.migratablePods.symm, same.cpu.symm,
    same.mem.symm⟩

theorem Same.trans {a b c : Node} (first : Same a b) (second : Same b c) : Same a c :=
  ⟨first.name.trans second.name, first.labels.trans second.labels, first.pods.trans second.pods,
    first.migratablePods.trans second.migratablePods, first.cpu.trans second.cpu,
    first.mem.trans second.mem⟩

/-- The tentative node holds what the node holds. -/
theorem same_tentative (n : Node) : Same n.tentative n :=
  ⟨rfl, XactMap.view_empty_over _, XactMap.view_empty_over _, XactMap.view_empty_over _, rfl, rfl⟩

theorem Same.tentative {a b : Node} (same : Same a b) : Same a.tentative b.tentative :=
  ((same_tentative a).trans same).trans (same_tentative b).symm

/-! ### Each operation, on nodes that hold the same -/

section Operations

variable {a b : Node} (same : Same a b)
include same

theorem Same.addPod (pod : Pod) : Agree Same (a.addPod pod) (b.addPod pod) := by
  unfold Node.addPod
  dsimp only
  rw [XactMap.get_eq_view, XactMap.get_eq_view, same.pods, same.cpu, same.mem]
  split
  · exact Agree.throw _
  · refine Agree.bind (Agree.refl _) fun cpu _ cpuSame => ?_
    refine Agree.bind (Agree.refl _) fun mem _ memSame => ?_
    subst cpuSame memSame
    refine Agree.pure ⟨same.name, same.labels, ?_, ?_, rfl, rfl⟩
    · simp only [XactMap.view_set, same.pods]
    · split <;> simp only [XactMap.view_set, same.migratablePods]

theorem Same.removePod (uid : String) : Agree SameResult (a.removePod uid) (b.removePod uid) := by
  unfold Node.removePod
  dsimp only
  rw [XactMap.get_eq_view, XactMap.get_eq_view, same.pods, same.cpu, same.mem]
  split
  · exact Agree.pure ⟨same, rfl⟩
  · refine Agree.bind (Agree.refl _) fun cpu _ cpuSame => ?_
    refine Agree.bind (Agree.refl _) fun mem _ memSame => ?_
    subst cpuSame memSame
    refine Agree.pure ⟨⟨same.name, same.labels, ?_, ?_, rfl, rfl⟩, rfl⟩
    · simp only [XactMap.view_delete, same.pods]
    · simp only [XactMap.view_delete, same.migratablePods]

theorem Same.updatePod (oldPod newPod : Pod) :
    Agree SameResult (a.updatePod oldPod newPod) (b.updatePod oldPod newPod) := by
  unfold Node.updatePod
  dsimp only
  rw [XactMap.get_eq_view, XactMap.get_eq_view, same.pods]
  -- the checks read only the pods and the pods as the node shows them
  split_ifs
  all_goals first
    | exact Agree.throw _
    | refine Agree.bind (same.removePod oldPod.uid) fun x y removed => ?_
      obtain ⟨x₁, _⟩ := x
      obtain ⟨y₁, _⟩ := y
      exact Agree.bind (removed.1.addPod newPod) fun _ _ added => Agree.pure ⟨added, rfl⟩

theorem Same.reconcilePodReserved (pod : Pod) :
    Agree SameResult (a.reconcilePodReserved pod) (b.reconcilePodReserved pod) := by
  unfold Node.reconcilePodReserved
  dsimp only
  rw [XactMap.get_eq_view, XactMap.get_eq_view, same.pods, same.cpu, same.mem]
  split
  · exact Agree.throw _
  · refine Agree.bind (Agree.refl _) fun cpu _ cpuSame => ?_
    refine Agree.bind (Agree.refl _) fun mem _ memSame => ?_
    subst cpuSame memSame
    refine Agree.pure ⟨⟨same.name, same.labels, ?_, same.migratablePods, rfl, rfl⟩, rfl⟩
    simp only [XactMap.view_set, same.pods]

theorem Same.update (newState : Node) :
    Agree SameResult (a.update newState) (b.update newState) := by
  by_cases sameName : a.name = newState.name
  · -- both make their labels those of `newState`, and find the same change
    obtain ⟨labelsA, changed, viewA, -, flagA, updatedA⟩ := update_spec a newState sameName
    obtain ⟨labelsB, changedB, viewB, -, flagB, updatedB⟩ :=
      update_spec b newState (same.name ▸ sameName)
    obtain rfl : changed = changedB := by
      rw [Bool.eq_iff_iff, flagA, flagB, same.cpu, same.mem, same.labels]
    rw [updatedA, updatedB]
    have labels : labelsA.view = labelsB.view := viewA.trans viewB.symm
    cases changed
    · exact ⟨⟨same.name, labels, same.pods, same.migratablePods, same.cpu, same.mem⟩, rfl⟩
    · -- with a change both take the new totals and watermarks
      refine ⟨⟨same.name, labels, same.pods, same.migratablePods, ?_, ?_⟩, rfl⟩
      · simp only [if_true, same.cpu]
      · simp only [if_true, same.mem]
  · have otherName : b.name ≠ newState.name := same.name ▸ sameName
    unfold Node.update
    rw [if_pos sameName, if_pos otherName]
    exact Agree.throw _

end Operations

/-! ### What no operation changes -/

/-- The node's name, and the map each of its maps is a transaction over. -/
def frame (n : Node) :
    String × Option (XactMap String String) × Option (XactMap String Pod) ×
      Option (XactMap String Unit) :=
  (n.name, n.labels.parent, n.pods.parent, n.migratablePods.parent)

theorem frame_addPod {n n' : Node} {pod : Pod} (added : n.addPod pod = .ok n') :
    n'.frame = n.frame := by
  obtain ⟨-, cpu, mem, -, -, rfl⟩ := addPod_eq_ok added
  cases pod.migratable <;> simp [frame]

theorem frame_removePod {n n' : Node} {uid : String} {existed : Bool}
    (removed : n.removePod uid = .ok (n', existed)) : n'.frame = n.frame := by
  rcases removePod_eq_ok removed with ⟨-, rfl⟩ | ⟨pod, cpu, mem, -, -, -, rfl⟩
  · rfl
  · simp [frame]

theorem frame_updatePod {n n' : Node} {oldPod newPod : Pod} {changed : Bool}
    (updated : n.updatePod oldPod newPod = .ok (n', changed)) : n'.frame = n.frame := by
  obtain ⟨n₁, _, removed, added⟩ := updatePod_eq_ok updated
  exact (frame_addPod added).trans (frame_removePod removed)

theorem frame_reconcilePodReserved {n n' : Node} {pod pod' : Pod} {done : Bool}
    (reconciled : n.reconcilePodReserved pod = .ok (n', pod', done)) : n'.frame = n.frame := by
  obtain ⟨cpu, -, -, mem, -, -, -, -, -, rfl⟩ := reconcilePodReserved_eq_ok reconciled
  simp [frame]

theorem frame_update {n n' newState : Node} {changed : Bool}
    (updated : n.update newState = .ok (n', changed)) : n'.frame = n.frame := by
  by_cases sameName : n.name = newState.name
  · obtain ⟨labels, changed', -, parent, -, spec⟩ := update_spec n newState sameName
    rw [spec] at updated
    obtain ⟨rfl, -⟩ := Prod.mk.inj (Except.ok.inj updated)
    cases changed' <;> simp [frame, parent]
  · unfold Node.update at updated
    rw [if_pos sameName] at updated
    cases updated

/-- A speculation that commits takes the committed maps, which hold what the tentative maps held,
over the parents the node's maps had. -/
theorem speculatively_of_commit {n tmp : Node} {modify : Node → Except String (Node × Bool)}
    (modified : modify n.tentative = .ok (tmp, true)) (framed : tmp.frame = n.tentative.frame) :
    ∃ labels pods migratablePods,
      n.speculatively modify =
        .ok ({ n with labels, pods, migratablePods, cpu := tmp.cpu, mem := tmp.mem }, true) ∧
      labels.view = tmp.labels.view ∧ labels.parent = n.labels.parent ∧
      pods.view = tmp.pods.view ∧ pods.parent = n.pods.parent ∧
      migratablePods.view = tmp.migratablePods.view ∧
      migratablePods.parent = n.migratablePods.parent := by
  simp only [frame, tentative, XactMap.newTransaction, Prod.mk.injEq] at framed
  obtain ⟨-, labelsParent, podsParent, migratableParent⟩ := framed
  obtain ⟨labels, labelsCommitted, labelsView, labelsGrand⟩ :=
    committedParent_of_parent labelsParent
  obtain ⟨pods, podsCommitted, podsView, podsGrand⟩ := committedParent_of_parent podsParent
  obtain ⟨migratablePods, migratableCommitted, migratableView, migratableGrand⟩ :=
    committedParent_of_parent migratableParent
  refine ⟨labels, pods, migratablePods, ?_, labelsView, labelsGrand, podsView, podsGrand,
    migratableView, migratableGrand⟩
  simp only [speculatively, modified, ok_bind, if_true, labelsCommitted, podsCommitted,
    migratableCommitted]
  rfl

theorem speculatively_of_discarded {n tmp : Node} {modify : Node → Except String (Node × Bool)}
    (modified : modify n.tentative = .ok (tmp, false)) : n.speculatively modify = .ok (n, false) := by
  simp [speculatively, modified]

theorem speculatively_of_error {n : Node} {modify : Node → Except String (Node × Bool)}
    {e : String} (modified : modify n.tentative = .error e) :
    n.speculatively modify = .error e := by
  simp only [speculatively, modified]
  rfl

end Node

/-! ### Runs of changes -/

/-- The `modify` of a speculation made of changes: the changes, one after the other on the node it
is handed, and then whether to commit, decided on the node they leave. -/
def NodeOp.modify (ops : List NodeOp) (commit : Node → Bool) (tmp : Node) :
    Except String (Node × Bool) :=
  (fun t => (t, commit t)) <$> NodeOp.runAll ops tmp

/-- A speculation among the changes commits or not as its flag says. -/
theorem NodeOp.run_speculatively (ops : List NodeOp) (commit : Bool) (n : Node) :
    NodeOp.run (.speculatively ops commit) n =
      Prod.fst <$> n.speculatively (NodeOp.modify ops fun _ => commit) :=
  rfl

theorem NodeOp.modify_eq_ok {ops : List NodeOp} {commit : Node → Bool} {tmp t : Node}
    {decided : Bool} :
    NodeOp.modify ops commit tmp = .ok (t, decided) ↔
      NodeOp.runAll ops tmp = .ok t ∧ commit t = decided := by
  unfold NodeOp.modify
  cases NodeOp.runAll ops tmp with
  | error e => simp [Functor.map, Except.map]
  | ok r =>
    simp only [Functor.map, Except.map, Except.ok.injEq, Prod.mk.injEq]
    constructor
    · rintro ⟨rfl, rfl⟩
      exact ⟨rfl, rfl⟩
    · rintro ⟨rfl, rfl⟩
      exact ⟨rfl, rfl⟩

theorem NodeOp.modify_eq_error {ops : List NodeOp} {commit : Node → Bool} {tmp : Node}
    {e : String} : NodeOp.modify ops commit tmp = .error e ↔ NodeOp.runAll ops tmp = .error e := by
  unfold NodeOp.modify
  cases NodeOp.runAll ops tmp with
  | error e' => simp [Functor.map, Except.map]
  | ok r => simp [Functor.map, Except.map]

mutual

/-- No change alters what `frame` records; a speculation because what it commits sits over the
node's own parents. -/
theorem NodeOp.frame_run : ∀ {op : NodeOp} {n n' : Node}, op.run n = .ok n' → n'.frame = n.frame
  | .addPod _, _, _, ran => Node.frame_addPod ran
  | .removePod _, _, _, ran => by
    obtain ⟨⟨_, _⟩, removed, rfl⟩ := map_eq_ok.mp ran
    exact Node.frame_removePod removed
  | .updatePod _ _, _, _, ran => by
    obtain ⟨⟨_, _⟩, updated, rfl⟩ := map_eq_ok.mp ran
    exact Node.frame_updatePod updated
  | .reconcilePodReserved _, _, _, ran => by
    obtain ⟨⟨_, _, _⟩, reconciled, rfl⟩ := map_eq_ok.mp ran
    exact Node.frame_reconcilePodReserved reconciled
  | .update _, _, _, ran => by
    obtain ⟨⟨_, _⟩, updated, rfl⟩ := map_eq_ok.mp ran
    exact Node.frame_update updated
  | .setLabel _ _, _, _, ran => by
    obtain rfl := pure_eq_ok.mp ran
    rfl
  | .deleteLabel _, _, _, ran => by
    obtain rfl := pure_eq_ok.mp ran
    simp [Node.frame]
  | .speculatively ops commit, n, _, ran => by
    rw [NodeOp.run_speculatively] at ran
    obtain ⟨⟨n', _⟩, speculated, rfl⟩ := map_eq_ok.mp ran
    cases ranAll : NodeOp.runAll ops n.tentative with
    | error e =>
      rw [Node.speculatively_of_error (NodeOp.modify_eq_error.mpr ranAll)] at speculated
      cases speculated
    | ok tmp =>
      have modified : NodeOp.modify ops (fun _ => commit) n.tentative = .ok (tmp, commit) :=
        NodeOp.modify_eq_ok.mpr ⟨ranAll, rfl⟩
      cases commit
      · rw [Node.speculatively_of_discarded modified] at speculated
        obtain ⟨rfl, -⟩ := Prod.mk.inj (Except.ok.inj speculated)
        rfl
      · -- what is committed sits over the node's own parents
        obtain ⟨labels, pods, migratablePods, committed, -, labelsParent, -, podsParent, -,
          migratableParent⟩ := Node.speculatively_of_commit modified (NodeOp.frame_runAll ranAll)
        rw [committed] at speculated
        obtain ⟨rfl, -⟩ := Prod.mk.inj (Except.ok.inj speculated)
        simp [Node.frame, labelsParent, podsParent, migratableParent]

/-- ... nor does a sequence of them. -/
theorem NodeOp.frame_runAll : ∀ {ops : List NodeOp} {n n' : Node},
    NodeOp.runAll ops n = .ok n' → n'.frame = n.frame
  | [], _, _, ran => by
    cases ran
    rfl
  | _ :: _, _, _, ran => by
    obtain ⟨n₁, first, rest⟩ := bind_eq_ok.mp ran
    exact (NodeOp.frame_runAll rest).trans (NodeOp.frame_run first)

end

mutual

/-- Each change, made on two nodes that hold the same, panics alike or leaves two nodes that hold
the same; a speculation because its tentative runs do, and each commit finds its parent. -/
theorem Node.Same.run : ∀ (op : NodeOp) {a b : Node}, Node.Same a b →
    Agree Node.Same (op.run a) (op.run b)
  | .addPod pod, _, _, same => same.addPod pod
  | .removePod uid, _, _, same => (same.removePod uid).map fun _ _ removed => removed.1
  | .updatePod oldPod newPod, _, _, same =>
    (same.updatePod oldPod newPod).map fun _ _ updated => updated.1
  | .reconcilePodReserved pod, _, _, same =>
    (same.reconcilePodReserved pod).map fun _ _ reconciled => reconciled.1
  | .update newState, _, _, same => (same.update newState).map fun _ _ updated => updated.1
  | .setLabel label value, _, _, same =>
    Agree.pure ⟨same.name, by simp only [XactMap.view_set, same.labels], same.pods,
      same.migratablePods, same.cpu, same.mem⟩
  | .deleteLabel label, _, _, same =>
    Agree.pure ⟨same.name, by simp only [XactMap.view_delete, same.labels], same.pods,
      same.migratablePods, same.cpu, same.mem⟩
  | .speculatively ops commit, a, b, same => by
    rw [NodeOp.run_speculatively, NodeOp.run_speculatively]
    have tentative := Node.Same.runAll ops same.tentative
    cases ranA : NodeOp.runAll ops a.tentative with
    | error e =>
      -- both tentative runs panic, and so do both speculations
      have ranB := tentative.error_iff.mp ranA
      rw [Node.speculatively_of_error (NodeOp.modify_eq_error.mpr ranA),
        Node.speculatively_of_error (NodeOp.modify_eq_error.mpr ranB)]
      rfl
    | ok tmpA =>
      obtain ⟨tmpB, ranB, sameTmp⟩ := tentative.exists_of_ok ranA
      have modifiedA : NodeOp.modify ops (fun _ => commit) a.tentative = .ok (tmpA, commit) :=
        NodeOp.modify_eq_ok.mpr ⟨ranA, rfl⟩
      have modifiedB : NodeOp.modify ops (fun _ => commit) b.tentative = .ok (tmpB, commit) :=
        NodeOp.modify_eq_ok.mpr ⟨ranB, rfl⟩
      cases commit
      · rw [Node.speculatively_of_discarded modifiedA, Node.speculatively_of_discarded modifiedB]
        exact same
      · -- both commits find their parents and take what the tentative nodes hold
        obtain ⟨labelsA, podsA, migratableA, committedA, labelsViewA, -, podsViewA, -,
          migratableViewA, -⟩ := Node.speculatively_of_commit modifiedA (NodeOp.frame_runAll ranA)
        obtain ⟨labelsB, podsB, migratableB, committedB, labelsViewB, -, podsViewB, -,
          migratableViewB, -⟩ := Node.speculatively_of_commit modifiedB (NodeOp.frame_runAll ranB)
        rw [committedA, committedB]
        exact ⟨same.name, by rw [labelsViewA, labelsViewB, sameTmp.labels],
          by rw [podsViewA, podsViewB, sameTmp.pods],
          by rw [migratableViewA, migratableViewB, sameTmp.migratablePods], sameTmp.cpu,
          sameTmp.mem⟩

/-- ... and so does a sequence of them. -/
theorem Node.Same.runAll : ∀ (ops : List NodeOp) {a b : Node}, Node.Same a b →
    Agree Node.Same (NodeOp.runAll ops a) (NodeOp.runAll ops b)
  | [], _, _, same => Agree.pure same
  | op :: ops, _, _, same =>
    Agree.bind (Node.Same.run op same) fun _ _ first => Node.Same.runAll ops first

end

/-- `Speculatively` is atomic: with `modify` made of the node's changes and a decision on the
node they leave, a speculation that `modify` drops leaves the node exactly as it was; one in which
`modify` panics panics with the same message, as the same changes made on the node itself do;
and one that `modify` commits ends in a node holding what the same changes made on the node
itself leave: the same name, labels, pods, migratable pods, CPU and memory. -/
theorem speculatively_atomic (n : Node) (ops : List NodeOp) (commit : Node → Bool) :
    (∀ tmp, NodeOp.modify ops commit n.tentative = .ok (tmp, false) →
      n.speculatively (NodeOp.modify ops commit) = .ok (n, false)) ∧
    (∀ e, NodeOp.modify ops commit n.tentative = .error e →
      n.speculatively (NodeOp.modify ops commit) = .error e ∧ NodeOp.runAll ops n = .error e) ∧
    (∀ tmp, NodeOp.modify ops commit n.tentative = .ok (tmp, true) →
      ∃ n' n'', n.speculatively (NodeOp.modify ops commit) = .ok (n', true) ∧
        NodeOp.runAll ops n = .ok n'' ∧ Node.Same n' n'') := by
  -- the tentative run and the direct one agree
  have agree := Node.Same.runAll ops (Node.same_tentative n)
  refine ⟨fun tmp dropped => Node.speculatively_of_discarded dropped,
    fun e panicked => ⟨Node.speculatively_of_error panicked, ?_⟩, fun tmp committed => ?_⟩
  · exact agree.error_iff.mp (NodeOp.modify_eq_error.mp panicked)
  · obtain ⟨ranAll, -⟩ := NodeOp.modify_eq_ok.mp committed
    obtain ⟨n'', direct, sameDirect⟩ := agree.exists_of_ok ranAll
    obtain ⟨labels, pods, migratablePods, speculated, labelsView, -, podsView, -,
      migratableView, -⟩ := Node.speculatively_of_commit committed (NodeOp.frame_runAll ranAll)
    -- the committed node holds what the tentative one held, which the direct run holds too
    have name : tmp.name = n.name := congrArg Prod.fst (NodeOp.frame_runAll ranAll)
    refine ⟨_, n'', speculated, direct, ?_⟩
    exact Node.Same.trans ⟨name.symm, labelsView, podsView, migratableView, rfl, rfl⟩ sameDirect

/-- `TestSpeculativeNodeOperations`: a pod added, then replaced by a larger one. -/
def replacingOps : List NodeOp :=
  [.addPod (samplePod "pod-1" 2000 2000 (8 * 2 ^ 30) false), .removePod "pod-1",
   .addPod (samplePod "pod-2" 3000 3000 (12 * 2 ^ 30) false)]

theorem speculatively_atomic_sample :
    ∃ n' n'', sampleNode.speculatively (NodeOp.modify replacingOps fun _ => true) = .ok (n', true) ∧
      NodeOp.runAll replacingOps sampleNode = .ok n'' ∧ Node.Same n' n'' :=
  (speculatively_atomic sampleNode replacingOps fun _ => true).2.2 _ rfl

end Autoscaling.Plugin.State
