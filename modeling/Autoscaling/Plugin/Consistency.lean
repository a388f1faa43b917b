import Autoscaling.Plugin.Calls
import Autoscaling.Plugin.State.Speculation

/-!
# What every call keeps of the plugin's state

Three facts hold of the plugin's state in every run, whatever the cluster answers and in whatever
order the calls come, panics of the reconcile handlers included (`consistent_run`):

* each node state is stored under the name of its node (`Consistent.named`);
* each node's bookkeeping holds (`Accounted` of `Accounting`): every pod under its UID, with
  non-zero overcommit, and the totals the sums over the pods;
* a pod tentatively scheduled on a node is one the node's state holds (`Consistent.reserved`);
* once startup is done, no reconcile waits for it.

The handlers change a node's pods in one of three ways, each in a committed speculation: a pod
stored under its UID (`AddPod`, `UpdatePod`), or removed (`RemovePod`), and the other pods kept.
The lemmas of the first section say so once for each (`storePod_spec`, `unstorePod_spec`, ...);
those of the second say how the invariant survives each change of the state's maps; each
handler's proof then follows the handler's branches and cites them.

The invariant is what rules out panics the source guards with `logger.Panic`, or that the node's
arithmetic would raise: in a reachable state, `Unreserve` panics only for a pod reserved on
another node than the one named, deleting a pod panics only for one scheduled on another node than
the one `Reserve` chose, and the `Update` of a known node never finds another node's name.
-/

namespace Autoscaling.Plugin

open Go State

/-! ### How the node operations change the pods -/

namespace State.Node

variable {n n' : Node}

/-- `Speculatively` hands `modify` the tentative node, keeps the node's name, and either leaves
the node as it was or takes the maps and totals `modify` left. -/
theorem speculatively_spec {modify : Node → Except String (Node × Bool)} {commit : Bool}
    (ran : n.speculatively modify = .ok (n', commit)) :
    n'.name = n.name ∧ ∃ tmp, modify n.tentative = .ok (tmp, commit) ∧
      (commit = false → n' = n) ∧
      (commit = true → n'.pods.view = tmp.pods.view ∧
        n'.migratablePods.view = tmp.migratablePods.view ∧ n'.cpu = tmp.cpu ∧ n'.mem = tmp.mem) := by
  unfold speculatively at ran
  obtain ⟨⟨tmp, committed⟩, modified, rest⟩ := bind_eq_ok.mp ran
  cases committed
  · simp only [Bool.false_eq_true, if_false, pure_eq_ok, Prod.mk.injEq] at rest
    obtain ⟨rfl, rfl⟩ := rest
    exact ⟨rfl, tmp, modified, fun _ => rfl, fun committed => absurd committed (by decide)⟩
  · simp only [if_true] at rest
    obtain ⟨labels, -, rest⟩ := bind_eq_ok.mp rest
    obtain ⟨pods, podsCommitted, rest⟩ := bind_eq_ok.mp rest
    obtain ⟨migratablePods, migratableCommitted, rest⟩ := bind_eq_ok.mp rest
    simp only [pure_eq_ok, Prod.mk.injEq] at rest
    obtain ⟨rfl, rfl⟩ := rest
    refine ⟨rfl, tmp, modified, ⟨fun dropped => ?_, fun _ => ?_⟩⟩
    · exact absurd dropped (by decide)
    · exact ⟨committedParent_view podsCommitted, committedParent_view migratableCommitted, rfl, rfl⟩

/-- A speculation whose closure commits whenever it returns takes what the closure left. -/
theorem speculatively_commit {modify : Node → Except String (Node × Bool)} {commit : Bool}
    (ran : n.speculatively modify = .ok (n', commit))
    (commits : ∀ tmp c, modify n.tentative = .ok (tmp, c) → c = true) :
    n'.name = n.name ∧ ∃ tmp, modify n.tentative = .ok (tmp, true) ∧
      n'.pods.view = tmp.pods.view ∧ (Accounted tmp → Accounted n') := by
  obtain ⟨named, tmp, modified, -, taken⟩ := speculatively_spec ran
  obtain rfl := commits tmp commit modified
  obtain ⟨pods, migratablePods, cpu, mem⟩ := taken rfl
  exact ⟨named, tmp, modified, pods, fun acc =>
    acc.congr pods migratablePods (by rw [cpu]) (by rw [cpu]) (by rw [mem]) (by rw [mem])⟩

/-- `speculativelyWith` is `Speculatively` of what the closure returned, beside what it set. -/
theorem speculativelyWith_spec {α : Type} {modify : Node → Except String (Node × Bool × α)}
    {commit : Bool} {set : α} (ran : n.speculativelyWith modify = .ok ((n', commit), set)) :
    ∃ tmp c, modify n.tentative = .ok (tmp, c, set) ∧
      n.speculatively (fun _ => pure (tmp, c)) = .ok (n', commit) := by
  unfold speculativelyWith at ran
  obtain ⟨⟨tmp, c, set'⟩, modified, rest⟩ := bind_eq_ok.mp ran
  obtain ⟨result, speculated, rest⟩ := bind_eq_ok.mp rest
  obtain ⟨rfl, rfl⟩ := Prod.mk.inj (pure_eq_ok.mp rest)
  exact ⟨tmp, c, modified, speculated⟩

/-- A speculation whose closure commits the node an operation left, whatever else it returned. -/
theorem speculatively_fst {β : Type} {f : Node → Except String (Node × β)} {commit : Bool}
    (ran : n.speculatively (fun t => (fun r => (r.1, true)) <$> f t) = .ok (n', commit)) :
    n'.name = n.name ∧ ∃ t b, f n.tentative = .ok (t, b) ∧ n'.pods.view = t.pods.view ∧
      (Accounted t → Accounted n') := by
  obtain ⟨named, tmp, modified, pods, accounted⟩ := speculatively_commit ran
    (fun _ _ modified => by
      obtain ⟨_, -, same⟩ := map_eq_ok.mp modified
      exact (Prod.mk.inj same).2.symm)
  obtain ⟨⟨t, b⟩, ran', same⟩ := map_eq_ok.mp modified
  obtain ⟨rfl, -⟩ := Prod.mk.inj same
  exact ⟨named, t, b, ran', pods, accounted⟩

/-- A `speculativelyWith` whose closure commits whenever it returns takes the node it left. -/
theorem speculativelyWith_commit {α : Type} {modify : Node → Except String (Node × Bool × α)}
    {commit : Bool} {set : α} (ran : n.speculativelyWith modify = .ok ((n', commit), set))
    (commits : ∀ tmp c a, modify n.tentative = .ok (tmp, c, a) → c = true) :
    n'.name = n.name ∧ ∃ tmp, modify n.tentative = .ok (tmp, true, set) ∧
      n'.pods.view = tmp.pods.view ∧ (Accounted tmp → Accounted n') := by
  obtain ⟨tmp, c, modified, speculated⟩ := speculativelyWith_spec ran
  obtain rfl := commits tmp c set modified
  obtain ⟨named, tmp', returned, pods, accounted⟩ := speculatively_commit speculated
    (fun _ _ returned => (Prod.mk.inj (pure_eq_ok.mp returned)).2.symm)
  obtain ⟨rfl, -⟩ := Prod.mk.inj (pure_eq_ok.mp returned)
  exact ⟨named, _, modified, pods, accounted⟩

/-- `AddPod` stores the pod under its UID. -/
theorem addPod_pods_view {pod : Pod} (added : n.addPod pod = .ok n') :
    n'.pods.view = Function.update n.pods.view pod.uid (some pod) := by
  obtain ⟨-, cpu, mem, -, -, rfl⟩ := addPod_eq_ok added
  exact XactMap.view_set _ _ _

/-- `RemovePod` leaves no pod under the UID. -/
theorem removePod_pods_view {uid : String} {existed : Bool}
    (removed : n.removePod uid = .ok (n', existed)) :
    n'.pods.view = Function.update n.pods.view uid none := by
  rcases removePod_eq_ok removed with ⟨absent, rfl⟩ | ⟨pod, cpu, mem, -, -, -, rfl⟩
  · exact (Function.update_eq_self_iff.mpr absent.symm).symm
  · exact XactMap.view_delete _ _

/-- `UpdatePod` keeps the UID, and stores the new pod under it. -/
theorem updatePod_pods_view {oldPod newPod : Pod} {changed : Bool}
    (updated : n.updatePod oldPod newPod = .ok (n', changed)) :
    oldPod.uid = newPod.uid ∧ n'.pods.view = Function.update n.pods.view newPod.uid (some newPod) := by
  have sameUID : oldPod.uid = newPod.uid := by
    by_contra differs
    simp [updatePod, differs] at updated
  obtain ⟨n₁, existed, removed, added⟩ := updatePod_eq_ok updated
  refine ⟨sameUID, ?_⟩
  rw [addPod_pods_view added, removePod_pods_view removed, sameUID, Function.update_idem]

/-- `RemovePod` does not panic on a node whose pods have non-zero overcommits. -/
theorem removePod_ok (acc : Accounted n) (uid : String) :
    ∃ result, n.removePod uid = .ok result := by
  unfold removePod
  rw [XactMap.get_eq_view]
  split
  · exact ⟨_, rfl⟩
  · next pod found =>
    obtain ⟨cpuNonzero, memNonzero⟩ := acc.overcommitted uid pod found
    simp [NodeResources.remove_ok cpuNonzero, NodeResources.remove_ok memNonzero]

end State.Node

/-- `storePod` keeps the node's name and bookkeeping, and stores the pod under its UID. -/
theorem storePod_spec {n n' : Node} {newPod : Pod} {commit : Bool}
    (stored : storePod n newPod = .ok (n', commit)) :
    n'.name = n.name ∧ (Accounted n → Accounted n') ∧
      n'.pods.view = Function.update n.pods.view newPod.uid (some newPod) := by
  obtain ⟨named, tmp, modified, pods, accounted⟩ := Node.speculatively_commit stored
    (fun _ _ modified => by
      obtain ⟨_, -, same⟩ := map_eq_ok.mp modified
      exact (Prod.mk.inj same).2.symm)
  obtain ⟨t, ran, same⟩ := map_eq_ok.mp modified
  obtain ⟨rfl, -⟩ := Prod.mk.inj same
  -- both branches run on the tentative node, which shows the node's pods
  rw [← Node.tentative_pods_view n]
  split at ran
  · obtain ⟨⟨t', changed⟩, updated, rfl⟩ := map_eq_ok.mp ran
    exact ⟨named, fun acc => accounted (acc.tentative.updatePod updated),
      by rw [pods, (Node.updatePod_pods_view updated).2]⟩
  · exact ⟨named, fun acc => accounted (acc.tentative.addPod ran),
      by rw [pods, Node.addPod_pods_view ran]⟩

/-- `unstorePod` keeps the node's name and bookkeeping, and leaves no pod under the UID. -/
theorem unstorePod_spec {n n' : Node} {uid : String} (acc : Accounted n)
    (removed : unstorePod n uid = .ok n') :
    n'.name = n.name ∧ Accounted n' ∧ n'.pods.view = Function.update n.pods.view uid none := by
  unfold unstorePod at removed
  split at removed
  · obtain ⟨⟨n'', commit⟩, ran, rfl⟩ := map_eq_ok.mp removed
    obtain ⟨named, t, existed, ran', pods, accounted⟩ := Node.speculatively_fst ran
    rw [← Node.tentative_pods_view n]
    exact ⟨named, accounted (acc.tentative.removePod ran'),
      by rw [pods, Node.removePod_pods_view ran']⟩
  · next absent =>
    obtain rfl := pure_eq_ok.mp removed
    rw [XactMap.get_eq_view, Bool.not_eq_true, Option.isSome_eq_false_iff,
      Option.isNone_iff_eq_none] at absent
    exact ⟨rfl, acc, (Function.update_eq_self_iff.mpr absent.symm).symm⟩

/-- The loop of `cleanupNode` forgets exactly the pods tentatively scheduled on the node. -/
theorem lookup_unscheduleFrom (nodeName uid : String) (tentativelyScheduled : GoMap String String) :
    (unscheduleFrom nodeName tentativelyScheduled).lookup uid =
      if tentativelyScheduled.lookup uid = some nodeName then none
      else tentativelyScheduled.lookup uid := by
  -- the loop over any list of keys forgets the UID if it is among them and on the node
  have loop : ∀ (ks : List String) (m : GoMap String String),
      (ks.foldl (fun m k => if m.lookup k = some nodeName then m.erase k else m) m).lookup uid =
        if uid ∈ ks ∧ m.lookup uid = some nodeName then none else m.lookup uid := by
    intro ks
    induction ks with
    | nil => simp
    | cons k ks ih =>
      intro m
      rw [List.foldl_cons, ih]
      by_cases same : k = uid
      · subst same
        by_cases onNode : m.lookup k = some nodeName <;> simp [onNode, AList.lookup_erase]
      · have other : (if m.lookup k = some nodeName then m.erase k else m).lookup uid =
            m.lookup uid := by
          split
          · exact AList.lookup_erase_ne (Ne.symm same)
          · rfl
        simp only [other, List.mem_cons, Ne.symm same, false_or]
  rw [unscheduleFrom, loop]
  by_cases onNode : tentativelyScheduled.lookup uid = some nodeName
  · have listed : uid ∈ tentativelyScheduled.keys :=
      AList.mem_keys.mp (AList.lookup_isSome.mp (by simp [onNode]))
    simp [onNode, listed]
  · simp [onNode]

/-- A lookup in a map with an entry stored: that entry, or the one the map had. -/
theorem lookup_insert_eq_some {V : Type} {m : GoMap String V} {k k' : String} {v v' : V} :
    (m.insert k v).lookup k' = some v' ↔ (k' = k ∧ v' = v) ∨ (k' ≠ k ∧ m.lookup k' = some v') := by
  by_cases same : k' = k
  · subst same
    simp [AList.lookup_insert, eq_comm]
  · simp [AList.lookup_insert_ne same, same]

/-- A lookup in a map with an entry deleted. -/
theorem lookup_erase_eq_some {V : Type} {m : GoMap String V} {k k' : String} {v : V} :
    (m.erase k).lookup k' = some v ↔ k' ≠ k ∧ m.lookup k' = some v := by
  by_cases same : k' = k
  · subst same
    simp [AList.lookup_erase]
  · simp [AList.lookup_erase_ne same, same]

/-! ### The invariant -/

/-- What every call keeps of the plugin's state: each node state under its node's name, with its
bookkeeping; each pod tentatively scheduled on a node held there; and nothing waiting for startup
once it is done. -/
structure PluginState.Consistent (s : PluginState) : Prop where
  named : ∀ name ns, s.nodes.lookup name = some ns → ns.node.name = name
  accounted : ∀ name ns, s.nodes.lookup name = some ns → Accounted ns.node
  reserved : ∀ uid name, s.tentativelyScheduled.lookup uid = some name →
    ∃ ns, s.nodes.lookup name = some ns ∧ (ns.node.pods.view uid).isSome
  waiting : s.startupDone = true → s.requeueAfterStartup.keys = []

namespace PluginState.Consistent

variable {s : PluginState}

theorem start (config : Config) (inheritedLabels : List String) :
    (newPluginState config inheritedLabels).Consistent where
  named name ns found := by simp [newPluginState] at found
  accounted name ns found := by simp [newPluginState] at found
  reserved uid name found := by simp [newPluginState] at found
  waiting done := by simp [newPluginState] at done

/-- The invariant reads only the nodes, the tentative schedule and the startup fields. -/
theorem congr (c : s.Consistent) (s' : PluginState) (nodes : s'.nodes = s.nodes)
    (tentativelyScheduled : s'.tentativelyScheduled = s.tentativelyScheduled)
    (startupDone : s'.startupDone = s.startupDone)
    (requeueAfterStartup : s'.requeueAfterStartup = s.requeueAfterStartup) : s'.Consistent where
  named := nodes ▸ c.named
  accounted := nodes ▸ c.accounted
  reserved := nodes ▸ tentativelyScheduled ▸ c.reserved
  waiting := startupDone ▸ requeueAfterStartup ▸ c.waiting

/-- A known node holds the pods tentatively scheduled on it. -/
theorem holds (c : s.Consistent) {name : String} (ns : NodeState)
    (found : s.nodes.lookup name = some ns) :
    ∀ uid, s.tentativelyScheduled.lookup uid = some name → (ns.node.pods.view uid).isSome := by
  intro uid reserved
  obtain ⟨ns', found', held⟩ := c.reserved uid name reserved
  rw [found] at found'
  cases found'
  exact held

/-- The pods tentatively scheduled on a node that a new node for it holds: those the old one held,
but for the pod under `uid`, if it is tentatively scheduled there. -/
theorem held_of_update (c : s.Consistent) {name : String} {ns : NodeState}
    (found : s.nodes.lookup name = some ns) {n' : Node} {uid : String} {v : Option Pod}
    (view : n'.pods.view = Function.update ns.node.pods.view uid v)
    (own : s.tentativelyScheduled.lookup uid = some name → v.isSome) :
    ∀ uid', s.tentativelyScheduled.lookup uid' = some name → (n'.pods.view uid').isSome := by
  intro uid' reserved
  rw [view]
  by_cases same : uid' = uid
  · subst same
    simpa using own reserved
  · obtain ⟨ns', found', held⟩ := c.reserved uid' name reserved
    rw [found] at found'
    cases found'
    simpa [Function.update_of_ne same] using held

/-- Storing a node state under the name of a known one keeps the invariant if its node keeps the
name and the bookkeeping, and holds every pod tentatively scheduled there. -/
theorem setNode (c : s.Consistent) {name : String} {ns : NodeState} (ns' : NodeState)
    (found : s.nodes.lookup name = some ns) (named : ns'.node.name = ns.node.name)
    (acc : Accounted ns'.node)
    (held : ∀ uid, s.tentativelyScheduled.lookup uid = some name →
      (ns'.node.pods.view uid).isSome) :
    { s with nodes := s.nodes.insert name ns' }.Consistent where
  named nm ns'' stored := by
    rcases lookup_insert_eq_some.mp stored with ⟨rfl, rfl⟩ | ⟨-, stored⟩
    · exact named.trans (c.named _ _ found)
    · exact c.named _ _ stored
  accounted nm ns'' stored := by
    rcases lookup_insert_eq_some.mp stored with ⟨rfl, rfl⟩ | ⟨-, stored⟩
    · exact acc
    · exact c.accounted _ _ stored
  reserved uid nm reserved := by
    by_cases same : nm = name
    · subst same
      exact ⟨ns', AList.lookup_insert _, held uid reserved⟩
    · rw [AList.lookup_insert_ne same]
      exact c.reserved uid nm reserved
  waiting := c.waiting

/-- Storing a node state under a name the state lacks. -/
theorem addNode (c : s.Consistent) {name : String} (ns : NodeState)
    (absent : s.nodes.lookup name = none) (named : ns.node.name = name) (acc : Accounted ns.node) :
    { s with nodes := s.nodes.insert name ns }.Consistent where
  named nm ns' stored := by
    rcases lookup_insert_eq_some.mp stored with ⟨rfl, rfl⟩ | ⟨-, stored⟩
    · exact named
    · exact c.named _ _ stored
  accounted nm ns' stored := by
    rcases lookup_insert_eq_some.mp stored with ⟨rfl, rfl⟩ | ⟨-, stored⟩
    · exact acc
    · exact c.accounted _ _ stored
  reserved uid nm reserved := by
    -- no pod is tentatively scheduled on a node the state lacks
    obtain ⟨ns', found, held⟩ := c.reserved uid nm reserved
    have other : nm ≠ name := by
      rintro rfl
      rw [absent] at found
      cases found
    exact ⟨ns', by rw [AList.lookup_insert_ne other]; exact found, held⟩
  waiting := c.waiting

/-- Forgetting a pod's tentative scheduling. -/
theorem unschedule (c : s.Consistent) (uid : String) :
    { s with tentativelyScheduled := s.tentativelyScheduled.erase uid }.Consistent where
  named := c.named
  accounted := c.accounted
  reserved uid' nm reserved := by
    by_cases same : uid' = uid
    · subst same
      simp [AList.lookup_erase] at reserved
    · rw [AList.lookup_erase_ne same] at reserved
      exact c.reserved uid' nm reserved
  waiting := c.waiting

/-- Recording a pod as tentatively scheduled on a node that holds it. -/
theorem schedule (c : s.Consistent) {uid name : String} {ns : NodeState}
    (found : s.nodes.lookup name = some ns) (held : (ns.node.pods.view uid).isSome) :
    { s with tentativelyScheduled := s.tentativelyScheduled.insert uid name }.Consistent where
  named := c.named
  accounted := c.accounted
  reserved uid' nm reserved := by
    rcases lookup_insert_eq_some.mp reserved with ⟨rfl, rfl⟩ | ⟨-, reserved⟩
    · exact ⟨ns, found, held⟩
    · exact c.reserved uid' nm reserved
  waiting := c.waiting

/-- `cleanupNode` of a known node: the node state goes, and so do the pods tentatively scheduled
on the node. -/
theorem cleanupNode (c : s.Consistent) {name : String} {ns : NodeState}
    (found : s.nodes.lookup name = some ns) : (Plugin.cleanupNode s ns).Consistent where
  named nm ns' stored := by
    rw [Plugin.cleanupNode, c.named _ _ found, lookup_erase_eq_some] at stored
    exact c.named nm ns' stored.2
  accounted nm ns' stored := by
    rw [Plugin.cleanupNode, c.named _ _ found, lookup_erase_eq_some] at stored
    exact c.accounted nm ns' stored.2
  reserved uid nm reserved := by
    rw [Plugin.cleanupNode, c.named _ _ found, lookup_unscheduleFrom] at reserved
    split at reserved
    · cases reserved
    · next elsewhere =>
      obtain ⟨ns', stored, held⟩ := c.reserved uid nm reserved
      have other : nm ≠ name := by
        rintro rfl
        exact elsewhere reserved
      exact ⟨ns', by rw [Plugin.cleanupNode, c.named _ _ found, lookup_erase_eq_some]; exact
        ⟨other, stored⟩, held⟩
  waiting := c.waiting

/-! ### Node events -/

/-- `reconcileNode` changes only the node state's migration requests. -/
theorem reconcileNode (c : s.Consistent) (env : Env) {name : String} {ns : NodeState}
    (found : s.nodes.lookup name = some ns) :
    (Plugin.reconcileNode env s name ns).state.Consistent := by
  unfold Plugin.reconcileNode
  split
  all_goals exact c.setNode _ found rfl (c.accounted _ ns found) (c.holds ns found)

/-- `updateNode` of a node the state knows: its name, bookkeeping and pods stay. -/
theorem updateNode (c : s.Consistent) (env : Env) (node : K8sNode) :
    (Plugin.updateNode env s node).state.Consistent := by
  unfold Plugin.updateNode
  split
  · exact c
  · next newNode built =>
    split
    · next absent =>
      -- a new node state, named as the node, without pods
      have named : newNode.name = node.name := by
        obtain ⟨totalCPU, totalMem, labels, rfl⟩ := nodeStateFromK8sObj_eq_ok built
        rfl
      have grown := (c.congr { s with
        maxNodeCPU := if s.maxNodeCPU ≤ newNode.cpu.total then newNode.cpu.total else s.maxNodeCPU
        maxNodeMem := if s.maxNodeMem ≤ newNode.mem.total then newNode.mem.total else s.maxNodeMem }
        rfl rfl rfl rfl).addNode ⟨newNode, ∅, ∅⟩ absent named (Accounted.fromK8sObj built)
      exact grown.reconcileNode env (AList.lookup_insert _)
    · next oldNS found =>
      split
      · exact c
      · next n commit updated =>
        obtain ⟨named, t, changed, ran, pods, accounted⟩ := Node.speculatively_fst updated
        -- `Update` changes the totals and the labels, not the pods
        have samePods : n.pods.view = oldNS.node.pods.view := by
          rw [pods, (Node.update_eq_ok ran).1, Node.tentative_pods_view]
        have set := c.setNode { oldNS with node := n } found named
          (accounted ((c.accounted _ _ found).tentative.update ran))
          (fun uid reserved => by rw [samePods]; exact c.holds _ found uid reserved)
        exact set.reconcileNode env (AList.lookup_insert _)

theorem deleteNode (c : s.Consistent) (node : K8sNode) : (Plugin.deleteNode s node).Consistent := by
  unfold Plugin.deleteNode
  split
  · exact c
  · next ns found => exact c.cleanupNode found

theorem handleNodeEvent (c : s.Consistent) (env : Env) (kind : Reconcile.EventKind)
    (node : K8sNode) : (Plugin.handleNodeEvent env s kind node).state.Consistent := by
  cases kind
  · exact c.updateNode env node
  · exact c.updateNode env node
  · exact c.deleteNode node
  · exact c.deleteNode node

/-! ### `Reserve`, `Unreserve` and the end of startup -/

/-- `Reserve` adds the pod to the node and records it there, in one committed speculation. -/
theorem reserve (c : s.Consistent) {env : Env} {pod : PodObject} {nodeName : String}
    {s' : PluginState} {status : Option Status}
    (reserved : Plugin.reserve env s pod nodeName = .ok (s', status)) : s'.Consistent := by
  unfold Plugin.reserve at reserved
  -- every branch but the last returns the state it was given
  split at reserved
  · obtain ⟨rfl, -⟩ := Prod.mk.inj (pure_eq_ok.mp reserved)
    exact c
  split at reserved
  · obtain ⟨rfl, -⟩ := Prod.mk.inj (pure_eq_ok.mp reserved)
    exact c
  split at reserved
  · cases reserved
  · obtain ⟨rfl, -⟩ := Prod.mk.inj (pure_eq_ok.mp reserved)
    exact c
  next podState extracted =>
  replace extracted := podStateOrPanic_eq_ok_ok.mp extracted
  split at reserved
  · obtain ⟨rfl, -⟩ := Prod.mk.inj (pure_eq_ok.mp reserved)
    exact c
  split at reserved
  · obtain ⟨rfl, -⟩ := Prod.mk.inj (pure_eq_ok.mp reserved)
    exact c
  next ns found =>
  obtain ⟨⟨⟨node, commit⟩, tentativelyScheduled⟩, speculated, rest⟩ := bind_eq_ok.mp reserved
  obtain ⟨rfl, -⟩ := Prod.mk.inj (pure_eq_ok.mp rest)
  obtain ⟨named, tmp, modified, pods, accounted⟩ := Node.speculativelyWith_commit speculated
    (fun _ _ _ modified => by
      obtain ⟨_, -, returned⟩ := bind_eq_ok.mp modified
      exact (Prod.mk.inj (Prod.mk.inj (pure_eq_ok.mp returned)).2).1.symm)
  obtain ⟨t, added, returned⟩ := bind_eq_ok.mp modified
  obtain ⟨rfl, -, rfl⟩ : t = tmp ∧ true = true ∧
      s.tentativelyScheduled.insert pod.uid nodeName = tentativelyScheduled := by
    simpa using pure_eq_ok.mp returned
  have view : node.pods.view = Function.update ns.node.pods.view pod.uid (some podState) := by
    rw [pods, Node.addPod_pods_view added, Node.tentative_pods_view,
      podStateFromK8sObj_uid extracted]
  have set := c.setNode { ns with node } found named
    (accounted ((c.accounted _ _ found).tentative.addPod added))
    (c.held_of_update found view fun _ => rfl)
  exact set.schedule (AList.lookup_insert _) (by rw [view]; simp)

/-- `Unreserve` removes the pod from the node and forgets its tentative scheduling, in one
committed speculation. -/
theorem unreserve (c : s.Consistent) {pod : PodObject} {nodeName : String} {s' : PluginState}
    (unreserved : Plugin.unreserve s pod nodeName = .ok s') : s'.Consistent := by
  unfold Plugin.unreserve at unreserved
  split at unreserved
  · obtain rfl := pure_eq_ok.mp unreserved
    exact c
  split at unreserved
  · cases unreserved
  split at unreserved
  · obtain rfl := pure_eq_ok.mp unreserved
    exact c
  next ns found =>
  obtain ⟨⟨⟨node, commit⟩, tentativelyScheduled⟩, speculated, rest⟩ := bind_eq_ok.mp unreserved
  obtain rfl := pure_eq_ok.mp rest
  obtain ⟨named, tmp, modified, pods, accounted⟩ := Node.speculativelyWith_commit speculated
    (fun _ _ _ modified => by
      split at modified
      · cases modified
      · obtain ⟨_, -, returned⟩ := bind_eq_ok.mp modified
        exact (Prod.mk.inj (Prod.mk.inj (pure_eq_ok.mp returned)).2).1.symm)
  split at modified
  · cases modified
  obtain ⟨⟨t, existed⟩, removed, returned⟩ := bind_eq_ok.mp modified
  obtain ⟨rfl, -, rfl⟩ : t = tmp ∧ true = true ∧
      s.tentativelyScheduled.erase pod.uid = tentativelyScheduled := by
    simpa using pure_eq_ok.mp returned
  have view : node.pods.view = Function.update ns.node.pods.view pod.uid none := by
    rw [pods, Node.removePod_pods_view removed, Node.tentative_pods_view]
  -- the pod's own scheduling is forgotten first, so the node need not hold it
  have forgot := c.unschedule pod.uid
  exact forgot.setNode { ns with node } found named
    (accounted ((c.accounted _ _ found).tentative.removePod removed))
    (forgot.held_of_update found view fun reserved => by simp [AList.lookup_erase] at reserved)

theorem finishStartup (c : s.Consistent) : (Plugin.finishStartup s).1.Consistent where
  named := c.named
  accounted := c.accounted
  reserved := c.reserved
  waiting _ := rfl

/-- Deferring a reconcile until startup is done, before it is. -/
theorem defer (c : s.Consistent) (early : s.startupDone = false) (uid : String) :
    { s with requeueAfterStartup := s.requeueAfterStartup.insert uid () }.Consistent where
  named := c.named
  accounted := c.accounted
  reserved := c.reserved
  waiting done := by simp [early] at done

/-! ### Pod events -/

/-- The reconcile of reserved resources changes the node only by storing the pod with its larger
reservations under its UID. -/
theorem reconcilePodResources (c : s.Consistent) {nodeName : String} {ns : NodeState}
    (found : s.nodes.lookup nodeName = some ns) (oldPodObj : PodObject) (oldPod : Pod)
    (now : Int) :
    (Plugin.reconcilePodResources s nodeName ns oldPodObj oldPod now).state.Consistent := by
  unfold Plugin.reconcilePodResources
  split
  · exact c
  split
  · exact c
  next desiredPod needsMoreResources _ =>
  dsimp only
  split
  · next early => exact c.defer (by simpa using early) oldPod.uid
  split
  · exact c
  split
  · exact c
  split
  · exact c
  next node stored =>
  -- the node is the old one, or the one a committed `UpdatePod` left
  have changed : node.name = ns.node.name ∧ Accounted node ∧
      ∀ uid, s.tentativelyScheduled.lookup uid = some nodeName → (node.pods.view uid).isSome := by
    split at stored
    · obtain rfl := pure_eq_ok.mp stored
      exact ⟨rfl, c.accounted _ _ found, c.holds _ found⟩
    · obtain ⟨⟨node', commit⟩, ran, rfl⟩ := map_eq_ok.mp stored
      obtain ⟨named, t, changed, updated, pods, accounted⟩ := Node.speculatively_fst ran
      have view : node'.pods.view = Function.update ns.node.pods.view
          (keepReserved oldPod desiredPod).uid (some (keepReserved oldPod desiredPod)) := by
        rw [pods, (Node.updatePod_pods_view updated).2, Node.tentative_pods_view]
      exact ⟨named, accounted ((c.accounted _ _ found).tentative.updatePod updated),
        c.held_of_update found view fun _ => rfl⟩
  exact c.setNode _ found changed.1 changed.2.1 changed.2.2

theorem reconcileUnlessMigrating (c : s.Consistent) {nodeName : String} {ns : NodeState}
    (found : s.nodes.lookup nodeName = some ns) (pod : PodObject) (newPod : Pod) (now : Int) :
    (Plugin.reconcileUnlessMigrating s nodeName ns pod newPod now).state.Consistent := by
  unfold Plugin.reconcileUnlessMigrating
  split
  · exact c.reconcilePodResources found pod newPod now
  · exact c

theorem updateVMPod (c : s.Consistent) {nodeName : String} {ns : NodeState}
    (found : s.nodes.lookup nodeName = some ns) (pod : PodObject) (newPod : Pod) (now : Int) :
    (Plugin.updateVMPod s nodeName ns pod newPod now).state.Consistent := by
  unfold Plugin.updateVMPod
  split
  · exact c
  split
  · split
    · -- a migration request forgotten changes no pod
      have forgot := c.setNode { ns with
        requestedMigrations := ns.requestedMigrations.erase newPod.uid } found rfl
        (c.accounted _ ns found) (c.holds ns found)
      exact forgot.reconcileUnlessMigrating (AList.lookup_insert _) pod newPod now
    · exact c
  · exact c.reconcileUnlessMigrating found pod newPod now

theorem updatePod (c : s.Consistent) (env : Env) (pod : PodObject) (now : Int) :
    (Plugin.updatePod env s pod now).state.Consistent := by
  unfold Plugin.updatePod
  split
  · exact c
  · exact c
  next newPod extracted =>
  replace extracted := podStateOrPanic_eq_ok_ok.mp extracted
  dsimp only
  split
  · exact c
  -- the pod scheduled where it was reserved is no longer tentatively scheduled
  have c₁ : (if s.tentativelyScheduled.lookup pod.uid = some pod.nodeName then
      { s with tentativelyScheduled := s.tentativelyScheduled.erase pod.uid } else s).Consistent := by
    split
    · exact c.unschedule pod.uid
    · exact c
  generalize (if s.tentativelyScheduled.lookup pod.uid = some pod.nodeName then
      { s with tentativelyScheduled := s.tentativelyScheduled.erase pod.uid } else s) = s₁ at c₁ ⊢
  split
  · exact c₁
  split
  · exact c₁
  next ns found =>
  split
  · exact c₁
  next node commit stored =>
  obtain ⟨named, accounted, view⟩ := storePod_spec stored
  rw [podStateFromK8sObj_uid extracted] at view
  have set := c₁.setNode { ns with node } found named (accounted (c₁.accounted _ _ found))
    (c₁.held_of_update found view fun _ => rfl)
  exact set.updateVMPod (AList.lookup_insert _) pod newPod now

theorem deletePod (c : s.Consistent) (pod : PodObject) :
    (Plugin.deletePod s pod).state.Consistent := by
  unfold Plugin.deletePod
  dsimp only
  split
  · exact c
  next nodeName nodeNameIs =>
  split
  · exact c
  next ns found =>
  -- forgetting the pod's migration request and last patch changes no pod
  let ns₁ : NodeState := { ns with
    requestedMigrations := ns.requestedMigrations.erase pod.uid
    podsVMPatchedAt := ns.podsVMPatchedAt.erase pod.uid }
  have c₁ := c.setNode ns₁ found rfl (c.accounted _ ns found) (c.holds ns found)
  have found₁ : (s.nodes.insert nodeName ns₁).lookup nodeName = some ns₁ := AList.lookup_insert _
  split
  · exact c₁
  next node removed =>
  obtain ⟨named, acc, view⟩ := unstorePod_spec (c.accounted _ _ found) removed
  split
  · next absent =>
    exact c₁.setNode { ns₁ with node } found₁ named acc
      (c₁.held_of_update found₁ view fun reserved => by simp [absent] at reserved)
  next tentativeNode reserved =>
  split
  · next moved =>
    -- reserved on another node than the one the pod is scheduled on: that node keeps it
    refine c₁.setNode { ns₁ with node } found₁ named acc
      (c₁.held_of_update found₁ view fun onNode => ?_)
    have scheduled : nodeName = pod.nodeName := by
      rw [if_neg moved.1] at nodeNameIs
      exact (Option.some.inj nodeNameIs).symm
    rw [reserved, scheduled] at onNode
    exact absurd (Option.some.inj onNode) moved.2
  · have forgot := c₁.unschedule pod.uid
    exact forgot.setNode { ns₁ with node } found₁ named acc
      (forgot.held_of_update found₁ view fun reserved => by simp [AList.lookup_erase] at reserved)

theorem handlePodEvent (c : s.Consistent) (env : Env) (kind : Reconcile.EventKind)
    (pod : PodObject) (now : Int) : (Plugin.handlePodEvent env s kind pod now).state.Consistent := by
  unfold Plugin.handlePodEvent
  split
  · exact c
  cases kind
  case deleted | ephemeral => exact c.deletePod pod
  -- every way out of an added or modified pod's handling leaves the state `updatePod` left
  all_goals
    dsimp only
    repeat' split
    all_goals exact c.updatePod env pod now

/-! ### Every call -/

theorem step (c : s.Consistent) {i : Env × PluginCall} {r : PluginReply} {s' : PluginState}
    (stepped : s.step i = .ok (r, s')) : s'.Consistent := by
  obtain ⟨env, call⟩ := i
  cases call with
  | reserve pod nodeName =>
    obtain ⟨⟨s'', status⟩, reserved, same⟩ := map_eq_ok.mp stepped
    obtain ⟨-, rfl⟩ := Prod.mk.inj same
    exact c.reserve reserved
  | unreserve pod nodeName =>
    obtain ⟨s'', unreserved, same⟩ := map_eq_ok.mp stepped
    obtain ⟨-, rfl⟩ := Prod.mk.inj same
    exact c.unreserve unreserved
  | podEvent kind pod now =>
    obtain ⟨-, rfl⟩ := Prod.mk.inj (pure_eq_ok.mp stepped)
    exact c.handlePodEvent env kind pod now
  | nodeEvent kind node =>
    obtain ⟨-, rfl⟩ := Prod.mk.inj (pure_eq_ok.mp stepped)
    exact c.handleNodeEvent env kind node
  | finishStartup =>
    obtain ⟨-, rfl⟩ := Prod.mk.inj (pure_eq_ok.mp stepped)
    exact c.finishStartup
  | permit watch marshalResponse method body =>
    obtain ⟨-, rfl⟩ := Prod.mk.inj (pure_eq_ok.mp stepped)
    exact c

/-- The invariant holds in the state every run from `NewPluginState` reaches. -/
theorem reachable {config : Config} {inheritedLabels : List String}
    {steps : List ((Env × PluginCall) × PluginReply × PluginState)}
    (run : Trans.Trace PluginState.step (newPluginState config inheritedLabels) steps) :
    (Trans.last (newPluginState config inheritedLabels) steps).Consistent :=
  Trans.Trace.invariant PluginState.Consistent (fun _ _ _ _ c stepped => c.step stepped) run
    (.start config inheritedLabels)

end PluginState.Consistent

/-- Along every run of the plugin from `NewPluginState`, in whatever order the scheduler framework,
the reconcile queue and startup call it and whatever the cluster answers, panics of the reconcile
handlers included: each node state is stored under its node's name; each node's pods are held
under their UIDs with non-zero overcommits, its migratable pods are the ones recorded, and its
reserved and migrating totals are the sums over its pods; each pod tentatively scheduled on a
node is held by that node's state; and once startup is done, no reconcile waits for it. -/
theorem consistent_run {config : Config} {inheritedLabels : List String}
    {steps : List ((Env × PluginCall) × PluginReply × PluginState)}
    (run : Trans.Trace PluginState.step (newPluginState config inheritedLabels) steps) :
    (Trans.last (newPluginState config inheritedLabels) steps).Consistent :=
  PluginState.Consistent.reachable run

/-! ### The panics the invariant rules out -/

namespace PluginState.Consistent

variable {s : PluginState}

/-- In a consistent state, `Unreserve` panics only for a pod tentatively scheduled on another
node than the one it is given: the pod is on its node, and removing it cannot divide by zero. -/
theorem unreserve_error (c : s.Consistent) {pod : PodObject} {nodeName e : String}
    (panicked : Plugin.unreserve s pod nodeName = .error e) :
    e = unexpectedNode ∧
      ∃ other, s.tentativelyScheduled.lookup pod.uid = some other ∧ other ≠ nodeName := by
  unfold Plugin.unreserve at panicked
  split at panicked
  · cases panicked
  next other reserved =>
  split at panicked
  · next elsewhere => exact ⟨(Except.error.inj panicked).symm, other, reserved, elsewhere⟩
  next here =>
  obtain rfl : other = nodeName := not_not.mp here
  split at panicked
  · cases panicked
  next ns found =>
  -- the closure finds the pod on the tentative node, and removes it
  have acc := c.accounted _ _ found
  obtain ⟨p, held⟩ := Option.isSome_iff_exists.mp (c.holds _ found pod.uid reserved)
  have got : ns.node.tentative.pods.get pod.uid = some p := by
    rw [XactMap.get_eq_view, Node.tentative_pods_view, held]
  obtain ⟨⟨t, existed⟩, removed⟩ := Node.removePod_ok acc.tentative pod.uid
  obtain ⟨labels, pods, migratablePods, committed, -⟩ :=
    @Node.speculatively_of_commit _ _ (fun _ => pure (t, true)) rfl (Node.frame_removePod removed)
  simp only [Node.speculativelyWith, got, removed, ok_bind, pure_bind, committed] at panicked
  cases panicked

/-- In a consistent state, removing a pod from a node the state knows does not panic. -/
theorem unstorePod_ok (c : s.Consistent) {name : String} {ns : NodeState}
    (found : s.nodes.lookup name = some ns) (uid : String) :
    ∃ n, unstorePod ns.node uid = .ok n := by
  have acc := c.accounted _ _ found
  unfold unstorePod
  split
  · obtain ⟨⟨t, existed⟩, removed⟩ := Node.removePod_ok acc.tentative uid
    obtain ⟨labels, pods, migratablePods, committed, -⟩ :=
      @Node.speculatively_of_commit _ _ (fun n => (fun r => (r.1, true)) <$> n.removePod uid)
        (by simp only [removed]; rfl) (Node.frame_removePod removed)
    exact ⟨_, by rw [committed]; rfl⟩
  · exact ⟨_, rfl⟩

/-- In a consistent state, deleting a pod panics only when the pod is scheduled on another node
than the one `Reserve` put it on. -/
theorem deletePod_error (c : s.Consistent) {pod : PodObject} {e : String}
    (panicked : (Plugin.deletePod s pod).result = .error e) : e = scheduledOntoDifferentNode := by
  unfold Plugin.deletePod at panicked
  dsimp only at panicked
  split at panicked
  · cases panicked
  split at panicked
  · cases panicked
  next ns found =>
  split at panicked
  · next removing =>
    -- the removal runs on the node the state holds, whose pods have non-zero overcommits
    obtain ⟨n, removed⟩ := c.unstorePod_ok found pod.uid
    rw [removed] at removing
    cases removing
  split at panicked
  · cases panicked
  split at panicked
  · exact (Except.error.inj panicked).symm
  · cases panicked

end PluginState.Consistent

/-! ### Along every run -/

section Run

variable {config : Config} {inheritedLabels : List String}

/-- Along every run of the plugin, in the state reached, `Unreserve` panics only for a pod
tentatively scheduled on another node than the one it is given: never for a pod missing from its
node (the `logger.Panic` that guards it cannot fire), and never in the node's arithmetic. -/
theorem unreserve_panics_only_elsewhere
    {steps : List ((Env × PluginCall) × PluginReply × PluginState)}
    (run : Trans.Trace PluginState.step (newPluginState config inheritedLabels) steps)
    {pod : PodObject} {nodeName e : String}
    (panicked :
      unreserve (Trans.last (newPluginState config inheritedLabels) steps) pod nodeName = .error e) :
    e = unexpectedNode ∧ ∃ other,
      (Trans.last (newPluginState config inheritedLabels) steps).tentativelyScheduled.lookup
        pod.uid = some other ∧ other ≠ nodeName :=
  (PluginState.Consistent.reachable run).unreserve_error panicked

/-- Along every run of the plugin, a pod deletion handled by the reconcile queue panics only when
the pod is scheduled on another node than the one `Reserve` put it on: removing the pod from its
node never panics. -/
theorem pod_deletion_panics_only_when_moved
    {pre post : List ((Env × PluginCall) × PluginReply × PluginState)} {env : Env}
    {kind : Reconcile.EventKind} {pod : PodObject} {now : Int} {requests : List Request}
    {e : String} {s' : PluginState}
    (run : Trans.Trace PluginState.step (newPluginState config inheritedLabels)
      (pre ++ ((env, .podEvent kind pod now), .reconciled requests (.error e), s') :: post))
    (deletion : kind = .deleted ∨ kind = .ephemeral) : e = scheduledOntoDifferentNode := by
  obtain ⟨before, stepped, -⟩ := run.at
  have c := PluginState.Consistent.reachable before
  obtain ⟨replied, -⟩ := Prod.mk.inj (pure_eq_ok.mp stepped)
  obtain ⟨-, handled⟩ := PluginReply.reconciled.inj replied
  -- the handler's panic is the deletion's: an ignored pod is not handled at all
  unfold podHandler handlePodEvent at handled
  split at handled
  · cases handled
  rcases deletion with rfl | rfl <;>
  · dsimp only at handled
    cases deleted : (Plugin.deletePod _ pod).result with
    | error e' =>
      rw [deleted] at handled
      cases handled
      exact c.deletePod_error deleted
    | ok u =>
      rw [deleted] at handled
      cases handled

end Run

/-! ### A sample run -/

/-- A cluster that decodes no annotation and answers every request. -/
def sampleEnv : Env where
  unmarshal := ⟨fun _ => throw "", fun _ => throw "", fun _ => throw ""⟩
  marshalResources := fun _ => ""
  sortFunc := id
  podStored := fun _ => true
  createMigration := fun _ => none
  patchVM := fun _ _ => none

/-- A configuration whose watermark is the whole node. -/
def sampleConfig : Config := ⟨fun _ total => total, "autoscale-scheduler", 20, []⟩

/-- A node with 4 CPUs and 8 GiB. -/
def sampleNode (name : String) : K8sNode :=
  ⟨name, ∅, some ⟨4, 4000⟩, some ⟨8589934592, 8589934592000⟩⟩

/-- A pod that is not a VM's, with 1 CPU and 1 GiB, scheduled on `nodeName` ("" for none). -/
def samplePod (nodeName : String) : PodObject :=
  { «namespace» := "default", name := "pod", uid := "pod-uid", creationTimestamp := 0,
    ownerReferences := [], labels := fun _ => none, annotations := fun _ => none,
    containers := [⟨⟨1, 1000⟩, ⟨1073741824, 1073741824000⟩⟩], nodeName,
    schedulerName := "autoscale-scheduler" }

/-- Two nodes, and the pod reserved on the first. -/
def reservedRun : List ((Env × PluginCall) × PluginReply × PluginState) :=
  Trans.runCalls PluginState.step (newPluginState sampleConfig [])
    [(sampleEnv, .nodeEvent .added (sampleNode "a")), (sampleEnv, .nodeEvent .added (sampleNode "b")),
      (sampleEnv, .reserve (samplePod "") "a")]

theorem consistent_run_sample :
    (Trans.last (newPluginState sampleConfig []) reservedRun).Consistent :=
  consistent_run (Trans.trace_runCalls _ _)

theorem unreserve_panics_only_elsewhere_sample :
    unreserve (Trans.last (newPluginState sampleConfig []) reservedRun) (samplePod "") "b" =
        .error unexpectedNode ∧
      (unexpectedNode = unexpectedNode ∧ ∃ other,
        (Trans.last (newPluginState sampleConfig []) reservedRun).tentativelyScheduled.lookup
          (samplePod "").uid = some other ∧ other ≠ "b") :=
  have panicked : unreserve (Trans.last (newPluginState sampleConfig []) reservedRun)
      (samplePod "") "b" = .error unexpectedNode := rfl
  ⟨panicked, unreserve_panics_only_elsewhere (Trans.trace_runCalls _ _) panicked⟩

/-- The pod reserved on the first node is deleted as scheduled on the second. -/
def movedRun : List ((Env × PluginCall) × PluginReply × PluginState) :=
  Trans.runCalls PluginState.step (newPluginState sampleConfig [])
    [(sampleEnv, .nodeEvent .added (sampleNode "a")), (sampleEnv, .nodeEvent .added (sampleNode "b")),
      (sampleEnv, .reserve (samplePod "") "a"), (sampleEnv, .podEvent .deleted (samplePod "b") 0)]

theorem pod_deletion_panics_only_when_moved_sample :
    Trans.Trace PluginState.step (newPluginState sampleConfig []) (movedRun.take 3 ++
        [((sampleEnv, .podEvent .deleted (samplePod "b") 0),
          .reconciled [.requeueNode "b"] (.error scheduledOntoDifferentNode),
          Trans.last (newPluginState sampleConfig []) movedRun)]) ∧
      scheduledOntoDifferentNode = scheduledOntoDifferentNode := by
  have split : movedRun = movedRun.take 3 ++
      [((sampleEnv, .podEvent .deleted (samplePod "b") 0),
        .reconciled [.requeueNode "b"] (.error scheduledOntoDifferentNode),
        Trans.last (newPluginState sampleConfig []) movedRun)] := rfl
  have run : Trans.Trace PluginState.step (newPluginState sampleConfig []) movedRun :=
    Trans.trace_runCalls _ _
  rw [split] at run
  exact ⟨run, pod_deletion_panics_only_when_moved run (.inl rfl)⟩

end Autoscaling.Plugin
