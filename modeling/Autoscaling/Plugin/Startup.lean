import Autoscaling.Plugin.VMPatch

/-!
# Startup

Until the initial events are handled, the plugin may not know every pod, so the reconcile of a
pod's reserved resources waits: it records the pod in `requeueAfterStartup` and returns. Startup
ends by setting `startupDone` and requeueing each pod recorded (`finishStartup`).

Two facts follow over whole runs. No reconcile that waited is lost: every call but the end of
startup keeps whether startup is done and each pod waiting (`Keeps`), so the end of startup
requeues every pod waiting at any point before it (`waiting_requeued_at_startup`). And no
reconcile patches a VM before startup ends (`no_vm_patch_before_startup`), as its patch needs
startup done in the state its call is made in (`step_patchVM`); the permit handler's patch does
not wait for startup.
-/

namespace Autoscaling.Plugin

open Go State

/-- What every call but the end of startup keeps of the state: whether startup is done, and each
pod waiting for it. -/
structure PluginState.Keeps (s s' : PluginState) : Prop where
  startupDone : s'.startupDone = s.startupDone
  waiting : ∀ uid ∈ s.requeueAfterStartup, uid ∈ s'.requeueAfterStartup

namespace PluginState.Keeps

theorem refl (s : PluginState) : s.Keeps s := ⟨rfl, fun _ member => member⟩

theorem trans {s₁ s₂ s₃ : PluginState} (first : s₁.Keeps s₂) (second : s₂.Keeps s₃) :
    s₁.Keeps s₃ :=
  ⟨second.startupDone.trans first.startupDone,
    fun uid member => second.waiting uid (first.waiting uid member)⟩

/-- A state with the same startup fields; the handlers' states mostly change other fields. -/
theorem of_eq {s s' : PluginState} (startupDone : s'.startupDone = s.startupDone)
    (requeueAfterStartup : s'.requeueAfterStartup = s.requeueAfterStartup) : s.Keeps s' :=
  ⟨startupDone, fun _ member => requeueAfterStartup ▸ member⟩

/-- One more pod waiting. -/
theorem defer (s : PluginState) (uid : String) :
    s.Keeps { s with requeueAfterStartup := s.requeueAfterStartup.insert uid () } :=
  ⟨rfl, fun _ member => (AList.mem_insert _).mpr (.inr member)⟩

variable {s : PluginState}

/-! ### Pod events -/

theorem reconcilePodResources (s : PluginState) (nodeName : String) (ns : NodeState)
    (oldPodObj : PodObject) (oldPod : Pod) (now : Int) :
    s.Keeps (Plugin.reconcilePodResources s nodeName ns oldPodObj oldPod now).state := by
  unfold Plugin.reconcilePodResources
  dsimp only
  repeat' split
  all_goals first | exact refl s | exact of_eq rfl rfl | exact defer s oldPod.uid

theorem updateVMPod (s : PluginState) (nodeName : String) (ns : NodeState) (pod : PodObject)
    (newPod : Pod) (now : Int) :
    s.Keeps (Plugin.updateVMPod s nodeName ns pod newPod now).state := by
  unfold Plugin.updateVMPod reconcileUnlessMigrating
  dsimp only
  repeat' split
  all_goals first
    | exact refl s
    | exact of_eq rfl rfl
    | exact reconcilePodResources s nodeName ns pod newPod now
    | (refine (of_eq ?_ ?_).trans (reconcilePodResources _ nodeName _ pod newPod now) <;> rfl)

theorem updatePod (env : Env) (s : PluginState) (pod : PodObject) (now : Int) :
    s.Keeps (Plugin.updatePod env s pod now).state := by
  unfold Plugin.updatePod
  dsimp only
  repeat' split
  all_goals first
    | exact refl s
    | exact of_eq rfl rfl
    | (refine (of_eq ?_ ?_).trans (updateVMPod _ _ _ pod _ now) <;> rfl)

theorem deletePod (s : PluginState) (pod : PodObject) : s.Keeps (Plugin.deletePod s pod).state := by
  unfold Plugin.deletePod
  dsimp only
  repeat' split
  all_goals first | exact refl s | exact of_eq rfl rfl

theorem handlePodEvent (env : Env) (s : PluginState) (kind : Reconcile.EventKind)
    (pod : PodObject) (now : Int) : s.Keeps (Plugin.handlePodEvent env s kind pod now).state := by
  unfold Plugin.handlePodEvent
  split
  · exact refl s
  cases kind
  case deleted | ephemeral => exact deletePod s pod
  -- every way out of an added or modified pod's handling leaves the state `updatePod` left
  all_goals
    dsimp only
    repeat' split
    all_goals exact updatePod env s pod now

/-! ### Node events -/

theorem reconcileNode (env : Env) (s : PluginState) (nodeName : String) (ns : NodeState) :
    s.Keeps (Plugin.reconcileNode env s nodeName ns).state := by
  unfold Plugin.reconcileNode
  split
  all_goals exact of_eq rfl rfl

theorem handleNodeEvent (env : Env) (s : PluginState) (kind : Reconcile.EventKind)
    (node : K8sNode) : s.Keeps (Plugin.handleNodeEvent env s kind node).state := by
  unfold Plugin.handleNodeEvent Plugin.updateNode Plugin.deleteNode Plugin.cleanupNode
  repeat' split
  all_goals first
    | exact refl s
    | exact of_eq rfl rfl
    | (refine (of_eq ?_ ?_).trans (reconcileNode env _ _ _) <;> rfl)

/-! ### `Reserve` and `Unreserve` -/

theorem reserve {env : Env} {pod : PodObject} {nodeName : String} {s' : PluginState}
    {status : Option Status} (reserved : Plugin.reserve env s pod nodeName = .ok (s', status)) :
    s.Keeps s' := by
  unfold Plugin.reserve at reserved
  repeat' split at reserved
  all_goals first
    | (obtain ⟨rfl, -⟩ := Prod.mk.inj (pure_eq_ok.mp reserved); exact refl s)
    | (obtain ⟨_, -, returned⟩ := bind_eq_ok.mp reserved
       obtain ⟨rfl, -⟩ := Prod.mk.inj (pure_eq_ok.mp returned)
       exact of_eq rfl rfl)
    | cases reserved

theorem unreserve {pod : PodObject} {nodeName : String} {s' : PluginState}
    (unreserved : Plugin.unreserve s pod nodeName = .ok s') : s.Keeps s' := by
  unfold Plugin.unreserve at unreserved
  repeat' split at unreserved
  all_goals first
    | (obtain rfl := pure_eq_ok.mp unreserved; exact refl s)
    | (obtain ⟨_, -, returned⟩ := bind_eq_ok.mp unreserved
       obtain rfl := pure_eq_ok.mp returned
       exact of_eq rfl rfl)
    | cases unreserved

/-! ### Every call but the end of startup -/

theorem step {i : Env × PluginCall} {r : PluginReply} {s' : PluginState}
    (stepped : s.step i = .ok (r, s')) (notFinish : i.2 ≠ .finishStartup) : s.Keeps s' := by
  obtain ⟨env, call⟩ := i
  cases call with
  | reserve pod nodeName =>
    obtain ⟨⟨s'', status⟩, reserved, same⟩ := map_eq_ok.mp stepped
    obtain ⟨-, rfl⟩ := Prod.mk.inj same
    exact reserve reserved
  | unreserve pod nodeName =>
    obtain ⟨s'', unreserved, same⟩ := map_eq_ok.mp stepped
    obtain ⟨-, rfl⟩ := Prod.mk.inj same
    exact unreserve unreserved
  | podEvent kind pod now =>
    obtain ⟨-, rfl⟩ := Prod.mk.inj (pure_eq_ok.mp stepped)
    exact handlePodEvent env s kind pod now
  | nodeEvent kind node =>
    obtain ⟨-, rfl⟩ := Prod.mk.inj (pure_eq_ok.mp stepped)
    exact handleNodeEvent env s kind node
  | finishStartup => exact absurd rfl notFinish
  | permit watch marshalResponse method body =>
    obtain ⟨-, rfl⟩ := Prod.mk.inj (pure_eq_ok.mp stepped)
    exact refl s

/-- Along calls none of which ends startup. -/
theorem run {steps : List ((Env × PluginCall) × PluginReply × PluginState)}
    (trace : Trans.Trace PluginState.step s steps) (calls : ∀ e ∈ steps, e.1.2 ≠ .finishStartup) :
    s.Keeps (Trans.last s steps) :=
  Trans.Trace.invariant_of_calls (PluginState.Keeps s) (·.2 ≠ .finishStartup)
    (fun _ _ _ _ notFinish kept stepped => kept.trans (step stepped notFinish)) trace calls
    (refl s)

end PluginState.Keeps

/-! ### Along every run -/

section Run

variable {s₀ : PluginState}

/-- No reconcile that waited for startup is lost: along any run, in whatever order the calls come
and whatever the cluster answers, a pod waiting for startup after some call is requeued by the
next end of startup. -/
theorem waiting_requeued_at_startup
    {pre mid post : List ((Env × PluginCall) × PluginReply × PluginState)}
    {i : Env × PluginCall} {r : PluginReply} {s₁ : PluginState} {env : Env}
    {requests : List Request} {s₂ : PluginState}
    (run : Trans.Trace PluginState.step s₀
      (pre ++ (i, r, s₁) :: mid ++ ((env, .finishStartup), .started requests, s₂) :: post))
    (noFinish : ∀ e ∈ mid, e.1.2 ≠ .finishStartup) {uid : String}
    (waiting : uid ∈ s₁.requeueAfterStartup) : .requeuePod uid ∈ requests := by
  obtain ⟨between, finished⟩ := run.between
  -- the calls between keep the pod waiting, and the end of startup requeues every pod waiting
  have kept := (PluginState.Keeps.run between noFinish).waiting uid waiting
  obtain ⟨replied, -⟩ := Prod.mk.inj (pure_eq_ok.mp finished)
  obtain rfl := PluginReply.started.inj replied
  exact List.mem_map.mpr ⟨uid, AList.mem_keys.mp kept, rfl⟩

/-- No VM is patched before startup ends: along any run from a state where startup is not done,
no call made before the first end of startup patches a VM, whatever the cluster answers. -/
theorem no_vm_patch_before_startup (notDone : s₀.startupDone = false)
    {pre post : List ((Env × PluginCall) × PluginReply × PluginState)} {i : Env × PluginCall}
    {requests : List Request} {out : Reconcile.Outcome} {s' : PluginState}
    (run : Trans.Trace PluginState.step s₀ (pre ++ (i, .reconciled requests out, s') :: post))
    (early : ∀ e ∈ pre, e.1.2 ≠ .finishStartup) (vm : NamespacedName) (ops : List Operation) :
    .patchVM vm ops ∉ requests := by
  intro patched
  obtain ⟨before, stepped, -⟩ := run.at
  have kept := PluginState.Keeps.run before early
  obtain ⟨_, _, _, _, _, _, _, -, -, -, done, -⟩ := step_patchVM stepped patched
  have started := done.started
  rw [kept.startupDone, notDone] at started
  exact absurd started (by decide)

end Run

/-! ### A sample startup -/

/-- A node and the VM pod's event before startup ends, whose reconcile waits, and then the end of
startup. -/
def deferredRun : List ((Env × PluginCall) × PluginReply × PluginState) :=
  Trans.runCalls PluginState.step (newPluginState sampleConfig [])
    [(sampleVMEnv, .nodeEvent .added (sampleNode "a")),
      (sampleVMEnv, .podEvent .added (sampleVMPod "a") 0), (sampleVMEnv, .finishStartup)]

/-- The state the pod's event leaves, with the pod waiting. -/
def deferredState : PluginState :=
  Trans.last (newPluginState sampleConfig []) (deferredRun.take 2)

theorem deferredRun_trace :
    Trans.Trace PluginState.step (newPluginState sampleConfig [])
      (deferredRun.take 1 ++
        ((sampleVMEnv, .podEvent .added (sampleVMPod "a") 0),
          .reconciled [.requeueNode "a"] (.ok (⟨0⟩, none)), deferredState) :: [] ++
        ((sampleVMEnv, .finishStartup), .started [.requeuePod "vm-pod-uid"],
          Trans.last (newPluginState sampleConfig []) deferredRun) :: []) := by
  have split : deferredRun = deferredRun.take 1 ++
      ((sampleVMEnv, .podEvent .added (sampleVMPod "a") 0),
        .reconciled [.requeueNode "a"] (.ok (⟨0⟩, none)), deferredState) :: [] ++
      ((sampleVMEnv, .finishStartup), .started [.requeuePod "vm-pod-uid"],
        Trans.last (newPluginState sampleConfig []) deferredRun) :: [] := rfl
  rw [← split]
  exact Trans.trace_runCalls _ _

theorem waiting_requeued_at_startup_sample :
    Trans.Trace PluginState.step (newPluginState sampleConfig [])
        (deferredRun.take 1 ++
          ((sampleVMEnv, .podEvent .added (sampleVMPod "a") 0),
            .reconciled [.requeueNode "a"] (.ok (⟨0⟩, none)), deferredState) :: [] ++
          ((sampleVMEnv, .finishStartup), .started [.requeuePod "vm-pod-uid"],
            Trans.last (newPluginState sampleConfig []) deferredRun) :: []) ∧
      (∀ e ∈ ([] : List ((Env × PluginCall) × PluginReply × PluginState)),
        e.1.2 ≠ .finishStartup) ∧
      "vm-pod-uid" ∈ deferredState.requeueAfterStartup ∧
      Request.requeuePod "vm-pod-uid" ∈ [Request.requeuePod "vm-pod-uid"] :=
  have waiting : "vm-pod-uid" ∈ deferredState.requeueAfterStartup := by decide
  have noFinish : ∀ e ∈ ([] : List ((Env × PluginCall) × PluginReply × PluginState)),
      e.1.2 ≠ .finishStartup := fun _ member => absurd member List.not_mem_nil
  ⟨deferredRun_trace, noFinish, waiting,
    waiting_requeued_at_startup deferredRun_trace noFinish waiting⟩

theorem no_vm_patch_before_startup_sample :
    (newPluginState sampleConfig []).startupDone = false ∧
      Trans.Trace PluginState.step (newPluginState sampleConfig [])
        (deferredRun.take 1 ++
          ((sampleVMEnv, .podEvent .added (sampleVMPod "a") 0),
            .reconciled [.requeueNode "a"] (.ok (⟨0⟩, none)), deferredState) ::
          ([] ++ ((sampleVMEnv, .finishStartup), .started [.requeuePod "vm-pod-uid"],
            Trans.last (newPluginState sampleConfig []) deferredRun) :: [])) ∧
      (∀ e ∈ deferredRun.take 1, e.1.2 ≠ .finishStartup) ∧
      Request.patchVM ⟨"default", "vm"⟩ samplePatch ∉ [Request.requeueNode "a"] :=
  have early : ∀ e ∈ deferredRun.take 1, e.1.2 ≠ .finishStartup := by
    have calls : (deferredRun.take 1).map (·.1.2) = [.nodeEvent .added (sampleNode "a")] := rfl
    intro e member finish
    have listed : e.1.2 ∈ (deferredRun.take 1).map (·.1.2) := List.mem_map.mpr ⟨e, member, rfl⟩
    rw [calls, finish] at listed
    cases List.mem_singleton.mp listed
  ⟨rfl, deferredRun_trace, early,
    no_vm_patch_before_startup rfl deferredRun_trace early ⟨"default", "vm"⟩ samplePatch⟩

end Autoscaling.Plugin
