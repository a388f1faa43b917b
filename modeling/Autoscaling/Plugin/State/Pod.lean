import Autoscaling.Plugin.State.Node
import Autoscaling.Api.Resources

/-!
# A pod's state from its object (`pkg/plugin/state/pod.go`, `PodStateFromK8sObj`)

`PodStateFromK8sObj` reads a pod owned by a VM from the VM's helper annotations: the resources
the VM uses, its overcommit settings, and for an autoscaling-enabled VM the scaling unit and the
resources the agent requested and the plugin approved. Any other pod counts with the sum of its
containers' requests. The node's operations divide by two of the values it sets: `AddPod`,
`RemovePod` and `ReconcilePodReserved` by the overcommit's `MilliValue()`, and
`ReconcilePodReserved` by the `Factor` when more is requested than reserved.

Neither is guarded. An autoscaling-enabled VM pod without a scaling unit gets a `Factor` of zero,
and nothing stops its approved resources from being below the ones it uses, which it then
requests: `ReconcilePodReserved` panics on every node that holds it
(`reconcilePodReserved_panics_without_scaling_unit`). An overcommit annotation of zero, which the
VM webhook leaves unvalidated, makes `AddPod` and `RemovePod` panic
(`addPod_panics_on_zero_overcommit`). A pod whose divisors are safe (`PodResources.DividesSafely`)
meets neither panic in any of the three operations, and every extracted pod has safe divisors
unless it is an autoscaling-enabled VM pod without a non-zero scaling unit, or its VM sets an
overcommit of zero (`podStateFromK8sObj_operations_ok`).

The extraction itself panics only on a VM pod without its resources annotation
(`podStateFromK8sObj_nilPointerDereference`); `podStateOrPanic` tells that panic from the errors
it returns, as its callers meet them.

Labels and annotations are maps from names to values, and `json.Unmarshal` into each type an
annotation holds is a parameter (`Unmarshal`): the decoded value, or the decoder's error.
-/

namespace Autoscaling.Plugin.State

open Go

/-- `metav1.OwnerReference`, with the fields the helpers read. -/
structure OwnerReference where
  apiVersion : String
  kind : String
  name : String
  controller : Option Bool
deriving DecidableEq, Repr

/-- A container's `Resources.Requests.Cpu()` and `.Memory()`, which are zero when absent. -/
structure Container where
  requestsCPU : Quantity
  requestsMemory : Quantity
deriving DecidableEq, Repr

/-- `corev1.Pod`, with what `PodStateFromK8sObj` reads of it; `CreationTimestamp` in
nanoseconds. -/
structure K8sPod where
  «namespace» : String
  name : String
  uid : String
  creationTimestamp : Int
  ownerReferences : List OwnerReference
  labels : String → Option String
  annotations : String → Option String
  containers : List Container

/-- `vmv1.VirtualMachineResources`, with the fields read here: `CPUs.Use`, `MemorySlots.Use` and
`MemorySlotSize`. -/
structure VirtualMachineResources where
  cpusUse : BitVec 32
  memorySlotsUse : Int32
  memorySlotSize : Quantity
deriving DecidableEq, Repr

/-- `vmv1.OvercommitSettings`. -/
structure OvercommitSettings where
  cpu : Option Quantity
  memory : Option Quantity
deriving DecidableEq, Repr

/-- `json.Unmarshal` into each type an annotation holds. -/
structure Unmarshal where
  resources : String → Except String Api.Resources
  virtualMachineResources : String → Except String VirtualMachineResources
  overcommitSettings : String → Except String OvercommitSettings

/-! ### Owners, labels and annotations -/

/-- `vmv1.SchemeGroupVersion.String()`. -/
def schemeGroupVersion : String := "vm.neon.tech/v1"

/-- `vmv1.VirtualMachineOwnerForPod(pod)`. -/
def virtualMachineOwnerForPod (pod : K8sPod) : Option OwnerReference :=
  pod.ownerReferences.find? fun ref =>
    ref.apiVersion == schemeGroupVersion && ref.kind == "VirtualMachine"

/-- `vmv1.MigrationRole`. -/
inductive MigrationRole
  | source
  | target
deriving DecidableEq, Repr

/-- The role `vmv1.MigrationOwnerForPod(pod)` returns, if a migration owns the pod: the target is
the pod the migration controls. -/
def migrationOwnerForPod (pod : K8sPod) : Option MigrationRole :=
  (pod.ownerReferences.find? fun ref =>
      ref.apiVersion == schemeGroupVersion && ref.kind == "VirtualMachineMigration").map
    fun ref => if ref.controller = some true then .target else .source

def labelEnableAutoMigration : String := "autoscaling.neon.tech/auto-migration-enabled"

def labelTestingOnlyAlwaysMigrate : String := "autoscaling.neon.tech/testing-only-always-migrate"

def labelEnableAutoscaling : String := "autoscaling.neon.tech/enabled"

def annotationAutoscalingUnit : String := "autoscaling.neon.tech/scaling-unit"

def internalAnnotationResourcesRequested : String :=
  "internal.autoscaling.neon.tech/resources-requested"

def internalAnnotationResourcesApproved : String :=
  "internal.autoscaling.neon.tech/resources-approved"

def virtualMachineResourcesAnnotation : String := "vm.neon.tech/resources"

def virtualMachineOvercommitAnnotation : String := "vm.neon.tech/overcommit"

/-- `hasTrueLabel(obj, labelName)`. -/
def hasTrueLabel (pod : K8sPod) (labelName : String) : Bool :=
  pod.labels labelName == some "true"

def hasAutoscalingEnabled (pod : K8sPod) : Bool := hasTrueLabel pod labelEnableAutoscaling

def hasAutoMigrationEnabled (pod : K8sPod) : Bool := hasTrueLabel pod labelEnableAutoMigration

def hasAlwaysMigrateLabel (pod : K8sPod) : Bool := hasTrueLabel pod labelTestingOnlyAlwaysMigrate

/-- The error of a failed `json.Unmarshal` of an annotation. -/
def couldNotUnmarshal (key : String) : String :=
  "could not unmarshal " ++ key ++ " annotation: %w"

/-- `extractAnnotationJSON[T](obj, annotation)`: `nil` for a missing annotation, and otherwise
its decoded value or an error. -/
def extractAnnotationJSON {T : Type} (unmarshal : String → Except String T) (pod : K8sPod)
    (key : String) : Except String (Option T) :=
  match pod.annotations key with
  | none => pure none
  | some jsonString =>
    match unmarshal jsonString with
    | .error _ => throw (couldNotUnmarshal key)
    | .ok value => pure (some value)

/-- `vmv1.extractFromAnnotation[T](pod, annotation)`, the same reading of an annotation. -/
def extractFromAnnotation {T : Type} (unmarshal : String → Except String T) (pod : K8sPod)
    (key : String) : Except String (Option T) :=
  extractAnnotationJSON unmarshal pod key

def extractScalingUnit (u : Unmarshal) (pod : K8sPod) : Except String (Option Api.Resources) :=
  extractAnnotationJSON u.resources pod annotationAutoscalingUnit

def extractRequestedScaling (u : Unmarshal) (pod : K8sPod) :
    Except String (Option Api.Resources) :=
  extractAnnotationJSON u.resources pod internalAnnotationResourcesRequested

def extractApprovedScaling (u : Unmarshal) (pod : K8sPod) : Except String (Option Api.Resources) :=
  extractAnnotationJSON u.resources pod internalAnnotationResourcesApproved

def virtualMachineResourcesFromPod (u : Unmarshal) (pod : K8sPod) :
    Except String (Option VirtualMachineResources) :=
  extractFromAnnotation u.virtualMachineResources pod virtualMachineResourcesAnnotation

def virtualMachineOvercommitFromPod (u : Unmarshal) (pod : K8sPod) :
    Except String (Option OvercommitSettings) :=
  extractFromAnnotation u.overcommitSettings pod virtualMachineOvercommitAnnotation

/-! ### The pod's state -/

/-- `resource.NewMilliQuantity(milli, resource.DecimalSI)`: its `Value()` rounds away from
zero. -/
def newMilliQuantity (milli : Int64) : Quantity where
  value := Int64.ofInt (if 0 ≤ milli.toInt then (milli.toInt + 999) / 1000
    else -((-milli.toInt + 999) / 1000))
  milliValue := milli

/-- `overcommitFromOptionalQuantity(q)`: the quantity's thousandths, or `1000m`, no overcommit. -/
def overcommitFromOptionalQuantity (q : Option Quantity) : Quantity :=
  match q with
  | some q => newMilliQuantity q.milliValue
  | none => newMilliQuantity 1000

/-- `vmv1.MilliCPUFromResourceQuantity(r)`. -/
def milliCPUFromResourceQuantity (r : Quantity) : BitVec 32 := ofInt64 32 r.milliValue

/-- `api.BytesFromResourceQuantity(r)`. -/
def bytesFromResourceQuantity (r : Quantity) : BitVec 64 := ofInt64 64 r.value

/-- `podStateForNormalPod(pod)`: the sums of the containers' requests, reserved as requested,
without overcommit. -/
def podStateForNormalPod (pod : K8sPod) : Pod :=
  let cpu := pod.containers.foldl (fun cpu c => cpu + milliCPUFromResourceQuantity c.requestsCPU) 0
  let mem := pod.containers.foldl (fun mem c => mem + bytesFromResourceQuantity c.requestsMemory) 0
  { namespacedName := ⟨pod.namespace, pod.name⟩
    uid := pod.uid
    createdAt := pod.creationTimestamp
    virtualMachine := ⟨"", ""⟩
    migratable := false
    alwaysMigrate := false
    migrating := false
    cpu := ⟨cpu, cpu, 0, newMilliQuantity 1000⟩
    mem := ⟨mem, mem, 0, newMilliQuantity 1000⟩ }

/-- The error for a requested scaling without a scaling unit. -/
def requestedWithoutScalingUnit : String :=
  "Pod has requested scaling but no scaling unit annotation"

/-- The scaling unit, requested and approved resources of an autoscaling-enabled VM pod: the
annotations, with the resources in use for what is missing, and an error for a request
without a unit. -/
def autoscalingResources (u : Unmarshal) (pod : K8sPod) (actualResources : Api.Resources) :
    Except String (Option Api.Resources × Api.Resources × Api.Resources) := do
  let scalingUnit ← extractScalingUnit u pod
  let requested ← extractRequestedScaling u pod
  let requested ← (match requested with
    | none => pure actualResources
    | some requested =>
      -- we cannot have requested scaling but no scaling unit
      if scalingUnit.isNone then throw requestedWithoutScalingUnit else pure requested)
  let approved ← extractApprovedScaling u pod
  pure (scalingUnit, requested, approved.getD actualResources)

/-- `podStateForVMRunner(pod, vmRef)`. The resources annotation is dereferenced without a check,
so a pod without one panics. -/
def podStateForVMRunner (u : Unmarshal) (pod : K8sPod) (vmRef : OwnerReference) :
    Except String Pod := do
  let vm : NamespacedName := ⟨pod.namespace, vmRef.name⟩
  let migrationRole := migrationOwnerForPod pod
  let alwaysMigrate := hasAlwaysMigrateLabel pod
  let autoMigrate := hasAutoMigrationEnabled pod
  let migrating := migrationRole == some .source
  -- ongoing migrations continue; migration targets are not migrated again
  let migratable :=
    migrating || (migrationRole != some .target && (autoMigrate || alwaysMigrate))
  let autoscalable := hasAutoscalingEnabled pod
  let res ← deref (← virtualMachineResourcesFromPod u pod)
  let actualResources : Api.Resources :=
    ⟨UInt32.ofBitVec res.cpusUse,
      UInt64.ofBitVec (bytesFromResourceQuantity res.memorySlotSize) *
        UInt64.ofInt res.memorySlotsUse.toInt⟩
  let overcommit := (← virtualMachineOvercommitFromPod u pod).getD ⟨none, none⟩
  let scaling ← (if !autoscalable then pure (none, actualResources, actualResources)
    else autoscalingResources u pod actualResources)
  -- the scaling unit defaults to zero; if we got here, it is not needed
  let scalingUnit := scaling.1.getD ⟨0, 0⟩
  let requested := scaling.2.1
  let approved := scaling.2.2
  pure
    { namespacedName := ⟨pod.namespace, pod.name⟩
      uid := pod.uid
      createdAt := pod.creationTimestamp
      virtualMachine := vm
      migratable := migratable
      alwaysMigrate := alwaysMigrate
      migrating := migrating
      cpu := ⟨approved.vcpu.toBitVec, requested.vcpu.toBitVec, scalingUnit.vcpu.toBitVec,
        overcommitFromOptionalQuantity overcommit.cpu⟩
      mem := ⟨approved.mem.toBitVec, requested.mem.toBitVec, scalingUnit.mem.toBitVec,
        overcommitFromOptionalQuantity overcommit.memory⟩ }

/-- `PodStateFromK8sObj(pod)`. -/
def podStateFromK8sObj (u : Unmarshal) (pod : K8sPod) : Except String Pod :=
  match virtualMachineOwnerForPod pod with
  | some vmRef => podStateForVMRunner u pod vmRef
  | none => pure (podStateForNormalPod pod)

/-- The pod's state extracted from its object is under the object's UID. -/
theorem podStateFromK8sObj_uid {u : Unmarshal} {pod : K8sPod} {p : Pod}
    (extracted : podStateFromK8sObj u pod = .ok p) : p.uid = pod.uid := by
  unfold podStateFromK8sObj at extracted
  split at extracted
  · -- the VM pod's state is built once every annotation is read
    unfold podStateForVMRunner at extracted
    obtain ⟨_, -, extracted⟩ := bind_eq_ok.mp extracted
    obtain ⟨_, -, extracted⟩ := bind_eq_ok.mp extracted
    obtain ⟨_, -, extracted⟩ := bind_eq_ok.mp extracted
    obtain ⟨_, -, returned⟩ := bind_eq_ok.mp extracted
    obtain rfl := (pure_eq_ok.mp returned).symm
    rfl
  · obtain rfl := pure_eq_ok.mp extracted
    rfl

/-! ### Where the extraction of a pod's state panics

`PodStateFromK8sObj` returns an error for an annotation it cannot decode and for a request
without a scaling unit, and panics only on the missing resources annotation of a VM pod. -/

theorem couldNotUnmarshal_ne_nilPointerDereference (key : String) :
    couldNotUnmarshal key ≠ nilPointerDereference := by
  unfold couldNotUnmarshal nilPointerDereference
  intro same
  have heads := congrArg (fun s : String => s.toList.head?) same
  simp at heads

theorem extractAnnotationJSON_error {T : Type} {unmarshal : String → Except String T}
    {pod : K8sPod} {key err : String}
    (failed : extractAnnotationJSON unmarshal pod key = .error err) :
    err = couldNotUnmarshal key := by
  unfold extractAnnotationJSON at failed
  split at failed
  · cases failed
  · split at failed
    · cases failed
      rfl
    · cases failed

theorem extractAnnotationJSON_eq_none {T : Type} {unmarshal : String → Except String T}
    {pod : K8sPod} {key : String} (absent : extractAnnotationJSON unmarshal pod key = .ok none) :
    pod.annotations key = none := by
  unfold extractAnnotationJSON at absent
  split at absent
  · next missing => exact missing
  · split at absent <;> cases absent

theorem autoscalingResources_error {u : Unmarshal} {pod : K8sPod} {actual : Api.Resources}
    {err : String} (failed : autoscalingResources u pod actual = .error err) :
    err ≠ nilPointerDereference := by
  unfold autoscalingResources at failed
  rcases bind_eq_error.mp failed with unitFailed | ⟨unit, -, failed⟩
  · rw [extractAnnotationJSON_error unitFailed]
    exact couldNotUnmarshal_ne_nilPointerDereference _
  rcases bind_eq_error.mp failed with requestedFailed | ⟨requested, -, failed⟩
  · rw [extractAnnotationJSON_error requestedFailed]
    exact couldNotUnmarshal_ne_nilPointerDereference _
  rcases bind_eq_error.mp failed with unitMissing | ⟨requested', -, failed⟩
  · split at unitMissing
    · cases unitMissing
    · split at unitMissing
      · cases unitMissing
        decide
      · cases unitMissing
  rcases bind_eq_error.mp failed with approvedFailed | ⟨approved, -, failed⟩
  · rw [extractAnnotationJSON_error approvedFailed]
    exact couldNotUnmarshal_ne_nilPointerDereference _
  · cases failed

theorem podStateFromK8sObj_nilPointerDereference {u : Unmarshal} {pod : K8sPod}
    (panicked : podStateFromK8sObj u pod = .error nilPointerDereference) :
    (virtualMachineOwnerForPod pod).isSome ∧
      pod.annotations virtualMachineResourcesAnnotation = none := by
  unfold podStateFromK8sObj at panicked
  split at panicked
  · next vmRef owned =>
    refine ⟨by simp [owned], ?_⟩
    unfold podStateForVMRunner at panicked
    rcases bind_eq_error.mp panicked with readFailed | ⟨read, readOk, panicked⟩
    · exact absurd (extractAnnotationJSON_error readFailed).symm
        (couldNotUnmarshal_ne_nilPointerDereference _)
    rcases bind_eq_error.mp panicked with derefFailed | ⟨res, -, panicked⟩
    · cases read with
      | none => exact extractAnnotationJSON_eq_none readOk
      | some _ => cases derefFailed
    rcases bind_eq_error.mp panicked with overcommitFailed | ⟨overcommit, -, panicked⟩
    · exact absurd (extractAnnotationJSON_error overcommitFailed).symm
        (couldNotUnmarshal_ne_nilPointerDereference _)
    rcases bind_eq_error.mp panicked with scalingFailed | ⟨scaling, -, panicked⟩
    · split at scalingFailed
      · cases scalingFailed
      · exact absurd rfl (autoscalingResources_error scalingFailed)
    · cases panicked
  · cases panicked

/-- `PodStateFromK8sObj(pod)` as its callers meet it: an error it returns is an error, but its
panic, the dereference of a missing resources annotation, is a panic still. -/
def podStateOrPanic (u : Unmarshal) (pod : K8sPod) : Except String (Except String Pod) :=
  match podStateFromK8sObj u pod with
  | .ok podState => .ok (.ok podState)
  | .error err => if err = nilPointerDereference then .error err else .ok (.error err)

theorem podStateOrPanic_eq_ok_ok {u : Unmarshal} {pod : K8sPod} {podState : Pod} :
    podStateOrPanic u pod = .ok (.ok podState) ↔ podStateFromK8sObj u pod = .ok podState := by
  unfold podStateOrPanic
  split
  · next extracted => simp [extracted]
  · next err extracted =>
    simp only [extracted, reduceCtorEq, iff_false]
    split <;> simp

theorem podStateOrPanic_eq_error {u : Unmarshal} {pod : K8sPod} {err : String}
    (panicked : podStateOrPanic u pod = .error err) :
    err = nilPointerDereference ∧ podStateFromK8sObj u pod = .error nilPointerDereference := by
  unfold podStateOrPanic at panicked
  split at panicked
  · cases panicked
  · next err' extracted =>
    split at panicked
    · next isPanic =>
      cases panicked
      exact ⟨isPanic, isPanic ▸ extracted⟩
    · cases panicked

/-! ### Where the node's operations divide -/

/-- The divisors a pod's resource gives the node's operations are safe: a non-zero overcommit,
and a non-zero factor unless no more is requested than reserved. -/
def PodResources.DividesSafely {w : Nat} (p : PodResources w) : Prop :=
  p.overcommit.milliValue ≠ 0 ∧ (p.requested ≤ p.reserved ∨ p.factor ≠ 0)

instance {w : Nat} (p : PodResources w) : Decidable p.DividesSafely :=
  inferInstanceAs (Decidable (_ ∧ _))

/-- Both of a pod's resources divide safely. -/
def Pod.DividesSafely (pod : Pod) : Prop := pod.cpu.DividesSafely ∧ pod.mem.DividesSafely

namespace NodeResources

variable {w : Nat}

theorem account_of_ne_zero {op : BitVec w → BitVec w → BitVec w} (r : NodeResources w)
    (p : PodResources w) (migrating : Bool) (nonzero : p.overcommit.milliValue ≠ 0) :
    r.account op p migrating =
      .ok { r with reserved := op r.reserved p.charge,
                   migrating := if migrating then op r.migrating p.charge else r.migrating } :=
  account_eq_ok.mpr ⟨nonzero, rfl⟩

theorem account_of_zero {op : BitVec w → BitVec w → BitVec w} (r : NodeResources w)
    {p : PodResources w} (migrating : Bool) (zero : p.overcommit.milliValue = 0) :
    r.account op p migrating = .error integerDivideByZero := by
  simp [account, applyOvercommit, div, zero]

/-- More requested than reserved with a zero factor: rounding the increase to a multiple of the
factor divides by zero, on every node. -/
theorem reconcilePod_panics_of_factor_zero (r : NodeResources w) {p : PodResources w}
    (migrating : Bool) (short : p.reserved < p.requested) (zero : p.factor = 0) :
    r.reconcilePod p migrating = .error integerDivideByZero := by
  have unequal : p.requested ≠ p.reserved := fun equal => by
    rw [equal] at short
    exact absurd short (BitVec.lt_irrefl _)
  have notLess : ¬ p.requested < p.reserved := fun less => BitVec.lt_asymm less short
  unfold reconcilePod
  simp [unequal, notLess, div, zero]

/-- With safe divisors `reconcilePod` returns: a decrease removes and adds back with the same
overcommit, and an increase divides by a non-zero factor. -/
theorem reconcilePod_ok_of_dividesSafely (r : NodeResources w) {p : PodResources w}
    (migrating : Bool) (safe : p.DividesSafely) :
    ∃ result, r.reconcilePod p migrating = .ok result := by
  obtain ⟨nonzero, factorSafe⟩ := safe
  unfold reconcilePod
  split
  · exact ⟨_, rfl⟩
  split
  · simp [remove, add, account_of_ne_zero, nonzero]
  · next unequal notLess =>
    have factor : p.factor ≠ 0 := factorSafe.resolve_left fun le =>
      notLess (BitVec.lt_of_le_ne le unequal)
    dsimp only
    rw [div_of_ne_zero _ factor, ok_bind]
    -- whether the increase is capped, and whether it is zero
    split_ifs <;> simp [remove, add, account_of_ne_zero, nonzero]

end NodeResources

namespace Node

/-- A pod with more CPU requested than reserved and a zero CPU factor makes
`ReconcilePodReserved` divide by zero, on every node that holds its UID. -/
theorem reconcilePodReserved_panics_of_cpu_factor_zero {n : Node} {pod : Pod}
    (contains : (n.pods.view pod.uid).isSome) (short : pod.cpu.reserved < pod.cpu.requested)
    (zero : pod.cpu.factor = 0) : n.reconcilePodReserved pod = .error integerDivideByZero := by
  obtain ⟨stored, found⟩ := Option.isSome_iff_exists.mp contains
  unfold reconcilePodReserved
  rw [XactMap.get_eq_view, found]
  simp [NodeResources.reconcilePod_panics_of_factor_zero _ _ short zero]
  rfl

/-- A pod with a zero CPU overcommit makes `AddPod` divide by zero, on every node without it. -/
theorem addPod_panics_of_zero_overcommit {n : Node} {pod : Pod}
    (absent : n.pods.view pod.uid = none) (zero : pod.cpu.overcommit.milliValue = 0) :
    n.addPod pod = .error integerDivideByZero := by
  unfold addPod
  simp [XactMap.get_eq_view, absent, NodeResources.add, NodeResources.account_of_zero _ _ zero]
  rfl

/-- `RemovePod` of a UID whose stored pod has a zero CPU overcommit divides by zero. -/
theorem removePod_panics_of_zero_overcommit {n : Node} {uid : String} {pod : Pod}
    (found : n.pods.view uid = some pod) (zero : pod.cpu.overcommit.milliValue = 0) :
    n.removePod uid = .error integerDivideByZero := by
  unfold removePod
  simp [XactMap.get_eq_view, found, NodeResources.remove, NodeResources.account_of_zero _ _ zero]
  rfl

theorem addPod_ok_of_dividesSafely {n : Node} {pod : Pod} (absent : n.pods.view pod.uid = none)
    (safe : pod.DividesSafely) : ∃ n', n.addPod pod = .ok n' := by
  unfold addPod
  simp [XactMap.get_eq_view, absent, NodeResources.add, NodeResources.account_of_ne_zero,
    safe.1.1, safe.2.1]

/-- `RemovePod` removes the pod stored under the UID, so it is that pod's overcommit that
counts. -/
theorem removePod_ok_of_dividesSafely {n : Node} {uid : String}
    (safe : ∀ pod, n.pods.view uid = some pod → pod.DividesSafely) :
    ∃ result, n.removePod uid = .ok result := by
  unfold removePod
  rw [XactMap.get_eq_view]
  split
  · exact ⟨_, rfl⟩
  · next pod found =>
    obtain ⟨⟨cpuSafe, -⟩, memSafe, -⟩ := safe pod found
    simp [NodeResources.remove, NodeResources.account_of_ne_zero, cpuSafe, memSafe]

theorem reconcilePodReserved_ok_of_dividesSafely {n : Node} {pod : Pod}
    (contains : (n.pods.view pod.uid).isSome) (safe : pod.DividesSafely) :
    ∃ result, n.reconcilePodReserved pod = .ok result := by
  obtain ⟨⟨cpu, podCPU, cpuDone⟩, cpuReconciled⟩ :=
    n.cpu.reconcilePod_ok_of_dividesSafely pod.migrating safe.1
  obtain ⟨⟨mem, podMem, memDone⟩, memReconciled⟩ :=
    n.mem.reconcilePod_ok_of_dividesSafely pod.migrating safe.2
  obtain ⟨stored, found⟩ := Option.isSome_iff_exists.mp contains
  unfold reconcilePodReserved
  rw [XactMap.get_eq_view, found]
  simp [cpuReconciled, memReconciled]

end Node

/-! ### Reading an annotation -/

theorem extractAnnotationJSON_of_absent {T : Type} (unmarshal : String → Except String T)
    {pod : K8sPod} {key : String} (absent : pod.annotations key = none) :
    extractAnnotationJSON unmarshal pod key = .ok none := by
  simp [extractAnnotationJSON, absent, pure, Except.pure]

theorem extractAnnotationJSON_of_decodes {T : Type} {unmarshal : String → Except String T}
    {pod : K8sPod} {key jsonString : String} {value : T}
    (present : pod.annotations key = some jsonString)
    (decodes : unmarshal jsonString = .ok value) :
    extractAnnotationJSON unmarshal pod key = .ok (some value) := by
  simp [extractAnnotationJSON, present, decodes, pure, Except.pure]

/-! ### What the state's divisors come from -/

/-- The resources of an autoscaling-enabled VM pod come with the scaling unit its annotation
holds. -/
theorem autoscalingResources_unit {u : Unmarshal} {pod : K8sPod} {actual : Api.Resources}
    {scalingUnit : Option Api.Resources} {requested approved : Api.Resources}
    (read : autoscalingResources u pod actual = .ok (scalingUnit, requested, approved)) :
    extractScalingUnit u pod = .ok scalingUnit := by
  unfold autoscalingResources at read
  obtain ⟨unit, unitRead, rest⟩ := bind_eq_ok.mp read
  obtain ⟨requestedRead, -, rest⟩ := bind_eq_ok.mp rest
  obtain ⟨requested', -, rest⟩ := bind_eq_ok.mp rest
  obtain ⟨approved', -, returned⟩ := bind_eq_ok.mp rest
  rw [pure_eq_ok, Prod.mk.injEq] at returned
  rw [unitRead, returned.1]

/-- What `podStateForVMRunner` sets: the overcommit the annotation holds, and the approved,
requested and scaling-unit resources, which are the ones in use for a VM without autoscaling. -/
theorem podStateForVMRunner_eq_ok {u : Unmarshal} {pod : K8sPod} {vmRef : OwnerReference}
    {p : Pod} (extracted : podStateForVMRunner u pod vmRef = .ok p) :
    ∃ (overcommit : Option OvercommitSettings) (scalingUnit : Option Api.Resources)
      (requested approved : Api.Resources),
      virtualMachineOvercommitFromPod u pod = .ok overcommit ∧
      (hasAutoscalingEnabled pod = true → extractScalingUnit u pod = .ok scalingUnit) ∧
      (hasAutoscalingEnabled pod = false → requested = approved) ∧
      p.cpu = ⟨approved.vcpu.toBitVec, requested.vcpu.toBitVec,
        (scalingUnit.getD ⟨0, 0⟩).vcpu.toBitVec,
        overcommitFromOptionalQuantity (overcommit.getD ⟨none, none⟩).cpu⟩ ∧
      p.mem = ⟨approved.mem.toBitVec, requested.mem.toBitVec,
        (scalingUnit.getD ⟨0, 0⟩).mem.toBitVec,
        overcommitFromOptionalQuantity (overcommit.getD ⟨none, none⟩).memory⟩ := by
  unfold podStateForVMRunner at extracted
  obtain ⟨resources, -, extracted⟩ := bind_eq_ok.mp extracted
  obtain ⟨res, -, extracted⟩ := bind_eq_ok.mp extracted
  obtain ⟨overcommit, overcommitRead, extracted⟩ := bind_eq_ok.mp extracted
  obtain ⟨⟨scalingUnit, requested, approved⟩, read, returned⟩ := bind_eq_ok.mp extracted
  obtain rfl := (pure_eq_ok.mp returned).symm
  refine ⟨overcommit, scalingUnit, requested, approved, overcommitRead, fun on => ?_,
    fun off => ?_, rfl, rfl⟩
  · rw [on] at read
    exact autoscalingResources_unit read
  · -- without autoscaling, both are the resources in use
    rw [off] at read
    simp only [Bool.not_false, if_true, pure_eq_ok, Prod.mk.injEq] at read
    rw [← read.2.1, ← read.2.2]

/-- The factors of an extracted pod are safe unless it is an autoscaling-enabled VM pod whose
scaling unit is missing or zero: a pod that is not a VM's, or a VM's without autoscaling,
reserves what it requests. -/
theorem podStateFromK8sObj_factor_safe {u : Unmarshal} {pod : K8sPod} {p : Pod}
    (extracted : podStateFromK8sObj u pod = .ok p)
    (scaled : (virtualMachineOwnerForPod pod).isSome → hasAutoscalingEnabled pod = true →
      ∃ unit : Api.Resources, extractScalingUnit u pod = .ok (some unit) ∧ unit.vcpu ≠ 0 ∧
        unit.mem ≠ 0) :
    (p.cpu.requested ≤ p.cpu.reserved ∨ p.cpu.factor ≠ 0) ∧
      (p.mem.requested ≤ p.mem.reserved ∨ p.mem.factor ≠ 0) := by
  unfold podStateFromK8sObj at extracted
  split at extracted
  next vmRef owned =>
    obtain ⟨overcommit, scalingUnit, requested, approved, -, unitRead, same, cpuIs, memIs⟩ :=
      podStateForVMRunner_eq_ok extracted
    rw [cpuIs, memIs]
    cases autoscalable : hasAutoscalingEnabled pod with
    | false =>
      obtain rfl := same autoscalable
      exact ⟨.inl (BitVec.le_refl _), .inl (BitVec.le_refl _)⟩
    | true =>
      obtain ⟨unit, unitIs, cpuUnit, memUnit⟩ := scaled (by simp [owned]) autoscalable
      obtain rfl : scalingUnit = some unit :=
        Except.ok.inj ((unitRead autoscalable).symm.trans unitIs)
      refine ⟨.inr fun zero => cpuUnit ?_, .inr fun zero => memUnit ?_⟩
      · exact UInt32.toBitVec_inj.mp (by simpa using zero)
      · exact UInt64.toBitVec_inj.mp (by simpa using zero)
  next =>
    obtain rfl := (pure_eq_ok.mp extracted).symm
    exact ⟨.inl (BitVec.le_refl _), .inl (BitVec.le_refl _)⟩

/-- The overcommits of an extracted pod are `1000m` or what the VM's annotation sets. -/
theorem podStateFromK8sObj_overcommit_safe {u : Unmarshal} {pod : K8sPod} {p : Pod}
    (extracted : podStateFromK8sObj u pod = .ok p)
    (overcommitted : (virtualMachineOwnerForPod pod).isSome → ∀ settings,
      virtualMachineOvercommitFromPod u pod = .ok (some settings) →
        (∀ q, settings.cpu = some q → q.milliValue ≠ 0) ∧
          (∀ q, settings.memory = some q → q.milliValue ≠ 0)) :
    p.cpu.overcommit.milliValue ≠ 0 ∧ p.mem.overcommit.milliValue ≠ 0 := by
  -- `overcommitFromOptionalQuantity` keeps the thousandths of a quantity, or sets `1000m`
  have fromOptional : ∀ q : Option Quantity, (∀ q', q = some q' → q'.milliValue ≠ 0) →
      (overcommitFromOptionalQuantity q).milliValue ≠ 0 := fun q nonzero => by
    cases q with
    | none => decide
    | some q' => exact nonzero q' rfl
  unfold podStateFromK8sObj at extracted
  split at extracted
  next vmRef owned =>
    obtain ⟨overcommit, scalingUnit, requested, approved, overcommitRead, -, -, cpuIs, memIs⟩ :=
      podStateForVMRunner_eq_ok extracted
    rw [cpuIs, memIs]
    cases overcommit with
    | none => exact ⟨fromOptional none (by simp), fromOptional none (by simp)⟩
    | some settings =>
      obtain ⟨cpuNonzero, memNonzero⟩ := overcommitted (by simp [owned]) settings overcommitRead
      exact ⟨fromOptional _ cpuNonzero, fromOptional _ memNonzero⟩
  next =>
    obtain rfl := (pure_eq_ok.mp extracted).symm
    have thousand : (newMilliQuantity 1000).milliValue ≠ 0 := by decide
    exact ⟨thousand, thousand⟩

/-- A pod `PodStateFromK8sObj` returns meets no division by zero in `AddPod`, `RemovePod` or
`ReconcilePodReserved`, on any node, if it is not an autoscaling-enabled VM pod without a
non-zero scaling unit, and its VM sets no overcommit of zero. -/
theorem podStateFromK8sObj_operations_ok {u : Unmarshal} {pod : K8sPod} {p : Pod}
    (extracted : podStateFromK8sObj u pod = .ok p)
    (scaled : (virtualMachineOwnerForPod pod).isSome → hasAutoscalingEnabled pod = true →
      ∃ unit : Api.Resources, extractScalingUnit u pod = .ok (some unit) ∧ unit.vcpu ≠ 0 ∧
        unit.mem ≠ 0)
    (overcommitted : (virtualMachineOwnerForPod pod).isSome → ∀ settings,
      virtualMachineOvercommitFromPod u pod = .ok (some settings) →
        (∀ q, settings.cpu = some q → q.milliValue ≠ 0) ∧
          (∀ q, settings.memory = some q → q.milliValue ≠ 0))
    (n : Node) :
    (n.pods.view p.uid = none → ∃ n', n.addPod p = .ok n') ∧
      (n.pods.view p.uid = some p → ∃ result, n.removePod p.uid = .ok result) ∧
      ((n.pods.view p.uid).isSome → ∃ result, n.reconcilePodReserved p = .ok result) := by
  obtain ⟨cpuFactor, memFactor⟩ := podStateFromK8sObj_factor_safe extracted scaled
  obtain ⟨cpuOvercommit, memOvercommit⟩ :=
    podStateFromK8sObj_overcommit_safe extracted overcommitted
  have safe : p.DividesSafely := ⟨⟨cpuOvercommit, cpuFactor⟩, memOvercommit, memFactor⟩
  refine ⟨fun absent => Node.addPod_ok_of_dividesSafely absent safe, fun holds => ?_,
    fun contains => Node.reconcilePodReserved_ok_of_dividesSafely contains safe⟩
  exact Node.removePod_ok_of_dividesSafely fun stored found =>
    (Option.some.inj (found.symm.trans holds)) ▸ safe

/-! ### A VM pod without a scaling unit -/

/-- The resources annotation of a VM using 2 CPUs and two memory slots of 1 GiB. -/
def unitlessResourcesJSON : String :=
  "\x7b\"cpus\":\x7b\"min\":1,\"max\":4,\"use\":2\x7d," ++
    "\"memorySlots\":\x7b\"min\":1,\"max\":4,\"use\":2\x7d,\"memorySlotSize\":\"1Gi\"\x7d"

/-- An approval of 1 CPU and 2 GiB. -/
def unitlessApprovedJSON : String := "\x7b\"vCPUs\":1,\"mem\":\"2Gi\"\x7d"

/-- What the resources annotation holds. -/
def unitlessResources : VirtualMachineResources := ⟨2000, 2, ⟨2 ^ 30, 2 ^ 30 * 1000⟩⟩

/-- A runner pod of an autoscaling-enabled VM, with its resources and an approval below them,
and neither a scaling unit nor a requested scaling. -/
def unitlessPod : K8sPod where
  «namespace» := "default"
  name := "runner"
  uid := "runner-uid"
  creationTimestamp := 0
  ownerReferences := [⟨schemeGroupVersion, "VirtualMachine", "vm", some true⟩]
  labels := fun label => if label = labelEnableAutoscaling then some "true" else none
  annotations := fun key =>
    if key = virtualMachineResourcesAnnotation then some unitlessResourcesJSON
    else if key = internalAnnotationResourcesApproved then some unitlessApprovedJSON
    else none
  containers := []

/-- Its state: 1 CPU reserved of the 2 it requests, with a factor of zero. -/
def unitlessPodState : Pod where
  namespacedName := ⟨"default", "runner"⟩
  uid := "runner-uid"
  createdAt := 0
  virtualMachine := ⟨"default", "vm"⟩
  migratable := false
  alwaysMigrate := false
  migrating := false
  cpu := ⟨1000, 2000, 0, newMilliQuantity 1000⟩
  mem := ⟨2 ^ 31, 2 ^ 31, 0, newMilliQuantity 1000⟩

/-- `PodStateFromK8sObj` accepts the pod, and `ReconcilePodReserved` of its state divides by its
zero factor on every node that holds it. -/
theorem reconcilePodReserved_panics_without_scaling_unit (u : Unmarshal)
    (decodesResources : u.virtualMachineResources unitlessResourcesJSON = .ok unitlessResources)
    (decodesApproved : u.resources unitlessApprovedJSON = .ok ⟨1000, 2 ^ 31⟩) (n : Node)
    (contains : n.pods.view unitlessPodState.uid = some unitlessPodState) :
    podStateFromK8sObj u unitlessPod = .ok unitlessPodState ∧
      n.reconcilePodReserved unitlessPodState = .error integerDivideByZero := by
  constructor
  · have resources :
        virtualMachineResourcesFromPod u unitlessPod = .ok (some unitlessResources) := by
      unfold virtualMachineResourcesFromPod extractFromAnnotation
      exact extractAnnotationJSON_of_decodes (by decide) decodesResources
    have overcommit : virtualMachineOvercommitFromPod u unitlessPod = .ok none := by
      unfold virtualMachineOvercommitFromPod extractFromAnnotation
      exact extractAnnotationJSON_of_absent _ (by decide)
    have unit : extractScalingUnit u unitlessPod = .ok none :=
      extractAnnotationJSON_of_absent _ (by decide)
    have requested : extractRequestedScaling u unitlessPod = .ok none :=
      extractAnnotationJSON_of_absent _ (by decide)
    have approved : extractApprovedScaling u unitlessPod = .ok (some ⟨1000, 2 ^ 31⟩) :=
      extractAnnotationJSON_of_decodes (by decide) decodesApproved
    have owner : virtualMachineOwnerForPod unitlessPod =
        some ⟨schemeGroupVersion, "VirtualMachine", "vm", some true⟩ := by decide
    have autoscalable : hasAutoscalingEnabled unitlessPod = true := by decide
    rw [podStateFromK8sObj, owner]
    dsimp only
    rw [podStateForVMRunner, resources]
    simp only [ok_bind, deref_some, overcommit, autoscalable, Bool.not_true, autoscalingResources,
      unit, requested, approved]
    decide
  · exact Node.reconcilePodReserved_panics_of_cpu_factor_zero (by simp [contains]) (by decide) rfl

/-- A decoder that knows the two annotations of `unitlessPod`. -/
def unitlessUnmarshal : Unmarshal where
  resources := fun s => if s = unitlessApprovedJSON then .ok ⟨1000, 2 ^ 31⟩ else .error "invalid"
  virtualMachineResources := fun s =>
    if s = unitlessResourcesJSON then .ok unitlessResources else .error "invalid"
  overcommitSettings := fun _ => .error "invalid"

/-- A node of 4 CPUs and 8 GiB holding the pod. -/
def unitlessNode : Node :=
  { nodeStateFromParams (fun _ total => total) "node-1" 4000 (8 * 2 ^ 30) ∅ with
    pods := XactMap.newXactMap.set unitlessPodState.uid unitlessPodState }

theorem reconcilePodReserved_panics_without_scaling_unit_sample :
    podStateFromK8sObj unitlessUnmarshal unitlessPod = .ok unitlessPodState ∧
      unitlessNode.reconcilePodReserved unitlessPodState = .error integerDivideByZero :=
  reconcilePodReserved_panics_without_scaling_unit unitlessUnmarshal (by decide) (by decide)
    unitlessNode (by decide)

/-! ### A VM pod with an overcommit of zero -/

/-- An overcommit annotation of `0` for CPU. -/
def zeroOvercommitJSON : String := "\x7b\"cpu\":\"0\"\x7d"

/-- A runner pod of a VM that is not autoscaling-enabled, with a CPU overcommit of zero. -/
def zeroOvercommitPod : K8sPod :=
  { unitlessPod with
    labels := fun _ => none
    annotations := fun key =>
      if key = virtualMachineResourcesAnnotation then some unitlessResourcesJSON
      else if key = virtualMachineOvercommitAnnotation then some zeroOvercommitJSON
      else none }

/-- Its state: reserved as used, and a CPU overcommit of `0m`. -/
def zeroOvercommitPodState : Pod :=
  { unitlessPodState with
    cpu := ⟨2000, 2000, 0, newMilliQuantity 0⟩ }

/-- `PodStateFromK8sObj` accepts the pod, and its state makes `AddPod` divide by zero on every
node without it, and `RemovePod` on every node holding it. -/
theorem addPod_panics_on_zero_overcommit (u : Unmarshal)
    (decodesResources : u.virtualMachineResources unitlessResourcesJSON = .ok unitlessResources)
    (decodesOvercommit : u.overcommitSettings zeroOvercommitJSON = .ok ⟨some ⟨0, 0⟩, none⟩)
    (n : Node) (absent : n.pods.view zeroOvercommitPodState.uid = none) (m : Node)
    (holds : m.pods.view zeroOvercommitPodState.uid = some zeroOvercommitPodState) :
    podStateFromK8sObj u zeroOvercommitPod = .ok zeroOvercommitPodState ∧
      n.addPod zeroOvercommitPodState = .error integerDivideByZero ∧
      m.removePod zeroOvercommitPodState.uid = .error integerDivideByZero := by
  refine ⟨?_, Node.addPod_panics_of_zero_overcommit absent rfl,
    Node.removePod_panics_of_zero_overcommit holds rfl⟩
  have resources : virtualMachineResourcesFromPod u zeroOvercommitPod =
      .ok (some unitlessResources) := by
    unfold virtualMachineResourcesFromPod extractFromAnnotation
    exact extractAnnotationJSON_of_decodes (by decide) decodesResources
  have overcommit : virtualMachineOvercommitFromPod u zeroOvercommitPod =
      .ok (some ⟨some ⟨0, 0⟩, none⟩) := by
    unfold virtualMachineOvercommitFromPod extractFromAnnotation
    exact extractAnnotationJSON_of_decodes (by decide) decodesOvercommit
  have owner : virtualMachineOwnerForPod zeroOvercommitPod =
      some ⟨schemeGroupVersion, "VirtualMachine", "vm", some true⟩ := by decide
  have notAutoscalable : hasAutoscalingEnabled zeroOvercommitPod = false := by decide
  rw [podStateFromK8sObj, owner]
  dsimp only
  rw [podStateForVMRunner, resources]
  simp only [ok_bind, deref_some, overcommit, notAutoscalable, Bool.not_false, if_true]
  decide

end Autoscaling.Plugin.State
