import Autoscaling.Api.Revision

/-!
# Resources and VM information (`pkg/api`)

`Resources` pairs an amount of CPU (`vmv1.MilliCPU`, a `uint32` of thousandths of a CPU) with an
amount of memory (`Bytes`, a `uint64`). The scaling logic compares resources field by field:
`r.HasFieldGreaterThan(cmp)` is false exactly when `r ≤ cmp` in the product order, which is the
order the invariants of the agent are stated in. `Add` and `Mul` wrap like the machine integers
they are built from.

`VmInfo` keeps the memory of a VM as a number of slots of a fixed size, so `SetUsing` divides by
the slot size (a panic when it is zero) and truncates to `uint16`.

The floating-point fields of the scaling configuration are kept at an arbitrary type `F`: nothing
in the model computes with them.
-/

namespace Autoscaling.Api

open Vmv1

/-- `vmv1.MilliCPU`. -/
abbrev MilliCPU := UInt32

/-- `Bytes`. -/
abbrev Bytes := UInt64

/-- `Resources`. -/
structure Resources where
  vcpu : MilliCPU
  mem : Bytes
deriving DecidableEq, Repr

namespace Resources

/-- `r.ValidateNonZero()`, with `none` for a nil error. -/
def validateNonZero (r : Resources) : Option String :=
  if r.vcpu = 0 then some "vCPUs must be non-zero"
  else if r.mem = 0 then some "mem must be non-zero"
  else none

/-- `r.HasFieldGreaterThan(cmp)`. -/
def hasFieldGreaterThan (r cmp : Resources) : Bool :=
  decide (r.vcpu > cmp.vcpu) || decide (r.mem > cmp.mem)

/-- `r.HasFieldLessThan(cmp)`. -/
def hasFieldLessThan (r cmp : Resources) : Bool :=
  cmp.hasFieldGreaterThan r

/-- `r.Min(cmp)`. -/
def min (r cmp : Resources) : Resources :=
  ⟨Min.min r.vcpu cmp.vcpu, Min.min r.mem cmp.mem⟩

/-- `r.Max(cmp)`. -/
def max (r cmp : Resources) : Resources :=
  ⟨Max.max r.vcpu cmp.vcpu, Max.max r.mem cmp.mem⟩

/-- `r.Add(other)`, wrapping. -/
def add (r other : Resources) : Resources :=
  ⟨r.vcpu + other.vcpu, r.mem + other.mem⟩

/-- `r.SaturatingSub(other)`. -/
def saturatingSub (r other : Resources) : Resources :=
  ⟨Go.saturatingSub r.vcpu other.vcpu, Go.saturatingSub r.mem other.mem⟩

/-- `r.Mul(factor)`, wrapping. -/
def mul (r : Resources) (factor : UInt16) : Resources :=
  ⟨factor.toUInt32 * r.vcpu, factor.toUInt64 * r.mem⟩

/-! ### The field-wise order -/

instance : PartialOrder Resources where
  le r s := r.vcpu ≤ s.vcpu ∧ r.mem ≤ s.mem
  le_refl r := ⟨UInt32.le_refl _, UInt64.le_refl _⟩
  le_trans _ _ _ h₁ h₂ := ⟨UInt32.le_trans h₁.1 h₂.1, UInt64.le_trans h₁.2 h₂.2⟩
  le_antisymm r s h₁ h₂ := by
    obtain ⟨vcpu, mem⟩ := r
    obtain ⟨vcpu', mem'⟩ := s
    have same_vcpu : vcpu = vcpu' := UInt32.le_antisymm h₁.1 h₂.1
    have same_mem : mem = mem' := UInt64.le_antisymm h₁.2 h₂.2
    rw [same_vcpu, same_mem]

theorem le_def {r s : Resources} : r ≤ s ↔ r.vcpu ≤ s.vcpu ∧ r.mem ≤ s.mem := Iff.rfl

instance (r s : Resources) : Decidable (r ≤ s) :=
  decidable_of_iff _ le_def.symm

@[simp] theorem hasFieldGreaterThan_eq_false {r cmp : Resources} :
    r.hasFieldGreaterThan cmp = false ↔ r ≤ cmp := by
  simp only [hasFieldGreaterThan, Bool.or_eq_false_iff, decide_eq_false_iff_not, le_def]
  constructor
  · rintro ⟨vcpu, mem⟩
    exact ⟨UInt32.not_lt.mp vcpu, UInt64.not_lt.mp mem⟩
  · rintro ⟨vcpu, mem⟩
    exact ⟨UInt32.not_lt.mpr vcpu, UInt64.not_lt.mpr mem⟩

@[simp] theorem hasFieldLessThan_eq_false {r cmp : Resources} :
    r.hasFieldLessThan cmp = false ↔ cmp ≤ r :=
  hasFieldGreaterThan_eq_false

theorem hasFieldGreaterThan_iff {r cmp : Resources} :
    r.hasFieldGreaterThan cmp = true ↔ ¬ r ≤ cmp := by
  rw [← hasFieldGreaterThan_eq_false, Bool.not_eq_false]

theorem hasFieldLessThan_iff {r cmp : Resources} :
    r.hasFieldLessThan cmp = true ↔ ¬ cmp ≤ r :=
  hasFieldGreaterThan_iff

@[simp] theorem max_vcpu (r s : Resources) : (r.max s).vcpu = Max.max r.vcpu s.vcpu := rfl
@[simp] theorem max_mem (r s : Resources) : (r.max s).mem = Max.max r.mem s.mem := rfl
@[simp] theorem min_vcpu (r s : Resources) : (r.min s).vcpu = Min.min r.vcpu s.vcpu := rfl
@[simp] theorem min_mem (r s : Resources) : (r.min s).mem = Min.min r.mem s.mem := rfl

theorem max_le_iff {r s t : Resources} : r.max s ≤ t ↔ r ≤ t ∧ s ≤ t := by
  simp only [le_def, max_vcpu, max_mem, UInt32.max_def, UInt64.max_def]
  grind

theorem le_max_left (r s : Resources) : r ≤ r.max s :=
  (max_le_iff.mp le_rfl).1

theorem le_max_right (r s : Resources) : s ≤ r.max s :=
  (max_le_iff.mp le_rfl).2

theorem le_min_iff {r s t : Resources} : t ≤ r.min s ↔ t ≤ r ∧ t ≤ s := by
  simp only [le_def, min_vcpu, min_mem, UInt32.min_def, UInt64.min_def]
  grind

theorem max_eq_right {r s : Resources} (below : r ≤ s) : r.max s = s := by
  obtain ⟨vcpu, mem⟩ := below
  simp only [max, UInt32.max_def, UInt64.max_def, if_pos vcpu, if_pos mem]

theorem max_comm (r s : Resources) : r.max s = s.max r := by
  simp only [max, UInt32.max_def, UInt64.max_def, mk.injEq]
  grind

end Resources

/-! ### Field by field -/

/-- The two fields of `Resources`, for statements that hold of each. -/
inductive Field
  | vcpu
  | mem
deriving DecidableEq, Repr

/-- How many values the field's type has: `MilliCPU` is 32 bits wide, `Bytes` 64. -/
def Field.size : Field → Nat
  | .vcpu => 2 ^ 32
  | .mem => 2 ^ 64

namespace Resources

/-- The field `f` of the resources, as a natural number. -/
def get (r : Resources) : Field → Nat
  | .vcpu => r.vcpu.toNat
  | .mem => r.mem.toNat

theorem le_iff_get {r s : Resources} : r ≤ s ↔ ∀ f, r.get f ≤ s.get f := by
  constructor
  · rintro ⟨vcpu, mem⟩ f
    cases f
    · exact UInt32.le_iff_toNat_le.mp vcpu
    · exact UInt64.le_iff_toNat_le.mp mem
  · intro each
    exact ⟨UInt32.le_iff_toNat_le.mpr (each .vcpu), UInt64.le_iff_toNat_le.mpr (each .mem)⟩

theorem eq_iff_get {r s : Resources} : r = s ↔ ∀ f, r.get f = s.get f := by
  constructor
  · rintro rfl f
    rfl
  · intro each
    obtain ⟨vcpu, mem⟩ := r
    obtain ⟨vcpu', mem'⟩ := s
    have sameVcpu : vcpu = vcpu' := UInt32.toNat_inj.mp (each .vcpu)
    have sameMem : mem = mem' := UInt64.toNat_inj.mp (each .mem)
    rw [sameVcpu, sameMem]

@[simp] theorem get_max (r s : Resources) (f : Field) :
    (r.max s).get f = Max.max (r.get f) (s.get f) := by
  cases f
  · exact UInt32.toNat_max r.vcpu s.vcpu
  · exact UInt64.toNat_max r.mem s.mem

@[simp] theorem get_min (r s : Resources) (f : Field) :
    (r.min s).get f = Min.min (r.get f) (s.get f) := by
  cases f
  · exact UInt32.toNat_min r.vcpu s.vcpu
  · exact UInt64.toNat_min r.mem s.mem

theorem get_vcpu_pos {r : Resources} (nonzero : r.vcpu ≠ 0) : 0 < r.get .vcpu :=
  Nat.pos_of_ne_zero fun zero => nonzero (UInt32.toNat_inj.mp (by simpa [get] using zero))

theorem get_mem_pos {r : Resources} (nonzero : r.mem ≠ 0) : 0 < r.get .mem :=
  Nat.pos_of_ne_zero fun zero => nonzero (UInt64.toNat_inj.mp (by simpa [get] using zero))

theorem get_lt_size (r : Resources) (f : Field) : r.get f < f.size := by
  cases f
  · exact UInt32.toNat_lt r.vcpu
  · exact UInt64.toNat_lt r.mem

/-- `Mul` wraps at the width of each field. -/
@[simp] theorem get_mul (r : Resources) (factor : UInt16) (f : Field) :
    (r.mul factor).get f = factor.toNat * r.get f % f.size := by
  cases f
  · simp [mul, get, Field.size, UInt32.toNat_mul]
  · simp [mul, get, Field.size, UInt64.toNat_mul]

end Resources

/-- `MoreResources`: which resources the vm-monitor asks more of. -/
structure MoreResources where
  cpu : Bool
  memory : Bool
deriving DecidableEq, Repr

/-- Whether more of the field `f` is asked for. -/
def MoreResources.get (more : MoreResources) : Field → Bool
  | .vcpu => more.cpu
  | .mem => more.memory

/-- `PluginResponse`. Its `Migrate` field is not read by the agent's scaling logic. -/
structure PluginResponse where
  permit : Resources
deriving DecidableEq, Repr

/-! ### Scaling configuration -/

/-- `ScalingConfig`, every field optional; the floating-point ones are of type `F`. -/
structure ScalingConfig (F : Type) where
  loadAverageFractionTarget : Option F
  memoryUsageFractionTarget : Option F
  memoryTotalFractionTarget : Option F
  enableLFCMetrics : Option Bool
  lfcUseLargestWindow : Option Bool
  lfcToMemoryRatio : Option F
  lfcMinWaitBeforeDownscaleMinutes : Option Int64
  lfcWindowSizeMinutes : Option Int64
  cpuStableZoneRatio : Option F
  cpuMixedZoneRatio : Option F
deriving DecidableEq, Repr

/-- `defaults.WithOverrides(overrides)`: each field set in `overrides` replaces the default. -/
def ScalingConfig.withOverrides {F : Type} (defaults : ScalingConfig F) :
    Option (ScalingConfig F) → ScalingConfig F
  | none => defaults
  | some overrides =>
    { loadAverageFractionTarget :=
        overrides.loadAverageFractionTarget.or defaults.loadAverageFractionTarget
      memoryUsageFractionTarget :=
        overrides.memoryUsageFractionTarget.or defaults.memoryUsageFractionTarget
      memoryTotalFractionTarget :=
        overrides.memoryTotalFractionTarget.or defaults.memoryTotalFractionTarget
      enableLFCMetrics := overrides.enableLFCMetrics.or defaults.enableLFCMetrics
      lfcUseLargestWindow := overrides.lfcUseLargestWindow.or defaults.lfcUseLargestWindow
      lfcToMemoryRatio := overrides.lfcToMemoryRatio.or defaults.lfcToMemoryRatio
      lfcMinWaitBeforeDownscaleMinutes :=
        overrides.lfcMinWaitBeforeDownscaleMinutes.or defaults.lfcMinWaitBeforeDownscaleMinutes
      lfcWindowSizeMinutes := overrides.lfcWindowSizeMinutes.or defaults.lfcWindowSizeMinutes
      cpuStableZoneRatio := overrides.cpuStableZoneRatio.or defaults.cpuStableZoneRatio
      cpuMixedZoneRatio := overrides.cpuMixedZoneRatio.or defaults.cpuMixedZoneRatio }

section Validate

variable {F : Type} [LT F] [DecidableLT F] [LE F] [DecidableLE F] [OfScientific F]

/-- The checks of `validate` on one fraction: at least zero and below `bound`, and set if all
fields are required. -/
def fractionErrors (name : String) (value : Option F) (bound : F) (boundText : String)
    (requireAll : Bool) : List String :=
  match value with
  | some v =>
    (if v < 0.0 then [name ++ " must be set to value >= 0"] else []) ++
      (if bound ≤ v then [name ++ " must be set to value < " ++ boundText ++ " "] else [])
  | none => if requireAll then [name ++ " is a required field"] else []

/-- The fields, each with whether it is missing, that must be set. -/
def missingErrors (fields : List (String × Bool)) : List String :=
  fields.filterMap fun (name, missing) =>
    if missing then some (name ++ " is a required field") else none

/-- `c.validate(requireAll)`: the errors its collector gathers, in order; it passes when there
are none. -/
def ScalingConfig.validate (c : ScalingConfig F) (requireAll : Bool) : List String :=
  fractionErrors ".loadAverageFractionTarget" c.loadAverageFractionTarget 2.0 "2" requireAll ++
    fractionErrors ".memoryUsageFractionTarget" c.memoryUsageFractionTarget 1.0 "1" requireAll ++
    fractionErrors ".memoryTotalFractionTarget" c.memoryTotalFractionTarget 1.0 "1" requireAll ++
    if requireAll then
      missingErrors [(".enableLFCMetrics", c.enableLFCMetrics.isNone),
        (".lfcToMemoryRatio", c.lfcToMemoryRatio.isNone),
        (".lfcWindowSizeMinutes", c.lfcWindowSizeMinutes.isNone),
        (".lfcMinWaitBeforeDownscaleMinutes", c.lfcMinWaitBeforeDownscaleMinutes.isNone),
        (".cpuStableZoneRatio", c.cpuStableZoneRatio.isNone),
        (".cpuMixedZoneRatio", c.cpuMixedZoneRatio.isNone)]
    else []

/-- `c.ValidateDefaults()`. -/
def ScalingConfig.validateDefaults (c : ScalingConfig F) : List String := c.validate true

/-- `c.ValidateOverrides()`. -/
def ScalingConfig.validateOverrides (c : ScalingConfig F) : List String := c.validate false

end Validate

/-! ### VM information -/

/-- `VmCpuInfo`. -/
structure VmCpuInfo where
  min : MilliCPU
  max : MilliCPU
  use : MilliCPU
deriving DecidableEq, Repr

/-- `VmMemInfo`: numbers of memory slots, and the size of one slot. -/
structure VmMemInfo where
  min : UInt16
  max : UInt16
  use : UInt16
  slotSize : Bytes
deriving DecidableEq, Repr

/-- `VmConfig`; of it the scaling logic reads only the VM's own scaling configuration. -/
structure VmConfig (F : Type) where
  scalingConfig : Option (ScalingConfig F)
deriving DecidableEq, Repr

/-- `VmInfo`, without the name and namespace, which the scaling logic does not read. -/
structure VmInfo (F : Type) where
  cpu : VmCpuInfo
  mem : VmMemInfo
  config : VmConfig F
  currentRevision : Option RevisionWithTime
deriving DecidableEq, Repr

namespace VmInfo

variable {F : Type}

/-- `vm.Using()`. -/
def «using» (vm : VmInfo F) : Resources :=
  ⟨vm.cpu.use, vm.mem.slotSize * vm.mem.use.toUInt64⟩

/-- `vm.Min()`. -/
def min (vm : VmInfo F) : Resources :=
  ⟨vm.cpu.min, vm.mem.slotSize * vm.mem.min.toUInt64⟩

/-- `vm.Max()`. -/
def max (vm : VmInfo F) : Resources :=
  ⟨vm.cpu.max, vm.mem.slotSize * vm.mem.max.toUInt64⟩

/-- `vm.SetUsing(r)`: the memory becomes `uint16(r.Mem / vm.Mem.SlotSize)` slots. -/
def setUsing (vm : VmInfo F) (r : Resources) : Except String (VmInfo F) := do
  let slots ← Go.div r.mem vm.mem.slotSize
  return { vm with cpu := { vm.cpu with use := r.vcpu },
                   mem := { vm.mem with use := slots.toUInt16 } }

end VmInfo

end Autoscaling.Api
