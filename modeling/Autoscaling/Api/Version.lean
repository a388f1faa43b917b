import Autoscaling.Api.Resources

/-!
# Protocol versions (`pkg/api/versionutils.go`, `types.go`)

Both ends of each protocol of the autoscaler state the versions they speak as a `VersionRange`,
with both bounds included, and agree on the latest version both cover
(`LatestSharedVersion`). Its correctness is that of the range intersection: the version it
returns is in both ranges and above every other version they share
(`latestSharedVersion_covers`, `le_latestSharedVersion`), and it returns none only for ranges
that share no version (`latestSharedVersion_eq_none`). A peer that speaks a single version, as
the autoscaler-agent does towards the scheduler plugin, shares one with another single version
only if the two are the same (`latestSharedVersion_single`).

Go's `min` and `max` of `constraints.Ordered` are the `Min` and `Max` of the version type, and the
results hold of any type whose order is linear and whose `min` and `max` are lawful for it, as
`uint32` is.
-/

namespace Autoscaling.Api

/-- Go's `max` on `uint32` keeps its first argument unless the second is greater, so it is
the least upper bound of the two. -/
instance uint32LawfulOrderLeftLeaningMax : Std.LawfulOrderLeftLeaningMax UInt32 :=
  Std.LawfulOrderLeftLeaningMax.of_eq fun a b => by
    rw [UInt32.max_def]
    split
    · next below =>
      split
      · next above => exact UInt32.le_antisymm above below
      · rfl
    · next notBelow =>
      rw [if_pos (UInt32.le_of_lt (UInt32.not_le.mp notBelow))]

/-- `VersionRange[V]`: the versions `v` with `Min <= v <= Max`. -/
structure VersionRange (V : Type) where
  min : V
  max : V
deriving DecidableEq, Repr

namespace VersionRange

variable {V : Type} [LE V]

/-- The range covers the version. -/
def Covers (r : VersionRange V) (v : V) : Prop := r.min ≤ v ∧ v ≤ r.max

/-- The range of the one version `v`. -/
def single (v : V) : VersionRange V := ⟨v, v⟩

theorem covers_single [Std.IsLinearOrder V] {v w : V} : (single v).Covers w ↔ w = v := by
  constructor
  · rintro ⟨above, below⟩
    exact Std.le_antisymm below above
  · rintro rfl
    exact ⟨Std.le_refl w, Std.le_refl w⟩

variable [DecidableLE V] [Min V] [Max V]

/-- `r.LatestSharedVersion(cmp)`, with `none` for `(0, false)`. -/
def latestSharedVersion (r cmp : VersionRange V) : Option V :=
  let maxVersion := Min.min r.max cmp.max
  let minVersion := Max.max r.min cmp.min
  if maxVersion ≥ minVersion then some maxVersion else none

theorem latestSharedVersion_eq_some {r cmp : VersionRange V} {v : V} :
    r.latestSharedVersion cmp = some v ↔
      Max.max r.min cmp.min ≤ Min.min r.max cmp.max ∧ v = Min.min r.max cmp.max := by
  unfold latestSharedVersion
  dsimp only
  split
  · next shared => simp only [Option.some.injEq, eq_comm, true_and, shared]
  · next disjoint =>
    simp only [reduceCtorEq, false_iff, not_and]
    exact fun shared => absurd shared disjoint

/-- No version both ranges cover is later than the one agreed on. -/
theorem le_latestSharedVersion [Std.LawfulOrderInf V] {r cmp : VersionRange V} {v w : V}
    (agreed : r.latestSharedVersion cmp = some v) (inR : r.Covers w) (inCmp : cmp.Covers w) :
    w ≤ v := by
  obtain ⟨-, rfl⟩ := latestSharedVersion_eq_some.mp agreed
  exact Std.le_min_iff.mpr ⟨inR.2, inCmp.2⟩

section Lawful

variable [Std.IsLinearOrder V] [Std.LawfulOrderInf V] [Std.LawfulOrderSup V]

/-- The version agreed on is one both ranges cover. -/
theorem latestSharedVersion_covers {r cmp : VersionRange V} {v : V}
    (agreed : r.latestSharedVersion cmp = some v) : r.Covers v ∧ cmp.Covers v := by
  obtain ⟨shared, rfl⟩ := latestSharedVersion_eq_some.mp agreed
  obtain ⟨rMin, cmpMin⟩ := Std.max_le_iff.mp shared
  exact ⟨⟨rMin, Std.min_le_left⟩, ⟨cmpMin, Std.min_le_right⟩⟩

/-- The ranges agree on no version exactly when they share none. -/
theorem latestSharedVersion_eq_none {r cmp : VersionRange V} :
    r.latestSharedVersion cmp = none ↔ ∀ w, ¬ (r.Covers w ∧ cmp.Covers w) := by
  constructor
  · rintro disjoint w ⟨⟨rMin, rMax⟩, ⟨cmpMin, cmpMax⟩⟩
    have shared : Max.max r.min cmp.min ≤ Min.min r.max cmp.max :=
      Std.le_trans (Std.max_le_iff.mpr ⟨rMin, cmpMin⟩) (Std.le_min_iff.mpr ⟨rMax, cmpMax⟩)
    simp only [latestSharedVersion, ge_iff_le, shared, if_true, reduceCtorEq] at disjoint
  · intro none_shared
    cases agreed : r.latestSharedVersion cmp with
    | none => rfl
    | some v =>
      exact absurd (latestSharedVersion_covers agreed) (none_shared v)

/-- Two single versions are agreed on only when they are the same, and then that one is. -/
theorem latestSharedVersion_single {a b v : V} :
    (single a).latestSharedVersion (single b) = some v ↔ a = b ∧ v = a := by
  constructor
  · intro agreed
    obtain ⟨inA, inB⟩ := latestSharedVersion_covers agreed
    exact ⟨(covers_single.mp inA).symm.trans (covers_single.mp inB), covers_single.mp inA⟩
  · rintro ⟨rfl, rfl⟩
    have self : Min.min (single v).max (single v).max = v := by
      simp only [single]
      exact Std.le_antisymm Std.min_le_left (Std.le_min_iff.mpr ⟨Std.le_refl v, Std.le_refl v⟩)
    apply latestSharedVersion_eq_some.mpr
    refine ⟨?_, self.symm⟩
    rw [self]
    exact Std.max_le_iff.mpr ⟨Std.le_refl v, Std.le_refl v⟩

end Lawful

end VersionRange

/-- `PluginProtoVersion`. -/
abbrev PluginProtoVersion := UInt32

/-- `PluginProtoV5_0`: the seventh version, counting from `PluginProtoV1_0 = 1`. -/
def pluginProtoV5_0 : PluginProtoVersion := 7

/-- `v.IsValid()`: the zero value is not valid. -/
def PluginProtoVersion.isValid (v : PluginProtoVersion) : Bool := v.toNat != 0

example : (VersionRange.single pluginProtoV5_0).latestSharedVersion (.single 6) = none := by
  decide

end Autoscaling.Api
