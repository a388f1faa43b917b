import Autoscaling.Lib.Go

/-!
# Revisions of the NeonVM API

The types of `neonvm/apis/neonvm/v1` that the autoscaler-agent uses to follow a scaling
decision through the scheduler plugin, the vm-monitor and NeonVM: a `Revision` names one
desired configuration of a VM, and a `RevisionWithTime` records when it was set.
-/

namespace Autoscaling.Vmv1

/-- `Flag`, a bitmask whose meaning is up to the user. -/
abbrev Flag := UInt64

/-- `f.Set(flag)`. -/
def Flag.set (f flag : Flag) : Flag := f ||| flag

/-- `Revision`: an identifier for one configuration of a VM. -/
structure Revision where
  value : Int64
  flags : Flag
deriving DecidableEq, Repr

/-- `ZeroRevision`, the default when revision updates are disabled. -/
def zeroRevision : Revision := ⟨0, 0⟩

/-- `r.Min(other)`: the revision with the smaller value, `other` on a tie. -/
def Revision.min (r other : Revision) : Revision :=
  if r.value < other.value then r else other

/-- `RevisionWithTime`: a revision and the time it was last updated (`metav1.Time`). -/
structure RevisionWithTime where
  revision : Revision
  updatedAt : Int
deriving DecidableEq, Repr

/-- `r.WithTime(t)`. -/
def Revision.withTime (r : Revision) (t : Int) : RevisionWithTime := ⟨r, t⟩

end Autoscaling.Vmv1
