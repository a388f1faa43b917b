import Autoscaling.Lib.Go
import Autoscaling.Lib.Transition
import Autoscaling.Api.Resources

/-!
# Billing metrics (`pkg/agent/billing/billing.go`)

The billing collector lists the VMs on its node at every tick of one timer (`collect`) and
reports what it saw at every tick of another (`drainEnqueue`). A VM counts from one collection to
the next when both listed it: each such interval is a time slice, appended to the VM's history,
and merged into the history's open slice when it starts where that one ends and has the same CPU.
A slice is added to the history's total only when a different one follows it
(`finalizeCurrentTimeSlice`), or at the drain, which reports every history and starts again from
none.

The model leaves out the Prometheus metrics, the logger and the sink: `drainEnqueue` returns the
histories it builds its two events of each VM from (a CPU total and an active time, in whole
seconds), with their keys. The store is read once per collection, as whether it is failing and the
VMs it lists; of a VM, `collect` reads its UID, its billing endpoint annotation, its phase and its
CPUs. CPU seconds are `Float`s, as Go's `float64`.
-/

namespace Autoscaling.Agent.Billing

open Go Api

/-- `vmv1.VmPhase`, with every other string the field may hold as `other`. -/
inductive VmPhase
  | pending
  | running
  | succeeded
  | failed
  | preMigrating
  | migrating
  | scaling
  | other (phase : String)
deriving DecidableEq, Repr

/-- `p.IsAlive()`: whether the guest is expected to be running. -/
def VmPhase.isAlive : VmPhase → Bool
  | .running | .preMigrating | .migrating | .scaling => true
  | _ => false

/-- What `collect` reads of a `vmv1.VirtualMachine`. -/
structure VirtualMachine where
  uid : String
  /-- `Annotations[api.AnnotationBillingEndpointID]`, if the annotation is there. -/
  endpointID : Option String
  phase : VmPhase
  /-- `Status.CPUs`, a nil pointer as `none`. -/
  cpus : Option MilliCPU

/-- What one collection reads of the `VMStoreForNode`: `Failing()`, and the VMs on the node. -/
structure Store where
  failing : Bool
  vms : List VirtualMachine

/-- `metricsKey`. -/
structure MetricsKey where
  uid : String
  endpointID : String
deriving DecidableEq, Repr

/-- `vmMetricsInstant`. -/
structure VmMetricsInstant where
  cpu : MilliCPU
deriving DecidableEq, Repr

/-- `metricsTimeSlice`. -/
structure MetricsTimeSlice where
  metrics : VmMetricsInstant
  startTime : Int
  endTime : Int

/-- `m.Duration()`. -/
def MetricsTimeSlice.duration (m : MetricsTimeSlice) : Duration := Time.sub m.endTime m.startTime

/-- `d.Seconds()`. -/
def Duration.seconds (d : Duration) : Float :=
  Float.ofInt (d / 1000000000).toInt + Float.ofInt (d % 1000000000).toInt / 1e9

/-- `m.AsFloat64()`. -/
def MilliCPU.asFloat64 (m : MilliCPU) : Float := m.toNat.toFloat / 1000

/-- `vmMetricsSeconds`. -/
structure VmMetricsSeconds where
  cpu : Float
  activeTime : Duration

/-- `vmMetricsHistory`, the pointer to its open slice as an `Option`. -/
structure VmMetricsHistory where
  lastSlice : Option MetricsTimeSlice
  total : VmMetricsSeconds

/-- `metricsState`. -/
structure MetricsState where
  historical : GoMap MetricsKey VmMetricsHistory
  present : GoMap MetricsKey VmMetricsInstant
  lastCollectTime : Option Int
  pushWindowStart : Int

/-- The state `runCollector` starts with, at the instant `now`. -/
def MetricsState.new (now : Int) : MetricsState := ⟨∅, ∅, none, now⟩

/-! ### Time slices and histories -/

/-- `s.tryMerge(next)`: whether `next` extends `s`, and `s` extended by it if so. -/
def MetricsTimeSlice.tryMerge (s next : MetricsTimeSlice) : Bool × MetricsTimeSlice :=
  let merged := s.endTime == next.startTime && s.metrics == next.metrics
  (merged, if merged then { s with endTime := next.endTime } else s)

/-- The panic of `finalizeCurrentTimeSlice` on a slice that ends before it starts. -/
def negativeDuration : String := "negative duration"

namespace VmMetricsHistory

/-- A history with no slice yet, as `collect` starts one. -/
def empty : VmMetricsHistory := ⟨none, ⟨0, 0⟩⟩

variable (h : VmMetricsHistory)

/-- `h.finalizeCurrentTimeSlice()`. -/
def finalizeCurrentTimeSlice : Except String VmMetricsHistory :=
  match h.lastSlice with
  | none => pure h
  | some lastSlice =>
    let duration := lastSlice.duration
    if duration < 0 then throw negativeDuration
    else
      let metricsSeconds : VmMetricsSeconds :=
        ⟨Duration.seconds duration * MilliCPU.asFloat64 lastSlice.metrics.cpu, duration⟩
      pure { h with
        total := ⟨h.total.cpu + metricsSeconds.cpu, h.total.activeTime + metricsSeconds.activeTime⟩
        lastSlice := none }

/-- `h.appendSlice(timeSlice)`. -/
def appendSlice (timeSlice : MetricsTimeSlice) : Except String VmMetricsHistory :=
  match h.lastSlice.map (·.tryMerge timeSlice) with
  -- the open slice extended by `timeSlice`
  | some (true, lastSlice) => pure { h with lastSlice := some lastSlice }
  | _ => do
    let h ← h.finalizeCurrentTimeSlice
    pure { h with lastSlice := some timeSlice }

end VmMetricsHistory

/-! ### Collecting and draining -/

namespace MetricsState

/-- The end of the loop body of `s.collect(...)` at the instant `now`, for a VM billed under
`key` with the metrics `presentMetrics`, `old` being what the last collection found present. -/
def record (s : MetricsState) (old : GoMap MetricsKey VmMetricsInstant) (now : Int)
    (key : MetricsKey) (presentMetrics : VmMetricsInstant) : Except String MetricsState := do
  let historical ← match old.lookup key with
    | some oldMetrics => do
      -- the VM was present from the last collection to now
      let startTime ← deref s.lastCollectTime
      let timeSlice : MetricsTimeSlice :=
        ⟨⟨min oldMetrics.cpu presentMetrics.cpu⟩, startTime, now⟩
      let vmHistory := (s.historical.lookup key).getD VmMetricsHistory.empty
      let vmHistory ← vmHistory.appendSlice timeSlice
      pure (s.historical.insert key vmHistory)
    | none => pure s.historical
  pure { s with historical, present := s.present.insert key presentMetrics }

/-- One VM of the loop of `s.collect(...)`. -/
def collectVM (old : GoMap MetricsKey VmMetricsInstant) (now : Int) (s : MetricsState)
    (vm : VirtualMachine) : Except String MetricsState :=
  match vm.endpointID, vm.cpus with
  | some endpointID, some cpus =>
    if !vm.phase.isAlive then pure s else s.record old now ⟨vm.uid, endpointID⟩ ⟨cpus⟩
  -- not an endpoint, or without CPUs
  | _, _ => pure s

/-- `s.collect(...)` at the instant `now`. -/
def collect (s : MetricsState) (now : Int) (store : Store) : Except String MetricsState := do
  let old := s.present
  let vmsOnThisNode := if store.failing then [] else store.vms
  let s ← vmsOnThisNode.foldlM (collectVM old now) { s with present := ∅ }
  pure { s with lastCollectTime := some now }

/-- `s.drainEnqueue(...)` at the instant `now`: each VM's history finalized, which its two events
are made of, and the state after. -/
def drainEnqueue (s : MetricsState) (now : Int) :
    Except String (List (MetricsKey × VmMetricsHistory) × MetricsState) := do
  let reported ← s.historical.entries.mapM fun entry => do
    let history ← entry.2.finalizeCurrentTimeSlice
    pure (entry.1, history)
  pure (reported, { s with pushWindowStart := now, historical := ∅ })

end MetricsState

/-- The collector's two timers. -/
inductive Call
  | collect (now : Int) (store : Store)
  | drainEnqueue (now : Int)

/-- What a call gives: the histories a drain reported. -/
inductive Reply
  | collected
  | drained (reported : List (MetricsKey × VmMetricsHistory))

/-- One tick of `runCollector`. -/
def step (s : MetricsState) : Call → Except String (Reply × MetricsState)
  | .collect now store => do
    let s ← s.collect now store
    pure (.collected, s)
  | .drainEnqueue now => do
    let (reported, s) ← s.drainEnqueue now
    pure (.drained reported, s)

/-! ### Slices and histories, one lemma each -/

/-- The key and the metrics `collect` records a VM under, if it bills it: an endpoint's VM that is
alive and has its CPUs set. -/
def VirtualMachine.billed (vm : VirtualMachine) : Option (MetricsKey × VmMetricsInstant) :=
  match vm.endpointID, vm.cpus with
  | some endpointID, some cpus =>
    if vm.phase.isAlive then some (⟨vm.uid, endpointID⟩, ⟨cpus⟩) else none
  | _, _ => none

/-- What a collection bills of the store's listing; nothing while the store is failing. -/
def Store.billed (store : Store) : List (MetricsKey × VmMetricsInstant) :=
  (if store.failing then [] else store.vms).filterMap VirtualMachine.billed

/-- The keys a collection bills. -/
def Store.billedKeys (store : Store) : List MetricsKey := store.billed.map (·.1)

namespace VmMetricsHistory

variable {h h' : VmMetricsHistory}

theorem finalizeCurrentTimeSlice_eq_ok (finalized : h.finalizeCurrentTimeSlice = .ok h') :
    h'.lastSlice = none ∧
      h'.total.activeTime = h.total.activeTime + (h.lastSlice.map (·.duration)).getD 0 := by
  unfold finalizeCurrentTimeSlice at finalized
  cases held : h.lastSlice with
  | none =>
    simp only [held, pure_eq_ok] at finalized
    subst finalized
    simp [held]
  | some lastSlice =>
    simp only [held] at finalized
    split at finalized
    next => cases finalized
    next =>
      rw [pure_eq_ok] at finalized
      subst finalized
      simp

theorem finalizeCurrentTimeSlice_ok (nonneg : ∀ sl ∈ h.lastSlice, 0 ≤ sl.duration) :
    ∃ h', h.finalizeCurrentTimeSlice = .ok h' := by
  unfold finalizeCurrentTimeSlice
  cases held : h.lastSlice with
  | none => exact ⟨h, rfl⟩
  | some lastSlice =>
    have := nonneg lastSlice held
    simp [Int64.not_lt.mpr this]

/-- `appendSlice` either extends the open slice, which ends where `next` starts and has its
metrics, or finalizes the history and opens `next`. -/
theorem appendSlice_eq_ok {next : MetricsTimeSlice} (appended : h.appendSlice next = .ok h') :
    (∃ sl, h.lastSlice = some sl ∧ sl.endTime = next.startTime ∧ sl.metrics = next.metrics ∧
      h' = { h with lastSlice := some { sl with endTime := next.endTime } }) ∨
    ∃ f, h.finalizeCurrentTimeSlice = .ok f ∧ h' = { f with lastSlice := some next } := by
  unfold appendSlice at appended
  split at appended
  next merged =>
    -- the open slice was there, and `tryMerge` took `next`
    obtain ⟨sl, held, tried⟩ := Option.map_eq_some_iff.mp merged
    simp only [MetricsTimeSlice.tryMerge, Prod.mk.injEq] at tried
    obtain ⟨both, rfl⟩ := tried
    simp only [Bool.and_eq_true, beq_iff_eq] at both
    rw [pure_eq_ok] at appended
    exact .inl ⟨sl, held, both.1, both.2, by simp [← appended, both]⟩
  next =>
    obtain ⟨f, finalized, opened⟩ := bind_eq_ok.mp appended
    exact .inr ⟨f, finalized, (pure_eq_ok.mp opened).symm⟩

end VmMetricsHistory

namespace MetricsState

variable {s s' acc acc' : MetricsState} {old : GoMap MetricsKey VmMetricsInstant} {now : Int}

theorem collectVM_eq (vm : VirtualMachine) :
    collectVM old now s vm = match vm.billed with
      | none => pure s
      | some (key, presentMetrics) => s.record old now key presentMetrics := by
  unfold collectVM VirtualMachine.billed
  split
  next => cases vm.phase.isAlive <;> rfl
  next => rfl

/-- The loop of `collect` records the VMs it bills, one after another. -/
theorem foldlM_collectVM (vms : List VirtualMachine) (acc : MetricsState) :
    vms.foldlM (collectVM old now) acc =
      (vms.filterMap VirtualMachine.billed).foldlM (fun s r => s.record old now r.1 r.2) acc := by
  induction vms generalizing acc with
  | nil => rfl
  | cons vm rest ih =>
    rw [List.foldlM_cons, collectVM_eq, List.filterMap_cons]
    cases vm.billed with
    | none => simp [ih]
    | some r => simp [ih]

theorem record_eq_ok {key : MetricsKey} {presentMetrics : VmMetricsInstant}
    (recorded : s.record old now key presentMetrics = .ok s') :
    s' = { s with historical := s'.historical, present := s.present.insert key presentMetrics } ∧
      (old.lookup key = none ∧ s'.historical = s.historical ∨
        ∃ o t h, old.lookup key = some o ∧ s.lastCollectTime = some t ∧
          ((s.historical.lookup key).getD .empty).appendSlice
            ⟨⟨min o.cpu presentMetrics.cpu⟩, t, now⟩ = .ok h ∧
          s'.historical = s.historical.insert key h) := by
  unfold record at recorded
  -- the update of `historical` is a match on `old`, then the two lines after it
  cases before : old.lookup key with
  | none =>
    simp only [before, pure_bind, pure_eq_ok] at recorded
    subst recorded
    exact ⟨rfl, .inl ⟨rfl, rfl⟩⟩
  | some o =>
    simp only [before] at recorded
    obtain ⟨t, last, recorded⟩ := bind_eq_ok.mp recorded
    obtain ⟨h, appended, recorded⟩ := bind_eq_ok.mp recorded
    simp only [pure_bind, pure_eq_ok] at recorded
    subst recorded
    exact ⟨rfl, .inr ⟨o, t, h, rfl, deref_eq_ok.mp last, appended, rfl⟩⟩

/-! ### The loop of `collect` -/

/-- What the loop of `collect` from `s` has done once it has recorded the VMs billed under
`keys`: those are the keys present, and the history of each that `old` had is appended a slice
from the last collection to `now`; every other history is as it was. -/
structure Collected (s : MetricsState) (old : GoMap MetricsKey VmMetricsInstant) (now : Int)
    (keys : List MetricsKey) (acc : MetricsState) : Prop where
  lastCollectTime : acc.lastCollectTime = s.lastCollectTime
  pushWindowStart : acc.pushWindowStart = s.pushWindowStart
  present : ∀ k, k ∈ acc.present ↔ k ∈ keys
  kept : ∀ k, (k ∉ keys ∨ old.lookup k = none) → acc.historical.lookup k = s.historical.lookup k
  appended : ∀ k o, k ∈ keys → old.lookup k = some o → ∃ t m h, s.lastCollectTime = some t ∧
    ((s.historical.lookup k).getD .empty).appendSlice ⟨m, t, now⟩ = .ok h ∧
    acc.historical.lookup k = some h

theorem collected_start : Collected s old now [] { s with present := ∅ } where
  lastCollectTime := rfl
  pushWindowStart := rfl
  present k := by simp
  kept _ _ := rfl
  appended _ _ member := absurd member List.not_mem_nil

/-- Recording one more VM, under a key not recorded yet. -/
theorem Collected.record {keys : List MetricsKey} {key : MetricsKey}
    {presentMetrics : VmMetricsInstant} (c : Collected s old now keys acc) (fresh : key ∉ keys)
    (recorded : acc.record old now key presentMetrics = .ok acc') :
    Collected s old now (keys ++ [key]) acc' := by
  obtain ⟨shape, branch⟩ := record_eq_ok recorded
  rw [shape]
  -- the histories of the other keys are those of `acc`, in either branch of `record`
  have others : ∀ k, k ≠ key → acc'.historical.lookup k = acc.historical.lookup k := by
    intro k ne
    rcases branch with ⟨-, same⟩ | ⟨o, t, h, -, -, -, inserted⟩
    · rw [same]
    · rw [inserted, AList.lookup_insert_ne ne]
  refine ⟨c.lastCollectTime, c.pushWindowStart, fun k => ?_, fun k unrecorded => ?_,
    fun k o member before => ?_⟩
  · simp only [AList.mem_insert, c.present, List.mem_append, List.mem_singleton]
    exact or_comm
  · by_cases same : k = key
    · subst same
      rcases branch with ⟨-, same⟩ | ⟨o, t, h, before, -, -, -⟩
      · rw [same, c.kept k (.inl fresh)]
      · simp [before] at unrecorded
    · rw [others k same]
      exact c.kept k (unrecorded.imp (fun out inKeys => out (List.mem_append_left _ inKeys)) id)
  · by_cases same : k = key
    · subst same
      rcases branch with ⟨none_, -⟩ | ⟨o', t, h, -, last, appended, inserted⟩
      · simp [none_] at before
      · refine ⟨t, ⟨min o'.cpu presentMetrics.cpu⟩, h, c.lastCollectTime ▸ last, ?_,
          by simp [inserted]⟩
        rwa [← c.kept k (.inl fresh)]
    · rw [others k same]
      exact c.appended k o (by simpa [same] using member) before

theorem Collected.foldlM {keys : List MetricsKey} (rs : List (MetricsKey × VmMetricsInstant))
    (nodup : (rs.map (·.1)).Nodup) (disjoint : ∀ r ∈ rs, r.1 ∉ keys)
    (c : Collected s old now keys acc)
    (folded : rs.foldlM (fun s r => s.record old now r.1 r.2) acc = .ok acc') :
    Collected s old now (keys ++ rs.map (·.1)) acc' := by
  induction rs generalizing keys acc with
  | nil =>
    rw [List.foldlM_nil, pure_eq_ok] at folded
    simpa [← folded] using c
  | cons r rest ih =>
    rw [List.foldlM_cons] at folded
    obtain ⟨mid, recorded, folded⟩ := bind_eq_ok.mp folded
    have fresh := disjoint r List.mem_cons_self
    simp only [List.map_cons, List.nodup_cons] at nodup
    have step := c.record fresh recorded
    have rest_disjoint : ∀ r' ∈ rest, r'.1 ∉ keys ++ [r.1] := by
      intro r' member
      simp only [List.mem_append, List.mem_singleton, not_or]
      exact ⟨disjoint r' (.tail _ member),
        fun same => nodup.1 (same ▸ List.mem_map_of_mem member)⟩
    simpa using ih nodup.2 rest_disjoint step folded

/-- A collection at `now` with keys billed once each: the keys billed are the ones present after,
and each one `s` had present is appended a slice from the last collection to `now`. -/
theorem collect_eq_ok {store : Store} (nodup : store.billedKeys.Nodup)
    (collected : s.collect now store = .ok s') :
    ∃ acc, Collected s s.present now store.billedKeys acc ∧
      s' = { acc with lastCollectTime := some now } := by
  obtain ⟨acc, folded, done⟩ := bind_eq_ok.mp collected
  rw [foldlM_collectVM] at folded
  refine ⟨acc, ?_, (pure_eq_ok.mp done).symm⟩
  simpa [Store.billedKeys] using collected_start.foldlM store.billed nodup (by simp) folded

/-- A drain reports each history finalized, in the order of the map, and forgets them. -/
theorem drainEnqueue_eq_ok {reported : List (MetricsKey × VmMetricsHistory)}
    (drained : s.drainEnqueue now = .ok (reported, s')) :
    s' = { s with pushWindowStart := now, historical := ∅ } ∧
      List.Forall₂ (fun e r => r.1 = e.1 ∧ e.2.finalizeCurrentTimeSlice = .ok r.2)
        s.historical.entries reported := by
  obtain ⟨reported', mapped, done⟩ := bind_eq_ok.mp drained
  obtain ⟨same, rfl⟩ := Prod.mk.inj (pure_eq_ok.mp done)
  subst same
  refine ⟨rfl, (mapM_eq_ok mapped).imp fun e r finalized => ?_⟩
  obtain ⟨h, finalized, done⟩ := bind_eq_ok.mp finalized
  rw [pure_eq_ok] at done
  exact ⟨by rw [← done], by rw [← done]; exact finalized⟩

end MetricsState

theorem step_eq_ok {s s' : MetricsState} {c : Call} {r : Reply} (stepped : step s c = .ok (r, s')) :
    match c with
    | .collect now store => r = .collected ∧ s.collect now store = .ok s'
    | .drainEnqueue now =>
      ∃ reported, r = .drained reported ∧ s.drainEnqueue now = .ok (reported, s') := by
  cases c with
  | collect now store =>
    obtain ⟨s'', collected, done⟩ := bind_eq_ok.mp stepped
    obtain ⟨rfl, rfl⟩ := Prod.mk.inj (pure_eq_ok.mp done)
    exact ⟨rfl, collected⟩
  | drainEnqueue now =>
    obtain ⟨⟨reported, s''⟩, drained, done⟩ := bind_eq_ok.mp stepped
    obtain ⟨rfl, rfl⟩ := Prod.mk.inj (pure_eq_ok.mp done)
    exact ⟨reported, rfl, drained⟩

end Autoscaling.Agent.Billing
