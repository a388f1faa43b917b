import Autoscaling.Plugin.Filter

/-!
# Triggering live migrations (`pkg/plugin/migration.go`)

`balanceNode` runs `triggerMigrationsIfNecessary` on a speculative copy of a node, which it never
commits. The function first marks the pods whose migration was already requested as migrating,
so that `UnmigratedAboveWatermark` counts them. If some resource is still above its watermark
without them, it collects the migratable pods not migrating, sorts them oldest first
(`BetterMigrationTargetThan`), and requests the migration of each in turn, skipping those that
alone reserve more than a watermark, until neither resource is above its watermark any more. A
failed request ends it with an error.

`slices.SortFunc` is not stable; the model takes the sort as a parameter (`sortFunc`), of which
the results ask only that it return the candidates in an order by the comparison. The callback
`requestMigrationAndRequeue` is known through its error for each UID: it is called at most once
for each. The loop also records each call, with the candidate and the speculative node at the
time of the call; the logger and `originalNode`, which only the logs read, are left out.

The results assume of the node the bookkeeping `Accounted` of `Accounting`, with the sums of the
pods' amounts fitting the unsigned types (`Fits`), so that `Reserved` and `Migrating` are the
sums the source's comments say they are.
-/

namespace Autoscaling.Plugin

open Go State

/-! ### The model -/

/-- `p.BetterMigrationTargetThan(other)`: older pods first. -/
def Pod.betterMigrationTargetThan (p other : Pod) : Ordering := compare p.createdAt other.createdAt

/-- `slices.SortFunc(s, cmp)` does: the elements of `s` in an order by `cmp`, where equal
elements may come in any order. -/
structure SortsBy {α : Type} (cmp : α → α → Ordering) (sortFunc : List α → List α) : Prop where
  perm : ∀ s, (sortFunc s).Perm s
  sorted : ∀ s, (sortFunc s).Pairwise fun a b => cmp a b ≠ .gt

/-- The error of `triggerMigrationsIfNecessary` when a request fails. -/
def couldNotRequeuePod : String := "could not requeue pod %v with UID %s: %w"

/-- The loop's variables: the speculative node, the amounts above the watermarks last computed,
and the calls of `requestMigrationAndRequeue` made, each with its candidate and the speculative
node when it was made. -/
structure Migrations where
  tmpNode : Node
  cpuAbove : BitVec 32
  memAbove : BitVec 64
  requested : List (Pod × Node)

/-- `newPod := pod; newPod.Migrating = true; tmpNode.UpdatePod(pod, newPod)`. -/
def markMigrating (tmpNode : Node) (pod : Pod) : Except String Node :=
  Prod.fst <$> tmpNode.updatePod pod { pod with migrating := true }

/-- The first loop: each pod of `requestedMigrations` that the node holds marked as migrating; a
UID without a pod is skipped. -/
def markRequestedMigrations (tmpNode : Node) (requestedMigrations : List String) :
    Except String Node :=
  requestedMigrations.foldlM (fun tmpNode uid =>
    match tmpNode.pods.get uid with
    | none => pure tmpNode
    | some p => markMigrating tmpNode p) tmpNode

/-- `pod.CPU.Reserved > tmpNode.CPU.Watermark || pod.Mem.Reserved > tmpNode.Mem.Watermark`. -/
def tooBig (tmpNode : Node) (pod : Pod) : Bool :=
  decide (pod.cpu.reserved > tmpNode.cpu.watermark) ||
    decide (pod.mem.reserved > tmpNode.mem.watermark)

/-- The loop over the sorted candidates: the error it ends with, if a request fails, and the
loop's variables at its end. -/
def requestMigrations (requestMigrationAndRequeue : String → Option String) :
    Migrations → List Pod → Except String (Option String × Migrations)
  | st, [] => pure (none, st)
  | st, pod :: rest =>
    if tooBig st.tmpNode pod then requestMigrations requestMigrationAndRequeue st rest
    else
      let st := { st with requested := st.requested ++ [(pod, st.tmpNode)] }
      match requestMigrationAndRequeue pod.uid with
      | some _ => pure (some couldNotRequeuePod, st)
      | none => do
        let tmpNode ← markMigrating st.tmpNode pod
        let cpuAbove ← tmpNode.cpu.unmigratedAboveWatermark
        let memAbove ← tmpNode.mem.unmigratedAboveWatermark
        let st := { st with tmpNode, cpuAbove, memAbove }
        -- enough has been requested to get below the watermarks
        if decide (cpuAbove ≤ 0) && decide (memAbove ≤ 0) then pure (none, st)
        else requestMigrations requestMigrationAndRequeue st rest

/-- The candidates: the migratable pods of the node not migrating, in the order the loop over
`MigratablePods` visits them. -/
def collectCandidates (tmpNode : Node) : Except String (List Pod) :=
  tmpNode.rangeMigratablePods
    (fun candidates e => (if e.2.migrating then candidates else candidates ++ [e.2], true)) []

/-- `triggerMigrationsIfNecessary(logger, originalNode, tmpNode, requestedMigrations,
requestMigrationAndRequeue)`, with `sortFunc` for `slices.SortFunc`: the error it returns
(`none` for `nil`), and the loop's variables as it leaves them. -/
def triggerMigrationsIfNecessary (sortFunc : List Pod → List Pod) (tmpNode : Node)
    (requestedMigrations : List String) (requestMigrationAndRequeue : String → Option String) :
    Except String (Option String × Migrations) := do
  let tmpNode ← markRequestedMigrations tmpNode requestedMigrations
  let cpuAbove ← tmpNode.cpu.unmigratedAboveWatermark
  let memAbove ← tmpNode.mem.unmigratedAboveWatermark
  -- below the watermarks, or migrating enough to get there: nothing to do
  if cpuAbove = 0 && memAbove = 0 then pure (none, ⟨tmpNode, cpuAbove, memAbove, []⟩)
  else
    let candidates ← collectCandidates tmpNode
    requestMigrations requestMigrationAndRequeue ⟨tmpNode, cpuAbove, memAbove, []⟩
      (sortFunc candidates)

/-! ### The calls made before a panic

A panic of `UpdatePod` or `UnmigratedAboveWatermark` after a call of `requestMigrationAndRequeue`
does not undo the call, but `Except` drops the loop's variables with it. These follow the loops
of `requestMigrations` and `triggerMigrationsIfNecessary` and keep only the calls made when they
stop, however they stop; on a run that returns, they are the calls it records
(`requestedUntilStop_of_ok`, `triggerMigrationsRequested_of_ok`). -/

/-- The calls the loop over the candidates has made when it stops. -/
def requestedUntilStop (requestMigrationAndRequeue : String → Option String) :
    Migrations → List Pod → List (Pod × Node)
  | st, [] => st.requested
  | st, pod :: rest =>
    if tooBig st.tmpNode pod then requestedUntilStop requestMigrationAndRequeue st rest
    else
      let st := { st with requested := st.requested ++ [(pod, st.tmpNode)] }
      match requestMigrationAndRequeue pod.uid with
      | some _ => st.requested
      | none =>
        let marked : Except String Migrations := do
          let tmpNode ← markMigrating st.tmpNode pod
          let cpuAbove ← tmpNode.cpu.unmigratedAboveWatermark
          let memAbove ← tmpNode.mem.unmigratedAboveWatermark
          pure { st with tmpNode, cpuAbove, memAbove }
        match marked with
        | .error _ => st.requested
        | .ok st =>
          if decide (st.cpuAbove ≤ 0) && decide (st.memAbove ≤ 0) then st.requested
          else requestedUntilStop requestMigrationAndRequeue st rest

/-- The calls `triggerMigrationsIfNecessary` has made when it stops: none before the loop over
the candidates, which makes them all. -/
def triggerMigrationsRequested (sortFunc : List Pod → List Pod) (tmpNode : Node)
    (requestedMigrations : List String) (requestMigrationAndRequeue : String → Option String) :
    List (Pod × Node) :=
  let start : Except String (Option (Migrations × List Pod)) := do
    let tmpNode ← markRequestedMigrations tmpNode requestedMigrations
    let cpuAbove ← tmpNode.cpu.unmigratedAboveWatermark
    let memAbove ← tmpNode.mem.unmigratedAboveWatermark
    if cpuAbove = 0 && memAbove = 0 then pure none
    else
      let candidates ← collectCandidates tmpNode
      pure (some (⟨tmpNode, cpuAbove, memAbove, []⟩, sortFunc candidates))
  match start with
  | .ok (some (st, candidates)) => requestedUntilStop requestMigrationAndRequeue st candidates
  | _ => []

theorem requestedUntilStop_of_ok {requestMigrationAndRequeue : String → Option String}
    {candidates : List Pod} {st final : Migrations} {err : Option String}
    (ran : requestMigrations requestMigrationAndRequeue st candidates = .ok (err, final)) :
    requestedUntilStop requestMigrationAndRequeue st candidates = final.requested := by
  induction candidates generalizing st with
  | nil =>
    obtain ⟨-, rfl⟩ := Prod.mk.inj (pure_eq_ok.mp ran)
    rfl
  | cons pod rest ih =>
    unfold requestMigrations at ran
    unfold requestedUntilStop
    split
    · next big => exact ih (by rwa [if_pos big] at ran)
    next fits =>
    rw [if_neg fits] at ran
    dsimp only at ran ⊢
    split
    · next failed =>
      rw [failed] at ran
      obtain ⟨-, rfl⟩ := Prod.mk.inj (pure_eq_ok.mp ran)
      rfl
    next requeued =>
    rw [requeued] at ran
    obtain ⟨tmpNode, marked, ran⟩ := bind_eq_ok.mp ran
    obtain ⟨cpuAbove, cpuIs, ran⟩ := bind_eq_ok.mp ran
    obtain ⟨memAbove, memIs, ran⟩ := bind_eq_ok.mp ran
    simp only [marked, cpuIs, memIs, bind, Except.bind, pure, Except.pure]
    split
    · next below =>
      rw [if_pos below] at ran
      obtain ⟨-, rfl⟩ := Prod.mk.inj (pure_eq_ok.mp ran)
      rfl
    · next above =>
      rw [if_neg above] at ran
      exact ih ran

theorem triggerMigrationsRequested_of_ok {sortFunc : List Pod → List Pod} {tmpNode : Node}
    {requestedMigrations : List String} {requestMigrationAndRequeue : String → Option String}
    {err : Option String} {final : Migrations}
    (ran : triggerMigrationsIfNecessary sortFunc tmpNode requestedMigrations
      requestMigrationAndRequeue = .ok (err, final)) :
    triggerMigrationsRequested sortFunc tmpNode requestedMigrations requestMigrationAndRequeue =
      final.requested := by
  unfold triggerMigrationsIfNecessary at ran
  unfold triggerMigrationsRequested
  obtain ⟨marked, markedIs, ran⟩ := bind_eq_ok.mp ran
  obtain ⟨cpuAbove, cpuIs, ran⟩ := bind_eq_ok.mp ran
  obtain ⟨memAbove, memIs, ran⟩ := bind_eq_ok.mp ran
  simp only [markedIs, cpuIs, memIs, bind, Except.bind, pure, Except.pure]
  split at ran
  · next below =>
    rw [if_pos below]
    obtain ⟨-, rfl⟩ := Prod.mk.inj (pure_eq_ok.mp ran)
    rfl
  · next above =>
    rw [if_neg above]
    obtain ⟨candidates, collected, ran⟩ := bind_eq_ok.mp ran
    simp only [collected]
    exact requestedUntilStop_of_ok ran

/-! ### Marking a pod as migrating -/

/-- The sums of the pods' amounts fit the unsigned types: `Reserved` and `Migrating` are then the
sums as integers. -/
structure Fits (n : Node) : Prop where
  cpu : n.pods.natSumBy (·.cpu.charge) < 2 ^ 32
  mem : n.pods.natSumBy (·.mem.charge) < 2 ^ 64

section Mark

variable {w : Nat} {n n₁ n' : Node} {pod : Pod} {uid : String} {existed : Bool}

/-- On a node whose sums fit, `UnmigratedAboveWatermark` does not panic. -/
theorem unmigrated_ok (acc : Accounted n) (fits : Fits n) :
    n.cpu.unmigratedAboveWatermark =
        .ok (saturatingSub (n.cpu.reserved - n.cpu.migrating) n.cpu.watermark) ∧
      n.mem.unmigratedAboveWatermark =
        .ok (saturatingSub (n.mem.reserved - n.mem.migrating) n.mem.watermark) :=
  ⟨NodeResources.unmigratedAboveWatermark_of_le (acc.cpu.toNat fits.cpu).2.2,
    NodeResources.unmigratedAboveWatermark_of_le (acc.mem.toNat fits.mem).2.2⟩

theorem account_watermark {op : BitVec w → BitVec w → BitVec w} {r r' : NodeResources w}
    {p : PodResources w} {migrating : Bool} (accounted : r.account op p migrating = .ok r') :
    r'.watermark = r.watermark := by
  obtain ⟨-, rfl⟩ := NodeResources.account_eq_ok.mp accounted
  rfl

theorem addPod_watermarks (added : n.addPod pod = .ok n') :
    n'.cpu.watermark = n.cpu.watermark ∧ n'.mem.watermark = n.mem.watermark := by
  obtain ⟨-, cpu, mem, cpuAdded, memAdded, rfl⟩ := Node.addPod_eq_ok added
  exact ⟨account_watermark cpuAdded, account_watermark memAdded⟩

theorem removePod_watermarks (removed : n.removePod uid = .ok (n', existed)) :
    n'.cpu.watermark = n.cpu.watermark ∧ n'.mem.watermark = n.mem.watermark := by
  rcases Node.removePod_eq_ok removed with
    ⟨-, rfl⟩ | ⟨pod, cpu, mem, -, cpuRemoved, memRemoved, rfl⟩
  · exact ⟨rfl, rfl⟩
  · exact ⟨account_watermark cpuRemoved, account_watermark memRemoved⟩

/-- Replacing a pod by one with the same amount leaves the sum as it was. -/
theorem natSumBy_replace {m m' : XactMap String Pod} {pod' : Pod} (weight : Pod → BitVec w)
    (held : m.view uid = some pod) (views : m'.view = Function.update m.view uid (some pod'))
    (same : weight pod' = weight pod) : m'.natSumBy weight = m.natSumBy weight := by
  have swapped := XactMap.sumBy_set_found (fun p => (weight p).toNat) held pod'
  have congr := XactMap.sumBy_congr (fun p => (weight p).toNat)
    (views.trans (XactMap.view_set m uid pod').symm)
  rw [same] at swapped
  change m'.sumBy (fun p => (weight p).toNat) = m.sumBy (fun p => (weight p).toNat)
  rw [congr]
  exact Nat.add_right_cancel swapped

/-- Marking a migratable pod the node holds as migrating: the pod replaced by its marked copy,
the watermarks kept, and the bookkeeping too. -/
theorem markMigrating_spec (acc : Accounted n) (fits : Fits n)
    (held : n.pods.view pod.uid = some pod) (migratable : pod.migratable = true) :
    ∃ n', markMigrating n pod = .ok n' ∧ Accounted n' ∧ Fits n' ∧
      n'.pods.view = Function.update n.pods.view pod.uid (some { pod with migrating := true }) ∧
      n'.cpu.watermark = n.cpu.watermark ∧ n'.mem.watermark = n.mem.watermark := by
  obtain ⟨cpuNonzero, memNonzero⟩ := acc.overcommitted _ _ held
  -- `UpdatePod` removes the pod, then adds the marked one
  obtain ⟨n₁, removed⟩ : ∃ n₁, n.removePod pod.uid = .ok (n₁, true) := ⟨_, by
    simp only [Node.removePod, XactMap.get_eq_view, held, NodeResources.remove_ok cpuNonzero,
      NodeResources.remove_ok memNonzero, ok_bind]
    rfl⟩
  have gone : n₁.pods.view = Function.update n.pods.view pod.uid none := by
    rcases Node.removePod_eq_ok removed with ⟨absent, -⟩ | ⟨p, cpu, mem, -, -, -, rfl⟩
    · rw [held] at absent
      cases absent
    · exact XactMap.view_delete _ _
  have fresh : n₁.pods.view ({ pod with migrating := true } : Pod).uid = none := by
    rw [gone, Function.update_self]
  obtain ⟨n', added, views, -, -⟩ := addPod_ok fresh cpuNonzero memNonzero
  have updated : n.updatePod pod { pod with migrating := true } =
      .ok (n', decide (pod ≠ { pod with migrating := true })) := by
    unfold Node.updatePod
    rw [if_neg (by simp), if_neg (by simp), if_neg (by simp [migratable]),
      if_neg (by simp [XactMap.get_eq_view, held]), removed, ok_bind]
    dsimp only
    rw [added, ok_bind]
    rfl
  have marked : n'.pods.view = Function.update n.pods.view pod.uid
      (some { pod with migrating := true }) := by
    rw [views, gone, Function.update_idem]
  obtain ⟨cpuRemoved, memRemoved⟩ := removePod_watermarks removed
  obtain ⟨cpuAdded, memAdded⟩ := addPod_watermarks added
  refine ⟨n', by rw [markMigrating, updated]; rfl, acc.updatePod updated, ⟨?_, ?_⟩, marked,
    cpuAdded.trans cpuRemoved, memAdded.trans memRemoved⟩
  · rw [natSumBy_replace (·.cpu.charge) held marked rfl]
    exact fits.cpu
  · rw [natSumBy_replace (·.mem.charge) held marked rfl]
    exact fits.mem

end Mark

/-! ### The speculative node -/

/-- The pods of `t`, those under the UIDs `uids` marked migrating. -/
def migratingView (t : Node) (uids : List String) (uid : String) : Option Pod :=
  (t.pods.view uid).map fun p => if uid ∈ uids then { p with migrating := true } else p

/-- `n` is the node `t` with the pods under `uids` marked migrating: its bookkeeping kept, its sums
fitting, and its watermarks those of `t`. -/
structure Speculated (t : Node) (uids : List String) (n : Node) : Prop where
  accounted : Accounted n
  fits : Fits n
  pods : n.pods.view = migratingView t uids
  cpuWatermark : n.cpu.watermark = t.cpu.watermark
  memWatermark : n.mem.watermark = t.mem.watermark

section Speculated

variable {t n : Node} {uids : List String} {p : Pod} {k : String}

theorem migratingView_eq_some : migratingView t uids k = some p ↔
    ∃ p₀, t.pods.view k = some p₀ ∧ p = if k ∈ uids then { p₀ with migrating := true } else p₀ := by
  simp only [migratingView, Option.map_eq_some_iff]
  exact exists_congr fun p₀ => and_congr_right fun _ => eq_comm

/-- Marking one more UID changes the view there only. -/
theorem migratingView_snoc : migratingView t (uids ++ [k]) =
    Function.update (migratingView t uids) k
      ((t.pods.view k).map fun p => { p with migrating := true }) := by
  funext uid
  by_cases same : uid = k
  · subst same
    simp [migratingView]
  · simp [migratingView, same]

/-- More UIDs marked leave the view alone at a UID not among them. -/
theorem migratingView_append_of_not_mem {more : List String} (fresh : k ∉ more) :
    migratingView t (uids ++ more) k = migratingView t uids k := by
  simp [migratingView, fresh]

/-- A pod of the view not migrating is the pod of `t`, under a UID not marked. -/
theorem migratingView_of_not_migrating (found : migratingView t uids k = some p)
    (idle : p.migrating = false) : k ∉ uids ∧ t.pods.view k = some p := by
  obtain ⟨p₀, original, rfl⟩ := migratingView_eq_some.mp found
  by_cases marked : k ∈ uids
  · simp [marked] at idle
  · rw [if_neg marked]
    exact ⟨marked, original⟩

theorem Speculated.start (acc : Accounted t) (fits : Fits t) : Speculated t [] t :=
  ⟨acc, fits, by funext uid; simp [migratingView], rfl, rfl⟩

/-- Marking a migratable pod the speculative node holds marks one more UID. -/
theorem Speculated.mark (spec : Speculated t uids n) (held : n.pods.view p.uid = some p)
    (migratable : p.migratable = true) :
    ∃ n', markMigrating n p = .ok n' ∧ Speculated t (uids ++ [p.uid]) n' := by
  obtain ⟨n', marked, acc, fits, pods, cpuWatermark, memWatermark⟩ :=
    markMigrating_spec spec.accounted spec.fits held migratable
  refine ⟨n', marked, acc, fits, ?_, cpuWatermark.trans spec.cpuWatermark,
    memWatermark.trans spec.memWatermark⟩
  -- the pod of `t` marked is the pod held marked, whether or not it was marked before
  obtain ⟨p₀, original, shape⟩ := migratingView_eq_some.mp (spec.pods ▸ held)
  have same : ({ p with migrating := true } : Pod) = { p₀ with migrating := true } := by
    rw [shape]
    split_ifs <;> rfl
  rw [pods, spec.pods, migratingView_snoc, original, same]
  rfl

end Speculated

/-! ### The first loop -/

section FirstLoop

variable {t n : Node} {done : List String}

/-- The body of the first loop on one UID whose pod in `t`, if any, is migratable. -/
theorem Speculated.markRequested (spec : Speculated t done n) {uid : String}
    (migratable : ∀ p, t.pods.view uid = some p → p.migratable = true) :
    ∃ n', markRequestedMigrations n [uid] = .ok n' ∧ Speculated t (done ++ [uid]) n' := by
  simp only [markRequestedMigrations, List.foldlM_cons, List.foldlM_nil, bind_pure,
    XactMap.get_eq_view]
  cases found : n.pods.view uid with
  | none =>
    -- a UID without a pod is skipped, and `t` has none there either
    have absent : t.pods.view uid = none := by
      simpa [migratingView] using (congrFun spec.pods uid).symm.trans found
    refine ⟨n, rfl, { spec with pods := ?_ }⟩
    rw [migratingView_snoc, absent, Option.map_none, ← spec.pods, ← found,
      Function.update_eq_self]
  | some p =>
    -- the pod is held under its UID, and migratable as in `t`
    have keyed : p.uid = uid := spec.accounted.keyed uid p found
    subst keyed
    obtain ⟨p₀, original, shape⟩ := migratingView_eq_some.mp (spec.pods ▸ found)
    have stillMigratable : p.migratable = true := by
      rw [shape]
      split_ifs <;> exact migratable p₀ original
    exact spec.mark found stillMigratable

/-- The first loop, from a node that is `t` with the UIDs `done` marked, over UIDs whose pods in
`t` are migratable: it does not panic, and it marks the UIDs it goes through. -/
theorem markRequestedMigrations_spec (spec : Speculated t done n) (requested : List String)
    (migratable : ∀ uid ∈ requested, ∀ p, t.pods.view uid = some p → p.migratable = true) :
    ∃ n', markRequestedMigrations n requested = .ok n' ∧ Speculated t (done ++ requested) n' := by
  induction requested generalizing done n with
  | nil => exact ⟨n, rfl, by simpa using spec⟩
  | cons uid rest ih =>
    obtain ⟨n₁, first, spec₁⟩ := spec.markRequested (migratable uid (by simp))
    obtain ⟨n', others, spec'⟩ := ih spec₁ (fun k member => migratable k (by simp [member]))
    have split : markRequestedMigrations n (uid :: rest) =
        markRequestedMigrations n [uid] >>= fun n => markRequestedMigrations n rest := by
      simp only [markRequestedMigrations, List.foldlM_cons, List.foldlM_nil, bind_pure]
    exact ⟨n', by rw [split, first, ok_bind, others], by simpa using spec'⟩

end FirstLoop

/-! ### The candidates -/

section Candidates

variable {n : Node} {σ : Type}

/-- The body that `rangeMigratablePods` gives the loop over `migratablePods`. -/
def migratableBody (n : Node) (body : σ → String × Pod → σ × Bool) :
    XactMap.EntriesBody (Except String σ) String Unit := fun acc e =>
  match acc with
  | .error err => (.error err, [], false)
  | .ok st =>
    match n.pods.get e.1 with
    | none => (.error Node.migratableWithoutPod, [], false)
    | some pod => ((.ok (body st (e.1, pod)).1), [], (body st (e.1, pod)).2)

theorem rangeMigratablePods_eq (body : σ → String × Pod → σ × Bool) (st : σ) :
    n.rangeMigratablePods body st =
      (n.migratablePods.rangeEntries (migratableBody n body) (.ok st)).state := rfl

/-- The loop over the migratable pods of an accounted node, with a body that always goes on: it
hands each migratable pod once, so a fact the body keeps over the UIDs handed holds at the end of
all of them. -/
theorem rangeMigratablePods_history (acc : Accounted n) (body : σ → String × Pod → σ × Bool)
    (going : ∀ st e, (body st e).2 = true) (P : σ → List String → Prop) {st : σ} (init : P st [])
    (keeps : ∀ st' H uid pod, P st' H → uid ∉ H → n.pods.view uid = some pod →
      pod.migratable = true → P (body st' (uid, pod)).1 (H ++ [uid])) :
    ∃ st' H, n.rangeMigratablePods body st = .ok st' ∧ P st' H ∧ H.Nodup ∧
      ∀ uid, uid ∈ H ↔ ∃ pod, n.pods.view uid = some pod ∧ pod.migratable = true := by
  rw [rangeMigratablePods_eq]
  set walk := n.migratablePods.rangeEntries (migratableBody n body) (.ok st) with walkIs
  have history := XactMap.rangeEntries_history (migratableBody n body) (.ok st) n.migratablePods
    (fun acc _ H => ∃ st', acc = .ok st' ∧ P st' (H.map (·.1.1))) ⟨st, rfl, init⟩
    (fun acc s H e ⟨st', accIs, inv⟩ isPrefix => by
      subst accIs
      obtain ⟨fresh, listed⟩ := XactMap.rangeEntries_step_fresh _ _ _ isPrefix
      -- a UID of `migratablePods` has its pod, a migratable one
      obtain ⟨pod, held, migratable⟩ := (acc.migratable e.1).mp (by rw [listed]; rfl)
      refine ⟨(body st' (e.1, pod)).1, ?_, by simpa using keeps st' _ e.1 pod inv fresh held migratable⟩
      simp only [migratableBody, XactMap.get_eq_view, held])
  obtain ⟨st', stateIs, inv⟩ := history
  -- the body stops only on a panic, so the loop went through every UID
  have finished : walk.stopped = false := by
    refine XactMap.rangeEntries_going _ _ _ (fun acc => ∃ st', acc = .ok st')
      (fun acc e halted => ?_) ⟨st', stateIs⟩
    rintro ⟨st'', ranOk⟩
    cases acc with
    | error err => cases ranOk
    | ok st₀ =>
      revert halted ranOk
      simp only [migratableBody]
      split
      · intro _ ranOk
        cases ranOk
      · intro halted
        simp [going] at halted
  have own : ∀ acc e, ∀ k ∈ (migratableBody n body acc e).2.1, k = e.1 := by
    intro acc e k member
    simp only [migratableBody] at member
    split at member
    · simp at member
    · split at member <;> simp at member
  refine ⟨st', walk.handed.map (·.1.1), stateIs, inv, XactMap.rangeEntries_nodup _ _ _,
    fun uid => ?_⟩
  rw [XactMap.rangeEntries_handed_keys _ _ _ own finished uid]
  exact acc.migratable uid

/-- The candidates are the migratable pods not migrating, each once. -/
theorem collectCandidates_spec (acc : Accounted n) :
    ∃ candidates, collectCandidates n = .ok candidates ∧ (candidates.map (·.uid)).Nodup ∧
      ∀ p, p ∈ candidates ↔
        n.pods.view p.uid = some p ∧ p.migratable = true ∧ p.migrating = false := by
  -- the candidates are the pods not migrating among those handed, in the order handed
  obtain ⟨candidates, H, ran, listed, nodup, handed⟩ := rangeMigratablePods_history acc
    (fun candidates e => (if e.2.migrating then candidates else candidates ++ [e.2], true))
    (fun _ _ => rfl)
    (fun L H => L = H.filterMap fun uid => (n.pods.view uid).filter fun p => !p.migrating) rfl
    (fun L H uid pod listed _ held _ => by
      subst listed
      cases migrating : pod.migrating <;> simp [held, migrating, Option.filter])
  refine ⟨candidates, ran, ?_, fun p => ?_⟩
  · rw [listed, List.map_filterMap]
    refine nodup.filterMap fun a a' b member member' => ?_
    -- a candidate is held under its UID
    have onlyAt : ∀ a, b ∈ ((n.pods.view a).filter fun p => !p.migrating).map (·.uid) → b = a := by
      intro a member
      simp only [Option.mem_def, Option.map_eq_some_iff, Option.filter_eq_some_iff] at member
      obtain ⟨p, ⟨held, -⟩, rfl⟩ := member
      exact acc.keyed a p held
    exact (onlyAt a member).symm.trans (onlyAt a' member')
  · rw [listed, List.mem_filterMap]
    constructor
    · rintro ⟨uid, member, found⟩
      simp only [Option.filter_eq_some_iff, Bool.not_eq_eq_eq_not, Bool.not_true] at found
      obtain ⟨held, idle⟩ := found
      have keyed := acc.keyed uid p held
      subst keyed
      obtain ⟨pod, held', migratable⟩ := (handed p.uid).mp member
      rw [held, Option.some.injEq] at held'
      subst held'
      exact ⟨held, migratable, idle⟩
    · rintro ⟨held, migratable, idle⟩
      exact ⟨p.uid, (handed p.uid).mpr ⟨p, held, migratable⟩, by simp [held, idle, Option.filter]⟩

end Candidates

/-! ### The loop over the candidates -/

/-- A candidate of the loop as the node `t` had it before the first loop: stored under its UID,
not requested, migratable and not migrating. -/
structure Candidate (t : Node) (requested : List String) (p : Pod) : Prop where
  stored : t.pods.view p.uid = some p
  fresh : p.uid ∉ requested
  migratable : p.migratable = true
  notMigrating : p.migrating = false

/-- What holds of a call of `requestMigrationAndRequeue` for the pod `p`, made after the calls `pre`
on the speculative node `n`: `p` is a candidate under both watermarks, `n` is `t` with the
requested pods and those of the earlier calls marked migrating, and some resource of `n` is
above its watermark. -/
structure Call (t : Node) (requested : List String) (pre : List (Pod × Node)) (p : Pod)
    (n : Node) : Prop where
  candidate : Candidate t requested p
  cpuFits : p.cpu.reserved ≤ t.cpu.watermark
  memFits : p.mem.reserved ≤ t.mem.watermark
  node : Speculated t (requested ++ pre.map (·.1.uid)) n
  above : ∃ cpuAbove memAbove, n.cpu.unmigratedAboveWatermark = .ok cpuAbove ∧
    n.mem.unmigratedAboveWatermark = .ok memAbove ∧ (0 < cpuAbove ∨ 0 < memAbove)

/-- What the loop over the candidates keeps while it goes on, with `consumed` the candidates it
went through: the speculative node, the amounts above the watermarks it last computed, which are
not both zero, and a call for each candidate gone through that is not too big. -/
structure Looping (t : Node) (requested : List String) (consumed : List Pod) (st : Migrations) :
    Prop where
  node : Speculated t (requested ++ st.requested.map (·.1.uid)) st.tmpNode
  cpuAbove : st.tmpNode.cpu.unmigratedAboveWatermark = .ok st.cpuAbove
  memAbove : st.tmpNode.mem.unmigratedAboveWatermark = .ok st.memAbove
  above : 0 < st.cpuAbove ∨ 0 < st.memAbove
  calls : ∀ pre c post, st.requested = pre ++ c :: post → Call t requested pre c.1 c.2
  called : st.requested.map (·.1) = consumed.filter fun p => !tooBig t p

section Loop

variable {t n : Node} {R uids : List String} {consumed : List Pod} {st : Migrations} {p : Pod}

theorem Speculated.tooBig_eq (spec : Speculated t uids n) : tooBig n p = tooBig t p := by
  simp [tooBig, spec.cpuWatermark, spec.memWatermark]

theorem le_watermarks_of_not_tooBig (small : tooBig t p = false) :
    p.cpu.reserved ≤ t.cpu.watermark ∧ p.mem.reserved ≤ t.mem.watermark := by
  simpa [tooBig, BitVec.not_lt] using small

/-- Amounts not both zero: some one is positive. -/
theorem pos_or_pos {w w' : Nat} {x : BitVec w} {y : BitVec w'} (notBoth : ¬(x = 0 ∧ y = 0)) :
    0 < x ∨ 0 < y := by
  rcases not_and_or.mp notBoth with cpu | mem
  · exact .inl ((BitVec.pos_iff_ne_zero x).mpr cpu)
  · exact .inr ((BitVec.pos_iff_ne_zero y).mpr mem)

/-- A candidate too big is skipped. -/
theorem Looping.skip (looping : Looping t R consumed st) (big : tooBig t p = true) :
    Looping t R (consumed ++ [p]) st :=
  { looping with called := by simp [looping.called, big] }

/-- A candidate not called before is held as it was. -/
theorem Looping.held (looping : Looping t R consumed st) (candidate : Candidate t R p)
    (fresh : p.uid ∉ st.requested.map (·.1.uid)) : st.tmpNode.pods.view p.uid = some p := by
  rw [looping.node.pods, migratingView_append_of_not_mem fresh]
  simp [migratingView, candidate.stored, candidate.fresh]

/-- The call on a candidate that fits under the watermarks. -/
theorem Looping.call (looping : Looping t R consumed st) (candidate : Candidate t R p)
    (small : tooBig t p = false) :
    ∀ pre c post, st.requested ++ [(p, st.tmpNode)] = pre ++ c :: post →
      Call t R pre c.1 c.2 :=
  Listing.forall_prefix_snoc looping.calls
    ⟨candidate, (le_watermarks_of_not_tooBig small).1, (le_watermarks_of_not_tooBig small).2,
      looping.node, _, _, looping.cpuAbove, looping.memAbove, looping.above⟩

/-- A candidate not gone through is not called yet. -/
theorem Looping.fresh (looping : Looping t R consumed st) {rest : List Pod}
    (nodup : ((consumed ++ p :: rest).map (·.uid)).Nodup) : p.uid ∉ st.requested.map (·.1.uid) := by
  intro member
  obtain ⟨c, requested, same⟩ := List.mem_map.mp member
  have calledC : c.1 ∈ st.requested.map (·.1) := List.mem_map_of_mem requested
  rw [looping.called] at calledC
  rw [List.map_append, List.map_cons, List.nodup_append] at nodup
  exact nodup.2.2 _ (List.mem_map_of_mem (List.mem_of_mem_filter calledC)) _ List.mem_cons_self same

theorem Looping.called_snoc (looping : Looping t R consumed st) (small : tooBig t p = false)
    (n : Node) :
    (st.requested ++ [(p, n)]).map (·.1) = (consumed ++ [p]).filter fun p => !tooBig t p := by
  simp [looping.called, small]

/-- The loop goes on after a call, the candidate marked, while some resource is still above its
watermark. -/
theorem Looping.next (looping : Looping t R consumed st) (candidate : Candidate t R p)
    (small : tooBig t p = false) {n' : Node}
    (spec : Speculated t (R ++ st.requested.map (·.1.uid) ++ [p.uid]) n') {cpuAbove : BitVec 32}
    {memAbove : BitVec 64} (cpuIs : n'.cpu.unmigratedAboveWatermark = .ok cpuAbove)
    (memIs : n'.mem.unmigratedAboveWatermark = .ok memAbove) (above : 0 < cpuAbove ∨ 0 < memAbove) :
    Looping t R (consumed ++ [p])
      { st with requested := st.requested ++ [(p, st.tmpNode)], tmpNode := n',
                cpuAbove := cpuAbove, memAbove := memAbove } where
  node := by simpa using spec
  cpuAbove := cpuIs
  memAbove := memIs
  above := above
  calls := looping.call candidate small
  called := looping.called_snoc small st.tmpNode

/-- The loop over the candidates, from a point where it goes on: it does not panic; it goes through
a prefix `done` of the candidates left, calling on those not too big; and where it returns no
error, it leaves the node below both watermarks, or it went through every candidate. -/
theorem requestMigrations_spec (requestMigrationAndRequeue : String → Option String) :
    ∀ (rest consumed : List Pod) (st : Migrations), Looping t R consumed st →
      (∀ p ∈ rest, Candidate t R p) → ((consumed ++ rest).map (·.uid)).Nodup →
      ∃ result final done,
        requestMigrations requestMigrationAndRequeue st rest = .ok (result, final) ∧
        done <+: rest ∧
        final.requested.map (·.1) = (consumed ++ done).filter (fun p => !tooBig t p) ∧
        (∀ pre c post, final.requested = pre ++ c :: post → Call t R pre c.1 c.2) ∧
        (result = none → Speculated t (R ++ final.requested.map (·.1.uid)) final.tmpNode ∧
          (final.tmpNode.cpu.unmigratedAboveWatermark = .ok 0 ∧
            final.tmpNode.mem.unmigratedAboveWatermark = .ok 0 ∨ done = rest)) := by
  intro rest
  induction rest with
  | nil =>
    intro consumed st looping _ _
    exact ⟨none, st, [], rfl, List.nil_prefix, by simpa using looping.called, looping.calls,
      fun _ => ⟨looping.node, .inr rfl⟩⟩
  | cons p rest ih =>
    intro consumed st looping candidates nodup
    have candidate := candidates p List.mem_cons_self
    have later : ∀ q ∈ rest, Candidate t R q :=
      fun q member => candidates q (List.mem_cons_of_mem p member)
    have nodup' : ((consumed ++ [p] ++ rest).map (·.uid)).Nodup := by simpa using nodup
    cases big : tooBig t p with
    | true =>
      -- too big: skipped
      obtain ⟨result, final, done, ran, pre, called, calls, ends⟩ :=
        ih (consumed ++ [p]) st (looping.skip big) later nodup'
      refine ⟨result, final, p :: done, ?_, (List.prefix_cons_inj p).mpr pre,
        by simpa using called, calls, fun none => ?_⟩
      · rw [requestMigrations, if_pos (by rw [looping.node.tooBig_eq, big])]
        exact ran
      · obtain ⟨spec, zero | all⟩ := ends none
        · exact ⟨spec, .inl zero⟩
        · exact ⟨spec, .inr (by rw [all])⟩
    | false =>
      -- the call is made, on a candidate not called before
      have notBig : tooBig st.tmpNode p = false := by rw [looping.node.tooBig_eq, big]
      have calls := looping.call candidate big
      have called := looping.called_snoc big st.tmpNode
      cases answer : requestMigrationAndRequeue p.uid with
      | some err =>
        -- the request failed: the loop ends with the error
        refine ⟨some couldNotRequeuePod, { st with requested := st.requested ++ [(p, st.tmpNode)] },
          [p], ?_, by simp, by simpa using called, calls, fun none => by cases none⟩
        simp only [requestMigrations, notBig, answer]
        rfl
      | none =>
        -- the request made, the candidate is marked and the amounts above computed again
        obtain ⟨n', marked, spec⟩ :=
          looping.node.mark (looping.held candidate (looping.fresh nodup)) candidate.migratable
        obtain ⟨cpuAbove, cpuIs⟩ : ∃ a, n'.cpu.unmigratedAboveWatermark = .ok a :=
          ⟨_, (unmigrated_ok spec.accounted spec.fits).1⟩
        obtain ⟨memAbove, memIs⟩ : ∃ a, n'.mem.unmigratedAboveWatermark = .ok a :=
          ⟨_, (unmigrated_ok spec.accounted spec.fits).2⟩
        by_cases enough : cpuAbove = 0 ∧ memAbove = 0
        · -- enough has been requested: the loop ends without error
          refine ⟨none, { st with requested := st.requested ++ [(p, st.tmpNode)], tmpNode := n',
                                  cpuAbove := cpuAbove, memAbove := memAbove },
            [p], ?_, by simp, by simpa using called, calls,
            fun _ => ⟨by simpa using spec, .inl ⟨enough.1 ▸ cpuIs, enough.2 ▸ memIs⟩⟩⟩
          simp only [requestMigrations, notBig, answer, marked, cpuIs, memIs, ok_bind, enough]
          rfl
        · -- some resource is still above its watermark: the loop goes on
          obtain ⟨result, final, done, ran, pre, called', calls', ends⟩ :=
            ih (consumed ++ [p]) _ (looping.next candidate big spec cpuIs memIs (pos_or_pos enough))
              later nodup'
          refine ⟨result, final, p :: done, ?_, (List.prefix_cons_inj p).mpr pre,
            by simpa using called', calls', fun none => ?_⟩
          · have going : (decide (cpuAbove ≤ 0) && decide (memAbove ≤ 0)) = false := by
              simpa [BitVec.le_zero_iff] using enough
            simp only [requestMigrations, notBig, answer, marked, cpuIs, memIs, ok_bind, going,
              Bool.false_eq_true, if_false]
            exact ran
          · obtain ⟨spec', zero | all⟩ := ends none
            · exact ⟨spec', .inl zero⟩
            · exact ⟨spec', .inr (by rw [all])⟩

end Loop

/-! ### Which migrations are requested -/

/-- On a node with its bookkeeping and sums that fit, where each requested pod the node holds is
migratable, `triggerMigrationsIfNecessary` does not panic. The first loop marks the requested pods
migrating. Each call of `requestMigrationAndRequeue` is for a candidate (a pod of the node, not
requested, migratable and not migrating) that fits under both watermarks, made on the node with
the requested pods and those of the earlier calls marked migrating, while some resource of it is
above its watermark. The calls are for distinct pods, oldest first. Where it returns no error, the
speculative node is the node with the requested pods and those called marked, and either it is
below both watermarks or every candidate under the watermarks was called. -/
theorem triggerMigrations_requests_eligible_in_order (sortFunc : List Pod → List Pod)
    (sorts : SortsBy Pod.betterMigrationTargetThan sortFunc) {tmpNode : Node}
    (acc : Accounted tmpNode) (fits : Fits tmpNode) (requestedMigrations : List String)
    (requestable : ∀ uid ∈ requestedMigrations, ∀ p, tmpNode.pods.view uid = some p →
      p.migratable = true)
    (requestMigrationAndRequeue : String → Option String) :
    ∃ marked result final,
      markRequestedMigrations tmpNode requestedMigrations = .ok marked ∧
      Speculated tmpNode requestedMigrations marked ∧
      triggerMigrationsIfNecessary sortFunc tmpNode requestedMigrations
        requestMigrationAndRequeue = .ok (result, final) ∧
      (∀ pre p n post, final.requested = pre ++ (p, n) :: post →
        Call tmpNode requestedMigrations pre p n) ∧
      (final.requested.map (·.1.uid)).Nodup ∧
      (final.requested.map (·.1)).Pairwise (fun p q => p.createdAt ≤ q.createdAt) ∧
      (result = none →
        Speculated tmpNode (requestedMigrations ++ final.requested.map (·.1.uid)) final.tmpNode ∧
        (final.tmpNode.cpu.unmigratedAboveWatermark = .ok 0 ∧
            final.tmpNode.mem.unmigratedAboveWatermark = .ok 0 ∨
          ∀ p, Candidate tmpNode requestedMigrations p → tooBig tmpNode p = false →
            p ∈ final.requested.map (·.1))) := by
  -- the first loop
  obtain ⟨marked, markedRan, spec⟩ :=
    markRequestedMigrations_spec (Speculated.start acc fits) requestedMigrations requestable
  rw [List.nil_append] at spec
  obtain ⟨cpuAbove, cpuIs⟩ : ∃ a, marked.cpu.unmigratedAboveWatermark = .ok a :=
    ⟨_, (unmigrated_ok spec.accounted spec.fits).1⟩
  obtain ⟨memAbove, memIs⟩ : ∃ a, marked.mem.unmigratedAboveWatermark = .ok a :=
    ⟨_, (unmigrated_ok spec.accounted spec.fits).2⟩
  by_cases nothing : cpuAbove = 0 ∧ memAbove = 0
  · -- below the watermarks once the requested pods are marked: no call
    refine ⟨marked, none, ⟨marked, cpuAbove, memAbove, []⟩, markedRan, spec, ?_,
      fun pre p n post split => absurd split.symm (by simp), List.nodup_nil, List.Pairwise.nil,
      fun _ => ⟨by simpa using spec, .inl ⟨nothing.1 ▸ cpuIs, nothing.2 ▸ memIs⟩⟩⟩
    simp only [triggerMigrationsIfNecessary, markedRan, cpuIs, memIs, ok_bind, nothing]
    rfl
  · -- the candidates, sorted, are those of the node as it was
    obtain ⟨candidates, collected, distinct, memberIff⟩ := collectCandidates_spec spec.accounted
    have perm := sorts.perm candidates
    have candidate : ∀ p ∈ sortFunc candidates, Candidate tmpNode requestedMigrations p := by
      intro p member
      obtain ⟨held, migratable, notMigrating⟩ := (memberIff p).mp (perm.subset member)
      obtain ⟨fresh, stored⟩ := migratingView_of_not_migrating (spec.pods ▸ held) notMigrating
      exact ⟨stored, fresh, migratable, notMigrating⟩
    have distinctSorted : ((sortFunc candidates).map (·.uid)).Nodup :=
      (perm.map (·.uid)).nodup_iff.mpr distinct
    have looping : Looping tmpNode requestedMigrations [] ⟨marked, cpuAbove, memAbove, []⟩ :=
      ⟨by simpa using spec, cpuIs, memIs, pos_or_pos nothing,
        fun pre c post split => absurd split.symm (by simp), rfl⟩
    obtain ⟨result, final, done, ran, isPrefix, called, calls, ends⟩ :=
      requestMigrations_spec requestMigrationAndRequeue (sortFunc candidates) [] _ looping
        candidate (by simpa using distinctSorted)
    rw [List.nil_append] at called
    -- the calls follow the sorted candidates
    have sub : (final.requested.map (·.1)).Sublist (sortFunc candidates) := by
      rw [called]
      exact (List.filter_sublist).trans isPrefix.sublist
    have notBoth : (cpuAbove = 0 && memAbove = 0) = false := by simpa using nothing
    refine ⟨marked, result, final, markedRan, spec, ?_, fun pre p n post split =>
      calls pre (p, n) post split, ?_, ?_, fun none => ?_⟩
    · simp only [triggerMigrationsIfNecessary, markedRan, cpuIs, memIs, ok_bind, notBoth,
        Bool.false_eq_true, if_false, collected]
      exact ran
    · have distinctCalls := (sub.map (·.uid)).nodup distinctSorted
      rw [List.map_map] at distinctCalls
      exact distinctCalls
    · refine ((sorts.sorted candidates).sublist sub).imp fun ordered => ?_
      simpa [Pod.betterMigrationTargetThan, compare_gt_iff_gt] using ordered
    · obtain ⟨spec', zero | all⟩ := ends none
      · exact ⟨spec', .inl zero⟩
      · refine ⟨spec', .inr fun p isCandidate small => ?_⟩
        -- a candidate as the node had it is one of those the loop went through
        have held : marked.pods.view p.uid = some p := by
          rw [spec.pods]
          simp [migratingView, isCandidate.stored, isCandidate.fresh]
        rw [called, all, List.mem_filter]
        exact ⟨perm.symm.subset ((memberIff p).mpr
          ⟨held, isCandidate.migratable, isCandidate.notMigrating⟩), by simp [small]⟩

/-- A sort by creation time: one of the orders `slices.SortFunc` may give with
`BetterMigrationTargetThan`. -/
def sortByCreatedAt (pods : List Pod) : List Pod :=
  pods.insertionSort fun p q => p.createdAt ≤ q.createdAt

theorem sortByCreatedAt_sorts : SortsBy Pod.betterMigrationTargetThan sortByCreatedAt where
  perm s := List.perm_insertionSort _ s
  sorted s := by
    have : Std.Total fun p q : Pod => p.createdAt ≤ q.createdAt :=
      ⟨fun p q => le_total p.createdAt q.createdAt⟩
    have : IsTrans Pod fun p q => p.createdAt ≤ q.createdAt := ⟨fun _ _ _ => le_trans⟩
    refine (List.pairwise_insertionSort _ s).imp fun ordered => ?_
    simpa [Pod.betterMigrationTargetThan, compare_gt_iff_gt] using ordered

/-- A migratable pod of 3 CPUs and 8 GiB, not migrating, created at `createdAt`. -/
def migrationSamplePod (uid : String) (createdAt : Int) : Pod :=
  { samplePod uid 3000 3000 (8 * 2 ^ 30) false with migratable := true, createdAt := createdAt }

/-- Four such pods added to `sampleNode`, whose watermarks are 8 CPUs and 32 GiB. -/
def migrationSampleOps : List NodeOp :=
  [.addPod (migrationSamplePod "pod-1" 3), .addPod (migrationSamplePod "pod-2" 1),
   .addPod (migrationSamplePod "pod-3" 2), .addPod (migrationSamplePod "pod-4" 4)]

/-- The node with 12 CPUs reserved. -/
def migrationSampleNode : Node :=
  match NodeOp.runAll migrationSampleOps sampleNode with
  | .ok n => n
  | .error _ => sampleNode

/-- With the first pod requested, 9 CPUs are left unmigrated; the oldest other pod is called, and
that is enough. -/
example : (triggerMigrationsIfNecessary sortByCreatedAt migrationSampleNode ["pod-1"]
    (fun _ => none)).toOption.map (fun r => (r.1, r.2.requested.map (·.1.uid))) =
      some (none, ["pod-2"]) := by
  decide +kernel

theorem triggerMigrations_requests_eligible_in_order_sample :
    ∃ result final, triggerMigrationsIfNecessary sortByCreatedAt migrationSampleNode ["pod-1"]
        (fun _ => none) = .ok (result, final) ∧
      ∀ pre p n post, final.requested = pre ++ (p, n) :: post →
        Call migrationSampleNode ["pod-1"] pre p n := by
  have ran : NodeOp.runAll migrationSampleOps sampleNode = .ok migrationSampleNode := rfl
  have acc : Accounted migrationSampleNode :=
    (Accounted.fromParams _ _ _ _ _).runAll (by decide +kernel) ran
  have fits : Fits migrationSampleNode := ⟨by decide +kernel, by decide +kernel⟩
  have stored : migrationSampleNode.pods.view "pod-1" = some (migrationSamplePod "pod-1" 3) := by
    decide +kernel
  have requestable : ∀ uid ∈ ["pod-1"], ∀ p, migrationSampleNode.pods.view uid = some p →
      p.migratable = true := by
    intro uid member p held
    rw [List.mem_singleton] at member
    subst member
    rw [stored, Option.some.injEq] at held
    rw [← held]
    rfl
  obtain ⟨-, result, final, -, -, triggered, calls, -⟩ :=
    triggerMigrations_requests_eligible_in_order sortByCreatedAt sortByCreatedAt_sorts acc fits
      ["pod-1"] requestable (fun _ => none)
  exact ⟨result, final, triggered, calls⟩

end Autoscaling.Plugin
