import Mathlib

/-!
# Runs of state machines

Two shapes of state machine occur in the development. One is deterministic and driven by
calls, `step : σ → ι → Except ε (ρ × σ)`: a call either panics (`Except.error`) or returns a
reply and a new state. Its runs are `Trace`s, the calls made one after another with what each
returned. The other is a nondeterministic step relation, whose runs end in `Reachable` states.

For each there is the rule that an invariant which holds initially and is kept by one step
holds along every run; the per-position form of a trace (`pre ++ e :: post`) lets statements
speak about the state a call was made in and about the calls made before it.
-/

namespace Trans

variable {σ ι ρ ε : Type}

/-! ### Traces of a call-driven machine -/

/-- `Trace step s steps`: each entry of `steps` is a call, the reply it got and the state it
left, starting from `s`; no call of the trace panicked. -/
def Trace (step : σ → ι → Except ε (ρ × σ)) : σ → List (ι × ρ × σ) → Prop
  | _, [] => True
  | s, (i, r, s') :: rest => step s i = .ok (r, s') ∧ Trace step s' rest

/-- The state a trace from `s` ends in. -/
def last (s : σ) : List (ι × ρ × σ) → σ
  | [] => s
  | (_, _, s') :: rest => last s' rest

variable {step : σ → ι → Except ε (ρ × σ)}

@[simp] theorem trace_nil (s : σ) : Trace step s [] := trivial

@[simp] theorem trace_cons (s : σ) (i : ι) (r : ρ) (s' : σ) (rest : List (ι × ρ × σ)) :
    Trace step s ((i, r, s') :: rest) ↔ step s i = .ok (r, s') ∧ Trace step s' rest :=
  Iff.rfl

@[simp] theorem last_nil (s : σ) : last s ([] : List (ι × ρ × σ)) = s := rfl

@[simp] theorem last_cons (s : σ) (i : ι) (r : ρ) (s' : σ) (rest : List (ι × ρ × σ)) :
    last s ((i, r, s') :: rest) = last s' rest := rfl

theorem last_append (s : σ) (xs ys : List (ι × ρ × σ)) :
    last s (xs ++ ys) = last (last s xs) ys := by
  induction xs generalizing s with
  | nil => rfl
  | cons e rest ih =>
    obtain ⟨i, r, s'⟩ := e
    exact ih s'

theorem trace_append (s : σ) (xs ys : List (ι × ρ × σ)) :
    Trace step s (xs ++ ys) ↔ Trace step s xs ∧ Trace step (last s xs) ys := by
  induction xs generalizing s with
  | nil => simp
  | cons e rest ih =>
    obtain ⟨i, r, s'⟩ := e
    simp only [List.cons_append, trace_cons, last_cons, ih, and_assoc]

theorem trace_snoc (s : σ) (xs : List (ι × ρ × σ)) (i : ι) (r : ρ) (s' : σ) :
    Trace step s (xs ++ [(i, r, s')]) ↔ Trace step s xs ∧ step (last s xs) i = .ok (r, s') := by
  rw [trace_append]
  simp

@[simp] theorem last_snoc (s : σ) (xs : List (ι × ρ × σ)) (i : ι) (r : ρ) (s' : σ) :
    last s (xs ++ [(i, r, s')]) = s' := by
  rw [last_append]
  rfl

/-- The call at one position of a trace was made in the state the calls before it left. -/
theorem Trace.at {s : σ} {pre post : List (ι × ρ × σ)} {i : ι} {r : ρ} {s' : σ}
    (h : Trace step s (pre ++ (i, r, s') :: post)) :
    Trace step s pre ∧ step (last s pre) i = .ok (r, s') ∧ Trace step s' post := by
  obtain ⟨hpre, hrest⟩ := (trace_append s pre _).mp h
  exact ⟨hpre, hrest.1, hrest.2⟩

theorem Trace.append_left {s : σ} {pre post : List (ι × ρ × σ)}
    (h : Trace step s (pre ++ post)) : Trace step s pre :=
  ((trace_append s pre post).mp h).1

/-- An invariant that holds initially and is kept by every call holds after every prefix of a
trace. -/
theorem Trace.invariant (P : σ → Prop)
    (keep : ∀ s i r s', P s → step s i = .ok (r, s') → P s')
    {s : σ} {steps : List (ι × ρ × σ)} (h : Trace step s steps) (init : P s) :
    P (last s steps) := by
  induction steps generalizing s with
  | nil => exact init
  | cons e rest ih =>
    obtain ⟨i, r, s'⟩ := e
    exact ih h.2 (keep s i r s' init h.1)

/-- Two positions of a trace: the later call is made in the state that the calls between them
left, from the state the earlier call left. -/
theorem Trace.between {s : σ} {pre mid post : List (ι × ρ × σ)} {i j : ι} {r r' : ρ} {s₁ s₂ : σ}
    (h : Trace step s (pre ++ (i, r, s₁) :: mid ++ (j, r', s₂) :: post)) :
    Trace step s₁ mid ∧ step (last s₁ mid) j = .ok (r', s₂) := by
  obtain ⟨before, stepped, -⟩ := h.at
  have through := ((trace_append s pre _).mp before).2
  rw [last_append, last_cons] at stepped
  exact ⟨through.2, stepped⟩

/-- The invariant rule for the calls of one kind: a property that every call the guard admits
keeps holds after a trace of such calls. -/
theorem Trace.invariant_of_calls (P : σ → Prop) (admits : ι → Prop)
    (keep : ∀ s i r s', admits i → P s → step s i = .ok (r, s') → P s')
    {s : σ} {steps : List (ι × ρ × σ)} (h : Trace step s steps)
    (calls : ∀ e ∈ steps, admits e.1) (init : P s) : P (last s steps) := by
  induction steps generalizing s with
  | nil => exact init
  | cons e rest ih =>
    obtain ⟨i, r, s'⟩ := e
    exact ih h.2 (fun e member => calls e (List.mem_cons_of_mem _ member))
      (keep s i r s' (calls _ List.mem_cons_self) init h.1)

/-- The invariant rule at every position of a trace: the state before each call. -/
theorem Trace.invariant_at (P : σ → Prop)
    (keep : ∀ s i r s', P s → step s i = .ok (r, s') → P s')
    {s : σ} {pre post : List (ι × ρ × σ)} {i : ι} {r : ρ} {s' : σ}
    (h : Trace step s (pre ++ (i, r, s') :: post)) (init : P s) :
    P (last s pre) :=
  Trace.invariant P keep h.at.1 init

/-- The invariant rule for a property of the calls made so far and the state they left. -/
theorem Trace.invariant_hist {s : σ} (P : List (ι × ρ × σ) → σ → Prop)
    (keep : ∀ pre i r s', Trace step s pre → P pre (last s pre) →
      step (last s pre) i = .ok (r, s') → P (pre ++ [(i, r, s')]) s')
    {steps : List (ι × ρ × σ)} (h : Trace step s steps) (init : P [] s) :
    P steps (last s steps) := by
  induction steps using List.reverseRecOn with
  | nil => exact init
  | append_singleton pre e ih =>
    obtain ⟨i, r, s'⟩ := e
    obtain ⟨before, stepped⟩ := (trace_snoc s pre i r s').mp h
    rw [last_snoc]
    exact keep pre i r s' before (ih before) stepped

/-- The calls made one after another from `s`, each with what it returned and the state it left,
up to the first that panics. -/
def runCalls (step : σ → ι → Except ε (ρ × σ)) : σ → List ι → List (ι × ρ × σ)
  | _, [] => []
  | s, i :: rest =>
    match step s i with
    | .ok (r, s') => (i, r, s') :: runCalls step s' rest
    | .error _ => []

theorem trace_runCalls (s : σ) (calls : List ι) : Trace step s (runCalls step s calls) := by
  induction calls generalizing s with
  | nil => trivial
  | cons i rest ih =>
    unfold runCalls
    split
    next r s' stepped => exact ⟨stepped, ih s'⟩
    next => trivial

/-- Each entry of such a run is one of the calls. -/
theorem mem_runCalls {s : σ} {calls : List ι} {e : ι × ρ × σ}
    (member : e ∈ runCalls step s calls) : e.1 ∈ calls := by
  induction calls generalizing s with
  | nil => simp [runCalls] at member
  | cons i rest ih =>
    unfold runCalls at member
    split at member
    next r s' stepped =>
      rcases List.mem_cons.mp member with rfl | later
      · exact List.mem_cons_self ..
      · exact List.mem_cons_of_mem i (ih later)
    next => simp at member

/-! ### Reachable states of a step relation -/

/-- The states reachable from an initial state by any number of steps. -/
inductive Reachable (init : σ → Prop) (next : σ → σ → Prop) : σ → Prop
  | init {s : σ} : init s → Reachable init next s
  | step {s s' : σ} : Reachable init next s → next s s' → Reachable init next s'

/-- An invariant that holds initially and is kept by every step holds in every reachable
state. -/
theorem Reachable.invariant {init : σ → Prop} {next : σ → σ → Prop} (P : σ → Prop)
    (base : ∀ s, init s → P s) (keep : ∀ s s', P s → next s s' → P s')
    {s : σ} (h : Reachable init next s) : P s := by
  induction h with
  | init start => exact base _ start
  | step _ moved ih => exact keep _ _ ih moved

end Trans
