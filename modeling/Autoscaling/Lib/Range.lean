import Mathlib

/-!
# Loops over a snapshot that the body may change

A Go `range` over a map visits the entries the map had when the loop started, but skips those
deleted before they are reached, and hands the body the value each has when it is reached.
`Range.walk` is such a loop over an explicit list of candidates: each candidate is checked
(`pick`) against the collection as it is when the candidate is reached, and the body may change
the collection. The walk records what it handed to the body, each time with the collection as it
was then.

The lemmas are the rules that proofs about such loops use: what holds of every collection the
loop passes through, where each handed value came from, that the handed values follow the
candidates' order, and that a candidate still picked at the end was handed, unless the body
stopped the loop.
-/

namespace Range

variable {σ S α β : Type}

/-- Where a loop stands: the body's own state, the collection, what was handed to the body
(each with the collection as it was then), and whether the body asked to stop. -/
structure Walk (σ S β : Type) where
  state : σ
  store : S
  handed : List (β × S)
  stopped : Bool

/-- One step of a loop body: from its state, the value handed to it and the collection, its new
state, the collection after it, and whether to go on. -/
abbrev Body (σ S β : Type) := σ → β → S → σ × S × Bool

/-- Hand `b` to the body. -/
def Walk.hand (body : Body σ S β) (w : Walk σ S β) (b : β) : Walk σ S β :=
  { state := (body w.state b w.store).1, store := (body w.state b w.store).2.1,
    handed := w.handed ++ [(b, w.store)], stopped := !(body w.state b w.store).2.2 }

/-- The loop over `candidates`, from `w`. -/
def walk (pick : S → α → Option β) (body : Body σ S β) : List α → Walk σ S β → Walk σ S β
  | [], w => w
  | a :: rest, w =>
    match pick w.store a with
    | none => walk pick body rest w
    | some b => if (w.hand body b).stopped then w.hand body b else walk pick body rest (w.hand body b)

variable {pick : S → α → Option β} {body : Body σ S β}

@[simp] theorem walk_nil (w : Walk σ S β) : walk pick body [] w = w := rfl

/-- What the body keeps holds of every collection the loop reaches, and each value the loop
hands on was picked from a candidate in the collection it was handed with. -/
theorem walk_invariant (I : S → Prop) (keeps : ∀ st b s, I s → I (body st b s).2.1) :
    ∀ (as : List α) (w : Walk σ S β), I w.store →
      I (walk pick body as w).store ∧
      ∃ new, (walk pick body as w).handed = w.handed ++ new ∧
        ∀ e ∈ new, I e.2 ∧ ∃ a ∈ as, pick e.2 a = some e.1 := by
  intro as
  induction as with
  | nil => exact fun w inv => ⟨inv, [], by simp, by simp⟩
  | cons a rest ih =>
    intro w inv
    simp only [walk]
    split
    next =>
      obtain ⟨store, new, grown, picked⟩ := ih w inv
      exact ⟨store, new, grown, fun e member =>
        ⟨(picked e member).1, (picked e member).2.imp fun _ ⟨m, p⟩ => ⟨List.mem_cons_of_mem a m, p⟩⟩⟩
    next b chosen =>
      have inv' : I (w.hand body b).store := keeps _ _ _ inv
      -- the value handed at this step comes first among the new ones
      have first : ∀ e ∈ [(b, w.store)], I e.2 ∧ ∃ a' ∈ a :: rest, pick e.2 a' = some e.1 := by
        intro e member
        rw [List.mem_singleton] at member
        subst member
        exact ⟨inv, a, List.mem_cons_self, chosen⟩
      split
      next => exact ⟨inv', [(b, w.store)], rfl, first⟩
      next =>
        obtain ⟨store, new, grown, picked⟩ := ih (w.hand body b) inv'
        refine ⟨store, (b, w.store) :: new, by rw [grown]; simp [Walk.hand], ?_⟩
        intro e member
        rcases List.mem_cons.mp member with rfl | later
        · exact first _ List.mem_cons_self
        · exact ⟨(picked e later).1,
            (picked e later).2.imp fun _ ⟨m, p⟩ => ⟨List.mem_cons_of_mem a m, p⟩⟩

/-- The loop only adds to what was handed, and what it adds follows the candidates' order: read
through `g`, the new values are a sublist of the candidates read through `f`. -/
theorem walk_handed_sublist {γ : Type} (f : α → γ) (g : β → γ)
    (keyed : ∀ s a b, pick s a = some b → g b = f a) :
    ∀ (as : List α) (w : Walk σ S β), ∃ new, (walk pick body as w).handed = w.handed ++ new ∧
      (new.map (g ∘ Prod.fst)).Sublist (as.map f) := by
  intro as
  induction as with
  | nil => exact fun w => ⟨[], by simp, by simp⟩
  | cons a rest ih =>
    intro w
    simp only [walk]
    split
    next =>
      obtain ⟨new, grown, sub⟩ := ih w
      exact ⟨new, grown, sub.cons (f a)⟩
    next b picked =>
      have key := keyed _ _ _ picked
      split
      next => exact ⟨[(b, w.store)], rfl, by simp [key]⟩
      next =>
        obtain ⟨new, grown, sub⟩ := ih (w.hand body b)
        refine ⟨(b, w.store) :: new, by rw [grown]; simp [Walk.hand], ?_⟩
        simpa [key] using sub.cons_cons (f a)

theorem walk_handed_grows :
    ∀ (as : List α) (w : Walk σ S β), ∃ new, (walk pick body as w).handed = w.handed ++ new := by
  intro as
  induction as with
  | nil => exact fun w => ⟨[], by simp⟩
  | cons a rest ih =>
    intro w
    simp only [walk]
    split
    next => exact ih w
    next b _ =>
      split
      next => exact ⟨[(b, w.store)], rfl⟩
      next =>
        obtain ⟨new, grown⟩ := ih (w.hand body b)
        exact ⟨(b, w.store) :: new, by rw [grown]; simp [Walk.hand]⟩

/-- What the body keeps of its own state, for each value it is handed, holds of the state at the
end of the loop. -/
theorem walk_state (J : σ → Prop) (P : β → S → Prop)
    (keeps : ∀ st b s, J st → P b s → J (body st b s).1) :
    ∀ (as : List α) (w : Walk σ S β), J w.state →
      (∀ e ∈ (walk pick body as w).handed, P e.1 e.2) → J (walk pick body as w).state := by
  intro as
  induction as with
  | nil => exact fun w inv _ => inv
  | cons a rest ih =>
    intro w inv handedOk
    cases chosen : pick w.store a with
    | none =>
      simp only [walk, chosen] at handedOk ⊢
      exact ih w inv handedOk
    | some b =>
      simp only [walk, chosen] at handedOk ⊢
      by_cases stop : (w.hand body b).stopped = true
      · rw [if_pos stop] at handedOk ⊢
        exact keeps _ _ _ inv (handedOk (b, w.store) (by simp [Walk.hand]))
      · rw [if_neg stop] at handedOk ⊢
        -- the value handed now is among those handed by the end
        obtain ⟨new, grown⟩ := @walk_handed_grows σ S α β pick body rest (w.hand body b)
        have now : (b, w.store) ∈ (walk pick body rest (w.hand body b)).handed := by
          rw [grown]
          simp [Walk.hand]
        exact ih _ (keeps _ _ _ inv (handedOk _ now)) handedOk

/-- A property of the body's state, the collection and what was handed so far holds at the end
of the loop, when each step keeps it whose record is, with those before it, a prefix of what the
loop hands in the end: a step may use what is known of the whole run, such as that no value is
handed twice. -/
theorem walk_history (P : σ → S → List (β × S) → Prop) :
    ∀ (as : List α) (w : Walk σ S β), P w.state w.store w.handed →
      (∀ st s H b, P st s H → H ++ [(b, s)] <+: (walk pick body as w).handed →
        P (body st b s).1 (body st b s).2.1 (H ++ [(b, s)])) →
      P (walk pick body as w).state (walk pick body as w).store (walk pick body as w).handed := by
  intro as
  induction as with
  | nil => exact fun w inv _ => inv
  | cons a rest ih =>
    intro w inv keeps
    cases chosen : pick w.store a with
    | none =>
      simp only [walk, chosen] at keeps ⊢
      exact ih w inv keeps
    | some b =>
      simp only [walk, chosen] at keeps ⊢
      -- the step handing `b` is the first; the rest of the walk carries on from it
      have first : ∀ final, w.handed ++ [(b, w.store)] <+: final →
          (∀ st s H b', P st s H → H ++ [(b', s)] <+: final →
            P (body st b' s).1 (body st b' s).2.1 (H ++ [(b', s)])) →
          P (w.hand body b).state (w.hand body b).store (w.hand body b).handed :=
        fun final isPrefix keeps' => keeps' _ _ _ b inv isPrefix
      by_cases stop : (w.hand body b).stopped = true
      · rw [if_pos stop] at keeps ⊢
        exact first _ (List.prefix_refl _) keeps
      · rw [if_neg stop] at keeps ⊢
        obtain ⟨new, grown⟩ := @walk_handed_grows σ S α β pick body rest (w.hand body b)
        have isPrefix : w.handed ++ [(b, w.store)] <+: (walk pick body rest (w.hand body b)).handed :=
          ⟨new, grown.symm⟩
        exact ih _ (first _ isPrefix keeps) keeps

/-- A loop whose body stops only into states outside `J` has not stopped when it ends in a
state of `J`, if it had not stopped before. -/
theorem walk_going (J : σ → Prop) (stops : ∀ st b s, (body st b s).2.2 = false → ¬J (body st b s).1) :
    ∀ (as : List α) (w : Walk σ S β), w.stopped = false → J (walk pick body as w).state →
      (walk pick body as w).stopped = false := by
  intro as
  induction as with
  | nil => exact fun w going _ => going
  | cons a rest ih =>
    intro w going final
    cases chosen : pick w.store a with
    | none =>
      simp only [walk, chosen] at final ⊢
      exact ih w going final
    | some b =>
      simp only [walk, chosen] at final ⊢
      by_cases stop : (w.hand body b).stopped = true
      · -- the body stopped at `b`, into the state the loop ends in
        rw [if_pos stop] at final
        have halted : (body w.state b w.store).2.2 = false := by
          simpa [Walk.hand] using stop
        exact absurd final (stops _ _ _ halted)
      · rw [if_neg stop] at final ⊢
        exact ih _ (by simpa using stop) final

section Antitone

/-! A body that never makes a candidate pickable that was not: what the collection at the end
of the loop picks, every collection the loop went through picked. -/

variable (I : S → Prop) (keeps : ∀ st b s, I s → I (body st b s).2.1) (as : List α)
  (anti : ∀ st b s a c, I s → a ∈ as → pick (body st b s).2.1 a = some c → pick s a = some c)
include keeps anti

theorem pick_of_walk :
    ∀ (rest : List α) (w : Walk σ S β), I w.store → ∀ a ∈ as, ∀ c,
      pick (walk pick body rest w).store a = some c → pick w.store a = some c := by
  intro rest
  induction rest with
  | nil => exact fun w _ a _ c picked => picked
  | cons a' rest ih =>
    intro w inv a member c picked
    simp only [walk] at picked
    split at picked
    next => exact ih w inv a member c picked
    next b _ =>
      have inv' : I (w.hand body b).store := keeps _ _ _ inv
      have later : pick (w.hand body b).store a = some c := by
        split at picked
        next => exact picked
        next => exact ih (w.hand body b) inv' a member c picked
      exact anti _ _ _ _ _ inv member later

/-- A candidate that the collection at the end of the loop still picks was handed to the body,
unless the body stopped the loop. -/
theorem walk_complete :
    ∀ (rest : List α) (w : Walk σ S β), rest ⊆ as → I w.store →
      (walk pick body rest w).stopped = false →
      ∀ a ∈ rest, ∀ c, pick (walk pick body rest w).store a = some c →
        ∃ s, (c, s) ∈ (walk pick body rest w).handed := by
  intro rest
  induction rest with
  | nil => intro w _ _ _ a member; cases member
  | cons a' rest ih =>
    intro w within inv going a member c picked
    have within' : rest ⊆ as := fun x m => within (List.mem_cons_of_mem a' m)
    have before := pick_of_walk I keeps as anti (a' :: rest) w inv a (within member) c picked
    cases chosen : pick w.store a' with
    | none =>
      simp only [walk, chosen] at going picked ⊢
      rcases List.mem_cons.mp member with rfl | later
      · rw [chosen] at before
        cases before
      · exact ih w within' inv going a later c picked
    | some b =>
      -- the loop went on after this candidate, since it did not stop
      have notStopped : (w.hand body b).stopped = false := by
        by_contra stop
        simp only [walk, chosen, Bool.not_eq_false] at going stop
        simp [stop] at going
      simp only [walk, chosen, notStopped, Bool.false_eq_true, if_false] at going picked ⊢
      rcases List.mem_cons.mp member with rfl | later
      · have same : b = c := by
          rw [chosen] at before
          exact Option.some.inj before
        subst same
        obtain ⟨new, grown⟩ := @walk_handed_grows σ S α β pick body rest (w.hand body b)
        exact ⟨w.store, by rw [grown]; simp [Walk.hand]⟩
      · exact ih (w.hand body b) within' (keeps _ _ _ inv) going a later c picked

end Antitone

end Range
