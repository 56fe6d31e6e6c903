import Mathlib.Data.List.Forall2

/-! Runs of a deterministic machine whose steps may be disabled, and the rules about them. -/

namespace Grouper

variable {σ α : Type*}

/-- The state a list of actions leads to, or nothing when one of them is disabled on the way. -/
def run (step : σ → α → Option σ) : σ → List α → Option σ
  -- The head action is taken first, so the list reads in the order of time.
  | state, [] => some state
  | state, action :: rest => (step state action).bind fun next => run step next rest

/-- Every action of the list meets a condition at the state it is taken from. -/
def Along (step : σ → α → Option σ) (guard : σ → α → Prop) : σ → List α → Prop
  | _, [] => True
  | state, action :: rest =>
    guard state action ∧ ∀ next, step state action = some next → Along step guard next rest

/-- Every state visited, the first and the last included, has a property. -/
def Always (step : σ → α → Option σ) (good : σ → Prop) : σ → List α → Prop
  | state, [] => good state
  | state, action :: rest =>
    good state ∧ ∀ next, step state action = some next → Always step good next rest

variable {step : σ → α → Option σ}

/-- The empty run stays where it is. -/
@[simp] theorem run_nil (state : σ) : run step state [] = some state := rfl

/-- A run succeeds exactly when its first action does and the rest runs from there. -/
theorem run_cons {state final : σ} {action : α} {rest : List α} :
    run step state (action :: rest) = some final ↔
      ∃ next, step state action = some next ∧ run step next rest = some final := by
  -- The recursion binds the remaining run to the state the head action produced.
  simp [run, Option.bind_eq_some_iff]

/-- Running one list after another is running their concatenation. -/
theorem run_append {state final : σ} {before after : List α} :
    run step state (before ++ after) = some final ↔
      ∃ middle, run step state before = some middle ∧ run step middle after = some final := by
  -- The induction is on the first actions.
  induction before generalizing state with
  | nil => simp
  | cons action rest ih =>
    simp only [List.cons_append, run_cons, ih]
    constructor
    · rintro ⟨next, stepped, middle, first, second⟩
      exact ⟨middle, ⟨next, stepped, first⟩, second⟩
    · rintro ⟨middle, ⟨next, stepped, first⟩, second⟩
      exact ⟨next, stepped, middle, first, second⟩

/-- A property every guarded step preserves holds at the end of every guarded run. -/
theorem run_invariant {inv : σ → Prop} {guard : σ → α → Prop}
    (preserved : ∀ state action next, inv state → guard state action →
      step state action = some next → inv next)
    {state final : σ} {actions : List α} (start : inv state)
    (guarded : Along step guard state actions) (ran : run step state actions = some final) :
    inv final := by
  -- The induction follows the run, spending one guard at each action.
  induction actions generalizing state with
  | nil => simpa [← Option.some.inj ran] using start
  | cons action rest ih =>
    obtain ⟨next, stepped, ran⟩ := run_cons.mp ran
    exact ih (preserved state action next start guarded.1 stepped) (guarded.2 next stepped) ran

/-- A relation that related actions preserve relates the ends of two runs taken side by side. -/
theorem run_related {τ β : Type*} {other : τ → β → Option τ} {rel : σ → τ → Prop}
    {alike : α → β → Prop}
    (preserved : ∀ s t a b s' t', rel s t → alike a b → step s a = some s' →
      other t b = some t' → rel s' t')
    {s s' : σ} {t t' : τ} {actions : List α} {others : List β} (start : rel s t)
    (pairs : List.Forall₂ alike actions others) (left : run step s actions = some s')
    (right : run other t others = some t') : rel s' t' := by
  -- The induction takes one action of each run at a time.
  induction pairs generalizing s t with
  | nil => simpa [← Option.some.inj left, ← Option.some.inj right] using start
  | cons pair _ ih =>
    obtain ⟨next, stepped, left⟩ := run_cons.mp left
    obtain ⟨after, took, right⟩ := run_cons.mp right
    exact ih (preserved _ _ _ _ _ _ start pair stepped took) left right

/-- A guard that asks nothing is met along every run. -/
theorem along_trivial {guard : σ → α → Prop} (free : ∀ state action, guard state action)
    (state : σ) (actions : List α) : Along step guard state actions := by
  -- The induction is on the actions.
  induction actions generalizing state with
  | nil => trivial
  | cons action rest ih => exact ⟨free state action, fun next _ => ih next⟩

/-- A condition on actions alone that all of them meet is met along every run. -/
theorem along_of_forall {met : α → Prop} {actions : List α} (all : ∀ action ∈ actions, met action)
    (state : σ) : Along step (fun _ action => met action) state actions := by
  -- The induction is on the actions, which lose their head in each step.
  induction actions generalizing state with
  | nil => trivial
  | cons action rest ih =>
    obtain ⟨here, others⟩ := List.forall_mem_cons.mp all
    exact ⟨here, fun next _ => ih others next⟩

/-- A property every step preserves holds at the end of every run. -/
theorem run_invariant' {inv : σ → Prop}
    (preserved : ∀ state action next, inv state → step state action = some next → inv next)
    {state final : σ} {actions : List α} (start : inv state)
    (ran : run step state actions = some final) : inv final := by
  -- This is the guarded rule with a guard that asks nothing.
  have free : Along step (fun _ _ => True) state actions :=
    along_trivial (fun _ _ => trivial) state actions
  exact run_invariant (fun s a n held _ stepped => preserved s a n held stepped) start free ran

/-- Two conditions met along a run are met together. -/
theorem Along.and {one two : σ → α → Prop} {state : σ} {actions : List α}
    (first : Along step one state actions) (second : Along step two state actions) :
    Along step (fun state action => one state action ∧ two state action) state actions := by
  -- The induction is on the actions; both guards are asked at the same states.
  induction actions generalizing state with
  | nil => trivial
  | cons action rest ih =>
    exact ⟨⟨first.1, second.1⟩, fun next stepped =>
      ih (first.2 next stepped) (second.2 next stepped)⟩

/-- A guarded run keeps its invariant at every state it visits. -/
theorem always_of_along {inv : σ → Prop} {guard : σ → α → Prop}
    (preserved : ∀ state action next, inv state → guard state action →
      step state action = some next → inv next)
    {state : σ} {actions : List α} (start : inv state)
    (guarded : Along step guard state actions) : Always step inv state actions := by
  -- The induction is on the actions, and the guard of the first one keeps the invariant.
  induction actions generalizing state with
  | nil => exact start
  | cons action rest ih =>
    exact ⟨start, fun next stepped =>
      ih (preserved state action next start guarded.1 stepped) (guarded.2 next stepped)⟩

/-- The last state of a run is one of those it visits. -/
theorem Always.last {good : σ → Prop} {state final : σ} {actions : List α}
    (always : Always step good state actions) (ran : run step state actions = some final) :
    good final := by
  -- The induction is on the actions, and what is left of them runs to the same end.
  induction actions generalizing state with
  | nil => exact Option.some.inj ran ▸ always
  | cons action rest ih =>
    obtain ⟨next, stepped, ran⟩ := run_cons.mp ran
    exact ih (always.2 next stepped) ran

/-- The first state of a run is one of those it visits. -/
theorem Always.first {good : σ → Prop} {state : σ} {actions : List α}
    (always : Always step good state actions) : good state := by
  -- With or without actions, the first state is asked for.
  cases actions with
  | nil => exact always
  | cons action rest => exact always.1

/-- A property of every visited state is a condition met along the run. -/
theorem Always.along {good : σ → Prop} {state : σ} {actions : List α}
    (always : Always step good state actions) :
    Along step (fun state _ => good state) state actions := by
  -- The induction is on the actions; the guard is asked before each, the property around it.
  induction actions generalizing state with
  | nil => trivial
  | cons action rest ih => exact ⟨always.1, fun next stepped => ih (always.2 next stepped)⟩

/-- A property implied by another holds wherever the other does. -/
theorem Always.mono {weak strong : σ → Prop} (weaker : ∀ state, strong state → weak state)
    {state : σ} {actions : List α} (always : Always step strong state actions) :
    Always step weak state actions := by
  -- The induction is on the actions.
  induction actions generalizing state with
  | nil => exact weaker _ always
  | cons action rest ih => exact ⟨weaker _ always.1, fun next stepped => ih (always.2 next stepped)⟩

/--
A condition on steps is exact for a property of states, in runs that meet a side condition.

If, from a good state that satisfies the invariant, a step ends in a good state precisely when it
meets the guard, then a run visits good states only precisely when all of its steps meet the guard.
-/
theorem always_iff_along_of_side {inv good : σ → Prop} {side guard : σ → α → Prop}
    (preserved : ∀ state action next, inv state → side state action → guard state action →
      step state action = some next → inv next)
    (exact_ : ∀ state action next, inv state → good state → side state action →
      step state action = some next → (good next ↔ guard state action))
    {state final : σ} {actions : List α} (start : inv state) (startGood : good state)
    (sided : Along step side state actions) (ran : run step state actions = some final) :
    Always step good state actions ↔ Along step guard state actions := by
  -- Up to the first step that misses the guard both sides agree, and there both sides fail.
  induction actions generalizing state with
  | nil => simp [Always, Along, startGood]
  | cons action rest ih =>
    obtain ⟨next, stepped, ran⟩ := run_cons.mp ran
    have here := exact_ state action next start startGood sided.1 stepped
    have only : ∀ other, step state action = some other → other = next :=
      fun other also => Option.some.inj (also.symm.trans stepped)
    constructor
    · rintro ⟨_, always⟩
      have always := always next stepped
      have met := here.mp always.first
      refine ⟨met, fun other also => ?_⟩
      rw [only other also]
      exact (ih (preserved state action next start sided.1 met stepped) always.first
        (sided.2 next stepped) ran).mp always
    · rintro ⟨met, along⟩
      refine ⟨startGood, fun other also => ?_⟩
      rw [only other also]
      exact (ih (preserved state action next start sided.1 met stepped) (here.mpr met)
        (sided.2 next stepped) ran).mpr (along next stepped)

/-- A condition on steps is exact for a property of states when the invariant needs no help. -/
theorem always_iff_along {inv good : σ → Prop} {guard : σ → α → Prop}
    (preserved : ∀ state action next, inv state → step state action = some next → inv next)
    (exact_ : ∀ state action next, inv state → good state → step state action = some next →
      (good next ↔ guard state action))
    {state final : σ} {actions : List α} (start : inv state) (startGood : good state)
    (ran : run step state actions = some final) :
    Always step good state actions ↔ Along step guard state actions := by
  -- The side condition is one that asks nothing.
  have free : Along step (fun _ _ => True) state actions :=
    along_trivial (fun _ _ => trivial) state actions
  exact always_iff_along_of_side (fun s a n held _ _ stepped => preserved s a n held stepped)
    (fun s a n held good _ stepped => exact_ s a n held good stepped) start startGood free ran

/--
A condition on steps is exact for a property that is never regained, in runs that meet a side
condition.

If a step ends in a good state precisely when it starts in one and meets the guard, then a run ends
in a good state precisely when it starts in one and all of its steps meet the guard.
-/
theorem last_iff_along_of_side {inv good : σ → Prop} {side guard : σ → α → Prop}
    (preserved : ∀ state action next, inv state → side state action →
      step state action = some next → inv next)
    (exact_ : ∀ state action next, inv state → side state action → step state action = some next →
      (good next ↔ good state ∧ guard state action))
    {state final : σ} {actions : List α} (start : inv state)
    (sided : Along step side state actions) (ran : run step state actions = some final) :
    good final ↔ good state ∧ Along step guard state actions := by
  -- The induction takes the first step off the run, and its guard off the condition.
  induction actions generalizing state with
  | nil => simp [Along, ← Option.some.inj ran]
  | cons action rest ih =>
    obtain ⟨next, stepped, ran⟩ := run_cons.mp ran
    have only : ∀ other, step state action = some other → other = next :=
      fun other also => Option.some.inj (also.symm.trans stepped)
    rw [ih (preserved state action next start sided.1 stepped) (sided.2 next stepped) ran,
      exact_ state action next start sided.1 stepped, and_assoc]
    refine and_congr_right fun _ => and_congr_right fun _ => ⟨fun along other also => ?_,
      fun along => along next stepped⟩
    rw [only other also]
    exact along

end Grouper
