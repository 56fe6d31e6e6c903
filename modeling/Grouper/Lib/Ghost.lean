import Grouper.Lib.Prog

/-! Programs with a ghost state beside their own, and the programs they are without it. -/

namespace Grouper

namespace Prog

variable {σ γ μ α β : Type}

/-- The same program, with a ghost state beside its own that it leaves alone. -/
def beside : Prog σ μ α → Prog (σ × γ) μ α
  | done value => done value
  | read next => read fun state => (next state.1).beside
  | write change next => write (fun state => (change state.1, state.2)) next.beside
  | lock mutex next => lock mutex next.beside
  | unlock mutex next => unlock mutex next.beside

/-- Change the ghost state, as the state it is beside suggests. -/
def note (change : σ → γ → γ) : Prog (σ × γ) μ Unit :=
  update fun state => (state.1, change state.1 state.2)

/-- A program beside a ghost runs as it does alone, and leaves the ghost. -/
@[simp] theorem exec_beside (p : Prog σ μ α) (state : σ) (ghost : γ) :
    (p.beside : Prog (σ × γ) μ α).exec (state, ghost) =
      ((p.exec state).1, ((p.exec state).2, ghost)) := by
  -- The ghost state is handed down to the end of the program.
  induction p generalizing state with
  | done value => rfl
  | read next ih => exact ih state state
  | write change next ih => exact ih (change state)
  | lock mutex next ih => exact ih state
  | unlock mutex next ih => exact ih state

/-- A note changes the ghost and nothing else. -/
@[simp] theorem exec_note (change : σ → γ → γ) (state : σ × γ) :
    (note change : Prog (σ × γ) μ Unit).exec state = ((), (state.1, change state.1 state.2)) := rfl

/-- Without its ghost state, the first program does what the second one does. -/
def Erases (p : Prog (σ × γ) μ α) (q : Prog σ μ α) : Prop :=
  ∀ state ghost, (p.exec (state, ghost)).1 = (q.exec state).1 ∧
    (p.exec (state, ghost)).2.1 = (q.exec state).2

/-- Returning has no notes to erase. -/
theorem erases_pure (value : α) : Erases (pure value : Prog (σ × γ) μ α) (pure value) :=
  fun _ _ => ⟨rfl, rfl⟩

/-- Nor has a program beside the ghost. -/
theorem erases_beside (p : Prog σ μ α) : Erases (p.beside : Prog (σ × γ) μ α) p := by
  -- It runs as it does alone.
  intro state ghost
  rw [exec_beside]
  exact ⟨rfl, rfl⟩

/-- What is noted is not seen by the program. -/
theorem Erases.note (change : σ → γ → γ) {p : Prog (σ × γ) μ α} {q : Prog σ μ α}
    (erases : Erases p q) : Erases (Prog.note change >>= fun _ => p) q := by
  -- A note does not change the state the program starts in.
  intro state ghost
  rw [exec_bind]
  exact erases state _

/-- What is noted under a condition is not seen either. -/
theorem Erases.noteWhen {condition : Prop} [Decidable condition] (change : σ → γ → γ)
    {p : Prog (σ × γ) μ α} {q : Prog σ μ α} (erases : Erases p q) :
    Erases (Prog.when condition (Prog.note change) >>= fun _ => p) q := by
  -- The note is made or not, and neither changes the state.
  intro state ghost
  rw [exec_bind, exec_when]
  split
  · exact erases state _
  · exact erases state ghost

/-- The rest may rely on the result the two programs agree on. -/
theorem Erases.bind {p : Prog (σ × γ) μ α} {q : Prog σ μ α} {f : α → Prog (σ × γ) μ β}
    {g : α → Prog σ μ β} (one : Erases p q) (two : ∀ value, Erases (f value) (g value)) :
    Erases (p >>= f) (q >>= g) := by
  -- The second programs start from the same result and the same state.
  intro state ghost
  obtain ⟨value, after⟩ := one state ghost
  rw [exec_bind, exec_bind, ← value, ← after]
  exact two _ _ _

/-- Both programs take the same branch. -/
theorem Erases.ite {condition : Prop} [Decidable condition] {p p' : Prog (σ × γ) μ α}
    {q q' : Prog σ μ α} (one : Erases p q) (two : Erases p' q') :
    Erases (if condition then p else p') (if condition then q else q') := by
  -- Either branch erases.
  split
  · exact one
  · exact two

/-- A guarded program erases to a guarded one. -/
theorem Erases.when {condition : Prop} [Decidable condition] {p : Prog (σ × γ) μ Unit}
    {q : Prog σ μ Unit} (erases : Erases p q) :
    Erases (Prog.when condition p) (Prog.when condition q) := .ite erases (erases_pure ())

/-- What a program establishes, it establishes beside a ghost state it leaves alone. -/
theorem Triple.beside {pre : σ → Prop} {p : Prog σ μ α} {post : α → σ → Prop}
    (triple : Triple pre p post) (ghost : γ → Prop) :
    Triple (fun state => pre state.1 ∧ ghost state.2) (p.beside : Prog (σ × γ) μ α)
      fun value state => post value state.1 ∧ ghost state.2 := by
  -- The state is what it would be alone, and the ghost is what it was.
  rintro ⟨state, held⟩ ⟨met, kept⟩
  rw [exec_beside]
  exact ⟨triple state met, kept⟩

end Prog

end Grouper
