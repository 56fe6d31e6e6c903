import Grouper.Lib.Prog

/-! Two runs side by side: programs that keep two states related and return related results. -/

namespace Grouper

namespace Prog

variable {σ μ α β γ δ : Type} {low : σ → σ → Prop}

/-- Run alone from related states, two programs end in related states with related results. -/
def Twin (low : σ → σ → Prop) (post : α → β → Prop) (p : Prog σ μ α) (q : Prog σ μ β) : Prop :=
  ∀ s t, low s t → low (p.exec s).2 (q.exec t).2 ∧ post (p.exec s).1 (q.exec t).1

/-- A program whose result does not tell related states apart. -/
abbrev Blind (low : σ → σ → Prop) (p : Prog σ μ α) : Prop := Twin low Eq p p

/-- Returning related results leaves the states related. -/
theorem twin_pure {post : α → β → Prop} {one : α} {two : β} (related : post one two) :
    Twin low post (pure one : Prog σ μ α) (pure two) := fun _ _ start => ⟨start, related⟩

/-- Returning is blind. -/
theorem blind_pure (value : α) : Blind low (pure value : Prog σ μ α) := twin_pure rfl

/-- Related programs that go on in related ways are related. -/
theorem Twin.bind {mid : α → β → Prop} {post : γ → δ → Prop} {p : Prog σ μ α} {q : Prog σ μ β}
    {f : α → Prog σ μ γ} {g : β → Prog σ μ δ} (first : Twin low mid p q)
    (second : ∀ one two, mid one two → Twin low post (f one) (g two)) :
    Twin low post (p >>= f) (q >>= g) := by
  intro s t start
  -- What the first programs leave is related, and the second ones start from there.
  obtain ⟨middle, results⟩ := first s t start
  rw [exec_bind, exec_bind]
  exact second _ _ results _ _ middle

/-- After a blind program both runs go on with the same value. -/
theorem Twin.bindEq {post : γ → δ → Prop} {p q : Prog σ μ α} {f : α → Prog σ μ γ}
    {g : α → Prog σ μ δ} (first : Twin low Eq p q)
    (second : ∀ value, Twin low post (f value) (g value)) :
    Twin low post (p >>= f) (q >>= g) :=
  first.bind fun one _ same => same ▸ second one

/-- Reading related states gives related states. -/
theorem twin_state : Twin low low (state : Prog σ μ σ) state := fun _ _ start => ⟨start, start⟩

/-- Updates that keep states related are twins. -/
theorem twin_update {f g : σ → σ} (kept : ∀ s t, low s t → low (f s) (g t)) :
    Twin low Eq (update f : Prog σ μ Unit) (update g) := fun s t start => ⟨kept s t start, rfl⟩

/-- Taking a mutex is blind. -/
theorem blind_acquire (mutex : μ) : Blind low (acquire mutex : Prog σ μ Unit) :=
  fun _ _ start => ⟨start, rfl⟩

/-- Releasing one is blind. -/
theorem blind_release (mutex : μ) : Blind low (release mutex : Prog σ μ Unit) :=
  fun _ _ start => ⟨start, rfl⟩

/-- Conditionals are related if their conditions agree and their branches are related. -/
theorem Twin.ite {post : α → β → Prop} {here there : Prop} [Decidable here] [Decidable there]
    {p p' : Prog σ μ α} {q q' : Prog σ μ β} (agree : here ↔ there)
    (yes : here → there → Twin low post p q) (no : ¬ here → ¬ there → Twin low post p' q') :
    Twin low post (if here then p else p') (if there then q else q') := by
  -- Both runs take the same branch.
  by_cases condition : here
  · rw [if_pos condition, if_pos (agree.mp condition)]
    exact yes condition (agree.mp condition)
  · rw [if_neg condition, if_neg (mt agree.mpr condition)]
    exact no condition (mt agree.mpr condition)

/-- Two guarded twins whose conditions agree are twins. -/
theorem Twin.when {here there : Prop} [Decidable here] [Decidable there] {p q : Prog σ μ Unit}
    (agree : here ↔ there) (inside : Twin low Eq p q) :
    Twin low Eq (Prog.when here p) (Prog.when there q) :=
  .ite agree (fun _ _ => inside) fun _ _ => blind_pure ()

/-- Two runs of a blind program in one relation may drop their results. -/
theorem Twin.discard {post : α → β → Prop} {p : Prog σ μ α} {q : Prog σ μ β}
    (twin : Twin low post p q) : Twin low Eq (do let _ ← p) (do let _ ← q) :=
  twin.bind fun _ _ _ => blind_pure ()

end Prog

end Grouper
