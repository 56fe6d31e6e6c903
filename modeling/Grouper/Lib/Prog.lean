import Mathlib.Order.Defs.Unbundled

/-! Programs over a shared state that take and release mutexes, and what they do when run alone. -/

namespace Grouper

/-- A program over the shared state `σ` and the mutexes `μ` that returns an `α`. -/
inductive Prog (σ μ α : Type) where
  | done (value : α)
  | read (next : σ → Prog σ μ α)
  | write (update : σ → σ) (next : Prog σ μ α)
  | lock (mutex : μ) (next : Prog σ μ α)
  | unlock (mutex : μ) (next : Prog σ μ α)

namespace Prog

variable {σ μ α β : Type}

/-- Sequencing grafts the second program onto every end of the first. -/
def bind : Prog σ μ α → (α → Prog σ μ β) → Prog σ μ β
  | done value, next => next value
  | read rest, next => read fun state => (rest state).bind next
  | write update rest, next => write update (rest.bind next)
  | lock mutex rest, next => lock mutex (rest.bind next)
  | unlock mutex rest, next => unlock mutex (rest.bind next)

instance : Monad (Prog σ μ) where
  pure := done
  bind := bind

/-- Read the shared state. -/
def state : Prog σ μ σ := read done

/-- Update the shared state. -/
def update (change : σ → σ) : Prog σ μ Unit := write change (done ())

/-- Take a mutex. -/
def acquire (mutex : μ) : Prog σ μ Unit := lock mutex (done ())

/-- Release a mutex. -/
def release (mutex : μ) : Prog σ μ Unit := unlock mutex (done ())

/-- Run a program only under a condition. -/
def when (condition : Prop) [Decidable condition] (p : Prog σ μ Unit) : Prog σ μ Unit :=
  if condition then p else pure ()

/-- The result and the final state of a program no other thread interferes with. -/
def exec : Prog σ μ α → σ → α × σ
  -- Alone, a program never waits, so its mutexes leave no trace.
  | done value, start => (value, start)
  | read next, start => (next start).exec start
  | write change next, start => next.exec (change start)
  | lock _ next, start => next.exec start
  | unlock _ next, start => next.exec start

/-- Returning changes no state. -/
@[simp] theorem exec_pure (value : α) (start : σ) :
    (pure value : Prog σ μ α).exec start = (value, start) := rfl

/-- The second program starts from the result and the state the first one ends with. -/
@[simp] theorem exec_bind (first : Prog σ μ α) (second : α → Prog σ μ β) (start : σ) :
    (first >>= second).exec start = (second (first.exec start).1).exec (first.exec start).2 := by
  -- The induction walks down the first program to the end where the second is grafted.
  change (first.bind second).exec start = _
  induction first generalizing start with
  | done value => rfl
  | read next ih => exact ih start start
  | write change next ih => exact ih (change start)
  | lock mutex next ih => exact ih start
  | unlock mutex next ih => exact ih start

/-- Reading hands out the state and leaves it. -/
@[simp] theorem exec_state (start : σ) : (state : Prog σ μ σ).exec start = (start, start) := rfl

/-- An update is applied to the state. -/
@[simp] theorem exec_update (change : σ → σ) (start : σ) :
    (update change : Prog σ μ Unit).exec start = ((), change start) := rfl

/-- Alone, taking a mutex changes no state. -/
@[simp] theorem exec_acquire (mutex : μ) (start : σ) :
    (acquire mutex : Prog σ μ Unit).exec start = ((), start) := rfl

/-- Alone, releasing a mutex changes no state. -/
@[simp] theorem exec_release (mutex : μ) (start : σ) :
    (release mutex : Prog σ μ Unit).exec start = ((), start) := rfl

/-- A guarded program changes the state only under its condition. -/
@[simp] theorem exec_when (condition : Prop) [Decidable condition] (p : Prog σ μ Unit)
    (start : σ) : (when condition p).exec start =
      ((), if condition then (p.exec start).2 else start) := by
  -- The result is the empty one in both branches.
  unfold when
  split <;> rfl

/-- A conditional runs the branch its condition selects. -/
theorem exec_ite (condition : Prop) [Decidable condition] (yes no : Prog σ μ α) (start : σ) :
    (if condition then yes else no).exec start =
      if condition then yes.exec start else no.exec start := by
  -- Each branch is its own run.
  split <;> rfl

/-- Run alone from a state, a program ends in a related one. -/
def Leads (rel : σ → σ → Prop) (p : Prog σ μ α) (start : σ) : Prop := rel start (p.exec start).2

section Leads

variable {rel : σ → σ → Prop} {start : σ}

/-- Relations that compose are established one program after the other. -/
theorem Leads.bind [IsTrans σ rel] {first : Prog σ μ α} {second : α → Prog σ μ β}
    (one : Leads rel first start)
    (two : Leads rel (second (first.exec start).1) (first.exec start).2) :
    Leads rel (first >>= second) start := by
  -- The state in between is the one the first program ends in.
  unfold Leads at *
  rw [exec_bind]
  exact IsTrans.trans _ _ _ one two

/-- A program that only returns ends where it starts. -/
theorem Leads.pure [Std.Refl rel] (value : α) : Leads rel (pure value : Prog σ μ α) start :=
  Std.Refl.refl start

/-- Both branches of a conditional may rely on how its condition came out. -/
theorem Leads.ite {condition : Prop} [Decidable condition] {yes no : Prog σ μ α}
    (one : condition → Leads rel yes start) (two : ¬ condition → Leads rel no start) :
    Leads rel (if condition then yes else no) start := by
  -- The condition that selects a branch is at hand in it.
  split
  · exact one ‹_›
  · exact two ‹_›

/-- A guarded program may rely on its condition, and does nothing without it. -/
theorem Leads.when [Std.Refl rel] {condition : Prop} [Decidable condition] {p : Prog σ μ Unit}
    (inside : condition → Leads rel p start) : Leads rel (Prog.when condition p) start :=
  .ite inside fun _ => .pure ()

/-- Alone, taking a mutex ends where it starts. -/
theorem Leads.acquire [Std.Refl rel] (mutex : μ) :
    Leads rel (acquire mutex : Prog σ μ Unit) start := Std.Refl.refl start

/-- Alone, releasing a mutex ends where it starts. -/
theorem Leads.release [Std.Refl rel] (mutex : μ) :
    Leads rel (release mutex : Prog σ μ Unit) start := Std.Refl.refl start

/-- The step from one state to another keeps a property. -/
def Keeps (inv : σ → Prop) (before after : σ) : Prop := inv before → inv after

instance (inv : σ → Prop) : Std.Refl (Keeps inv) where
  refl _ := id

instance (inv : σ → Prop) : IsTrans σ (Keeps inv) where
  trans _ _ _ one two := two ∘ one

end Leads

/-- Run alone from a state that meets the precondition, a program meets the postcondition. -/
def Triple (pre : σ → Prop) (p : Prog σ μ α) (post : α → σ → Prop) : Prop :=
  ∀ start, pre start → post (p.exec start).1 (p.exec start).2

section Triple

variable {pre : σ → Prop}

/-- A program that only returns needs its postcondition of the start. -/
theorem Triple.pure {post : α → σ → Prop} {value : α} (met : ∀ s, pre s → post value s) :
    Triple pre (pure value : Prog σ μ α) post := met

/-- The second program relies on what the first one established. -/
theorem Triple.bind {mid : α → σ → Prop} {post : β → σ → Prop} {first : Prog σ μ α}
    {second : α → Prog σ μ β} (one : Triple pre first mid)
    (two : ∀ value, Triple (mid value) (second value) post) :
    Triple pre (first >>= second) post := by
  -- The postcondition of the first is the precondition of the second.
  intro start met
  rw [exec_bind]
  exact two _ _ (one start met)

/-- Both branches of a conditional may rely on how its condition came out. -/
theorem Triple.ite {condition : Prop} [Decidable condition] {yes no : Prog σ μ α}
    {post : α → σ → Prop} (one : condition → Triple pre yes post)
    (two : ¬ condition → Triple pre no post) :
    Triple pre (if condition then yes else no) post := by
  -- The condition that selects a branch is at hand in it.
  split
  · exact one ‹_›
  · exact two ‹_›

/-- A guarded program has two ways to meet its postcondition. -/
theorem Triple.when {condition : Prop} [Decidable condition] {p : Prog σ μ Unit}
    {post : Unit → σ → Prop} (inside : condition → Triple pre p post)
    (skipped : ¬ condition → ∀ s, pre s → post () s) : Triple pre (Prog.when condition p) post :=
  .ite inside fun no => .pure (skipped no)

/-- A stronger precondition and a weaker postcondition keep a triple. -/
theorem Triple.mono {stronger : σ → Prop} {post weaker : α → σ → Prop} {p : Prog σ μ α}
    (triple : Triple pre p post) (strengthen : ∀ s, stronger s → pre s)
    (weaken : ∀ value s, post value s → weaker value s) : Triple stronger p weaker :=
  fun start met => weaken _ _ (triple start (strengthen start met))

end Triple

/--
What a program does to the mutexes its thread holds.

`Holds safe held p post` says that whatever the other threads write, `p` started with exactly the
mutexes `held` releases only what it holds, takes a mutex only when `safe` allows it with the
mutexes held at that moment, and ends with a result and a set of mutexes that satisfy `post`.
-/
def Holds [DecidableEq μ] (safe : List μ → μ → Prop) :
    List μ → Prog σ μ α → (α → List μ → Prop) → Prop
  | held, done value, post => post value held
  | held, read next, post => ∀ seen, Holds safe held (next seen) post
  | held, write _ next, post => Holds safe held next post
  | held, lock mutex next, post => safe held mutex ∧ Holds safe (mutex :: held) next post
  | held, unlock mutex next, post => mutex ∈ held ∧ Holds safe (held.erase mutex) next post

section Holds

variable [DecidableEq μ] {safe : List μ → μ → Prop} {held : List μ}

/-- Weakening the postcondition keeps the judgement. -/
theorem Holds.mono {p : Prog σ μ α} {post weaker : α → List μ → Prop}
    (holds : Holds safe held p post) (weaken : ∀ value left, post value left → weaker value left) :
    Holds safe held p weaker := by
  -- The induction reaches every end of the program, where the postcondition stands.
  induction p generalizing held with
  | done value => exact weaken _ _ holds
  | read next ih => exact fun seen => ih seen (holds seen)
  | write change next ih => exact ih holds
  | lock mutex next ih => exact ⟨holds.1, ih holds.2⟩
  | unlock mutex next ih => exact ⟨holds.1, ih holds.2⟩

/-- Sequencing hands the mutexes left by the first program to the second. -/
@[simp] theorem holds_bind {first : Prog σ μ α} {second : α → Prog σ μ β}
    {post : β → List μ → Prop} :
    Holds safe held (first >>= second) post ↔
      Holds safe held first fun value left => Holds safe left (second value) post := by
  -- The induction walks down the first program to the end where the second is grafted.
  change Holds safe held (first.bind second) post ↔ _
  induction first generalizing held with
  | done value => exact Iff.rfl
  | read next ih => exact forall_congr' fun seen => ih seen
  | write change next ih => exact ih
  | lock mutex next ih => exact and_congr_right fun _ => ih
  | unlock mutex next ih => exact and_congr_right fun _ => ih

/-- A program that only returns keeps the mutexes it is started with. -/
@[simp] theorem holds_pure {value : α} {post : α → List μ → Prop} :
    Holds safe held (pure value : Prog σ μ α) post ↔ post value held := Iff.rfl

/-- Taking a mutex asks that it be safe and adds it. -/
@[simp] theorem holds_acquire {mutex : μ} {post : Unit → List μ → Prop} :
    Holds safe held (acquire mutex : Prog σ μ Unit) post ↔
      safe held mutex ∧ post () (mutex :: held) := Iff.rfl

/-- Releasing a mutex asks that it be held and removes it. -/
@[simp] theorem holds_release {mutex : μ} {post : Unit → List μ → Prop} :
    Holds safe held (release mutex : Prog σ μ Unit) post ↔
      mutex ∈ held ∧ post () (held.erase mutex) := Iff.rfl

/-- Both branches of a conditional may rely on how its condition came out. -/
theorem Holds.ite {condition : Prop} [Decidable condition] {yes no : Prog σ μ α}
    {post : α → List μ → Prop} (one : condition → Holds safe held yes post)
    (two : ¬ condition → Holds safe held no post) :
    Holds safe held (if condition then yes else no) post := by
  -- The condition that selects a branch is at hand in it.
  split
  · exact one ‹_›
  · exact two ‹_›

/-- A guarded program may be run or skipped. -/
theorem Holds.when {condition : Prop} [Decidable condition] {p : Prog σ μ Unit}
    {post : Unit → List μ → Prop} (inside : Holds safe held p post) (skipped : post () held) :
    Holds safe held (Prog.when condition p) post := .ite (fun _ => inside) fun _ => skipped

end Holds

/-- A program that touches no mutex. -/
def Quiet : Prog σ μ α → Prop
  | done _ => True
  | read next => ∀ seen, Quiet (next seen)
  | write _ next => Quiet next
  | lock _ _ => False
  | unlock _ _ => False

/-- Returning touches no mutex. -/
theorem quiet_pure (value : α) : Quiet (pure value : Prog σ μ α) := trivial

/-- Reading touches no mutex. -/
theorem quiet_state : Quiet (state : Prog σ μ σ) := fun _ => trivial

/-- An update touches no mutex. -/
theorem quiet_update (change : σ → σ) : Quiet (update change : Prog σ μ Unit) := trivial

/-- Quiet programs run one after the other are quiet. -/
theorem Quiet.bind {first : Prog σ μ α} {second : α → Prog σ μ β} (one : Quiet first)
    (two : ∀ value, Quiet (second value)) : Quiet (first >>= second) := by
  -- The second program is grafted onto the ends of the first, which take no mutex.
  change Quiet (first.bind second)
  induction first with
  | done value => exact two value
  | read next ih => exact fun seen => ih seen (one seen)
  | write change next ih => exact ih one
  -- A quiet program has no such step.
  | lock mutex next => exact one.elim
  | unlock mutex next => exact one.elim

/-- A choice between quiet programs is quiet. -/
theorem Quiet.ite {condition : Prop} [Decidable condition] {yes no : Prog σ μ α}
    (one : Quiet yes) (two : Quiet no) : Quiet (if condition then yes else no) := by
  -- Either branch is quiet.
  split
  · exact one
  · exact two

/-- A guarded quiet program is quiet. -/
theorem Quiet.when {condition : Prop} [Decidable condition] {p : Prog σ μ Unit}
    (quiet : Quiet p) : Quiet (Prog.when condition p) := quiet.ite (quiet_pure ())

/-- A quiet program leaves the mutexes of its thread as they were. -/
theorem Quiet.holds [DecidableEq μ] {safe : List μ → μ → Prop} {held : List μ} {p : Prog σ μ α}
    {post : α → List μ → Prop} (quiet : Quiet p) (met : ∀ value, post value held) :
    Holds safe held p post := by
  -- No step of a quiet program changes what is held.
  induction p with
  | done value => exact met value
  | read next ih => exact fun seen => ih seen (quiet seen)
  | write change next ih => exact ih quiet
  | lock mutex next => exact quiet.elim
  | unlock mutex next => exact quiet.elim

end Prog

end Grouper
