import Mathlib.Logic.Relation
import Mathlib.Logic.Function.Basic
import Grouper.Lib.Prog

/-! Threads that run programs under mutexes, one lock, unlock, read or write at a time. -/

namespace Grouper

open Function (update)

variable {τ σ μ : Type}

/-- What the threads share, who owns each mutex, and what each thread still has to run. -/
structure Config (τ σ μ : Type) where
  shared : σ
  owner : μ → Option τ
  code : τ → Option (Prog σ μ Unit)

namespace Config

section Definitions

variable [DecidableEq τ] [DecidableEq μ]

/-- One thread takes one step, or begins or ends a call, while the others stand still. -/
inductive Step (entry : Prog σ μ Unit → Prop) : τ → Config τ σ μ → Config τ σ μ → Prop
  | call {c : Config τ σ μ} {t : τ} (p : Prog σ μ Unit) (allowed : entry p)
      (idle : c.code t = none) : Step entry t c { c with code := update c.code t (some p) }
  | ret {c : Config τ σ μ} {t : τ} (ended : c.code t = some (.done ())) :
      Step entry t c { c with code := update c.code t none }
  | read {c : Config τ σ μ} {t : τ} (next : σ → Prog σ μ Unit)
      (here : c.code t = some (.read next)) :
      Step entry t c { c with code := update c.code t (some (next c.shared)) }
  | write {c : Config τ σ μ} {t : τ} (change : σ → σ) (next : Prog σ μ Unit)
      (here : c.code t = some (.write change next)) :
      Step entry t c { c with shared := change c.shared, code := update c.code t (some next) }
  | lock {c : Config τ σ μ} {t : τ} (mutex : μ) (next : Prog σ μ Unit)
      (here : c.code t = some (.lock mutex next)) (free : c.owner mutex = none) :
      Step entry t c { c with
        owner := update c.owner mutex (some t)
        code := update c.code t (some next) }
  | unlock {c : Config τ σ μ} {t : τ} (mutex : μ) (next : Prog σ μ Unit)
      (here : c.code t = some (.unlock mutex next)) (mine : c.owner mutex = some t) :
      Step entry t c { c with
        owner := update c.owner mutex none
        code := update c.code t (some next) }

/-- The configuration in which no thread has made a call yet. -/
def initial (shared : σ) : Config τ σ μ := ⟨shared, fun _ => none, fun _ => none⟩

/-- Configurations some interleaving of the threads leads to. -/
def Reachable (entry : Prog σ μ Unit → Prop) (shared : σ) (c : Config τ σ μ) : Prop :=
  Relation.ReflTransGen (fun before after => ∃ t, Step entry t before after) (initial shared) c

end Definitions

/-- A thread stands at a lock on a mutex that another thread, or the thread itself, owns. -/
def Waits (c : Config τ σ μ) (t u : τ) : Prop :=
  ∃ mutex next, c.code t = some (.lock mutex next) ∧ c.owner mutex = some u

/-- The discipline in which a second mutex is only ever taken by the owner of the gate. -/
def Gated (gate : μ) (held : List μ) (mutex : μ) : Prop :=
  mutex ∉ held ∧ (held = [] ∨ gate ∈ held)

/-- The mutexes of one thread, listed without repetition. -/
def Owns (c : Config τ σ μ) (t : τ) (held : List μ) : Prop :=
  held.Nodup ∧ ∀ mutex, mutex ∈ held ↔ c.owner mutex = some t

section Discipline

variable [DecidableEq μ]

/-- What remains of a call respects the discipline and gives back every mutex. -/
def Remaining (safe : List μ → μ → Prop) (held : List μ) : Option (Prog σ μ Unit) → Prop
  | none => held = []
  | some p => p.Holds safe held fun _ left => left = []

/-- A thread that has returned holds nothing. -/
@[simp] theorem remaining_none (safe : List μ → μ → Prop) (held : List μ) :
    Remaining (σ := σ) safe held none ↔ held = [] := Iff.rfl

/-- A running thread has the rest of its program to go. -/
@[simp] theorem remaining_some (safe : List μ → μ → Prop) (held : List μ) (p : Prog σ μ Unit) :
    Remaining safe held (some p) ↔ p.Holds safe held fun _ left => left = [] := Iff.rfl

/-- Every thread respects the discipline from where it stands. -/
def Disciplined (safe : List μ → μ → Prop) (c : Config τ σ μ) : Prop :=
  ∀ t, ∃ held, Owns c t held ∧ Remaining safe held (c.code t)

variable {entry : Prog σ μ Unit → Prop} {safe : List μ → μ → Prop} {gate : μ}

/-- Before the first call every thread owns nothing and has nothing to run. -/
theorem disciplined_initial (shared : σ) :
    Disciplined safe (initial shared : Config τ σ μ) :=
  fun t => ⟨[], ⟨List.nodup_nil, by simp [initial]⟩, rfl⟩

section Steps

variable [DecidableEq τ]

/-- Replacing the code of one thread keeps the discipline if the new code does. -/
theorem Disciplined.setCode {c : Config τ σ μ} (kept : Disciplined safe c) {t : τ}
    {code : Option (Prog σ μ Unit)} {shared : σ}
    (fits : ∀ held, Owns c t held → Remaining safe held (c.code t) → Remaining safe held code) :
    Disciplined safe { c with shared := shared, code := update c.code t code } := by
  -- The mutexes are where they were, and only one thread has other code.
  intro u
  obtain ⟨held, owns, remaining⟩ := kept u
  refine ⟨held, owns, ?_⟩
  by_cases same : u = t
  · subst same
    simpa using fits held owns remaining
  · simpa [same] using remaining

/-- The new owner of a free mutex holds it on top of what it held. -/
theorem Disciplined.setLock {c : Config τ σ μ} (kept : Disciplined safe c) {t : τ} {mutex : μ}
    {next : Prog σ μ Unit} (here : c.code t = some (.lock mutex next))
    (free : c.owner mutex = none) :
    Disciplined safe { c with
      owner := update c.owner mutex (some t)
      code := update c.code t (some next) } := by
  -- The thread adds to what it holds, and no other thread held the mutex.
  intro u
  obtain ⟨held, ⟨nodup, owned⟩, remaining⟩ := kept u
  have absent : mutex ∉ held := fun member => by simp [(owned mutex).mp member] at free
  by_cases same : u = t
  · subst same
    rw [here] at remaining
    refine ⟨mutex :: held, ⟨List.nodup_cons.mpr ⟨absent, nodup⟩, fun other => ?_⟩, ?_⟩
    · by_cases it : other = mutex <;> simp [it, owned]
    · simpa using remaining.2
  · refine ⟨held, ⟨nodup, fun other => ?_⟩, by simpa [same] using remaining⟩
    by_cases it : other = mutex
    · subst it
      simp [absent, Ne.symm same]
    · simp [it, owned]

/-- A released mutex leaves the list of the thread that released it, and no other list. -/
theorem Disciplined.setUnlock {c : Config τ σ μ} (kept : Disciplined safe c) {t : τ} {mutex : μ}
    {next : Prog σ μ Unit} (here : c.code t = some (.unlock mutex next))
    (mine : c.owner mutex = some t) :
    Disciplined safe { c with
      owner := update c.owner mutex none
      code := update c.code t (some next) } := by
  -- The thread takes from what it holds, and no other thread held the mutex.
  intro u
  obtain ⟨held, ⟨nodup, owned⟩, remaining⟩ := kept u
  by_cases same : u = t
  · subst same
    rw [here] at remaining
    refine ⟨held.erase mutex, ⟨nodup.erase mutex, fun other => ?_⟩, by simpa using remaining.2⟩
    by_cases it : other = mutex
    · subst it
      simp [nodup.not_mem_erase]
    · simp [it, owned, List.mem_erase_of_ne it]
  · have absent : mutex ∉ held := fun member => by
      simp [(owned mutex).mp member, same] at mine
    refine ⟨held, ⟨nodup, fun other => ?_⟩, by simpa [same] using remaining⟩
    by_cases it : other = mutex
    · subst it
      simp [absent]
    · simp [it, owned]

/-- A step of any thread keeps the discipline of all of them. -/
theorem Disciplined.step {c d : Config τ σ μ}
    (entries : ∀ p, entry p → p.Holds safe [] fun _ left => left = [])
    (kept : Disciplined safe c) {t : τ} (stepped : Step entry t c d) : Disciplined safe d := by
  cases stepped with
  | call p allowed idle =>
    -- An idle thread owns nothing, which is how an entry point expects to be called.
    refine kept.setCode fun held _ remaining => ?_
    rw [idle] at remaining
    simpa [(remaining_none _ _).mp remaining] using entries p allowed
  | ret ended =>
    refine kept.setCode fun held _ remaining => ?_
    rw [ended] at remaining
    exact remaining
  | read next here =>
    refine kept.setCode fun held _ remaining => ?_
    rw [here] at remaining
    exact remaining c.shared
  | write change next here =>
    refine kept.setCode fun held _ remaining => ?_
    rw [here] at remaining
    exact remaining
  | lock mutex next here free => exact kept.setLock here free
  | unlock mutex next here mine => exact kept.setUnlock here mine

/-- Every interleaving keeps the discipline. -/
theorem Disciplined.reachable
    (entries : ∀ p, entry p → p.Holds safe [] fun _ left => left = []) {shared : σ}
    {c : Config τ σ μ} (reached : Reachable entry shared c) : Disciplined safe c := by
  -- The induction is on the steps.
  induction reached with
  | refl => exact disciplined_initial shared
  | tail _ stepped ih => exact ih.step entries stepped.choose_spec

end Steps

/-- A thread at a lock has the permission of the discipline for it. -/
theorem Disciplined.atLock {c : Config τ σ μ} (kept : Disciplined safe c) {t : τ} {mutex : μ}
    {next : Prog σ μ Unit} (here : c.code t = some (.lock mutex next)) :
    ∃ held, Owns c t held ∧ safe held mutex := by
  -- What is left of the program begins with the lock.
  obtain ⟨held, owns, remaining⟩ := kept t
  rw [here] at remaining
  exact ⟨held, owns, remaining.1⟩

/-- A disciplined thread never asks for a mutex it owns. -/
theorem Disciplined.noRelock {c : Config τ σ μ} (kept : Disciplined (Gated gate) c) {t : τ}
    {mutex : μ} {next : Prog σ μ Unit} (here : c.code t = some (.lock mutex next)) :
    c.owner mutex ≠ some t := by
  obtain ⟨held, owns, absent, _⟩ := kept.atLock here
  exact fun mine => absent ((owns.2 mutex).mpr mine)

/-- A disciplined thread releases only what it owns. -/
theorem Disciplined.ownUnlock {c : Config τ σ μ} (kept : Disciplined safe c) {t : τ}
    {mutex : μ} {next : Prog σ μ Unit} (here : c.code t = some (.unlock mutex next)) :
    c.owner mutex = some t := by
  -- What is left of the program begins with the release.
  obtain ⟨held, owns, remaining⟩ := kept t
  rw [here] at remaining
  exact (owns.2 mutex).mp remaining.1

/-- A disciplined call that has ended, and a thread between calls, own nothing. -/
theorem Disciplined.emptyHanded {c : Config τ σ μ} (kept : Disciplined safe c) {t : τ}
    (ended : c.code t = none ∨ c.code t = some (.done ())) (mutex : μ) :
    c.owner mutex ≠ some t := by
  -- What is left of the program asks for nothing to be held.
  obtain ⟨held, owns, remaining⟩ := kept t
  have empty : held = [] := by
    rcases ended with idle | ended
    · simpa [idle] using remaining
    · simpa [ended, Prog.Holds] using remaining
  exact fun mine => by simpa [empty] using (owns.2 mutex).mpr mine

/-- A waiting thread that owns anything owns the gate. -/
theorem Disciplined.waiting_owns_gate {c : Config τ σ μ} (kept : Disciplined (Gated gate) c)
    {t u v : τ} (wanted : Waits c t u) (waits : Waits c u v) : c.owner gate = some u := by
  -- The waiting thread is at a lock with a nonempty hand, which only the gate's owner may be.
  obtain ⟨mutex, _, _, mine⟩ := wanted
  obtain ⟨_, _, here, _⟩ := waits
  obtain ⟨held, owns, _, alone | gated⟩ := kept.atLock here
  · simpa [alone] using (owns.2 mutex).mpr mine
  · exact (owns.2 gate).mp gated

/-- Under the gate discipline no thread waits, directly or through others, for itself. -/
theorem Disciplined.acyclic {c : Config τ σ μ} (kept : Disciplined (Gated gate) c) (t : τ) :
    ¬ Relation.TransGen (Waits c) t t := by
  intro cycle
  -- The gate has one owner, so two successive threads of a cycle are one and the same.
  obtain ⟨u, first, rest⟩ := Relation.TransGen.head'_iff.mp cycle
  obtain ⟨w, _, last⟩ := Relation.TransGen.tail'_iff.mp cycle
  have mine := kept.waiting_owns_gate last first
  have self : Waits c t t := by
    rcases Relation.ReflTransGen.cases_head rest with same | ⟨v, second, _⟩
    · exact same ▸ first
    · have theirs := kept.waiting_owns_gate first second
      have same : u = t := Option.some.inj (theirs.symm.trans mine)
      exact same ▸ first
  obtain ⟨mutex, next, here, owned⟩ := self
  exact kept.noRelock here owned

/-- The owner of a mutex that is waited for is in the middle of a call. -/
theorem Disciplined.owner_running {c : Config τ σ μ} (kept : Disciplined safe c) {t u : τ}
    (waits : Waits c t u) : ∃ p, c.code u = some p := by
  -- An owner that had returned would hold nothing.
  obtain ⟨mutex, _, _, owned⟩ := waits
  cases code : c.code u with
  | none => exact absurd owned (kept.emptyHanded (Or.inl code) mutex)
  | some p => exact ⟨p, rfl⟩

/-- A thread in the middle of a call that waits for nobody can take its next step. -/
theorem Disciplined.canStep [DecidableEq τ] {c : Config τ σ μ} (kept : Disciplined safe c) {t : τ}
    {p : Prog σ μ Unit} (running : c.code t = some p) (free : ∀ u, ¬ Waits c t u) :
    ∃ d, Step entry t c d := by
  -- Only a lock can keep a running thread from its next step.
  cases p with
  | done value => exact ⟨_, .ret running⟩
  | read next => exact ⟨_, .read next running⟩
  | write change next => exact ⟨_, .write change next running⟩
  | lock mutex next =>
    cases owned : c.owner mutex with
    | none => exact ⟨_, .lock mutex next running owned⟩
    | some u => exact absurd ⟨mutex, next, running, owned⟩ (free u)
  | unlock mutex next => exact ⟨_, .unlock mutex next running (kept.ownUnlock running)⟩

/-- Under the gate discipline, while any call is in progress some call in progress can step. -/
theorem Disciplined.progress [DecidableEq τ] {c : Config τ σ μ}
    (kept : Disciplined (Gated gate) c) {t : τ} {p : Prog σ μ Unit}
    (running : c.code t = some p) : ∃ u d, c.code u ≠ none ∧ Step entry u c d := by
  have moves : ∀ u q, c.code u = some q → (∀ v, ¬ Waits c u v) →
      ∃ u d, c.code u ≠ none ∧ Step entry u c d := fun u q code free =>
    let ⟨d, stepped⟩ := kept.canStep code free
    ⟨u, d, by simp [code], stepped⟩
  -- A chain of waiting threads has at most two links: its middle owns the gate, its end does not.
  by_cases waits : ∃ u, Waits c t u
  · obtain ⟨u, first⟩ := waits
    obtain ⟨q, code⟩ := kept.owner_running first
    by_cases again : ∃ v, Waits c u v
    · obtain ⟨v, second⟩ := again
      obtain ⟨r, ending⟩ := kept.owner_running second
      refine moves v r ending fun w third => ?_
      have middle := kept.waiting_owns_gate first second
      have last := kept.waiting_owns_gate second third
      have same : u = v := Option.some.inj (middle.symm.trans last)
      exact kept.acyclic u (.single (same ▸ second))
    · exact moves u q code (not_exists.mp again)
  · exact moves t p running (not_exists.mp waits)

end Discipline

section Alone

variable [DecidableEq τ] [DecidableEq μ] {entry : Prog σ μ Unit → Prop}

/-- A thread that is left alone can run what remains of its call to the end. -/
theorem steps_exec {safe : List μ → μ → Prop} (apart : ∀ held mutex, safe held mutex → mutex ∉ held)
    (t : τ) (p : Prog σ μ Unit) (held : List μ) (shared : σ) (code : τ → Option (Prog σ μ Unit))
    (nodup : held.Nodup) (holds : p.Holds safe held fun _ left => left = []) :
    Relation.ReflTransGen (fun before after => ∃ t, Step entry t before after)
      ⟨shared, fun mutex => if mutex ∈ held then some t else none, update code t (some p)⟩
      ⟨(p.exec shared).2, fun _ => none, update code t none⟩ := by
  -- The induction takes the steps of the program in order, and no other thread steps in between.
  induction p generalizing held shared with
  | done value =>
    obtain rfl : held = [] := holds
    refine .single ⟨t, ?_⟩
    have ended : Step entry t ⟨shared, fun _ => none, update code t (some (.done ()))⟩ _ :=
      .ret (Function.update_self _ _ _)
    simpa [Prog.exec] using ended
  | read next ih =>
    refine .head ⟨t, ?_⟩ (ih shared held shared nodup (holds shared))
    have stepped : Step entry t ⟨shared, fun mutex => if mutex ∈ held then some t else none,
        update code t (some (.read next))⟩ _ :=
      .read next (Function.update_self _ _ _)
    simpa using stepped
  | write change next ih =>
    refine .head ⟨t, ?_⟩ (ih held (change shared) nodup holds)
    have stepped : Step entry t ⟨shared, fun mutex => if mutex ∈ held then some t else none,
        update code t (some (.write change next))⟩ _ :=
      .write change next (Function.update_self _ _ _)
    simpa using stepped
  | lock mutex next ih =>
    have absent : mutex ∉ held := apart held mutex holds.1
    refine .head ⟨t, ?_⟩ (ih (mutex :: held) shared (List.nodup_cons.mpr ⟨absent, nodup⟩) holds.2)
    have stepped : Step entry t ⟨shared, fun mutex => if mutex ∈ held then some t else none,
        update code t (some (.lock mutex next))⟩ _ :=
      .lock mutex next (Function.update_self _ _ _) (if_neg absent)
    have owners : update (fun mutex => if mutex ∈ held then some t else none) mutex (some t) =
        fun other => if other ∈ mutex :: held then some t else none := by
      funext other
      by_cases same : other = mutex <;> simp [same]
    simpa [owners] using stepped
  | unlock mutex next ih =>
    refine .head ⟨t, ?_⟩ (ih (held.erase mutex) shared (nodup.erase mutex) holds.2)
    have stepped : Step entry t ⟨shared, fun mutex => if mutex ∈ held then some t else none,
        update code t (some (.unlock mutex next))⟩ _ :=
      .unlock mutex next (Function.update_self _ _ _) (if_pos holds.1)
    have owners : update (fun mutex => if mutex ∈ held then some t else none) mutex none =
        fun other => if other ∈ held.erase mutex then some t else none := by
      funext other
      by_cases same : other = mutex
      · subst same
        simp [nodup.not_mem_erase]
      · simp [same, List.mem_erase_of_ne same]
    simpa [owners] using stepped

/-- A call made while every thread is idle may run to its end before any other begins. -/
theorem Reachable.alone {safe : List μ → μ → Prop}
    (apart : ∀ held mutex, safe held mutex → mutex ∉ held) (t : τ) {start shared : σ}
    {p : Prog σ μ Unit} (allowed : entry p) (holds : p.Holds safe [] fun _ left => left = [])
    (reached : Reachable entry start (initial shared : Config τ σ μ)) :
    Reachable entry start (initial (p.exec shared).2 : Config τ σ μ) := by
  -- A thread calls, runs to its end, and returns.
  have called : Step entry t (initial shared) _ := .call p allowed rfl
  have ends : Relation.ReflTransGen (fun before after => ∃ t, Step entry t before after) _ _ :=
    steps_exec apart t p [] shared (fun _ => none) List.nodup_nil holds
  simp only [List.not_mem_nil, if_false, Function.update_eq_self] at ends
  exact (reached.tail ⟨t, called⟩).trans ends

end Alone

end Config

end Grouper
