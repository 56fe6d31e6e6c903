import Grouper.Lib.Threads

/-! Mutexes as monitors: what one guards changes only in the hands of its owner. -/

namespace Grouper

open Function (update)

namespace Prog

variable {σ μ ν α β : Type}

/-- A program that neither takes nor releases one mutex, and leaves what it guards unchanged. -/
def Aloof (gate : μ) (view : σ → ν) : Prog σ μ α → Prop
  | done _ => True
  | read next => ∀ seen, Aloof gate view (next seen)
  | write change next => (∀ s, view (change s) = view s) ∧ Aloof gate view next
  | lock mutex next => mutex ≠ gate ∧ Aloof gate view next
  | unlock mutex next => mutex ≠ gate ∧ Aloof gate view next

section Aloof

variable {gate : μ} {view : σ → ν}

/-- Returning touches nothing. -/
theorem aloof_pure (value : α) : Aloof gate view (pure value : Prog σ μ α) := trivial

/-- Nor does reading. -/
theorem aloof_state : Aloof gate view (state : Prog σ μ σ) := fun _ => trivial

/-- An update that does not show in the view may be made by anybody. -/
theorem aloof_update {change : σ → σ} (same : ∀ s, view (change s) = view s) :
    Aloof gate view (update change : Prog σ μ Unit) := ⟨same, trivial⟩

/-- Taking another mutex is no matter of the guarded one. -/
theorem aloof_acquire {mutex : μ} (other : mutex ≠ gate) :
    Aloof gate view (acquire mutex : Prog σ μ Unit) := ⟨other, trivial⟩

/-- Nor is releasing one. -/
theorem aloof_release {mutex : μ} (other : mutex ≠ gate) :
    Aloof gate view (release mutex : Prog σ μ Unit) := ⟨other, trivial⟩

/-- Aloof programs run one after the other are aloof. -/
theorem Aloof.bind {first : Prog σ μ α} {second : α → Prog σ μ β} (one : Aloof gate view first)
    (two : ∀ value, Aloof gate view (second value)) : Aloof gate view (first >>= second) := by
  -- The induction walks down the first program to the ends where the second is grafted.
  show Aloof gate view (first.bind second)
  induction first with
  | done value => exact two value
  | read next ih => exact fun seen => ih seen (one seen)
  | write change next ih => exact ⟨one.1, ih one.2⟩
  | lock mutex next ih => exact ⟨one.1, ih one.2⟩
  | unlock mutex next ih => exact ⟨one.1, ih one.2⟩

/-- A choice between aloof programs is aloof. -/
theorem Aloof.ite {condition : Prop} [Decidable condition] {yes no : Prog σ μ α}
    (one : Aloof gate view yes) (two : Aloof gate view no) :
    Aloof gate view (if condition then yes else no) := by
  -- Either branch is aloof.
  split
  · exact one
  · exact two

/-- A guarded aloof program is aloof. -/
theorem Aloof.when {condition : Prop} [Decidable condition] {p : Prog σ μ Unit}
    (aloof : Aloof gate view p) : Aloof gate view (Prog.when condition p) :=
  aloof.ite (aloof_pure ())

/-- A program aloof from every mutex is quiet. -/
theorem quiet_of_aloof {p : Prog σ μ α} (aloof : ∀ gate, Aloof gate view p) : Quiet p := by
  -- A mutex the program took or released would be one it is not aloof of.
  induction p with
  | done value => trivial
  | read next ih => exact fun seen => ih seen fun gate => aloof gate seen
  | write change next ih => exact ih fun gate => (aloof gate).2
  | lock mutex next => exact (aloof mutex).1 rfl
  | unlock mutex next => exact (aloof mutex).1 rfl

end Aloof

/-- What a write does to the guarded part, as far as its thread can tell before and after. -/
def Moves (view : σ → ν) (change : σ → σ) : Option ν → Option ν → Prop
  -- Without the mutex nothing may change; with it, the new value must be known.
  | none, none => ∀ s, view (change s) = view s
  | some before, some after => ∀ s, view s = before → view (change s) = after
  | _, _ => False

/--
What a program does to the part of the state that one mutex guards.

With the mutex the program knows the value of that part, and without it nothing is known.
`Guards gate view sound known p post` says that `p` changes the part only while it holds the
mutex, gives the mutex back only when the part is sound, and ends with a result and a knowledge
that satisfy `post`.
-/
def Guards (gate : μ) (view : σ → ν) (sound : ν → Prop) :
    Option ν → Prog σ μ α → (α → Option ν → Prop) → Prop
  | known, done value, post => post value known
  | known, read next, post =>
    ∀ seen, (∀ v ∈ known, view seen = v) → Guards gate view sound known (next seen) post
  | known, write change next, post =>
    ∃ after, Moves view change known after ∧ Guards gate view sound after next post
  | known, lock mutex next, post =>
    (mutex = gate → ∀ v, sound v → Guards gate view sound (some v) next post) ∧
      (mutex ≠ gate → Guards gate view sound known next post)
  | known, unlock mutex next, post =>
    (mutex = gate → (∃ v ∈ known, sound v) ∧ Guards gate view sound none next post) ∧
      (mutex ≠ gate → Guards gate view sound known next post)

section Guards

variable {gate : μ} {view : σ → ν} {sound : ν → Prop} {known : Option ν}

/-- Sequencing hands the knowledge left by the first program to the second. -/
theorem Guards.bind {first : Prog σ μ α} {second : α → Prog σ μ β}
    {post : β → Option ν → Prop}
    (guards : Guards gate view sound known first fun value left =>
      Guards gate view sound left (second value) post) :
    Guards gate view sound known (first >>= second) post := by
  -- The induction walks down the first program to the ends where the second is grafted.
  show Guards gate view sound known (first.bind second) post
  induction first generalizing known with
  | done value => exact guards
  | read next ih => exact fun seen fits => ih seen (guards seen fits)
  | write change next ih =>
    obtain ⟨after, moves, rest⟩ := guards
    exact ⟨after, moves, ih rest⟩
  | lock mutex next ih =>
    exact ⟨fun same v fine => ih (guards.1 same v fine), fun other => ih (guards.2 other)⟩
  | unlock mutex next ih =>
    exact ⟨fun same => ⟨(guards.1 same).1, ih (guards.1 same).2⟩, fun other => ih (guards.2 other)⟩

/-- Weakening the postcondition keeps the judgement. -/
theorem Guards.mono {p : Prog σ μ α} {post weaker : α → Option ν → Prop}
    (guards : Guards gate view sound known p post)
    (weaken : ∀ value left, post value left → weaker value left) :
    Guards gate view sound known p weaker := by
  -- The induction reaches every end of the program, where the postcondition stands.
  induction p generalizing known with
  | done value => exact weaken _ _ guards
  | read next ih => exact fun seen fits => ih seen (guards seen fits)
  | write change next ih =>
    obtain ⟨after, moves, rest⟩ := guards
    exact ⟨after, moves, ih rest⟩
  | lock mutex next ih =>
    exact ⟨fun same v fine => ih (guards.1 same v fine), fun other => ih (guards.2 other)⟩
  | unlock mutex next ih =>
    exact ⟨fun same => ⟨(guards.1 same).1, ih (guards.1 same).2⟩, fun other => ih (guards.2 other)⟩

/-- Returning knows what it knew. -/
theorem guards_pure {value : α} {post : α → Option ν → Prop} (met : post value known) :
    Guards gate view sound known (pure value : Prog σ μ α) post := met

/-- The owner of the mutex may change what it guards to a value it knows. -/
theorem guards_update {change : σ → σ} {before : ν} (after : ν) {post : Unit → Option ν → Prop}
    (moves : ∀ s, view s = before → view (change s) = after) (met : post () (some after)) :
    Guards gate view sound (some before) (update change : Prog σ μ Unit) post :=
  ⟨some after, moves, met⟩

/-- Taking the mutex reveals a sound value. -/
theorem guards_acquire {post : Unit → Option ν → Prop} (met : ∀ v, sound v → post () (some v)) :
    Guards gate view sound known (acquire gate : Prog σ μ Unit) post :=
  ⟨fun _ => met, fun other => absurd rfl other⟩

/-- The mutex is given back with a sound value. -/
theorem guards_release {v : ν} {post : Unit → Option ν → Prop} (fine : sound v)
    (met : post () none) :
    Guards gate view sound (some v) (release gate : Prog σ μ Unit) post :=
  ⟨fun _ => ⟨⟨v, rfl, fine⟩, met⟩, fun other => absurd rfl other⟩

/-- Both branches of a conditional may rely on how its condition came out. -/
theorem Guards.ite {condition : Prop} [Decidable condition] {yes no : Prog σ μ α}
    {post : α → Option ν → Prop} (one : condition → Guards gate view sound known yes post)
    (two : ¬ condition → Guards gate view sound known no post) :
    Guards gate view sound known (if condition then yes else no) post := by
  -- The condition that selects a branch is at hand in it.
  split
  · exact one ‹_›
  · exact two ‹_›

/-- A guarded program may be run or skipped. -/
theorem Guards.when {condition : Prop} [Decidable condition] {p : Prog σ μ Unit}
    {post : Unit → Option ν → Prop} (inside : Guards gate view sound known p post)
    (skipped : post () known) : Guards gate view sound known (Prog.when condition p) post :=
  .ite (fun _ => inside) fun _ => guards_pure skipped

/-- An aloof program leaves its thread with the knowledge it had. -/
theorem Aloof.guards {p : Prog σ μ α} {post : α → Option ν → Prop} (aloof : Aloof gate view p)
    (met : ∀ value, post value known) : Guards gate view sound known p post := by
  -- No step of an aloof program changes the view, and none is at the guarding mutex.
  induction p with
  | done value => exact met value
  | read next ih => exact fun seen _ => ih seen (aloof seen)
  | write change next ih =>
    refine ⟨known, ?_, ih aloof.2⟩
    cases known with
    | none => exact aloof.1
    | some v => exact fun s same => (aloof.1 s).trans same
  | lock mutex next ih => exact ⟨fun same => absurd same aloof.1, fun _ => ih aloof.2⟩
  | unlock mutex next ih => exact ⟨fun same => absurd same aloof.1, fun _ => ih aloof.2⟩

end Guards

end Prog

namespace Config

variable {τ σ μ ν : Type} [DecidableEq τ]

/-- What a thread knows of the guarded part. -/
def known (c : Config τ σ μ) (gate : μ) (view : σ → ν) (t : τ) : Option ν :=
  if c.owner gate = some t then some (view c.shared) else none

/-- What remains of a call respects the monitor and gives the mutex back. -/
def Obeys (gate : μ) (view : σ → ν) (sound : ν → Prop) (known : Option ν) :
    Option (Prog σ μ Unit) → Prop
  | none => known = none
  | some p => p.Guards gate view sound known fun _ left => left = none

/-- The guarded part is sound while the mutex is free, and every thread respects the monitor. -/
structure Monitored (gate : μ) (view : σ → ν) (sound : ν → Prop) (c : Config τ σ μ) : Prop where
  free : c.owner gate = none → sound (view c.shared)
  obeys : ∀ t, Obeys gate view sound (c.known gate view t) (c.code t)

variable {entry : Prog σ μ Unit → Prop} {gate : μ} {view : σ → ν} {sound : ν → Prop}

/-- A sound state is monitored before the first call. -/
theorem monitored_initial {shared : σ} (fine : sound (view shared)) :
    Monitored gate view sound (initial shared : Config τ σ μ) :=
  ⟨fun _ => fine, fun _ => rfl⟩

/-- A step of one thread that moves no mutex keeps the monitor if the thread still respects it. -/
theorem Monitored.setCode {c : Config τ σ μ} (kept : Monitored gate view sound c) {t : τ}
    {code : Option (Prog σ μ Unit)} {shared : σ}
    (same : c.owner gate ≠ some t → view shared = view c.shared)
    (fits : Obeys gate view sound
      (if c.owner gate = some t then some (view shared) else none) code) :
    Monitored gate view sound { c with shared := shared, code := update c.code t code } := by
  refine ⟨fun isFree => ?_, fun u => ?_⟩
  · have unowned : c.owner gate ≠ some t := by
      intro owned
      simp [owned] at isFree
    show sound (view shared)
    rw [same unowned]
    exact kept.free isFree
  · by_cases it : u = t
    · subst it
      simpa [known] using fits
    · -- What another thread knows has not changed, as that thread and not this one is the owner.
      have still : (if c.owner gate = some u then some (view shared) else none) =
          c.known gate view u := by
        unfold known
        split
        · rename_i owned
          have apart : c.owner gate ≠ some t :=
            fun mine => it (Option.some.inj (owned.symm.trans mine))
          rw [same apart]
        · rfl
      show Obeys gate view sound (if c.owner gate = some u then some (view shared) else none)
        (update c.code t code u)
      rw [still, Function.update_of_ne it]
      exact kept.obeys u

variable [DecidableEq μ]

/-- Moving a mutex keeps the monitor if the thread that moves it goes on respecting it. -/
theorem Monitored.setOwner {c : Config τ σ μ} (kept : Monitored gate view sound c) {t : τ}
    {code : Option (Prog σ μ Unit)} {mutex : μ} {owner : Option τ}
    (mine : ∀ u ≠ t, c.owner mutex ≠ some u ∧ owner ≠ some u)
    (fine : mutex = gate → owner = none → sound (view c.shared))
    (fits : Obeys gate view sound
      (if update c.owner mutex owner gate = some t then some (view c.shared) else none) code) :
    Monitored gate view sound { c with
      owner := update c.owner mutex owner
      code := update c.code t code } := by
  refine ⟨fun isFree => ?_, fun u => ?_⟩
  · show sound (view c.shared)
    by_cases it : mutex = gate
    · subst it
      exact fine rfl (by simpa using isFree)
    · refine kept.free ?_
      simpa [Function.update_of_ne (Ne.symm it)] using isFree
  · by_cases it : u = t
    · subst it
      simpa [known] using fits
    · -- The owner of the mutex moves between this thread and nobody.
      have still : (update c.owner mutex owner gate = some u) ↔ c.owner gate = some u := by
        by_cases which : mutex = gate
        · subst which
          simp [mine u it]
        · rw [Function.update_of_ne (Ne.symm which)]
      show Obeys gate view sound
        (if update c.owner mutex owner gate = some u then some (view c.shared) else none)
        (update c.code t code u)
      rw [if_congr still rfl rfl, Function.update_of_ne it]
      exact kept.obeys u

/-- A step of any thread keeps the monitor. -/
theorem Monitored.step {c d : Config τ σ μ}
    (entries : ∀ p, entry p → p.Guards gate view sound none fun _ left => left = none)
    (kept : Monitored gate view sound c) {t : τ} (stepped : Step entry t c d) :
    Monitored gate view sound d := by
  have obeys := kept.obeys t
  unfold known at obeys
  cases stepped with
  | call p allowed idle =>
    -- An idle thread does not hold the mutex, which is how an entry point expects to be called.
    rw [idle] at obeys
    refine kept.setCode (fun _ => rfl) ?_
    rw [show (if c.owner gate = some t then some (view c.shared) else none) = none from obeys]
    exact entries p allowed
  | ret ended =>
    rw [ended] at obeys
    exact kept.setCode (fun _ => rfl) obeys
  | read next here =>
    rw [here] at obeys
    refine kept.setCode (fun _ => rfl) (obeys c.shared ?_)
    intro v member
    split at member
    · exact Option.some.inj member
    · cases member
  | write change next here =>
    rw [here] at obeys
    obtain ⟨after, moves, rest⟩ := obeys
    by_cases owned : c.owner gate = some t
    · rw [if_pos owned] at moves
      cases after with
      | none => exact moves.elim
      | some w =>
        refine kept.setCode (fun unowned => absurd owned unowned) ?_
        rw [if_pos owned, moves c.shared rfl]
        exact rest
    · rw [if_neg owned] at moves
      cases after with
      | none =>
        refine kept.setCode (fun _ => moves c.shared) ?_
        rw [if_neg owned]
        exact rest
      | some w => exact moves.elim
  | lock mutex next here free =>
    rw [here] at obeys
    refine kept.setOwner (fun u other => ⟨by simp [free], by simpa using Ne.symm other⟩)
      (fun _ gone => nomatch gone) ?_
    by_cases it : mutex = gate
    · subst it
      rw [if_pos (Function.update_self _ _ _)]
      exact obeys.1 rfl _ (kept.free free)
    · rw [Function.update_of_ne (Ne.symm it)]
      exact obeys.2 it
  | unlock mutex next here mine =>
    rw [here] at obeys
    have only : ∀ u ≠ t, c.owner mutex ≠ some u ∧ (none : Option τ) ≠ some u := by
      intro u other
      rw [mine]
      exact ⟨fun same => other (Option.some.inj same).symm, nofun⟩
    by_cases it : mutex = gate
    · subst it
      rw [if_pos mine] at obeys
      obtain ⟨⟨v, is, fine⟩, rest⟩ := obeys.1 rfl
      obtain rfl : view c.shared = v := Option.some.inj is
      refine kept.setOwner only (fun _ _ => fine) ?_
      rw [if_neg (by simp)]
      exact rest
    · refine kept.setOwner only (fun same => absurd same it) ?_
      rw [Function.update_of_ne (Ne.symm it)]
      exact obeys.2 it

/-- Whatever the interleaving, the guarded part is sound while the mutex is free. -/
theorem Monitored.reachable
    (entries : ∀ p, entry p → p.Guards gate view sound none fun _ left => left = none)
    {shared : σ} (fine : sound (view shared)) {c : Config τ σ μ}
    (reached : Reachable entry shared c) : Monitored gate view sound c := by
  -- The induction takes one step of the interleaving at a time.
  induction reached with
  | refl => exact monitored_initial fine
  | tail _ stepped ih => exact ih.step entries stepped.choose_spec

end Config

end Grouper
