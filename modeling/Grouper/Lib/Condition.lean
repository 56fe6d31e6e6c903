import Mathlib.Algebra.BigOperators.Group.Finset.Basic
import Mathlib.Algebra.Order.BigOperators.Group.Finset
import Mathlib.Logic.Function.Basic
import Mathlib.Logic.Relation

/-! Methods under one mutex with a condition variable: some change the state, some wait for it. -/

namespace Grouper

open Function (update)

/-- What a thread may ask for. -/
inductive Method (σ : Type) where
  /-- Change the state, and wake all sleepers if the method has a broadcast. -/
  | change (next : σ → σ) (broadcasts : Bool)
  /-- Sleep until the state is ready: `while (!ready) cv.wait(lock)`. -/
  | await (ready : σ → Bool)

/-- Where a thread is. -/
inductive Point (σ : Type) where
  | idle
  /-- At the lock. -/
  | entering (method : Method σ)
  /-- With the lock: at the change, or at the test of the loop. -/
  | inside (method : Method σ)
  /-- With the lock: behind the change, and at the broadcast if there is one. -/
  | changed (next : σ → σ) (broadcasts : Bool)
  /-- With the lock: at its release. -/
  | leaving (method : Method σ)
  /-- In `cv.wait`, which has released the lock. -/
  | sleeping (ready : σ → Bool)
  /-- In `cv.wait`, which must have the lock back before it returns. -/
  | woken (ready : σ → Bool)

/-- The state, who has the lock, and where each thread is. -/
structure Monitor (τ σ : Type) where
  state : σ
  lock : Option τ
  at_ : τ → Point σ

namespace Point

variable {σ : Type}

/-- A thread has the lock from taking it to releasing it, but not while it sleeps. -/
def holds : Point σ → Bool
  | inside _ | changed _ _ | leaving _ => true
  | _ => false

/-- Behind the change, or the test that came out well. -/
def behind : Point σ → Bool
  | changed _ _ | leaving _ => true
  | _ => false

/-- The method a thread is in the middle of. -/
def method : Point σ → Option (Method σ)
  | idle => none
  | entering m | inside m | leaving m => some m
  | changed next broadcasts => some (.change next broadcasts)
  | sleeping ready | woken ready => some (.await ready)

/-- What a thread has got in front of it, if all that is waited for is there. -/
def rank : Point σ → Nat
  | idle => 0
  | leaving _ => 1
  | changed _ _ => 2
  | inside (.await _) => 2
  | inside (.change _ _) => 3
  | entering (.await _) | woken _ => 3
  | entering (.change _ _) | sleeping _ => 4

/-- A broadcast wakes a sleeper and nobody else. -/
def wake : Point σ → Point σ
  | sleeping ready => woken ready
  | other => other

/-- A broadcast takes the lock from nobody and gives it to nobody. -/
@[simp] theorem holds_wake (p : Point σ) : p.wake.holds = p.holds := by cases p <;> rfl

/-- Whoever is woken is still in the middle of its wait. -/
@[simp] theorem method_wake (p : Point σ) : p.wake.method = p.method := by cases p <;> rfl

/-- A broadcast puts nobody behind its change or its test. -/
@[simp] theorem behind_wake (p : Point σ) : p.wake.behind = p.behind := by cases p <;> rfl

/-- A thread outside every method has returned, or has not called yet. -/
theorem method_eq_none (p : Point σ) : p.method = none ↔ p = idle := by cases p <;> simp [method]

/-- No method has more than four steps in front of it. -/
theorem rank_le (p : Point σ) : p.rank ≤ 4 := by
  -- The methods differ where they can be at the lock or inside.
  cases p with
  | entering m => cases m <;> simp [rank]
  | inside m => cases m <;> simp [rank]
  | _ => simp [rank]

/-- A sleeper that is woken has one step less to take. -/
theorem rank_wake_le (p : Point σ) : p.wake.rank ≤ p.rank := by cases p <;> simp [wake, rank]

/-- Nobody sleeps right after a broadcast. -/
theorem wake_ne_sleeping (p : Point σ) (ready : σ → Bool) : p.wake ≠ sleeping ready := by
  cases p <;> simp [wake]

end Point

namespace Monitor

variable {τ σ : Type}

/-- Before the first call. -/
def initial (state : σ) : Monitor τ σ := ⟨state, none, fun _ => .idle⟩

section Steps

variable [DecidableEq τ]

/-- One thread goes on from where it is. -/
inductive Moves : τ → Monitor τ σ → Monitor τ σ → Prop
  | lock {c : Monitor τ σ} {t : τ} (m : Method σ) (here : c.at_ t = .entering m)
      (free : c.lock = none) :
      Moves t c { c with lock := some t, at_ := update c.at_ t (.inside m) }
  | change {c : Monitor τ σ} {t : τ} (next : σ → σ) (broadcasts : Bool)
      (here : c.at_ t = .inside (.change next broadcasts)) :
      Moves t c { c with
        state := next c.state
        at_ := update c.at_ t (.changed next broadcasts) }
  | broadcast {c : Monitor τ σ} {t : τ} (next : σ → σ) (here : c.at_ t = .changed next true) :
      Moves t c { c with
        at_ := update (fun u => (c.at_ u).wake) t (.leaving (.change next true)) }
  | silent {c : Monitor τ σ} {t : τ} (next : σ → σ) (here : c.at_ t = .changed next false) :
      Moves t c { c with at_ := update c.at_ t (.leaving (.change next false)) }
  | pass {c : Monitor τ σ} {t : τ} (ready : σ → Bool) (here : c.at_ t = .inside (.await ready))
      (now : ready c.state = true) :
      Moves t c { c with at_ := update c.at_ t (.leaving (.await ready)) }
  | sleep {c : Monitor τ σ} {t : τ} (ready : σ → Bool) (here : c.at_ t = .inside (.await ready))
      (not : ready c.state = false) :
      Moves t c { c with lock := none, at_ := update c.at_ t (.sleeping ready) }
  | relock {c : Monitor τ σ} {t : τ} (ready : σ → Bool) (here : c.at_ t = .woken ready)
      (free : c.lock = none) :
      Moves t c { c with lock := some t, at_ := update c.at_ t (.inside (.await ready)) }
  | unlock {c : Monitor τ σ} {t : τ} (m : Method σ) (here : c.at_ t = .leaving m) :
      Moves t c { c with lock := none, at_ := update c.at_ t .idle }

/-- One thread goes on, or `cv.wait` wakes up for no reason. -/
inductive Inner : τ → Monitor τ σ → Monitor τ σ → Prop
  | moves {c d : Monitor τ σ} {t : τ} (moves : Moves t c d) : Inner t c d
  | spurious {c : Monitor τ σ} {t : τ} (ready : σ → Bool) (here : c.at_ t = .sleeping ready) :
      Inner t c { c with at_ := update c.at_ t (.woken ready) }

/-- One thread goes on, or calls a method. -/
inductive Step (allowed : Method σ → Prop) : τ → Monitor τ σ → Monitor τ σ → Prop
  | inner {c d : Monitor τ σ} {t : τ} (inner : Inner t c d) : Step allowed t c d
  | call {c : Monitor τ σ} {t : τ} (m : Method σ) (fits : allowed m) (idle : c.at_ t = .idle) :
      Step allowed t c { c with at_ := update c.at_ t (.entering m) }

/-- What threads calling methods of a kind can bring about. -/
def Reachable (allowed : Method σ → Prop) (state : σ) (c : Monitor τ σ) : Prop :=
  Relation.ReflTransGen (fun before after => ∃ t, Step allowed t before after) (initial state) c

end Steps

/-- A change that makes ready what is waited for has a broadcast. -/
def Heeds (allowed : Method σ → Prop) : Prop :=
  ∀ next broadcasts ready, allowed (.change next broadcasts) → allowed (.await ready) →
    ∀ s, ready s = false → ready (next s) = true → broadcasts = true

/-- The lock is had by the thread that is in the middle of what it guards. -/
def Owned (lock : Option τ) (at_ : τ → Point σ) : Prop :=
  ∀ t, lock = some t ↔ (at_ t).holds = true

/-- What holds whatever the interleaving. -/
structure Kept (allowed : Method σ → Prop) (c : Monitor τ σ) : Prop where
  owned : Owned c.lock c.at_
  asked : ∀ t m, (c.at_ t).method = some m → allowed m
  /-- A wait is left with the state ready. -/
  ready : ∀ t ready, c.at_ t = .leaving (.await ready) → ready c.state = true
  /-- What a sleeper waits for is not there, or a broadcast is about to come. -/
  awake : ∀ t ready, c.at_ t = .sleeping ready → ready c.state = true →
    ∃ u next, c.at_ u = .changed next true

section Owned

variable {lock : Option τ} {at_ : τ → Point σ} {t : τ} {p : Point σ}

/-- Nobody has the lock while another thread does. -/
theorem Owned.alone (owned : Owned lock at_) (mine : (at_ t).holds = true) {u : τ}
    (other : u ≠ t) : (at_ u).holds = false := by
  -- The lock names one owner.
  have theirs := owned u
  rw [(owned t).mpr mine] at theirs
  simpa [other.symm] using theirs

/-- Nobody has the lock while it is free. -/
theorem Owned.free (owned : Owned none at_) (u : τ) : (at_ u).holds = false := by
  have theirs := owned u
  simpa using theirs

/-- A broadcast leaves the lock where it is. -/
theorem Owned.wake (owned : Owned lock at_) : Owned lock fun u => (at_ u).wake := by
  -- A thread holds the lock after the broadcast if it did before.
  intro u
  rw [Point.holds_wake]
  exact owned u

variable [DecidableEq τ]

/-- The free lock goes to the thread that takes it. -/
theorem Owned.take (owned : Owned none at_) (holds : p.holds = true) :
    Owned (some t) (update at_ t p) := by
  -- The taker holds the lock now, and nobody else held it before.
  intro u
  by_cases same : u = t
  · simp [same, holds]
  · simpa [same, Ne.symm same] using owned u

/-- A thread that goes on with the lock, or goes on without it, leaves it where it is. -/
theorem Owned.stay (owned : Owned lock at_) (holds : p.holds = (at_ t).holds) :
    Owned lock (update at_ t p) := by
  -- Only the point of the thread itself is replaced, by one that holds as much.
  intro u
  by_cases same : u = t
  · simpa [same, holds] using owned t
  · simpa [same] using owned u

/-- The lock is free once its owner has gone to a point that does not hold it. -/
theorem Owned.leave (owned : Owned lock at_) (mine : (at_ t).holds = true)
    (holds : p.holds = false) : Owned none (update at_ t p) := by
  -- Nobody else can have had it.
  intro u
  by_cases same : u = t
  · simp [same, holds]
  · simp [same, owned.alone mine same]

end Owned

section Kept

variable {allowed : Method σ → Prop} {c d : Monitor τ σ} {t : τ}

/-- Before the first call nobody is anywhere that would matter. -/
theorem kept_initial (state : σ) : Kept allowed (initial state : Monitor τ σ) :=
  ⟨by simp [initial, Owned, Point.holds], by simp [initial, Point.method], nofun, nofun⟩

variable [DecidableEq τ]

/-- The lock changes hands with the points that hold it. -/
theorem Moves.owned (moves : Moves t c d) (owned : Owned c.lock c.at_) : Owned d.lock d.at_ := by
  -- Two steps take the lock, two give it up, and the others leave it.
  cases moves with
  | lock m here free => exact Owned.take (free ▸ owned) rfl
  | change next broadcasts here => exact owned.stay (by simp [here, Point.holds])
  | broadcast next here => exact owned.wake.stay (by simp [here, Point.holds, Point.wake])
  | silent next here => exact owned.stay (by simp [here, Point.holds])
  | pass ready here now => exact owned.stay (by simp [here, Point.holds])
  | sleep ready here not => exact owned.leave (by simp [here, Point.holds]) rfl
  | relock ready here free => exact Owned.take (free ▸ owned) rfl
  | unlock m here => exact owned.leave (by simp [here, Point.holds]) rfl

/-- A thread that goes on is in the middle of the same method, or has returned. -/
theorem Moves.method (moves : Moves t c d) (u : τ) :
    (d.at_ u).method = (c.at_ u).method ∨ (d.at_ u).method = none := by
  -- Only the release of the lock ends a method, and a broadcast moves other threads too.
  by_cases same : u = t
  · subst same
    cases moves with
    | unlock m here => exact .inr (by simp [Point.method])
    | _ => exact .inl (by simp [*, Point.method])
  · cases moves with
    | broadcast next here => exact .inl (by simp [same])
    | _ => exact .inl (by simp [same])

/-- Nothing but a change writes to the state, and whoever makes one has the lock. -/
theorem Moves.state (moves : Moves t c d) :
    d.state = c.state ∨ ∃ next broadcasts, c.at_ t = .inside (.change next broadcasts) ∧
      d = { c with state := next c.state, at_ := update c.at_ t (.changed next broadcasts) } := by
  -- One of the eight steps is the change.
  cases moves with
  | change next broadcasts here => exact .inr ⟨next, broadcasts, here, rfl⟩
  | _ => exact .inl rfl

/-- A thread comes to the end of a wait by its test, and stays there until it goes on itself. -/
theorem Moves.leaving (moves : Moves t c d) {u : τ} {ready : σ → Bool}
    (is : d.at_ u = .leaving (.await ready)) :
    c.at_ u = .leaving (.await ready) ∨ (u = t ∧ ready c.state = true ∧ d.state = c.state) := by
  -- For the thread that went on the step decides; another one can only have been woken.
  by_cases same : u = t
  · subst same
    cases moves with
    | pass r here now =>
      obtain rfl : r = ready := by simpa using is
      exact .inr ⟨rfl, now, rfl⟩
    | _ => simp at is
  · left
    cases moves with
    | broadcast next here =>
      have woken : (c.at_ u).wake = .leaving (.await ready) := by simpa [same] using is
      cases at_ : c.at_ u <;> simp_all [Point.wake]
    | _ => simpa [same] using is

/-- A thread falls asleep by its test, and a broadcast leaves nobody asleep. -/
theorem Moves.sleeping (moves : Moves t c d) {u : τ} {ready : σ → Bool}
    (is : d.at_ u = .sleeping ready) :
    (c.at_ u = .sleeping ready ∧ u ≠ t ∧ ∀ next, c.at_ t ≠ .changed next true) ∨
      (u = t ∧ ready c.state = false ∧ d.state = c.state) := by
  -- For the thread that went on the step decides; another one has slept before.
  by_cases same : u = t
  · subst same
    cases moves with
    | sleep r here not =>
      obtain rfl : r = ready := by simpa using is
      exact .inr ⟨rfl, not, rfl⟩
    | _ => simp at is
  · left
    cases moves with
    | broadcast next here => simp [same, Point.wake_ne_sleeping] at is
    | _ => exact ⟨by simpa [same] using is, same, by simp [*]⟩

/-- A thread that is about to broadcast is still there when another one has gone on. -/
theorem Moves.changed (moves : Moves t c d) {u : τ} (other : u ≠ t) {next : σ → σ}
    (is : c.at_ u = .changed next true) : d.at_ u = .changed next true := by
  -- A broadcast moves sleepers only.
  cases moves with
  | broadcast _ here => simp [other, is, Point.wake]
  | _ => simp [other, is]

/-- Nor does waking up for no reason end a method. -/
theorem Inner.method (inner : Inner t c d) (u : τ) :
    (d.at_ u).method = (c.at_ u).method ∨ (d.at_ u).method = none := by
  -- Whoever wakes up for no reason goes on with its wait.
  cases inner with
  | moves moves => exact moves.method u
  | spurious ready here =>
    left
    by_cases same : u = t
    · simp [same, here, Point.method]
    · simp [same]

/-- A thread that has returned stays where it is until it calls. -/
theorem Inner.idle_of_idle (inner : Inner t c d) {u : τ} (idle : c.at_ u = .idle) :
    d.at_ u = .idle := by
  -- A thread without a method is idle, and gets none.
  apply (Point.method_eq_none _).mp
  rcases inner.method u with same | none_
  · rw [same, idle]
    rfl
  · exact none_

/-- Only a thread that is in the middle of a method goes on by itself. -/
theorem Inner.busy (inner : Inner t c d) : c.at_ t ≠ .idle := by
  -- Every step names the point it starts from, and none of them is the idle one.
  intro idle
  cases inner with
  | moves moves => cases moves <;> simp_all
  | spurious ready here => simp_all

/-- A sleeper does not go on until it is woken. -/
theorem Moves.awake (moves : Moves t c d) (ready : σ → Bool) : c.at_ t ≠ .sleeping ready := by
  -- Every step names the point it starts from, and none of them is a sleeper's.
  intro asleep
  cases moves <;> simp_all

/-- A thread returns by releasing the lock, which leaves the state as it is. -/
theorem Inner.returns (inner : Inner t c d) {u : τ} (out : d.at_ u = .idle) :
    c.at_ u = .idle ∨ (u = t ∧ d.state = c.state ∧ ∃ m, c.at_ u = .leaving m) := by
  -- For the thread that went on the step decides; nothing brings another one back.
  by_cases same : u = t
  · subst same
    cases inner with
    | moves moves =>
      cases moves with
      | unlock m here => exact .inr ⟨rfl, rfl, m, here⟩
      | _ => simp at out
    | spurious ready here => simp at out
  · left
    cases inner with
    | moves moves =>
      cases moves with
      | broadcast next here =>
        have woken : (c.at_ u).wake = .idle := by simpa [same] using out
        cases at_ : c.at_ u <;> simp_all [Point.wake]
      | _ => simpa [same] using out
    | spurious ready here => simpa [same] using out

/-- No other thread gets or loses the lock. -/
theorem Inner.holds_other (inner : Inner t c d) {u : τ} (other : u ≠ t) :
    (d.at_ u).holds = (c.at_ u).holds := by
  -- Other threads stay where they are, or are woken.
  cases inner with
  | moves moves => cases moves <;> simp [other]
  | spurious ready here => simp [other]

/-- A thread that goes on in the middle of a change has the lock then, or it has returned. -/
theorem Inner.holds_of_change (inner : Inner t c d) {next : σ → σ} {broadcasts : Bool}
    (changes : (c.at_ t).method = some (.change next broadcasts)) :
    (d.at_ t).holds = true ∨ d.at_ t = .idle := by
  -- Falling asleep is for waits, so a change keeps the lock up to its release.
  cases inner with
  | moves moves =>
    cases moves with
    | sleep ready here not => simp [here, Point.method] at changes
    | unlock m here => exact .inr (by simp)
    | _ => exact .inl (by simp [Point.holds])
  | spurious ready here => simp [here, Point.method] at changes

/-- Nor does it get behind a change. -/
theorem Inner.behind_other (inner : Inner t c d) {u : τ} (other : u ≠ t) :
    (d.at_ u).behind = (c.at_ u).behind := by
  -- Other threads stay where they are, or are woken.
  cases inner with
  | moves moves => cases moves <;> simp [other]
  | spurious ready here => simp [other]

/-- A thread is behind its change after the step that makes it. -/
theorem Inner.state_of_change (inner : Inner t c d) {next : σ → σ} {broadcasts : Bool}
    (changes : (c.at_ t).method = some (.change next broadcasts))
    (past : (d.at_ t).behind = true ∨ d.at_ t = .idle) :
    d.state = next c.state ∨ ((c.at_ t).behind = true ∧ d.state = c.state) := by
  -- The step of the change is the one case in which the state is another one.
  cases inner with
  | moves moves =>
    cases moves with
    | lock m here free => simp [Point.behind] at past
    | change _ _ here =>
      obtain ⟨rfl, _⟩ := by simpa [here, Point.method] using changes
      exact .inl rfl
    | broadcast _ here => exact .inr ⟨by simp [here, Point.behind], rfl⟩
    | silent _ here => exact .inr ⟨by simp [here, Point.behind], rfl⟩
    | pass ready here now => simp [here, Point.method] at changes
    | sleep ready here not => simp [here, Point.method] at changes
    | relock ready here free => simp [here, Point.method] at changes
    | unlock m here => exact .inr ⟨by simp [here, Point.behind], rfl⟩
  | spurious ready here => simp [here, Point.method] at changes

/-- A thread in the middle of a wait leaves the state as it is. -/
theorem Inner.state_of_await (inner : Inner t c d) {ready : σ → Bool}
    (waits : (c.at_ t).method = some (.await ready)) : d.state = c.state := by
  -- A step that changes the state belongs to a change.
  cases inner with
  | moves moves =>
    rcases moves.state with same | ⟨next, broadcasts, here, _⟩
    · exact same
    · simp [here, Point.method] at waits
  | spurious ready here => rfl

/-- A thread that goes on keeps what holds. -/
theorem Kept.moves (heeds : Heeds allowed) (kept : Kept allowed c) (moves : Moves t c d) :
    Kept allowed d := by
  -- The parts of the invariant one by one; the last one is where a wake-up could be lost.
  refine ⟨moves.owned kept.owned, fun u m is => ?_, fun u ready is => ?_, fun u ready is now => ?_⟩
  · rcases moves.method u with same | none_
    · exact kept.asked u m (same ▸ is)
    · rw [none_] at is
      cases is
  · rcases moves.leaving is with was | ⟨_, now, same⟩
    · -- While one thread is at the end of its wait, no other one changes the state.
      rcases moves.state with same | ⟨next, broadcasts, here, rfl⟩
      · rw [same]
        exact kept.ready u ready was
      · have mine : (c.at_ t).holds = true := by simp [here, Point.holds]
        by_cases same : u = t
        · simp [same] at is
        · have theirs := kept.owned.alone mine same
          simp [was, Point.holds] at theirs
    · rw [same]
      exact now
  · rcases moves.sleeping is with ⟨was, other, silent⟩ | ⟨_, not, same⟩
    · rcases moves.state with same | ⟨next, broadcasts, here, rfl⟩
      · -- The broadcast that was about to come is not the step that was taken.
        obtain ⟨v, change, coming⟩ := kept.awake u ready was (same ▸ now)
        have away : v ≠ t := by
          intro is
          exact silent change (is ▸ coming)
        exact ⟨v, change, moves.changed away coming⟩
      · -- If the change makes the state ready, it has a broadcast.
        have waits := kept.asked u (.await ready) (by simp [was, Point.method])
        have changes := kept.asked t (.change next broadcasts) (by simp [here, Point.method])
        have not : ready c.state = false := by
          by_contra already
          obtain ⟨v, change, coming⟩ := kept.awake u ready was (by simpa using already)
          have theirs := kept.owned.alone (t := t) (u := v) (by simp [here, Point.holds]) (by
            intro is
            simp [is, here] at coming)
          simp [coming, Point.holds] at theirs
        obtain rfl := heeds next broadcasts ready changes waits c.state not now
        exact ⟨t, next, by simp⟩
    · rw [same, not] at now
      cases now

/-- So does a thread that neither gives up the lock nor takes it, and does not fall asleep. -/
theorem Kept.aside (kept : Kept allowed c) {p : Point σ} (outside : (c.at_ t).holds = false)
    (still : p.holds = false) (fits : ∀ m, p.method = some m → allowed m)
    (up : ∀ ready, p ≠ .sleeping ready) : Kept allowed { c with at_ := update c.at_ t p } := by
  -- The other threads are where they were, so each part is asked of this thread alone.
  refine ⟨kept.owned.stay (by rw [still, outside]), fun u m is => ?_, fun u ready is => ?_,
    fun u ready is now => ?_⟩
  · by_cases same : u = t
    · exact fits m (by simpa [same] using is)
    · exact kept.asked u m (by simpa [same] using is)
  · by_cases same : u = t
    · obtain rfl : p = .leaving (.await ready) := by simpa [same] using is
      cases still
    · exact kept.ready u ready (by simpa [same] using is)
  · by_cases same : u = t
    · exact absurd (by simpa [same] using is) (up ready)
    · obtain ⟨v, next, coming⟩ := kept.awake u ready (by simpa [same] using is) now
      have away : v ≠ t := by
        intro is
        simp [← is, coming, Point.holds] at outside
      exact ⟨v, next, by simpa [away] using coming⟩

/-- Whatever a thread does keeps what holds. -/
theorem Kept.step (heeds : Heeds allowed) (kept : Kept allowed c) (step : Step allowed t c d) :
    Kept allowed d := by
  -- Waking up for no reason and calling are steps aside from the lock.
  cases step with
  | inner inner =>
    cases inner with
    | moves moves => exact kept.moves heeds moves
    | spurious ready here =>
      have asked := kept.asked t
      rw [here] at asked
      exact kept.aside (by simp [here, Point.holds]) rfl asked (by simp)
  | call m fits idle =>
    have asked : ∀ m', (Point.entering m).method = some m' → allowed m' := by
      simpa [Point.method] using fits
    exact kept.aside (by simp [idle, Point.holds]) rfl asked (by simp)

/-- What one step keeps holds of everything reachable. -/
theorem Reachable.kept (heeds : Heeds allowed) {state : σ} (reachable : Reachable allowed state c) :
    Kept allowed c := by
  -- The induction follows the steps from the first call on.
  induction reachable with
  | refl => exact kept_initial state
  | tail _ step ih =>
    obtain ⟨t, step⟩ := step
    exact ih.step heeds step

/-- The owner of the lock waits for nobody. -/
theorem Owned.moves (owned : Owned c.lock c.at_) (lock : c.lock = some t) : ∃ d, Moves t c d := by
  -- The owner is at one of the points with the lock, and each of them has a step.
  have holds := (owned t).mp lock
  cases at_ : c.at_ t with
  | inside m =>
    cases m with
    | change next broadcasts => exact ⟨_, .change next broadcasts at_⟩
    | await ready =>
      cases now : ready c.state with
      | true => exact ⟨_, .pass ready at_ now⟩
      | false => exact ⟨_, .sleep ready at_ now⟩
  | changed next broadcasts =>
    cases broadcasts with
    | true => exact ⟨_, .broadcast next at_⟩
    | false => exact ⟨_, .silent next at_⟩
  | leaving m => exact ⟨_, .unlock m at_⟩
  | _ => simp [at_, Point.holds] at holds

/-- If nobody can go on, a thread has returned, or it sleeps for what is not there. -/
theorem Kept.moves_or_sleeps (kept : Kept allowed c) (busy : c.at_ t ≠ .idle) :
    (∃ u d, Moves u c d) ∨ ∃ ready, c.at_ t = .sleeping ready ∧ ready c.state = false := by
  -- If the lock has an owner it goes on; if it is free, whoever is at it does.
  cases lock : c.lock with
  | some u =>
    obtain ⟨d, moves⟩ := kept.owned.moves lock
    exact .inl ⟨u, d, moves⟩
  | none =>
    have free := (lock ▸ kept.owned).free
    cases at_ : c.at_ t with
    | idle => exact absurd at_ busy
    | entering m => exact .inl ⟨t, _, .lock m at_ lock⟩
    | woken ready => exact .inl ⟨t, _, .relock ready at_ lock⟩
    | sleeping ready =>
      refine .inr ⟨ready, rfl, ?_⟩
      by_contra now
      -- A broadcast that is about to come is in the hands of the owner of the lock.
      obtain ⟨u, next, coming⟩ := kept.awake t ready at_ (by simpa using now)
      have holds := free u
      simp [coming, Point.holds] at holds
    | _ =>
      have holds := free t
      simp [at_, Point.holds] at holds

end Kept

section Drains

variable {allowed : Method σ → Prop} {calm : σ → Prop} {c d : Monitor τ σ} {t : τ}

/-- What is waited for is there, and no change that is under way takes it away. -/
structure Settled (calm : σ → Prop) (c : Monitor τ σ) : Prop where
  now : calm c.state
  stays : ∀ t next broadcasts, (c.at_ t).method = some (.change next broadcasts) →
    ∀ s, calm s → calm (next s)
  there : ∀ t ready, (c.at_ t).method = some (.await ready) → ∀ s, calm s → ready s = true

/-- All threads but these have returned. -/
def Busy (busy : Finset τ) (c : Monitor τ σ) : Prop := ∀ t ∉ busy, c.at_ t = .idle

/-- What some threads have got in front of them. -/
def total (busy : Finset τ) (c : Monitor τ σ) : Nat := ∑ t ∈ busy, (c.at_ t).rank

/-- A thread in the middle of a method has at most four steps in front of it. -/
theorem total_le (busy : Finset τ) (c : Monitor τ σ) : total busy c ≤ 4 * busy.card := by
  -- Four for each of them.
  have each : ∀ t ∈ busy, (c.at_ t).rank ≤ 4 := fun t _ => (c.at_ t).rank_le
  calc total busy c ≤ ∑ t ∈ busy, 4 := Finset.sum_le_sum each
    _ = busy.card * 4 := Finset.sum_const_nat fun _ _ => rfl
    _ = 4 * busy.card := Nat.mul_comm ..

variable [DecidableEq τ]

/-- What happens when the listed threads go on one after the other, with nobody calling. -/
inductive Goes : List τ → Monitor τ σ → Monitor τ σ → Prop
  | nil (c : Monitor τ σ) : Goes [] c c
  | cons {c d e : Monitor τ σ} {t : τ} {rest : List τ} (inner : Inner t c d)
      (goes : Goes rest d e) : Goes (t :: rest) c e

/-- While nobody calls, what is settled stays so. -/
theorem Settled.inner (settled : Settled calm c) (inner : Inner t c d) : Settled calm d := by
  -- The methods under way are those from before, so what they do to the state is known.
  have state : calm d.state := by
    cases inner with
    | moves moves =>
      rcases moves.state with same | ⟨next, broadcasts, here, rfl⟩
      · rw [same]
        exact settled.now
      · exact settled.stays t next broadcasts (by simp [here, Point.method]) _ settled.now
    | spurious ready here => exact settled.now
  have was : ∀ u m, (d.at_ u).method = some m → (c.at_ u).method = some m := by
    intro u m is
    rcases inner.method u with same | none_
    · exact same ▸ is
    · rw [none_] at is
      cases is
  exact ⟨state, fun u next broadcasts is => settled.stays u next broadcasts (was u _ is),
    fun u ready is => settled.there u ready (was u _ is)⟩

/-- Whoever goes on has less in front of it then, and nobody else has more. -/
theorem Settled.rank_lt (settled : Settled calm c) (inner : Inner t c d) :
    (d.at_ t).rank < (c.at_ t).rank ∧ ∀ u, (d.at_ u).rank ≤ (c.at_ u).rank := by
  -- Falling asleep would be the one step back.
  have less : (d.at_ t).rank < (c.at_ t).rank := by
    cases inner with
    | moves moves =>
      cases moves with
      | lock m here free => cases m <;> simp [here, Point.rank]
      | sleep ready here not =>
        -- Nobody falls asleep while all that is waited for is there.
        have now := settled.there t ready (by simp [here, Point.method]) c.state settled.now
        rw [not] at now
        cases now
      | _ => simp [*, Point.rank]
    | spurious ready here => simp [here, Point.rank]
  refine ⟨less, fun u => ?_⟩
  by_cases same : u = t
  · subst same
    exact less.le
  · cases inner with
    | moves moves =>
      cases moves with
      | broadcast next here => simpa [same] using Point.rank_wake_le (c.at_ u)
      | _ => simp [same]
    | spurious ready here => simp [same]

/-- All that the busy threads have in front of them shrinks with every step, and no other joins. -/
theorem Busy.inner {busy : Finset τ} (within : Busy busy c) (settled : Settled calm c)
    (inner : Inner t c d) : Busy busy d ∧ total busy d < total busy c := by
  -- Whoever goes on is one of them, as an idle thread has nothing in front of it.
  obtain ⟨less, others⟩ := settled.rank_lt inner
  constructor
  · intro u outside
    have none_ := others u
    rw [within u outside] at none_
    cases at_ : d.at_ u with
    | idle => rfl
    | entering m => cases m <;> simp [at_, Point.rank] at none_
    | inside m => cases m <;> simp [at_, Point.rank] at none_
    | _ => simp [at_, Point.rank] at none_
  · have member : t ∈ busy := by
      by_contra outside
      rw [within t outside] at less
      cases less
    exact Finset.sum_lt_sum (fun u _ => others u) ⟨t, member, less⟩

/-- As long as somebody has not returned, somebody can go on without waking up for no reason. -/
theorem Settled.moves (settled : Settled calm c) (kept : Kept allowed c) (busy : c.at_ t ≠ .idle) :
    ∃ u d, Moves u c d := by
  -- A sleeper would sleep for what is there.
  rcases kept.moves_or_sleeps busy with goes | ⟨ready, here, not⟩
  · exact goes
  · have now := settled.there t ready (by simp [here, Point.method]) c.state settled.now
    rw [not] at now
    cases now

/-- A thread goes on no more often than it has got in front of it. -/
theorem Settled.count_le (settled : Settled calm c) {order : List τ} (goes : Goes order c d)
    (t : τ) : order.count t ≤ (c.at_ t).rank := by
  -- The induction is on the order: who goes on has less in front of it, and nobody has more.
  induction goes with
  | nil c => exact Nat.zero_le _
  | @cons c d e u rest inner goes ih =>
    have rest_le := ih (settled.inner inner)
    obtain ⟨less, others⟩ := settled.rank_lt inner
    by_cases same : u = t
    · subst same
      rw [List.count_cons_self]
      omega
    · rw [List.count_cons_of_ne same]
      exact rest_le.trans (others t)

/--
Once what is waited for is there to stay, every thread returns.

Whoever goes on and in whatever order, nobody can go on for ever, and nobody gets stuck before all
have returned.
-/
theorem Settled.drains (heeds : Heeds allowed) (settled : Settled calm c) (kept : Kept allowed c)
    {busy : Finset τ} (within : Busy busy c) {order : List τ} (goes : Goes order c d) :
    order.length ≤ total busy c ∧ ((∀ u e, ¬ Moves u d e) → ∀ u, d.at_ u = .idle) := by
  -- The induction is on the order; what is in front of all of them shrinks with every step.
  induction goes with
  | nil c =>
    refine ⟨Nat.zero_le _, fun stuck u => ?_⟩
    by_contra busy
    obtain ⟨v, e, moves⟩ := settled.moves kept busy
    exact stuck v e moves
  | cons inner goes ih =>
    obtain ⟨still, less⟩ := within.inner settled inner
    obtain ⟨bound, ends⟩ := ih (settled.inner inner) (kept.step heeds (.inner inner)) still
    refine ⟨?_, ends⟩
    rw [List.length_cons]
    omega

end Drains

end Monitor

/-- What is seen of a thread from outside: it calls a method, or it returns from one. -/
inductive Event (τ σ : Type) where
  | called (t : τ) (method : Method σ)
  | returned (t : τ) (method : Method σ)

/-- What a step shows of its thread, by the method the thread is in the middle of on either side. -/
def Event.between {τ σ : Type} (t : τ) : Option (Method σ) → Option (Method σ) → List (Event τ σ)
  | none, some m => [.called t m]
  | some m, none => [.returned t m]
  | _, _ => []

/-- A step that leaves its thread in the same method is not seen. -/
@[simp] theorem Event.between_self {τ σ : Type} (t : τ) (m : Option (Method σ)) :
    Event.between t m m = [] := by
  cases m <;> rfl

/-- A return is seen when its thread is in the middle of the method before and of none behind. -/
theorem Event.returned_mem_between {τ σ : Type} {t u : τ} {m : Method σ}
    {before behind : Option (Method σ)} (seen : .returned u m ∈ Event.between t before behind) :
    u = t ∧ before = some m ∧ behind = none := by
  -- The cases are those of the two methods; only one of them shows a return.
  cases before with
  | none => cases behind <;> simp [between] at seen
  | some one =>
    cases behind with
    | none =>
      obtain ⟨rfl, rfl⟩ := by simpa [between] using seen
      exact ⟨rfl, rfl, rfl⟩
    | some two => simp [between] at seen

section Traced

variable {τ σ μ ν : Type} {step : τ → μ → μ → Prop} {method : μ → τ → Option (Method σ)}
  {start c : μ}

/-- What the steps of threads lead to, with the calls and the returns in the order they came in. -/
inductive Traced (step : τ → μ → μ → Prop) (method : μ → τ → Option (Method σ)) (start : μ) :
    List (Event τ σ) → μ → Prop
  | start : Traced step method start [] start
  | step {history : List (Event τ σ)} {c d : μ} {t : τ}
      (before : Traced step method start history c) (goes : step t c d) :
      Traced step method start (history ++ Event.between t (method c t) (method d t)) d

/-- Whatever steps lead to, they lead there with some calls and returns. -/
theorem traced_of_steps
    (steps : Relation.ReflTransGen (fun before after => ∃ t, step t before after) start c) :
    ∃ history, Traced step method start history c := by
  -- The induction is on the steps; each adds what it shows to the history.
  induction steps with
  | refl => exact ⟨[], .start⟩
  | tail _ goes ih =>
    obtain ⟨t, goes⟩ := goes
    obtain ⟨history, before⟩ := ih
    exact ⟨_, before.step goes⟩

/-- And the calls and returns are those of steps. -/
theorem Traced.steps {history : List (Event τ σ)} (run : Traced step method start history c) :
    Relation.ReflTransGen (fun before after => ∃ t, step t before after) start c := by
  -- The induction is on the run, and forgets the history.
  induction run with
  | start => exact .refl
  | step _ goes ih => exact ih.tail ⟨_, goes⟩

/--
A machine has no histories but those of another one that takes its steps.

Seen through `view`, every step is a step of the same thread there, or is not seen at all; and a
thread is in the middle of the same method on both sides.
-/
theorem Traced.simulates {other : τ → ν → ν → Prop} {theirs : ν → τ → Option (Method σ)}
    (view : μ → ν) (alike : ∀ c t, theirs (view c) t = method c t)
    (seen : ∀ t c d, step t c d → other t (view c) (view d) ∨ view d = view c)
    {history : List (Event τ σ)} (run : Traced step method start history c) :
    Traced other theirs (view start) history (view c) := by
  -- The induction is on the run, and each step shows the same of its thread on both sides.
  induction run with
  | start => exact .start
  | @step history c d t before goes ih =>
    rcases seen t c d goes with taken | same
    · have next := ih.step taken
      rw [alike c t, alike d t] at next
      exact next
    · have still : method d t = method c t := by rw [← alike d t, ← alike c t, same]
      rw [still, Event.between_self, List.append_nil, same]
      exact ih

end Traced

/-- How far a thread is to those who see neither the lock nor the condition variable. -/
inductive Stage (σ : Type) where
  | idle
  | asked (method : Method σ)
  | served (method : Method σ)

/-- What a point inside comes to outside: before or behind the moment that counts. -/
def Point.stage {σ : Type} : Point σ → Stage σ
  | idle => .idle
  | entering m | inside m => .asked m
  | sleeping ready | woken ready => .asked (.await ready)
  | changed next broadcasts => .served (.change next broadcasts)
  | leaving m => .served m

/-- The method a thread is in the middle of. -/
def Stage.method {σ : Type} : Stage σ → Option (Method σ)
  | idle => none
  | asked m | served m => some m

/-- Outside and inside, a thread is in the middle of the same method. -/
@[simp] theorem Point.method_stage {σ : Type} (p : Point σ) : p.stage.method = p.method := by
  cases p <;> rfl

/-- A monitor in which every method happens at one moment. -/
structure Atomic (τ σ : Type) where
  state : σ
  at_ : τ → Stage σ

namespace Atomic

variable {τ σ : Type} [DecidableEq τ]

/-- A wait happens at a moment at which the state is ready. -/
inductive Step (allowed : Method σ → Prop) : τ → Atomic τ σ → Atomic τ σ → Prop
  | call {a : Atomic τ σ} {t : τ} (m : Method σ) (fits : allowed m) (idle : a.at_ t = .idle) :
      Step allowed t a { a with at_ := update a.at_ t (.asked m) }
  | change {a : Atomic τ σ} {t : τ} (next : σ → σ) (broadcasts : Bool)
      (here : a.at_ t = .asked (.change next broadcasts)) :
      Step allowed t a { a with
        state := next a.state
        at_ := update a.at_ t (.served (.change next broadcasts)) }
  | pass {a : Atomic τ σ} {t : τ} (ready : σ → Bool) (here : a.at_ t = .asked (.await ready))
      (now : ready a.state = true) :
      Step allowed t a { a with at_ := update a.at_ t (.served (.await ready)) }
  | return_ {a : Atomic τ σ} {t : τ} (m : Method σ) (here : a.at_ t = .served m) :
      Step allowed t a { a with at_ := update a.at_ t .idle }

/-- What threads can bring about there, with their calls and returns. -/
def Run (allowed : Method σ → Prop) (state : σ) : List (Event τ σ) → Atomic τ σ → Prop :=
  Traced (Step allowed) (fun a t => (a.at_ t).method) ⟨state, fun _ => .idle⟩

end Atomic

namespace Monitor

variable {τ σ : Type}

def atomic (c : Monitor τ σ) : Atomic τ σ := ⟨c.state, fun t => (c.at_ t).stage⟩

section Atomic

variable {allowed : Method σ → Prop} {c d : Monitor τ σ} {t : τ} [DecidableEq τ]

/-- From outside, nobody sees a broadcast. -/
theorem stage_wake (p : Point σ) : p.wake.stage = p.stage := by cases p <;> rfl

/-- When one thread goes on, only its stage changes. -/
theorem atomic_update (state : σ) (lock : Option τ) (at_ : τ → Point σ) (t : τ) (p : Point σ) :
    (Monitor.mk state lock (update at_ t p)).atomic =
      ⟨state, update (fun u => (at_ u).stage) t p.stage⟩ := by
  -- Only the stage of the thread itself can be another one.
  have stages : (fun u => (update at_ t p u).stage) =
      update (fun u => (at_ u).stage) t p.stage := by
    funext u
    by_cases same : u = t
    · simp [same]
    · simp [same]
  exact congrArg (Atomic.mk state) stages

/-- Every step is one of the monitor in which methods happen at one moment, or is not seen there. -/
theorem Step.atomic (step : Step allowed t c d) :
    Atomic.Step allowed t c.atomic d.atomic ∨ d.atomic = c.atomic := by
  -- Between the two moments a step leaves the stage of its thread as it is.
  have stays : ∀ (lock : Option τ) (p : Point σ), p.stage = (c.at_ t).stage →
      (Monitor.mk c.state lock (update c.at_ t p)).atomic = c.atomic := by
    intro lock p same
    rw [atomic_update, same]
    exact congrArg (Atomic.mk c.state) (Function.update_eq_self t fun u => (c.at_ u).stage)
  have seen : c.atomic.at_ t = (c.at_ t).stage := rfl
  cases step with
  | call m fits idle =>
    left
    rw [atomic_update]
    exact .call m fits (by rw [seen, idle]; rfl)
  | inner inner =>
    cases inner with
    | spurious ready here => exact .inr (stays _ _ (by rw [here]; rfl))
    | moves moves =>
      cases moves with
      | lock m here free => exact .inr (stays _ _ (by rw [here]; rfl))
      | sleep ready here not => exact .inr (stays _ _ (by rw [here]; rfl))
      | relock ready here free => exact .inr (stays _ _ (by rw [here]; rfl))
      | silent next here => exact .inr (stays _ _ (by rw [here]; rfl))
      | broadcast next here =>
        right
        have woken : (fun u => (c.at_ u).wake.stage) = fun u => (c.at_ u).stage := by
          simp [stage_wake]
        rw [atomic_update, woken, ← stays c.lock (.leaving (.change next true)) (by rw [here]; rfl),
          atomic_update]
      | change next broadcasts here =>
        left
        rw [atomic_update]
        exact .change next broadcasts (by rw [seen, here]; rfl)
      | pass ready here now =>
        left
        rw [atomic_update]
        exact .pass ready (by rw [seen, here]; rfl) now
      | unlock m here =>
        left
        rw [atomic_update]
        exact .return_ m (by rw [seen, here]; rfl)

/-- What threads calling methods of a kind can bring about, with their calls and returns. -/
def Run (allowed : Method σ → Prop) (state : σ) : List (Event τ σ) → Monitor τ σ → Prop :=
  Traced (Step allowed) (fun c t => (c.at_ t).method) (initial state)

/-- Every reachable monitor is at the end of a run. -/
theorem Reachable.run {state : σ} (reachable : Reachable allowed state c) :
    ∃ history, Run allowed state history c :=
  traced_of_steps reachable

/-- And nothing but what is reachable. -/
theorem Run.reachable {state : σ} {history : List (Event τ σ)} (run : Run allowed state history c) :
    Reachable allowed state c :=
  run.steps

/-- A thread is in the middle of what it has called. -/
theorem Run.called {state : σ} {history : List (Event τ σ)} (run : Run allowed state history c)
    {t : τ} {m : Method σ} (here : (c.at_ t).method = some m) : .called t m ∈ history := by
  -- The induction is on the run: a method begins with its call, and no other step begins one.
  induction run with
  | start => simp [initial, Point.method] at here
  | @step history c d u _ goes ih =>
    cases goes with
    | inner inner =>
      rcases inner.method t with same | none_
      · exact List.mem_append_left _ (ih (same ▸ here))
      · rw [none_] at here
        cases here
    | call m' fits idle =>
      by_cases same : t = u
      · subst same
        obtain rfl : m' = m := by simpa [Point.method] using here
        simp [idle, Point.method, Event.between]
      · exact List.mem_append_left _ (ih (by simpa [same] using here))

/--
Whatever is seen of a run could have been seen where every method happens at one moment.

The calls and returns are the same and come in the same order, and the run there ends with the same
state, and with every thread before or behind its moment.
-/
theorem Run.atomic {state : σ} {history : List (Event τ σ)} (run : Run allowed state history c) :
    Atomic.Run allowed state history c.atomic := by
  -- Inside and outside alike, a thread is in the middle of the method it called.
  have alike : ∀ (c : Monitor τ σ) (t : τ), (c.atomic.at_ t).method = (c.at_ t).method :=
    fun c t => Point.method_stage (c.at_ t)
  have seen : ∀ (t : τ) (c d : Monitor τ σ), Step allowed t c d →
      Atomic.Step allowed t c.atomic d.atomic ∨ d.atomic = c.atomic := fun _ _ _ => Step.atomic
  exact Traced.simulates Monitor.atomic alike seen run

end Atomic

end Monitor

end Grouper
