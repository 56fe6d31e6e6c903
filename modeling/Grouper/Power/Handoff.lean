import Grouper.Power.Barrier

/-!
A result that the looper leaves in the frame of a caller, who waits for it at a barrier there.

In `createPmQosHandle` the caller waits once, for the descriptor. While the looper starts, it is
waited for twice, in the constructor of `PokeHandler` and in `common_power_open`, and the result is
`mLooper`.
-/

namespace Grouper.Power

open Function (update)

inductive Party where
  | caller
  | looper
  deriving DecidableEq, Repr

/-- How far the caller is. -/
inductive Waiter (ν : Type) where
  | starting
  /-- Outside of the barrier, with so many waits still to make. -/
  | between (left : Nat)
  /-- Inside `wait`. -/
  | waiting (left : Nat)
  /-- With what it read, and its frame gone. -/
  | returned (value : Option ν)

/-- How far the looper is with the call. -/
inductive Runner where
  | away
  | running
  | stored
  /-- Inside `open`. -/
  | opening
  | finished
  /-- `mWorker->run` made no thread. -/
  | absent
  /-- `Looper::prepare` failed, and the thread is given up. -/
  | failed
  deriving DecidableEq, Repr

/-- The frame of the caller, and how far the two are. -/
structure Handoff (ν : Type) where
  done : Monitor Party BarrierState
  /-- Nothing was stored yet, or the result. -/
  ret : Option ν
  caller : Waiter ν
  looper : Runner

namespace Handoff

variable {ν : Type}

/-- The caller enters with a closed barrier, and a result that is not set. -/
def initial : Handoff ν := ⟨.initial .closed, none, .starting, .away⟩

/-- The looper has got out of `open`. -/
def Opened (s : Handoff ν) : Prop :=
  s.done.at_ .looper = .idle ∧ (s.looper = .opening ∨ s.looper = .finished)

/-- One of the two goes on, with the first wait repeated so many times. -/
inductive Moves (again : Nat) (fallible : Prop) : Handoff ν → Handoff ν → Prop
  /-- `pushEvent`, or `mWorker->run`. -/
  | start {s : Handoff ν} (here : s.caller = .starting) :
      Moves again fallible s { s with caller := .between (again + 1), looper := .running }
  /-- `mWorker->run` fails. Its result is not looked at, so the caller goes on to wait. -/
  | startless {s : Handoff ν} (may : fallible) (here : s.caller = .starting) :
      Moves again fallible s { s with caller := .between (again + 1), looper := .absent }
  | store {s : Handoff ν} (value : ν) (here : s.looper = .running) :
      Moves again fallible s { s with ret := some value, looper := .stored }
  | fail {s : Handoff ν} (may : fallible) (here : s.looper = .running) :
      Moves again fallible s { s with looper := .failed }
  /-- `done->open()` is called. -/
  | open_ {s : Handoff ν} (here : s.looper = .stored) :
      Moves again fallible s { s with
        looper := .opening
        done := { s.done with at_ := update s.done.at_ .looper (.entering Barrier.open_) } }
  /-- `done.wait()` is called. -/
  | wait {s : Handoff ν} (left : Nat) (here : s.caller = .between (left + 1)) :
      Moves again fallible s { s with
        caller := .waiting left
        done := { s.done with at_ := update s.done.at_ .caller (.entering Barrier.wait) } }
  | inside {s : Handoff ν} {d : Monitor Party BarrierState} (t : Party)
      (moves : Monitor.Moves t s.done d) : Moves again fallible s { s with done := d }
  | opened {s : Handoff ν} (here : s.looper = .opening) (out : s.done.at_ .looper = .idle) :
      Moves again fallible s { s with looper := .finished }
  | waited {s : Handoff ν} (left : Nat) (here : s.caller = .waiting left)
      (out : s.done.at_ .caller = .idle) :
      Moves again fallible s { s with caller := .between left }
  | return_ {s : Handoff ν} (here : s.caller = .between 0) :
      Moves again fallible s { s with caller := .returned s.ret }

/-- One of the two goes on, or `cv.wait` wakes up for no reason. -/
inductive Step (again : Nat) (fallible : Prop) : Handoff ν → Handoff ν → Prop
  | moves {s u : Handoff ν} (moves : Moves again fallible s u) : Step again fallible s u
  | spurious {s : Handoff ν} {d : Monitor Party BarrierState} (t : Party)
      (inner : Monitor.Inner t s.done d) : Step again fallible s { s with done := d }

/-- What can come of a call. -/
def Reachable (again : Nat) (fallible : Prop) (s : Handoff ν) : Prop :=
  Relation.ReflTransGen (Step again fallible) initial s

/-- A call of `createPmQosHandle`, for which there is always a descriptor or -1 to store. -/
abbrev CreatePmQosHandle (s : Handoff Int) : Prop := Reachable 0 False s

/-- The start of the looper by `common_power_open`, where `readyToRun` stores `mLooper`. -/
abbrev ReadyToRun (s : Handoff ν) : Prop := Reachable 1 True s

/-- What holds of a call all the time. -/
structure Kept (again : Nat) (fallible : Prop) (s : Handoff ν) : Prop where
  barrier : s.done.Kept Barrier.Offered
  /-- Each of the two is in the barrier in its own method only. -/
  looperIn : s.done.at_ .looper = .idle ∨
    (s.looper = .opening ∧ (s.done.at_ .looper).method = some Barrier.open_)
  callerIn : s.done.at_ .caller = .idle ∨
    ((∃ left, s.caller = .waiting left) ∧ (s.done.at_ .caller).method = some Barrier.wait)
  starts : s.caller = .starting ↔ s.looper = .away
  /-- The result is stored before `open` is called. -/
  stored : s.looper = .stored ∨ s.looper = .opening ∨ s.looper = .finished → s.ret.isSome = true
  /-- The barrier is open only behind the change that `open` makes. -/
  opens : s.done.state = .opened → s.Opened ∨ (s.done.at_ .looper).holds = true
  behind : s.Opened ∨ (s.done.at_ .looper).behind = true → s.done.state = .opened
  /-- Whoever got through a wait did so behind the whole of `open`. -/
  through : ∀ left, (s.caller = .waiting left ∧ s.done.at_ .caller = .idle) ∨
    (s.caller = .between left ∧ left ≤ again) → s.Opened
  returned : ∀ value, s.caller = .returned value → s.Opened ∧ value = s.ret
  fails : s.looper = .absent ∨ s.looper = .failed → fallible

section Kept

variable {again : Nat} {fallible : Prop} {s u : Handoff ν}

/-- Before the call nothing is stored, and the barrier is closed. -/
theorem kept_initial : Kept again fallible (initial : Handoff ν) := by
  -- Nobody is at the barrier yet.
  have barrier : (Monitor.initial .closed : Monitor Party BarrierState).Kept Barrier.Offered :=
    Monitor.kept_initial _
  refine ⟨barrier, .inl rfl, .inl rfl, ?_, ?_, nofun, ?_, ?_, nofun, ?_⟩
  · simp [initial]
  · simp [initial]
  · simp [initial, Opened, Monitor.initial, Point.behind]
  · simp [initial]
  · simp [initial]

/-- Once the looper is out of `open`, nothing in the barrier brings it back. -/
theorem Opened.inside (opened : s.Opened) {d : Monitor Party BarrierState} {t : Party}
    (inner : Monitor.Inner t s.done d) : Opened { s with done := d } :=
  ⟨inner.idle_of_idle opened.1, opened.2⟩

/-- In the middle of `open` or `wait`, either of the two keeps what holds. -/
theorem Kept.inside (kept : Kept again fallible s) {d : Monitor Party BarrierState} {t : Party}
    (inner : Monitor.Inner t s.done d) : Kept again fallible { s with done := d } where
  barrier := kept.barrier.step Barrier.heeds_offered (.inner inner)
  looperIn := by
    rcases kept.looperIn with idle | ⟨opening, method⟩
    · exact .inl (inner.idle_of_idle idle)
    · rcases inner.method .looper with same | none_
      · exact .inr ⟨opening, same.trans method⟩
      · exact .inl ((Point.method_eq_none _).mp none_)
  callerIn := by
    rcases kept.callerIn with idle | ⟨waiting, method⟩
    · exact .inl (inner.idle_of_idle idle)
    · rcases inner.method .caller with same | none_
      · exact .inr ⟨waiting, same.trans method⟩
      · exact .inl ((Point.method_eq_none _).mp none_)
  starts := kept.starts
  stored := kept.stored
  opens := by
    intro opened
    cases t with
    | looper =>
      -- The looper goes on inside of `open`, up to where it gets out of it.
      rcases kept.looperIn with idle | ⟨opening, method⟩
      · exact absurd idle inner.busy
      · rcases inner.holds_of_change method with holds | out
        · exact .inr holds
        · exact .inl ⟨out, .inl opening⟩
    | caller =>
      rcases kept.callerIn with idle | ⟨waiting, method⟩
      · exact absurd idle inner.busy
      · rcases kept.opens (inner.state_of_await method ▸ opened) with was | holds
        · exact .inl (was.inside inner)
        · exact .inr ((inner.holds_other (by decide)).trans holds)
  through := by
    intro left past
    rcases past with ⟨waiting, out⟩ | between
    · rcases inner.returns out with idle | ⟨rfl, _, m, here⟩
      · exact (kept.through left (.inl ⟨waiting, idle⟩)).inside inner
      · -- The wait is left while the barrier is open, and the caller still has the lock.
        have wait : m = Barrier.wait := by
          rcases kept.callerIn with idle | ⟨_, method⟩
          · rw [here] at idle
            cases idle
          · simpa [here, Point.method] using method
        have now := kept.barrier.ready .caller Barrier.isOpen (by rw [here, wait]; rfl)
        have alone := kept.barrier.owned.alone (t := .caller) (u := .looper)
          (by simp [here, Point.holds]) (by decide)
        rcases kept.opens ((Barrier.isOpen_iff _).mp now) with opened | holds
        · exact opened.inside inner
        · rw [alone] at holds
          cases holds
    · exact (kept.through left (.inr between)).inside inner
  returned := by
    intro value is
    obtain ⟨opened, same⟩ := kept.returned value is
    exact ⟨opened.inside inner, same⟩
  fails := kept.fails
  behind := by
    intro past
    cases t with
    | looper =>
      rcases kept.looperIn with idle | ⟨opening, method⟩
      · exact absurd idle inner.busy
      · rcases inner.state_of_change method (past.symm.imp_right And.left) with now | ⟨was, same⟩
        · exact now
        · exact same.trans (kept.behind (.inr was))
    | caller =>
      rcases kept.callerIn with idle | ⟨waiting, method⟩
      · exact absurd idle inner.busy
      · -- The caller neither changes the state nor moves the looper.
        refine (inner.state_of_await method).trans (kept.behind ?_)
        have away : Party.looper ≠ .caller := by decide
        rcases past with ⟨out, opened⟩ | behind
        · rcases inner.returns out with idle | ⟨same, _⟩
          · exact .inl ⟨idle, opened⟩
          · exact absurd same away
        · exact .inr ((inner.behind_other away).symm.trans behind)

/-- Before `open` is called, the barrier is closed and the looper is not in it. -/
theorem Kept.before (kept : Kept again fallible s) (uncalled : s.looper ≠ .opening)
    (unfinished : s.looper ≠ .finished) : s.done.at_ .looper = .idle ∧ s.done.state ≠ .opened ∧
      ¬ s.Opened := by
  -- Only the looper opens the barrier, and not before it has come to the call.
  have not : ¬ s.Opened := by
    rintro ⟨_, opening | finished⟩
    · exact uncalled opening
    · exact unfinished finished
  have idle : s.done.at_ .looper = .idle := by
    rcases kept.looperIn with idle | ⟨opening, _⟩
    · exact idle
    · exact absurd opening uncalled
  refine ⟨idle, fun opened => ?_, not⟩
  rcases kept.opens opened with out | holds
  · exact not out
  · simp [idle, Point.holds] at holds

/-- A caller that is not in the middle of a wait is not in the barrier. -/
theorem Kept.outside (kept : Kept again fallible s)
    (elsewhere : ∀ left, s.caller ≠ .waiting left) : s.done.at_ .caller = .idle := by
  -- The caller is at the barrier only while it waits.
  rcases kept.callerIn with idle | ⟨⟨left, waiting⟩, _⟩
  · exact idle
  · exact absurd waiting (elsewhere left)

/-- The caller begins to wait, with a looper that runs or with none. -/
theorem Kept.begins (kept : Kept again fallible s) (here : s.caller = .starting) {looper : Runner}
    (first : looper = .running ∨ looper = .absent) (fails : looper = .absent → fallible) :
    Kept again fallible { s with caller := .between (again + 1), looper := looper } := by
  have away := kept.starts.mp here
  obtain ⟨idle, closed, _⟩ := kept.before (by simp [away]) (by simp [away])
  -- In either case nothing is stored yet, and the looper is not at the barrier.
  have early : looper ≠ .away ∧ looper ≠ .stored ∧ looper ≠ .opening ∧ looper ≠ .finished ∧
      looper ≠ .failed := by
    rcases first with rfl | rfl <;> decide
  obtain ⟨started, unstored, unopened, unfinished, unfailed⟩ := early
  exact { kept with
    looperIn := .inl idle
    callerIn := .inl (kept.outside (by simp [here]))
    starts := by simp [started]
    stored := by simp [unstored, unopened, unfinished]
    opens := fun opened => absurd opened closed
    behind := by simp [Opened, idle, Point.behind, unopened, unfinished]
    through := by
      intro left past
      simp at past
      omega
    fails := by simpa [unfailed] using fails
    returned := by simp }

/-- Whatever the two do keeps what holds. -/
theorem Kept.moves (kept : Kept again fallible s) (moves : Moves again fallible s u) :
    Kept again fallible u := by
  -- Up to the call of `open` the barrier is closed, and behind it nothing closes it again.
  cases moves with
  | inside t moves => exact kept.inside (.moves moves)
  | start here => exact kept.begins here (.inl rfl) (by simp)
  | startless may here => exact kept.begins here (.inr rfl) fun _ => may
  | store value here =>
    obtain ⟨idle, closed, not⟩ := kept.before (by simp [here]) (by simp [here])
    have started : s.caller ≠ .starting := by simp [kept.starts, here]
    exact { kept with
      looperIn := .inl idle
      starts := by simpa using started
      stored := by simp
      opens := fun opened => absurd opened closed
      behind := by simp [Opened, idle, Point.behind]
      through := fun left past => absurd (kept.through left past) not
      fails := by simp
      returned := fun value is => absurd (kept.returned value is).1 not }
  | fail may here =>
    obtain ⟨idle, closed, not⟩ := kept.before (by simp [here]) (by simp [here])
    have started : s.caller ≠ .starting := by simp [kept.starts, here]
    exact { kept with
      looperIn := .inl idle
      starts := by simpa using started
      stored := by simp
      opens := fun opened => absurd opened closed
      behind := by simp [Opened, idle, Point.behind]
      through := fun left past => absurd (kept.through left past) not
      fails := fun _ => may
      returned := fun value is => absurd (kept.returned value is).1 not }
  | open_ here =>
    obtain ⟨idle, closed, not⟩ := kept.before (by simp [here]) (by simp [here])
    have started : s.caller ≠ .starting := by simp [kept.starts, here]
    have barrier := kept.barrier.step Barrier.heeds_offered
      (.call (t := .looper) Barrier.open_ (.inl rfl) idle)
    exact { kept with
      barrier := barrier
      looperIn := .inr ⟨rfl, by simp [Point.method]⟩
      callerIn := by simpa using kept.callerIn
      starts := by simpa using started
      stored := fun _ => kept.stored (.inl here)
      opens := fun opened => absurd opened closed
      behind := by simp [Opened, Point.behind]
      through := fun left past => absurd (kept.through left (by simpa using past)) not
      fails := by simp
      returned := fun value is => absurd (kept.returned value is).1 not }
  | wait left here =>
    have idle := kept.outside (by simp [here])
    have started : s.looper ≠ .away := by simp [← kept.starts, here]
    have barrier := kept.barrier.step Barrier.heeds_offered
      (.call (t := .caller) Barrier.wait (.inr (.inr rfl)) idle)
    exact { kept with
      barrier := barrier
      looperIn := by simpa using kept.looperIn
      callerIn := .inr ⟨⟨left, rfl⟩, by simp [Point.method]⟩
      starts := by simpa using started
      opens := by simpa [Opened] using kept.opens
      behind := by simpa [Opened] using kept.behind
      through := by simp
      returned := by simp }
  | opened here out =>
    have started : s.caller ≠ .starting := by simp [kept.starts, here]
    have still : Opened { s with looper := .finished } := ⟨out, .inr rfl⟩
    exact { kept with
      looperIn := .inl out
      starts := by simpa using started
      stored := fun _ => kept.stored (.inr (.inl here))
      opens := fun _ => .inl still
      behind := fun _ => kept.behind (.inl ⟨out, .inl here⟩)
      fails := by simp
      through := fun _ _ => still
      returned := fun value is => ⟨still, (kept.returned value is).2⟩ }
  | waited left here out =>
    have started : s.looper ≠ .away := by simp [← kept.starts, here]
    exact { kept with
      callerIn := .inl out
      starts := by simpa using started
      through := fun _ _ => kept.through left (.inl ⟨here, out⟩)
      returned := by simp }
  | return_ here =>
    have started : s.looper ≠ .away := by simp [← kept.starts, here]
    exact { kept with
      callerIn := .inl (kept.outside (by simp [here]))
      starts := by simpa using started
      through := by simp
      returned := by
        intro value is
        obtain rfl : s.ret = value := by simpa using is
        exact ⟨kept.through 0 (.inr ⟨here, Nat.zero_le again⟩), rfl⟩ }

/-- Whatever happens keeps it. -/
theorem Kept.step (kept : Kept again fallible s) (step : Step again fallible s u) :
    Kept again fallible u := by
  -- Waking up for no reason happens at the barrier.
  cases step with
  | moves moves => exact kept.moves moves
  | spurious t inner => exact kept.inside inner

/-- What one step keeps holds of everything reachable. -/
theorem Reachable.kept (reachable : Reachable again fallible s) : Kept again fallible s := by
  -- The induction is on the steps.
  induction reachable with
  | refl => exact kept_initial
  | tail _ step ih => exact ih.step step

/-- When the caller has returned, neither of the two is in the barrier. -/
theorem Kept.quiet (kept : Kept again fallible s) {value : Option ν}
    (returned : s.caller = .returned value) (t : Party) (d : Monitor Party BarrierState) :
    ¬ Monitor.Inner t s.done d := by
  -- The looper is behind the barrier, and the caller is not at it.
  intro inner
  cases t with
  | looper => exact inner.busy (kept.returned value returned).1.1
  | caller => exact inner.busy (kept.outside (by simp [returned]))

/-- Behind a returned caller nothing goes on that touches its frame. -/
theorem Kept.untouched (kept : Kept again fallible s) {value : Option ν}
    (returned : s.caller = .returned value) (step : Step again fallible s u) :
    u.done = s.done ∧ u.ret = s.ret ∧ u.caller = s.caller := by
  -- What is left is the looper's own, and touches neither the barrier nor the result.
  obtain ⟨⟨_, past⟩, _⟩ := kept.returned value returned
  have quiet := kept.quiet returned
  cases step with
  | spurious t inner => exact absurd inner (quiet t _)
  | moves moves =>
    cases moves with
    | inside t moves => exact absurd (.moves moves) (quiet t _)
    | fail may here => exact ⟨rfl, rfl, rfl⟩
    | opened here out => exact ⟨rfl, rfl, rfl⟩
    | start here => simp [returned] at here
    | startless may here => simp [returned] at here
    | store value here => simp [here] at past
    | open_ here => simp [here] at past
    | wait left here => simp [returned] at here
    | waited left here out => simp [returned] at here
    | return_ here => simp [returned] at here

/--
The caller gets what the looper stored, and its frame is its own again when it returns.

However the two are interleaved, and however often the wait wakes up for no reason: the result was
stored before the caller reads it, and from its return on nothing touches the barrier or the result
any more, so the frame that holds them may go.
-/
theorem returned_of_reachable (reachable : Reachable again fallible s) {value : Option ν}
    (returned : s.caller = .returned value) :
    (∃ result, value = some result ∧ s.ret = some result) ∧
      ∀ u, Relation.ReflTransGen (Step again fallible) s u →
        u.done = s.done ∧ u.ret = s.ret ∧ u.caller = s.caller := by
  -- What is read is what is stored, and the induction over what comes after adds nothing.
  have kept := reachable.kept
  obtain ⟨⟨_, past⟩, same⟩ := kept.returned value returned
  constructor
  · obtain ⟨result, stored⟩ := Option.isSome_iff_exists.mp (kept.stored (.inr past))
    exact ⟨result, same.trans stored, stored⟩
  · intro u later
    induction later with
    | refl => exact ⟨rfl, rfl, rfl⟩
    | tail before step ih =>
      obtain ⟨done, ret, caller⟩ := ih
      have later : Reachable again fallible _ := reachable.trans before
      have still := later.kept.untouched (caller.trans returned) step
      exact ⟨still.1.trans done, still.2.1.trans ret, still.2.2.trans caller⟩

/-- Where the two are in the barrier. -/
def places (caller looper : Point BarrierState) : Party → Point BarrierState
  | .caller => caller
  | .looper => looper

/-- When the caller goes on, only its place changes. -/
@[simp] theorem update_places_caller (one two p : Point BarrierState) :
    update (places one two) .caller p = places p two := by
  funext t
  cases t <;> rfl

/-- When the looper goes on, only its place changes. -/
@[simp] theorem update_places_looper (one two p : Point BarrierState) :
    update (places one two) .looper p = places one p := by
  funext t
  cases t <;> rfl

/-- A broadcast may wake both. -/
theorem wake_places (one two : Point BarrierState) :
    (fun t => (places one two t).wake) = places one.wake two.wake := by
  funext t
  cases t <;> rfl

/-- A call with both threads where it says, and the lock free or had by one of them. -/
def stage (state : BarrierState) (lock : Option Party) (one two : Point BarrierState)
    (ret : Option ν) (caller : Waiter ν) (looper : Runner) : Handoff ν :=
  ⟨⟨state, lock, places one two⟩, ret, caller, looper⟩

/-- The hand-off begins with the caller at the start of its thread. -/
theorem reachable_stage (ν : Type) (again : Nat) (fallible : Prop) : Reachable again fallible
    (stage .closed none .idle .idle none .starting .away : Handoff ν) := by
  -- Both threads are outside the barrier.
  have idle : places .idle .idle = fun _ => (.idle : Point BarrierState) := by
    funext t
    cases t <;> rfl
  have same : (stage .closed none .idle .idle none .starting .away : Handoff ν) = initial := by
    simp only [stage, idle]
    rfl
  rw [same]
  exact .refl

/-- A reachable call may be written in any way. -/
theorem Reachable.goes {v : Handoff ν} (reachable : Reachable again fallible s)
    (moves : Moves again fallible s u) (same : u = v) : Reachable again fallible v :=
  same ▸ reachable.tail (.moves moves)

/-- However it was started, the caller gets to sleep at the barrier before the looper goes on. -/
theorem Reachable.asleep {looper : Runner} (started : Reachable again fallible
      (stage .closed none .idle .idle none (.between (again + 1)) looper : Handoff ν)) :
    Reachable again fallible (stage .closed none (.sleeping Barrier.isOpen) .idle none
      (.waiting again) looper : Handoff ν) := by
  -- It calls, takes the lock, finds the barrier closed and sleeps.
  have enters : Reachable again fallible (stage .closed none (.entering Barrier.wait) .idle none
      (.waiting again) looper : Handoff ν) :=
    started.goes (.wait again rfl) (by simp [stage])
  have within : Reachable again fallible (stage .closed (some .caller) (.inside Barrier.wait) .idle
      none (.waiting again) looper : Handoff ν) :=
    enters.goes (.inside .caller (.lock Barrier.wait rfl rfl)) (by simp [stage])
  exact within.goes (.inside .caller (.sleep Barrier.isOpen rfl rfl)) (by simp [stage])

/-- The caller sleeps at the barrier before the looper gets to its event. -/
theorem reachable_asleep (ν : Type) (again : Nat) (fallible : Prop) : Reachable again fallible
    (stage .closed none (.sleeping Barrier.isOpen) .idle none (.waiting again) .running :
      Handoff ν) := by
  -- The thread is started, and the caller is first.
  have start := reachable_stage ν again fallible
  have started : Reachable again fallible
      (stage .closed none .idle .idle none (.between (again + 1)) .running : Handoff ν) :=
    start.goes (.start rfl) rfl
  exact started.asleep

/-- The caller sleeps at the barrier of a looper that was never made. -/
theorem reachable_absent (ν : Type) (again : Nat) : Reachable again True
    (stage .closed none (.sleeping Barrier.isOpen) .idle none (.waiting again) .absent :
      Handoff ν) := by
  -- The thread is not started, and the caller is first.
  have start := reachable_stage ν again True
  have started : Reachable again True
      (stage .closed none .idle .idle none (.between (again + 1)) .absent : Handoff ν) :=
    start.goes (.startless trivial rfl) rfl
  exact started.asleep

/-- The looper stores a result, opens the barrier and wakes the caller. -/
theorem reachable_woken (again : Nat) (fallible : Prop) (value : ν) : Reachable again fallible
    (stage .opened none (.woken Barrier.isOpen) .idle (some value) (.waiting again) .opening :
      Handoff ν) := by
  -- The looper stores, calls, takes the lock, opens, broadcasts and releases the lock.
  have asleep := reachable_asleep ν again fallible
  have stored : Reachable again fallible (stage .closed none (.sleeping Barrier.isOpen) .idle
      (some value) (.waiting again) .stored) := asleep.goes (.store value rfl) rfl
  have enters : Reachable again fallible (stage .closed none (.sleeping Barrier.isOpen)
      (.entering Barrier.open_) (some value) (.waiting again) .opening) :=
    stored.goes (.open_ rfl) (by simp [stage])
  have within : Reachable again fallible (stage .closed (some .looper)
      (.sleeping Barrier.isOpen) (.inside Barrier.open_) (some value) (.waiting again) .opening) :=
    enters.goes (.inside .looper (.lock Barrier.open_ rfl rfl)) (by simp [stage])
  have opened : Reachable again fallible (stage .opened (some .looper)
      (.sleeping Barrier.isOpen) (.changed (fun _ => .opened) true) (some value) (.waiting again)
      .opening) := within.goes (.inside .looper (.change _ true rfl)) (by simp [stage])
  have wakes : update (fun t => (places (.sleeping Barrier.isOpen)
      (.changed (fun _ => .opened) true) t).wake) .looper (.leaving Barrier.open_) =
        places (.woken Barrier.isOpen) (.leaving Barrier.open_) := by
    rw [wake_places, update_places_looper]
    rfl
  have woke : Reachable again fallible (stage .opened (some .looper) (.woken Barrier.isOpen)
      (.leaving Barrier.open_) (some value) (.waiting again) .opening) :=
    opened.goes (.inside .looper (.broadcast _ rfl)) (congrArg (fun at_ => (⟨⟨.opened,
      some .looper, at_⟩, some value, .waiting again, .opening⟩ : Handoff ν)) wakes)
  exact woke.goes (.inside .looper (.unlock _ rfl)) (by simp [stage])

/-- The caller, woken, returns the descriptor. -/
theorem reachable_returned : CreatePmQosHandle
    (stage .opened none .idle .idle (some 5) (.returned (some 5)) .opening) := by
  -- The caller takes the lock back, finds the barrier open, releases the lock and reads.
  have woken := reachable_woken 0 False (5 : Int)
  have within : CreatePmQosHandle (stage .opened (some .caller) (.inside Barrier.wait) .idle
      (some 5) (.waiting 0) .opening) :=
    woken.goes (.inside .caller (.relock _ rfl rfl)) (by simp [stage, Barrier.wait])
  have passed : CreatePmQosHandle (stage .opened (some .caller) (.leaving Barrier.wait) .idle
      (some 5) (.waiting 0) .opening) :=
    within.goes (.inside .caller (.pass _ rfl rfl)) (by simp [stage, Barrier.wait])
  have out : CreatePmQosHandle (stage .opened none .idle .idle (some 5) (.waiting 0) .opening) :=
    passed.goes (.inside .caller (.unlock _ rfl)) (by simp [stage])
  have waited : CreatePmQosHandle (stage .opened none .idle .idle (some 5) (.between 0) .opening) :=
    out.goes (.waited 0 rfl rfl) rfl
  exact waited.goes (.return_ rfl) rfl

/-- The looper is finished with the frame of the caller that returned the descriptor. -/
theorem returned_of_reachable_five : ∃ s : Handoff Int, CreatePmQosHandle s ∧
    s.caller = .returned (some 5) ∧ ∀ u, Step 0 False s u → u.done = s.done ∧ u.ret = some 5 := by
  -- What the caller has read is five, and stays so.
  have returned := reachable_returned
  refine ⟨_, returned, rfl, fun u step => ?_⟩
  obtain ⟨done, ret, _⟩ := (returned_of_reachable returned rfl).2 u (.single step)
  exact ⟨done, ret⟩

/-- A caller that cannot go on has returned, or it sleeps at a closed barrier. -/
theorem Kept.caller_stuck (kept : Kept again fallible s)
    (stuck : ∀ u, ¬ Moves again fallible s u) : (∃ value, s.caller = .returned value) ∨
      (s.done.at_ .caller = .sleeping Barrier.isOpen ∧ s.done.state = .closed) := by
  -- By the place of the caller; only a sleeper has no step of its own.
  cases at_ : s.caller with
  | starting => exact absurd (.start at_) (stuck _)
  | returned value => exact .inl ⟨value, rfl⟩
  | between left =>
    cases left with
    | zero => exact absurd (.return_ at_) (stuck _)
    | succ left => exact absurd (.wait left at_) (stuck _)
  | waiting left =>
    right
    have busy : s.done.at_ .caller ≠ .idle := fun out => stuck _ (.waited left at_ out)
    rcases kept.barrier.moves_or_sleeps busy with ⟨t, d, moves⟩ | ⟨ready, here, not⟩
    · exact absurd (.inside t moves) (stuck _)
    · have waits := kept.barrier.asked .caller (.await ready) (by simp [here, Point.method])
      obtain rfl := Barrier.offered_await waits
      refine ⟨here, ?_⟩
      cases state : s.done.state with
      | closed => rfl
      | opened =>
        rw [state] at not
        cases not

/-- A looper that cannot go on is finished, or it failed, or there is none. -/
theorem Kept.looper_stuck [Nonempty ν] (kept : Kept again fallible s)
    (stuck : ∀ u, ¬ Moves again fallible s u) :
    s.looper = .finished ∨ s.looper = .absent ∨ s.looper = .failed := by
  cases at_ : s.looper with
  | away => exact absurd (.start (kept.starts.mpr at_)) (stuck _)
  | running =>
    obtain ⟨value⟩ := ‹Nonempty ν›
    exact absurd (.store value at_) (stuck _)
  | stored => exact absurd (.open_ at_) (stuck _)
  | opening =>
    exfalso
    have busy : s.done.at_ .looper ≠ .idle := fun out => stuck _ (.opened at_ out)
    rcases kept.barrier.moves_or_sleeps busy with ⟨t, d, moves⟩ | ⟨ready, here, not⟩
    · exact stuck _ (.inside t moves)
    · -- The looper never waits at the barrier.
      rcases kept.looperIn with idle | ⟨_, method⟩
      · exact busy idle
      · simp [here, Point.method, Barrier.open_] at method
  | finished => exact .inl rfl
  | absent => exact .inr (.inl rfl)
  | failed => exact .inr (.inr rfl)

/-- Without a looper that gets as far as storing a result, the barrier stays closed. -/
theorem Kept.lost (kept : Kept again fallible s)
    (lost : s.looper = .absent ∨ s.looper = .failed) : s.done.at_ .looper = .idle ∧
      s.done.state ≠ .opened ∧ ¬ s.Opened := by
  -- Neither an absent looper nor a failed one has come to the call.
  rcases lost with absent | failed
  · exact kept.before (by simp [absent]) (by simp [absent])
  · exact kept.before (by simp [failed]) (by simp [failed])

/-- A caller that sleeps at the barrier of no looper is not woken by anybody. -/
theorem Kept.stuck_of_lost (kept : Kept again fallible s)
    (lost : s.looper = .absent ∨ s.looper = .failed)
    (sleeps : s.done.at_ .caller = .sleeping Barrier.isOpen) : ¬ Moves again fallible s u := by
  -- The caller sleeps, and the looper is neither at the barrier nor going on.
  intro moves
  obtain ⟨out, _⟩ := kept.lost lost
  have waiting : ∃ left, s.caller = .waiting left := by
    rcases kept.callerIn with idle | ⟨waiting, _⟩
    · rw [sleeps] at idle
      cases idle
    · exact waiting
  cases moves with
  | inside t moves =>
    cases t with
    | looper => exact Monitor.Inner.busy (.moves moves) out
    | caller => exact moves.awake _ sleeps
  | _ => simp_all

/--
The two get stuck in two ways only: there is no looper, and the caller waits for ever.

As long as nobody can go on, unless by waking up for no reason, the call is over on both sides; or
no thread was made for the looper, or the looper gave up since `Looper::prepare` failed, and the
caller sleeps at the closed barrier. A call for which neither can happen does not get stuck.
-/
theorem stuck_iff [Nonempty ν] (reachable : Reachable again fallible s) :
    (∀ u, ¬ Moves again fallible s u) ↔
      (s.looper = .finished ∧ ∃ result, s.caller = .returned (some result)) ∨
        (fallible ∧ (s.looper = .absent ∨ s.looper = .failed) ∧
          s.done.at_ .caller = .sleeping Barrier.isOpen ∧ s.done.state = .closed) := by
  have kept := reachable.kept
  constructor
  · intro stuck
    rcases kept.looper_stuck stuck with finished | lost
    · left
      rcases kept.caller_stuck stuck with ⟨value, returned⟩ | ⟨_, closed⟩
      · obtain ⟨result, stored⟩ :=
          Option.isSome_iff_exists.mp (kept.stored (.inr (.inr finished)))
        have same := (kept.returned value returned).2
        exact ⟨finished, result, by rw [returned, same, stored]⟩
      · -- A finished looper has opened the barrier.
        have out : s.done.at_ .looper = .idle := by
          rcases kept.looperIn with idle | ⟨opening, _⟩
          · exact idle
          · simp [finished] at opening
        have opened := kept.behind (.inl ⟨out, .inr finished⟩)
        simp [opened] at closed
    · right
      obtain ⟨_, _, not⟩ := kept.lost lost
      rcases kept.caller_stuck stuck with ⟨value, returned⟩ | ⟨sleeps, closed⟩
      · exact absurd (kept.returned value returned).1 not
      · exact ⟨kept.fails lost, lost, sleeps, closed⟩
  · rintro (⟨finished, result, returned⟩ | ⟨_, lost, sleeps, _⟩) u
    · intro moves
      cases moves with
      | inside t moves => exact kept.quiet returned t _ (.moves moves)
      | _ => simp_all
    · exact kept.stuck_of_lost lost sleeps

/-- When there is no looper, made or prepared, the first of the two waits is for ever. -/
theorem stuck_iff_lost : (∃ s : Handoff Nat, ReadyToRun s ∧ s.looper = .absent ∧
      s.caller = .waiting 1 ∧ ∀ u, ¬ Moves 1 True s u) ∧
    ∃ s : Handoff Nat, ReadyToRun s ∧ s.looper = .failed ∧
      s.caller = .waiting 1 ∧ ∀ u, ¬ Moves 1 True s u := by
  -- The caller sleeps in both: there is no looper in the one, and it has failed in the other.
  have absent : ReadyToRun (stage .closed none (.sleeping Barrier.isOpen) .idle none (.waiting 1)
      .absent : Handoff Nat) := reachable_absent Nat 1
  have failed : ReadyToRun (stage .closed none (.sleeping Barrier.isOpen) .idle none (.waiting 1)
      .failed : Handoff Nat) := (reachable_asleep Nat 1 True).goes (.fail trivial rfl) rfl
  exact ⟨⟨_, absent, rfl, rfl, (stuck_iff absent).mpr (.inr ⟨trivial, .inl rfl, rfl, rfl⟩)⟩,
    ⟨_, failed, rfl, rfl, (stuck_iff failed).mpr (.inr ⟨trivial, .inr rfl, rfl, rfl⟩)⟩⟩

end Kept

end Handoff

end Grouper.Power
