import Grouper.Lib.Condition

/-! The barrier that threads wait at until another one opens it. -/

namespace Grouper.Power

inductive BarrierState where
  | opened
  | closed
  deriving DecidableEq, Repr

namespace Barrier

/-- `state = OPENED; cv.broadcast()` under the lock. -/
def open_ : Method BarrierState := .change (fun _ => .opened) true

/-- `state = CLOSED` under the lock. -/
def close : Method BarrierState := .change (fun _ => .closed) false

/-- The test of `while (state == CLOSED)`. -/
def isOpen (state : BarrierState) : Bool := state ≠ .closed

/-- `while (state == CLOSED) cv.wait(lock)` under the lock. -/
def wait : Method BarrierState := .await isOpen

/-- What a barrier has got to offer. -/
def Offered (m : Method BarrierState) : Prop := m = open_ ∨ m = close ∨ m = wait

/-- The two methods that change the state open it with a broadcast and close it without. -/
theorem offered_change {next : BarrierState → BarrierState} {broadcasts : Bool}
    (offered : Offered (.change next broadcasts)) :
    (next = fun _ => .opened) ∧ broadcasts = true ∨
      (next = fun _ => .closed) ∧ broadcasts = false := by
  simpa [Offered, open_, close, wait] using offered

/-- The only method that waits, waits for it to be open. -/
theorem offered_await {ready : BarrierState → Bool} (offered : Offered (.await ready)) :
    ready = isOpen := by
  simpa [Offered, open_, close, wait] using offered

/-- The test of the loop fails when the barrier is open. -/
@[simp] theorem isOpen_iff (state : BarrierState) : isOpen state = true ↔ state = .opened := by
  cases state <;> decide

/-- The only method that opens the barrier has a broadcast. -/
theorem heeds_offered : Monitor.Heeds Offered := by
  -- The change that makes the barrier open is the one of `open`.
  intro next broadcasts ready changes waits s not now
  obtain rfl := offered_await waits
  rcases offered_change changes with ⟨rfl, loud⟩ | ⟨rfl, _⟩
  · exact loud
  · cases now

section Threads

variable {τ : Type} [DecidableEq τ] {c d : Monitor τ BarrierState}

/-- What threads make of a barrier, which is closed when it is made. -/
def Reachable (c : Monitor τ BarrierState) : Prop := Monitor.Reachable Offered .closed c

/-- What threads make of a barrier, with their calls and returns in the order they came in. -/
def Run (history : List (Event τ BarrierState)) (c : Monitor τ BarrierState) : Prop :=
  Monitor.Run Offered .closed history c

/-- The same of a barrier whose methods happen at one moment each. -/
def Instant (history : List (Event τ BarrierState)) (a : Atomic τ BarrierState) : Prop :=
  Atomic.Run Offered .closed history a

/-- One thread sleeps at the barrier, and another one has just opened it. -/
theorem run_opening : ∃ c : Monitor Bool BarrierState,
    Run [.called true wait, .called false open_] c ∧ c.state = .opened ∧
      c.at_ true = .sleeping isOpen ∧ c.at_ false = .changed (fun _ => .opened) true := by
  -- One thread calls, locks and sleeps, and then another calls, locks and opens.
  have waits : Offered wait := .inr (.inr rfl)
  have opens : Offered open_ := .inl rfl
  have begins : Run [] (Monitor.initial .closed : Monitor Bool BarrierState) := .start
  have asleep := ((begins.step (.call (t := true) wait waits rfl)).step
    (.inner (.moves (.lock (t := true) wait rfl rfl)))).step
    (.inner (.moves (.sleep (t := true) isOpen rfl rfl)))
  have opened := ((asleep.step (.call (t := false) open_ opens rfl)).step
    (.inner (.moves (.lock (t := false) open_ rfl rfl)))).step
    (.inner (.moves (.change (t := false) _ true rfl)))
  exact ⟨_, opened, rfl, rfl, rfl⟩

section Awake

variable {history : List (Event τ BarrierState)}

/-- What holds of everything reachable holds at the end of a run. -/
theorem Run.kept (run : Run history c) : c.Kept Offered :=
  Monitor.Reachable.kept heeds_offered (Monitor.Run.reachable run)

/-- A barrier that nobody has called `close` of stays open. -/
theorem Run.opened_step (run : Run history c) (unclosed : ∀ u, .called u close ∉ history) {t : τ}
    (goes : Monitor.Step Offered t c d) (opened : c.state = .opened) : d.state = .opened := by
  -- A step that closes it would be inside a call of `close`.
  cases goes with
  | call m fits idle => exact opened
  | inner inner =>
    cases inner with
    | spurious ready here => exact opened
    | moves moves =>
      rcases moves.state with same | ⟨next, broadcasts, here, rfl⟩
      · rw [same]
        exact opened
      · have changes : (c.at_ t).method = some (.change next broadcasts) := by
          simp [here, Point.method]
        rcases offered_change (run.kept.asked t _ changes) with ⟨rfl, rfl⟩ | ⟨rfl, rfl⟩
        · rfl
        · exact absurd (Monitor.Run.called run changes) (unclosed t)

/-- Behind the change that `open` makes the barrier is open, as long as nobody calls `close`. -/
theorem Run.opened_of_behind (run : Run history c) (unclosed : ∀ u, .called u close ∉ history)
    {t : τ} (opens : (c.at_ t).method = some open_) (behind : (c.at_ t).behind = true) :
    c.state = .opened := by
  -- The induction is on the run: the thread makes its change, or another one goes on behind it.
  induction run with
  | start => simp [Monitor.initial, Point.behind] at behind
  | @step history c d u before goes ih =>
    have unclosed' : ∀ u, .called u close ∉ history := fun u was =>
      unclosed u (List.mem_append_left _ was)
    cases goes with
    | call m fits idle =>
      by_cases same : t = u
      · simp [same, Point.behind] at behind
      · exact ih unclosed' (by simpa [same] using opens) (by simpa [same] using behind)
    | inner inner =>
      have was : (c.at_ t).method = some open_ := by
        rcases inner.method t with same | none_
        · exact same ▸ opens
        · rw [none_] at opens
          cases opens
      by_cases same : t = u
      · subst same
        rcases inner.state_of_change was (.inl behind) with now | ⟨already, still⟩
        · exact now
        · exact still.trans (ih unclosed' was already)
      · have already := (inner.behind_other same).symm.trans behind
        exact Run.opened_step before unclosed' (.inner inner) (ih unclosed' was already)

/-- Nobody falls asleep at an open barrier. -/
theorem Run.awake_step (run : Run history c) {t : τ} (goes : Monitor.Step Offered t c d)
    (opened : c.state = .opened) (awake : ∀ u ready, c.at_ u ≠ .sleeping ready) (u : τ)
    (ready : BarrierState → Bool) : d.at_ u ≠ .sleeping ready := by
  intro asleep
  cases goes with
  | call m fits idle =>
    by_cases same : u = t
    · simp [same] at asleep
    · exact awake u ready (by simpa [same] using asleep)
  | inner inner =>
    cases inner with
    | spurious other here => exact awake t other here
    | moves moves =>
      rcases moves.sleeping asleep with ⟨was, _⟩ | ⟨rfl, not, _⟩
      · exact awake u ready was
      · -- The test of the loop would have to fail.
        have here : (c.at_ u).method = some (.await ready) := by
          rcases moves.method u with same | none_
          · rw [← same, asleep]
            rfl
          · simp [asleep, Point.method] at none_
        obtain rfl := offered_await (run.kept.asked u _ here)
        rw [(isOpen_iff c.state).mpr opened] at not
        cases not

/-- Whoever returns from `open` leaves the barrier open, and nobody asleep at it. -/
theorem Run.awake_of_return (run : Run history c) (unclosed : ∀ u, .called u close ∉ history)
    {t : τ} (goes : Monitor.Step Offered t c d) (opens : (c.at_ t).method = some open_)
    (done : (d.at_ t).method = none) :
    d.state = .opened ∧ ∀ u ready, d.at_ u ≠ .sleeping ready := by
  have kept := run.kept
  have leaves : c.at_ t = .leaving open_ := by
    cases goes with
    | call m fits idle => simp [idle, Point.method] at opens
    | inner inner =>
      rcases inner.returns ((Point.method_eq_none _).mp done) with idle | ⟨_, _, m, here⟩
      · exact absurd idle inner.busy
      · obtain rfl : m = open_ := by simpa [here, Point.method] using opens
        exact here
  have opened : c.state = .opened :=
    run.opened_of_behind unclosed opens (by simp [leaves, Point.behind])
  refine ⟨run.opened_step unclosed goes opened, run.awake_step goes opened fun u ready asleep => ?_⟩
  -- Only a thread with the lock could have the broadcast in front of it, and that is this one.
  obtain rfl := offered_await (kept.asked u (.await ready) (by simp [asleep, Point.method]))
  obtain ⟨v, next, coming⟩ := kept.awake u isOpen asleep ((isOpen_iff c.state).mpr opened)
  by_cases same : v = t
  · simp [same, leaves] at coming
  · have theirs := kept.owned.alone (t := t) (by simp [leaves, Point.holds]) same
    simp [coming, Point.holds] at theirs

/-- Once an `open` has returned, and unless somebody calls `close`, nobody sleeps at the barrier. -/
theorem Run.awake_of_returned (run : Run history c) (unclosed : ∀ u, .called u close ∉ history)
    {t : τ} (out : .returned t open_ ∈ history) :
    c.state = .opened ∧ ∀ u ready, c.at_ u ≠ .sleeping ready := by
  -- The induction is on the run: the return finds nobody asleep, and then nobody falls asleep.
  induction run with
  | start => simp at out
  | @step history c d u before goes ih =>
    have unclosed' : ∀ u, .called u close ∉ history := fun u was =>
      unclosed u (List.mem_append_left _ was)
    rcases List.mem_append.mp out with earlier | now
    · obtain ⟨opened, awake⟩ := ih unclosed' earlier
      exact ⟨Run.opened_step before unclosed' goes opened, Run.awake_step before goes opened awake⟩
    · obtain ⟨rfl, opens, done⟩ := Event.returned_mem_between now
      exact Run.awake_of_return before unclosed' goes opens done

end Awake

/--
A barrier is as good as one whose methods happen at one moment each, and no wake-up is lost.

However threads open it, close it and wait: the same calls and returns, in the same order, are
those of a run of the barrier whose methods happen at one moment, and it ends with the same state
and with every thread on the same side of its moment. One thread after the other has the lock; a
wait is left only while the barrier is open; a thread that sleeps while it is open is about to be
woken; and once an `open` has returned nobody sleeps there, unless somebody calls `close`.
-/
theorem instant_of_run {history : List (Event τ BarrierState)} (run : Run history c) :
    Instant history c.atomic ∧ Monitor.Owned c.lock c.at_ ∧
      (∀ t, c.at_ t = .leaving wait → c.state = .opened) ∧
        (∀ t ready, c.at_ t = .sleeping ready → c.state = .opened →
          ∃ u next, c.lock = some u ∧ c.at_ u = .changed next true) ∧
            ∀ t, .returned t open_ ∈ history → (∀ u, .called u close ∉ history) →
              c.state = .opened ∧ ∀ u ready, c.at_ u ≠ .sleeping ready := by
  -- The first part is the simulation; the others are read off what every run keeps.
  have kept := run.kept
  have left : ∀ t, c.at_ t = .leaving wait → c.state = .opened := fun t is =>
    (isOpen_iff c.state).mp (kept.ready t isOpen is)
  have woken : ∀ t ready, c.at_ t = .sleeping ready → c.state = .opened →
      ∃ u next, c.lock = some u ∧ c.at_ u = .changed next true := by
    intro t ready is opened
    have waits := kept.asked t (.await ready) (by simp [is, Point.method])
    obtain rfl := offered_await waits
    obtain ⟨u, next, coming⟩ := kept.awake t isOpen is ((isOpen_iff c.state).mpr opened)
    exact ⟨u, next, (kept.owned u).mpr (by simp [coming, Point.holds]), coming⟩
  exact ⟨Monitor.Run.atomic run, kept.owned, left, woken, fun t out unclosed =>
    run.awake_of_returned unclosed out⟩

/-- The sleeper is about to be woken by the thread that opened the barrier. -/
theorem instant_of_run_opening : ∃ c : Monitor Bool BarrierState,
    Instant [.called true wait, .called false open_] c.atomic ∧ c.at_ true = .sleeping isOpen ∧
      ∃ u next, c.lock = some u ∧ c.at_ u = .changed next true := by
  -- The broadcast is still to come.
  obtain ⟨c, run, opened, asleep, _⟩ := run_opening
  obtain ⟨instant, _, _, woken, _⟩ := instant_of_run run
  exact ⟨c, instant, asleep, woken true isOpen asleep opened⟩

/--
Behind an open barrier that nobody is about to close, every wait returns.

Whoever goes on, in whatever order and however often a wait wakes up for no reason: every thread
takes at most four steps, so that all of those in the middle of a method take at most four times
their number, and nobody is stuck before all have returned.
-/
theorem returns_of_opened (reachable : Reachable c) (opened : c.state = .opened)
    (unclosed : ∀ t, (c.at_ t).method ≠ some close) {busy : Finset τ} (within : c.Busy busy)
    {order : List τ} (goes : Monitor.Goes order c d) :
    (∀ t, order.count t ≤ 4) ∧ order.length ≤ 4 * busy.card ∧
      ((∀ u e, ¬ Monitor.Moves u d e) → ∀ u, d.at_ u = .idle) := by
  -- All that is waited for is there, and nobody is about to take it away.
  have kept := Monitor.Reachable.kept heeds_offered reachable
  have settled : c.Settled (· = .opened) := by
    refine ⟨opened, fun t next broadcasts is s _ => ?_, fun t ready is s now => ?_⟩
    · rcases offered_change (kept.asked t _ is) with ⟨rfl, rfl⟩ | ⟨rfl, rfl⟩
      · rfl
      · exact absurd is (unclosed t)
    · obtain rfl := offered_await (kept.asked t _ is)
      exact (isOpen_iff s).mpr now
  obtain ⟨bound, ends⟩ := settled.drains heeds_offered kept within goes
  have each : ∀ t, order.count t ≤ 4 := fun t =>
    (settled.count_le goes t).trans (c.at_ t).rank_le
  exact ⟨each, bound.trans (Monitor.total_le busy c), ends⟩

/-- The opener and the sleeper go on for eight steps at most, and for four each. -/
theorem returns_of_opened_opening : ∃ c : Monitor Bool BarrierState, Reachable c ∧
    c.at_ true = .sleeping isOpen ∧ ∀ order d, Monitor.Goes order c d →
      (∀ t, order.count t ≤ 4) ∧ order.length ≤ 8 ∧
        ((∀ u e, ¬ Monitor.Moves u d e) → ∀ u, d.at_ u = .idle) := by
  -- Of the two threads one sleeps, and the other one is about to wake it.
  obtain ⟨c, run, opened, asleep, opens⟩ := run_opening
  have reachable : Reachable c := Monitor.Run.reachable run
  have unclosed : ∀ t, (c.at_ t).method ≠ some close := by
    intro t
    cases t with
    | true => simp [asleep, Point.method, close]
    | false => simp [opens, Point.method, close]
  have within : c.Busy Finset.univ := fun t outside => absurd (Finset.mem_univ t) outside
  exact ⟨c, reachable, asleep, fun order d goes =>
    returns_of_opened reachable opened unclosed within goes⟩

end Threads

end Barrier

end Grouper.Power
