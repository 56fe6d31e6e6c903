import Grouper.Power.Handoff
import Grouper.Power.Poker

/-!
The caller of `createPmQosHandle` as the poker has it: woken at one moment, with its result.

The barrier and the frame of the caller are below what the poker shows. A run of the two threads is
followed here by the steps that the poker takes for the caller, event by event.
-/

namespace Grouper.Power

open Function (update)

/-- What is seen of a call: it pushes its event, its barrier opens over a result, it returns. -/
inductive CallEvent where
  | pushed
  | opened (ret : Option Int)
  | returned (ret : Option Int)
  deriving DecidableEq, Repr

/-- What becomes of a caller of `createPmQosHandle` at the poker, and what is seen of it. -/
inductive Caller.Goes : Caller → List CallEvent → Caller → Prop
  | stays (place : Caller) : Caller.Goes place [] place
  | pushes (node : String) (setting : PmQosSetting) :
      Caller.Goes (.pushingHandle node setting) [.pushed] .waiting
  | wakes (ret : Int) : Caller.Goes .waiting [.opened (some ret)] (.woken ret)
  | returns (ret : Int) : Caller.Goes (.woken ret) [.returned (some ret)] .idle

/-- The course of a call: what was seen of it up to each of the caller's places. -/
inductive Course : Caller → List CallEvent → Prop
  | asks (node : String) (setting : PmQosSetting) : Course (.pushingHandle node setting) []
  | waits : Course .waiting [.pushed]
  | woken (ret : Int) : Course (.woken ret) [.pushed, .opened (some ret)]
  | back (ret : Int) : Course .idle [.pushed, .opened (some ret), .returned (some ret)]

/-- Nothing comes twice in the course of a call. -/
theorem Course.goes {place next : Caller} {history seen : List CallEvent}
    (course : Course place history) (goes : Caller.Goes place seen next) :
    Course next (history ++ seen) := by
  -- The place of the caller tells how far its call is, and so what can be next.
  cases goes with
  | stays => simpa using course
  | pushes node setting =>
    cases course
    exact .waits
  | wakes ret =>
    cases course
    exact .woken ret
  | returns ret =>
    cases course
    exact .back ret

/-- So what was seen of a call is a part of one course, from its beginning on. -/
theorem Course.prefix_ {place : Caller} {history : List CallEvent} (course : Course place history) :
    ∃ ret, history <+: [.pushed, .opened (some ret), .returned (some ret)] := by
  -- Before the barrier is open, any result may be the one to come.
  cases course with
  | asks node setting => exact ⟨0, List.nil_prefix⟩
  | waits => exact ⟨0, by simp⟩
  | woken ret => exact ⟨ret, by simp⟩
  | back ret => exact ⟨ret, List.prefix_rfl⟩

namespace Handoff

variable {again : Nat} {fallible : Prop} {s u : Handoff Int}

/-- What a step shows of the call. -/
def shown (s u : Handoff Int) : List CallEvent :=
  match s.caller, u.caller with
  | .starting, .between _ => [.pushed]
  | .between _, .returned ret => [.returned ret]
  -- The barrier opens somewhere in `open`, whatever the caller is about.
  | _, _ => if s.done.state = .closed ∧ u.done.state = .opened then [.opened u.ret] else []

/-- What can come of a call, with what was seen of it in the order it came in. -/
inductive Run (again : Nat) (fallible : Prop) : List CallEvent → Handoff Int → Prop
  | start : Run again fallible [] initial
  | step {history : List CallEvent} {s u : Handoff Int} (before : Run again fallible history s)
      (step : Step again fallible s u) : Run again fallible (history ++ shown s u) u

/-- Whatever comes of a call comes at the end of a run. -/
theorem Reachable.run (reachable : Reachable again fallible s) :
    ∃ history, Run again fallible history s := by
  -- The induction is on the steps; each adds what it shows.
  induction reachable with
  | refl => exact ⟨[], .start⟩
  | tail _ step ih =>
    obtain ⟨history, before⟩ := ih
    exact ⟨_, before.step step⟩

/-- And nothing else does. -/
theorem Run.reachable {history : List CallEvent} (run : Run again fallible history s) :
    Reachable again fallible s := by
  -- The induction is on the run, and forgets what was seen.
  induction run with
  | start => exact .refl
  | step _ step ih => exact ih.tail step

/-- A barrier that keeps its state does not open. -/
theorem not_opening {was now : BarrierState} (state : now = was) :
    ¬ (was = .closed ∧ now = .opened) := by
  -- It would have to be closed and open at once.
  rintro ⟨closed, opened⟩
  rw [state, closed] at opened
  cases opened

/-- A step shows nothing when the caller stays and the barrier does not open. -/
theorem shown_quiet (caller : u.caller = s.caller) (state : u.done.state = s.done.state) :
    shown s u = [] := by
  -- With the caller where it was, only the barrier is looked at.
  unfold shown
  rw [caller]
  cases s.caller <;> exact if_neg (not_opening state)

/-- Inside the barrier a step shows the change that opens it. -/
theorem shown_opening {d : Monitor Party BarrierState} (closed : s.done.state = .closed)
    (opened : d.state = .opened) : shown s { s with done := d } = [.opened s.ret] := by
  -- The caller is where it was.
  unfold shown
  dsimp only
  cases s.caller <;> exact if_pos ⟨closed, opened⟩

/-- A caller that has returned was seen to. -/
theorem Run.returned_mem {history : List CallEvent} (run : Run again fallible history s)
    {value : Option Int} (returned : s.caller = .returned value) : .returned value ∈ history := by
  -- The induction is on the run: no step but the return brings the caller there.
  induction run with
  | start => cases returned
  | step before step ih =>
    cases step with
    | spurious t inner => exact List.mem_append_left _ (ih returned)
    | moves moves =>
      cases moves with
      | return_ here =>
        obtain rfl : _ = value := Waiter.returned.inj returned
        simp [shown, here]
      | start here => cases returned
      | startless may here => cases returned
      | wait left here => cases returned
      | waited left here out => cases returned
      | _ => exact List.mem_append_left _ (ih returned)

/-- Inside the barrier only the looper changes the state, and only to open it. -/
theorem Kept.opens_of_change (kept : Kept again fallible s) {d : Monitor Party BarrierState}
    {t : Party} (inner : Monitor.Inner t s.done d) (changed : d.state ≠ s.done.state) :
    s.looper = .opening ∧ s.done.state = .closed ∧ d.state = .opened := by
  have opening : s.looper = .opening ∧ d.state = .opened := by
    cases t with
    | caller =>
      rcases kept.callerIn with idle | ⟨_, method⟩
      · exact absurd idle inner.busy
      · exact absurd (inner.state_of_await method) changed
    | looper =>
      rcases kept.looperIn with idle | ⟨opening, method⟩
      · exact absurd idle inner.busy
      · refine ⟨opening, ?_⟩
        -- Of its own steps only the change can be the one.
        cases inner with
        | spurious ready here => exact absurd rfl changed
        | moves moves =>
          rcases moves.state with still | ⟨next, broadcasts, here, rfl⟩
          · exact absurd still changed
          · obtain ⟨rfl, _⟩ := by simpa [here, Point.method, Barrier.open_] using method
            rfl
  -- Since the state has changed, the barrier was not open before.
  cases state : s.done.state with
  | closed => exact ⟨opening.1, rfl, opening.2⟩
  | opened => exact absurd (opening.2.trans state.symm) changed

section View

variable (node : String) (setting : PmQosSetting)

/-- The caller as the poker knows it, which is woken at the moment at which its barrier opens. -/
def view (s : Handoff Int) : Caller :=
  match s.caller with
  | .starting => .pushingHandle node setting
  | .returned _ => .idle
  | .between _ | .waiting _ =>
    if s.done.state = .opened then .woken (s.ret.getD 0) else .waiting

/-- The caller's place, the barrier and the result are all that is seen. -/
theorem view_congr (caller : u.caller = s.caller) (state : u.done.state = s.done.state)
    (ret : u.ret = s.ret) : u.view node setting = s.view node setting := by
  simp [view, caller, state, ret]

/-- A caller that is on its way is woken as soon as the barrier is open. -/
theorem view_between (away : s.caller ≠ .starting) (here : ∀ value, s.caller ≠ .returned value) :
    s.view node setting =
      if s.done.state = .opened then .woken (s.ret.getD 0) else .waiting := by
  -- The caller waits, or is between two waits.
  cases at_ : s.caller with
  | starting => exact absurd at_ away
  | returned value => exact absurd at_ (here value)
  | between left => simp [view, at_]
  | waiting left => simp [view, at_]

/-- Inside the barrier the caller is woken by the change that opens it, and by nothing else. -/
theorem Kept.view_inside (kept : Kept again fallible s) {d : Monitor Party BarrierState}
    {t : Party} (inner : Monitor.Inner t s.done d) : d.state = s.done.state ∨
      (s.done.state = .closed ∧ d.state = .opened ∧ s.view node setting = .waiting ∧
        ∃ ret, s.ret = some ret ∧ view node setting { s with done := d } = .woken ret) := by
  by_cases same : d.state = s.done.state
  · exact .inl same
  · right
    obtain ⟨opening, closed, opened⟩ := kept.opens_of_change inner same
    -- The caller is on its way, and the looper has stored the result.
    have unopened : s.done.state ≠ .opened := by simp [closed]
    have away : s.caller ≠ .starting := by simp [kept.starts, opening]
    have here : ∀ value, s.caller ≠ .returned value := fun value returned =>
      unopened (kept.behind (.inl (kept.returned value returned).1))
    obtain ⟨ret, stored⟩ := Option.isSome_iff_exists.mp (kept.stored (.inr (.inl opening)))
    have before := view_between (s := s) node setting away here
    have after := view_between (s := { s with done := d }) node setting away here
    rw [if_neg unopened] at before
    rw [if_pos opened] at after
    have woken : view node setting { s with done := d } = .woken ret := by
      rw [after]
      simp [stored]
    exact ⟨closed, opened, before, ret, stored, woken⟩

/--
What a step of the two threads shows is what becomes of the caller at the poker.

A caller pushes its event and waits, is woken with a result at one moment, and returns it. Below the
poker it is woken by the change that opens the barrier, which finds the result stored.
-/
theorem Kept.view_step (kept : Kept again fallible s) (step : Step again fallible s u) :
    Caller.Goes (s.view node setting) (shown s u) (u.view node setting) := by
  -- Where nothing is seen, the caller stays where it is.
  have unseen : ∀ {v : Handoff Int}, shown s v = [] → v.view node setting = s.view node setting →
      Caller.Goes (s.view node setting) (shown s v) (v.view node setting) := by
    intro v quiet same
    rw [quiet, same]
    exact .stays _
  -- Inside the barrier only the change that opens it is seen, and it wakes the caller.
  have within : ∀ (t : Party) (d : Monitor Party BarrierState), Monitor.Inner t s.done d →
      Caller.Goes (s.view node setting) (shown s { s with done := d })
        (view node setting { s with done := d }) := by
    intro t d inner
    rcases kept.view_inside node setting inner with
      same | ⟨closed, opened, waits, ret, stored, woken⟩
    · exact unseen (shown_quiet rfl same) (view_congr node setting rfl same rfl)
    · rw [shown_opening closed opened, woken, waits, stored]
      exact .wakes ret
  -- The event is pushed whether or not there is a looper to run it.
  have pushes : s.caller = .starting → ∀ looper, Caller.Goes (s.view node setting)
      (shown s { s with caller := .between (again + 1), looper := looper })
      (view node setting { s with caller := .between (again + 1), looper := looper }) := by
    intro here looper
    have away := kept.starts.mp here
    obtain ⟨_, closed, _⟩ := kept.before (by simp [away]) (by simp [away])
    have pushed : Caller.Goes (.pushingHandle node setting) [.pushed] .waiting := .pushes _ _
    simpa [shown, view, here, closed] using pushed
  cases step with
  | spurious t inner => exact within t _ inner
  | moves moves =>
    cases moves with
    | inside t moves => exact within t _ (.moves moves)
    | start here => exact pushes here .running
    | startless may here => exact pushes here .absent
    | store value here =>
      -- The result is not seen before the barrier is open.
      obtain ⟨_, closed, _⟩ := kept.before (by simp [here]) (by simp [here])
      exact unseen (shown_quiet rfl rfl) (by simp [view, closed])
    | return_ here =>
      have opened := kept.through 0 (.inr ⟨here, Nat.zero_le again⟩)
      obtain ⟨ret, stored⟩ := Option.isSome_iff_exists.mp (kept.stored (.inr opened.2))
      have now := kept.behind (.inl opened)
      have returned : Caller.Goes (.woken ret) [.returned (some ret)] .idle := .returns ret
      simpa [shown, view, here, now, stored] using returned
    | fail may here => exact unseen (shown_quiet rfl rfl) (view_congr node setting rfl rfl rfl)
    | open_ here => exact unseen (shown_quiet rfl rfl) (view_congr node setting rfl rfl rfl)
    | opened here out => exact unseen (shown_quiet rfl rfl) (view_congr node setting rfl rfl rfl)
    | wait left here =>
      exact unseen (by simpa [shown, here] using not_opening rfl) (by simp [view, here])
    | waited left here out =>
      exact unseen (by simpa [shown, here] using not_opening rfl) (by simp [view, here])

/-- What was seen of a run brings the caller as far in its course as the run did. -/
theorem Run.course {history : List CallEvent} (run : Run again fallible history s) :
    Course (s.view node setting) history := by
  -- The induction is on the run; each step is one of the course, or is not seen.
  induction run with
  | start => exact .asks node setting
  | step before step ih => exact ih.goes (before.reachable.kept.view_step node setting step)

end View

end Handoff

/-- A result that the looper can come to: -1, or a descriptor with two more that are free. -/
def Kernel.Gives (k : Kernel) (ret : Int) : Prop :=
  ret = -1 ∨ ∃ fd client server : Nat, ret = client ∧ [fd, client, server].Nodup ∧
    k.fds fd = none ∧ k.fds client = none ∧ k.fds server = none

/-- What the poker does, with what is seen of one caller in the course of `createPmQosHandle`. -/
inductive Served (caller : Nat) (p : Poker) : List CallEvent → Poker → Prop
  | start : Served caller p [] p
  /-- A step that leaves the caller where it is. -/
  | apart {history : List CallEvent} {q r : Poker} {act : PokerAct}
      (before : Served caller p history q) (goes : pokerStep q act = some r)
      (same : r.callers caller = q.callers caller) : Served caller p history r
  | push {history : List CallEvent} {q r : Poker} (before : Served caller p history q)
      (goes : pokerStep q (.pushEvent caller) = some r) (waits : r.callers caller = .waiting) :
      Served caller p (history ++ [.pushed]) r
  | wake {history : List CallEvent} {q r : Poker} {act : PokerAct} {ret : Int}
      (before : Served caller p history q) (waits : q.callers caller = .waiting)
      (goes : pokerStep q act = some r) (woken : r.callers caller = .woken ret) :
      Served caller p (history ++ [.opened (some ret)]) r
  | returns {history : List CallEvent} {q r : Poker} {ret : Int}
      (before : Served caller p history q) (woken : q.callers caller = .woken ret)
      (goes : pokerStep q (.returns caller) = some r) :
      Served caller p (history ++ [.returned (some ret)]) r

/-- The poker while it serves this caller and no other, with the caller where it is. -/
inductive Serving (caller : Nat) (p : Poker) : Caller → Poker → Prop
  | asks {node : String} {setting : PmQosSetting}
      (asks : p.callers caller = .pushingHandle node setting) (rests : p.handler = .idle) :
      Serving caller p (.pushingHandle node setting) p
  /-- The message is due, and its event is in the queue. -/
  | waits {q : Poker} {node : String} {setting : PmQosSetting} (message : Message)
      (event : Numbered QueuedEvent) (waits : q.callers caller = .waiting)
      (rests : q.handler = .idle) (kernel : q.kernel = p.kernel)
      (sent : message ∈ q.messages) (due : message.uptime ≤ q.now)
      (queued : q.queuedEvents message.what = some event)
      (item : event.item = .pmQosOpenHandle node setting caller) : Serving caller p .waiting q
  | woken {q : Poker} {ret : Int} (woken : q.callers caller = .woken ret) :
      Serving caller p (.woken ret) q
  | back {q : Poker} (back : q.callers caller = .idle) : Serving caller p .idle q

section Serving

variable {caller : Nat} {p q : Poker} {history seen : List CallEvent} {place next : Caller}

/-- The caller is where it says. -/
theorem Serving.at_ (serving : Serving caller p place q) : q.callers caller = place := by
  -- Each place says so.
  cases serving with
  | asks asks rests => exact asks
  | waits message event waits => exact waits
  | woken woken => exact woken
  | back back => exact back

/-- A caller that asks goes on to wait, with its event in the queue. -/
theorem Served.pushed {node : String} {setting : PmQosSetting} (served : Served caller p history q)
    (serving : Serving caller p (.pushingHandle node setting) q) :
    ∃ r, Served caller p (history ++ [.pushed]) r ∧ Serving caller p .waiting r := by
  cases serving with
  | asks asks rests =>
    -- The message carries the key that its event was put under.
    have goes : pokerStep p (.pushEvent caller) =
        some { p.sendEventDelayed 0 (.pmQosOpenHandle node setting caller) with
          callers := update p.callers caller .waiting } := by
      simp [pokerStep, Poker.pushEvent, asks]
    let event : Numbered QueuedEvent := ⟨p.sent, .pmQosOpenHandle node setting caller⟩
    exact ⟨_, served.push goes (by simp), .waits ⟨p.mKey, p.now + 0, event⟩ event (by simp) rests
      rfl (by simp [Poker.sendEventDelayed, event]) (by simp [Poker.sendEventDelayed])
      (by simp [Poker.sendEventDelayed, event]) rfl⟩

/-- The looper gets to the event of a caller that waits, and takes it out of the queue. -/
theorem Served.running (served : Served caller p history q)
    (serving : Serving caller p .waiting q) : ∃ (r : Poker) (event : Numbered QueuedEvent)
      (node : String) (setting : PmQosSetting), Served caller p history r ∧
        r.handler = .running event ∧ event.item = .pmQosOpenHandle node setting caller ∧
        r.callers caller = .waiting ∧ r.kernel = p.kernel := by
  cases serving with
  | @waits q node setting message event waits rests kernel sent due queued item =>
    -- The message is handed over, and its key leads to the event.
    have delivered : pokerStep q (.deliver message) = some { q with
        messages := q.messages.erase message
        handler := .handling message } := by
      simp [pokerStep, Poker.deliver, rests, sent, due]
    have removed : pokerStep { q with
          messages := q.messages.erase message
          handler := .handling message } .removeEventByKey = some { q with
        messages := q.messages.erase message
        queuedEvents := update q.queuedEvents message.what none
        handler := .running event
        ran := event.number :: q.ran } := by
      simp [pokerStep, Poker.removeEventByKey, queued]
    have run := (served.apart delivered rfl).apart removed rfl
    exact ⟨_, event, node, setting, run, rfl, item, waits, kernel⟩

/-- A caller that waits can be woken with any result that the looper can come to. -/
theorem Served.woken {ret : Int} (served : Served caller p history q)
    (serving : Serving caller p .waiting q) (gives : p.kernel.Gives ret) :
    ∃ r, Served caller p (history ++ [.opened (some ret)]) r ∧ r.callers caller = .woken ret := by
  obtain ⟨r, event, node, setting, run, running, item, waits, kernel⟩ := served.running serving
  rcases gives with rfl | ⟨fd, client, server, rfl, apart, freeFd, freeClient, freeServer⟩
  · -- The node cannot be opened.
    have fails : pokerStep r (.openPmQosNode none) =
        some { r.wake caller (-1) with handler := .deleting event } := by
      simp [pokerStep, Poker.openPmQosNode, running, item]
    have woken : (r.wake caller (-1)).callers caller = .woken (-1) := by simp [Poker.wake]
    exact ⟨_, run.wake waits fails woken, woken⟩
  · -- The node gets one of the free descriptors, and the pipe the other two.
    have opens : pokerStep r (.openPmQosNode (some fd)) = some { r with
        kernel := r.kernel.openPmQosNode fd .node setting
        handler := .opened event fd (r.kernel.file .node) } := by
      simp [pokerStep, Poker.openPmQosNode, running, item, kernel, freeFd]
    obtain ⟨fdClient, fdServer, ends⟩ : fd ≠ client ∧ fd ≠ server ∧ client ≠ server := by
      simpa [and_assoc] using apart
    have makes : ∃ u, pokerStep { r with
          kernel := r.kernel.openPmQosNode fd .node setting
          handler := .opened event fd (r.kernel.file .node) }
        (.createHandleForFd (.made client server true)) = some u ∧
          u.callers caller = .woken client := by
      simp [pokerStep, Poker.createHandleForFd, item, kernel, Kernel.openPmQosNode, Kernel.open_,
        fdClient.symm, fdServer.symm, ends, freeClient, freeServer, Poker.wake]
    obtain ⟨u, makes, woken⟩ := makes
    exact ⟨u, (run.apart opens rfl).wake waits makes woken, woken⟩

/-- A caller that is woken returns what it was woken with. -/
theorem Served.returned {ret : Int} (served : Served caller p history q)
    (woken : q.callers caller = .woken ret) :
    ∃ r, Served caller p (history ++ [.returned (some ret)]) r ∧ r.callers caller = .idle := by
  -- The step that returns is open to whoever is woken.
  have goes : pokerStep q (.returns caller) =
      some { q with callers := update q.callers caller .idle } := by
    simp [pokerStep, woken]
  exact ⟨_, served.returns woken goes, by simp⟩

/-- Whatever can become of the caller, the poker brings about in a few steps. -/
theorem Served.goes (served : Served caller p history q) (serving : Serving caller p place q)
    (goes : Caller.Goes place seen next)
    (gives : ∀ ret, .opened (some ret) ∈ seen → p.kernel.Gives ret) :
    ∃ r, Served caller p (history ++ seen) r ∧ Serving caller p next r := by
  -- What is not seen takes no step at all.
  cases goes with
  | stays => exact ⟨q, by simpa using served, serving⟩
  | pushes node setting => exact served.pushed serving
  | wakes ret =>
    obtain ⟨r, next, woken⟩ := served.woken serving (gives ret (by simp))
    exact ⟨r, next, .woken woken⟩
  | returns ret =>
    obtain ⟨r, next, back⟩ := served.returned serving.at_
    exact ⟨r, next, .back back⟩

end Serving

namespace Handoff

/-- Event by event, a run of the two threads is one that the poker takes for its caller. -/
theorem Run.served {node : String} {setting : PmQosSetting} {p : Poker} {caller : Nat}
    {history : List CallEvent} (run : Run again fallible history s)
    (asks : p.callers caller = .pushingHandle node setting) (rests : p.handler = .idle)
    (gives : ∀ ret, .opened (some ret) ∈ history → p.kernel.Gives ret) :
    ∃ q, Served caller p history q ∧ Serving caller p (s.view node setting) q := by
  -- The induction is on the run, and each step shows the same on both sides.
  induction run with
  | start => exact ⟨p, .start, .asks asks rests⟩
  | step before step ih =>
    obtain ⟨q, served, serving⟩ := ih fun ret opened => gives ret (List.mem_append_left _ opened)
    have goes := before.reachable.kept.view_step node setting step
    exact served.goes serving goes fun ret opened => gives ret (List.mem_append_right _ opened)

/--
The caller that the poker wakes at one moment is one that waits at a barrier.

What is seen of a run of `createPmQosHandle` is seen of a run of the poker as well, which queues the
event, wakes its caller with a result that its kernel can give, and lets it return. The event is
pushed once, the barrier opens once and over a result that is stored, and the caller returns that
result; and nothing of it comes in another order.
-/
theorem served_of_run {s : Handoff Int} {history : List CallEvent}
    (run : Run 0 False history s) :
    (∀ (node : String) (setting : PmQosSetting) (p : Poker) (caller : Nat),
      p.callers caller = .pushingHandle node setting → p.handler = .idle →
        (∀ ret, .opened (some ret) ∈ history → p.kernel.Gives ret) →
          ∃ q, Served caller p history q ∧ q.callers caller = s.view node setting) ∧
      (∃ ret, history <+: [.pushed, .opened (some ret), .returned (some ret)]) ∧
        ∀ value, s.caller = .returned value → ∃ ret, value = some ret ∧
          history = [.pushed, .opened (some ret), .returned (some ret)] := by
  refine ⟨fun node setting p caller asks rests gives => ?_, ?_, fun value returned => ?_⟩
  · obtain ⟨q, served, serving⟩ := run.served asks rests gives
    exact ⟨q, served, serving.at_⟩
  · exact (run.course "" (.default 0)).prefix_
  · -- A caller that has returned is idle to the poker, and was seen to return its value.
    have course := run.course "" (.default 0)
    have idle : s.view "" (.default 0) = .idle := by simp [view, returned]
    have seen := run.returned_mem returned
    rw [idle] at course
    cases course with
    | back ret =>
      obtain rfl : value = some ret := by simpa using seen
      exact ⟨ret, rfl, rfl⟩

/-- The poker wakes its first caller with the descriptor that the call returns. -/
theorem served_of_run_five : ∃ s : Handoff Int, s.caller = .returned (some 5) ∧
    ∃ q, Served 0 { Poker.initial with callers := fun _ => .pushingHandle "node" (.default 1) }
      [.pushed, .opened (some 5), .returned (some 5)] q ∧ q.callers 0 = .idle := by
  -- The run that ends with the descriptor shows all of the course.
  obtain ⟨history, run⟩ := reachable_returned.run
  obtain ⟨poker, _, ends⟩ := served_of_run run
  obtain ⟨ret, five, rfl⟩ := ends (some 5) rfl
  obtain rfl := Option.some.inj five
  -- Three is for the node, and six for the other end of the pipe.
  have gives : Kernel.Gives Poker.initial.kernel 5 :=
    .inr ⟨3, 5, 6, by decide, by decide, rfl, rfl, rfl⟩
  obtain ⟨q, served, at_⟩ := poker "node" (.default 1)
    { Poker.initial with callers := fun _ => .pushingHandle "node" (.default 1) } 0 rfl rfl
      (by simpa using gives)
  exact ⟨stage .opened none .idle .idle (some 5) (.returned (some 5)) .opening, rfl, q, served, at_⟩

end Handoff

end Grouper.Power
