import Grouper.Audio.HandleSafety
import Grouper.Audio.RouteGroups
import Grouper.Audio.Serial

/-! What calls made at once keep: serial order, the books of the handles, and consistent routes. -/

namespace Grouper.Audio

open HandleEvent (Legal Live Valid)
open Config (Interleaves)

variable {ρ : Type}

section Moves

/-- What opens and closes in a log is legal if the log is. -/
theorem legal_moves {log : List (HandleEvent StreamRef Pcm)} (legal : Legal log) :
    Legal (log.filter HandleMoves) := by
  -- A use neither makes a handle live nor makes it dead.
  have live : ∀ (past : List (HandleEvent StreamRef Pcm)) (argument : Option Pcm),
      Valid past argument → Valid (past.filter HandleMoves) argument := by
    rintro past argument ⟨pcm, is, ⟨owner, opening⟩, unclosed⟩
    refine ⟨pcm, is, ⟨owner, List.mem_filter.mpr ⟨opening, rfl⟩⟩, fun member => ?_⟩
    exact unclosed (List.mem_filter.mp member).1
  induction log with
  | nil => trivial
  | cons event past ih =>
    cases event with
    | opened owner pcm => exact ih legal
    | closed argument => exact ⟨live past argument legal.1, ih legal.2⟩
    | used argument => exact ih legal.2

namespace Ctl

variable (c : Ctl) (s : StreamRef)

/-- Uses that are dropped are gone. -/
@[simp] theorem unused_unused : c.unused.unused = c.unused := by simp [unused]

/-- A change of a stream does not show in the log. -/
@[simp] theorem unused_modify (change : StreamCtl → StreamCtl) :
    (c.modify s change).unused = c.unused.modify s change := rfl

/-- Stopping closes the same handle, whatever was used before. -/
theorem unused_stop : (c.stop s).unused = c.unused.stop s := by
  -- The stream is in standby in both or in neither.
  have same : c.unused.stream = c.stream := rfl
  unfold stop
  rw [same]
  split <;> rfl

/-- What clashes is the same, whatever was used before. -/
theorem unused_stopClashing : (c.stopClashing s).unused = c.unused.stopClashing s := by
  -- The active stream and its standby are the same in both.
  have slots : c.unused.active = c.active := rfl
  have same : c.unused.stream = c.stream := rfl
  unfold stopClashing
  rw [slots, same]
  split
  · rfl
  · split
    · exact unused_stop c _
    · rfl

/-- So is a start up to its handle. -/
theorem unused_prepare : (c.prepare s).unused = c.unused.prepare s :=
  unused_stopClashing (c.modify s fun x => { x with config := c.target s }) s

/-- Serving a stream uses its handle, which is dropped. -/
theorem unused_serve (uses : Nat) : (c.serve s uses).unused = c.unused := by
  -- All that is added to the log is uses.
  have silent : (List.replicate uses (HandleEvent.used (c.stream s).pcm)).filter HandleMoves =
      ([] : List (HandleEvent StreamRef Pcm)) := by
    simp [HandleMoves]
  simp [unused, serve, silent]

/-- Logged as unused, a log is as it is in the machine that leaves out the uses. -/
theorem unused_log : (c.unused.log.filter HandleMoves) = c.log.filter HandleMoves := by
  simp [unused]

/-- A start opens the same handle, whatever was used before. -/
theorem unused_started : (c.started s).unused = (c.unused.started s).unused :=
  Ctl.ext rfl rfl rfl rfl (congrArg (HandleEvent.opened s (c.handle s) :: ·) (unused_log c).symm)

/-- One that fails opens and closes it. -/
theorem unused_startFailed : (c.startFailed s).unused = (c.unused.startFailed s).unused := by
  -- The two events are added to logs that are alike.
  have events := congrArg (fun log => HandleEvent.closed (some (c.handle s)) ::
    HandleEvent.opened s (c.handle s) :: log) (unused_log c).symm
  exact Ctl.ext rfl rfl rfl rfl events

/-- What opens and closes in a step depends on nothing that is used. -/
theorem unused_apply (a : CtlAct) : (c.apply a).unused = (c.unused.apply a).unused := by
  have stream : c.unused.stream = c.stream := rfl
  have device : c.unused.device = c.device := rfl
  cases a with
  | open_ s config home => simp [apply]
  | close s => simp [apply, unused_stop]
  | stop s => simp [apply, unused_stop]
  | transfer s ready uses =>
    show (c.transfer s ready uses).unused = (c.unused.transfer s ready uses).unused
    unfold transfer
    rw [stream]
    split_ifs
    · rw [unused_serve, unused_serve, wake, wake, unused_modify, unused_modify, unused_started,
        unused_prepare]
    · rw [unused_startFailed, unused_prepare]
    · rw [unused_serve, unused_serve, unused_unused]
  | route s devices =>
    show (c.route s devices).unused = (c.unused.route s devices).unused
    unfold route
    rw [device]
    dsimp only
    split_ifs
    · -- The stream is stopped alike, and the route itself is in no log.
      rw [← unused_stop]
      exact Ctl.ext rfl rfl rfl rfl (unused_log (c.stop s)).symm
    · simp [unused]
    · simp
  | query s => simp [apply, unused_serve]
  | idle => simp [apply]

variable {c}

/-- The ledger is kept without the uses as well. -/
theorem Ledgered.unused (held : c.Ledgered) : c.unused.Ledgered where
  settled := ⟨held.settled.closed, held.settled.sorted⟩
  books := by
    -- The books ask about handles opened and closed, and none of these is dropped.
    have opening : ∀ owner pcm, HandleEvent.opened owner pcm ∈ c.unused.log ↔
        HandleEvent.opened owner pcm ∈ c.log := by simp [Ctl.unused, HandleMoves]
    have closing : ∀ pcm, HandleEvent.closed (some pcm) ∈ c.unused.log ↔
        HandleEvent.closed (some pcm) ∈ c.log := by simp [Ctl.unused, HandleMoves]
    refine ⟨fun owner pcm => ?_, fun owner other pcm => ?_, fun owner pcm => ?_, fun pcm => ?_⟩
    · rw [opening, closing]
      exact held.books.tracks owner pcm
    · rw [opening, opening]
      exact held.books.unique owner other pcm
    · rw [opening]
      exact held.books.opened_below owner pcm
    · rw [closing]
      exact held.books.closed_below pcm
  running := held.running
  stale s resting pcm is := List.mem_filter.mpr ⟨held.stale s resting pcm is, rfl⟩

/-- Whatever a call asks about, what it opens and closes is legal. -/
theorem Ledgered.legal_moves_apply (held : c.Ledgered) (legal : Legal c.unused.log) (a : CtlAct) :
    Legal (c.apply a).unused.log := by
  have unused := held.unused
  rw [unused_apply]
  -- A query moves nothing, and no other call asks about a stream in standby.
  cases a with
  | query s =>
    rw [show (c.unused.apply (.query s)).unused = c.unused.unused from unused_serve _ s 1,
      unused_unused]
    exact legal
  | open_ s config home => exact legal_moves ((unused.legal_apply legal _).mpr trivial)
  | close s => exact legal_moves ((unused.legal_apply legal _).mpr trivial)
  | stop s => exact legal_moves ((unused.legal_apply legal _).mpr trivial)
  | transfer s ready uses => exact legal_moves ((unused.legal_apply legal _).mpr trivial)
  | route s devices => exact legal_moves ((unused.legal_apply legal _).mpr trivial)
  | idle => exact legal_moves ((unused.legal_apply legal _).mpr trivial)

end Ctl

end Moves

/-- The PCM handles are accounted for, whoever is in the middle of using one. -/
structure HandlesKept (w : World ρ) : Prop where
  /-- A running stream holds a handle that was opened for it and is not closed. -/
  live : ∀ s, (w.ctl.stream s).standby = false → ∃ pcm, (w.ctl.stream s).pcm = some pcm ∧
    .opened s pcm ∈ w.handleLog ∧ .closed (some pcm) ∉ w.handleLog
  /-- A handle that was opened is closed, or held by the running stream it was opened for. -/
  noLeak : ∀ s pcm, .opened s pcm ∈ w.handleLog → .closed (some pcm) ∉ w.handleLog →
    (w.ctl.stream s).standby = false ∧ (w.ctl.stream s).pcm = some pcm
  /-- No handle is held by two running streams. -/
  apart : ∀ s t pcm, (w.ctl.stream s).standby = false → (w.ctl.stream t).standby = false →
    (w.ctl.stream s).pcm = some pcm → (w.ctl.stream t).pcm = some pcm → s = t
  /-- Only open handles are closed, and each of them once. -/
  closing : Legal (w.handleLog.filter HandleMoves)
  closedAtMostOnce : ∀ pcm, w.handleLog.count (.closed (some pcm)) ≤ 1

/-- The books of the handles say all of that. -/
theorem handlesKept_of_ledgered {w : World ρ} (held : w.ctl.Ledgered)
    (legal : Legal w.ctl.unused.log) : HandlesKept w := by
  -- A running stream holds what was opened for it and is not closed yet.
  have holds : ∀ s pcm, (w.ctl.stream s).standby = false → (w.ctl.stream s).pcm = some pcm →
      .opened s pcm ∈ w.handleLog ∧ .closed (some pcm) ∉ w.handleLog := by
    intro s pcm running is
    exact (held.books.tracks s pcm).mp (by simp [Ctl.holding, running, is])
  refine ⟨fun s running => ?_, fun s pcm opening unclosed => ?_, fun s t pcm one two is it => ?_,
    legal, fun pcm => ?_⟩
  · obtain ⟨pcm, is⟩ := Option.isSome_iff_exists.mp (held.running s running)
    exact ⟨pcm, is, holds s pcm running is⟩
  · have holding := (held.books.tracks s pcm).mpr ⟨opening, unclosed⟩
    unfold Ctl.holding at holding
    split at holding
    · cases holding
    · rename_i running
      exact ⟨eq_false_of_ne_true running, holding⟩
  · exact held.books.unique s t pcm (holds s pcm one is).1 (holds t pcm two it).1
  · have counted := legal.count_closed_le_one pcm
    rwa [show w.ctl.unused.log = w.handleLog.filter HandleMoves from rfl,
      List.count_filter rfl] at counted

/-- They are among what is governed. -/
theorem HandlesKept.congr {v w : World ρ} (kept : HandlesKept w)
    (same : v.governed = w.governed) : HandlesKept v := by
  have stream := governed_stream same
  have log := governed_log same
  -- What opens or closes is in the one log if it is in the other.
  have moves : ∀ event, HandleMoves event = true → (event ∈ v.handleLog ↔ event ∈ w.handleLog) := by
    intro event moves
    have member : ∀ l : List (HandleEvent StreamRef Pcm),
        event ∈ l ↔ event ∈ l.filter HandleMoves := by simp [moves]
    rw [member, log, ← member]
  have opening : ∀ s pcm, .opened s pcm ∈ v.handleLog ↔ .opened s pcm ∈ w.handleLog :=
    fun s pcm => moves _ rfl
  have closing : ∀ pcm, .closed (some pcm) ∈ v.handleLog ↔ .closed (some pcm) ∈ w.handleLog :=
    fun pcm => moves _ rfl
  refine ⟨?_, ?_, ?_, by rw [log]; exact kept.closing, fun pcm => ?_⟩
  · simp only [stream, opening, closing]
    exact kept.live
  · simp only [stream, opening, closing]
    exact kept.noLeak
  · simp only [stream]
    exact kept.apart
  · have counted := kept.closedAtMostOnce pcm
    rwa [← List.count_filter (p := HandleMoves) rfl, ← log, List.count_filter rfl] at counted

/-- One stream of each direction is opened. -/
def opensEachWay : List Act :=
  [.openOutputStream 0 true ⟨outSamplingRate, audioChannelOutStereo⟩,
    .openInputStream 0 true ⟨inSamplingRate, audioChannelInMono⟩ false]

/-- The world they are opened in. -/
def World.opensEachWay : World (Nat × Nat) :=
  ((Act.openInputStream 0 true ⟨inSamplingRate, audioChannelInMono⟩ false).prog .nearest).exec
    (((Act.openOutputStream 0 true ⟨outSamplingRate, audioChannelOutStereo⟩).prog .nearest).exec
      (.initial fun _ => none)).2 |>.2

/-- Each way one stream can be opened. -/
theorem ran_opensEachWay :
    run (step .nearest) (.initial fun _ => none) opensEachWay = some World.opensEachWay := rfl

/-- The calls that may be made at once: all that neither open nor close a stream. -/
def Serves (w : World ρ) (act : Act) : Prop := act.opensOrCloses = false ∧ act.enabled w = true

/-- Two threads: one has written a period, and the other one is about to mute the microphone. -/
theorem interleaves_writing (R : ResamplerLib ρ) {w : World ρ} (opened : w.outOpen 0 = true) :
    ∃ (c : Config Bool (World ρ) Mutex) (now : Bool → Option Act) (past : List Act),
      Interleaves (Act.prog R) (Serves w) .adev w c now past ∧ c.owner .adev = none ∧
        c.code true ≠ none ∧
          c.shared = (((Act.outWrite 0 (fun _ => 0) 2048 .fine).prog R).exec w).2 := by
  -- One thread has written, and the other one has called and not moved yet.
  have begins : Config.Reachable (fun p => ∃ act, Serves w act ∧ p = act.prog R) w
      (.initial w : Config Bool (World ρ) Mutex) := .refl
  have write : Serves w (.outWrite 0 (fun _ => 0) 2048 .fine) := ⟨rfl, opened⟩
  have mute : Serves w (.adevSetMicMute true) := ⟨rfl, rfl⟩
  have wrote := begins.alone (fun _ _ safe => safe.1) false ⟨_, write, rfl⟩ (holds_prog R _)
  have both := wrote.tail ⟨true, .call _ ⟨_, mute, rfl⟩ rfl⟩
  obtain ⟨now, past, interleaves⟩ := Config.Reachable.interleaves .adev both
  exact ⟨_, now, past, interleaves, rfl, by simp, rfl⟩

section Interleaved

variable {τ : Type} [DecidableEq τ] {made : Act → Prop} {w : World ρ}

/--
Calls made at once are as good as calls made one at a time.

Threads make calls on the streams that are open, in any order and at the same time. While the device
mutex is free, everything it governs is what it is after the calls that have released it, made one
at a time in the order in which they did: the routes and the mixer, the slots, every stream's
standby, PCM and configuration, and the handles opened and closed so far.
-/
theorem governed_of_interleaves (R : ResamplerLib ρ) (onOpen : OnOpen w made)
    {c : Config τ (World ρ) Mutex} {now : τ → Option Act} {past : List Act}
    (interleaves : Interleaves (Act.prog R) made .adev w c now past)
    (free : c.owner .adev = none) :
    (∀ act ∈ past, made act) ∧ ∃ final, run (step R) w past = some final ∧
      final.governed = c.shared.governed :=
  interleaves.serial (fun _ here => turned_prog onOpen here) free

/-- While one thread is in the middle of a call, the other's write counts as made. -/
theorem governed_of_interleaves_writing :
    ∃ (w : World (Nat × Nat)) (c : Config Bool (World (Nat × Nat)) Mutex) (past : List Act)
      (final : World (Nat × Nat)),
      run (step .nearest) (.initial fun _ => none) opensEachWay = some w ∧ c.code true ≠ none ∧
        (c.shared.outs 0).standby = false ∧ run (step .nearest) w past = some final ∧
          final.governed = c.shared.governed := by
  -- The first call comes in the middle of the other one.
  obtain ⟨c, now, past, interleaves, free, busy, shared⟩ :=
    interleaves_writing (w := World.opensEachWay) .nearest rfl
  have onOpen : OnOpen World.opensEachWay (Serves World.opensEachWay) := fun _ serves => serves
  obtain ⟨_, final, ran, same⟩ := governed_of_interleaves .nearest onOpen interleaves free
  exact ⟨_, c, past, final, ran_opensEachWay, busy, by rw [shared]; rfl, ran, same⟩

/-- Wherever calls made at once lead, some run from the opened device leads as well. -/
theorem run_of_interleaves (R : ResamplerLib ρ) {hardware : Settings} {before : List Act}
    (ran : run (step R) (.initial hardware) before = some w) (onOpen : OnOpen w made)
    {c : Config τ (World ρ) Mutex} {now : τ → Option Act} {past : List Act}
    (interleaves : Interleaves (Act.prog R) made .adev w c now past)
    (free : c.owner .adev = none) :
    ∃ final, run (step R) (.initial hardware) (before ++ past) = some final ∧
      SameOpen final w ∧ c.shared.governed = final.governed := by
  obtain ⟨all, final, went, same⟩ := interleaves.serial (fun _ here => turned_prog onOpen here) free
  exact ⟨final, run_append.mpr ⟨w, ran, went⟩, sameOpen_run onOpen all went, same.symm⟩

/--
Calls made at once keep the books of the PCM handles.

However threads interleave their calls on the open streams, while the device mutex is free every
running stream holds an open handle of its own, every handle not so held is closed, and nothing was
closed twice or without having been opened.
-/
theorem handlesKept_of_interleaves (R : ResamplerLib ρ) {hardware : Settings} {before : List Act}
    (ran : run (step R) (.initial hardware) before = some w) (onOpen : OnOpen w made)
    {c : Config τ (World ρ) Mutex} {now : τ → Option Act} {past : List Act}
    (interleaves : Interleaves (Act.prog R) made .adev w c now past)
    (free : c.owner .adev = none) : HandlesKept c.shared := by
  -- The calls, in the order of their locks, are a run that keeps the books.
  obtain ⟨final, went, _, same⟩ := run_of_interleaves R ran onOpen interleaves free
  have start : (World.initial hardware : World ρ).ctl.Ledgered ∧
      Legal (World.initial hardware : World ρ).ctl.unused.log :=
    ⟨ledgered_initial hardware, trivial⟩
  have kept : ∀ v act next, (v.ctl.Ledgered ∧ Legal v.ctl.unused.log) → step R v act = some next →
      next.ctl.Ledgered ∧ Legal next.ctl.unused.log := by
    rintro v act next ⟨held, legal⟩ stepped
    obtain ⟨uses, _, ended⟩ := ctl_step R stepped
    refine ⟨ledgered_step R v act next held stepped, ?_⟩
    rw [ended]
    exact held.legal_moves_apply legal _
  obtain ⟨held, legal⟩ := run_invariant' kept start went
  exact (handlesKept_of_ledgered held legal).congr same

/-- In such an interleaving the running output stream holds an open handle. -/
theorem handlesKept_of_interleaves_writing :
    ∃ (c : Config Bool (World (Nat × Nat)) Mutex), c.code true ≠ none ∧
      (c.shared.outs 0).standby = false ∧ HandlesKept c.shared := by
  -- The first call comes in the middle of the other one.
  obtain ⟨c, now, past, interleaves, free, busy, shared⟩ :=
    interleaves_writing (w := World.opensEachWay) .nearest rfl
  have onOpen : OnOpen World.opensEachWay (Serves World.opensEachWay) := fun _ serves => serves
  have kept := handlesKept_of_interleaves .nearest ran_opensEachWay onOpen interleaves free
  exact ⟨c, busy, by rw [shared]; rfl, kept⟩

/-- Along a run with one stream a direction at most, the control machine stays consistent. -/
theorem consistent_of_run (R : ResamplerLib ρ) {v final : World ρ} (held : v.ctl.Consistent)
    {acts : List Act} (single : Along (step R) (fun v _ => AtMostOneEach v) v acts)
    (ran : run (step R) v acts = some final) : final.ctl.Consistent := by
  -- The induction is on the calls, each with one stream open in each direction.
  have kept : ∀ v act next, v.ctl.Consistent → AtMostOneEach v → step R v act = some next →
      next.ctl.Consistent := by
    intro v act next held lone stepped
    obtain ⟨uses, allowed, ended⟩ := ctl_step R stepped
    rw [ended]
    exact held.apply (lone_iff.mpr lone) allowed
  exact run_invariant kept held single ran

/--
With one stream of each direction, calls made at once keep routes and slots consistent.

While the device mutex is free, a stream runs exactly if it is in its slot, running streams hold the
PCM of their route, and two running PCMs share a group of rates.
-/
theorem routeConsistent_of_interleaves (R : ResamplerLib ρ) {hardware : Settings}
    {before : List Act} (ran : run (step R) (.initial hardware) before = some w)
    (single : Always (step R) AtMostOneEach (.initial hardware) before) (onOpen : OnOpen w made)
    {c : Config τ (World ρ) Mutex} {now : τ → Option Act} {past : List Act}
    (interleaves : Interleaves (Act.prog R) made .adev w c now past)
    (free : c.owner .adev = none) : ActiveExact c.shared ∧ RouteConsistent c.shared := by
  obtain ⟨all, final, went, same⟩ := interleaves.serial (fun _ here => turned_prog onOpen here) free
  have opened : w.ctl.Consistent :=
    consistent_of_run R (consistent_initial hardware) single.along ran
  -- The calls leave the same streams open, so there is one of each direction all along.
  have lone : AtMostOneEach w := single.last ran
  have alone : Always (step R) AtMostOneEach w past := by
    have open_ := always_of_along (sameOpen_kept (R := R) onOpen) ⟨rfl, rfl⟩
      (along_of_forall all w)
    refine open_.mono fun v held => ?_
    unfold AtMostOneEach
    rw [held.1, held.2]
    exact lone
  have held := consistent_of_run R opened alone.along went
  have device : c.shared.ctl.device = final.ctl.device :=
    congrArg (fun g => g.ctl.device) same.symm
  have consistent : c.shared.ctl.Consistent :=
    held.congr device (governed_active same.symm) (governed_stream same.symm)
  exact ⟨(activeExact_iff consistent.settled).mpr consistent.exact_,
    routeConsistent_of_consistent consistent⟩

/-- With one stream of each direction open, a running output stream is in its slot. -/
theorem routeConsistent_of_interleaves_writing :
    ∃ (c : Config Bool (World (Nat × Nat)) Mutex), c.code true ≠ none ∧
      c.shared.adev.activeOut = some 0 ∧ ActiveExact c.shared ∧ RouteConsistent c.shared := by
  -- No stream is open at first, and then one in each direction.
  have none_ : ∀ o p : Nat, (fun _ => false) o = true → (fun _ => false) p = true → o = p :=
    fun o p one => by simp at one
  have one_ : ∀ o p : Nat, Function.update (fun _ => false) 0 true o = true →
      Function.update (fun _ => false) 0 true p = true → o = p := by
    intro o p one two
    simp only [Function.update_apply] at one two
    simp_all
  have single : Always (step .nearest) AtMostOneEach
      (World.initial fun _ => none : World (Nat × Nat)) opensEachWay := by
    refine ⟨⟨none_, none_⟩, fun v stepped => ?_⟩
    obtain rfl := Option.some.inj stepped
    refine ⟨⟨one_, none_⟩, fun v stepped => ?_⟩
    obtain rfl := Option.some.inj stepped
    exact ⟨one_, one_⟩
  obtain ⟨c, now, past, interleaves, free, busy, shared⟩ :=
    interleaves_writing (w := World.opensEachWay) .nearest rfl
  have onOpen : OnOpen World.opensEachWay (Serves World.opensEachWay) := fun _ serves => serves
  have kept :=
    routeConsistent_of_interleaves .nearest ran_opensEachWay single onOpen interleaves free
  exact ⟨c, busy, by rw [shared]; rfl, kept⟩

end Interleaved

end Grouper.Audio
