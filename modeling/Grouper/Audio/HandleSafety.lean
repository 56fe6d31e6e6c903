import Grouper.Audio.ActiveStreams

/-! Every handle is opened before it is used and closed once, except for a position query. -/

namespace Grouper.Audio

open Function (update)
open HandleEvent (Legal Valid Live Books)

namespace Ctl

/-- The handle a stream has yet to close. -/
def holding (c : Ctl) (s : StreamRef) : Option Pcm :=
  if (c.stream s).standby then none else (c.stream s).pcm

/-- What every run keeps about the handles in the streams. -/
structure Ledgered (c : Ctl) : Prop where
  settled : c.Settled
  books : Books Pcm.serial c.log c.opened c.holding
  running : ∀ s, (c.stream s).standby = false → (c.stream s).pcm.isSome
  /-- What a stream in standby still refers to has been closed. -/
  stale : ∀ s, (c.stream s).standby = true → ∀ pcm, (c.stream s).pcm = some pcm →
    .closed (some pcm) ∈ c.log

variable {c : Ctl}

/-- A running stream holds the handle it refers to, and the handle is live. -/
theorem Ledgered.valid (held : c.Ledgered) {s : StreamRef}
    (running : (c.stream s).standby = false) : Valid c.log (c.stream s).pcm := by
  -- A running stream has a handle, and the books hold it.
  obtain ⟨pcm, is⟩ := Option.isSome_iff_exists.mp (held.running s running)
  rw [is]
  exact held.books.valid (by rw [holding, running]; simpa using is)

/-- A stream in standby has no valid handle to offer. -/
theorem Ledgered.invalid (held : c.Ledgered) {s : StreamRef}
    (standby : (c.stream s).standby = true) : ¬ Valid c.log (c.stream s).pcm := by
  rintro ⟨pcm, is, _, unclosed⟩
  exact unclosed (held.stale s standby pcm is)

/-- A change that keeps handles and standby flags keeps the ledger. -/
theorem Ledgered.modify (held : c.Ledgered) (s : StreamRef) {change : StreamCtl → StreamCtl}
    (standby : (change (c.stream s)).standby = (c.stream s).standby)
    (closed : (change (c.stream s)).isOpen = false → (change (c.stream s)).standby = true)
    (pcm : (change (c.stream s)).pcm = (c.stream s).pcm ∨
      (c.stream s).standby = true ∧ (change (c.stream s)).pcm = none) :
    (c.modify s change).Ledgered := by
  -- Neither the standby flag nor a handle that counts is changed, so the books are the same.
  have holds : (c.modify s change).holding = c.holding := by
    funext t
    by_cases same : t = s
    · subst same
      rcases pcm with kept | ⟨rested, _⟩
      · simp [holding, standby, kept]
      · simp [holding, standby, rested]
    · simp [holding, modify_stream_of_ne c s same]
  refine ⟨held.settled.modify s change closed, holds ▸ held.books, fun t running => ?_,
    fun t rested it is => ?_⟩
  · by_cases same : t = s
    · subst same
      rw [modify_stream_self] at running ⊢
      rw [standby] at running
      rcases pcm with kept | ⟨rested, _⟩
      · rw [kept]
        exact held.running t running
      · simp [rested] at running
    · rw [modify_stream_of_ne c s same] at running ⊢
      exact held.running t running
  · by_cases same : t = s
    · subst same
      rw [modify_stream_self] at rested is
      rcases pcm with kept | ⟨_, empty⟩
      · exact held.stale t (standby ▸ rested) it (kept ▸ is)
      · simp [empty] at is
    · rw [modify_stream_of_ne c s same] at rested is
      exact held.stale t rested it is

/-- The routes and the slots have no part in the ledger, beyond the direction of a slot. -/
theorem Ledgered.congr {d : Ctl} (held : c.Ledgered) (settled : d.Settled)
    (stream : d.stream = c.stream) (opened : d.opened = c.opened) (log : d.log = c.log) :
    d.Ledgered where
  settled := settled
  books := by
    -- The books are kept of the streams, the handles opened and the log.
    have holds : d.holding = c.holding := by
      funext s
      simp [holding, stream]
    rw [holds, opened, log]
    exact held.books
  running := by rw [stream]; exact held.running
  stale := by rw [stream, log]; exact held.stale

/-- Stopping a running stream closes the handle it holds. -/
theorem Ledgered.stop (held : c.Ledgered) (s : StreamRef) : (c.stop s).Ledgered := by
  cases standby : (c.stream s).standby with
  | true => rwa [stop_of_standby c s standby]
  | false =>
    obtain ⟨pcm, is⟩ := Option.isSome_iff_exists.mp (held.running s standby)
    have holds : c.holding s = some pcm := by simp [holding, standby, is]
    have log : (c.stop s).log = .closed (some pcm) :: c.log := by simp [Ctl.stop, standby, is]
    -- The stream gives up its handle, and the others keep theirs.
    have holding' : (c.stop s).holding = update c.holding s none := by
      funext t
      by_cases same : t = s
      · subst same
        simp [holding]
      · simp [holding, same]
    refine ⟨held.settled.stop s, ?_, fun t running => ?_, fun t rested it found => ?_⟩
    · rw [log, holding', stop_opened]
      exact held.books.close holds
    · -- A stream that still runs is another one.
      have apart : t ≠ s := fun same => by simp [same] at running
      rw [stop_stream_of_ne c s apart] at running ⊢
      exact held.running t running
    · rw [log]
      by_cases same : t = s
      · subst same
        simp [Ctl.stop, standby] at found
      · rw [stop_stream_of_ne c s same] at rested found
        exact List.mem_cons_of_mem _ (held.stale t rested it found)

/-- Stopping a stream is legal, because what it closes is live. -/
theorem Ledgered.legal_stop (held : c.Ledgered) (legal : Legal c.log) (s : StreamRef) :
    Legal (c.stop s).log := by
  -- A stream in standby stops nothing; a running one closes a handle it may still use.
  cases standby : (c.stream s).standby with
  | true => rwa [stop_of_standby c s standby]
  | false =>
    have log : (c.stop s).log = .closed (c.stream s).pcm :: c.log := by simp [Ctl.stop, standby]
    rw [log]
    exact ⟨held.valid standby, legal⟩

/-- Making way for a start keeps the books. -/
theorem Ledgered.prepare (held : c.Ledgered) (s : StreamRef) : (c.prepare s).Ledgered := by
  -- The streams that clash are stopped behind the new configuration.
  have configured : (c.modify s fun x => { x with config := c.target s }).Ledgered :=
    held.modify s (by rfl) (held.settled.closed s) (Or.inl (by rfl))
  exact stopClashing_preserves _ s Ledgered configured fun t _ => configured.stop t

/-- And it uses and closes live handles only. -/
theorem Ledgered.legal_prepare (held : c.Ledgered) (legal : Legal c.log) (s : StreamRef) :
    Legal (c.prepare s).log := by
  -- The streams that clash are stopped behind the new configuration.
  have configured : (c.modify s fun x => { x with config := c.target s }).Ledgered :=
    held.modify s (by rfl) (held.settled.closed s) (Or.inl (by rfl))
  exact stopClashing_preserves _ s (fun d => Legal d.log) legal fun t _ =>
    configured.legal_stop legal t

/-- A handle that was just returned has not been closed. -/
theorem Ledgered.live_handle (held : c.Ledgered) (s : StreamRef) :
    Live (.used (some (c.handle s)) :: .opened s (c.handle s) :: c.log) (c.handle s) :=
  (HandleEvent.live_used _ _ _).mpr (HandleEvent.live_opened s
    (held.books.fresh_unclosed (c.handle s) (Nat.le_refl _)))

/-- So does a start whose PCM is ready. -/
theorem Ledgered.legal_started (held : c.Ledgered) (legal : Legal c.log) (s : StreamRef) :
    Legal (c.started s).log :=
  ⟨⟨_, rfl, (HandleEvent.live_used _ _ _).mp (held.live_handle s)⟩, legal⟩

/-- So does a start that closes its handle at once. -/
theorem Ledgered.legal_startFailed (held : c.Ledgered) (legal : Legal c.log) (s : StreamRef) :
    Legal (c.startFailed s).log :=
  ⟨⟨_, rfl, held.live_handle s⟩, held.legal_started legal s⟩

/-- A stream that starts enters its new handle in the books. -/
theorem Ledgered.started (held : c.Ledgered) {s : StreamRef} {uses : Nat}
    (rested : (c.stream s).standby = true)
    (settled : (((c.started s).wake s).serve s uses).Settled) :
    (((c.started s).wake s).serve s uses).Ledgered := by
  have self : (((c.started s).wake s).serve s uses).stream s = { c.stream s with
      pcm := some (c.handle s)
      standby := false } := by simp [wake, Ctl.started]
  have others : ∀ t, t ≠ s → (((c.started s).wake s).serve s uses).stream t = c.stream t :=
    fun t apart => by simp [wake, Ctl.started, Ctl.modify, apart]
  -- The log gains the opening, the test of the handle and the uses, in this order.
  have log : (((c.started s).wake s).serve s uses).log =
      List.replicate uses (.used (some (c.handle s))) ++
        .used (some (c.handle s)) :: .opened s (c.handle s) :: c.log := by
    simp [serve, wake, Ctl.started]
  have holds : (((c.started s).wake s).serve s uses).holding =
      update c.holding s (some (c.handle s)) := by
    funext t
    by_cases same : t = s
    · subst same
      simp [holding, self]
    · rw [Function.update_of_ne same, holding, others t same, holding]
  -- In standby the stream has no handle to lose.
  have empty : c.holding s = none := by simp [holding, rested]
  refine ⟨settled, ?_, fun t running => ?_, fun t resting it is => ?_⟩
  · rw [holds, log]
    exact ((held.books.open_ empty rfl).use _).useMany _ uses
  · by_cases same : t = s
    · subst same
      rw [self]
      rfl
    · rw [others t same] at running ⊢
      exact held.running t running
  · by_cases same : t = s
    · subst same
      simp [self] at resting
    · rw [others t same] at resting is
      rw [log]
      refine List.mem_append_right _ (List.mem_cons_of_mem _ (List.mem_cons_of_mem _ ?_))
      exact held.stale t resting it is

/-- A stream that fails to start keeps a handle that has been closed. -/
theorem Ledgered.startFailed (held : c.Ledgered) {s : StreamRef}
    (rested : (c.stream s).standby = true) (settled : (c.startFailed s).Settled) :
    (c.startFailed s).Ledgered := by
  have self : (c.startFailed s).stream s = { c.stream s with pcm := some (c.handle s) } := by
    simp [Ctl.startFailed]
  have others : ∀ t, t ≠ s → (c.startFailed s).stream t = c.stream t := fun t apart => by
    simp [Ctl.startFailed, Ctl.modify, apart]
  have holds : (c.startFailed s).holding = c.holding := by
    funext t
    by_cases same : t = s
    · subst same
      simp [holding, self, rested]
    · simp [holding, others t same]
  have empty : c.holding s = none := by simp [holding, rested]
  refine ⟨settled, ?_, fun t running => ?_, fun t resting it is => ?_⟩
  · rw [holds]
    exact held.books.openFailed empty rfl _
  · by_cases same : t = s
    · subst same
      simp [self, rested] at running
    · rw [others t same] at running ⊢
      exact held.running t running
  · by_cases same : t = s
    · subst same
      -- The handle it refers to is the one that was closed a moment ago.
      have is : c.handle t = it := by simpa [self] using is
      rw [← is]
      exact List.mem_cons_self
    · rw [others t same] at resting is
      refine List.mem_cons_of_mem _ (List.mem_cons_of_mem _ (List.mem_cons_of_mem _ ?_))
      exact held.stale t resting it is

/-- The log of a served stream, and nothing else about it, grows. -/
theorem Ledgered.serve (held : c.Ledgered) (s : StreamRef) (uses : Nat) :
    (c.serve s uses).Ledgered where
  settled := ⟨held.settled.closed, held.settled.sorted⟩
  books := held.books.useMany _ uses
  running := held.running
  stale t resting it is := List.mem_append_right _ (held.stale t resting it is)

/-- A transfer keeps the books, whether it starts the stream, fails to, or finds it running. -/
theorem Ledgered.transfer (held : c.Ledgered) {s : StreamRef}
    (isOpen : (c.stream s).isOpen = true) (ready : Bool) (uses : Nat) :
    (c.transfer s ready uses).Ledgered := by
  have settled := held.settled.transfer isOpen ready uses
  -- Preparing a start leaves the stream itself in standby, whatever it stops.
  have own := (held.settled.prepare_own s).1
  unfold Ctl.transfer at settled ⊢
  split_ifs at settled ⊢ with rested starts
  · exact (held.prepare s).started (own.trans rested) settled
  · exact (held.prepare s).startFailed (own.trans rested) settled
  · exact held.serve s uses

/-- A transfer uses a live handle only: the one the stream holds, or the one it has just opened. -/
theorem Ledgered.legal_transfer (held : c.Ledgered) (legal : Legal c.log) (s : StreamRef)
    (ready : Bool) (uses : Nat) : Legal (c.transfer s ready uses).log := by
  have prepared := held.prepare s
  have legalPrepared := held.legal_prepare legal s
  unfold Ctl.transfer
  split_ifs with rested starts
  · have started := prepared.legal_started legalPrepared s
    refine started.useMany ?_ uses
    -- All that is used from here on is the handle that was opened.
    have handle : ((((c.prepare s).started s).wake s).stream s).pcm =
        some ((c.prepare s).handle s) := by simp [wake, Ctl.started]
    rw [handle]
    exact ⟨_, rfl, prepared.live_handle s⟩
  · exact prepared.legal_startFailed legalPrepared s
  · exact legal.useMany (held.valid (by simpa using rested)) uses

/-- Every operation keeps the books. -/
theorem Ledgered.apply (held : c.Ledgered) {a : CtlAct} (allowed : a.Allowed c) :
    (c.apply a).Ledgered := by
  -- By the operation; a route change may stop its stream before it moves the path.
  cases a with
  | open_ s config home =>
    rw [Ctl.apply]
    have rested := held.settled.closed s allowed.1
    exact held.modify s rested.symm (fun _ => rfl) (Or.inr ⟨rested, rfl⟩)
  | close s =>
    rw [Ctl.apply]
    exact (held.stop s).modify s (by rfl) (fun _ => stop_stream_self c s) (Or.inl (by rfl))
  | stop s => exact held.stop s
  | transfer s ready uses => exact held.transfer allowed ready uses
  | route s devices =>
    have settled := held.settled.apply (a := .route s devices) allowed
    unfold Ctl.apply Ctl.route at settled ⊢
    dsimp only at settled ⊢
    split_ifs at settled ⊢
    · exact (held.stop s).congr settled (by rfl) (by rfl) (by rfl)
    · exact held.congr settled (by rfl) (by rfl) (by rfl)
    · exact held
  | query s => exact held.serve s 1
  | idle => exact held

end Ctl

/-- A call does not ask about a stream that is in standby. -/
def CtlAct.AsksRunning (c : Ctl) : CtlAct → Prop
  | .query s => (c.stream s).standby = false
  | _ => True

/-- A call keeps the log legal precisely when it does not ask about a stream in standby. -/
theorem Ctl.Ledgered.legal_apply {c : Ctl} (held : c.Ledgered) (legal : Legal c.log) (a : CtlAct) :
    Legal (c.apply a).log ↔ a.AsksRunning c := by
  cases a with
  | query s =>
    have split : Legal (c.serve s 1).log ↔ Valid c.log (c.stream s).pcm ∧ Legal c.log := Iff.rfl
    change Legal (c.serve s 1).log ↔ (c.stream s).standby = false
    rw [split]
    -- A query is a use of the handle of its stream, valid precisely when the stream runs.
    constructor
    · intro uses
      cases standby : (c.stream s).standby with
      | true => exact absurd uses.1 (held.invalid standby)
      | false => rfl
    · exact fun running => ⟨held.valid running, legal⟩
  | open_ s config home => exact iff_of_true legal trivial
  | close s => exact iff_of_true (held.legal_stop legal s) trivial
  | stop s => exact iff_of_true (held.legal_stop legal s) trivial
  | transfer s ready uses => exact iff_of_true (held.legal_transfer legal s ready uses) trivial
  | route s devices =>
    refine iff_of_true ?_ trivial
    unfold Ctl.apply Ctl.route
    dsimp only
    split_ifs
    · exact held.legal_stop legal s
    · exact legal
    · exact legal
  | idle => exact iff_of_true legal trivial

variable {ρ : Type}

/-- A stream of either direction is open. -/
def World.isOpen (w : World ρ) : StreamRef → Bool
  | .output o => w.outOpen o
  | .input i => w.inOpen i

/-- The PCM handles have been used as the PCM library asks for. -/
structure HandleSafe (w : World ρ) : Prop where
  /-- Every call was made on a handle opened before and not closed since. -/
  legal : Legal w.handleLog
  closedAtMostOnce : ∀ pcm, w.handleLog.count (.closed (some pcm)) ≤ 1
  /-- Once a stream is closed, every handle that was opened for it has been closed. -/
  closedWithStream : ∀ s pcm, .opened s pcm ∈ w.handleLog → w.isOpen s = false →
    w.handleLog.count (.closed (some pcm)) = 1

/-- A position is asked for only while its stream is out of standby. -/
def AsksWhileRunning (w : World ρ) : Act → Prop
  | .outGetPresentationPosition o _ => (w.outs o).standby = false
  | _ => True

/-- A fresh device has opened no handle and holds none. -/
theorem ledgered_initial (hardware : Settings) :
    (World.initial hardware : World ρ).ctl.Ledgered where
  settled := settled_initial hardware
  books := by
    -- No stream holds a handle.
    have empty : (World.initial hardware : World ρ).ctl.holding = fun _ => none := by
      funext s
      cases s <;> rfl
    rw [empty]
    exact Books.nil Pcm.serial
  running s running := by
    cases s <;> simp [World.ctl, World.initial, StreamOut.ctl, StreamIn.ctl, StreamOut.opened,
      StreamIn.opened] at running
  stale s _ pcm is := by
    cases s <;> simp [World.ctl, World.initial, StreamOut.ctl, StreamIn.ctl, StreamOut.opened,
      StreamIn.opened] at is

/-- A call of an entry point keeps the books. -/
theorem ledgered_step (R : ResamplerLib ρ) (w : World ρ) (act : Act) (next : World ρ)
    (held : w.ctl.Ledgered) (stepped : step R w act = some next) : next.ctl.Ledgered := by
  -- Seen through the control part, a call is one of the operations.
  obtain ⟨uses, allowed, ended⟩ := ctl_step R stepped
  rw [ended]
  exact held.apply allowed

/-- Given the books, a legal log is all there is to handle safety. -/
theorem handleSafe_iff {w : World ρ} (held : w.ctl.Ledgered) :
    HandleSafe w ↔ Legal w.handleLog := by
  refine ⟨fun safe => safe.legal, fun legal => ⟨legal, legal.count_closed_le_one, ?_⟩⟩
  -- A closed stream is in standby and holds nothing, so what was opened for it was closed.
  intro s pcm opening closed
  have standby : (w.ctl.stream s).standby = true := held.settled.closed s (by
    cases s <;> simpa [World.isOpen, StreamOut.ctl, StreamIn.ctl] using closed)
  exact held.books.closed_once legal (by simp [Ctl.holding, standby]) opening

/-- The condition on a call is the one on its operation. -/
theorem asksRunning_iff {w : World ρ} {act : Act} (uses : Nat) :
    (act.ctl uses).AsksRunning w.ctl ↔ AsksWhileRunning w act := by
  -- Only the position query asks anything of the state.
  cases act with
  | outGetPresentationPosition o htimestamp => exact Iff.rfl
  | openOutputStream o calloc config =>
    unfold Act.ctl
    dsimp only
    split <;> exact Iff.rfl
  | openInputStream i calloc config fast =>
    unfold Act.ctl
    dsimp only
    split_ifs <;> exact Iff.rfl
  | outSetParameters o routing =>
    unfold Act.ctl
    dsimp only
    split <;> exact Iff.rfl
  | inSetParameters i routing =>
    unfold Act.ctl
    dsimp only
    split <;> exact Iff.rfl
  | _ => exact Iff.rfl

/-- A run is handle safe throughout precisely when it asks no stream in standby for a position. -/
theorem handleSafe_always_iff (R : ResamplerLib ρ) (hardware : Settings) (acts : List Act)
    (final : World ρ) (ran : run (step R) (.initial hardware) acts = some final) :
    Always (step R) HandleSafe (.initial hardware) acts ↔
      Along (step R) AsksWhileRunning (.initial hardware) acts := by
  have start : HandleSafe (World.initial hardware : World ρ) :=
    (handleSafe_iff (ledgered_initial hardware)).mpr trivial
  refine always_iff_along (ledgered_step R) (fun w act next held good stepped => ?_)
    (ledgered_initial hardware) start ran
  -- The ledger holds at both ends of the step, so only the legality of the log is in question.
  obtain ⟨uses, allowed, ended⟩ := ctl_step R stepped
  have legal : Legal w.ctl.log := (handleSafe_iff held).mp good
  rw [handleSafe_iff (ledgered_step R w act next held stepped)]
  change Legal next.ctl.log ↔ _
  rw [ended, held.legal_apply legal, asksRunning_iff]

/-- An output stream is opened, and its position is asked for before anything was written. -/
def asksBeforeWriting : List Act :=
  [.openOutputStream 0 true ⟨outSamplingRate, audioChannelOutStereo⟩,
    .outGetPresentationPosition 0 none]

/-- A run that asks before the first write meets neither side. -/
theorem handleSafe_always_iff_asking : ∃ final,
    run (step .nearest) (.initial fun _ => none) asksBeforeWriting = some final ∧
      (Always (step .nearest) HandleSafe (.initial fun _ => none) asksBeforeWriting ↔
        Along (step .nearest) AsksWhileRunning (.initial fun _ => none) asksBeforeWriting) :=
  ⟨_, rfl, handleSafe_always_iff _ _ _ _ rfl⟩

/-- The position of a stream that was never written to is asked of a null handle. -/
theorem handleSafe_fails : ∃ final,
    run (step .nearest) (.initial fun _ => none) asksBeforeWriting = some final ∧
      final.handleLog = [.used none] ∧ ¬ HandleSafe final := by
  -- What is used is the null handle of a stream that was never started.
  refine ⟨_, rfl, rfl, fun safe => ?_⟩
  have asked : Valid [] (none : Option Pcm) := safe.legal.1
  obtain ⟨_, null, _⟩ := asked
  cases null

end Grouper.Audio
