import Grouper.Audio.Routing

/-! Every entry point takes and releases the mutexes in a way that cannot block the HAL. -/

namespace Grouper.Audio

open Prog (Quiet Holds acquire release when)

variable {ρ : Type}

/-- A call of the kernel takes no mutex. -/
theorem quiet_record (call : Call) : Quiet (record call : Hal ρ Unit) := Prog.quiet_update _

/-- Reading an output stream takes none. -/
theorem quiet_getOut (o : Nat) : Quiet (getOut o : Hal ρ (StreamOut ρ)) :=
  .bind Prog.quiet_state fun _ => Prog.quiet_pure _

/-- Reading an input stream takes none. -/
theorem quiet_getIn (i : Nat) : Quiet (getIn i : Hal ρ (StreamIn ρ)) :=
  .bind Prog.quiet_state fun _ => Prog.quiet_pure _

/-- Reading the device takes none. -/
theorem quiet_getAdev : Quiet (getAdev : Hal ρ AudioDevice) :=
  .bind Prog.quiet_state fun _ => Prog.quiet_pure _

/-- Nor does a change of the device. -/
theorem quiet_modifyAdev (change : AudioDevice → AudioDevice) :
    Quiet (modifyAdev change : Hal ρ Unit) := Prog.quiet_update _

/-- Nor one of an output stream. -/
theorem quiet_modifyOut (o : Nat) (change : StreamOut ρ → StreamOut ρ) :
    Quiet (modifyOut o change) := Prog.quiet_update _

/-- Nor one of an input stream. -/
theorem quiet_modifyIn (i : Nat) (change : StreamIn ρ → StreamIn ρ) :
    Quiet (modifyIn i change) := Prog.quiet_update _

/-- Putting an output stream into standby relies on mutexes its caller already holds. -/
theorem quiet_doOutStandby (o : Nat) : Quiet (doOutStandby o : Hal ρ Unit) :=
  Prog.quiet_of_aloof fun _ => aloof_doOutStandby o

/-- Putting an input stream into standby relies on mutexes its caller already holds. -/
theorem quiet_doInStandby (i : Nat) : Quiet (doInStandby i : Hal ρ Unit) :=
  Prog.quiet_of_aloof fun _ => aloof_doInStandby i

/-- Capturing holds the stream mutex throughout and touches none. -/
theorem quiet_capture (R : ResamplerLib ρ) (i : Nat) (env : InReadEnv) (bytes : Nat)
    (buffer : Samples) : Quiet (capture R i env bytes buffer) :=
  Prog.quiet_of_aloof fun _ => aloof_capture R i env bytes buffer

/-- The judgement of the HAL: second mutexes only under the device mutex. -/
abbrev Safe : List Mutex → Mutex → Prop := Config.Gated .adev

section Programs

variable {held : List Mutex}

/-- Stopping the other direction takes and releases one mutex under the device mutex. -/
theorem holds_stopClashingIn (o : Nat) (gate : .adev ∈ held) (apart : ∀ i, .in_ i ∉ held) :
    Holds Safe held (stopClashingIn o : Hal ρ Unit) fun _ left => left = held := by
  refine Prog.holds_bind.mpr ((quiet_getAdev).holds fun adev => ?_)
  split
  · rfl
  · -- The other stream's mutex is a second one, so it needs the device mutex to be held.
    rename_i i _
    refine Prog.holds_bind.mpr (Prog.holds_acquire.mpr ⟨⟨apart i, Or.inr gate⟩, ?_⟩)
    refine Prog.holds_bind.mpr ((quiet_getOut o).holds fun out => ?_)
    refine Prog.holds_bind.mpr ((quiet_getIn i).holds fun in_ => ?_)
    refine Prog.holds_bind.mpr ((Quiet.when (quiet_doInStandby i)).holds fun _ => ?_)
    exact Prog.holds_release.mpr ⟨List.mem_cons_self, List.erase_cons_head ..⟩

/-- And so does stopping an output stream from a start of capture. -/
theorem holds_stopClashingOut (i : Nat) (gate : .adev ∈ held) (apart : ∀ o, .out o ∉ held) :
    Holds Safe held (stopClashingOut i : Hal ρ Unit) fun _ left => left = held := by
  -- As with the input stream, the second mutex is taken under that of the device.
  refine Prog.holds_bind.mpr ((quiet_getAdev).holds fun adev => ?_)
  split
  · rfl
  · rename_i o _
    refine Prog.holds_bind.mpr (Prog.holds_acquire.mpr ⟨⟨apart o, Or.inr gate⟩, ?_⟩)
    refine Prog.holds_bind.mpr ((quiet_getIn i).holds fun in_ => ?_)
    refine Prog.holds_bind.mpr ((quiet_getOut o).holds fun out => ?_)
    refine Prog.holds_bind.mpr ((Quiet.when (quiet_doOutStandby o)).holds fun _ => ?_)
    exact Prog.holds_release.mpr ⟨List.mem_cons_self, List.erase_cons_head ..⟩

/-- From `pcm_open` on, a start touches no mutex. -/
theorem quiet_openOutputPcm (R : ResamplerLib ρ) (o device : Nat) (env : StartEnv) :
    Quiet (openOutputPcm R o device env) :=
  Prog.quiet_of_aloof fun _ => aloof_openOutputPcm R o device env

/-- The same holds of a start of capture. -/
theorem quiet_openInputPcm (R : ResamplerLib ρ) (i device : Nat) (env : StartEnv) :
    Quiet (openInputPcm R i device env) :=
  Prog.quiet_of_aloof fun _ => aloof_openInputPcm R i device env

/-- Starting an output stream leaves its caller's mutexes as they were, whether it fails or not. -/
theorem holds_startOutputStream (R : ResamplerLib ρ) (o : Nat) (env : StartEnv)
    (gate : .adev ∈ held) (apart : ∀ i, .in_ i ∉ held) :
    Holds Safe held (startOutputStream R o env) fun _ left => left = held := by
  -- Stopping what clashes is the one step that takes a mutex.
  refine Prog.holds_bind.mpr (quiet_getAdev.holds fun adev => ?_)
  refine Prog.holds_bind.mpr ((quiet_modifyOut o _).holds fun _ => ?_)
  refine Prog.holds_bind.mpr ((holds_stopClashingIn o gate apart).mono fun _ left same => ?_)
  subst same
  exact (quiet_openOutputPcm R o _ env).holds fun _ => rfl

/-- Starting an input stream, too, leaves its caller's mutexes as they were. -/
theorem holds_startInputStream (R : ResamplerLib ρ) (i : Nat) (env : StartEnv)
    (gate : .adev ∈ held) (apart : ∀ o, .out o ∉ held) :
    Holds Safe held (startInputStream R i env) fun _ left => left = held := by
  -- Stopping what clashes is the one step that takes a mutex.
  refine Prog.holds_bind.mpr (quiet_getAdev.holds fun adev => ?_)
  refine Prog.holds_bind.mpr ((quiet_modifyIn i _).holds fun _ => ?_)
  refine Prog.holds_bind.mpr ((holds_stopClashingOut i gate apart).mono fun _ left same => ?_)
  subst same
  exact (quiet_openInputPcm R i _ env).holds fun _ => rfl

/-- So does a start that is made only if the stream is in standby. -/
theorem holds_startOutIfStandby (R : ResamplerLib ρ) (o : Nat) (env : StartEnv)
    (gate : .adev ∈ held) (apart : ∀ i, .in_ i ∉ held) :
    Holds Safe held (startOutIfStandby R o env) fun _ left => left = held := by
  refine Prog.holds_bind.mpr ((quiet_getOut o).holds fun out => ?_)
  split
  · -- What follows the start touches no mutex, whether the start has failed or not.
    refine Prog.holds_bind.mpr ((holds_startOutputStream R o env gate apart).mono ?_)
    rintro ret _ rfl
    exact Quiet.holds (.bind (.when (quiet_modifyOut o _)) fun _ => Prog.quiet_pure _) fun _ => rfl
  · rfl

/-- And one of an input stream. -/
theorem holds_startInIfStandby (R : ResamplerLib ρ) (i : Nat) (env : StartEnv)
    (gate : .adev ∈ held) (apart : ∀ o, .out o ∉ held) :
    Holds Safe held (startInIfStandby R i env) fun _ left => left = held := by
  -- What follows the start touches no mutex, whether it has failed or not.
  refine Prog.holds_bind.mpr ((quiet_getIn i).holds fun in_ => ?_)
  split
  · refine Prog.holds_bind.mpr ((holds_startInputStream R i env gate apart).mono ?_)
    rintro ret _ rfl
    exact Quiet.holds (.bind (.when (quiet_modifyIn i _)) fun _ => Prog.quiet_pure _) fun _ => rfl
  · rfl

end Programs

section EntryPoints

/-- Two mutexes taken in the order of the note, a quiet body, and both released again. -/
theorem holds_guarded (mutex : Mutex) (apart : mutex ≠ .adev) {body : Hal ρ Unit}
    (quiet : Quiet body) :
    Holds Safe [] (do acquire .adev; acquire mutex; body; release mutex; release .adev)
      fun _ left => left = [] := by
  -- The device mutex comes first and may be taken by a thread that holds none.
  refine Prog.holds_bind.mpr (Prog.holds_acquire.mpr ⟨⟨List.not_mem_nil, Or.inl rfl⟩, ?_⟩)
  refine Prog.holds_bind.mpr (Prog.holds_acquire.mpr ⟨⟨by simpa using apart, Or.inr ?_⟩, ?_⟩)
  · exact List.mem_cons_self
  · refine Prog.holds_bind.mpr (quiet.holds fun _ => ?_)
    refine Prog.holds_bind.mpr (Prog.holds_release.mpr ⟨List.mem_cons_self, ?_⟩)
    rw [List.erase_cons_head]
    exact Prog.holds_release.mpr ⟨List.mem_cons_self, List.erase_cons_head ..⟩

/-- Standby from outside takes the device mutex first, and gives both back. -/
theorem holds_outStandby (o : Nat) :
    Holds Safe [] (outStandby o : Hal ρ Unit) fun _ left => left = [] :=
  holds_guarded (.out o) (by simp) (quiet_doOutStandby o)

/-- Standby of an input stream takes them in the same order. -/
theorem holds_inStandby (i : Nat) :
    Holds Safe [] (inStandby i : Hal ρ Unit) fun _ left => left = [] :=
  holds_guarded (.in_ i) (by simp) (quiet_doInStandby i)

/-- The exit of `out_write` lets go of the stream mutex, the last one it holds. -/
theorem holds_outWriteExit (o bytes : Nat) (ret : Int) :
    Holds Safe [.out o] (outWriteExit o bytes ret : Hal ρ Int) fun _ left => left = [] := by
  -- The release comes first, and the sleep after it.
  refine Prog.holds_bind.mpr (Prog.holds_release.mpr ⟨List.mem_cons_self, ?_⟩)
  rw [List.erase_cons_head]
  exact Quiet.holds (.bind (.when (quiet_record _)) fun _ => Prog.quiet_pure _) fun _ => rfl

/-- What comes before `pcm_write` is done under the mutex of the stream alone. -/
theorem quiet_prepareWrite (R : ResamplerLib ρ) (o : Nat) (buffer : Samples) (bytes : Nat)
    (env : OutWriteEnv) (bufferType : OutBufferType) (scoOn : Bool) :
    Quiet (prepareWrite R o buffer bytes env bufferType scoOn) :=
  Prog.quiet_of_aloof fun _ => aloof_prepareWrite R o buffer bytes env bufferType scoOn

/-- Every way out of a write lets go of the stream mutex. -/
theorem holds_finishWrite (o bytes : Nat) (frames : OutFrames) (result : Int) :
    Holds Safe [.out o] (finishWrite o bytes frames result : Hal ρ Int)
      fun _ left => left = [] := by
  refine Prog.holds_bind.mpr ((quiet_getOut o).holds fun out => ?_)
  refine Prog.holds_bind.mpr ((quiet_record _).holds fun _ => .ite (fun _ => ?_) fun _ => ?_)
  · -- The underrun path has a release of its own.
    refine Prog.holds_bind.mpr (Prog.holds_release.mpr ⟨List.mem_cons_self, ?_⟩)
    exact List.erase_cons_head ..
  · refine Prog.holds_bind.mpr ((Quiet.when (quiet_modifyOut o _)).holds fun _ => ?_)
    exact holds_outWriteExit o bytes _

/-- A write to a running stream ends with the mutex of the stream given back. -/
theorem holds_outWriteRunning (R : ResamplerLib ρ) (o : Nat) (buffer : Samples) (bytes : Nat)
    (env : OutWriteEnv) (bufferType : OutBufferType) (scoOn : Bool) :
    Holds Safe [.out o] (outWriteRunning R o buffer bytes env bufferType scoOn)
      fun _ left => left = [] :=
  Prog.holds_bind.mpr ((quiet_prepareWrite R o buffer bytes env bufferType scoOn).holds
    fun frames => holds_finishWrite o bytes frames _)

/-- Writing gives up the device mutex before the stream mutex. -/
theorem holds_outWrite (R : ResamplerLib ρ) (o : Nat) (buffer : Samples) (bytes : Nat)
    (env : OutWriteEnv) :
    Holds Safe [] (outWrite R o buffer bytes env) fun _ left => left = [] := by
  refine Prog.holds_bind.mpr (Prog.holds_acquire.mpr ⟨⟨List.not_mem_nil, Or.inl rfl⟩, ?_⟩)
  refine Prog.holds_bind.mpr (Prog.holds_acquire.mpr ⟨⟨by simp, Or.inr List.mem_cons_self⟩, ?_⟩)
  refine Prog.holds_bind.mpr ((holds_startOutIfStandby R o _ (by simp) (by simp)).mono ?_)
  intro ret left same
  subst same
  -- The device mutex is released from below the stream mutex.
  have dropped : [Mutex.out o, .adev].erase .adev = [.out o] := by simp
  refine .ite (fun _ => ?_) fun _ => ?_
  · refine Prog.holds_bind.mpr (Prog.holds_release.mpr ⟨by simp, ?_⟩)
    rw [dropped]
    exact holds_outWriteExit o bytes ret
  · refine Prog.holds_bind.mpr (quiet_getAdev.holds fun adev => ?_)
    refine Prog.holds_bind.mpr (Prog.holds_release.mpr ⟨by simp, ?_⟩)
    rw [dropped]
    exact holds_outWriteRunning R o buffer bytes env _ _

/-- Reading gives up the device mutex before the stream mutex. -/
theorem holds_inRead (R : ResamplerLib ρ) (i : Nat) (buffer : CallerBuffer) (bytes : Nat)
    (env : InReadEnv) :
    Holds Safe [] (inRead R i buffer bytes env) fun _ left => left = [] := by
  refine Prog.holds_bind.mpr (Prog.holds_acquire.mpr ⟨⟨List.not_mem_nil, Or.inl rfl⟩, ?_⟩)
  refine Prog.holds_bind.mpr (Prog.holds_acquire.mpr ⟨⟨by simp, Or.inr List.mem_cons_self⟩, ?_⟩)
  refine Prog.holds_bind.mpr ((holds_startInIfStandby R i _ (by simp) (by simp)).mono ?_)
  intro ret left same
  subst same
  -- The device mutex is released from below the stream mutex, whether the start has failed or not.
  have dropped : [Mutex.in_ i, .adev].erase .adev = [.in_ i] := by simp
  refine Prog.holds_bind.mpr (Prog.holds_release.mpr ⟨by simp, ?_⟩)
  rw [dropped]
  have running : Quiet (inReadRunning R i buffer bytes env) := by
    refine .bind (quiet_capture R i env bytes _) fun _ => ?_
    exact .bind quiet_getAdev fun _ => Prog.quiet_pure _
  refine Prog.holds_bind.mpr ((Quiet.ite (Prog.quiet_pure _) running).holds fun result => ?_)
  refine Prog.holds_bind.mpr ((quiet_getIn i).holds fun in_ => ?_)
  refine Prog.holds_bind.mpr ((Quiet.when (quiet_record _)).holds fun _ => ?_)
  refine Prog.holds_bind.mpr (Prog.holds_release.mpr ⟨List.mem_cons_self, ?_⟩)
  exact List.erase_cons_head ..

/-- A route change takes the stream mutex only around the standby it may need. -/
theorem holds_changeRoute {isNew stops : AudioDevice → Prop} [DecidablePred isNew]
    [DecidablePred stops] {standby : Hal ρ Unit} (quiet : Quiet standby) (mutex : Mutex)
    (other : mutex ≠ .adev) (change : AudioDevice → AudioDevice) (ret : Int) :
    Holds Safe [] (do
      acquire .adev
      when (ret ≥ 0) do
        let adev ← getAdev
        when (isNew adev) do
          when (stops adev) do
            acquire mutex
            standby
            release mutex
          modifyAdev change
          modifyAdev selectDevices
      release .adev
      return ret : Hal ρ Int) fun _ left => left = [] := by
  refine Prog.holds_bind.mpr (Prog.holds_acquire.mpr ⟨⟨List.not_mem_nil, Or.inl rfl⟩, ?_⟩)
  -- However the route was changed, the device mutex is what is left to release.
  have finish : ∀ left, left = [Mutex.adev] → Holds Safe left
      (do release .adev; return ret : Hal ρ Int) fun _ left => left = [] := by
    intro left same
    subst same
    exact Prog.holds_bind.mpr (Prog.holds_release.mpr ⟨List.mem_cons_self, List.erase_cons_head ..⟩)
  refine Prog.holds_bind.mpr (Prog.Holds.mono (.when ?_ rfl) fun _ left same => finish left same)
  refine Prog.holds_bind.mpr (quiet_getAdev.holds fun adev => .when ?_ rfl)
  have route : Quiet (do modifyAdev change; modifyAdev selectDevices : Hal ρ Unit) :=
    .bind (quiet_modifyAdev _) fun _ => quiet_modifyAdev _
  refine Prog.holds_bind.mpr (.when ?_ (route.holds fun _ => rfl))
  -- The standby happens under both mutexes, taken in this order.
  refine Prog.holds_bind.mpr
    (Prog.holds_acquire.mpr ⟨⟨by simpa using other, Or.inr List.mem_cons_self⟩, ?_⟩)
  refine Prog.holds_bind.mpr (quiet.holds fun _ => ?_)
  refine Prog.holds_release.mpr ⟨List.mem_cons_self, ?_⟩
  rw [List.erase_cons_head]
  exact route.holds fun _ => rfl

/-- A change of the output route takes the stream's mutex inside that of the device. -/
theorem holds_outSetParameters (o : Nat) (routing : Parm Devices) :
    Holds Safe [] (outSetParameters o routing : Hal ρ Int) fun _ left => left = [] :=
  holds_changeRoute (quiet_doOutStandby o) (.out o) (by simp) _ routing.ret

/-- And so does a change of the input route. -/
theorem holds_inSetParameters (i : Nat) (routing : Parm Devices) :
    Holds Safe [] (inSetParameters i routing : Hal ρ Int) fun _ left => left = [] :=
  holds_changeRoute (quiet_doInStandby i) (.in_ i) (by simp) _ routing.ret

/-- A change of the orientation takes the device mutex only. -/
theorem holds_adevSetParameters (orientation screenState : Parm String) :
    Holds Safe [] (adevSetParameters orientation screenState : Hal ρ Int)
      fun _ left => left = [] := by
  -- The screen state is set after the device mutex has been released.
  have screen : Quiet (do
      when (screenState.ret ≥ 0) do
        modifyAdev fun adev => { adev with screenOff := screenState.value ≠ "on" }
      return screenState.ret : Hal ρ Int) :=
    .bind (.when (quiet_modifyAdev _)) fun _ => Prog.quiet_pure _
  refine Prog.holds_bind.mpr (.when ?_ (screen.holds fun _ => rfl))
  refine Prog.holds_bind.mpr (Prog.holds_acquire.mpr ⟨⟨List.not_mem_nil, Or.inl rfl⟩, ?_⟩)
  refine Prog.holds_bind.mpr (quiet_getAdev.holds fun adev => ?_)
  have turn : Quiet (when (Orientation.ofString orientation.value ≠ adev.orientation) (do
      modifyAdev fun adev => { adev with
        orientation := Orientation.ofString orientation.value }
      modifyAdev selectDevices) : Hal ρ Unit) :=
    .when (.bind (quiet_modifyAdev _) fun _ => quiet_modifyAdev _)
  refine Prog.holds_bind.mpr (turn.holds fun _ => ?_)
  refine Prog.holds_release.mpr ⟨List.mem_cons_self, ?_⟩
  rw [List.erase_cons_head]
  exact screen.holds fun _ => rfl

/-- The position is asked for under the mutex of the stream only. -/
theorem holds_outGetPresentationPosition (o : Nat) (htimestamp : Option Nat) :
    Holds Safe [] (outGetPresentationPosition o htimestamp : Hal ρ (Option Nat))
      fun _ left => left = [] := by
  -- A first mutex may be taken at any time.
  refine Prog.holds_bind.mpr (Prog.holds_acquire.mpr ⟨⟨List.not_mem_nil, Or.inl rfl⟩, ?_⟩)
  refine Prog.holds_bind.mpr ((quiet_getOut o).holds fun out => ?_)
  refine Prog.holds_bind.mpr ((quiet_record _).holds fun _ => ?_)
  exact Prog.holds_bind.mpr (Prog.holds_release.mpr ⟨List.mem_cons_self, List.erase_cons_head ..⟩)

/-- The latency is looked up under the device mutex only. -/
theorem holds_outGetLatency :
    Holds Safe [] (outGetLatency : Hal ρ Nat) fun _ left => left = [] := by
  -- A first mutex may be taken at any time.
  refine Prog.holds_bind.mpr (Prog.holds_acquire.mpr ⟨⟨List.not_mem_nil, Or.inl rfl⟩, ?_⟩)
  refine Prog.holds_bind.mpr (quiet_getAdev.holds fun adev => ?_)
  exact Prog.holds_bind.mpr (Prog.holds_release.mpr ⟨List.mem_cons_self, List.erase_cons_head ..⟩)

/-- Opening a stream fills in a structure no other thread knows of yet. -/
theorem quiet_adevOpenOutputStream (o : Nat) (calloc : Bool) (config : AudioConfig) :
    Quiet (adevOpenOutputStream o calloc config : Hal ρ (Int × AudioConfig)) := by
  refine .ite (Prog.quiet_pure _) ?_
  exact .bind (Prog.quiet_update _) fun _ => Prog.quiet_pure _

/-- Opening an input stream takes no mutex. -/
theorem quiet_adevOpenInputStream (i : Nat) (calloc : Bool) (config : AudioConfig) (fast : Bool) :
    Quiet (adevOpenInputStream i calloc config fast : Hal ρ (Int × AudioConfig)) := by
  -- The call may end at the channel mask, or at the allocation.
  refine .ite (Prog.quiet_pure _) ?_
  refine .ite (Prog.quiet_pure _) ?_
  exact .bind (Prog.quiet_update _) fun _ => Prog.quiet_pure _

/-- Whatever follows a call without touching mutexes may follow it here. -/
theorem holds_thenQuiet {α β : Type} {p : Hal ρ α} {after : α → Hal ρ β}
    (holds : Holds Safe [] p fun _ left => left = []) (quiet : ∀ value, Quiet (after value)) :
    Holds Safe [] (p >>= after) fun _ left => left = [] := by
  -- What follows touches no mutex, so it leaves none.
  refine Prog.holds_bind.mpr (holds.mono fun value left same => ?_)
  subst same
  exact (quiet value).holds fun _ => rfl

/-- Called with no mutex held, every entry point respects the discipline and leaves none held. -/
theorem holds_prog (R : ResamplerLib ρ) (act : Act) :
    Holds Safe [] (act.prog R) fun _ left => left = [] := by
  -- Each call has its own lemma, and what the model adds behind it is quiet.
  have ends : ∀ {α : Type} (_ : α), Quiet (pure () : Hal ρ Unit) := fun _ => Prog.quiet_pure _
  cases act with
  | openOutputStream o calloc config =>
    exact holds_thenQuiet ((quiet_adevOpenOutputStream o calloc config).holds fun _ => rfl) ends
  | closeOutputStream o => exact holds_thenQuiet (holds_outStandby o) fun _ => Prog.quiet_update _
  | openInputStream i calloc config fast =>
    exact holds_thenQuiet ((quiet_adevOpenInputStream i calloc config fast).holds fun _ => rfl) ends
  | closeInputStream i => exact holds_thenQuiet (holds_inStandby i) fun _ => Prog.quiet_update _
  | outWrite o buffer bytes env => exact holds_thenQuiet (holds_outWrite R o buffer bytes env) ends
  | inRead i buffer bytes env => exact holds_thenQuiet (holds_inRead R i buffer bytes env) ends
  | outStandby o => exact holds_outStandby o
  | inStandby i => exact holds_inStandby i
  | outSetParameters o routing => exact holds_thenQuiet (holds_outSetParameters o routing) ends
  | inSetParameters i routing => exact holds_thenQuiet (holds_inSetParameters i routing) ends
  | outGetPresentationPosition o htimestamp =>
    exact holds_thenQuiet (holds_outGetPresentationPosition o htimestamp) ends
  | outGetLatency o => exact holds_thenQuiet holds_outGetLatency ends
  | adevSetParameters orientation screenState =>
    exact holds_thenQuiet (holds_adevSetParameters orientation screenState) ends
  | adevSetMicMute state =>
    have mute : Quiet (adevSetMicMute state : Hal ρ Int) :=
      .bind (quiet_modifyAdev _) fun _ => Prog.quiet_pure _
    exact holds_thenQuiet (mute.holds fun _ => rfl) ends

end EntryPoints

/-- The calls a thread may make. -/
def EntryPoint (R : ResamplerLib ρ) (p : Hal ρ Unit) : Prop := ∃ act : Act, p = act.prog R

/-- Nothing about the mutexes is wrong in a configuration of the threads. -/
structure LockSafe {τ : Type} [DecidableEq τ] (R : ResamplerLib ρ)
    (c : Config τ (World ρ) Mutex) : Prop where
  /-- No thread locks a mutex it already holds. -/
  noRelock : ∀ t mutex next, c.code t = some (.lock mutex next) → c.owner mutex ≠ some t
  /-- No thread unlocks a mutex it does not hold. -/
  ownUnlock : ∀ t mutex next, c.code t = some (.unlock mutex next) → c.owner mutex = some t
  /-- No thread waits for itself through a chain of threads that each wait for the next. -/
  acyclic : ∀ t, ¬ Relation.TransGen c.Waits t t
  /-- A thread whose call has come to its end, or is over, holds no mutex. -/
  emptyHanded : ∀ t, c.code t = none ∨ c.code t = some (.done ()) →
    ∀ mutex, c.owner mutex ≠ some t
  /-- While some call is in progress, one of the calls in progress can go on. -/
  progress : ∀ t p, c.code t = some p →
    ∃ u d, c.code u ≠ none ∧ Config.Step (EntryPoint R) u c d

section Reachable

variable {τ : Type} [DecidableEq τ]

/-- Threads calling entry points in any order keep to the lock discipline at every moment. -/
theorem lockSafe_of_reachable (R : ResamplerLib ρ) (w : World ρ)
    (c : Config τ (World ρ) Mutex) (reached : Config.Reachable (EntryPoint R) w c) :
    LockSafe R c := by
  -- The device mutex is the gate: a second mutex is only ever taken by the thread that owns it.
  have kept : c.Disciplined (Config.Gated .adev) := by
    refine Config.Disciplined.reachable (fun p entry => ?_) reached
    obtain ⟨act, rfl⟩ := entry
    exact holds_prog R act
  exact {
    noRelock := fun t mutex next here => kept.noRelock here
    ownUnlock := fun t mutex next here => kept.ownUnlock here
    acyclic := kept.acyclic
    emptyHanded := fun t ended => kept.emptyHanded ended
    progress := fun t p running => kept.progress running }

end Reachable

/-- A thread in the middle of a standby holds up another that does the same. -/
theorem lockSafe_of_reachable_contended :
    ∃ c : Config Bool (World (Nat × Nat)) Mutex,
      Config.Reachable (EntryPoint .nearest) (.initial fun _ => none) c ∧ c.Waits true false ∧
        LockSafe .nearest c := by
  -- One thread takes the device mutex, and then the other one asks for it.
  have called : EntryPoint .nearest (outStandby 0 : Hal (Nat × Nat) Unit) := ⟨.outStandby 0, rfl⟩
  have reached : Config.Reachable (EntryPoint .nearest) (.initial fun _ => none) _ :=
    Relation.ReflTransGen.refl
      |>.tail ⟨false, Config.Step.call _ called rfl⟩
      |>.tail ⟨false, Config.Step.lock .adev _ rfl rfl⟩
      |>.tail ⟨true, Config.Step.call _ called rfl⟩
  exact ⟨_, reached, ⟨.adev, _, rfl, rfl⟩, lockSafe_of_reachable _ _ _ reached⟩

end Grouper.Audio
