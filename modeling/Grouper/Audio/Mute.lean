import Grouper.Audio.HandleSafety
import Grouper.Audio.Starts
import Grouper.Audio.Twins

/-! What a muted read leaves to its caller: silence, unless it fails after samples were captured. -/

namespace Grouper.Audio

open Prog (Leads Keeps)

variable {ρ : Type}

/-- Asked for frames, the resampler turns to its provider first. -/
def Provider.asks : Provider ρ → Bool
  | .getNextBuffer _ _ => true
  | _ => false

/-- The resampler turns to its provider first, and given no buffer it stops with nothing. -/
def Provider.givesUp : Provider ρ → Bool
  | .getNextBuffer _ next =>
    match next none with
    | .finish _ [] => true
    | _ => false
  | _ => false

/-- The twin of a resampler that has given up has given up. -/
theorem Provider.Twin.finish_nil {same : ρ → ρ → Prop} {s : ρ} {q : Provider ρ}
    (twin : Provider.Twin same (.finish s []) q) : ∃ t, q = .finish t [] := by
  cases twin with
  | finish states lengths => exact ⟨_, by rw [List.eq_nil_of_length_eq_zero lengths.symm]⟩

/-- An oblivious resampler gives up in both runs. -/
theorem Provider.Twin.givesUp {same : ρ → ρ → Prop} {p q : Provider ρ}
    (twin : Provider.Twin same p q) (gives : p.givesUp) : q.givesUp := by
  cases twin with
  | finish states lengths => cases gives
  | releaseBuffer frameCount rest => cases gives
  | getNextBuffer frameCount rest =>
    -- Both courses go on from having been given no buffer.
    have stopped := rest none none rfl
    unfold Provider.givesUp at gives ⊢
    dsimp only at gives ⊢
    split at gives
    · rename_i nothing
      obtain ⟨t, finished⟩ := Provider.Twin.finish_nil (nothing ▸ stopped)
      rw [finished]
    · cases gives

/-- The stream an `in_read` captures from: one in standby is configured and begins afresh. -/
def StreamIn.started (R : ResamplerLib ρ) (adev : AudioDevice) (env : StartEnv)
    (in_ : StreamIn ρ) : StreamIn ρ :=
  if in_.standby then
    let in_ := in_.configure (inScoOn adev)
    { in_ with
      standby := false
      resampler :=
        if inGetSampleRate in_ ≠ in_.pcmConfig.rate then
          if env.createResampler then
            some (R.create in_.pcmConfig.rate (inGetSampleRate in_) 1)
          else none
        else in_.resampler
      buffer := env.malloc
      bufferSize := in_.pcmConfig.periodSize * (in_.pcmConfig.channels * 2)
      framesIn := 0 }
  else in_

/--
A capture that succeeds, or that fails before anything captured could reach the caller.

The second stream is the one of another run, and its buffer may not differ where it is copied.
-/
def Sealed (R : ResamplerLib ρ) (in_ other : StreamIn ρ) (bytes : Nat)
    (reads : Nat → PcmRead) : Prop :=
  match in_.resampler with
  | some state =>
    let asked := R.resampleFromProvider state (bytes / inFrameSize)
    -- No period fails, and an error left by an earlier call is overwritten before it is looked at.
    (∀ n, 0 ≤ (reads n).ret) ∧ (0 ≤ in_.readStatus ∨ in_.framesIn = 0 ∧ asked.asks) ∨
      -- The first period already fails, and the resampler has nothing of its own to give.
      (reads 0).ret ≠ 0 ∧ in_.framesIn = 0 ∧ asked.givesUp
  | none =>
    0 ≤ (reads 0).ret ∨
      (reads 0).delivered = 0 ∧ (in_.pcmConfig.channels = 2 → in_.buffer = other.buffer)

/-- Nothing captured can stay with the caller of a muted `in_read`. -/
def Harmless (R : ResamplerLib ρ) (w v : World ρ) (i bytes : Nat) (env : InReadEnv) : Prop :=
  bytes < 2 ∨ ((w.ins i).standby ∧ env.start.pcmIsReady = false) ∨
    Sealed R ((w.ins i).started R w.adev env.start) ((v.ins i).started R v.adev env.start) bytes
      env.pcmRead

section Start

variable (R : ResamplerLib ρ) (w : World ρ) (i : Nat) (env : StartEnv)

/-- A stream that is not kept from starting is started, and the mute switch stays as it is. -/
theorem startInIfStandby_frame (able : (w.ins i).standby → env.pcmIsReady = true) :
    ((startInIfStandby R i env).exec w).1 = 0 ∧
      ((startInIfStandby R i env).exec w).2.adev.micMute = w.adev.micMute ∧
      ∃ pcm, ((startInIfStandby R i env).exec w).2.ins i =
        { (w.ins i).started R w.adev env with pcm := pcm } ∧
        ((w.ins i).standby → pcm.isSome) ∧ ((w.ins i).standby = false → pcm = (w.ins i).pcm) := by
  unfold startInIfStandby StreamIn.started
  rw [exec_getIn_bind]
  cases standby : (w.ins i).standby with
  | false => exact ⟨rfl, rfl, _, rfl, by simp, fun _ => rfl⟩
  -- A stream in standby is configured and opened, and its new handle is the only thing left open.
  | true =>
    obtain ⟨v, own, adev, run⟩ := startInputStream_spec R w env i
    have mine : v.ins i = (w.ins i).configure (inScoOn w.adev) := by simp [own]
    have mute : v.adev.micMute = w.adev.micMute := by rw [adev]
    rw [exec_openInputPcm_ready R v env i _ (able standby)] at run
    rw [if_pos rfl, Prog.exec_bind, run, Prog.exec_bind, Prog.exec_when, if_pos rfl]
    refine ⟨rfl, mute, some ⟨v.opened, if inScoOn w.adev then pcmDeviceSco else
      pcmDevice, (v.ins i).pcmConfig⟩, ?_, fun _ => rfl, by simp⟩
    refine (Function.update_self ..).trans ?_
    show { Function.update v.ins i ((v.ins i).begun R env _) i with standby := false } = _
    rw [Function.update_self, mine]
    rfl

end Start

section Calm

variable {i : Nat} {reads : Nat → PcmRead}

/-- The stream has a handle and no error to report. -/
def Calm (i : Nat) (w : World ρ) : Prop := (w.ins i).pcm.isSome ∧ 0 ≤ (w.ins i).readStatus

/-- A request for a buffer reads a period exactly when none is left, and keeps its code. -/
theorem readStatus_getNextBuffer (n frameCount : Nat) (w : World ρ)
    (handle : (w.ins i).pcm.isSome) :
    (((getNextBuffer i reads n frameCount).exec w).2.ins i).readStatus =
      if (w.ins i).framesIn = 0 then (reads n).ret else (w.ins i).readStatus := by
  have present : (w.ins i).pcm ≠ none := fun missing => by simp [missing] at handle
  unfold getNextBuffer
  rw [exec_getIn_bind, if_neg present]
  split
  · simp only [Prog.exec_bind, exec_record, exec_modifyIn, Prog.exec_ite, Prog.exec_pure]
    split
    · simp
    · -- Dropping the right channel changes the samples only.
      rw [exec_getIn, Prog.exec_when]
      split
      · simp only [Prog.exec_bind, Prog.exec_when, exec_modifyIn, Function.update_self]
        split <;> simp
      · simp
  · rfl

/-- A request that reads a period and fails grants nothing. -/
theorem getNextBuffer_fails (n frameCount : Nat) (w : World ρ) (handle : (w.ins i).pcm.isSome)
    (empty : (w.ins i).framesIn = 0) (fails : (reads n).ret ≠ 0) :
    ((getNextBuffer i reads n frameCount).exec w).1.1 = none := by
  -- The buffer is empty, so the PCM is read, and the read fails.
  have present : (w.ins i).pcm ≠ none := fun missing => by simp [missing] at handle
  unfold getNextBuffer
  rw [exec_getIn_bind, if_neg present, if_pos empty]
  simp only [Prog.exec_bind, exec_record, exec_modifyIn, Prog.exec_ite, Prog.exec_pure]
  rw [if_pos fails]

/-- The handle of a stream outlasts everything capturing does. -/
theorem InFrame.handle {w v : World ρ} (frame : InFrame i w v) (handle : (w.ins i).pcm.isSome) :
    (v.ins i).pcm.isSome := by rwa [frame.kept.pcm]

/-- A change that leaves the handle and the status stays calm. -/
theorem calm_modifyIn (change : StreamIn ρ → StreamIn ρ) (w : World ρ)
    (pcm : (change (w.ins i)).pcm = (w.ins i).pcm)
    (status : (change (w.ins i)).readStatus = (w.ins i).readStatus) :
    Leads (Keeps (Calm i)) (modifyIn i change) w := by
  intro calm
  simpa [Calm, pcm, status] using calm

/-- Reading what was served changes nothing. -/
theorem calm_readGrant (grant : Grant) (w : World ρ) :
    Leads (Keeps (Calm i)) (readGrant i grant) w := by
  refine .bind (Std.Refl.refl _) ?_
  split <;> exact id

variable (fine : ∀ n, 0 ≤ (reads n).ret)

include fine in
/-- Serving a buffer stays calm when its reads succeed. -/
theorem calm_getNextBuffer (n frameCount : Nat) (w : World ρ) :
    Leads (Keeps (Calm i)) (getNextBuffer i reads n frameCount) w := by
  -- The status is that of the read, or the one from before.
  rintro ⟨handle, status⟩
  refine ⟨(inFrame_getNextBuffer reads n frameCount w).handle handle, ?_⟩
  rw [readStatus_getNextBuffer n frameCount w handle]
  split
  · exact fine n
  · exact status

include fine in
/-- Codes that are no errors leave no error behind, however often the resampler asks. -/
theorem calm_runProvider (provider : Provider ρ) :
    ∀ n (w : World ρ), Leads (Keeps (Calm i)) (runProvider i reads provider n) w := by
  -- The induction follows the resampler's requests to its provider.
  induction provider with
  | finish state output =>
    intro n w
    unfold runProvider
    exact .bind (calm_modifyIn _ _ rfl rfl) (.pure _)
  | getNextBuffer frameCount next ih =>
    intro n w
    unfold runProvider
    refine .bind (calm_getNextBuffer fine n frameCount w) ?_
    split
    · exact ih none _ _
    · exact .bind (calm_readGrant _ _) (ih (some _) _ _)
  | releaseBuffer frameCount next ih =>
    intro n w
    unfold runProvider
    exact .bind (calm_modifyIn _ _ rfl rfl) (ih _ _)

include fine in
/-- An old error is gone once the resampler has asked for a period. -/
theorem calm_runProvider_asks {provider : Provider ρ} (asks : provider.asks) (n : Nat)
    (w : World ρ) (handle : (w.ins i).pcm.isSome) (empty : (w.ins i).framesIn = 0) :
    Calm i ((runProvider i reads provider n).exec w).2 := by
  cases provider with
  | finish state output => cases asks
  | releaseBuffer frameCount next => cases asks
  | getNextBuffer frameCount next =>
    -- The buffer is empty, so a period is read and its code takes the place of the old error.
    have calm : Calm i ((getNextBuffer i reads n frameCount).exec w).2 := by
      refine ⟨(inFrame_getNextBuffer reads n frameCount w).handle handle, ?_⟩
      rw [readStatus_getNextBuffer n frameCount w handle, if_pos empty]
      exact fine n
    unfold runProvider
    rw [Prog.exec_bind]
    revert calm
    generalize (getNextBuffer i reads n frameCount).exec w = served
    obtain ⟨⟨grant, reads'⟩, after⟩ := served
    intro calm
    cases grant with
    | none => exact calm_runProvider fine (next none) _ _ calm
    | some grant =>
      have granted := calm_readGrant grant after calm
      rw [Prog.exec_bind]
      exact calm_runProvider fine (next (some _)) _ _ granted

include fine in
/-- So does a round of resampling. -/
theorem calm_readFramesRound (R : ResamplerLib ρ) (buffer : Samples)
    (framesWr framesRd n : Nat) (w : World ρ) :
    Leads (Keeps (Calm i)) (readFramesRound R i reads buffer framesWr framesRd n) w := by
  refine .bind (Std.Refl.refl _) ?_
  split
  · exact .bind (calm_runProvider fine _ _ _) (.pure _)
  · -- Without a resampler the round asks the provider itself.
    refine .bind (calm_getNextBuffer fine _ _ _) ?_
    split
    · exact .bind (calm_modifyIn _ _ rfl rfl) (.pure _)
    · refine .bind (calm_readGrant _ _) ?_
      exact .bind (calm_modifyIn _ _ rfl rfl) (.pure _)

/-- A round that leaves no error behind is followed by another one or by a count of frames. -/
theorem readFrames_succ_nonneg {R : ResamplerLib ρ} {frames fuel framesWr n : Nat}
    {buffer : Samples} {w : World ρ}
    (rest : ∀ framesWr n buffer (w : World ρ), Calm i w → ∀ ret,
      ((readFrames R i reads frames fuel framesWr n buffer).exec w).1.2 = some ret → 0 ≤ ret)
    (after : Calm i ((readFramesRound R i reads buffer framesWr (frames - framesWr) n).exec w).2)
    (ret : Int) (returned :
      ((readFrames R i reads frames (fuel + 1) framesWr n buffer).exec w).1.2 = some ret) :
    0 ≤ ret := by
  unfold readFrames at returned
  rw [Prog.exec_ite] at returned
  split at returned
  · rw [Prog.exec_bind] at returned
    dsimp only at returned
    rw [exec_getIn_bind, Prog.exec_ite] at returned
    -- The status of the stream is returned if it is not zero, and it is no error.
    split at returned
    · exact Option.some.inj returned ▸ after.2
    · exact rest _ _ _ _ after ret returned
  · exact Option.some.inj returned ▸ Int.natCast_nonneg framesWr

include fine in
/-- Frames are all that is returned when no period fails. -/
theorem calm_readFrames (R : ResamplerLib ρ) (frames fuel : Nat) :
    ∀ framesWr n buffer (w : World ρ), Calm i w → ∀ ret,
      ((readFrames R i reads frames fuel framesWr n buffer).exec w).1.2 = some ret → 0 ≤ ret := by
  -- The induction is on the rounds.
  induction fuel with
  | zero => exact fun _ _ _ _ _ _ none => by cases none
  | succ fuel ih =>
    intro framesWr n buffer w calm
    exact readFrames_succ_nonneg ih (calm_readFramesRound fine R buffer framesWr _ n w calm)

end Calm

section Capture

variable (R : ResamplerLib ρ) {i : Nat} {env : InReadEnv} {bytes : Nat} (buffer : Samples)
  {w : World ρ} (handle : (w.ins i).pcm.isSome) {state : ρ}

/-- A round of a stream with a resampler is one run of the resampler. -/
theorem exec_readFramesRound {reads : Nat → PcmRead} (framesWr framesRd n : Nat)
    (has : (w.ins i).resampler = some state) :
    (readFramesRound R i reads buffer framesWr framesRd n).exec w =
      let (out, after) := (runProvider i reads (R.resampleFromProvider state framesRd) n).exec w
      ((storeAt buffer framesWr out.1, out.1.length, out.2), after) := by
  -- With a resampler the round is what its provider does.
  unfold readFramesRound
  rw [exec_getIn_bind, has]
  exact Prog.exec_bind _ _ _

include handle in
/-- A resampling capture without a failing period returns no error. -/
theorem capture_resampling (has : (w.ins i).resampler = some state)
    (fine : ∀ n, 0 ≤ (env.pcmRead n).ret)
    (ready : 0 ≤ (w.ins i).readStatus ∨
      (w.ins i).framesIn = 0 ∧ (R.resampleFromProvider state (bytes / inFrameSize)).asks)
    (ret : Int) (returned : ((capture R i env bytes buffer).exec w).1.2 = some ret) : 0 ≤ ret := by
  unfold capture at returned
  rw [exec_getIn_bind, if_pos (by simp [has])] at returned
  rcases ready with status | ⟨empty, asks⟩
  · exact calm_readFrames fine R _ _ _ _ _ w ⟨handle, status⟩ ret returned
  · -- The first round overwrites the old error, and the others go on from there.
    cases fuel : env.fuel with
    | zero =>
      rw [fuel] at returned
      cases returned
    | succ fuel' =>
      rw [fuel] at returned
      refine readFrames_succ_nonneg (calm_readFrames fine R _ _) ?_ ret returned
      rw [exec_readFramesRound R buffer 0 _ 0 has]
      exact calm_runProvider_asks fine asks 0 w handle empty

include handle in
/-- A resampler that gives up on its first period produces nothing and leaves the code behind. -/
theorem runProvider_givesUp {reads : Nat → PcmRead} {provider : Provider ρ} (n : Nat)
    (gives : provider.givesUp) (empty : (w.ins i).framesIn = 0) (fails : (reads n).ret ≠ 0) :
    ((runProvider i reads provider n).exec w).1.1 = [] ∧
      (((runProvider i reads provider n).exec w).2.ins i).readStatus = (reads n).ret := by
  cases provider with
  | finish state output => cases gives
  | releaseBuffer frameCount next => cases gives
  | getNextBuffer frameCount next =>
    -- The period is read and fails, so nothing is granted and the resampler stops.
    have denied : ((getNextBuffer i reads n frameCount).exec w).1.1 = none :=
      getNextBuffer_fails n frameCount w handle empty fails
    have status : (((getNextBuffer i reads n frameCount).exec w).2.ins i).readStatus =
        (reads n).ret := (readStatus_getNextBuffer n frameCount w handle).trans (if_pos empty)
    unfold runProvider
    rw [Prog.exec_bind]
    revert denied status
    generalize (getNextBuffer i reads n frameCount).exec w = served
    obtain ⟨⟨grant, reads'⟩, after⟩ := served
    rintro rfl status
    unfold Provider.givesUp at gives
    dsimp only at gives ⊢
    split at gives
    · rename_i stopped
      rw [stopped]
      simpa [runProvider] using status
    · cases gives

include handle in
/-- A resampling capture that gives up on its first period leaves the caller's samples alone. -/
theorem capture_givesUp (has : (w.ins i).resampler = some state)
    (fails : (env.pcmRead 0).ret ≠ 0) (empty : (w.ins i).framesIn = 0)
    (gives : (R.resampleFromProvider state (bytes / inFrameSize)).givesUp) :
    ((capture R i env bytes buffer).exec w).1.1 = buffer := by
  -- The first round ends with a status that is not zero, and nothing was made in it.
  obtain ⟨nothing, status⟩ := runProvider_givesUp (i := i) handle 0 gives empty fails
  unfold capture
  rw [exec_getIn_bind, if_pos (by simp [has])]
  cases env.fuel with
  | zero => rfl
  | succ fuel =>
    unfold readFrames
    rw [Prog.exec_ite]
    split
    · rw [Prog.exec_bind, exec_readFramesRound R buffer 0 _ 0 has]
      dsimp only [Nat.sub_zero]
      rw [exec_getIn_bind, Prog.exec_ite, if_pos (by rw [status]; exact fails), nothing]
      funext n
      simp [storeAt]
    · rfl

/-- A stereo capture hands on every other sample of the stream's buffer. -/
theorem capture_stereo (direct : (w.ins i).resampler = none)
    (stereo : (w.ins i).pcmConfig.channels = 2) :
    ((capture R i env bytes buffer).exec w).1 =
      ((match (w.ins i).buffer with
        | none => buffer
        | some memory => fun n => if n < bytes / inFrameSize then
            (env.pcmRead 0).store (bytes * 2) memory (n * 2) else buffer n),
        some (env.pcmRead 0).ret) := by
  -- The PCM is read into the memory of the stream, and every second sample is kept.
  unfold capture
  rw [exec_getIn_bind, if_neg (by simp [direct]), if_pos stereo]
  simp only [Prog.exec_bind, exec_record, exec_modifyIn, exec_getIn, Function.update_self]
  cases (w.ins i).buffer with
  | none => rw [Option.map_none, Prog.exec_bind, Prog.exec_pure]
  | some memory => rfl

/-- A mono capture reads straight into the caller's samples. -/
theorem capture_mono (direct : (w.ins i).resampler = none)
    (mono : (w.ins i).pcmConfig.channels ≠ 2) :
    ((capture R i env bytes buffer).exec w).1 =
      ((env.pcmRead 0).store bytes buffer, some (env.pcmRead 0).ret) := by
  -- The PCM is read into the buffer of the caller.
  unfold capture
  rw [exec_getIn_bind, if_neg (by simp [direct]), if_neg mono]
  rfl

/-- A failing read that delivered nothing stores nothing. -/
theorem PcmRead.store_of_failed {read : PcmRead} (fails : read.ret < 0)
    (nothing : read.delivered = 0) (bytes : Nat) (buffer : Samples) :
    read.store bytes buffer = buffer := by
  -- Nothing was delivered.
  have failed : ¬ 0 ≤ read.ret := Int.not_le.mpr fails
  funext n
  simp [PcmRead.store, failed, nothing]

end Capture

section Muted

variable {same : ρ → ρ → Prop} {R : ResamplerLib ρ} {i bytes : Nat} {env other : InReadEnv}

/-- A sealed capture returns no error, or it leaves both callers the same samples. -/
theorem capture_sealed (oblivious : R.Oblivious same) {w v : World ρ}
    (twin : World.Twin same w v) (handle : (w.ins i).pcm.isSome) (envs : env.Twin other)
    (buffer : Samples) (isSealed : Sealed R (w.ins i) (v.ins i) bytes env.pcmRead) :
    (∀ ret, ((capture R i env bytes buffer).exec w).1.2 = some ret → 0 ≤ ret) ∨
      ((capture R i env bytes buffer).exec w).1.1 =
        ((capture R i other bytes buffer).exec v).1.1 := by
  have streams := twin.ins i
  have states := streams.resampler
  unfold Sealed at isSealed
  cases here : (w.ins i).resampler with
  | some state =>
    rw [here] at isSealed states
    rcases isSealed with ⟨fine, ready⟩ | ⟨fails, empty, gives⟩
    · exact Or.inl (capture_resampling R buffer handle here fine ready)
    · -- The other run gives up on the same period.
      cases there : (v.ins i).resampler with
      | none => rw [there] at states; cases states
      | some state' =>
        rw [there] at states
        obtain ⟨related⟩ := states
        have gives' : (R.resampleFromProvider state' (bytes / inFrameSize)).givesUp := by
          have asked := oblivious.provider state state' (bytes / inFrameSize) related
          exact asked.givesUp gives
        right
        rw [capture_givesUp R buffer handle here fails empty gives,
          capture_givesUp R buffer (by rwa [← streams.pcm]) there
            (by rwa [← (envs.pcmRead 0).ret]) (by rwa [← streams.framesIn]) gives']
  | none =>
    rw [here] at isSealed states
    have there : (v.ins i).resampler = none := by
      cases there : (v.ins i).resampler with
      | none => rfl
      | some _ => rw [there] at states; cases states
    -- In stereo the caller gets what is in the stream's buffer, and in mono what was read.
    by_cases stereo : (w.ins i).pcmConfig.channels = 2
    · rw [capture_stereo R buffer here stereo,
        capture_stereo R buffer there (streams.pcmConfig ▸ stereo)]
      by_cases fails : (env.pcmRead 0).ret < 0
      · obtain ⟨nothing, buffers⟩ := isSealed.resolve_left (Int.not_le.mpr fails)
        right
        have stored := PcmRead.store_of_failed fails nothing (bytes * 2)
        have stored' := PcmRead.store_of_failed ((envs.pcmRead 0).ret ▸ fails)
          ((envs.pcmRead 0).delivered ▸ nothing) (bytes * 2)
        simp only [buffers stereo, stored, stored']
      · exact Or.inl fun ret returned => Option.some.inj returned ▸ Int.not_lt.mp fails
    · rw [capture_mono R buffer here stereo,
        capture_mono R buffer there (streams.pcmConfig ▸ stereo)]
      by_cases fails : (env.pcmRead 0).ret < 0
      · obtain ⟨nothing, _⟩ := isSealed.resolve_left (Int.not_le.mpr fails)
        right
        exact (PcmRead.store_of_failed fails nothing bytes buffer).trans
          (PcmRead.store_of_failed ((envs.pcmRead 0).ret ▸ fails)
            ((envs.pcmRead 0).delivered ▸ nothing) bytes buffer).symm
      · exact Or.inl fun ret returned => Option.some.inj returned ▸ Int.not_lt.mp fails

/-- Zeroed memory reads as silence. -/
theorem CallerBuffer.contents_zero (buffer : CallerBuffer) (bytes : Nat) :
    (buffer.zero bytes).contents bytes =
      (List.replicate (bytes / 2) 0, if bytes % 2 = 1 then some 0 else none) := by
  -- Every sample within the length is zero, and so is a byte that is left over.
  have silent : ∀ n ∈ List.range (bytes / 2), (buffer.zero bytes).samples n = 0 := by
    intro n member
    exact if_pos (List.mem_range.mp member)
  have odd : (if bytes % 2 = 1 then some (buffer.zero bytes).odd else none) =
      if bytes % 2 = 1 then some 0 else none := by
    split
    · exact congrArg some (if_pos ‹_›)
    · rfl
  unfold CallerBuffer.contents
  rw [odd, List.map_congr_left silent, List.map_const', List.length_range]

/-- The samples within the length and the odd byte are all there is to the contents. -/
theorem CallerBuffer.contents_congr {one two : CallerBuffer} {bytes : Nat}
    (samples : ∀ n, n < bytes / 2 → one.samples n = two.samples n) (odd : one.odd = two.odd) :
    one.contents bytes = two.contents bytes := by
  unfold CallerBuffer.contents
  rw [odd, List.map_congr_left fun n member => samples n (List.mem_range.mp member)]

/-- What a capture comes to for the caller, by the mute switch as it was before. -/
theorem exec_inReadRunning (buffer : CallerBuffer) (w : World ρ) :
    ((inReadRunning R i buffer bytes env).exec w).1 =
      let read := ((capture R i env bytes buffer.samples).exec w).1
      let ret := read.2.map fun ret => if ret > 0 then 0 else ret
      let filled := { buffer with samples := read.1 }
      (if ret = some 0 ∧ w.adev.micMute then filled.zero bytes else filled, ret) := by
  -- A capture does not touch the flag of the microphone.
  have kept := (inFrame_capture (i := i) R env bytes buffer.samples w).adev
  unfold inReadRunning
  rw [Prog.exec_bind]
  dsimp only
  rw [exec_getAdev_bind, Prog.exec_pure, kept]

/-- Muted, both runs leave the same with the caller if they capture without an error or alike. -/
theorem inReadRunning_muted (oblivious : R.Oblivious same) {w v : World ρ}
    (twin : World.Twin same w v) (muted : w.adev.micMute = true) (envs : env.Twin other)
    (buffer : CallerBuffer)
    (safe : bytes < 2 ∨
      (∀ ret, ((capture R i env bytes buffer.samples).exec w).1.2 = some ret → 0 ≤ ret) ∨
        ((capture R i env bytes buffer.samples).exec w).1.1 =
          ((capture R i other bytes buffer.samples).exec v).1.1)
    (returned : ((inReadRunning R i buffer bytes env).exec w).1.2.isSome) :
    ((inReadRunning R i buffer bytes env).exec w).1.1.contents bytes =
      ((inReadRunning R i buffer bytes other).exec v).1.1.contents bytes := by
  -- Both captures end with the same code, so both are zeroed or neither is.
  have rets := (twin_capture i oblivious envs bytes buffer.samples buffer.samples w v twin).2
  have muted' : v.adev.micMute = true := by rw [← twin.adev, muted]
  rw [exec_inReadRunning] at returned ⊢
  rw [exec_inReadRunning]
  generalize ((capture R i env bytes buffer.samples).exec w).1 = one at *
  generalize ((capture R i other bytes buffer.samples).exec v).1 = two at *
  obtain ⟨samples, ret⟩ := one
  obtain ⟨samples', _⟩ := two
  obtain rfl : ret = _ := rets
  simp only [muted, muted', and_true] at returned ⊢
  by_cases success : (ret.map fun ret => if ret > 0 then 0 else ret) = some 0
  · rw [if_pos success, if_pos success, CallerBuffer.contents_zero, CallerBuffer.contents_zero]
  · rw [if_neg success, if_neg success]
    refine CallerBuffer.contents_congr (fun n within => ?_) rfl
    rcases safe with short | fine | alike
    · omega
    · -- A code that is no error counts as success.
      obtain ⟨code, is⟩ := Option.isSome_iff_exists.mp (by simpa using returned)
      have nonneg := fine code is
      refine absurd ?_ success
      rw [is, Option.map_some]
      exact congrArg some (by split <;> omega)
    · exact congrFun alike n

/-- What an `in_read` leaves to its caller is settled once the stream is started. -/
theorem exec_inRead (buffer : CallerBuffer) (w : World ρ) :
    ((inRead R i buffer bytes env).exec w).1 =
      let (ret, after) := (startInIfStandby R i env.start).exec w
      let read := if ret < 0 then (buffer, some ret)
        else ((inReadRunning R i buffer bytes env).exec after).1
      { bytes := bytes, buffer := read.1, returned := read.2.isSome } := by
  -- The start decides between its own status and the capture.
  unfold inRead
  simp only [Prog.exec_bind, Prog.exec_acquire, Prog.exec_release]
  generalize (startInIfStandby R i env.start).exec w = started
  obtain ⟨ret, after⟩ := started
  dsimp only
  rw [Prog.exec_ite]
  split <;> rfl

/-- A stream that cannot be started leaves the caller's buffer alone. -/
theorem inRead_unable (buffer : CallerBuffer) (w : World ρ) (standby : (w.ins i).standby = true)
    (unready : env.start.pcmIsReady = false) :
    ((inRead R i buffer bytes env).exec w).1 =
      { bytes := bytes, buffer := buffer, returned := true } := by
  -- The start fails, and its status is all that comes of the read.
  have begun := begun_input R w env.start i
  unfold Begun at begun
  rw [if_pos (by exact standby), if_neg (by simp [unready])] at begun
  rw [exec_inRead]
  dsimp only
  rw [begun.1, if_pos (by decide)]
  rfl

/-- A stream that is running by then is captured from. -/
theorem inRead_able (buffer : CallerBuffer) (w : World ρ)
    (started : ((startInIfStandby R i env.start).exec w).1 = 0) :
    ((inRead R i buffer bytes env).exec w).1 =
      let read := ((inReadRunning R i buffer bytes env).exec
        ((startInIfStandby R i env.start).exec w).2).1
      { bytes := bytes, buffer := read.1, returned := read.2.isSome } := by
  -- The start returns zero.
  rw [exec_inRead]
  dsimp only
  rw [started, if_neg (by decide)]

/--
A muted read leaves the same with its caller in runs that differ in captured samples only.

It is harmless when nothing captured can be left over from a failure.
-/
theorem inRead_muted (oblivious : R.Oblivious same) (hardware : Settings)
    {acts others : List Act} (alike : List.Forall₂ Act.Twin acts others) {w v : World ρ}
    (ran : run (step R) (.initial hardware) acts = some w)
    (ran' : run (step R) (.initial hardware) others = some v)
    (muted : w.adev.micMute = true) (envs : env.Twin other) (buffer : CallerBuffer)
    (harmless : Harmless R w v i bytes env) :
    ((inRead R i buffer bytes env).exec w).1.returned =
        ((inRead R i buffer bytes other).exec v).1.returned ∧
      (((inRead R i buffer bytes env).exec w).1.returned →
        ((inRead R i buffer bytes env).exec w).1.buffer.contents bytes =
          ((inRead R i buffer bytes other).exec v).1.buffer.contents bytes) := by
  have twin := twin_run oblivious alike (twin_initial hardware) ran ran'
  have held := run_invariant' (ledgered_step R) (ledgered_initial hardware) ran
  refine ⟨(twin_inRead i oblivious envs buffer bytes w v twin).2, fun returned => ?_⟩
  by_cases unable : (w.ins i).standby = true ∧ env.start.pcmIsReady = false
  · rw [inRead_unable buffer w unable.1 unable.2,
      inRead_unable buffer v ((twin.ins i).standby ▸ unable.1) (envs.start ▸ unable.2)]
  · have able : (w.ins i).standby = true → env.start.pcmIsReady = true := by simpa using unable
    have able' : (v.ins i).standby = true → env.start.pcmIsReady = true := by
      rwa [← (twin.ins i).standby]
    obtain ⟨ret, mute, pcm, own, fresh, running⟩ := startInIfStandby_frame R w i env.start able
    obtain ⟨ret', _, pcm', own', _, _⟩ := startInIfStandby_frame R v i env.start able'
    have started := (blind_startInIfStandby oblivious i env.start w v twin).1
    -- The stream has just got a handle, or it was running with one.
    have handle : pcm.isSome := by
      cases standby : (w.ins i).standby with
      | true => exact fresh standby
      | false =>
        rw [running standby]
        exact held.running (.input i) standby
    rw [inRead_able buffer w ret] at returned ⊢
    rw [inRead_able buffer v (envs.start ▸ ret'), ← envs.start]
    refine inReadRunning_muted oblivious started (mute.trans muted) envs buffer ?_ returned
    rcases harmless with short | failed | isSealed
    · exact Or.inl short
    · exact absurd failed unable
    · refine Or.inr (capture_sealed oblivious started (by rw [own]; exact handle) envs _ ?_)
      rw [own, own']
      exact isSealed

end Muted

/-- The nearest-frame resampler counts frames without looking at them. -/
theorem ResamplerLib.nearest_oblivious : nearest.Oblivious Eq where
  create _ _ _ := rfl
  provider rates _ frames := by
    rintro rfl
    -- As many frames are produced as the provider has granted.
    refine .getNextBuffer _ fun one two lengths => ?_
    cases one with
    | none =>
      cases two with
      | none => exact .finish rfl rfl
      | some input => cases lengths
    | some input =>
      cases two with
      | none => cases lengths
      | some input' =>
        have count : input.length = input'.length := Option.some.inj lengths
        dsimp only
        rw [count]
        exact .releaseBuffer _ (.finish rfl (by simp))

/-- Every read ends with the given code, and what is captured is one sample over and over. -/
def InReadEnv.hearing (sample : Sample) (ret : Int) : InReadEnv where
  start := ⟨true, true, some fun _ => 0⟩
  pcmRead _ := ⟨ret, 0, fun _ => sample⟩
  fuel := 2

/-- Two reads that differ in the sample they hear are twins. -/
theorem InReadEnv.Twin.hearing (one two : Sample) (ret : Int) :
    InReadEnv.Twin (.hearing one ret) (.hearing two ret) := ⟨rfl, fun _ => ⟨rfl, rfl⟩, rfl⟩

/-- A caller's buffer that holds silence. -/
def CallerBuffer.silent : CallerBuffer := ⟨fun _ => 0, 0⟩

/-- The microphone is muted, and a stream is opened and read from once. -/
def mutedListening (sample : Sample) : List Act :=
  [.adevSetMicMute true, .openInputStream 0 true ⟨inSamplingRate, audioChannelInMono⟩ false,
    .inRead 0 .silent 4 (.hearing sample 0)]

/-- And so are two runs that differ in nothing else. -/
theorem twin_mutedListening (one two : Sample) :
    List.Forall₂ Act.Twin (mutedListening one) (mutedListening two) :=
  .cons (.refl _) (.cons (.refl _) (.cons (.inRead _ _ _ (.hearing one two 0)) .nil))

/-- A muted read that succeeds sounds the same, whatever the microphone hears. -/
theorem inRead_muted_succeeding : ∃ w v : World (Nat × Nat),
    run (step .nearest) (.initial fun _ => none) (mutedListening 1) = some w ∧
      run (step .nearest) (.initial fun _ => none) (mutedListening 2) = some v ∧
      ((inRead .nearest 0 .silent 4 (.hearing 3 0)).exec w).1.buffer.contents 4 =
        ((inRead .nearest 0 .silent 4 (.hearing 4 0)).exec v).1.buffer.contents 4 := by
  refine ⟨_, _, rfl, rfl, (inRead_muted ResamplerLib.nearest_oblivious (fun _ => none)
    (twin_mutedListening 1 2) rfl rfl rfl (.hearing 3 4 0) .silent ?_).2 rfl⟩
  -- The stream runs without a resampler, so the one read of the call decides, and it succeeds.
  exact Or.inr (Or.inr (Or.inl (Int.le_refl 0)))

/-- A failing read hands its caller what an earlier read captured, though both were muted. -/
theorem inRead_muted_leaks : ∃ w v : World (Nat × Nat),
    run (step .nearest) (.initial fun _ => none) (mutedListening 1) = some w ∧
      run (step .nearest) (.initial fun _ => none) (mutedListening 2) = some v ∧
      List.Forall₂ Act.Twin (mutedListening 1) (mutedListening 2) ∧ w.adev.micMute = true ∧
      ((inRead .nearest 0 .silent 2 (.hearing 0 (-5))).exec w).1.returned = true ∧
      ((inRead .nearest 0 .silent 2 (.hearing 0 (-5))).exec w).1.buffer.contents 2 ≠
        ((inRead .nearest 0 .silent 2 (.hearing 0 (-5))).exec v).1.buffer.contents 2 := by
  refine ⟨_, _, rfl, rfl, twin_mutedListening 1 2, rfl, rfl, fun same => ?_⟩
  -- What the caller gets is what the first read captured, and that differs.
  have heard : ([1] : List Sample) = [2] := congrArg Prod.fst same
  exact absurd heard (by decide)

end Grouper.Audio
