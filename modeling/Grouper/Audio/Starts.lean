import Grouper.Audio.Refinement

/-! What starting and stopping leave of a stream, and how far the other streams are concerned. -/

namespace Grouper.Audio

open Function (update)
open Prog (Leads when)

variable {ρ : Type}

/-- An output stream that was put into standby. -/
def StreamOut.stopped (out : StreamOut ρ) : StreamOut ρ :=
  { out with pcm := none, resampler := none, buffer := none, standby := true }

/-- An input stream that was put into standby. -/
def StreamIn.stopped (in_ : StreamIn ρ) : StreamIn ρ :=
  { in_ with pcm := none, resampler := none, buffer := none, standby := true }

/-- A configured output stream once its PCM turned out to be ready. -/
def StreamOut.begun (R : ResamplerLib ρ) (env : StartEnv) (pcm : Pcm) (out : StreamOut ρ) :
    StreamOut ρ :=
  if outGetSampleRate ≠ out.config.rate then
    { out with
      pcm := some pcm
      resampler := if env.createResampler then
          some (R.create outGetSampleRate out.config.rate out.config.channels)
        else none
      bufferFrames := (pcmConfigOut.periodSize * out.config.rate) / outGetSampleRate + 1
      buffer := env.malloc }
  else { out with pcm := some pcm }

/-- A configured input stream once its PCM turned out to be ready. -/
def StreamIn.begun (R : ResamplerLib ρ) (env : StartEnv) (pcm : Pcm) (in_ : StreamIn ρ) :
    StreamIn ρ :=
  { in_ with
    pcm := some pcm
    resampler :=
      if inGetSampleRate in_ ≠ in_.pcmConfig.rate then
        if env.createResampler then
          some (R.create in_.pcmConfig.rate (inGetSampleRate in_) 1)
        else none
      else in_.resampler
    bufferSize := pcm.framesToBytes in_.pcmConfig.periodSize
    buffer := env.malloc
    framesIn := 0 }

/-- The route decides on the configuration that a start gives its stream, and on nothing else. -/
theorem StreamIn.configure_spec (in_ : StreamIn ρ) (scoOn : Bool) :
    (in_.configure scoOn).pcmConfig = (if scoOn then pcmConfigSco else in_.pcmConfigNonSco) ∧
      (in_.configure scoOn).resampler = in_.resampler ∧
      (in_.configure scoOn).requestedRate = in_.requestedRate ∧
      (in_.configure scoOn).standby = in_.standby := by
  -- The route decides about the configuration of the PCM.
  unfold StreamIn.configure
  cases scoOn with
  | false => exact ⟨rfl, rfl, rfl, rfl⟩
  | true => exact ⟨rfl, rfl, rfl, rfl⟩

section Specs

variable (R : ResamplerLib ρ) (w : World ρ) (env : StartEnv)

/-- There is a resampler if one is needed and was created, given that none was left from before. -/
theorem StreamIn.resampler_begun {in_ : StreamIn ρ} (rested : in_.resampler = none) (pcm : Pcm) :
    (in_.begun R env pcm).resampler.isSome ↔
      in_.requestedRate ≠ in_.pcmConfig.rate ∧ env.createResampler = true := by
  unfold StreamIn.begun
  dsimp only
  rw [inGetSampleRate, rested]
  by_cases same : in_.requestedRate = in_.pcmConfig.rate
  · rw [if_neg (not_not.mpr same)]
    -- At the same rate none is created, and none was there before.
    constructor
    · intro present
      cases present
    · exact fun both => absurd same both.1
  · -- The rates differ, so it is up to the library.
    rw [if_pos same]
    cases env.createResampler with
    | false =>
      constructor
      · intro present
        cases present
      · intro both
        cases both.2
    | true => exact ⟨fun _ => ⟨same, rfl⟩, fun _ => rfl⟩

/-- A PCM that is not ready is closed, and its handle stays behind. -/
theorem exec_openOutputPcm_failed (o device : Nat) (failed : env.pcmIsReady = false) :
    let pcm : Pcm := ⟨w.opened, device, (w.outs o).config⟩
    (openOutputPcm R o device env).exec w = (-enomem, { w with
      outs := update w.outs o { w.outs o with pcm := some pcm }
      opened := w.opened + 1
      calls := .pcmClose (some pcm) :: .pcmIsReady (some pcm) ::
        .pcmOpen (.output o) pcm :: w.calls }) := by
  simp [openOutputPcm, failed]

/-- With a ready PCM the stream becomes the active one. -/
theorem exec_openOutputPcm_ready (o device : Nat) (ready : env.pcmIsReady = true) :
    let pcm : Pcm := ⟨w.opened, device, (w.outs o).config⟩
    (openOutputPcm R o device env).exec w = (0, { w with
      adev := { w.adev with activeOut := some o }
      outs := update w.outs o ((w.outs o).begun R env pcm)
      opened := w.opened + 1
      calls := (if outGetSampleRate ≠ (w.outs o).config.rate then [.pcmFramesToBytes (some pcm)]
        else []) ++ .pcmIsReady (some pcm) :: .pcmOpen (.output o) pcm :: w.calls }) := by
  unfold openOutputPcm StreamOut.begun
  rw [exec_getOut_bind]
  simp only [Prog.exec_bind, exec_pcmOpen, exec_modifyOut, exec_record]
  rw [if_neg (by simp [ready])]
  simp only [Prog.exec_bind, Prog.exec_when]
  -- The two rates decide whether there is a resampler.
  by_cases same : outGetSampleRate = (w.outs o).config.rate
  · rw [if_neg (not_not.mpr same), if_neg (not_not.mpr same), if_neg (not_not.mpr same)]
    rfl
  · rw [if_pos same, if_pos same, if_pos same]
    simp

/-- A capture PCM that is not ready is closed, and its handle stays in the stream. -/
theorem exec_openInputPcm_failed (i device : Nat) (failed : env.pcmIsReady = false) :
    let pcm : Pcm := ⟨w.opened, device, (w.ins i).pcmConfig⟩
    (openInputPcm R i device env).exec w = (-enomem, { w with
      ins := update w.ins i { w.ins i with pcm := some pcm }
      opened := w.opened + 1
      calls := .pcmClose (some pcm) :: .pcmIsReady (some pcm) ::
        .pcmOpen (.input i) pcm :: w.calls }) := by
  simp [openInputPcm, failed]

/-- A capture PCM that is ready starts its stream. -/
theorem exec_openInputPcm_ready (i device : Nat) (ready : env.pcmIsReady = true) :
    let pcm : Pcm := ⟨w.opened, device, (w.ins i).pcmConfig⟩
    (openInputPcm R i device env).exec w = (0, { w with
      adev := { w.adev with activeIn := some i }
      ins := update w.ins i ((w.ins i).begun R env pcm)
      opened := w.opened + 1
      calls := .pcmFramesToBytes (some pcm) :: .pcmIsReady (some pcm) ::
        .pcmOpen (.input i) pcm :: w.calls }) := by
  unfold openInputPcm StreamIn.begun
  rw [exec_getIn_bind]
  simp only [Prog.exec_bind, exec_pcmOpen, exec_modifyIn, exec_record]
  rw [if_neg (by simp [ready])]
  simp only [Prog.exec_bind, Prog.exec_when]
  by_cases same : inGetSampleRate (w.ins i) = (w.ins i).pcmConfig.rate
  · -- The buffer is allocated in either case, so only the resampler differs.
    rw [if_neg (not_not.mpr same), if_neg (not_not.mpr same)]
    simp
  · rw [if_pos same, if_pos same]
    simp [inGetSampleRate]

/-- Stopping an input stream touches nothing of the output streams. -/
theorem stopClashingIn_frame (o : Nat) :
    ((stopClashingIn o).exec w).2.outs = w.outs ∧
      ((stopClashingIn o).exec w).2.adev =
        { w.adev with activeIn := ((stopClashingIn o).exec w).2.adev.activeIn } := by
  unfold stopClashingIn
  rw [exec_getAdev_bind]
  -- Without an active input stream nothing is stopped.
  split
  · exact ⟨rfl, rfl⟩
  · rw [Prog.exec_bind, exec_getOut_bind, exec_getIn_bind, Prog.exec_bind, Prog.exec_when,
      exec_doInStandby]
    split
    · split <;> exact ⟨rfl, rfl⟩
    · exact ⟨rfl, rfl⟩

/-- Stopping an output stream touches nothing of the input streams. -/
theorem stopClashingOut_frame (i : Nat) :
    ((stopClashingOut i).exec w).2.ins = w.ins ∧
      ((stopClashingOut i).exec w).2.adev =
        { w.adev with activeOut := ((stopClashingOut i).exec w).2.adev.activeOut } := by
  unfold stopClashingOut
  rw [exec_getAdev_bind]
  -- Nor without an active output stream.
  split
  · exact ⟨rfl, rfl⟩
  · rw [Prog.exec_bind, exec_getIn_bind, exec_getOut_bind, Prog.exec_bind, Prog.exec_when,
      exec_doOutStandby]
    split
    · split <;> exact ⟨rfl, rfl⟩
    · exact ⟨rfl, rfl⟩

/-- A start configures the stream by the route, stops what clashes, and opens the PCM. -/
theorem startOutputStream_spec (o : Nat) : ∃ v : World ρ,
    v.outs = update w.outs o ((w.outs o).configure (outScoOn w.adev)) ∧
      v.adev = { w.adev with activeIn := v.adev.activeIn } ∧
      (startOutputStream R o env).exec w =
        (openOutputPcm R o (if outScoOn w.adev then pcmDeviceSco else pcmDevice) env).exec v := by
  -- What is stopped on the way is a stream of the other direction.
  have frame := stopClashingIn_frame ((modifyOut o (.configure (outScoOn w.adev))).exec w).2 o
  refine ⟨_, frame.1, frame.2, ?_⟩
  unfold startOutputStream
  rw [exec_getAdev_bind, Prog.exec_bind, Prog.exec_bind]

/-- An input stream is configured by the route, and opens the PCM of the route. -/
theorem startInputStream_spec (i : Nat) : ∃ v : World ρ,
    v.ins = update w.ins i ((w.ins i).configure (inScoOn w.adev)) ∧
      v.adev = { w.adev with activeOut := v.adev.activeOut } ∧
      (startInputStream R i env).exec w =
        (openInputPcm R i (if inScoOn w.adev then pcmDeviceSco else pcmDevice) env).exec v := by
  -- What is stopped on the way is a stream of the other direction.
  have frame := stopClashingOut_frame ((modifyIn i (.configure (inScoOn w.adev))).exec w).2 i
  refine ⟨_, frame.1, frame.2, ?_⟩
  unfold startInputStream
  rw [exec_getAdev_bind, Prog.exec_bind, Prog.exec_bind]

end Specs

end Grouper.Audio
