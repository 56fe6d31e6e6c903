import Grouper.Audio.Device

/-! What the capture and playback paths of a running stream leave alone. -/

namespace Grouper.Audio

open Prog (Leads when)

variable {ρ : Type}

section Exec

variable (w : World ρ)

/-- A call of the kernel goes into the log. -/
@[simp] theorem exec_record (call : Call) :
    (record call).exec w = ((), { w with calls := call :: w.calls }) := rfl

/-- An output stream is read and nothing is changed. -/
@[simp] theorem exec_getOut (o : Nat) : (getOut o).exec w = (w.outs o, w) := rfl

/-- An input stream is read and nothing is changed. -/
@[simp] theorem exec_getIn (i : Nat) : (getIn i).exec w = (w.ins i, w) := rfl

/-- The device is read and nothing is changed. -/
@[simp] theorem exec_getAdev : getAdev.exec w = (w.adev, w) := rfl

/-- The value is put in place before anything that depends on it, deciding conditions included. -/
@[simp high] theorem exec_getOut_bind {α : Type} (o : Nat) (next : StreamOut ρ → Hal ρ α) :
    (getOut o >>= next).exec w = (next (w.outs o)).exec w := rfl

/-- The same for what follows the reading of an input stream. -/
@[simp high] theorem exec_getIn_bind {α : Type} (i : Nat) (next : StreamIn ρ → Hal ρ α) :
    (getIn i >>= next).exec w = (next (w.ins i)).exec w := rfl

/-- And for what follows the reading of the device. -/
@[simp high] theorem exec_getAdev_bind {α : Type} (next : AudioDevice → Hal ρ α) :
    (getAdev >>= next).exec w = (next w.adev).exec w := rfl

/-- A change of the device is applied to it. -/
@[simp] theorem exec_modifyAdev (change : AudioDevice → AudioDevice) :
    (modifyAdev change).exec w = ((), { w with adev := change w.adev }) := rfl

/-- A change of an output stream is applied to that stream. -/
@[simp] theorem exec_modifyOut (o : Nat) (change : StreamOut ρ → StreamOut ρ) :
    (modifyOut o change).exec w =
      ((), { w with outs := Function.update w.outs o (change (w.outs o)) }) := rfl

/-- A change of an input stream is applied to that stream. -/
@[simp] theorem exec_modifyIn (i : Nat) (change : StreamIn ρ → StreamIn ρ) :
    (modifyIn i change).exec w =
      ((), { w with ins := Function.update w.ins i (change (w.ins i)) }) := rfl

/-- An opened PCM has the next number, and its opening is in the log. -/
@[simp] theorem exec_pcmOpen (stream : StreamRef) (device : Nat) (config : PcmConfig) :
    (pcmOpen stream device config).exec w = (⟨w.opened, device, config⟩,
      { w with
        opened := w.opened + 1
        calls := .pcmOpen stream ⟨w.opened, device, config⟩ :: w.calls }) := rfl

end Exec

/-- Calls that serve a running stream through its own handle, short of writing to it. -/
def Call.Serves (pcm : Option Pcm) : Call → Prop
  | pcmRead handle _ | pcmGetHtimestamp handle | pcmGetBufferSize handle => handle = pcm
  | usleep _ | nullDereference => True
  | _ => False

/-- What capturing keeps of an input stream. -/
structure StreamIn.Kept (before after : StreamIn ρ) : Prop where
  pcm : after.pcm = before.pcm
  pcmConfig : after.pcmConfig = before.pcmConfig
  pcmConfigNonSco : after.pcmConfigNonSco = before.pcmConfigNonSco
  standby : after.standby = before.standby
  requestedRate : after.requestedRate = before.requestedRate
  bufferSize : after.bufferSize = before.bufferSize

/-- What converting and throttling keep of an output stream. -/
structure StreamOut.Kept (before after : StreamOut ρ) : Prop where
  pcm : after.pcm = before.pcm
  pcmConfig : after.pcmConfig = before.pcmConfig
  standby : after.standby = before.standby
  written : after.written = before.written
  bufferFrames : after.bufferFrames = before.bufferFrames

/-- What is kept of an output stream decides its configuration. -/
theorem StreamOut.Kept.config {before after : StreamOut ρ} (kept : before.Kept after) :
    after.config = before.config := by
  rw [StreamOut.config, kept.pcmConfig]
  rfl

/-- A step of the capture path of one stream. -/
structure InFrame (i : Nat) (before after : World ρ) : Prop where
  adev : after.adev = before.adev
  outs : after.outs = before.outs
  others : ∀ j, j ≠ i → after.ins j = before.ins j
  outOpen : after.outOpen = before.outOpen
  inOpen : after.inOpen = before.inOpen
  opened : after.opened = before.opened
  kept : (before.ins i).Kept (after.ins i)
  calls : ∃ new, after.calls = new ++ before.calls ∧
    ∀ call ∈ new, call.Serves (before.ins i).pcm

/-- A step of the playback path of one stream. -/
structure OutFrame (o : Nat) (before after : World ρ) : Prop where
  adev : after.adev = before.adev
  ins : after.ins = before.ins
  others : ∀ p, p ≠ o → after.outs p = before.outs p
  outOpen : after.outOpen = before.outOpen
  inOpen : after.inOpen = before.inOpen
  opened : after.opened = before.opened
  kept : (before.outs o).Kept (after.outs o)
  calls : ∃ new, after.calls = new ++ before.calls ∧
    ∀ call ∈ new, call.Serves (before.outs o).pcm

/-- The steps that the loop of `read_frames` is made of lead where a relation says. -/
structure CaptureSteps (rel : World ρ → World ρ → Prop) (i : Nat) : Prop where
  state : ∀ (state : ρ) (w : World ρ),
    Leads rel (modifyIn i fun in_ => { in_ with resampler := some state }) w
  getNextBuffer : ∀ (outcomes : Nat → PcmRead) (reads frameCount : Nat) (w : World ρ),
    Leads rel (getNextBuffer i outcomes reads frameCount) w
  readGrant : ∀ (grant : Grant) (w : World ρ), Leads rel (readGrant i grant) w
  releaseBuffer : ∀ (frameCount : Nat) (w : World ρ), Leads rel (releaseBuffer i frameCount) w

section Loop

variable {rel : World ρ → World ρ → Prop} [Std.Refl rel] [IsTrans (World ρ) rel] {i : Nat}

/-- What the provider of a resampler does is made of such steps. -/
theorem CaptureSteps.runProvider (steps : CaptureSteps rel i) (outcomes : Nat → PcmRead)
    (provider : Provider ρ) :
    ∀ reads (w : World ρ), Leads rel (runProvider i outcomes provider reads) w := by
  -- The induction follows the resampler's requests to its provider.
  induction provider with
  | finish state output =>
    intro reads w
    unfold Audio.runProvider
    exact .bind (steps.state state w) (.pure _)
  | getNextBuffer frameCount next ih =>
    intro reads w
    unfold Audio.runProvider
    refine .bind (steps.getNextBuffer outcomes reads frameCount w) ?_
    -- Without a grant the resampler goes on with nothing.
    split
    · exact ih none _ _
    · exact .bind (steps.readGrant _ _) (ih (some _) _ _)
  | releaseBuffer frameCount next ih =>
    intro reads w
    unfold Audio.runProvider
    exact .bind (steps.releaseBuffer frameCount w) (ih _ _)

/-- And so is a round of `read_frames`. -/
theorem CaptureSteps.readFramesRound (steps : CaptureSteps rel i) (R : ResamplerLib ρ)
    (outcomes : Nat → PcmRead) (buffer : Samples) (framesWr framesRd reads : Nat) (w : World ρ) :
    Leads rel (readFramesRound R i outcomes buffer framesWr framesRd reads) w := by
  -- The frames come through the resampler, or straight from what was granted.
  refine .bind (Std.Refl.refl w) ?_
  split
  · exact .bind (steps.runProvider _ _ _ _) (.pure _)
  · refine .bind (steps.getNextBuffer _ _ _ _) ?_
    split
    · exact .bind (steps.releaseBuffer _ _) (.pure _)
    · refine .bind (steps.readGrant _ _) ?_
      exact .bind (steps.releaseBuffer _ _) (.pure _)

/-- And so are all its rounds. -/
theorem CaptureSteps.readFrames (steps : CaptureSteps rel i) (R : ResamplerLib ρ)
    (outcomes : Nat → PcmRead) (frames fuel : Nat) :
    ∀ framesWr reads buffer (w : World ρ),
      Leads rel (readFrames R i outcomes frames fuel framesWr reads buffer) w := by
  -- The induction follows the rounds of the loop.
  induction fuel with
  | zero => exact fun _ _ _ _ => .pure _
  | succ fuel ih =>
    intro framesWr reads buffer w
    refine .ite (fun _ => ?_) fun _ => .pure _
    refine .bind (steps.readFramesRound R outcomes buffer framesWr _ reads w) ?_
    refine .bind (Std.Refl.refl _) ?_
    exact .ite (fun _ => .pure _) fun _ => ih _ _ _ _

end Loop

section Capture

variable {i : Nat}

instance : Std.Refl (InFrame (ρ := ρ) i) where
  refl w := ⟨rfl, rfl, fun _ _ => rfl, rfl, rfl, rfl, ⟨rfl, rfl, rfl, rfl, rfl, rfl⟩,
    [], rfl, by simp⟩

instance : IsTrans (World ρ) (InFrame i) where
  trans a b c one two := by
    obtain ⟨new, logged, serve⟩ := one.calls
    obtain ⟨newer, loggedAfter, serveAfter⟩ := two.calls
    refine ⟨two.adev.trans one.adev, two.outs.trans one.outs,
      fun j other => (two.others j other).trans (one.others j other),
      two.outOpen.trans one.outOpen, two.inOpen.trans one.inOpen, two.opened.trans one.opened,
      ⟨two.kept.pcm.trans one.kept.pcm, two.kept.pcmConfig.trans one.kept.pcmConfig,
        two.kept.pcmConfigNonSco.trans one.kept.pcmConfigNonSco,
        two.kept.standby.trans one.kept.standby,
        two.kept.requestedRate.trans one.kept.requestedRate,
        two.kept.bufferSize.trans one.kept.bufferSize⟩,
      newer ++ new, by rw [loggedAfter, logged, List.append_assoc], ?_⟩
    intro call member
    -- Both halves of the log speak of the same handle, since the first one kept it.
    rcases List.mem_append.mp member with late | early
    · exact one.kept.pcm ▸ serveAfter call late
    · exact serve call early

/-- A change of the stream that keeps what capturing keeps. -/
theorem inFrame_modifyIn (change : StreamIn ρ → StreamIn ρ) (w : World ρ)
    (kept : (w.ins i).Kept (change (w.ins i))) : Leads (InFrame i) (modifyIn i change) w := by
  -- The world is changed in the one place of the stream, and no call is made.
  refine ⟨rfl, rfl, fun j other => ?_, rfl, rfl, rfl, ?_, [], rfl, by simp⟩
  · simp [other]
  · simpa using kept

/-- A call of the kernel with the stream's own handle. -/
theorem inFrame_record (call : Call) (w : World ρ) (serves : call.Serves (w.ins i).pcm) :
    Leads (InFrame i) (record call) w :=
  ⟨rfl, rfl, fun _ _ => rfl, rfl, rfl, rfl, ⟨rfl, rfl, rfl, rfl, rfl, rfl⟩,
    [call], rfl, by simpa using serves⟩

/-- Reading the stream is a step of its capture path. -/
theorem inFrame_getIn (w : World ρ) : Leads (InFrame i) (getIn i) w := Std.Refl.refl w

/-- Handing frames out is one, with the `pcm_read` that it may take. -/
theorem inFrame_getNextBuffer (outcomes : Nat → PcmRead) (reads frameCount : Nat) (w : World ρ) :
    Leads (InFrame i) (getNextBuffer i outcomes reads frameCount) w := by
  -- The cases are those of the source: no PCM, no frames left, or frames left.
  refine .bind (inFrame_getIn w) ?_
  refine .ite (fun _ => ?_) fun _ => ?_
  · exact .bind (inFrame_modifyIn _ _ ⟨rfl, rfl, rfl, rfl, rfl, rfl⟩) (.pure _)
  · refine .ite (fun _ => ?_) fun _ => .pure _
    refine .bind (inFrame_record _ _ rfl) ?_
    refine .bind (inFrame_modifyIn _ _ ⟨rfl, rfl, rfl, rfl, rfl, rfl⟩) ?_
    refine .ite (fun _ => .pure _) fun _ => ?_
    refine .bind (inFrame_modifyIn _ _ ⟨rfl, rfl, rfl, rfl, rfl, rfl⟩) ?_
    refine .bind ?_ ?_
    · refine .when fun _ => ?_
      refine .bind (.when fun _ => inFrame_record _ _ trivial) ?_
      exact inFrame_modifyIn _ _ ⟨rfl, rfl, rfl, rfl, rfl, rfl⟩
    · exact .bind (inFrame_getIn _) (.pure _)

/-- Giving frames back is one. -/
theorem inFrame_releaseBuffer (frameCount : Nat) (w : World ρ) :
    Leads (InFrame i) (releaseBuffer i frameCount) w :=
  inFrame_modifyIn _ _ ⟨rfl, rfl, rfl, rfl, rfl, rfl⟩

/-- Copying what was handed out is one. -/
theorem inFrame_readGrant (grant : Grant) (w : World ρ) :
    Leads (InFrame i) (readGrant i grant) w := by
  -- A stream without a buffer has nothing to copy.
  refine .bind (inFrame_getIn w) ?_
  split
  · exact .bind (inFrame_record _ _ trivial) (.pure _)
  · exact .pure _

/-- So the loop of `read_frames` stays on the capture path. -/
theorem captureSteps_inFrame (i : Nat) : CaptureSteps (InFrame (ρ := ρ) i) i where
  state _ w := inFrame_modifyIn _ w ⟨rfl, rfl, rfl, rfl, rfl, rfl⟩
  getNextBuffer := inFrame_getNextBuffer
  readGrant := inFrame_readGrant
  releaseBuffer := inFrame_releaseBuffer

/-- Capturing works on the stream's own buffer through the stream's own handle. -/
theorem inFrame_capture (R : ResamplerLib ρ) (env : InReadEnv) (bytes : Nat) (buffer : Samples)
    (w : World ρ) : Leads (InFrame i) (capture R i env bytes buffer) w := by
  -- The ways are a resampler, a buffer for both channels, and the client's own buffer.
  have loop := (captureSteps_inFrame i).readFrames R
  refine .bind (inFrame_getIn w) ?_
  refine .ite (fun _ => loop _ _ _ _ _ _ _) fun _ => ?_
  refine .ite (fun _ => ?_) fun _ => ?_
  · refine .bind (inFrame_record _ _ rfl) ?_
    refine .bind (inFrame_modifyIn _ _ ⟨rfl, rfl, rfl, rfl, rfl, rfl⟩) ?_
    refine .bind (inFrame_getIn _) ?_
    split
    · exact .bind (.when fun _ => inFrame_record _ _ trivial) (.pure _)
    · exact .pure _
  · exact .bind (inFrame_record _ _ rfl) (.pure _)

/-- A read of a running stream stays on its capture path. -/
theorem inFrame_inReadRunning (R : ResamplerLib ρ) (buffer : CallerBuffer) (bytes : Nat)
    (env : InReadEnv) (w : World ρ) :
    Leads (InFrame i) (inReadRunning R i buffer bytes env) w := by
  refine .bind (inFrame_capture R env bytes _ w) ?_
  exact .bind (Std.Refl.refl _) (.pure _)

end Capture

section Playback

variable {o : Nat}

instance : Std.Refl (OutFrame (ρ := ρ) o) where
  refl w := ⟨rfl, rfl, fun _ _ => rfl, rfl, rfl, rfl, ⟨rfl, rfl, rfl, rfl, rfl⟩, [], rfl, by simp⟩

instance : IsTrans (World ρ) (OutFrame o) where
  trans a b c one two := by
    obtain ⟨new, logged, serve⟩ := one.calls
    obtain ⟨newer, loggedAfter, serveAfter⟩ := two.calls
    refine ⟨two.adev.trans one.adev, two.ins.trans one.ins,
      fun p other => (two.others p other).trans (one.others p other),
      two.outOpen.trans one.outOpen, two.inOpen.trans one.inOpen, two.opened.trans one.opened,
      ⟨two.kept.pcm.trans one.kept.pcm, two.kept.pcmConfig.trans one.kept.pcmConfig,
        two.kept.standby.trans one.kept.standby, two.kept.written.trans one.kept.written,
        two.kept.bufferFrames.trans one.kept.bufferFrames⟩,
      newer ++ new, by rw [loggedAfter, logged, List.append_assoc], ?_⟩
    intro call member
    rcases List.mem_append.mp member with late | early
    · exact one.kept.pcm ▸ serveAfter call late
    · exact serve call early

/-- A change of the stream that keeps what converting and throttling keep. -/
theorem outFrame_modifyOut (change : StreamOut ρ → StreamOut ρ) (w : World ρ)
    (kept : (w.outs o).Kept (change (w.outs o))) : Leads (OutFrame o) (modifyOut o change) w := by
  -- The world is changed in the one place of the stream, and no call is made.
  refine ⟨rfl, rfl, fun p other => ?_, rfl, rfl, rfl, ?_, [], rfl, by simp⟩
  · simp [other]
  · simpa using kept

/-- A call of the kernel with the stream's own handle. -/
theorem outFrame_record (call : Call) (w : World ρ) (serves : call.Serves (w.outs o).pcm) :
    Leads (OutFrame o) (record call) w :=
  ⟨rfl, rfl, fun _ _ => rfl, rfl, rfl, rfl, ⟨rfl, rfl, rfl, rfl, rfl⟩,
    [call], rfl, by simpa using serves⟩

/-- Reading the stream is a step of its playback path. -/
theorem outFrame_getOut (w : World ρ) : Leads (OutFrame o) (getOut o) w := Std.Refl.refl w

/-- Throttling asks the kernel and sleeps. -/
theorem outFrame_throttle (htimestamp : Nat → Option Nat) (fuel : Nat) :
    ∀ round kernelFrames total (w : World ρ),
      Leads (OutFrame o) (throttle o htimestamp fuel round kernelFrames total) w := by
  -- The induction is on the rounds left.
  induction fuel with
  | zero => exact fun _ _ _ _ => .pure _
  | succ fuel ih =>
    intro round kernelFrames total w
    refine .bind (outFrame_getOut w) ?_
    refine .bind (outFrame_record _ _ rfl) ?_
    split
    · exact .pure _
    · refine .bind (outFrame_record _ _ rfl) ?_
      refine .ite (fun _ => ?_) fun _ => .pure _
      refine .ite (fun _ => .pure _) fun _ => ?_
      refine .bind (outFrame_record _ _ trivial) ?_
      exact .ite (fun _ => ih _ _ _ _) fun _ => .pure _

/-- Converting runs the stream's own resampler. -/
theorem outFrame_convert (R : ResamplerLib ρ) (buffer : Samples) (inFrames : Nat) (w : World ρ) :
    Leads (OutFrame o) (convert R o buffer inFrames) w := by
  -- Only a stream with a resampler is changed.
  refine .bind (outFrame_getOut w) ?_
  refine .ite (fun _ => ?_) fun _ => .pure _
  split
  · exact .bind (outFrame_modifyOut _ _ ⟨rfl, rfl, rfl, rfl, rfl⟩) (.pure _)
  · exact .bind (outFrame_record _ _ trivial) (.pure _)

/-- Thresholds and the buffer type are all that adapting to another buffer size touches. -/
theorem StreamOut.kept_adaptBuffer (out : StreamOut ρ) (bufferType : OutBufferType) :
    out.Kept (out.adaptBuffer bufferType) := by
  unfold StreamOut.adaptBuffer
  split <;> exact ⟨rfl, rfl, rfl, rfl, rfl⟩

/-- A step of the write threshold keeps the rest of the stream. -/
theorem StreamOut.kept_moveThreshold (out : StreamOut ρ) (kernelFrames : Int) :
    out.Kept (out.moveThreshold kernelFrames) := by
  -- The threshold goes up, or down, or is left alone.
  unfold StreamOut.moveThreshold
  dsimp only
  split_ifs <;> exact ⟨rfl, rfl, rfl, rfl, rfl⟩

/-- Everything before `pcm_write` works on the stream itself through its own handle. -/
theorem outFrame_prepareWrite (R : ResamplerLib ρ) (buffer : Samples) (bytes : Nat)
    (env : OutWriteEnv) (bufferType : OutBufferType) (scoOn : Bool) (w : World ρ) :
    Leads (OutFrame o) (prepareWrite R o buffer bytes env bufferType scoOn) w := by
  -- The three parts come one after the other.
  refine .bind (.when fun _ => outFrame_modifyOut _ _ (StreamOut.kept_adaptBuffer _ _)) ?_
  refine .bind (outFrame_convert R buffer _ _) ?_
  refine .bind ?_ (.pure _)
  refine .when fun _ => ?_
  refine .bind (outFrame_throttle _ _ _ _ _ _) ?_
  exact outFrame_modifyOut _ _ (StreamOut.kept_moveThreshold _ _)

end Playback

end Grouper.Audio
