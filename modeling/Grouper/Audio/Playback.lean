import Grouper.Audio.Capture

/-! The playback path: `out_write`, its throttling by the kernel fill, and the stream position. -/

namespace Grouper.Audio

open Prog (acquire release when)

variable {ρ : Type}

/-- The value an arithmetic result has as a 32-bit `int`. -/
def int32 (value : Int) : Int := value.bmod (2 ^ 32)

/-- What the calls made by one `out_write` come to. -/
structure OutWriteEnv where
  start : StartEnv
  /-- What the uninitialised local `kernel_frames` happens to contain. -/
  kernelFrames : Int
  /-- The available frames each `pcm_get_htimestamp` reports, or its failure. -/
  pcmGetHtimestamp : Nat → Option Nat
  pcmWrite : Int
  /-- How often the throttling loop is followed before it is cut short. -/
  fuel : Nat

/-- The start of `out_write`, under the device mutex: a stream in standby is started. -/
def startOutIfStandby (R : ResamplerLib ρ) (o : Nat) (env : StartEnv) : Hal ρ Int := do
  let out ← getOut o
  if out.standby then
    let ret ← startOutputStream R o env
    when (ret = 0) do modifyOut o fun out => { out with standby := false }
    return ret
  else
    return 0

/-- A change of the buffer type moves the write threshold. -/
def StreamOut.adaptBuffer (out : StreamOut ρ) (bufferType : OutBufferType) : StreamOut ρ :=
  if bufferType ≠ out.bufferType then
    let periodCount := if bufferType = .long then outLongPeriodCount else outShortPeriodCount
    let threshold : Int := int32 (out.config.periodSize * periodCount : Nat)
    { out with
      writeThreshold := threshold
      -- The current threshold is reset when the stream comes out of standby.
      curWriteThreshold := if out.bufferType = .unknown then threshold else out.curWriteThreshold
      bufferType := bufferType }
  else out

/-- The time it takes the kernel to play what it holds above the threshold. -/
def sleepTimeUs (kernelFrames threshold : Int) (rate : Nat) : Int :=
  int32 ((int32 (kernelFrames - threshold) * 1000000).tdiv rate)

/--
The loop that keeps at most the current threshold of frames in the kernel.

The result is what `kernel_frames` contains when the loop is left, or cut short by its fuel.
-/
def throttle (o : Nat) (htimestamp : Nat → Option Nat) :
    (fuel round : Nat) → (kernelFrames totalSleepTimeUs : Int) → Hal ρ Int
  | 0, _, kernelFrames, _ => return kernelFrames
  | fuel + 1, round, kernelFrames, total => do
    let out ← getOut o
    record (.pcmGetHtimestamp out.pcm)
    -- Without a time stamp the fill is unknown, and the loop is left.
    match htimestamp round with
    | none => return kernelFrames
    | some avail => do
      record (.pcmGetBufferSize out.pcm)
      let kernelFrames := int32 ((out.pcm.map Pcm.bufferSize).getD 0 - avail)
      if kernelFrames > out.curWriteThreshold then
        let sleep := sleepTimeUs kernelFrames out.curWriteThreshold out.config.rate
        -- A short sleep is not worth it.
        if sleep < minWriteSleepUs then
          return kernelFrames
        else
          let total := int32 (total + sleep)
          -- The last sleep is cut so that the sum comes to the maximum.
          let sleep := if total > maxWriteSleepUs then int32 (maxWriteSleepUs - (total - sleep))
            else sleep
          record (.usleep sleep)
          if total ≤ maxWriteSleepUs then
            throttle o htimestamp fuel (round + 1) kernelFrames total
          else
            return kernelFrames
      else
        return kernelFrames

/-- The current threshold moves towards the target, or follows a kernel buffer that ran low. -/
def StreamOut.moveThreshold (out : StreamOut ρ) (kernelFrames : Int) : StreamOut ρ :=
  let periodSize := out.config.periodSize
  let step : Int := periodSize / 4
  if out.curWriteThreshold > out.writeThreshold then
    -- It moves by a quarter of a period, and not beyond the target.
    let lowered := int32 (out.curWriteThreshold - step)
    { out with
      curWriteThreshold := if lowered < out.writeThreshold then out.writeThreshold else lowered }
  else if out.curWriteThreshold < out.writeThreshold then
    let raised := int32 (out.curWriteThreshold + step)
    { out with
      curWriteThreshold := if raised > out.writeThreshold then out.writeThreshold else raised }
  else if kernelFrames < out.writeThreshold ∧
      int32 (out.writeThreshold - kernelFrames) >
        int32 (periodSize * outShortPeriodCount : Nat) then
    -- The division is one of unsigned sizes.
    let periods := (kernelFrames % 2 ^ 32).toNat / periodSize + 1
    { out with curWriteThreshold := int32 (int32 (periods * periodSize : Nat) + step) }
  else out

/-- What `out_write` hands to `pcm_write`: the samples, and how many frames of them. -/
structure OutFrames where
  data : Samples
  frames : Nat
  frameSize : Nat

/--
Channel reduction and resampling, as far as the PCM's configuration asks for them.

Only the mono SCO PCM has another rate than the stream, so the resampler sees one channel.
-/
def convert (R : ResamplerLib ρ) (o : Nat) (buffer : Samples) (inFrames : Nat) :
    Hal ρ OutFrames := do
  let out ← getOut o
  let mono := 2 > out.config.channels
  let data := if mono then discardRight inFrames buffer else buffer
  let frameSize := if mono then outFrameSize / 2 else outFrameSize
  if outGetSampleRate ≠ out.config.rate then
    match out.resampler, out.buffer with
    | some state, some memory => do
      let (state, _, output) :=
        R.resampleFromInput state ((List.range inFrames).map data) out.bufferFrames
      let converted := storeAt memory 0 output
      modifyOut o fun out => { out with resampler := some state, buffer := some converted }
      return ⟨converted, output.length, frameSize⟩
    -- The resampler or its buffer was not created, and is used all the same.
    | _, _ => do
      record .nullDereference
      return ⟨data, 0, frameSize⟩
  else
    return ⟨data, inFrames, frameSize⟩

/-- The error back-off of `out_write`, in 32-bit arithmetic. -/
def outWriteBackOff (bytes : Nat) : Int :=
  ((bytes * 1000000 % 2 ^ 32 / outFrameSize / outGetSampleRate : Nat) : Int)

/-- The end of `out_write`: a failed write sleeps as long as its frames would have lasted. -/
def outWriteExit (o bytes : Nat) (ret : Int) : Hal ρ Int := do
  release (.out o)
  when (ret ≠ 0) do record (.usleep (outWriteBackOff bytes))
  return bytes

/-- What comes before `pcm_write` on a running stream, and how much of it depends on the route. -/
def prepareWrite (R : ResamplerLib ρ) (o : Nat) (buffer : Samples) (bytes : Nat)
    (env : OutWriteEnv) (bufferType : OutBufferType) (scoOn : Bool) : Hal ρ OutFrames := do
  -- The SCO PCM has one buffer size, and is not throttled either.
  when (scoOn = false) do modifyOut o fun out => out.adaptBuffer bufferType
  let frames ← convert R o buffer (bytes / outFrameSize)
  when (scoOn = false) do
    let kernelFrames ← throttle o env.pcmGetHtimestamp env.fuel 0 env.kernelFrames 0
    modifyOut o fun out => out.moveThreshold kernelFrames
  return frames

/-- `pcm_write`, and what its result means for the stream and for the caller. -/
def finishWrite (o bytes : Nat) (frames : OutFrames) (result : Int) : Hal ρ Int := do
  -- The frames as samples of two bytes.
  let count := frames.frames * frames.frameSize / 2
  let out ← getOut o
  record (.pcmWrite out.pcm ((List.range count).map frames.data) result)
  if result = -epipe then
    -- After an underrun there is no sleep, to catch up as soon as possible.
    release (.out o)
    return result
  else
    when (result = 0) do
      modifyOut o fun out => { out with written := (out.written + frames.frames) % 2 ^ 64 }
    outWriteExit o bytes result

/-- The part of `out_write` that holds only the stream mutex, on a running stream. -/
def outWriteRunning (R : ResamplerLib ρ) (o : Nat) (buffer : Samples) (bytes : Nat)
    (env : OutWriteEnv) (bufferType : OutBufferType) (scoOn : Bool) : Hal ρ Int := do
  let frames ← prepareWrite R o buffer bytes env bufferType scoOn
  finishWrite o bytes frames env.pcmWrite

def outWrite (R : ResamplerLib ρ) (o : Nat) (buffer : Samples) (bytes : Nat)
    (env : OutWriteEnv) : Hal ρ Int := do
  acquire .adev
  acquire (.out o)
  let ret ← startOutIfStandby R o env.start
  if ret ≠ 0 then
    release .adev
    outWriteExit o bytes ret
  else
    let adev ← getAdev
    let bufferType :=
      -- Long buffers are for a screen that is off, while nothing is captured.
      if adev.screenOff ∧ adev.activeIn.isNone then OutBufferType.long else OutBufferType.short
    let scoOn := outScoOn adev
    release .adev
    outWriteRunning R o buffer bytes env bufferType scoOn

/-- `out_get_presentation_position`: the frames that have left the kernel's buffer, if known. -/
def outGetPresentationPosition (o : Nat) (htimestamp : Option Nat) : Hal ρ (Option Nat) := do
  acquire (.out o)
  let out ← getOut o
  record (.pcmGetHtimestamp out.pcm)
  let position := htimestamp.bind fun avail =>
    let kernelBufferSize := out.config.periodSize * out.config.periodCount
    -- A negative position means that nothing has left the buffer yet.
    let signedFrames := ((out.written : Int) - kernelBufferSize + avail).bmod (2 ^ 64)
    if signedFrames ≥ 0 then some signedFrames.toNat else none
  release (.out o)
  return position

/-- `out_get_latency`, in milliseconds. -/
def outGetLatency : Hal ρ Nat := do
  acquire .adev
  let adev ← getAdev
  let periodCount := if adev.screenOff ∧ adev.activeIn.isNone ∧ outScoOn adev = false then
      outLongPeriodCount
    else outShortPeriodCount
  release .adev
  return pcmConfigOut.periodSize * periodCount * 1000 / pcmConfigOut.rate

end Grouper.Audio
