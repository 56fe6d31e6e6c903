import Grouper.Audio.Streams

/-! The capture path: periods from the PCM, the provider of the resampler, and `in_read`. -/

namespace Grouper.Audio

open Prog (acquire release when)

variable {ρ : Type}

/-- What one `pcm_read` comes to: its result, and the samples it delivers. -/
structure PcmRead where
  ret : Int
  /-- How many samples a failing read stored before it failed. -/
  delivered : Nat
  data : Samples

/-- The buffer after a read of some bytes: full on success, and perhaps partly filled on failure. -/
def PcmRead.store (outcome : PcmRead) (bytes : Nat) (buffer : Samples) : Samples := fun i =>
  -- A read that fails may have stored some samples before it did.
  let count := if 0 ≤ outcome.ret then bytes / 2 else min outcome.delivered (bytes / 2)
  if i < count then outcome.data i else buffer i

/-- What the calls made by one `in_read` come to. -/
structure InReadEnv where
  start : StartEnv
  pcmRead : Nat → PcmRead
  /-- How often the loop over periods is followed before the call counts as still running. -/
  fuel : Nat

/-- The buffer of a caller of `in_read`: whole samples, and the last byte of an odd length. -/
structure CallerBuffer where
  samples : Samples
  odd : UInt8

/-- What the caller can read back: the samples and the odd byte within its length. -/
def CallerBuffer.contents (buffer : CallerBuffer) (bytes : Nat) : List Sample × Option UInt8 :=
  ((List.range (bytes / 2)).map buffer.samples, if bytes % 2 = 1 then some buffer.odd else none)

/-- `memset` to zero over the length of the buffer. -/
def CallerBuffer.zero (buffer : CallerBuffer) (bytes : Nat) : CallerBuffer where
  samples i := if i < bytes / 2 then 0 else buffer.samples i
  odd := if bytes % 2 = 1 then 0 else buffer.odd

/-- The loop that drops the right channel in place, from one index on. -/
def discardRightFrom : (remaining index : Nat) → Samples → Samples
  | 0, _, buffer => buffer
  | remaining + 1, index, buffer =>
    discardRightFrom remaining (index + 1) (Function.update buffer index (buffer (index * 2)))

/-- Frames of two channels become frames of the left one, in place. -/
def discardRight (frames : Nat) (buffer : Samples) : Samples :=
  discardRightFrom (frames - 1) 1 buffer

/-- Subtraction of 32-bit sizes, which wraps around below zero. -/
def sizeSub (left right : Nat) : Nat := (left + (2 ^ 32 - right % 2 ^ 32)) % 2 ^ 32

/-- Frames handed to a consumer: where they start in the capture buffer, and how many there are. -/
structure Grant where
  offset : Nat
  frameCount : Nat
  deriving DecidableEq, Repr

/-- The frames left of the current period, at most as many as asked for. -/
def StreamIn.grant (in_ : StreamIn ρ) (frameCount : Nat) : Grant where
  offset := sizeSub in_.pcmConfig.periodSize in_.framesIn
  frameCount := min frameCount in_.framesIn

/--
`get_next_buffer`, after `reads` earlier reads of the same call.

The grant is absent where the source stores a null pointer. The result also counts the reads made.
-/
def getNextBuffer (i : Nat) (outcomes : Nat → PcmRead) (reads frameCount : Nat) :
    Hal ρ (Option Grant × Nat) := do
  let in_ ← getIn i
  if in_.pcm = none then
    -- Without a PCM the provider is given no buffer, and the status says why.
    modifyIn i fun in_ => { in_ with readStatus := -enodev }
    return (none, reads)
  else if in_.framesIn = 0 then
    -- The period was consumed as a whole, so the next one is read.
    let outcome := outcomes reads
    record (.pcmRead in_.pcm in_.bufferSize)
    modifyIn i fun in_ => { in_ with
      readStatus := outcome.ret
      buffer := in_.buffer.map (outcome.store in_.bufferSize) }
    if outcome.ret ≠ 0 then
      return (none, reads + 1)
    else
      modifyIn i fun in_ => { in_ with framesIn := in_.pcmConfig.periodSize }
      -- A stereo PCM is turned into mono where it is.
      when (in_.pcmConfig.channels = 2) do
        when in_.buffer.isNone do record .nullDereference
        modifyIn i fun in_ => { in_ with buffer := in_.buffer.map (discardRight in_.framesIn) }
      let in_ ← getIn i
      return (some (in_.grant frameCount), reads + 1)
  else
    return (some (in_.grant frameCount), reads)

/-- `release_buffer`. -/
def releaseBuffer (i frameCount : Nat) : Hal ρ Unit :=
  modifyIn i fun in_ => { in_ with framesIn := sizeSub in_.framesIn frameCount }

/-- The samples of a grant, as its consumer reads them. -/
def readGrant (i : Nat) (grant : Grant) : Hal ρ (List Sample) := do
  let in_ ← getIn i
  match in_.buffer with
  | none => do
    record .nullDereference
    return []
  | some buffer => return (List.range grant.frameCount).map fun n => buffer (grant.offset + n)

/-- The resampler runs against the provider, which serves it from the capture buffer. -/
def runProvider (i : Nat) (outcomes : Nat → PcmRead) :
    Provider ρ → (reads : Nat) → Hal ρ (List Sample × Nat)
  | .finish state output, reads => do
    -- The resampler keeps its state for the next call.
    modifyIn i fun in_ => { in_ with resampler := some state }
    return (output, reads)
  | .getNextBuffer frameCount next, reads => do
    match ← getNextBuffer i outcomes reads frameCount with
    -- The resampler is told that there are no frames.
    | (none, reads) => runProvider i outcomes (next none) reads
    | (some grant, reads) => do
      let data ← readGrant i grant
      runProvider i outcomes (next (some data)) reads
  | .releaseBuffer frameCount next, reads => do
    releaseBuffer i frameCount
    runProvider i outcomes next reads

/-- Consecutive samples stored from an offset on. -/
def storeAt (buffer : Samples) (offset : Nat) (data : List Sample) : Samples := fun n =>
  if offset ≤ n ∧ n < offset + data.length then data.getD (n - offset) 0 else buffer n

/-- One round of the loop in `read_frames`: the caller's samples, the frames read, and the reads. -/
def readFramesRound (R : ResamplerLib ρ) (i : Nat) (outcomes : Nat → PcmRead)
    (buffer : Samples) (framesWr framesRd reads : Nat) : Hal ρ (Samples × Nat × Nat) := do
  let in_ ← getIn i
  match in_.resampler with
  | some state => do
    let (output, reads) ← runProvider i outcomes (R.resampleFromProvider state framesRd) reads
    return (storeAt buffer framesWr output, output.length, reads)
  | none => do
    match ← getNextBuffer i outcomes reads framesRd with
    -- Nothing was granted, though the frames are counted as if they had been.
    | (none, reads) => do
      releaseBuffer i 0
      return (buffer, framesRd, reads)
    | (some grant, reads) => do
      let data ← readGrant i grant
      releaseBuffer i grant.frameCount
      return (storeAt buffer framesWr data, grant.frameCount, reads)

/--
`read_frames`: the caller's samples, and the frame count or the error to return.

Nothing is returned when the loop is still running after as many rounds as its fuel allows.
-/
def readFrames (R : ResamplerLib ρ) (i : Nat) (outcomes : Nat → PcmRead) (frames : Nat) :
    (fuel framesWr reads : Nat) → Samples → Hal ρ (Samples × Option Int)
  | 0, _, _, buffer => return (buffer, none)
  | fuel + 1, framesWr, reads, buffer => do
    if framesWr < frames then
      let (buffer, framesRd, reads) ←
        readFramesRound R i outcomes buffer framesWr (frames - framesWr) reads
      let in_ ← getIn i
      -- The first error ends the loop, whatever was read before.
      if in_.readStatus ≠ 0 then
        return (buffer, some in_.readStatus)
      else
        readFrames R i outcomes frames fuel (framesWr + framesRd) reads buffer
    else
      return (buffer, some framesWr)

/-- The three ways `in_read` fills the caller's samples from a running stream. -/
def capture (R : ResamplerLib ρ) (i : Nat) (env : InReadEnv) (bytes : Nat) (buffer : Samples) :
    Hal ρ (Samples × Option Int) := do
  let in_ ← getIn i
  let framesRq := bytes / inFrameSize
  -- A resampler reads periods into the buffer of the stream, as many as it needs.
  if in_.resampler.isSome then
    readFrames R i env.pcmRead framesRq env.fuel 0 0 buffer
  else if in_.pcmConfig.channels = 2 then
    -- The PCM is stereo, so twice as many frames are captured and the right channel is dropped.
    let outcome := env.pcmRead 0
    record (.pcmRead in_.pcm (bytes * 2))
    modifyIn i fun in_ => { in_ with buffer := in_.buffer.map (outcome.store (bytes * 2)) }
    let in_ ← getIn i
    match in_.buffer with
    | none => do
      when (framesRq ≠ 0) do record .nullDereference
      return (buffer, some outcome.ret)
    | some captured =>
      return (fun n => if n < framesRq then captured (n * 2) else buffer n, some outcome.ret)
  else
    -- The frames are those the caller asks for, and go to its buffer directly.
    let outcome := env.pcmRead 0
    record (.pcmRead in_.pcm bytes)
    return (outcome.store bytes buffer, some outcome.ret)

/-- What `in_read` leaves to its caller, and whether it has returned at all. -/
structure InReadResult where
  bytes : Nat
  buffer : CallerBuffer
  returned : Bool

/-- The start of `in_read`, under the device mutex: a stream in standby is started. -/
def startInIfStandby (R : ResamplerLib ρ) (i : Nat) (env : StartEnv) : Hal ρ Int := do
  let in_ ← getIn i
  if in_.standby then
    let ret ← startInputStream R i env
    when (ret = 0) do modifyIn i fun in_ => { in_ with standby := false }
    return ret
  else
    return 0

/-- The error back-off of `in_read`, in 32-bit arithmetic. -/
def inReadBackOff (in_ : StreamIn ρ) (bytes : Nat) : Int :=
  ((bytes * 1000000 % 2 ^ 32 / inFrameSize / inGetSampleRate in_ : Nat) : Int)

/-- The part of `in_read` that holds only the stream mutex, on a running stream. -/
def inReadRunning (R : ResamplerLib ρ) (i : Nat) (buffer : CallerBuffer) (bytes : Nat)
    (env : InReadEnv) : Hal ρ (CallerBuffer × Option Int) := do
  let (samples, ret) ← capture R i env bytes buffer.samples
  let buffer := { buffer with samples := samples }
  -- A count of frames is a success.
  let ret := ret.map fun ret => if ret > 0 then 0 else ret
  let adev ← getAdev
  return (if ret = some 0 ∧ adev.micMute then buffer.zero bytes else buffer, ret)

def inRead (R : ResamplerLib ρ) (i : Nat) (buffer : CallerBuffer) (bytes : Nat)
    (env : InReadEnv) : Hal ρ InReadResult := do
  acquire .adev
  acquire (.in_ i)
  let ret ← startInIfStandby R i env.start
  release .adev
  -- The device mutex is given back before anything is captured.
  let (buffer, ret) ← (if ret < 0 then pure (buffer, some ret)
    else inReadRunning R i buffer bytes env)
  let in_ ← getIn i
  when (ret.any (· < 0)) do record (.usleep (inReadBackOff in_ bytes))
  release (.in_ i)
  return { bytes := bytes, buffer := buffer, returned := ret.isSome }

end Grouper.Audio
