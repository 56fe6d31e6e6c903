import Grouper.Audio.Device
import Grouper.Lib.Ghost

/-! The memory `in_read` touches, noted beside what it does. -/

namespace Grouper.Audio

open Prog (Erases note acquire release when)

variable {ρ : Type}

/-- The memory that capturing works on: the buffer of the stream, and that of the caller. -/
inductive Region where
  | capture
  | caller
  deriving DecidableEq, Repr

/-- A stretch of memory that is read or written, in bytes, and how much there is of the region. -/
structure Access where
  region : Region
  allocated : Nat
  offset : Nat
  length : Nat
  deriving DecidableEq, Repr

def Access.InBounds (access : Access) : Prop := access.offset + access.length ≤ access.allocated

instance (access : Access) : Decidable access.InBounds := inferInstanceAs (Decidable (_ ≤ _))

/-- An access to the capture buffer of a stream. Without a buffer nothing is allocated. -/
def StreamIn.touches (in_ : StreamIn ρ) (offset length : Nat) : Access where
  region := .capture
  allocated := if in_.buffer.isSome then in_.bufferSize else 0
  offset := offset
  length := length

/-- An access to the bytes the caller of `in_read` handed over. -/
def callerTouches (bytes offset length : Nat) : Access := ⟨.caller, bytes, offset, length⟩

/-- Each sample that dropping the right channel in place reads, and each that it writes. -/
def StreamIn.discardTouches (in_ : StreamIn ρ) (frames : Nat) : List Access :=
  -- The first sample is in its place already.
  (List.range (frames - 1)).flatMap fun n =>
    [in_.touches (4 * (n + 1)) 2, in_.touches (2 * (n + 1)) 2]

/-- What `get_next_buffer` touches: the period it reads, and the channel it drops. -/
def StreamIn.nextBufferTouches (in_ : StreamIn ρ) (outcome : PcmRead) : List Access :=
  -- Nothing is read while frames of the last period are left.
  if in_.pcm = none ∨ in_.framesIn ≠ 0 then []
  else in_.touches 0 in_.bufferSize ::
    (if outcome.ret = 0 ∧ in_.pcmConfig.channels = 2
      then in_.discardTouches in_.pcmConfig.periodSize else [])

/-- What reading a grant touches. -/
def StreamIn.grantTouches (in_ : StreamIn ρ) (grant : Grant) : Access :=
  in_.touches (2 * grant.offset) (2 * grant.frameCount)

/-- What capturing twice as many stereo frames and copying out the left channel touches. -/
def StreamIn.stereoTouches (in_ : StreamIn ρ) (bytes : Nat) : List Access :=
  in_.touches 0 (bytes * 2) :: (List.range (bytes / inFrameSize)).map fun n => in_.touches (4 * n) 2

/-- A program of the HAL beside the accesses it has made so far. -/
abbrev Traced (ρ : Type) := Prog (World ρ × List Access) Mutex

/-- Note accesses to the capture buffer of a stream. -/
def touch (i : Nat) (accesses : StreamIn ρ → List Access) : Traced ρ Unit :=
  note fun w log => accesses (w.ins i) ++ log

/-- Note an access to the memory of the caller. -/
def touchCaller (bytes offset length : Nat) : Traced ρ Unit :=
  note fun _ log => callerTouches bytes offset length :: log

section Programs

variable (R : ResamplerLib ρ) (i bytes : Nat) (outcomes : Nat → PcmRead)

def getNextBufferTraced (reads frameCount : Nat) : Traced ρ (Option Grant × Nat) := do
  touch i fun in_ => in_.nextBufferTouches (outcomes reads)
  (getNextBuffer i outcomes reads frameCount).beside

def readGrantTraced (grant : Grant) : Traced ρ (List Sample) := do
  touch i fun in_ => [in_.grantTouches grant]
  (readGrant i grant).beside

def runProviderTraced : Provider ρ → (reads : Nat) → Traced ρ (List Sample × Nat)
  | .finish state output, reads => do
    (modifyIn i fun in_ => { in_ with resampler := some state }).beside
    return (output, reads)
  | .getNextBuffer frameCount next, reads => do
    match ← getNextBufferTraced i outcomes reads frameCount with
    | (none, reads) => runProviderTraced (next none) reads
    | (some grant, reads) => do
      let data ← readGrantTraced i grant
      runProviderTraced (next (some data)) reads
  | .releaseBuffer frameCount next, reads => do
    (releaseBuffer i frameCount).beside
    runProviderTraced next reads

def readFramesRoundTraced (buffer : Samples) (framesWr framesRd reads : Nat) :
    Traced ρ (Samples × Nat × Nat) := do
  let in_ ← (getIn i).beside
  match in_.resampler with
  | some state => do
    let (output, reads) ←
      runProviderTraced i outcomes (R.resampleFromProvider state framesRd) reads
    touchCaller bytes (2 * framesWr) (2 * output.length)
    return (storeAt buffer framesWr output, output.length, reads)
  | none => do
    -- Without a resampler the frames are copied as they come.
    match ← getNextBufferTraced i outcomes reads framesRd with
    | (none, reads) => do
      (releaseBuffer i 0).beside
      return (buffer, framesRd, reads)
    | (some grant, reads) => do
      let data ← readGrantTraced i grant
      touchCaller bytes (2 * framesWr) (2 * grant.frameCount)
      (releaseBuffer i grant.frameCount).beside
      return (storeAt buffer framesWr data, grant.frameCount, reads)

def readFramesTraced (frames : Nat) :
    (fuel framesWr reads : Nat) → Samples → Traced ρ (Samples × Option Int)
  | 0, _, _, buffer => return (buffer, none)
  | fuel + 1, framesWr, reads, buffer => do
    if framesWr < frames then
      let (buffer, framesRd, reads) ←
        readFramesRoundTraced R i bytes outcomes buffer framesWr (frames - framesWr) reads
      let in_ ← (getIn i).beside
      if in_.readStatus ≠ 0 then
        return (buffer, some in_.readStatus)
      else
        readFramesTraced frames fuel (framesWr + framesRd) reads buffer
    else
      return (buffer, some framesWr)

def captureTraced (env : InReadEnv) (buffer : Samples) : Traced ρ (Samples × Option Int) := do
  let in_ ← (getIn i).beside
  let framesRq := bytes / inFrameSize
  if in_.resampler.isSome then
    readFramesTraced R i bytes env.pcmRead framesRq env.fuel 0 0 buffer
  else if in_.pcmConfig.channels = 2 then
    -- Twice as many bytes are read into the capture buffer, whatever its size.
    let outcome := env.pcmRead 0
    touch i fun in_ => in_.stereoTouches bytes
    (record (.pcmRead in_.pcm (bytes * 2))).beside
    (modifyIn i fun in_ => { in_ with buffer := in_.buffer.map (outcome.store (bytes * 2)) }).beside
    let in_ ← (getIn i).beside
    touchCaller bytes 0 (2 * framesRq)
    match in_.buffer with
    | none => do
      when (framesRq ≠ 0) do (record .nullDereference).beside
      return (buffer, some outcome.ret)
    | some captured =>
      return (fun n => if n < framesRq then captured (n * 2) else buffer n, some outcome.ret)
  else
    let outcome := env.pcmRead 0
    (record (.pcmRead in_.pcm bytes)).beside
    touchCaller bytes 0 bytes
    return (outcome.store bytes buffer, some outcome.ret)

def inReadRunningTraced (buffer : CallerBuffer) (env : InReadEnv) :
    Traced ρ (CallerBuffer × Option Int) := do
  let (samples, ret) ← captureTraced R i bytes env buffer.samples
  let buffer := { buffer with samples := samples }
  let ret := ret.map fun ret => if ret > 0 then 0 else ret
  let adev ← getAdev.beside
  when (ret = some 0 ∧ adev.micMute) do touchCaller bytes 0 bytes
  return (if ret = some 0 ∧ adev.micMute then buffer.zero bytes else buffer, ret)

/-- `in_read` beside the accesses it makes. -/
def inReadTraced (buffer : CallerBuffer) (env : InReadEnv) : Traced ρ InReadResult := do
  -- Starting the stream and the locks touch none of the memory in question.
  (acquire .adev).beside
  (acquire (.in_ i)).beside
  let ret ← (startInIfStandby R i env.start).beside
  (release .adev).beside
  let (buffer, ret) ← (if ret < 0 then pure (buffer, some ret)
    else inReadRunningTraced R i bytes buffer env)
  let in_ ← (getIn i).beside
  when (ret.any (· < 0)) do (record (.usleep (inReadBackOff in_ bytes))).beside
  (release (.in_ i)).beside
  return { bytes := bytes, buffer := buffer, returned := ret.isSome }

/-- Without its notes serving a buffer is what the source does. -/
theorem erases_getNextBufferTraced (reads frameCount : Nat) :
    Erases (getNextBufferTraced (ρ := ρ) i outcomes reads frameCount)
      (getNextBuffer i outcomes reads frameCount) := .note _ (Prog.erases_beside _)

/-- So is reading what was served. -/
theorem erases_readGrantTraced (grant : Grant) :
    Erases (readGrantTraced (ρ := ρ) i grant) (readGrant i grant) :=
  .note _ (Prog.erases_beside _)

/-- So is what the resampler does with its provider. -/
theorem erases_runProviderTraced (provider : Provider ρ) :
    ∀ reads, Erases (runProviderTraced i outcomes provider reads)
      (runProvider i outcomes provider reads) := by
  -- The induction follows the resampler's requests to its provider.
  induction provider with
  | finish state output =>
    intro reads
    unfold runProviderTraced runProvider
    exact .bind (Prog.erases_beside _) fun _ => Prog.erases_pure _
  | getNextBuffer frameCount next ih =>
    intro reads
    unfold runProviderTraced runProvider
    refine .bind (erases_getNextBufferTraced i outcomes reads frameCount) ?_
    rintro ⟨_ | grant, reads⟩
    · exact ih none _
    · exact .bind (erases_readGrantTraced i grant) fun _ => ih (some _) _
  | releaseBuffer frameCount next ih =>
    intro reads
    unfold runProviderTraced runProvider
    exact .bind (Prog.erases_beside _) fun _ => ih _

/-- So is one round of a read. -/
theorem erases_readFramesRoundTraced (buffer : Samples) (framesWr framesRd reads : Nat) :
    Erases (readFramesRoundTraced R i bytes outcomes buffer framesWr framesRd reads)
      (readFramesRound R i outcomes buffer framesWr framesRd reads) := by
  -- Both look at the resampler once, and then take the same way.
  refine .bind (Prog.erases_beside _) fun in_ => ?_
  cases in_.resampler with
  | some state =>
    refine .bind (erases_runProviderTraced i outcomes _ reads) ?_
    rintro ⟨output, reads⟩
    exact .note _ (Prog.erases_pure _)
  | none =>
    refine .bind (erases_getNextBufferTraced i outcomes reads framesRd) ?_
    rintro ⟨_ | grant, reads⟩
    · exact .bind (Prog.erases_beside _) fun _ => Prog.erases_pure _
    · refine .bind (erases_readGrantTraced i grant) fun _ => .note _ ?_
      exact .bind (Prog.erases_beside _) fun _ => Prog.erases_pure _

/-- So are all the rounds. -/
theorem erases_readFramesTraced (frames fuel : Nat) :
    ∀ framesWr reads buffer,
      Erases (readFramesTraced R i bytes outcomes frames fuel framesWr reads buffer)
        (readFrames R i outcomes frames fuel framesWr reads buffer) := by
  -- The induction follows the rounds of the loop, which end for the same reasons in both.
  induction fuel with
  | zero => exact fun _ _ _ => Prog.erases_pure _
  | succ fuel ih =>
    intro framesWr reads buffer
    refine .ite ?_ (Prog.erases_pure _)
    refine .bind (erases_readFramesRoundTraced R i bytes outcomes _ _ _ _) fun _ => ?_
    refine .bind (Prog.erases_beside _) fun _ => ?_
    exact .ite (Prog.erases_pure _) (ih _ _ _)

/-- So is a capture with its three ways. -/
theorem erases_captureTraced (env : InReadEnv) (buffer : Samples) :
    Erases (captureTraced R i bytes env buffer) (capture R i env bytes buffer) := by
  refine .bind (Prog.erases_beside _) fun in_ => ?_
  refine .ite (erases_readFramesTraced R i bytes _ _ _ _ _ _) ?_
  refine .ite (.note _ ?_) ?_
  · -- Both copy the left channel out, and dereference a missing buffer in the same case.
    refine .bind (Prog.erases_beside _) fun _ => ?_
    refine .bind (Prog.erases_beside _) fun _ => ?_
    refine .bind (Prog.erases_beside _) fun in_ => .note _ ?_
    cases in_.buffer with
    | none => exact .bind (.when (Prog.erases_beside _)) fun _ => Prog.erases_pure _
    | some captured => exact Prog.erases_pure _
  · exact .bind (Prog.erases_beside _) fun _ => .note _ (Prog.erases_pure _)

/-- Noting the accesses changes nothing about `in_read`. -/
theorem erases_inReadTraced (buffer : CallerBuffer) (env : InReadEnv) :
    Erases (inReadTraced R i bytes buffer env) (inRead R i buffer bytes env) := by
  -- Step by step, the traced read is the read beside its notes.
  refine .bind (Prog.erases_beside _) fun _ => ?_
  refine .bind (Prog.erases_beside _) fun _ => ?_
  refine .bind (Prog.erases_beside _) fun ret => ?_
  refine .bind (Prog.erases_beside _) fun _ => ?_
  refine .bind ?_ ?_
  · refine .ite (Prog.erases_pure _) ?_
    refine .bind (erases_captureTraced R i bytes env _) ?_
    exact fun _ => .bind (Prog.erases_beside _) fun _ => .noteWhen _ (Prog.erases_pure _)
  · intro _
    refine .bind (Prog.erases_beside _) fun _ => ?_
    refine .bind (.when (Prog.erases_beside _)) fun _ => ?_
    exact .bind (Prog.erases_beside _) fun _ => Prog.erases_pure _

end Programs

end Grouper.Audio
