import Grouper.Audio.CaptureAccess
import Grouper.Audio.Upkeep

/-! Reads that keep to the capture buffer and to the memory of their caller. -/

namespace Grouper.Audio

open Function (update)
open Prog (Triple acquire release when)

variable {ρ : Type}

/-- `in_get_buffer_size`: one period at the rate of the stream, in multiples of 16 frames. -/
def inGetBufferSize (in_ : StreamIn ρ) : Nat :=
  -- The product is one of 32-bit numbers.
  let size := in_.pcmConfig.periodSize * inGetSampleRate in_ % 2 ^ 32 / in_.pcmConfig.rate
  (size + 15) / 16 * 16 * inFrameSize

/-- A resampler gives back at most what it was granted, and produces at most what was asked for. -/
def Provider.Sound (frames : Nat) : (held : Nat) → Provider ρ → Prop
  | _, .finish _ output => output.length ≤ frames
  | _, .getNextBuffer frameCount next => (next none).Sound frames 0 ∧
    ∀ data, data.length ≤ frameCount → (next (some data)).Sound frames data.length
  | held, .releaseBuffer frameCount next => frameCount ≤ held ∧
    next.Sound frames (held - frameCount)

/-- Every resampler of the library behaves so towards its provider. -/
def ResamplerLib.Sound (R : ResamplerLib ρ) : Prop :=
  ∀ state frames, (R.resampleFromProvider state frames).Sound frames 0

/-- A capture buffer for one period, of which no more is left than there was. -/
structure StreamIn.Armed (in_ : StreamIn ρ) : Prop where
  present : in_.buffer.isSome
  size : in_.bufferSize = in_.pcmConfig.periodSize * (in_.pcmConfig.channels * 2)
  channels : 0 < in_.pcmConfig.channels
  framesIn : in_.framesIn ≤ in_.pcmConfig.periodSize
  period : in_.pcmConfig.periodSize < 2 ^ 32

/-- Frames that are left of the period, and that lie within it. -/
def StreamIn.Grants (in_ : StreamIn ρ) (grant : Grant) : Prop :=
  grant.offset + grant.frameCount ≤ in_.pcmConfig.periodSize ∧ grant.frameCount ≤ in_.framesIn

section Streams

variable {in_ : StreamIn ρ}

/-- A subtraction of sizes is exact as long as it does not go below zero. -/
theorem sizeSub_of_le {left right : Nat} (below : right ≤ left) (word : left < 2 ^ 32) :
    sizeSub left right = left - right := by
  unfold sizeSub
  omega

/-- What lies within the size of the buffer is within bounds. -/
theorem StreamIn.Armed.touches (armed : in_.Armed) {offset length : Nat}
    (fits : offset + length ≤ in_.bufferSize) : (in_.touches offset length).InBounds := by
  -- The buffer is there, so its bound is its size.
  show offset + length ≤ if in_.buffer.isSome then in_.bufferSize else 0
  rw [if_pos armed.present]
  exact fits

/-- Half of the samples of a stereo period are moved, and none beyond it is read. -/
theorem StreamIn.Armed.discardTouches (armed : in_.Armed) (stereo : in_.pcmConfig.channels = 2) :
    ∀ a ∈ in_.discardTouches in_.pcmConfig.periodSize, a.InBounds := by
  -- The last sample read is the last left one of the period.
  intro a member
  have size := armed.size
  rw [stereo] at size
  obtain ⟨n, inRange, here⟩ := List.mem_flatMap.mp member
  have below : n < in_.pcmConfig.periodSize - 1 := List.mem_range.mp inRange
  rcases List.mem_pair.mp here with rfl | rfl
  · exact armed.touches (by omega)
  · exact armed.touches (by omega)

/-- Reading a period, and dropping its right channel, stays within the buffer. -/
theorem StreamIn.Armed.nextBufferTouches (armed : in_.Armed) (outcome : PcmRead) :
    ∀ a ∈ in_.nextBufferTouches outcome, a.InBounds := by
  -- The source reads a whole period, and drops a channel only of a stereo one.
  unfold StreamIn.nextBufferTouches
  split
  · exact List.forall_mem_nil _
  · refine List.forall_mem_cons.mpr ⟨armed.touches (by omega), ?_⟩
    split
    · rename_i both
      exact armed.discardTouches both.2
    · exact List.forall_mem_nil _

/-- A grant is read from within the buffer, whatever the number of channels. -/
theorem StreamIn.Armed.grantTouches (armed : in_.Armed) {grant : Grant}
    (grants : in_.Grants grant) : (in_.grantTouches grant).InBounds := by
  refine armed.touches ?_
  have inside := grants.1
  have channels := armed.channels
  have size := armed.size
  -- A period has at least one sample for each of its frames.
  have wide : in_.pcmConfig.periodSize * 2 ≤
      in_.pcmConfig.periodSize * (in_.pcmConfig.channels * 2) :=
    Nat.mul_le_mul_left _ (by omega)
  omega

/-- Taking the left channel out of what was read stays within the buffer. -/
theorem StreamIn.Armed.stereoTouches (armed : in_.Armed) (stereo : in_.pcmConfig.channels = 2)
    {bytes : Nat} (fits : bytes ≤ 2 * in_.pcmConfig.periodSize) :
    ∀ a ∈ in_.stereoTouches bytes, a.InBounds := by
  -- Twice the bytes asked for are read, and they are no more than the stereo period has.
  have size := armed.size
  rw [stereo] at size
  refine List.forall_mem_cons.mpr ⟨armed.touches (by omega), fun a member => ?_⟩
  obtain ⟨n, inRange, rfl⟩ := List.mem_map.mp member
  have below : n < bytes / 2 := List.mem_range.mp inRange
  exact armed.touches (by omega)

/-- What is granted is what is left, from where it starts. -/
theorem StreamIn.Armed.grant (armed : in_.Armed) (frameCount : Nat) :
    in_.Grants (in_.grant frameCount) ∧ (in_.grant frameCount).frameCount ≤ frameCount := by
  -- The offset is what the period has lost already, so that offset and frames fit into it.
  have left := armed.framesIn
  unfold StreamIn.Grants StreamIn.grant
  rw [sizeSub_of_le left armed.period]
  dsimp only
  omega

/-- Writing to the capture buffer leaves it there. -/
theorem StreamIn.Armed.present_map (armed : in_.Armed) (change : Samples → Samples) :
    (in_.buffer.map change).isSome := by
  rw [Option.isSome_map]
  exact armed.present

/-- What is kept of a stream keeps it armed. -/
theorem StreamIn.Armed.kept {after : StreamIn ρ} (armed : in_.Armed) (kept : in_.Kept after)
    (present : after.buffer.isSome) (framesIn : after.framesIn ≤ in_.pcmConfig.periodSize) :
    after.Armed := by
  -- All that the bounds are made of is kept, or given.
  obtain ⟨_, pcmConfig, _, _, _, bufferSize⟩ := kept
  refine ⟨present, ?_, ?_, ?_, ?_⟩
  · rw [bufferSize, pcmConfig]
    exact armed.size
  · rw [pcmConfig]
    exact armed.channels
  · rw [pcmConfig]
    exact framesIn
  · rw [pcmConfig]
    exact armed.period

end Streams

section Plain

variable (i : Nat) (outcomes : Nat → PcmRead)

/-- A stream is armed. -/
def ArmedAt (w : World ρ) : Prop := (w.ins i).Armed

/-- A call of the kernel leaves the buffer as it is. -/
theorem armed_record (call : Call) :
    Triple (ArmedAt (ρ := ρ) i) (record call) fun _ => ArmedAt i := fun _ armed => armed

/-- Reading the stream finds it armed. -/
theorem armed_getIn : Triple (ArmedAt (ρ := ρ) i) (getIn i) fun in_ w =>
    ArmedAt i w ∧ in_ = w.ins i := fun _ armed => ⟨armed, rfl⟩

/-- A change that keeps a stream armed. -/
theorem armed_modifyIn {change : StreamIn ρ → StreamIn ρ}
    (keeps : ∀ in_ : StreamIn ρ, in_.Armed → (change in_).Armed) :
    Triple (ArmedAt i) (modifyIn i change) fun _ => ArmedAt i := by
  -- The stream is the one that is changed.
  intro w armed
  unfold ArmedAt
  rw [ins_modifyIn]
  exact keeps _ armed

/-- `get_next_buffer` leaves the stream armed, and grants what is left of the period. -/
theorem armed_getNextBuffer (reads frameCount : Nat) :
    Triple (ArmedAt (ρ := ρ) i) (getNextBuffer i outcomes reads frameCount) fun result w =>
      ArmedAt i w ∧ ∀ grant, result.1 = some grant →
        (w.ins i).Grants grant ∧ grant.frameCount ≤ frameCount := by
  -- However it came to be, the stream it is computed from grants only what is left.
  have grants : ∀ (in_ : StreamIn ρ) (reads : Nat) (w : World ρ), ArmedAt i w ∧ in_ = w.ins i →
      ArmedAt i w ∧ ∀ grant, (some (in_.grant frameCount), reads).1 = some grant →
        (w.ins i).Grants grant ∧ grant.frameCount ≤ frameCount := by
    rintro _ _ w ⟨armed, rfl⟩
    refine ⟨armed, fun grant is => ?_⟩
    obtain rfl := Option.some.inj is
    exact armed.grant frameCount
  refine .bind (armed_getIn i) fun in_ => ?_
  refine .ite (fun _ => ?_) fun _ => ?_
  · -- No PCM is open: an error, and no frames.
    refine .mono ?_ (fun _ both => both.1) fun _ _ met => met
    refine .bind (armed_modifyIn i fun _ armed => ?_) fun _ => .pure fun _ armed => ?_
    · exact armed.kept ⟨rfl, rfl, rfl, rfl, rfl, rfl⟩ armed.present armed.framesIn
    · exact ⟨armed, nofun⟩
  · refine .ite (fun _ => ?_) fun _ => .pure (grants in_ reads)
    -- A period is read, and its right channel is dropped.
    refine .mono ?_ (fun _ both => both.1) fun _ _ met => met
    refine .bind (armed_record i _) fun _ => ?_
    refine .bind (armed_modifyIn i ?_) fun _ => ?_
    · exact fun in_ armed => armed.kept ⟨rfl, rfl, rfl, rfl, rfl, rfl⟩ (armed.present_map _)
        armed.framesIn
    · refine .ite (fun _ => .pure fun _ armed => ⟨armed, nofun⟩) fun _ => ?_
      refine .bind (armed_modifyIn i fun in_ armed => ?_) fun _ => ?_
      · -- A whole period is left once it was read.
        exact armed.kept ⟨rfl, rfl, rfl, rfl, rfl, rfl⟩ armed.present (Nat.le_refl _)
      · refine .bind (.when (fun _ => ?_) ?_) fun _ => .bind (armed_getIn i) fun in_ => ?_
        · refine .bind (.when (fun _ => armed_record i _) fun _ _ armed => armed) fun _ => ?_
          exact armed_modifyIn i fun in_ armed => armed.kept ⟨rfl, rfl, rfl, rfl, rfl, rfl⟩
            (armed.present_map _) armed.framesIn
        · exact fun _ _ armed => armed
        · exact .pure (grants in_ _)

/-- Releasing no more than is left leaves less, and nothing else changes. -/
theorem armed_releaseBuffer (frameCount left : Nat) (below : frameCount ≤ left) :
    Triple (fun w : World ρ => ArmedAt i w ∧ left ≤ (w.ins i).framesIn)
      (releaseBuffer i frameCount) fun _ w =>
        ArmedAt i w ∧ left - frameCount ≤ (w.ins i).framesIn := by
  rintro w ⟨armed, enough⟩
  -- No more is given back than is left, so the subtraction does not wrap around.
  have frames : sizeSub (w.ins i).framesIn frameCount = (w.ins i).framesIn - frameCount :=
    sizeSub_of_le (by omega) (Nat.lt_of_le_of_lt armed.framesIn armed.period)
  unfold ArmedAt releaseBuffer
  rw [ins_modifyIn, frames]
  refine ⟨armed.kept ⟨rfl, rfl, rfl, rfl, rfl, rfl⟩ armed.present ?_, ?_⟩
  · exact Nat.le_trans (Nat.sub_le _ _) armed.framesIn
  · show left - frameCount ≤ (w.ins i).framesIn - frameCount
    omega

/-- A consumer gets as many samples as it was granted, and nothing changes. -/
theorem exec_readGrant (w : World ρ) (grant : Grant) (armed : (w.ins i).Armed) :
    ((readGrant i grant).exec w).1.length = grant.frameCount ∧
      ((readGrant i grant).exec w).2 = w := by
  -- An armed stream has its buffer, so the copy is made.
  obtain ⟨samples, present⟩ := Option.isSome_iff_exists.mp armed.present
  unfold readGrant
  rw [exec_getIn_bind, present]
  exact ⟨by simp, rfl⟩

end Plain

/-- A property of the world, beside accesses that were all within bounds. -/
def Within (property : World ρ → Prop) (s : World ρ × List Access) : Prop :=
  property s.1 ∧ ∀ a ∈ s.2, a.InBounds

section Rules

variable {property : World ρ → Prop}

/-- Accesses that are in bounds are added to those that were. -/
theorem within_touch {i : Nat} {accesses : StreamIn ρ → List Access}
    (bounds : ∀ w, property w → ∀ a ∈ accesses (w.ins i), a.InBounds) :
    Triple (Within property) (touch i accesses) fun _ => Within property := by
  rintro ⟨w, log⟩ ⟨met, clean⟩
  exact ⟨met, List.forall_mem_append.mpr ⟨bounds w met, clean⟩⟩

/-- So is one of the client's memory. -/
theorem within_touchCaller {bytes offset length : Nat} (fits : offset + length ≤ bytes) :
    Triple (Within property) (touchCaller (ρ := ρ) bytes offset length)
      fun _ => Within property := by
  rintro ⟨w, log⟩ ⟨met, clean⟩
  exact ⟨met, List.forall_mem_cons.mpr ⟨fits, clean⟩⟩

/-- What accesses nothing keeps the accesses in bounds. -/
theorem within_beside {α : Type} {p : Hal ρ α} {post : α → World ρ → Prop}
    (triple : Triple property p post) :
    Triple (Within property) p.beside fun value => Within (post value) :=
  triple.beside fun log : List Access => ∀ a ∈ log, a.InBounds

end Rules

section Traced

variable (R : ResamplerLib ρ) (i bytes : Nat) (outcomes : Nat → PcmRead)

/-- Handing frames out stays within the buffer. -/
theorem within_getNextBufferTraced (reads frameCount : Nat) :
    Triple (Within (ArmedAt (ρ := ρ) i)) (getNextBufferTraced i outcomes reads frameCount)
      fun result => Within fun w => ArmedAt i w ∧ ∀ grant, result.1 = some grant →
        (w.ins i).Grants grant ∧ grant.frameCount ≤ frameCount :=
  .bind (within_touch fun _ armed => StreamIn.Armed.nextBufferTouches armed _) fun _ =>
    within_beside (armed_getNextBuffer i outcomes reads frameCount)

/-- Copying what was handed out reads what is in the buffer. -/
theorem within_readGrantTraced {property : World ρ → Prop} (grant : Grant)
    (grants : ∀ w, property w → ArmedAt i w ∧ (w.ins i).Grants grant) :
    Triple (Within property) (readGrantTraced i grant) fun data =>
      Within fun w => property w ∧ data.length = grant.frameCount := by
  -- The access is in bounds, and the copy has the length of the grant.
  refine .bind (within_touch fun w met => ?_) fun _ => within_beside fun w met => ?_
  · exact List.forall_mem_singleton.mpr ((grants w met).1.grantTouches (grants w met).2)
  · obtain ⟨length, same⟩ := exec_readGrant i w grant (grants w met).1
    rw [same]
    exact ⟨met, length⟩

/-- A sound resampler stays within the frames it was granted, and within what it was asked for. -/
theorem within_runProviderTraced (frames : Nat) (provider : Provider ρ) :
    ∀ held reads, provider.Sound frames held →
      Triple (Within fun w : World ρ => ArmedAt i w ∧ held ≤ (w.ins i).framesIn)
        (runProviderTraced i outcomes provider reads)
        fun result => Within fun w => ArmedAt i w ∧ result.1.length ≤ frames := by
  -- The induction follows the resampler's requests to its provider.
  induction provider with
  | finish state output =>
    intro held reads sound
    have kept : Triple (fun w : World ρ => ArmedAt i w ∧ held ≤ (w.ins i).framesIn)
        (modifyIn i fun in_ => { in_ with resampler := some state }) fun _ => ArmedAt i :=
      .mono (armed_modifyIn i fun in_ armed =>
        armed.kept ⟨rfl, rfl, rfl, rfl, rfl, rfl⟩ armed.present armed.framesIn)
        (fun _ both => both.1) fun _ _ met => met
    exact .bind (within_beside kept) fun _ => .pure fun s within =>
      ⟨⟨within.1, sound⟩, within.2⟩
  | getNextBuffer frameCount next ih =>
    intro held reads sound
    unfold runProviderTraced
    refine .mono (.bind (within_getNextBufferTraced i outcomes reads frameCount) ?_)
      (fun s within => ⟨within.1.1, within.2⟩) fun _ _ met => met
    rintro ⟨_ | grant, reads⟩
    · exact .mono (ih none 0 reads sound.1)
        (fun s within => ⟨⟨within.1.1, Nat.zero_le _⟩, within.2⟩) fun _ _ met => met
    · refine .bind (within_readGrantTraced i grant fun w met => ?_) fun data => ?_
      · exact ⟨met.1, (met.2 grant rfl).1⟩
      · -- What it holds now are the frames it was granted last.
        rintro s ⟨⟨⟨armed, granted⟩, length⟩, clean⟩
        obtain ⟨⟨inside, left⟩, few⟩ := granted grant rfl
        exact ih (some data) data.length reads (sound.2 data (by omega)) s
          ⟨⟨armed, by omega⟩, clean⟩
  | releaseBuffer frameCount next ih =>
    intro held reads sound
    unfold runProviderTraced
    refine .bind (within_beside (armed_releaseBuffer i frameCount held sound.1)) fun _ => ?_
    exact ih _ reads sound.2

/-- A round puts no more frames into the caller's memory than it was asked for. -/
theorem within_readFramesRoundTraced (sound : R.Sound) (buffer : Samples)
    (framesWr framesRd reads : Nat) (fits : 2 * (framesWr + framesRd) ≤ bytes) :
    Triple (Within (ArmedAt (ρ := ρ) i))
      (readFramesRoundTraced R i bytes outcomes buffer framesWr framesRd reads)
      fun result => Within fun w => ArmedAt i w ∧ result.2.1 ≤ framesRd := by
  refine .bind (within_beside (armed_getIn i)) fun in_ => ?_
  cases in_.resampler with
  | some state =>
    -- What the resampler puts out goes to the caller, from where the last round ended.
    refine .mono (.bind (within_runProviderTraced i outcomes framesRd _ 0 reads
      (sound state framesRd)) ?_) (fun s within => ⟨⟨within.1.1, Nat.zero_le _⟩, within.2⟩)
      fun _ _ met => met
    rintro ⟨output, reads⟩ s ⟨⟨armed, few⟩, clean⟩
    have few : output.length ≤ framesRd := few
    have room : 2 * framesWr + 2 * output.length ≤ bytes := by omega
    exact ⟨⟨armed, few⟩, List.forall_mem_cons.mpr ⟨room, clean⟩⟩
  | none =>
    refine .mono (.bind (within_getNextBufferTraced i outcomes reads framesRd) ?_)
      (fun s within => ⟨within.1.1, within.2⟩) fun _ _ met => met
    rintro ⟨_ | grant, reads⟩
    · -- Nothing was granted, and nothing is given back.
      refine .mono (.bind (within_beside (armed_releaseBuffer i 0 0 (Nat.le_refl _))) fun _ =>
        .pure fun s within => ?_) (fun s within => ⟨⟨within.1.1, Nat.zero_le _⟩, within.2⟩)
        fun _ _ met => met
      exact ⟨⟨within.1.1, Nat.le_refl _⟩, within.2⟩
    · rintro s ⟨⟨armed, granted⟩, clean⟩
      obtain ⟨grants, few⟩ := granted grant rfl
      -- The grant is copied out and given back whole.
      have rest : Triple (Within fun w : World ρ => ArmedAt i w ∧ (w.ins i).Grants grant)
          (do
            let data ← readGrantTraced i grant
            touchCaller bytes (2 * framesWr) (2 * grant.frameCount)
            (releaseBuffer i grant.frameCount).beside
            return (storeAt buffer framesWr data, grant.frameCount, reads))
          fun result => Within fun w => ArmedAt i w ∧ result.2.1 ≤ framesRd := by
        refine .bind (within_readGrantTraced i grant fun _ met => met) fun data => ?_
        refine .bind (within_touchCaller (by omega)) fun _ => ?_
        refine .mono (.bind (within_beside (armed_releaseBuffer i grant.frameCount grant.frameCount
          (Nat.le_refl _))) fun _ => .pure fun s within => ?_)
          (fun s within => ⟨⟨within.1.1.1, within.1.1.2.2⟩, within.2⟩) fun _ _ met => met
        exact ⟨⟨within.1.1, few⟩, within.2⟩
      exact rest s ⟨⟨armed, grants⟩, clean⟩

/-- And so do all the rounds, as long as there is room for the frames. -/
theorem within_readFramesTraced (sound : R.Sound) (frames : Nat) (fits : 2 * frames ≤ bytes)
    (fuel : Nat) :
    ∀ framesWr reads buffer, framesWr ≤ frames →
      Triple (Within (ArmedAt (ρ := ρ) i))
        (readFramesTraced R i bytes outcomes frames fuel framesWr reads buffer)
        fun _ => Within (ArmedAt i) := by
  -- The induction keeps the frames written so far below those asked for.
  induction fuel with
  | zero => exact fun _ _ _ _ => .pure fun _ within => within
  | succ fuel ih =>
    intro framesWr reads buffer below
    refine .ite (fun more => ?_) fun _ => .pure fun _ within => within
    refine .bind (within_readFramesRoundTraced R i bytes outcomes sound buffer framesWr
      (frames - framesWr) reads (by omega)) ?_
    rintro ⟨buffer, framesRd, reads⟩ s ⟨⟨armed, few⟩, clean⟩
    have few : framesRd ≤ frames - framesWr := few
    have rest : Triple (Within (ArmedAt (ρ := ρ) i))
        (do
          let in_ ← (getIn i).beside
          if in_.readStatus ≠ 0 then
            return (buffer, some in_.readStatus)
          else
            readFramesTraced R i bytes outcomes frames fuel (framesWr + framesRd) reads buffer)
        fun _ => Within (ArmedAt i) := by
      refine .bind (within_beside (armed_getIn i)) fun in_ => .ite (fun _ => .pure ?_) fun _ => ?_
      · exact fun s within => ⟨within.1.1, within.2⟩
      · exact .mono (ih _ reads buffer (by omega)) (fun s within => ⟨within.1.1, within.2⟩)
          fun _ _ met => met
    exact rest s ⟨armed, clean⟩

/-- A stream has no more frames left than its period has. -/
def StreamIn.Level (in_ : StreamIn ρ) : Prop := in_.framesIn ≤ in_.pcmConfig.periodSize

/-- A running stream has the memory that capturing so many bytes needs. -/
def StreamIn.Suits (in_ : StreamIn ρ) (bytes : Nat) : Prop :=
  bytes = 0 ∨ (in_.resampler.isSome ∨ in_.pcmConfig.channels = 2 → in_.Armed) ∧
    (in_.resampler = none → in_.pcmConfig.channels = 2 → bytes ≤ 2 * in_.pcmConfig.periodSize)

/-- A stream of the world is level. -/
def InLevelAt (w : World ρ) : Prop := (w.ins i).Level

/-- A call of the kernel leaves the stream level. -/
theorem level_record (call : Call) :
    Triple (InLevelAt (ρ := ρ) i) (record call) fun _ => InLevelAt i := fun _ level => level

/-- Reading the stream leaves it level. -/
theorem level_getIn : Triple (InLevelAt (ρ := ρ) i) (getIn i) fun _ => InLevelAt i :=
  fun _ level => level

/-- A change that keeps a stream level. -/
theorem level_modifyIn {change : StreamIn ρ → StreamIn ρ}
    (keeps : ∀ in_ : StreamIn ρ, in_.Level → (change in_).Level) :
    Triple (InLevelAt i) (modifyIn i change) fun _ => InLevelAt i := by
  -- The stream is the one that is changed.
  intro w level
  unfold InLevelAt
  rw [ins_modifyIn]
  exact keeps _ level

/-- Reading no frames is reading nothing. -/
theorem exec_readFramesTraced_zero (s : World ρ × List Access) (fuel reads : Nat)
    (buffer : Samples) :
    ((readFramesTraced R i bytes outcomes 0 fuel 0 reads buffer).exec s).2 = s := by
  -- No frames are asked for, so the loop is not entered.
  cases fuel with
  | zero => rfl
  | succ fuel =>
    unfold readFramesTraced
    rw [if_neg (Nat.lt_irrefl 0)]
    rfl

/-- The stream is put in place before anything that depends on it. -/
theorem exec_getIn_beside_bind {α : Type} (next : StreamIn ρ → Traced ρ α)
    (s : World ρ × List Access) :
    ((getIn i).beside >>= next).exec s = (next (s.1.ins i)).exec s := rfl

/-- Copying the left channel of a stereo capture out stays within both memories. -/
theorem within_stereo (env : InReadEnv) (buffer : Samples) (pcm : Option Pcm) :
    Triple (Within fun w : World ρ => InLevelAt i w ∧
        ∀ a ∈ (w.ins i).stereoTouches bytes, a.InBounds)
      (do
        touch i fun in_ => in_.stereoTouches bytes
        (record (.pcmRead pcm (bytes * 2))).beside
        (modifyIn i fun in_ =>
          { in_ with buffer := in_.buffer.map ((env.pcmRead 0).store (bytes * 2)) }).beside
        let in_ ← (getIn i).beside
        touchCaller bytes 0 (2 * (bytes / inFrameSize))
        match in_.buffer with
        | none => do
          when (bytes / inFrameSize ≠ 0) do (record .nullDereference).beside
          return (buffer, some (env.pcmRead 0).ret)
        | some captured =>
          return (fun n => if n < bytes / inFrameSize then captured (n * 2) else buffer n,
            some (env.pcmRead 0).ret))
      fun _ => Within (InLevelAt i) := by
  have whole : 0 + 2 * (bytes / inFrameSize) ≤ bytes := by
    unfold inFrameSize
    omega
  -- Once the accesses are noted, what is left to do touches nothing else.
  refine .bind (within_touch fun w met => met.2) fun _ => ?_
  suffices level : Triple (Within (InLevelAt i)) _ _ from
    level.mono (fun s within => ⟨within.1.1, within.2⟩) fun _ _ within => within
  refine .bind (within_beside (level_record i _)) fun _ => ?_
  refine .bind (within_beside (level_modifyIn i fun _ level => level)) fun _ => ?_
  refine .bind (within_beside (level_getIn i)) fun in_ => ?_
  refine .bind (within_touchCaller whole) fun _ => ?_
  cases in_.buffer with
  | none =>
    exact .bind (.when (fun _ => within_beside (level_record i _)) fun _ _ within => within)
      fun _ => .pure fun _ within => within
  | some captured => exact .pure fun _ within => within

/-- Capturing stays within memory that suits it, whichever way the samples take. -/
theorem within_captureTraced (sound : R.Sound) (env : InReadEnv) (buffer : Samples) :
    Triple (Within fun w : World ρ => InLevelAt i w ∧ (w.ins i).Suits bytes)
      (captureTraced R i bytes env buffer) fun _ => Within (InLevelAt i) := by
  rintro ⟨w, log⟩ ⟨⟨level, suits⟩, clean⟩
  have level : (w.ins i).Level := level
  have suits : (w.ins i).Suits bytes := suits
  unfold captureTraced
  rw [exec_getIn_beside_bind]
  by_cases converts : (w.ins i).resampler.isSome
  · -- The resampler is served from the buffer, and fills the caller's memory by frames.
    rw [if_pos converts]
    rcases suits with rfl | ⟨armed, _⟩
    · rw [show (0 : Nat) / inFrameSize = 0 from rfl, exec_readFramesTraced_zero]
      exact ⟨level, clean⟩
    · have half : 2 * (bytes / inFrameSize) ≤ bytes := by
        unfold inFrameSize
        omega
      obtain ⟨after, clean⟩ := within_readFramesTraced R i bytes env.pcmRead sound _ half env.fuel
        0 0 buffer (Nat.zero_le _) (w, log) ⟨armed (Or.inl converts), clean⟩
      exact ⟨after.framesIn, clean⟩
  · rw [if_neg converts]
    by_cases stereo : (w.ins i).pcmConfig.channels = 2
    · rw [if_pos stereo]
      refine within_stereo i bytes env buffer _ (w, log) ⟨⟨level, ?_⟩, clean⟩
      rcases suits with rfl | ⟨armed, fits⟩
      · -- No byte is asked for, and none is touched.
        refine List.forall_mem_cons.mpr ⟨Nat.zero_le _, ?_⟩
        exact List.forall_mem_nil _
      · exact (armed (Or.inr stereo)).stereoTouches stereo
          (fits (Option.not_isSome_iff_eq_none.mp converts) stereo)
    · -- Mono frames go straight into the caller's memory.
      rw [if_neg stereo]
      have rest : Triple (Within (InLevelAt (ρ := ρ) i))
          (do
            (record (.pcmRead (w.ins i).pcm bytes)).beside
            touchCaller bytes 0 bytes
            return ((env.pcmRead 0).store bytes buffer, some (env.pcmRead 0).ret))
          fun _ => Within (InLevelAt i) :=
        .bind (within_beside (level_record i _)) fun _ =>
          .bind (within_touchCaller (Nat.le_of_eq (Nat.zero_add bytes))) fun _ =>
            .pure fun _ within => within
      exact rest (w, log) ⟨level, clean⟩

/-- So does silencing what was captured, over the length the caller gave. -/
theorem within_inReadRunningTraced (sound : R.Sound) (env : InReadEnv) (buffer : CallerBuffer) :
    Triple (Within fun w : World ρ => InLevelAt i w ∧ (w.ins i).Suits bytes)
      (inReadRunningTraced R i bytes buffer env) fun _ => Within (InLevelAt i) := by
  -- Capturing is in bounds, and muting clears the whole of the client's buffer.
  have looks : Triple (InLevelAt (ρ := ρ) i) getAdev fun _ => InLevelAt i :=
    fun _ level => level
  refine .bind (within_captureTraced R i bytes sound env buffer.samples) fun result => ?_
  refine .bind (within_beside looks) fun adev => ?_
  refine .bind ?_ fun _ => .pure fun _ within => within
  refine .when (fun _ => ?_) fun _ _ within => within
  exact within_touchCaller (Nat.le_of_eq (Nat.zero_add bytes))

end Traced

section Start

variable (w : World ρ) (i bytes : Nat) (env : StartEnv)

/-- A stream has no more frames left than its period has, if it is running. -/
def LevelIfRunning (i : Nat) (w : World ρ) : Prop :=
  (w.ins i).standby = false → (w.ins i).Level

/-- The configuration a read captures with: that of the running stream, or that of its route. -/
def World.captureConfig : PcmConfig :=
  if (w.ins i).standby then ((w.ins i).configure (inScoOn w.adev)).pcmConfig
  else (w.ins i).pcmConfig

/-- Whether a read converts the rate, with the resampler there is or with one it can create. -/
def World.converts : Prop :=
  if (w.ins i).standby then
    inGetSampleRate (w.ins i) ≠ (w.captureConfig i).rate ∧ env.createResampler = true
  else (w.ins i).resampler.isSome

/-- Whether a read has a capture buffer: one that is there, or one it is given. -/
def World.allocated : Prop :=
  if (w.ins i).standby then env.malloc.isSome else (w.ins i).buffer.isSome

/--
A read of so many bytes keeps to its memory.

Either no PCM is opened, or nothing is asked for, or the capture buffer is there wherever it is
used, and half of it takes what is asked for where stereo frames are not converted.
-/
def World.FitsCapture : Prop :=
  (w.ins i).standby = true ∧ env.pcmIsReady = false ∨ bytes = 0 ∨
    (w.converts i env ∨ (w.captureConfig i).channels = 2 → w.allocated i env) ∧
      (¬ w.converts i env → (w.captureConfig i).channels = 2 →
        bytes ≤ 2 * (w.captureConfig i).periodSize)

/-- A fit stream that runs is armed as soon as it has a buffer. -/
theorem StreamIn.Fit.armed {in_ : StreamIn ρ} (fit : in_.Fit) (running : in_.standby = false)
    (level : in_.Level) (present : in_.buffer.isSome) : in_.Armed := by
  obtain ⟨fast, home⟩ := fit.home
  -- There are three configurations, and all of them are small.
  have which : in_.pcmConfig = pcmConfigInLowLatency ∨ in_.pcmConfig = pcmConfigIn ∨
      in_.pcmConfig = pcmConfigSco := by
    rcases fit.config with own | sco
    · rw [own, home]
      unfold inDefaultConfig
      split
      · exact Or.inl rfl
      · exact Or.inr (Or.inl rfl)
    · exact Or.inr (Or.inr sco)
  refine ⟨present, fit.size running, ?_, level, ?_⟩
  · rcases which with config | config | config <;> rw [config] <;> decide
  · rcases which with config | config | config <;> rw [config] <;> decide

/-- The stream a read captures from is the one its start was foreseen to leave. -/
theorem startInIfStandby_foreseen (R : ResamplerLib ρ) (fit : (w.ins i).Fit)
    (level : LevelIfRunning i w) :
    let result := (startInIfStandby R i env).exec w
    (result.2.ins i).standby = true ∧ result.1 < 0 ∧ (w.ins i).standby = true ∧
        env.pcmIsReady = false ∨
      (result.2.ins i).Level ∧ (result.2.ins i).pcmConfig = w.captureConfig i ∧
        ((result.2.ins i).resampler.isSome ↔ w.converts i env) ∧
        ((result.2.ins i).buffer.isSome ↔ w.allocated i env) ∧
        ¬ ((w.ins i).standby = true ∧ env.pcmIsReady = false) := by
  dsimp only
  unfold World.converts World.allocated World.captureConfig
  rcases startInIfStandby_cases R w env i with
    ⟨running, same⟩ | ⟨resting, ready, _, n, own⟩ | ⟨resting, failed, ret, n, own⟩
  · -- A running stream is captured from as it was left.
    rw [same, running]
    exact Or.inr ⟨level running, rfl, Iff.rfl, Iff.rfl, fun both => by cases both.1⟩
  · -- A started stream has nothing left of any period, and what its start was given.
    obtain ⟨_, left, rate, _⟩ := (w.ins i).configure_spec (inScoOn w.adev)
    have resampler := StreamIn.resampler_begun R env (left.trans (fit.resting resting).1)
    rw [rate] at resampler
    rw [own, resting, ready]
    exact Or.inr ⟨Nat.zero_le _, rfl, resampler ⟨n, if inScoOn w.adev then pcmDeviceSco else
      pcmDevice, ((w.ins i).configure (inScoOn w.adev)).pcmConfig⟩, Iff.rfl, fun both => by
        cases both.2⟩
  · -- A stream that could not be started is captured nothing from.
    rw [own, ret]
    obtain ⟨_, _, _, standby⟩ := (w.ins i).configure_spec (inScoOn w.adev)
    exact Or.inl ⟨standby.trans resting, by decide, resting, failed⟩

/-- A read that keeps to its memory captures from a stream that suits it. -/
theorem suits_startInIfStandby (R : ResamplerLib ρ) :
    Triple (fun w : World ρ => (w.ins i).Fit ∧ LevelIfRunning i w ∧ w.FitsCapture i bytes env)
      (startInIfStandby R i env) fun ret w =>
        LevelIfRunning i w ∧ (¬ ret < 0 → InLevelAt i w ∧ (w.ins i).Suits bytes) := by
  rintro w ⟨fit, level, fits⟩
  obtain ⟨fitAfter, runs⟩ := fit_startInIfStandby R w i env fit
  rcases startInIfStandby_foreseen w i env R fit level with
    ⟨resting, failed, _⟩ | ⟨level, config, converts, allocated, opens⟩
  · exact ⟨fun running => absurd (resting.symm.trans running) (by decide),
      fun started => absurd failed started⟩
  · -- The start did what was foreseen, for which the memory was found to suffice.
    refine ⟨fun _ => level, fun started => ⟨level, ?_⟩⟩
    rcases fits with unopened | nothing | ⟨present, few⟩
    · exact absurd unopened opens
    · exact Or.inl nothing
    · rw [← config, ← converts, ← allocated] at present
      rw [← config, ← converts] at few
      refine Or.inr ⟨fun needed => ?_, fun direct stereo => few (by simp [direct]) stereo⟩
      exact fitAfter.armed (runs (Int.not_lt.mp started)) level (present needed)

/-- A read that keeps to its memory touches nothing else, and leaves a level stream behind. -/
theorem within_inReadTraced (R : ResamplerLib ρ) (sound : R.Sound) (buffer : CallerBuffer)
    (env : InReadEnv) :
    Triple (Within fun w : World ρ =>
        (w.ins i).Fit ∧ LevelIfRunning i w ∧ w.FitsCapture i bytes env.start)
      (inReadTraced R i bytes buffer env) fun _ => Within (LevelIfRunning i) := by
  -- Taking and releasing a mutex touches nothing.
  have locks : ∀ (property : World ρ → Prop) (mutex : Mutex),
      Triple (Within property) (acquire mutex : Hal ρ Unit).beside fun _ => Within property :=
    fun property mutex => within_beside fun _ met => met
  have unlocks : ∀ (property : World ρ → Prop) (mutex : Mutex),
      Triple (Within property) (release mutex : Hal ρ Unit).beside fun _ => Within property :=
    fun property mutex => within_beside fun _ met => met
  have rests : ∀ call : Call, Triple (LevelIfRunning (ρ := ρ) i) (record call)
      fun _ => LevelIfRunning i := fun _ _ level => level
  have looks : Triple (LevelIfRunning (ρ := ρ) i) (getIn i) fun _ => LevelIfRunning i :=
    fun _ level => level
  have captures : ∀ ret : Int, Triple (Within fun w : World ρ => LevelIfRunning i w ∧
        (¬ ret < 0 → InLevelAt i w ∧ (w.ins i).Suits bytes))
      (if ret < 0 then pure (buffer, some ret) else inReadRunningTraced R i bytes buffer env)
      fun _ => Within (LevelIfRunning i) := by
    intro ret
    refine .ite (fun _ => .pure fun s within => ⟨within.1.1, within.2⟩) fun started => ?_
    exact .mono (within_inReadRunningTraced R i bytes sound env buffer)
      (fun s within => ⟨within.1.2 started, within.2⟩) fun _ s within =>
        ⟨fun _ => within.1, within.2⟩
  refine .bind (locks _ _) fun _ => ?_
  refine .bind (locks _ _) fun _ => ?_
  refine .bind (within_beside (suits_startInIfStandby i bytes env.start R)) fun ret => ?_
  refine .bind (unlocks _ _) fun _ => ?_
  refine .bind (captures ret) ?_
  rintro ⟨buffer, ret⟩
  refine .bind (within_beside looks) fun in_ => ?_
  refine .bind (.when (fun _ => within_beside (rests _)) fun _ _ within => within) fun _ => ?_
  exact .bind (unlocks _ _) fun _ => .pure fun _ within => within

end Start

end Grouper.Audio
