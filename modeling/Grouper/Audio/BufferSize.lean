import Grouper.Lib.RoundUp
import Grouper.Audio.CaptureBounds

/-! The buffer sizes for capture that are given out, and the periods they are meant to hold. -/

namespace Grouper.Audio

variable {ρ : Type}

/-- The functions of `system/audio.h` that take channel masks and formats apart. -/
structure FormatLib where
  /-- `audio_channel_count_from_in_mask`. -/
  channelCount : Nat → Nat
  /-- `audio_bytes_per_sample`. -/
  bytesPerSample : Nat → Nat
  /-- A mask has no more channels than bits. -/
  channelCount_le : ∀ mask, channelCount mask ≤ 32
  /-- A sample has no more bytes than a 32-bit number. -/
  bytesPerSample_le : ∀ format, bytesPerSample format ≤ 4

/-- The bytes of a frame. -/
def FormatLib.frameSize (F : FormatLib) (config : AudioConfig) (format : Nat) : Nat :=
  F.channelCount config.channelMask * F.bytesPerSample format

/-- `adev_get_input_buffer_size`, where `format` is that of the configuration. -/
def adevGetInputBufferSize (F : FormatLib) (config : AudioConfig) (format : Nat) : Nat :=
  -- All of it is computed in 32 bits.
  let size := pcmConfigIn.periodSize * config.sampleRate % 2 ^ 32 / pcmConfigIn.rate
  let size := (size + 15) % 2 ^ 32 / 16 * 16 % 2 ^ 32
  size * F.channelCount config.channelMask % 2 ^ 32 * F.bytesPerSample format % 2 ^ 32

/-- The multiples of 16 frames that hold a period of a PCM at another rate. -/
def periodBlocks (config : PcmConfig) (rate : Nat) : Set Nat :=
  {frames | 16 ∣ frames ∧ ((config.periodSize * rate : Nat) : ℚ) / config.rate ≤ frames}

/-- A size is that of the least number of frames, in blocks of 16, that hold a period. -/
def HoldsPeriod (config : PcmConfig) (rate frameSize size : Nat) : Prop :=
  ∃ frames, IsLeast (periodBlocks config rate) frames ∧ size = frames * frameSize

/-- The product of period and rate is one of 32 bits, and rounding it down to frames makes no
multiple of 16 from what is none. -/
def RoundsUp (config : PcmConfig) (rate : Nat) : Prop :=
  config.periodSize * rate < 2 ^ 32 ∧
    (16 ∣ config.periodSize * rate / config.rate → config.rate ∣ config.periodSize * rate)

instance (config : PcmConfig) (rate : Nat) : Decidable (RoundsUp config rate) :=
  inferInstanceAs (Decidable (_ ∧ (_ → _)))

/-- The frames that both functions compute. -/
def computedFrames (config : PcmConfig) (rate : Nat) : Nat :=
  roundUp 16 (config.periodSize * rate % 2 ^ 32 / config.rate)

section Frames

variable {config : PcmConfig} {rate frameSize : Nat}

/-- The frames are the right ones, precisely when nothing wraps and the roundings do not cancel. -/
theorem isLeast_computedFrames_iff (positive : 0 < config.rate) (bound : config.rate < 2 ^ 28) :
    IsLeast (periodBlocks config rate) (computedFrames config rate) ↔ RoundsUp config rate :=
  isLeast_roundUp_wrapped_iff (by omega) positive (by omega)

/-- The size of frames is right if their number is, or if frames are empty. -/
theorem holdsPeriod_iff (positive : 0 < config.rate) (bound : config.rate < 2 ^ 28) :
    HoldsPeriod config rate frameSize (computedFrames config rate * frameSize) ↔
      frameSize = 0 ∨ RoundsUp config rate := by
  rw [← isLeast_computedFrames_iff positive bound]
  constructor
  · intro ⟨frames, least, same⟩
    -- Frames without bytes make any number of them the same size.
    rcases Nat.eq_zero_or_pos frameSize with empty | some_
    · exact .inl empty
    · -- The sizes are the same, so the numbers of frames are.
      rw [Nat.mul_right_cancel some_ same]
      exact .inr least
  · rintro (rfl | least)
    · exact ⟨_, isLeast_roundUp_ceil (by omega) positive, by simp⟩
    · exact ⟨_, least, rfl⟩

/-- The frames of a product of 32 bits are few enough for all that follows. -/
theorem computedFrames_lt (config : PcmConfig) (rate : Nat) :
    computedFrames config rate < 2 ^ 32 / config.rate + 17 := by
  -- The product is below 2^32, and rounding adds fewer than 16 frames.
  have below := roundUp_lt (by omega : 0 < 16) (config.periodSize * rate % 2 ^ 32 / config.rate)
  have quotient : config.periodSize * rate % 2 ^ 32 / config.rate ≤ 2 ^ 32 / config.rate :=
    Nat.div_le_div_right (Nat.le_of_lt (Nat.mod_lt _ (by omega)))
  unfold computedFrames
  omega

end Frames

section Sizes

/-- The size that is given out before a stream is opened. -/
theorem adevGetInputBufferSize_eq (F : FormatLib) (config : AudioConfig) (format : Nat) :
    adevGetInputBufferSize F config format =
      computedFrames pcmConfigIn config.sampleRate * F.frameSize config format := by
  have few := computedFrames_lt pcmConfigIn config.sampleRate
  -- The bounds of the library functions keep the last two products small.
  have channels := F.channelCount_le config.channelMask
  have bytes := F.bytesPerSample_le format
  have quotient : 2 ^ 32 / pcmConfigIn.rate = 97391 := by decide
  unfold adevGetInputBufferSize FormatLib.frameSize
  unfold computedFrames roundUp at few ⊢
  rw [quotient] at few
  dsimp only
  generalize pcmConfigIn.periodSize * config.sampleRate % 2 ^ 32 / pcmConfigIn.rate = q at few ⊢
  -- None of the steps that follow leaves the 32 bits.
  have rounded : (q + 15) % 2 ^ 32 / 16 * 16 % 2 ^ 32 = (q + 15) / 16 * 16 := by omega
  have samples : (q + 15) / 16 * 16 * F.channelCount config.channelMask ≤ 97408 * 32 :=
    Nat.mul_le_mul (by omega) channels
  have size : (q + 15) / 16 * 16 * F.channelCount config.channelMask * F.bytesPerSample format ≤
      97408 * 32 * 4 := Nat.mul_le_mul samples bytes
  have counted : (q + 15) / 16 * 16 * F.channelCount config.channelMask % 2 ^ 32 =
      (q + 15) / 16 * 16 * F.channelCount config.channelMask := Nat.mod_eq_of_lt (by omega)
  rw [rounded, counted, Nat.mod_eq_of_lt (by omega), Nat.mul_assoc]

/-- The size that a stream gives out. -/
theorem inGetBufferSize_eq (in_ : StreamIn ρ) :
    inGetBufferSize in_ = computedFrames in_.pcmConfig (inGetSampleRate in_) * inFrameSize := rfl

/-- The rates of all configurations of capture are positive, and small. -/
theorem captureRate {config : PcmConfig} (fast : Bool) {rate : Nat}
    (own : config = inDefaultConfig rate fast ∨ config = pcmConfigSco) :
    0 < config.rate ∧ config.rate < 2 ^ 28 := by
  -- There are three configurations, and all of their rates are small.
  rcases own with rfl | rfl
  · unfold inDefaultConfig
    split <;> decide
  · decide

/-- In every run, a stream has its own configuration or that of SCO. -/
theorem captureConfig_of_run (R : ResamplerLib ρ) {hardware : Settings} {acts : List Act}
    {w : World ρ} (ran : run (step R) (.initial hardware) acts = some w) (i : Nat) :
    ∃ fast, (w.ins i).pcmConfig = inDefaultConfig (w.ins i).requestedRate fast ∨
      (w.ins i).pcmConfig = pcmConfigSco := by
  -- Every run keeps the configuration of a stream among those it can have.
  have fit := (fit_run R hardware acts w ran).ins i
  obtain ⟨fast, home⟩ := fit.home
  refine ⟨fast, fit.config.imp (fun own => own.trans home) id⟩

/--
A size that is given out holds a period, precisely when the product does not wrap and the two
roundings do not cancel.

The first size is given out for any configuration, and the second by a stream after any run.
-/
theorem holdsPeriod_of_run (F : FormatLib) (config : AudioConfig) (format : Nat)
    (R : ResamplerLib ρ) {hardware : Settings} {acts : List Act} {w : World ρ}
    (ran : run (step R) (.initial hardware) acts = some w) (i : Nat) :
    (HoldsPeriod pcmConfigIn config.sampleRate (F.frameSize config format)
        (adevGetInputBufferSize F config format) ↔
      F.frameSize config format = 0 ∨ RoundsUp pcmConfigIn config.sampleRate) ∧
    (HoldsPeriod (w.ins i).pcmConfig (w.ins i).requestedRate inFrameSize
        (inGetBufferSize (w.ins i)) ↔
      RoundsUp (w.ins i).pcmConfig (w.ins i).requestedRate) := by
  constructor
  · rw [adevGetInputBufferSize_eq]
    exact holdsPeriod_iff (by decide) (by decide)
  · obtain ⟨fast, own⟩ := captureConfig_of_run R ran i
    obtain ⟨positive, bound⟩ := captureRate fast own
    rw [inGetBufferSize_eq]
    -- The frames of a stream have two bytes.
    exact (holdsPeriod_iff positive bound).trans (or_iff_right (by decide))

/-- The bytes of a sample of linear PCM. -/
def pcmBytes : Nat → Nat
  | 1 => 2
  | 2 => 1
  | 3 | 4 | 5 => 4
  | 6 => 3
  | _ => 0

/-- The functions on masks and formats, for linear PCM. -/
def FormatLib.pcm : FormatLib where
  channelCount mask := (List.range 32).countP mask.testBit
  bytesPerSample := pcmBytes
  channelCount_le mask := List.countP_le_length
  bytesPerSample_le format := by
    unfold pcmBytes
    split <;> omega

def audioFormatPcm16Bit : Nat := 1

/-- A stream at 8 kHz, beside the size that is given out for such streams. -/
theorem holdsPeriod_of_run_narrow : ∃ w : World (Nat × Nat),
    run (step .nearest) (.initial fun _ => none)
      [.openInputStream 0 true ⟨8000, audioChannelInMono⟩ false] = some w ∧
    HoldsPeriod pcmConfigIn 8000 2
      (adevGetInputBufferSize .pcm ⟨8000, audioChannelInMono⟩ audioFormatPcm16Bit) ∧
    HoldsPeriod (w.ins 0).pcmConfig (w.ins 0).requestedRate inFrameSize
      (inGetBufferSize (w.ins 0)) := by
  -- The period comes to 185 frames and a fraction, which is less than the 192 given out.
  obtain ⟨w, ran, own, rate⟩ : ∃ w : World (Nat × Nat), run (step .nearest)
      (.initial fun _ => none) [.openInputStream 0 true ⟨8000, audioChannelInMono⟩ false] =
        some w ∧ (w.ins 0).pcmConfig = pcmConfigIn ∧ (w.ins 0).requestedRate = 8000 :=
    ⟨_, rfl, rfl, rfl⟩
  obtain ⟨before, stream⟩ := holdsPeriod_of_run .pcm ⟨8000, audioChannelInMono⟩
    audioFormatPcm16Bit .nearest ran 0
  refine ⟨w, ran, before.mpr (.inr ?_), stream.mpr ?_⟩
  · decide
  · rw [own, rate]
    decide

/-- At 690 frames a second a period has more than 16 frames, and 16 are given out. -/
theorem not_holdsPeriod_slow : adevGetInputBufferSize .pcm ⟨690, audioChannelInMono⟩
      audioFormatPcm16Bit = 16 * 2 ∧
    ¬ HoldsPeriod pcmConfigIn 690 2
      (adevGetInputBufferSize .pcm ⟨690, audioChannelInMono⟩ audioFormatPcm16Bit) := by
  have given : adevGetInputBufferSize .pcm ⟨690, audioChannelInMono⟩ audioFormatPcm16Bit =
      16 * 2 := by decide
  refine ⟨given, fun holds => ?_⟩
  rw [given] at holds
  obtain ⟨frames, least, same⟩ := holds
  obtain rfl : frames = 16 := by omega
  -- The period times the rate is above 16 times the rate of the PCM.
  have covers := ((mem_multiplesFrom (by decide)).mp least.1).2
  exact absurd covers (by decide)

end Sizes

end Grouper.Audio
