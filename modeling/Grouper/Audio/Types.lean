import Grouper.Audio.Mixer
import Grouper.Lib.Ledger
import Grouper.Lib.Prog
import Mathlib.Algebra.Group.Int.Defs
import Mathlib.Algebra.Group.Nat.Defs

/-! The data of the audio HAL: routes, PCM configurations, streams, and the calls that leave it. -/

namespace Grouper.Audio

/-- A mask of audio devices, numbered as in `system/audio.h`. -/
abbrev Devices := BitVec 32

def audioDeviceOutSpeaker : Devices := 0x2
def audioDeviceOutWiredHeadset : Devices := 0x4
def audioDeviceOutWiredHeadphone : Devices := 0x8
def audioDeviceOutAllSco : Devices := 0x70
def audioDeviceOutAnlgDockHeadset : Devices := 0x800
def audioDeviceBitIn : Devices := 0x80000000
def audioDeviceInBuiltinMic : Devices := audioDeviceBitIn ||| 0x4
def audioDeviceInAllSco : Devices := audioDeviceBitIn ||| 0x8

def pcmDevice : Nat := 0
def pcmDeviceSco : Nat := 2

def outPeriodSize : Nat := 512
def outShortPeriodCount : Nat := 2
def outLongPeriodCount : Nat := 8
def outSamplingRate : Nat := 44100

def inPeriodSize : Nat := 1024
def inPeriodSizeLowLatency : Nat := 512
def inPeriodCount : Nat := 2
def inSamplingRate : Nat := 44100

def scoPeriodSize : Nat := 256
def scoPeriodCount : Nat := 4
def scoSamplingRate : Nat := 8000

def minWriteSleepUs : Int := 2000
def maxWriteSleepUs : Int :=
  ((outPeriodSize * outShortPeriodCount * 1000000) / outSamplingRate : Nat)

def epipe : Int := 32
def enomem : Int := 12
def einval : Int := 22
def enodev : Int := 19

/-- Which buffer size the write thresholds of an output stream were last set for. -/
inductive OutBufferType where
  | unknown
  | short
  | long
  deriving DecidableEq, Repr

/-- How the tablet is held, as far as the framework has told. -/
inductive Orientation where
  | landscape
  | portrait
  | square
  | undefined
  deriving DecidableEq, Repr

/-- `struct pcm_config`, for the one sample format in use. -/
structure PcmConfig where
  channels : Nat
  rate : Nat
  periodSize : Nat
  periodCount : Nat
  startThreshold : Nat
  stopThreshold : Nat
  deriving DecidableEq, Repr, Inhabited

def pcmConfigOut : PcmConfig where
  channels := 2
  rate := outSamplingRate
  periodSize := outPeriodSize
  periodCount := outLongPeriodCount
  startThreshold := outPeriodSize * outShortPeriodCount
  stopThreshold := 0

def pcmConfigIn : PcmConfig where
  channels := 2
  rate := inSamplingRate
  periodSize := inPeriodSize
  periodCount := inPeriodCount
  startThreshold := 1
  stopThreshold := inPeriodSize * inPeriodCount

def pcmConfigInLowLatency : PcmConfig where
  channels := 2
  rate := inSamplingRate
  periodSize := inPeriodSizeLowLatency
  periodCount := inPeriodCount
  startThreshold := 1
  stopThreshold := inPeriodSizeLowLatency * inPeriodCount

def pcmConfigSco : PcmConfig where
  channels := 1
  rate := scoSamplingRate
  periodSize := scoPeriodSize
  periodCount := scoPeriodCount
  startThreshold := 0
  stopThreshold := 0

/-- A signed 16-bit sample. -/
abbrev Sample := Int16

/-- Memory holding samples, by offset. What lies past an allocation is memory too. -/
abbrev Samples := Nat → Sample

/-- A stream of either direction, by the address of its structure. -/
inductive StreamRef where
  | output (id : Nat)
  | input (id : Nat)
  deriving DecidableEq, Repr

/-- A PCM handle: the serial number of the `pcm_open` that returned it, and what it opened. -/
structure Pcm where
  serial : Nat
  device : Nat
  config : PcmConfig
  deriving DecidableEq, Repr

/-- `pcm_get_buffer_size`. -/
def Pcm.bufferSize (pcm : Pcm) : Nat := pcm.config.periodSize * pcm.config.periodCount

/-- `pcm_frames_to_bytes`, two bytes for each sample of a frame. -/
def Pcm.framesToBytes (pcm : Pcm) (frames : Nat) : Nat := frames * (pcm.config.channels * 2)

/-- What a resampler does with its buffer provider before it returns the frames it produced. -/
inductive Provider (ρ : Type) where
  | finish (state : ρ) (output : List Sample)
  | getNextBuffer (frameCount : Nat) (next : Option (List Sample) → Provider ρ)
  | releaseBuffer (frameCount : Nat) (next : Provider ρ)

/-- The resampler library, with states `ρ`; channels interleave within a frame. -/
structure ResamplerLib (ρ : Type) where
  /-- `create_resampler` from one rate to another. -/
  create : (inRate outRate channels : Nat) → ρ
  /-- `resample_from_input`: the new state, the frames consumed, and the frames produced. -/
  resampleFromInput : ρ → (input : List Sample) → (capacity : Nat) → ρ × Nat × List Sample
  /-- `resample_from_provider`, asked for a number of frames. -/
  resampleFromProvider : ρ → (frames : Nat) → Provider ρ

/-- The plainest such library: from two rates, it picks the nearest earlier frame of one channel. -/
def ResamplerLib.nearest : ResamplerLib (Nat × Nat) where
  create inRate outRate _ := (inRate, outRate)
  resampleFromInput rates input capacity :=
    let produced := min capacity (input.length * rates.2 / rates.1)
    (rates, input.length, (List.range produced).map fun k => input.getD (k * rates.1 / rates.2) 0)
  resampleFromProvider rates frames :=
    .getNextBuffer (frames * rates.1 / rates.2) fun
      | none => .finish rates []
      | some input =>
        let produced := min frames (input.length * rates.2 / rates.1)
        .releaseBuffer input.length (.finish rates
          ((List.range produced).map fun k => input.getD (k * rates.1 / rates.2) 0))

/-- `struct stream_out`. -/
structure StreamOut (ρ : Type) where
  pcm : Option Pcm
  pcmConfig : Option PcmConfig
  standby : Bool
  /-- An `uint64_t`, so a count modulo 2^64. -/
  written : Nat
  resampler : Option ρ
  buffer : Option Samples
  bufferFrames : Nat
  writeThreshold : Int
  curWriteThreshold : Int
  bufferType : OutBufferType

/-- The configuration an output stream points to; a null one reads as zeros. -/
def StreamOut.config {ρ : Type} (out : StreamOut ρ) : PcmConfig := out.pcmConfig.getD default

/-- `struct stream_in`. -/
structure StreamIn (ρ : Type) where
  pcm : Option Pcm
  pcmConfig : PcmConfig
  pcmConfigNonSco : PcmConfig
  standby : Bool
  requestedRate : Nat
  resampler : Option ρ
  buffer : Option Samples
  bufferSize : Nat
  framesIn : Nat
  readStatus : Int

/-- `struct audio_device`. -/
structure AudioDevice where
  outDevice : Devices
  inDevice : Devices
  micMute : Bool
  ar : AudioRoute
  orientation : Orientation
  screenOff : Bool
  activeOut : Option Nat
  activeIn : Option Nat

/-- A call that leaves the HAL, with the handle or the value it was given. -/
inductive Call where
  | pcmOpen (stream : StreamRef) (pcm : Pcm)
  | pcmClose (pcm : Option Pcm)
  | pcmIsReady (pcm : Option Pcm)
  | pcmFramesToBytes (pcm : Option Pcm)
  | pcmGetHtimestamp (pcm : Option Pcm)
  | pcmGetBufferSize (pcm : Option Pcm)
  | pcmRead (pcm : Option Pcm) (bytes : Nat)
  | pcmWrite (pcm : Option Pcm) (data : List Sample) (result : Int)
  | usleep (microseconds : Int)
  /-- A null resampler or a null buffer is dereferenced. -/
  | nullDereference

/-- What a call does to PCM handles, if it takes or returns one. -/
def Call.handleEvent : Call → Option (HandleEvent StreamRef Pcm)
  | pcmOpen stream pcm => some (.opened stream pcm)
  | pcmClose pcm => some (.closed pcm)
  | pcmIsReady pcm => some (.used pcm)
  | pcmFramesToBytes pcm => some (.used pcm)
  | pcmGetHtimestamp pcm => some (.used pcm)
  | pcmGetBufferSize pcm => some (.used pcm)
  | pcmRead pcm _ => some (.used pcm)
  | pcmWrite pcm _ _ => some (.used pcm)
  | usleep _ => none
  | nullDereference => none

/-- The mutexes: one for the device and one for each stream. -/
inductive Mutex where
  | adev
  | out (id : Nat)
  | in_ (id : Nat)
  deriving DecidableEq, Repr

/--
Everything the entry points of the HAL share.

Streams live at addresses, and an address counts only while its stream is open.
The log of calls has the newest call first.
-/
structure World (ρ : Type) where
  adev : AudioDevice
  outs : Nat → StreamOut ρ
  ins : Nat → StreamIn ρ
  outOpen : Nat → Bool
  inOpen : Nat → Bool
  /-- How many times `pcm_open` was called, which numbers the handles it returns. -/
  opened : Nat
  calls : List Call

/-- The handle events among the calls so far. -/
def World.handleLog {ρ : Type} (w : World ρ) : List (HandleEvent StreamRef Pcm) :=
  w.calls.filterMap Call.handleEvent

/-- A program of the HAL. -/
abbrev Hal (ρ : Type) := Prog (World ρ) Mutex

end Grouper.Audio
