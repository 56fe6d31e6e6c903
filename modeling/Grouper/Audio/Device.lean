import Grouper.Audio.Playback
import Grouper.Lib.Run

/-! The entry points on the device and on its routes, and the machine all entry points make up. -/

namespace Grouper.Audio

open Prog (acquire release when)

variable {ρ : Type}

/-- What `str_parms_get_str` returns for one key, and the value it stored if it found the key. -/
structure Parm (α : Type) where
  ret : Int
  value : α

def outStandby (o : Nat) : Hal ρ Unit := do
  acquire .adev
  acquire (.out o)
  doOutStandby o
  release (.out o)
  release .adev

def inStandby (i : Nat) : Hal ρ Unit := do
  acquire .adev
  acquire (.in_ i)
  doInStandby i
  release (.in_ i)
  release .adev

/-- `out_set_parameters`, on the routing key and the number `atoi` reads from its value. -/
def outSetParameters (o : Nat) (routing : Parm Devices) : Hal ρ Int := do
  acquire .adev
  when (routing.ret ≥ 0) do
    let val := routing.value
    -- A route to no device at all is not taken.
    let adev ← getAdev
    when (adev.outDevice ≠ val ∧ val ≠ 0) do
      -- SCO uses a different PCM, so turning it on or off puts the stream into standby.
      when ((val &&& audioDeviceOutAllSco) ^^^ (adev.outDevice &&& audioDeviceOutAllSco) ≠ 0) do
        acquire (.out o)
        doOutStandby o
        release (.out o)
      modifyAdev fun adev => { adev with outDevice := val }
      modifyAdev selectDevices
  release .adev
  return routing.ret

/-- `in_set_parameters`, which drops the direction bit from the mask it is given. -/
def inSetParameters (i : Nat) (routing : Parm Devices) : Hal ρ Int := do
  acquire .adev
  when (routing.ret ≥ 0) do
    let val := routing.value &&& ~~~audioDeviceBitIn
    let adev ← getAdev
    when (adev.inDevice ≠ val ∧ val ≠ 0) do
      when ((val &&& audioDeviceInAllSco) ^^^ (adev.inDevice &&& audioDeviceInAllSco) ≠ 0) do
        acquire (.in_ i)
        doInStandby i
        release (.in_ i)
      modifyAdev fun adev => { adev with inDevice := val }
      modifyAdev selectDevices
  release .adev
  return routing.ret

/-- The orientation a value of the key of that name stands for. -/
def Orientation.ofString (value : String) : Orientation :=
  if value = "landscape" then landscape
  else if value = "portrait" then portrait
  else if value = "square" then square
  else undefined

/-- `adev_set_parameters`, on its two keys. Only the orientation is changed under the mutex. -/
def adevSetParameters (orientation screenState : Parm String) : Hal ρ Int := do
  when (orientation.ret ≥ 0) do
    -- A key that is missing leaves the orientation as it is.
    let next := Orientation.ofString orientation.value
    acquire .adev
    let adev ← getAdev
    when (next ≠ adev.orientation) do
      modifyAdev fun adev => { adev with orientation := next }
      modifyAdev selectDevices
    release .adev
  when (screenState.ret ≥ 0) do
    -- Everything but "on" counts as off.
    modifyAdev fun adev => { adev with screenOff := screenState.value ≠ "on" }
  return screenState.ret

def adevSetMicMute (state : Bool) : Hal ρ Int := do
  modifyAdev fun adev => { adev with micMute := state }
  return 0

/-- `struct audio_config`, as far as the open functions read or write it. -/
structure AudioConfig where
  sampleRate : Nat
  channelMask : Nat
  deriving DecidableEq, Repr

def audioChannelOutStereo : Nat := 0x3
def audioChannelInMono : Nat := 0x10

/-- An output stream as `adev_open_output_stream` leaves it. -/
def StreamOut.opened : StreamOut ρ where
  pcm := none
  pcmConfig := none
  standby := true
  written := 0
  resampler := none
  buffer := none
  bufferFrames := 0
  writeThreshold := 0
  curWriteThreshold := 0
  bufferType := .unknown

/-- `adev_open_output_stream` at a free address, or without one when `calloc` fails. -/
def adevOpenOutputStream (o : Nat) (calloc : Bool) (config : AudioConfig) :
    Hal ρ (Int × AudioConfig) := do
  if calloc = false then
    return (-enomem, config)
  else
    -- The values that were asked for are replaced by those the stream has.
    Prog.update fun w => { w with
      outs := Function.update w.outs o .opened
      outOpen := Function.update w.outOpen o true }
    return (0, ⟨outGetSampleRate, audioChannelOutStereo⟩)

def adevCloseOutputStream (o : Nat) : Hal ρ Unit := do
  -- The memory is released only after the PCM was closed.
  outStandby o
  Prog.update fun w => { w with outOpen := Function.update w.outOpen o false }

/-- The configuration of an input stream off the SCO route, chosen once when it is opened. -/
def inDefaultConfig (sampleRate : Nat) (fast : Bool) : PcmConfig :=
  if sampleRate = inSamplingRate ∧ fast then pcmConfigInLowLatency else pcmConfigIn

/-- An input stream as `adev_open_input_stream` leaves it. -/
def StreamIn.opened (sampleRate : Nat) (fast : Bool) : StreamIn ρ where
  pcm := none
  pcmConfig := inDefaultConfig sampleRate fast
  pcmConfigNonSco := inDefaultConfig sampleRate fast
  standby := true
  requestedRate := sampleRate
  resampler := none
  buffer := none
  bufferSize := 0
  framesIn := 0
  readStatus := 0

/-- `adev_open_input_stream`, which answers other channel masks with a request for mono. -/
def adevOpenInputStream (i : Nat) (calloc : Bool) (config : AudioConfig) (fast : Bool) :
    Hal ρ (Int × AudioConfig) := do
  if config.channelMask ≠ audioChannelInMono then
    return (-einval, { config with channelMask := audioChannelInMono })
  else if calloc = false then
    return (-enomem, config)
  else
    Prog.update fun w => { w with
      ins := Function.update w.ins i (.opened config.sampleRate fast)
      inOpen := Function.update w.inOpen i true }
    return (0, config)

def adevCloseInputStream (i : Nat) : Hal ρ Unit := do
  inStandby i
  Prog.update fun w => { w with inOpen := Function.update w.inOpen i false }

/-- The device as `adev_open` leaves it, over the mixer settings the hardware had. -/
def adevOpen (hardware : Settings) : AudioDevice :=
  selectDevices {
    outDevice := audioDeviceOutSpeaker
    inDevice := audioDeviceInBuiltinMic &&& ~~~audioDeviceBitIn
    micMute := false
    ar := AudioRoute.init hardware
    orientation := .undefined
    screenOff := false
    activeOut := none
    activeIn := none }

/-- The world after `adev_open`: no stream is open and no PCM was ever opened. -/
def World.initial (hardware : Settings) : World ρ where
  adev := adevOpen hardware
  outs := fun _ => .opened
  ins := fun _ => .opened 0 false
  outOpen := fun _ => false
  inOpen := fun _ => false
  opened := 0
  calls := []

/-- A call of an entry point, with its arguments and with what the calls it makes come to. -/
inductive Act where
  | openOutputStream (o : Nat) (calloc : Bool) (config : AudioConfig)
  | closeOutputStream (o : Nat)
  | openInputStream (i : Nat) (calloc : Bool) (config : AudioConfig) (fast : Bool)
  | closeInputStream (i : Nat)
  | outWrite (o : Nat) (buffer : Samples) (bytes : Nat) (env : OutWriteEnv)
  | inRead (i : Nat) (buffer : CallerBuffer) (bytes : Nat) (env : InReadEnv)
  | outStandby (o : Nat)
  | inStandby (i : Nat)
  | outSetParameters (o : Nat) (routing : Parm Devices)
  | inSetParameters (i : Nat) (routing : Parm Devices)
  | outGetPresentationPosition (o : Nat) (htimestamp : Option Nat)
  | outGetLatency (o : Nat)
  | adevSetParameters (orientation screenState : Parm String)
  | adevSetMicMute (state : Bool)

/-- The program of a call, without its result. -/
def Act.prog (R : ResamplerLib ρ) : Act → Hal ρ Unit
  | .openOutputStream o calloc config => do let _ ← adevOpenOutputStream o calloc config
  | .closeOutputStream o => adevCloseOutputStream o
  | .openInputStream i calloc config fast => do let _ ← adevOpenInputStream i calloc config fast
  | .closeInputStream i => adevCloseInputStream i
  | .outWrite o buffer bytes env => do let _ ← Audio.outWrite R o buffer bytes env
  | .inRead i buffer bytes env => do let _ ← Audio.inRead R i buffer bytes env
  | .outStandby o => Audio.outStandby o
  | .inStandby i => Audio.inStandby i
  | .outSetParameters o routing => do let _ ← Audio.outSetParameters o routing
  | .inSetParameters i routing => do let _ ← Audio.inSetParameters i routing
  | .outGetPresentationPosition o htimestamp => do
    let _ ← Audio.outGetPresentationPosition o htimestamp
  | .outGetLatency _ => do let _ ← Audio.outGetLatency
  | .adevSetParameters orientation screenState => do
    let _ ← Audio.adevSetParameters orientation screenState
  | .adevSetMicMute state => do let _ ← Audio.adevSetMicMute state

/-- Streams are opened at free addresses, and every other call is on an open stream. -/
def Act.enabled (w : World ρ) : Act → Bool
  | .openOutputStream o _ _ => !w.outOpen o
  | .openInputStream i _ _ _ => !w.inOpen i
  | .closeOutputStream o | .outWrite o _ _ _ | .outStandby o | .outSetParameters o _
  | .outGetPresentationPosition o _ | .outGetLatency o => w.outOpen o
  | .closeInputStream i | .inRead i _ _ _ | .inStandby i | .inSetParameters i _ => w.inOpen i
  -- These are calls on the device, which is always open.
  | .adevSetParameters _ _ | .adevSetMicMute _ => true

/-- One call, taken as a whole under its mutexes. -/
def step (R : ResamplerLib ρ) (w : World ρ) (act : Act) : Option (World ρ) :=
  if act.enabled w then some ((act.prog R).exec w).2 else none

end Grouper.Audio
