import Grouper.Audio.Types

/-! Starting and stopping streams: the helpers of every entry point that opens or closes a PCM. -/

namespace Grouper.Audio

open Prog (acquire release when)

variable {ρ : Type}

/-- Log a call that leaves the HAL. -/
def record (call : Call) : Hal ρ Unit :=
  Prog.update fun w => { w with calls := call :: w.calls }

def getOut (o : Nat) : Hal ρ (StreamOut ρ) := do return (← Prog.state).outs o

def getIn (i : Nat) : Hal ρ (StreamIn ρ) := do return (← Prog.state).ins i

def getAdev : Hal ρ AudioDevice := do return (← Prog.state).adev

def modifyAdev (change : AudioDevice → AudioDevice) : Hal ρ Unit :=
  Prog.update fun w => { w with adev := change w.adev }

def modifyOut (o : Nat) (change : StreamOut ρ → StreamOut ρ) : Hal ρ Unit :=
  Prog.update fun w => { w with outs := Function.update w.outs o (change (w.outs o)) }

def modifyIn (i : Nat) (change : StreamIn ρ → StreamIn ρ) : Hal ρ Unit :=
  Prog.update fun w => { w with ins := Function.update w.ins i (change (w.ins i)) }

/-- `pcm_open` returns a handle it never returned before, whether or not the device is ready. -/
def pcmOpen (stream : StreamRef) (device : Nat) (config : PcmConfig) : Hal ρ Pcm := do
  -- Handles are numbered, so that two of them are never taken for one another.
  let pcm : Pcm := ⟨(← Prog.state).opened, device, config⟩
  Prog.update fun w => { w with opened := w.opened + 1, calls := .pcmOpen stream pcm :: w.calls }
  return pcm

/-- The mixer follows the routes and the orientation of the device. -/
def selectDevices (adev : AudioDevice) : AudioDevice :=
  let headphoneOn :=
    adev.outDevice &&& (audioDeviceOutWiredHeadset ||| audioDeviceOutWiredHeadphone)
  let speakerOn := adev.outDevice &&& audioDeviceOutSpeaker
  let docked := adev.outDevice &&& audioDeviceOutAnlgDockHeadset
  let mainMicOn := adev.inDevice &&& audioDeviceInBuiltinMic
  -- The settings are built up from the initial ones, and written to the mixer at the end.
  let ar := adev.ar.reset
  let ar := if speakerOn ≠ 0 then ar.applyPath .speaker else ar
  let ar := if headphoneOn ≠ 0 then ar.applyPath .headphone else ar
  let ar := if docked ≠ 0 then ar.applyPath .dock else ar
  let ar := if mainMicOn ≠ 0 then
      -- The orientation decides between the two main microphones.
      if adev.orientation = .landscape then ar.applyPath .mainMicLeft else ar.applyPath .mainMicTop
    else ar
  { adev with ar := ar.updateMixer }

/-- `out_get_sample_rate`. -/
def outGetSampleRate : Nat := pcmConfigOut.rate

/-- `audio_stream_out_frame_size`: two channels of two bytes. -/
def outFrameSize : Nat := 4

/-- `audio_stream_in_frame_size`: one channel of two bytes. -/
def inFrameSize : Nat := 2

/-- `in_get_sample_rate`. -/
def inGetSampleRate (in_ : StreamIn ρ) : Nat := in_.requestedRate

/-- The rates of a PCM about to start and of one already open belong to different groups. -/
def rateClash (starting running : Nat) : Bool :=
  (starting % 8000 = 0 && running % 8000 ≠ 0) || (starting % 11025 = 0 && running % 11025 ≠ 0)

/-- What the calls made while starting a stream come to. -/
structure StartEnv where
  pcmIsReady : Bool
  createResampler : Bool
  /-- Null, or memory with indeterminate contents. -/
  malloc : Option Samples

/-- Must be called with the device and the output stream mutexes locked. -/
def doOutStandby (o : Nat) : Hal ρ Unit := do
  let out ← getOut o
  when (out.standby = false) do
    -- The slot of the device is emptied whether or not this stream is in it.
    record (.pcmClose out.pcm)
    modifyOut o fun out => { out with pcm := none }
    modifyAdev fun adev => { adev with activeOut := none }
    modifyOut o fun out => { out with resampler := none }
    modifyOut o fun out => { out with buffer := none }
    modifyOut o fun out => { out with standby := true }

/-- Must be called with the device and the input stream mutexes locked. -/
def doInStandby (i : Nat) : Hal ρ Unit := do
  let in_ ← getIn i
  when (in_.standby = false) do
    record (.pcmClose in_.pcm)
    modifyIn i fun in_ => { in_ with pcm := none }
    modifyAdev fun adev => { adev with activeIn := none }
    modifyIn i fun in_ => { in_ with resampler := none }
    modifyIn i fun in_ => { in_ with buffer := none }
    modifyIn i fun in_ => { in_ with standby := true }

/-- Only the main PCM or the SCO PCM of a direction is meant to be open at the same time. -/
def outScoOn (adev : AudioDevice) : Bool := adev.outDevice &&& audioDeviceOutAllSco ≠ 0

def inScoOn (adev : AudioDevice) : Bool := adev.inDevice &&& audioDeviceInAllSco ≠ 0

/-- The running input stream is stopped if its rate does not go with the output about to start. -/
def stopClashingIn (o : Nat) : Hal ρ Unit := do
  let adev ← getAdev
  match adev.activeIn with
  | none => return
  | some i =>
    acquire (.in_ i)
    -- The rates are compared under the mutex of the stream that may be stopped.
    let out ← getOut o
    let in_ ← getIn i
    when (rateClash out.config.rate in_.pcmConfig.rate) do
      doInStandby i
    release (.in_ i)

/-- The running output stream is stopped if its rate does not go with the input about to start. -/
def stopClashingOut (i : Nat) : Hal ρ Unit := do
  let adev ← getAdev
  match adev.activeOut with
  | none => return
  | some o =>
    acquire (.out o)
    let in_ ← getIn i
    let out ← getOut o
    when (rateClash in_.pcmConfig.rate out.config.rate) do
      doOutStandby o
    release (.out o)

/-- The main PCM or the SCO PCM, whichever the route asks for. -/
def StreamOut.configure (scoOn : Bool) (out : StreamOut ρ) : StreamOut ρ :=
  if scoOn then { out with pcmConfig := some pcmConfigSco }
  else { out with pcmConfig := some pcmConfigOut, bufferType := .unknown }

def StreamIn.configure (scoOn : Bool) (in_ : StreamIn ρ) : StreamIn ρ :=
  if scoOn then { in_ with pcmConfig := pcmConfigSco }
  else { in_ with pcmConfig := in_.pcmConfigNonSco }

/-- The part of `start_output_stream` from `pcm_open` on. -/
def openOutputPcm (R : ResamplerLib ρ) (o device : Nat) (env : StartEnv) : Hal ρ Int := do
  let out ← getOut o
  let config := out.config
  let pcm ← pcmOpen (.output o) device config
  modifyOut o fun out => { out with pcm := some pcm }
  record (.pcmIsReady (some pcm))
  if env.pcmIsReady = false then
    -- The closed handle stays in the stream, which stays in standby.
    record (.pcmClose (some pcm))
    return -enomem
  else
    -- Only the SCO PCM has another rate, and needs a resampler and a buffer for its output.
    when (outGetSampleRate ≠ config.rate) do
      modifyOut o fun out => { out with
        resampler := if env.createResampler then
            some (R.create outGetSampleRate config.rate config.channels)
          else none
        bufferFrames := (pcmConfigOut.periodSize * config.rate) / outGetSampleRate + 1 }
      record (.pcmFramesToBytes (some pcm))
      modifyOut o fun out => { out with buffer := env.malloc }
    modifyAdev fun adev => { adev with activeOut := some o }
    return 0

/-- Must be called with the device and the output stream mutexes locked. -/
def startOutputStream (R : ResamplerLib ρ) (o : Nat) (env : StartEnv) : Hal ρ Int := do
  let adev ← getAdev
  modifyOut o (.configure (outScoOn adev))
  stopClashingIn o
  openOutputPcm R o (if outScoOn adev then pcmDeviceSco else pcmDevice) env

/-- The part of `start_input_stream` from `pcm_open` on. -/
def openInputPcm (R : ResamplerLib ρ) (i device : Nat) (env : StartEnv) : Hal ρ Int := do
  let in_ ← getIn i
  let config := in_.pcmConfig
  let pcm ← pcmOpen (.input i) device config
  modifyIn i fun in_ => { in_ with pcm := some pcm }
  record (.pcmIsReady (some pcm))
  if env.pcmIsReady = false then
    -- As for an output, the closed handle stays in the stream.
    record (.pcmClose (some pcm))
    return -enomem
  else
    -- The right channel is dropped before resampling, so there is one channel.
    when (inGetSampleRate in_ ≠ config.rate) do
      modifyIn i fun in_ => { in_ with
        resampler := if env.createResampler then
            some (R.create config.rate (inGetSampleRate in_) 1)
          else none }
    -- The buffer has room for one period as the PCM delivers it.
    record (.pcmFramesToBytes (some pcm))
    modifyIn i fun in_ => { in_ with
      bufferSize := pcm.framesToBytes config.periodSize
      buffer := env.malloc
      framesIn := 0 }
    modifyAdev fun adev => { adev with activeIn := some i }
    return 0

/-- Must be called with the device and the input stream mutexes locked. -/
def startInputStream (R : ResamplerLib ρ) (i : Nat) (env : StartEnv) : Hal ρ Int := do
  let adev ← getAdev
  modifyIn i (.configure (inScoOn adev))
  stopClashingOut i
  openInputPcm R i (if inScoOn adev then pcmDeviceSco else pcmDevice) env

end Grouper.Audio
