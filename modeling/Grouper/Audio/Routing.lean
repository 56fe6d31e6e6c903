import Grouper.Audio.Device
import Grouper.Lib.Monitor

/-! What the device mutex guards: the devices in use, the orientation, and the mixer's routes. -/

namespace Grouper.Audio

open Prog (Aloof)

variable {ρ : Type}

/-- The part of the device that decides on the mixer, with the routes. -/
structure Routing where
  outDevice : Devices
  inDevice : Devices
  orientation : Orientation
  ar : AudioRoute

def AudioDevice.routing (adev : AudioDevice) : Routing :=
  ⟨adev.outDevice, adev.inDevice, adev.orientation, adev.ar⟩

def World.routing (w : World ρ) : Routing := w.adev.routing

/-- The path of the main microphone, by the way the tablet is held. -/
def Orientation.mainMic : Orientation → MixerPath
  | landscape => .mainMicLeft
  | _ => .mainMicTop

/-- The paths the devices and the orientation call for, in the order they take effect. -/
def selectedPaths (outDevice inDevice : Devices) (orientation : Orientation) : List MixerPath :=
  (if outDevice &&& audioDeviceOutSpeaker ≠ 0 then [.speaker] else []) ++
  (if outDevice &&& (audioDeviceOutWiredHeadset ||| audioDeviceOutWiredHeadphone) ≠ 0
    then [.headphone] else []) ++
  (if outDevice &&& audioDeviceOutAnlgDockHeadset ≠ 0 then [.dock] else []) ++
  (if inDevice &&& audioDeviceInBuiltinMic ≠ 0 then [orientation.mainMic] else [])

/-- What the mixer is meant to be: initial settings overridden by the selected paths in turn. -/
def routedMixer (initial : Settings) (outDevice inDevice : Devices) (orientation : Orientation) :
    Settings :=
  (selectedPaths outDevice inDevice orientation).foldl
    (fun settings path => settings.override path.ctls) initial

/-- The routing once the mixer has caught up with it. -/
def Routing.follow (r : Routing) : Routing :=
  let mixer := routedMixer r.ar.initial r.outDevice r.inDevice r.orientation
  { r with ar := ⟨r.ar.initial, mixer, mixer⟩ }

/-- A path that may be applied adds itself, or nothing, to what is staged. -/
theorem applyPath_if (condition : Prop) [Decidable condition] (ar : AudioRoute)
    (path : MixerPath) : (if condition then ar.applyPath path else ar) = { ar with
      staged := (if condition then [path] else []).foldl
        (fun settings path => settings.override path.ctls) ar.staged } := by
  split <;> rfl

/-- Selecting devices makes the mixer what it is meant to be, whatever it was. -/
theorem routing_selectDevices (adev : AudioDevice) :
    (selectDevices adev).routing = adev.routing.follow := by
  -- The orientation only decides which of two paths the main microphone takes.
  have mic : ∀ ar : AudioRoute, (if adev.orientation = .landscape then ar.applyPath .mainMicLeft
      else ar.applyPath .mainMicTop) = ar.applyPath adev.orientation.mainMic := by
    intro ar
    cases adev.orientation <;> rfl
  unfold selectDevices
  simp only [mic, applyPath_if]
  unfold Routing.follow routedMixer selectedPaths
  rw [List.foldl_append, List.foldl_append, List.foldl_append]
  rfl

/-- Controls of other names leave a setting alone. -/
theorem override_of_absent (settings : Settings) {ctls : List (String × String)} {name : String}
    (absent : ∀ ctl ∈ ctls, name ≠ ctl.1) : settings.override ctls name = settings name := by
  -- The induction applies the controls in the order of the list.
  unfold Settings.override
  induction ctls generalizing settings with
  | nil => rfl
  | cons ctl rest ih =>
    rw [List.foldl_cons, ih _ fun other member => absent other (List.mem_cons_of_mem ctl member)]
    exact Function.update_of_ne (absent ctl List.mem_cons_self) _ _

/-- The control that the speaker and the headphone path both set. -/
def sharedSwitch : String := "DAC IF1 SWITCH"

/-- The headphone path comes after the speaker path, and no later path sets their shared control. -/
theorem routedMixer_sharedSwitch (initial : Settings) {outDevice : Devices} (inDevice : Devices)
    (orientation : Orientation)
    (on : outDevice &&& (audioDeviceOutWiredHeadset ||| audioDeviceOutWiredHeadphone) ≠ 0) :
    routedMixer initial outDevice inDevice orientation sharedSwitch = some "Normal" := by
  unfold routedMixer selectedPaths
  rw [if_pos on, List.foldl_append, List.foldl_append, List.foldl_append]
  -- What the speaker path may have set is overridden.
  generalize (if outDevice &&& audioDeviceOutSpeaker ≠ 0 then [MixerPath.speaker] else []).foldl
    (fun settings path => settings.override path.ctls) initial = before
  have normal : before.override MixerPath.headphone.ctls sharedSwitch = some "Normal" := by
    simp [Settings.override, MixerPath.ctls, sharedSwitch]
  have dock : ∀ settings : Settings,
      settings.override MixerPath.dock.ctls sharedSwitch = settings sharedSwitch :=
    fun settings => override_of_absent settings (by decide)
  have mic : ∀ settings : Settings,
      settings.override orientation.mainMic.ctls sharedSwitch = settings sharedSwitch := by
    intro settings
    cases orientation <;> exact override_of_absent settings (by decide)
  split <;> split <;> simp [normal, dock, mic]

section Aloof

variable {gate : Mutex}

/-- A call of the kernel is not of the routing. -/
theorem aloof_record (call : Call) : Aloof gate World.routing (record call : Hal ρ Unit) :=
  Prog.aloof_update fun _ => rfl

/-- Reading an output stream leaves the routing alone. -/
theorem aloof_getOut (o : Nat) : Aloof gate World.routing (getOut o : Hal ρ (StreamOut ρ)) :=
  .bind Prog.aloof_state fun _ => Prog.aloof_pure _

/-- Reading an input stream leaves it alone. -/
theorem aloof_getIn (i : Nat) : Aloof gate World.routing (getIn i : Hal ρ (StreamIn ρ)) :=
  .bind Prog.aloof_state fun _ => Prog.aloof_pure _

/-- Reading the device leaves it alone. -/
theorem aloof_getAdev : Aloof gate World.routing (getAdev : Hal ρ AudioDevice) :=
  .bind Prog.aloof_state fun _ => Prog.aloof_pure _

/-- A change of the device that keeps the fields of the routing. -/
theorem aloof_modifyAdev {change : AudioDevice → AudioDevice}
    (same : ∀ adev, (change adev).routing = adev.routing) :
    Aloof gate World.routing (modifyAdev change : Hal ρ Unit) :=
  Prog.aloof_update fun w => same w.adev

/-- A change of an output stream is not of the routing. -/
theorem aloof_modifyOut (o : Nat) (change : StreamOut ρ → StreamOut ρ) :
    Aloof gate World.routing (modifyOut o change) := Prog.aloof_update fun _ => rfl

/-- Nor is one of an input stream. -/
theorem aloof_modifyIn (i : Nat) (change : StreamIn ρ → StreamIn ρ) :
    Aloof gate World.routing (modifyIn i change) := Prog.aloof_update fun _ => rfl

/-- A PCM is opened on a route, which stays what it is. -/
theorem aloof_pcmOpen (stream : StreamRef) (device : Nat) (config : PcmConfig) :
    Aloof gate World.routing (pcmOpen stream device config : Hal ρ Pcm) := by
  refine .bind Prog.aloof_state fun _ => ?_
  exact .bind (Prog.aloof_update fun _ => rfl) fun _ => Prog.aloof_pure _

/-- Standby empties the slot of the stream, which is no part of the routing. -/
theorem aloof_doOutStandby (o : Nat) : Aloof gate World.routing (doOutStandby o : Hal ρ Unit) := by
  -- Of the device, the active slot is cleared, which is no part of the routing.
  refine .bind (aloof_getOut o) fun out => ?_
  refine .when ?_
  refine .bind (aloof_record _) fun _ => ?_
  refine .bind (aloof_modifyOut o _) fun _ => ?_
  refine .bind (aloof_modifyAdev fun _ => rfl) fun _ => ?_
  refine .bind (aloof_modifyOut o _) fun _ => ?_
  exact .bind (aloof_modifyOut o _) fun _ => aloof_modifyOut o _

/-- And so does that of an input stream. -/
theorem aloof_doInStandby (i : Nat) : Aloof gate World.routing (doInStandby i : Hal ρ Unit) := by
  -- The same steps on an input stream.
  refine .bind (aloof_getIn i) fun in_ => ?_
  refine .when ?_
  refine .bind (aloof_record _) fun _ => ?_
  refine .bind (aloof_modifyIn i _) fun _ => ?_
  refine .bind (aloof_modifyAdev fun _ => rfl) fun _ => ?_
  refine .bind (aloof_modifyIn i _) fun _ => ?_
  exact .bind (aloof_modifyIn i _) fun _ => aloof_modifyIn i _

/-- Handing frames out leaves the routing alone. -/
theorem aloof_getNextBuffer (i : Nat) (outcomes : Nat → PcmRead) (reads frameCount : Nat) :
    Aloof gate World.routing
      (getNextBuffer i outcomes reads frameCount : Hal ρ (Option Grant × Nat)) := by
  -- The cases are those of the source: no PCM, no frames left, or frames left.
  refine .bind (aloof_getIn i) fun in_ => ?_
  refine .ite ?_ ?_
  · exact .bind (aloof_modifyIn i _) fun _ => Prog.aloof_pure _
  · refine .ite ?_ (Prog.aloof_pure _)
    refine .bind (aloof_record _) fun _ => ?_
    refine .bind (aloof_modifyIn i _) fun _ => ?_
    refine .ite (Prog.aloof_pure _) ?_
    refine .bind (aloof_modifyIn i _) fun _ => ?_
    refine .bind ?_ fun _ => ?_
    · refine .when ?_
      exact .bind (.when (aloof_record _)) fun _ => aloof_modifyIn i _
    · exact .bind (aloof_getIn i) fun _ => Prog.aloof_pure _

/-- Copying what was handed out leaves it alone. -/
theorem aloof_readGrant (i : Nat) (grant : Grant) :
    Aloof gate World.routing (readGrant i grant : Hal ρ (List Sample)) := by
  -- A stream without a buffer has nothing to copy.
  refine .bind (aloof_getIn i) fun in_ => ?_
  split
  · exact .bind (aloof_record _) fun _ => Prog.aloof_pure _
  · exact Prog.aloof_pure _

/-- Whatever a resampler asks for, its provider leaves it alone. -/
theorem aloof_runProvider (i : Nat) (outcomes : Nat → PcmRead) (provider : Provider ρ) :
    ∀ reads, Aloof gate World.routing (runProvider i outcomes provider reads) := by
  -- The induction follows the resampler's requests to its provider.
  induction provider with
  | finish state output =>
    intro reads
    unfold runProvider
    exact .bind (aloof_modifyIn i _) fun _ => Prog.aloof_pure _
  | getNextBuffer frameCount next ih =>
    intro reads
    unfold runProvider
    refine .bind (aloof_getNextBuffer i outcomes reads frameCount) fun served => ?_
    split
    · exact ih none _
    · exact .bind (aloof_readGrant i _) fun data => ih (some data) _
  | releaseBuffer frameCount next ih =>
    intro reads
    unfold runProvider
    exact .bind (aloof_modifyIn i _) fun _ => ih reads

/-- A round of resampling leaves it alone. -/
theorem aloof_readFramesRound (R : ResamplerLib ρ) (i : Nat) (outcomes : Nat → PcmRead)
    (buffer : Samples) (framesWr framesRd reads : Nat) :
    Aloof gate World.routing (readFramesRound R i outcomes buffer framesWr framesRd reads) := by
  -- The frames come through the resampler, or straight from what was granted.
  refine .bind (aloof_getIn i) fun in_ => ?_
  split
  · exact .bind (aloof_runProvider i outcomes _ reads) fun _ => Prog.aloof_pure _
  · refine .bind (aloof_getNextBuffer i outcomes reads framesRd) fun served => ?_
    split
    · exact .bind (aloof_modifyIn i _) fun _ => Prog.aloof_pure _
    · refine .bind (aloof_readGrant i _) fun _ => ?_
      exact .bind (aloof_modifyIn i _) fun _ => Prog.aloof_pure _

/-- And so do all rounds of a read. -/
theorem aloof_readFrames (R : ResamplerLib ρ) (i : Nat) (outcomes : Nat → PcmRead)
    (frames fuel : Nat) : ∀ framesWr reads buffer,
      Aloof gate World.routing (readFrames R i outcomes frames fuel framesWr reads buffer) := by
  -- The induction is on the rounds left.
  induction fuel with
  | zero => exact fun _ _ _ => Prog.aloof_pure _
  | succ fuel ih =>
    intro framesWr reads buffer
    refine .ite ?_ (Prog.aloof_pure _)
    refine .bind (aloof_readFramesRound R i outcomes buffer framesWr _ reads) fun _ => ?_
    refine .bind (aloof_getIn i) fun _ => ?_
    exact .ite (Prog.aloof_pure _) (ih _ _ _)

/-- All three ways of capturing leave it alone. -/
theorem aloof_capture (R : ResamplerLib ρ) (i : Nat) (env : InReadEnv) (bytes : Nat)
    (buffer : Samples) : Aloof gate World.routing (capture R i env bytes buffer) := by
  -- The ways are a resampler, a buffer for both channels, and the client's own buffer.
  refine .bind (aloof_getIn i) fun in_ => ?_
  refine .ite (aloof_readFrames R i _ _ _ _ _ _) ?_
  refine .ite ?_ ?_
  · refine .bind (aloof_record _) fun _ => ?_
    refine .bind (aloof_modifyIn i _) fun _ => ?_
    refine .bind (aloof_getIn i) fun _ => ?_
    split
    · exact .bind (.when (aloof_record _)) fun _ => Prog.aloof_pure _
    · exact Prog.aloof_pure _
  · exact .bind (aloof_record _) fun _ => Prog.aloof_pure _

/-- Throttling leaves it alone. -/
theorem aloof_throttle (o : Nat) (htimestamp : Nat → Option Nat) (fuel : Nat) :
    ∀ round kernelFrames total,
      Aloof gate World.routing
        (throttle o htimestamp fuel round kernelFrames total : Hal ρ Int) := by
  -- The induction is on the rounds left.
  induction fuel with
  | zero => exact fun _ _ _ => Prog.aloof_pure _
  | succ fuel ih =>
    intro round kernelFrames total
    refine .bind (aloof_getOut o) fun out => ?_
    refine .bind (aloof_record _) fun _ => ?_
    split
    · exact Prog.aloof_pure _
    · refine .bind (aloof_record _) fun _ => ?_
      refine .ite ?_ (Prog.aloof_pure _)
      refine .ite (Prog.aloof_pure _) ?_
      refine .bind (aloof_record _) fun _ => ?_
      exact .ite (ih _ _ _) (Prog.aloof_pure _)

/-- Resampling leaves it alone. -/
theorem aloof_convert (R : ResamplerLib ρ) (o : Nat) (buffer : Samples) (inFrames : Nat) :
    Aloof gate World.routing (convert R o buffer inFrames) := by
  -- Only a stream with a resampler is changed.
  refine .bind (aloof_getOut o) fun out => ?_
  refine .ite ?_ (Prog.aloof_pure _)
  split
  · exact .bind (aloof_modifyOut o _) fun _ => Prog.aloof_pure _
  · exact .bind (aloof_record _) fun _ => Prog.aloof_pure _

/-- Opening the PCM of an output stream leaves the routing alone. -/
theorem aloof_openOutputPcm (R : ResamplerLib ρ) (o device : Nat) (env : StartEnv) :
    Aloof gate World.routing (openOutputPcm R o device env) := by
  -- A PCM that is not ready is closed again, and one that is becomes the active one.
  refine .bind (aloof_getOut o) fun out => ?_
  refine .bind (aloof_pcmOpen _ _ _) fun pcm => ?_
  refine .bind (aloof_modifyOut o _) fun _ => ?_
  refine .bind (aloof_record _) fun _ => ?_
  refine .ite ?_ ?_
  · exact .bind (aloof_record _) fun _ => Prog.aloof_pure _
  · refine .bind ?_ fun _ => ?_
    · refine .when ?_
      refine .bind (aloof_modifyOut o _) fun _ => ?_
      exact .bind (aloof_record _) fun _ => aloof_modifyOut o _
    · exact .bind (aloof_modifyAdev fun _ => rfl) fun _ => Prog.aloof_pure _

/-- Opening that of an input stream leaves it alone. -/
theorem aloof_openInputPcm (R : ResamplerLib ρ) (i device : Nat) (env : StartEnv) :
    Aloof gate World.routing (openInputPcm R i device env) := by
  -- A PCM that is not ready is closed again, and one that is becomes the active one.
  refine .bind (aloof_getIn i) fun in_ => ?_
  refine .bind (aloof_pcmOpen _ _ _) fun pcm => ?_
  refine .bind (aloof_modifyIn i _) fun _ => ?_
  refine .bind (aloof_record _) fun _ => ?_
  refine .ite ?_ ?_
  · exact .bind (aloof_record _) fun _ => Prog.aloof_pure _
  · refine .bind (.when (aloof_modifyIn i _)) fun _ => ?_
    refine .bind (aloof_record _) fun _ => ?_
    refine .bind (aloof_modifyIn i _) fun _ => ?_
    exact .bind (aloof_modifyAdev fun _ => rfl) fun _ => Prog.aloof_pure _

/-- All that comes before `pcm_write` leaves it alone. -/
theorem aloof_prepareWrite (R : ResamplerLib ρ) (o : Nat) (buffer : Samples) (bytes : Nat)
    (env : OutWriteEnv) (bufferType : OutBufferType) (scoOn : Bool) :
    Aloof gate World.routing (prepareWrite R o buffer bytes env bufferType scoOn) := by
  -- The three parts come one after the other.
  refine .bind (.when (aloof_modifyOut o _)) fun _ => ?_
  refine .bind (aloof_convert R o buffer _) fun _ => ?_
  refine .bind ?_ fun _ => Prog.aloof_pure _
  refine .when ?_
  exact .bind (aloof_throttle o _ _ _ _ _) fun _ => aloof_modifyOut o _

/-- Opening an output stream leaves the routing alone. -/
theorem aloof_adevOpenOutputStream (o : Nat) (calloc : Bool) (config : AudioConfig) :
    Aloof gate World.routing
      (adevOpenOutputStream o calloc config : Hal ρ (Int × AudioConfig)) := by
  refine .ite (Prog.aloof_pure _) ?_
  exact .bind (Prog.aloof_update fun _ => rfl) fun _ => Prog.aloof_pure _

/-- Opening an input stream leaves it alone. -/
theorem aloof_adevOpenInputStream (i : Nat) (calloc : Bool) (config : AudioConfig) (fast : Bool) :
    Aloof gate World.routing
      (adevOpenInputStream i calloc config fast : Hal ρ (Int × AudioConfig)) := by
  -- A channel mask that is not mono, or a failed allocation, ends the call.
  refine .ite (Prog.aloof_pure _) ?_
  refine .ite (Prog.aloof_pure _) ?_
  exact .bind (Prog.aloof_update fun _ => rfl) fun _ => Prog.aloof_pure _

end Aloof

end Grouper.Audio
