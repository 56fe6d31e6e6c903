import Grouper.Audio.MixerState
import Grouper.Audio.Refinement

/-! The analog microphones that the policy offers, and the paths that capture takes from them. -/

namespace Grouper.Audio

open Function (update update_self update_of_ne)

variable {ρ : Type}

def audioDeviceInWiredHeadset : Devices := audioDeviceBitIn ||| 0x10

/-- The analog microphones among the devices of the primary input in `audio_policy.conf`. -/
inductive AnalogMic where
  | builtinMic
  | wiredHeadset
  deriving DecidableEq, Repr

def AnalogMic.device : AnalogMic → Devices
  | builtinMic => audioDeviceInBuiltinMic
  | wiredHeadset => audioDeviceInWiredHeadset

/-- The paths of `mixer_paths.xml` that a microphone can be captured through. -/
def AnalogMic.paths : AnalogMic → List MixerPath
  | builtinMic => [.mainMicTop, .mainMicLeft]
  | wiredHeadset => [.headsetMic]

/-- A mask of input devices, whatever its direction bit, has the microphone in it. -/
def AnalogMic.Selected (mic : AnalogMic) (mask : Devices) : Prop :=
  mask &&& (mic.device &&& ~~~audioDeviceBitIn) ≠ 0

instance (mic : AnalogMic) (mask : Devices) : Decidable (mic.Selected mask) :=
  inferInstanceAs (Decidable (_ ≠ _))

/-- All controls of a path have the values it sets. -/
def MixerPath.Applied (path : MixerPath) (settings : Settings) : Prop :=
  ∀ ctl ∈ path.ctls, settings ctl.1 = some ctl.2

/-- All controls of a path have the values of other settings. -/
def MixerPath.Untouched (path : MixerPath) (settings initial : Settings) : Prop :=
  ∀ ctl ∈ path.ctls, settings ctl.1 = initial ctl.1

/-- Each microphone that is selected is captured, and each other one is as it was initially. -/
def MicsRouted (hardware : Settings) (adev : AudioDevice) : Prop :=
  ∀ mic : AnalogMic,
    (mic.Selected adev.inDevice → ∃ path ∈ mic.paths, path.Applied adev.ar.mixer) ∧
      (¬ mic.Selected adev.inDevice → ∀ path ∈ mic.paths,
        path.Untouched adev.ar.mixer (hardware.override initialCtls))

/-- The initial values that `mixer_paths.xml` has for the switches of the microphones. -/
theorem initialCtls_mics (hardware : Settings) :
    hardware.override initialCtls "Int Mic Switch" = some "0" ∧
      hardware.override initialCtls "DMIC Switch" = some "Disable" ∧
      hardware.override initialCtls "Mic Jack Switch" = some "0" := by
  simp [Settings.override, initialCtls]

section Direction

/-- A mask without its direction bit is tested for the devices only. -/
theorem and_device_eq {mask : Devices} (clear : mask &&& audioDeviceBitIn = 0) (mic : AnalogMic) :
    mask &&& mic.device = mask &&& (mic.device &&& ~~~audioDeviceBitIn) := by
  -- A device is its own bit and the direction bit, and the latter is not in the mask.
  have parts : mic.device = audioDeviceBitIn ||| (mic.device &&& ~~~audioDeviceBitIn) := by
    cases mic <;> decide
  rw [parts, BitVec.and_or_distrib_left, clear]
  simp [← parts]

/-- Starting a stream, or failing to, changes no route. -/
theorem Ctl.transfer_device (c : Ctl) (s : StreamRef) (ready : Bool) (uses : Nat) :
    (c.transfer s ready uses).device = c.device := by
  unfold Ctl.transfer
  split
  · -- A start may stop the stream of the other direction, but it does not reroute it.
    split <;> simp [Ctl.wake, Ctl.started, Ctl.startFailed]
  · rfl

/-- A call leaves all routes alone, or replaces one. -/
theorem Ctl.apply_device (c : Ctl) (act : CtlAct) : (c.apply act).device = c.device ∨
    ∃ s devices, act = .route s devices ∧
      (c.apply act).device = update c.device s.dir devices := by
  cases act with
  | open_ s config home => exact .inl rfl
  | close s => exact .inl (by simp [Ctl.apply])
  | stop s => exact .inl (by simp [Ctl.apply])
  | transfer s ready uses => exact .inl (c.transfer_device s ready uses)
  | query s => exact .inl rfl
  | idle => exact .inl rfl
  | route s devices =>
    simp only [Ctl.apply, Ctl.route]
    split
    · -- The new route is there, whether or not a stream was stopped for it.
      refine .inr ⟨s, devices, rfl, ?_⟩
      split <;> simp
    · exact .inl rfl

/-- The input is only routed to masks without the direction bit. -/
theorem Act.clear_of_route {act : Act} {uses : Nat} {s : StreamRef} {devices : Devices}
    (routes : act.ctl uses = .route s devices) (input : s.dir = .capture) :
    devices &&& audioDeviceBitIn = 0 := by
  cases act with
  | inSetParameters i routing =>
    simp only [Act.ctl] at routes
    split at routes
    · obtain ⟨-, rfl⟩ := CtlAct.route.inj routes
      -- `in_set_parameters` drops the direction bit before it compares anything.
      simp [BitVec.and_assoc]
    · cases routes
  | outSetParameters o routing =>
    simp only [Act.ctl] at routes
    split at routes
    · -- The output's route is another one.
      obtain ⟨rfl, -⟩ := CtlAct.route.inj routes
      cases input
    · cases routes
  | openOutputStream o calloc config =>
    simp only [Act.ctl] at routes
    split at routes <;> cases routes
  | openInputStream i calloc config fast =>
    simp only [Act.ctl] at routes
    split_ifs at routes
  | _ => cases routes

/-- In every run, the direction bit stays out of the mask of the input. -/
theorem inDevice_clear (R : ResamplerLib ρ) {hardware : Settings} {acts : List Act} {w : World ρ}
    (ran : run (step R) (.initial hardware) acts = some w) :
    w.adev.inDevice &&& audioDeviceBitIn = 0 := by
  -- The step lemma: whatever the call, the mask of the input stays clear.
  have preserved : ∀ (w : World ρ) act next, w.ctl.device .capture &&& audioDeviceBitIn = 0 →
      step R w act = some next → next.ctl.device .capture &&& audioDeviceBitIn = 0 := by
    intro w act next clear stepped
    obtain ⟨uses, -, ended⟩ := ctl_step R stepped
    rw [ended]
    rcases w.ctl.apply_device (act.ctl uses) with same | ⟨s, devices, routes, changed⟩
    · rwa [same]
    · rw [changed]
      -- The route that was replaced is that of the input, or it is not.
      by_cases input : s.dir = .capture
      · rw [input, update_self]
        exact Act.clear_of_route routes input
      · rwa [update_of_ne (Ne.symm input)]
  -- A device that is opened captures from the built-in microphone.
  have start : (World.initial hardware : World ρ).ctl.device .capture &&& audioDeviceBitIn = 0 := by
    show (audioDeviceInBuiltinMic &&& ~~~audioDeviceBitIn) &&& audioDeviceBitIn = 0
    decide
  exact run_invariant' preserved start ran

end Direction

section Routed

variable {initial settings : Settings} {outDevice inDevice : Devices} {orientation : Orientation}

/-- A control that no selected path sets keeps its initial value. -/
theorem routedMixer_of_absent {name : String}
    (absent : ∀ path ∈ selectedPaths outDevice inDevice orientation, ∀ ctl ∈ path.ctls,
      name ≠ ctl.1) : routedMixer initial outDevice inDevice orientation name = initial name := by
  unfold routedMixer
  generalize selectedPaths outDevice inDevice orientation = paths at absent ⊢
  -- The induction applies the paths in the order of the list.
  induction paths generalizing initial with
  | nil => rfl
  | cons path rest ih =>
    obtain ⟨here, others⟩ := List.forall_mem_cons.mp absent
    rw [List.foldl_cons, ih others, override_of_absent initial here]

/-- Only paths of the output and the path of the main microphone are ever selected. -/
theorem mem_selectedPaths {path : MixerPath}
    (member : path ∈ selectedPaths outDevice inDevice orientation) :
    path = .speaker ∨ path = .headphone ∨ path = .dock ∨
      inDevice &&& audioDeviceInBuiltinMic ≠ 0 ∧ path = orientation.mainMic := by
  unfold selectedPaths at member
  simp only [List.mem_append] at member
  -- The lists are joined in the order in which the paths are applied.
  rcases member with ((speaker | headphone) | dock) | mic
  · split at speaker <;> simp_all
  · split at headphone <;> simp_all
  · split at dock <;> simp_all
  · split at mic <;> simp_all

/-- The headset microphone is never selected, so its control keeps its initial value. -/
theorem routedMixer_headsetMic (initial : Settings) (outDevice inDevice : Devices)
    (orientation : Orientation) :
    MixerPath.headsetMic.Untouched (routedMixer initial outDevice inDevice orientation)
      initial := by
  -- The path has one control, which must be among those of no other path.
  intro ctl ofHeadset
  apply routedMixer_of_absent
  intro path member
  -- None of the paths that are ever selected has the jack's control.
  have jack : ctl.1 = "Mic Jack Switch" := by
    simp only [MixerPath.ctls, List.mem_singleton] at ofHeadset
    rw [ofHeadset]
  rw [jack]
  rcases mem_selectedPaths member with rfl | rfl | rfl | ⟨-, rfl⟩
  · decide
  · decide
  · decide
  · cases orientation <;> decide

/-- Without the main microphone, the controls of its paths keep their initial values. -/
theorem routedMixer_mainMic_off (off : inDevice &&& audioDeviceInBuiltinMic = 0) {path : MixerPath}
    (ofMic : path ∈ AnalogMic.builtinMic.paths) :
    path.Untouched (routedMixer initial outDevice inDevice orientation) initial := by
  intro ctl ofPath
  apply routedMixer_of_absent
  intro other member
  -- No path of the output has a control of the main microphone.
  have apart : ∀ path ∈ AnalogMic.builtinMic.paths, ∀ ctl ∈ path.ctls,
      ∀ other ∈ [MixerPath.speaker, .headphone, .dock], ∀ ctl' ∈ other.ctls, ctl.1 ≠ ctl'.1 := by
    decide
  apply apart path ofMic ctl ofPath
  rcases mem_selectedPaths member with rfl | rfl | rfl | ⟨on, -⟩
  · simp
  · simp
  · simp
  · exact absurd off on

/-- The path of the main microphone comes last, so nothing overrides it. -/
theorem routedMixer_mainMic_on (on : inDevice &&& audioDeviceInBuiltinMic ≠ 0) :
    orientation.mainMic.Applied (routedMixer initial outDevice inDevice orientation) := by
  unfold routedMixer selectedPaths
  rw [if_pos on, List.foldl_append]
  generalize List.foldl (fun settings path => settings.override (MixerPath.ctls path)) initial _ =
    before
  rw [List.foldl_cons, List.foldl_nil]
  intro ctl ofPath
  -- The controls of the path are different ones.
  cases orientation <;>
    simp only [Orientation.mainMic, MixerPath.ctls, List.mem_cons, List.not_mem_nil, or_false]
      at ofPath <;>
    rcases ofPath with rfl | rfl | rfl <;>
    simp [Settings.override, Orientation.mainMic, MixerPath.ctls]

/-- Where the mixer follows the masks, only the headset's microphone may miss its path. -/
theorem micsRouted_of_routed {hardware : Settings} {adev : AudioDevice}
    (mixer : adev.ar.mixer = routedMixer (hardware.override initialCtls) adev.outDevice
      adev.inDevice adev.orientation)
    (clear : adev.inDevice &&& audioDeviceBitIn = 0) :
    MicsRouted hardware adev ↔ ¬ AnalogMic.wiredHeadset.Selected adev.inDevice := by
  have untouched := routedMixer_headsetMic (hardware.override initialCtls) adev.outDevice
    adev.inDevice adev.orientation
  have tested := and_device_eq clear .builtinMic
  unfold MicsRouted
  rw [mixer]
  constructor
  · -- The jack's control is still off, so the headset's microphone must not be selected.
    intro routed selected
    obtain ⟨path, ofHeadset, applied⟩ := (routed .wiredHeadset).1 selected
    obtain rfl := List.mem_singleton.mp ofHeadset
    have on := applied ("Mic Jack Switch", "1") (List.mem_singleton.mpr rfl)
    have off := untouched ("Mic Jack Switch", "1") (List.mem_singleton.mpr rfl)
    rw [on, (initialCtls_mics hardware).2.2] at off
    simp at off
  · intro unselected mic
    cases mic with
    -- It is not selected, so its control has to be as it was.
    | wiredHeadset =>
      refine ⟨fun selected => absurd selected unselected, fun _ path ofHeadset => ?_⟩
      obtain rfl := List.mem_singleton.mp ofHeadset
      exact untouched
    | builtinMic =>
      constructor
      · -- The orientation decides which of the two paths is applied.
        intro selected
        refine ⟨adev.orientation.mainMic, ?_, routedMixer_mainMic_on ?_⟩
        · cases adev.orientation <;> simp [Orientation.mainMic, AnalogMic.paths]
        · exact fun off => selected (tested.symm.trans off)
      · -- Neither of them is applied without the microphone.
        intro other path ofMic
        refine routedMixer_mainMic_off (tested.trans ?_) ofMic
        exact Decidable.not_not.mp other

end Routed

section Runs

variable (R : ResamplerLib ρ) {hardware : Settings} {acts : List Act} {w : World ρ}

/-- After any sequence of calls the mixer follows the masks and the orientation. -/
theorem routed_of_run (ran : run (step R) (.initial hardware) acts = some w) :
    w.adev.ar.mixer = routedMixer (hardware.override initialCtls) w.adev.outDevice w.adev.inDevice
      w.adev.orientation :=
  routed_of_reachable R hardware (reachable_of_run R () .refl ran) rfl

/--
The microphones are routed, precisely when the headset's is not among them.

The run may be any sequence of calls, and it ends with some masks and some orientation.
-/
theorem micsRouted_iff (ran : run (step R) (.initial hardware) acts = some w) :
    MicsRouted hardware w.adev ↔ ¬ AnalogMic.wiredHeadset.Selected w.adev.inDevice :=
  micsRouted_of_routed (routed_of_run R ran) (inDevice_clear R ran)

/-- The main microphone in landscape, with the speaker on. -/
theorem micsRouted_iff_landscape : ∃ w : World (Nat × Nat),
    run (step .nearest) (.initial fun _ => none)
      [.adevSetParameters ⟨0, "landscape"⟩ ⟨-1, ""⟩] = some w ∧
    (MicsRouted (fun _ => none) w.adev ↔ ¬ AnalogMic.wiredHeadset.Selected w.adev.inDevice) := by
  -- The run ends, whatever the condition says.
  obtain ⟨w, ran⟩ : ∃ w : World (Nat × Nat), run (step .nearest) (.initial fun _ => none)
      [.adevSetParameters ⟨0, "landscape"⟩ ⟨-1, ""⟩] = some w := ⟨_, rfl⟩
  exact ⟨w, ran, micsRouted_iff .nearest ran⟩

/-- Capture is routed to the headset, whose microphone stays off. -/
theorem not_micsRouted_headset : ∃ w : World (Nat × Nat),
    run (step .nearest) (.initial fun _ => none)
      [.openInputStream 0 true ⟨44100, audioChannelInMono⟩ false,
        .inSetParameters 0 ⟨0, audioDeviceInWiredHeadset⟩] = some w ∧
    AnalogMic.wiredHeadset.Selected w.adev.inDevice ∧ ¬ MicsRouted (fun _ => none) w.adev := by
  -- The device is selected, which is all that the condition asks.
  obtain ⟨w, ran, mask⟩ : ∃ w : World (Nat × Nat), run (step .nearest) (.initial fun _ => none)
      [.openInputStream 0 true ⟨44100, audioChannelInMono⟩ false,
        .inSetParameters 0 ⟨0, audioDeviceInWiredHeadset⟩] = some w ∧
      w.adev.inDevice = 0x10 := ⟨_, rfl, rfl⟩
  have selected : AnalogMic.wiredHeadset.Selected w.adev.inDevice := by
    rw [mask]
    decide
  refine ⟨w, ran, selected, fun routed => ?_⟩
  exact (micsRouted_of_routed (routed_of_run _ ran) (inDevice_clear _ ran)).mp routed selected

end Runs

end Grouper.Audio
